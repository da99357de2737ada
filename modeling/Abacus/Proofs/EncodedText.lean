/-
Module: Abacus.Proofs.EncodedText
Purpose: Reading the bytes of a text gives the text. Each character is written in one to four
  bytes: the first one tells how many there are and bounds the second, every later one brings six
  bits, and the last one completes the character. So a text that was written is never refused.
Main exports: toList_toUTF8, Completes, exists_completes, decode_toUTF8
-/
import Abacus.Text.Utf8

namespace Abacus.Text.Utf8

/-! ### The bytes of a text -/

theorem toList_loop (bytes : ByteArray) (place : Nat) (read : List UInt8) :
    ByteArray.toList.loop bytes place read = read.reverse ++ bytes.data.toList.drop place := by
  fun_induction ByteArray.toList.loop bytes place read with
  | case1 place read h ih =>
      have hplace : place < bytes.data.size := h
      have hget : bytes.data.toList.drop place =
          bytes.get! place :: bytes.data.toList.drop (place + 1) := by
        rw [List.drop_eq_getElem_cons (by simpa using hplace), ByteArray.get!,
          getElem!_pos bytes.data place hplace, Array.getElem_toList]
      rw [ih, hget, List.reverse_cons, List.append_assoc]
      rfl
  | case2 place read h =>
      have hlen : bytes.data.toList.length ≤ place := by
        simpa using h
      rw [List.drop_eq_nil_of_le hlen, List.append_nil]

/-- The bytes of a text are those of its characters. -/
theorem toList_toUTF8 (text : String) :
    text.toUTF8.toList = text.toList.flatMap String.utf8EncodeChar := by
  have hbytes : text.toUTF8 = (text.toList.flatMap String.utf8EncodeChar).toByteArray :=
    String.utf8Encode_toList.symm
  rw [hbytes, ByteArray.toList, toList_loop, List.toList_data_toByteArray]
  rfl

/-! ### The bytes of a character -/

/-- The value of a byte that is not the first one of its character. -/
theorem toNat_ofNat_later (n : Nat) : (UInt8.ofNat (n % 64 + 128)).toNat = n % 64 + 128 := by
  rw [UInt8.toNat_ofNat']
  omega

/-- The first of two bytes. -/
theorem start_two {n : Nat} (hlow : 0x7F < n) (hhigh : n ≤ 0x7FF) :
    start (UInt8.ofNat (n / 64 % 32 + 192)) =
      .pending ⟨UInt8.ofNat (n / 64 % 32 + 192), 1, n / 64, 0, (0x80, 0xBF)⟩ := by
  have hbyte : (UInt8.ofNat (n / 64 % 32 + 192)).toNat = n / 64 % 32 + 192 := by
    rw [UInt8.toNat_ofNat']
    omega
  have hbits : n / 64 % 32 + 192 - 0xC0 = n / 64 := by omega
  rw [start, hbyte, if_neg (by omega), if_neg (by omega), if_pos (by omega), hbits]

/-- The first of three bytes; it bounds the second one. -/
theorem start_three {n : Nat} (hlow : 0x7FF < n) (hhigh : n ≤ 0xFFFF)
    (hchar : n < 0xD800 ∨ 0xDFFF < n) :
    ∃ bounds : Nat × Nat, bounds.1 ≤ n / 64 % 64 + 128 ∧ n / 64 % 64 + 128 ≤ bounds.2 ∧
      start (UInt8.ofNat (n / 4096 % 16 + 224)) =
        .pending ⟨UInt8.ofNat (n / 4096 % 16 + 224), 1, n / 4096, 1, bounds⟩ := by
  have hbyte : (UInt8.ofNat (n / 4096 % 16 + 224)).toNat = n / 4096 % 16 + 224 := by
    rw [UInt8.toNat_ofNat']
    omega
  have hbits : n / 4096 % 16 + 224 - 0xE0 = n / 4096 := by omega
  rw [start, hbyte, if_neg (by omega), if_neg (by omega), if_neg (by omega)]
  by_cases hfirst : n < 0x1000
  · have hzero : n / 4096 = 0 := by omega
    rw [if_pos (by omega), hzero]
    exact ⟨(0xA0, 0xBF), by omega, by omega, rfl⟩
  rw [if_neg (by omega)]
  by_cases hsurrogate : n / 4096 = 13
  · rw [if_pos (by omega), hbits]
    exact ⟨(0x80, 0x9F), by omega, by omega, rfl⟩
  · rw [if_neg (by omega), if_pos (by omega), hbits]
    exact ⟨(0x80, 0xBF), by omega, by omega, rfl⟩

/-- The first of four bytes; it bounds the second one. -/
theorem start_four {n : Nat} (hlow : 0xFFFF < n) (hhigh : n < 0x110000) :
    ∃ bounds : Nat × Nat, bounds.1 ≤ n / 4096 % 64 + 128 ∧ n / 4096 % 64 + 128 ≤ bounds.2 ∧
      start (UInt8.ofNat (n / 262144 % 8 + 240)) =
        .pending ⟨UInt8.ofNat (n / 262144 % 8 + 240), 1, n / 262144, 2, bounds⟩ := by
  have hbyte : (UInt8.ofNat (n / 262144 % 8 + 240)).toNat = n / 262144 % 8 + 240 := by
    rw [UInt8.toNat_ofNat']
    omega
  have hbits : n / 262144 % 8 + 240 - 0xF0 = n / 262144 := by omega
  rw [start, hbyte, if_neg (by omega), if_neg (by omega), if_neg (by omega),
    if_neg (by omega), if_neg (by omega), if_neg (by omega)]
  by_cases hfirst : n < 0x40000
  · have hzero : n / 262144 = 0 := by omega
    rw [if_pos (by omega), hzero]
    exact ⟨(0x90, 0xBF), by omega, by omega, rfl⟩
  rw [if_neg (by omega)]
  by_cases hlast : n < 0x100000
  · rw [if_pos (by omega), hbits]
    exact ⟨(0x80, 0xBF), by omega, by omega, rfl⟩
  · rw [if_neg (by omega), if_pos (by omega), hbits]
    exact ⟨(0x80, 0x8F), by omega, by omega, rfl⟩

/-! ### The bytes of a character -/

/-- The bytes that are left bring what has been read to a character. -/
inductive Completes : Progress → List UInt8 → Char → Prop where
  | done (c : Char) : Completes (.character c) [] c
  | byte {p : Pending} {byte : UInt8} {rest : List UInt8} {c : Char}
      (h : Completes (p.push byte) rest c) : Completes (.pending p) (byte :: rest) c

section

variable {c : Char} {lead : UInt8} {length bits n : Nat} {bounds : Nat × Nat}

/-- The last byte of a character completes it. -/
theorem completes_last (hlow : bounds.1 ≤ n % 64 + 128) (hhigh : n % 64 + 128 ≤ bounds.2)
    (hbits : bits * 64 + n % 64 = c.toNat) :
    Completes (.pending ⟨lead, length, bits, 0, bounds⟩) [UInt8.ofNat (n % 64 + 128)] c := by
  have hbyte := toNat_ofNat_later n
  have hpush : Pending.push ⟨lead, length, bits, 0, bounds⟩ (UInt8.ofNat (n % 64 + 128)) =
      .character c := by
    simp only [Pending.push, hbyte, hlow, hhigh, and_self, if_true, Nat.add_sub_cancel, hbits,
      Char.ofNat_toNat]
  refine .byte ?_
  rw [hpush]
  exact .done c

/-- A byte before the last one brings six bits and leaves one byte less to come. -/
theorem completes_next {more : Nat} {rest : List UInt8} (hlow : bounds.1 ≤ n % 64 + 128)
    (hhigh : n % 64 + 128 ≤ bounds.2)
    (hrest :
      Completes (.pending ⟨lead, length + 1, bits * 64 + n % 64, more, (0x80, 0xBF)⟩) rest c) :
    Completes (.pending ⟨lead, length, bits, more + 1, bounds⟩) (UInt8.ofNat (n % 64 + 128) :: rest)
      c := by
  have hbyte := toNat_ofNat_later n
  have hpush : Pending.push ⟨lead, length, bits, more + 1, bounds⟩ (UInt8.ofNat (n % 64 + 128)) =
      .pending ⟨lead, length + 1, bits * 64 + n % 64, more, (0x80, 0xBF)⟩ := by
    simp only [Pending.push, hbyte, hlow, hhigh, and_self, if_true, Nat.add_sub_cancel]
  refine .byte ?_
  rw [hpush]
  exact hrest

end

/-- The bytes of a character bring the machine to that character. -/
theorem exists_completes (c : Char) :
    ∃ (first : UInt8) (rest : List UInt8),
      String.utf8EncodeChar c = first :: rest ∧ Completes (start first) rest c := by
  have hvalid : c.toNat < 0xD800 ∨ 0xDFFF < c.toNat ∧ c.toNat < 0x110000 := c.valid
  have hvalue : c.val.toNat = c.toNat := rfl
  rw [String.utf8EncodeChar]
  simp only [hvalue]
  split
  · next hone =>
      refine ⟨_, _, rfl, ?_⟩
      rw [start, UInt8.toNat_ofNat', Nat.mod_eq_of_lt (by omega), if_pos (by omega),
        Char.ofNat_toNat]
      exact .done c
  split
  · next hone htwo =>
      refine ⟨_, _, rfl, ?_⟩
      rw [start_two (by omega) htwo]
      exact completes_last (by omega) (by omega) (by omega)
  split
  · next hone htwo hthree =>
      obtain ⟨bounds, hlow, hhigh, hstart⟩ :=
        start_three (n := c.toNat) (by omega) hthree (by omega)
      refine ⟨_, _, rfl, ?_⟩
      rw [hstart]
      exact completes_next hlow hhigh (completes_last (by omega) (by omega) (by omega))
  · next hone htwo hthree =>
      obtain ⟨bounds, hlow, hhigh, hstart⟩ := start_four (n := c.toNat) (by omega) (by omega)
      refine ⟨_, _, rfl, ?_⟩
      rw [hstart]
      exact completes_next hlow hhigh
        (completes_next (by omega) (by omega) (completes_last (by omega) (by omega) (by omega)))

/-! ### Texts -/

/-- Bytes that bring a begun character to its end are read as that character. -/
theorem decodeFrom_completes {p : Pending} {bytes : List UInt8} {c : Char}
    (h : Completes (.pending p) bytes c) (place : Nat) (rest : List UInt8) :
    ∃ behind : Nat, decodeFrom (some p) place (bytes ++ rest) =
      (c :: ·) <$> decodeFrom none behind rest := by
  induction bytes generalizing p place with
  | nil => cases h
  | cons byte bytes ih =>
      cases h with
      | byte hpush =>
      rw [List.cons_append, decodeFrom]
      generalize p.push byte = progress at hpush
      cases progress with
      | character d =>
          cases hpush
          exact ⟨place + 1, rfl⟩
      | pending q => exact ih hpush (place + 1)
      | refused => cases hpush

/-- The bytes of a character are read as that character. -/
theorem decodeFrom_character (c : Char) (place : Nat) (rest : List UInt8) :
    ∃ behind : Nat, decodeFrom none place (String.utf8EncodeChar c ++ rest) =
      (c :: ·) <$> decodeFrom none behind rest := by
  obtain ⟨first, bytes, hbytes, hcompletes⟩ := exists_completes c
  rw [hbytes, List.cons_append, decodeFrom]
  generalize start first = progress at hcompletes
  cases progress with
  | character d =>
      cases hcompletes
      exact ⟨place + 1, rfl⟩
  | pending p => exact decodeFrom_completes hcompletes (place + 1) rest
  | refused => cases hcompletes

/-- Reading the bytes of a text gives the text. -/
theorem decode_toUTF8 (text : String) : decode text.toUTF8.toList = .ok text.toList := by
  rw [toList_toUTF8, decode]
  generalize text.toList = chars
  generalize 0 = place
  induction chars generalizing place with
  | nil => rfl
  | cons c chars ih =>
      obtain ⟨behind, hfirst⟩ := decodeFrom_character c place (chars.flatMap String.utf8EncodeChar)
      rw [List.flatMap_cons, hfirst, ih]
      rfl

end Abacus.Text.Utf8
