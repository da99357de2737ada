/-
Module: Abacus.Proofs.WrittenNumbers
Purpose: Whole numbers on a command line. A number that can be written is read as that number, a
  number that is read can be written, and any number is a plain argument, whatever its sign, as long
  as no option is named by a digit.
Main exports: readWhole_toString, isWritable_of_readWhole, KeepsNumbers, classify_number
-/
import Abacus.Options.Parse
import Abacus.Proofs.JsonWriting

namespace Abacus

/-! ### Numbers are read as they are written -/

namespace Text

theorem digitValue?_of_isDigit {c : Char} (h : isDigit c = true) :
    digitValue? c = some (c.toNat - '0'.toNat) := by
  obtain ⟨hlow, hhigh⟩ := code_of_isDigit h
  have hzeros : zeros = 0x30 :: zeros.tail := rfl
  rw [digitValue?, hzeros, List.find?_cons_of_pos]
  · rfl
  · simp [hlow, Nat.lt_succ_of_le hhigh]

theorem readDigitsFrom_of_digits {digits : List Char} (h : ∀ c ∈ digits, isDigit c = true)
    (value : Nat) : readDigitsFrom value digits = some (Nat.ofDigitChars 10 digits value) := by
  induction digits generalizing value with
  | nil => rfl
  | cons c rest ih =>
      obtain ⟨hc, hrest⟩ := List.forall_mem_cons.mp h
      rw [Nat.ofDigitChars_cons, ← ih hrest, readDigitsFrom, digitValue?_of_isDigit hc,
        Nat.mul_comm]
      · rfl
      · rintro d more rfl _
        cases hc

theorem readDigits?_toDigits (n : Nat) : readDigits? (Nat.toDigits 10 n) = some n := by
  have hdigits : ∀ c ∈ Nat.toDigits 10 n, isDigit c = true := fun c hc =>
    Json.isDigit_of_mem_toDigits hc
  have hvalue : Nat.ofDigitChars 10 (Nat.toDigits 10 n) 0 = n := Nat.ofDigitChars_ten_toDigits
  cases hwritten : Nat.toDigits 10 n with
  | nil => exact absurd hwritten Nat.toDigits_ne_nil
  | cons c rest =>
      rw [hwritten] at hdigits hvalue
      obtain ⟨hc, hrest⟩ := List.forall_mem_cons.mp hdigits
      rw [Nat.ofDigitChars_cons] at hvalue
      rw [readDigits?, digitValue?_of_isDigit hc]
      change readDigitsFrom (c.toNat - '0'.toNat) rest = some n
      rw [readDigitsFrom_of_digits hrest, ← hvalue, Nat.mul_zero, Nat.zero_add]

theorem not_isPadding_of_isDigit {c : Char} (h : isDigit c = true) : isPadding c = false := by
  obtain ⟨hlow, hhigh⟩ := code_of_isDigit h
  have hspace : c ≠ ' ' := by
    rintro rfl
    cases h
  have hcontrol : ¬c ≤ '\r' := fun hle => by
    have hle : c.toNat ≤ 0xd := hle
    omega
  rw [isPadding, if_pos (by omega)]
  simp [hspace, hcontrol]

/-- A text of digits and signs has no padding. -/
theorem trimPadding_of_all {text : List Char} (h : ∀ c ∈ text, isPadding c = false) :
    trimPadding text = text := by
  have hkept : ∀ {other : List Char}, (∀ c ∈ other, isPadding c = false) →
      other.dropWhile isPadding = other := by
    intro other hother
    cases other with
    | nil => rfl
    | cons c rest => exact List.dropWhile_cons_of_neg (by simp [hother c List.mem_cons_self])
  rw [trimPadding, hkept h, hkept fun c hc => h c (List.mem_reverse.mp hc), List.reverse_reverse]

theorem isNumeral_of_isDigit {c : Char} (h : isDigit c = true) : isNumeral c = true := by
  rw [isNumeral, isAnyDigit, digitValue?_of_isDigit h]
  exact Bool.or_true _

/-- The digits of a number that can be written are read as the number. -/
theorem readUnsigned_toDigits {n : Nat} (h : IsWritable n) :
    readUnsigned (Nat.toDigits 10 n) = .ok n := by
  have hdigits : ∀ c ∈ Nat.toDigits 10 n, isDigit c = true := fun c hc =>
    Json.isDigit_of_mem_toDigits hc
  have hnumeral : ∀ c ∈ Nat.toDigits 10 n, isNumeral c = true := fun c hc =>
    isNumeral_of_isDigit (hdigits c hc)
  have hall : (Nat.toDigits 10 n ++ []).takeWhile isNumeral = Nat.toDigits 10 n ++ [] :=
    List.takeWhile_append_of_pos hnumeral
  have hnone : (Nat.toDigits 10 n ++ []).dropWhile isNumeral = [] :=
    List.dropWhile_append_of_pos hnumeral
  rw [List.append_nil] at hall hnone
  have hcount : ¬ maxDigits < (Nat.toDigits 10 n).countP isAnyDigit := by
    have hlt : n < 10 ^ maxDigits := Json.isWritable_iff_lt_pow.mp h
    have hlength := (Nat.length_toDigits_le_iff (by decide) (by decide)).mpr hlt
    exact Nat.not_lt.mpr (Nat.le_trans List.countP_le_length hlength)
  simp only [readUnsigned, hall, hnone, readDigits?_toDigits, if_neg hcount, if_true]

/-- A number that can be written is read as it is written. -/
theorem readWhole_toString {n : Int} (h : IsWritable n) : readWhole (toString n) = .ok n := by
  have hdigits : ∀ c ∈ Nat.toDigits 10 n.natAbs, isDigit c = true := fun c hc =>
    Json.isDigit_of_mem_toDigits hc
  have hpadding : ∀ c ∈ (toString n).toList, isPadding c = false := by
    intro c hc
    rw [Json.toList_toString_int, List.mem_append] at hc
    rcases hc with hsign | hdigit
    · split at hsign
      · cases List.mem_singleton.mp hsign
        decide
      · cases hsign
    · exact not_isPadding_of_isDigit (hdigits c hdigit)
  have hread := readUnsigned_toDigits (n := n.natAbs) (h.of_natAbs_le (Nat.le_refl _))
  rw [readWhole, trimPadding_of_all hpadding, Json.toList_toString_int]
  by_cases hneg : n < 0
  · have hvalue : -(n.natAbs : Int) = n := by omega
    rw [if_pos hneg]
    simp only [List.singleton_append, hread]
    exact congrArg Except.ok hvalue
  · have hvalue : (n.natAbs : Int) = n := by omega
    rw [if_neg hneg, List.nil_append]
    split
    · next hminus => cases hdigits '-' (hminus ▸ List.mem_cons_self)
    · next hplus => cases hdigits '+' (hplus ▸ List.mem_cons_self)
    · rw [hread]
      exact congrArg Except.ok hvalue

theorem readWhole?_toString {n : Int} (h : IsWritable n) : readWhole? (toString n) = some n := by
  rw [readWhole?, readWhole_toString h]
  rfl

/-! ### Numbers that are read can be written -/

theorem digitValue?_lt {c : Char} {d : Nat} (h : digitValue? c = some d) : d < 10 := by
  obtain ⟨first, hfirst, rfl⟩ := Option.map_eq_some_iff.mp h
  have hrow := List.find?_some hfirst
  simp only [Bool.and_eq_true, decide_eq_true_eq] at hrow
  omega

/-- One digit more makes a number at most ten times as large. -/
theorem next_digit_le {c : Char} {d : Nat} (h : digitValue? c = some d) (value : Nat)
    (rest : List Char) : (value * 10 + d + 1) * 10 ^ rest.countP isAnyDigit ≤
      (value + 1) * 10 ^ (c :: rest).countP isAnyDigit := by
  have hdigit : isAnyDigit c = true := by rw [isAnyDigit, h, Option.isSome_some]
  have hlt := digitValue?_lt h
  rw [List.countP_cons_of_pos hdigit, Nat.pow_succ', ← Nat.mul_assoc]
  exact Nat.mul_le_mul_right _ (by omega)

theorem lt_of_readDigitsFrom {value n : Nat} {text : List Char}
    (h : readDigitsFrom value text = some n) :
    n < (value + 1) * 10 ^ text.countP isAnyDigit := by
  fun_induction readDigitsFrom value text with
  | case1 value =>
      cases h
      simp
  | case2 value c rest ih =>
      obtain ⟨d, hd, hrest⟩ := Option.bind_eq_some_iff.mp h
      have hunderscore : ¬ isAnyDigit '_' = true := by decide
      rw [List.countP_cons_of_neg hunderscore]
      exact Nat.lt_of_lt_of_le (ih d hrest) (next_digit_le hd value rest)
  | case3 value c rest _ ih =>
      obtain ⟨d, hd, hrest⟩ := Option.bind_eq_some_iff.mp h
      exact Nat.lt_of_lt_of_le (ih d hrest) (next_digit_le hd value rest)

theorem lt_of_readDigits? {text : List Char} {n : Nat} (h : readDigits? text = some n) :
    n < 10 ^ text.countP isAnyDigit := by
  cases text with
  | nil => cases h
  | cons c rest =>
      obtain ⟨d, hd, hrest⟩ := Option.bind_eq_some_iff.mp h
      have hle := next_digit_le hd 0 rest
      rw [Nat.zero_mul, Nat.zero_add, Nat.zero_add, Nat.one_mul] at hle
      exact Nat.lt_of_lt_of_le (lt_of_readDigitsFrom hrest) hle

theorem isWritable_of_readUnsigned {text : List Char} {n : Nat} (h : readUnsigned text = .ok n) :
    IsWritable n := by
  unfold readUnsigned at h
  simp only at h
  split at h
  · cases h
  · next m hread =>
      split at h
      · cases h
      · next hcount =>
          split at h
          · cases h
            exact Json.isWritable_iff_lt_pow.mpr (Nat.lt_of_lt_of_le (lt_of_readDigits? hread)
              (Nat.pow_le_pow_right (by decide) (Nat.not_lt.mp hcount)))
          · cases h

theorem isWritable_of_signed {sign : Nat → Int} (hsign : ∀ m : Nat, (sign m).natAbs = m)
    {digits : List Char} {n : Int} (h : sign <$> readUnsigned digits = .ok n) : IsWritable n := by
  cases hread : readUnsigned digits with
  | error fault =>
      rw [hread] at h
      cases h
  | ok m =>
      rw [hread] at h
      cases h
      exact (isWritable_of_readUnsigned hread).of_natAbs_le (Nat.le_of_eq (hsign m))

/-- A number that is read from a text can be written as one. -/
theorem isWritable_of_readWhole {text : String} {n : Int} (h : readWhole text = .ok n) :
    IsWritable n := by
  unfold readWhole at h
  split at h
  · exact isWritable_of_signed (fun m => Int.natAbs_neg m) h
  · exact isWritable_of_signed (fun m => rfl) h
  · exact isWritable_of_signed (fun m => rfl) h

theorem isWritable_of_readWhole? {text : String} {n : Int} (h : readWhole? text = some n) :
    IsWritable n := by
  unfold readWhole? at h
  cases hread : readWhole text with
  | error fault =>
      rw [hread] at h
      cases h
  | ok m =>
      rw [hread] at h
      cases h
      exact isWritable_of_readWhole hread

end Text

/-! ### Numbers are plain arguments -/

namespace Options

variable {κ : Type}

/-- No option is named by a digit. -/
def KeepsNumbers (grammar : Grammar κ) : Prop :=
  ∀ entry ∈ grammar.names, ∀ c : Char, entry.1.toList[1]? = some c → Text.isDigit c = false

section

variable {grammar : Grammar κ} (h : KeepsNumbers grammar) {c : Char} {digits : List Char}
  (hc : Text.isDigit c = true) (hdigits : ∀ d ∈ digits, Text.isDigit d = true)
include h hc

/-- No name of an option starts like a negative number. -/
theorem KeepsNumbers.name_ne {entry : String × Opt κ} (hentry : entry ∈ grammar.names)
    (rest : List Char) : entry.1.toList ≠ '-' :: c :: rest := by
  intro hname
  have hdigit := h entry hentry c (by rw [hname]; rfl)
  rw [hc] at hdigit
  cases hdigit

theorem KeepsNumbers.candidates_eq_nil : candidates grammar ('-' :: c :: digits) = [] := by
  unfold candidates
  split
  · next hhyphen =>
      cases hhyphen
      cases hc
  · refine List.filterMap_eq_nil_iff.mpr fun entry hentry => ?_
    have hshort : entry.1.toList ≠ List.take 2 ('-' :: c :: digits) := h.name_ne hc hentry []
    have hlong : ('-' :: c :: digits).isPrefixOf entry.1.toList = false := by
      rw [Bool.eq_false_iff, ne_eq, List.isPrefixOf_iff_prefix]
      rintro ⟨rest, hrest⟩
      exact h.name_ne hc hentry (digits ++ rest) hrest.symm
    simp only [hshort, hlong, if_false, Bool.false_eq_true]

include hdigits

theorem KeepsNumbers.inFull?_eq_none : inFull? grammar ('-' :: c :: digits) = none := by
  have hfind : grammar.find? (String.ofList ('-' :: c :: digits)) = none := by
    rw [Grammar.find?, List.lookup_eq_none_iff]
    intro entry hentry
    rw [bne_iff_ne]
    rintro hname
    exact h.name_ne hc hentry digits (by rw [← hname, String.toList_ofList])
  have hequals : ∀ d ∈ '-' :: c :: digits, decide (d ≠ '=') = true := by
    have hnot : ∀ d : Char, Text.isDigit d = true → decide (d ≠ '=') = true := by
      intro d hd
      rw [decide_eq_true_iff]
      rintro rfl
      cases hd
    rw [List.forall_mem_cons, List.forall_mem_cons]
    exact ⟨rfl, hnot c hc, fun d hd => hnot d (hdigits d hd)⟩
  have hvalue : attachedValue? ('-' :: c :: digits) = none := by
    rw [attachedValue?, List.dropWhile_eq_nil_iff.mpr hequals]
  rw [inFull?, hfind, hvalue]
  rfl

end

theorem looksNegative_of_digits {c : Char} {digits : List Char}
    (h : ∀ d ∈ c :: digits, Text.isDigit d = true) : looksNegative ('-' :: c :: digits) = true := by
  have hany : ∀ d ∈ c :: digits, Text.isAnyDigit d = true := by
    intro d hd
    rw [Text.isAnyDigit, Text.digitValue?_of_isDigit (h d hd)]
    rfl
  have hkept : dropFinalLineFeed ('-' :: c :: digits) = '-' :: c :: digits := by
    rw [dropFinalLineFeed, if_neg]
    intro hlast
    rw [List.getLast?_cons_cons] at hlast
    cases h '\n' (List.mem_of_getLast? hlast)
  rw [looksNegative, hkept]
  simp only [List.dropWhile_eq_nil_iff.mpr hany]
  rfl

/-- A number as it is written is a plain argument. -/
theorem classify_number {grammar : Grammar κ} (h : KeepsNumbers grammar) (n : Int) :
    classify grammar (toString n).toList = .ok .argument := by
  have hdigits : ∀ c ∈ Nat.toDigits 10 n.natAbs, Text.isDigit c = true := fun c hc =>
    Json.isDigit_of_mem_toDigits hc
  rw [Json.toList_toString_int]
  cases hwritten : Nat.toDigits 10 n.natAbs with
  | nil => exact absurd hwritten Nat.toDigits_ne_nil
  | cons c rest =>
      rw [hwritten] at hdigits
      obtain ⟨hc, hrest⟩ := List.forall_mem_cons.mp hdigits
      split
      · rw [List.singleton_append, classify, h.inFull?_eq_none hc hrest,
          h.candidates_eq_nil hc, looksNegative_of_digits hdigits]
        · rfl
        · rintro ⟨⟩
      · rw [List.nil_append]
        unfold classify
        split
        · rfl
        · rfl
        · next hhyphen =>
            cases hhyphen
            cases hc
        · rfl

end Options

end Abacus
