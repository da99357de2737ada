/-
Module: Abacus.Proofs.JsonScalars
Purpose: The ways to write strings, numbers and words as JSON, and that each of them is read. A
  character stands for itself or is escaped by a letter, by its code unit or by a pair of units; a
  reader of strings goes on behind it. A number ends where no character can go on with it, so what
  closes it does not change how it is read.
Main exports: CharText, StringText, StringText.string, Closed, ScalarText, ScalarText.scalar
-/
import Mathlib.Data.List.TakeDrop
import Abacus.Json.Read

namespace Abacus.Json

/-! ### Texts of strings -/

/-- The ways to write a character in a string: as it is, by a letter behind a backslash, or by the
    number of its code unit, or by those of its two code units. -/
inductive CharText : Char → List Char → Prop where
  | plain {c : Char} (hcontrol : ¬ c.toNat < 0x20) (hquote : c ≠ '"') (hbackslash : c ≠ '\\') :
      CharText c [c]
  | letter {c letter : Char} (h : escaped? letter = some c) : CharText c ['\\', letter]
  | unit {c a₁ a₂ a₃ a₄ : Char} (h : fourDigits? [a₁, a₂, a₃, a₄] = some (c.toNat, [])) :
      CharText c ['\\', 'u', a₁, a₂, a₃, a₄]
  | pair {c a₁ a₂ a₃ a₄ b₁ b₂ b₃ b₄ : Char} {high low : Nat}
      (hhigh : fourDigits? [a₁, a₂, a₃, a₄] = some (high, [])) (hfirst : isHighUnit high = true)
      (hlow : fourDigits? [b₁, b₂, b₃, b₄] = some (low, [])) (hsecond : isLowUnit low = true)
      (hjoin : joinUnits high low = c) :
      CharText c ['\\', 'u', a₁, a₂, a₃, a₄, '\\', 'u', b₁, b₂, b₃, b₄]

/-- The ways to write the characters of a string, without its quotation marks. -/
inductive CharsText : List Char → List Char → Prop where
  | nil : CharsText [] []
  | cons {c : Char} {chars text rest : List Char} (first : CharText c text)
      (later : CharsText chars rest) : CharsText (c :: chars) (text ++ rest)

/-- The ways to write a string. -/
inductive StringText : String → List Char → Prop where
  | quoted {chars text : List Char} (h : CharsText chars text) :
      StringText (String.ofList chars) ('"' :: text ++ ['"'])

theorem fourDigits?_append {a₁ a₂ a₃ a₄ : Char} {unit : Nat}
    (h : fourDigits? [a₁, a₂, a₃, a₄] = some (unit, [])) (rest : List Char) :
    fourDigits? (a₁ :: a₂ :: a₃ :: a₄ :: rest) = some (unit, rest) := by
  simp only [fourDigits?, Option.bind_eq_bind, Option.bind_eq_some_iff] at h ⊢
  obtain ⟨d₁, h₁, d₂, h₂, d₃, h₃, d₄, h₄, hunit⟩ := h
  refine ⟨d₁, h₁, d₂, h₂, d₃, h₃, d₄, h₄, ?_⟩
  cases hunit
  rfl

/-- No character is one half of a pair. -/
theorem isHighUnit_toNat (c : Char) : isHighUnit c.toNat = false := by
  have hvalid : c.toNat < 0xD800 ∨ 0xDFFF < c.toNat ∧ c.toNat < 0x110000 := c.valid
  simp only [isHighUnit, Bool.and_eq_false_iff, decide_eq_false_iff_not]
  omega

theorem charOfUnit_toNat (c : Char) : charOfUnit c.toNat = c := by
  have hvalid : c.toNat < 0xD800 ∨ 0xDFFF < c.toNat ∧ c.toNat < 0x110000 := c.valid
  rw [charOfUnit, if_neg (by omega), Char.ofNat_toNat]

theorem unicodeEscape_unit {c a₁ a₂ a₃ a₄ : Char}
    (h : fourDigits? [a₁, a₂, a₃, a₄] = some (c.toNat, [])) {rest : List Char} (hrest : rest ≠ []) :
    unicodeEscape (a₁ :: a₂ :: a₃ :: a₄ :: rest) = .ok (c, rest) := by
  obtain ⟨next, rest, rfl⟩ := List.exists_cons_of_ne_nil hrest
  rw [unicodeEscape, fourDigits?_append h]
  simp only [isHighUnit_toNat, charOfUnit_toNat]

theorem unicodeEscape_pair {a₁ a₂ a₃ a₄ b₁ b₂ b₃ b₄ : Char} {high low : Nat}
    (hhigh : fourDigits? [a₁, a₂, a₃, a₄] = some (high, [])) (hfirst : isHighUnit high = true)
    (hlow : fourDigits? [b₁, b₂, b₃, b₄] = some (low, [])) (hsecond : isLowUnit low = true)
    {rest : List Char} (hrest : rest ≠ []) :
    unicodeEscape (a₁ :: a₂ :: a₃ :: a₄ :: '\\' :: 'u' :: b₁ :: b₂ :: b₃ :: b₄ :: rest) =
      .ok (joinUnits high low, rest) := by
  have hlong : ¬ (b₁ :: b₂ :: b₃ :: b₄ :: rest).length ≤ 4 := by
    have hpos := List.length_pos_iff.mpr hrest
    simp only [List.length_cons]
    omega
  rw [unicodeEscape, fourDigits?_append hhigh]
  simp only [hfirst, if_neg hlong, fourDigits?_append hlow, hsecond, if_true]

/-- A character is read in each way in which it can be written, as long as more text follows. -/
theorem CharText.stringFrom {c : Char} {text : List Char} (h : CharText c text)
    (opened budget : Nat) {rest : List Char} (hrest : rest ≠ []) :
    stringFrom opened (budget + 1) (text ++ rest) = (do
      let (chars, behind) ← stringFrom opened budget rest
      .ok (c :: chars, behind)) := by
  cases h with
  | plain hcontrol hquote hbackslash =>
      rw [List.singleton_append, Json.stringFrom]
      · rw [if_neg hcontrol]
      all_goals simp_all
  | letter h =>
      simp only [List.cons_append, List.nil_append]
      rw [Json.stringFrom]
      · simp only [h]
      · rintro rfl
        cases h
  | unit h =>
      simp only [List.cons_append, List.nil_append]
      rw [Json.stringFrom, unicodeEscape_unit h hrest]
      rfl
  | pair hhigh hfirst hlow hsecond hjoin =>
      subst hjoin
      simp only [List.cons_append, List.nil_append]
      rw [Json.stringFrom, unicodeEscape_pair hhigh hfirst hlow hsecond hrest]
      rfl

theorem CharsText.stringFrom {chars text : List Char} (h : CharsText chars text)
    (opened : Nat) {budget : Nat} (hbudget : chars.length < budget) (rest : List Char) :
    Json.stringFrom opened budget (text ++ '"' :: rest) = .ok (chars, rest) := by
  induction h generalizing budget with
  | nil =>
      obtain ⟨budget, rfl⟩ := Nat.exists_eq_add_of_lt hbudget
      rw [List.nil_append, Json.stringFrom]
  | @cons c chars text later first _ ih =>
      obtain _ | budget := budget
      · cases hbudget
      · have hmore : later ++ '"' :: rest ≠ [] := by simp
        rw [List.append_assoc, first.stringFrom opened budget hmore,
          ih (Nat.lt_of_succ_lt_succ hbudget)]
        rfl

theorem CharText.length_pos {c : Char} {text : List Char} (h : CharText c text) :
    0 < text.length := by
  cases h <;> exact Nat.succ_pos _

theorem CharsText.length_le {chars text : List Char} (h : CharsText chars text) :
    chars.length ≤ text.length := by
  induction h with
  | nil => exact Nat.le_refl _
  | cons first _ ih =>
      have hpos := first.length_pos
      rw [List.length_cons, List.length_append]
      omega

/-- A string is read in each way in which it can be written. -/
theorem StringText.string {s : String} {text : List Char} (h : StringText s text)
    (rest : List Char) :
    ∃ body : List Char, text = '"' :: body ∧ Json.string (body ++ rest) = .ok (s, rest) := by
  obtain ⟨hchars⟩ := h
  rename_i chars text
  refine ⟨text ++ ['"'], rfl, ?_⟩
  have hlength : chars.length < (text ++ '"' :: rest).length + 1 := by
    have hle := hchars.length_le
    rw [List.length_append]
    omega
  rw [List.append_assoc, List.singleton_append, Json.string, hchars.stringFrom _ hlength]
  rfl

/-! ### Texts of numbers and words -/

/-- Whether a number could go on with a character. -/
def continuesNumber (c : Char) : Bool :=
  Text.isDigit c || c = '.' || c = 'e' || c = 'E'

/-- No number goes on in a text. -/
def Closed (rest : List Char) : Prop :=
  ∀ c ∈ rest.head?, continuesNumber c = false

/-- The ways to write a number or a word: as a reader takes it for a number that ends there. Whole
    numbers have no more than the given digits. -/
inductive ScalarText (digits : Nat) : Value → List Char → Prop where
  | word {name : String} {v : Value} (h : (name, v) ∈ words) : ScalarText digits v name.toList
  | number {v : Value} {text : List Char} (h : number? text = some (v, []))
      (hshort : isShort digits v = true) : ScalarText digits v text

section

variable {rest : List Char} (hrest : Closed rest)

include hrest

theorem Closed.spanDigits_append (text : List Char) :
    spanDigits (text ++ rest) = ((spanDigits text).1, (spanDigits text).2 ++ rest) := by
  simp only [spanDigits, List.span_eq_takeWhile_dropWhile]
  induction text with
  | nil =>
      cases rest with
      | nil => rfl
      | cons c rest =>
          have hdigit : Text.isDigit c = false := by
            have hc := hrest c rfl
            simp only [continuesNumber, Bool.or_eq_false_iff] at hc
            exact hc.1.1.1
          simp [hdigit]
  | cons c text ih =>
      rw [Prod.mk.injEq] at ih
      cases hdigit : Text.isDigit c with
      | true => simp [hdigit, ih]
      | false => simp [hdigit]

theorem Closed.wholePart?_append {text digits behind : List Char}
    (h : wholePart? text = some (digits, behind)) :
    wholePart? (text ++ rest) = some (digits, behind ++ rest) := by
  unfold wholePart? at h
  split at h
  · cases h
    rfl
  · next c text hzero =>
      split at h
      · next hdigit =>
          rw [List.cons_append, wholePart?, if_pos hdigit, ← List.cons_append,
            hrest.spanDigits_append, Option.some.inj h]
          exact hzero
      · cases h
  · cases h

theorem Closed.fractionPart_append (text : List Char) :
    fractionPart (text ++ rest) = ((fractionPart text).1, (fractionPart text).2 ++ rest) := by
  cases text with
  | nil =>
      cases rest with
      | nil => rfl
      | cons c rest =>
          have hpoint : c ≠ '.' := by
            rintro rfl
            cases hrest '.' rfl
          simp [fractionPart, hpoint]
  | cons c text =>
      by_cases hpoint : c = '.'
      · subst hpoint
        have hspan := hrest.spanDigits_append text
        simp only [List.cons_append, fractionPart]
        rw [hspan]
        cases spanDigits text with
        | mk digits behind => cases digits <;> rfl
      · simp [fractionPart, hpoint]

/-- An exponent that ends with its text. -/
theorem Closed.exponentPart?_append {text : List Char} {exponent : Int}
    (h : exponentPart? text = some (exponent, [])) :
    exponentPart? (text ++ rest) = some (exponent, rest) := by
  cases text with
  | nil => cases h
  | cons c text =>
      rw [List.cons_append]
      unfold exponentPart? at h ⊢
      simp only at h ⊢
      split at h
      · next hletter =>
          rw [if_pos hletter]
          have hsign : exponentSign (text ++ rest) =
              ((exponentSign text).1, (exponentSign text).2 ++ rest) := by
            cases text with
            | nil => cases h
            | cons sign text =>
              simp only [List.cons_append]
              unfold exponentSign
              split <;> simp_all
          rw [hsign]
          simp only
          rw [hrest.spanDigits_append]
          cases hspan : spanDigits (exponentSign text).2 with
          | mk digits behind =>
            rw [hspan] at h
            cases digits with
            | nil => cases h
            | cons digit digits =>
              simp at h ⊢
              simp [h]
      · cases h

theorem exponentPart?_closed : exponentPart? rest = none := by
  cases rest with
  | nil => rfl
  | cons c rest =>
    have hc := hrest c rfl
    simp only [continuesNumber, Bool.or_eq_false_iff, decide_eq_false_iff_not] at hc
    rw [exponentPart?, if_neg]
    simp [hc]

theorem Closed.unsigned?_append {negative : Bool} {text : List Char} {v : Value}
    (h : unsigned? negative text = some (v, [])) :
    unsigned? negative (text ++ rest) = some (v, rest) := by
  unfold unsigned? at h ⊢
  obtain ⟨⟨digits, behind⟩, hwhole, hfound⟩ := Option.bind_eq_some_iff.mp h
  rw [hrest.wholePart?_append hwhole]
  simp only [Option.bind_eq_bind, Option.bind_some] at hfound ⊢
  rw [hrest.fractionPart_append]
  obtain ⟨hvalue, hbehind⟩ := Prod.mk.inj (Option.some.inj hfound)
  cases hexponent : exponentPart? (fractionPart behind).2 with
  | none =>
    rw [hexponent] at hvalue hbehind
    simp only at hbehind
    rw [hbehind, List.nil_append, exponentPart?_closed hrest]
    simp only [hvalue]
  | some found =>
    obtain ⟨exponent, last⟩ := found
    rw [hexponent] at hvalue hbehind
    simp only at hbehind
    subst hbehind
    rw [hrest.exponentPart?_append hexponent]
    rw [← hvalue]
    rfl

theorem Closed.number?_append {text : List Char} {v : Value} (h : number? text = some (v, [])) :
    number? (text ++ rest) = some (v, rest) := by
  cases text with
  | nil => cases h
  | cons c text =>
      by_cases hsign : c = '-'
      · subst hsign
        exact hrest.unsigned?_append h
      · have hplain : ∀ text : List Char, number? (c :: text) = unsigned? false (c :: text) := by
          intro text
          rw [number?]
          simpa using hsign
        rw [hplain] at h
        rw [List.cons_append, hplain, ← List.cons_append]
        exact hrest.unsigned?_append h

end

/-- A number starts with its sign or with a digit; behind a sign stands a digit. -/
theorem start_of_number? {text rest : List Char} {v : Value} (h : number? text = some (v, rest)) :
    ∃ (c : Char) (later : List Char), Text.isDigit c = true ∧
      (text = c :: later ∨ text = '-' :: c :: later) := by
  have hunsigned : ∀ {negative : Bool} {text : List Char},
      unsigned? negative text = some (v, rest) →
        ∃ (c : Char) (later : List Char), Text.isDigit c = true ∧ text = c :: later := by
    intro negative text h
    obtain ⟨found, hwhole, _⟩ := Option.bind_eq_some_iff.mp h
    unfold wholePart? at hwhole
    split at hwhole
    · exact ⟨_, _, rfl, rfl⟩
    · next c later hc =>
      split at hwhole
      · next hdigit => exact ⟨c, later, hdigit, rfl⟩
      · cases hwhole
    · cases hwhole
  unfold number? at h
  split at h
  · obtain ⟨c, later, hdigit, rfl⟩ := hunsigned h
    exact ⟨c, later, hdigit, .inr rfl⟩
  · obtain ⟨c, later, hdigit, rfl⟩ := hunsigned h
    exact ⟨c, later, hdigit, .inl rfl⟩

/-- No word starts like a number. -/
theorem after?_digit {c : Char} (hdigit : Text.isDigit c = true) (rest : List Char)
    {word : String × Value} (hword : word ∈ words) :
    after? word.1.toList (c :: rest) = none ∧ after? word.1.toList ('-' :: c :: rest) = none := by
  have hne : ∀ d : Char, Text.isDigit d = false → d ≠ c := by
    rintro d hd rfl
    rw [hd] at hdigit
    cases hdigit
  simp only [words, List.mem_cons, List.not_mem_nil, or_false] at hword
  rcases hword with rfl | rfl | rfl | rfl | rfl | rfl
  · exact ⟨if_neg (hne 'n' rfl), rfl⟩
  · exact ⟨if_neg (hne 't' rfl), rfl⟩
  · exact ⟨if_neg (hne 'f' rfl), rfl⟩
  · exact ⟨if_neg (hne 'N' rfl), rfl⟩
  · exact ⟨if_neg (hne 'I' rfl), rfl⟩
  · exact ⟨if_neg (hne '-' rfl), if_neg (hne 'I' rfl)⟩

/-- A number is read up to where it ends, unless it is a whole one with more digits than are
    read. -/
theorem scalar_of_number? {v : Value} {text : List Char} (h : number? text = some (v, []))
    (digits : Nat) {rest : List Char} (hrest : Closed rest) :
    scalar digits (text ++ rest) =
      if isShort digits v then .ok (v, rest)
      else faultAt (.longNumber (wholeLength (text ++ rest))) (text ++ rest) := by
  obtain ⟨c, later, hdigit, hstart⟩ := start_of_number? h
  have hword : words.findSome? (fun word =>
      (after? word.1.toList (text ++ rest)).map fun rest => (word.2, rest)) = none := by
    refine List.findSome?_eq_none_iff.mpr fun word hword => ?_
    obtain ⟨hplain, hsigned⟩ := after?_digit hdigit (later ++ rest) hword
    rcases hstart with rfl | rfl
    · rw [List.cons_append, hplain]
      rfl
    · rw [List.cons_append, List.cons_append, hsigned]
      rfl
  rw [Json.scalar, hword]
  simp only [hrest.number?_append h]

/-- A word or a number is read up to where it ends. -/
theorem ScalarText.scalar {digits : Nat} {v : Value} {text : List Char}
    (h : ScalarText digits v text) {rest : List Char} (hrest : Closed rest) :
    scalar digits (text ++ rest) = .ok (v, rest) := by
  cases h with
  | word h =>
      simp only [words, List.mem_cons, Prod.mk.injEq, List.not_mem_nil, or_false] at h
      rcases h with ⟨rfl, rfl⟩ | ⟨rfl, rfl⟩ | ⟨rfl, rfl⟩ | ⟨rfl, rfl⟩ | ⟨rfl, rfl⟩ | ⟨rfl, rfl⟩ <;>
        rfl
  | number h hshort => rw [scalar_of_number? h digits hrest, if_pos hshort]

end Abacus.Json
