/-
Module: Abacus.Proofs.LiteralBounds
Purpose: What the bound for literals changes. Of two calculators, the one with the smaller bound
  either ends as the other does or refuses a literal, and it refuses one no later than the other
  does. The scan alone knows the bound; the later stages refuse no literal, so what holds of the
  tokens holds of all that is made of them.
Main exports: RefusesLiteral, Filtered, scan_of_le, Filtered.bind, Calculator.bound_filters
-/
import Mathlib.Control.Monad.Basic
import Abacus.Proofs.LexicalFaults
import Abacus.Proofs.UnplacedOutcome

namespace Abacus

open Report (Outline)

/-! ### Two bounds for one scan -/

/-- One scan refuses a literal by its bound, and the other has no fault further to the left. -/
def RefusedFirst (bound : Int) (strict loose : Except ScanFault (List Token)) : Prop :=
  ∃ (literal : String) (place : Nat), strict = .error (.literalOverflow literal place bound) ∧
    ∀ fault : ScanFault, loose = .error fault → place ≤ fault.position

theorem RefusedFirst.map_cons {bound : Int} {strict loose : Except ScanFault (List Token)}
    (h : RefusedFirst bound strict loose) (first : Token) :
    RefusedFirst bound ((first :: ·) <$> strict) ((first :: ·) <$> loose) := by
  obtain ⟨literal, place, hrefused, hfirst⟩ := h
  exact ⟨literal, place, map_eq_error_iff.mpr hrefused,
    fun fault hfault => hfirst fault (map_eq_error_iff.mp hfault)⟩

/-- With a smaller bound a scan ends as before, or it refuses a literal that stands no further to
    the right than the fault of the scan before. -/
theorem scan_of_le {small great : Int} (hle : small ≤ great) (position : Nat) (text : List Char) :
    scan small position text = scan great position text ∨
      RefusedFirst small (scan small position text) (scan great position text) := by
  fun_induction scan great position text with
  | case1 position => exact .inl (by rw [scan])
  | case2 position c rest hdigit digits value hbound =>
      refine .inr ⟨String.ofList digits, position, ?_, ?_⟩
      · rw [scan, if_pos hdigit, if_pos (Int.lt_of_le_of_lt hle hbound)]
      · rintro fault ⟨⟩
        exact Nat.le_refl position
  | case3 position c rest hdigit digits value hbound =>
      rename_i ih
      rw [scan, if_pos hdigit]
      by_cases hsmall : small < value
      · -- The smaller bound refuses this literal; a fault of the other scan stands behind it.
        rw [if_pos hsmall]
        refine .inr ⟨_, position, rfl, fun fault hfault => ?_⟩
        have hlater := (scan_eq_error_iff.mp (map_eq_error_iff.mp hfault)).1.le_position
        exact Nat.le_trans (Nat.le_add_right position _) hlater
      · rw [if_neg hsmall]
        rcases ih with hsame | hrefused
        · exact .inl (congrArg ((⟨.operand value, position⟩ :: ·) <$> ·) hsame)
        · exact .inr (hrefused.map_cons _)
  | case4 position c rest hdigit hblank ih =>
      rw [scan, if_neg hdigit, if_pos hblank]
      exact ih
  | case5 position c rest hdigit hblank lexeme hlexeme ih =>
      rw [scan, if_neg hdigit, if_neg hblank, hlexeme]
      rcases ih with hsame | hrefused
      · exact .inl (congrArg ((⟨lexeme, position⟩ :: ·) <$> ·) hsame)
      · exact .inr (hrefused.map_cons _)
  | case6 position c rest hdigit hblank hlexeme =>
      rw [scan, if_neg hdigit, if_neg hblank, hlexeme]
      exact .inl rfl

/-- A scan refuses literals by its own bound. -/
theorem limit_of_scan {maxLiteral limit : Int} {position place : Nat} {text : List Char}
    {literal : String}
    (h : scan maxLiteral position text = .error (.literalOverflow literal place limit)) :
    limit = maxLiteral := by
  cases (scan_eq_error_iff.mp h).1
  rfl

/-! ### Results that refuse a literal -/

/-- What is to be reported is that a literal, at the given place, exceeds the given bound. The
    report is made if both can be written. -/
def RefusesLiteral {α : Type} (bound : Int) (result : Except Failure α) (place : Int) : Prop :=
  ∃ (failure : Failure) (outline : Outline), result = .error failure ∧
    failure.outline? = some outline ∧ outline.kind = .literalOverflow ∧
      outline.place = some place ∧ outline.numbers = [place, bound] ∧
        outline.Makes failure.report?

/-- One result is the other, or it refuses a literal by the smaller bound; and it refuses one
    wherever the other does by the greater bound, or further to the left. -/
structure Filtered {α : Type} (small great : Int) (strict loose : Except Failure α) : Prop where
  same_or_refused : strict = loose ∨ ∃ place : Int, RefusesLiteral small strict place
  refused_earlier : ∀ place : Int, RefusesLiteral great loose place →
    ∃ earlier : Int, earlier ≤ place ∧ RefusesLiteral small strict earlier

section

variable {α β : Type} {bound small great place : Int}

theorem not_refusesLiteral_ok (value : α) : ¬ RefusesLiteral bound (.ok value) place := by
  rintro ⟨failure, outline, herror, _⟩
  cases herror

theorem refusesLiteral_of_overflow (literal : String) (position : Nat) :
    RefusesLiteral bound (.error (.scan (.literalOverflow literal position bound)) :
      Except Failure α) position :=
  ⟨_, _, rfl, rfl, rfl, rfl, rfl, ScanFault.makes _⟩

/-- Of the faults of the scan, only a number that exceeds the bound refuses a literal. -/
theorem overflow_of_refusesLiteral {fault : ScanFault}
    (h : RefusesLiteral bound (.error (.scan fault) : Except Failure α) place) :
    ∃ (literal : String) (position : Nat),
      fault = .literalOverflow literal position bound ∧ (position : Int) = place := by
  obtain ⟨failure, outline, hfailure, houtline, hkind, _, hnumbers, _⟩ := h
  cases hfailure
  cases houtline
  cases fault with
  | unknownSymbol symbol position => cases hkind
  | literalOverflow literal position limit =>
      obtain ⟨hplace, hlimit⟩ : (position : Int) = place ∧ limit = bound := by
        simpa [ScanFault.outline, Outline.numbers] using hnumbers
      exact ⟨literal, position, by rw [hlimit], hplace⟩

/-- Where a first stage refuses a literal, nothing is made of it. -/
theorem RefusesLiteral.bind {result : Except Failure α} (h : RefusesLiteral bound result place)
    (next : α → Except Failure β) : RefusesLiteral bound (result >>= next) place := by
  obtain ⟨failure, outline, rfl, houtline⟩ := h
  exact ⟨failure, outline, rfl, houtline⟩

/-- A next stage that refuses no literal leaves it to the first one to do so. -/
theorem Filtered.bind {strict loose : Except Failure α} (h : Filtered small great strict loose)
    {next : α → Except Failure β}
    (hnext : ∀ (value : α) (place : Int), ¬ RefusesLiteral great (next value) place) :
    Filtered small great (strict >>= next) (loose >>= next) where
  same_or_refused := by
    rcases h.same_or_refused with rfl | ⟨place, hrefused⟩
    · exact .inl rfl
    · exact .inr ⟨place, hrefused.bind next⟩
  refused_earlier := by
    intro place hrefused
    cases loose with
    | ok value => exact absurd hrefused (hnext value place)
    | error failure =>
        have hfirst : RefusesLiteral great (.error failure : Except Failure α) place := by
          obtain ⟨reported, outline, hreported, houtline⟩ := hrefused
          cases hreported
          exact ⟨failure, outline, rfl, houtline⟩
        obtain ⟨earlier, hle, hstrict⟩ := h.refused_earlier place hfirst
        exact ⟨earlier, hle, hstrict.bind next⟩

theorem Filtered.map {strict loose : Except Failure α} (h : Filtered small great strict loose)
    (f : α → β) : Filtered small great (f <$> strict) (f <$> loose) :=
  h.bind fun value _ => not_refusesLiteral_ok (f value)

/-! ### Stages behind the scan -/

theorem ConversionFault.kind_ne_literalOverflow {fault : ConversionFault} {outline : Outline}
    (h : fault.outline? = some outline) : outline.kind ≠ .literalOverflow := by
  cases fault with
  | noBegin first => cases first <;> cases h <;> exact nofun
  | noFinish | unexpected =>
      cases h
      exact nofun
  | stack fault => cases fault <;> cases h <;> exact nofun

theorem EvaluationFault.kind_ne_literalOverflow (fault : EvaluationFault) :
    fault.outline.kind ≠ .literalOverflow := by
  cases fault <;> exact nofun

/-- The conversion refuses no literal. -/
theorem conversion_refuses_no_literal (tokens : List Token) (place : Int) :
    ¬ RefusesLiteral bound ((toPostfix tokens).mapError Failure.conversion) place := by
  rintro ⟨failure, outline, hfailure, houtline, hkind, _⟩
  cases horder : toPostfix tokens with
  | ok listing =>
      rw [horder] at hfailure
      cases hfailure
  | error fault =>
      rw [horder] at hfailure
      cases hfailure
      exact ConversionFault.kind_ne_literalOverflow houtline hkind

/-- The evaluation refuses no literal. -/
theorem evaluation_refuses_no_literal (tokens : List Token) (place : Int) :
    ¬ RefusesLiteral bound ((postfixValue tokens).mapError Failure.evaluation) place := by
  rintro ⟨failure, outline, hfailure, houtline, hkind, _⟩
  cases hvalue : postfixValue tokens with
  | ok value =>
      rw [hvalue] at hfailure
      cases hfailure
  | error fault =>
      rw [hvalue] at hfailure
      cases hfailure
      cases houtline
      exact fault.kind_ne_literalOverflow hkind

/-- Writing tokens refuses no literal. -/
theorem writing_refuses_no_literal (tokens : List Token) (place : Int) :
    ¬ RefusesLiteral bound
      (match formatTokens? tokens with
        | some text => Except.ok text
        | none => .error Failure.unwritable) place := by
  split
  · exact not_refusesLiteral_ok _
  · rintro ⟨failure, outline, hfailure, houtline, _⟩
    cases hfailure
    cases houtline

end

namespace Calculator

section

variable {small great : Int} (hle : small ≤ great) (expression : String)

include hle

theorem tokens_filtered : Filtered small great ((⟨small⟩ : Calculator).tokens expression)
    ((⟨great⟩ : Calculator).tokens expression) where
  same_or_refused := by
    rcases scan_of_le hle 0 expression.toList with hsame | ⟨literal, place, hstrict, _⟩
    · exact .inl (by simp only [tokens, tokenize, hsame])
    · rw [tokens_of_scan_error hstrict]
      exact .inr ⟨place, refusesLiteral_of_overflow literal place⟩
  refused_earlier := by
    intro other hother
    cases hloose : scan great 0 expression.toList with
    | ok scanned =>
        rw [tokens_of_scan hloose] at hother
        exact absurd hother (not_refusesLiteral_ok _)
    | error fault =>
        rw [tokens_of_scan_error hloose] at hother
        obtain ⟨literal, position, rfl, rfl⟩ := overflow_of_refusesLiteral hother
        rcases scan_of_le hle 0 expression.toList with hsame | ⟨_, place, hstrict, hfirst⟩
        · have hstrict := hsame.trans hloose
          obtain rfl := limit_of_scan hstrict
          rw [tokens_of_scan_error hstrict]
          exact ⟨position, Int.le_refl _, refusesLiteral_of_overflow literal position⟩
        · rw [tokens_of_scan_error hstrict]
          exact ⟨place, Int.ofNat_le.mpr (hfirst _ hloose), refusesLiteral_of_overflow _ place⟩

theorem toPostfix_filtered : Filtered small great ((⟨small⟩ : Calculator).toPostfix expression)
    ((⟨great⟩ : Calculator).toPostfix expression) :=
  (tokens_filtered hle expression).bind conversion_refuses_no_literal

theorem evaluateExact_filtered :
    Filtered small great ((⟨small⟩ : Calculator).evaluateExact expression)
      ((⟨great⟩ : Calculator).evaluateExact expression) :=
  (toPostfix_filtered hle expression).bind evaluation_refuses_no_literal

theorem formatPostfix_filtered : Filtered small great
    ((⟨small⟩ : Calculator).formatPostfix expression)
    ((⟨great⟩ : Calculator).formatPostfix expression) :=
  (toPostfix_filtered hle expression).bind writing_refuses_no_literal

/-- A smaller bound only filters. Whatever the expression, each result that a calculator gives, the
    value, the exact value and the postfix order as tokens or as a text, is with a smaller bound the
    same one, fault and all, or a literal is refused; and if a literal is refused with the greater
    bound, one is refused with the smaller bound at the same place or before it. A refusal is
    reported if its place and the bound can be written. -/
theorem bound_filters :
    Filtered small great ((⟨small⟩ : Calculator).evaluate expression)
        ((⟨great⟩ : Calculator).evaluate expression) ∧
      Filtered small great ((⟨small⟩ : Calculator).evaluateExact expression)
        ((⟨great⟩ : Calculator).evaluateExact expression) ∧
      Filtered small great ((⟨small⟩ : Calculator).toPostfix expression)
        ((⟨great⟩ : Calculator).toPostfix expression) ∧
      Filtered small great ((⟨small⟩ : Calculator).formatPostfix expression)
        ((⟨great⟩ : Calculator).formatPostfix expression) := by
  have hexact := evaluateExact_filtered hle expression
  exact ⟨hexact.map roundHalfEven, hexact, toPostfix_filtered hle expression,
    formatPostfix_filtered hle expression⟩

end

/-- With the bound 9 the second literal is refused, so with the bound 5 one is refused at its place
    or before it. -/
theorem bound_filters_sum :
    (5 : Int) ≤ 9 ∧ RefusesLiteral 9 ((⟨9⟩ : Calculator).evaluate "7+12") 2 ∧
      (∃ earlier : Int, earlier ≤ 2 ∧
        RefusesLiteral 5 ((⟨5⟩ : Calculator).evaluate "7+12") earlier) := by
  have hrefused : RefusesLiteral 9 ((⟨9⟩ : Calculator).evaluate "7+12") 2 := by
    have hscan : scan 9 0 "7+12".toList = .error (.literalOverflow "12" 2 9) := by
      decide +kernel
    have hexact := evaluateExact_of_tokens_error (tokens_of_scan_error hscan)
    rw [evaluate, hexact]
    exact refusesLiteral_of_overflow "12" 2
  exact ⟨by decide, hrefused,
    (bound_filters (by decide) "7+12").1.refused_earlier 2 hrefused⟩

/-- A literal within the bound is its own value. -/
theorem evaluate_literal {calculator : Calculator} {digits : List Char} (hnonempty : digits ≠ [])
    (hdigits : ∀ c ∈ digits, Text.isDigit c = true)
    (hbound : (digitsValue digits : Int) ≤ calculator.maxLiteral) :
    ∃ value : Int, calculator.evaluate (String.ofList digits) = .ok value := by
  rw [evaluate, evaluateExact_of_toPostfix (toPostfix_literal hnonempty hdigits hbound)]
  exact ⟨_, rfl⟩

/-- A literal beyond the bound is refused. -/
theorem evaluate_literal_error {calculator : Calculator} {digits : List Char}
    (hnonempty : digits ≠ []) (hdigits : ∀ c ∈ digits, Text.isDigit c = true)
    (hbound : calculator.maxLiteral < digitsValue digits) :
    calculator.evaluate (String.ofList digits) = .error
      (.scan (.literalOverflow (String.ofList digits) 0 calculator.maxLiteral)) := by
  have hscan : scan calculator.maxLiteral 0 (String.ofList digits).toList =
      .error (.literalOverflow (String.ofList digits) 0 calculator.maxLiteral) := by
    rw [String.toList_ofList, scan_digits hnonempty hdigits, if_pos hbound]
  rw [evaluate, evaluateExact_of_tokens_error (tokens_of_scan_error hscan)]
  rfl

/-- Two bounds of more digits than are written. With the greater one a number has a value; with the
    smaller one it is refused, and there is no report. -/
theorem evaluate_longBounds :
    (10 ^ 4300 : Int) ≤ 10 ^ 4301 ∧
      (∃ value : Int, (⟨10 ^ 4301⟩ : Calculator).evaluate
        (String.ofList ('1' :: List.replicate 4301 '0')) = .ok value) ∧
      ∃ failure : Failure, (⟨10 ^ 4300⟩ : Calculator).evaluate
        (String.ofList ('1' :: List.replicate 4301 '0')) = .error failure ∧
          failure.report? = none := by
  have hvalue := digitsValue_one_zeros 4301
  have hlt : (10 ^ 4300 : Int) < 10 ^ 4301 := Int.pow_lt_pow_of_lt (by decide) (by decide)
  have hover : (⟨10 ^ 4300⟩ : Calculator).maxLiteral <
      digitsValue ('1' :: List.replicate 4301 '0') := by
    rw [hvalue]
    exact hlt
  refine ⟨Int.le_of_lt hlt, evaluate_literal (List.cons_ne_nil _ _) (isDigit_one_zeros 4301) ?_,
    _, evaluate_literal_error (List.cons_ne_nil _ _) (isDigit_one_zeros 4301) hover, ?_⟩
  · exact Int.le_of_eq hvalue
  · exact ScanFault.report?_literalOverflow_of_long
      (mt Text.isWritable_ten_pow_iff.mp (Nat.lt_irrefl _)) _ 0

end Calculator

end Abacus
