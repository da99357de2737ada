/-
Module: Abacus.Proofs.BracketContext
Purpose: What stands in brackets counts by its value alone, whatever stands around them. The scan
  parts the inside from the outside, the yard works inside an open bracket as in an empty yard and
  leaves what lies below alone, and the listing that comes out puts one value on the stack.
Main exports: postfixValue_around, bodyOutcome_bracketed, Calculator.evaluateExact_bracketed
-/
import Mathlib.Control.Monad.Basic
import Abacus.Proofs.ExpressionTree
import Abacus.Proofs.UnplacedOutcome

namespace Abacus

/-! ### Values in the midst of a listing -/

/-- Tokens that have a value by themselves put it on any stack. -/
theorem pushTokens_of_value {tokens : List Token} {value : Rat}
    (h : postfixValue tokens = .ok value) (stack : List Rat) (rest : List Token) :
    pushTokens stack (tokens ++ rest) = pushTokens (value :: stack) rest := by
  obtain ⟨tree, rfl, hdefined, rfl⟩ := postfixValue_eq_ok_iff.mp h
  rw [pushTokens_postorder, hdefined]

/-- In the midst of a listing, tokens count by their value alone. -/
theorem postfixValue_around {first second : List Token} {value : Rat}
    (hfirst : postfixValue first = .ok value) (hsecond : postfixValue second = .ok value)
    (earlier later : List Token) :
    postfixValue (earlier ++ first ++ later) = postfixValue (earlier ++ second ++ later) := by
  simp only [postfixValue, List.append_assoc, pushTokens_append [] earlier]
  cases pushTokens [] earlier with
  | error fault => rfl
  | ok stack => simp only [pushTokens_of_value hfirst, pushTokens_of_value hsecond]

/-! ### Outcomes in context -/

/-- Tokens with a value have a postfix order of that value. -/
theorem shuntingYard_of_bodyOutcome {body : List Token} {value : Rat}
    (h : bodyOutcome body = .ok value) :
    ∃ tokens : List Token, shuntingYard body ⟨.finish, 0⟩ = .ok tokens ∧
      postfixValue tokens = .ok value := by
  rw [bodyOutcome] at h
  split at h
  · next tokens htokens =>
      refine ⟨tokens, htokens, ?_⟩
      cases hvalue : postfixValue tokens with
      | error fault =>
          rw [hvalue] at h
          cases h
      | ok result =>
          rw [hvalue] at h
          cases h
          rfl
  · cases h

/-- In brackets, tokens count by their value alone. -/
theorem bodyOutcome_bracketed {first second : List Token} {value : Rat}
    (hfirst : bodyOutcome first = .ok value) (hsecond : bodyOutcome second = .ok value)
    (before after : List Token) (opening closing : Int) :
    bodyOutcome (before ++ ⟨.openBracket, opening⟩ ::
        (first ++ ⟨.closeBracket, closing⟩ :: after)) =
      bodyOutcome (before ++ ⟨.openBracket, opening⟩ ::
        (second ++ ⟨.closeBracket, closing⟩ :: after)) := by
  obtain ⟨firstTokens, hfirstYard, hfirstValue⟩ := shuntingYard_of_bodyOutcome hfirst
  obtain ⟨secondTokens, hsecondYard, hsecondValue⟩ := shuntingYard_of_bodyOutcome hsecond
  rw [bodyOutcome, bodyOutcome, shuntingYard_around hfirstYard, shuntingYard_around hsecondYard]
  cases yardAround before after ⟨.finish, 0⟩ with
  | error culprit => rfl
  | ok parts =>
      simp only
      rw [postfixValue_around hfirstValue hsecondValue]

namespace Calculator

variable {calculator : Calculator}

/-- A text with a value has tokens of that value. -/
theorem bareScan_of_evaluateExact {expression : String} {value : Rat}
    (h : calculator.evaluateExact expression = .ok value) :
    ∃ body : List Token, bareScan calculator.maxLiteral expression.toList = .ok body ∧
      bodyOutcome body = .ok value := by
  rcases calculator.cases_of_outcome expression with
    ⟨result, houtcome, hresult⟩ | ⟨outline, f, houtcome, hf, _⟩
  · obtain rfl := Except.ok.inj (hresult.symm.trans h)
    rw [outcome] at houtcome
    cases hscan : bareScan calculator.maxLiteral expression.toList with
    | error outline =>
        rw [hscan] at houtcome
        cases houtcome
    | ok body =>
        rw [hscan] at houtcome
        exact ⟨body, rfl, houtcome⟩
  · rw [hf] at h
    cases h

/-- In brackets, texts of one value have one outcome. -/
theorem outcome_bracketed {first second : String} {value : Rat}
    (hfirst : calculator.evaluateExact first = .ok value)
    (hsecond : calculator.evaluateExact second = .ok value) (before after : String) :
    calculator.outcome (before ++ "(" ++ first ++ ")" ++ after) =
      calculator.outcome (before ++ "(" ++ second ++ ")" ++ after) := by
  obtain ⟨firstBody, hfirstScan, hfirstOutcome⟩ := bareScan_of_evaluateExact hfirst
  obtain ⟨secondBody, hsecondScan, hsecondOutcome⟩ := bareScan_of_evaluateExact hsecond
  have hsplit : ∀ text : String, (before ++ "(" ++ text ++ ")" ++ after).toList =
      before.toList ++ '(' :: (text.toList ++ ')' :: after.toList) := by
    intro text
    simp
  rw [outcome, outcome, hsplit, hsplit, bareScan_bracketed hfirstScan,
    bareScan_bracketed hsecondScan]
  cases bareScan calculator.maxLiteral before.toList with
  | error outline => rfl
  | ok earlier =>
      cases bareScan calculator.maxLiteral after.toList with
      | error outline => rfl
      | ok later => exact bodyOutcome_bracketed hfirstOutcome hsecondOutcome earlier later 0 0

/-- Brackets make a text count by its value alone. Two texts of one value can stand for each other
    in brackets between any two texts, whatever these are: either both have the same value then,
    or both fail with a fault of the same kind. A report on the one is then made exactly if one is
    made on the other, and is of the same kind, where the place of neither has too many digits to be
    written. -/
theorem evaluateExact_bracketed (calculator : Calculator) (before after first second : String)
    (value : Rat) (hfirst : calculator.evaluateExact first = .ok value)
    (hsecond : calculator.evaluateExact second = .ok value) :
    (∃ result : Rat,
      calculator.evaluateExact (before ++ "(" ++ first ++ ")" ++ after) = .ok result ∧
        calculator.evaluateExact (before ++ "(" ++ second ++ ")" ++ after) = .ok result) ∨
    ∃ (f g : Failure) (kind : Report.Kind),
      calculator.evaluateExact (before ++ "(" ++ first ++ ")" ++ after) = .error f ∧
        calculator.evaluateExact (before ++ "(" ++ second ++ ")" ++ after) = .error g ∧
        f.kind? = some kind ∧ g.kind? = some kind ∧
        ((∀ place ∈ f.place?.toList ++ g.place?.toList, Text.IsWritable place) →
          f.report?.map Report.kind = g.report?.map Report.kind) := by
  -- Places differ between the two texts, so they are compared by their outcomes without places.
  have hsame := outcome_bracketed hfirst hsecond before after
  rcases calculator.cases_of_outcome (before ++ "(" ++ first ++ ")" ++ after) with
    ⟨result, houtcome, hresult⟩ | ⟨outline, f, houtcome, hf, hleft⟩
  · rw [hsame] at houtcome
    rcases calculator.cases_of_outcome (before ++ "(" ++ second ++ ")" ++ after) with
      ⟨other, hother, hvalue⟩ | ⟨_, _, hother, _, _⟩
    · obtain rfl := Except.ok.inj (houtcome.symm.trans hother)
      exact .inl ⟨result, hresult, hvalue⟩
    · cases houtcome.symm.trans hother
  · rw [hsame] at houtcome
    rcases calculator.cases_of_outcome (before ++ "(" ++ second ++ ")" ++ after) with
      ⟨_, hother, _⟩ | ⟨other, g, hother, hg, hleftOther⟩
    · cases houtcome.symm.trans hother
    · obtain rfl := Except.error.inj (houtcome.symm.trans hother)
      exact .inr ⟨f, g, outline.kind, hf, hg, Failure.same_of_unplaced hleft hleftOther⟩

/-- Two texts of the value 2, in brackets between others of which one is no expression. -/
theorem evaluateExact_bracketed_two :
    (({} : Calculator).evaluateExact "1+1" = .ok 2 ∧
      ({} : Calculator).evaluateExact " 04 / 2" = .ok 2) ∧
    ((∃ result : Rat,
      ({} : Calculator).evaluateExact ("3*" ++ "(" ++ "1+1" ++ ")" ++ "-)") = .ok result ∧
        ({} : Calculator).evaluateExact ("3*" ++ "(" ++ " 04 / 2" ++ ")" ++ "-)") = .ok result) ∨
    ∃ (f g : Failure) (kind : Report.Kind),
      ({} : Calculator).evaluateExact ("3*" ++ "(" ++ "1+1" ++ ")" ++ "-)") = .error f ∧
        ({} : Calculator).evaluateExact ("3*" ++ "(" ++ " 04 / 2" ++ ")" ++ "-)") = .error g ∧
        f.kind? = some kind ∧ g.kind? = some kind ∧
        ((∀ place ∈ f.place?.toList ++ g.place?.toList, Text.IsWritable place) →
          f.report?.map Report.kind = g.report?.map Report.kind)) := by
  have hsum : ({} : Calculator).evaluateExact "1+1" = .ok 2 := by
    decide +kernel
  have hratio : ({} : Calculator).evaluateExact " 04 / 2" = .ok 2 := by
    decide +kernel
  exact ⟨⟨hsum, hratio⟩, evaluateExact_bracketed {} "3*" "-)" "1+1" " 04 / 2" 2 hsum hratio⟩

end Calculator

end Abacus
