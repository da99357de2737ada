/-
Module: Abacus.Proofs.ValuedTexts
Purpose: Which texts have a value. A text has one exactly if its brackets match and its postfix
  order is the listing of a tree without a division by zero. This does not make it an expression:
  where an operand stands leaves no trace in the postfix order, so that operators may come before
  or after both of their operands. Among the texts with a value, those whose operands and operators
  take turns are the expressions.
Main exports: Calculator.IsInfix, Calculator.evaluateExact_eq_ok_iff,
  Calculator.infix_of_value_iff
-/
import Mathlib.Control.Monad.Basic
import Abacus.Proofs.BracketDepth
import Abacus.Proofs.CalculatorStages
import Abacus.Proofs.ExpressionTree

namespace Abacus.Calculator

/-- The texts whose tokens between the two sentinels the grammar derives. -/
def IsInfix (calculator : Calculator) (expression : String) : Prop :=
  ∃ (body : List Token) (finish : Int),
    calculator.tokens expression = .ok (⟨.begin, 0⟩ :: body ++ [⟨.finish, finish⟩]) ∧
      Derivable .expression body

/-- The texts whose operands and operators take turns. -/
def TakesTurns (calculator : Calculator) (expression : String) : Prop :=
  ∃ (body : List Token) (finish : Int),
    calculator.tokens expression = .ok (⟨.begin, 0⟩ :: body ++ [⟨.finish, finish⟩]) ∧
      alternates .operand body = true

variable {calculator : Calculator} {expression : String}

/-- A text has one list of tokens between the two sentinels. -/
theorem body_unique {body other : List Token} {finish last : Int}
    (hbody : calculator.tokens expression =
      .ok (⟨.begin, 0⟩ :: body ++ [⟨.finish, finish⟩]))
    (hother : calculator.tokens expression =
      .ok (⟨.begin, 0⟩ :: other ++ [⟨.finish, last⟩])) : body = other := by
  have hframe := Except.ok.inj (hbody.symm.trans hother)
  exact List.append_inj_left' (List.cons.inj hframe).2 rfl

/-- A text whose postfix order is known has tokens with matching brackets. -/
theorem body_of_toPostfix {listing : List Token}
    (h : calculator.toPostfix expression = .ok listing) :
    ∃ (body : List Token) (finish : Int),
      calculator.tokens expression = .ok (⟨.begin, 0⟩ :: body ++ [⟨.finish, finish⟩]) ∧
        bracketsMatch 0 body = true := by
  obtain ⟨body, htokens, hinner, hyard⟩ := yard_of_toPostfix h
  exact ⟨body, _, htokens, (shuntingYard_eq_ok_iff hinner _).mp ⟨listing, hyard⟩⟩

/-- A text has a value exactly if its postfix order is the listing of a tree without a division by
    zero, and the value is that of the tree. -/
theorem evaluateExact_eq_ok_iff {value : Rat} :
    calculator.evaluateExact expression = .ok value ↔
      ∃ tree : ExprTree, calculator.toPostfix expression = .ok tree.postorder ∧ tree.Defined ∧
        value = tree.value := by
  constructor
  · intro h
    cases horder : calculator.toPostfix expression with
    | error failure =>
        rw [evaluateExact_of_toPostfix_error horder] at h
        cases h
    | ok tokens =>
        rw [evaluateExact_of_toPostfix horder] at h
        cases hvalue : postfixValue tokens with
        | error fault =>
            rw [hvalue] at h
            cases h
        | ok result =>
            rw [hvalue] at h
            cases h
            obtain ⟨tree, rfl, hdefined, hresult⟩ := postfixValue_eq_ok_iff.mp hvalue
            exact ⟨tree, rfl, hdefined, hresult⟩
  · rintro ⟨tree, horder, hdefined, rfl⟩
    rw [evaluateExact_of_toPostfix horder, postfixValue_postorder, hdefined]
    rfl

/-- Having a value makes a text an expression exactly if having the listing of a tree as postfix
    order makes its operands and operators take turns: the brackets match in any case, and nothing
    else is missing. -/
theorem infix_of_value_iff (calculator : Calculator) (expression : String) :
    ((∃ value : Rat, calculator.evaluateExact expression = .ok value) →
      calculator.IsInfix expression) ↔
    ∀ tree : ExprTree, calculator.toPostfix expression = .ok tree.postorder → tree.Defined →
      calculator.TakesTurns expression := by
  constructor
  · intro hinfix tree horder hdefined
    have hvalue := evaluateExact_eq_ok_iff.mpr ⟨tree, horder, hdefined, rfl⟩
    obtain ⟨body, finish, htokens, hderivable⟩ := hinfix ⟨tree.value, hvalue⟩
    exact ⟨body, finish, htokens, ((derivable_iff body).mp hderivable).2⟩
  · rintro hturns ⟨value, hvalue⟩
    obtain ⟨tree, horder, hdefined, -⟩ := evaluateExact_eq_ok_iff.mp hvalue
    obtain ⟨body, finish, htokens, hmatch⟩ := body_of_toPostfix horder
    obtain ⟨other, last, hother, halternates⟩ := hturns tree horder hdefined
    obtain rfl := body_unique htokens hother
    exact ⟨body, finish, htokens, (derivable_iff body).mpr ⟨hmatch, halternates⟩⟩

/-- A sum whose sign comes last has a value and is no expression. -/
theorem value_of_trailing_operator :
    ({} : Calculator).evaluateExact "1 2 +" = .ok 3 ∧
      ¬ ({} : Calculator).IsInfix "1 2 +" := by
  refine ⟨by decide +kernel, ?_⟩
  rintro ⟨body, finish, htokens, hderivable⟩
  have hscan : ({} : Calculator).tokens "1 2 +" =
      .ok (⟨.begin, 0⟩ :: [⟨.operand 1, 0⟩, ⟨.operand 2, 2⟩, ⟨.operator .add, 4⟩] ++
        [⟨.finish, 5⟩]) := by
    decide +kernel
  obtain rfl := body_unique hscan htokens
  have halternates := ((derivable_iff _).mp hderivable).2
  cases halternates

end Abacus.Calculator
