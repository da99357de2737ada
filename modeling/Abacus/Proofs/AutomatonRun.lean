/-
Module: Abacus.Proofs.AutomatonRun
Purpose: What one step of a conversion does, read off the table of the precedence automaton. Every
  statement about whole conversions rests on these equations and opens no step of its own.
Main exports: Conversion.stepBy, Conversion.step_top, Conversion.run_operand, Conversion.run_top,
  Conversion.run_begin, Conversion.run_append
-/
import Abacus.Postfix.Convert

namespace Abacus.Conversion

/-- Where a run ends that has come to a step. -/
def Step.resume : Step → Except ConversionFault (List Token)
  | .done tokens => .ok tokens
  | .failed fault => .error fault
  | .next conversion => conversion.run

/-- A run is its first step and the run from there. -/
theorem run_step (conversion : Conversion) : conversion.run = conversion.step.resume := by
  rw [run]
  split
  · next h => rw [h]; rfl
  · next h => rw [h]; rfl
  · next h => rw [h]; rfl

/-- The step that an action on the top of the stack and the next token stands for. -/
def stepBy (top token : Token) (below output rest : List Token) : Action → Step
  | .push => .next ⟨⟨token :: top :: below, output⟩, rest⟩
  | .moveTopThenPush => .next ⟨⟨token :: below, top :: output⟩, rest⟩
  | .discard => .next ⟨⟨below, output⟩, rest⟩
  | .moveTopStay => .next ⟨⟨below, top :: output⟩, token :: rest⟩
  | .finish => .done output.reverse
  | .error => .failed (.unexpected token)

/-- What the table says for the top of the stack and a token decides the step, and is all that
    the step depends on. -/
theorem step_top (top : Token) (below output : List Token) {token : Token} (rest : List Token)
    (h : token.kind ≠ .operand) :
    step ⟨⟨top :: below, output⟩, token :: rest⟩ =
      match transition? top.kind token.kind with
      | some action => stepBy top token below output rest action
      | none => .failed (.stack (.noTransition top.kind token.kind)) := by
  have hoperand : token.isOperand = false := by
    simpa [Token.isOperand] using h
  simp only [step, hoperand, Yard.actionFor, lookupAction]
  cases transition? top.kind token.kind with
  | none => rfl
  | some action => cases action <;> rfl

/-- An operand goes to the output. -/
theorem run_operand (yard : Yard) (value position : Int) (rest : List Token) :
    run ⟨yard, ⟨.operand value, position⟩ :: rest⟩ =
      run ⟨⟨yard.operators, ⟨.operand value, position⟩ :: yard.output⟩, rest⟩ := by
  rw [run_step]
  rfl

/-- The table has no entry for operands: they never drive the automaton. -/
theorem transition?_operand (state : TokenKind) : transition? state .operand = none := by
  cases state <;> rfl

/-- The table has no entry for the opening sentinel either. -/
theorem transition?_begin (state : TokenKind) : transition? state .begin = none := by
  cases state <;> rfl

/-- A run goes on as the entry of the table for the top of the stack and the next token says. -/
theorem run_top (top token : Token) {action : Action} (below output rest : List Token)
    (h : transition? top.kind token.kind = some action) :
    run ⟨⟨top :: below, output⟩, token :: rest⟩ =
      (stepBy top token below output rest action).resume := by
  have hoperand : token.kind ≠ .operand := by
    intro hkind
    rw [hkind, transition?_operand] at h
    cases h
  rw [run_step, step_top top below output rest hoperand, h]

/-- A run ends on the opening sentinel, whatever lies on top of the stack. -/
theorem run_begin (top : Token) (position : Int) (below output rest : List Token) :
    run ⟨⟨top :: below, output⟩, ⟨.begin, position⟩ :: rest⟩ =
      .error (.stack (.noTransition top.kind .begin)) := by
  have hoperand : (⟨.begin, position⟩ : Token).kind ≠ .operand := by
    intro h
    cases h
  have hnone : transition? top.kind (⟨.begin, position⟩ : Token).kind = none :=
    transition?_begin top.kind
  rw [run_step, step_top top below output rest hoperand, hnone]
  rfl

/-! ### Tokens that come later -/

/-- A step with more tokens behind those that are still to come. -/
def Step.append (later : List Token) : Step → Step
  | .done tokens => .done tokens
  | .failed fault => .failed fault
  | .next conversion => .next ⟨conversion.yard, conversion.rest ++ later⟩

/-- A step that does not fail for want of a token does not look behind the next one. -/
theorem step_append {conversion : Conversion} (later : List Token)
    (h : conversion.step ≠ .failed .noFinish) :
    step ⟨conversion.yard, conversion.rest ++ later⟩ = conversion.step.append later := by
  obtain ⟨yard, _ | ⟨token, rest⟩⟩ := conversion
  · exact absurd rfl h
  · simp only [step, List.cons_append]
    split
    · rfl
    · cases yard.actionFor token with
      | error fault => rfl
      | ok action =>
          cases action with
          | finish | error => rfl
          | push | moveTopThenPush | discard | moveTopStay =>
              simp only
              split
              · rfl
              · next advance _ => cases advance <;> rfl

/-- A run that does not fail for want of tokens is not changed by tokens that come later. -/
theorem run_append (conversion : Conversion) (later : List Token)
    (h : conversion.run ≠ .error .noFinish) :
    run ⟨conversion.yard, conversion.rest ++ later⟩ = conversion.run := by
  fun_induction Conversion.run conversion with
  | case1 conversion tokens hstep =>
      rw [run_step, step_append later (by simp [hstep]), hstep]
      rfl
  | case2 conversion fault hstep =>
      have hwant : conversion.step ≠ .failed .noFinish := by
        rintro hfailed
        rw [hstep] at hfailed
        cases hfailed
        exact h rfl
      rw [run_step, step_append later hwant, hstep]
      rfl
  | case3 conversion next hstep ih =>
      rw [run_step, step_append later (by simp [hstep]), hstep]
      exact ih h

end Abacus.Conversion
