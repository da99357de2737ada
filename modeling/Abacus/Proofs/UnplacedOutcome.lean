/-
Module: Abacus.Proofs.UnplacedOutcome
Purpose: Positions are only carried along. The yard, the stack of values and what is reported
  depend on what the tokens are, not on where they stand, so that an exact evaluation ends as the
  tokens without positions do, up to the places that a fault names.
Main exports: postfixValue_bare, bodyOutcome, Calculator.outcome, Calculator.cases_of_outcome
-/
import Abacus.Proofs.CalculatorStages
import Abacus.Proofs.YardFrame

namespace Abacus

open Report (Outline)

/-! ### Values without positions -/

/-- Results that agree up to what is kept of their faults. -/
theorem cases_of_mapError_eq {fault other kept value : Type} {keep : fault → kept}
    {keepOther : other → kept} {first : Except fault value} {second : Except other value}
    (h : first.mapError keep = second.mapError keepOther) :
    (∃ result, first = .ok result ∧ second = .ok result) ∨
      ∃ f g, first = .error f ∧ second = .error g ∧ keep f = keepOther g := by
  cases first with
  | ok result =>
      cases second with
      | ok result =>
          cases h
          exact .inl ⟨_, rfl, rfl⟩
      | error g => cases h
  | error f =>
      cases second with
      | ok result => cases h
      | error g => exact .inr ⟨f, g, rfl, rfl, Except.error.inj h⟩

/-- What is left of a fault of the evaluation if places do not count. -/
def EvaluationFault.unplaced (fault : EvaluationFault) : Outline :=
  fault.outline.unplaced

/-- What is left of a failure if places do not count. -/
def Failure.unplaced? (failure : Failure) : Option Outline :=
  failure.outline?.map Outline.unplaced

/-- Failures of which the same is left are of one kind, and if both places can be written, there is
    a report on the one if and only if there is one on the other. -/
theorem Failure.same_of_unplaced {f g : Failure} {outline : Outline}
    (hf : f.unplaced? = some outline) (hg : g.unplaced? = some outline) :
    f.kind? = some outline.kind ∧ g.kind? = some outline.kind ∧
      ((∀ place ∈ f.place?.toList ++ g.place?.toList, Text.IsWritable place) →
        f.report?.map Report.kind = g.report?.map Report.kind) := by
  obtain ⟨first, hfirst, hfirstLeft⟩ := Option.map_eq_some_iff.mp hf
  obtain ⟨second, hsecond, rfl⟩ := Option.map_eq_some_iff.mp hg
  obtain ⟨hkind, hdetails⟩ : first.kind = second.kind ∧ first.details = second.details := by
    simpa [Outline.unplaced] using hfirstLeft
  refine ⟨?_, ?_, fun hplaces => ?_⟩
  · rw [kind?, hfirst]
    exact congrArg some hkind
  · rw [kind?, hsecond]
    rfl
  · simp only [place?, hfirst, hsecond, Option.bind_some, List.forall_mem_append] at hplaces
    simp only [(Failure.makes hfirst).map_kind, (Failure.makes hsecond).map_kind, Outline.numbers,
      List.forall_mem_append, hkind, hdetails, and_iff_right hplaces.1, and_iff_right hplaces.2]

/-- The values that a token leaves, or what its fault is, do not depend on positions. -/
theorem pushToken_bare (stack : List Rat) (token : Token) :
    (pushToken stack token.bare).mapError EvaluationFault.unplaced =
      (pushToken stack token).mapError EvaluationFault.unplaced := by
  obtain ⟨lexeme, position⟩ := token
  cases lexeme with
  | operator op =>
      match stack with
      | [] => rfl
      | [_] => rfl
      | rhs :: lhs :: below =>
          simp only [pushToken, Token.bare]
          cases op.apply? lhs rhs <;> rfl
  | operand value => rfl
  | openBracket => rfl
  | closeBracket => rfl
  | begin => rfl
  | finish => rfl

/-- The values that tokens leave, or what their fault is, do not depend on positions. -/
theorem pushTokens_bare (stack : List Rat) (tokens : List Token) :
    (pushTokens stack (tokens.map Token.bare)).mapError EvaluationFault.unplaced =
      (pushTokens stack tokens).mapError EvaluationFault.unplaced := by
  induction tokens generalizing stack with
  | nil => rfl
  | cons token rest ih =>
      simp only [List.map_cons, pushTokens]
      rcases cases_of_mapError_eq (pushToken_bare stack token) with
        ⟨next, hbare, hplaced⟩ | ⟨f, g, hbare, hplaced, hunplaced⟩
      · rw [hbare, hplaced]
        exact ih next
      · rw [hbare, hplaced]
        exact congrArg Except.error hunplaced

/-- The value of tokens, or what the fault is, does not depend on positions. -/
theorem postfixValue_bare (tokens : List Token) :
    (postfixValue (tokens.map Token.bare)).mapError EvaluationFault.unplaced =
      (postfixValue tokens).mapError EvaluationFault.unplaced := by
  simp only [postfixValue]
  rcases cases_of_mapError_eq (pushTokens_bare [] tokens) with
    ⟨stack, hbare, hplaced⟩ | ⟨f, g, hbare, hplaced, hunplaced⟩
  · rw [hbare, hplaced]
  · rw [hbare, hplaced]
    exact congrArg Except.error hunplaced

/-! ### The outcome of an evaluation -/

/-- How tokens between the two sentinels end if positions do not count: with a value, or with what
    the report on a fault is to say. -/
def bodyOutcome (body : List Token) : Except Outline Rat :=
  match shuntingYard body ⟨.finish, 0⟩ with
  | .ok tokens => (postfixValue tokens).mapError EvaluationFault.unplaced
  | .error culprit => .error { kind := .unexpectedToken, details := culprit.operands }

theorem keepsLexemes_bare : KeepsLexemes Token.bare :=
  fun _ => rfl

namespace Calculator

/-- How a text ends if positions do not count. -/
def outcome (calculator : Calculator) (expression : String) : Except Outline Rat := do
  let body ← bareScan calculator.maxLiteral expression.toList
  bodyOutcome body

/-- An exact evaluation ends as the tokens without positions do. -/
theorem evaluateExact_unplaced (calculator : Calculator) (expression : String) :
    (calculator.evaluateExact expression).mapError Failure.unplaced? =
      (calculator.outcome expression).mapError some := by
  rw [outcome]
  cases hscan : scan calculator.maxLiteral 0 expression.toList with
  | error fault =>
      rw [evaluateExact_of_tokens_error (tokens_of_scan_error hscan), bareScan, hscan]
      rfl
  | ok tokens =>
      obtain ⟨body, hframe, hinner⟩ := scan_frame hscan
      generalize ((0 + expression.toList.length : Nat) : Int) = finish at hframe
      subst hframe
      have hbody :
          bareScan calculator.maxLiteral expression.toList = .ok (body.map Token.bare) := by
        rw [bareScan, hscan, unplaced, List.dropLast_concat]
      have hyard : shuntingYard (body.map Token.bare) ⟨.finish, 0⟩ = _ :=
        shuntingYard_relabel keepsLexemes_bare body ⟨.finish, finish⟩
      rw [evaluateExact_of_body hinner (tokens_of_scan hscan), hbody]
      show _ = (bodyOutcome (body.map Token.bare)).mapError some
      rw [bodyOutcome, hyard]
      cases shuntingYard body ⟨.finish, finish⟩ with
      | error culprit => rfl
      | ok tokens =>
          rcases cases_of_mapError_eq (postfixValue_bare tokens) with
            ⟨value, hbare, hplaced⟩ | ⟨f, g, hbare, hplaced, hunplaced⟩
          · simp only [hbare, hplaced]
            rfl
          · simp only [hbare, hplaced]
            exact congrArg (fun outline => Except.error (some outline)) hunplaced.symm

/-- A text has the value that its outcome is, or fails with what its outcome is. -/
theorem cases_of_outcome (calculator : Calculator) (expression : String) :
    (∃ value : Rat, calculator.outcome expression = .ok value ∧
      calculator.evaluateExact expression = .ok value) ∨
    ∃ (outline : Outline) (f : Failure), calculator.outcome expression = .error outline ∧
      calculator.evaluateExact expression = .error f ∧ f.unplaced? = some outline := by
  rcases cases_of_mapError_eq (calculator.evaluateExact_unplaced expression) with
    ⟨value, hvalue, houtcome⟩ | ⟨f, outline, hf, houtcome, houtline⟩
  · exact .inl ⟨value, houtcome, hvalue⟩
  · exact .inr ⟨outline, f, houtcome, hf, houtline⟩

end Calculator

end Abacus
