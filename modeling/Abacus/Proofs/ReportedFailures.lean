/-
Module: Abacus.Proofs.ReportedFailures
Purpose: Whatever text a calculator is given, it answers with a result or with a report of one of
  few kinds. The scan frames its tokens, so that the conversion fails on brackets alone; and the
  evaluation looks before it takes a value off its stack and before it divides, so that neither can
  go wrong.
Main exports: Breakdown, strictValue, strictValue_eq, ReportedAs, Calculator.failures_reported
-/
import Abacus.Proofs.UnplacedOutcome

namespace Abacus

/-! ### Evaluation that takes nothing for granted

`pushToken` matches the two values that it needs, and fractions may be divided by zero without harm.
Here instead each value is taken off the stack by itself, and a division by zero that is carried out
is not harmless: that nothing of the kind happens is for the checks before it to achieve. -/

/-- What would end an evaluation without a report. -/
inductive Breakdown where
  /-- A value is taken off an empty stack. -/
  | emptyStack
  /-- A division by zero is carried out. -/
  | zeroDivision
  /-- An operation is none of the four. -/
  | unknownOperation
deriving DecidableEq, Repr, Inhabited

/-- The top of a stack of values, and what is below. -/
def takeStrict : List Rat → Except Breakdown (Rat × List Rat)
  | [] => .error .emptyStack
  | top :: below => .ok (top, below)

/-- A quotient, unless the divisor is zero. -/
def divideStrict (lhs rhs : Rat) : Except Breakdown Rat :=
  if rhs = 0 then .error .zeroDivision else .ok (lhs / rhs)

/-- The result of the operation that an operator stands for, by asking for one after another. The
    divisor is looked at before the division. -/
def Operation.applyStrict (op : Operation) (position : Int) (lhs rhs : Rat) :
    Except Breakdown (Except EvaluationFault Rat) :=
  if op = .add then .ok (.ok (lhs + rhs))
  else if op = .sub then .ok (.ok (lhs - rhs))
  else if op = .mul then .ok (.ok (lhs * rhs))
  else if op ≠ .div then .error .unknownOperation
  else if rhs = 0 then .ok (.error (.divisionByZero position lhs))
  else .ok <$> divideStrict lhs rhs

/-- One token put to a stack of values. Before an operator takes two values, they are counted. -/
def pushStrict (stack : List Rat) (token : Token) :
    Except Breakdown (Except EvaluationFault (List Rat)) :=
  match token.lexeme with
  | .operand value => .ok (.ok (value :: stack))
  | .operator op =>
      if stack.length < 2 then .ok (.error (.underflow token stack.length))
      else do
        let (rhs, rest) ← takeStrict stack
        let (lhs, below) ← takeStrict rest
        let result ← op.applyStrict token.position lhs rhs
        return (· :: below) <$> result
  | _ => .ok (.error (.misplaced token))

/-- All tokens put to a stack of values. -/
def pushAllStrict (stack : List Rat) :
    List Token → Except Breakdown (Except EvaluationFault (List Rat))
  | [] => .ok (.ok stack)
  | token :: rest => do
      match ← pushStrict stack token with
      | .ok next => pushAllStrict next rest
      | .error fault => return .error fault

/-- The value that tokens in postfix order stand for: the one value that is left. -/
def strictValue (tokens : List Token) : Except Breakdown (Except EvaluationFault Rat) := do
  match ← pushAllStrict [] tokens with
  | .error fault => return .error fault
  | .ok stack =>
      if stack.length ≠ 1 then
        return .error (if stack.isEmpty then .noValue else .unjoined stack.length)
      else
        let (value, _) ← takeStrict stack
        return .ok value

/-- No operation breaks down. -/
theorem Operation.applyStrict_eq (op : Operation) (position : Int) (lhs rhs : Rat) :
    op.applyStrict position lhs rhs =
      .ok (match op.apply? lhs rhs with
        | some value => .ok value
        | none => .error (.divisionByZero position lhs)) := by
  cases op with
  | add | sub | mul => rfl
  | div =>
      by_cases hzero : rhs = 0
      · simp [applyStrict, Operation.apply?, hzero]
      · simp only [applyStrict, Operation.apply?, divideStrict, hzero]
        rfl

/-- No token breaks down. -/
theorem pushStrict_eq (stack : List Rat) (token : Token) :
    pushStrict stack token = .ok (pushToken stack token) := by
  obtain ⟨lexeme, position⟩ := token
  cases lexeme with
  | operator op =>
      match stack with
      | [] => rfl
      | [_] => rfl
      | rhs :: lhs :: below =>
          have hmany : ¬ (rhs :: lhs :: below).length < 2 := by
            simp
          simp only [pushStrict, if_neg hmany, takeStrict, bind, Except.bind,
            Operation.applyStrict_eq, pushToken]
          cases op.apply? lhs rhs <;> rfl
  | _ => rfl

/-- No list of tokens breaks down. -/
theorem pushAllStrict_eq (stack : List Rat) (tokens : List Token) :
    pushAllStrict stack tokens = .ok (pushTokens stack tokens) := by
  induction tokens generalizing stack with
  | nil => rfl
  | cons token rest ih =>
      simp only [pushAllStrict, pushStrict_eq, bind, Except.bind, pushTokens]
      cases pushToken stack token with
      | ok next => exact ih next
      | error fault => rfl

/-- An evaluation that takes nothing for granted never breaks down, and ends as the evaluation
    does. -/
theorem strictValue_eq (tokens : List Token) : strictValue tokens = .ok (postfixValue tokens) := by
  simp only [strictValue, pushAllStrict_eq, bind, Except.bind, postfixValue]
  cases pushTokens [] tokens with
  | error fault => rfl
  | ok stack =>
      obtain _ | ⟨last, _ | ⟨earlier, below⟩⟩ := stack
      · rfl
      · rfl
      · rfl

/-! ### Kinds of reports -/

/-- The kinds of the reports on texts without a postfix order. -/
def orderKinds : List Report.Kind :=
  [.unknownSymbol, .literalOverflow, .unexpectedToken]

/-- The kinds of the reports on texts without a value. -/
def valueKinds : List Report.Kind :=
  orderKinds ++ [.malformedPostfix, .stackUnderflow, .divisionByZero]

/-- There is a result, or a failure that calls for a report of one of some kinds. The report is made
    unless a number in it has too many digits to be written. -/
def ReportedAs {α : Type} (kinds : List Report.Kind) (result : Except Failure α) : Prop :=
  (∃ value : α, result = .ok value) ∨
    ∃ (failure : Failure) (outline : Report.Outline), result = .error failure ∧
      failure.outline? = some outline ∧ outline.kind ∈ kinds ∧ outline.Makes failure.report?

theorem ReportedAs.of_failure {α : Type} {kinds : List Report.Kind} {result : Except Failure α}
    {failure : Failure} {outline : Report.Outline} (h : result = .error failure)
    (houtline : failure.outline? = some outline) (hkind : outline.kind ∈ kinds) :
    ReportedAs kinds result :=
  .inr ⟨failure, outline, h, houtline, hkind, Failure.makes houtline⟩

/-- What is made of a result has the reports that the result has. -/
theorem ReportedAs.map {α β : Type} {kinds : List Report.Kind} {result : Except Failure α}
    (h : ReportedAs kinds result) (f : α → β) : ReportedAs kinds (f <$> result) := by
  rcases h with ⟨value, rfl⟩ | ⟨failure, outline, rfl, houtline, hkind, _⟩
  · exact .inl ⟨f value, rfl⟩
  · exact .of_failure rfl houtline hkind

/-- There is a report on a failure if its numbers can be written. -/
theorem ReportedAs.isSome_report?_iff {α : Type} {kinds : List Report.Kind} {failure : Failure}
    (h : ReportedAs kinds (.error failure : Except Failure α)) :
    failure.report?.isSome ↔ ∀ n ∈ failure.numbers, Text.IsWritable n := by
  rcases h with ⟨value, hvalue⟩ | ⟨_, outline, hfailure, houtline, _, hmakes⟩
  · cases hvalue
  · cases hfailure
    rw [Failure.numbers, houtline, hmakes.isSome_iff]
    rfl

/-- A report on a failure has one of the kinds. -/
theorem ReportedAs.kind_mem {α : Type} {kinds : List Report.Kind} {failure : Failure}
    (h : ReportedAs kinds (.error failure : Except Failure α)) {report : Report}
    (hreport : failure.report? = some report) : report.kind ∈ kinds := by
  rcases h with ⟨value, hvalue⟩ | ⟨_, outline, hfailure, _, hkind, hmakes⟩
  · cases hvalue
  · cases hfailure
    rw [hreport] at hmakes
    rwa [hmakes.kind_eq]

theorem kind_scan_mem (fault : ScanFault) : fault.outline.kind ∈ orderKinds := by
  cases fault with
  | unknownSymbol symbol position =>
      exact (by decide : Report.Kind.unknownSymbol ∈ orderKinds)
  | literalOverflow literal position limit =>
      exact (by decide : Report.Kind.literalOverflow ∈ orderKinds)

theorem kind_evaluation_mem (fault : EvaluationFault) : fault.outline.kind ∈ valueKinds := by
  cases fault with
  | underflow token available =>
      exact (by decide : Report.Kind.stackUnderflow ∈ valueKinds)
  | divisionByZero position dividend =>
      exact (by decide : Report.Kind.divisionByZero ∈ valueKinds)
  | misplaced _ | noValue | unjoined _ =>
      exact (by decide : Report.Kind.malformedPostfix ∈ valueKinds)

namespace Calculator

variable (calculator : Calculator) (expression : String)

/-- A text has a postfix order, or it is scanned with a fault, or its brackets do not match. -/
theorem toPostfix_reported : ReportedAs orderKinds (calculator.toPostfix expression) := by
  cases hscan : scan calculator.maxLiteral 0 expression.toList with
  | error fault =>
      have htokens := tokens_of_scan_error hscan
      have horder : calculator.toPostfix expression = .error (.scan fault) := by
        rw [toPostfix, htokens]
        rfl
      exact .of_failure horder rfl (kind_scan_mem fault)
  | ok scanned =>
      obtain ⟨body, hframe, hinner⟩ := tokens_frame (tokens_of_scan hscan)
      have horder := toPostfix_of_body hinner ((tokens_of_scan hscan).trans (congrArg _ hframe))
      cases hyard : shuntingYard body ⟨.finish, (expression.length : Nat)⟩ with
      | ok tokens =>
          rw [hyard] at horder
          exact .inl ⟨tokens, horder⟩
      | error culprit =>
          rw [hyard] at horder
          exact .of_failure horder rfl (by decide : Report.Kind.unexpectedToken ∈ orderKinds)

/-- A text has an exact value, or no postfix order, or a postfix order without a value. -/
theorem evaluateExact_reported : ReportedAs valueKinds (calculator.evaluateExact expression) := by
  rcases calculator.toPostfix_reported expression with
    ⟨tokens, horder⟩ | ⟨failure, outline, horder, houtline, hkind, _⟩
  · have hexact := evaluateExact_of_toPostfix horder
    cases hvalue : postfixValue tokens with
    | ok value =>
        rw [hvalue] at hexact
        exact .inl ⟨value, hexact⟩
    | error fault =>
        rw [hvalue] at hexact
        exact .of_failure hexact rfl (kind_evaluation_mem fault)
  · exact .of_failure (evaluateExact_of_toPostfix_error horder) houtline
      (List.mem_append_left _ hkind)

/-- A text has a value, rounded once, or a report like that on its exact value. -/
theorem evaluate_reported : ReportedAs valueKinds (calculator.evaluate expression) :=
  (calculator.evaluateExact_reported expression).map roundHalfEven

/-! ### Answers -/

/-- The numbers that an answer to an expression shows: its value, or those of the report. -/
def answerNumbers : List Int :=
  match calculator.evaluate expression with
  | .ok n => [n]
  | .error failure => failure.numbers

/-- The numbers that the postfix form of an expression shows, or those of the report. -/
def formNumbers : List Int :=
  match calculator.toPostfix expression with
  | .ok listing => listing.flatMap Token.operands
  | .error failure => failure.numbers

/-- The failures of a calculator. Every text has a value, exact and rounded, or a report of one of
    six kinds; and a postfix order, as tokens and as a text, or a report of one of three of them,
    unless a number that is to be written has too many digits. No other report is made, and nothing
    happens without one: an access to an empty stack of the conversion would have no report, and the
    evaluation breaks down on no tokens. -/
theorem failures_reported :
    ReportedAs valueKinds (calculator.evaluate expression) ∧
      ReportedAs valueKinds (calculator.evaluateExact expression) ∧
      ReportedAs orderKinds (calculator.toPostfix expression) ∧
      (ReportedAs orderKinds (calculator.formatPostfix expression) ∨
        calculator.formatPostfix expression = .error .unwritable ∧
          ∃ listing : List Token, calculator.toPostfix expression = .ok listing ∧
            ∃ token ∈ listing, ¬ token.IsShort) ∧
      ∀ tokens : List Token, strictValue tokens = .ok (postfixValue tokens) := by
  have hexact := calculator.evaluateExact_reported expression
  have horder := calculator.toPostfix_reported expression
  refine ⟨calculator.evaluate_reported expression, hexact, horder, ?_, strictValue_eq⟩
  rcases horder with ⟨listing, horder⟩ | ⟨failure, outline, horder, houtline, hkind, _⟩
  · have htext := formatPostfix_of_toPostfix horder
    by_cases hshort : ∀ token ∈ listing, token.IsShort
    · rw [if_pos hshort] at htext
      exact .inl (.inl ⟨_, htext⟩)
    · rw [if_neg hshort] at htext
      refine .inr ⟨htext, listing, horder, ?_⟩
      simpa only [Classical.not_forall, exists_prop] using hshort
  · exact .inl (.of_failure (formatPostfix_of_toPostfix_error horder) houtline hkind)

end Calculator

end Abacus
