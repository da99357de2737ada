/-
Module: Abacus.Calculator
Purpose: The calculator: an expression is scanned, brought into postfix order, evaluated in
  exact fractions, and rounded once at the end.
Main exports: Calculator, Failure, Verdict
-/
import Abacus.Postfix.Convert
import Abacus.Postfix.Value
import Abacus.Token.Scan

namespace Abacus

/-- Why an expression has no value, or no postfix form as a text. -/
inductive Failure where
  | scan (fault : ScanFault)
  | conversion (fault : ConversionFault)
  | evaluation (fault : EvaluationFault)
  /-- A number has too many digits to be written. -/
  | unwritable
deriving DecidableEq, Repr

/-- What a user is told about a failure, if there is a report. -/
def Failure.report? : Failure → Option Report
  | scan fault => fault.report?
  | conversion fault => fault.report?
  | evaluation fault => fault.report?
  | unwritable => none

/-- The words for a failure. -/
def Failure.message (failure : Failure) : String :=
  match failure.report?, failure with
  | some report, _ => report.text
  | none, conversion (.stack fault) => fault.unreportedMessage
  | none, _ => Text.unwritableMessage

/-- The greatest literal that is accepted unless another bound is given: the greatest number with
a sign and 63 bits. -/
def defaultMaxLiteral : Int :=
  9223372036854775807

/-- A calculator with its bound for literals. -/
structure Calculator where
  maxLiteral : Int := defaultMaxLiteral
deriving DecidableEq, Repr, Inhabited

/-- How an evaluation ends: with a value, with a report on the expression, or, if the calculator
itself is at fault or the report cannot be written, without either. -/
inductive Verdict where
  | value (n : Int)
  | refused (report : Report)
  | broken
deriving DecidableEq, Repr, Inhabited

namespace Calculator

/-- The tokens of an expression. -/
def tokens (calculator : Calculator) (expression : String) : Except Failure (List Token) :=
  (tokenize calculator.maxLiteral expression).mapError .scan

/-- The tokens of an expression in postfix order. -/
def toPostfix (calculator : Calculator) (expression : String) : Except Failure (List Token) := do
  let tokens ← calculator.tokens expression
  (Abacus.toPostfix tokens).mapError .conversion

/-- The postfix form of an expression as a text. -/
def formatPostfix (calculator : Calculator) (expression : String) : Except Failure String := do
  let tokens ← calculator.toPostfix expression
  match formatTokens? tokens with
  | some text => .ok text
  | none => .error .unwritable

/-- The exact value of an expression. -/
def evaluateExact (calculator : Calculator) (expression : String) : Except Failure Rat := do
  let tokens ← calculator.toPostfix expression
  (postfixValue tokens).mapError .evaluation

/-- The value of an expression, rounded to a whole number. -/
def evaluate (calculator : Calculator) (expression : String) : Except Failure Int :=
  roundHalfEven <$> calculator.evaluateExact expression

/-- The value of an expression, or what the user is told. -/
def verdict (calculator : Calculator) (expression : String) : Verdict :=
  match calculator.evaluate expression with
  | .ok n => .value n
  | .error failure =>
      match failure.report? with
      | some report => .refused report
      | none => .broken

end Calculator

end Abacus
