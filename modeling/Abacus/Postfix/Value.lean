/-
Module: Abacus.Postfix.Value
Purpose: The value of tokens in postfix order, in exact fractions. Operands wait on a stack, an
  operator takes the two on top.
Main exports: EvaluationFault, Operation.apply?, pushToken, pushTokens,
  postfixValue
-/
import Abacus.Rational
import Abacus.Report

namespace Abacus

/-- Why tokens in postfix order have no value. -/
inductive EvaluationFault where
  /-- A bracket or a sentinel stands among them. -/
  | misplaced (token : Token)
  /-- An operator finds fewer than two operands. -/
  | underflow (token : Token) (available : Nat)
  /-- A dividend is to be divided by zero. -/
  | divisionByZero (position : Int) (dividend : Rat)
  /-- There is nothing to evaluate. -/
  | noValue
  /-- Several values are left. -/
  | unjoined (count : Nat)
deriving DecidableEq, Repr

/-- What a user is told about a fault of the evaluation, if its numbers can be written. -/
def EvaluationFault.report? : EvaluationFault → Option Report
  | misplaced token => do
      let shown ← token.display?
      Report.made? {
        kind := .malformedPostfix
        message := s!"Token {token.kind.name} cannot appear in an RPN sequence"
        position := some token.position
        received := some shown
        expected := some "Operand or arithmetic operator" }
  | underflow token available => do
      let operator ← token.text?
      let count ← Text.writeWhole? available
      Report.made? {
        kind := .stackUnderflow
        message := s!"Not enough operands for operator {operator}"
        position := some token.position
        received := some s!"{count} operand(s) available"
        expected := some "2 operands"
        suggestion := some "Every operator needs a value on both sides" }
  | divisionByZero position dividend => do
      let shown ← displayRational? dividend
      Report.made? {
        kind := .divisionByZero
        message := "Division by zero"
        position := some position
        received := some s!"{shown} / 0"
        context := some "The right-hand side of '/' evaluated to zero" }
  | noValue => some {
      kind := .malformedPostfix
      message := "Expression has no value"
      received := some "0 values after evaluation"
      expected := some "Exactly 1 value"
      suggestion := some "Provide at least one number, e.g. 1+2" }
  | unjoined count => do
      let shown ← Text.writeWhole? count
      return {
        kind := .malformedPostfix
        message := "Expression has values that are not joined by operators"
        received := some s!"{shown} values after evaluation"
        expected := some "Exactly 1 value"
        suggestion := some "Put an operator between each pair of numbers" }

/-- The result of an operation; none for a division by zero. -/
def Operation.apply? : Operation → Rat → Rat → Option Rat
  | .add, lhs, rhs => some (lhs + rhs)
  | .sub, lhs, rhs => some (lhs - rhs)
  | .mul, lhs, rhs => some (lhs * rhs)
  | .div, lhs, rhs => if rhs = 0 then none else some (lhs / rhs)

/-- One token put to a stack of values, the top one first. -/
def pushToken (stack : List Rat) (token : Token) : Except EvaluationFault (List Rat) :=
  match token.lexeme with
  | .operand value => .ok (value :: stack)
  | .operator op =>
      match stack with
      | rhs :: lhs :: below =>
          match op.apply? lhs rhs with
          | some value => .ok (value :: below)
          | none => .error (.divisionByZero token.position lhs)
      | _ => .error (.underflow token stack.length)
  | _ => .error (.misplaced token)

/-- All tokens put to a stack of values. -/
def pushTokens (stack : List Rat) : List Token → Except EvaluationFault (List Rat)
  | [] => .ok stack
  | token :: rest =>
      match pushToken stack token with
      | .ok next => pushTokens next rest
      | .error fault => .error fault

/-- The value that tokens in postfix order stand for. -/
def postfixValue (tokens : List Token) : Except EvaluationFault Rat :=
  match pushTokens [] tokens with
  | .error fault => .error fault
  | .ok [] => .error .noValue
  | .ok [value] => .ok value
  | .ok stack => .error (.unjoined stack.length)

end Abacus
