/-
Module: Abacus.Postfix.Convert
Purpose: From a framed list of infix tokens to postfix order. Operands go straight to the
  output, every other token is put to the precedence automaton until the closing sentinel is
  met with nothing left to wait for.
Main exports: ConversionFault, Conversion, Conversion.step, Conversion.run, toPostfix
-/
import Abacus.Precedence

namespace Abacus

/-- Why a list of tokens has no postfix order. -/
inductive ConversionFault where
  /-- The list does not open with its sentinel; the first token, if there is one. -/
  | noBegin (first : Option Token)
  /-- The list ends without its closing sentinel. -/
  | noFinish
  /-- A closing bracket, or the end, comes where brackets do not match. -/
  | unexpected (token : Token)
  /-- The automaton cannot go on. -/
  | stack (fault : StackFault)
deriving DecidableEq, Repr, Inhabited

namespace ConversionFault

/-- What is reported about a fault of the conversion, if the token that is to be shown can be
shown. -/
def report? : ConversionFault → Option Report
  | noBegin first => do
      let shown ← first.elim (some "empty token list") Token.display?
      return {
        kind := .malformedInput
        message := "Token stream does not start with BEGIN"
        received := some shown
        expected := some "BZCalcToken(BEGIN) as the first token"
        context := some "Token lists must come from BZCalcTokenizer.tokenize()" }
  | noFinish => some {
      kind := .malformedInput
      message := "Token stream ended without END"
      expected := some "BZCalcToken(END) as the last token"
      context := some "Token lists must come from BZCalcTokenizer.tokenize()" }
  | unexpected token =>
      if token.kind = .closeBracket then
        Report.unexpectedToken? (some token) "Unexpected closing bracket" (some token.position)
          (some "Remove the ')' or add a matching '(' before it")
      else
        Report.unexpectedToken? (some token) "Unexpected end of expression" (some token.position)
          (some "Add ')' to close every open bracket")
  | stack fault => fault.report?

end ConversionFault

/-- A conversion on its way: the yard and the tokens that are still to come. -/
structure Conversion where
  yard : Yard
  rest : List Token
deriving DecidableEq, Repr, Inhabited

namespace Conversion

/-- What one step of a conversion leads to. -/
inductive Step where
  | done (tokens : List Token)
  | failed (fault : ConversionFault)
  | next (conversion : Conversion)
deriving DecidableEq, Repr, Inhabited

/-- One step: an operand goes to the output, another token to the automaton. -/
def step (conversion : Conversion) : Step :=
  match conversion.rest with
  | [] => .failed .noFinish
  | token :: rest =>
      if token.isOperand then
        .next ⟨{ conversion.yard with output := token :: conversion.yard.output }, rest⟩
      else
        match conversion.yard.actionFor token with
        | .error fault => .failed (.stack fault)
        | .ok .finish => .done conversion.yard.output.reverse
        | .ok .error => .failed (.unexpected token)
        | .ok action =>
            match conversion.yard.apply action token with
            | .error fault => .failed (.stack fault)
            | .ok (yard, advance) => .next ⟨yard, if advance then rest else token :: rest⟩

/-- An upper bound for the steps that are left: each token to come costs two steps at most, one
to put it on the stack and one to take it off. -/
def bound (conversion : Conversion) : Nat :=
  2 * conversion.rest.length + conversion.yard.operators.length

/-- Every action that succeeds either uses the token up, with at most one more token on the
stack, or takes one off the stack. -/
theorem length_of_apply {yard next : Yard} {action : Action} {token : Token}
    {advance : Bool} (h : yard.apply action token = .ok (next, advance)) :
    if advance then next.operators.length ≤ yard.operators.length + 1
    else next.operators.length < yard.operators.length := by
  unfold Yard.apply at h
  split at h <;> cases h <;> simp_all
  omega

/-- A step that goes on lowers the bound. -/
theorem bound_lt_of_step {conversion next : Conversion} (h : conversion.step = .next next) :
    next.bound < conversion.bound := by
  unfold step at h
  split at h
  · cases h
  · rename_i token rest hrest
    split at h
    · cases h
      simp [bound, hrest]
    · split at h
      · cases h
      · cases h
      · cases h
      · split at h
        · cases h
        · rename_i yard advance happly
          cases h
          have hlength := length_of_apply happly
          cases advance <;> simp_all [bound]
          omega

/-- Runs a conversion to its end. -/
def run (conversion : Conversion) : Except ConversionFault (List Token) :=
  match _h : conversion.step with
  | .done tokens => .ok tokens
  | .failed fault => .error fault
  | .next next => run next
termination_by conversion.bound
decreasing_by exact bound_lt_of_step _h

end Conversion

/-- The tokens of an expression in postfix order, without sentinels and brackets. -/
def toPostfix (tokens : List Token) : Except ConversionFault (List Token) :=
  match tokens with
  | [] => .error (.noBegin none)
  | first :: rest =>
      if first.kind = .begin then
        Conversion.run ⟨⟨[first], []⟩, rest⟩
      else
        .error (.noBegin (some first))

/-- Tokens as a text, one space between two of them, if all of them can be written. -/
def formatTokens? (tokens : List Token) : Option String :=
  " ".intercalate <$> tokens.mapM Token.text?

end Abacus
