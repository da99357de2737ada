/-
Module: Abacus.Report
Purpose: What a user is told when an expression is refused: a message and, as far as they are
  known, the place, what was found, what was expected, the context and a suggestion. Where a number
  in it has too many digits to be written, there is no report.
Main exports: Report, Report.Kind, Report.text, Report.made?
-/
import Abacus.Token

namespace Abacus

namespace Report

/-- The kinds of reports, from the general ones to those for a single cause. -/
inductive Kind where
  | general
  | lexical
  | unknownSymbol
  | literalOverflow
  | syntactic
  | malformedInput
  | unexpectedToken
  | evaluation
  | malformedPostfix
  | stackUnderflow
  | divisionByZero
  | internal
deriving DecidableEq, Repr, Inhabited

/-- The name of a kind, as it is sent to clients. -/
def Kind.name : Kind → String
  | .general => "BZCalcError"
  | .lexical => "BZCalcTokenError"
  | .unknownSymbol => "BZCalcUnknownSymbolError"
  | .literalOverflow => "BZCalcLiteralOverflowError"
  | .syntactic => "BZCalcParseError"
  | .malformedInput => "BZCalcMalformedInputError"
  | .unexpectedToken => "BZCalcUnexpectedTokenError"
  | .evaluation => "BZCalcEvalError"
  | .malformedPostfix => "BZCalcMalformedRpnError"
  | .stackUnderflow => "BZCalcStackUnderflowError"
  | .divisionByZero => "BZCalcDivisionByZeroError"
  | .internal => "BZCalcInternalError"

/-- The more general kinds that a kind belongs to, the nearest one first. -/
def Kind.ancestors : Kind → List Kind
  | .general => []
  | .lexical | .syntactic | .evaluation | .internal => [.general]
  | .unknownSymbol | .literalOverflow => [.lexical, .general]
  | .malformedInput | .unexpectedToken => [.syntactic, .general]
  | .malformedPostfix | .divisionByZero => [.evaluation, .general]
  | .stackUnderflow => [.malformedPostfix, .evaluation, .general]

/-- All kinds. -/
def Kind.all : List Kind :=
  [.general, .lexical, .unknownSymbol, .literalOverflow, .syntactic, .malformedInput,
    .unexpectedToken, .evaluation, .malformedPostfix, .stackUnderflow, .divisionByZero, .internal]

/-- The thing a report is about, where there is one. -/
inductive Subject where
  | symbol (c : Char)
  | literal (digits : String) (limit : Option Int)
  | token (t : Token)
deriving DecidableEq, Repr, Inhabited

end Report

/-- A report on a refused expression. Its text is formed together with it, so that there is no
report whose place has too many digits to be written. -/
structure Report where
  kind : Report.Kind
  message : String
  position : Option Int := none
  received : Option String := none
  expected : Option String := none
  context : Option String := none
  suggestion : Option String := none
  subject : Option Report.Subject := none
deriving DecidableEq, Repr, Inhabited

namespace Report

/-- A labelled line, left out if there is nothing to say. -/
def line (label : String) : Option String → List String
  | none => []
  | some text => if text.isEmpty then [] else [s!"{label}: {text}"]

/-- The lines of a report, in their fixed order. -/
def lines (report : Report) : List String :=
  s!"Error: {report.message}"
    :: line "Position" (report.position.map toString)
    ++ line "Received" report.received
    ++ line "Expected" report.expected
    ++ line "Context" report.context
    ++ line "Suggestion" report.suggestion

/-- The report as a text of several lines. -/
def text (report : Report) : String :=
  "\n".intercalate report.lines

/-- A report with the given parts, if its place can be written. -/
def made? (report : Report) : Option Report :=
  if report.position.all fun place => Text.IsWritable place then some report else none

/-- A report is made as it is. -/
theorem eq_of_made? {report made : Report} (h : made? report = some made) : report = made := by
  unfold made? at h
  split at h
  · exact Option.some.inj h
  · cases h

/-- Advice for symbols that other notations use. -/
def symbolAdvice : Char → Option String
  | '.' => some "Only integer literals are supported, use / to produce fractions"
  | ',' => some "Only integer literals are supported, digit grouping is not allowed"
  | '^' => some "There is no power operator, use repeated multiplication"
  | '%' => some "There is no modulo operator"
  | '[' | ']' => some "Use parentheses ( ) for grouping, not brackets [ ]"
  | '\x7b' | '\x7d' => some "Use parentheses ( ) for grouping, not braces \x7b \x7d"
  | 'x' | '×' => some "Use * for multiplication"
  | '÷' => some "Use / for division"
  | _ => none

/-- The report on a character that belongs to no token. -/
def unknownSymbol? (symbol : Char) (position : Option Int) : Option Report :=
  made? {
    kind := .unknownSymbol
    message := s!"Unknown symbol: {Text.quoted symbol.toString}"
    position := position
    received := some s!"Character: {Text.quoted symbol.toString} (code {symbol.toNat})"
    expected := some "Digits, whitespace, (, ), +, -, * or /"
    suggestion := symbolAdvice symbol
    subject := some (.symbol symbol) }

/-- The first twenty characters of a literal, with dots if there are more. -/
def shorten (literal : String) : String :=
  if literal.length > 20 then String.ofList (literal.toList.take 20) ++ "..." else literal

/-- How a part that is not known is shown where a text needs it. -/
def unknownPart : String :=
  "None"

/-- The report on a number that is greater than the greatest one allowed. -/
def literalOverflow? (literal : String) (position : Option Int) (limit : Option Int) :
    Option Report := do
  let bound ← limit.elim (some unknownPart) Text.writeWhole?
  made? {
    kind := .literalOverflow
    message := "Integer literal is too large"
    position := position
    received := some s!"Literal starting: {shorten literal}"
    expected := some s!"Integer literal no larger than {bound}"
    suggestion := some "Split the value into a product of smaller literals"
    subject := some (.literal literal limit) }

/-- The report on a token that may not stand where it stands. -/
def unexpectedToken? (token : Option Token) (message : String) (position : Option Int)
    (suggestion : Option String) : Option Report := do
  let shown ← token.elim (some unknownPart) Token.display?
  made? {
    kind := .unexpectedToken
    message := message
    position := position
    received := some s!"Token: {shown}"
    suggestion := suggestion
    subject := token.map .token }

end Report

end Abacus
