/-
Module: Abacus.Command.Calculate
Purpose: The command that evaluates expressions, given as operands or, if there are none, one a
  line on standard input.
Main exports: CalculateOption, calculateGrammar, expressionLine, evaluateAll, inputExpressions,
  readsInput, CalculateFault, calculate
-/
import Abacus.Calculator
import Abacus.Command.Outcome
import Abacus.Text.Line
import Abacus.Text.Utf8

namespace Abacus.Command

/-- The options of the command. -/
inductive CalculateOption where
  | help
  | rpn
  | maxLiteral
deriving DecidableEq, Repr, Inhabited

/-- The command line of the command. -/
def calculateGrammar : Options.Grammar CalculateOption where
  options := [
    ⟨.help, ["-h", "--help"], .help⟩,
    ⟨.rpn, ["-r", "--rpn"], .flag⟩,
    ⟨.maxLiteral, ["--max-literal"], .whole⟩]
  operands := true

/-- The usage of the command. -/
def calculateUsage : String :=
  "usage: bzcalc [-h] [-r] [--max-literal MAX_LITERAL] [expressions ...]\n"

/-- The texts of the command. -/
def calculateManual : Manual where
  program := "bzcalc"
  usage := calculateUsage
  help := calculateUsage ++ "\n" ++
    "Evaluate integer arithmetic expressions with +, -, *, / and brackets\n\n" ++
    "positional arguments:\n" ++
    "  expressions           Expressions to evaluate (read one per line from stdin\n" ++
    "                        if omitted)\n\n" ++
    "options:\n" ++
    "  -h, --help            show this help message and exit\n" ++
    "  -r, --rpn             Print the Reverse Polish Notation form instead of the\n" ++
    "                        result\n" ++
    "  --max-literal MAX_LITERAL\n" ++
    "                        Largest integer literal accepted (default:\n" ++
    "                        9223372036854775807)\n\n" ++
    "Examples:\n" ++
    "  bzcalc \"2+3*4\"                  # Result: 14\n" ++
    "  bzcalc --rpn \"(2+3)*4\"          # 2 3 + 4 *\n" ++
    "  echo \"100/20/2\" | bzcalc        # Result: 2\n" ++
    "        \n"

/-- What is shown for an expression that can be evaluated. -/
def shownResult (calculator : Calculator) (rpn : Bool) (expression : String) :
    Except Failure String :=
  if rpn then calculator.formatPostfix expression
  else do
    let n ← calculator.evaluate expression
    match Text.writeWhole? n with
    | some text => .ok s!"Result: {text}"
    | none => .error .unwritable

/-- The line for an expression: on the one output if it can be evaluated, on the other if there is a
report. -/
def expressionLine (calculator : Calculator) (rpn : Bool) (expression : String) :
    Except Failure (Except String String) :=
  match shownResult calculator rpn expression with
  | .ok text => .ok (.ok (text ++ "\n"))
  | .error failure =>
      match failure.report? with
      | some report => .ok (.error (report.text ++ "\n"))
      | none => .error failure

/-- The lines that a list of results puts on the output for successes. -/
def successes (lines : List (Except String String)) : String :=
  String.join (lines.filterMap Except.toOption)

/-- The text of a result that failed. -/
def failure? : Except String String → Option String
  | .error text => some text
  | .ok _ => none

/-- Evaluates expressions one after the other; none affects another, except that a failure without a
report ends it all. -/
def evaluateAll (calculator : Calculator) (rpn : Bool) (expressions : List String) :
    Except Failure Outcome := do
  let lines ← expressions.mapM (expressionLine calculator rpn)
  let failures := lines.filterMap failure?
  return {
    exit := if failures.isEmpty then 0 else 1
    out := successes lines
    err := String.join failures }

/-- The expressions on standard input: the lines that are not blank. -/
def inputExpressions (input : List UInt8) : Except Text.Utf8.Fault (List String) := do
  let text ← Text.Utf8.decodeStream input
  let lines := Text.splitLines (Text.unifyLines text)
  return (lines.filter fun line => !Text.isBlankText line).map String.ofList

/-- Whether the scan of an expression comes to a literal. -/
def meetsLiteral (expression : String) : Bool :=
  match tokenize (-1) expression with
  | .error (.literalOverflow ..) => true
  | _ => false

/-- Why the command breaks off: standard input is no text, a literal is to be compared with a bound
that was given without a value, or a failure has no report. -/
inductive CalculateFault where
  | undecodable (fault : Text.Utf8.Fault)
  | blankLimit
  | unreported (failure : Failure)
deriving DecidableEq, Repr

/-- The words for a fault. -/
def CalculateFault.message : CalculateFault → String
  | undecodable fault => fault.message
  | blankLimit => "'>' not supported between instances of 'int' and 'list'"
  | unreported failure => failure.message

/-- Whether the command reads standard input: only if it gets no operands. -/
def readsInput (arguments : List String) : Bool :=
  match Options.parse calculateGrammar arguments with
  | .error _ => false
  | .ok parsed => (parsed.operands.getD []).isEmpty

/-- Runs the command. Standard input is read only if no expression is given, and it must be
UTF-8 then. -/
def calculate (arguments : List String) (input : List UInt8) :
    Except CalculateFault Outcome :=
  match Options.parse calculateGrammar arguments with
  | .error stop => .ok (calculateManual.stopped stop)
  | .ok parsed => do
      let operands := parsed.operands.getD []
      let expressions ←
        if operands.isEmpty then (inputExpressions input).mapError .undecodable
        else .ok operands
      if parsed.isBlank .maxLiteral ∧ expressions.any meetsLiteral then .error .blankLimit
      else
        let calculator : Calculator := ⟨(parsed.whole? .maxLiteral).getD defaultMaxLiteral⟩
        (evaluateAll calculator (parsed.value? .rpn).isSome expressions).mapError .unreported

end Abacus.Command
