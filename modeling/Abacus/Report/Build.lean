/-
Module: Abacus.Report.Build
Purpose: Reports built from their parts, for those who report on their own. Each kind takes its
  own parts; the texts of the kinds for a single cause are made from what they are about.
Main exports: Parts, BuildFault, Report.build
-/
import Abacus.Report

namespace Abacus.Report

/-- The parts that a report may be built from. -/
structure Parts where
  message : Option String := none
  position : Option Int := none
  received : Option String := none
  expected : Option String := none
  context : Option String := none
  suggestion : Option String := none
  symbol : Option String := none
  literal : Option String := none
  maxLiteral : Option Int := none
  token : Option Token := none
deriving DecidableEq, Repr, Inhabited

/-- Why parts make no report. -/
inductive BuildFault where
  | noSymbol
  | symbolLength (length : Nat)
  | noLiteral
  /-- A number has too many digits to be written. -/
  | unwritable
deriving DecidableEq, Repr, Inhabited

/-- The words for parts that make no report. -/
def BuildFault.message : BuildFault → String
  | noSymbol => "ord() expected string of length 1, but NoneType found"
  | symbolLength length => s!"ord() expected a character, but string of length {length} found"
  | noLiteral => "'NoneType' object is not subscriptable"
  | unwritable => Text.unwritableMessage

/-- A report, if it could be made. -/
def built (report : Option Report) : Except BuildFault Report :=
  match report with
  | some report => .ok report
  | none => .error .unwritable

/-- The report of a kind, from its parts. -/
def build (kind : Kind) (parts : Parts) : Except BuildFault Report :=
  let message := parts.message.getD unknownPart
  match kind with
  | .unknownSymbol =>
      match parts.symbol.map String.toList with
      | none => .error .noSymbol
      | some [c] => built (unknownSymbol? c parts.position)
      | some symbol => .error (.symbolLength symbol.length)
  | .literalOverflow =>
      match parts.literal with
      | none => .error .noLiteral
      | some literal => built (literalOverflow? literal parts.position parts.maxLiteral)
  | .unexpectedToken =>
      built (unexpectedToken? parts.token message parts.position parts.suggestion)
  | kind => built <| made? {
      kind := kind
      message := message
      position := parts.position
      received := parts.received
      expected := parts.expected
      context := parts.context
      suggestion := parts.suggestion }

end Abacus.Report
