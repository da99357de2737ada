/-
Module: Abacus.Command.Outcome
Purpose: What a command leaves behind: its exit status and what it wrote.
Main exports: Outcome, Manual, Manual.stopped
-/
import Abacus.Options.Parse

namespace Abacus.Command

/-- The exit status of a command and the texts on its two outputs. -/
structure Outcome where
  exit : Nat
  out : String := ""
  err : String := ""
deriving DecidableEq, Repr, Inhabited

/-- The texts in which a command explains itself. -/
structure Manual where
  program : String
  usage : String
  help : String
deriving DecidableEq, Repr, Inhabited

/-- The outcome of a command whose command line asks for help or is wrong. -/
def Manual.stopped (manual : Manual) : Options.Stop → Outcome
  | .help => { exit := 0, out := manual.help }
  | .error message =>
      { exit := 2, err := s!"{manual.usage}{manual.program}: error: {message}\n" }

end Abacus.Command
