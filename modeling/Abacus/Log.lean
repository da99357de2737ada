/-
Module: Abacus.Log
Purpose: Log records and the sources that they come from.
Main exports: Level, Source, Record
-/

namespace Abacus.Log

/-- How grave a record is. -/
inductive Level where
  | debug
  | info
  | warning
  | error
  | critical
deriving DecidableEq, Repr, Inhabited

/-- The name of a level. -/
def Level.name : Level → String
  | debug => "DEBUG"
  | info => "INFO"
  | warning => "WARNING"
  | error => "ERROR"
  | critical => "CRITICAL"

/-- The number of a level. -/
def Level.number : Level → Nat
  | debug => 10
  | info => 20
  | warning => 30
  | error => 40
  | critical => 50

/-- The parts of the program that write records. -/
inductive Source where
  | server
  | dispatcher
  | calculation
  | pages
  | uncaught
deriving DecidableEq, Repr, Inhabited

/-- The name of a source in log files. -/
def Source.name : Source → String
  | server => "BZCalcServer"
  | dispatcher => "BZCalcDispatcher"
  | calculation => "BZCalcCalculateHandler"
  | pages => "BZCalcStaticFileHandler"
  | uncaught => "GlobalExceptionHandler"

/-- A log record, without its time. -/
structure Record where
  level : Level
  source : Source
  message : String
deriving DecidableEq, Repr, Inhabited

end Abacus.Log
