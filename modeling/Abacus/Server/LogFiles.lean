/-
Module: Abacus.Server.LogFiles
Purpose: The directory of log files: which entries count as logs, which of them are removed when
  there are too many, and how the log is set up.
Main exports: LogFile, LogFile.isLog, Pruning, removeSurplus, prune, Setup, setup?
-/
import Abacus.Log
import Abacus.Text.Case

namespace Abacus.Server

/-- An entry of the directory of log files. -/
structure LogFile where
  name : String
  created : Rat
  isDirectory : Bool := false
deriving DecidableEq, Repr

/-- Whether one list of characters holds another without a gap. -/
def holds (part : List Char) : List Char → Bool
  | [] => part.isEmpty
  | c :: rest => part.isPrefixOf (c :: rest) || holds part rest

/-- Whether an entry counts as a log: its name holds the ending of logs and is not hidden. -/
def LogFile.isLog (file : LogFile) : Bool :=
  file.name.toList.head? != some '.' && holds ".log".toList file.name.toList

/-- What is left after old logs are removed, and whether more were to be removed than there
are. -/
structure Pruning where
  left : List LogFile
  exhausted : Bool
deriving DecidableEq, Repr

/-- What is said when more logs are to be removed than there are. -/
def exhaustedMessage : String :=
  "pop from empty list"

/-- Logs from the oldest to the newest; of one age they keep their order. -/
def byAge (files : List LogFile) : List LogFile :=
  files.mergeSort fun a b => decide (a.created ≤ b.created)

/-- Whether an entry can be removed. A directory cannot, and the removal of a file may be
refused. -/
def LogFile.isRemovable (refused : LogFile → Bool) (file : LogFile) : Bool :=
  !file.isDirectory && !refused file

/-- Removes the first of the logs from the directory, as long as there are more logs than the
greatest number of them. A log that cannot be removed is passed over and not looked at again. -/
def removeSurplus (refused : LogFile → Bool) (maxLogs : Int) :
    (logs directory : List LogFile) → Pruning
  | [], directory => ⟨directory, maxLogs < 0⟩
  | oldest :: later, directory =>
      if maxLogs < (oldest :: later).length then
        removeSurplus refused maxLogs later
          (if oldest.isRemovable refused then directory.erase oldest else directory)
      else ⟨directory, false⟩

/-- Removes the oldest logs beyond the greatest number of them, where some removals are refused. A
directory counts, but it cannot be removed. -/
def pruneWith (refused : LogFile → Bool) (maxLogs : Int) (files : List LogFile) : Pruning :=
  removeSurplus refused maxLogs (byAge (files.filter LogFile.isLog)) files

/-- Removes the oldest logs beyond the greatest number of them, where no removal is refused. -/
def prune (maxLogs : Int) (files : List LogFile) : Pruning :=
  pruneWith (fun _ => false) maxLogs files

/-- From where on is logged: the number of a level, or a text that stands in its place. -/
inductive Threshold where
  | number (n : Nat)
  | text (s : String)
deriving DecidableEq, Repr, Inhabited

/-- How the log is written: to files of a greatest size, of which some old ones are kept, and to
the terminal. -/
structure Setup where
  level : Threshold
  format : String := "%(asctime)s - %(name)s - %(levelname)s - %(message)s"
  handlers : List String := ["RotatingFileHandler", "StreamHandler"]
  maxBytes : Nat := 1024 * 1024
  backups : Nat := 49
  /-- How many log files the set-up makes. -/
  files : Nat := 1
deriving DecidableEq, Repr, Inhabited

/-- The names that may be asked for. Some levels have two names, and one name stands for the
plain form of a log line. -/
def levels : List (String × Threshold) :=
  [("CRITICAL", .number Log.Level.critical.number), ("FATAL", .number Log.Level.critical.number),
   ("ERROR", .number Log.Level.error.number), ("WARNING", .number Log.Level.warning.number),
   ("WARN", .number Log.Level.warning.number), ("INFO", .number Log.Level.info.number),
   ("DEBUG", .number Log.Level.debug.number), ("NOTSET", .number 0),
   ("BASIC_FORMAT", .text "%(levelname)s:%(name)s:%(message)s")]

/-- The set-up for the name of a level in any case. -/
def setup? (level : String) : Option Setup :=
  (levels.lookup (Text.upper level)).map fun threshold => { level := threshold }

/-- What is said of a level that does not exist. -/
def noLevelMessage (level : String) : String :=
  s!"module 'logging' has no attribute '{Text.upper level}'"

/-- What becomes of an error that nothing handles: an interruption is shown on the terminal, all
else goes to the log. -/
inductive Uncaught where
  | shown (text : String)
  | logged (record : Log.Record)
deriving DecidableEq, Repr, Inhabited

/-- What becomes of an error of the given kind with the given text. -/
def uncaught (kind text : String) : Uncaught :=
  if kind = "KeyboardInterrupt" then
    .shown (if text = "" then kind ++ "\n" else s!"{kind}: {text}\n")
  else .logged ⟨.critical, .uncaught, "Uncaught exception"⟩

end Abacus.Server
