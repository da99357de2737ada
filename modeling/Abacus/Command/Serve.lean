/-
Module: Abacus.Command.Serve
Purpose: The command that starts the server. Its settings come from a file, if one is named, and
  the options of the command line go over those.
Main exports: ServeOption, serveGrammar, ConfigFault, buildSettings, ServeOutcome, serve
-/
import Abacus.Command.Outcome
import Abacus.Files.Walk
import Abacus.Server.LogFiles
import Abacus.Settings.Document

namespace Abacus.Command

/-- The options of the command. -/
inductive ServeOption where
  | help
  | config
  | host
  | port
  | resourcePath
  | dispatch
  | workers
  | logLevel
deriving DecidableEq, Repr, Inhabited

/-- The levels from which the command can be told to log. -/
def logLevels : List Log.Level :=
  [.debug, .info, .warning, .error]

/-- The command line of the command. -/
def serveGrammar : Options.Grammar ServeOption where
  options := [
    ⟨.help, ["-h", "--help"], .help⟩,
    ⟨.config, ["--config"], .text⟩,
    ⟨.host, ["--host"], .text⟩,
    ⟨.port, ["--port"], .whole⟩,
    ⟨.resourcePath, ["--resource-path"], .text⟩,
    ⟨.dispatch, ["--dispatch"], .choice [DispatchMode.pool.name, DispatchMode.thread.name]⟩,
    ⟨.workers, ["--workers"], .whole⟩,
    ⟨.logLevel, ["--log-level"], .choice (logLevels.map Log.Level.name)⟩]
  operands := false

/-- The usage of the command. -/
def serveUsage : String :=
  "usage: bzcalc-server [-h] [--config CONFIG] [--host HOST] [--port PORT]\n" ++
  "                     [--resource-path RESOURCE_PATH]\n" ++
  "                     [--dispatch \x7bpool,thread\x7d] [--workers WORKERS]\n" ++
  "                     [--log-level \x7bDEBUG,INFO,WARNING,ERROR\x7d]\n"

/-- The texts of the command. -/
def serveManual : Manual where
  program := "bzcalc-server"
  usage := serveUsage
  help := serveUsage ++ "\n" ++
    "Serve the BZCalc calculator over HTTP\n\n" ++
    "options:\n" ++
    "  -h, --help            show this help message and exit\n" ++
    "  --config CONFIG       JSON settings file\n" ++
    "  --host HOST           Address to listen on\n" ++
    "  --port PORT           Port to listen on\n" ++
    "  --resource-path RESOURCE_PATH\n" ++
    "                        Directory holding static pages\n" ++
    "  --dispatch \x7bpool,thread\x7d\n" ++
    "                        Evaluation dispatch mode\n" ++
    "  --workers WORKERS     Thread pool size\n" ++
    "  --log-level \x7bDEBUG,INFO,WARNING,ERROR\x7d\n" ++
    "                        Logging level (default: INFO)\n"

/-- Why there are no settings to serve with. -/
inductive ConfigFault where
  | file (path : String) (fault : Files.Fault)
  | document (fault : LoadFault)
  /-- An option whose value is needed was given without one. -/
  | blank (option : ServeOption)
deriving DecidableEq, Repr, Inhabited

namespace ConfigFault

/-- What a user is told about a fault. -/
def message : ConfigFault → String
  | file path fault => fault.message path
  | document fault => fault.message
  | blank .dispatch => "'list' object has no attribute 'lower'"
  | blank .port => "'<=' not supported between instances of 'int' and 'list'"
  | blank .workers => "'<' not supported between instances of 'list' and 'int'"
  | blank _ => "'list' object has no attribute 'upper'"

/-- Whether the command reports a fault and ends. The others end it without a report: a path or
a file that is no text, a number without a whole part, brackets nested too deep, a number with too
many digits anywhere in the file, and an option without a value. -/
def isReported : ConfigFault → Bool
  | file _ .nul => false
  | file _ _ => true
  | document (.encoding _) => false
  | document (.malformed fault _) => !fault.reason.isLimit
  | document (.value _ .infinite) => false
  | document _ => true
  | blank _ => false

end ConfigFault

/-- The settings in the file that a path leads to, in which brackets may be nested as deep as
`depth`. -/
def loadSettings (depth : Nat) (tree : Files.Tree) (path : String) :
    Except ConfigFault Settings :=
  match tree.read path with
  | .error fault => .error (.file path fault)
  | .ok bytes => (Settings.ofBytes depth path bytes).mapError .document

/-- Settings with the values of a command line put over them. -/
def override (settings : Settings) (parsed : Options.Parsed ServeOption) : Settings :=
  { settings with
    host := (parsed.text? .host).getD settings.host
    port := (parsed.whole? .port).getD settings.port
    resourcePath := (parsed.text? .resourcePath).getD settings.resourcePath
    dispatchMode := match parsed.text? .dispatch with
      | some name => if name = DispatchMode.pool.name then .pool else .thread
      | none => settings.dispatchMode
    maxWorkers := match parsed.whole? .workers with
      | some n => some n
      | none => settings.maxWorkers }

/-- Refuses options that were given without a value. -/
def refuseBlank (parsed : Options.Parsed ServeOption) (keys : List ServeOption) :
    Except ConfigFault Unit :=
  match keys.find? parsed.isBlank with
  | some key => .error (.blank key)
  | none => .ok ()

/-- The settings that a command line asks for. An empty path names no file. -/
def buildSettings (depth : Nat) (tree : Files.Tree) (parsed : Options.Parsed ServeOption) :
    Except ConfigFault Settings := do
  let base ← match (parsed.text? .config).getD "" with
    | "" => .ok {}
    | path => loadSettings depth tree path
  refuseBlank parsed [.dispatch, .port]
  let settings ←
    ((override base parsed).validate).mapError fun fault => .document (.refused fault)
  refuseBlank parsed [.workers]
  return settings

/-- How the command ends: before a server runs, or with the settings that it runs with, the level
from which is logged, and the options that leave their setting without a value. -/
inductive ServeOutcome where
  | stopped (outcome : Outcome)
  | served (settings : Settings) (level : String) (blank : List ServeOption)
deriving DecidableEq, Repr, Inhabited

/-- Runs the command, up to the point where the server would start; an error is a fault that the
command does not report. How deep brackets may be nested in a file depends on how the command is
called, since readers of brackets and callers share one stack. -/
def serve (depth : Nat) (tree : Files.Tree) (arguments : List String) :
    Except ConfigFault ServeOutcome :=
  match Options.parse serveGrammar arguments with
  | .error stop => .ok (.stopped (serveManual.stopped stop))
  | .ok parsed =>
      match buildSettings depth tree parsed <* refuseBlank parsed [.logLevel] with
      | .ok settings =>
          .ok (.served settings ((parsed.text? .logLevel).getD Log.Level.info.name)
            ([.host, .resourcePath].filter parsed.isBlank))
      | .error fault =>
          if fault.isReported then
            .ok (.stopped { exit := 2, err := s!"Error: {fault.message}\n" })
          else .error fault

end Abacus.Command
