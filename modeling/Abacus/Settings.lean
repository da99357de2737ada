/-
Module: Abacus.Settings
Purpose: The settings of the server, the values they may have, and the names of the two ways to
  dispatch evaluations to threads.
Main exports: DispatchMode, Settings, SettingsFault, Settings.validate
-/
import Abacus.Calculator
import Abacus.Text.Case

namespace Abacus

/-- How evaluations are put on threads: a pool of workers, or a thread for each request. -/
inductive DispatchMode where
  | pool
  | thread
deriving DecidableEq, Repr, Inhabited

/-- Why settings cannot be used. -/
inductive SettingsFault where
  | port (n : Int)
  | workers (n : Int)
  | literal (n : Int)
  | extension (text : String)
  | mode (name : String)
deriving DecidableEq, Repr, Inhabited

/-- What a user is told about settings that cannot be used. Their numbers were read from texts, so
they have few enough digits to be shown. -/
def SettingsFault.message : SettingsFault → String
  | port n => s!"Port must be between 1 and 65535, got {n}"
  | workers n => s!"max_workers must be at least 1, got {n}"
  | literal n => s!"max_literal must not be negative, got {n}"
  | extension text => s!"Static extension must start with '.', got {Text.quoted text}"
  | mode name => s!"Unknown dispatch mode: {Text.quoted name}"

namespace DispatchMode

/-- The name of a way to dispatch in log lines. -/
def label : DispatchMode → String
  | pool => "POOL"
  | thread => "THREAD_PER_REQUEST"

/-- The name of a way to dispatch in a settings file. -/
def name : DispatchMode → String
  | pool => "pool"
  | thread => "thread"

/-- The way to dispatch that a name stands for, in any case and with hyphens or underscores. -/
def ofName (name : String) : Except SettingsFault DispatchMode :=
  let plain := (Text.lower name).map fun c => if c = '-' then '_' else c
  if plain = "pool" then .ok pool
  else if plain = "thread" ∨ plain = "thread_per_request" then .ok thread
  else .error (.mode name)

end DispatchMode

/-- The settings of the server. -/
structure Settings where
  host : String := "0.0.0.0"
  port : Int := 49212
  /-- The directory of the static pages; empty if none are served. -/
  resourcePath : String := ""
  dispatchMode : DispatchMode := .pool
  /-- The number of workers of a pool; none for four workers a processor. -/
  maxWorkers : Option Int := none
  staticExtensions : List String := [".html"]
  maxLiteral : Int := defaultMaxLiteral
deriving DecidableEq, Repr, Inhabited

namespace Settings

/-- The number of workers, for a machine with the given number of processors, if it is known.
There are two at least, unless the settings give a number. -/
def workerCount (settings : Settings) (processors : Option Nat) : Int :=
  match settings.maxWorkers with
  | some n => n
  | none =>
      let known := match processors with
        | some 0 | none => 1
        | some n => n
      max 2 (known * 4 : Nat)

/-- The first thing that is wrong with the settings. -/
def fault? (settings : Settings) : Option SettingsFault :=
  if ¬(1 ≤ settings.port ∧ settings.port ≤ 65535) then some (.port settings.port)
  else
    match settings.maxWorkers.filter (· < 1) with
    | some n => some (.workers n)
    | none =>
        if settings.maxLiteral < 0 then some (.literal settings.maxLiteral)
        else
          let plain := settings.staticExtensions.find? fun text => text.toList.head? ≠ some '.'
          plain.map .extension

/-- The settings, if they can be used. -/
def validate (settings : Settings) : Except SettingsFault Settings :=
  match settings.fault? with
  | some fault => .error fault
  | none => .ok settings

end Settings

end Abacus
