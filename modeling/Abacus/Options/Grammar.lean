/-
Module: Abacus.Options.Grammar
Purpose: The options of a command line: their names, what they take, and the values they get.
Main exports: Kind, Opt, Grammar, Value, Parsed, Stop
-/
import Abacus.Text.Quoted

namespace Abacus.Options

/-- What an option takes: nothing, a text, a whole number, or one of some words. The option that
asks for help ends the reading of a command line. -/
inductive Kind where
  | help
  | flag
  | text
  | whole
  | choice (words : List String)
deriving DecidableEq, Repr, Inhabited

/-- Whether an option of this kind takes a value. -/
def Kind.takesValue : Kind → Bool
  | help | flag => false
  | text | whole | choice _ => true

/-- An option, known to the program by its key and to the user by its names. -/
structure Opt (κ : Type) where
  key : κ
  names : List String
  kind : Kind
deriving DecidableEq, Repr

/-- The name of an option in messages. -/
def Opt.label (opt : Opt κ) : String :=
  "/".intercalate opt.names

/-- The options of a program, and whether it takes operands. -/
structure Grammar (κ : Type) where
  options : List (Opt κ)
  operands : Bool

/-- All names of options, with their options, in order. -/
def Grammar.names (grammar : Grammar κ) : List (String × Opt κ) :=
  grammar.options.flatMap fun opt => opt.names.map fun name => (name, opt)

/-- The option with the given name. -/
def Grammar.find? (grammar : Grammar κ) (name : String) : Option (Opt κ) :=
  grammar.names.lookup name

/-- The value that an option gets. -/
inductive Value where
  | present
  | text (s : String)
  | whole (n : Int)
  /-- The separator was attached where the value should stand: the option has no value. -/
  | blank
deriving DecidableEq, Repr, Inhabited

/-- What a command line says: the values of options, the last ones first, the operands if there
was a place for them, and what was not understood. -/
structure Parsed (κ : Type) where
  values : List (κ × Value) := []
  operands : Option (List String) := none
  extras : List String := []
deriving Repr

/-- The value of an option: the one given last. -/
def Parsed.value? [BEq κ] (parsed : Parsed κ) (key : κ) : Option Value :=
  parsed.values.lookup key

/-- The text of an option. -/
def Parsed.text? [BEq κ] (parsed : Parsed κ) (key : κ) : Option String :=
  match parsed.value? key with
  | some (.text s) => some s
  | _ => none

/-- The number of an option. -/
def Parsed.whole? [BEq κ] (parsed : Parsed κ) (key : κ) : Option Int :=
  match parsed.value? key with
  | some (.whole n) => some n
  | _ => none

/-- Whether an option was given without a value. -/
def Parsed.isBlank [BEq κ] (parsed : Parsed κ) (key : κ) : Bool :=
  parsed.value? key == some .blank

/-- Why the reading of a command line stops: help is asked for, or something is wrong. -/
inductive Stop where
  | help
  | error (message : String)
deriving DecidableEq, Repr, Inhabited

end Abacus.Options
