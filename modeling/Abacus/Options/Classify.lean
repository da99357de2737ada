/-
Module: Abacus.Options.Classify
Purpose: Which arguments of a command line are options. An option may be shortened as long as one
  option only fits, and its value may follow an equals sign. What looks like a negative number or
  holds a space is no option unless a name fits. Two hyphens alone end the options.
Main exports: Named, Mark, classify, mark
-/
import Abacus.Options.Grammar
import Abacus.Text.Digit

namespace Abacus.Options

/-- An option as it is written: the option, the name it was found by, and the value attached. -/
structure Named (κ : Type) where
  opt : Opt κ
  name : String
  attached : Option (List Char)
deriving Repr

/-- What an argument is. -/
inductive Mark (κ : Type) where
  | argument
  | separator
  | option (named : Named κ)
  | unknown
deriving Repr

/-- Whether an argument is an option, known or not. -/
def Mark.isOption : Mark κ → Bool
  | option _ | unknown => true
  | argument | separator => false

/-- The text after the first equals sign, if there is one. -/
def attachedValue? (argument : List Char) : Option (List Char) :=
  match argument.dropWhile (· ≠ '=') with
  | [] => none
  | _ :: value => some value

/-- The text before the first equals sign. -/
def beforeValue (argument : List Char) : List Char :=
  argument.takeWhile (· ≠ '=')

/-- The options whose names start as the argument does, or, after a single hyphen, the option of
the letter that follows, with the rest attached. -/
def candidates (grammar : Grammar κ) (argument : List Char) : List (Named κ) :=
  match argument with
  | '-' :: '-' :: _ =>
      grammar.names.filterMap fun (name, opt) =>
        if (beforeValue argument).isPrefixOf name.toList then
          some ⟨opt, name, attachedValue? argument⟩
        else none
  | _ =>
      grammar.names.filterMap fun (name, opt) =>
        if name.toList = argument.take 2 then some ⟨opt, name, some (argument.drop 2)⟩
        else if argument.isPrefixOf name.toList then some ⟨opt, name, none⟩
        else none

/-- The text without a line feed at its end. -/
def dropFinalLineFeed (text : List Char) : List Char :=
  if text.getLast? = some '\n' then text.dropLast else text

/-- Whether an argument looks like a negative number: digits of any script, or digits behind a
point that digits may precede. -/
def looksNegative (argument : List Char) : Bool :=
  match dropFinalLineFeed argument with
  | '-' :: rest =>
      match rest.dropWhile Text.isAnyDigit with
      | [] => !rest.isEmpty
      | '.' :: fraction => !fraction.isEmpty && fraction.all Text.isAnyDigit
      | _ => false
  | _ => false

/-- What is said of an argument that fits several options. -/
def ambiguousMessage (argument : List Char) (found : List (Named κ)) : String :=
  s!"ambiguous option: {String.ofList argument} could match " ++
    ", ".intercalate (found.map Named.name)

/-- The option that an argument names in full, perhaps with a value attached. -/
def inFull? (grammar : Grammar κ) (argument : List Char) : Option (Named κ) :=
  match grammar.find? (String.ofList argument) with
  | some opt => some ⟨opt, String.ofList argument, none⟩
  | none => do
      let value ← attachedValue? argument
      let name := String.ofList (beforeValue argument)
      let opt ← grammar.find? name
      some ⟨opt, name, some value⟩

/-- What an argument before the separator is; an error if it fits several options. -/
def classify (grammar : Grammar κ) (argument : List Char) : Except String (Mark κ) :=
  match argument with
  | [] | ['-'] => .ok .argument
  | '-' :: _ =>
      match inFull? grammar argument with
      | some named => .ok (.option named)
      | none =>
          match candidates grammar argument with
          | [named] => .ok (.option named)
          | [] =>
              if looksNegative argument ∨ ' ' ∈ argument then .ok .argument else .ok .unknown
          | found => .error (ambiguousMessage argument found)
  | _ => .ok .argument

/-- The arguments with what they are. After the separator all are plain arguments. -/
def mark (grammar : Grammar κ) : List String → Except String (List (String × Mark κ))
  | [] => .ok []
  | argument :: rest =>
      if argument = "--" then
        .ok ((argument, .separator) :: rest.map fun text => (text, .argument))
      else do
        let found ← classify grammar argument.toList
        let more ← mark grammar rest
        .ok ((argument, found) :: more)

end Abacus.Options
