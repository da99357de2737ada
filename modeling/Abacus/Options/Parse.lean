/-
Module: Abacus.Options.Parse
Purpose: A command line read from left to right. The first run of plain arguments are the
  operands; later ones, and options that are not known, are complained of at the end.
Main exports: expand, convert, parse
-/
import Abacus.Options.Classify
import Abacus.Text.Whole

namespace Abacus.Options

/-- What is said of an option that is used in a wrong way. -/
def optionError (opt : Opt κ) (words : String) : Stop :=
  .error s!"argument {opt.label}: {words}"

/-- An option with the value attached to it, where it takes one. -/
abbrev Use (κ : Type) :=
  Opt κ × Option String

/-- The options that one argument stands for: after a single hyphen the letters behind an option
that takes no value are further options. -/
def expand (grammar : Grammar κ) (opt : Opt κ) (short : Bool) :
    (attached : List Char) → Except Stop (List (Use κ))
  | [] => .error (optionError opt "ignored explicit argument ''")
  | c :: more =>
      if opt.kind.takesValue then .ok [(opt, some (String.ofList (c :: more)))]
      else
        match if short then grammar.find? (String.ofList ['-', c]) else none with
        | none =>
            .error (optionError opt
              s!"ignored explicit argument {Text.quoted (String.ofList (c :: more))}")
        | some next =>
            match more with
            | [] => .ok [(opt, none), (next, none)]
            | d :: others => ((opt, none) :: ·) <$> expand grammar next short (d :: others)

/-- The options that a named option stands for. -/
def uses (grammar : Grammar κ) (named : Named κ) : Except Stop (List (Use κ)) :=
  match named.attached with
  | none => .ok [(named.opt, none)]
  | some [] =>
      if named.opt.kind.takesValue then .ok [(named.opt, some "")]
      else .error (optionError named.opt "ignored explicit argument ''")
  | some attached => expand grammar named.opt (named.name.toList[1]? != some '-') attached

/-- The value that a text stands for. -/
def convert (opt : Opt κ) (text : String) : Except Stop Value :=
  match opt.kind with
  | .whole =>
      match Text.readWhole? text with
      | some n => .ok (.whole n)
      | none => .error (optionError opt s!"invalid int value: {Text.quoted text}")
  | .choice words =>
      if text ∈ words then .ok (.text text)
      else
        .error (optionError opt (s!"invalid choice: {Text.quoted text} (choose from " ++
          ", ".intercalate (words.map Text.quoted) ++ ")"))
  | _ => .ok (.text text)

/-- Carries out the use of an option. The separator is no value, and is not looked at as one. -/
def apply (parsed : Parsed κ) (use : Use κ) : Except Stop (Parsed κ) :=
  match use.1.kind, use.2 with
  | .help, _ => .error .help
  | _, none => .ok { parsed with values := (use.1.key, .present) :: parsed.values }
  | _, some text => do
      let value ← if text = "--" then .ok .blank else convert use.1 text
      .ok { parsed with values := (use.1.key, value) :: parsed.values }

/-- The last option of an argument takes the next argument as its value, if it takes one and none
is attached. Gives the options with their values, and the arguments that are left. -/
def takeValue (found : List (Use κ)) (rest : List (String × Mark κ)) :
    Except Stop (List (Use κ) × List (String × Mark κ)) :=
  match found.getLast? with
  | some (opt, none) =>
      if opt.kind.takesValue then
        match rest with
        | (text, .argument) :: rest => .ok (found.dropLast ++ [(opt, some text)], rest)
        | _ => .error (optionError opt "expected one argument")
      else .ok (found, rest)
  | _ => .ok (found, rest)

/-- What is left after the value of an option is no longer than before. -/
theorem length_of_takeValue {found uses : List (Use κ)} {rest left : List (String × Mark κ)}
    (h : takeValue found rest = .ok (uses, left)) : left.length ≤ rest.length := by
  unfold takeValue at h
  split at h
  · split at h
    · split at h
      · cases h
        simp
      · cases h
    · cases h
      exact Nat.le_refl _
  · cases h
    exact Nat.le_refl _

/-- The operands in a run of arguments: all but the first separator. -/
def operandsOf (run : List (String × Mark κ)) : List String :=
  (run.map Prod.fst).erase "--"

/-- Reads the arguments that are left. -/
def parseMarked (grammar : Grammar κ) (parsed : Parsed κ) (items : List (String × Mark κ)) :
    Except Stop (Parsed κ) :=
  match items with
  | [] => .ok parsed
  | (text, .unknown) :: rest =>
      parseMarked grammar { parsed with extras := parsed.extras ++ [text] } rest
  | (_, .option named) :: rest =>
      match uses grammar named with
      | .error stop => .error stop
      | .ok found =>
          match h : takeValue found rest with
          | .error stop => .error stop
          | .ok (found, left) =>
              match found.foldlM apply parsed with
              | .error stop => .error stop
              | .ok parsed =>
                  have := length_of_takeValue h
                  parseMarked grammar parsed left
  | item :: rest =>
      have : (rest.dropWhile fun item => !item.2.isOption).length ≤ rest.length :=
        (List.dropWhile_sublist _).length_le
      let run := item :: rest.takeWhile fun item => !item.2.isOption
      let parsed :=
        if grammar.operands ∧ parsed.operands.isNone then
          { parsed with operands := some (operandsOf run) }
        else { parsed with extras := parsed.extras ++ run.map Prod.fst }
      parseMarked grammar parsed (rest.dropWhile fun item => !item.2.isOption)
termination_by items.length

/-- Reads a command line. -/
def parse (grammar : Grammar κ) (arguments : List String) : Except Stop (Parsed κ) := do
  let items ← (mark grammar arguments).mapError .error
  let parsed ← parseMarked grammar {} items
  if parsed.extras.isEmpty then .ok parsed
  else .error (.error ("unrecognized arguments: " ++ " ".intercalate parsed.extras))

end Abacus.Options
