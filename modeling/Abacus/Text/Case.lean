/-
Module: Abacus.Text.Case
Purpose: Lower and upper case of texts of any script. A character may have a form of several
  characters, and a capital sigma at the end of a word has a small form of its own.
Main exports: lower, upper
-/
import Abacus.Text.Case.Table
import Abacus.Text.Range

namespace Abacus.Text

namespace Case

/-- The image of a code point under a table of runs; one that lies on no run is kept. -/
def runImage (runs : List (Nat × Nat × Nat × Nat)) (n : Nat) : Nat :=
  let run := runs.find? fun (first, last, step, _) =>
    first ≤ n && n ≤ last && (n - first) % step == 0
  match run with
  | some (first, _, _, image) => image + (n - first)
  | none => n

/-- Whether the next character of a text that is not skipped has a case. -/
def meetsCased (text : List Char) : Bool :=
  match text.dropWhile (inRanges caseIgnorable) with
  | [] => false
  | c :: _ => inRanges cased c

/-- A sigma ends a word if a letter stands before it and none after it. The text before it is
given from right to left. -/
def endsWord (before after : List Char) : Bool :=
  meetsCased before && !meetsCased after

/-- The lower-case form of a character in its place in a text. -/
def lowerChar (before : List Char) (c : Char) (after : List Char) : List Char :=
  if c = 'Σ' then
    if endsWord before after then ['ς'] else ['σ']
  else if c = 'İ' then
    ['i', '\u0307']
  else
    [Char.ofNat (runImage lowerRuns c.toNat)]

/-- Lower case of the rest of a text, with what stands before it from right to left. -/
def lowerFrom (before : List Char) : List Char → List Char
  | [] => []
  | c :: after => lowerChar before c after ++ lowerFrom (c :: before) after

/-- The upper-case form of a character. -/
def upperChar (c : Char) : List Char :=
  match longUppers.lookup c.toNat with
  | some image => image.map Char.ofNat
  | none => [Char.ofNat (runImage upperRuns c.toNat)]

end Case

/-- The text in lower case. -/
def lower (text : String) : String :=
  String.ofList (Case.lowerFrom [] text.toList)

/-- The text in upper case. -/
def upper (text : String) : String :=
  String.ofList (text.toList.flatMap Case.upperChar)

end Abacus.Text
