/-
Module: Abacus.Charset.Name
Purpose: The names of charsets. Only ASCII letters, digits and points count in a name; runs of
  other characters separate its parts, and case does not matter.
Main exports: plainName, isNamed
-/
import Abacus.Text.Case
import Abacus.Text.Pieces

namespace Abacus.Charset

/-- Whether a character may stand in a name. -/
def isNameChar (c : Char) : Bool :=
  c.isAlphanum || c = '.'

/-- A name in lower case with one underscore between its parts. -/
def plainName (name : String) : String :=
  let marked := name.toList.map fun c => if isNameChar c then c else '_'
  let parts := (Text.pieces '_' marked).filter (· ≠ [])
  Text.lower ("_".intercalate (parts.map String.ofList))

/-- A name with an underscore for every point. -/
def withoutPoints (name : String) : String :=
  String.ofList (name.toList.map fun c => if c = '.' then '_' else c)

/-- Whether a plain name is one of a charset's. A point may stand for an underscore in its other
names, but not in the main one. -/
def isNamed (main : String) (aliases : List String) (name : String) : Bool :=
  name = main || name ∈ aliases || withoutPoints name ∈ aliases

end Abacus.Charset
