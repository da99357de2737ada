/-
Module: Abacus.Text.Line
Purpose: Lines of a text. A line ends with a line feed, a carriage return, or the two together.
Main exports: unifyLines, splitLines
-/
import Abacus.Text.Pieces

namespace Abacus.Text

/-- Every end of line becomes one line feed. -/
def unifyLines : List Char → List Char
  | [] => []
  | '\r' :: '\n' :: rest => '\n' :: unifyLines rest
  | '\r' :: rest => '\n' :: unifyLines rest
  | c :: rest => c :: unifyLines rest

/-- The pieces between the line feeds of a text. -/
def splitLines (text : List Char) : List (List Char) :=
  pieces '\n' text

end Abacus.Text
