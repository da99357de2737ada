/-
Module: Abacus.Text.Pieces
Purpose: A text cut at every occurrence of a mark.
Main exports: pieces
-/

namespace Abacus.Text

/-- The pieces between the marks of a text; a text without a mark is one piece. -/
def pieces (mark : Char) : List Char → List (List Char)
  | [] => [[]]
  | c :: rest =>
      if c = mark then [] :: pieces mark rest
      else
        match pieces mark rest with
        | [] => [[c]]
        | piece :: more => (c :: piece) :: more

end Abacus.Text
