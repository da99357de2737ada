/-
Module: Abacus.Text.Blank
Purpose: White space, by Unicode: the characters of bidirectional class WS, B or S and the
  space separators. More than the ASCII blanks, and without the zero-width ones.
Main exports: isBlank, isDigit_of_isBlank, isBlankText
-/
import Abacus.Text.Digit
import Abacus.Text.Range

namespace Abacus.Text

/-- The ranges of white space. -/
def blanks : List (Nat × Nat) :=
  [(0x9, 0xd), (0x1c, 0x20), (0x85, 0x85), (0xa0, 0xa0), (0x1680, 0x1680), (0x2000, 0x200a),
   (0x2028, 0x2029), (0x202f, 0x202f), (0x205f, 0x205f), (0x3000, 0x3000)]

/-- Whether a character is white space. -/
def isBlank (c : Char) : Bool :=
  inRanges blanks c

/-- White space is no digit. -/
theorem isDigit_of_isBlank {c : Char} (h : isBlank c = true) : isDigit c = false := by
  cases hdigit : isDigit c with
  | false => rfl
  | true =>
      obtain ⟨hleast, hgreatest⟩ := code_of_isDigit hdigit
      simp only [isBlank, inRanges, blanks, List.any_cons, List.any_nil, Bool.or_eq_true,
        Bool.and_eq_true, decide_eq_true_eq, Bool.or_false] at h
      omega

/-- Whether a text holds white space only; the empty text does. -/
def isBlankText (text : List Char) : Bool :=
  text.all isBlank

end Abacus.Text
