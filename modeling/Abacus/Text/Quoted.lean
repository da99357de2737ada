/-
Module: Abacus.Text.Quoted
Purpose: Texts shown between quotation marks, as messages and log lines show what a user sent.
  Every character that is not printable is written by its number, so a quoted text never
  breaks a line.
Main exports: quoteMark, quoteChar, quoted
-/
import Abacus.Text.Hex
import Abacus.Text.Printable

namespace Abacus.Text

/-- The apostrophe, unless the text holds one and no double mark. -/
def quoteMark (text : List Char) : Char :=
  if '\'' ∈ text ∧ '"' ∉ text then '"' else '\''

/-- One character of a quoted text: the mark and the backslash get a backslash, the three usual
controls their letters, and what is not printable its number in two, four or eight places. -/
def quoteChar (mark c : Char) : List Char :=
  if c = mark ∨ c = '\\' then ['\\', c]
  else if c = '\n' then ['\\', 'n']
  else if c = '\r' then ['\\', 'r']
  else if c = '\t' then ['\\', 't']
  else if isPrintable c then [c]
  else if c.toNat < 0x100 then '\\' :: 'x' :: hex 2 c.toNat
  else if c.toNat < 0x10000 then '\\' :: 'u' :: hex 4 c.toNat
  else '\\' :: 'U' :: hex 8 c.toNat

/-- The quoted form, as a list of characters. -/
def quotedChars (text : List Char) : List Char :=
  let mark := quoteMark text
  mark :: text.flatMap (quoteChar mark) ++ [mark]

/-- The text between quotation marks. -/
def quoted (text : String) : String :=
  String.ofList (quotedChars text.toList)

end Abacus.Text
