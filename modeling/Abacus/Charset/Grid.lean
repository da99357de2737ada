/-
Module: Abacus.Charset.Grid
Purpose: Tables of characters in rows and cells, written as blocks of lines that begin in one cell.
Main exports: Grid, Grid.char?
-/

namespace Abacus.Charset

/-- Lines of characters, one for each row from the first on. Every line begins in the same cell,
and the replacement character stands where there is none. -/
structure Block where
  row : Nat
  cell : Nat
  lines : List String
deriving DecidableEq, Repr, Inhabited

/-- The character of a block in a row and a cell. -/
def Block.char? (block : Block) (row cell : Nat) : Option Char :=
  if row < block.row ∨ cell < block.cell then none
  else do
    let line ← block.lines[row - block.row]?
    let c ← line.toList[cell - block.cell]?
    if c = '\ufffd' then none else some c

/-- A table of characters. -/
abbrev Grid :=
  List Block

namespace Grid

/-- The character in a row and a cell. -/
def char? (grid : Grid) (row cell : Nat) : Option Char :=
  grid.findSome? fun block => block.char? row cell

/-- All characters of a table. -/
def chars (grid : Grid) : List Char :=
  (grid.flatMap Block.lines).flatMap fun line => line.toList.filter (· ≠ '\ufffd')

end Grid

end Abacus.Charset
