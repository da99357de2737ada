/-
Module: Abacus.Charset.Japanese
Purpose: Charsets of Japanese. In the shifted ones a first byte stands for two rows of a table;
  in the others a row and a cell are one byte each, and further tables follow a byte of their own.
Main exports: JisEdition, readShifted, readWindowsShifted, readShifted0213, readExtended,
  readExtended0213
-/
import Abacus.Charset.Grid.JisX0208
import Abacus.Charset.Grid.JisX0212
import Abacus.Charset.Grid.JisX0213
import Abacus.Charset.Reading

namespace Abacus.Charset

/-- The editions of JIS X 0213. -/
inductive JisEdition where
  | first
  | second
deriving DecidableEq, Repr, Inhabited

/-- The characters in a place of the first plane of JIS X 0213. -/
def firstPlane? (edition : JisEdition) (row cell : Nat) : Option (List Char) :=
  if edition = .first ∧ (row, cell) ∈ jisX0213Later then none
  else
    match jisX0213Pairs.lookup (row, cell) with
    | some pair => some pair.toList
    | none => ([·]) <$> ((jisX0208.char? row cell).or (jisX0213.char? row cell))

/-- The character in a place of the second plane of JIS X 0213, where one place differs between
the editions. -/
def secondPlane? (edition : JisEdition) (row cell : Nat) : Option Char :=
  if edition = .first ∧ (row, cell) = (93, 27) then some '鬝'
  else jisX0213Second.char? row cell

/-- The letter of the syllabary in half width that a byte stands for. -/
def kana? (byte : UInt8) : Option Char :=
  if 0xA1 ≤ byte ∧ byte ≤ 0xDF then some (Char.ofNat (0xFEC0 + byte.toNat)) else none

/-- The character of a byte in the Roman set of Japanese, which has two signs of its own. -/
def romanChar? (byte : UInt8) : Option Char :=
  if byte = 0x5C then some '¥'
  else if byte = 0x7E then some '‾'
  else asciiChar? byte

/-- Which pair of rows the first byte of a shifted charset stands for. -/
def rowPair? (byte : UInt8) : Option Nat :=
  if 0x81 ≤ byte ∧ byte ≤ 0x9F then some (byte.toNat - 0x81)
  else if 0xE0 ≤ byte ∧ byte ≤ 0xFC then some (byte.toNat - 0xC1)
  else none

/-- The place in a pair of rows that the second byte of a shifted charset stands for. -/
def pairPlace? (byte : UInt8) : Option Nat :=
  if 0x40 ≤ byte ∧ byte ≤ 0x7E then some (byte.toNat - 0x40)
  else if 0x80 ≤ byte ∧ byte ≤ 0xFC then some (byte.toNat - 0x41)
  else none

/-- The row and the cell that two bytes of a shifted charset stand for. -/
def shiftedPlace? (a b : UInt8) : Option (Nat × Nat) := do
  let pair ← rowPair? a
  let place ← pairPlace? b
  some (2 * pair + place / 94 + 1, place % 94 + 1)

/-- JIS X 0208, shifted. -/
def readShifted : Reading Unit :=
  pairwise (fun a => (asciiChar? a).or (kana? a)) fun a b => do
    let (row, cell) ← shiftedPlace? a b
    ([·]) <$> jisX0208.char? row cell

/-- The character of a single byte in code page 932. -/
def windowsKana? (byte : UInt8) : Option Char :=
  if byte ≤ 0x80 then some (Char.ofNat byte.toNat)
  else if byte = 0xA0 then some '\uf8f0'
  else if 0xFD ≤ byte then some (Char.ofNat (0xF8F1 + (byte.toNat - 0xFD)))
  else kana? byte

/-- Code page 932: JIS X 0208, shifted, with more characters and twenty rows for private use. -/
def readWindowsShifted : Reading Unit :=
  pairwise windowsKana? fun a b => do
    let (row, cell) ← shiftedPlace? a b
    if 95 ≤ row ∧ row ≤ 114 then some [Char.ofNat (0xE000 + 94 * (row - 95) + (cell - 1))]
    else ([·]) <$> ((windowsJapanese.char? row cell).or (jisX0208.char? row cell))

/-- The rows of the second plane of JIS X 0213 in the order that its shifted form has them in,
behind the 94 rows of the first. -/
def secondPlaneRows : List Nat :=
  [1, 8, 3, 4, 5, 12, 13, 14, 15] ++ List.range' 78 17

/-- The characters in a row and a cell of JIS X 0213 in its shifted form. -/
def shifted0213? (edition : JisEdition) (row cell : Nat) : Option (List Char) :=
  if row > 94 then do
    let row ← secondPlaneRows[row - 95]?
    ([·]) <$> secondPlane? edition row cell
  else if (row, cell) = (1, 32) then some ['\\']
  else firstPlane? edition row cell

/-- JIS X 0213, shifted. -/
def readShifted0213 (edition : JisEdition) : Reading Unit :=
  pairwise (fun a => (romanChar? a).or (kana? a)) fun a b => do
    let (row, cell) ← shiftedPlace? a b
    shifted0213? edition row cell

/-- The bytes behind a first byte of 8E are letters of the syllabary in half width. -/
def extendedPair? (two : Nat → Nat → Option (List Char)) (a b : UInt8) : Option (List Char) :=
  if a = 0x8E then ([·]) <$> kana? b else two (a.toNat - 0xA0) (b.toNat - 0xA0)

/-- Extended code of Japanese: JIS X 0208, and JIS X 0212 behind a byte of 8F. -/
def readExtended : Reading Unit
  | _, 0x8F :: a :: b :: rest => ([·], (), rest) <$> jisX0212.charFrom? 0xA1 a b
  | _, bytes =>
      pairwise asciiChar? (extendedPair? fun row cell => ([·]) <$> jisX0208.char? row cell) () bytes

/-- The characters in a row and a cell of JIS X 0213 in its extended form, where the tilde has full
width. -/
def extended0213? (edition : JisEdition) (row cell : Nat) : Option (List Char) :=
  if (row, cell) = (2, 18) then some ['～'] else firstPlane? edition row cell

/-- Extended code of Japanese with JIS X 0213: its first plane, and behind a byte of 8F the second
one, where JIS X 0212 fills the gaps. -/
def readExtended0213 (edition : JisEdition) : Reading Unit
  | _, 0x8F :: a :: b :: rest =>
      ([·], (), rest) <$>
        ((secondPlane? edition (a.toNat - 0xA0) (b.toNat - 0xA0)).or (jisX0212.charFrom? 0xA1 a b))
  | _, bytes => pairwise asciiChar? (extendedPair? (extended0213? edition)) () bytes

end Abacus.Charset
