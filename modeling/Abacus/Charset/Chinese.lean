/-
Module: Abacus.Charset.Chinese
Purpose: Charsets of Chinese: GB 2312 and the larger ones around it, and Big5 with those of Windows
  and of Hong Kong.
Main exports: readGb2312, readGbk, readGb18030, readBig5, readWindowsBig5, readHongKong
-/
import Abacus.Charset.Grid.Big5
import Abacus.Charset.Grid.Gb18030
import Abacus.Charset.Grid.Gb2312
import Abacus.Charset.Grid.Hkscs
import Abacus.Charset.Reading
import Std.Data.HashSet

namespace Abacus.Charset

/-- GB 2312. -/
def readGb2312 : Reading Unit :=
  pairwise asciiChar? fun a b => ([·]) <$> gb2312.charFrom? 0xA1 a b

/-- The ideographs of the first block that GB 2312 has not, in their order. -/
def furtherIdeographs : Array Char :=
  let known := Std.HashSet.ofList (gb2312.chars.map Char.toNat)
  (((List.range' 0x4E00 20902).filter fun n => !known.contains n).map Char.ofNat).toArray

/-- The cell of a second byte in the rows outside GB 2312. -/
def leftCell? (byte : UInt8) : Option Nat :=
  if 0x40 ≤ byte ∧ byte ≤ 0x7E then some (byte.toNat - 0x40)
  else if 0x80 ≤ byte ∧ byte ≤ 0xFE then some (byte.toNat - 0x41)
  else none

/-- The ideograph of two bytes outside GB 2312. The first 32 rows have 190 cells, the others 96. -/
def furtherIdeograph? (a b : UInt8) : Option Char := do
  let cell ← leftCell? b
  if 0x81 ≤ a ∧ a ≤ 0xA0 then furtherIdeographs[(a.toNat - 0x81) * 190 + cell]?
  else if 0xAA ≤ a ∧ a ≤ 0xFE ∧ cell < 96 then
    furtherIdeographs[32 * 190 + (a.toNat - 0xAA) * 96 + cell]?
  else none

/-- The character in a cell of the second field, whose rows are named by their byte. -/
def leftChar? (grid : Grid) (a b : UInt8) : Option Char := do
  let cell ← leftCell? b
  grid.char? a.toNat cell

/-- The character of two bytes in GBK. -/
def gbkChar? (a b : UInt8) : Option Char :=
  (gbk.charFrom? 0xA1 a b).or <| (gb2312.charFrom? 0xA1 a b).or <|
    (furtherIdeograph? a b).or (leftChar? gbkLeft a b)

/-- GB 2312 with all ideographs of the first block. -/
def readGbk : Reading Unit :=
  pairwise asciiChar? fun a b => ([·]) <$> gbkChar? a b

/-- The character for private use of two bytes in GB 18030. -/
def privateChar? (a b : UInt8) : Option Char := do
  let cell ← leftCell? b
  if 0xA1 ≤ b ∧ b ≤ 0xFE ∧ 0xAA ≤ a ∧ a ≤ 0xAF then
    some (Char.ofNat (0xE000 + (a.toNat - 0xAA) * 94 + (b.toNat - 0xA1)))
  else if 0xA1 ≤ b ∧ b ≤ 0xFE ∧ 0xF8 ≤ a ∧ a ≤ 0xFE then
    some (Char.ofNat (0xE234 + (a.toNat - 0xF8) * 94 + (b.toNat - 0xA1)))
  else if b ≤ 0xA0 ∧ 0xA1 ≤ a ∧ a ≤ 0xA7 then
    some (Char.ofNat (0xE4C6 + (a.toNat - 0xA1) * 96 + cell))
  else none

/-- The character of two bytes in GB 18030. -/
def gb18030Char? (a b : UInt8) : Option Char :=
  (gb18030.charFrom? 0xA1 a b).or <| (gbkChar? a b).or <|
    (leftChar? gb18030Left a b).or (privateChar? a b)

/-- The character of the sequence of four bytes with a number: first what two bytes leave out of
the first plane, and with a gap the other planes. -/
def sequenceChar? (number : Nat) : Option Char :=
  if number < 39420 then do
    let (start, first) ← (gb18030Ranges.takeWhile (·.1 ≤ number)).getLast?
    some (Char.ofNat (first + (number - start)))
  else if 189000 ≤ number ∧ number < 189000 + 0x100000 then
    some (Char.ofNat (0x10000 + (number - 189000)))
  else none

/-- The place of a byte between two bounds. -/
def placeBetween? (low high byte : UInt8) : Option Nat :=
  if low ≤ byte ∧ byte ≤ high then some (byte.toNat - low.toNat) else none

/-- The number of a sequence of four bytes. -/
def sequenceNumber? (a b c d : UInt8) : Option Nat := do
  let a ← placeBetween? 0x81 0xFE a
  let b ← placeBetween? 0x30 0x39 b
  let c ← placeBetween? 0x81 0xFE c
  let d ← placeBetween? 0x30 0x39 d
  some (((a * 10 + b) * 126 + c) * 10 + d)

/-- GBK with all other characters, most of them in sequences of four bytes whose second and fourth
are digits. -/
def readGb18030 : Reading Unit
  | _, a :: b :: c :: d :: rest =>
      if 0x80 ≤ a ∧ 0x30 ≤ b ∧ b ≤ 0x39 then do
        let character ← sequenceChar? (← sequenceNumber? a b c d)
        some ([character], (), rest)
      else pairwise asciiChar? (fun a b => ([·]) <$> gb18030Char? a b) () (a :: b :: c :: d :: rest)
  | _, bytes => pairwise asciiChar? (fun a b => ([·]) <$> gb18030Char? a b) () bytes

/-- The row and the cell of two bytes in Big5. -/
def big5Place? (a b : UInt8) : Option (Nat × Nat) :=
  if a < 0x81 ∨ a = 0xFF then none
  else if 0x40 ≤ b ∧ b ≤ 0x7E then some (2 * (a.toNat - 0x81), b.toNat - 0x3F)
  else if 0xA1 ≤ b ∧ b ≤ 0xFE then some (2 * (a.toNat - 0x81) + 1, b.toNat - 0xA0)
  else none

/-- Big5. -/
def readBig5 : Reading Unit :=
  pairwise asciiChar? fun a b => do
    let (row, cell) ← big5Place? a b
    ([·]) <$> big5.char? row cell

/-- Code page 950: Big5 with more characters. -/
def readWindowsBig5 : Reading Unit :=
  pairwise asciiChar? fun a b => do
    let (row, cell) ← big5Place? a b
    ([·]) <$> ((windowsChinese.char? row cell).or (big5.char? row cell))

/-- The characters in a row and a cell of Big5 with those of Hong Kong, to which five rows belong
alone. -/
def hongKongChars? (row cell : Nat) : Option (List Char) :=
  match hkscsPairs.lookup (row, cell) with
  | some pair => some pair.toList
  | none =>
      let common := if 139 ≤ row ∧ row ≤ 143 then none else big5.char? row cell
      ([·]) <$> common.or (hkscs.char? row cell)

/-- Big5 with the characters of Hong Kong. -/
def readHongKong : Reading Unit :=
  pairwise asciiChar? fun a b => do
    let (row, cell) ← big5Place? a b
    hongKongChars? row cell

end Abacus.Charset
