/-
Module: Abacus.Deflate.Inflate
Purpose: The data that compressed blocks stand for. A block holds bytes as they are, or symbols in
  a code: bytes, and copies of what has been written before. The codes are fixed, or stand at the
  start of the block.
Main exports: Inflated, inflate
-/
import Abacus.Deflate.Code

namespace Abacus.Deflate

/-- What has been written, and either why reading stopped or what follows. -/
abbrev Inflated :=
  Array UInt8 × Except Stop (List Bool)

/-! ### Symbols -/

/-- The least length and the number of further bits of a symbol that begins a copy. -/
def lengthTable : List (Nat × Nat) :=
  [(3, 0), (4, 0), (5, 0), (6, 0), (7, 0), (8, 0), (9, 0), (10, 0), (11, 1), (13, 1), (15, 1),
   (17, 1), (19, 2), (23, 2), (27, 2), (31, 2), (35, 3), (43, 3), (51, 3), (59, 3), (67, 4),
   (83, 4), (99, 4), (115, 4), (131, 5), (163, 5), (195, 5), (227, 5), (258, 0)]

/-- The least distance and the number of further bits of a symbol for the distance of a copy. -/
def distanceTable : List (Nat × Nat) :=
  [(1, 0), (2, 0), (3, 0), (4, 0), (5, 1), (7, 1), (9, 2), (13, 2), (17, 3), (25, 3), (33, 4),
   (49, 4), (65, 5), (97, 5), (129, 6), (193, 6), (257, 7), (385, 7), (513, 8), (769, 8),
   (1025, 9), (1537, 9), (2049, 10), (3073, 10), (4097, 11), (6145, 11), (8193, 12),
   (12289, 12), (16385, 13), (24577, 13)]

/-- Takes the further bits of an entry of a table. -/
def takeEntry (table : List (Nat × Nat)) (index : Nat) (bits : List Bool) :
    Except Stop (Nat × List Bool) :=
  match table[index]? with
  | none => .error .corrupt
  | some (least, count) => do
      let (more, rest) ← takeNumber count bits
      return (least + more, rest)

/-- The codes of a block. -/
structure Codes where
  symbols : Code
  distances : Code
deriving DecidableEq, Repr, Inhabited

/-- Takes the length and the distance of a copy, from behind its first symbol. -/
def takeCopy (codes : Codes) (symbol : Nat) (bits : List Bool) :
    Except Stop ((Nat × Nat) × List Bool) := do
  let (length, bits) ← takeEntry lengthTable (symbol - 257) bits
  let (place, bits) ← codes.distances.next bits
  let (distance, bits) ← takeEntry distanceTable place bits
  return ((length, distance), bits)

/-- Writes `length` bytes again that were written `distance` bytes ago. -/
def copyBack (distance : Nat) : (length : Nat) → Array UInt8 → Array UInt8
  | 0, written => written
  | length + 1, written =>
      copyBack distance length (written.push (written.getD (written.size - distance) 0))

/-- Reads at most `budget` symbols, up to the one that ends the block. -/
def readSymbols (codes : Codes) : (budget : Nat) → List Bool → Array UInt8 → Inflated
  | 0, _, written => (written, .error .cut)
  | budget + 1, bits, written =>
      match codes.symbols.next bits with
      | .error stop => (written, .error stop)
      | .ok (symbol, bits) =>
          if symbol < 256 then readSymbols codes budget bits (written.push (UInt8.ofNat symbol))
          else if symbol = 256 then (written, .ok bits)
          else
            match takeCopy codes symbol bits with
            | .error stop => (written, .error stop)
            | .ok ((length, distance), bits) =>
                if written.size < distance then (written, .error .corrupt)
                else readSymbols codes budget bits (copyBack distance length written)

/-! ### Codes -/

/-- The codes that are fixed. -/
def fixedCodes : Except Stop Codes := do
  let symbols ← Code.ofLengths? false (List.replicate 144 8 ++ List.replicate 112 9 ++
    List.replicate 24 7 ++ List.replicate 8 8)
  let distances ← Code.ofLengths? false (List.replicate 32 5)
  return ⟨symbols, distances⟩

/-- The order in which the lengths for the code of lengths stand. -/
def lengthOrder : List Nat :=
  [16, 17, 18, 0, 8, 7, 9, 6, 10, 5, 11, 4, 12, 3, 13, 2, 14, 1, 15]

/-- Takes `count` numbers of three bits. -/
def takeShort : (count : Nat) → List Bool → Except Stop (List Nat × List Bool)
  | 0, bits => .ok ([], bits)
  | count + 1, bits => do
      let (n, bits) ← takeNumber 3 bits
      let (more, bits) ← takeShort count bits
      return (n :: more, bits)

/-- Takes what a symbol of the code of lengths stands for: a length and how often it stands. The
last length that was read is given. -/
def takeRun (last : Option Nat) (symbol : Nat) (bits : List Bool) :
    Except Stop ((Nat × Nat) × List Bool) :=
  if symbol < 16 then .ok ((symbol, 1), bits)
  else do
    let (least, count) := if symbol = 16 then (3, 2) else if symbol = 17 then (3, 3) else (11, 7)
    let (more, bits) ← takeNumber count bits
    if symbol = 16 then
      match last with
      | none => .error .corrupt
      | some length => return ((length, least + more), bits)
    else return ((0, least + more), bits)

/-- Takes `count` lengths, in at most `budget` symbols. -/
def takeLengths (code : Code) : (budget count : Nat) → (last : Option Nat) → List Bool →
    Except Stop (List Nat × List Bool)
  | _, 0, _, bits => .ok ([], bits)
  | 0, _ + 1, _, _ => .error .cut
  | budget + 1, count + 1, last, bits => do
      let (symbol, bits) ← code.next bits
      let ((length, times), bits) ← takeRun last symbol bits
      if count + 1 < times then .error .corrupt
      else
        let (more, bits) ← takeLengths code budget (count + 1 - times) (some length) bits
        return (List.replicate times length ++ more, bits)

/-- The code of lengths. If it has no codewords, every bit stands for the length zero. -/
def codeOfLengths (lengths : List Nat) : Except Stop Code :=
  if lengths.all (· = 0) then .ok (.branch (.symbol 0) (.symbol 0))
  else Code.ofLengths? false lengths

/-- Takes the codes at the start of a block. -/
def takeCodes (bits : List Bool) : Except Stop (Codes × List Bool) := do
  let (more, bits) ← takeNumber 5 bits
  let symbolCount := 257 + more
  let (more, bits) ← takeNumber 5 bits
  let distanceCount := 1 + more
  let (more, bits) ← takeNumber 4 bits
  if 286 < symbolCount ∨ 30 < distanceCount then .error .corrupt
  let (short, bits) ← takeShort (4 + more) bits
  let found := lengthOrder.zip short
  let lengthCode ← codeOfLengths ((List.range 19).map fun n => (found.lookup n).getD 0)
  let count := symbolCount + distanceCount
  let (lengths, bits) ← takeLengths lengthCode count count none bits
  if lengths[256]?.getD 0 = 0 then .error .corrupt
  let symbols ← Code.ofLengths? true (lengths.take symbolCount)
  let distances ← Code.ofLengths? true (lengths.drop symbolCount)
  return (⟨symbols, distances⟩, bits)

/-! ### Blocks -/

/-- Reads a block of bytes as they are. Their number stands in front, and once more with all bits
changed. -/
def readStored (bits : List Bool) (written : Array UInt8) : Inflated :=
  let counts : Except Stop ((Nat × Nat) × List Bool) := do
    let (count, bits) ← takeNumber 16 (align bits)
    let (again, bits) ← takeNumber 16 bits
    return ((count, again), bits)
  match counts with
  | .error stop => (written, .error stop)
  | .ok ((count, again), bits) =>
      if count + again ≠ 0xFFFF then (written, .error .corrupt)
      else
        let (bytes, status) := takeBytes count bits
        (written ++ bytes, status)

/-- Reads a block of symbols. -/
def readCoded (codes : Except Stop (Codes × List Bool)) (written : Array UInt8) : Inflated :=
  match codes with
  | .error stop => (written, .error stop)
  | .ok (codes, bits) => readSymbols codes bits.length bits written

/-- Reads a block of the given kind. -/
def readBlock (kind : Nat) (bits : List Bool) (written : Array UInt8) : Inflated :=
  match kind with
  | 0 => readStored bits written
  | 1 => readCoded (fixedCodes.map fun codes => (codes, bits)) written
  | 2 => readCoded (takeCodes bits) written
  | _ => (written, .error .corrupt)

/-- Reads at most `budget` blocks, up to one that is marked as the last. -/
def readBlocks : (budget : Nat) → List Bool → Array UInt8 → Inflated
  | 0, _, written => (written, .error .cut)
  | budget + 1, bits, written =>
      match takeNumber 1 bits with
      | .error stop => (written, .error stop)
      | .ok (last, bits) =>
          match takeNumber 2 bits with
          | .error stop => (written, .error stop)
          | .ok (kind, bits) =>
              match readBlock kind bits written with
              | (written, .ok bits) =>
                  if last = 1 then (written, .ok bits) else readBlocks budget bits written
              | (written, .error stop) => (written, .error stop)

/-- The data that compressed blocks stand for. -/
def inflate (bits : List Bool) : Inflated :=
  readBlocks bits.length bits #[]

end Abacus.Deflate
