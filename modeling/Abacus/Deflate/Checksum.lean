/-
Module: Abacus.Deflate.Checksum
Purpose: Two checksums of bytes: a pair of sums, and the remainder of a polynomial over bits.
Main exports: pairSum, crc32
-/

namespace Abacus.Deflate

/-- The greatest prime below 2 ^ 16. -/
def sumModulus : Nat :=
  65521

/-- The sum of one and the bytes, and above it the sum of all sums on the way. -/
def pairSum (bytes : Array UInt8) : Nat :=
  let (low, high) := bytes.foldl (fun (low, high) byte =>
    let low := (low + byte.toNat) % sumModulus
    (low, (high + low) % sumModulus)) (1, 0)
  high * 0x10000 + low

/-- The remainder after eight more bits; the lowest bit has the highest power. -/
def crcShift : (count : Nat) → UInt32 → UInt32
  | 0, crc => crc
  | count + 1, crc =>
      crcShift count (if crc &&& 1 = 1 then (0xEDB88320 : UInt32) ^^^ (crc >>> 1) else crc >>> 1)

/-- The remainder of bytes by the polynomial of degree 32; all bits are changed before and
after. -/
def crc32 (bytes : Array UInt8) : Nat :=
  let crc := bytes.foldl (fun crc byte => crcShift 8 (crc ^^^ byte.toUInt32)) 0xFFFFFFFF
  (crc ^^^ 0xFFFFFFFF).toNat

end Abacus.Deflate
