/-
Module: Abacus.Deflate.Bits
Purpose: Compressed data as bits, the lowest of each byte first, and the numbers in them. Reading
  stops where the data is cut off or breaks a rule.
Main exports: Stop, bitsOf, takeNumber, takeBytes, align
-/

namespace Abacus.Deflate

/-- Why reading stops. -/
inductive Stop where
  /-- The data ends too early. -/
  | cut
  /-- The data breaks a rule. -/
  | corrupt
deriving DecidableEq, Repr, Inhabited

/-- The bits of bytes. -/
def bitsOf (bytes : List UInt8) : List Bool :=
  bytes.flatMap fun byte => (List.range 8).map byte.toNat.testBit

/-- Takes a number of `count` bits, the lowest first. -/
def takeNumber : (count : Nat) → List Bool → Except Stop (Nat × List Bool)
  | 0, bits => .ok (0, bits)
  | _ + 1, [] => .error .cut
  | count + 1, bit :: bits => do
      let (high, rest) ← takeNumber count bits
      return (bit.toNat + 2 * high, rest)

/-- The bits from the next start of a byte on. -/
def align (bits : List Bool) : List Bool :=
  bits.drop (bits.length % 8)

/-- Takes up to `count` bytes: those that are there, and whether all are. -/
def takeBytes : (count : Nat) → List Bool → List UInt8 × Except Stop (List Bool)
  | 0, bits => ([], .ok bits)
  | count + 1, bits =>
      match takeNumber 8 bits with
      | .error stop => ([], .error stop)
      | .ok (byte, rest) =>
          let (bytes, status) := takeBytes count rest
          (UInt8.ofNat byte :: bytes, status)

end Abacus.Deflate
