/-
Module: Abacus.Charset.Wide
Purpose: UTF-16 and UTF-32: characters as code units of two or four bytes, in either order of the
  bytes. Where no order is given, a mark at the start tells it.
Main exports: ByteOrder, decode16?, decode32?, joinPair
-/

namespace Abacus.Charset

/-- The order of the bytes in a code unit. -/
inductive ByteOrder where
  | little
  | big
deriving DecidableEq, Repr, Inhabited

/-- Whether a number is the first half of a pair. -/
def isHighHalf (unit : Nat) : Bool :=
  0xD800 ≤ unit && unit < 0xDC00

/-- Whether a number is the second half of a pair. -/
def isLowHalf (unit : Nat) : Bool :=
  0xDC00 ≤ unit && unit < 0xE000

/-- The character of a pair. -/
def joinPair (high low : Nat) : Char :=
  Char.ofNat (0x10000 + (high - 0xD800) * 0x400 + (low - 0xDC00))

/-- Code units of two bytes. -/
def units16 (order : ByteOrder) : List UInt8 → Option (List Nat)
  | [] => some []
  | a :: b :: rest =>
      let unit := match order with
        | .little => b.toNat * 0x100 + a.toNat
        | .big => a.toNat * 0x100 + b.toNat
      (unit :: ·) <$> units16 order rest
  | [_] => none

/-- The characters of code units of two bytes; one half of a pair alone is none. -/
def joinUnits16 : List Nat → Option (List Char)
  | [] => some []
  | unit :: rest =>
      if isHighHalf unit then
        match rest with
        | low :: rest =>
            if isLowHalf low then (joinPair unit low :: ·) <$> joinUnits16 rest else none
        | [] => none
      else if isLowHalf unit then none
      else (Char.ofNat unit :: ·) <$> joinUnits16 rest

/-- Characters of four bytes each. -/
def chars32 (order : ByteOrder) : List UInt8 → Option (List Char)
  | [] => some []
  | a :: b :: c :: d :: rest =>
      let number := match order with
        | .little => ((d.toNat * 0x100 + c.toNat) * 0x100 + b.toNat) * 0x100 + a.toNat
        | .big => ((a.toNat * 0x100 + b.toNat) * 0x100 + c.toNat) * 0x100 + d.toNat
      if number.isValidChar then (Char.ofNat number :: ·) <$> chars32 order rest else none
  | _ => none

/-- The text of bytes in UTF-16. -/
def decode16? (order : Option ByteOrder) (bytes : List UInt8) : Option (List Char) :=
  match order, bytes with
  | some order, _ => units16 order bytes >>= joinUnits16
  | none, 0xFF :: 0xFE :: rest => units16 .little rest >>= joinUnits16
  | none, 0xFE :: 0xFF :: rest => units16 .big rest >>= joinUnits16
  | none, _ => units16 .little bytes >>= joinUnits16

/-- The text of bytes in UTF-32. -/
def decode32? (order : Option ByteOrder) (bytes : List UInt8) : Option (List Char) :=
  match order, bytes with
  | some order, _ => chars32 order bytes
  | none, 0xFF :: 0xFE :: 0 :: 0 :: rest => chars32 .little rest
  | none, 0 :: 0 :: 0xFE :: 0xFF :: rest => chars32 .big rest
  | none, _ => chars32 .little bytes

end Abacus.Charset
