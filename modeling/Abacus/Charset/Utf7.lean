/-
Module: Abacus.Charset.Utf7
Purpose: UTF-7: ASCII, with sections of base-64 digits that stand for code units of 16 bits. A
  plus sign opens a section; what is no digit closes it, and a hyphen that does so is left out.
Main exports: decode7?
-/
import Abacus.Charset.Wide
import Abacus.Text.Base64

namespace Abacus.Charset

/-- The value of a byte that is a base-64 digit. -/
def digitOf? (byte : UInt8) : Option Nat :=
  Text.base64Value? (Char.ofNat byte.toNat)

/-- What has been read of a section and is not written yet. -/
structure Section where
  /-- How many bits have been read of the next code unit. -/
  length : Nat := 0
  /-- Those bits. -/
  bits : Nat := 0
  /-- The first half of a pair whose second half is to come. -/
  high : Option Nat := none
deriving DecidableEq, Repr, Inhabited

namespace Section

/-- Takes a code unit: the character that is complete, if one is. One half of a pair alone is a
fault. -/
def takeUnit (high : Option Nat) (unit : Nat) : Option (List Char × Option Nat) :=
  match high with
  | some first => if isLowHalf unit then some ([joinPair first unit], none) else none
  | none =>
      if isHighHalf unit then some ([], some unit)
      else if isLowHalf unit then none
      else some ([Char.ofNat unit], none)

/-- Takes a digit. -/
def push (s : Section) (digit : Nat) : Option (List Char × Section) :=
  let length := s.length + 6
  let bits := s.bits * 64 + digit
  if length < 16 then some ([], ⟨length, bits, s.high⟩)
  else do
    let (text, high) ← takeUnit s.high (bits >>> (length - 16))
    return (text, ⟨length - 16, bits % (1 <<< (length - 16)), high⟩)

/-- Whether the bits that are left are no more than padding. -/
def isPadded (s : Section) : Bool :=
  s.length < 6 && s.bits = 0

/-- Whether the section may be closed by a byte; the first half of a pair may be left behind only
if a new section follows. -/
def endsBefore (s : Section) (byte : UInt8) : Bool :=
  s.isPadded && (s.high.isNone || !(byte < 0x80))

end Section

/-- Reads the rest of a text, in a section or outside. -/
def read7 (inside : Option Section) (bytes : List UInt8) : Option (List Char) :=
  match inside, bytes with
  | none, [] => some []
  | some s, [] => if s.isPadded ∧ s.high = none then some [] else none
  | none, 0x2B :: 0x2D :: rest => ('+' :: ·) <$> read7 none rest
  | none, [0x2B] => some []
  | none, 0x2B :: byte :: rest =>
      if (digitOf? byte).isSome then read7 (some {}) (byte :: rest) else none
  | none, byte :: rest =>
      if byte < 0x80 then (Char.ofNat byte.toNat :: ·) <$> read7 none rest else none
  | some s, byte :: rest =>
      match digitOf? byte with
      | some digit => do
          let (text, s) ← s.push digit
          (text ++ ·) <$> read7 (some s) rest
      | none =>
          if ¬s.endsBefore byte then none
          else if byte = 0x2D then read7 none rest
          else if byte < 0x80 then (Char.ofNat byte.toNat :: ·) <$> read7 none rest
          else none
termination_by bytes.length

/-- The text of bytes in UTF-7. -/
def decode7? (bytes : List UInt8) : Option (List Char) :=
  read7 none bytes

end Abacus.Charset
