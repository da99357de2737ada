/-
Module: Abacus.Deflate.Frame
Purpose: The frames around compressed blocks. A frame begins with a header and ends with a
  checksum of the data.
Main exports: Unpacked, unpackPlain, unpackZlib, unpackGzip
-/
import Abacus.Deflate.Checksum
import Abacus.Deflate.Inflate

namespace Abacus.Deflate

/-- The data of a frame, and why reading stopped, if it did. -/
structure Unpacked where
  data : Array UInt8
  stop : Option Stop := none
deriving DecidableEq, Repr, Inhabited

/-- Reads blocks and checks what follows them. -/
def unpackBlocks (bytes : List UInt8)
    (check : Array UInt8 → List Bool → Except Stop Unit) : Unpacked :=
  match inflate (bitsOf bytes) with
  | (data, .error stop) => ⟨data, some stop⟩
  | (data, .ok rest) =>
      match check data (align rest) with
      | .error stop => ⟨data, some stop⟩
      | .ok _ => ⟨data, none⟩

/-- Reads blocks without a frame. -/
def unpackPlain (bytes : List UInt8) : Unpacked :=
  unpackBlocks bytes fun _ _ => .ok ()

/-- The number of four bytes, the highest first. -/
def takeBig32 (bits : List Bool) : Except Stop Nat :=
  match takeBytes 4 bits with
  | (_, .error stop) => .error stop
  | (bytes, .ok _) => .ok (bytes.foldl (fun n byte => n * 0x100 + byte.toNat) 0)

/-- Reads a frame with a header of two bytes, and the pair of sums behind the blocks. A dictionary
that is set beforehand is not known. -/
def unpackZlib (bytes : List UInt8) : Unpacked :=
  match bytes with
  | [] | [_] => ⟨#[], some .cut⟩
  | method :: flags :: rest =>
      if (method.toNat * 0x100 + flags.toNat) % 31 ≠ 0 ∨ method &&& 0x0F ≠ 8
          ∨ 0x7F < method then ⟨#[], some .corrupt⟩
      else if flags &&& 0x20 ≠ 0 then
        ⟨#[], some (if rest.length < 4 then .cut else .corrupt)⟩
      else
        unpackBlocks rest fun data bits => do
          if (← takeBig32 bits) = pairSum data then .ok () else .error .corrupt

/-! ### Headers with flags -/

/-- The bytes from behind the next zero on. -/
def skipText : List UInt8 → Except Stop (List UInt8)
  | [] => .error .cut
  | byte :: rest => if byte = 0 then .ok rest else skipText rest

/-- The bytes from behind a field on whose length stands in front. -/
def skipField : List UInt8 → Except Stop (List UInt8)
  | low :: high :: rest =>
      let length := low.toNat + 0x100 * high.toNat
      if rest.length < length then .error .cut else .ok (rest.drop length)
  | _ => .error .cut

/-- Checks the sum of the header, whose first `length` bytes have been read. -/
def checkHeader (header : List UInt8) (rest : List UInt8) : Except Stop (List UInt8) :=
  match rest with
  | low :: high :: after =>
      let read := header.take (header.length - rest.length)
      if low.toNat + 0x100 * high.toNat = crc32 read.toArray % 0x10000 then .ok after
      else .error .corrupt
  | _ => .error .cut

/-- Applies a step to the bytes if the flag is set. -/
def ifSet (flags flag : UInt8) (step : List UInt8 → Except Stop (List UInt8))
    (bytes : List UInt8) : Except Stop (List UInt8) :=
  if flags &&& flag ≠ 0 then step bytes else .ok bytes

/-- The bytes behind a header with flags: further fields, a name and a comment may stand in it,
and its own checksum. -/
def skipHeader (bytes : List UInt8) : Except Stop (List UInt8) :=
  match bytes with
  | [] | [_] => .error .cut
  | 0x1F :: 0x8B :: [] | 0x1F :: 0x8B :: [_] => .error .cut
  | 0x1F :: 0x8B :: method :: flags :: rest => do
      if method ≠ 8 ∨ flags &&& 0xE0 ≠ 0 then .error .corrupt
      else if rest.length < 6 then .error .cut
      else
        let rest ← ifSet flags 0x04 skipField (rest.drop 6)
        let rest ← ifSet flags 0x08 skipText rest
        let rest ← ifSet flags 0x10 skipText rest
        ifSet flags 0x02 (checkHeader bytes) rest
  | _ => .error .corrupt

/-- Reads a frame with a header with flags; the remainder and the length of the data stand behind
the blocks. What follows is ignored. -/
def unpackGzip (bytes : List UInt8) : Unpacked :=
  match skipHeader bytes with
  | .error stop => ⟨#[], some stop⟩
  | .ok rest =>
      unpackBlocks rest fun data bits => do
        let (crc, bits) ← takeNumber 32 bits
        if crc ≠ crc32 data then .error .corrupt
        let (length, _) ← takeNumber 32 bits
        if length = data.size % 0x100000000 then .ok () else .error .corrupt

end Abacus.Deflate
