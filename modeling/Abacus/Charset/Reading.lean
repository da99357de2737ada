/-
Module: Abacus.Charset.Reading
Purpose: Texts read step by step: every step takes one byte or more from the start and yields the
  characters that they stand for.
Main exports: Reading, Reading.decode?, Reading.decodeMarking, pairwise
-/
import Abacus.Charset.Grid

namespace Abacus.Charset

/-- A step of reading: the characters at the start of bytes, what the bytes before have set, and
the bytes that follow; none if the bytes begin no character. -/
abbrev Reading (State : Type) :=
  State → List UInt8 → Option (List Char × State × List UInt8)

namespace Reading

variable {State : Type}

/-- The text of bytes behind the characters read so far, which stand in reverse, by at most
`budget` steps. -/
def decodeWithin? (read : Reading State) :
    Nat → List Char → State → List UInt8 → Option (List Char)
  | _, done, _, [] => some done.reverse
  | 0, _, _, _ :: _ => none
  | budget + 1, done, state, byte :: rest =>
      match read state (byte :: rest) with
      | some (chars, state, rest) =>
          decodeWithin? read budget (chars.reverse ++ done) state rest
      | none => none

/-- The text of bytes; none if there is a byte that begins no character. -/
def decode? (read : Reading State) (start : State) (bytes : List UInt8) : Option (List Char) :=
  read.decodeWithin? bytes.length [] start bytes

/-- As `decodeWithin?`, with the replacement character for a byte that begins no character. -/
def decodeMarkingWithin (read : Reading State) :
    Nat → List Char → State → List UInt8 → List Char
  | _, done, _, [] => done.reverse
  | 0, done, _, _ :: _ => done.reverse
  | budget + 1, done, state, byte :: rest =>
      match read state (byte :: rest) with
      | some (chars, state, rest) =>
          decodeMarkingWithin read budget (chars.reverse ++ done) state rest
      | none => decodeMarkingWithin read budget ('\ufffd' :: done) state rest

/-- The text of bytes, with the replacement character for every byte that begins no character. -/
def decodeMarking (read : Reading State) (start : State) (bytes : List UInt8) : List Char :=
  read.decodeMarkingWithin bytes.length [] start bytes

end Reading

/-- The character that a byte of ASCII stands for. -/
def asciiChar? (byte : UInt8) : Option Char :=
  if byte < 0x80 then some (Char.ofNat byte.toNat) else none

/-- Characters of one byte, and others of two. -/
def pairwise (one : UInt8 → Option Char) (two : UInt8 → UInt8 → Option (List Char)) :
    Reading Unit
  | _, [] => none
  | _, a :: rest =>
      match one a, rest with
      | some c, _ => some ([c], (), rest)
      | none, b :: rest => (·, (), rest) <$> two a b
      | none, [] => none

/-- The character in the row and the cell that two bytes name, where both are counted from the
byte `first`. -/
def Grid.charFrom? (grid : Grid) (first : Nat) (a b : UInt8) : Option Char :=
  grid.char? (a.toNat + 1 - first) (b.toNat + 1 - first)

end Abacus.Charset
