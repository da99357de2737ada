/-
Module: Abacus.Text.Utf8
Purpose: UTF-8 read byte by byte by a small machine. It accepts the shortest form of every
  character and nothing else, and it names the first fault by its place and its reason.
Main exports: Progress, Pending, start, Pending.push, Fault, decode, decodeStream
-/
import Abacus.Text.Hex

namespace Abacus.Text.Utf8

/-- A character whose first bytes have been read. -/
structure Pending where
  /-- The first byte. -/
  lead : UInt8
  /-- How many bytes have been read. -/
  length : Nat
  /-- The bits read so far, as a number. -/
  bits : Nat
  /-- How many bytes follow the next one. -/
  more : Nat
  /-- The least and the greatest value of the next byte. -/
  bounds : Nat × Nat
deriving DecidableEq, Repr, Inhabited

/-- What one more byte brings. -/
inductive Progress where
  | character (c : Char)
  | pending (p : Pending)
  | refused
deriving DecidableEq, Repr, Inhabited

/-- The first byte of a character. The bounds of the second byte keep out long forms,
surrogates, and numbers past the last character. -/
def start (byte : UInt8) : Progress :=
  let b := byte.toNat
  if b < 0x80 then .character (Char.ofNat b)
  else if b < 0xC2 then .refused
  else if b < 0xE0 then .pending ⟨byte, 1, b - 0xC0, 0, (0x80, 0xBF)⟩
  else if b = 0xE0 then .pending ⟨byte, 1, 0, 1, (0xA0, 0xBF)⟩
  else if b = 0xED then .pending ⟨byte, 1, b - 0xE0, 1, (0x80, 0x9F)⟩
  else if b < 0xF0 then .pending ⟨byte, 1, b - 0xE0, 1, (0x80, 0xBF)⟩
  else if b = 0xF0 then .pending ⟨byte, 1, 0, 2, (0x90, 0xBF)⟩
  else if b < 0xF4 then .pending ⟨byte, 1, b - 0xF0, 2, (0x80, 0xBF)⟩
  else if b = 0xF4 then .pending ⟨byte, 1, b - 0xF0, 2, (0x80, 0x8F)⟩
  else .refused

/-- A further byte of a character. -/
def Pending.push (p : Pending) (byte : UInt8) : Progress :=
  let b := byte.toNat
  if p.bounds.1 ≤ b ∧ b ≤ p.bounds.2 then
    let bits := p.bits * 64 + (b - 0x80)
    match p.more with
    | 0 => .character (Char.ofNat bits)
    | more + 1 => .pending ⟨p.lead, p.length + 1, bits, more, (0x80, 0xBF)⟩
  else .refused

/-- Why bytes are not UTF-8. -/
inductive Reason where
  | invalidStart
  | invalidContinuation
  | unexpectedEnd
deriving DecidableEq, Repr, Inhabited

/-- The words for a reason. -/
def Reason.text : Reason → String
  | .invalidStart => "invalid start byte"
  | .invalidContinuation => "invalid continuation byte"
  | .unexpectedEnd => "unexpected end of data"

/-- The first fault of a sequence of bytes: the bytes from `start` up to `stop`. -/
structure Fault where
  start : Nat
  stop : Nat
  lead : UInt8
  reason : Reason
deriving DecidableEq, Repr, Inhabited

/-- The message: one byte is shown by its value, several by their places. -/
def Fault.message (fault : Fault) : String :=
  let place :=
    if fault.stop = fault.start + 1 then
      s!"byte 0x{String.ofList (hex 2 fault.lead.toNat)} in position {fault.start}"
    else
      s!"bytes in position {fault.start}-{fault.stop - 1}"
  s!"'utf-8' codec can't decode {place}: {fault.reason.text}"

/-- Reads the rest of a sequence of bytes, from the given position on and with the character
that has begun. -/
def decodeFrom : Option Pending → (position : Nat) → List UInt8 → Except Fault (List Char)
  | none, _, [] => .ok []
  | some p, position, [] =>
      .error ⟨position - p.length, position, p.lead, .unexpectedEnd⟩
  | none, position, byte :: rest =>
      match start byte with
      | .character c => (c :: ·) <$> decodeFrom none (position + 1) rest
      | .pending p => decodeFrom (some p) (position + 1) rest
      | .refused => .error ⟨position, position + 1, byte, .invalidStart⟩
  | some p, position, byte :: rest =>
      match p.push byte with
      | .character c => (c :: ·) <$> decodeFrom none (position + 1) rest
      | .pending q => decodeFrom (some q) (position + 1) rest
      | .refused => .error ⟨position - p.length, position, p.lead, .invalidContinuation⟩

/-- The text that the bytes stand for, or the first fault. -/
def decode (bytes : List UInt8) : Except Fault (List Char) :=
  decodeFrom none 0 bytes

/-- Whether a fault shows only when the input ends: the character is cut off, or the two last
bytes are the start of a surrogate. -/
def Fault.atEnd (fault : Fault) (bytes : List UInt8) : Bool :=
  match fault.reason, bytes.drop fault.start with
  | .unexpectedEnd, _ => true
  | .invalidContinuation, [0xED, second] => 0x80 ≤ second && second ≤ 0xBF
  | _, _ => false

/-- Reads bytes that arrive as a stream. All that came before the end has been passed on by
then, so a fault that shows only at the end counts its positions from its own first byte. -/
def decodeStream (bytes : List UInt8) : Except Fault (List Char) :=
  match decode bytes with
  | .ok text => .ok text
  | .error fault =>
      if fault.atEnd bytes then
        .error { fault with start := 0, stop := fault.stop - fault.start }
      else .error fault

end Abacus.Text.Utf8
