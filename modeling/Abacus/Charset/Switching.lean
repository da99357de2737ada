/-
Module: Abacus.Charset.Switching
Purpose: Charsets in seven bits that switch between sets of characters: those of ISO 2022, where an
  escape sequence brings a set in, and one of Chinese with a sign of its own.
Main exports: CodedSet, Scheme, Scheme.read, readTilde
-/
import Abacus.Charset.Chinese
import Abacus.Charset.Japanese
import Abacus.Charset.Korean

namespace Abacus.Charset

/-- Sets of characters that an escape sequence can bring in. -/
inductive CodedSet where
  | ascii
  | roman
  | kana
  | latin
  | greek
  | jisX0208Old
  | jisX0208
  | jisX0212
  | jisX0213 (edition : JisEdition)
  | jisX0213Second
  | ksX1001
  | gb2312
deriving DecidableEq, Repr, Inhabited

/-- How many bytes a character has, and the letter that ends the escape sequence of a set. -/
def CodedSet.mark : CodedSet → Nat × Char
  | .ascii => (1, 'B')
  | .roman => (1, 'J')
  | .kana => (1, 'I')
  | .latin => (1, 'A')
  | .greek => (1, 'F')
  | .jisX0208Old => (2, '@')
  | .jisX0208 => (2, 'B')
  | .jisX0212 => (2, 'D')
  | .jisX0213 .first => (2, 'O')
  | .jisX0213 .second => (2, 'Q')
  | .jisX0213Second => (2, 'P')
  | .ksX1001 => (2, 'C')
  | .gb2312 => (2, 'A')

/-- The character of one byte in a set. Latin and Greek are no sets of seven bits. -/
def CodedSet.one? (set : CodedSet) (a : UInt8) : Option Char :=
  match set with
  | .ascii => asciiChar? a
  | .roman => romanChar? a
  | .kana => if a < 0x80 then kana? (a + 0x80) else none
  | _ => none

/-- The characters of two bytes in a set. -/
def CodedSet.two? (set : CodedSet) (a b : UInt8) : Option (List Char) :=
  let row := a.toNat - 0x20
  let cell := b.toNat - 0x20
  match set with
  | .jisX0208Old | .jisX0208 => ([·]) <$> Charset.jisX0208.char? row cell
  | .jisX0212 => ([·]) <$> Charset.jisX0212.char? row cell
  | .jisX0213 edition => firstPlane? edition row cell
  | .jisX0213Second => ([·]) <$> Charset.jisX0213Second.char? row cell
  | .ksX1001 => ([·]) <$> Charset.ksX1001.char? row cell
  | .gb2312 => ([·]) <$> Charset.gb2312.char? row cell
  | _ => none

/-- The Greek character of a byte. -/
def greekChar? (byte : UInt8) : Option Char :=
  let kept : List UInt8 :=
    [0xA0, 0xA3, 0xA6, 0xA7, 0xA8, 0xA9, 0xAB, 0xAC, 0xAD, 0xB0, 0xB1, 0xB2, 0xB3, 0xB7, 0xBB, 0xBD]
  if byte < 0xA0 ∨ byte ∈ kept then some (Char.ofNat byte.toNat)
  else if byte = 0xA1 then some '‘'
  else if byte = 0xA2 then some '’'
  else if byte = 0xAF then some '―'
  else if 0xB4 ≤ byte ∧ byte ≠ 0xD2 ∧ byte ≠ 0xFF then some (Char.ofNat (0x2D0 + byte.toNat))
  else none

/-- A charset of ISO 2022. -/
structure Scheme where
  /-- The sets besides ASCII. -/
  sets : List CodedSet
  /-- Whether control characters switch between the first set and the second. Where they do not,
  the escape sequence of JIS X 0208 may follow one that announces its edition. -/
  shifts : Bool := false
  /-- Whether an escape sequence takes one character from a third set. -/
  thirdSet : Bool := false
deriving DecidableEq, Repr, Inhabited

/-- The scheme of Korean. -/
def koreanScheme : Scheme :=
  { sets := [.ksX1001], shifts := true }

/-- The scheme of Japanese. -/
def japaneseScheme : Scheme :=
  { sets := [.jisX0208, .roman, .jisX0208Old] }

/-- The scheme of Japanese with JIS X 0212. -/
def supplementedScheme : Scheme :=
  { sets := [.jisX0208, .jisX0212, .roman, .jisX0208Old] }

/-- The scheme of Japanese with the sets of other languages. -/
def multilingualScheme : Scheme :=
  { sets := [.jisX0208, .jisX0212, .ksX1001, .gb2312, .roman, .jisX0208Old, .latin, .greek]
    thirdSet := true }

/-- The scheme of Japanese with both planes of JIS X 0213. -/
def planesScheme (edition : JisEdition) : Scheme :=
  { sets := [.jisX0208, .jisX0213 edition, .jisX0213Second] }

/-- The scheme of Japanese with JIS X 0212 and letters in half width. -/
def halfWidthScheme : Scheme :=
  { sets := [.jisX0208, .jisX0212, .roman, .kana, .jisX0208Old] }

/-- Which sets are in use. -/
structure Switch where
  first : CodedSet := .ascii
  second : CodedSet := .ascii
  third : CodedSet := .ascii
  /-- Whether the second set is in use instead of the first. -/
  shifted : Bool := false
  /-- Whether an unknown escape sequence goes on. -/
  unknown : Bool := false
deriving DecidableEq, Repr, Inhabited

/-- Whether a byte ends an escape sequence. -/
def endsEscape (byte : UInt8) : Bool :=
  0x40 ≤ byte && byte ≤ 0x5A

namespace Scheme

/-- The set of a charset that a mark stands for. -/
def set? (scheme : Scheme) (width : Nat) (letter : UInt8) : Option CodedSet :=
  (.ascii :: scheme.sets).find? fun set => set.mark = (width, Char.ofNat letter.toNat)

/-- What an escape sequence that brings a set in leaves in use, from behind the escape, and what
follows it. -/
def bring? (scheme : Scheme) (switch : Switch) :
    List UInt8 → Option (Switch × List UInt8)
  | 0x24 :: 0x28 :: c :: rest => do some ({ switch with first := ← scheme.set? 2 c }, rest)
  | 0x24 :: 0x29 :: c :: rest => do some ({ switch with second := ← scheme.set? 2 c }, rest)
  | 0x24 :: c :: rest => do some ({ switch with first := ← scheme.set? 2 c }, rest)
  | 0x28 :: c :: rest => do some ({ switch with first := ← scheme.set? 1 c }, rest)
  | 0x29 :: c :: rest => do some ({ switch with second := ← scheme.set? 1 c }, rest)
  | 0x2E :: c :: rest => do
      if scheme.thirdSet then some ({ switch with third := ← scheme.set? 1 c }, rest) else none
  | _ => none

/-- What an announced escape sequence leaves in use, from behind the first escape. -/
def bringAnnounced? (scheme : Scheme) (switch : Switch) :
    List UInt8 → Option (Switch × List UInt8)
  | a :: b :: 0x1B :: 0x24 :: 0x42 :: rest =>
      if !scheme.shifts ∧ (a = 0x26 ∧ b = 0x40 ∨ !endsEscape b) then
        some ({ switch with first := .jisX0208 }, rest)
      else none
  | _ => none

/-- The character of a byte in the third set. -/
def third? (switch : Switch) (byte : UInt8) : Option Char :=
  match switch.third with
  | .ascii => asciiChar? byte
  | .latin => if byte < 0x80 then some (Char.ofNat (byte.toNat + 0x80)) else none
  | .greek => greekChar? (byte ^^^ 0x80)
  | _ => none

/-- A step behind an escape. A sequence that is unknown is text, up to the byte that ends it. -/
def readEscape (scheme : Scheme) : Reading Switch
  | _, [] => none
  | switch, a :: rest =>
      if a ∈ [0x24, 0x26, 0x28, 0x29, 0x2E] then do
        let (switch, rest) ←
          (scheme.bring? switch (a :: rest)).or (scheme.bringAnnounced? switch (a :: rest))
        some ([], switch, rest)
      else if scheme.thirdSet ∧ a = 0x4E then do
        let byte ← rest.head?
        let c ← third? switch byte
        some ([c], switch, rest.drop 1)
      else some (['\x1b'], { switch with unknown := true }, a :: rest)

/-- A step in the set that is in use. -/
def readSet : Reading Switch
  | _, [] => none
  | switch, a :: rest =>
      let set := if switch.shifted then switch.second else switch.first
      match set.mark.1, rest with
      | 1, _ => do some ([← set.one? a], switch, rest)
      | _, b :: rest => do some (← set.two? a b, switch, rest)
      | _, [] => none

/-- A step of reading. Control characters belong to no set, and the end of a line ends a shift. -/
def read (scheme : Scheme) : Reading Switch
  | _, [] => none
  | switch, a :: rest =>
      let c := Char.ofNat a.toNat
      if switch.unknown then some ([c], { switch with unknown := !endsEscape a }, rest)
      else if a = 0x1B then scheme.readEscape switch rest
      else if a = 0x0F ∧ scheme.shifts then some ([], { switch with shifted := false }, rest)
      else if a = 0x0E ∧ scheme.shifts then some ([], { switch with shifted := true }, rest)
      else if a = 0x0A then some ([c], { switch with shifted := false }, rest)
      else if a < 0x20 then some ([c], switch, rest)
      else readSet switch (a :: rest)

end Scheme

/-- A step in seven bits of Chinese, where a tilde and a brace begin and end GB 2312, and a tilde
before the end of a line joins it to the next. -/
def readTilde : Reading Bool
  | false, 0x7E :: 0x7E :: rest => some (['~'], false, rest)
  | false, 0x7E :: 0x0A :: rest => some ([], false, rest)
  | false, 0x7E :: 0x7B :: rest => some ([], true, rest)
  | true, 0x7E :: 0x7D :: rest => some ([], false, rest)
  | _, 0x7E :: _ => none
  | false, a :: rest => do some ([← asciiChar? a], false, rest)
  | true, a :: b :: rest => do some ([← gb2312.charFrom? 0x21 a b], true, rest)
  | true, _ => none
  | false, [] => none

end Abacus.Charset
