/-
Module: Abacus.Charset.Korean
Purpose: Charsets of Korean. One spells syllables outside its table by their letters, one gives
  them bytes of their own, and one has the letters of a syllable in the bits of its two bytes.
Main exports: readWansung, readUnifiedHangul, readJohab
-/
import Abacus.Charset.Grid.KsX1001
import Abacus.Charset.Reading
import Std.Data.HashSet

namespace Abacus.Charset

/-- The letters that a syllable begins with, in their order. -/
def initialLetters : List Char :=
  "ㄱㄲㄴㄷㄸㄹㅁㅂㅃㅅㅆㅇㅈㅉㅊㅋㅌㅍㅎ".toList

/-- The letters in the middle of a syllable, in their order. -/
def middleLetters : List Char :=
  "ㅏㅐㅑㅒㅓㅔㅕㅖㅗㅘㅙㅚㅛㅜㅝㅞㅟㅠㅡㅢㅣ".toList

/-- The letters that a syllable ends with, in their order. -/
def finalLetters : List Char :=
  "ㄱㄲㄳㄴㄵㄶㄷㄹㄺㄻㄼㄽㄾㄿㅀㅁㅂㅄㅅㅆㅇㅈㅊㅋㅌㅍㅎ".toList

/-- The syllable of three letters by their numbers; the last is zero in an open syllable. -/
def syllable (initial middle final : Nat) : Char :=
  Char.ofNat (0xAC00 + (initial * 21 + middle) * 28 + final)

/-- The syllable that three letters spell, where a filler ends an open one. -/
def spell? (initial middle final : Char) : Option Char := do
  let initial ← initialLetters.idxOf? initial
  let middle ← middleLetters.idxOf? middle
  let final ← if final = '\u3164' then some 0 else (· + 1) <$> finalLetters.idxOf? final
  some (syllable initial middle final)

/-- The letter, or the filler, that two bytes stand for. -/
def letter? (a b : UInt8) : Option Char :=
  if a = 0xA4 then ksX1001.charFrom? 0xA1 a b else none

/-- KS X 1001, where a filler is no character but begins a syllable spelled by three letters. -/
def readWansung : Reading Unit
  | _, 0xA4 :: 0xD4 :: a :: b :: c :: d :: e :: f :: rest => do
      let syllable ← spell? (← letter? a b) (← letter? c d) (← letter? e f)
      some ([syllable], (), rest)
  | _, 0xA4 :: 0xD4 :: _ => none
  | _, bytes => pairwise asciiChar? (fun a b => ([·]) <$> ksX1001.charFrom? 0xA1 a b) () bytes

/-- The syllables that KS X 1001 has not, in their order. -/
def furtherSyllables : Array Char :=
  let known := Std.HashSet.ofList (ksX1001.chars.map Char.toNat)
  (((List.range' 0xAC00 11172).filter fun n => !known.contains n).map Char.ofNat).toArray

/-- The place of a second byte in the rows of further syllables. -/
def syllableCell? (byte : UInt8) : Option Nat :=
  if 0x41 ≤ byte ∧ byte ≤ 0x5A then some (byte.toNat - 0x41)
  else if 0x61 ≤ byte ∧ byte ≤ 0x7A then some (byte.toNat - 0x61 + 26)
  else if 0x81 ≤ byte ∧ byte ≤ 0xFE then some (byte.toNat - 0x81 + 52)
  else none

/-- The syllable of two bytes outside KS X 1001. The first 32 rows have 178 places, the others
84. -/
def furtherSyllable? (a b : UInt8) : Option Char := do
  let cell ← syllableCell? b
  if 0x81 ≤ a ∧ a ≤ 0xA0 then furtherSyllables[(a.toNat - 0x81) * 178 + cell]?
  else if 0xA1 ≤ a ∧ cell < 84 then furtherSyllables[32 * 178 + (a.toNat - 0xA1) * 84 + cell]?
  else none

/-- KS X 1001 with all syllables. -/
def readUnifiedHangul : Reading Unit :=
  pairwise asciiChar? fun a b =>
    ([·]) <$> ((ksX1001.charFrom? 0xA1 a b).or (furtherSyllable? a b))

/-- A part of a syllable that is coded in bits: no letter, or a letter by its number. -/
inductive SyllablePart where
  | filler
  | letter (index : Nat)
deriving DecidableEq, Repr, Inhabited

/-- The part that a code stands for: the filler has a code of its own, and the letters have the
codes of the ranges in their order. -/
def SyllablePart.ofCode? (filler : Nat) (ranges : List (Nat × Nat)) (code : Nat) :
    Option SyllablePart :=
  if code = filler then some .filler
  else
    let codes := ranges.flatMap fun range => List.range' range.1 (range.2 + 1 - range.1)
    .letter <$> codes.idxOf? code

/-- The character of the three parts. A letter alone is a character, but two letters are none
unless they begin a syllable. -/
def joinParts? : SyllablePart → SyllablePart → SyllablePart → Option Char
  | .filler, .filler, .filler => some '\u3000'
  | .letter i, .filler, .filler => initialLetters[i]?
  | .filler, .letter i, .filler => middleLetters[i]?
  | .filler, .filler, .letter i => finalLetters[i]?
  | .letter i, .letter j, .filler => some (syllable i j 0)
  | .letter i, .letter j, .letter k => some (syllable i j (k + 1))
  | _, _, _ => none

/-- The syllable whose letters stand in the bits of two bytes, five bits for each. -/
def bitSyllable? (a b : UInt8) : Option Char := do
  let bits := a.toNat * 0x100 + b.toNat
  let initial ← SyllablePart.ofCode? 1 [(2, 20)] (bits / 0x400 % 32)
  let middle ← SyllablePart.ofCode? 2 [(3, 7), (10, 15), (18, 23), (26, 29)] (bits / 32 % 32)
  let final ← SyllablePart.ofCode? 1 [(2, 17), (19, 29)] (bits % 32)
  joinParts? initial middle final

/-- The character of KS X 1001 whose row is shifted, as two bytes above the syllables name it. -/
def shiftedKorean? (a b : UInt8) : Option Char :=
  let place := if b < 0x91 then b.toNat - 0x31 else b.toNat - 0x43
  let row := if a < 0xE0 then 2 * (a.toNat - 0xD9) else 2 * a.toNat - 0x197
  if a < 0xD9 ∨ a = 0xDF ∨ 0xF9 < a ∨ b < 0x31 ∨ (0x7F ≤ b ∧ b < 0x91) ∨ b = 0xFF ∨
      (a = 0xDA ∧ 0xA1 ≤ b ∧ b ≤ 0xD3) then none
  else ksX1001.char? (row + place / 94 + 1) (place % 94 + 1)

/-- Syllables by the bits of their letters, and the other characters of KS X 1001, shifted. -/
def readJohab : Reading Unit :=
  pairwise asciiChar? fun a b =>
    ([·]) <$> if a < 0xD8 then bitSyllable? a b else shiftedKorean? a b

end Abacus.Charset
