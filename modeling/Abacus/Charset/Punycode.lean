/-
Module: Abacus.Charset.Punycode
Purpose: Punycode: the ASCII characters of a text stand first, and digits of base 36 behind the
  last hyphen tell which other characters are put in, and where.
Main exports: decodePunycode?, decodeDomain?
-/
import Abacus.Text.Pieces

namespace Abacus.Charset

/-- The value of a digit of base 36; letters come before figures, in either case. -/
def base36Value? (c : Char) : Option Nat :=
  if 'A' ≤ c ∧ c ≤ 'Z' then some (c.toNat - 'A'.toNat)
  else if 'a' ≤ c ∧ c ≤ 'z' then some (c.toNat - 'a'.toNat)
  else if '0' ≤ c ∧ c ≤ '9' then some (c.toNat - '0'.toNat + 26)
  else none

/-- The threshold of the digit at a place: a digit below it is the last of its number. -/
def threshold (place bias : Nat) : Nat :=
  max 1 (min 26 (36 * (place + 1) - bias))

/-- Takes a number: its value, and how many digits it has. -/
def takeNumber? (bias : Nat) (place weight : Nat) : List Nat → Option (Nat × Nat)
  | [] => none
  | digit :: rest =>
      let limit := threshold place bias
      if digit < limit then some (digit * weight, place + 1)
      else do
        let (value, length) ← takeNumber? bias (place + 1) (weight * (36 - limit)) rest
        return (digit * weight + value, length)

/-- Divides by 35 until at most 455 is left: how often, and what is left. -/
def scaleDown (n : Nat) : Nat × Nat :=
  if n ≤ 455 then (0, n)
  else
    let (times, left) := scaleDown (n / 35)
    (times + 1, left)
termination_by n
decreasing_by omega

/-- The bias after a number, in a text that has `length` characters then. -/
def nextBias (number : Nat) (isFirst : Bool) (length : Nat) : Nat :=
  let scaled := if isFirst then number / 700 else number / 2
  let (times, left) := scaleDown (scaled + scaled / length)
  36 * times + 36 * left / (left + 38)

/-- Puts characters into a text: `next` is one more than the place of the last one, `char` its
number. -/
def putIn : (budget : Nat) → (next char bias : Nat) → (isFirst : Bool) → List Nat → List Char →
    Option (List Char)
  | _, _, _, _, _, [], text => some text
  | 0, _, _, _, _, _ :: _, _ => none
  | budget + 1, next, char, bias, isFirst, digits, text => do
      let (number, length) ← takeNumber? bias 0 1 digits
      let size := text.length + 1
      let char := char + (next + number) / size
      let place := (next + number) % size
      if ¬char.isValidChar then none
      else
        putIn budget (place + 1) char (nextBias number isFirst size) false (digits.drop length)
          (text.take place ++ Char.ofNat char :: text.drop place)

/-- The text of ASCII bytes. -/
def decodeAscii? (bytes : List UInt8) : Option (List Char) :=
  bytes.mapM fun byte => if byte < 0x80 then some (Char.ofNat byte.toNat) else none

/-- The text of bytes in Punycode. -/
def decodePunycode? (bytes : List UInt8) : Option (List Char) := do
  let text ← decodeAscii? bytes
  let reversed := text.reverse
  let digits ← (reversed.takeWhile (· ≠ '-')).reverse.mapM base36Value?
  let plain := ((reversed.dropWhile (· ≠ '-')).drop 1).reverse
  putIn digits.length 0 0x80 72 true digits plain

/-- The text of bytes that are the name of a domain, if none of its labels is in Punycode. -/
def decodeDomain? (bytes : List UInt8) : Option (List Char) := do
  let text ← decodeAscii? bytes
  if (Text.pieces '.' text).any fun label => "xn--".toList.isPrefixOf label then none
  else some text

end Abacus.Charset
