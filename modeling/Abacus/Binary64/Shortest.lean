/-
Module: Abacus.Binary64.Shortest
Purpose: The text of a number: the fewest decimal digits that read back as the same number, and
  of these the nearest. Between 0.0001 and 10^16 the digits are written in place, elsewhere with
  an exponent.
Main exports: Binary64.Decimal, Binary64.shortest, Binary64.text
-/
import Abacus.Binary64

namespace Abacus.Binary64

/-- The reals that round to a number, as fractions over a common denominator. -/
structure Rounding where
  value : Nat
  low : Nat
  high : Nat
  den : Nat
  /-- Whether the two ends belong to the interval. -/
  closed : Bool
deriving DecidableEq, Repr, Inhabited

/-- The interval around `mantissa * 2 ^ exponent`. Below a power of two the numbers are twice as
dense, so the lower end is nearer. -/
def rounding (mantissa : Nat) (exponent : Int) : Rounding :=
  let scale := twoTo exponent.toNat
  let below := if mantissa = twoTo (precision - 1) ∧ minExponent < exponent then 1 else 2
  { value := 4 * mantissa * scale
    low := (4 * mantissa - below) * scale
    high := (4 * mantissa + 2) * scale
    den := 4 * twoTo (-exponent).toNat
    closed := mantissa % 2 = 0 }

/-- Whether a fraction lies in the interval. -/
def Rounding.holds (r : Rounding) (num den : Nat) : Bool :=
  let low := r.low * den
  let high := r.high * den
  let value := num * r.den
  if r.closed then low ≤ value && value ≤ high else low < value && value < high

/-- A decimal number `0.digits * 10 ^ point`. -/
structure Decimal where
  digits : List Char
  point : Int
deriving DecidableEq, Repr, Inhabited

/-- Where the point of a fraction stands: behind its whole part, so that a number from 1 to
below 10 has it at 1. Every number of the format is at least `10 ^ (-330)`. -/
def decimalPoint (r : Rounding) : Int :=
  (digitCount (r.value * tenTo 330 / r.den) : Int) - 330

/-- Of the two neighbours of the value among the decimals with `count` digits, the nearer one
that lies in the interval. -/
def atCount? (r : Rounding) (count : Nat) : Option Decimal :=
  let point := decimalPoint r
  let unit : Int := point - count
  let num := r.value * tenTo (-unit).toNat
  let den := r.den * tenTo unit.toNat
  let down := num / den
  let holds (n : Nat) := r.holds (n * tenTo unit.toNat) (tenTo (-unit).toNat)
  let nearest := (nearestEven num den).toNat
  let pick :=
    if holds nearest then some nearest
    else if holds down then some down
    else if holds (down + 1) then some (down + 1)
    else none
  pick.map fun n =>
    let digits := Nat.toDigits 10 n
    ⟨(digits.reverse.dropWhile (· = '0')).reverse, point + (digits.length - count : Nat)⟩

/-- The shortest decimal that reads back. Seventeen digits always do. -/
def shortest (mantissa : Nat) (exponent : Int) : Decimal :=
  let r := rounding mantissa exponent
  ((List.range 17).findSome? fun n => atCount? r (n + 1)).getD ⟨['0'], 1⟩

/-- A sign and at least two digits. -/
def exponentText (exponent : Int) : List Char :=
  let digits := Nat.toDigits 10 exponent.natAbs
  (if exponent < 0 then '-' else '+') :: (if digits.length < 2 then '0' :: digits else digits)

/-- A decimal written out: in place if its point stands from 4 places left of the first digit to
16 right of it, with an exponent otherwise. -/
def Decimal.text (decimal : Decimal) : List Char :=
  let digits := decimal.digits
  if -4 < decimal.point ∧ decimal.point ≤ 16 then
    let places := decimal.point.toNat
    if decimal.point ≤ 0 then
      '0' :: '.' :: List.replicate (-decimal.point).toNat '0' ++ digits
    else if digits.length ≤ places then
      digits ++ List.replicate (places - digits.length) '0' ++ ['.', '0']
    else
      digits.take places ++ '.' :: digits.drop places
  else
    let fraction := digits.drop 1
    digits.take 1 ++ (if fraction.isEmpty then [] else '.' :: fraction)
      ++ 'e' :: exponentText (decimal.point - 1)

/-- A minus sign, if there is one to write. -/
def signText (negative : Bool) : String :=
  if negative then "-" else ""

/-- The text of a number. -/
def text : Binary64 → String
  | finite negative mantissa exponent =>
      if mantissa = 0 then signText negative ++ "0.0"
      else signText negative ++ String.ofList (shortest mantissa exponent).text
  | infinite negative => signText negative ++ "inf"
  | nan => "nan"

end Abacus.Binary64
