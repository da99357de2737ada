/-
Module: Abacus.Binary64
Purpose: Numbers in the binary interchange format of 64 bits, kept exactly as a mantissa times a
  power of two. A decimal number is rounded to the nearest of them, half way to the even mantissa.
Main exports: Binary64, Binary64.ofDecimal, Binary64.truncate?
-/
import Abacus.Rational

namespace Abacus

/-- A number of the format: `mantissa * 2 ^ exponent` with a sign, or one of the special ones. -/
inductive Binary64 where
  | finite (negative : Bool) (mantissa : Nat) (exponent : Int)
  | infinite (negative : Bool)
  | nan
deriving DecidableEq, Repr, Inhabited

namespace Binary64

/-- A power of two. -/
def twoTo (n : Nat) : Nat :=
  Nat.pow 2 n

/-- A power of ten. -/
def tenTo (n : Nat) : Nat :=
  Nat.pow 10 n

/-- The least exponent. -/
def minExponent : Int :=
  -1074

/-- The greatest exponent. -/
def maxExponent : Int :=
  971

/-- The number of bits of a mantissa. -/
def precision : Nat :=
  53

/-- The exponent `k` with `2 ^ k ≤ num / den < 2 ^ (k + 1)`, for a fraction above zero. -/
def binaryOrder (num den : Nat) : Int :=
  let guess : Int := (Nat.log2 num : Int) - (Nat.log2 den : Int)
  if num * twoTo (-guess).toNat < den * twoTo guess.toNat then guess - 1 else guess

/-- The number nearest to a fraction above zero, the one with an even mantissa of two. -/
def ofFraction (negative : Bool) (num den : Nat) : Binary64 :=
  let exponent := max (binaryOrder num den - (precision - 1 : Nat)) minExponent
  let scaled : Nat := num * twoTo (-exponent).toNat
  let mantissa := (nearestEven scaled (den * twoTo exponent.toNat)).toNat
  let (mantissa, exponent) :=
    if mantissa = twoTo precision then (twoTo (precision - 1), exponent + 1)
    else (mantissa, exponent)
  if maxExponent < exponent then infinite negative else finite negative mantissa exponent

/-- The number of decimal digits of a natural number. -/
def digitCount (n : Nat) : Nat :=
  (Nat.toDigits 10 n).length

/-- The number nearest to `digits * 10 ^ exponent`. Far out of the range of the format the
power of ten need not be formed. -/
def ofDecimal (negative : Bool) (digits : Nat) (exponent : Int) : Binary64 :=
  let order := digitCount digits + exponent
  if digits = 0 ∨ order < -330 then finite negative 0 minExponent
  else if 310 < order then infinite negative
  else ofFraction negative (digits * tenTo exponent.toNat) (tenTo (-exponent).toNat)

/-- The whole part of a number, rounded toward zero; none for a special number. -/
def truncate? : Binary64 → Option Int
  | finite negative mantissa exponent =>
      let whole : Int := (mantissa * twoTo exponent.toNat / twoTo (-exponent).toNat : Nat)
      some (if negative then -whole else whole)
  | infinite _ => none
  | nan => none

end Binary64

end Abacus
