/-
Module: Abacus.Rational
Purpose: Fractions shown and rounded. A fraction rounds to the nearest whole number, and half
  way between two of them to the even one.
Main exports: nearestEven, roundHalfEven, displayRational?
-/
import Abacus.Text.Whole

namespace Abacus

/-- The whole number nearest to `num / den`, the even one of two. -/
def nearestEven (num : Int) (den : Nat) : Int :=
  let floor := num / den
  let twice := 2 * (num % den)
  if twice < den then floor
  else if den < twice then floor + 1
  else if floor % 2 = 0 then floor
  else floor + 1

/-- A fraction rounded to the nearest whole number, ties to the even one. -/
def roundHalfEven (value : Rat) : Int :=
  nearestEven value.num value.den

/-- A fraction as messages show it: numerator and denominator in lowest terms, without the
denominator if it is one. A fraction with too many digits is not shown. -/
def displayRational? (value : Rat) : Option String :=
  if value.den = 1 then Text.writeWhole? value.num
  else do
    let num ← Text.writeWhole? value.num
    let den ← Text.writeWhole? value.den
    return s!"{num}/{den}"

end Abacus
