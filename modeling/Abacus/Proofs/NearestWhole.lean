/-
Module: Abacus.Proofs.NearestWhole
Purpose: The whole number that a fraction is rounded to. It is half a unit away at most, and even
  if it is half a unit away, and no other whole number is like that. All else follows from this:
  rounding keeps order, sign, whole numbers and shifts by even numbers, and it does not matter
  whether the fraction is in lowest terms.
Main exports: IsNearestEven, isNearestEven_nearestEven, roundHalfEven_eq_iff, roundHalfEven_nearest
-/
import Mathlib.Algebra.Order.Field.Basic
import Mathlib.Algebra.Order.Field.Rat
import Mathlib.Algebra.Ring.Int.Parity
import Mathlib.Tactic.Linarith
import Mathlib.Tactic.Ring
import Abacus.Rational

namespace Abacus

/-! ### Nearest whole numbers -/

/-- A whole number is half a unit away from a fraction at most, and it is even if it is half a unit
    away. -/
structure IsNearestEven (value : Rat) (n : Int) : Prop where
  near : |value - n| ≤ 1 / 2
  even_of_tie : |value - n| = 1 / 2 → Even n

/-- A larger fraction has no smaller nearest whole number. Two whole numbers near the same fraction
    are next to each other only if both are half a unit away, and then one of them is odd. -/
theorem IsNearestEven.le_of_le {value larger : Rat} {n m : Int} (h : IsNearestEven value n)
    (hlarger : IsNearestEven larger m) (hle : value ≤ larger) : n ≤ m := by
  by_contra hlt
  have hstep : m + 1 ≤ n := by omega
  have hstep : (m : Rat) + 1 ≤ n := by exact_mod_cast hstep
  have hlow := (abs_le.mp h.near).1
  have hhigh := (abs_le.mp hlarger.near).2
  have hn : value - n = -(1 / 2) := by linarith
  have hm : larger - m = 1 / 2 := by linarith
  have hsucc : n = m + 1 := by
    have hcast : (n : Rat) = (m + 1 : Int) := by
      push_cast
      linarith
    exact_mod_cast hcast
  have hevenN : Even n := by
    apply h.even_of_tie
    rw [hn, abs_neg]
    norm_num
  have hevenM : Even m := by
    apply hlarger.even_of_tie
    rw [hm]
    norm_num
  rw [hsucc] at hevenN
  exact Int.not_even_iff_odd.mpr hevenM.add_one hevenN

/-- A fraction has one nearest whole number at most. -/
theorem IsNearestEven.unique {value : Rat} {n m : Int} (h : IsNearestEven value n)
    (hother : IsNearestEven value m) : n = m :=
  le_antisymm (h.le_of_le hother le_rfl) (hother.le_of_le h le_rfl)

theorem isNearestEven_intCast (n : Int) : IsNearestEven n n := by
  constructor
  · rw [sub_self, abs_zero]
    norm_num
  · intro htie
    rw [sub_self, abs_zero] at htie
    norm_num at htie

theorem IsNearestEven.neg {value : Rat} {n : Int} (h : IsNearestEven value n) :
    IsNearestEven (-value) (-n) := by
  have hdistance : |-value - (-n : Int)| = |value - n| := by
    rw [Int.cast_neg, ← neg_sub', abs_neg]
  constructor
  · rw [hdistance]
    exact h.near
  · intro htie
    rw [hdistance] at htie
    exact (h.even_of_tie htie).neg

theorem IsNearestEven.add_even {value : Rat} {n : Int} (h : IsNearestEven value n) (k : Int) :
    IsNearestEven (value + 2 * k) (n + 2 * k) := by
  have hdistance : |value + 2 * k - (n + 2 * k : Int)| = |value - n| := by
    congr 1
    push_cast
    ring
  constructor
  · rw [hdistance]
    exact h.near
  · intro htie
    rw [hdistance] at htie
    exact (h.even_of_tie htie).add (even_two_mul k)

/-! ### Rounding -/

/-- The distance of a fraction from a whole number, with the denominator taken out. -/
theorem abs_div_sub (num n : Int) {den : Nat} (hden : 0 < den) :
    |(num : Rat) / den - n| = (|2 * (num - n * den)| : Int) / (2 * den) := by
  have hden : (0 : Rat) < den := by exact_mod_cast hden
  rw [div_sub' hden.ne', abs_div, abs_of_pos hden]
  push_cast
  rw [abs_mul, abs_two, mul_div_mul_left _ _ two_ne_zero, mul_comm (n : Rat)]

theorem isNearestEven_div_iff (num n : Int) {den : Nat} (hden : 0 < den) :
    IsNearestEven (num / den) n ↔
      |2 * (num - n * den)| ≤ den ∧ (|2 * (num - n * den)| = den → Even n) := by
  have hpos : (0 : Rat) < 2 * den := by
    have hcast : (0 : Rat) < den := by exact_mod_cast hden
    linarith
  have hhalf : 1 / 2 * (2 * (den : Rat)) = den := by ring
  have hnear : |(num : Rat) / den - n| ≤ 1 / 2 ↔ |2 * (num - n * den)| ≤ den := by
    rw [abs_div_sub num n hden, div_le_iff₀ hpos, hhalf]
    exact_mod_cast Iff.rfl
  have htie : |(num : Rat) / den - n| = 1 / 2 ↔ |2 * (num - n * den)| = den := by
    rw [abs_div_sub num n hden, div_eq_iff hpos.ne', hhalf]
    exact_mod_cast Iff.rfl
  constructor
  · intro h
    exact ⟨hnear.mp h.near, fun hequal => h.even_of_tie (htie.mpr hequal)⟩
  · rintro ⟨hle, heven⟩
    exact ⟨hnear.mpr hle, fun hequal => heven (htie.mp hequal)⟩

/-- The remainder tells which of the two whole numbers around a quotient is nearest; in lowest terms
    or not, the quotient is what counts. -/
theorem isNearestEven_nearestEven (num : Int) {den : Nat} (hden : 0 < den) :
    IsNearestEven (num / den) (nearestEven num den) := by
  rw [isNearestEven_div_iff num _ hden]
  have hpos : 0 < (den : Int) := by exact_mod_cast hden
  have hparts := Int.mul_ediv_add_emod num den
  have hlow := Int.emod_nonneg num hpos.ne'
  have hhigh := Int.emod_lt_of_pos num hpos
  have hbelow : |2 * (num - num / den * den)| = 2 * (num % den) := by
    have hrest : num - num / den * den = num % den := by
      rw [mul_comm]
      omega
    rw [hrest]
    exact abs_of_nonneg (by omega)
  have habove : |2 * (num - (num / den + 1) * den)| = 2 * den - 2 * (num % den) := by
    have hrest : num - (num / den + 1) * den = num % den - den := by
      rw [add_mul, one_mul, mul_comm]
      omega
    rw [hrest, abs_of_nonpos (by omega)]
    ring
  unfold nearestEven
  simp only
  split_ifs with hless hmore heven
  · rw [hbelow]
    exact ⟨by omega, fun htie => by omega⟩
  · rw [habove]
    exact ⟨by omega, fun htie => by omega⟩
  · rw [hbelow]
    exact ⟨by omega, fun _ => Int.even_iff.mpr heven⟩
  · rw [habove]
    exact ⟨by omega, fun _ => Int.even_iff.mpr (by omega)⟩

theorem isNearestEven_roundHalfEven (value : Rat) : IsNearestEven value (roundHalfEven value) := by
  have h := isNearestEven_nearestEven value.num value.den_pos
  rw [Rat.num_div_den] at h
  exact h

/-- A fraction is rounded to its one nearest whole number. -/
theorem roundHalfEven_eq_iff {value : Rat} {n : Int} :
    roundHalfEven value = n ↔ IsNearestEven value n := by
  constructor
  · rintro rfl
    exact isNearestEven_roundHalfEven value
  · exact (isNearestEven_roundHalfEven value).unique

/-- Rounding a quotient goes by its terms, lowest or not. -/
theorem nearestEven_eq_roundHalfEven (num : Int) {den : Nat} (hden : 0 < den) :
    nearestEven num den = roundHalfEven (num / den) :=
  (roundHalfEven_eq_iff.mpr (isNearestEven_nearestEven num hden)).symm

theorem roundHalfEven_le {value larger : Rat} (hle : value ≤ larger) :
    roundHalfEven value ≤ roundHalfEven larger :=
  (isNearestEven_roundHalfEven value).le_of_le (isNearestEven_roundHalfEven larger) hle

/-! ### Main result -/

/-- The quotient of two whole numbers, whatever their signs and their common factors, is rounded to
    the one whole number that is half a unit away at most, and even if it is half a unit away. The
    rule by floor and remainder finds it from any terms of the quotient with a positive denominator.
    A larger fraction is not rounded to a smaller number; the negative of a fraction is rounded to
    the negative; whole numbers stay; and adding an even number adds it to the result. -/
theorem roundHalfEven_nearest :
    (∀ num den : Int, den ≠ 0 → ∀ n : Int, roundHalfEven (num / den) = n ↔
      |(num : Rat) / den - n| ≤ 1 / 2 ∧ (|(num : Rat) / den - n| = 1 / 2 → Even n)) ∧
    (∀ (num : Int) (den : Nat), 0 < den → nearestEven num den = roundHalfEven (num / den)) ∧
    (∀ value larger : Rat, value ≤ larger → roundHalfEven value ≤ roundHalfEven larger) ∧
    (∀ value : Rat, roundHalfEven (-value) = -roundHalfEven value) ∧
    (∀ n : Int, roundHalfEven n = n) ∧
    ∀ (value : Rat) (k : Int), roundHalfEven (value + 2 * k) = roundHalfEven value + 2 * k := by
  refine ⟨?_, ?_, ?_, ?_, ?_, ?_⟩
  · intro num den _ n
    rw [roundHalfEven_eq_iff]
    constructor
    · intro h
      exact ⟨h.near, h.even_of_tie⟩
    · rintro ⟨hnear, htie⟩
      exact ⟨hnear, htie⟩
  · intro num den hden
    exact nearestEven_eq_roundHalfEven num hden
  · intro value larger hle
    exact roundHalfEven_le hle
  · intro value
    exact roundHalfEven_eq_iff.mpr (isNearestEven_roundHalfEven value).neg
  · intro n
    exact roundHalfEven_eq_iff.mpr (isNearestEven_intCast n)
  · intro value k
    exact roundHalfEven_eq_iff.mpr ((isNearestEven_roundHalfEven value).add_even k)

/-- Ten quarters with the sign below are half way between two whole numbers. -/
theorem roundHalfEven_nearest_ten_quarters :
    (-4 : Int) ≠ 0 ∧ 0 < 4 ∧ (-(5 / 2) : Rat) ≤ 7 / 2 ∧
      roundHalfEven ((10 : Int) / (-4 : Int)) = -2 ∧
      nearestEven (-10) 4 = roundHalfEven ((-10 : Int) / (4 : Nat)) ∧
      roundHalfEven (-(5 / 2)) ≤ roundHalfEven (7 / 2) := by
  obtain ⟨hnearest, hterms, hmonotone, _⟩ := roundHalfEven_nearest
  have hle : (-(5 / 2) : Rat) ≤ 7 / 2 := by norm_num
  refine ⟨by decide, by decide, hle, ?_, hterms (-10) 4 (by decide), hmonotone _ _ hle⟩
  apply (hnearest 10 (-4) (by decide) (-2)).mpr
  constructor
  · norm_num [abs_le]
  · intro _
    exact ⟨-1, rfl⟩

end Abacus
