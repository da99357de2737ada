/-
Module: Abacus.Text.Hex
Purpose: Numbers written in hexadecimal with a fixed number of places.
Main exports: hex, hexValue?, hexValue?_digitChar, exists_digit_of_mem_hex
-/

namespace Abacus.Text

/-- The last `places` hexadecimal digits of a number, in lower case. -/
def hex : (places : Nat) → Nat → List Char
  | 0, _ => []
  | places + 1, n => hex places (n / 16) ++ [Nat.digitChar (n % 16)]

/-- The value of a hexadecimal digit of either case. -/
def hexValue? (c : Char) : Option Nat :=
  if '0' ≤ c ∧ c ≤ '9' then some (c.toNat - '0'.toNat)
  else if 'a' ≤ c ∧ c ≤ 'f' then some (c.toNat - 'a'.toNat + 10)
  else if 'A' ≤ c ∧ c ≤ 'F' then some (c.toNat - 'A'.toNat + 10)
  else none

theorem hexValue?_digitChar {n : Nat} (h : n < 16) : hexValue? (Nat.digitChar n) = some n := by
  decide +revert

theorem exists_digit_of_mem_hex {places n : Nat} {c : Char} (h : c ∈ hex places n) :
    ∃ digit < 16, c = Nat.digitChar digit := by
  induction places generalizing n with
  | zero => exact absurd h List.not_mem_nil
  | succ places ih =>
      rcases List.mem_append.mp h with hfront | hlast
      · exact ih hfront
      · exact ⟨n % 16, Nat.mod_lt n (by decide), List.mem_singleton.mp hlast⟩

end Abacus.Text
