/-
Module: Abacus.Text.Base64
Purpose: Bytes written with 64 digits, four digits for three bytes. What is no digit is passed
  over, and signs of padding end the text once they complete a group of four.
Main exports: base64Value?, base64Bytes?
-/

namespace Abacus.Text

/-- The value of a base-64 digit. -/
def base64Value? (c : Char) : Option Nat :=
  if 'A' ≤ c ∧ c ≤ 'Z' then some (c.toNat - 'A'.toNat)
  else if 'a' ≤ c ∧ c ≤ 'z' then some (c.toNat - 'a'.toNat + 26)
  else if '0' ≤ c ∧ c ≤ '9' then some (c.toNat - '0'.toNat + 52)
  else if c = '+' then some 62
  else if c = '/' then some 63
  else none

/-- The bytes of a text behind a number of digits of an open group, the bits of those that belong
to no byte yet, and a number of signs of padding. -/
def base64From? (digits bits padding : Nat) : List Char → Option (List UInt8)
  | [] => if digits = 0 then some [] else none
  | '=' :: rest =>
      if digits < 2 then base64From? digits bits padding rest
      else if digits + padding < 3 then base64From? digits bits (padding + 1) rest
      else some []
  | c :: rest =>
      match base64Value? c with
      | none => base64From? digits bits padding rest
      | some digit =>
          if digits = 0 then base64From? 1 digit 0 rest
          else
            let total := bits * 64 + digit
            let unit := 1 <<< (6 - 2 * digits)
            (UInt8.ofNat (total / unit) :: ·) <$>
              base64From? ((digits + 1) % 4) (total % unit) 0 rest

/-- The bytes of a text; none if its last group is not complete. -/
def base64Bytes? (text : List Char) : Option (List UInt8) :=
  base64From? 0 0 0 text

end Abacus.Text
