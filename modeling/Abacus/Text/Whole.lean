/-
Module: Abacus.Text.Whole
Purpose: Whole numbers written as texts, and read from texts as people type them: white space
  around, a sign, digits of any script, and single underscores between digits. Numbers of more
  digits than a fixed limit are neither written nor read.
Main exports: maxDigits, IsWritable, writeWhole?, WholeFault, readWhole, readWhole?
-/
import Abacus.Text.Blank
import Abacus.Text.Digit

namespace Abacus.Text

/-! ### Writing -/

/-- The most digits that a number may have to be written as a text, or read from one. -/
def maxDigits : Nat :=
  4300

/-- A number has few enough digits to be written. Its sign does not count. -/
def IsWritable (n : Int) : Prop :=
  n.natAbs < Nat.pow 10 maxDigits

instance IsWritable.decidable (n : Int) : Decidable (IsWritable n) :=
  inferInstanceAs (Decidable (n.natAbs < Nat.pow 10 maxDigits))

theorem isWritable_iff {n : Int} : IsWritable n ↔ n.natAbs < Nat.pow 10 maxDigits :=
  Iff.rfl

/-- Numbers below one that can be written can be written. -/
theorem IsWritable.of_natAbs_le {m n : Int} (h : IsWritable n) (hle : m.natAbs ≤ n.natAbs) :
    IsWritable m :=
  Nat.lt_of_le_of_lt hle h

/-- The sign does not count. -/
theorem isWritable_neg_iff {n : Int} : IsWritable (-n) ↔ IsWritable n := by
  rw [IsWritable, IsWritable, Int.natAbs_neg]

theorem isWritable_one : IsWritable 1 := by
  rw [isWritable_iff, Nat.pow_eq]
  exact Nat.one_lt_pow (by decide) (by decide)

/-- A number as a text, if it can be written. -/
def writeWhole? (n : Int) : Option String :=
  if IsWritable n then some (toString n) else none

theorem writeWhole?_of_isWritable {n : Int} (h : IsWritable n) :
    writeWhole? n = some (toString n) :=
  if_pos h

/-- Exactly the numbers that can be written have a text. -/
theorem writeWhole?_eq_some_iff {n : Int} {text : String} :
    writeWhole? n = some text ↔ IsWritable n ∧ toString n = text := by
  unfold writeWhole?
  split <;> simp_all

theorem isSome_writeWhole? (n : Int) : (writeWhole? n).isSome ↔ IsWritable n := by
  unfold writeWhole?
  split <;> simp_all

-- Nothing but the lemmas above needs to know the limit, and its power of ten is best left alone.
attribute [irreducible] IsWritable IsWritable.decidable writeWhole?

/-- The words for a number beyond the limit, with a detail. -/
def limitMessage (detail : String) : String :=
  s!"Exceeds the limit ({maxDigits} digits) for integer string conversion{detail}; " ++
    "use sys.set_int_max_str_digits() to increase the limit"

/-- The words for a number that has too many digits to be written. -/
def unwritableMessage : String :=
  limitMessage ""

/-! ### Reading -/

/-- Why a text is not read as a number. -/
inductive WholeFault where
  | noNumber
  /-- It has more digits than are read. -/
  | tooLong (digits : Nat)
deriving DecidableEq, Repr, Inhabited

/-- The words for a text with more digits than are read. -/
def tooLongMessage (digits : Nat) : String :=
  limitMessage s!": value has {digits} digits"

/-- White space that may stand around a number: of ASCII only the space and the controls from
the tab to the carriage return. -/
def isPadding (c : Char) : Bool :=
  if c.toNat < 0x7f then c = ' ' || ('\t' ≤ c && c ≤ '\r') else isBlank c

/-- Reads the digits that follow a digit, up to the end of the text. An underscore must stand
between two digits. -/
def readDigitsFrom (value : Nat) : List Char → Option Nat
  | [] => some value
  | '_' :: c :: rest => do
      let d ← digitValue? c
      readDigitsFrom (value * 10 + d) rest
  | c :: rest => do
      let d ← digitValue? c
      readDigitsFrom (value * 10 + d) rest

/-- Reads a number without a sign: at least one digit. -/
def readDigits? : List Char → Option Nat
  | [] => none
  | c :: rest => do
      let d ← digitValue? c
      readDigitsFrom d rest

/-- The text without padding at either end. -/
def trimPadding (text : List Char) : List Char :=
  ((text.dropWhile isPadding).reverse.dropWhile isPadding).reverse

/-- Whether a character can stand inside a number. -/
def isNumeral (c : Char) : Bool :=
  c = '_' || isAnyDigit c

/-- Reads a number without a sign. Its digits are counted before it is looked at what stands behind
them. -/
def readUnsigned (text : List Char) : Except WholeFault Nat :=
  let numeral := text.takeWhile isNumeral
  let digits := numeral.countP isAnyDigit
  match readDigits? numeral with
  | none => .error .noNumber
  | some n =>
      if maxDigits < digits then .error (.tooLong digits)
      else if text.dropWhile isNumeral = [] then .ok n
      else .error .noNumber

/-- Reads a number, with a sign or without. -/
def readWhole (text : String) : Except WholeFault Int :=
  match trimPadding text.toList with
  | '-' :: digits => (fun n : Nat => -(n : Int)) <$> readUnsigned digits
  | '+' :: digits => Int.ofNat <$> readUnsigned digits
  | digits => Int.ofNat <$> readUnsigned digits

/-- The number that a text is read as, if there is one. -/
def readWhole? (text : String) : Option Int :=
  (readWhole text).toOption

end Abacus.Text
