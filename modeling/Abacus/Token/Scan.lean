/-
Module: Abacus.Token.Scan
Purpose: From the characters of an expression to its tokens. A number is a longest run of ASCII
  digits, white space separates and is dropped, every other token is one character. The scan
  stops at the first fault from the left.
Main exports: ScanFault, digitsValue, scan, tokenize
-/
import Abacus.Report
import Abacus.Text.Blank
import Abacus.Text.Digit

namespace Abacus

/-- Why an expression has no tokens. -/
inductive ScanFault where
  | unknownSymbol (symbol : Char) (position : Nat)
  | literalOverflow (literal : String) (position : Nat) (limit : Int)
deriving DecidableEq, Repr, Inhabited

/-- What a user is told about a fault of the scan, if its numbers can be written. -/
def ScanFault.report? : ScanFault → Option Report
  | unknownSymbol symbol position => Report.unknownSymbol? symbol (some position)
  | literalOverflow literal position limit =>
      Report.literalOverflow? literal (some position) (some limit)

/-- The number that a run of ASCII digits stands for, most significant digit first. -/
def digitsValue (digits : List Char) : Nat :=
  digits.foldl (fun value c => value * 10 + (c.toNat - '0'.toNat)) 0

/-- The number is that of the decimal numeral. -/
theorem digitsValue_eq (digits : List Char) :
    digitsValue digits = Nat.ofDigitChars 10 digits 0 := by
  simp only [digitsValue, Nat.ofDigitChars_eq_foldl, Nat.mul_comm]

/-- The token of one character that is neither a digit nor white space. -/
def Lexeme.ofSymbol? : Char → Option Lexeme
  | '(' => some .openBracket
  | ')' => some .closeBracket
  | c => (Operation.ofSymbol? c).map .operator

/-- What is left after a run of digits is not longer than before. -/
theorem length_dropWhile_le (p : Char → Bool) (text : List Char) :
    (text.dropWhile p).length ≤ text.length :=
  (List.dropWhile_sublist p).length_le

/-- Scans the rest of an expression, which starts at the given position. The sentinel that ends
the tokens stands behind the last character. -/
def scan (maxLiteral : Int) (position : Nat) : List Char → Except ScanFault (List Token)
  | [] => .ok [⟨.finish, position⟩]
  | c :: rest =>
      if Text.isDigit c then
        let digits := c :: rest.takeWhile Text.isDigit
        let value := digitsValue digits
        if maxLiteral < value then
          .error (.literalOverflow (String.ofList digits) position maxLiteral)
        else
          (⟨.operand value, position⟩ :: ·) <$>
            scan maxLiteral (position + digits.length) (rest.dropWhile Text.isDigit)
      else if Text.isBlank c then
        scan maxLiteral (position + 1) rest
      else
        match Lexeme.ofSymbol? c with
        | some lexeme => (⟨lexeme, position⟩ :: ·) <$> scan maxLiteral (position + 1) rest
        | none => .error (.unknownSymbol c position)
termination_by text => text.length
decreasing_by
  all_goals
    have := length_dropWhile_le Text.isDigit rest
    simp only [List.length_cons]
    omega

/-- The tokens of an expression, framed by the two sentinels. -/
def tokenize (maxLiteral : Int) (expression : String) : Except ScanFault (List Token) :=
  (⟨.begin, 0⟩ :: ·) <$> scan maxLiteral 0 expression.toList

end Abacus
