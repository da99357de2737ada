/-
Module: Abacus.Proofs.OnePassScan
Purpose: The scan done in one pass, one character after the other. A reader keeps the value of the
  number whose digits it is reading and refuses a digit as soon as the value is too great; only then
  does it look for the end of the number. One more blank behind the text makes it put down a number
  on which the text ends. It reads the tokens of the scan, and stops with the fault of the scan.
Main exports: Reader, Reader.readAll, readTokens, readAll_digits, readTokens_eq_tokenize
-/
import Abacus.Proofs.ScanText

namespace Abacus

/-! ### The reader -/

/-- A number on its way: where its first digit stands, and the value of its digits so far. -/
structure PendingNumber where
  start : Nat
  value : Nat
deriving DecidableEq, Repr, Inhabited

/-- A reader: the number whose digits it is reading, and the tokens so far, the newest first. -/
structure Reader where
  pending : Option PendingNumber
  tokens : List Token
deriving DecidableEq, Repr, Inhabited

namespace Reader

/-- The tokens so far once the number on its way is complete. -/
def flushed (reader : Reader) : List Token :=
  match reader.pending with
  | some number => ⟨.operand number.value, number.start⟩ :: reader.tokens
  | none => reader.tokens

/-- The whole run of digits that starts at a place of a text. -/
def literalAt (text : List Char) (start : Nat) : List Char :=
  (text.drop start).takeWhile Text.isDigit

/-- Reads a digit. The number that becomes too great is looked up in the text as a whole. -/
def readDigit (maxLiteral : Int) (text : List Char) (reader : Reader) (position : Nat) (c : Char) :
    Except ScanFault Reader :=
  let number := reader.pending.getD ⟨position, 0⟩
  let value := number.value * 10 + (c.toNat - '0'.toNat)
  if maxLiteral < value then
    .error (.literalOverflow (String.ofList (literalAt text number.start)) number.start maxLiteral)
  else .ok ⟨some ⟨number.start, value⟩, reader.tokens⟩

/-- Reads a character that is no digit. It ends the number on its way. -/
def readOther (reader : Reader) (position : Nat) (c : Char) : Except ScanFault Reader :=
  if Text.isBlank c then .ok ⟨none, reader.flushed⟩
  else
    match Lexeme.ofSymbol? c with
    | some lexeme => .ok ⟨none, ⟨lexeme, position⟩ :: reader.flushed⟩
    | none => .error (.unknownSymbol c position)

/-- Reads the character at a position of a text. -/
def read (maxLiteral : Int) (text : List Char) (reader : Reader) (position : Nat) (c : Char) :
    Except ScanFault Reader :=
  if Text.isDigit c then reader.readDigit maxLiteral text position c
  else reader.readOther position c

/-- Reads characters from a position on. -/
def readAll (maxLiteral : Int) (text : List Char) (reader : Reader) (position : Nat) :
    List Char → Except ScanFault Reader
  | [] => .ok reader
  | c :: rest => do
      let next ← reader.read maxLiteral text position c
      next.readAll maxLiteral text (position + 1) rest

/-- The tokens that a reader has at the end of a text. -/
def framed (text : List Char) (reader : Reader) : List Token :=
  reader.tokens.reverse ++ [⟨.finish, text.length⟩]

end Reader

/-- The tokens of an expression, read in one pass. -/
def readTokens (maxLiteral : Int) (expression : String) : Except ScanFault (List Token) :=
  let text := expression.toList
  Reader.framed text <$> Reader.readAll maxLiteral text ⟨none, [⟨.begin, 0⟩]⟩ 0 (text ++ [' '])

/-! ### Numbers on their way -/

/-- The value of a run goes on with its next digit. -/
theorem digitsValue_concat (digits : List Char) (c : Char) :
    digitsValue (digits ++ [c]) = digitsValue digits * 10 + (c.toNat - '0'.toNat) := by
  simp [digitsValue]

/-- More digits never make a value less. -/
theorem digitsValue_le_append (digits more : List Char) :
    digitsValue digits ≤ digitsValue (digits ++ more) := by
  have hmore : digitsValue (digits ++ more) =
      10 ^ more.length * digitsValue digits + digitsValue more := by
    simp only [digitsValue_eq, Nat.ofDigitChars_append]
    exact Nat.ofDigitChars_eq_ofDigitChars_zero
  rw [hmore]
  exact Nat.le_add_right_of_le (Nat.le_mul_of_pos_left _ (Nat.pow_pos (by decide)))

section

variable {maxLiteral : Int} {text : List Char}

namespace Reader

/-- A character that is no digit is read as if the number before it were complete. -/
theorem read_flushed (reader : Reader) (position : Nat) {c : Char}
    (hdigit : Text.isDigit c = false) :
    reader.read maxLiteral text position c =
      read maxLiteral text ⟨none, reader.flushed⟩ position c := by
  simp only [read, hdigit, readOther]
  rfl

/-- Characters of which the first is no digit are read as if the number before them were
    complete. -/
theorem readAll_flushed (reader : Reader) (position : Nat) {rest : List Char}
    (hrest : Settled Text.isDigit rest) :
    reader.readAll maxLiteral text position (rest ++ [' ']) =
      readAll maxLiteral text ⟨none, reader.flushed⟩ position (rest ++ [' ']) := by
  cases rest with
  | nil => rfl
  | cons c rest =>
      rw [settled_cons] at hrest
      simp only [List.cons_append, readAll]
      rw [read_flushed reader position hrest]

/-- One more digit of a number. -/
theorem readAll_digit (digits rest : List Char) (start position : Nat) (tokens : List Token)
    {c : Char} (hdigit : Text.isDigit c = true) :
    readAll maxLiteral text ⟨some ⟨start, digitsValue digits⟩, tokens⟩ position (c :: rest) =
      if maxLiteral < digitsValue (digits ++ [c]) then
        .error (.literalOverflow (String.ofList (literalAt text start)) start maxLiteral)
      else
        readAll maxLiteral text ⟨some ⟨start, digitsValue (digits ++ [c])⟩, tokens⟩
          (position + 1) rest := by
  rw [readAll, read, if_pos hdigit, digitsValue_concat]
  simp only [readDigit, Option.getD_some]
  split <;> rfl

/-- The literal that is looked up is the run as a whole. -/
theorem literalAt_run {before digits rest : List Char} {c : Char}
    (hdigits : ∀ digit ∈ digits, Text.isDigit digit = true) (hdigit : Text.isDigit c = true) :
    literalAt (before ++ (digits ++ c :: rest)) before.length =
      digits ++ c :: rest.takeWhile Text.isDigit := by
  rw [literalAt, List.drop_left, List.takeWhile_append_of_pos hdigits, List.takeWhile_cons, hdigit]
  rfl

/-- How a reader goes on that has read some digits of a run and reads the others next. The digits
    are refused if the run as a whole stands for a number that is too great. -/
def afterRun (maxLiteral : Int) (text : List Char) (tokens : List Token) (start : Nat)
    (run rest : List Char) : Except ScanFault Reader :=
  if maxLiteral < digitsValue run then
    .error (.literalOverflow (String.ofList run) start maxLiteral)
  else
    readAll maxLiteral text ⟨none, ⟨.operand (digitsValue run), start⟩ :: tokens⟩
      (start + run.length) (rest ++ [' '])

/-- The last digit of a run. -/
theorem readAll_lastDigit {before digits rest : List Char} (tokens : List Token) {c : Char}
    (hdigits : ∀ digit ∈ digits, Text.isDigit digit = true) (hdigit : Text.isDigit c = true)
    (htext : text = before ++ (digits ++ c :: rest)) (hrest : Settled Text.isDigit rest) :
    readAll maxLiteral text ⟨some ⟨before.length, digitsValue digits⟩, tokens⟩
        (before.length + digits.length) (c :: rest ++ [' ']) =
      afterRun maxLiteral text tokens before.length (digits ++ [c]) rest := by
  have hnone : rest.takeWhile Text.isDigit = [] := takeWhile_append_settled [] hrest
  rw [List.cons_append, readAll_digit _ _ _ _ _ hdigit, htext, literalAt_run hdigits hdigit, hnone,
    afterRun, List.length_append]
  split
  · rfl
  · exact readAll_flushed _ _ hrest

/-- A run of digits is read as a whole. It is refused on the first digit with which its value is too
    great, and this happens exactly if the whole run is too great. -/
theorem readAll_digits {before digits rest : List Char} (tokens : List Token) {c : Char}
    (hdigits : ∀ digit ∈ digits, Text.isDigit digit = true) (hdigit : Text.isDigit c = true)
    (htext : text = before ++ (digits ++ c :: rest)) :
    readAll maxLiteral text ⟨some ⟨before.length, digitsValue digits⟩, tokens⟩
        (before.length + digits.length) (c :: rest ++ [' ']) =
      afterRun maxLiteral text tokens before.length (digits ++ c :: rest.takeWhile Text.isDigit)
        (rest.dropWhile Text.isDigit) := by
  induction rest generalizing digits c with
  | nil => exact readAll_lastDigit tokens hdigits hdigit htext (settled_nil _)
  | cons next rest ih =>
      cases hnext : Text.isDigit next with
      | false =>
          rw [List.takeWhile_cons, List.dropWhile_cons, hnext]
          exact readAll_lastDigit tokens hdigits hdigit htext ((settled_cons _ _ _).mpr hnext)
      | true =>
          rw [List.cons_append, readAll_digit _ _ _ _ _ hdigit]
          have hall : ∀ digit ∈ digits ++ [c], Text.isDigit digit = true :=
            List.forall_mem_append.mpr ⟨hdigits, List.forall_mem_singleton.mpr hdigit⟩
          have hlater := ih hall hnext (by simpa using htext)
          split
          · next hover =>
              -- The digits to come make the value no less, so the whole run is too great as well.
              have hmore := digitsValue_le_append (digits ++ [c])
                ((next :: rest).takeWhile Text.isDigit)
              rw [List.append_assoc, List.singleton_append] at hmore
              rw [htext, literalAt_run hdigits hdigit, afterRun, if_pos (by omega)]
          · rw [List.takeWhile_cons, List.dropWhile_cons, hnext]
            simpa [Nat.add_assoc] using hlater

/-- A run of digits is read as a whole by a reader that is on no number: it goes on as if a number
    without digits were on its way. -/
theorem readAll_run {before rest : List Char} (tokens : List Token) {c : Char}
    (hdigit : Text.isDigit c = true) (htext : text = before ++ c :: rest) :
    readAll maxLiteral text ⟨none, tokens⟩ before.length (c :: rest ++ [' ']) =
      afterRun maxLiteral text tokens before.length (c :: rest.takeWhile Text.isDigit)
        (rest.dropWhile Text.isDigit) := by
  have hfresh : readAll maxLiteral text ⟨none, tokens⟩ before.length (c :: rest ++ [' ']) =
      readAll maxLiteral text ⟨some ⟨before.length, digitsValue []⟩, tokens⟩ before.length
        (c :: rest ++ [' ']) := by
    simp only [List.cons_append, readAll, read, if_pos hdigit]
    rfl
  rw [hfresh]
  exact readAll_digits tokens (List.forall_mem_nil _) hdigit htext

/-- What is found behind a token comes behind it in the tokens as a whole. -/
theorem map_reverse_cons (tokens : List Token) (first : Token)
    (found : Except ScanFault (List Token)) :
    ((first :: tokens).reverse ++ ·) <$> found =
      (tokens.reverse ++ ·) <$> (first :: ·) <$> found := by
  cases found with
  | error fault => rfl
  | ok later => simp [Functor.map, Except.map]

/-- A reader that is on no number reads the tokens that the scan finds. -/
theorem readAll_eq_scan {before rest : List Char} (tokens : List Token)
    (htext : text = before ++ rest) {position : Nat} (hposition : before.length = position) :
    framed text <$> readAll maxLiteral text ⟨none, tokens⟩ position (rest ++ [' ']) =
      (tokens.reverse ++ ·) <$> scan maxLiteral position rest := by
  fun_induction scan maxLiteral position rest generalizing before tokens with
  | case1 position =>
      subst hposition htext
      rw [List.append_nil]
      rfl
  | case2 position c rest hdigit digits value =>
      rename_i hbound
      subst hposition
      rw [readAll_run tokens hdigit htext, afterRun, if_pos hbound]
      rfl
  | case3 position c rest hdigit digits value hbound =>
      rename_i ih
      subst hposition
      have hrest : text = (before ++ digits) ++ rest.dropWhile Text.isDigit := by
        rw [htext, List.append_assoc, List.cons_append, List.takeWhile_append_dropWhile]
      rw [readAll_run tokens hdigit htext, afterRun, if_neg hbound, ← map_reverse_cons]
      exact ih _ hrest List.length_append
  | case4 position c rest hdigit hblank ih =>
      have hrest : text = (before ++ [c]) ++ rest := by
        rw [htext, List.append_assoc, List.singleton_append]
      have hread : readAll maxLiteral text ⟨none, tokens⟩ position (c :: rest ++ [' ']) =
          readAll maxLiteral text ⟨none, tokens⟩ (position + 1) (rest ++ [' ']) := by
        rw [List.cons_append, readAll, read, if_neg hdigit, readOther, if_pos hblank]
        rfl
      rw [hread]
      exact ih tokens hrest (by simp [hposition])
  | case5 position c rest hdigit hblank lexeme hlexeme ih =>
      have hrest : text = (before ++ [c]) ++ rest := by
        rw [htext, List.append_assoc, List.singleton_append]
      have hread : readAll maxLiteral text ⟨none, tokens⟩ position (c :: rest ++ [' ']) =
          readAll maxLiteral text ⟨none, ⟨lexeme, position⟩ :: tokens⟩ (position + 1)
            (rest ++ [' ']) := by
        rw [List.cons_append, readAll, read, if_neg hdigit, readOther, if_neg hblank, hlexeme]
        rfl
      rw [hread, ← map_reverse_cons]
      exact ih _ hrest (by simp [hposition])
  | case6 position c rest hdigit hblank hlexeme =>
      rw [List.cons_append, readAll, read, if_neg hdigit, readOther, if_neg hblank, hlexeme]
      rfl

end Reader

/-- Reading in one pass gives the tokens of the scan, or its fault. -/
theorem readTokens_eq_tokenize (maxLiteral : Int) (expression : String) :
    readTokens maxLiteral expression = tokenize maxLiteral expression :=
  Reader.readAll_eq_scan [⟨.begin, 0⟩] (List.nil_append _).symm rfl

end

end Abacus
