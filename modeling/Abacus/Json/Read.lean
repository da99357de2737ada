/-
Module: Abacus.Json.Read
Purpose: JSON read from text, with the place and the kind of the first fault. Beyond the standard
  the three numbers `NaN`, `Infinity` and `-Infinity` are read, and of members with one name the
  last one counts. Brackets are read up to a depth, and whole numbers up to a number of digits.
Main exports: Reason, Fault, Fault.message, readWithin, read
-/
import Abacus.Json.Value
import Abacus.Text.Hex
import Abacus.Text.Whole

namespace Abacus.Json

/-- Why a text is not JSON. -/
inductive Reason where
  | byteOrderMark
  | noValue
  | noName
  | noColon
  | noComma
  | extraText
  | openString
  | control
  | escape
  | unicodeEscape
  | deepArray
  | deepObject
  | longNumber (digits : Nat)
deriving DecidableEq, Repr, Inhabited

/-- The words for a reason. -/
def Reason.text : Reason → String
  | .byteOrderMark => "Unexpected UTF-8 BOM (decode using utf-8-sig)"
  | .noValue => "Expecting value"
  | .noName => "Expecting property name enclosed in double quotes"
  | .noColon => "Expecting ':' delimiter"
  | .noComma => "Expecting ',' delimiter"
  | .extraText => "Extra data"
  | .openString => "Unterminated string starting at"
  | .control => "Invalid control character at"
  | .escape => "Invalid \\escape"
  | .unicodeEscape => "Invalid \\uXXXX escape"
  | .deepArray =>
      "maximum recursion depth exceeded while decoding a JSON array from a unicode string"
  | .deepObject =>
      "maximum recursion depth exceeded while decoding a JSON object from a unicode string"
  | .longNumber digits => Text.tooLongMessage digits

/-- Whether the text may be JSON, but is beyond a limit: nested too deep, or with too long a
number. -/
def Reason.isLimit : Reason → Bool
  | .deepArray | .deepObject | .longNumber _ => true
  | _ => false

/-- A fault in a text: its reason, and how many characters stand from its place to the end. -/
structure Fault where
  reason : Reason
  left : Nat
deriving DecidableEq, Repr, Inhabited

/-- The message on a fault. Its place is given by line, column and position; lines and columns
count from one. No place is given for what is beyond a limit. -/
def Fault.message (fault : Fault) (text : List Char) : String :=
  if fault.reason.isLimit then fault.reason.text else
  let before := text.take (text.length - fault.left)
  let line := before.count '\n' + 1
  let column := (before.reverse.takeWhile (· ≠ '\n')).length + 1
  s!"{fault.reason.text}: line {line} column {column} (char {before.length})"

/-- A fault at the start of the given rest of the text. -/
def faultAt (reason : Reason) (rest : List Char) : Except Fault α :=
  .error ⟨reason, rest.length⟩

/-- The four characters of white space between the parts of a text. -/
def isGap (c : Char) : Bool :=
  c = ' ' || c = '\t' || c = '\n' || c = '\r'

/-- The text without the white space at its start. -/
def skipGap (text : List Char) : List Char :=
  text.dropWhile isGap

/-- The text after a given start, if it starts so. -/
def after? : (start text : List Char) → Option (List Char)
  | [], text => some text
  | _ :: _, [] => none
  | a :: start, c :: text => if a = c then after? start text else none

/-! ### Strings -/

/-- The number that four hexadecimal digits stand for. -/
def fourDigits? : List Char → Option (Nat × List Char)
  | a :: b :: c :: d :: rest => do
      let a ← Text.hexValue? a
      let b ← Text.hexValue? b
      let c ← Text.hexValue? c
      let d ← Text.hexValue? d
      some (((a * 16 + b) * 16 + c) * 16 + d, rest)
  | _ => none

/-- The character that a backslash and a letter stand for. -/
def escaped? : Char → Option Char
  | '"' => some '"'
  | '\\' => some '\\'
  | '/' => some '/'
  | 'b' => some '\x08'
  | 'f' => some '\x0c'
  | 'n' => some '\n'
  | 'r' => some '\r'
  | 't' => some '\t'
  | _ => none

/-- The character of a code unit; one half of a pair alone has none and is replaced. -/
def charOfUnit (unit : Nat) : Char :=
  if 0xD800 ≤ unit ∧ unit < 0xE000 then '\uFFFD' else Char.ofNat unit

/-- Whether a code unit is the first of a pair. -/
def isHighUnit (unit : Nat) : Bool :=
  0xD800 ≤ unit && unit < 0xDC00

/-- Whether a code unit is the second of a pair. -/
def isLowUnit (unit : Nat) : Bool :=
  0xDC00 ≤ unit && unit < 0xE000

/-- The character of a pair of code units. -/
def joinUnits (high low : Nat) : Char :=
  Char.ofNat (0x10000 + (high - 0xD800) * 0x400 + (low - 0xDC00))

/-- Reads the character of an escape by number; the text starts behind its `u`. At least one more
character must follow the digits, since the string is still open. The first unit of a pair is
joined with the escape that follows, if that is the second one. -/
def unicodeEscape (text : List Char) : Except Fault (Char × List Char) :=
  match fourDigits? text with
  | none => .error ⟨.unicodeEscape, text.length + 1⟩
  | some (_, []) => .error ⟨.unicodeEscape, text.length + 1⟩
  | some (unit, rest) =>
      match isHighUnit unit, rest with
      | true, '\\' :: 'u' :: next =>
          if next.length ≤ 4 then .ok (charOfUnit unit, rest)
          else
            match fourDigits? next with
            | none => .error ⟨.unicodeEscape, next.length + 1⟩
            | some (low, behind) =>
                if isLowUnit low then .ok (joinUnits unit low, behind)
                else .ok (charOfUnit unit, rest)
      | _, _ => .ok (charOfUnit unit, rest)

/-- Reads the rest of a string behind its opening quote. The budget is any number above the
length of the text; `opened` is what was left of the text at that quote. -/
def stringFrom (opened : Nat) (budget : Nat) (text : List Char) :
    Except Fault (List Char × List Char) :=
  match budget, text with
  | 0, _ | _, [] => .error ⟨.openString, opened⟩
  | _ + 1, '"' :: rest => .ok ([], rest)
  | _ + 1, ['\\'] => .error ⟨.openString, opened⟩
  | budget + 1, '\\' :: 'u' :: rest => do
      let (c, rest) ← unicodeEscape rest
      let (cs, rest) ← stringFrom opened budget rest
      .ok (c :: cs, rest)
  | budget + 1, '\\' :: letter :: rest =>
      match escaped? letter with
      | none => .error ⟨.escape, rest.length + 2⟩
      | some c => do
          let (cs, rest) ← stringFrom opened budget rest
          .ok (c :: cs, rest)
  | budget + 1, c :: rest =>
      if c.toNat < 0x20 then .error ⟨.control, rest.length + 1⟩
      else do
        let (cs, rest) ← stringFrom opened budget rest
        .ok (c :: cs, rest)

/-- Reads a string; the text starts behind its opening quote. -/
def string (text : List Char) : Except Fault (String × List Char) := do
  let (cs, rest) ← stringFrom (text.length + 1) (text.length + 1) text
  .ok (String.ofList cs, rest)

/-! ### Numbers -/

/-- The digits at the start of a text, and the rest. -/
def spanDigits (text : List Char) : List Char × List Char :=
  text.span Text.isDigit

/-- The number that a run of digits stands for. -/
def natOfDigits (digits : List Char) : Nat :=
  digits.foldl (fun value c => value * 10 + (c.toNat - '0'.toNat)) 0

/-- The whole part of a number: a zero, or digits that start with another one. -/
def wholePart? : List Char → Option (List Char × List Char)
  | '0' :: rest => some (['0'], rest)
  | c :: rest => if Text.isDigit c then some (spanDigits (c :: rest)) else none
  | [] => none

/-- The digits behind a point, if a point and a digit follow. -/
def fractionPart (text : List Char) : List Char × List Char :=
  match text with
  | '.' :: rest =>
      match spanDigits rest with
      | ([], _) => ([], text)
      | (digits, behind) => (digits, behind)
  | _ => ([], text)

/-- A sign that may stand in front of an exponent. -/
def exponentSign : List Char → Bool × List Char
  | '-' :: rest => (true, rest)
  | '+' :: rest => (false, rest)
  | text => (false, text)

/-- The exponent, if its letter and at least one digit follow. -/
def exponentPart? (text : List Char) : Option (Int × List Char) :=
  match text with
  | c :: rest =>
      if c = 'e' ∨ c = 'E' then
        let (negative, rest) := exponentSign rest
        match spanDigits rest with
        | ([], _) => none
        | (digits, behind) =>
            let n : Int := natOfDigits digits
            some (if negative then -n else n, behind)
      else none
  | [] => none

/-- A number behind its sign: whole if neither fraction nor exponent is written. -/
def unsigned? (negative : Bool) (text : List Char) : Option (Value × List Char) := do
  let (digits, rest) ← wholePart? text
  let (fraction, rest) := fractionPart rest
  let exponent := exponentPart? rest
  let behind := match exponent with
    | some (_, behind) => behind
    | none => rest
  let value :=
    if fraction.isEmpty ∧ exponent.isNone then
      let n : Int := natOfDigits digits
      Value.whole (if negative then -n else n)
    else
      let shift : Int := match exponent with
        | some (n, _) => n
        | none => 0
      Value.real
        (Binary64.ofDecimal negative (natOfDigits (digits ++ fraction)) (shift - fraction.length))
  some (value, behind)

/-- A number. -/
def number? : List Char → Option (Value × List Char)
  | '-' :: rest => unsigned? true rest
  | text => unsigned? false text

/-! ### Values -/

/-- The words that are values. -/
def words : List (String × Value) :=
  [("null", .null), ("true", .bool true), ("false", .bool false), ("NaN", .real .nan),
    ("Infinity", .real (.infinite false)), ("-Infinity", .real (.infinite true))]

/-- How many digits the number at the start of a text has in front of its point. -/
def wholeLength (text : List Char) : Nat :=
  ((text.dropWhile (· = '-')).takeWhile Text.isDigit).length

/-- Whether a number is read when at most `digits` digits are: whole numbers must not have more. -/
def isShort (digits : Nat) : Value → Bool
  | .whole n => n.natAbs < Nat.pow 10 digits
  | _ => true

/-- A word or a number at the start of a text. -/
def scalar (digits : Nat) (text : List Char) : Except Fault (Value × List Char) :=
  match words.findSome? fun word => (after? word.1.toList text).map fun rest => (word.2, rest) with
  | some found => .ok found
  | none =>
      match number? text with
      | some found =>
          if isShort digits found.1 then .ok found
          else faultAt (.longNumber (wholeLength text)) text
      | none => faultAt .noValue text

mutual

/-- Reads a value in which brackets may be nested as deep as `depth`, and whole numbers have as many
digits as `digits`. Every pair of brackets takes two from the budget. -/
def value (digits depth budget : Nat) (text : List Char) : Except Fault (Value × List Char) :=
  match budget with
  | 0 => faultAt .noValue text
  | budget + 1 =>
      match text with
      | '"' :: rest => do
          let (s, rest) ← string rest
          .ok (.string s, rest)
      | '\x7b' :: rest =>
          if depth = 0 then faultAt .deepObject text
          else
            match skipGap rest with
            | '\x7d' :: rest => .ok (.object [], rest)
            | rest => do
                let (members, rest) ← members digits (depth - 1) budget [] rest
                .ok (.object members, rest)
      | '[' :: rest =>
          if depth = 0 then faultAt .deepArray text
          else
            match skipGap rest with
            | ']' :: rest => .ok (.array [], rest)
            | rest => do
                let (items, rest) ← items digits (depth - 1) budget rest
                .ok (.array items, rest)
      | text => scalar digits text

/-- Reads the items of an array up to its closing bracket. -/
def items (digits depth budget : Nat) (text : List Char) : Except Fault (List Value × List Char) :=
  match budget with
  | 0 => faultAt .noValue text
  | budget + 1 => do
      let (item, rest) ← value digits depth budget text
      match skipGap rest with
      | ']' :: rest => .ok ([item], rest)
      | ',' :: rest => do
          let (more, rest) ← items digits depth budget (skipGap rest)
          .ok (item :: more, rest)
      | rest => faultAt .noComma rest

/-- Reads the members of an object up to its closing bracket; `known` are those before. -/
def members (digits depth budget : Nat) (known : List (String × Value)) (text : List Char) :
    Except Fault (List (String × Value) × List Char) :=
  match budget with
  | 0 => faultAt .noName text
  | budget + 1 =>
      match text with
      | '"' :: rest => do
          let (name, rest) ← string rest
          match skipGap rest with
          | ':' :: rest => do
              let (found, rest) ← value digits depth budget (skipGap rest)
              let known := setMember name found known
              match skipGap rest with
              | '\x7d' :: rest => .ok (known, rest)
              | ',' :: rest => members digits depth budget known (skipGap rest)
              | rest => faultAt .noComma rest
          | rest => faultAt .noColon rest
      | text => faultAt .noName text

end

/-- The value that a whole text stands for, in which brackets may be nested as deep as `depth` and
whole numbers have as many digits as `digits`. White space may stand around it. -/
def readWithin (digits depth : Nat) (text : List Char) : Except Fault Value :=
  match text with
  | '\uFEFF' :: _ => faultAt .byteOrderMark text
  | _ => do
      let (found, rest) ← value digits depth (2 * text.length + 2) (skipGap text)
      match skipGap rest with
      | [] => .ok found
      | rest => faultAt .extraText rest

/-- The value that a whole text stands for, in which brackets may be nested as deep as `depth`. Its
whole numbers have no more digits than are read from any text. -/
def read (depth : Nat) (text : List Char) : Except Fault Value :=
  readWithin Text.maxDigits depth text

end Abacus.Json
