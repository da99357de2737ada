/-
Module: Abacus.Json.Write
Purpose: JSON written as text: on one line for answers, with one entry a line for files. All
  characters outside ASCII are escaped.
Main exports: compact, indented, isWritable, indented?
-/
import Abacus.Binary64.Shortest
import Abacus.Json.Value
import Abacus.Text.Hex
import Abacus.Text.Whole

namespace Abacus.Json

/-- An escape by number for each code unit of a character. -/
def numericEscape (c : Char) : List Char :=
  if c.toNat < 0x10000 then '\\' :: 'u' :: Text.hex 4 c.toNat
  else
    let offset := c.toNat - 0x10000
    '\\' :: 'u' :: Text.hex 4 (0xD800 + offset / 0x400)
      ++ '\\' :: 'u' :: Text.hex 4 (0xDC00 + offset % 0x400)

/-- One character of a string. -/
def escapeChar (c : Char) : List Char :=
  if c = '"' ∨ c = '\\' then ['\\', c]
  else if c = '\n' then ['\\', 'n']
  else if c = '\r' then ['\\', 'r']
  else if c = '\t' then ['\\', 't']
  else if c = '\x0c' then ['\\', 'f']
  else if c = '\x08' then ['\\', 'b']
  else if ' ' ≤ c ∧ c ≤ '~' then [c]
  else numericEscape c

/-- A string between its quotes. -/
def escapeString (text : String) : String :=
  String.ofList ('"' :: text.toList.flatMap escapeChar ++ ['"'])

/-- A number of 64 bits; the special ones are written as words. -/
def realText : Binary64 → String
  | .nan => "NaN"
  | .infinite negative => Binary64.signText negative ++ "Infinity"
  | number => number.text

/-- A value that is neither an array nor an object. -/
def scalarText : Value → String
  | .bool true => "true"
  | .bool false => "false"
  | .whole n => toString n
  | .real x => realText x
  | .string s => escapeString s
  | _ => "null"

mutual

/-- A value on one line. -/
def compact : Value → String
  | .array items => "[" ++ ", ".intercalate (compactItems items) ++ "]"
  | .object members => "\x7b" ++ ", ".intercalate (compactMembers members) ++ "\x7d"
  | value => scalarText value

/-- The items of an array, each on one line. -/
def compactItems : List Value → List String
  | [] => []
  | item :: items => compact item :: compactItems items

/-- The members of an object, each on one line. -/
def compactMembers : List (String × Value) → List String
  | [] => []
  | (name, value) :: members =>
      (escapeString name ++ ": " ++ compact value) :: compactMembers members

end

/-- The start of a new line, four spaces in for each level. -/
def lineStart (level : Nat) : String :=
  String.ofList ('\n' :: List.replicate (4 * level) ' ')

/-- Entries one a line between brackets; no line is broken for none. -/
def block (level : Nat) (opening closing : String) (entries : List String) : String :=
  if entries.isEmpty then opening ++ closing
  else
    opening ++ lineStart (level + 1) ++ ("," ++ lineStart (level + 1)).intercalate entries
      ++ lineStart level ++ closing

mutual

/-- A value at a level of nesting, with one entry a line. -/
def indentedAt (level : Nat) : Value → String
  | .array items => block level "[" "]" (indentedItems (level + 1) items)
  | .object members => block level "\x7b" "\x7d" (indentedMembers (level + 1) members)
  | value => scalarText value

/-- The items of an array. -/
def indentedItems (level : Nat) : List Value → List String
  | [] => []
  | item :: items => indentedAt level item :: indentedItems level items

/-- The members of an object. -/
def indentedMembers (level : Nat) : List (String × Value) → List String
  | [] => []
  | (name, value) :: members =>
      (escapeString name ++ ": " ++ indentedAt level value) :: indentedMembers level members

end

/-- A value with one entry a line. -/
def indented (value : Value) : String :=
  indentedAt 0 value

/-! ### Values that can be written -/

mutual

/-- Whether all whole numbers in a value have few enough digits to be written. -/
def isWritable : Value → Bool
  | .whole n => Text.IsWritable n
  | .array items => areWritable items
  | .object members => membersWritable members
  | _ => true

/-- Whether the items of an array can be written. -/
def areWritable : List Value → Bool
  | [] => true
  | item :: items => isWritable item && areWritable items

/-- Whether the members of an object can be written. -/
def membersWritable : List (String × Value) → Bool
  | [] => true
  | (_, value) :: members => isWritable value && membersWritable members

end

/-- A value with one entry a line, if it can be written. -/
def indented? (value : Value) : Option String :=
  if isWritable value then some (indented value) else none

end Abacus.Json
