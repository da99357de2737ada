/-
Module: Abacus.Json.Display
Purpose: The text that a setting takes from a value of any kind: a string stands for itself,
  other values are shown with their parts, and the strings among these between quotation marks.
  The value is one that was read, so its numbers have few enough digits to be shown.
Main exports: Value.display, Value.typeName
-/
import Abacus.Binary64.Shortest
import Abacus.Json.Value
import Abacus.Text.Quoted

namespace Abacus.Json

mutual

/-- A value as a part of another. -/
def displayPart : Value → String
  | .null => "None"
  | .bool true => "True"
  | .bool false => "False"
  | .whole n => toString n
  | .real x => x.text
  | .string s => Text.quoted s
  | .array items => "[" ++ ", ".intercalate (displayItems items) ++ "]"
  | .object members => "\x7b" ++ ", ".intercalate (displayMembers members) ++ "\x7d"

/-- The items of an array. -/
def displayItems : List Value → List String
  | [] => []
  | item :: items => displayPart item :: displayItems items

/-- The members of an object. -/
def displayMembers : List (String × Value) → List String
  | [] => []
  | (name, value) :: members =>
      (Text.quoted name ++ ": " ++ displayPart value) :: displayMembers members

end

/-- The text of a value. -/
def Value.display : Value → String
  | .string s => s
  | value => displayPart value

/-- The name of the kind of a value in messages. -/
def Value.typeName : Value → String
  | .null => "NoneType"
  | .bool _ => "bool"
  | .whole _ => "int"
  | .real _ => "float"
  | .string _ => "str"
  | .array _ => "list"
  | .object _ => "dict"

end Abacus.Json
