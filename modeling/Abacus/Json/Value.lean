/-
Module: Abacus.Json.Value
Purpose: JSON values. The members of an object keep the order in which their names first came.
Main exports: Value, setMember, Value.member?
-/
import Abacus.Binary64

namespace Abacus.Json

/-- A JSON value. Numbers written without fraction and exponent are whole numbers of any size,
the others numbers of 64 bits. -/
inductive Value where
  | null
  | bool (b : Bool)
  | whole (n : Int)
  | real (x : Binary64)
  | string (s : String)
  | array (items : List Value)
  | object (members : List (String × Value))
deriving Repr, Inhabited

/-- Sets a member of an object: in its place if the name is there, at the end otherwise. -/
def setMember (name : String) (value : Value) : List (String × Value) → List (String × Value)
  | [] => [(name, value)]
  | member :: members =>
      if member.1 = name then (name, value) :: members
      else member :: setMember name value members

/-- The member of an object with the given name. -/
def Value.member? (value : Value) (name : String) : Option Value :=
  match value with
  | object members => members.lookup name
  | _ => none

end Abacus.Json
