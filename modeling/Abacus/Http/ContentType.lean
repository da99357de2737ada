/-
Module: Abacus.Http.ContentType
Purpose: The charset that a content type names. The field is first brought into its normal form:
  sections are joined, escapes are read, comments and what is no parameter are left out, and
  every value stands in quotation marks. Then its parts are read, and the last charset counts.
Main exports: sections, normalForm, charsetName
-/
import Abacus.Http.Parameter
import Abacus.Http.Target
import Abacus.Charset
import Abacus.Text.Case

namespace Abacus.Http

/-! ### Values of parameters -/

/-- The bytes of a text with escapes by number; what is no escape stands for itself. -/
def escapedBytes : List Char → List UInt8
  | [] => []
  | '%' :: a :: b :: rest =>
      match escapedByte? a b with
      | some byte => byte :: escapedBytes rest
      | none => 0x25 :: escapedBytes (a :: b :: rest)
  | c :: rest => c.toString.toUTF8.toList ++ escapedBytes rest

/-- The text of a parameter, with its escapes in the given charset; US-ASCII if there is no such
charset. -/
def Parameter.text (charset : List Char) (parameter : Parameter) :
    Except ParameterFault (List Char) :=
  match parameter.value with
  | none => .error .broken
  | some value =>
      if ¬parameter.extended then .ok value
      else
        let charset := (Charset.ofName? (String.ofList charset)).getD .ascii
        match charset.decodeMarking? (escapedBytes value) with
        | none => .error .broken
        | some text => .ok text

/-- The texts of sections, from the section of number `place` on. A section out of order counts
only if it has escapes. -/
def joinSections (charset : List Char) (place : Nat) :
    List Parameter → Except ParameterFault (List Char)
  | [] => .ok []
  | parameter :: rest =>
      if parameter.place ≠ place ∧ ¬parameter.extended then joinSections charset place rest
      else do
        let text ← parameter.text charset
        let more ← joinSections charset (place + 1) rest
        return text ++ more

/-- The value of a parameter that is made of the given sections, in order. If the first has no
escapes and is there twice, it is the whole value. -/
def sectionsValue (sections : List Parameter) : Except ParameterFault (List Char) :=
  match sections with
  | [] => .ok []
  | first :: rest =>
      let again : Bool := (rest.head?.map Parameter.place) = some 0
      let used := if ¬first.extended ∧ again then [first] else sections
      joinSections first.charset 0 used

/-- The names of parameters with their sections in order; names stand in the order in which they
come first. -/
def sections (parameters : List Parameter) : List (String × List Parameter) :=
  (parameters.map Parameter.name).eraseDups.map fun name =>
    (name, (parameters.filter (·.name = name)).mergeSort fun a b => a.place ≤ b.place)

/-! ### The normal form of a field -/

/-- What stands before the parameters, as it is written: the type with a slash in it, or what
stands in its place. -/
def normalHead (s : List Char) : List Char × List Char :=
  let after (written : List Char) (s : List Char) :=
    let (text, left) := junk true s
    (written ++ text, left)
  match Word.read isTokenEnd s with
  | .error _ => after [] s
  | .ok (main, '/' :: s) =>
      match Word.read isTokenEnd s with
      | .error _ => after (main.written ++ ['/']) s
      | .ok (sub, s) => after (main.written ++ '/' :: sub.written) s
  | .ok (main, s) => after main.written s

/-- A parameter as it is written; an empty value is left out. -/
def writtenParameter (name : String) (value : List Char) : List Char :=
  if value = [] then name.toList else name.toList ++ '=' :: quote value

/-- A field in its normal form. -/
def normalForm (field : List Char) : Except ParameterFault (List Char) :=
  match normalHead field with
  | (head, []) => .ok head
  | (head, _ :: rest) => do
      let parameters ← Parameter.readAll rest
      let written ← (sections parameters).mapM fun entry => do
        return writtenParameter entry.1 (← sectionsValue entry.2)
      return head ++ ';' :: (if written = [] then [] else ' ' :: "; ".toList.intercalate written)

/-! ### The charset -/

/-- The parts of a normal form between the semicolons that stand outside quotation marks; a mark
behind a backslash is none. -/
def fieldParts (inside escaped : Bool) : List Char → List (List Char)
  | [] => [[]]
  | c :: rest =>
      if c = ';' ∧ ¬inside then [] :: fieldParts false false rest
      else
        match fieldParts (if c = '"' ∧ ¬escaped then !inside else inside) (c = '\\') rest with
        | [] => [[c]]
        | part :: parts => (c :: part) :: parts

/-- A text with each backslash left out that stands before the given character. -/
def unescape (escaped : Char) : List Char → List Char
  | '\\' :: c :: rest =>
      if c = escaped then c :: unescape escaped rest else '\\' :: unescape escaped (c :: rest)
  | c :: rest => c :: unescape escaped rest
  | [] => []

/-- The text between quotation marks or angle brackets, or the text itself. -/
def unquote (text : List Char) : List Char :=
  match text with
  | '"' :: rest =>
      if rest.getLast? = some '"' then unescape '"' (unescape '\\' rest.dropLast) else text
  | '<' :: rest => if rest.getLast? = some '>' then rest.dropLast else text
  | _ => text

/-- The name and the value that a part of a field sets; the value is empty if there is none. -/
def partEntry (part : List Char) : String × List Char :=
  match part.dropWhile (· ≠ '=') with
  | [] => (String.ofList (Parameter.trim part), [])
  | _ :: value =>
      let key := String.ofList (Parameter.trim (part.takeWhile (· ≠ '=')))
      (Text.lower key, unquote (Parameter.trim value))

/-- The mark of a section in the name of a part: the name itself, the number, and whether the value
has escapes. -/
structure PartMark where
  name : String
  number : Option Nat
  extended : Bool
deriving DecidableEq, Repr, Inhabited

/-- The mark behind the asterisk in a name, if the name is made of letters, digits and underscores
and the mark of digits and a further asterisk. -/
def partMark? (key : String) : Option PartMark :=
  let name := key.toList.takeWhile (· ≠ '*')
  let mark := key.toList.drop (name.length + 1)
  let digits := mark.takeWhile Char.isDigit
  if name = [] ∨ name = key.toList ∨ ¬name.all fun c => c.isAlphanum || c = '_' then none
  else if mark = [] then some ⟨String.ofList name, none, true⟩
  else if digits = [] ∨ (mark ≠ digits ∧ mark ≠ digits ++ ['*']) then none
  else some ⟨String.ofList name, some (Nat.ofDigitChars 10 digits 0), mark ≠ digits⟩

/-- The value of a parameter that is left in sections, if there are any. Sections with and without
a number make no order, and escapes no name. -/
def joinedParts (name : String) (entries : List (String × List Char)) :
    Except ParameterFault (Option (List Char)) :=
  let marked := entries.filterMap fun entry => (·, entry.2) <$> partMark? entry.1
  let isMixed := marked.any fun a => marked.any fun b =>
    a.1.name = b.1.name && a.1.number.isNone && b.1.number.isSome
  let own := marked.filter (·.1.name = name)
  if isMixed ∨ own.any (·.1.extended) then .error .broken
  else if own = [] then .ok none
  else
    let isBefore (a b : PartMark × List Char) : Bool :=
      a.1.number.getD 0 < b.1.number.getD 0 ||
        a.1.number = b.1.number && String.ofList a.2 ≤ String.ofList b.2
    .ok (some ((own.mergeSort isBefore).flatMap (·.2)))

/-- The name of the charset that a content type sets; the last one, and none if it is empty. -/
def charsetName (contentType : String) : Except ParameterFault (Option String) := do
  let form ← normalForm contentType.toList
  let entries := ((fieldParts false false form).drop 1).map partEntry
  let plain := (entries.filter (·.1 = "charset")).getLast?.map (·.2)
  let joined ← joinedParts "charset" entries
  return ((joined.or plain).filter (· ≠ [])).map String.ofList

end Abacus.Http
