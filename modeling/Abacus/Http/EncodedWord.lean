/-
Module: Abacus.Http.EncodedWord
Purpose: Words that name the charset of their own text: an equals sign and three fields, each
  behind a question mark, for the charset, the coding and the text.
Main exports: encodedWord?
-/
import Abacus.Charset
import Abacus.Http.Target
import Abacus.Text.Base64
import Abacus.Text.Pieces

namespace Abacus.Http

/-- What stands before the end of an encoded word, and what follows. -/
def cutAtEnd? : List Char → Option (List Char × List Char)
  | [] => none
  | '?' :: '=' :: rest => some ([], rest)
  | c :: rest => do
      let (before, after) ← cutAtEnd? rest
      return (c :: before, after)

/-- The fields of an encoded word, from behind its first question mark, and what follows. A text
that begins with an escape looks like the end of the word, but is none. -/
def wordFields? (s : List Char) : Option (List Char × List Char) := do
  let (fields, rest) ← cutAtEnd? s
  match rest with
  | a :: b :: _ =>
      if (escapedByte? a b).isSome ∧ fields.count '?' < 2 then
        let (more, rest) := (cutAtEnd? rest).getD (rest, [])
        return (fields ++ '?' :: '=' :: more, rest)
      else return (fields, rest)
  | _ => return (fields, rest)

/-- The bytes of a text where an underscore is a space, and an equals sign stands before two
digits of a byte. -/
def spelledBytes : List Char → List UInt8
  | [] => []
  | '_' :: rest => 0x20 :: spelledBytes rest
  | '=' :: a :: b :: rest =>
      match escapedByte? a b with
      | some byte => byte :: spelledBytes rest
      | none => 0x3D :: spelledBytes (a :: b :: rest)
  | c :: rest => UInt8.ofNat c.toNat :: spelledBytes rest

/-- The bytes of the digits of a text; those of the text itself if the digits make no bytes. -/
def digitBytes (text : List Char) : List UInt8 :=
  ((Text.base64Bytes? text).or (Text.base64Bytes? (text ++ ['=', '=']))).getD
    (text.map fun c => UInt8.ofNat c.toNat)

/-- The bytes of a text in ASCII whose coding a letter names. -/
def codedBytes? (coding text : List Char) : Option (List UInt8) :=
  if ¬text.all (·.toNat < 0x80) then none
  else if coding = ['q'] ∨ coding = ['Q'] then some (spelledBytes text)
  else if coding = ['b'] ∨ coding = ['B'] then some (digitBytes text)
  else none

/-- The text that the fields of an encoded word stand for. A language may follow the charset, and
a charset that is unknown counts as ASCII. -/
def fieldsText? (fields : List Char) : Option (List Char) :=
  match Text.pieces '?' fields with
  | [charset, coding, text] => do
      let bytes ← codedBytes? coding text
      let charset := Charset.ofName? (String.ofList (charset.takeWhile (· ≠ '*')))
      (charset.getD .ascii).decodeMarking? bytes
  | _ => none

/-- The text of the encoded word that stands here, and what follows. -/
def encodedWord? (s : List Char) : Option (List Char × List Char) :=
  match s with
  | '=' :: '?' :: s => do
      let (fields, rest) ← wordFields? s
      return (← fieldsText? fields, rest)
  | _ => none

/-! ### What follows is shorter -/

/-- What follows the end of an encoded word is shorter than what holds the end. -/
theorem length_cutAtEnd? {s before after : List Char}
    (h : cutAtEnd? s = some (before, after)) : after.length < s.length := by
  fun_induction cutAtEnd? s generalizing before with
  | case1 => simp at h
  | case2 rest => grind
  | case3 c rest _ ih =>
    cases cut : cutAtEnd? rest with
    | none => simp [cut] at h
    | some pair => grind

/-- What follows the fields of an encoded word is shorter than what begins with them. -/
theorem length_wordFields? {s fields rest : List Char}
    (h : wordFields? s = some (fields, rest)) : rest.length < s.length := by
  unfold wordFields? at h
  cases cut : cutAtEnd? s with
  | none => simp [cut] at h
  | some pair =>
    have first : pair.2.length < s.length := length_cutAtEnd? cut
    cases again : cutAtEnd? pair.2 with
    | none => grind
    | some more =>
      have second : more.2.length < pair.2.length := length_cutAtEnd? again
      grind

/-- What follows an encoded word is shorter than what begins with it. -/
theorem length_encodedWord? {s text rest : List Char}
    (h : encodedWord? s = some (text, rest)) : rest.length < s.length := by
  unfold encodedWord? at h
  split at h
  · rename_i s
    cases found : wordFields? s with
    | none => simp [found] at h
    | some pair =>
      have : pair.2.length < s.length := length_wordFields? found
      cases read : fieldsText? pair.1 <;> grind
  · simp at h

end Abacus.Http
