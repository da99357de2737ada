/-
Module: Abacus.Http.Parameter
Purpose: The words of a header field: white space and comments between them, tokens, texts in
  quotation marks, and the parameters that are made of them, plain, in sections or with escapes.
Main exports: filler, quoted, Word.read, junk, Parameter, Parameter.read, Parameter.readAll
-/
import Abacus.Http.EncodedWord
import Abacus.Text.Blank
import Abacus.Text.Digit

namespace Abacus.Http

/-! ### White space and comments -/

/-- Whether a character separates words. -/
def isSpace (c : Char) : Bool :=
  c = ' ' || c = '\t'

/-- A character of a comment as it is written; parentheses and backslashes are escaped. -/
def commentChar (c : Char) : List Char :=
  if c = '(' ∨ c = ')' ∨ c = '\\' then ['\\', c] else [c]

/-- Takes the rest of a comment that lies in `depth` further ones: how it is written, and what
follows. A backslash escapes one character. -/
def comment (depth : Nat) (escaped : Bool) : List Char → List Char × List Char
  | [] => (List.replicate (depth + 1) ')', [])
  | c :: rest =>
      if escaped then
        let (text, left) := comment depth false rest
        (commentChar c ++ text, left)
      else if c = '\\' then comment depth true rest
      else if c = '(' then
        let (text, left) := comment (depth + 1) false rest
        ('(' :: text, left)
      else if c = ')' then
        match depth with
        | 0 => ([')'], rest)
        | outer + 1 =>
            let (text, left) := comment outer false rest
            (')' :: text, left)
      else
        let (text, left) := comment depth false rest
        (c :: text, left)

/-- A comment takes no more than there is. -/
theorem length_comment_le (s : List Char) (depth : Nat) (escaped : Bool) :
    (comment depth escaped s).2.length ≤ s.length := by
  induction s generalizing depth escaped with
  | nil => simp [comment]
  | cons c rest ih =>
    unfold comment
    split
    · exact Nat.le_succ_of_le (ih depth false)
    split
    · exact Nat.le_succ_of_le (ih depth true)
    split
    · exact Nat.le_succ_of_le (ih (depth + 1) false)
    split
    · cases depth with
      | zero => simp
      | succ outer => exact Nat.le_succ_of_le (ih outer false)
    · exact Nat.le_succ_of_le (ih depth false)

/-- What is left of a text without the blanks at its start is no longer than it. -/
theorem length_dropWhile_le (p : Char → Bool) (s : List Char) :
    (s.dropWhile p).length ≤ s.length := by
  induction s with
  | nil => simp
  | cons c rest ih =>
    simp only [List.dropWhile_cons]
    split
    · exact Nat.le_succ_of_le ih
    · exact Nat.le_refl _

/-- Takes white space and comments: how they are written, and what follows. White space starts
with a space or a tab and goes on with blanks of every kind. -/
def filler : List Char → List Char × List Char
  | [] => ([], [])
  | c :: rest =>
      if isSpace c then
        let (text, left) := filler (rest.dropWhile Text.isBlank)
        (c :: rest.takeWhile Text.isBlank ++ text, left)
      else if c = '(' then
        let (text, left) := filler (comment 0 false rest).2
        ('(' :: (comment 0 false rest).1 ++ text, left)
      else ([], c :: rest)
termination_by s => s.length
decreasing_by
  · exact Nat.lt_succ_of_le (length_dropWhile_le _ rest)
  · exact Nat.lt_succ_of_le (length_comment_le rest 0 false)

/-- What follows after white space and comments. -/
def skip (s : List Char) : List Char :=
  (filler s).2

/-! ### Texts in quotation marks -/

/-- The encoded word that stands here, if a word may begin here. -/
def wordAt? (begins : Bool) (s : List Char) : Option (List Char × List Char) :=
  if begins then encodedWord? s else none

/-- What follows an encoded word is shorter than what begins with it. -/
theorem length_wordAt? {begins : Bool} {s text rest : List Char}
    (h : wordAt? begins s = some (text, rest)) : rest.length < s.length := by
  unfold wordAt? at h
  split at h
  · exact length_encodedWord? h
  · simp at h

/-- What follows an encoded word, where white space before a further one does not count. -/
def afterWord : List Char → List Char
  | [] => []
  | c :: rest =>
      let next := rest.dropWhile Text.isBlank
      if isSpace c ∧ (encodedWord? next).isSome then next else c :: rest

/-- What follows an encoded word does not grow by leaving out white space. -/
theorem length_afterWord_le (s : List Char) : (afterWord s).length ≤ s.length := by
  cases s with
  | nil => simp [afterWord]
  | cons c rest =>
    have := length_dropWhile_le Text.isBlank rest
    simp only [afterWord]
    split
    · exact Nat.le_succ_of_le this
    · exact Nat.le_refl _

/-- Takes the rest of a text in quotation marks: the text that is meant, and what follows. A
backslash escapes one character, and encoded words stand at the start and behind white space. -/
def quoted (escaped begins : Bool) : List Char → List Char × List Char
  | [] => ([], [])
  | c :: rest =>
      if isSpace c then
        let (text, left) := quoted false true (rest.dropWhile Text.isBlank)
        (c :: rest.takeWhile Text.isBlank ++ text, left)
      else if c = '\\' ∧ ¬escaped then quoted true false rest
      else if c = '"' ∧ ¬escaped then ([], rest)
      else
        match _ : wordAt? (begins && !escaped) (c :: rest) with
        | some (word, after) =>
            let (text, left) := quoted false true (afterWord after)
            (word ++ text, left)
        | none =>
            let (text, left) := quoted false false rest
            (c :: text, left)
termination_by s => s.length
decreasing_by
  · exact Nat.lt_succ_of_le (length_dropWhile_le _ rest)
  · exact Nat.lt_succ_self _
  · exact Nat.lt_of_le_of_lt (length_afterWord_le after) (length_wordAt? ‹_›)
  · exact Nat.lt_succ_self _

/-- A text in quotation marks takes no more than there is. -/
theorem length_quoted_le (s : List Char) (escaped begins : Bool) :
    (quoted escaped begins s).2.length ≤ s.length := by
  fun_induction quoted escaped begins s with
  | case1 => simp
  | case2 _ _ c rest _ text left cut ih =>
    have := length_dropWhile_le Text.isBlank rest
    simp only [cut, List.length_cons] at ih ⊢
    omega
  | case3 _ _ c rest _ _ ih => exact Nat.le_succ_of_le ih
  | case4 => simp
  | case5 _ _ c rest _ _ _ word after found text left cut ih =>
    have := length_wordAt? found
    have := length_afterWord_le after
    simp only [cut] at ih ⊢
    omega
  | case6 _ _ c rest _ _ _ _ text left cut ih =>
    simp only [cut, List.length_cons] at ih ⊢
    omega

/-- A text as it is written in quotation marks. -/
def quote (text : List Char) : List Char :=
  '"' :: text.flatMap (fun c => if c = '"' ∨ c = '\\' then ['\\', c] else [c]) ++ ['"']

/-! ### Words -/

/-- The characters that end a token. -/
def isTokenEnd (c : Char) : Bool :=
  isSpace c || c ∈ "()<>@,:;\\\"[]/?=".toList

/-- The characters that end the name of a parameter. -/
def isNameEnd (c : Char) : Bool :=
  isTokenEnd c || c = '*' || c = '\'' || c = '%'

/-- The characters that end a value; a percent sign may stand in it. -/
def isValueEnd (c : Char) : Bool :=
  isTokenEnd c || c = '*' || c = '\''

/-- Why words are not read. -/
inductive ParameterFault where
  /-- They are none, and are left out. -/
  | refused
  /-- The whole field cannot be read. -/
  | broken
deriving DecidableEq, Repr, Inhabited

/-- Takes a run of characters up to one that ends it; there must be one at least. -/
def run (isEnd : Char → Bool) (s : List Char) : Except ParameterFault (List Char × List Char) :=
  match s.takeWhile fun c => !isEnd c with
  | [] => .error .refused
  | text => .ok (text, s.dropWhile fun c => !isEnd c)

/-- A word with the white space and the comments around it. -/
structure Word where
  before : List Char
  text : List Char
  after : List Char
deriving DecidableEq, Repr, Inhabited

/-- Takes a word. -/
def Word.read (isEnd : Char → Bool) (s : List Char) :
    Except ParameterFault (Word × List Char) := do
  let (before, s) := filler s
  let (text, s) ← run isEnd s
  let (after, s) := filler s
  return (⟨before, text, after⟩, s)

/-- A word as it is written. -/
def Word.written (word : Word) : List Char :=
  word.before ++ word.text ++ word.after

/-- The characters that end an atom; white space does so, too. -/
def isAtomEnd (c : Char) : Bool :=
  c ∈ "()<>@,:;.\\\"[]".toList

/-- Takes what makes no parameter, up to a semicolon that stands neither in a comment nor in
quotation marks nor in an encoded word: how it is written, and what follows. -/
def junk (begins : Bool) : List Char → List Char × List Char
  | [] => ([], [])
  | c :: rest =>
      if c = ';' then ([], c :: rest)
      else if c = '(' then
        let (text, left) := junk true (comment 0 false rest).2
        ('(' :: (comment 0 false rest).1 ++ text, left)
      else if c = '"' then
        let (text, left) := junk true (quoted false true rest).2
        (quote (quoted false true rest).1 ++ text, left)
      else if isSpace c then
        let (text, left) := junk true (rest.dropWhile Text.isBlank)
        (c :: rest.takeWhile Text.isBlank ++ text, left)
      else
        match _ : wordAt? begins (c :: rest) with
        | some (word, after) =>
            let (text, left) := junk true after
            (word ++ text, left)
        | none =>
            let (text, left) := junk (isAtomEnd c) rest
            (c :: text, left)
termination_by s => s.length
decreasing_by
  · exact Nat.lt_succ_of_le (length_comment_le rest 0 false)
  · exact Nat.lt_succ_of_le (length_quoted_le rest false true)
  · exact Nat.lt_succ_of_le (length_dropWhile_le _ rest)
  · exact length_wordAt? ‹_›
  · exact Nat.lt_succ_self _

/-! ### Parameters -/

/-- A parameter, or a section of one. -/
structure Parameter where
  name : String
  /-- The number of the section; none if the value is not in sections. -/
  number : Option Nat := none
  /-- Whether the value has escapes by number. -/
  extended : Bool := false
  /-- The charset of the escapes. -/
  charset : List Char := "us-ascii".toList
  /-- The value; none if there is nothing of it to be read. -/
  value : Option (List Char)
deriving DecidableEq, Repr, Inhabited

namespace Parameter

/-- The place of a section; what is not in sections is the first. -/
def place (parameter : Parameter) : Nat :=
  parameter.number.getD 0

/-- The text without white space at either end. -/
def trim (text : List Char) : List Char :=
  ((text.dropWhile Text.isBlank).reverse.dropWhile Text.isBlank).reverse

/-- Characters that are digits of a kind, but have no place value: superscripts, subscripts and
digits in circles. -/
def isDigitLike (c : Char) : Bool :=
  Text.inRanges
    [(0xB2, 0xB3), (0xB9, 0xB9), (0x1369, 0x1371), (0x19DA, 0x19DA), (0x2070, 0x2070),
     (0x2074, 0x2079), (0x2080, 0x2089), (0x2460, 0x2468), (0x2474, 0x247C), (0x2488, 0x2490),
     (0x24EA, 0x24EA), (0x24F5, 0x24FD), (0x24FF, 0x24FF), (0x2776, 0x277E), (0x2780, 0x2788),
     (0x278A, 0x2792), (0x10A40, 0x10A43), (0x10E60, 0x10E68), (0x11052, 0x1105A),
     (0x1F100, 0x1F10A)] c

/-- Takes the number of a section, if an asterisk and digits stand here. -/
def readSection (s : List Char) : Except ParameterFault (Option Nat × List Char) :=
  match s with
  | '*' :: rest =>
      match rest.takeWhile fun c => Text.isAnyDigit c || isDigitLike c with
      | [] => .ok (none, s)
      | digits =>
          match digits.mapM Text.digitValue? with
          | none => .error .broken
          | some values =>
              .ok (some (values.foldl (fun n d => 10 * n + d) 0), rest.drop digits.length)
  | _ => .ok (none, s)

/-- Takes the marks between the name and the value of a parameter: the number of the section,
and whether the value has escapes. -/
def readMarks (s : List Char) : Except ParameterFault ((Option Nat × Bool) × List Char) :=
  match s with
  | '*' :: _ => do
      let (number, s) ← readSection s
      match s with
      | '*' :: '=' :: rest => .ok ((number, true), rest)
      | ['*'] => .error .broken
      | '=' :: rest => .ok ((number, false), rest)
      | _ => .error .refused
  | '=' :: rest => .ok ((none, false), rest)
  | _ => .error .refused

/-- Takes a value: a text in quotation marks or a run of characters. -/
def readValue (s : List Char) : Except ParameterFault (List Char × List Char) :=
  match skip s with
  | '"' :: rest =>
      let (text, s) := quoted false true rest
      .ok (text, skip s)
  | s => do
      let (text, s) ← run isValueEnd s
      return (text, skip s)

/-- Takes what stands before the apostrophes: a charset, or the value itself. -/
def readFirst (s : List Char) : Except ParameterFault (Option (List Char) × List Char) :=
  match s with
  | '\'' :: _ => .ok (none, s)
  | _ => do
      let (text, s) ← readValue s
      return (some text, s)

/-- Takes two apostrophes and the language between them. -/
def skipLanguage (s : List Char) : Except ParameterFault (List Char) :=
  match s with
  | '\'' :: '\'' :: rest => .ok rest
  | ['\''] => .ok []
  | '\'' :: rest =>
      match run isNameEnd rest with
      | .ok (_, '\'' :: rest) => .ok rest
      | _ => .error .refused
  | _ => .error .refused

/-- The text in quotation marks that follows a charset and a language. White space counts as
one space. -/
def innerText (escaped : Bool) : List Char → List Char
  | [] => []
  | c :: rest =>
      if isSpace c then ' ' :: innerText false (rest.dropWhile Text.isBlank)
      else if c = '\\' ∧ ¬escaped then innerText true rest
      else c :: innerText false rest
termination_by s => s.length
decreasing_by
  · exact Nat.lt_succ_of_le (length_dropWhile_le _ rest)
  · exact Nat.lt_succ_self _
  · exact Nat.lt_succ_self _

/-- Whether the text in quotation marks is in fact a value with escapes: with a charset in front
if it is the first section, and nothing but the value in a later one. -/
def isExtended (place : Nat) (inner : List Char) : Except ParameterFault Bool :=
  match place with
  | 0 =>
      match inner with
      | '\'' :: _ => .ok true
      | _ => do
          let (_, rest) ← run isNameEnd inner
          return rest.head? = some '\''
  | _ + 1 => .ok (inner ≠ [] ∧ inner.all fun c => !isValueEnd c)

/-- Takes the value of a parameter whose name and marks have been taken. -/
def readPlain (parameter : Parameter) (s : List Char) :
    Except ParameterFault (Parameter × List Char) := do
  let (first, s) ← readFirst s
  let later : Bool := ¬parameter.extended ∨ 0 < parameter.place
  match first, s with
  | some text, [] => return ({ parameter with value := some text }, [])
  | _, _ =>
      if later ∧ s.head? ≠ some '\'' then return ({ parameter with value := first }, s)
      let s ← skipLanguage s
      let (text, s) ← readValue s
      return ({ parameter with
        charset := first.getD parameter.charset, value := some text }, s)

/-- The value that stands in quotation marks although it has escapes. -/
def readInner (parameter : Parameter) (inner : List Char) :
    Except ParameterFault Parameter := do
  if 0 < parameter.place then return { parameter with value := some inner }
  let charset := inner.takeWhile fun c => !isValueEnd c
  let text ← skipLanguage (inner.drop charset.length)
  return { parameter with
    charset := if charset = [] then parameter.charset else charset
    value := if text = [] then none else some (innerText false text) }

/-- Takes a parameter. -/
def read (s : List Char) : Except ParameterFault (Parameter × List Char) := do
  let (word, s) ← Word.read isNameEnd s
  let name := String.ofList (trim word.text)
  if s = [] ∨ s.head? = some ';' then return (⟨name, none, false, [], some []⟩, s)
  let ((number, extended), s) ← readMarks s
  let parameter : Parameter := { name, number, extended, value := none }
  match extended, skip s with
  | true, '"' :: rest =>
      let (inner, after) := quoted false true rest
      if ← isExtended parameter.place inner then
        return (← readInner parameter inner, skip after)
      else readPlain parameter (skip s)
  | _, s => readPlain parameter s

/-- Takes the parameters of a field, at most as many as `budget`. What makes no parameter is left
out up to the next semicolon. -/
def readList : (budget : Nat) → List Char → Except ParameterFault (List Parameter)
  | 0, _ | _, [] => .ok []
  | budget + 1, s =>
      match read s with
      | .error .broken => .error .broken
      | .error .refused => readList budget ((junk true s).2.drop 1)
      | .ok (parameter, rest) => do
          let more ← readList budget ((junk true rest).2.drop 1)
          return parameter :: more

/-- The parameters of a field, from behind its first semicolon. -/
def readAll (s : List Char) : Except ParameterFault (List Parameter) :=
  readList s.length s

end Parameter

end Abacus.Http
