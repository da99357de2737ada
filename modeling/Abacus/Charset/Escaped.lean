/-
Module: Abacus.Charset.Escaped
Purpose: Latin 1 with escapes for the other characters: by number alone, or also by letter as in
  the literals of programs.
Main exports: decodeEscapes?, decodeNumberEscapes?
-/
import Abacus.Text.Hex

namespace Abacus.Charset

/-- The number of `count` hexadecimal digits, and what follows them. -/
def takeHex? (count : Nat) (s : List Char) : Option (Nat × List Char) := do
  let digits ← (s.take count).mapM Text.hexValue?
  if digits.length < count then none
  else some (digits.foldl (fun n d => 16 * n + d) 0, s.drop count)

/-- How many digits an escape by number has. -/
def escapeLength? (c : Char) : Option Nat :=
  match c with
  | 'x' => some 2
  | 'u' => some 4
  | 'U' => some 8
  | _ => none

/-- The character that a letter behind a backslash stands for. -/
def letterEscape? (c : Char) : Option Char :=
  match c with
  | '\\' | '\'' | '"' => some c
  | 'b' => some '\x08'
  | 'f' => some '\x0c'
  | 't' => some '\t'
  | 'n' => some '\n'
  | 'r' => some '\r'
  | 'v' => some '\x0b'
  | 'a' => some '\x07'
  | _ => none

/-- Whether a character is an octal digit. -/
def isOctal (c : Char) : Bool :=
  '0' ≤ c && c ≤ '7'

/-- The character of an escape and what follows it, from behind the backslash; no character for
a line end. An escape that is none stands for itself. -/
def takeEscape? (c : Char) (rest : List Char) : Option (List Char × List Char) :=
  match escapeLength? c, letterEscape? c with
  | some count, _ => do
      let (number, rest) ← takeHex? count rest
      if number.isValidChar then some ([Char.ofNat number], rest) else none
  | none, some letter => some ([letter], rest)
  | none, none =>
      if c = '\n' then some ([], rest)
      else if c = 'N' then none
      else if isOctal c then
        let digits := c :: (rest.take 2).takeWhile isOctal
        let number := digits.foldl (fun n d => 8 * n + (d.toNat - '0'.toNat)) 0
        some ([Char.ofNat number], rest.drop (digits.length - 1))
      else some (['\\', c], rest)

/-- What follows hexadecimal digits is no longer than the text. -/
theorem length_takeHex? {count n : Nat} {s rest : List Char}
    (h : takeHex? count s = some (n, rest)) : rest.length ≤ s.length := by
  unfold takeHex? at h
  cases hd : (s.take count).mapM Text.hexValue? with
  | none => simp [hd] at h
  | some digits =>
    simp only [hd, Option.bind_eq_bind, Option.bind_some] at h
    split at h
    · simp at h
    · simp only [Option.some.injEq, Prod.mk.injEq] at h
      rw [← h.2, List.length_drop]
      exact Nat.sub_le _ _

/-- What follows an escape is no longer than the text behind its first character. -/
theorem length_takeEscape? {c : Char} {s text rest : List Char}
    (h : takeEscape? c s = some (text, rest)) : rest.length ≤ s.length := by
  unfold takeEscape? at h
  split at h
  · next count _ =>
    cases hn : takeHex? count s with
    | none => simp [hn] at h
    | some found =>
      obtain ⟨n, left⟩ := found
      simp only [hn, Option.bind_eq_bind, Option.bind_some] at h
      split at h
      · simp only [Option.some.injEq, Prod.mk.injEq] at h
        exact h.2 ▸ length_takeHex? hn
      · simp at h
  · simp only [Option.some.injEq, Prod.mk.injEq] at h
    simp [← h.2]
  · split at h
    · simp only [Option.some.injEq, Prod.mk.injEq] at h
      simp [← h.2]
    split at h
    · simp at h
    split at h
    · simp only [Option.some.injEq, Prod.mk.injEq] at h
      rw [← h.2, List.length_drop]
      exact Nat.sub_le _ _
    · simp only [Option.some.injEq, Prod.mk.injEq] at h
      simp [← h.2]

/-- The text that is written with escapes of all kinds. -/
def readEscapes (s : List Char) : Option (List Char) :=
  match s with
  | [] => some []
  | ['\\'] => none
  | '\\' :: c :: rest =>
      match _ : takeEscape? c rest with
      | none => none
      | some (text, left) => (text ++ ·) <$> readEscapes left
  | c :: rest => (c :: ·) <$> readEscapes rest
termination_by s.length
decreasing_by
  · have := length_takeEscape? ‹_›
    simp only [List.length_cons]
    omega
  · exact Nat.lt_succ_self _

/-- The number of an escape by number alone, from behind its letter, and what follows it. -/
def takeNumberEscape? (c : Char) (rest : List Char) : Option (Nat × List Char) :=
  if c = 'u' then takeHex? 4 rest
  else if c = 'U' then takeHex? 8 rest
  else none

/-- What follows an escape by number is no longer than the text behind its letter. -/
theorem length_takeNumberEscape? {c : Char} {n : Nat} {s rest : List Char}
    (h : takeNumberEscape? c s = some (n, rest)) : rest.length ≤ s.length := by
  unfold takeNumberEscape? at h
  split at h
  · exact length_takeHex? h
  split at h
  · exact length_takeHex? h
  · simp at h

/-- The text that is written with escapes by number. -/
def readNumberEscapes (s : List Char) : Option (List Char) :=
  match s with
  | [] => some []
  | '\\' :: c :: rest =>
      match _ : takeNumberEscape? c rest with
      | some (number, left) =>
          if number.isValidChar then (Char.ofNat number :: ·) <$> readNumberEscapes left else none
      | none =>
          if c = 'u' ∨ c = 'U' then none
          else (['\\', c] ++ ·) <$> readNumberEscapes rest
  | c :: rest => (c :: ·) <$> readNumberEscapes rest
termination_by s.length
decreasing_by
  · have := length_takeNumberEscape? ‹_›
    simp only [List.length_cons]
    omega
  · exact Nat.lt_succ_of_lt (Nat.lt_succ_self _)
  · exact Nat.lt_succ_self _

/-- The text of bytes in Latin 1 with escapes of all kinds. -/
def decodeEscapes? (bytes : List UInt8) : Option (List Char) :=
  readEscapes (bytes.map fun byte => Char.ofNat byte.toNat)

/-- The text of bytes in Latin 1 with escapes by number. -/
def decodeNumberEscapes? (bytes : List UInt8) : Option (List Char) :=
  readNumberEscapes (bytes.map fun byte => Char.ofNat byte.toNat)

end Abacus.Charset
