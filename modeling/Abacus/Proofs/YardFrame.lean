/-
Module: Abacus.Proofs.YardFrame
Purpose: What the yard does not look at. It looks at what its tokens are and not at the rest of
  them, never at its output, and inside a bracket never at what lies below. So a part in brackets
  that has a postfix order by itself goes to the output as a whole, and the rest of the tokens is
  put as if nothing had stood there.
Main exports: Yard.putAll_relabel, Yard.close_relabel, shuntingYard_relabel, Yard.putAll_within,
  Yard.putAll_bracketed, shuntingYard_around
-/
import Abacus.Proofs.ShuntingYard

namespace Abacus

/-! ### Other labels, more output -/

/-- Changes of tokens that keep what the tokens are. -/
def KeepsLexemes (label : Token → Token) : Prop :=
  ∀ token : Token, (label token).lexeme = token.lexeme

namespace Yard

/-- Tokens are put one after another. -/
theorem putAll_append (yard : Yard) (first second : List Token) :
    yard.putAll (first ++ second) =
      match yard.putAll first with
      | .ok next => next.putAll second
      | .error culprit => .error culprit := by
  induction first generalizing yard with
  | nil => rfl
  | cons token rest ih =>
      simp only [List.cons_append, putAll]
      cases yard.put token with
      | ok next => exact ih next
      | error culprit => rfl

/-- The yard with other tokens of the same lexemes, and with some output before its own. -/
def relabel (label : Token → Token) (earlier : List Token) (yard : Yard) : Yard where
  operators := yard.operators.map label
  output := yard.output.map label ++ earlier

section

variable {label : Token → Token} (hlabel : KeepsLexemes label) (earlier : List Token) (yard : Yard)

theorem popWhile_relabel {test : Token → Bool}
    (htest : ∀ token : Token, test (label token) = test token) :
    (yard.relabel label earlier).popWhile test = (yard.popWhile test).relabel label earlier := by
  have hcomp : test ∘ label = test := funext htest
  simp [popWhile, relabel, List.takeWhile_map, List.dropWhile_map, hcomp]

include hlabel

theorem popBinding_relabel (level : Nat) :
    (yard.relabel label earlier).popWhile (Token.bindsAtLeast level) =
      (yard.popWhile (Token.bindsAtLeast level)).relabel label earlier := by
  apply popWhile_relabel
  intro token
  rw [Token.bindsAtLeast, hlabel token]
  rfl

theorem popInside_relabel :
    (yard.relabel label earlier).popWhile Token.isInside =
      (yard.popWhile Token.isInside).relabel label earlier := by
  apply popWhile_relabel
  intro token
  rw [Token.isInside, hlabel token]
  rfl

/-- What the yard does with a token depends on its lexeme alone. -/
theorem put_relabel (token : Token) :
    (yard.relabel label earlier).put (label token) =
      match yard.put token with
      | .ok next => .ok (next.relabel label earlier)
      | .error culprit => .error (label culprit) := by
  have hlexeme := hlabel token
  cases htoken : token.lexeme with
  | operand value =>
      simp only [put, hlexeme, htoken]
      rfl
  | operator op =>
      simp only [put, hlexeme, htoken, popBinding_relabel hlabel]
      rfl
  | openBracket =>
      simp only [put, hlexeme, htoken]
      rfl
  | closeBracket =>
      simp only [put, hlexeme, htoken, popInside_relabel hlabel]
      generalize yard.popWhile Token.isInside = ready
      obtain ⟨_ | ⟨top, below⟩, output⟩ := ready
      · rfl
      · rfl
  | begin => simp only [put, hlexeme, htoken]
  | finish => simp only [put, hlexeme, htoken]

/-- What the yard does with tokens depends on their lexemes alone. -/
theorem putAll_relabel (tokens : List Token) :
    (yard.relabel label earlier).putAll (tokens.map label) =
      match yard.putAll tokens with
      | .ok next => .ok (next.relabel label earlier)
      | .error culprit => .error (label culprit) := by
  induction tokens generalizing yard with
  | nil => rfl
  | cons token rest ih =>
      rw [List.map_cons, putAll, put_relabel hlabel, putAll]
      cases yard.put token with
      | ok next => exact ih next
      | error culprit => rfl

/-- How the yard closes depends on lexemes alone, and earlier output comes first. -/
theorem close_relabel (finish : Token) :
    (yard.relabel label earlier).close (label finish) =
      match yard.close finish with
      | .ok tokens => .ok (earlier.reverse ++ tokens.map label)
      | .error culprit => .error (label culprit) := by
  simp only [close, popInside_relabel hlabel]
  generalize yard.popWhile Token.isInside = ready
  obtain ⟨_ | ⟨top, below⟩, output⟩ := ready
  · simp [relabel]
  · rfl

end

end Yard

/-- What the shunting yard does with tokens depends on their lexemes alone. -/
theorem shuntingYard_relabel {label : Token → Token} (hlabel : KeepsLexemes label)
    (body : List Token) (finish : Token) :
    shuntingYard (body.map label) (label finish) =
      match shuntingYard body finish with
      | .ok tokens => .ok (tokens.map label)
      | .error culprit => .error (label culprit) := by
  have hbody : Yard.putAll ⟨[], []⟩ (body.map label) = _ :=
    Yard.putAll_relabel hlabel [] ⟨[], []⟩ body
  rw [shuntingYard, hbody, shuntingYard]
  cases Yard.putAll ⟨[], []⟩ body with
  | ok yard => exact Yard.close_relabel hlabel [] yard finish
  | error culprit => rfl

namespace Yard

/-! ### Inside a bracket -/

/-- A yard that works inside a bracket which was opened on an outer one. -/
def within (yard outer : Yard) (opening : Int) : Yard where
  operators := yard.operators ++ ⟨.openBracket, opening⟩ :: outer.operators
  output := yard.output ++ outer.output

theorem isInside_openBracket (position : Int) :
    Token.isInside ⟨.openBracket, position⟩ = false := by
  rfl

variable {yard next : Yard} (outer : Yard) (opening : Int)

/-- Popping that stops at brackets stays inside. -/
theorem popWhile_within {test : Token → Bool} (htest : test ⟨.openBracket, opening⟩ = false)
    (yard : Yard) :
    (yard.within outer opening).popWhile test = (yard.popWhile test).within outer opening := by
  have hsettled : Settled test (⟨.openBracket, opening⟩ :: outer.operators) := by
    rwa [settled_cons]
  simp [popWhile, within, takeWhile_append_settled _ hsettled,
    dropWhile_append_settled _ hsettled]

/-- A token that an inner yard takes does to it the same inside a bracket. -/
theorem put_within {token : Token} (h : yard.put token = .ok next) :
    (yard.within outer opening).put token = .ok (next.within outer opening) := by
  obtain ⟨lexeme, position⟩ := token
  cases lexeme with
  | operand value =>
      cases h
      rfl
  | operator op =>
      cases h
      have hstop : Token.bindsAtLeast op.priority ⟨.openBracket, opening⟩ = false := rfl
      simp only [put, popWhile_within outer opening hstop]
      rfl
  | openBracket =>
      cases h
      rfl
  | closeBracket =>
      simp only [put] at h ⊢
      rw [popWhile_within outer opening (isInside_openBracket opening)]
      generalize yard.popWhile Token.isInside = ready at h
      obtain ⟨_ | ⟨top, below⟩, output⟩ := ready
      · cases h
      · cases h
        rfl
  | begin => cases h
  | finish => cases h

/-- Tokens that an inner yard takes do to it the same inside a bracket. -/
theorem putAll_within {tokens : List Token} (h : yard.putAll tokens = .ok next) :
    (yard.within outer opening).putAll tokens = .ok (next.within outer opening) := by
  induction tokens generalizing yard with
  | nil =>
      cases h
      rfl
  | cons token rest ih =>
      simp only [putAll] at h ⊢
      split at h
      · next hput =>
          rw [put_within outer opening hput]
          exact ih h
      · cases h

/-- What has a postfix order by itself goes to the output in brackets, and the waiting operators
    are as before. -/
theorem putAll_bracketed {inner tokens : List Token} {finish : Token}
    (h : shuntingYard inner finish = .ok tokens) (closing : Int) :
    outer.putAll (⟨.openBracket, opening⟩ :: (inner ++ [⟨.closeBracket, closing⟩])) =
      .ok ⟨outer.operators, tokens.reverse ++ outer.output⟩ := by
  rw [shuntingYard] at h
  split at h
  · next last hlast =>
      have hinner : (within ⟨[], []⟩ outer opening).putAll inner =
          .ok (last.within outer opening) := putAll_within outer opening hlast
      show (within ⟨[], []⟩ outer opening).putAll (inner ++ [⟨.closeBracket, closing⟩]) = _
      rw [putAll_append, hinner]
      simp only [close] at h
      simp only [putAll, put, popWhile_within outer opening (isInside_openBracket opening)]
      generalize last.popWhile Token.isInside = ready at h
      obtain ⟨_ | ⟨top, below⟩, output⟩ := ready
      · cases h
        simp [within]
      · cases h
  · cases h

end Yard

/-! ### Around brackets -/

/-- What the yard gives before and after a place between tokens, at which it is left as it is. -/
def yardAround (before after : List Token) (finish : Token) :
    Except Token (List Token × List Token) :=
  match Yard.putAll ⟨[], []⟩ before with
  | .error culprit => .error culprit
  | .ok outer =>
      match Yard.putAll ⟨outer.operators, []⟩ after with
      | .error culprit => .error culprit
      | .ok last =>
          match last.close finish with
          | .error culprit => .error culprit
          | .ok later => .ok (outer.output.reverse, later)

/-- In brackets, what has a postfix order by itself stands in the midst of the listing, and does not
    count for what stands around it. -/
theorem shuntingYard_around {inner tokens : List Token} {innerFinish : Token}
    (h : shuntingYard inner innerFinish = .ok tokens) (before after : List Token)
    (opening closing : Int) (finish : Token) :
    shuntingYard (before ++ ⟨.openBracket, opening⟩ :: (inner ++ ⟨.closeBracket, closing⟩ :: after))
        finish =
      match yardAround before after finish with
      | .ok (earlier, later) => .ok (earlier ++ tokens ++ later)
      | .error culprit => .error culprit := by
  have hsplit : before ++ ⟨.openBracket, opening⟩ :: (inner ++ ⟨.closeBracket, closing⟩ :: after) =
      before ++ ((⟨.openBracket, opening⟩ :: (inner ++ [⟨.closeBracket, closing⟩])) ++ after) := by
    simp
  rw [shuntingYard, yardAround, hsplit, Yard.putAll_append]
  cases Yard.putAll ⟨[], []⟩ before with
  | error culprit => rfl
  | ok outer =>
      have hkeeps : KeepsLexemes id := fun _ => rfl
      have hready : (⟨outer.operators, tokens.reverse ++ outer.output⟩ : Yard) =
          Yard.relabel id (tokens.reverse ++ outer.output) ⟨outer.operators, []⟩ := by
        simp [Yard.relabel]
      have hafter := Yard.putAll_relabel hkeeps (tokens.reverse ++ outer.output)
        ⟨outer.operators, []⟩ after
      rw [List.map_id, ← hready] at hafter
      simp only [Yard.putAll_append, Yard.putAll_bracketed outer opening h closing, hafter]
      cases Yard.putAll ⟨outer.operators, []⟩ after with
      | error culprit => rfl
      | ok last =>
          have hclose := Yard.close_relabel hkeeps (tokens.reverse ++ outer.output) last finish
          simp only [id_eq] at hclose
          simp only [hclose]
          cases last.close finish with
          | error culprit => rfl
          | ok later => simp

end Abacus
