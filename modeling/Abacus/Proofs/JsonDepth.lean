/-
Module: Abacus.Proofs.JsonDepth
Purpose: Reading a text within stricter limits or laxer ones, for the nesting of brackets and for
  the digits of whole numbers. The limits decide only whether a text is refused for them: whoever
  reads within stricter limits reads the same or refuses for that reason.
Main exports: Within, allWithin, readWithin_within, readWithin_of_ok, readWithin_zero_ne_object
-/
import Abacus.Json.Read

namespace Abacus.Json

/-! ### Results under two pairs of limits -/

/-- A result is the other one, or the text is refused for a limit. -/
def Within {α : Type} (strict lax : Except Fault α) : Prop :=
  strict = lax ∨ ∃ fault : Fault, strict = .error fault ∧ fault.reason.isLimit = true

theorem Within.refl {α : Type} (result : Except Fault α) : Within result result :=
  .inl rfl

/-- Reading on where a reader has stopped. -/
theorem Within.bind {α β : Type} {strict lax : Except Fault α} {next later : α → Except Fault β}
    (h : Within strict lax) (hnext : ∀ found : α, Within (next found) (later found)) :
    Within (strict >>= next) (lax >>= later) := by
  rcases h with rfl | ⟨fault, rfl, hlimit⟩
  · cases strict with
    | error fault => exact .refl _
    | ok found => exact hnext found
  · exact .inr ⟨fault, rfl, hlimit⟩

/-- Behind an opening bracket one bracket less may be opened, and none where none is left. -/
theorem within_bracket {α : Type} {shallow deep : Nat} (hle : shallow ≤ deep) {reason : Reason}
    (hlimit : reason.isLimit = true) (place : List Char) {result other : Except Fault α}
    (h : Within result other) :
    Within (if shallow = 0 then faultAt reason place else result)
      (if deep = 0 then faultAt reason place else other) := by
  by_cases hshallow : shallow = 0
  · rw [if_pos hshallow]
    exact .inr ⟨_, rfl, hlimit⟩
  · have hdeep : deep ≠ 0 := by omega
    rw [if_neg hshallow, if_neg hdeep]
    exact h

section

variable {few many : Nat} (hdigits : few ≤ many)

include hdigits

/-- A number with few digits is one with many. -/
theorem isShort_mono {v : Value} (h : isShort few v = true) : isShort many v = true := by
  cases v with
  | whole n =>
      have hpow : Nat.pow 10 few ≤ Nat.pow 10 many := Nat.pow_le_pow_right (by decide) hdigits
      simp only [isShort, decide_eq_true_eq] at h ⊢
      omega
  | _ => rfl

theorem scalar_within (text : List Char) : Within (scalar few text) (scalar many text) := by
  unfold scalar
  split
  · exact .refl _
  · split
    · next found _ =>
        by_cases hshort : isShort few found.1 = true
        · rw [if_pos hshort, if_pos (isShort_mono hdigits hshort)]
          exact .refl _
        · rw [if_neg hshort]
          exact .inr ⟨_, rfl, rfl⟩
    · exact .refl _

end

/-- The three readers of values, with a number of steps left to them. -/
structure AllWithin (few many budget : Nat) : Prop where
  value {shallow deep : Nat} (hle : shallow ≤ deep) (text : List Char) :
    Within (value few shallow budget text) (value many deep budget text)
  items {shallow deep : Nat} (hle : shallow ≤ deep) (text : List Char) :
    Within (items few shallow budget text) (items many deep budget text)
  members {shallow deep : Nat} (hle : shallow ≤ deep) (known : List (String × Value))
    (text : List Char) :
    Within (members few shallow budget known text) (members many deep budget known text)

section

variable {few many budget : Nat} (h : AllWithin few many budget) {shallow deep : Nat}
  (hle : shallow ≤ deep)

include h hle

theorem AllWithin.value_succ (hdigits : few ≤ many) (text : List Char) :
    Within (Json.value few shallow (budget + 1) text)
      (Json.value many deep (budget + 1) text) := by
  unfold Json.value
  split
  · exact .refl _
  · refine within_bracket hle rfl _ ?_
    split
    · exact .refl _
    · exact (h.members (Nat.sub_le_sub_right hle 1) [] _).bind fun _ => .refl _
  · refine within_bracket hle rfl _ ?_
    split
    · exact .refl _
    · exact (h.items (Nat.sub_le_sub_right hle 1) _).bind fun _ => .refl _
  · exact scalar_within hdigits _

theorem AllWithin.items_succ (text : List Char) :
    Within (Json.items few shallow (budget + 1) text)
      (Json.items many deep (budget + 1) text) := by
  unfold Json.items
  refine (h.value hle text).bind fun (item, rest) => ?_
  simp only
  split
  · exact .refl _
  · exact (h.items hle _).bind fun _ => .refl _
  · exact .refl _

theorem AllWithin.members_succ (known : List (String × Value)) (text : List Char) :
    Within (Json.members few shallow (budget + 1) known text)
      (Json.members many deep (budget + 1) known text) := by
  unfold Json.members
  split
  · refine (Within.refl _).bind fun (name, rest) => ?_
    simp only
    split
    · refine (h.value hle _).bind fun (found, rest) => ?_
      simp only
      split
      · exact .refl _
      · exact h.members hle _ _
      · exact .refl _
    · exact .refl _
  · exact .refl _

end

/-- However many steps are left, the limits decide only whether a text is refused for them. -/
theorem allWithin {few many : Nat} (hdigits : few ≤ many) (budget : Nat) :
    AllWithin few many budget := by
  induction budget with
  | zero =>
      refine ⟨fun _ text => ?_, fun _ text => ?_, fun _ known text => ?_⟩
      · rw [value, value]
        exact .refl _
      · rw [items, items]
        exact .refl _
      · rw [members, members]
        exact .refl _
  | succ budget ih =>
      exact ⟨fun hle => ih.value_succ hle hdigits, fun hle => ih.items_succ hle,
        fun hle => ih.members_succ hle⟩

/-! ### Whole texts -/

theorem readWithin_within {few many shallow deep : Nat} (hdigits : few ≤ many)
    (hle : shallow ≤ deep) (text : List Char) :
    Within (readWithin few shallow text) (readWithin many deep text) := by
  unfold readWithin
  split
  · exact .refl _
  · exact ((allWithin hdigits _).value hle _).bind fun _ => .refl _

/-- A text that is read within some limits is read as the same value within all others, unless it
    is refused for these. -/
theorem readWithin_of_ok {digits depth : Nat} {text : List Char} {found : Value}
    (h : readWithin digits depth text = .ok found) (few shallow : Nat) :
    readWithin few shallow text = .ok found ∨
      ∃ fault : Fault, readWithin few shallow text = .error fault ∧
        fault.reason.isLimit = true := by
  -- Within limits that are as lax as both, the text is read as it is within the given ones.
  have hlax : readWithin (max digits few) (max depth shallow) text = .ok found := by
    rcases readWithin_within (Nat.le_max_left digits few) (Nat.le_max_left depth shallow) text with
      hsame | ⟨fault, hfault, _⟩
    · exact hsame.symm.trans h
    · rw [h] at hfault
      cases hfault
  rcases readWithin_within (Nat.le_max_right digits few) (Nat.le_max_right depth shallow) text with
    hsame | hstrict
  · exact .inl (hsame.trans hlax)
  · exact .inr hstrict

/-! ### Objects need a bracket -/

theorem unsigned?_ne_object {negative : Bool} {text rest : List Char} {found : Value}
    (h : unsigned? negative text = some (found, rest)) (named : List (String × Value)) :
    found ≠ .object named := by
  unfold unsigned? at h
  obtain ⟨_, _, hfound⟩ := Option.bind_eq_some_iff.mp h
  simp only at hfound
  obtain ⟨hvalue, _⟩ := Prod.mk.inj (Option.some.inj hfound)
  rintro rfl
  split at hvalue <;> cases hvalue

theorem scalar_ne_object {digits : Nat} {text rest : List Char} {found : Value}
    (h : scalar digits text = .ok (found, rest)) (named : List (String × Value)) :
    found ≠ .object named := by
  unfold scalar at h
  split at h
  · next other hother =>
      cases h
      obtain ⟨word, hword, hfound⟩ := List.exists_of_findSome?_eq_some hother
      obtain ⟨_, _, hsame⟩ := Option.map_eq_some_iff.mp hfound
      obtain ⟨hvalue, _⟩ := Prod.mk.inj hsame
      have hwords : ∀ entry ∈ words, entry.2 ≠ .object named := by simp [words]
      exact hvalue ▸ hwords word hword
  · split at h
    · next other hnumber =>
        split at h
        · cases h
          unfold number? at hnumber
          split at hnumber <;> exact unsigned?_ne_object hnumber named
        · cases h
    · cases h

/-- No object is read where no bracket may be opened. -/
theorem value_zero_ne_object {digits budget : Nat} {text rest : List Char} {found : Value}
    (h : value digits 0 budget text = .ok (found, rest)) (named : List (String × Value)) :
    found ≠ .object named := by
  unfold value at h
  split at h
  · cases h
  · split at h
    · next behind =>
        cases hstring : string behind with
        | error fault =>
            rw [hstring] at h
            cases h
        | ok read =>
            rw [hstring] at h
            cases h
            exact nofun
    · cases h
    · cases h
    · exact scalar_ne_object h named

theorem readWithin_zero_ne_object (digits : Nat) (text : List Char)
    (named : List (String × Value)) : readWithin digits 0 text ≠ .ok (.object named) := by
  intro hread
  unfold readWithin at hread
  split at hread
  · cases hread
  · cases hvalue : value digits 0 (2 * text.length + 2) (skipGap text) with
    | error fault =>
        rw [hvalue] at hread
        cases hread
    | ok read =>
        have hplain := value_zero_ne_object hvalue named
        rw [hvalue] at hread
        simp only [bind, Except.bind] at hread
        split at hread
        · exact hplain (Except.ok.inj hread)
        · cases hread

end Abacus.Json
