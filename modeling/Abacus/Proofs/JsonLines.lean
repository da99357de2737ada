/-
Module: Abacus.Proofs.JsonLines
Purpose: JSON read from lines, whichever way each of them ends. Ends of lines stand between the
  parts of a text only, since no string, number or word holds one, so a text that is read is read as
  the same value when all its lines end alike. Each reader is followed on both texts, which differ
  in length, so that fewer steps are left to it on the second.
Main exports: skipGap_unifyLines, string_unifyLines, scalar_unifyLines, ReadsLines, allReadLines,
  readWithin_unifyLines, openings_unifyLines, longestRun_unifyLines
-/
import Abacus.Proofs.JsonNesting
import Abacus.Proofs.SeparatedOperands
import Abacus.Proofs.TextLines

namespace Abacus.Json

open Options (bind_eq_ok)
open Text (unifyLines unifyLines_cons unifyLines_return eq_cons_of_unifyLines
  length_unifyLines_suffix length_unifyLines_le)

/-! ### White space -/

theorem skipGap_unifyLines (text : List Char) :
    skipGap (unifyLines text) = unifyLines (skipGap text) := by
  induction text with
  | nil => rfl
  | cons c rest ih =>
      by_cases hc : c = '\r'
      · subst hc
        obtain ⟨more, hmore, hrest | hrest⟩ := unifyLines_return rest
        · rw [hrest] at ih
          rw [hmore]
          exact ih
        · rw [hrest] at ih
          rw [hmore]
          exact ih
      · rw [unifyLines_cons hc]
        cases hgap : isGap c with
        | true =>
            simp only [skipGap, List.dropWhile_cons, hgap] at ih ⊢
            exact ih
        | false =>
            simp only [skipGap, List.dropWhile_cons, hgap, Bool.false_eq_true, if_false]
            exact (unifyLines_cons hc rest).symm

/-- A mark behind white space stays there. -/
theorem skipGap_unifyLines_cons {c : Char} (hc : c ≠ '\r') {text rest : List Char}
    (h : skipGap text = c :: rest) : skipGap (unifyLines text) = c :: unifyLines rest := by
  rw [skipGap_unifyLines, h, unifyLines_cons hc]

theorem unifyLines_ne_cons {c : Char} (hc : c ≠ '\n') {text : List Char}
    (h : ∀ rest : List Char, text = c :: rest → False) (rest : List Char) :
    unifyLines text ≠ c :: rest := by
  intro hmark
  obtain ⟨behind, hbehind, _⟩ := eq_cons_of_unifyLines hc hmark
  exact h behind hbehind

/-- What stands behind a mark is shorter. -/
theorem length_lt_of_skipGap {c : Char} (hc : c ≠ '\r') {text rest : List Char}
    (h : skipGap text = c :: rest) : (unifyLines rest).length < (unifyLines text).length := by
  have hle := length_unifyLines_suffix (skipGap_suffix text)
  rw [h, unifyLines_cons hc] at hle
  exact hle

/-! ### Strings -/

theorem length_of_fourDigits? {text rest : List Char} {unit : Nat}
    (h : fourDigits? text = some (unit, rest)) : text.length = rest.length + 4 := by
  unfold fourDigits? at h
  split at h
  · simp only [Option.bind_eq_bind, Option.bind_eq_some_iff] at h
    obtain ⟨_, _, _, _, _, _, _, _, hunit⟩ := h
    cases hunit
    rfl
  · cases h

theorem fourDigits?_unifyLines {text rest : List Char} {unit : Nat}
    (h : fourDigits? text = some (unit, rest)) :
    fourDigits? (unifyLines text) = some (unit, unifyLines rest) := by
  have hdigit : ∀ {c : Char} {n : Nat}, Text.hexValue? c = some n → c ≠ '\r' := by
    rintro c n hc rfl
    cases hc
  unfold fourDigits? at h
  split at h
  · simp only [Option.bind_eq_bind, Option.bind_eq_some_iff] at h
    obtain ⟨_, ha, _, hb, _, hc, _, hd, hunit⟩ := h
    cases hunit
    rw [unifyLines_cons (hdigit ha), unifyLines_cons (hdigit hb), unifyLines_cons (hdigit hc),
      unifyLines_cons (hdigit hd)]
    simp only [fourDigits?, ha, hb, hc, hd]
    rfl
  · cases h

theorem unifyLines_ne_nil {text : List Char} (h : text ≠ []) : unifyLines text ≠ [] := by
  obtain ⟨c, rest, rfl⟩ := List.exists_cons_of_ne_nil h
  by_cases hc : c = '\r'
  · obtain ⟨more, hmore, _⟩ := unifyLines_return rest
    rw [hc, hmore]
    exact List.cons_ne_nil _ _
  · rw [unifyLines_cons hc]
    exact List.cons_ne_nil _ _

/-- A code unit that begins no pair stands for a character alone. -/
theorem unicodeEscape_alone {text behind : List Char} {unit : Nat}
    (hunit : fourDigits? text = some (unit, behind)) (hne : behind ≠ [])
    (halone : ∀ next : List Char, isHighUnit unit = true → behind ≠ '\\' :: 'u' :: next) :
    unicodeEscape text = .ok (charOfUnit unit, behind) := by
  obtain ⟨c, later, rfl⟩ := List.exists_cons_of_ne_nil hne
  -- `halone` is the condition under which the last case is taken
  simp only [unicodeEscape, hunit]

theorem unicodeEscape_unifyLines {text rest : List Char} {c : Char}
    (h : unicodeEscape text = .ok (c, rest)) :
    unicodeEscape (unifyLines text) = .ok (c, unifyLines rest) := by
  unfold unicodeEscape at h
  split at h
  · cases h
  · cases h
  · next unit behind hbehind hunit =>
      have hunified := fourDigits?_unifyLines hunit
      split at h
      · next next hhigh =>
          have hpair : unifyLines ('\\' :: 'u' :: next) = '\\' :: 'u' :: unifyLines next := by
            rw [unifyLines_cons (by decide), unifyLines_cons (by decide)]
          rw [hpair] at hunified
          rw [unicodeEscape, hunified]
          simp only [hhigh]
          split at h
          · next hshort =>
              cases h
              rw [if_pos (Nat.le_trans (length_unifyLines_le next) hshort), hpair]
          · next hlong =>
              split at h
              · cases h
              · next low last hlow =>
                  have hlast : last ≠ [] := by
                    rintro rfl
                    exact hlong (Nat.le_of_eq (length_of_fourDigits? hlow))
                  have hlonger : ¬ (unifyLines next).length ≤ 4 := by
                    have hpos := List.length_pos_iff.mpr (unifyLines_ne_nil hlast)
                    rw [length_of_fourDigits? (fourDigits?_unifyLines hlow)]
                    omega
                  rw [if_neg hlonger, fourDigits?_unifyLines hlow]
                  simp only
                  split at h
                  · next hsecond =>
                      obtain ⟨hjoined, hrest⟩ := Prod.mk.inj (Except.ok.inj h)
                      rw [if_pos hsecond, hjoined, hrest]
                  · next hsecond =>
                      obtain ⟨hsingle, hrest⟩ := Prod.mk.inj (Except.ok.inj h)
                      rw [if_neg hsecond, hsingle, ← hrest, hpair]
      · next hplain =>
          cases h
          refine unicodeEscape_alone hunified (unifyLines_ne_nil hbehind) fun next hhigh hnext => ?_
          obtain ⟨rest, rfl, hrest⟩ := eq_cons_of_unifyLines (by decide) hnext
          obtain ⟨last, rfl, _⟩ := eq_cons_of_unifyLines (by decide) hrest.symm
          exact hplain last hhigh rfl

/-- What a reader finds in a text, another one finds in the text when its lines end alike, as long
    as enough steps are left to it. -/
def ReadsLines {α : Type} (text : List Char) (result : Except Fault (α × List Char))
    (again : (steps : Nat) → List Char → Except Fault (α × List Char)) : Prop :=
  ∀ ⦃found : α⦄ ⦃rest : List Char⦄, result = .ok (found, rest) → ∀ ⦃steps : Nat⦄,
    (unifyLines text).length < steps + (unifyLines rest).length →
      again steps (unifyLines text) = .ok (found, unifyLines rest)

/-- A reader that leaves an end of its text leaves no more lines than there are. -/
theorem Bounded.length_le {α : Type} {digits depth : Nat} {text rest : List Char} {found : α}
    {result : Except Fault (α × List Char)} (hbounded : Bounded digits depth text result)
    (h : result = .ok (found, rest)) : (unifyLines rest).length ≤ (unifyLines text).length := by
  rw [h] at hbounded
  exact length_unifyLines_suffix hbounded

/-- A reader that takes a step. -/
theorem ReadsLines.of_step {α : Type} {digits depth : Nat} {text : List Char}
    {result : Except Fault (α × List Char)}
    {again : (steps : Nat) → List Char → Except Fault (α × List Char)}
    (hbounded : Bounded digits depth text result)
    (h : ∀ {found : α} {rest : List Char}, result = .ok (found, rest) → ∀ {steps : Nat},
      (unifyLines text).length ≤ steps + (unifyLines rest).length →
        again (steps + 1) (unifyLines text) = .ok (found, unifyLines rest)) :
    ReadsLines text result again := by
  intro found rest hread steps hsteps
  have hle := hbounded.length_le hread
  obtain ⟨steps, rfl⟩ : ∃ more : Nat, steps = more + 1 := ⟨steps - 1, by omega⟩
  exact h hread (by omega)

/-- Reading on a part of a text, and then changing what was found there. -/
theorem ReadsLines.map {α β : Type} {text inner : List Char}
    {result : Except Fault (α × List Char)}
    {again : (steps : Nat) → List Char → Except Fault (α × List Char)}
    {other : (steps : Nat) → List Char → Except Fault (β × List Char)}
    (h : ReadsLines inner result again) {digits depth : Nat}
    (hbounded : Bounded digits depth inner result)
    (hlength : (unifyLines inner).length < (unifyLines text).length) (change : α → β)
    (hother : ∀ steps : Nat, other (steps + 1) (unifyLines text) = (do
      let (found, rest) ← again steps (unifyLines inner)
      .ok (change found, rest))) :
    ReadsLines text (do
      let (found, rest) ← result
      .ok (change found, rest)) other := by
  intro found rest hread steps hsteps
  obtain ⟨⟨part, last⟩, hpart, hlast⟩ := bind_eq_ok hread
  cases hlast
  have hle := hbounded.length_le hpart
  obtain ⟨steps, rfl⟩ : ∃ more : Nat, steps = more + 1 := ⟨steps - 1, by omega⟩
  rw [hother, h hpart (by omega)]
  rfl

theorem stringFrom_unifyLines (opened place budget : Nat) (text : List Char) :
    ReadsLines text (stringFrom opened budget text) (stringFrom place) := by
  -- No line ends inside of a string, so up to its closing quote the text stays as it is.
  fun_induction stringFrom opened budget text with
  | case1 | case2 | case4 | case6 | case8 => rintro _ _ ⟨⟩
  | case3 budget rest =>
      rintro chars last ⟨⟩ steps hsteps
      rw [unifyLines_cons (by decide), List.length_cons] at hsteps
      obtain ⟨steps, rfl⟩ : ∃ more : Nat, steps = more + 1 := ⟨steps - 1, by omega⟩
      rw [unifyLines_cons (by decide), stringFrom]
  | case5 budget tail ih =>
      cases hescape : unicodeEscape tail with
      | error fault => rintro _ _ ⟨⟩
      | ok read =>
          obtain ⟨c, behind⟩ := read
          have hle := (@bounded_unicodeEscape 0 0 tail).length_le hescape
          have htext : unifyLines ('\\' :: 'u' :: tail) = '\\' :: 'u' :: unifyLines tail := by
            rw [unifyLines_cons (by decide), unifyLines_cons (by decide)]
          refine (ih behind).map (@bounded_stringFrom 0 0 opened budget behind) ?_
            (c :: ·) fun steps => ?_
          · rw [htext]
            exact Nat.lt_succ_of_le (Nat.le_succ_of_le hle)
          · rw [htext, stringFrom, unicodeEscape_unifyLines hescape]
            rfl
  | case7 budget letter rest hletter c hc ih =>
      have hplain : letter ≠ '\r' := by
        rintro rfl
        cases hc
      have htext : unifyLines ('\\' :: letter :: rest) = '\\' :: letter :: unifyLines rest := by
        rw [unifyLines_cons (by decide), unifyLines_cons hplain]
      refine ih.map (@bounded_stringFrom 0 0 opened budget rest) ?_ (c :: ·)
        fun steps => ?_
      · rw [htext]
        exact Nat.lt_succ_of_le (Nat.le_succ _)
      · rw [htext, stringFrom]
        · simp only [hc]
        · exact hletter
  | case9 budget c rest hquote hlast _ hletter hcontrol ih =>
      have hplain : c ≠ '\r' := by
        rintro rfl
        exact hcontrol (by decide)
      have hbackslash : c ≠ '\\' := by
        cases rest with
        | nil => exact fun hc => hlast hc rfl
        | cons d rest => exact fun hc => hletter d rest hc rfl
      refine ih.map (@bounded_stringFrom 0 0 opened budget rest) ?_ (c :: ·)
        fun steps => ?_
      · rw [unifyLines_cons hplain]
        exact Nat.lt_succ_self _
      · rw [unifyLines_cons hplain, stringFrom]
        · rw [if_neg hcontrol]
        · exact hquote
        · exact fun hc => absurd hc hbackslash
        · exact fun _ hc => absurd hc hbackslash
        · exact fun _ _ hc => absurd hc hbackslash

theorem string_unifyLines {text rest : List Char} {s : String}
    (h : string text = .ok (s, rest)) : string (unifyLines text) = .ok (s, unifyLines rest) := by
  obtain ⟨⟨chars, last⟩, hchars, hlast⟩ := bind_eq_ok h
  cases hlast
  rw [string, stringFrom_unifyLines _ _ _ text hchars (by omega)]
  rfl

/-! ### Words and numbers -/

theorem after?_unifyLines {start : List Char} (hstart : '\r' ∉ start ∧ '\n' ∉ start)
    (text : List Char) : after? start (unifyLines text) = (after? start text).map unifyLines := by
  induction start generalizing text with
  | nil => rfl
  | cons a start ih =>
      simp only [List.mem_cons, not_or] at hstart
      obtain ⟨⟨hreturn, hnoReturn⟩, hfeed, hnoFeed⟩ := hstart
      cases text with
      | nil => rfl
      | cons c rest =>
          by_cases hc : c = '\r'
          · obtain ⟨more, hmore, _⟩ := unifyLines_return rest
            rw [hc, hmore, after?, after?, if_neg (Ne.symm hfeed), if_neg (Ne.symm hreturn)]
            rfl
          · rw [unifyLines_cons hc, after?, after?]
            split
            · exact ih ⟨hnoReturn, hnoFeed⟩ rest
            · rfl

theorem spanDigits_unifyLines (text : List Char) :
    spanDigits (unifyLines text) = (spanDigits text).map id unifyLines := by
  simp only [spanDigits, List.span_eq_takeWhile_dropWhile, Prod.map_apply, id_eq, Prod.mk.injEq]
  induction text with
  | nil => exact ⟨rfl, rfl⟩
  | cons c rest ih =>
      by_cases hc : c = '\r'
      · obtain ⟨more, hmore, _⟩ := unifyLines_return rest
        subst hc
        rw [hmore]
        exact ⟨rfl, hmore.symm⟩
      · rw [unifyLines_cons hc]
        cases hdigit : Text.isDigit c with
        | true => simp [hdigit, ih]
        | false => simp [hdigit, unifyLines_cons hc]

theorem wholePart?_unifyLines (text : List Char) :
    wholePart? (unifyLines text) = (wholePart? text).map (Prod.map id unifyLines) := by
  cases text with
  | nil => rfl
  | cons c rest =>
      by_cases hc : c = '\r'
      · obtain ⟨more, hmore, _⟩ := unifyLines_return rest
        rw [hc, hmore]
        rfl
      · have hspan := spanDigits_unifyLines (c :: rest)
        rw [unifyLines_cons hc] at hspan ⊢
        by_cases hzero : c = '0'
        · rw [hzero]
          rfl
        · rw [wholePart?, wholePart?, hspan]
          · split <;> rfl
          · exact hzero
          · exact hzero

theorem fractionPart_unifyLines (text : List Char) :
    fractionPart (unifyLines text) = (fractionPart text).map id unifyLines := by
  cases text with
  | nil => rfl
  | cons c rest =>
      by_cases hc : c = '\r'
      · obtain ⟨more, hmore, _⟩ := unifyLines_return rest
        subst hc
        rw [hmore]
        exact Prod.ext rfl hmore.symm
      · by_cases hpoint : c = '.'
        · subst hpoint
          rw [unifyLines_cons hc]
          simp only [fractionPart, spanDigits_unifyLines]
          cases spanDigits rest with
          | mk digits behind =>
              cases digits with
              | nil => exact Prod.ext rfl (unifyLines_cons hc rest).symm
              | cons digit digits => rfl
        · rw [unifyLines_cons hc]
          simp [fractionPart, hpoint, unifyLines_cons hc]

theorem exponentSign_unifyLines (text : List Char) :
    exponentSign (unifyLines text) = (exponentSign text).map id unifyLines := by
  cases text with
  | nil => rfl
  | cons c rest =>
      by_cases hc : c = '\r'
      · obtain ⟨more, hmore, _⟩ := unifyLines_return rest
        subst hc
        rw [hmore]
        exact Prod.ext rfl hmore.symm
      · rw [unifyLines_cons hc]
        unfold exponentSign
        split <;> simp_all [unifyLines_cons]

theorem exponentPart?_unifyLines (text : List Char) :
    exponentPart? (unifyLines text) = (exponentPart? text).map (Prod.map id unifyLines) := by
  cases text with
  | nil => rfl
  | cons c rest =>
      by_cases hc : c = '\r'
      · obtain ⟨more, hmore, _⟩ := unifyLines_return rest
        rw [hc, hmore]
        rfl
      · rw [unifyLines_cons hc]
        unfold exponentPart?
        simp only [exponentSign_unifyLines, Prod.map_fst, Prod.map_snd, spanDigits_unifyLines]
        split
        · cases spanDigits (exponentSign rest).2 with
          | mk digits behind => cases digits <;> rfl
        · rfl

theorem unsigned?_unifyLines (negative : Bool) (text : List Char) :
    unsigned? negative (unifyLines text) =
      (unsigned? negative text).map (Prod.map id unifyLines) := by
  unfold unsigned?
  rw [wholePart?_unifyLines]
  cases wholePart? text with
  | none => rfl
  | some part =>
      obtain ⟨digits, rest⟩ := part
      simp only [Option.map_some, Prod.map_apply, Option.bind_eq_bind, Option.bind_some,
        fractionPart_unifyLines, Prod.map_fst, Prod.map_snd, exponentPart?_unifyLines]
      cases exponentPart? (fractionPart rest).2 <;> rfl

theorem number?_unifyLines (text : List Char) :
    number? (unifyLines text) = (number? text).map (Prod.map id unifyLines) := by
  cases text with
  | nil => rfl
  | cons c rest =>
      by_cases hc : c = '\r'
      · obtain ⟨more, hmore, _⟩ := unifyLines_return rest
        have hunsigned := unsigned?_unifyLines false ('\r' :: rest)
        subst hc
        rw [hmore] at hunsigned ⊢
        exact hunsigned
      · by_cases hsign : c = '-'
        · subst hsign
          rw [unifyLines_cons hc]
          exact unsigned?_unifyLines true rest
        · have hplain : ∀ text : List Char, number? (c :: text) = unsigned? false (c :: text) := by
            intro text
            rw [number?]
            simpa using hsign
          have hunsigned := unsigned?_unifyLines false (c :: rest)
          rw [unifyLines_cons hc] at hunsigned ⊢
          rw [hplain, hplain, hunsigned]

/-- The word that a text begins with. -/
theorem findSome?_unifyLines {named : List (String × Value)}
    (hnamed : ∀ word ∈ named, '\r' ∉ word.1.toList ∧ '\n' ∉ word.1.toList) (text : List Char) :
    named.findSome? (fun word =>
        (after? word.1.toList (unifyLines text)).map fun rest => (word.2, rest)) =
      (named.findSome? fun word => (after? word.1.toList text).map fun rest => (word.2, rest)).map
        (Prod.map id unifyLines) := by
  induction named with
  | nil => rfl
  | cons word named ih =>
      obtain ⟨hword, hmore⟩ := List.forall_mem_cons.mp hnamed
      rw [List.findSome?_cons, List.findSome?_cons, after?_unifyLines hword, ih hmore]
      cases after? word.1.toList text <;> rfl

theorem scalar_unifyLines {digits : Nat} {text rest : List Char} {found : Value}
    (h : scalar digits text = .ok (found, rest)) :
    scalar digits (unifyLines text) = .ok (found, unifyLines rest) := by
  have hwords : ∀ word ∈ words, '\r' ∉ word.1.toList ∧ '\n' ∉ word.1.toList := by decide
  rw [scalar, findSome?_unifyLines hwords, number?_unifyLines]
  unfold scalar at h
  split at h
  · next hword =>
      cases h
      rw [hword]
      rfl
  · next hnone =>
      rw [hnone]
      split at h
      · next hnumber =>
          split at h
          · next hshort =>
              cases h
              rw [hnumber]
              exact if_pos hshort
          · cases h
      · cases h

/-! ### Values -/

/-- Reading behind white space. -/
theorem ReadsLines.behindGap {α : Type} {text last : List Char} {found : α}
    {result : Except Fault (α × List Char)}
    {again : (steps : Nat) → List Char → Except Fault (α × List Char)}
    (h : ReadsLines (skipGap text) result again) (hread : result = .ok (found, last)) {steps : Nat}
    (hsteps : (unifyLines text).length < steps + (unifyLines last).length) :
    again steps (skipGap (unifyLines text)) = .ok (found, unifyLines last) := by
  have hle := length_unifyLines_suffix (skipGap_suffix text)
  rw [skipGap_unifyLines]
  exact h hread (Nat.lt_of_le_of_lt hle hsteps)

/-- The three readers of values find the same, with a number of steps left to them. -/
structure AllReadLines (digits budget : Nat) : Prop where
  value (depth : Nat) (text : List Char) :
    ReadsLines text (value digits depth budget text) (value digits depth)
  items (depth : Nat) (text : List Char) :
    ReadsLines text (items digits depth budget text) (items digits depth)
  members (depth : Nat) (known : List (String × Value)) (text : List Char) :
    ReadsLines text (members digits depth budget known text) fun steps =>
      members digits depth steps known

section

variable {digits budget : Nat} (h : AllReadLines digits budget) (depth : Nat)

include h

theorem AllReadLines.value_succ (text : List Char) :
    ReadsLines text (Json.value digits depth (budget + 1) text) (Json.value digits depth) := by
  refine .of_step ((allBounded digits _).value depth text)
    fun {found last} hread {steps} hsteps => ?_
  unfold Json.value at hread
  split at hread
  · next rest =>
      obtain ⟨⟨s, last⟩, hstring, hlast⟩ := bind_eq_ok hread
      cases hlast
      rw [unifyLines_cons (by decide), Json.value, string_unifyLines hstring]
      rfl
  · next rest =>
      rw [unifyLines_cons (by decide)] at hsteps ⊢
      split at hread
      · cases hread
      · next hdepth =>
          rw [Json.value, if_neg hdepth]
          split at hread
          · next hlast =>
              cases hread
              rw [skipGap_unifyLines_cons (by decide) hlast]
              rfl
          · next hopen =>
              obtain ⟨⟨named, last⟩, hmembers, hlast⟩ := bind_eq_ok hread
              cases hlast
              have hagain := (h.members (depth - 1) [] _).behindGap hmembers hsteps
              split
              · next heq =>
                  rw [skipGap_unifyLines] at heq
                  exact absurd heq (unifyLines_ne_cons (by decide) hopen _)
              · rw [hagain]
                rfl
  · next rest =>
      rw [unifyLines_cons (by decide)] at hsteps ⊢
      split at hread
      · cases hread
      · next hdepth =>
          rw [Json.value, if_neg hdepth]
          split at hread
          · next hlast =>
              cases hread
              rw [skipGap_unifyLines_cons (by decide) hlast]
              rfl
          · next hopen =>
              obtain ⟨⟨found, last⟩, hitems, hlast⟩ := bind_eq_ok hread
              cases hlast
              have hagain := (h.items (depth - 1) _).behindGap hitems hsteps
              split
              · next heq =>
                  rw [skipGap_unifyLines] at heq
                  exact absurd heq (unifyLines_ne_cons (by decide) hopen _)
              · rw [hagain]
                rfl
  · next hquote hbrace hbracket =>
      rw [Json.value, scalar_unifyLines hread]
      · exact unifyLines_ne_cons (by decide) hquote
      · exact unifyLines_ne_cons (by decide) hbrace
      · exact unifyLines_ne_cons (by decide) hbracket

/-- An entry of an array or an object, and the mark behind it. -/
theorem AllReadLines.entry {mark : Char} (hmark : mark ≠ '\r') {text closed behind : List Char}
    {item : Value} (hitem : Json.value digits depth budget text = .ok (item, closed))
    (hbehind : skipGap closed = mark :: behind) {steps : Nat}
    (hsteps : (unifyLines text).length ≤ steps + (unifyLines behind).length) :
    Json.value digits depth steps (unifyLines text) = .ok (item, unifyLines closed) ∧
      skipGap (unifyLines closed) = mark :: unifyLines behind ∧
      (unifyLines behind).length < (unifyLines text).length := by
  have hlt := length_lt_of_skipGap hmark hbehind
  have hle := ((allBounded digits budget).value depth text).length_le hitem
  have hmore := Nat.lt_of_le_of_lt hsteps (Nat.add_lt_add_left hlt steps)
  exact ⟨h.value depth text hitem hmore, skipGap_unifyLines_cons hmark hbehind,
    Nat.lt_of_lt_of_le hlt hle⟩

theorem AllReadLines.items_succ (text : List Char) :
    ReadsLines text (Json.items digits depth (budget + 1) text) (Json.items digits depth) := by
  refine .of_step ((allBounded digits _).items depth text)
    fun {found last} hread {steps} hsteps => ?_
  unfold Json.items at hread
  obtain ⟨⟨item, closed⟩, hitem, hclosed⟩ := bind_eq_ok hread
  simp only at hclosed
  split at hclosed
  · next behind hbehind =>
      cases hclosed
      obtain ⟨hagain, hmark, _⟩ := h.entry depth (by decide) hitem hbehind hsteps
      rw [Json.items, hagain]
      simp only [bind, Except.bind, hmark]
  · next behind hbehind =>
      obtain ⟨⟨more, last⟩, hmore, hlast⟩ := bind_eq_ok hclosed
      cases hlast
      simp only at hsteps
      have hgap := length_unifyLines_suffix (skipGap_suffix behind)
      have hlastLe := ((allBounded digits _).items depth (skipGap behind)).length_le hmore
      have hentry : (unifyLines text).length ≤ steps + (unifyLines behind).length := by omega
      obtain ⟨hagain, hmark, hlt⟩ := h.entry depth (by decide) hitem hbehind hentry
      have hmoreAgain := (h.items depth _).behindGap hmore (Nat.lt_of_lt_of_le hlt hsteps)
      rw [Json.items, hagain]
      simp only [bind, Except.bind, hmark, hmoreAgain]
  · cases hclosed

theorem AllReadLines.members_succ (known : List (String × Value)) (text : List Char) :
    ReadsLines text (Json.members digits depth (budget + 1) known text)
      fun steps => Json.members digits depth steps known := by
  refine .of_step ((allBounded digits _).members depth known text)
    fun {found last} hread {steps} hsteps => ?_
  unfold Json.members at hread
  split at hread
  · next rest =>
      obtain ⟨⟨name, named⟩, hname, hnamed⟩ := bind_eq_ok hread
      have hnamedLe := (@bounded_string 0 0 rest).length_le hname
      rw [unifyLines_cons (by decide)] at hsteps ⊢
      rw [List.length_cons] at hsteps
      rw [Json.members, string_unifyLines hname]
      simp only at hnamed
      split at hnamed
      · next valued hvalued =>
          obtain ⟨⟨item, closed⟩, hitem, hclosed⟩ := bind_eq_ok hnamed
          have hvaluedLt := length_lt_of_skipGap (by decide) hvalued
          have hvaluedGap := length_unifyLines_suffix (skipGap_suffix valued)
          simp only [bind, Except.bind, skipGap_unifyLines_cons (by decide) hvalued,
            skipGap_unifyLines valued]
          simp only at hclosed
          split at hclosed
          · next behind hbehind =>
              cases hclosed
              have hentry : (unifyLines (skipGap valued)).length ≤
                  steps + (unifyLines last).length := by omega
              obtain ⟨hagain, hmark, _⟩ := h.entry depth (by decide) hitem hbehind hentry
              rw [hagain]
              simp only [hmark]
          · next behind hbehind =>
              have hgap := length_unifyLines_suffix (skipGap_suffix behind)
              have hlastLe :=
                ((allBounded digits _).members depth _ (skipGap behind)).length_le hclosed
              have hentry : (unifyLines (skipGap valued)).length ≤
                  steps + (unifyLines behind).length := by omega
              obtain ⟨hagain, hmark, hlt⟩ := h.entry depth (by decide) hitem hbehind hentry
              rw [hagain]
              simp only [hmark]
              exact (h.members depth _ _).behindGap hclosed (by omega)
          · cases hclosed
      · cases hnamed
  · cases hread

end

/-- However many steps are left, the readers of values find the same. -/
theorem allReadLines (digits budget : Nat) : AllReadLines digits budget := by
  induction budget with
  | zero =>
      refine ⟨fun depth text => ?_, fun depth text => ?_, fun depth known text => ?_⟩
      · rw [value]
        rintro _ _ ⟨⟩
      · rw [items]
        rintro _ _ ⟨⟩
      · rw [members]
        rintro _ _ ⟨⟩
  | succ budget ih => exact ⟨ih.value_succ, ih.items_succ, ih.members_succ⟩

/-! ### Whole texts -/

/-- A text that is read is read as the same value when all its lines end alike. -/
theorem readWithin_unifyLines {digits depth : Nat} {text : List Char} {found : Value}
    (h : readWithin digits depth text = .ok found) :
    readWithin digits depth (unifyLines text) = .ok found := by
  unfold readWithin at h
  split at h
  · cases h
  · next hmark =>
      obtain ⟨⟨v, rest⟩, hvalue, hrest⟩ := bind_eq_ok h
      have hbounded := (allBounded digits (2 * text.length + 2)).value depth (skipGap text)
      have hle := length_unifyLines_suffix (skipGap_suffix text)
      have hsteps : (unifyLines (skipGap text)).length <
          2 * (unifyLines text).length + 2 + (unifyLines rest).length := by omega
      have hagain := (allReadLines digits _).value depth _ hvalue hsteps
      unfold readWithin
      split
      · next heq => exact absurd heq (unifyLines_ne_cons (by decide) hmark _)
      · rw [skipGap_unifyLines, hagain]
        simp only at hrest
        split at hrest
        · next hempty =>
            cases hrest
            simp only [bind, Except.bind, skipGap_unifyLines, hempty]
            rfl
        · cases hrest

/-- There are as many opening brackets when all lines end alike. -/
theorem openings_unifyLines (text : List Char) : openings (unifyLines text) = openings text := by
  unfold openings
  fun_induction unifyLines text with
  | case1 => rfl
  | case2 rest ih => exact ih
  | case3 rest _ ih => exact ih
  | case4 c rest _ _ ih => simp only [List.countP_cons, ih]

theorem takeWhile_isDigit_unifyLines (text : List Char) :
    (unifyLines text).takeWhile Text.isDigit = text.takeWhile Text.isDigit := by
  fun_induction unifyLines text with
  | case1 | case2 | case3 => rfl
  | case4 c rest _ _ ih => simp only [List.takeWhile_cons, ih]

/-- The runs of digits are as long when all lines end alike. -/
theorem longestRun_unifyLines (text : List Char) :
    longestRun (unifyLines text) = longestRun text := by
  fun_induction unifyLines text with
  | case1 => rfl
  | case2 rest ih => simp [longestRun, ih, Text.isDigit]
  | case3 rest _ ih => simp [longestRun, ih, Text.isDigit]
  | case4 c rest _ _ ih =>
      simp only [longestRun, ih, List.takeWhile_cons, takeWhile_isDigit_unifyLines]

end Abacus.Json
