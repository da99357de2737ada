/-
Module: Abacus.Proofs.TextLines
Purpose: Texts that are cut into pieces and into lines. Cutting undoes joining. A text that is
  written line by line is read as these lines, whichever way each of them ends and whether the last
  one ends at all, except that a carriage return joins an empty line that a line feed ends; so the
  lines that are not blank are all read.
Main exports: mem_of_mem_intercalate, intercalate_prefix, pieces_append, pieces_intercalate,
  unifyLines_append, eq_cons_of_unifyLines, LineEnd, OneLine, filledLines, filledLines_line,
  filledLines_last
-/
import Abacus.Text.Blank
import Abacus.Text.Line

namespace Abacus.Text

/-! ### Pieces -/

/-- What a joined text holds comes from a separator or from one of the texts. -/
theorem mem_of_mem_intercalate {separator : List Char} {texts : List (List Char)} {c : Char}
    (h : c ∈ separator.intercalate texts) : c ∈ separator ∨ ∃ text ∈ texts, c ∈ text := by
  induction texts with
  | nil => exact absurd h List.not_mem_nil
  | cons text texts ih =>
      cases texts with
      | nil =>
          rw [List.intercalate_singleton] at h
          exact .inr ⟨text, List.mem_cons_self, h⟩
      | cons next texts =>
          rw [List.intercalate_cons_cons, List.mem_append, List.mem_append] at h
          rcases h with (htext | hseparator) | hlater
          · exact .inr ⟨text, List.mem_cons_self, htext⟩
          · exact .inl hseparator
          · exact (ih hlater).imp_right fun ⟨text, htext, hc⟩ =>
              ⟨text, List.mem_cons_of_mem _ htext, hc⟩

/-- Joining more texts goes on behind the first of them. -/
theorem intercalate_prefix (separator : List Char) {texts more : List (List Char)}
    (h : texts <+: more) : separator.intercalate texts <+: separator.intercalate more := by
  induction texts generalizing more with
  | nil => exact List.nil_prefix
  | cons text texts ih =>
      obtain ⟨rest, rfl⟩ := h
      cases texts with
      | nil =>
          cases rest with
          | nil => exact List.prefix_refl _
          | cons next rest =>
              rw [List.intercalate_singleton, List.singleton_append, List.intercalate_cons_cons,
                List.append_assoc]
              exact List.prefix_append _ _
      | cons next texts =>
          have hlater := ih (List.prefix_append (next :: texts) rest)
          rw [List.cons_append, List.cons_append, List.intercalate_cons_cons,
            List.intercalate_cons_cons, List.append_assoc, List.append_assoc]
          exact (List.prefix_append_right_inj _).mpr
            ((List.prefix_append_right_inj _).mpr hlater)

section

variable {mark : Char}

/-- A piece does not hold the mark. -/
theorem not_mem_of_mem_pieces {text piece : List Char} (h : piece ∈ pieces mark text) :
    mark ∉ piece := by
  induction text generalizing piece with
  | nil =>
      rw [pieces, List.mem_singleton] at h
      rw [h]
      exact List.not_mem_nil
  | cons c rest ih =>
      rw [pieces] at h
      split at h
      · rcases List.mem_cons.mp h with rfl | hmore
        · exact List.not_mem_nil
        · exact ih hmore
      · next hc =>
          split at h
          · rw [List.mem_singleton.mp h, List.mem_singleton]
            exact Ne.symm hc
          · next first more hpieces =>
              rw [hpieces] at ih
              rcases List.mem_cons.mp h with rfl | hmore
              · rw [List.mem_cons, not_or]
                exact ⟨Ne.symm hc, ih List.mem_cons_self⟩
              · exact ih (List.mem_cons_of_mem first hmore)

theorem pieces_of_not_mem {piece : List Char} (h : mark ∉ piece) :
    pieces mark piece = [piece] := by
  induction piece with
  | nil => rfl
  | cons c rest ih =>
      rw [List.mem_cons, not_or] at h
      rw [pieces, if_neg (Ne.symm h.1), ih h.2]

theorem pieces_append {piece : List Char} (h : mark ∉ piece) (rest : List Char) :
    pieces mark (piece ++ mark :: rest) = piece :: pieces mark rest := by
  induction piece with
  | nil => rw [List.nil_append, pieces, if_pos rfl]
  | cons c more ih =>
      rw [List.mem_cons, not_or] at h
      rw [List.cons_append, pieces, if_neg (Ne.symm h.1), ih h.2]

/-- Cutting undoes joining with the mark. -/
theorem pieces_intercalate {texts : List (List Char)} (hne : texts ≠ [])
    (h : ∀ text ∈ texts, mark ∉ text) : pieces mark ([mark].intercalate texts) = texts := by
  induction texts with
  | nil => exact absurd rfl hne
  | cons text texts ih =>
      obtain ⟨htext, htexts⟩ := List.forall_mem_cons.mp h
      cases texts with
      | nil => rw [List.intercalate_singleton, pieces_of_not_mem htext]
      | cons next texts =>
          have hjoin : [mark].intercalate (text :: next :: texts) =
              text ++ mark :: [mark].intercalate (next :: texts) := by
            rw [List.intercalate_cons_cons, List.append_assoc, List.singleton_append]
          rw [hjoin, pieces_append htext, ih (List.cons_ne_nil next texts) htexts]

end

/-! ### Ends of lines -/

theorem unifyLines_append {text : List Char} (h : '\r' ∉ text) (rest : List Char) :
    unifyLines (text ++ rest) = text ++ unifyLines rest := by
  induction text with
  | nil => rfl
  | cons c more ih =>
      rw [List.mem_cons, not_or] at h
      have hc : c ≠ '\r' := Ne.symm h.1
      simp [unifyLines, hc, ih h.2]

/-- A text without carriage returns is kept as it is. -/
theorem unifyLines_of_not_mem {text : List Char} (h : '\r' ∉ text) : unifyLines text = text := by
  have hempty := unifyLines_append h []
  rwa [unifyLines, List.append_nil] at hempty

theorem unifyLines_cons {c : Char} (h : c ≠ '\r') (rest : List Char) :
    unifyLines (c :: rest) = c :: unifyLines rest := by
  have hmem : '\r' ∉ [c] := by rwa [List.mem_singleton, eq_comm]
  exact unifyLines_append hmem rest

/-- A carriage return becomes a line feed, and takes a line feed behind it along. -/
theorem unifyLines_return (rest : List Char) :
    ∃ more : List Char, unifyLines ('\r' :: rest) = '\n' :: more ∧
      (unifyLines rest = more ∨ unifyLines rest = '\n' :: more) := by
  cases rest with
  | nil => exact ⟨[], rfl, .inl rfl⟩
  | cons c rest =>
      by_cases hc : c = '\n'
      · subst hc
        exact ⟨unifyLines rest, rfl, .inr rfl⟩
      · refine ⟨unifyLines (c :: rest), ?_, .inl rfl⟩
        rw [unifyLines]
        rintro behind hbehind
        exact hc (List.cons.inj hbehind).1

/-- A character that ends no line is the first of the lines only if it is the first of the text. -/
theorem eq_cons_of_unifyLines {c : Char} (hc : c ≠ '\n') {text more : List Char}
    (h : unifyLines text = c :: more) :
    ∃ rest : List Char, text = c :: rest ∧ more = unifyLines rest := by
  cases text with
  | nil => cases h
  | cons d rest =>
      by_cases hd : d = '\r'
      · obtain ⟨lines, hlines, _⟩ := unifyLines_return rest
        rw [hd, hlines] at h
        exact absurd (List.cons.inj h).1.symm hc
      · rw [unifyLines_cons hd] at h
        cases h
        exact ⟨rest, rfl, rfl⟩

/-- An end of a text has no more characters than the text when their lines end alike. -/
theorem length_unifyLines_suffix {rest text : List Char} (h : rest <:+ text) :
    (unifyLines rest).length ≤ (unifyLines text).length := by
  obtain ⟨front, rfl⟩ := h
  induction front with
  | nil => exact Nat.le_refl _
  | cons c front ih =>
      refine Nat.le_trans ih ?_
      rw [List.cons_append]
      by_cases hc : c = '\r'
      · obtain ⟨more, hmore, hrest | hrest⟩ := unifyLines_return (front ++ rest)
        · rw [hc, hmore, hrest]
          exact Nat.le_succ _
        · exact Nat.le_of_eq (by rw [hc, hmore, hrest])
      · rw [unifyLines_cons hc]
        exact Nat.le_succ _

theorem length_unifyLines_le (text : List Char) : (unifyLines text).length ≤ text.length := by
  induction text with
  | nil => exact Nat.le_refl 0
  | cons c rest ih =>
      rw [List.length_cons]
      by_cases hc : c = '\r'
      · obtain ⟨more, hmore, hrest | hrest⟩ := unifyLines_return rest
        · rw [hrest] at ih
          rw [hc, hmore]
          exact Nat.succ_le_succ ih
        · rw [hrest] at ih
          rw [hc, hmore]
          exact Nat.le_succ_of_le ih
      · rw [unifyLines_cons hc]
        exact Nat.succ_le_succ ih

/-- How a line ends. -/
inductive LineEnd where
  | lineFeed
  | carriageReturn
  | both
deriving DecidableEq, Repr, Inhabited

/-- The characters that end a line. -/
def LineEnd.text : LineEnd → List Char
  | lineFeed => ['\n']
  | carriageReturn => ['\r']
  | both => ['\r', '\n']

/-- A text that no line ends in. -/
def OneLine (text : List Char) : Prop :=
  '\n' ∉ text ∧ '\r' ∉ text

/-! ### Lines that are not blank -/

/-- The lines of a text that are not blank. -/
def filledLines (text : List Char) : List (List Char) :=
  (splitLines (unifyLines text)).filter fun line => !isBlankText line

/-- The lines behind an end of a line do not depend on how it ends. -/
theorem unifyLines_stop (stop : LineEnd) (rest : List Char) :
    ∃ more : List Char, unifyLines (stop.text ++ rest) = '\n' :: more ∧
      (splitLines more).filter (fun line => !isBlankText line) = filledLines rest := by
  cases stop with
  | lineFeed => exact ⟨unifyLines rest, rfl, rfl⟩
  | both => exact ⟨unifyLines rest, rfl, rfl⟩
  | carriageReturn =>
      cases rest with
      | nil => exact ⟨[], rfl, rfl⟩
      | cons c rest =>
          by_cases hc : c = '\n'
          · subst hc
            exact ⟨unifyLines rest, rfl, rfl⟩
          · refine ⟨unifyLines (c :: rest), ?_, rfl⟩
            rw [LineEnd.text, List.singleton_append, unifyLines]
            rintro behind hbehind
            exact hc (List.cons.inj hbehind).1

/-- A line in front of a text adds itself, unless it is blank. -/
theorem filledLines_line {line : List Char} (h : OneLine line) (stop : LineEnd) (rest : List Char) :
    filledLines (line ++ (stop.text ++ rest)) =
      if isBlankText line then filledLines rest else line :: filledLines rest := by
  obtain ⟨more, hmore, hfilled⟩ := unifyLines_stop stop rest
  rw [filledLines, unifyLines_append h.2, hmore, splitLines, pieces_append h.1, List.filter_cons,
    ← splitLines, hfilled]
  cases isBlankText line <;> rfl

/-- The last line is read without an end. -/
theorem filledLines_last {line : List Char} (h : OneLine line) :
    filledLines line = if isBlankText line then [] else [line] := by
  rw [filledLines, unifyLines_of_not_mem h.2, splitLines, pieces_of_not_mem h.1, List.filter_cons]
  cases isBlankText line <;> rfl

end Abacus.Text
