/-
Module: Abacus.Proofs.SeparatedOperands
Purpose: Operands behind a separator. Whatever options a command line has, as long as it has no
  operands, a separator and operands behind them change nothing in what the options say, and each
  operand arrives as it was written, whatever it looks like.
Main exports: takeValue_append, parseMarked_append, mark_append, parse_append
-/
import Mathlib.Data.List.TakeWhile
import Abacus.Options.Parse

namespace Abacus.Options

variable {κ : Type}

/-- A separator and operands behind it, with what they are. -/
def separated (operands : List String) : List (String × Mark κ) :=
  ("--", .separator) :: operands.map fun text => (text, .argument)

theorem bind_eq_ok {α β ε : Type} {first : Except ε α} {next : α → Except ε β} {last : β}
    (h : first >>= next = .ok last) : ∃ value : α, first = .ok value ∧ next value = .ok last := by
  cases first with
  | error fault => cases h
  | ok value => exact ⟨value, rfl, h⟩

/-! ### Options leave the operands alone -/

theorem operands_of_apply {parsed next : Parsed κ} {use : Use κ}
    (h : apply parsed use = .ok next) : next.operands = parsed.operands := by
  unfold apply at h
  split at h
  · cases h
  · cases h
    rfl
  · split at h
    · cases h
      rfl
    · obtain ⟨value, _, hnext⟩ := bind_eq_ok h
      cases hnext
      rfl

theorem operands_of_foldlM {parsed next : Parsed κ} {found : List (Use κ)}
    (h : found.foldlM apply parsed = .ok next) : next.operands = parsed.operands := by
  induction found generalizing parsed with
  | nil =>
      cases h
      rfl
  | cons use found ih =>
      obtain ⟨first, hfirst, hrest⟩ := bind_eq_ok h
      exact (ih hrest).trans (operands_of_apply hfirst)

/-- An option takes its value from the arguments right behind it, so what follows these makes no
    difference, and none of them is a separator. -/
theorem takeValue_append {found taken : List (Use κ)} {rest left : List (String × Mark κ)}
    (h : takeValue found rest = .ok (taken, left)) (more : List (String × Mark κ)) :
    takeValue found (rest ++ more) = .ok (taken, left ++ more) := by
  unfold takeValue at h ⊢
  split at h
  · next opt _ =>
      by_cases htakes : opt.kind.takesValue = true
      · simp only [htakes, if_true] at h ⊢
        split at h
        · cases h
          rfl
        · cases h
      · simp only [htakes, Bool.false_eq_true, if_false] at h ⊢
        cases h
        rfl
  · cases h
    rfl

theorem separator_mem_of_takeValue {found taken : List (Use κ)} {rest left : List (String × Mark κ)}
    (h : takeValue found rest = .ok (taken, left)) {text : String}
    (hmem : (text, .separator) ∈ rest) : (text, .separator) ∈ left := by
  unfold takeValue at h
  split at h
  · split at h
    · split at h
      · cases h
        rcases List.mem_cons.mp hmem with hfirst | hrest
        · cases hfirst
        · exact hrest
      · cases h
    · cases h
      exact hmem
  · cases h
    exact hmem

/-! ### Reading what is left -/

/-- An option is carried out, with its value, before what is left is read. -/
theorem parseMarked_option {grammar : Grammar κ} {parsed next : Parsed κ} {text : String}
    {named : Named κ} {rest left : List (String × Mark κ)} {found taken : List (Use κ)}
    (huses : uses grammar named = .ok found) (htake : takeValue found rest = .ok (taken, left))
    (happly : taken.foldlM apply parsed = .ok next) :
    parseMarked grammar parsed ((text, .option named) :: rest) =
      parseMarked grammar next left := by
  simp only [parseMarked, huses]
  split
  · next stop hstop =>
      rw [htake] at hstop
      cases hstop
  · next same behind hsame =>
      rw [htake] at hsame
      cases hsame
      rw [happly]

/-- Operands that were found stay. -/
theorem operands_of_parseMarked {grammar : Grammar κ} {parsed last : Parsed κ}
    {items : List (String × Mark κ)} (h : parseMarked grammar parsed items = .ok last)
    (hsome : parsed.operands.isSome = true) : last.operands.isSome = true := by
  fun_induction parseMarked grammar parsed items with
  | case1 =>
      cases h
      exact hsome
  | case2 parsed text rest ih => exact ih h hsome
  | case3 | case4 | case5 => cases h
  | case6 parsed text named rest found _ uses left _ next happly _ ih =>
      exact ih h (operands_of_foldlM happly ▸ hsome)
  | case7 parsed item rest _ _ _ run next ih =>
      refine ih h ?_
      simp only [next]
      split
      · rfl
      · exact hsome

section

variable {grammar : Grammar κ} (hgrammar : grammar.operands = true)
include hgrammar

/-- The first plain arguments become the operands. -/
theorem parseMarked_separated {parsed : Parsed κ} (hnone : parsed.operands = none)
    (operands : List String) :
    parseMarked grammar parsed (separated operands) =
      .ok { parsed with operands := some operands } := by
  have hplain : ∀ item ∈ operands.map fun text => (text, (Mark.argument : Mark κ)),
      (!item.2.isOption) = true := by
    intro item hitem
    obtain ⟨text, _, rfl⟩ := List.mem_map.mp hitem
    rfl
  have hrun : operandsOf (separated operands : List (String × Mark κ)) = operands := by
    simp [operandsOf, separated, Function.comp_def]
  rw [separated, parseMarked, List.dropWhile_eq_nil_iff.mpr hplain,
    List.takeWhile_eq_self_iff.mpr hplain, parseMarked, hnone, if_pos ⟨hgrammar, rfl⟩]
  · exact congrArg (fun found => Except.ok { parsed with operands := some found }) hrun
  · rintro text ⟨⟩
  · rintro text named ⟨⟩

/-- Where no operands were found, there was no separator, and operands behind one are found. -/
theorem parseMarked_append {parsed last : Parsed κ} {items : List (String × Mark κ)}
    (h : parseMarked grammar parsed items = .ok last) (hnone : last.operands = none)
    (operands : List String) :
    parseMarked grammar parsed (items ++ separated operands) =
        .ok { last with operands := some operands } ∧
      ∀ text : String, (text, .separator) ∉ items := by
  fun_induction parseMarked grammar parsed items with
  | case1 =>
      cases h
      exact ⟨parseMarked_separated hgrammar hnone operands, fun _ => List.not_mem_nil⟩
  | case2 parsed text rest ih =>
      obtain ⟨hrest, hno⟩ := ih h
      refine ⟨?_, fun other hmem => ?_⟩
      · rw [List.cons_append, parseMarked]
        exact hrest
      · rcases List.mem_cons.mp hmem with hfirst | hlater
        · cases hfirst
        · exact hno other hlater
  | case3 | case4 | case5 => cases h
  | case6 parsed text named rest found huses uses left htake next happly _ ih =>
      obtain ⟨hrest, hno⟩ := ih h
      refine ⟨?_, fun other hmem => ?_⟩
      · rw [List.cons_append,
          parseMarked_option huses (takeValue_append htake (separated operands)) happly]
        exact hrest
      · rcases List.mem_cons.mp hmem with hfirst | hlater
        · cases hfirst
        · exact hno other (separator_mem_of_takeValue htake hlater)
  | case7 parsed item rest _ _ _ run next ih =>
      -- A plain argument would have become an operand.
      have hsome : next.operands.isSome = true := by
        simp only [next]
        split
        · rfl
        · next hfound =>
            rw [hgrammar, and_iff_right rfl, Option.isNone_iff_eq_none] at hfound
            exact Option.isSome_iff_ne_none.mpr hfound
      have hlast := operands_of_parseMarked h hsome
      rw [hnone] at hlast
      cases hlast

end

/-! ### Marks -/

/-- Arguments without a separator are marked alike whatever stands behind a separator. -/
theorem mark_append {grammar : Grammar κ} {options : List String}
    {items : List (String × Mark κ)} (h : mark grammar options = .ok items)
    (hno : ∀ text : String, (text, .separator) ∉ items) (operands : List String) :
    mark grammar (options ++ "--" :: operands) = .ok (items ++ separated operands) := by
  induction options generalizing items with
  | nil =>
      cases h
      rfl
  | cons argument options ih =>
      rw [mark] at h
      split at h
      · cases h
        exact absurd List.mem_cons_self (hno argument)
      · next hother =>
          obtain ⟨found, hfound, hrest⟩ := bind_eq_ok h
          obtain ⟨more, hmore, hitems⟩ := bind_eq_ok hrest
          cases hitems
          have hlater := ih hmore fun text hmem => hno text (List.mem_cons_of_mem _ hmem)
          rw [List.cons_append, mark, if_neg hother, hfound, hlater]
          rfl

/-! ### Command lines -/

/-- If a command line has no operands, a separator and operands may be added, and all else that it
    says stays. -/
theorem parse_append {grammar : Grammar κ} (hgrammar : grammar.operands = true)
    {options : List String} {parsed : Parsed κ} (h : parse grammar options = .ok parsed)
    (hnone : parsed.operands = none) (operands : List String) :
    parse grammar (options ++ "--" :: operands) =
      .ok { parsed with operands := some operands } := by
  obtain ⟨items, hmark, hrest⟩ := bind_eq_ok h
  obtain ⟨last, hlast, hend⟩ := bind_eq_ok hrest
  have hitems : mark grammar options = .ok items := by
    cases hmarked : mark grammar options with
    | error message =>
        rw [hmarked] at hmark
        cases hmark
    | ok marked =>
        rw [hmarked] at hmark
        cases hmark
        rfl
  split at hend
  · next hextras =>
      cases hend
      obtain ⟨hread, hno⟩ := parseMarked_append hgrammar hlast hnone operands
      rw [parse, mark_append hitems hno operands]
      change (parseMarked grammar {} (items ++ separated operands) >>= _) = _
      rw [hread]
      exact if_pos hextras
  · cases hend

end Abacus.Options
