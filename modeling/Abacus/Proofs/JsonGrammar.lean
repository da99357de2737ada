/-
Module: Abacus.Proofs.JsonGrammar
Purpose: The ways to write a value as JSON, with any white space between its parts, any escapes in
  its strings and members in any order, and that each of them is read as that value. The grammar
  counts how deep brackets are nested, and the readers are shown to follow it by induction on that
  depth: first the entries of a list, then the list between its brackets.
Main exports: ListText, MemberText, BracketText, ValueText, readsValues,
  readWithin_of_valueText
-/
import Abacus.Proofs.JsonScalars

namespace Abacus.Json

/-! ### Texts of values -/

/-- A text of white space between the parts of a text. -/
def IsGapText (gap : List Char) : Prop :=
  ∀ c ∈ gap, isGap c = true

/-- The ways to write a list: its entries with commas between them, and gaps around the commas
    and behind the last entry. -/
inductive ListText {α : Type} (entry : α → List Char → Prop) : List α → List Char → Prop where
  | last {a : α} {text gap : List Char} (h : entry a text) (hgap : IsGapText gap) :
      ListText entry [a] (text ++ gap)
  | more {a : α} {entries : List α} {text before behind rest : List Char} (h : entry a text)
      (hbefore : IsGapText before) (hbehind : IsGapText behind)
      (later : ListText entry entries rest) :
      ListText entry (a :: entries) (text ++ before ++ ',' :: behind ++ rest)

/-- The ways to write a member of an object: its name, a colon and its value. -/
inductive MemberText (entry : Value → List Char → Prop) : String × Value → List Char → Prop where
  | named {name : String} {v : Value} {nameText text before behind : List Char}
      (hname : StringText name nameText) (hbefore : IsGapText before) (hbehind : IsGapText behind)
      (h : entry v text) : MemberText entry (name, v) (nameText ++ before ++ ':' :: behind ++ text)

/-- The members of an object, of those with one name the last one. -/
def objectOf (members : List (String × Value)) : List (String × Value) :=
  members.foldl (fun known member => setMember member.1 member.2 known) []

/-- The ways to write an array or an object whose entries are written in the given ways. -/
inductive BracketText (entry : Value → List Char → Prop) : Value → List Char → Prop where
  | emptyArray {gap : List Char} (hgap : IsGapText gap) :
      BracketText entry (.array []) ('[' :: gap ++ [']'])
  | array {items : List Value} {gap text : List Char} (hgap : IsGapText gap)
      (h : ListText entry items text) :
      BracketText entry (.array items) ('[' :: gap ++ text ++ [']'])
  | emptyObject {gap : List Char} (hgap : IsGapText gap) :
      BracketText entry (.object []) ('\x7b' :: gap ++ ['\x7d'])
  | object {members : List (String × Value)} {gap text : List Char} (hgap : IsGapText gap)
      (h : ListText (MemberText entry) members text) :
      BracketText entry (.object (objectOf members)) ('\x7b' :: gap ++ text ++ ['\x7d'])

/-- The ways to write a value without brackets, whole numbers with as many digits as `digits`. -/
inductive PlainText (digits : Nat) : Value → List Char → Prop where
  | scalar {v : Value} {text : List Char} (h : ScalarText digits v text) : PlainText digits v text
  | string {s : String} {text : List Char} (h : StringText s text) :
      PlainText digits (.string s) text

/-- The ways to write a value with brackets nested as deep as `depth`. -/
def ValueText (digits : Nat) : (depth : Nat) → Value → List Char → Prop
  | 0, v, text => PlainText digits v text
  | depth + 1, v, text =>
      PlainText digits v text ∨ BracketText (ValueText digits depth) v text

/-! ### Reading -/

/-- White space ends a number. -/
theorem continuesNumber_of_isGap {c : Char} (h : isGap c = true) : continuesNumber c = false := by
  simp only [isGap, Bool.or_eq_true, decide_eq_true_eq] at h
  rcases h with ((rfl | rfl) | rfl) | rfl <;> rfl

/-- What stands behind an entry closes the number that the entry may be. -/
theorem closed_gap {gap : List Char} (hgap : IsGapText gap) {c : Char}
    (hc : continuesNumber c = false) (rest : List Char) : Closed (gap ++ c :: rest) := by
  cases gap with
  | nil =>
      rintro d ⟨⟩
      exact hc
  | cons g gap =>
      rintro d ⟨⟩
      exact continuesNumber_of_isGap (hgap g List.mem_cons_self)

theorem skipGap_gap {gap : List Char} (hgap : IsGapText gap) (text : List Char) :
    skipGap (gap ++ text) = skipGap text :=
  List.dropWhile_append_of_pos hgap

theorem skipGap_of_start {c : Char} (hc : isGap c = false) (rest : List Char) :
    skipGap (c :: rest) = c :: rest := by
  rw [skipGap, List.dropWhile_cons_of_neg]
  rw [hc]
  exact Bool.false_ne_true

/-- A text starts with a character that is no white space, closes no bracket and marks no order
    of bytes. -/
def Starts (text : List Char) : Prop :=
  ∃ (c : Char) (later : List Char), text = c :: later ∧
    isGap c = false ∧ c ≠ ']' ∧ c ≠ '\x7d' ∧ c ≠ '\uFEFF'

theorem Starts.skipGap {text : List Char} (h : Starts text) (rest : List Char) :
    skipGap (text ++ rest) = text ++ rest := by
  obtain ⟨c, later, rfl, hc, _⟩ := h
  exact skipGap_of_start hc _

theorem Starts.append {text : List Char} (h : Starts text) (rest : List Char) :
    Starts (text ++ rest) := by
  obtain ⟨c, later, rfl, hc⟩ := h
  exact ⟨c, later ++ rest, rfl, hc⟩

theorem ListText.starts {α : Type} {entry : α → List Char → Prop} {entries : List α}
    {text : List Char} (h : ListText entry entries text)
    (hentry : ∀ (a : α) (text : List Char), entry a text → Starts text) : Starts text := by
  cases h with
  | last h _ => exact (hentry _ _ h).append _
  | more h _ _ _ =>
      rw [List.append_assoc, List.append_assoc]
      exact (hentry _ _ h).append _

theorem isGap_of_isDigit {c : Char} (h : Text.isDigit c = true) : isGap c = false := by
  rw [Bool.eq_false_iff]
  intro hgap
  simp only [isGap, Bool.or_eq_true, decide_eq_true_eq] at hgap
  rcases hgap with ((rfl | rfl) | rfl) | rfl <;> cases h

theorem ScalarText.start {digits : Nat} {v : Value} {text : List Char}
    (h : ScalarText digits v text) :
    Starts text ∧ ∃ (c : Char) (later : List Char), text = c :: later ∧
      c ≠ '"' ∧ c ≠ '[' ∧ c ≠ '\x7b' := by
  cases h with
  | word h =>
      simp only [words, List.mem_cons, Prod.mk.injEq, List.not_mem_nil, or_false] at h
      rcases h with ⟨rfl, rfl⟩ | ⟨rfl, rfl⟩ | ⟨rfl, rfl⟩ | ⟨rfl, rfl⟩ | ⟨rfl, rfl⟩ | ⟨rfl, rfl⟩ <;>
        exact ⟨⟨_, _, rfl, by decide⟩, _, _, rfl, by decide⟩
  | number h _ =>
      obtain ⟨c, later, hdigit, rfl | rfl⟩ := start_of_number? h
      · refine ⟨⟨c, later, rfl, isGap_of_isDigit hdigit, ?_, ?_, ?_⟩, c, later, rfl, ?_, ?_, ?_⟩ <;>
          · rintro rfl
            cases hdigit
      · exact ⟨⟨'-', _, rfl, by decide⟩, '-', _, rfl, by decide⟩

theorem PlainText.starts {digits : Nat} {v : Value} {text : List Char}
    (h : PlainText digits v text) : Starts text := by
  cases h with
  | scalar h =>
      exact h.start.1
  | string h =>
      cases h
      exact ⟨'"', _, rfl, rfl, by decide⟩

theorem MemberText.starts {entry : Value → List Char → Prop} {member : String × Value}
    {text : List Char} (h : MemberText entry member text) : Starts text := by
  cases h with
  | named hname _ _ _ =>
      cases hname
      exact ⟨'"', _, rfl, rfl, by decide⟩

theorem ValueText.starts {digits depth : Nat} {v : Value} {text : List Char}
    (h : ValueText digits depth v text) : Starts text := by
  cases depth with
  | zero => exact PlainText.starts h
  | succ depth =>
      rcases h with h | h
      · exact h.starts
      · cases h <;> exact ⟨_, _, rfl, rfl, by decide⟩

theorem PlainText.value {digits : Nat} {v : Value} {text : List Char}
    (h : PlainText digits v text) (depth : Nat) {budget : Nat} (hbudget : text.length ≤ budget)
    {rest : List Char} (hrest : Closed rest) :
    value digits depth budget (text ++ rest) = .ok (v, rest) := by
  obtain ⟨c, later, htext, _⟩ := h.starts
  obtain _ | budget := budget
  · rw [htext] at hbudget
    cases hbudget
  cases h with
  | scalar h =>
      obtain ⟨_, c, later, rfl, hquote, hbracket, hbrace⟩ := h.start
      rw [List.cons_append, Json.value]
      · rw [← List.cons_append, h.scalar hrest]
      all_goals simp_all
  | string h =>
      obtain ⟨body, rfl, hbody⟩ := h.string rest
      rw [List.cons_append, Json.value, hbody]
      rfl

/-- Values nested as deep as `depth` are read up to where they end. -/
def ReadsValues (digits depth : Nat) : Prop :=
  ∀ {v : Value} {text : List Char}, ValueText digits depth v text → ∀ {budget : Nat},
    text.length ≤ budget → ∀ {rest : List Char}, Closed rest →
      value digits depth budget (text ++ rest) = .ok (v, rest)

section

variable {digits depth : Nat} (hvalues : ReadsValues digits depth)

include hvalues

/-- The items of an array are read up to its closing bracket. -/
theorem ListText.items {vs : List Value} {text : List Char}
    (h : ListText (ValueText digits depth) vs text) {budget : Nat} (hbudget : text.length < budget)
    (rest : List Char) : items digits depth budget (text ++ ']' :: rest) = .ok (vs, rest) := by
  induction h generalizing budget with
  | @last v text gap h hgap =>
      obtain _ | budget := budget
      · cases hbudget
      have hlength : text.length ≤ budget := by
        rw [List.length_append] at hbudget
        omega
      rw [List.append_assoc, Json.items, hvalues h hlength (closed_gap hgap rfl rest)]
      simp only [bind, Except.bind, skipGap_gap hgap, skipGap_of_start (c := ']') rfl]
  | @more v vs text before behind later h hbefore hbehind hlater ih =>
      obtain _ | budget := budget
      · cases hbudget
      simp only [List.length_append, List.length_cons] at hbudget
      have hclosed : Closed (before ++ ',' :: (behind ++ (later ++ ']' :: rest))) :=
        closed_gap hbefore rfl _
      have hstarts : Starts later := hlater.starts fun _ _ h => h.starts
      have htext : text ++ before ++ ',' :: behind ++ later ++ ']' :: rest =
          text ++ (before ++ ',' :: (behind ++ (later ++ ']' :: rest))) := by simp
      rw [htext, Json.items, hvalues h (by omega) hclosed]
      simp only [bind, Except.bind, skipGap_gap hbefore, skipGap_of_start (c := ',') rfl,
        skipGap_gap hbehind, hstarts.skipGap]
      rw [ih (by omega)]

/-- Behind the value of a member, the closing bracket ends the object and a comma goes on with
    it. -/
theorem MemberText.members {name : String} {v : Value} {text : List Char}
    (h : MemberText (ValueText digits depth) (name, v) text) {budget : Nat}
    (hbudget : text.length ≤ budget) (known : List (String × Value)) {rest behind : List Char}
    (hrest : Closed rest) :
    (skipGap rest = '\x7d' :: behind →
      members digits depth (budget + 1) known (text ++ rest) =
        .ok (setMember name v known, behind)) ∧
    (skipGap rest = ',' :: behind →
      members digits depth (budget + 1) known (text ++ rest) =
        members digits depth budget (setMember name v known) (skipGap behind)) := by
  cases h with
  | @named _ _ nameText text before after hname hbefore hafter h =>
      simp only [List.length_append, List.length_cons] at hbudget
      obtain ⟨body, rfl, hbody⟩ := hname.string (before ++ ':' :: (after ++ (text ++ rest)))
      have htext : '"' :: body ++ before ++ ':' :: after ++ text ++ rest =
          '"' :: (body ++ (before ++ ':' :: (after ++ (text ++ rest)))) := by simp
      have hlength : text.length ≤ budget := by omega
      rw [htext, Json.members, hbody]
      simp only [bind, Except.bind, skipGap_gap hbefore, skipGap_of_start (c := ':') rfl,
        skipGap_gap hafter, h.starts.skipGap, hvalues h hlength hrest]
      constructor
      · intro hclose
        simp only [hclose]
      · intro hcomma
        simp only [hcomma]

/-- The members of an object are read up to its closing bracket. -/
theorem ListText.members {named : List (String × Value)} {text : List Char}
    (h : ListText (MemberText (ValueText digits depth)) named text) {budget : Nat}
    (hbudget : text.length < budget) (known : List (String × Value)) (rest : List Char) :
    members digits depth budget known (text ++ '\x7d' :: rest) =
      .ok (named.foldl (fun known member => setMember member.1 member.2 known) known, rest) := by
  induction h generalizing budget known with
  | @last member text gap h hgap =>
      obtain _ | budget := budget
      · cases hbudget
      rw [List.length_append] at hbudget
      have hclose : skipGap (gap ++ '\x7d' :: rest) = '\x7d' :: rest := by
        rw [skipGap_gap hgap, skipGap_of_start rfl]
      rw [List.append_assoc]
      exact (h.members hvalues (by omega) known (closed_gap hgap rfl rest)).1 hclose
  | @more member named text before behind later h hbefore hbehind hlater ih =>
      obtain _ | budget := budget
      · cases hbudget
      simp only [List.length_append, List.length_cons] at hbudget
      have hcomma : skipGap (before ++ ',' :: (behind ++ (later ++ '\x7d' :: rest))) =
          ',' :: (behind ++ (later ++ '\x7d' :: rest)) := by
        rw [skipGap_gap hbefore, skipGap_of_start rfl]
      have hstarts : Starts later := hlater.starts fun _ _ h => h.starts
      have htext : text ++ before ++ ',' :: behind ++ later ++ '\x7d' :: rest =
          text ++ (before ++ ',' :: (behind ++ (later ++ '\x7d' :: rest))) := by simp
      have hlength : text.length ≤ budget := by omega
      have hclosed : Closed (before ++ ',' :: (behind ++ (later ++ '\x7d' :: rest))) :=
        closed_gap hbefore rfl _
      rw [htext, (h.members hvalues hlength known hclosed).2 hcomma, skipGap_gap hbehind,
        hstarts.skipGap]
      exact ih (by omega) _

/-- An array or an object is read up to its closing bracket. -/
theorem BracketText.value {v : Value} {text : List Char}
    (h : BracketText (ValueText digits depth) v text) {budget : Nat}
    (hbudget : text.length ≤ budget) (rest : List Char) :
    value digits (depth + 1) budget (text ++ rest) = .ok (v, rest) := by
  obtain _ | budget := budget
  · cases h <;> cases hbudget
  cases h with
  | @emptyArray gap hgap =>
      have htext : '[' :: gap ++ [']'] ++ rest = '[' :: (gap ++ ']' :: rest) := by simp
      rw [htext, Json.value, if_neg (Nat.succ_ne_zero depth), skipGap_gap hgap,
        skipGap_of_start (c := ']') rfl]
      rfl
  | @array items gap text hgap h =>
      simp only [List.length_append, List.length_cons, List.length_nil] at hbudget
      have htext : '[' :: gap ++ text ++ [']'] ++ rest = '[' :: (gap ++ (text ++ ']' :: rest)) := by
        simp
      have hstarts : Starts text := h.starts fun _ _ h => h.starts
      rw [htext, Json.value, if_neg (Nat.succ_ne_zero depth), skipGap_gap hgap, hstarts.skipGap]
      split
      · next heq =>
          obtain ⟨c, later, rfl, _, hclose, _⟩ := hstarts
          exact absurd (List.cons.inj heq).1 hclose
      · rw [Nat.add_sub_cancel, h.items hvalues (by omega) rest]
        rfl
  | @emptyObject gap hgap =>
      have htext : '\x7b' :: gap ++ ['\x7d'] ++ rest = '\x7b' :: (gap ++ '\x7d' :: rest) := by simp
      rw [htext, Json.value, if_neg (Nat.succ_ne_zero depth), skipGap_gap hgap,
        skipGap_of_start (c := '\x7d') rfl]
      rfl
  | @object named gap text hgap h =>
      simp only [List.length_append, List.length_cons, List.length_nil] at hbudget
      have htext : '\x7b' :: gap ++ text ++ ['\x7d'] ++ rest =
          '\x7b' :: (gap ++ (text ++ '\x7d' :: rest)) := by simp
      have hstarts : Starts text := h.starts fun _ _ h => h.starts
      rw [htext, Json.value, if_neg (Nat.succ_ne_zero depth), skipGap_gap hgap, hstarts.skipGap]
      split
      · next heq =>
          obtain ⟨c, later, rfl, _, _, hclose, _⟩ := hstarts
          exact absurd (List.cons.inj heq).1 hclose
      · rw [Nat.add_sub_cancel, h.members hvalues (by omega) [] rest]
        rfl

end

/-- Values are read up to where they end, in each way in which they can be written. -/
theorem readsValues (digits depth : Nat) : ReadsValues digits depth := by
  induction depth with
  | zero => exact fun h _ hbudget _ hrest => PlainText.value h 0 hbudget hrest
  | succ depth ih =>
      rintro v text (h | h) budget hbudget rest hrest
      · exact h.value (depth + 1) hbudget hrest
      · exact h.value ih hbudget rest

/-- A whole text is read as the value that it is a way to write. -/
theorem readWithin_of_valueText {digits depth : Nat} {v : Value} {text before behind : List Char}
    (h : ValueText digits depth v text) (hbefore : IsGapText before) (hbehind : IsGapText behind) :
    readWithin digits depth (before ++ (text ++ behind)) = .ok v := by
  have hclosed : Closed behind := by
    rintro c hc
    have hspace : isGap c = true := hbehind c (List.mem_of_mem_head? hc)
    exact continuesNumber_of_isGap hspace
  have hbudget : text.length ≤ 2 * (before ++ (text ++ behind)).length + 2 := by
    simp only [List.length_append]
    omega
  have hvalue := readsValues digits depth h hbudget hclosed
  have hempty : skipGap behind = [] := by
    have hskip := skipGap_gap hbehind []
    rw [List.append_nil] at hskip
    exact hskip
  unfold readWithin
  split
  · next rest heq =>
      obtain ⟨c, later, rfl, _, _, _, hmark⟩ := h.starts
      cases before with
      | nil => exact absurd (List.cons.inj heq).1 hmark
      | cons g before =>
          have hspace := hbefore g List.mem_cons_self
          rw [(List.cons.inj heq).1] at hspace
          cases hspace
  · rw [skipGap_gap hbefore, h.starts.skipGap, hvalue]
    simp only [bind, Except.bind, hempty]

end Abacus.Json
