/-
Module: Abacus.Proofs.LexicalFaults
Purpose: The scan reports the leftmost fault of a text. The faults of a text are said without the
  scan: characters that belong to no token, and longest runs of digits whose value is too great.
  Where a text is parted, and not within a run, its faults are those of the parts, so the faults
  behind the first token are those of the text that is left to scan.
Main exports: DigitRun, HasFault, hasFault_append, scan_eq_error_iff, tokenize_leftmostFault
-/
import Abacus.Proofs.OnePassScan

namespace Abacus

/-! ### What a fault of a text is -/

/-- The characters that are tokens by themselves. -/
def symbols : List Char :=
  ['(', ')', '+', '-', '*', '/']

/-- A longest run of digits in a text, with what stands before and behind it. -/
structure DigitRun (before digits after : List Char) : Prop where
  nonempty : digits ≠ []
  digit : ∀ c ∈ digits, Text.isDigit c = true
  left : Settled Text.isDigit before.reverse
  right : Settled Text.isDigit after

/-- The position that a fault is reported at. -/
def ScanFault.position : ScanFault → Nat
  | unknownSymbol _ position => position
  | literalOverflow _ position _ => position

/-- The faults of a text that starts at a position. -/
inductive HasFault (maxLiteral : Int) (position : Nat) (text : List Char) : ScanFault → Prop where
  /-- A character is no digit, no white space and no symbol. -/
  | unknownSymbol {before after : List Char} {c : Char} (htext : text = before ++ c :: after)
      (hdigit : Text.isDigit c = false) (hblank : Text.isBlank c = false) (hsymbol : c ∉ symbols) :
      HasFault maxLiteral position text (.unknownSymbol c (position + before.length))
  /-- A longest run of digits stands for a number that is too great. -/
  | literalOverflow {before digits after : List Char} (htext : text = before ++ (digits ++ after))
      (hrun : DigitRun before digits after) (hover : maxLiteral < Nat.ofDigitChars 10 digits 0) :
      HasFault maxLiteral position text
        (.literalOverflow (String.ofList digits) (position + before.length) maxLiteral)

/-- What is no symbol is no token by itself. -/
theorem Lexeme.ofSymbol?_eq_none_iff {c : Char} : Lexeme.ofSymbol? c = none ↔ c ∉ symbols := by
  unfold Lexeme.ofSymbol?
  split
  · simp [symbols]
  · simp [symbols]
  · next hopen hclose =>
      unfold Operation.ofSymbol?
      split <;> simp_all [symbols]

/-! ### Runs of digits -/

section

variable {before digits after text next : List Char}

theorem DigitRun.not_settled (run : DigitRun before digits after) (next : List Char) :
    ¬ Settled Text.isDigit (digits ++ next) :=
  fun h => run.nonempty (eq_nil_of_settled run.digit h)

/-- The digits of a run may be read from its end as well. -/
theorem DigitRun.not_settled_reverse (run : DigitRun before digits after) (next : List Char) :
    ¬ Settled Text.isDigit (digits.reverse ++ next) :=
  fun h => run.nonempty (List.reverse_eq_nil_iff.mp
    (eq_nil_of_settled (by simpa using run.digit) h))

/-- The digits of a run are those up to the next other character. -/
theorem DigitRun.takeWhile (run : DigitRun before digits after) :
    (digits ++ after).takeWhile Text.isDigit = digits := by
  have hafter : after.takeWhile Text.isDigit = [] := takeWhile_append_settled [] run.right
  rw [List.takeWhile_append_of_pos run.digit, hafter, List.append_nil]

/-- Two texts are parted where no run of digits goes on from one to the other. -/
def Parted (text next : List Char) : Prop :=
  Settled Text.isDigit text.reverse ∨ Settled Text.isDigit next

/-- A run of a text stays one if the text is followed by another that is parted from it. -/
theorem DigitRun.append_right (run : DigitRun before digits after)
    (hparted : Parted (before ++ (digits ++ after)) next) :
    DigitRun before digits (after ++ next) where
  nonempty := run.nonempty
  digit := run.digit
  left := run.left
  right := by
    refine settled_append run.right ?_
    rintro rfl
    refine hparted.resolve_left fun hleft => ?_
    rw [List.append_nil, List.reverse_append] at hleft
    exact run.not_settled_reverse _ hleft

/-- A run of a text stays one if the text follows another that is parted from it. -/
theorem DigitRun.append_left (run : DigitRun before digits after)
    (hparted : Parted text (before ++ (digits ++ after))) :
    DigitRun (text ++ before) digits after where
  nonempty := run.nonempty
  digit := run.digit
  left := by
    rw [List.reverse_append]
    refine settled_append run.left ?_
    intro hbefore
    obtain rfl : before = [] := List.reverse_eq_nil_iff.mp hbefore
    exact hparted.resolve_right (run.not_settled after)
  right := run.right

/-- A run that parted texts have together lies in one of them. -/
theorem DigitRun.of_append (run : DigitRun before digits after) (hparted : Parted text next)
    (htext : text ++ next = before ++ (digits ++ after)) :
    (∃ rest : List Char, text = before ++ (digits ++ rest) ∧ after = rest ++ next ∧
      DigitRun before digits rest) ∨
    (∃ rest : List Char, before = text ++ rest ∧ next = rest ++ (digits ++ after) ∧
      DigitRun rest digits after) := by
  have houter : ∀ rest : List Char, before = text ++ rest → next = rest ++ (digits ++ after) →
      DigitRun rest digits after := by
    rintro rest rfl -
    refine ⟨run.nonempty, run.digit, ?_, run.right⟩
    exact settled_of_append (by simpa using run.left)
  rcases List.append_eq_append_iff.mp htext with ⟨rest, hbefore, hnext⟩ | ⟨inner, rfl, hinner⟩
  · exact .inr ⟨rest, hbefore, hnext, houter rest hbefore hnext⟩
  · rcases List.append_eq_append_iff.mp hinner with ⟨cut, rfl, rfl⟩ | ⟨cut, rfl, hcut⟩
    · exact .inl ⟨cut, rfl, rfl, run.nonempty, run.digit, run.left, settled_of_append run.right⟩
    · -- The border lies within the run, so that one of the two parts of the run is empty.
      obtain ⟨hinnerDigit, hcutDigit⟩ := List.forall_mem_append.mp run.digit
      rcases hparted with hsettled | hsettled
      · rw [List.reverse_append] at hsettled
        have hnil : inner.reverse = [] := eq_nil_of_settled (by simpa using hinnerDigit) hsettled
        obtain rfl : inner = [] := List.reverse_eq_nil_iff.mp hnil
        have hbefore : before = (before ++ []) ++ [] := by
          simp
        exact .inr ⟨[], hbefore, hcut, houter [] hbefore hcut⟩
      · rw [hcut] at hsettled
        obtain rfl : cut = [] := eq_nil_of_settled hcutDigit hsettled
        obtain rfl : next = after := hcut
        rw [List.append_nil] at run ⊢
        exact .inl ⟨[], by simp, rfl, run.nonempty, run.digit, run.left, settled_nil _⟩

end

/-! ### Faults of parted texts -/

section

variable {maxLiteral : Int} {position : Nat} {text next : List Char} {fault : ScanFault}

/-- The faults of parted texts together are those of the one and those of the other. -/
theorem hasFault_append (hparted : Parted text next) :
    HasFault maxLiteral position (text ++ next) fault ↔
      HasFault maxLiteral position text fault ∨
        HasFault maxLiteral (position + text.length) next fault := by
  constructor
  · intro h
    cases h with
    | @unknownSymbol before after c htext hdigit hblank hsymbol =>
        rcases List.append_eq_append_iff.mp htext with ⟨rest, rfl, hnext⟩ | ⟨inner, rfl, hinner⟩
        · rw [List.length_append, ← Nat.add_assoc]
          exact .inr (.unknownSymbol hnext hdigit hblank hsymbol)
        · obtain _ | ⟨first, inner⟩ := inner
          · refine .inr ?_
            rw [List.append_nil]
            have hnext : next = [] ++ c :: after := hinner.symm
            exact .unknownSymbol hnext hdigit hblank hsymbol
          · obtain ⟨rfl, rfl⟩ := List.cons.inj hinner
            exact .inl (.unknownSymbol rfl hdigit hblank hsymbol)
    | @literalOverflow before digits after htext hrun hover =>
        rcases hrun.of_append hparted htext with ⟨rest, rfl, _, hrest⟩ | ⟨rest, rfl, rfl, hrest⟩
        · exact .inl (.literalOverflow rfl hrest hover)
        · rw [List.length_append, ← Nat.add_assoc]
          exact .inr (.literalOverflow rfl hrest hover)
  · rintro (h | h)
    · cases h with
      | unknownSymbol htext hdigit hblank hsymbol =>
          subst htext
          exact .unknownSymbol (List.append_assoc _ _ _) hdigit hblank hsymbol
      | literalOverflow htext hrun hover =>
          subst htext
          exact .literalOverflow (by simp) (hrun.append_right hparted) hover
    · cases h with
      | @unknownSymbol before after c htext hdigit hblank hsymbol =>
          rw [Nat.add_assoc, ← List.length_append]
          exact .unknownSymbol (by rw [htext, List.append_assoc]) hdigit hblank hsymbol
      | @literalOverflow before digits after htext hrun hover =>
          subst htext
          rw [Nat.add_assoc, ← List.length_append]
          exact .literalOverflow (List.append_assoc _ _ _).symm (hrun.append_left hparted) hover

/-- The empty text has no fault. -/
theorem not_hasFault_nil : ¬ HasFault maxLiteral position [] fault := by
  intro h
  cases h with
  | unknownSymbol htext => simp at htext
  | literalOverflow htext hrun => simp [hrun.nonempty] at htext

/-- A single character that is no digit is no fault unless it belongs to no token. -/
theorem hasFault_singleton_iff {c : Char} (hdigit : Text.isDigit c = false) :
    HasFault maxLiteral position [c] fault ↔
      Text.isBlank c = false ∧ c ∉ symbols ∧ fault = .unknownSymbol c position := by
  constructor
  · intro h
    cases h with
    | unknownSymbol htext _ hblank hsymbol =>
        obtain ⟨rfl, rfl, _⟩ := by
          simpa [List.cons_eq_append_iff] using htext
        exact ⟨hblank, hsymbol, rfl⟩
    | @literalOverflow before digits after htext hrun hover =>
        obtain ⟨digit, hmem⟩ := List.exists_mem_of_ne_nil digits hrun.nonempty
        have hc : digit ∈ [c] := by
          rw [htext]
          simp [hmem]
        rw [List.mem_singleton.mp hc] at hmem
        rw [hrun.digit c hmem] at hdigit
        cases hdigit
  · rintro ⟨hblank, hsymbol, rfl⟩
    have htext : [c] = [] ++ [c] := rfl
    exact .unknownSymbol htext hdigit hblank hsymbol

/-- Digits alone have no fault but the value for which they stand. -/
theorem hasFault_digits_iff {digits : List Char} (hnonempty : digits ≠ [])
    (hdigit : ∀ c ∈ digits, Text.isDigit c = true) :
    HasFault maxLiteral position digits fault ↔
      maxLiteral < Nat.ofDigitChars 10 digits 0 ∧
        fault = .literalOverflow (String.ofList digits) position maxLiteral := by
  constructor
  · intro h
    cases h with
    | @unknownSymbol before after c htext hcDigit _ _ =>
        have hc : Text.isDigit c = true := hdigit c (by simp [htext])
        rw [hc] at hcDigit
        cases hcDigit
    | @literalOverflow before run after htext hrun hover =>
        subst htext
        obtain ⟨hbefore, hrest⟩ := List.forall_mem_append.mp hdigit
        have hleft : Settled Text.isDigit (before.reverse ++ []) := by
          simpa using hrun.left
        have hright : Settled Text.isDigit (after ++ []) := by
          simpa using hrun.right
        have hreverse : before.reverse = [] := eq_nil_of_settled (by simpa using hbefore) hleft
        obtain rfl : before = [] := List.reverse_eq_nil_iff.mp hreverse
        obtain rfl : after = [] :=
          eq_nil_of_settled (List.forall_mem_append.mp hrest).2 hright
        simpa using hover
  · rintro ⟨hover, rfl⟩
    have htext : digits = [] ++ (digits ++ []) := by
      simp
    exact .literalOverflow htext ⟨hnonempty, hdigit, settled_nil _, settled_nil _⟩ hover

/-! ### What a scan reports -/

/-- Behind a character that is no digit, a text has the faults that it has by itself. -/
theorem hasFault_cons_iff {c : Char} (hdigit : Text.isDigit c = false) (rest : List Char) :
    HasFault maxLiteral position (c :: rest) fault ↔
      (Text.isBlank c = false ∧ c ∉ symbols ∧ fault = .unknownSymbol c position) ∨
        HasFault maxLiteral (position + 1) rest fault := by
  have hparted : Parted [c] rest := .inl (by simpa using hdigit)
  rw [← hasFault_singleton_iff hdigit]
  exact hasFault_append hparted

/-- Behind a run of digits, a text has the faults that it has by itself. -/
theorem hasFault_run_iff {c : Char} (hdigit : Text.isDigit c = true) (rest : List Char) :
    HasFault maxLiteral position (c :: rest) fault ↔
      (maxLiteral < digitsValue (c :: rest.takeWhile Text.isDigit) ∧
        fault = .literalOverflow (String.ofList (c :: rest.takeWhile Text.isDigit)) position
          maxLiteral) ∨
        HasFault maxLiteral (position + (c :: rest.takeWhile Text.isDigit).length)
          (rest.dropWhile Text.isDigit) fault := by
  have hrest : c :: rest = (c :: rest.takeWhile Text.isDigit) ++ rest.dropWhile Text.isDigit := by
    rw [List.cons_append, List.takeWhile_append_dropWhile]
  have hall : ∀ digit ∈ c :: rest.takeWhile Text.isDigit, Text.isDigit digit = true :=
    List.forall_mem_cons.mpr ⟨hdigit, List.all_eq_true.mp List.all_takeWhile⟩
  have hparted : Parted (c :: rest.takeWhile Text.isDigit) (rest.dropWhile Text.isDigit) :=
    .inr (settled_dropWhile Text.isDigit rest)
  rw [digitsValue_eq, ← hasFault_digits_iff (List.cons_ne_nil _ _) hall,
    ← hasFault_append hparted, ← hrest]

/-- No fault of a text stands before the text. -/
theorem HasFault.le_position (h : HasFault maxLiteral position text fault) :
    position ≤ fault.position := by
  cases h <;> exact Nat.le_add_right _ _

/-- The fault that a text has at its first character, if it has one there. -/
def faultAtStart? (maxLiteral : Int) (place : Nat) : List Char → Option ScanFault
  | [] => none
  | c :: rest => some <|
      if Text.isDigit c then
        .literalOverflow (String.ofList (c :: rest.takeWhile Text.isDigit)) place maxLiteral
      else .unknownSymbol c place

/-- A fault is what the text from its place on starts with. -/
theorem HasFault.eq_faultAtStart? (h : HasFault maxLiteral position text fault) :
    some fault =
      faultAtStart? maxLiteral fault.position (text.drop (fault.position - position)) := by
  cases h with
  | unknownSymbol htext hdigit _ _ =>
      subst htext
      simp [ScanFault.position, faultAtStart?, hdigit]
  | @literalOverflow before digits after htext hrun _ =>
      have hdigits := hrun.takeWhile
      subst htext
      obtain _ | ⟨c, digits⟩ := digits
      · exact absurd rfl hrun.nonempty
      · have hc : Text.isDigit c = true := hrun.digit c List.mem_cons_self
        simp only [List.cons_append, List.takeWhile_cons, hc, if_true] at hdigits
        simp [ScanFault.position, faultAtStart?, hc, (List.cons.inj hdigits).2]

/-- At one place a text has one fault at most. -/
theorem HasFault.eq_of_position {other : ScanFault} (h : HasFault maxLiteral position text fault)
    (hother : HasFault maxLiteral position text other) (hplace : fault.position = other.position) :
    fault = other := by
  have hsome := h.eq_faultAtStart?
  rw [hplace, ← hother.eq_faultAtStart?] at hsome
  exact Option.some.inj hsome

/-- A scan ends with the leftmost of some faults, or with tokens if there are none. -/
def ReportsFirst (faults : ScanFault → Prop) : Except ScanFault (List Token) → Prop
  | .ok _ => ∀ fault : ScanFault, ¬ faults fault
  | .error fault => faults fault ∧
      ∀ other : ScanFault, faults other → fault.position ≤ other.position

theorem ReportsFirst.map_cons {faults : ScanFault → Prop} {scanned : Except ScanFault (List Token)}
    (h : ReportsFirst faults scanned) (first : Token) :
    ReportsFirst faults ((first :: ·) <$> scanned) := by
  cases scanned with
  | ok tokens => exact h
  | error fault => exact h

/-- The scan reports the leftmost fault. -/
theorem reportsFirst_scan (maxLiteral : Int) (position : Nat) (text : List Char) :
    ReportsFirst (HasFault maxLiteral position text) (scan maxLiteral position text) := by
  -- What the scan passes over has no fault, so the faults are those of what is left: `hsame`.
  fun_induction scan maxLiteral position text with
  | case1 position => exact fun fault => not_hasFault_nil
  | case2 position c rest hdigit digits value hbound =>
      refine ⟨(hasFault_run_iff hdigit rest).mpr (.inl ⟨hbound, rfl⟩), ?_⟩
      intro other hother
      exact hother.le_position
  | case3 position c rest hdigit digits value hbound =>
      rename_i ih
      have hsame : HasFault maxLiteral position (c :: rest) =
          HasFault maxLiteral (position + digits.length) (rest.dropWhile Text.isDigit) := by
        funext fault
        refine propext ((hasFault_run_iff hdigit rest).trans (or_iff_right ?_))
        exact fun h => hbound h.1
      rw [hsame]
      exact ih.map_cons _
  | case4 position c rest hdigit hblank ih =>
      have hsame : HasFault maxLiteral position (c :: rest) =
          HasFault maxLiteral (position + 1) rest := by
        funext fault
        rw [hasFault_cons_iff (by simpa using hdigit)]
        simp [hblank]
      rwa [hsame]
  | case5 position c rest hdigit hblank lexeme hlexeme ih =>
      have hsymbol : c ∈ symbols := by
        refine Decidable.byContradiction fun hother => ?_
        rw [Lexeme.ofSymbol?_eq_none_iff.mpr hother] at hlexeme
        cases hlexeme
      have hsame : HasFault maxLiteral position (c :: rest) =
          HasFault maxLiteral (position + 1) rest := by
        funext fault
        rw [hasFault_cons_iff (by simpa using hdigit)]
        simp [hsymbol]
      rw [hsame]
      exact ih.map_cons _
  | case6 position c rest hdigit hblank hlexeme =>
      have hnone : c ∉ symbols := Lexeme.ofSymbol?_eq_none_iff.mp hlexeme
      refine ⟨?_, fun other hother => hother.le_position⟩
      rw [hasFault_cons_iff (by simpa using hdigit)]
      exact .inl ⟨by simpa using hblank, hnone, rfl⟩

/-- A scan fails with the leftmost fault of its text, and with no other. -/
theorem scan_eq_error_iff :
    scan maxLiteral position text = .error fault ↔
      HasFault maxLiteral position text fault ∧
        ∀ other : ScanFault, HasFault maxLiteral position text other →
          fault.position ≤ other.position := by
  have hscan := reportsFirst_scan maxLiteral position text
  constructor
  · intro h
    rwa [h] at hscan
  · rintro ⟨hfault, hfirst⟩
    cases hresult : scan maxLiteral position text with
    | ok tokens =>
        rw [hresult] at hscan
        exact absurd hfault (hscan fault)
    | error reported =>
        rw [hresult] at hscan
        obtain ⟨hreported, hleast⟩ := hscan
        have hplace := Nat.le_antisymm (hleast fault hfault) (hfirst reported hreported)
        rw [hreported.eq_of_position hfault hplace]

/-- A scan fails exactly if its text has a fault. -/
theorem exists_scan_eq_error_iff :
    (∃ fault : ScanFault, scan maxLiteral position text = .error fault) ↔
      ∃ fault : ScanFault, HasFault maxLiteral position text fault := by
  have hscan := reportsFirst_scan maxLiteral position text
  cases hresult : scan maxLiteral position text with
  | ok tokens =>
      rw [hresult] at hscan
      simp [show ∀ fault : ScanFault, ¬ HasFault maxLiteral position text fault from hscan]
  | error fault =>
      rw [hresult] at hscan
      exact ⟨fun _ => ⟨fault, hscan.1⟩, fun _ => ⟨fault, rfl⟩⟩

/-! ### Leading zeros -/

/-- Where a text stands does not matter for its having faults. -/
theorem HasFault.exists_at (h : HasFault maxLiteral position text fault) (other : Nat) :
    ∃ moved : ScanFault, HasFault maxLiteral other text moved := by
  cases h with
  | unknownSymbol htext hdigit hblank hsymbol =>
      exact ⟨_, .unknownSymbol htext hdigit hblank hsymbol⟩
  | literalOverflow htext hrun hover => exact ⟨_, .literalOverflow htext hrun hover⟩

/-- Parted texts together have a fault exactly if one of them has. -/
theorem exists_hasFault_append (hparted : Parted text next) :
    (∃ fault : ScanFault, HasFault maxLiteral position (text ++ next) fault) ↔
      (∃ fault : ScanFault, HasFault maxLiteral position text fault) ∨
        ∃ fault : ScanFault, HasFault maxLiteral position next fault := by
  simp only [hasFault_append hparted, exists_or]
  refine or_congr_right ⟨?_, ?_⟩
  · rintro ⟨fault, h⟩
    exact h.exists_at position
  · rintro ⟨fault, h⟩
    exact h.exists_at _

/-- A text has a fault exactly if one of its runs is too great or there is one beside the run. -/
theorem DigitRun.exists_hasFault_iff {before digits after : List Char}
    (run : DigitRun before digits after) :
    (∃ fault : ScanFault, HasFault maxLiteral position (before ++ (digits ++ after)) fault) ↔
      (∃ fault : ScanFault, HasFault maxLiteral position before fault) ∨
        maxLiteral < Nat.ofDigitChars 10 digits 0 ∨
          ∃ fault : ScanFault, HasFault maxLiteral position after fault := by
  have hdigits : (∃ fault : ScanFault, HasFault maxLiteral position digits fault) ↔
      maxLiteral < Nat.ofDigitChars 10 digits 0 := by
    simp [hasFault_digits_iff run.nonempty run.digit]
  rw [exists_hasFault_append (.inl run.left), exists_hasFault_append (.inr run.right), hdigits]

/-- A run with zeros in front of it is a run. -/
theorem DigitRun.zeros {before digits after : List Char} (run : DigitRun before digits after)
    (count : Nat) : DigitRun before (List.replicate count '0' ++ digits) after where
  nonempty := List.append_ne_nil_of_right_ne_nil _ run.nonempty
  digit := by
    refine List.forall_mem_append.mpr ⟨?_, run.digit⟩
    intro c hc
    rw [List.eq_of_mem_replicate hc]
    rfl
  left := run.left
  right := run.right

end

/-! ### The leftmost fault -/

theorem tokenize_eq_error_iff {maxLiteral : Int} {expression : String} {fault : ScanFault} :
    tokenize maxLiteral expression = .error fault ↔
      scan maxLiteral 0 expression.toList = .error fault :=
  map_eq_error_iff

/-- An expression has no tokens exactly if it has a fault: a character that is no digit, no white
    space and no symbol, or a longest run of digits that stands for a number beyond the bound. What
    is reported is the leftmost fault, the character or the whole run with the place at which it
    starts; the report is made if that place and, for a number, the bound can be written. Zeros in
    front of a run change nothing of it. And it is the same fault on which a reader stops that goes
    through the expression once and refuses the first digit that is too much. -/
theorem tokenize_leftmostFault (maxLiteral : Int) (expression : String) :
    ((∃ fault : ScanFault, tokenize maxLiteral expression = .error fault) ↔
      ∃ fault : ScanFault, HasFault maxLiteral 0 expression.toList fault) ∧
    (∀ fault : ScanFault, tokenize maxLiteral expression = .error fault ↔
      HasFault maxLiteral 0 expression.toList fault ∧
        ∀ other : ScanFault, HasFault maxLiteral 0 expression.toList other →
          fault.position ≤ other.position) ∧
    (∀ (before digits after : List Char) (zeros : Nat), DigitRun before digits after →
      expression.toList = before ++ (digits ++ after) →
        ((∃ fault : ScanFault, tokenize maxLiteral
            (String.ofList (before ++ (List.replicate zeros '0' ++ digits ++ after))) =
              .error fault) ↔
          ∃ fault : ScanFault, tokenize maxLiteral expression = .error fault)) ∧
    (∀ fault : ScanFault, tokenize maxLiteral expression = .error fault →
      fault.outline.Makes fault.report?) ∧
    readTokens maxLiteral expression = tokenize maxLiteral expression := by
  simp only [tokenize_eq_error_iff]
  refine ⟨exists_scan_eq_error_iff, fun fault => scan_eq_error_iff, ?_, fun fault _ => fault.makes,
    readTokens_eq_tokenize maxLiteral expression⟩
  intro before digits after zeros run htext
  rw [exists_scan_eq_error_iff, exists_scan_eq_error_iff, htext, String.toList_ofList,
    (run.zeros zeros).exists_hasFault_iff, run.exists_hasFault_iff, Nat.ofDigitChars_append,
    Nat.ofDigitChars_replicate_zero, Nat.mul_zero]

/-- No number is allowed by a negative bound. -/
theorem tokenize_one_of_neg {maxLiteral : Int} (h : maxLiteral < 0) :
    tokenize maxLiteral "1" = .error (.literalOverflow "1" 0 maxLiteral) := by
  have hbound : maxLiteral < digitsValue ['1'] := Int.lt_trans h (by decide)
  rw [tokenize_eq_error_iff]
  exact (scan_digits (List.cons_ne_nil _ _) (isDigit_one_zeros 0) 0).trans (if_pos hbound)

/-- The leftmost fault of a text is not reported: the bound that the report would show has too many
    digits to be written. -/
theorem tokenize_longBound :
    ∃ fault : ScanFault, tokenize (-10 ^ 5000) "1" = .error fault ∧ fault.report? = none := by
  have hlong : ¬ Text.IsWritable (-10 ^ 5000) := fun hwritable =>
    absurd (Text.isWritable_ten_pow_iff.mp (Text.isWritable_neg_iff.mp hwritable)) (by decide)
  have hneg : (-10 ^ 5000 : Int) < 0 := Int.neg_neg_of_pos (Int.pow_pos (by decide))
  exact ⟨_, tokenize_one_of_neg hneg, ScanFault.report?_literalOverflow_of_long hlong "1" 0⟩

end Abacus
