/-
Module: Abacus.Proofs.JsonNesting
Purpose: When JSON is refused for a limit. Every reader leaves an end of its text, so the brackets
  and the runs of digits that it meets are those of the text; and each bracket in which it goes on
  reading takes one from the depth that is left. A text with no more opening brackets and no longer
  runs of digits than are allowed is never refused for a limit, and one that opens more brackets at
  its start is.
Main exports: openings, longestRun, Bounded, Bounded.bind, allBounded, exceeds_of_readWithin_error,
  readWithin_opened, Exceeds, not_exceeds
-/
import Mathlib.Algebra.Group.Nat.Defs
import Mathlib.Data.List.TakeDrop
import Abacus.Json.Read

namespace Abacus.Json

/-! ### Readers that leave an end of their text -/

/-- Whether a character opens an array or an object. -/
def isOpening (c : Char) : Bool :=
  c = '[' || c = '\x7b'

/-- The number of opening brackets in a text, those in strings among them. -/
def openings (text : List Char) : Nat :=
  text.countP isOpening

/-- The most ASCII digits that stand in a row in a text. -/
def longestRun : List Char → Nat
  | [] => 0
  | c :: rest => max ((c :: rest).takeWhile Text.isDigit).length (longestRun rest)

/-- A reader leaves an end of its text, and it refuses the text for a limit only if there are more
    opening brackets or more digits in a row in it than are allowed. -/
def Bounded {α : Type} (digits depth : Nat) (text : List Char) :
    Except Fault (α × List Char) → Prop
  | .ok (_, rest) => rest <:+ text
  | .error fault => fault.reason.isLimit = true → depth < openings text ∨ digits < longestRun text

section

variable {α β : Type} {digits depth : Nat} {text rest : List Char}

/-- An end of a text has no more opening brackets than the text. -/
theorem openings_le (h : rest <:+ text) : openings rest ≤ openings text :=
  h.sublist.countP_le

/-- Nor has it longer runs of digits. -/
theorem longestRun_le (h : rest <:+ text) : longestRun rest ≤ longestRun text := by
  induction text with
  | nil =>
      obtain rfl := List.suffix_nil.mp h
      exact Nat.le_refl _
  | cons c text ih =>
      rcases List.suffix_cons_iff.mp h with rfl | hrest
      · exact Nat.le_refl _
      · exact Nat.le_trans (ih hrest) (Nat.le_max_right _ _)

theorem length_takeWhile_le_longestRun (text : List Char) :
    (text.takeWhile Text.isDigit).length ≤ longestRun text := by
  cases text with
  | nil => exact Nat.le_refl 0
  | cons c rest => exact Nat.le_max_left _ _

/-- Digits at the start of a text are part of a run. -/
theorem length_le_longestRun {run : List Char} (hrun : ∀ c ∈ run, Text.isDigit c = true)
    (rest : List Char) : run.length ≤ longestRun (run ++ rest) := by
  refine Nat.le_trans ?_ (length_takeWhile_le_longestRun (run ++ rest))
  rw [List.takeWhile_append_of_pos hrun, List.length_append]
  exact Nat.le_add_right _ _

/-- No run is longer than all digits together. -/
theorem longestRun_le_countP (text : List Char) : longestRun text ≤ text.countP Text.isDigit := by
  induction text with
  | nil => exact Nat.le_refl 0
  | cons c rest ih =>
      refine Nat.max_le.mpr ⟨?_, ?_⟩
      · rw [← List.countP_eq_length.mpr (List.all_eq_true.mp List.all_takeWhile)]
        exact (List.takeWhile_sublist Text.isDigit).countP_le
      · exact Nat.le_trans ih (List.sublist_cons_self c rest).countP_le

theorem Bounded.of_suffix {result : Except Fault (α × List Char)} (hrest : rest <:+ text)
    (h : Bounded digits depth rest result) : Bounded digits depth text result := by
  cases result with
  | ok found => exact h.trans hrest
  | error fault =>
      exact fun hlimit => (h hlimit).imp (Nat.lt_of_lt_of_le · (openings_le hrest))
        (Nat.lt_of_lt_of_le · (longestRun_le hrest))

/-- Reading on where a reader has stopped. -/
theorem Bounded.bind {first : Except Fault (α × List Char)}
    {next : α × List Char → Except Fault (β × List Char)} (hfirst : Bounded digits depth text first)
    (hnext : ∀ (found : α) (rest : List Char), rest <:+ text →
      Bounded digits depth rest (next (found, rest))) :
    Bounded digits depth text (first >>= next) := by
  cases first with
  | ok found => exact (hnext found.1 found.2 hfirst).of_suffix hfirst
  | error fault => exact hfirst

/-- Behind an opening bracket, one bracket less may be opened. -/
theorem Bounded.opened {c : Char} (hc : isOpening c = true)
    {result : Except Fault (α × List Char)} (h : Bounded digits depth rest result) :
    Bounded digits (depth + 1) (c :: rest) result := by
  cases result with
  | ok found => exact h.trans (List.suffix_cons c rest)
  | error fault =>
      intro hlimit
      rcases h hlimit with hlt | hlt
      · rw [openings, List.countP_cons_of_pos hc]
        exact .inl (Nat.succ_lt_succ hlt)
      · exact .inr (Nat.lt_of_lt_of_le hlt (longestRun_le (List.suffix_cons c rest)))

theorem bounded_faultAt {reason : Reason} (hreason : reason.isLimit = false) (place : List Char) :
    Bounded digits depth text (faultAt reason place : Except Fault (α × List Char)) := by
  intro hlimit
  rw [hreason] at hlimit
  cases hlimit

end

/-- Where no bracket may be opened, an opening bracket may be refused for it. -/
theorem bounded_deep {α : Type} {digits : Nat} {c : Char} (hc : isOpening c = true)
    {reason : Reason} {rest place : List Char} :
    Bounded digits 0 (c :: rest) (faultAt reason place : Except Fault (α × List Char)) := by
  intro _
  rw [openings, List.countP_cons_of_pos hc]
  exact .inl (Nat.succ_pos _)

/-! ### Strings -/

section

variable {digits depth : Nat}

theorem suffix_of_fourDigits? {text rest : List Char} {unit : Nat}
    (h : fourDigits? text = some (unit, rest)) : rest <:+ text := by
  unfold fourDigits? at h
  split at h
  · next a b c d behind =>
      simp only [Option.bind_eq_bind, Option.bind_eq_some_iff] at h
      obtain ⟨_, _, _, _, _, _, _, _, hrest⟩ := h
      cases hrest
      exact ⟨[a, b, c, d], rfl⟩
  · cases h

theorem bounded_unicodeEscape (text : List Char) :
    Bounded digits depth text (unicodeEscape text) := by
  unfold unicodeEscape
  split
  · exact nofun
  · exact nofun
  · next unit rest _ hunit =>
      have hrest := suffix_of_fourDigits? hunit
      split
      · next next _ _ =>
          have hnext : next <:+ text := .trans ⟨['\\', 'u'], rfl⟩ hrest
          split
          · exact hrest
          · split
            · exact nofun
            · next low behind hlow =>
                split
                · exact (suffix_of_fourDigits? hlow).trans hnext
                · exact hrest
      · exact hrest

theorem bounded_stringFrom (opened budget : Nat) (text : List Char) :
    Bounded digits depth text (stringFrom opened budget text) := by
  fun_induction stringFrom opened budget text with
  | case1 | case2 | case4 | case6 | case8 => exact nofun
  | case3 budget rest => exact List.suffix_cons _ rest
  | case5 budget rest ih =>
      have hrest : rest <:+ '\\' :: 'u' :: rest := ⟨['\\', 'u'], rfl⟩
      refine ((bounded_unicodeEscape rest).of_suffix hrest).bind fun c behind _ => ?_
      exact (ih behind).bind fun cs last _ => List.suffix_refl last
  | case7 budget letter rest _ c _ ih =>
      have hrest : rest <:+ '\\' :: letter :: rest := ⟨['\\', letter], rfl⟩
      exact (ih.of_suffix hrest).bind fun cs last _ => List.suffix_refl last
  | case9 budget c rest _ _ _ _ _ ih =>
      exact (ih.of_suffix (List.suffix_cons c rest)).bind fun cs last _ => List.suffix_refl last

theorem bounded_string (text : List Char) : Bounded digits depth text (string text) :=
  (bounded_stringFrom _ _ text).bind fun _ rest _ => List.suffix_refl rest

end

/-! ### Words and numbers -/

theorem suffix_of_after? {start text rest : List Char} (h : after? start text = some rest) :
    rest <:+ text := by
  fun_induction after? start text with
  | case1 text =>
      cases h
      exact List.suffix_refl _
  | case2 => cases h
  | case3 start c text ih => exact (ih h).trans (List.suffix_cons c text)
  | case4 => cases h

theorem spanDigits_suffix (text : List Char) : (spanDigits text).2 <:+ text := by
  rw [spanDigits, List.span_eq_takeWhile_dropWhile]
  exact List.dropWhile_suffix _

/-- The whole part of a number is a run of digits at the start of the text. -/
theorem wholePart?_eq_some {text digits rest : List Char}
    (h : wholePart? text = some (digits, rest)) :
    digits ++ rest = text ∧ ∀ c ∈ digits, Text.isDigit c = true := by
  unfold wholePart? at h
  split at h
  · cases h
    exact ⟨rfl, List.forall_mem_singleton.mpr rfl⟩
  · next c behind _ =>
      split at h
      · rw [spanDigits, List.span_eq_takeWhile_dropWhile] at h
        cases h
        exact ⟨List.takeWhile_append_dropWhile, List.all_eq_true.mp List.all_takeWhile⟩
      · cases h
  · cases h

theorem suffix_of_wholePart? {text digits rest : List Char}
    (h : wholePart? text = some (digits, rest)) : rest <:+ text :=
  ⟨digits, (wholePart?_eq_some h).1⟩

theorem fractionPart_suffix (text : List Char) : (fractionPart text).2 <:+ text := by
  unfold fractionPart
  split
  · next rest =>
      split
      · exact List.suffix_refl _
      · next digits behind _ hspan =>
          have hbehind := spanDigits_suffix rest
          rw [hspan] at hbehind
          exact hbehind.trans (List.suffix_cons _ rest)
  · exact List.suffix_refl _

theorem exponentSign_suffix (text : List Char) : (exponentSign text).2 <:+ text := by
  unfold exponentSign
  split
  · exact List.suffix_cons _ _
  · exact List.suffix_cons _ _
  · exact List.suffix_refl _

theorem suffix_of_exponentPart? {text rest : List Char} {exponent : Int}
    (h : exponentPart? text = some (exponent, rest)) : rest <:+ text := by
  unfold exponentPart? at h
  split at h
  · next c behind =>
      split at h
      · have hsign := exponentSign_suffix behind
        have hspan := spanDigits_suffix (exponentSign behind).2
        simp only at h
        split at h
        · cases h
        · next digits last _ hlast =>
            cases h
            rw [hlast] at hspan
            exact (hspan.trans hsign).trans (List.suffix_cons c behind)
      · cases h
  · cases h

theorem suffix_of_unsigned? {negative : Bool} {text rest : List Char} {found : Value}
    (h : unsigned? negative text = some (found, rest)) : rest <:+ text := by
  unfold unsigned? at h
  obtain ⟨⟨digits, behind⟩, hwhole, hfound⟩ := Option.bind_eq_some_iff.mp h
  have hfraction := (fractionPart_suffix behind).trans (suffix_of_wholePart? hwhole)
  simp only at hfound
  obtain ⟨_, hrest⟩ := Prod.mk.inj (Option.some.inj hfound)
  split at hrest
  · next exponent last hexponent =>
      rw [← hrest]
      exact (suffix_of_exponentPart? hexponent).trans hfraction
  · rw [← hrest]
    exact hfraction

theorem suffix_of_number? {text rest : List Char} {found : Value}
    (h : number? text = some (found, rest)) : rest <:+ text := by
  unfold number? at h
  split at h
  · exact (suffix_of_unsigned? h).trans (List.suffix_cons _ _)
  · exact suffix_of_unsigned? h

/-- A run of digits stands for a number with as many. -/
theorem natOfDigits_lt {digits : List Char} (h : ∀ c ∈ digits, Text.isDigit c = true) :
    natOfDigits digits < 10 ^ digits.length := by
  have hfold : ∀ value : Nat, digits.foldl (fun value c => value * 10 + (c.toNat - '0'.toNat)) value
      < (value + 1) * 10 ^ digits.length := by
    induction digits with
    | nil => simp
    | cons c digits ih =>
        obtain ⟨hc, hdigits⟩ := List.forall_mem_cons.mp h
        have hlt : c.toNat - '0'.toNat < 10 := by
          simp only [Text.isDigit, Bool.and_eq_true, decide_eq_true_eq, Char.le_def,
            UInt32.le_iff_toNat_le] at hc
          change c.toNat - 48 < 10
          have hnine : c.toNat ≤ 57 := hc.2
          omega
        intro value
        refine Nat.lt_of_lt_of_le (ih hdigits _) ?_
        rw [List.length_cons, Nat.pow_succ', ← Nat.mul_assoc]
        refine Nat.mul_le_mul_right _ ?_
        simp only
        omega
  have hzero := hfold 0
  rwa [Nat.zero_add, Nat.one_mul] at hzero

/-- A whole number that is read from a text has no more digits than the longest run in the text. -/
theorem natAbs_lt_of_unsigned? {negative : Bool} {text rest : List Char} {n : Int}
    (h : unsigned? negative text = some (.whole n, rest)) : n.natAbs < 10 ^ longestRun text := by
  unfold unsigned? at h
  obtain ⟨⟨digits, behind⟩, hwhole, hfound⟩ := Option.bind_eq_some_iff.mp h
  obtain ⟨rfl, hdigits⟩ := wholePart?_eq_some hwhole
  simp only at hfound
  obtain ⟨hvalue, _⟩ := Prod.mk.inj (Option.some.inj hfound)
  have hle := length_le_longestRun hdigits behind
  have habs : n.natAbs = natOfDigits digits := by
    split at hvalue
    · cases negative <;> simp only [Value.whole.injEq] at hvalue <;> simp [← hvalue]
    · cases hvalue
  rw [habs]
  exact Nat.lt_of_lt_of_le (natOfDigits_lt hdigits) (Nat.pow_le_pow_right (by decide) hle)

theorem natAbs_lt_of_number? {text rest : List Char} {n : Int}
    (h : number? text = some (.whole n, rest)) : n.natAbs < 10 ^ longestRun text := by
  unfold number? at h
  split at h
  · next behind =>
      have hle : longestRun behind ≤ longestRun ('-' :: behind) :=
        longestRun_le (List.suffix_cons _ _)
      exact Nat.lt_of_lt_of_le (natAbs_lt_of_unsigned? h) (Nat.pow_le_pow_right (by decide) hle)
  · exact natAbs_lt_of_unsigned? h

theorem bounded_scalar {digits depth : Nat} (text : List Char) :
    Bounded digits depth text (scalar digits text) := by
  unfold scalar
  split
  · next found hfound =>
      obtain ⟨word, _, hword⟩ := List.exists_of_findSome?_eq_some hfound
      obtain ⟨rest, hrest, rfl⟩ := Option.map_eq_some_iff.mp hword
      exact suffix_of_after? hrest
  · split
    · next found hfound =>
        split
        · exact suffix_of_number? hfound
        · next hlong =>
            obtain ⟨v, rest⟩ := found
            cases v with
            | whole n =>
                have hlt := natAbs_lt_of_number? hfound
                have hle : 10 ^ digits ≤ n.natAbs := by simpa [isShort] using hlong
                exact fun _ => .inr ((Nat.pow_lt_pow_iff_right (by decide)).mp
                  (Nat.lt_of_le_of_lt hle hlt))
            | _ => exact absurd rfl hlong
    · exact bounded_faultAt rfl text

/-! ### Values -/

/-- What stands behind white space is an end of the text. -/
theorem skipGap_suffix (text : List Char) : skipGap text <:+ text :=
  List.dropWhile_suffix _

theorem suffix_of_skipGap {c : Char} {text rest : List Char} (h : skipGap text = c :: rest) :
    rest <:+ text :=
  (List.suffix_cons c rest).trans (h ▸ skipGap_suffix text)

/-- What is read behind a bracket is read with one bracket less allowed. -/
theorem bounded_bracket {α : Type} {c : Char} (hc : isOpening c = true) {digits depth : Nat}
    {reason : Reason} {rest : List Char} {result : Except Fault (α × List Char)}
    (h : Bounded digits (depth - 1) (skipGap rest) result) :
    Bounded digits depth (c :: rest)
      (if depth = 0 then faultAt reason (c :: rest) else result) := by
  cases depth with
  | zero => exact bounded_deep hc
  | succ depth =>
      rw [if_neg (Nat.succ_ne_zero depth)]
      exact (h.of_suffix (skipGap_suffix rest)).opened hc

/-- The three readers of values, with a number of steps left to them. -/
structure AllBounded (digits budget : Nat) : Prop where
  value (depth : Nat) (text : List Char) :
    Bounded digits depth text (value digits depth budget text)
  items (depth : Nat) (text : List Char) :
    Bounded digits depth text (items digits depth budget text)
  members (depth : Nat) (known : List (String × Value)) (text : List Char) :
    Bounded digits depth text (members digits depth budget known text)

section

variable {digits budget : Nat} (h : AllBounded digits budget) (depth : Nat)

include h

theorem AllBounded.value_succ (text : List Char) :
    Bounded digits depth text (Json.value digits depth (budget + 1) text) := by
  unfold Json.value
  split
  · next rest =>
      refine Bounded.of_suffix (List.suffix_cons _ rest) ?_
      exact (bounded_string rest).bind fun _ last _ => List.suffix_refl last
  · next rest =>
      refine bounded_bracket rfl ?_
      split
      · next hlast =>
          rw [hlast]
          exact List.suffix_cons _ _
      · exact (h.members (depth - 1) [] _).bind fun _ last _ => List.suffix_refl last
  · next rest =>
      refine bounded_bracket rfl ?_
      split
      · next hlast =>
          rw [hlast]
          exact List.suffix_cons _ _
      · exact (h.items (depth - 1) _).bind fun _ last _ => List.suffix_refl last
  · exact bounded_scalar _

theorem AllBounded.items_succ (text : List Char) :
    Bounded digits depth text (Json.items digits depth (budget + 1) text) := by
  unfold Json.items
  refine (h.value depth text).bind fun item rest _ => ?_
  simp only
  split
  · next last hlast => exact suffix_of_skipGap hlast
  · next last hlast =>
      refine Bounded.of_suffix ((skipGap_suffix last).trans (suffix_of_skipGap hlast)) ?_
      exact (h.items depth _).bind fun _ behind _ => List.suffix_refl behind
  · exact bounded_faultAt rfl _

theorem AllBounded.members_succ (known : List (String × Value)) (text : List Char) :
    Bounded digits depth text (Json.members digits depth (budget + 1) known text) := by
  unfold Json.members
  split
  · next text =>
      refine Bounded.of_suffix (List.suffix_cons _ text) ?_
      refine (bounded_string text).bind fun name rest _ => ?_
      simp only
      split
      · next behind hbehind =>
          have hvalue : skipGap behind <:+ rest :=
            (skipGap_suffix behind).trans (suffix_of_skipGap hbehind)
          refine Bounded.of_suffix hvalue ?_
          refine (h.value depth (skipGap behind)).bind fun found rest _ => ?_
          simp only
          split
          · next last hlast => exact suffix_of_skipGap hlast
          · next last hlast =>
              exact Bounded.of_suffix ((skipGap_suffix last).trans (suffix_of_skipGap hlast))
                (h.members depth _ _)
          · exact bounded_faultAt rfl _
      · exact bounded_faultAt rfl _
  · exact bounded_faultAt rfl _

end

/-- However many steps are left, the readers of values are bounded. -/
theorem allBounded (digits budget : Nat) : AllBounded digits budget := by
  induction budget with
  | zero =>
      refine ⟨fun depth text => ?_, fun depth text => ?_, fun depth known text => ?_⟩
      · rw [value]
        exact bounded_faultAt rfl text
      · rw [items]
        exact bounded_faultAt rfl text
      · rw [members]
        exact bounded_faultAt rfl text
  | succ budget ih => exact ⟨ih.value_succ, ih.items_succ, ih.members_succ⟩

/-! ### Whole texts -/

/-- A text that is refused for a limit has more opening brackets, or more digits in a row, than are
    allowed. -/
theorem exceeds_of_readWithin_error {digits depth : Nat} {text : List Char} {fault : Fault}
    (h : readWithin digits depth text = .error fault) (hlimit : fault.reason.isLimit = true) :
    depth < openings text ∨ digits < longestRun text := by
  unfold readWithin at h
  split at h
  · cases h
    cases hlimit
  · have hvalue := ((allBounded digits (2 * text.length + 2)).value depth (skipGap text)).of_suffix
      (skipGap_suffix text)
    cases hfound : value digits depth (2 * text.length + 2) (skipGap text) with
    | error other =>
        rw [hfound] at h hvalue
        cases h
        exact hvalue hlimit
    | ok found =>
        rw [hfound] at h
        simp only [bind, Except.bind] at h
        split at h
        · cases h
        · cases h
          cases hlimit

/-! ### Deep texts -/

theorem skipGap_replicate (count : Nat) :
    skipGap (List.replicate count '[') = List.replicate count '[' := by
  cases count <;> rfl

/-- An array that begins with an array is read from its first item on. -/
theorem value_opened_twice (digits depth budget : Nat) (rest : List Char) :
    value digits (depth + 1) (budget + 1) ('[' :: '[' :: rest) = (do
      let (found, behind) ← items digits depth budget ('[' :: rest)
      .ok (.array found, behind)) := by
  rw [value, if_neg (Nat.succ_ne_zero depth)]
  rfl

/-- What begins with more opening brackets than are allowed is refused for that. -/
theorem value_opened {digits depth budget count : Nat} (hcount : depth < count)
    (hbudget : 2 * count ≤ budget) :
    ∃ fault : Fault, value digits depth budget (List.replicate count '[') = .error fault ∧
      fault.reason.isLimit = true := by
  -- Each bracket takes two steps of the budget: one for the array, and one for what stands in it.
  induction depth generalizing count budget with
  | zero =>
      obtain _ | count := count
      · cases hcount
      · obtain _ | budget := budget
        · omega
        · exact ⟨_, rfl, rfl⟩
  | succ depth ih =>
      obtain ⟨count, rfl⟩ : ∃ fewer : Nat, count = fewer + 2 := ⟨count - 2, by omega⟩
      obtain ⟨budget, rfl⟩ : ∃ fewer : Nat, budget = fewer + 2 := ⟨budget - 2, by omega⟩
      have hlater : depth < count + 1 := by omega
      have hleft : 2 * (count + 1) ≤ budget := by omega
      obtain ⟨fault, hfault, hdeep⟩ := ih hlater hleft
      have hitems :
          items digits depth (budget + 1) ('[' :: List.replicate count '[') = .error fault := by
        rw [List.replicate_succ] at hfault
        rw [items, hfault]
        rfl
      refine ⟨fault, ?_, hdeep⟩
      rw [List.replicate_succ, List.replicate_succ, value_opened_twice, hitems]
      rfl

/-- A whole text of more opening brackets than are allowed is refused for that. -/
theorem readWithin_opened {digits depth count : Nat} (hcount : depth < count) :
    ∃ fault : Fault, readWithin digits depth (List.replicate count '[') = .error fault ∧
      fault.reason.isLimit = true := by
  have hbudget : 2 * count ≤ 2 * (List.replicate count '[').length + 2 := by
    rw [List.length_replicate]
    omega
  obtain ⟨fault, hfault, hdeep⟩ := value_opened hcount hbudget
  refine ⟨fault, ?_, hdeep⟩
  unfold readWithin
  split
  · next rest htext =>
      cases count with
      | zero => cases htext
      | succ count => simp [List.replicate_succ] at htext
  · rw [skipGap_replicate, hfault]
    rfl

/-! ### Texts beyond the limits -/

/-- A text is refused for a limit: its brackets are nested deeper than `depth`, or one of its whole
    numbers has more digits than are read from any text. -/
def Exceeds (depth : Nat) (text : List Char) : Prop :=
  ∃ fault : Fault, read depth text = .error fault ∧ fault.reason.isLimit = true

instance (depth : Nat) (text : List Char) : Decidable (Exceeds depth text) :=
  match hread : read depth text with
  | .ok _ => .isFalse fun ⟨_, hfault, _⟩ => nomatch hread.symm.trans hfault
  | .error fault =>
      decidable_of_iff (fault.reason.isLimit = true)
        ⟨fun hlimit => ⟨fault, hread, hlimit⟩, fun ⟨_, hfault, hlimit⟩ => by
          cases hread.symm.trans hfault
          exact hlimit⟩

/-- A text with few opening brackets and short runs of digits is within the limits. -/
theorem not_exceeds {depth : Nat} {text : List Char} (hfew : openings text ≤ depth)
    (hshort : longestRun text ≤ Text.maxDigits) : ¬ Exceeds depth text := by
  rintro ⟨fault, hfault, hlimit⟩
  rcases exceeds_of_readWithin_error hfault hlimit with hmany | hlong
  · exact Nat.not_lt.mpr hfew hmany
  · exact Nat.not_lt.mpr hshort hlong

end Abacus.Json
