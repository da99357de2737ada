/-
Module: Abacus.Proofs.WrittenReports
Purpose: What the report on a failure says, and when there is one. Each fault calls for a report of
  a kind, with a place and numbers; the report is made exactly if all of its numbers have few enough
  digits to be written. No report is called for by an access to an empty stack and by a result that
  cannot be written.
Main exports: Report.Outline, Outline.Makes, ScanFault.makes, ConversionFault.makes,
  EvaluationFault.makes, Failure.outline?, Failure.makes
-/
import Mathlib.Algebra.Group.Int.Defs
import Mathlib.Algebra.Group.Nat.Defs
import Abacus.Calculator

namespace Abacus

open Text (IsWritable writeWhole? isSome_writeWhole?)

/-- Of the powers of ten, those with few enough digits can be written. -/
theorem Text.isWritable_ten_pow_iff {k : Nat} : IsWritable (10 ^ k) ↔ k < maxDigits := by
  have hnatAbs : ((10 : Int) ^ k).natAbs = 10 ^ k := Int.natAbs_pow 10 k
  rw [isWritable_iff, hnatAbs, Nat.pow_eq, Nat.pow_lt_pow_iff_right (by decide)]

/-! ### Outlines of reports -/

namespace Report

/-- What a report is to say: its kind, the place that it names, what it is about, and the other
    numbers that are shown in it. -/
structure Outline where
  kind : Kind
  place : Option Int := none
  subject : Option Subject := none
  details : List Int := []
deriving DecidableEq, Repr

namespace Outline

/-- All numbers that are shown in a report. -/
def numbers (outline : Outline) : List Int :=
  outline.place.toList ++ outline.details

/-- An outline makes a report of its kind, with its place and its subject, if all of the numbers can
    be written; otherwise it makes none. -/
def Makes (outline : Outline) : Option Report → Prop
  | some report =>
      (∀ n ∈ outline.numbers, IsWritable n) ∧ report.kind = outline.kind ∧
        report.position = outline.place ∧ report.subject = outline.subject
  | none => ∃ n ∈ outline.numbers, ¬ IsWritable n

variable {outline : Outline} {made : Option Report}

theorem Makes.isSome_iff (h : outline.Makes made) :
    made.isSome ↔ ∀ n ∈ outline.numbers, IsWritable n := by
  cases made with
  | some report => exact iff_of_true rfl h.1
  | none =>
      obtain ⟨n, hn, hlong⟩ := h
      exact iff_of_false Bool.false_ne_true fun hall => hlong (hall n hn)

theorem Makes.kind_eq {report : Report} (h : outline.Makes (some report)) :
    report.kind = outline.kind :=
  h.2.1

/-- The kind of the report that is made, if one is made. -/
theorem Makes.map_kind (h : outline.Makes made) :
    made.map Report.kind =
      if ∀ n ∈ outline.numbers, IsWritable n then some outline.kind else none := by
  cases made with
  | some report => rw [if_pos (h.isSome_iff.mp rfl), Option.map_some, h.kind_eq]
  | none =>
      rw [if_neg fun hall => by cases h.isSome_iff.mpr hall]
      rfl

/-- A report for which something is shown first has the numbers of that, and those of the rest. -/
theorem Makes.bind {α : Type} {shown : Option α} {numbers : List Int} (rest : List Int)
    (hshown : shown.isSome ↔ ∀ n ∈ numbers, IsWritable n)
    (hnumbers : ∀ n : Int, n ∈ outline.numbers ↔ n ∈ numbers ∨ n ∈ outline.place.toList ++ rest)
    {next : α → Option Report}
    (hnext : ∀ a : α, ({ outline with details := rest } : Outline).Makes (next a)) :
    outline.Makes (shown >>= next) := by
  -- What is shown first decides first; the rest is only made behind it.
  cases shown with
  | none =>
      have hlong : ¬ ∀ n ∈ numbers, IsWritable n := fun hall => by cases hshown.mpr hall
      simp only [Classical.not_forall] at hlong
      obtain ⟨n, hn, hlong⟩ := hlong
      exact ⟨n, (hnumbers n).mpr (.inl hn), hlong⟩
  | some a =>
      have hmade := hnext a
      show Makes _ (next a)
      cases hreport : next a with
      | none =>
          rw [hreport] at hmade
          obtain ⟨n, hn, hlong⟩ := hmade
          exact ⟨n, (hnumbers n).mpr (.inr hn), hlong⟩
      | some report =>
          rw [hreport] at hmade
          refine ⟨fun n hn => ?_, hmade.2⟩
          exact ((hnumbers n).mp hn).elim (hshown.mp rfl n) (hmade.1 n)

/-- What is left of an outline if places do not count. -/
def unplaced (outline : Outline) : Outline :=
  { outline with place := none, subject := none }

end Outline

section

variable {report : Report} {outline : Outline}

/-- A report as an outline says is made if its place can be written. -/
theorem makes_made? (hkind : report.kind = outline.kind) (hplace : report.position = outline.place)
    (hsubject : report.subject = outline.subject) (hdetails : outline.details = []) :
    outline.Makes (made? report) := by
  have hall : report.position.all (fun place => IsWritable place) = true ↔
      ∀ n ∈ outline.numbers, IsWritable n := by
    simp [Outline.numbers, hdetails, hplace, Option.all_eq_true]
  unfold made?
  split
  · next hwritable => exact ⟨hall.mp hwritable, hkind, hplace, hsubject⟩
  · next hlong =>
      rw [hall] at hlong
      simp only [Classical.not_forall] at hlong
      obtain ⟨n, hn, hlong⟩ := hlong
      exact ⟨n, hn, hlong⟩

/-- A report as an outline without numbers says is made. -/
theorem makes_some (hkind : report.kind = outline.kind) (hplace : report.position = outline.place)
    (hsubject : report.subject = outline.subject) (hnumbers : outline.numbers = []) :
    outline.Makes (some report) := by
  refine ⟨?_, hkind, hplace, hsubject⟩
  rw [hnumbers]
  exact nofun

end

end Report

open Report (Outline Kind Subject)

/-! ### Numbers that are shown -/

theorem isSome_writeWhole?_iff (n : Int) :
    (writeWhole? n).isSome ↔ ∀ m ∈ [n], IsWritable m := by
  rw [isSome_writeWhole?, List.forall_mem_singleton]

/-- The number that a token is, if it is one. -/
def Token.operands (token : Token) : List Int :=
  match token.lexeme with
  | .operand value => [value]
  | _ => []

/-- A token whose number, if it is one, has few enough digits to be written. -/
def Token.IsShort (token : Token) : Prop :=
  ∀ n ∈ token.operands, IsWritable n

instance Token.IsShort.decidable (token : Token) : Decidable token.IsShort :=
  inferInstanceAs (Decidable (∀ n ∈ token.operands, IsWritable n))

/-- The text of a token, however many digits it has. -/
def Token.fullText (token : Token) : String :=
  match token.lexeme with
  | .operand value => toString value
  | .operator op => op.symbol.toString
  | lexeme => lexeme.kind.symbol

theorem Token.text?_eq (token : Token) :
    token.text? = if token.IsShort then some token.fullText else none := by
  obtain ⟨lexeme, position⟩ := token
  cases lexeme with
  | operand value =>
      have hshort : (⟨.operand value, position⟩ : Token).IsShort ↔ IsWritable value :=
        List.forall_mem_singleton
      by_cases hwritable : IsWritable value
      · rw [if_pos (hshort.mpr hwritable)]
        exact Text.writeWhole?_of_isWritable hwritable
      · rw [if_neg (mt hshort.mp hwritable)]
        exact Option.not_isSome_iff_eq_none.mp (mt (isSome_writeWhole? value).mp hwritable)
  | operator | openBracket | closeBracket | begin | finish => exact (if_pos nofun).symm

theorem Token.isSome_text? (token : Token) :
    token.text?.isSome ↔ ∀ n ∈ token.operands, IsWritable n := by
  rw [token.text?_eq]
  by_cases hshort : token.IsShort
  · rw [if_pos hshort]
    exact iff_of_true rfl hshort
  · rw [if_neg hshort]
    exact iff_of_false Bool.false_ne_true hshort

/-- Tokens as a text, however many digits there are. -/
def plainForm (tokens : List Token) : String :=
  " ".intercalate (tokens.map Token.fullText)

/-- Tokens have a text if each of them has one. -/
theorem formatTokens?_eq (tokens : List Token) :
    formatTokens? tokens =
      if ∀ token ∈ tokens, token.IsShort then some (plainForm tokens)
      else none := by
  have hall : tokens.mapM Token.text? =
      if ∀ token ∈ tokens, token.IsShort then some (tokens.map Token.fullText) else none := by
    induction tokens with
    | nil => rfl
    | cons token tokens ih =>
        rw [List.mapM_cons, token.text?_eq, ih]
        by_cases htoken : token.IsShort
        · by_cases htokens : ∀ token ∈ tokens, token.IsShort
          · rw [if_pos htoken, if_pos htokens, if_pos (List.forall_mem_cons.mpr ⟨htoken, htokens⟩)]
            rfl
          · rw [if_pos htoken, if_neg htokens,
              if_neg fun hall => htokens (List.forall_mem_cons.mp hall).2]
            rfl
        · rw [if_neg htoken, if_neg fun hall => htoken (List.forall_mem_cons.mp hall).1]
          rfl
  rw [formatTokens?, hall]
  split <;> rfl

theorem Token.isSome_display? (token : Token) :
    token.display?.isSome ↔ ∀ n ∈ token.operands ++ [token.position], IsWritable n := by
  have htext := token.isSome_text?
  have hposition := isSome_writeWhole?_iff token.position
  rw [List.forall_mem_append, ← htext, ← hposition]
  unfold Token.display?
  split
  · cases token.text? <;> cases writeWhole? token.position <;> simp
  · next hplain =>
      have hsome : token.text?.isSome := by
        rw [htext]
        obtain ⟨lexeme, position⟩ := token
        cases lexeme with
        | operand value => exact absurd rfl hplain
        | operator | openBracket | closeBracket | begin | finish => exact nofun
      cases writeWhole? token.position <;> simp [hsome]

theorem isSome_displayRational? (value : Rat) :
    (displayRational? value).isSome ↔ ∀ n ∈ [value.num, (value.den : Int)], IsWritable n := by
  unfold displayRational?
  split
  · next hwhole =>
      rw [isSome_writeWhole?, hwhole, List.forall_mem_cons, List.forall_mem_singleton]
      exact (and_iff_left Text.isWritable_one).symm
  · rw [List.forall_mem_cons, List.forall_mem_singleton, ← isSome_writeWhole? value.num,
      ← isSome_writeWhole? (value.den : Int)]
    cases writeWhole? value.num <;> cases writeWhole? (value.den : Int) <;> simp

/-! ### What each fault calls for -/

/-- What the report on a fault of the scan is to say. -/
def ScanFault.outline : ScanFault → Outline
  | unknownSymbol symbol position =>
      { kind := .unknownSymbol, place := some position, subject := some (.symbol symbol) }
  | literalOverflow literal position limit => {
      kind := .literalOverflow
      place := some position
      subject := some (.literal literal limit)
      details := [limit] }

/-- The report on a fault of the scan is made if its numbers can be written. -/
theorem ScanFault.makes (fault : ScanFault) : fault.outline.Makes fault.report? := by
  cases fault with
  | unknownSymbol symbol position => exact Report.makes_made? rfl rfl rfl rfl
  | literalOverflow literal position limit =>
      simp only [ScanFault.report?, Report.literalOverflow?]
      refine Outline.Makes.bind [] (isSome_writeWhole?_iff limit)
        (by grind [Outline.numbers, outline]) fun _ => ?_
      exact Report.makes_made? rfl rfl rfl rfl

/-- There is no report on a number that is too great for a bound of more digits than are written. -/
theorem ScanFault.report?_literalOverflow_of_long {limit : Int} (h : ¬ IsWritable limit)
    (literal : String) (position : Nat) :
    (literalOverflow literal position limit).report? = none := by
  rw [← Option.not_isSome_iff_eq_none, (ScanFault.makes _).isSome_iff]
  exact fun hall => h (hall limit (by simp [Outline.numbers, ScanFault.outline]))

/-- What the report on a fault of the automaton is to say. -/
def StackFault.outline? : StackFault → Option Outline
  | noTransition _ _ => some { kind := .internal }
  | inapplicable _ token =>
      some { kind := .internal, details := token.operands ++ [token.position] }
  | emptyTop | emptyPop => none

/-- What the report on a fault of the conversion is to say. -/
def ConversionFault.outline? : ConversionFault → Option Outline
  | noBegin none | noFinish => some { kind := .malformedInput }
  | noBegin (some token) =>
      some { kind := .malformedInput, details := token.operands ++ [token.position] }
  | unexpected token => some {
      kind := .unexpectedToken
      place := some token.position
      subject := some (.token token)
      details := token.operands }
  | stack fault => fault.outline?

theorem StackFault.makes {fault : StackFault} {outline : Outline}
    (h : fault.outline? = some outline) : outline.Makes fault.report? := by
  cases fault with
  | noTransition state symbol =>
      cases h
      exact Report.makes_some rfl rfl rfl rfl
  | inapplicable action token =>
      cases h
      simp only [StackFault.report?]
      refine Outline.Makes.bind [] token.isSome_display? (by grind [Outline.numbers]) fun _ => ?_
      exact Report.makes_some rfl rfl rfl rfl
  | emptyTop | emptyPop => cases h

/-- The report on a fault of the conversion is made if its numbers can be written. -/
theorem ConversionFault.makes {fault : ConversionFault} {outline : Outline}
    (h : fault.outline? = some outline) : outline.Makes fault.report? := by
  cases fault with
  | noBegin first =>
      cases first with
      | none =>
          cases h
          exact Report.makes_some rfl rfl rfl rfl
      | some token =>
          cases h
          simp only [ConversionFault.report?, Option.elim_some]
          refine Outline.Makes.bind [] token.isSome_display? (by grind [Outline.numbers])
            fun _ => ?_
          exact Report.makes_some rfl rfl rfl rfl
  | noFinish =>
      cases h
      exact Report.makes_some rfl rfl rfl rfl
  | unexpected token =>
      cases h
      have hmade : ∀ message suggestion : String,
          ({ kind := .unexpectedToken
             place := some token.position
             subject := some (.token token)
             details := token.operands } : Outline).Makes
            (Report.unexpectedToken? (some token) message (some token.position)
              (some suggestion)) := by
        intro message suggestion
        simp only [Report.unexpectedToken?, Option.elim_some]
        refine Outline.Makes.bind [] token.isSome_display? (by grind [Outline.numbers]) fun _ => ?_
        exact Report.makes_made? rfl rfl rfl rfl
      simp only [ConversionFault.report?]
      split
      · exact hmade _ _
      · exact hmade _ _
  | stack fault => exact StackFault.makes h

/-- What the report on a fault of the evaluation is to say. -/
def EvaluationFault.outline : EvaluationFault → Outline
  | misplaced token => {
      kind := .malformedPostfix
      place := some token.position
      details := token.operands }
  | underflow token available => {
      kind := .stackUnderflow
      place := some token.position
      details := token.operands ++ [(available : Int)] }
  | divisionByZero position dividend => {
      kind := .divisionByZero
      place := some position
      details := [dividend.num, dividend.den] }
  | noValue => { kind := .malformedPostfix }
  | unjoined count => { kind := .malformedPostfix, details := [(count : Int)] }

/-- The report on a fault of the evaluation is made if its numbers can be written. -/
theorem EvaluationFault.makes (fault : EvaluationFault) : fault.outline.Makes fault.report? := by
  cases fault with
  | misplaced token =>
      simp only [EvaluationFault.report?]
      refine Outline.Makes.bind [] token.isSome_display?
        (by grind [Outline.numbers, outline]) fun _ => ?_
      exact Report.makes_made? rfl rfl rfl rfl
  | underflow token available =>
      simp only [EvaluationFault.report?]
      refine Outline.Makes.bind [(available : Int)] token.isSome_text?
        (by grind [Outline.numbers, outline]) fun _ => ?_
      refine Outline.Makes.bind [] (isSome_writeWhole?_iff available)
        (by grind [Outline.numbers, outline]) fun _ => ?_
      exact Report.makes_made? rfl rfl rfl rfl
  | divisionByZero position dividend =>
      simp only [EvaluationFault.report?]
      refine Outline.Makes.bind [] (isSome_displayRational? dividend)
        (by grind [Outline.numbers, outline]) fun _ => ?_
      exact Report.makes_made? rfl rfl rfl rfl
  | noValue => exact Report.makes_some rfl rfl rfl rfl
  | unjoined count =>
      simp only [EvaluationFault.report?]
      refine Outline.Makes.bind [] (isSome_writeWhole?_iff count)
        (by grind [Outline.numbers, outline]) fun _ => ?_
      exact Report.makes_some rfl rfl rfl rfl

/-- There is no report on the division of a whole number of more digits than are written. -/
theorem EvaluationFault.report?_divisionByZero_of_long {n : Int} (h : ¬ IsWritable n)
    (position : Int) : (divisionByZero position n).report? = none := by
  rw [← Option.not_isSome_iff_eq_none, (EvaluationFault.makes _).isSome_iff]
  intro hall
  have hnum : IsWritable (n : Rat).num :=
    hall _ (by simp [Outline.numbers, EvaluationFault.outline])
  exact h (Rat.num_intCast n ▸ hnum)

/-- What the report on a failure is to say, if one is called for. -/
def Failure.outline? : Failure → Option Outline
  | scan fault => some fault.outline
  | conversion fault => fault.outline?
  | evaluation fault => some fault.outline
  | unwritable => none

/-- The report that a failure calls for is made if its numbers can be written. -/
theorem Failure.makes {failure : Failure} {outline : Outline}
    (h : failure.outline? = some outline) : outline.Makes failure.report? := by
  cases failure with
  | scan fault =>
      cases h
      exact fault.makes
  | conversion fault => exact ConversionFault.makes h
  | evaluation fault =>
      cases h
      exact fault.makes
  | unwritable => cases h

/-- The kind of the report that a failure calls for. -/
def Failure.kind? (failure : Failure) : Option Kind :=
  failure.outline?.map Outline.kind

/-- The place that the report on a failure is to name, if it names one. -/
def Failure.place? (failure : Failure) : Option Int :=
  failure.outline?.bind Outline.place

/-- The numbers that the report on a failure is to show. -/
def Failure.numbers (failure : Failure) : List Int :=
  failure.outline?.elim [] Outline.numbers

end Abacus
