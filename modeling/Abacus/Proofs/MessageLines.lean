/-
Module: Abacus.Proofs.MessageLines
Purpose: Messages that stay on one line. A quoted text does, whatever is quoted, and so do numbers,
  the messages of all reports on an expression, and the words for faults of files.
Main exports: Text.IsLine, Text.isLine_quoted, Text.isLine_toString_int, Failure.isLine_report,
  Files.isLine_message, Text.Utf8.isLine_message
-/
import Abacus.Calculator
import Abacus.Files.Walk
import Abacus.Proofs.JsonWriting
import Abacus.Proofs.TextLines
import Abacus.Text.Utf8

namespace Abacus

namespace Text

/-! ### Texts on one line -/

instance (text : List Char) : Decidable (OneLine text) :=
  inferInstanceAs (Decidable (_ ∧ _))

theorem OneLine.append {first later : List Char} (hfirst : OneLine first)
    (hlater : OneLine later) : OneLine (first ++ later) :=
  ⟨List.not_mem_append hfirst.1 hlater.1, List.not_mem_append hfirst.2 hlater.2⟩

theorem oneLine_of_forall {text : List Char} (h : ∀ c ∈ text, c ≠ '\n' ∧ c ≠ '\r') :
    OneLine text :=
  ⟨fun hmem => (h '\n' hmem).1 rfl, fun hmem => (h '\r' hmem).2 rfl⟩

/-- A text that stays on one line: no line feed and no carriage return is in it. -/
def IsLine (text : String) : Prop :=
  OneLine text.toList

instance (text : String) : Decidable (IsLine text) :=
  inferInstanceAs (Decidable (OneLine text.toList))

@[simp] theorem isLine_append {first later : String} :
    IsLine (first ++ later) ↔ IsLine first ∧ IsLine later := by
  simp only [IsLine, OneLine, String.toList_append, List.mem_append, not_or]
  exact and_and_and_comm

/-! ### Quoted texts -/

theorem oneLine_hex (places n : Nat) : OneLine (hex places n) := by
  have hline : ∀ n < 16, Nat.digitChar n ≠ '\n' ∧ Nat.digitChar n ≠ '\r' := by decide
  refine oneLine_of_forall fun c hc => ?_
  obtain ⟨digit, hdigit, rfl⟩ := exists_digit_of_mem_hex hc
  exact hline digit hdigit

theorem oneLine_quoteChar {mark : Char} (hmark : mark = '"' ∨ mark = '\'') (c : Char) :
    OneLine (quoteChar mark c) := by
  unfold quoteChar
  split
  · next hc =>
      rcases hc with rfl | rfl
      · rcases hmark with rfl | rfl <;> decide
      · decide
  split
  · decide
  split
  · decide
  split
  · decide
  split
  · next _ hfeed hreturn _ _ =>
      exact oneLine_of_forall (List.forall_mem_singleton.mpr ⟨hfeed, hreturn⟩)
  split
  · have hescape : OneLine ['\\', 'x'] := by decide
    exact hescape.append (oneLine_hex 2 _)
  split
  · have hescape : OneLine ['\\', 'u'] := by decide
    exact hescape.append (oneLine_hex 4 _)
  · have hescape : OneLine ['\\', 'U'] := by decide
    exact hescape.append (oneLine_hex 8 _)

theorem quoteMark_eq_or (text : List Char) : quoteMark text = '"' ∨ quoteMark text = '\'' := by
  unfold quoteMark
  split
  · exact .inl rfl
  · exact .inr rfl

/-- Whatever is quoted, it stays on one line. -/
@[simp] theorem isLine_quoted (text : String) : IsLine (quoted text) := by
  have hmark := quoteMark_eq_or text.toList
  have hends : OneLine [quoteMark text.toList] := by
    rcases hmark with h | h <;> rw [h] <;> decide
  have hchars : OneLine (text.toList.flatMap (quoteChar (quoteMark text.toList))) := by
    refine oneLine_of_forall fun c hc => ?_
    obtain ⟨d, -, hd⟩ := List.mem_flatMap.mp hc
    have hline := oneLine_quoteChar hmark d
    exact ⟨fun h => hline.1 (h ▸ hd), fun h => hline.2 (h ▸ hd)⟩
  rw [IsLine, quoted, String.toList_ofList]
  exact hends.append (hchars.append hends)

/-! ### Numbers -/

@[simp] theorem isLine_toString_int (n : Int) : IsLine (toString n) := by
  have hdigits : OneLine (Nat.toDigits 10 n.natAbs) := by
    refine oneLine_of_forall fun c hc => ?_
    have hdigit := Json.isDigit_of_mem_toDigits hc
    constructor <;> rintro rfl <;> exact absurd hdigit (by decide)
  rw [IsLine, Json.toList_toString_int]
  split
  · exact OneLine.append (by decide) hdigits
  · exact hdigits

@[simp] theorem isLine_toString_nat (n : Nat) : IsLine (toString n) :=
  isLine_toString_int n

end Text

open Text (IsLine)

/-! ### Reports -/

theorem TokenKind.isLine_name (kind : TokenKind) : IsLine kind.name := by
  cases kind <;> decide

theorem TokenKind.isLine_symbol (kind : TokenKind) : IsLine kind.symbol := by
  cases kind <;> decide

theorem Operation.isLine_symbol (op : Operation) : IsLine op.symbol.toString := by
  cases op <;> decide

theorem Action.isLine_name (action : Action) : IsLine action.name := by
  cases action <;> decide

theorem Token.isLine_text {token : Token} {text : String} (h : token.text? = some text) :
    IsLine text := by
  obtain ⟨lexeme, position⟩ := token
  cases lexeme with
  | operand value =>
      rw [← (Text.writeWhole?_eq_some_iff.mp h).2]
      exact Text.isLine_toString_int value
  | operator op =>
      cases h
      exact op.isLine_symbol
  | openBracket | closeBracket | begin | finish =>
      cases h
      exact TokenKind.isLine_symbol _

section

variable {report : Report}

/-- The message of a report on an unexpected token is the message that it is made with. -/
theorem Report.message_unexpectedToken {token : Option Token} {message : String}
    {position : Option Int} {suggestion : Option String}
    (h : unexpectedToken? token message position suggestion = some report) :
    report.message = message := by
  obtain ⟨shown, _, h⟩ := Option.bind_eq_some_iff.mp h
  rw [← eq_of_made? h]

theorem ScanFault.isLine_report {fault : ScanFault} (h : fault.report? = some report) :
    IsLine report.message := by
  cases fault with
  | unknownSymbol symbol position =>
      rw [← Report.eq_of_made? h]
      simp only [Text.isLine_append]
      exact ⟨by decide, Text.isLine_quoted _⟩
  | literalOverflow literal position limit =>
      obtain ⟨bound, _, h⟩ := Option.bind_eq_some_iff.mp h
      rw [← Report.eq_of_made? h]
      exact (by decide : IsLine "Integer literal is too large")

theorem StackFault.isLine_report {fault : StackFault} (h : fault.report? = some report) :
    IsLine report.message := by
  cases fault with
  | noTransition state symbol =>
      cases h
      simp only [Text.isLine_append]
      exact ⟨⟨⟨by decide, state.isLine_name⟩, by decide⟩, symbol.isLine_name⟩
  | inapplicable action token =>
      obtain ⟨shown, _, h⟩ := Option.bind_eq_some_iff.mp h
      cases h
      simp only [Text.isLine_append]
      exact ⟨⟨by decide, action.isLine_name⟩, by decide⟩
  | emptyTop | emptyPop => cases h

theorem ConversionFault.isLine_report {fault : ConversionFault} (h : fault.report? = some report) :
    IsLine report.message := by
  cases fault with
  | noBegin first =>
      obtain ⟨shown, _, h⟩ := Option.bind_eq_some_iff.mp h
      cases h
      exact (by decide : IsLine "Token stream does not start with BEGIN")
  | noFinish =>
      cases h
      decide
  | unexpected token =>
      simp only [report?] at h
      split at h
      · rw [Report.message_unexpectedToken h]
        decide
      · rw [Report.message_unexpectedToken h]
        decide
  | stack fault => exact fault.isLine_report h

theorem EvaluationFault.isLine_report {fault : EvaluationFault} (h : fault.report? = some report) :
    IsLine report.message := by
  cases fault with
  | misplaced token =>
      obtain ⟨shown, _, h⟩ := Option.bind_eq_some_iff.mp h
      rw [← Report.eq_of_made? h]
      simp only [Text.isLine_append]
      exact ⟨⟨by decide, token.kind.isLine_name⟩, by decide⟩
  | underflow token available =>
      obtain ⟨operator, hoperator, h⟩ := Option.bind_eq_some_iff.mp h
      obtain ⟨count, _, h⟩ := Option.bind_eq_some_iff.mp h
      rw [← Report.eq_of_made? h]
      simp only [Text.isLine_append]
      exact ⟨by decide, token.isLine_text hoperator⟩
  | divisionByZero position dividend =>
      obtain ⟨shown, _, h⟩ := Option.bind_eq_some_iff.mp h
      rw [← Report.eq_of_made? h]
      exact (by decide : IsLine "Division by zero")
  | noValue =>
      cases h
      decide
  | unjoined count =>
      obtain ⟨shown, _, h⟩ := Option.bind_eq_some_iff.mp h
      cases h
      exact (by decide : IsLine "Expression has values that are not joined by operators")

/-- The message of a report on an expression stays on one line, whatever the expression is. -/
theorem Failure.isLine_report {failure : Failure} (h : failure.report? = some report) :
    IsLine report.message := by
  cases failure with
  | scan fault => exact fault.isLine_report h
  | conversion fault => exact fault.isLine_report h
  | evaluation fault => exact fault.isLine_report h
  | unwritable => cases h

end

/-! ### Faults of files -/

theorem Files.isLine_message (fault : Files.Fault) (path : String) :
    IsLine (fault.message path) := by
  unfold Files.Fault.message
  cases hcode : fault.code? with
  | none => exact (by decide : IsLine "embedded null byte")
  | some named =>
      obtain ⟨code, words⟩ := named
      have hwords : IsLine words := by
        cases fault <;> cases hcode <;> decide
      simp only [Text.isLine_append]
      exact ⟨⟨⟨⟨⟨by decide, Text.isLine_toString_nat code⟩, by decide⟩, hwords⟩, by decide⟩,
        Text.isLine_quoted path⟩

theorem Text.Utf8.isLine_message (fault : Text.Utf8.Fault) : IsLine fault.message := by
  have hreason : IsLine fault.reason.text := by
    cases fault.reason <;> decide
  have hbyte : IsLine (String.ofList (hex 2 fault.lead.toNat)) := by
    rw [IsLine, String.toList_ofList]
    exact oneLine_hex 2 _
  unfold Fault.message
  simp only
  by_cases hone : fault.stop = fault.start + 1
  · have hplace : IsLine
        s!"byte 0x{String.ofList (hex 2 fault.lead.toNat)} in position {fault.start}" := by
      simp only [isLine_append]
      exact ⟨⟨⟨by decide, hbyte⟩, by decide⟩, isLine_toString_nat fault.start⟩
    rw [if_pos hone]
    simp only [isLine_append]
    exact ⟨⟨⟨by decide, hplace⟩, by decide⟩, hreason⟩
  · have hplace : IsLine s!"bytes in position {fault.start}-{fault.stop - 1}" := by
      simp only [isLine_append]
      exact ⟨⟨⟨by decide, isLine_toString_nat fault.start⟩, by decide⟩,
        isLine_toString_nat (fault.stop - 1)⟩
    rw [if_neg hone]
    simp only [isLine_append]
    exact ⟨⟨⟨by decide, hplace⟩, by decide⟩, hreason⟩

end Abacus
