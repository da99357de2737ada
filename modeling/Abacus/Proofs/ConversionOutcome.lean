/-
Module: Abacus.Proofs.ConversionOutcome
Purpose: How the conversion of tokens ends, for every list of tokens. A count of open brackets finds
  the token on which it ends, though the automaton never counts: what lies on its stack tells how
  many brackets are open. What comes behind that token is not looked at, and operands and operators
  never decide.
Main exports: Ending, ending, Conversion.run_ending, Conversion.frame_of_run, frame_of_toPostfix,
  toPostfix_outcome
-/
import Abacus.Proofs.BracketDepth
import Abacus.Proofs.WrittenReports

namespace Abacus

open Report (Outline)

/-! ### The token that decides -/

/-- The ways in which tokens behind the opening sentinel end. -/
inductive Ending where
  /-- The opening sentinel comes again. -/
  | reopened
  /-- A closing bracket has no partner. -/
  | unmatched (closing : Token)
  /-- The closing sentinel comes with no bracket open. -/
  | complete
  /-- The closing sentinel comes with a bracket open. -/
  | unclosed (finish : Token)
  /-- There is no token left. -/
  | unfinished
deriving DecidableEq, Repr, Inhabited

/-- How tokens end with a number of brackets open before them, by the first token that decides. -/
def ending : Nat → List Token → Ending
  | _, [] => .unfinished
  | depth, token :: rest =>
      match token.lexeme, depth with
      | .begin, _ => .reopened
      | .openBracket, depth => ending (depth + 1) rest
      | .closeBracket, 0 => .unmatched token
      | .closeBracket, depth + 1 => ending depth rest
      | .finish, 0 => .complete
      | .finish, _ + 1 => .unclosed token
      | .operand _, depth => ending depth rest
      | .operator _, depth => ending depth rest

/-- Between the sentinels, only a closing bracket without a partner decides. -/
theorem ending_cons {token : Token} (hinner : token.IsInner) (depth : Nat) (rest : List Token) :
    ending depth (token :: rest) =
      match token.depthAfter? depth with
      | some next => ending next rest
      | none => .unmatched token := by
  obtain ⟨lexeme, position⟩ := token
  cases lexeme with
  | closeBracket => cases depth <;> rfl
  | begin => exact absurd rfl hinner.1
  | finish => exact absurd rfl hinner.2
  | _ => rfl

/-- Operands and operators never decide. -/
theorem ending_filter (depth : Nat) (tokens : List Token) :
    ending depth (tokens.filter fun token => !token.isListed) = ending depth tokens := by
  induction tokens generalizing depth with
  | nil => rfl
  | cons token rest ih =>
      obtain ⟨lexeme, position⟩ := token
      cases lexeme with
      | operand value => exact ih depth
      | operator op =>
          have hlisted : (!Token.isListed ⟨.operator op, position⟩) = false := by
            simp [Token.isListed]
          rw [List.filter_cons, hlisted]
          exact ih depth
      | openBracket => exact ih (depth + 1)
      | closeBracket =>
          cases depth with
          | zero => rfl
          | succ depth => exact ih depth
      | begin => rfl
      | finish => cases depth <;> rfl

/-! ### Endings and results -/

/-- A conversion fails with a fault whose report is to say what an outline says. It is made if its
    numbers can be written. -/
def FailsWith (result : Except ConversionFault (List Token)) (outline : Outline) : Prop :=
  ∃ fault : ConversionFault, result = .error fault ∧ fault.outline? = some outline ∧
    outline.Makes fault.report?

theorem FailsWith.of_outline {fault : ConversionFault} {outline : Outline}
    (h : fault.outline? = some outline) : FailsWith (.error fault) outline :=
  ⟨fault, rfl, h, ConversionFault.makes h⟩

/-- What the report on a token that may not stand where it stands is to say: it names the place of
    the token and carries the token. -/
def Token.unexpected (token : Token) : Outline :=
  { kind := .unexpectedToken, place := some token.position, subject := some (.token token) }

/-- What the report on a list that does not start with the opening sentinel is to say. It shows the
    first token. -/
def notOpened (first : Option Token) : Outline := {
  kind := .malformedInput
  details := first.elim [] fun token => token.operands ++ [token.position] }

/-- The results that a conversion may have with an ending. -/
def Ending.Allows (result : Except ConversionFault (List Token)) : Ending → Prop
  | .reopened => FailsWith result { kind := .internal }
  | .unmatched token => FailsWith result token.unexpected
  | .complete => ∃ listing : List Token, result = .ok listing
  | .unclosed token => FailsWith result token.unexpected
  | .unfinished => FailsWith result { kind := .malformedInput }

theorem failsWith_noBegin (first : Option Token) :
    FailsWith (.error (.noBegin first)) (notOpened first) :=
  .of_outline (by cases first <;> rfl)

theorem failsWith_noFinish : FailsWith (.error .noFinish) { kind := .malformedInput } :=
  .of_outline rfl

theorem failsWith_noTransition (state symbol : TokenKind) :
    FailsWith (.error (.stack (.noTransition state symbol))) { kind := .internal } :=
  .of_outline rfl

/-- The report on a token without a number shows its place only. -/
theorem failsWith_unexpected {token : Token} (h : token.operands = []) :
    FailsWith (.error (.unexpected token)) token.unexpected :=
  .of_outline (by simp only [ConversionFault.outline?, h, Token.unexpected])

/-- Only tokens that run out make a conversion fail for want of a token. -/
theorem Ending.eq_unfinished_of_allows {found : Ending}
    (h : found.Allows (.error .noFinish)) : found = .unfinished := by
  cases found with
  | unfinished => rfl
  | complete =>
      obtain ⟨listing, hlisting⟩ := h
      cases hlisting
  | reopened | unmatched _ | unclosed _ =>
      obtain ⟨fault, hfault, houtline, _⟩ := h
      cases hfault
      cases houtline

namespace Conversion

variable (start : Int)

/-- The opening sentinel has no place behind itself, whatever lies on the stack. -/
theorem run_reopened (yard : Yard) (position : Int) (rest : List Token) :
    ∃ state : TokenKind, run ⟨yard.over start, ⟨.begin, position⟩ :: rest⟩ =
      .error (.stack (.noTransition state .begin)) := by
  obtain ⟨_ | ⟨top, below⟩, output⟩ := yard
  · exact ⟨.begin, run_begin ⟨.begin, start⟩ position [] output rest⟩
  · have hrun := run_begin top position (below ++ [(⟨.begin, start⟩ : Token)]) output rest
    exact ⟨top.kind, hrun⟩

/-- A token is one of the sentinels or stands between them. -/
theorem sentinel_or_inner (token : Token) :
    token.lexeme = .begin ∨ token.lexeme = .finish ∨ token.IsInner := by
  by_cases hbegin : token.lexeme = .begin
  · exact .inl hbegin
  · by_cases hfinish : token.lexeme = .finish
    · exact .inr (.inl hfinish)
    · exact .inr (.inr ⟨hbegin, hfinish⟩)

/-- The automaton ends as the count of open brackets says. By layering, its stack holds as many open
    brackets as are counted. -/
theorem run_ending {yard : Yard} (layered : Layered yard.operators) (rest : List Token) :
    (ending yard.depth rest).Allows (run ⟨yard.over start, rest⟩) := by
  -- The yard changes with each token; it stays layered, and its depth is the count so far.
  induction rest generalizing yard with
  | nil =>
      rw [run_step]
      exact failsWith_noFinish
  | cons token rest ih =>
      rcases sentinel_or_inner token with hbegin | hfinish | hinner
      · obtain ⟨lexeme, position⟩ := token
        obtain rfl : lexeme = .begin := hbegin
        obtain ⟨state, hrun⟩ := run_reopened start yard position rest
        rw [hrun]
        exact failsWith_noTransition state .begin
      · obtain ⟨lexeme, position⟩ := token
        obtain rfl : lexeme = .finish := hfinish
        have hclose := yard.depth_close ⟨.finish, position⟩
        rw [run_finish start layered]
        cases hdepth : yard.depth with
        | zero =>
            rw [hdepth] at hclose
            obtain ⟨listing, hlisting⟩ := hclose
            rw [hlisting]
            exact ⟨listing, rfl⟩
        | succ depth =>
            rw [hdepth] at hclose
            simp only at hclose
            rw [hclose]
            exact failsWith_unexpected rfl
      · have hdepth := yard.depth_put hinner
        rw [ending_cons hinner, run_put start layered hinner]
        cases hput : yard.put token with
        | ok next =>
            rw [hput] at hdepth
            simp only at hdepth
            rw [hdepth]
            exact ih (layered_put layered hput)
        | error culprit =>
            rw [hput] at hdepth
            obtain ⟨rfl, hnone⟩ := hdepth
            rw [hnone]
            obtain ⟨hclose, _⟩ := closeBracket_of_depthAfter? hnone
            exact failsWith_unexpected (by rw [Token.operands, hclose])

/-- A run that succeeds has taken tokens between the sentinels and has closed the yard. -/
theorem frame_of_run {yard : Yard} (layered : Layered yard.operators) {rest listing : List Token}
    (h : run ⟨yard.over start, rest⟩ = .ok listing) :
    ∃ (body : List Token) (finish : Int) (later : List Token) (last : Yard),
      rest = body ++ ⟨.finish, finish⟩ :: later ∧ yard.putAll body = .ok last ∧
        last.close ⟨.finish, finish⟩ = .ok listing := by
  induction rest generalizing yard with
  | nil =>
      rw [run_step] at h
      cases h
  | cons token rest ih =>
      rcases sentinel_or_inner token with hbegin | hfinish | hinner
      · obtain ⟨lexeme, position⟩ := token
        obtain rfl : lexeme = .begin := hbegin
        obtain ⟨state, hrun⟩ := run_reopened start yard position rest
        rw [hrun] at h
        cases h
      · obtain ⟨lexeme, position⟩ := token
        obtain rfl : lexeme = .finish := hfinish
        rw [run_finish start layered] at h
        refine ⟨[], position, rest, yard, rfl, rfl, ?_⟩
        cases hclose : yard.close ⟨.finish, position⟩ with
        | ok closed =>
            rw [hclose] at h
            cases h
            rfl
        | error culprit =>
            rw [hclose] at h
            cases h
      · rw [run_put start layered hinner] at h
        split at h
        · next next hput =>
            obtain ⟨body, finish, later, last, rfl, hbody, hclose⟩ :=
              ih (layered_put layered hput) h
            refine ⟨token :: body, finish, later, last, rfl, ?_, hclose⟩
            rw [Yard.putAll, hput]
            exact hbody
        · cases h

end Conversion

/-! ### Conversions -/

/-- Only the opening sentinel is of its kind. -/
theorem kind_eq_begin_iff {token : Token} : token.kind = .begin ↔ token.lexeme = .begin := by
  obtain ⟨lexeme, position⟩ := token
  cases lexeme with
  | operator op => cases op <;> simp [Token.kind, Lexeme.kind, Operation.kind]
  | _ => simp [Token.kind, Lexeme.kind]

theorem toPostfix_of_ne_begin {first : Token} (h : first.lexeme ≠ .begin) (rest : List Token) :
    toPostfix (first :: rest) = .error (.noBegin (some first)) := by
  rw [toPostfix, if_neg]
  rwa [kind_eq_begin_iff]

/-- A list with a postfix order starts with tokens between the two sentinels, and their postfix
    order by the shunting yard is that of the list. -/
theorem frame_of_toPostfix {tokens listing : List Token} (h : toPostfix tokens = .ok listing) :
    ∃ (start : Int) (body : List Token) (finish : Int) (later : List Token),
      tokens = ⟨.begin, start⟩ :: (body ++ ⟨.finish, finish⟩ :: later) ∧
        (∀ token ∈ body, token.IsInner) ∧
          shuntingYard body ⟨.finish, finish⟩ = .ok listing := by
  obtain _ | ⟨first, rest⟩ := tokens
  · cases h
  · by_cases hbegin : first.lexeme = .begin
    · obtain ⟨lexeme, start⟩ := first
      obtain rfl : lexeme = .begin := hbegin
      rw [toPostfix_begin] at h
      obtain ⟨body, finish, later, last, rfl, hbody, hclose⟩ := Conversion.frame_of_run start .nil h
      refine ⟨start, body, finish, later, rfl, isInner_of_putAll hbody, ?_⟩
      rw [shuntingYard, hbody]
      exact hclose
    · rw [toPostfix_of_ne_begin hbegin] at h
      cases h

/-- The complete outcome of a conversion, for every list of tokens. A list that does not start with
    the opening sentinel is malformed. Behind the opening sentinel, the first token that decides by
    the count of open brackets settles how the conversion ends, and so does the want of such a
    token. The tokens behind it have no part in the result, and no operand and no operator, in
    whatever arrangement, has a part in how the conversion ends. The report on a failure is made if
    the numbers that it shows can be written: those of a first token that is not the opening
    sentinel, and the place of a token that may not stand where it stands. -/
theorem toPostfix_outcome (tokens : List Token) :
    match tokens with
    | [] => FailsWith (toPostfix []) (notOpened none)
    | first :: rest =>
        if first.lexeme = .begin then
          (ending 0 rest).Allows (toPostfix (first :: rest)) ∧
            (∀ later : List Token, ending 0 rest = .unfinished ∨
              toPostfix (first :: rest ++ later) = toPostfix (first :: rest)) ∧
              ending 0 (rest.filter fun token => !token.isListed) = ending 0 rest
        else FailsWith (toPostfix (first :: rest)) (notOpened (some first)) := by
  obtain _ | ⟨first, rest⟩ := tokens
  · exact failsWith_noBegin none
  · by_cases hbegin : first.lexeme = .begin
    · obtain ⟨lexeme, start⟩ := first
      obtain rfl : lexeme = .begin := hbegin
      have hempty : Layered (⟨[], []⟩ : Yard).operators := .nil
      have hallows : (ending 0 rest).Allows (toPostfix (⟨.begin, start⟩ :: rest)) :=
        Conversion.run_ending start hempty rest
      simp only [if_true]
      refine ⟨hallows, ?_, ending_filter 0 rest⟩
      intro later
      by_cases hwant : toPostfix (⟨.begin, start⟩ :: rest) = .error .noFinish
      · rw [hwant] at hallows
        exact .inl (Ending.eq_unfinished_of_allows hallows)
      · exact .inr (Conversion.run_append ⟨Yard.over ⟨[], []⟩ start, rest⟩ later hwant)
    · simp only [if_neg hbegin]
      rw [toPostfix_of_ne_begin hbegin]
      exact failsWith_noBegin (some first)

/-- There is no report on a list that starts with a number of more digits than are written. -/
theorem report?_noBegin_operand {value : Int} (h : ¬ Text.IsWritable value) (position : Int) :
    (ConversionFault.noBegin (some ⟨.operand value, position⟩)).report? = none := by
  rw [← Option.not_isSome_iff_eq_none, (ConversionFault.makes rfl).isSome_iff]
  exact fun hall => h (hall value List.mem_cons_self)

/-- A list of one number of 5001 digits has no postfix order, and there is no report. -/
theorem toPostfix_longOperand :
    ∃ fault : ConversionFault, toPostfix [⟨.operand (10 ^ 5000), 0⟩] = .error fault ∧
      fault.report? = none := by
  have hlong : ¬ Text.IsWritable (10 ^ 5000) :=
    mt Text.isWritable_ten_pow_iff.mp (by decide)
  exact ⟨_, toPostfix_of_ne_begin Lexeme.noConfusion [], report?_noBegin_operand hlong 0⟩

end Abacus
