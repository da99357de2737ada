/-
Module: Abacus.Proofs.ReportedPlaces
Purpose: Every place that a report names is a place of the text that the report is about. The scan
  gives each token the place of its first character, the later stages hand tokens on as they are,
  and the brackets that the conversion counts are those of the text. So what stands in the text at
  the place of a report is what the report says, though the conversion has moved the operators by
  the time they fail.
Main exports: Balanced, balanced_iff, BracketPair, Outline.PointsAt, standsIn_of_scan,
  Calculator.evaluate_points
-/
import Abacus.Proofs.InfixMeaning
import Abacus.Proofs.PostfixOutcome
import Abacus.Proofs.Renderings

namespace Abacus

open Report (Outline)

/-! ### What a report points at -/

/-- The texts in which every bracket has its partner. -/
inductive Balanced : List Char → Prop where
  | nil : Balanced []
  | other {c : Char} {rest : List Char} (hopen : c ≠ '(') (hclose : c ≠ ')') :
      Balanced rest → Balanced (c :: rest)
  | bracketed {inner rest : List Char} :
      Balanced inner → Balanced rest → Balanced ('(' :: (inner ++ ')' :: rest))

/-- The brackets at two places of a text are partners: what stands between them is balanced. -/
def BracketPair (text : List Char) (opening closing : Nat) : Prop :=
  ∃ before inner after : List Char, text = before ++ '(' :: (inner ++ ')' :: after) ∧
    Balanced inner ∧ opening = before.length ∧ closing = (before ++ '(' :: inner).length

/-- At a place of a text stands what a report on the text is to be about. What is made of it names
    the operator that wants operands. -/
def Report.Outline.PointsAt (outline : Outline) (made : Option Report) (maxLiteral : Int)
    (text : List Char) (place : Nat) : Prop :=
  match outline.kind with
  | .unknownSymbol =>
      ∃ c : Char, text[place]? = some c ∧ outline.subject = some (.symbol c)
  | .literalOverflow =>
      ∃ before digits after : List Char, text = before ++ (digits ++ after) ∧
        before.length = place ∧ DigitRun before digits after ∧
        outline.subject = some (.literal (String.ofList digits) (some maxLiteral)) ∧
        maxLiteral < Nat.ofDigitChars 10 digits 0
  | .unexpectedToken =>
      (text[place]? = some ')' ∧ ∀ opening : Nat, ¬ BracketPair text opening place) ∨
      (place = text.length ∧ ∃ opening : Nat, text[opening]? = some '(' ∧
        ∀ closing : Nat, ¬ BracketPair text opening closing)
  | .stackUnderflow =>
      ∃ op : Operation, text[place]? = some op.symbol ∧ ∀ report : Report, made = some report →
        report.message = "Not enough operands for operator " ++ op.symbol.toString
  | .divisionByZero => text[place]? = some '/'
  | _ => False

/-- A report is to name a place of a text, and there stands what it is about. -/
def Report.Outline.Placed (outline : Outline) (made : Option Report) (maxLiteral : Int)
    (text : List Char) : Prop :=
  ∃ place : Nat, outline.place = some (place : Int) ∧ place ≤ text.length ∧
    outline.PointsAt made maxLiteral text place

/-! ### Counting brackets -/

/-- The number of open brackets behind a character, from the number before it; none for a closing
    bracket without a partner. -/
def bracketAfter? (depth : Nat) (c : Char) : Option Nat :=
  match c, depth with
  | '(', depth => some (depth + 1)
  | ')', 0 => none
  | ')', depth + 1 => some depth
  | _, depth => some depth

/-- The number of open brackets behind a text. -/
def openBehind? (depth : Nat) (text : List Char) : Option Nat :=
  text.foldlM bracketAfter? depth

theorem openBehind?_append (depth : Nat) (text next : List Char) :
    openBehind? depth (text ++ next) = (openBehind? depth text).bind (openBehind? · next) :=
  List.foldlM_append

theorem openBehind?_cons (depth : Nat) (c : Char) (rest : List Char) :
    openBehind? depth (c :: rest) = (bracketAfter? depth c).bind (openBehind? · rest) :=
  List.foldlM_cons

theorem bracketAfter?_other {c : Char} (hopen : c ≠ '(') (hclose : c ≠ ')') (depth : Nat) :
    bracketAfter? depth c = some depth := by
  unfold bracketAfter?
  split <;> simp_all

/-- A balanced text leaves as many brackets open as it finds. -/
theorem Balanced.openBehind?_append {inner : List Char} (h : Balanced inner) (depth : Nat)
    (next : List Char) : openBehind? depth (inner ++ next) = openBehind? depth next := by
  induction h generalizing depth next with
  | nil => rfl
  | other hopen hclose _ ih =>
      rw [List.cons_append, openBehind?_cons, bracketAfter?_other hopen hclose]
      exact ih depth next
  | bracketed _ _ ihInner ihRest =>
      rw [List.cons_append, List.append_assoc]
      exact (ihInner (depth + 1) _).trans (ihRest depth next)

/-- Balanced texts with closing brackets between them, as many as are open before the texts. -/
def Closes : Nat → List Char → Prop
  | 0, text => Balanced text
  | depth + 1, text =>
      ∃ inner rest : List Char, text = inner ++ ')' :: rest ∧ Balanced inner ∧ Closes depth rest

/-- A text behind which no bracket is open closes those that are open before it. -/
theorem closes_of_openBehind? {depth : Nat} {text : List Char}
    (h : openBehind? depth text = some 0) : Closes depth text := by
  induction text generalizing depth with
  | nil =>
      cases h
      exact .nil
  | cons c rest ih =>
      rw [openBehind?_cons] at h
      obtain ⟨next, hnext, hrest⟩ := Option.bind_eq_some_iff.mp h
      have hcloses := ih hrest
      by_cases hopen : c = '('
      · subst hopen
        obtain rfl : depth + 1 = next := Option.some.inj hnext
        obtain ⟨inner, rest, rfl, hinner, hlater⟩ := hcloses
        cases depth with
        | zero => exact hinner.bracketed hlater
        | succ depth =>
            obtain ⟨between, rest, rfl, hbetween, hlast⟩ := hlater
            exact ⟨_, rest, by simp, hinner.bracketed hbetween, hlast⟩
      · by_cases hclose : c = ')'
        · subst hclose
          cases depth with
          | zero => cases hnext
          | succ depth =>
              obtain rfl : depth = next := Option.some.inj hnext
              exact ⟨[], rest, rfl, .nil, hcloses⟩
        · rw [bracketAfter?_other hopen hclose] at hnext
          obtain rfl : depth = next := Option.some.inj hnext
          cases depth with
          | zero => exact .other hopen hclose hcloses
          | succ depth =>
              obtain ⟨inner, rest, rfl, hinner, hlater⟩ := hcloses
              exact ⟨c :: inner, rest, rfl, .other hopen hclose hinner, hlater⟩

/-- Counting tells the balanced texts from the others. -/
theorem balanced_iff (text : List Char) : Balanced text ↔ openBehind? 0 text = some 0 := by
  constructor
  · intro h
    have hcount := h.openBehind?_append 0 []
    rwa [List.append_nil] at hcount
  · exact closes_of_openBehind?

instance (text : List Char) : Decidable (Balanced text) :=
  decidable_of_iff _ (balanced_iff text).symm

example : Balanced ['(', '1', ')', '-', '(', '(', ')', ')'] ∧ ¬ Balanced [')', '('] := by
  decide

/-- A closing bracket has no partner if no bracket is open before it. -/
theorem not_bracketPair_closing {before : List Char} (h : openBehind? 0 before = some 0)
    (after : List Char) (opening : Nat) :
    ¬ BracketPair (before ++ ')' :: after) opening before.length := by
  rintro ⟨front, inner, back, htext, hbalanced, _, hlength⟩
  have hsplit : before ++ ')' :: after = (front ++ '(' :: inner) ++ ')' :: back := by
    simpa using htext
  obtain ⟨rfl, _⟩ := List.append_inj hsplit hlength
  rw [openBehind?_append] at h
  obtain ⟨depth, _, hinner⟩ := Option.bind_eq_some_iff.mp h
  have hopen : openBehind? (depth + 1) (inner ++ []) = some 0 := by
    rw [List.append_nil]
    exact hinner
  rw [hbalanced.openBehind?_append] at hopen
  cases hopen

/-- An opening bracket has no partner if what follows closes no bracket but its own. -/
theorem not_bracketPair_opening {after : List Char} {depth : Nat}
    (h : openBehind? 0 after = some depth) (before : List Char) (closing : Nat) :
    ¬ BracketPair (before ++ '(' :: after) before.length closing := by
  rintro ⟨front, inner, back, htext, hbalanced, hlength, _⟩
  obtain ⟨rfl, hafter⟩ := List.append_inj htext hlength
  obtain rfl := (List.cons.inj hafter).2
  rw [hbalanced.openBehind?_append] at h
  cases h

/-- The outermost bracket that a text leaves open, with the number of those that are open behind
    it; if none is open, there is no such bracket. -/
def Outermost (text : List Char) : Nat → Prop
  | 0 => True
  | depth + 1 =>
      ∃ before after : List Char, text = before ++ '(' :: after ∧ openBehind? 0 after = some depth

/-- Where no bracket was open, only an opening bracket leaves one open. -/
theorem eq_of_bracketAfter?_zero {c : Char} {next : Nat}
    (h : bracketAfter? 0 c = some (next + 1)) : c = '(' ∧ next = 0 := by
  unfold bracketAfter? at h
  split at h <;> simp_all

/-- What a character does to the open brackets does not depend on those that stay open. -/
theorem bracketAfter?_of_succ {c : Char} {depth next : Nat}
    (h : bracketAfter? (depth + 1) c = some (next + 1)) : bracketAfter? depth c = some next := by
  by_cases hopen : c = '('
  · subst hopen
    simpa [bracketAfter?] using h
  · by_cases hclose : c = ')'
    · subst hclose
      obtain rfl : depth = next + 1 := by
        simpa [bracketAfter?] using h
      rfl
    · rw [bracketAfter?_other hopen hclose] at h ⊢
      simpa using h

/-- The outermost open bracket stays the outermost one until it is closed. -/
theorem Outermost.concat {text : List Char} {depth next : Nat} {c : Char} (h : Outermost text depth)
    (hnext : bracketAfter? depth c = some next) : Outermost (text ++ [c]) next := by
  cases next with
  | zero => trivial
  | succ next =>
      cases depth with
      | zero =>
          obtain ⟨rfl, rfl⟩ := eq_of_bracketAfter?_zero hnext
          exact ⟨text, [], rfl, rfl⟩
      | succ depth =>
          obtain ⟨before, after, rfl, hafter⟩ := h
          refine ⟨before, after ++ [c], by simp, ?_⟩
          rw [openBehind?_append, hafter]
          exact congrArg (·.bind pure) (bracketAfter?_of_succ hnext)

/-- A text has an outermost open bracket if a bracket is open behind it. -/
theorem outermost_of_openBehind? {seen text : List Char} {depth last : Nat}
    (hseen : Outermost seen depth) (h : openBehind? depth text = some last) :
    Outermost (seen ++ text) last := by
  induction text generalizing seen depth with
  | nil =>
      cases h
      rwa [List.append_nil]
  | cons c rest ih =>
      rw [openBehind?_cons] at h
      obtain ⟨next, hnext, hrest⟩ := Option.bind_eq_some_iff.mp h
      rw [List.append_cons]
      exact ih (hseen.concat hnext) hrest

/-- A text that leaves a bracket open has an opening bracket without a partner. -/
theorem exists_unclosed {text : List Char} {depth : Nat}
    (h : openBehind? 0 text = some (depth + 1)) :
    ∃ opening : Nat, text[opening]? = some '(' ∧
      ∀ closing : Nat, ¬ BracketPair text opening closing := by
  have hnone : Outermost [] 0 := trivial
  obtain ⟨before, after, htext, hafter⟩ := outermost_of_openBehind? hnone h
  obtain rfl : text = before ++ '(' :: after := htext
  exact ⟨before.length, by simp, not_bracketPair_opening hafter before⟩

/-! ### Where tokens stand -/

/-- A token that follows others stands at its place in a text: there it is spelled, or there the
    text ends, and as many brackets are open before it as the other tokens leave open. -/
def StandsIn (text : List Char) (start : Nat) (earlier : List Token) (token : Token) : Prop :=
  ∃ before after : List Char, text = before ++ after ∧
    token.position = (start + before.length : Nat) ∧
    (∀ depth : Nat, openBehind? depth before = openAfter? depth earlier) ∧
    ((token.lexeme = .finish ∧ after = []) ∨
      ∃ spelling rest : List Char, Spells spelling token.lexeme ∧ after = spelling ++ rest)

/-- Characters of a class without brackets open and close none. -/
theorem openBehind?_of_all {test : Char → Bool} (hopen : test '(' = false)
    (hclose : test ')' = false) {text : List Char} (hall : ∀ c ∈ text, test c = true)
    (depth : Nat) : openBehind? depth text = some depth := by
  induction text with
  | nil => rfl
  | cons c rest ih =>
      obtain ⟨hc, hrest⟩ := List.forall_mem_cons.mp hall
      have hother : c ≠ '(' ∧ c ≠ ')' := by
        constructor <;> rintro rfl <;> simp_all
      rw [openBehind?_cons, bracketAfter?_other hother.1 hother.2]
      exact ih hrest

/-- The characters of a token open and close the brackets that the token does. -/
theorem Spells.openBehind? {spelling : List Char} {token : Token}
    (h : Spells spelling token.lexeme) (depth : Nat) :
    openBehind? depth spelling = openAfter? depth [token] := by
  obtain ⟨lexeme, position⟩ := token
  cases h with
  | operand _ hdigit => exact openBehind?_of_all rfl rfl hdigit depth
  | operator op => cases op <;> rfl
  | openBracket => rfl
  | closeBracket => cases depth <;> rfl

/-- A symbol is spelled in one way. -/
theorem Spells.unique {spelling other : List Char} {lexeme : Lexeme} (h : Spells spelling lexeme)
    (hkind : lexeme.kind ≠ .operand) (hother : Spells other lexeme) : spelling = other := by
  cases h with
  | operand => exact absurd rfl hkind
  | operator op => cases hother; rfl
  | openBracket => cases hother; rfl
  | closeBracket => cases hother; rfl

/-- A character that is a token by itself spells this token. -/
theorem spells_of_ofSymbol? {c : Char} {lexeme : Lexeme}
    (h : Lexeme.ofSymbol? c = some lexeme) : Spells [c] lexeme := by
  unfold Lexeme.ofSymbol? at h
  split at h
  · cases h
    exact .openBracket
  · cases h
    exact .closeBracket
  · obtain ⟨op, hop, rfl⟩ := Option.map_eq_some_iff.mp h
    unfold Operation.ofSymbol? at hop
    split at hop <;> cases hop
    · exact .operator .add
    · exact .operator .sub
    · exact .operator .mul
    · exact .operator .div

section

variable {start : Nat} {text : List Char} {earlier later : List Token} {first token : Token}

/-- What stands in a text stands as well in the text with more in front of it. -/
theorem StandsIn.append_left (front : List Char) (tokens : List Token)
    (h : StandsIn text (start + front.length) earlier token)
    (hfront : ∀ depth : Nat, openBehind? depth front = openAfter? depth tokens) :
    StandsIn (front ++ text) start (tokens ++ earlier) token := by
  obtain ⟨before, after, rfl, hposition, hdepth, hstands⟩ := h
  refine ⟨front ++ before, after, by simp, ?_, fun depth => ?_, hstands⟩
  · rw [hposition, List.length_append, Nat.add_assoc]
  · rw [openBehind?_append, hfront, openAfter?, openAfter?, List.foldlM_append]
    cases tokens.foldlM (fun depth token => token.depthAfter? depth) depth with
    | none => rfl
    | some next => exact hdepth next

/-- Behind its first token, a scan gives the tokens of what is left. -/
theorem standsIn_of_map_cons {scanned : Except ScanFault (List Token)} (front : List Char)
    (hfirst : Spells front first.lexeme) (hposition : first.position = start)
    (hlater : ∀ {earlier : List Token}, scanned = .ok (earlier ++ token :: later) →
      StandsIn text (start + front.length) earlier token)
    (h : (first :: ·) <$> scanned = .ok (earlier ++ token :: later)) :
    StandsIn (front ++ text) start earlier token := by
  obtain ⟨others, hothers, hsplit⟩ := later_of_map_cons h
  cases earlier with
  | nil =>
      obtain ⟨rfl, _⟩ := List.cons.inj hsplit
      exact ⟨[], front ++ text, rfl, hposition, fun _ => rfl, .inr ⟨front, text, hfirst, rfl⟩⟩
  | cons other earlier =>
      obtain ⟨rfl, rfl⟩ := List.cons.inj hsplit
      exact (hlater hothers).append_left front [other] hfirst.openBehind?

end

/-- Each token of a scan stands at its place in the text. -/
theorem standsIn_of_scan {maxLiteral : Int} {start : Nat} {text : List Char}
    {earlier later : List Token} {token : Token}
    (h : scan maxLiteral start text = .ok (earlier ++ token :: later)) :
    StandsIn text start earlier token := by
  fun_induction scan maxLiteral start text generalizing earlier with
  | case1 start =>
      cases earlier with
      | nil =>
          cases h
          exact ⟨[], [], rfl, rfl, fun _ => rfl, .inl ⟨rfl, rfl⟩⟩
      | cons first earlier => simp at h
  | case2 => cases h
  | case3 start c rest hdigit digits value hbound =>
      rename_i ih
      have hall : ∀ digit ∈ digits, Text.isDigit digit = true :=
        List.forall_mem_cons.mpr ⟨hdigit, List.all_eq_true.mp List.all_takeWhile⟩
      have hspells : Spells digits (.operand value) := by
        have hvalue : value = Nat.ofDigitChars 10 digits 0 := digitsValue_eq digits
        rw [hvalue]
        exact .operand (List.cons_ne_nil _ _) hall
      have htext : c :: rest = digits ++ rest.dropWhile Text.isDigit := by
        rw [List.cons_append, List.takeWhile_append_dropWhile]
      rw [htext]
      exact standsIn_of_map_cons digits hspells rfl ih h
  | case4 start c rest hdigit hblank ih =>
      have hgap : ∀ depth : Nat, openBehind? depth [c] = some depth :=
        openBehind?_of_all rfl rfl (by simpa using hblank)
      exact (ih h).append_left [c] [] hgap
  | case5 start c rest hdigit hblank lexeme hlexeme ih =>
      exact standsIn_of_map_cons [c] (spells_of_ofSymbol? hlexeme) rfl ih h
  | case6 => cases h

/-! ### The three stages -/

section

variable {maxLiteral : Int} {text : List Char}

/-- The report on a fault of the scan is placed. -/
theorem placed_of_scan_error {fault : ScanFault} (h : scan maxLiteral 0 text = .error fault) :
    fault.outline.Placed fault.report? maxLiteral text := by
  obtain ⟨hfault, _⟩ := scan_eq_error_iff.mp h
  cases hfault with
  | @unknownSymbol before after c htext =>
      refine ⟨0 + before.length, rfl, by simp [htext], c, ?_, rfl⟩
      simp [htext]
  | @literalOverflow before digits after htext hrun hover =>
      refine ⟨0 + before.length, rfl, by simp [htext], before, digits, after, htext, ?_, hrun, rfl,
        hover⟩
      rw [Nat.zero_add]

variable {earlier : List Token} {position : Int}

/-- A symbol stands where its token does. -/
theorem StandsIn.symbol {lexeme : Lexeme} {c : Char} (hc : Spells [c] lexeme)
    (hkind : lexeme.kind ≠ .operand) (h : StandsIn text 0 earlier ⟨lexeme, position⟩) :
    ∃ before after : List Char, text = before ++ c :: after ∧ position = before.length ∧
      ∀ depth : Nat, openBehind? depth before = openAfter? depth earlier := by
  obtain ⟨before, after, rfl, hposition, hdepth, hstands⟩ := h
  rw [Nat.zero_add] at hposition
  rcases hstands with ⟨rfl, _⟩ | ⟨spelling, rest, hspells, rfl⟩
  · cases hc
  · obtain rfl : spelling = [c] := hspells.unique hkind hc
    exact ⟨before, rest, rfl, hposition, hdepth⟩

/-- The report on an unexpected token is placed. -/
theorem placed_of_shuntingYard_error {body : List Token} {finish : Int} {culprit : Token}
    (hscan : scan maxLiteral 0 text = .ok (body ++ [⟨.finish, finish⟩]))
    (hinner : ∀ token ∈ body, token.IsInner)
    (h : shuntingYard body ⟨.finish, finish⟩ = .error culprit) :
    ∃ outline : Outline, (ConversionFault.unexpected culprit).outline? = some outline ∧
      outline.Placed (ConversionFault.unexpected culprit).report? maxLiteral text := by
  obtain ⟨lexeme, position⟩ := culprit
  rcases culprit_of_shuntingYard hinner h with
    ⟨earlier, later, rfl, hclose, hzero⟩ | ⟨hfinish, depth, hdepth⟩
  · obtain rfl : lexeme = .closeBracket := hclose
    rw [List.append_assoc] at hscan
    obtain ⟨before, after, rfl, rfl, hopen⟩ :=
      (standsIn_of_scan hscan).symbol .closeBracket (by decide)
    rw [← hopen] at hzero
    refine ⟨_, rfl, before.length, rfl, by simp, .inl ⟨by simp, ?_⟩⟩
    exact not_bracketPair_closing hzero after
  · cases hfinish
    obtain ⟨before, after, rfl, hposition, hopen, hstands⟩ := standsIn_of_scan hscan
    rw [Nat.zero_add] at hposition
    rcases hstands with ⟨_, rfl⟩ | ⟨spelling, rest, hspells, rfl⟩
    · rw [← hopen] at hdepth
      rw [List.append_nil]
      exact ⟨_, rfl, before.length, congrArg some hposition, Nat.le_refl _,
        .inr ⟨rfl, exists_unclosed hdepth⟩⟩
    · cases hspells

/-- The operators of a postfix order stand in the text where they stood. -/
theorem operator_place {body listing : List Token} {finish : Token} {op : Operation}
    (hscan : scan maxLiteral 0 text = .ok (body ++ [finish]))
    (hyard : shuntingYard body finish = .ok listing)
    (hmem : ⟨.operator op, position⟩ ∈ listing) :
    ∃ place : Nat, position = place ∧ place ≤ text.length ∧ text[place]? = some op.symbol := by
  obtain ⟨hbody, _⟩ := mem_of_shuntingYard hyard hmem
  obtain ⟨earlier, later, rfl⟩ := List.append_of_mem hbody
  rw [List.append_assoc] at hscan
  have hkind : (Lexeme.operator op).kind ≠ .operand := by
    cases op <;> decide
  obtain ⟨before, after, rfl, hposition, _⟩ :=
    (standsIn_of_scan hscan).symbol (.operator op) hkind
  exact ⟨before.length, hposition, by simp, by simp⟩

/-- The report on an operator that finds too few operands names the operator. -/
theorem message_underflow {op : Operation} {available : Nat} {report : Report}
    (h : (EvaluationFault.underflow ⟨.operator op, position⟩ available).report? = some report) :
    report.message = "Not enough operands for operator " ++ op.symbol.toString := by
  obtain ⟨count, _, h⟩ := Option.bind_eq_some_iff.mp h
  rw [← Report.eq_of_made? h]
  rfl

/-- The report on a fault of the evaluation is placed, unless all tokens were put without a
    fault. -/
theorem placed_of_postfixValue_error {body listing : List Token} {finish : Token}
    {fault : EvaluationFault} (hscan : scan maxLiteral 0 text = .ok (body ++ [finish]))
    (hyard : shuntingYard body finish = .ok listing)
    (h : postfixValue listing = .error fault) :
    fault.outline.Placed fault.report? maxLiteral text ∨ fault = .noValue ∨
      ∃ count : Nat, fault = .unjoined count := by
  rcases postfixValue_eq_error_iff.mp h with
    ⟨forest, token, after, _, rfl, hmeets⟩ | ⟨_, rfl⟩ | ⟨forest, _, _, _, rfl⟩
  · refine .inl ?_
    have hmem : token ∈ forestListing forest ++ token :: after := by
      simp
    cases hmeets with
    | misplaced hlisted =>
        rw [(mem_of_shuntingYard hyard hmem).2] at hlisted
        cases hlisted
    | underflow op position hfew =>
        obtain ⟨place, rfl, hle, hplace⟩ := operator_place hscan hyard hmem
        exact ⟨place, rfl, hle, op, hplace, fun report => message_underflow⟩
    | divisionByZero position hzero =>
        obtain ⟨place, rfl, hle, hplace⟩ := operator_place hscan hyard hmem
        exact ⟨place, rfl, hle, hplace⟩
  · exact .inr (.inl rfl)
  · exact .inr (.inr ⟨_, rfl⟩)

end

namespace Calculator

/-- Every place that is reported is the place of the culprit. The report on a failed evaluation
    names a place of the text or its end, and there stands what the report is about: the unknown
    symbol; the whole run of digits whose value is too great; a closing bracket without an opening
    one before it, or the end of a text with an opening bracket that is never closed; the operator
    that wants operands; the division that is by zero. Only where no value is left at the end, or
    several are, no place is to be named. The report is made if the numbers that it shows can be
    written. -/
theorem evaluate_points (calculator : Calculator) (expression : String) (failure : Failure)
    (h : calculator.evaluate expression = .error failure) :
    ∃ outline : Outline, failure.outline? = some outline ∧ outline.Makes failure.report? ∧
      (outline.Placed failure.report? calculator.maxLiteral expression.toList ∨
        outline.place = none ∧ outline.kind = .malformedPostfix ∧
          (failure = .evaluation .noValue ∨
            ∃ count : Nat, failure = .evaluation (.unjoined count))) := by
  have hexact : calculator.evaluateExact expression = .error failure := map_eq_error_iff.mp h
  cases hscan : scan calculator.maxLiteral 0 expression.toList with
  | error fault =>
      rw [evaluateExact_of_tokens_error (tokens_of_scan_error hscan)] at hexact
      cases hexact
      exact ⟨fault.outline, rfl, fault.makes, .inl (placed_of_scan_error hscan)⟩
  | ok scanned =>
      obtain ⟨body, hframe, hinner⟩ := tokens_frame (tokens_of_scan hscan)
      obtain rfl := (List.cons.inj hframe).2
      rw [evaluateExact_of_body hinner (tokens_of_scan hscan)] at hexact
      cases hyard : shuntingYard body ⟨.finish, (expression.length : Nat)⟩ with
      | error culprit =>
          rw [hyard] at hexact
          cases hexact
          obtain ⟨outline, houtline, hplaced⟩ := placed_of_shuntingYard_error hscan hinner hyard
          exact ⟨outline, houtline, ConversionFault.makes houtline, .inl hplaced⟩
      | ok listing =>
          rw [hyard] at hexact
          cases hvalue : postfixValue listing with
          | ok value =>
              simp only [hvalue] at hexact
              cases hexact
          | error fault =>
              simp only [hvalue] at hexact
              cases hexact
              refine ⟨fault.outline, rfl, fault.makes, ?_⟩
              rcases placed_of_postfixValue_error hscan hyard hvalue with
                hplaced | rfl | ⟨count, rfl⟩
              · exact .inl hplaced
              · exact .inr ⟨rfl, rfl, .inl rfl⟩
              · exact .inr ⟨rfl, rfl, .inr ⟨count, rfl⟩⟩

/-- A quotient by a difference that is zero; the division stands behind the brackets that its
    dividend is in. -/
theorem evaluate_points_quotient :
    ∃ failure : Failure, ({} : Calculator).evaluate "(7 - 1) / (2 - 2)" = .error failure ∧
      ∃ outline : Outline, failure.outline? = some outline ∧ outline.Makes failure.report? ∧
        (outline.Placed failure.report? ({} : Calculator).maxLiteral "(7 - 1) / (2 - 2)".toList ∨
          outline.place = none ∧ outline.kind = .malformedPostfix ∧
            (failure = .evaluation .noValue ∨
              ∃ count : Nat, failure = .evaluation (.unjoined count))) := by
  have h : ({} : Calculator).evaluate "(7 - 1) / (2 - 2)" =
      .error (.evaluation (.divisionByZero 8 6)) := by
    decide +kernel
  exact ⟨_, h, evaluate_points {} "(7 - 1) / (2 - 2)" _ h⟩

/-- A failure without a report, and so without a place, that is none of the two at the end of an
    evaluation. -/
theorem evaluate_points_longDividend :
    ∃ failure : Failure,
      ({} : Calculator).evaluate (String.ofList (powerText 229 ++ ['/', '0'])) = .error failure ∧
        failure.report? = none ∧ failure ≠ .evaluation .noValue ∧
          ∀ count : Nat, failure ≠ .evaluation (.unjoined count) :=
  ⟨_, evaluate_power_div_zero 229,
    EvaluationFault.report?_divisionByZero_of_long not_isWritable_power _, nofun, nofun⟩

end Calculator

end Abacus
