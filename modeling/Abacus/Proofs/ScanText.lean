/-
Module: Abacus.Proofs.ScanText
Purpose: The scan of joined texts. The closing sentinel ends what is scanned and stands nowhere
  else; a text that starts with no digit is scanned by itself, whatever stands before it; and where
  a text stands changes nothing of its tokens but their positions.
Main exports: scan_frame, scan_append, Token.bare, bareScan, bareScan_append, bareScan_bracketed
-/
import Abacus.Proofs.ShuntingYard
import Abacus.Proofs.WrittenReports

namespace Abacus

/-! ### What a scan gives -/

/-- The symbols of the brackets and operations stand for no sentinel. -/
theorem Lexeme.isInner_of_ofSymbol? {c : Char} {lexeme : Lexeme}
    (h : Lexeme.ofSymbol? c = some lexeme) (position : Int) :
    (⟨lexeme, position⟩ : Token).IsInner := by
  unfold Lexeme.ofSymbol? at h
  split at h
  · cases h
    simp [Token.IsInner]
  · cases h
    simp [Token.IsInner]
  · obtain ⟨op, _, rfl⟩ := Option.map_eq_some_iff.mp h
    simp [Token.IsInner]

/-- Where a scan gives tokens, so does the scan of what is left behind the first of them. -/
theorem later_of_map_cons {fault : Type} {first : Token} {scanned : Except fault (List Token)}
    {tokens : List Token} (h : (first :: ·) <$> scanned = .ok tokens) :
    ∃ later : List Token, scanned = .ok later ∧ tokens = first :: later := by
  cases scanned with
  | error fault => cases h
  | ok later =>
      cases h
      exact ⟨later, rfl, rfl⟩

/-- What is made of a result has the faults that the result has. -/
theorem map_eq_error_iff {fault value made : Type} {f : value → made}
    {result : Except fault value} {reported : fault} :
    f <$> result = .error reported ↔ result = .error reported := by
  cases result with
  | error other => simp [Functor.map, Except.map]
  | ok found => simp [Functor.map, Except.map]

/-- Behind a run of digits, what is left ends where the text ends. -/
theorem end_of_digits (position : Nat) (c : Char) (rest : List Char) :
    position + (c :: rest.takeWhile Text.isDigit).length + (rest.dropWhile Text.isDigit).length =
      position + (c :: rest).length := by
  have hlength : (rest.takeWhile Text.isDigit ++ rest.dropWhile Text.isDigit).length =
      rest.length := by
    rw [List.takeWhile_append_dropWhile]
  simp only [List.length_append, List.length_cons] at hlength ⊢
  omega

/-- The tokens of a text end with the closing sentinel behind its last character, and no sentinel
    stands before that. -/
theorem scan_frame {maxLiteral : Int} {position : Nat} {text : List Char} {tokens : List Token}
    (h : scan maxLiteral position text = .ok tokens) :
    ∃ body : List Token, tokens = body ++ [⟨.finish, (position + text.length : Nat)⟩] ∧
      ∀ token ∈ body, token.IsInner := by
  fun_induction scan maxLiteral position text generalizing tokens with
  | case1 position =>
      cases h
      exact ⟨[], rfl, by simp⟩
  | case2 => cases h
  | case3 position c rest hdigit digits value hbound =>
      rename_i ih
      obtain ⟨later, hlater, rfl⟩ := later_of_map_cons h
      obtain ⟨body, rfl, hinner⟩ := ih hlater
      refine ⟨⟨.operand value, position⟩ :: body, ?_, ?_⟩
      · rw [← end_of_digits position c rest]
        rfl
      · simpa [Token.IsInner] using hinner
  | case4 position c rest hdigit hblank ih =>
      obtain ⟨body, rfl, hinner⟩ := ih h
      refine ⟨body, ?_, hinner⟩
      rw [List.length_cons, ← Nat.add_assoc, Nat.add_right_comm]
  | case5 position c rest hdigit hblank lexeme hlexeme ih =>
      obtain ⟨later, hlater, rfl⟩ := later_of_map_cons h
      obtain ⟨body, rfl, hinner⟩ := ih hlater
      refine ⟨⟨lexeme, position⟩ :: body, ?_, ?_⟩
      · rw [List.length_cons, ← Nat.add_assoc, Nat.add_right_comm]
        rfl
      · exact List.forall_mem_cons.mpr ⟨Lexeme.isInner_of_ofSymbol? hlexeme position, hinner⟩
  | case6 => cases h

section

variable {maxLiteral : Int} {digits : List Char}

/-- A literal by itself is one token, or it is refused by the bound. -/
theorem scan_digits (hnonempty : digits ≠ []) (hdigits : ∀ c ∈ digits, Text.isDigit c = true)
    (position : Nat) :
    scan maxLiteral position digits =
      if maxLiteral < digitsValue digits then
        .error (.literalOverflow (String.ofList digits) position maxLiteral)
      else
        .ok [⟨.operand (digitsValue digits), position⟩,
          ⟨.finish, (position + digits.length : Nat)⟩] := by
  obtain ⟨c, rest, rfl⟩ := List.exists_cons_of_ne_nil hnonempty
  obtain ⟨hc, hrest⟩ := List.forall_mem_cons.mp hdigits
  have hrun : rest.takeWhile Text.isDigit = rest := by
    have happend : (rest ++ []).takeWhile Text.isDigit = rest ++ [].takeWhile Text.isDigit :=
      List.takeWhile_append_of_pos hrest
    simpa using happend
  have hend : rest.dropWhile Text.isDigit = [] := by
    have happend : (rest ++ []).dropWhile Text.isDigit = [].dropWhile Text.isDigit :=
      List.dropWhile_append_of_pos hrest
    simpa using happend
  rw [scan.eq_def]
  simp only [if_pos hc, hrun, hend, scan.eq_1]
  rfl

theorem scan_literal (hnonempty : digits ≠ []) (hdigits : ∀ c ∈ digits, Text.isDigit c = true)
    (hbound : (digitsValue digits : Int) ≤ maxLiteral) (position : Nat) :
    scan maxLiteral position digits = .ok [⟨.operand (digitsValue digits), position⟩,
      ⟨.finish, (position + digits.length : Nat)⟩] := by
  rw [scan_digits hnonempty hdigits, if_neg (Int.not_lt.mpr hbound)]

/-- A one with zeros behind it is a literal. -/
theorem isDigit_one_zeros (count : Nat) :
    ∀ c ∈ '1' :: List.replicate count '0', Text.isDigit c = true := by
  refine List.forall_mem_cons.mpr ⟨rfl, fun c hc => ?_⟩
  rw [List.eq_of_mem_replicate hc]
  rfl

/-- The number that a one with zeros behind it stands for. -/
theorem digitsValue_one_zeros (count : Nat) :
    (digitsValue ('1' :: List.replicate count '0') : Int) = 10 ^ count := by
  have hvalue : digitsValue ('1' :: List.replicate count '0') = 10 ^ count := by
    rw [digitsValue_eq, ← List.singleton_append, Nat.ofDigitChars_append,
      Nat.ofDigitChars_replicate_zero]
    exact Nat.mul_one _
  rw [hvalue]
  exact Int.natCast_pow 10 count

end

/-! ### Joined texts -/

/-- A scan behind its first token, put behind that token again. -/
theorem append_of_map_cons {maxLiteral : Int} {position : Nat} {text : List Char} (first : Token)
    (next : Except ScanFault (List Token)) :
    (first :: ·) <$> (match scan maxLiteral position text with
      | .ok tokens => (tokens.dropLast ++ ·) <$> next
      | .error fault => .error fault) =
    match (first :: ·) <$> scan maxLiteral position text with
    | .ok tokens => (tokens.dropLast ++ ·) <$> next
    | .error fault => .error fault := by
  cases hscan : scan maxLiteral position text with
  | error fault => rfl
  | ok tokens =>
      obtain ⟨body, rfl, _⟩ := scan_frame hscan
      cases next with
      | error fault => rfl
      | ok later => simp [Functor.map, Except.map, List.dropLast_cons_of_ne_nil]

/-- A text that starts with no digit is scanned by itself, behind what stands before it. -/
theorem scan_append {maxLiteral : Int} (position : Nat) (text : List Char) {next : List Char}
    (hnext : Settled Text.isDigit next) :
    scan maxLiteral position (text ++ next) =
      match scan maxLiteral position text with
      | .ok tokens => (tokens.dropLast ++ ·) <$> scan maxLiteral (position + text.length) next
      | .error fault => .error fault := by
  fun_induction scan maxLiteral position text with
  | case1 position => exact (id_map' (scan maxLiteral position next)).symm
  | case2 position c rest hdigit digits value hbound =>
      rw [List.cons_append, scan, takeWhile_append_settled rest hnext, if_pos hdigit, if_pos hbound]
  | case3 position c rest hdigit digits value hbound =>
      rename_i ih
      rw [List.cons_append, scan, takeWhile_append_settled rest hnext,
        dropWhile_append_settled rest hnext, if_pos hdigit, if_neg hbound, ih, end_of_digits]
      exact append_of_map_cons _ _
  | case4 position c rest hdigit hblank ih =>
      rw [List.cons_append, scan, if_neg hdigit, if_pos hblank, ih, List.length_cons,
        Nat.add_right_comm, ← Nat.add_assoc]
  | case5 position c rest hdigit hblank lexeme hlexeme ih =>
      rw [List.cons_append, scan, if_neg hdigit, if_neg hblank, hlexeme, List.length_cons,
        ← Nat.add_assoc, ← Nat.add_right_comm]
      simp only [ih]
      exact append_of_map_cons _ _
  | case6 position c rest hdigit hblank hlexeme =>
      rw [List.cons_append, scan, if_neg hdigit, if_neg hblank, hlexeme]

/-! ### Texts without positions -/

/-- A token without its position. -/
def Token.bare (token : Token) : Token :=
  ⟨token.lexeme, 0⟩

/-- What is left of a scan if positions do not count: the tokens before the closing sentinel, or
    what the report on the fault is to say. -/
def unplaced : Except ScanFault (List Token) → Except Report.Outline (List Token)
  | .ok tokens => .ok (tokens.dropLast.map Token.bare)
  | .error fault => .error fault.outline.unplaced

/-- The tokens of a text by itself, without their positions. -/
def bareScan (maxLiteral : Int) (text : List Char) : Except Report.Outline (List Token) :=
  unplaced (scan maxLiteral 0 text)

theorem unplaced_map_cons {maxLiteral : Int} {position : Nat} {text : List Char} (first : Token) :
    unplaced ((first :: ·) <$> scan maxLiteral position text) =
      (first.bare :: ·) <$> unplaced (scan maxLiteral position text) := by
  cases hscan : scan maxLiteral position text with
  | error fault => rfl
  | ok tokens =>
      obtain ⟨body, rfl, _⟩ := scan_frame hscan
      simp [unplaced, Functor.map, Except.map, List.dropLast_cons_of_ne_nil]

/-- Where a text stands does not matter if positions do not count. -/
theorem unplaced_scan (maxLiteral : Int) (position : Nat) (text : List Char) :
    unplaced (scan maxLiteral position text) = bareScan maxLiteral text := by
  suffices h : ∀ other : Nat, unplaced (scan maxLiteral position text) =
      unplaced (scan maxLiteral other text) from h 0
  intro other
  fun_induction scan maxLiteral position text generalizing other with
  | case1 position =>
      rw [scan]
      rfl
  | case2 position c rest hdigit digits value hbound =>
      rw [scan, if_pos hdigit, if_pos hbound]
      rfl
  | case3 position c rest hdigit digits value hbound =>
      rename_i ih
      rw [scan, if_pos hdigit, if_neg hbound, unplaced_map_cons, unplaced_map_cons, ih]
      rfl
  | case4 position c rest hdigit hblank ih =>
      rw [scan, if_neg hdigit, if_pos hblank]
      exact ih (other + 1)
  | case5 position c rest hdigit hblank lexeme hlexeme ih =>
      rw [scan, if_neg hdigit, if_neg hblank, hlexeme, unplaced_map_cons, unplaced_map_cons, ih]
      rfl
  | case6 position c rest hdigit hblank hlexeme =>
      rw [scan, if_neg hdigit, if_neg hblank, hlexeme]
      rfl

/-- A text that starts with no digit is read by itself, whatever stands before it. -/
theorem bareScan_append (maxLiteral : Int) (text : List Char) {next : List Char}
    (hnext : Settled Text.isDigit next) :
    bareScan maxLiteral (text ++ next) = do
      let earlier ← bareScan maxLiteral text
      let later ← bareScan maxLiteral next
      return earlier ++ later := by
  rw [← unplaced_scan maxLiteral text.length next, bareScan, bareScan, scan_append 0 text hnext,
    Nat.zero_add]
  cases hscan : scan maxLiteral 0 text with
  | error fault => rfl
  | ok tokens =>
      cases hlater : scan maxLiteral text.length next with
      | error fault => rfl
      | ok later =>
          obtain ⟨body, rfl, _⟩ := scan_frame hlater
          simp [unplaced, Functor.map, Except.map, bind, Except.bind, pure, Except.pure,
            ← List.append_assoc]

/-- A symbol is a token by itself. -/
theorem bareScan_symbol (maxLiteral : Int) {c : Char} {lexeme : Lexeme} (text : List Char)
    (hdigit : Text.isDigit c = false) (hblank : Text.isBlank c = false)
    (hlexeme : Lexeme.ofSymbol? c = some lexeme) :
    bareScan maxLiteral (c :: text) = do
      let later ← bareScan maxLiteral text
      return ⟨lexeme, 0⟩ :: later := by
  rw [bareScan, scan]
  simp only [hdigit, hblank, hlexeme, Bool.false_eq_true, if_false]
  rw [unplaced_map_cons, unplaced_scan]
  rfl

/-- Brackets part what stands between them from what stands around them. -/
theorem bareScan_bracketed {maxLiteral : Int} {text : List Char} {inner : List Token}
    (h : bareScan maxLiteral text = .ok inner) (before after : List Char) :
    bareScan maxLiteral (before ++ '(' :: (text ++ ')' :: after)) = do
      let earlier ← bareScan maxLiteral before
      let later ← bareScan maxLiteral after
      return earlier ++ ⟨.openBracket, 0⟩ :: (inner ++ ⟨.closeBracket, 0⟩ :: later) := by
  rw [bareScan_append maxLiteral before (by simp [Text.isDigit]),
    bareScan_symbol maxLiteral _ (by decide) (by decide) rfl,
    bareScan_append maxLiteral text (by simp [Text.isDigit]), h,
    bareScan_symbol maxLiteral _ (by decide) (by decide) rfl]
  cases bareScan maxLiteral before with
  | error outline => rfl
  | ok earlier =>
      cases bareScan maxLiteral after with
      | error outline => rfl
      | ok later => rfl

end Abacus
