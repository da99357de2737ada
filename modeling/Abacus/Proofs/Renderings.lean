/-
Module: Abacus.Proofs.Renderings
Purpose: The scan undoes writing. Tokens may be written in many ways: numbers with leading zeros,
  and any white space around the tokens as long as no two numbers run together. Each of these texts
  has the tokens that were written, each at the place of its first character. So has the postfix
  form of an expression, which is written with one blank between two tokens.
Main exports: Spells, Written, Rendering, scan_writtenText, tokenize_rendering
-/
import Abacus.Proofs.CalculatorStages
import Abacus.Proofs.LexicalFaults
import Abacus.Proofs.TokenConservation

namespace Abacus

/-! ### Written tokens -/

/-- The ways to write a token: a number in digits, with any number of leading zeros, and every
    other token by its symbol. -/
inductive Spells : List Char → Lexeme → Prop where
  | operand {digits : List Char} (hnonempty : digits ≠ [])
      (hdigit : ∀ c ∈ digits, Text.isDigit c = true) :
      Spells digits (.operand (Nat.ofDigitChars 10 digits 0))
  | operator (op : Operation) : Spells [op.symbol] (.operator op)
  | openBracket : Spells ['('] .openBracket
  | closeBracket : Spells [')'] .closeBracket

/-- A token as it is written, with the white space in front of it. -/
structure Written (maxLiteral : Int) where
  gap : List Char
  spelling : List Char
  lexeme : Lexeme
  blank : ∀ c ∈ gap, Text.isBlank c = true
  spells : Spells spelling lexeme
  bounded : ∀ value : Int, lexeme = .operand value → value ≤ maxLiteral

variable {maxLiteral : Int}

/-- The characters of a written token and of the white space in front of it. -/
def Written.text (piece : Written maxLiteral) : List Char :=
  piece.gap ++ piece.spelling

/-- The characters of written tokens. -/
def writtenText (pieces : List (Written maxLiteral)) : List Char :=
  pieces.flatMap Written.text

/-- Two written tokens next to each other do not run together: there is white space between
    numbers. -/
def Written.Apart (first next : Written maxLiteral) : Prop :=
  first.lexeme.kind = .operand → next.lexeme.kind = .operand → next.gap ≠ []

/-- Written tokens that stand next to each other do not run together. -/
def AllApart (pieces : List (Written maxLiteral)) : Prop :=
  ∀ (earlier : List (Written maxLiteral)) (first next : Written maxLiteral)
    (later : List (Written maxLiteral)), pieces = earlier ++ first :: next :: later →
      first.Apart next

/-- A list of tokens as it is written: each token, and the white space at the end. -/
structure Rendering (maxLiteral : Int) where
  pieces : List (Written maxLiteral)
  last : List Char
  lastBlank : ∀ c ∈ last, Text.isBlank c = true
  apart : AllApart pieces

/-- The characters of a rendering. -/
def Rendering.text (rendering : Rendering maxLiteral) : List Char :=
  writtenText rendering.pieces ++ rendering.last

/-- The tokens that are written from a position on. -/
def writtenTokens (position : Nat) : List (Written maxLiteral) → List Token
  | [] => []
  | piece :: pieces =>
      ⟨piece.lexeme, (position + piece.gap.length : Nat)⟩ ::
        writtenTokens (position + piece.text.length) pieces

/-! ### The scan of written tokens -/

/-- The symbols are neither digits nor white space. -/
theorem Spells.symbol {spelling : List Char} {lexeme : Lexeme} (h : Spells spelling lexeme)
    (hkind : lexeme.kind ≠ .operand) :
    ∃ c : Char, spelling = [c] ∧ Text.isDigit c = false ∧ Text.isBlank c = false ∧
      Lexeme.ofSymbol? c = some lexeme := by
  cases h with
  | operand hnonempty hdigit => exact absurd rfl hkind
  | operator op => cases op <;> exact ⟨_, rfl, by decide, by decide, rfl⟩
  | openBracket => exact ⟨_, rfl, by decide, by decide, rfl⟩
  | closeBracket => exact ⟨_, rfl, by decide, by decide, rfl⟩

/-- White space is passed over. -/
theorem scan_gap (maxLiteral : Int) {gap : List Char} (hgap : ∀ c ∈ gap, Text.isBlank c = true)
    (position : Nat) (text : List Char) :
    scan maxLiteral position (gap ++ text) = scan maxLiteral (position + gap.length) text := by
  induction gap generalizing position with
  | nil => rfl
  | cons c gap ih =>
      obtain ⟨hc, hgap⟩ := List.forall_mem_cons.mp hgap
      rw [List.cons_append, scan, if_neg (by simp [Text.isDigit_of_isBlank hc]), if_pos hc, ih hgap,
        List.length_cons, Nat.add_right_comm, ← Nat.add_assoc]

/-- A written token is read, if what follows does not go on with it. -/
theorem scan_written (piece : Written maxLiteral) (position : Nat) {text : List Char}
    (hnext : piece.lexeme.kind = .operand → Settled Text.isDigit text) :
    scan maxLiteral position (piece.spelling ++ text) =
      (⟨piece.lexeme, position⟩ :: ·) <$>
        scan maxLiteral (position + piece.spelling.length) text := by
  obtain ⟨gap, spelling, lexeme, hblank, hspells, hbounded⟩ := piece
  by_cases hkind : lexeme.kind = .operand
  · cases hspells with
    | @operand digits hnonempty hdigit =>
        obtain ⟨c, rest, rfl⟩ := List.exists_cons_of_ne_nil hnonempty
        obtain ⟨hc, hrest⟩ := List.forall_mem_cons.mp hdigit
        have hsettled := hnext hkind
        have hrun : (rest ++ text).takeWhile Text.isDigit = rest := by
          rw [List.takeWhile_append_of_pos hrest]
          have hnone : text.takeWhile Text.isDigit = [] := takeWhile_append_settled [] hsettled
          rw [hnone, List.append_nil]
        have hlater : (rest ++ text).dropWhile Text.isDigit = text := by
          rw [List.dropWhile_append_of_pos hrest]
          exact dropWhile_append_settled [] hsettled
        have hvalue := hbounded _ rfl
        rw [← digitsValue_eq] at hvalue
        rw [List.cons_append, scan, if_pos hc, hrun, hlater, if_neg (by omega), digitsValue_eq]
    | operator op => cases op <;> cases hkind
    | openBracket | closeBracket => cases hkind
  · obtain ⟨c, rfl, hdigit, hblank, hlexeme⟩ := hspells.symbol hkind
    rw [List.singleton_append, scan, if_neg (by simp [hdigit]), if_neg (by simp [hblank]), hlexeme]
    rfl

/-- White space does not go on with a number. -/
theorem settled_of_isBlank {gap : List Char} (hgap : ∀ c ∈ gap, Text.isBlank c = true) :
    Settled Text.isDigit gap := by
  cases gap with
  | nil => exact settled_nil _
  | cons c gap => simpa using Text.isDigit_of_isBlank (hgap c List.mem_cons_self)

/-- What follows a number does not go on with it. -/
theorem AllApart.settled {first : Written maxLiteral} {pieces : List (Written maxLiteral)}
    (hapart : AllApart (first :: pieces)) {last : List Char}
    (hlast : ∀ c ∈ last, Text.isBlank c = true) (hfirst : first.lexeme.kind = .operand) :
    Settled Text.isDigit (writtenText pieces ++ last) := by
  cases pieces with
  | nil => exact settled_of_isBlank hlast
  | cons next pieces =>
      have hgap : next.lexeme.kind = .operand → next.gap ≠ [] :=
        hapart [] first next pieces rfl hfirst
      simp only [writtenText, List.flatMap_cons, Written.text, List.append_assoc]
      refine settled_append (settled_of_isBlank next.blank) fun hnone => ?_
      obtain ⟨c, hspelling, hdigit, _⟩ := next.spells.symbol fun hkind => hgap hkind hnone
      simpa [hspelling] using hdigit

theorem AllApart.tail {first : Written maxLiteral} {pieces : List (Written maxLiteral)}
    (hapart : AllApart (first :: pieces)) : AllApart pieces := by
  rintro earlier one next later rfl
  exact hapart (first :: earlier) one next later rfl

theorem writtenText_cons (first : Written maxLiteral) (pieces : List (Written maxLiteral)) :
    writtenText (first :: pieces) = first.gap ++ (first.spelling ++ writtenText pieces) := by
  simp [writtenText, Written.text]

/-- The scan of written tokens gives these tokens. -/
theorem scan_writtenText {pieces : List (Written maxLiteral)} (hapart : AllApart pieces)
    {last : List Char} (hlast : ∀ c ∈ last, Text.isBlank c = true) (position : Nat) :
    scan maxLiteral position (writtenText pieces ++ last) =
      .ok (writtenTokens position pieces ++
        [⟨.finish, (position + (writtenText pieces ++ last).length : Nat)⟩]) := by
  induction pieces generalizing position with
  | nil =>
      have hscan := scan_gap maxLiteral hlast position []
      rw [List.append_nil, scan] at hscan
      exact hscan
  | cons first pieces ih =>
      have hstart : position + first.gap.length + first.spelling.length =
          position + first.text.length := by
        rw [Written.text, List.length_append, Nat.add_assoc]
      have hend : position + first.text.length + (writtenText pieces ++ last).length =
          position + (writtenText (first :: pieces) ++ last).length := by
        simp only [writtenText_cons, Written.text, List.length_append]
        omega
      have hwritten := scan_written first (position + first.gap.length) (hapart.settled hlast)
      rw [hstart, ih hapart.tail, hend] at hwritten
      calc scan maxLiteral position (writtenText (first :: pieces) ++ last)
          = scan maxLiteral position
              (first.gap ++ (first.spelling ++ (writtenText pieces ++ last))) := by
            rw [writtenText_cons, List.append_assoc, List.append_assoc]
        _ = scan maxLiteral (position + first.gap.length)
              (first.spelling ++ (writtenText pieces ++ last)) :=
            scan_gap maxLiteral first.blank position _
        _ = _ := hwritten

/-! ### Places of written tokens -/

theorem length_writtenTokens (position : Nat) (pieces : List (Written maxLiteral)) :
    (writtenTokens position pieces).length = pieces.length := by
  induction pieces generalizing position with
  | nil => rfl
  | cons first pieces ih => rw [writtenTokens, List.length_cons, ih, List.length_cons]

/-- A written token stands where its first character stands. -/
theorem getElem?_writtenTokens (position : Nat) (earlier : List (Written maxLiteral))
    (piece : Written maxLiteral) (later : List (Written maxLiteral)) :
    (writtenTokens position (earlier ++ piece :: later))[earlier.length]? =
      some ⟨piece.lexeme, (position + (writtenText earlier ++ piece.gap).length : Nat)⟩ := by
  induction earlier generalizing position with
  | nil => rfl
  | cons first earlier ih =>
      rw [List.cons_append, writtenTokens, List.length_cons, List.getElem?_cons_succ, ih]
      simp only [writtenText, List.flatMap_cons, List.length_append, Nat.add_assoc]

/-! ### Postfix forms -/

/-- No number is written by a symbol. -/
theorem Lexeme.ofSymbol?_ne_operand {c : Char} {value : Int} :
    Lexeme.ofSymbol? c ≠ some (.operand value) := by
  unfold Lexeme.ofSymbol?
  split
  · simp
  · simp
  · simp

/-- Numbers that a scan finds are natural numbers within its bound. -/
theorem operand_of_scan {position : Nat} {text : List Char} {tokens : List Token}
    (h : scan maxLiteral position text = .ok tokens) {token : Token} (htoken : token ∈ tokens)
    {value : Int} (hvalue : token.lexeme = .operand value) :
    ∃ number : Nat, value = number ∧ value ≤ maxLiteral := by
  fun_induction scan maxLiteral position text generalizing tokens with
  | case1 position =>
      cases h
      obtain rfl := List.mem_singleton.mp htoken
      cases hvalue
  | case2 => cases h
  | case3 position c rest hdigit digits number hbound =>
      rename_i ih
      obtain ⟨later, hlater, rfl⟩ := later_of_map_cons h
      rcases List.mem_cons.mp htoken with rfl | hmem
      · cases hvalue
        exact ⟨number, rfl, by omega⟩
      · exact ih hlater hmem
  | case4 position c rest hdigit hblank ih => exact ih h htoken
  | case5 position c rest hdigit hblank lexeme hlexeme ih =>
      obtain ⟨later, hlater, rfl⟩ := later_of_map_cons h
      rcases List.mem_cons.mp htoken with rfl | hmem
      · obtain rfl : lexeme = .operand value := hvalue
        exact absurd hlexeme Lexeme.ofSymbol?_ne_operand
      · exact ih hlater hmem
  | case6 => cases h

/-- Tokens of a listing whose numbers are natural numbers within a bound. -/
def Bounded (maxLiteral : Int) (token : Token) : Prop :=
  token.isListed = true ∧ ∀ value : Int, token.lexeme = .operand value →
    ∃ number : Nat, value = number ∧ value ≤ maxLiteral

/-- The text of a token of a listing spells it. -/
theorem Bounded.spells {token : Token} (h : Bounded maxLiteral token) :
    Spells token.fullText.toList token.lexeme := by
  obtain ⟨lexeme, position⟩ := token
  obtain ⟨hlisted, hnumber⟩ := h
  cases lexeme with
  | operand value =>
      obtain ⟨number, rfl, _⟩ := hnumber value rfl
      have htext : (Token.fullText ⟨.operand (number : Int), position⟩).toList =
          Nat.toDigits 10 number := Nat.toList_repr
      have hspells : Spells (Nat.toDigits 10 number)
          (.operand (Nat.ofDigitChars 10 (Nat.toDigits 10 number) 0)) :=
        .operand Nat.toDigits_ne_nil fun c hc =>
          Nat.isDigit_of_mem_toDigits (by decide) (by decide) hc
      rw [Nat.ofDigitChars_ten_toDigits] at hspells
      rw [htext]
      exact hspells
  | operator op =>
      have htext : (Token.fullText ⟨.operator op, position⟩).toList = [op.symbol] :=
        String.toList_singleton op.symbol
      rw [htext]
      exact .operator op
  | openBracket | closeBracket | begin | finish => cases hlisted

/-- A token of a listing, written behind white space. -/
def Bounded.written {token : Token} (h : Bounded maxLiteral token) (gap : List Char)
    (hgap : ∀ c ∈ gap, Text.isBlank c = true) : Written maxLiteral where
  gap := gap
  spelling := token.fullText.toList
  lexeme := token.lexeme
  blank := hgap
  spells := h.spells
  bounded := fun value hvalue => (h.2 value hvalue).choose_spec.2

/-- Tokens with white space in front of each of them but the first do not run together. -/
theorem allApart_of_gaps {first : Written maxLiteral} {pieces : List (Written maxLiteral)}
    (hgaps : ∀ piece ∈ pieces, piece.gap ≠ []) : AllApart (first :: pieces) := by
  intro earlier one next later h _ _
  refine hgaps next ?_
  obtain _ | ⟨_, earlier⟩ := earlier
  · rw [(List.cons.inj h).2]
    exact List.mem_cons_self
  · rw [(List.cons.inj h).2]
    simp

/-- Tokens of a listing can be written one blank after the other. -/
theorem exists_pieces {tokens : List Token} (h : ∀ token ∈ tokens, Bounded maxLiteral token) :
    ∃ pieces : List (Written maxLiteral),
      writtenText pieces = tokens.flatMap (fun token => ' ' :: token.fullText.toList) ∧
        pieces.map Written.lexeme = tokens.map Token.lexeme ∧ ∀ piece ∈ pieces, piece.gap ≠ [] := by
  induction tokens with
  | nil => exact ⟨[], rfl, rfl, by simp⟩
  | cons token tokens ih =>
      obtain ⟨htoken, htokens⟩ := List.forall_mem_cons.mp h
      obtain ⟨pieces, htext, hlexemes, hgaps⟩ := ih htokens
      have hblank : ∀ c ∈ [' '], Text.isBlank c = true := by
        simp [show Text.isBlank ' ' = true from rfl]
      refine ⟨htoken.written [' '] hblank :: pieces, ?_, ?_, ?_⟩
      · rw [writtenText_cons, htext]
        rfl
      · rw [List.map_cons, hlexemes]
        rfl
      · exact List.forall_mem_cons.mpr ⟨List.cons_ne_nil _ _, hgaps⟩

/-- The characters of tokens as a text. -/
theorem toList_plainForm (first : Token) (rest : List Token) :
    (plainForm (first :: rest)).toList =
      first.fullText.toList ++ rest.flatMap fun token => ' ' :: token.fullText.toList := by
  rw [plainForm, String.toList_intercalate]
  induction rest generalizing first with
  | nil => simp
  | cons next rest ih =>
      simp only [List.map_cons] at ih ⊢
      rw [List.intercalate_cons_cons, ih]
      simp

theorem map_lexeme_writtenTokens (position : Nat) (pieces : List (Written maxLiteral)) :
    (writtenTokens position pieces).map Token.lexeme = pieces.map Written.lexeme := by
  induction pieces generalizing position with
  | nil => rfl
  | cons first pieces ih => rw [writtenTokens, List.map_cons, ih, List.map_cons]

/-- The text of a listing is scanned to the tokens of the listing. -/
theorem scan_plainForm {listing : List Token}
    (h : ∀ token ∈ listing, Bounded maxLiteral token) :
    ∃ tokens : List Token, scan maxLiteral 0 (plainForm listing).toList = .ok tokens ∧
      tokens.map Token.lexeme = listing.map Token.lexeme ++ [.finish] := by
  cases listing with
  | nil =>
      have hscan : scan maxLiteral 0 (plainForm []).toList = .ok [⟨.finish, (0 : Nat)⟩] := by
        rw [plainForm, List.map_nil, String.toList_intercalate]
        exact scan.eq_1 maxLiteral 0
      exact ⟨_, hscan, rfl⟩
  | cons first rest =>
      obtain ⟨hfirst, hrest⟩ := List.forall_mem_cons.mp h
      obtain ⟨pieces, htext, hlexemes, hgaps⟩ := exists_pieces hrest
      have hapart : AllApart (hfirst.written [] (List.forall_mem_nil _) :: pieces) :=
        allApart_of_gaps hgaps
      have hscan := scan_writtenText hapart (List.forall_mem_nil _) 0
      have hsame : (plainForm (first :: rest)).toList =
          writtenText (hfirst.written [] (List.forall_mem_nil _) :: pieces) ++ [] := by
        rw [toList_plainForm, writtenText_cons, htext, List.append_nil]
        rfl
      rw [hsame]
      refine ⟨_, hscan, ?_⟩
      rw [List.map_append, map_lexeme_writtenTokens, List.map_cons, hlexemes]
      rfl

/-- The tokens of a postfix order can be written. -/
theorem bounded_of_toPostfix {calculator : Calculator} {expression : String}
    {listing : List Token} (h : calculator.toPostfix expression = .ok listing) :
    ∀ token ∈ listing, Bounded calculator.maxLiteral token := by
  intro token htoken
  obtain ⟨body, htokens, _, hyard⟩ := Calculator.yard_of_toPostfix h
  have hscan := Calculator.scan_of_tokens htokens
  obtain ⟨hmem, hlisted⟩ := mem_of_shuntingYard hyard htoken
  exact ⟨hlisted, fun value hvalue => operand_of_scan hscan (List.mem_append_left _ hmem) hvalue⟩

/-! ### The scan undoes writing -/

/-- The tokens of a rendering. -/
def Rendering.tokens (rendering : Rendering maxLiteral) : List Token :=
  writtenTokens 0 rendering.pieces

/-- The scan undoes writing. However a list of tokens is written, the text has these tokens between
    the two sentinels, each at the place of its first character, and the closing sentinel stands
    behind the text. In particular the postfix form of an expression, as a text, has the tokens of
    the postfix order. There is such a text exactly if none of the numbers in it has too many digits
    to be written. -/
theorem tokenize_rendering (calculator : Calculator) :
    (∀ rendering : Rendering calculator.maxLiteral,
      tokenize calculator.maxLiteral (String.ofList rendering.text) =
          .ok (⟨.begin, 0⟩ :: rendering.tokens ++ [⟨.finish, rendering.text.length⟩]) ∧
        rendering.tokens.length = rendering.pieces.length ∧
        ∀ (earlier : List (Written calculator.maxLiteral))
          (piece : Written calculator.maxLiteral)
          (later : List (Written calculator.maxLiteral)),
          rendering.pieces = earlier ++ piece :: later →
            rendering.tokens[earlier.length]? =
              some ⟨piece.lexeme, (writtenText earlier ++ piece.gap).length⟩) ∧
    ∀ (expression : String) (listing : List Token),
      calculator.toPostfix expression = .ok listing →
        if ∀ token ∈ listing, token.IsShort then
          ∃ (text : String) (tokens : List Token), calculator.formatPostfix expression = .ok text ∧
            tokenize calculator.maxLiteral text = .ok tokens ∧
            tokens.map Token.lexeme = .begin :: listing.map Token.lexeme ++ [.finish]
        else calculator.formatPostfix expression = .error .unwritable := by
  constructor
  · intro rendering
    refine ⟨?_, length_writtenTokens 0 rendering.pieces, ?_⟩
    · have hscan := scan_writtenText rendering.apart rendering.lastBlank 0
      rw [tokenize, String.toList_ofList, Rendering.text, hscan, Nat.zero_add]
      rfl
    · intro earlier piece later hpieces
      rw [Rendering.tokens, hpieces, getElem?_writtenTokens, Nat.zero_add]
  · intro expression listing h
    have hform := Calculator.formatPostfix_of_toPostfix h
    split
    · next hshort =>
        rw [if_pos hshort] at hform
        obtain ⟨tokens, hscan, hlexemes⟩ := scan_plainForm (bounded_of_toPostfix h)
        refine ⟨plainForm listing, ⟨.begin, 0⟩ :: tokens, hform, ?_, ?_⟩
        · rw [tokenize, hscan]
          rfl
        · rw [List.map_cons, hlexemes]
          rfl
    · next hlong =>
        rw [if_neg hlong] at hform
        exact hform

/-- A literal of more digits than are written has a postfix order, but none as a text. -/
theorem formatPostfix_longLiteral :
    ∃ listing : List Token,
      (⟨10 ^ 4300⟩ : Calculator).toPostfix
          (String.ofList ('1' :: List.replicate 4300 '0')) = .ok listing ∧
        (⟨10 ^ 4300⟩ : Calculator).formatPostfix
          (String.ofList ('1' :: List.replicate 4300 '0')) = .error .unwritable := by
  have hvalue := digitsValue_one_zeros 4300
  have horder := Calculator.toPostfix_literal (List.cons_ne_nil _ _) (isDigit_one_zeros 4300)
    (show _ ≤ (⟨10 ^ 4300⟩ : Calculator).maxLiteral from Int.le_of_eq hvalue)
  refine ⟨_, horder, ?_⟩
  rw [Calculator.formatPostfix_of_toPostfix horder, if_neg]
  intro hshort
  have hwritable : Text.IsWritable (10 ^ 4300) :=
    hvalue ▸ hshort _ List.mem_cons_self _ List.mem_cons_self
  exact absurd (Text.isWritable_ten_pow_iff.mp hwritable) (Nat.lt_irrefl _)

end Abacus
