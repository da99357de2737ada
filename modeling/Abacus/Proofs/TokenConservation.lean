/-
Module: Abacus.Proofs.TokenConservation
Purpose: The shunting yard keeps account of its tokens. A token that belongs into a listing lies on
  the stack or in the output from the moment it is put, once and as it was; operands go to the
  output at once and so keep their order; and an operator goes to the output no earlier than it is
  put, behind all operands that have come before it. To tell equal tokens apart, the yard is run on
  numbered tokens, to which it does the same.
Main exports: Puts, putAll_invariant, Keeps, keeps_of_shuntingYard, KeepsOccurrences,
  toPostfix_conserves
-/
import Mathlib.Control.Monad.Basic
import Abacus.Proofs.ConversionOutcome
import Abacus.Proofs.YardFrame

namespace Abacus

/-! ### What a token does to the yard -/

/-- What a token that is taken does to the yard. From the stack only operators go to the output, and
    what is dropped is an opening bracket. -/
inductive Puts : Yard → Token → Yard → Prop where
  | operand (value position : Int) (operators output : List Token) :
      Puts ⟨operators, output⟩ ⟨.operand value, position⟩
        ⟨operators, ⟨.operand value, position⟩ :: output⟩
  | operator (op : Operation) (position : Int) {popped : List Token}
      (hpopped : ∀ token ∈ popped, token.isOperator = true) (below output : List Token) :
      Puts ⟨popped ++ below, output⟩ ⟨.operator op, position⟩
        ⟨⟨.operator op, position⟩ :: below, popped.reverse ++ output⟩
  | openBracket (position : Int) (operators output : List Token) :
      Puts ⟨operators, output⟩ ⟨.openBracket, position⟩
        ⟨⟨.openBracket, position⟩ :: operators, output⟩
  | closeBracket (opening closing : Int) {popped : List Token}
      (hpopped : ∀ token ∈ popped, token.isOperator = true) (below output : List Token) :
      Puts ⟨popped ++ ⟨.openBracket, opening⟩ :: below, output⟩ ⟨.closeBracket, closing⟩
        ⟨below, popped.reverse ++ output⟩

/-- On a layered stack, what is no opening bracket is an operator. -/
theorem isOperator_of_layered {operators : List Token} (layered : Layered operators) :
    ∀ token ∈ operators, token.isInside = true → token.isOperator = true := by
  induction layered with
  | nil => simp
  | openBracket position hbelow ih =>
      refine List.forall_mem_cons.mpr ⟨?_, ih⟩
      intro hinside
      cases hinside
  | operator op position hbelow hsettled ih =>
      exact List.forall_mem_cons.mpr ⟨fun _ => isOperator_operator op position, ih⟩

/-- What is popped off a layered stack without passing a bracket are operators, and they go to the
    output one by one. -/
theorem popWhile_layered {test : Token → Bool}
    (htest : ∀ token : Token, test token = true → token.isInside = true)
    {operators : List Token} (layered : Layered operators) (output : List Token) :
    ∃ popped below : List Token, operators = popped ++ below ∧
      (∀ token ∈ popped, token.isOperator = true) ∧
        Yard.popWhile test ⟨operators, output⟩ = ⟨below, popped.reverse ++ output⟩ := by
  refine ⟨operators.takeWhile test, operators.dropWhile test,
    List.takeWhile_append_dropWhile.symm, ?_, rfl⟩
  intro token htoken
  have hmem : token ∈ operators := (List.takeWhile_prefix test).mem htoken
  have hpasses : test token = true := List.all_eq_true.mp List.all_takeWhile token htoken
  exact isOperator_of_layered layered token hmem (htest token hpasses)

/-- A token that the yard takes does one of four things. -/
theorem puts_of_put {yard next : Yard} {token : Token} (layered : Layered yard.operators)
    (h : yard.put token = .ok next) : Puts yard token next := by
  obtain ⟨operators, output⟩ := yard
  obtain ⟨lexeme, position⟩ := token
  cases lexeme with
  | operand value =>
      cases h
      exact .operand value position operators output
  | operator op =>
      have hbinds : ∀ token : Token, token.bindsAtLeast op.priority = true →
          token.isInside = true := fun _ h => isInside_of_bindsAtLeast h
      obtain ⟨popped, below, rfl, hpopped, hready⟩ := popWhile_layered hbinds layered output
      simp only [Yard.put, hready] at h
      cases h
      exact .operator op position hpopped below output
  | openBracket =>
      cases h
      exact .openBracket position operators output
  | closeBracket =>
      obtain ⟨popped, below, rfl, hpopped, hready⟩ := popWhile_layered (fun _ h => h) layered output
      have hsettled := settled_popWhile Token.isInside ⟨popped ++ below, output⟩
      rw [hready] at hsettled
      simp only [Yard.put, hready] at h
      obtain _ | ⟨⟨lexeme, opening⟩, below⟩ := below
      · cases h
      · cases h
        obtain rfl : lexeme = .openBracket := by
          simpa [Token.isInside] using hsettled
        exact .closeBracket opening position hpopped below output
  | begin => cases h
  | finish => cases h

/-- A yard that closes holds no bracket, and the operators that wait follow the output. -/
theorem close_eq_ok {yard : Yard} {finish : Token} {listing : List Token}
    (layered : Layered yard.operators) (h : yard.close finish = .ok listing) :
    (∀ token ∈ yard.operators, token.isOperator = true) ∧
      listing = yard.output.reverse ++ yard.operators := by
  obtain ⟨operators, output⟩ := yard
  obtain ⟨popped, below, rfl, hpopped, hready⟩ := popWhile_layered (fun _ h => h) layered output
  simp only [Yard.close, hready] at h
  obtain _ | ⟨top, below⟩ := below
  · cases h
    rw [List.append_nil]
    exact ⟨hpopped, by simp⟩
  · cases h

/-- What holds of a yard and the tokens put to it, and goes on to hold with each token that is
    taken, holds when all tokens are taken. -/
theorem putAll_invariant {motive : List Token → Yard → Prop}
    (hstep : ∀ (seen : List Token) (yard next : Yard) (token : Token), motive seen yard →
      Puts yard token next → motive (seen ++ [token]) next)
    {body : List Token} {seen : List Token} {yard last : Yard} (layered : Layered yard.operators)
    (hseen : motive seen yard) (h : yard.putAll body = .ok last) : motive (seen ++ body) last := by
  -- Layered yards alone take a token in one of the ways of `Puts`.
  induction body generalizing seen yard with
  | nil =>
      cases h
      rwa [List.append_nil]
  | cons token body ih =>
      simp only [Yard.putAll] at h
      split at h
      · next next hput =>
          rw [List.append_cons]
          exact ih (layered_put layered hput)
            (hstep seen yard next token hseen (puts_of_put layered hput)) h
      · cases h

/-! ### Operators behind their operands -/

/-- Before each operator of a list stand at least as many operands as it needs. -/
def OperandsBefore (need : Token → Nat) (tokens : List Token) : Prop :=
  ∀ (earlier : List Token) (token : Token) (later : List Token),
    tokens = earlier ++ token :: later → token.isOperator = true →
      need token ≤ earlier.countP Token.isOperand

theorem operandsBefore_nil (need : Token → Nat) : OperandsBefore need [] := by
  intro earlier token later h
  simp at h

theorem operandsBefore_concat {need : Token → Nat} {tokens : List Token} {token : Token} :
    OperandsBefore need (tokens ++ [token]) ↔
      OperandsBefore need tokens ∧
        (token.isOperator = true → need token ≤ tokens.countP Token.isOperand) := by
  constructor
  · intro h
    refine ⟨?_, h tokens token [] rfl⟩
    rintro earlier op later rfl hop
    exact h earlier op (later ++ [token]) (by simp) hop
  · rintro ⟨htokens, htoken⟩ earlier op later hsplit hop
    rcases List.eq_nil_or_concat later with rfl | ⟨later, last, rfl⟩
    · obtain ⟨rfl, hlast⟩ := List.append_inj' hsplit rfl
      cases hlast
      exact htoken hop
    · have hinit : tokens ++ [token] = (earlier ++ op :: later) ++ [last] := by
        simpa using hsplit
      obtain ⟨rfl, _⟩ := List.append_inj' hinit rfl
      exact htokens earlier op later rfl hop

/-! ### The account of the yard -/

/-- The yard has kept the tokens put to it: those that belong into a listing are on the stack or in
    the output, and nothing else is in the output; the operands are there in their order; and before
    each operator, in the output or on its way there, come as many operands as it needs. -/
structure Keeps (need : Token → Nat) (seen : List Token) (yard : Yard) : Prop where
  account : (yard.output ++ yard.operators.filter Token.isListed).Perm
    (seen.filter Token.isListed)
  listed : ∀ token ∈ yard.output, token.isListed = true
  operands : yard.output.reverse.filter Token.isOperand = seen.filter Token.isOperand
  ready : OperandsBefore need yard.output.reverse
  waiting : ∀ token ∈ yard.operators, token.isOperator = true →
    need token ≤ yard.output.countP Token.isOperand

section

variable {need : Token → Nat} {seen operators output : List Token}

theorem keeps_start (need : Token → Nat) : Keeps need [] ⟨[], []⟩ where
  account := .refl _
  listed := by simp
  operands := rfl
  ready := operandsBefore_nil need
  waiting := by simp

/-- A token that belongs into a listing is put down behind those that came before. -/
theorem filter_isListed_concat {token : Token} (h : token.isListed = true) (seen : List Token) :
    (seen ++ [token]).filter Token.isListed = seen.filter Token.isListed ++ [token] := by
  rw [List.filter_append, List.filter_cons_of_pos h, List.filter_nil]

/-- All operands that have come are in the output. -/
theorem Keeps.countP_operands {yard : Yard} (h : Keeps need seen yard) :
    yard.output.countP Token.isOperand = seen.countP Token.isOperand := by
  rw [← List.countP_reverse, List.countP_eq_length_filter, h.operands,
    List.countP_eq_length_filter]

/-- An operator moves from the stack to the output. -/
theorem Keeps.pop {top : Token} (htop : top.isOperator = true)
    (h : Keeps need seen ⟨top :: operators, output⟩) :
    Keeps need seen ⟨operators, top :: output⟩ := by
  obtain ⟨haccount, hlisted, hoperands, hready, hwaiting⟩ := h
  obtain ⟨hneed, hwaiting⟩ := List.forall_mem_cons.mp hwaiting
  obtain ⟨op, position, rfl⟩ := operator_of_isOperator htop
  refine ⟨?_, ?_, ?_, ?_, ?_⟩
  · simp only [List.filter_cons_of_pos (isListed_operator op position)] at haccount
    exact List.perm_middle.symm.trans haccount
  · exact List.forall_mem_cons.mpr ⟨isListed_operator op position, hlisted⟩
  · simpa using hoperands
  · simp only [List.reverse_cons]
    refine operandsBefore_concat.mpr ⟨hready, fun _ => ?_⟩
    rw [List.countP_reverse]
    exact hneed htop
  · intro token htoken hoperator
    simpa using hwaiting token htoken hoperator

/-- Operators move from the stack to the output. -/
theorem Keeps.popAll {popped below : List Token}
    (hpopped : ∀ token ∈ popped, token.isOperator = true)
    (h : Keeps need seen ⟨popped ++ below, output⟩) :
    Keeps need seen ⟨below, popped.reverse ++ output⟩ := by
  induction popped generalizing output with
  | nil => exact h
  | cons top popped ih =>
      obtain ⟨htop, hpopped⟩ := List.forall_mem_cons.mp hpopped
      rw [List.reverse_cons, List.append_assoc]
      exact ih hpopped (h.pop htop)

/-- An operand goes to the output. -/
theorem Keeps.emit (value position : Int) (h : Keeps need seen ⟨operators, output⟩) :
    Keeps need (seen ++ [⟨.operand value, position⟩])
      ⟨operators, ⟨.operand value, position⟩ :: output⟩ := by
  obtain ⟨haccount, hlisted, hoperands, hready, hwaiting⟩ := h
  refine ⟨?_, ?_, ?_, ?_, ?_⟩
  · rw [filter_isListed_concat (isListed_operand value position)]
    exact (haccount.cons _).trans (List.perm_append_singleton _ _).symm
  · exact List.forall_mem_cons.mpr ⟨isListed_operand value position, hlisted⟩
  · simpa using hoperands
  · simp only [List.reverse_cons]
    refine operandsBefore_concat.mpr ⟨hready, fun hoperator => ?_⟩
    cases hoperator
  · intro token htoken hoperator
    have hneed := hwaiting token htoken hoperator
    simp only [List.countP_cons, isOperand_operand]
    exact Nat.le_succ_of_le hneed

/-- An operator is pushed; the operands before it are in the output already. -/
theorem Keeps.push (op : Operation) (position : Int)
    (hneed : need ⟨.operator op, position⟩ ≤ seen.countP Token.isOperand)
    (h : Keeps need seen ⟨operators, output⟩) :
    Keeps need (seen ++ [⟨.operator op, position⟩])
      ⟨⟨.operator op, position⟩ :: operators, output⟩ := by
  have hcount := h.countP_operands
  obtain ⟨haccount, hlisted, hoperands, hready, hwaiting⟩ := h
  refine ⟨?_, hlisted, ?_, hready, ?_⟩
  · rw [filter_isListed_concat (isListed_operator op position)]
    simp only [List.filter_cons_of_pos (isListed_operator op position)]
    exact List.perm_middle.trans
      ((haccount.cons _).trans (List.perm_append_singleton _ _).symm)
  · simpa using hoperands
  · refine List.forall_mem_cons.mpr ⟨fun _ => ?_, hwaiting⟩
    simpa [hcount] using hneed

/-- Brackets do not count: they come and go on the stack and never reach the output. -/
theorem Keeps.openBracket (position : Int) (h : Keeps need seen ⟨operators, output⟩) :
    Keeps need (seen ++ [⟨.openBracket, position⟩])
      ⟨⟨.openBracket, position⟩ :: operators, output⟩ := by
  obtain ⟨haccount, hlisted, hoperands, hready, hwaiting⟩ := h
  refine ⟨?_, hlisted, ?_, hready, List.forall_mem_cons.mpr ⟨?_, hwaiting⟩⟩
  · rw [List.filter_append]
    exact (List.append_nil _).symm ▸ haccount
  · rw [List.filter_append]
    exact (List.append_nil _).symm ▸ hoperands
  · intro hoperator
    cases hoperator

theorem Keeps.closeBracket (opening closing : Int)
    (h : Keeps need seen ⟨⟨.openBracket, opening⟩ :: operators, output⟩) :
    Keeps need (seen ++ [⟨.closeBracket, closing⟩]) ⟨operators, output⟩ := by
  obtain ⟨haccount, hlisted, hoperands, hready, hwaiting⟩ := h
  refine ⟨?_, hlisted, ?_, hready, (List.forall_mem_cons.mp hwaiting).2⟩
  · rw [List.filter_append]
    exact (List.append_nil _).symm ▸ haccount
  · rw [List.filter_append]
    exact (List.append_nil _).symm ▸ hoperands

/-- The yard keeps the tokens put to it with each token that it takes. -/
theorem Keeps.put {yard next : Yard} {token : Token} (h : Keeps need seen yard)
    (hputs : Puts yard token next)
    (hneed : token.isOperator = true → need token ≤ seen.countP Token.isOperand) :
    Keeps need (seen ++ [token]) next := by
  cases hputs with
  | operand value position operators output => exact h.emit value position
  | operator op position hpopped below output =>
      exact (h.popAll hpopped).push op position (hneed (isOperator_operator op position))
  | openBracket position operators output => exact h.openBracket position
  | closeBracket opening closing hpopped below output =>
      exact (h.popAll hpopped).closeBracket opening closing

end

/-- A listing by the shunting yard holds the operands and operators of its tokens and nothing else,
    each as often as they do, the operands in their order, and before each operator as many
    operands as it needs. -/
theorem keeps_of_shuntingYard {need : Token → Nat} {body listing : List Token} {finish : Token}
    (hneeds : OperandsBefore need body) (h : shuntingYard body finish = .ok listing) :
    Keeps need body ⟨[], listing.reverse⟩ := by
  rw [shuntingYard] at h
  split at h
  · next last hput =>
      have hstep : ∀ (seen : List Token) (yard next : Yard) (token : Token),
          (OperandsBefore need seen → Keeps need seen yard) → Puts yard token next →
            OperandsBefore need (seen ++ [token]) → Keeps need (seen ++ [token]) next := by
        intro seen yard next token hseen hputs hneeds
        obtain ⟨hseenNeeds, htoken⟩ := operandsBefore_concat.mp hneeds
        exact (hseen hseenNeeds).put hputs htoken
      have hkeeps : OperandsBefore need body → Keeps need body last :=
        putAll_invariant
          (motive := fun seen yard => OperandsBefore need seen → Keeps need seen yard)
          hstep .nil (fun _ => keeps_start need) hput
      have hlayered : Layered last.operators := layered_putAll .nil hput
      obtain ⟨hwaiting, rfl⟩ := close_eq_ok hlayered h
      have hlast : Keeps need body ⟨last.operators ++ [], last.output⟩ := by
        rw [List.append_nil]
        exact hkeeps hneeds
      simpa using hlast.popAll hwaiting
  · cases h

/-- What a listing by the shunting yard holds is among its tokens. -/
theorem mem_of_shuntingYard {body listing : List Token} {finish token : Token}
    (h : shuntingYard body finish = .ok listing) (htoken : token ∈ listing) :
    token ∈ body ∧ token.isListed = true := by
  have hnone : OperandsBefore (fun _ => 0) body := fun _ _ _ _ _ => Nat.zero_le _
  have haccount := (keeps_of_shuntingYard hnone h).account
  simp only [List.filter_nil, List.append_nil] at haccount
  exact List.mem_filter.mp (haccount.mem_iff.mp (List.mem_reverse.mpr htoken))

/-! ### Occurrences -/

/-- The occurrence of a token at a place in a list, as a token whose position is the place. -/
def numbered (occurrence : Token × Nat) : Token :=
  ⟨occurrence.1.lexeme, occurrence.2⟩

/-- The occurrence in a list that a numbered token stands for. A number behind the list stands for a
    token at a given position. -/
def occurrenceOf (body : List Token) (finish : Int) (token : Token) : Token × Nat :=
  (⟨token.lexeme, (body[token.position.toNat]?).elim finish Token.position⟩,
    token.position.toNat)

section

variable (body : List Token) (finish : Int)

/-- Numbering loses nothing. -/
theorem occurrenceOf_numbered {occurrence : Token × Nat} (h : occurrence ∈ body.zipIdx) :
    occurrenceOf body finish (numbered occurrence) = occurrence := by
  obtain ⟨⟨lexeme, position⟩, place⟩ := occurrence
  have hplace : body[place]? = some ⟨lexeme, position⟩ := List.mem_zipIdx_iff_getElem?.mp h
  simp [occurrenceOf, numbered, hplace]

theorem map_occurrenceOf_numbered {occurrences : List (Token × Nat)}
    (h : ∀ occurrence ∈ occurrences, occurrence ∈ body.zipIdx) :
    (occurrences.map numbered).map (occurrenceOf body finish) = occurrences := by
  rw [List.map_map, List.map_congr_left (g := id), List.map_id]
  intro occurrence hoccurrence
  exact occurrenceOf_numbered body finish (h occurrence hoccurrence)

/-- The numbered tokens that pass a test of lexemes stand for the occurrences that pass it. -/
theorem map_occurrenceOf_filter {test : Token → Bool}
    (htest : ∀ token other : Token, token.lexeme = other.lexeme → test token = test other) :
    ((body.zipIdx.map numbered).filter test).map (occurrenceOf body finish) =
      body.zipIdx.filter fun occurrence => test occurrence.1 := by
  have hnumbered : test ∘ numbered = fun occurrence => test occurrence.1 :=
    funext fun occurrence => htest _ _ rfl
  rw [List.filter_map, hnumbered]
  exact map_occurrenceOf_numbered body finish fun occurrence h => (List.mem_filter.mp h).1

/-- The numbered tokens stand for the tokens of the list. -/
theorem map_fst_occurrenceOf :
    (body.zipIdx.map numbered).map (fun token => (occurrenceOf body finish token).1) = body := by
  have hall := map_occurrenceOf_numbered body finish (fun _ h => h)
  have hfst := congrArg (List.map Prod.fst) hall
  rwa [List.map_map, List.zipIdx_map_fst] at hfst

/-- What stands before an occurrence is what the list has before its place. -/
theorem take_of_zipIdx {earlier later : List (Token × Nat)} {token : Token} {place : Nat}
    (h : body.zipIdx = earlier ++ (token, place) :: later) :
    body.take place = earlier.map Prod.fst := by
  have hget : body.zipIdx[earlier.length]? = some (token, place) := by
    rw [h]
    simp
  obtain rfl : earlier.length = place := by
    rw [List.getElem?_zipIdx] at hget
    obtain ⟨_, _, hpair⟩ := Option.map_eq_some_iff.mp hget
    have hplace := (Prod.mk.inj hpair).2
    omega
  have hbody : body = earlier.map Prod.fst ++ token :: later.map Prod.fst := by
    rw [← List.zipIdx_map_fst 0 body, h]
    simp
  rw [hbody, ← List.length_map (f := Prod.fst), List.take_left]

/-- A numbered operator needs as many operands as stand before its place. -/
def operandsBeforePlace (token : Token) : Nat :=
  (body.take token.position.toNat).countP Token.isOperand

/-- In the list itself, numbered operators have what they need. -/
theorem operandsBefore_numbered :
    OperandsBefore (operandsBeforePlace body) (body.zipIdx.map numbered) := by
  intro earlier token later hsplit _
  obtain ⟨before, after, hzip, rfl, hafter⟩ := List.map_eq_append_iff.mp hsplit
  obtain ⟨⟨source, place⟩, later, rfl, rfl, _⟩ := List.map_eq_cons_iff.mp hafter
  have htake : body.take place = before.map Prod.fst := take_of_zipIdx body hzip
  have hcount : (before.map numbered).countP Token.isOperand =
      (before.map Prod.fst).countP Token.isOperand := by
    rw [List.countP_map, List.countP_map]
    rfl
  rw [hcount, ← htake]
  exact Nat.le_refl _

end

/-- An order of occurrences of a list in which each token that belongs into a listing occurs once,
    operands come as in the list, and before each operator come as many operands as stand before
    it in the list, or more. -/
structure KeepsOccurrences (body : List Token) (order : List (Token × Nat)) : Prop where
  once : order.Perm (body.zipIdx.filter fun occurrence => occurrence.1.isListed)
  operands : order.filter (fun occurrence => occurrence.1.isOperand) =
    body.zipIdx.filter fun occurrence => occurrence.1.isOperand
  behind : ∀ (earlier : List (Token × Nat)) (token : Token) (place : Nat)
    (later : List (Token × Nat)), order = earlier ++ (token, place) :: later →
      token.isOperator = true →
        (body.take place).countP Token.isOperand ≤
          earlier.countP fun occurrence => occurrence.1.isOperand

/-- Numbered tokens that the yard has kept are occurrences that are kept. -/
theorem keepsOccurrences_of_keeps {body order : List Token} (finish : Int)
    (h : Keeps (operandsBeforePlace body) (body.zipIdx.map numbered) ⟨[], order.reverse⟩) :
    KeepsOccurrences body (order.map (occurrenceOf body finish)) where
  once := by
    have haccount := h.account
    simp only [List.filter_nil, List.append_nil] at haccount
    rw [← map_occurrenceOf_filter body finish (fun _ _ h => by
      rw [Token.isListed, Token.isOperand, Token.isOperator, Token.kind, h]; rfl)]
    exact ((List.reverse_perm order).symm.trans haccount).map _
  operands := by
    have hoperands := h.operands
    simp only [List.reverse_reverse] at hoperands
    rw [← map_occurrenceOf_filter body finish (fun _ _ h => by
      rw [Token.isOperand, Token.kind, h]; rfl), ← hoperands, List.filter_map]
    rfl
  behind := by
    intro earlier token place later hsplit hoperator
    obtain ⟨before, after, rfl, rfl, hafter⟩ := List.map_eq_append_iff.mp hsplit
    obtain ⟨source, rest, rfl, hsource, _⟩ := List.map_eq_cons_iff.mp hafter
    cases hsource
    have hready := h.ready before source rest (List.reverse_reverse _) hoperator
    rw [List.countP_map]
    exact hready

/-- A listing is kept as a whole where its numbered tokens are. -/
theorem keepsOccurrences_of_shuntingYard {body listing : List Token} {finish : Int}
    (h : shuntingYard body ⟨.finish, finish⟩ = .ok listing) :
    ∃ order : List (Token × Nat), listing = order.map Prod.fst ∧ KeepsOccurrences body order := by
  have hlabel : KeepsLexemes fun token => (occurrenceOf body finish token).1 := fun _ => rfl
  have hfinish : (occurrenceOf body finish ⟨.finish, body.length⟩).1 = ⟨.finish, finish⟩ := by
    simp [occurrenceOf]
  have hrelabel := shuntingYard_relabel hlabel (body.zipIdx.map numbered) ⟨.finish, body.length⟩
  rw [map_fst_occurrenceOf, hfinish, h] at hrelabel
  split at hrelabel
  · next order horder =>
      cases hrelabel
      refine ⟨order.map (occurrenceOf body finish), by rw [List.map_map]; rfl, ?_⟩
      exact keepsOccurrences_of_keeps finish
        (keeps_of_shuntingYard (operandsBefore_numbered body) horder)
  · cases hrelabel

/-- Conversion loses, invents and doubles nothing. A list that has a postfix order starts with
    tokens between the two sentinels. The postfix order has the numbers and operators of these
    tokens and nothing else, each occurrence once and as it was, the numbers in their order, and
    no operator before a number that it stands behind in the list. -/
theorem toPostfix_conserves (tokens listing : List Token) (h : toPostfix tokens = .ok listing) :
    ∃ (start : Int) (body : List Token) (finish : Int) (later : List Token),
      tokens = ⟨.begin, start⟩ :: (body ++ ⟨.finish, finish⟩ :: later) ∧
        (∀ token ∈ body, token.IsInner) ∧
        listing.Perm (body.filter Token.isListed) ∧
        (∀ token ∈ listing, token.isListed = true) ∧
        listing.filter Token.isOperand = body.filter Token.isOperand ∧
        ∃ order : List (Token × Nat), listing = order.map Prod.fst ∧
          KeepsOccurrences body order := by
  obtain ⟨start, body, finish, later, hframe, hinner, hyard⟩ := frame_of_toPostfix h
  have hnone : OperandsBefore (fun _ => 0) body := fun _ _ _ _ _ => Nat.zero_le _
  have hkeeps := keeps_of_shuntingYard hnone hyard
  have haccount := hkeeps.account
  simp only [List.filter_nil, List.append_nil] at haccount
  refine ⟨start, body, finish, later, hframe, hinner,
    (List.reverse_perm listing).symm.trans haccount, ?_, ?_,
    keepsOccurrences_of_shuntingYard hyard⟩
  · intro token htoken
    exact hkeeps.listed token (List.mem_reverse.mpr htoken)
  · have hoperands := hkeeps.operands
    simpa only [List.reverse_reverse] using hoperands

/-- A list in which equal tokens occur several times, with more tokens behind the end. -/
theorem toPostfix_conserves_repeated :
    toPostfix [⟨.begin, 0⟩, ⟨.operand 2, 0⟩, ⟨.operator .sub, 0⟩, ⟨.openBracket, 0⟩,
        ⟨.operand 2, 0⟩, ⟨.operator .sub, 0⟩, ⟨.operand 2, 0⟩, ⟨.closeBracket, 0⟩, ⟨.finish, 0⟩,
        ⟨.operand 2, 0⟩, ⟨.begin, 0⟩] =
      .ok [⟨.operand 2, 0⟩, ⟨.operand 2, 0⟩, ⟨.operand 2, 0⟩, ⟨.operator .sub, 0⟩,
        ⟨.operator .sub, 0⟩] ∧
    ∃ (start : Int) (body : List Token) (finish : Int) (later : List Token),
      [⟨.begin, 0⟩, ⟨.operand 2, 0⟩, ⟨.operator .sub, 0⟩, ⟨.openBracket, 0⟩, ⟨.operand 2, 0⟩,
          ⟨.operator .sub, 0⟩, ⟨.operand 2, 0⟩, ⟨.closeBracket, 0⟩, ⟨.finish, 0⟩,
          ⟨.operand 2, 0⟩, ⟨.begin, 0⟩] =
        ⟨.begin, start⟩ :: (body ++ ⟨.finish, finish⟩ :: later) ∧
        (∀ token ∈ body, token.IsInner) ∧
        [⟨.operand 2, 0⟩, ⟨.operand 2, 0⟩, ⟨.operand 2, 0⟩, ⟨.operator .sub, 0⟩,
          ⟨.operator .sub, 0⟩].Perm (body.filter Token.isListed) ∧
        (∀ token ∈ [(⟨.operand 2, 0⟩ : Token), ⟨.operand 2, 0⟩, ⟨.operand 2, 0⟩,
          ⟨.operator .sub, 0⟩, ⟨.operator .sub, 0⟩], token.isListed = true) ∧
        [⟨.operand 2, 0⟩, ⟨.operand 2, 0⟩, ⟨.operand 2, 0⟩, ⟨.operator .sub, 0⟩,
          ⟨.operator .sub, 0⟩].filter Token.isOperand = body.filter Token.isOperand ∧
        ∃ order : List (Token × Nat),
          [⟨.operand 2, 0⟩, ⟨.operand 2, 0⟩, ⟨.operand 2, 0⟩, ⟨.operator .sub, 0⟩,
            ⟨.operator .sub, 0⟩] = order.map Prod.fst ∧ KeepsOccurrences body order := by
  have h : toPostfix [⟨.begin, 0⟩, ⟨.operand 2, 0⟩, ⟨.operator .sub, 0⟩, ⟨.openBracket, 0⟩,
      ⟨.operand 2, 0⟩, ⟨.operator .sub, 0⟩, ⟨.operand 2, 0⟩, ⟨.closeBracket, 0⟩, ⟨.finish, 0⟩,
      ⟨.operand 2, 0⟩, ⟨.begin, 0⟩] =
        .ok [⟨.operand 2, 0⟩, ⟨.operand 2, 0⟩, ⟨.operand 2, 0⟩, ⟨.operator .sub, 0⟩,
          ⟨.operator .sub, 0⟩] := by
    decide +kernel
  exact ⟨h, toPostfix_conserves _ _ h⟩

end Abacus
