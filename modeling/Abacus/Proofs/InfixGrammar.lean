/-
Module: Abacus.Proofs.InfixGrammar
Purpose: The grammar of infix expressions, with the trees that its derivations stand for, and a
  test on neighbouring tokens that settles with the brackets whether tokens are derivable. The
  test reads the tokens once, from left to right, and needs no tree.
Main exports: Derives, bracketsMatch, alternates, derivable_iff
-/
import Abacus.Proofs.ExpressionTree

namespace Abacus

/-! ### The grammar -/

/-- The three levels of the grammar, from the loosest to the tightest. -/
inductive Nonterminal where
  | expression
  | term
  | factor
deriving DecidableEq, Repr, Inhabited

/-- The derivations of the grammar, with what they yield and the trees they stand for. Operators of
    one class associate to the left; brackets leave no trace in the tree. -/
inductive Derives : Nonterminal → List Token → ExprTree → Prop where
  | ofTerm {tokens : List Token} {tree : ExprTree} :
      Derives .term tokens tree → Derives .expression tokens tree
  | weak {left right : List Token} {lhs rhs : ExprTree} {op : Operation} (position : Int)
      (hop : op.kind = .weak) :
      Derives .expression left lhs → Derives .term right rhs →
        Derives .expression (left ++ ⟨.operator op, position⟩ :: right) (.node op position lhs rhs)
  | ofFactor {tokens : List Token} {tree : ExprTree} :
      Derives .factor tokens tree → Derives .term tokens tree
  | strong {left right : List Token} {lhs rhs : ExprTree} {op : Operation} (position : Int)
      (hop : op.kind = .strong) :
      Derives .term left lhs → Derives .factor right rhs →
        Derives .term (left ++ ⟨.operator op, position⟩ :: right) (.node op position lhs rhs)
  | literal (value position : Int) :
      Derives .factor [⟨.operand value, position⟩] (.literal value position)
  | bracketed {tokens : List Token} {tree : ExprTree} (opening closing : Int) :
      Derives .expression tokens tree →
        Derives .factor (⟨.openBracket, opening⟩ :: (tokens ++ [⟨.closeBracket, closing⟩])) tree

/-- Tokens that a nonterminal derives. -/
def Derivable (nonterminal : Nonterminal) (tokens : List Token) : Prop :=
  ∃ tree : ExprTree, Derives nonterminal tokens tree

/-! ### Two tests on tokens -/

/-- Whether each closing bracket has an open one before it and none of them is left open, with a
    number of brackets open at the start. -/
def bracketsMatch : Nat → List Token → Bool
  | depth, [] => depth == 0
  | depth, token :: rest =>
      match token.lexeme, depth with
      | .openBracket, depth => bracketsMatch (depth + 1) rest
      | .closeBracket, 0 => false
      | .closeBracket, depth + 1 => bracketsMatch depth rest
      | _, depth => bracketsMatch depth rest

/-- What is to come next: an operand, or an operator between two operands. -/
inductive Turn where
  | operand
  | operator
deriving DecidableEq, Repr, Inhabited

/-- Whether operands and operators take turns. An opening bracket stands where an operand may
    begin, a closing bracket and the end stand where one has ended. -/
def alternates : Turn → List Token → Bool
  | .operand, [] => false
  | .operator, [] => true
  | turn, token :: rest =>
      match turn, token.lexeme with
      | .operand, .operand _ => alternates .operator rest
      | .operand, .openBracket => alternates .operand rest
      | .operator, .operator _ => alternates .operand rest
      | .operator, .closeBracket => alternates .operator rest
      | _, _ => false

/-- Derived tokens keep the depth of brackets that they find. -/
theorem bracketsMatch_of_derives {nonterminal : Nonterminal} {tokens : List Token}
    {tree : ExprTree} (h : Derives nonterminal tokens tree) (depth : Nat) (rest : List Token) :
    bracketsMatch depth (tokens ++ rest) = bracketsMatch depth rest := by
  induction h generalizing depth rest with
  | ofTerm _ ih => exact ih depth rest
  | weak position _ _ _ ihl ihr =>
      rw [List.append_assoc, ihl, List.cons_append]
      exact ihr depth rest
  | ofFactor _ ih => exact ih depth rest
  | strong position _ _ _ ihl ihr =>
      rw [List.append_assoc, ihl, List.cons_append]
      exact ihr depth rest
  | literal value position => rfl
  | bracketed opening closing _ ih =>
      rw [List.cons_append, List.append_assoc]
      exact ih (depth + 1) _

/-- Derived tokens stand for one operand. -/
theorem alternates_of_derives {nonterminal : Nonterminal} {tokens : List Token}
    {tree : ExprTree} (h : Derives nonterminal tokens tree) (rest : List Token) :
    alternates .operand (tokens ++ rest) = alternates .operator rest := by
  induction h generalizing rest with
  | ofTerm _ ih => exact ih rest
  | weak position _ _ _ ihl ihr =>
      rw [List.append_assoc, ihl, List.cons_append]
      exact ihr rest
  | ofFactor _ ih => exact ih rest
  | strong position _ _ _ ihl ihr =>
      rw [List.append_assoc, ihl, List.cons_append]
      exact ihr rest
  | literal value position => rfl
  | bracketed opening closing _ ih =>
      rw [List.cons_append, List.append_assoc]
      exact ih _

/-! ### What is still to be derived

The tests go from left to right, a derivation does not. Between the two stands the part of an
expression before some point: it waits for a nonterminal, which may take its place at the end of
what is derived already. -/

/-- The beginnings of expressions that a nonterminal may follow, with the number of brackets that
    are open. -/
inductive Awaits : Nonterminal → Nat → List Token → Prop where
  | start : Awaits .expression 0 []
  | opened {depth : Nat} {before : List Token} (position : Int) :
      Awaits .factor depth before →
        Awaits .expression (depth + 1) (before ++ [⟨.openBracket, position⟩])
  | firstTerm {depth : Nat} {before : List Token} :
      Awaits .expression depth before → Awaits .term depth before
  | nextTerm {depth : Nat} {before left : List Token} {op : Operation} (position : Int)
      (hop : op.kind = .weak) :
      Awaits .expression depth before → Derivable .expression left →
        Awaits .term depth (before ++ left ++ [⟨.operator op, position⟩])
  | firstFactor {depth : Nat} {before : List Token} :
      Awaits .term depth before → Awaits .factor depth before
  | nextFactor {depth : Nat} {before left : List Token} {op : Operation} (position : Int)
      (hop : op.kind = .strong) :
      Awaits .term depth before → Derivable .term left →
        Awaits .factor depth (before ++ left ++ [⟨.operator op, position⟩])

/-- The beginnings of expressions by what is to come next: either a factor is waited for, or a term
    that was waited for has just ended. -/
def Begun (depth : Nat) (before : List Token) : Turn → Prop
  | .operand => Awaits .factor depth before
  | .operator => ∃ earlier latest : List Token, before = earlier ++ latest ∧
      Awaits .term depth earlier ∧ Derivable .term latest

/-- The factor that was waited for ends a term. -/
theorem begun_of_factor {depth : Nat} {before tokens : List Token} {rhs : ExprTree}
    (hbefore : Awaits .factor depth before) (hrhs : Derives .factor tokens rhs) :
    Begun depth (before ++ tokens) .operator := by
  cases hbefore with
  | firstFactor hterm => exact ⟨before, tokens, rfl, hterm, rhs, .ofFactor hrhs⟩
  | @nextFactor _ earlier left op position hop hterm hleft =>
      obtain ⟨lhs, hlhs⟩ := hleft
      exact ⟨earlier, left ++ ⟨.operator op, position⟩ :: tokens, by simp, hterm, _,
        .strong position hop hlhs hrhs⟩

/-- The term that has ended ends an expression. -/
theorem awaits_expression_of_begun {depth : Nat} {before : List Token}
    (h : Begun depth before .operator) :
    ∃ earlier latest : List Token, before = earlier ++ latest ∧
      Awaits .expression depth earlier ∧ Derivable .expression latest := by
  obtain ⟨earlier, latest, rfl, hearlier, rhs, hrhs⟩ := h
  cases hearlier with
  | firstTerm hexpression => exact ⟨earlier, latest, rfl, hexpression, rhs, .ofTerm hrhs⟩
  | @nextTerm _ outer left op position hop hexpression hleft =>
      obtain ⟨lhs, hlhs⟩ := hleft
      exact ⟨outer, left ++ ⟨.operator op, position⟩ :: latest, by simp, hexpression, _,
        .weak position hop hlhs hrhs⟩

/-- After an operator, its right operand is waited for. -/
theorem begun_operator {depth : Nat} {before : List Token} (h : Begun depth before .operator)
    (op : Operation) (position : Int) :
    Begun depth (before ++ [⟨.operator op, position⟩]) .operand := by
  cases hop : op.kind with
  | strong =>
      obtain ⟨earlier, latest, rfl, hearlier, hlatest⟩ := h
      exact .nextFactor position hop hearlier hlatest
  | weak =>
      obtain ⟨earlier, latest, rfl, hearlier, hlatest⟩ := awaits_expression_of_begun h
      exact .firstFactor (.nextTerm position hop hearlier hlatest)
  | _ => cases op <;> cases hop

/-- A closing bracket ends the factor that its partner began. -/
theorem begun_closeBracket {depth : Nat} {before : List Token}
    (h : Begun (depth + 1) before .operator) (position : Int) :
    Begun depth (before ++ [⟨.closeBracket, position⟩]) .operator := by
  obtain ⟨earlier, latest, rfl, hearlier, tree, htree⟩ := awaits_expression_of_begun h
  cases hearlier with
  | @opened _ outer opening houter =>
      simpa using begun_of_factor houter (.bracketed opening position htree)

/-- At the end, with no bracket open, the term that has ended ends the whole expression. -/
theorem derivable_of_begun {before : List Token} (h : Begun 0 before .operator) :
    Derivable .expression before := by
  obtain ⟨earlier, latest, rfl, hearlier, hlatest⟩ := awaits_expression_of_begun h
  cases hearlier with
  | start => exact hlatest

/-- Tokens that pass both tests complete what has begun. -/
theorem derivable_of_tests {rest before : List Token} {depth : Nat} {turn : Turn}
    (hbegun : Begun depth before turn) (halternates : alternates turn rest = true)
    (hmatch : bracketsMatch depth rest = true) : Derivable .expression (before ++ rest) := by
  induction rest generalizing before depth turn with
  | nil =>
      cases turn with
      | operand => cases halternates
      | operator =>
          obtain rfl : depth = 0 := by simpa [bracketsMatch] using hmatch
          simpa using derivable_of_begun hbegun
  | cons token rest ih =>
      rw [List.append_cons]
      obtain ⟨lexeme, position⟩ := token
      cases turn with
      | operand =>
          cases lexeme with
          | operand value =>
              exact ih (begun_of_factor hbegun (.literal value position)) halternates hmatch
          | openBracket =>
              have hopened : Begun (depth + 1) (before ++ [⟨.openBracket, position⟩]) .operand :=
                .firstFactor (.firstTerm (.opened position hbegun))
              exact ih hopened halternates hmatch
          | operator op => cases halternates
          | closeBracket => cases halternates
          | begin => cases halternates
          | finish => cases halternates
      | operator =>
          cases lexeme with
          | operator op => exact ih (begun_operator hbegun op position) halternates hmatch
          | closeBracket =>
              cases depth with
              | zero => cases hmatch
              | succ depth => exact ih (begun_closeBracket hbegun position) halternates hmatch
          | operand value => cases halternates
          | openBracket => cases halternates
          | begin => cases halternates
          | finish => cases halternates

/-- Tokens are an expression exactly if their brackets match and operands and operators take
    turns. -/
theorem derivable_iff (tokens : List Token) :
    Derivable .expression tokens ↔
      bracketsMatch 0 tokens = true ∧ alternates .operand tokens = true := by
  constructor
  · rintro ⟨tree, htree⟩
    have hmatch := bracketsMatch_of_derives htree 0 []
    have halternates := alternates_of_derives htree []
    rw [List.append_nil] at hmatch halternates
    exact ⟨by rw [hmatch]; rfl, by rw [halternates]; rfl⟩
  · rintro ⟨hmatch, halternates⟩
    have hbegun : Begun 0 [] .operand := .firstFactor (.firstTerm .start)
    exact derivable_of_tests hbegun halternates hmatch

end Abacus
