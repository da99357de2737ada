/-
Module: Abacus.Proofs.ExpressionTree
Purpose: Trees of expressions, their post-order listings and their values in exact fractions. The
  evaluation of a listing is the evaluation of its tree: a value if no division by zero is met, and
  else the first such division in post-order. Conversely only listings of trees have a value.
Main exports: ExprTree, ExprTree.postorder, ExprTree.value, ExprTree.firstZeroDivision?,
  pushTokens_postorder, postfixValue_eq_ok_iff
-/
import Abacus.Postfix.Value

namespace Abacus

/-! ### Tokens of a listing -/

/-- Whether a token belongs into a listing in postfix order: the numbers and the operators do. -/
def Token.isListed (token : Token) : Bool :=
  token.isOperand || token.isOperator

@[simp] theorem isOperand_operand (value position : Int) :
    Token.isOperand ⟨.operand value, position⟩ = true := by
  rfl

@[simp] theorem isOperand_operator (op : Operation) (position : Int) :
    Token.isOperand ⟨.operator op, position⟩ = false := by
  cases op <;> rfl

@[simp] theorem isOperator_operator (op : Operation) (position : Int) :
    Token.isOperator ⟨.operator op, position⟩ = true := by
  cases op <;> rfl

@[simp] theorem isListed_operand (value position : Int) :
    Token.isListed ⟨.operand value, position⟩ = true := by
  rfl

@[simp] theorem isListed_operator (op : Operation) (position : Int) :
    Token.isListed ⟨.operator op, position⟩ = true := by
  simp [Token.isListed]

/-- An operator of a listing is one of the four operations. -/
theorem operator_of_isOperator {token : Token} (h : token.isOperator = true) :
    ∃ (op : Operation) (position : Int), token = ⟨.operator op, position⟩ := by
  obtain ⟨lexeme, position⟩ := token
  cases lexeme with
  | operator op => exact ⟨op, position, rfl⟩
  | _ => cases h

/-! ### Trees -/

/-- The exact result of an operation; of a division only where the divisor is not zero. -/
def Operation.result : Operation → Rat → Rat → Rat
  | .add => (· + ·)
  | .sub => (· - ·)
  | .mul => (· * ·)
  | .div => (· / ·)

/-- The tree of an expression. Numbers and operators keep their positions in the source. -/
inductive ExprTree where
  | literal (value position : Int)
  | node (op : Operation) (position : Int) (lhs rhs : ExprTree)
deriving DecidableEq, Repr, Inhabited

namespace ExprTree

/-- The tokens of a tree, operands before their operator. -/
def postorder : ExprTree → List Token
  | literal value position => [⟨.operand value, position⟩]
  | node op position lhs rhs => lhs.postorder ++ rhs.postorder ++ [⟨.operator op, position⟩]

/-- The value of a tree, from the values of its two halves. -/
def value : ExprTree → Rat
  | literal value _ => value
  | node op _ lhs rhs => op.result lhs.value rhs.value

/-- All subtrees, in post-order. -/
def subtrees : ExprTree → List ExprTree
  | literal value position => [literal value position]
  | node op position lhs rhs => lhs.subtrees ++ rhs.subtrees ++ [node op position lhs rhs]

/-- The position of the root and the value of the dividend, if the root divides by a tree of
    value zero. -/
def zeroDivision? : ExprTree → Option (Int × Rat)
  | node .div position lhs rhs => if rhs.value = 0 then some (position, lhs.value) else none
  | _ => none

/-- The first division by zero in post-order. -/
def firstZeroDivision? (tree : ExprTree) : Option (Int × Rat) :=
  tree.subtrees.findSome? zeroDivision?

@[simp] theorem firstZeroDivision?_literal (value position : Int) :
    (literal value position).firstZeroDivision? = none := by
  rfl

/-- A division by zero on the left comes before one on the right, and both before the root. -/
@[simp] theorem firstZeroDivision?_node (op : Operation) (position : Int) (lhs rhs : ExprTree) :
    (node op position lhs rhs).firstZeroDivision? =
      lhs.firstZeroDivision?.or (rhs.firstZeroDivision?.or
        (node op position lhs rhs).zeroDivision?) := by
  simp [firstZeroDivision?, subtrees, List.findSome?_append]

end ExprTree

/-! ### From trees to values -/

/-- Tokens are put to a stack one after another. -/
theorem pushTokens_append (stack : List Rat) (first second : List Token) :
    pushTokens stack (first ++ second) =
      match pushTokens stack first with
      | .ok next => pushTokens next second
      | .error fault => .error fault := by
  induction first generalizing stack with
  | nil => rfl
  | cons token rest ih =>
      simp only [List.cons_append, pushTokens]
      cases pushToken stack token with
      | ok next => exact ih next
      | error fault => rfl

/-- An operator on the two operands it finds: its result, or a division by zero. -/
theorem pushToken_operator (op : Operation) (position : Int) (lhs rhs : ExprTree)
    (stack : List Rat) :
    pushToken (rhs.value :: lhs.value :: stack) ⟨.operator op, position⟩ =
      match (ExprTree.node op position lhs rhs).zeroDivision? with
      | none => .ok ((ExprTree.node op position lhs rhs).value :: stack)
      | some (place, dividend) => .error (.divisionByZero place dividend) := by
  cases op with
  | add => rfl
  | sub => rfl
  | mul => rfl
  | div =>
      by_cases hzero : rhs.value = 0 <;>
        simp [pushToken, Operation.apply?, ExprTree.zeroDivision?, ExprTree.value,
          Operation.result, hzero]

/-- The listing of a tree leaves the value of the tree on the stack, or fails at the first
    division by zero. -/
theorem pushTokens_postorder (tree : ExprTree) (stack : List Rat) (rest : List Token) :
    pushTokens stack (tree.postorder ++ rest) =
      match tree.firstZeroDivision? with
      | none => pushTokens (tree.value :: stack) rest
      | some (position, dividend) => .error (.divisionByZero position dividend) := by
  induction tree generalizing stack rest with
  | literal value position => rfl
  | node op position lhs rhs ihl ihr =>
      simp only [ExprTree.postorder, List.append_assoc, List.cons_append, List.nil_append,
        ExprTree.firstZeroDivision?_node]
      rw [ihl]
      cases lhs.firstZeroDivision? with
      | some division => rfl
      | none =>
          simp only [Option.none_or]
          rw [ihr]
          cases rhs.firstZeroDivision? with
          | some division => rfl
          | none =>
              simp only [Option.none_or, pushTokens]
              rw [pushToken_operator]
              cases (ExprTree.node op position lhs rhs).zeroDivision? <;> rfl

/-- The evaluation of the listing of a tree. -/
theorem postfixValue_postorder (tree : ExprTree) :
    postfixValue tree.postorder =
      match tree.firstZeroDivision? with
      | none => .ok tree.value
      | some (position, dividend) => .error (.divisionByZero position dividend) := by
  have h := pushTokens_postorder tree [] []
  rw [List.append_nil] at h
  rw [postfixValue, h]
  cases tree.firstZeroDivision? <;> rfl

/-! ### From values to trees -/

/-- The listing of several trees, the last one of which comes first in the list, as on a stack. -/
def forestListing (forest : List ExprTree) : List Token :=
  forest.reverse.flatMap ExprTree.postorder

/-- Trees without a division by zero. -/
def ExprTree.Defined (tree : ExprTree) : Prop :=
  tree.firstZeroDivision? = none

@[simp] theorem forestListing_cons (tree : ExprTree) (forest : List ExprTree) :
    forestListing (tree :: forest) = forestListing forest ++ tree.postorder := by
  simp [forestListing]

/-- A token that is put to a stack of values without a fault makes the forest grow by a leaf, or
    joins its two latest trees. -/
theorem forest_of_pushToken {token : Token} {forest : List ExprTree} {stack : List Rat}
    (hdefined : ∀ tree ∈ forest, tree.Defined)
    (h : pushToken (forest.map ExprTree.value) token = .ok stack) :
    ∃ grown : List ExprTree, forestListing forest ++ [token] = forestListing grown ∧
      stack = grown.map ExprTree.value ∧ ∀ tree ∈ grown, tree.Defined := by
  obtain ⟨lexeme, position⟩ := token
  cases lexeme with
  | operand value =>
      cases h
      refine ⟨.literal value position :: forest, by simp [ExprTree.postorder], rfl, ?_⟩
      simpa [ExprTree.Defined] using hdefined
  | operator op =>
      match forest, hdefined, h with
      | [], _, h => cases h
      | [_], _, h => cases h
      | rhs :: lhs :: below, hdefined, h =>
          simp only [List.map_cons] at h
          rw [pushToken_operator] at h
          split at h
          · rename_i hroot
            cases h
            refine ⟨.node op position lhs rhs :: below, by simp [ExprTree.postorder], rfl, ?_⟩
            simp only [List.forall_mem_cons, ExprTree.Defined] at hdefined ⊢
            obtain ⟨hrhs, hlhs, hbelow⟩ := hdefined
            exact ⟨by simp [hlhs, hrhs, hroot], hbelow⟩
          · cases h
  | openBracket => cases h
  | closeBracket => cases h
  | begin => cases h
  | finish => cases h

/-- Tokens that are put to a stack of values without a fault are the listing of trees, and the
    stack holds the values of the trees. -/
theorem forest_of_pushTokens {tokens : List Token} {forest : List ExprTree} {stack : List Rat}
    (hdefined : ∀ tree ∈ forest, tree.Defined)
    (h : pushTokens (forest.map ExprTree.value) tokens = .ok stack) :
    ∃ grown : List ExprTree, forestListing forest ++ tokens = forestListing grown ∧
      stack = grown.map ExprTree.value ∧ ∀ tree ∈ grown, tree.Defined := by
  induction tokens generalizing forest with
  | nil =>
      cases h
      exact ⟨forest, List.append_nil _, rfl, hdefined⟩
  | cons token rest ih =>
      simp only [pushTokens] at h
      split at h
      · rename_i next hnext
        obtain ⟨joined, hlisting, rfl, hjoined⟩ := forest_of_pushToken hdefined hnext
        obtain ⟨grown, hgrown, hstack, hall⟩ := ih hjoined h
        refine ⟨grown, ?_, hstack, hall⟩
        rw [← hgrown, ← hlisting, List.append_assoc]
        rfl
      · cases h

/-- Exactly the listings of trees without a division by zero have a value, and it is the value of
    the tree. -/
theorem postfixValue_eq_ok_iff {tokens : List Token} {value : Rat} :
    postfixValue tokens = .ok value ↔
      ∃ tree : ExprTree, tokens = tree.postorder ∧ tree.Defined ∧ value = tree.value := by
  constructor
  · intro h
    simp only [postfixValue] at h
    split at h
    · cases h
    · cases h
    · next result hresult =>
        obtain rfl := Except.ok.inj h
        have hempty : pushTokens (([] : List ExprTree).map ExprTree.value) tokens =
            .ok [result] := hresult
        obtain ⟨grown, hlisting, hstack, hdefined⟩ := forest_of_pushTokens (by simp) hempty
        match grown, hlisting, hstack, hdefined with
        | [tree], hlisting, hstack, hdefined =>
            refine ⟨tree, by simpa [forestListing] using hlisting, hdefined tree (by simp), ?_⟩
            simpa using hstack
    · cases h
  · rintro ⟨tree, rfl, hdefined, rfl⟩
    rw [postfixValue_postorder, hdefined]

end Abacus
