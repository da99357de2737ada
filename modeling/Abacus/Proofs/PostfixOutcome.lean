/-
Module: Abacus.Proofs.PostfixOutcome
Purpose: How the evaluation of tokens in postfix order ends, for every list of tokens. Tokens that
  are put to the stack without a fault are the listing of trees, and of these trees only; so what a
  token finds on the stack are the values of the trees listed before it, and each way to end has
  lists of its own kind.
Main exports: forestListing_injective, pushTokens_eq_ok_iff, Meets, postfixValue_eq_error_iff,
  postfixValue_outcome
-/
import Abacus.Proofs.ExpressionTree
import Abacus.Proofs.WrittenReports

namespace Abacus

/-! ### A listing is read in one way -/

/-- A token added to the trees read so far: a number is a tree by itself, an operator joins the two
    latest trees, if there are two. -/
def growForest (forest : List ExprTree) (token : Token) : List ExprTree :=
  match token.lexeme, forest with
  | .operand value, forest => .literal value token.position :: forest
  | .operator op, rhs :: lhs :: below => .node op token.position lhs rhs :: below
  | _, forest => forest

/-- Reading the listing of a tree gives the tree, whatever was read before. -/
theorem foldl_growForest_postorder (tree : ExprTree) (forest : List ExprTree) :
    tree.postorder.foldl growForest forest = tree :: forest := by
  induction tree generalizing forest with
  | literal value position => rfl
  | node op position lhs rhs ihl ihr =>
      rw [ExprTree.postorder, List.foldl_append, List.foldl_append, ihl, ihr]
      rfl

/-- Reading the listing of trees gives the trees. -/
theorem foldl_growForest_listing (forest : List ExprTree) :
    (forestListing forest).foldl growForest [] = forest := by
  induction forest with
  | nil => rfl
  | cons tree forest ih =>
      rw [forestListing_cons, List.foldl_append, ih, foldl_growForest_postorder]

/-- Different trees have different listings, however many trees there are. -/
theorem forestListing_injective : Function.Injective forestListing := by
  intro forest other h
  have hread := congrArg (List.foldl growForest []) h
  rwa [foldl_growForest_listing, foldl_growForest_listing] at hread

/-- The listing of a single tree. -/
theorem forestListing_singleton (tree : ExprTree) : forestListing [tree] = tree.postorder := by
  simp [forestListing]

/-- Different trees have different listings. -/
theorem postorder_injective : Function.Injective ExprTree.postorder := by
  intro tree other h
  rw [← forestListing_singleton, ← forestListing_singleton] at h
  exact (List.cons.inj (forestListing_injective h)).1

/-! ### The stack as a forest -/

/-- Trees none of which divides by zero anywhere. -/
def AllDefined (forest : List ExprTree) : Prop :=
  ∀ tree ∈ forest, tree.Defined

/-- The listing of trees without a division by zero puts their values on the stack. -/
theorem pushTokens_forestListing {forest : List ExprTree} (hdefined : AllDefined forest) :
    pushTokens [] (forestListing forest) = .ok (forest.map ExprTree.value) := by
  induction forest with
  | nil => rfl
  | cons tree forest ih =>
      obtain ⟨htree, hforest⟩ := List.forall_mem_cons.mp hdefined
      have hlast := pushTokens_postorder tree (forest.map ExprTree.value) []
      rw [List.append_nil, htree] at hlast
      rw [forestListing_cons, pushTokens_append, ih hforest]
      exact hlast

/-- Tokens that are put to the empty stack without a fault are the listings of trees without a
    division by zero, and leave their values. -/
theorem pushTokens_eq_ok_iff {tokens : List Token} {stack : List Rat} :
    pushTokens [] tokens = .ok stack ↔
      ∃ forest : List ExprTree, AllDefined forest ∧ tokens = forestListing forest ∧
        stack = forest.map ExprTree.value := by
  constructor
  · intro h
    have hempty : pushTokens (([] : List ExprTree).map ExprTree.value) tokens = .ok stack := h
    obtain ⟨forest, hlisting, hstack, hdefined⟩ := forest_of_pushTokens (by simp) hempty
    exact ⟨forest, hdefined, hlisting, hstack⟩
  · rintro ⟨forest, hdefined, rfl, rfl⟩
    exact pushTokens_forestListing hdefined

/-! ### Where an evaluation fails -/

/-- The faults that tokens meet behind the listings of trees, the latest tree first. -/
inductive Meets : List ExprTree → Token → EvaluationFault → Prop where
  | misplaced {forest : List ExprTree} {token : Token} (hlisted : token.isListed = false) :
      Meets forest token (.misplaced token)
  | underflow {forest : List ExprTree} (op : Operation) (position : Int)
      (hfew : forest.length < 2) :
      Meets forest ⟨.operator op, position⟩
        (.underflow ⟨.operator op, position⟩ forest.length)
  | divisionByZero {rhs lhs : ExprTree} {below : List ExprTree} (position : Int)
      (hzero : rhs.value = 0) :
      Meets (rhs :: lhs :: below) ⟨.operator .div, position⟩ (.divisionByZero position lhs.value)

/-- The root of a tree divides by zero only if it is a division. -/
theorem zeroDivision?_eq_some_iff {op : Operation} {position place : Int} {lhs rhs : ExprTree}
    {dividend : Rat} :
    (ExprTree.node op position lhs rhs).zeroDivision? = some (place, dividend) ↔
      op = .div ∧ rhs.value = 0 ∧ place = position ∧ dividend = lhs.value := by
  cases op with
  | div =>
      by_cases hzero : rhs.value = 0
      · simp [ExprTree.zeroDivision?, hzero, eq_comm]
      · simp [ExprTree.zeroDivision?, hzero]
  | _ => simp [ExprTree.zeroDivision?]

/-- A token fails on the values of trees exactly with a fault that it meets behind the trees. -/
theorem pushToken_eq_error_iff {forest : List ExprTree} {token : Token}
    {fault : EvaluationFault} :
    pushToken (forest.map ExprTree.value) token = .error fault ↔ Meets forest token fault := by
  constructor
  · intro h
    obtain ⟨lexeme, position⟩ := token
    cases lexeme with
    | operand value => cases h
    | operator op =>
        obtain _ | ⟨rhs, _ | ⟨lhs, below⟩⟩ := forest
        · cases h
          exact .underflow op position (by simp)
        · cases h
          exact .underflow op position (by simp)
        · simp only [List.map_cons] at h
          rw [pushToken_operator] at h
          split at h
          · cases h
          · rename_i place dividend hdivision
            cases h
            obtain ⟨rfl, hzero, rfl, rfl⟩ := zeroDivision?_eq_some_iff.mp hdivision
            exact .divisionByZero place hzero
    | openBracket | closeBracket | begin | finish =>
        cases h
        exact .misplaced rfl
  · intro h
    cases h with
    | misplaced hlisted =>
        obtain ⟨lexeme, position⟩ := token
        cases lexeme with
        | operand value => cases hlisted
        | operator op => simp [Token.isListed] at hlisted
        | _ => rfl
    | underflow op position hfew =>
        obtain _ | ⟨rhs, _ | ⟨lhs, below⟩⟩ := forest
        · rfl
        · rfl
        · simp only [List.length_cons] at hfew
          omega
    | @divisionByZero rhs lhs below position hzero =>
        have hdivision : (ExprTree.node .div position lhs rhs).zeroDivision? =
            some (position, lhs.value) :=
          zeroDivision?_eq_some_iff.mpr ⟨rfl, hzero, rfl, rfl⟩
        simp only [List.map_cons]
        rw [pushToken_operator .div position lhs rhs, hdivision]

/-- Tokens fail at the first of them that fails on what those before it have left. -/
theorem pushTokens_eq_error_iff {stack : List Rat} {tokens : List Token}
    {fault : EvaluationFault} :
    pushTokens stack tokens = .error fault ↔
      ∃ (before : List Token) (token : Token) (after : List Token) (next : List Rat),
        tokens = before ++ token :: after ∧ pushTokens stack before = .ok next ∧
          pushToken next token = .error fault := by
  constructor
  · intro h
    induction tokens generalizing stack with
    | nil => cases h
    | cons token rest ih =>
        simp only [pushTokens] at h
        split at h
        · next next hnext =>
            obtain ⟨before, culprit, after, last, rfl, hbefore, hculprit⟩ := ih h
            refine ⟨token :: before, culprit, after, last, rfl, ?_, hculprit⟩
            simp only [pushTokens, hnext]
            exact hbefore
        · next hfault =>
            cases h
            exact ⟨[], token, rest, stack, rfl, rfl, hfault⟩
  · rintro ⟨before, token, after, next, rfl, hbefore, htoken⟩
    rw [pushTokens_append, hbefore]
    simp only [pushTokens, htoken]

/-- Tokens meet a fault on the empty stack exactly where some token meets it behind the trees that
    are listed before it. -/
theorem pushTokens_nil_eq_error_iff {tokens : List Token} {fault : EvaluationFault} :
    pushTokens [] tokens = .error fault ↔
      ∃ (forest : List ExprTree) (token : Token) (after : List Token), AllDefined forest ∧
        tokens = forestListing forest ++ token :: after ∧ Meets forest token fault := by
  rw [pushTokens_eq_error_iff]
  constructor
  · rintro ⟨before, token, after, next, rfl, hbefore, htoken⟩
    obtain ⟨forest, hdefined, rfl, rfl⟩ := pushTokens_eq_ok_iff.mp hbefore
    exact ⟨forest, token, after, hdefined, rfl, pushToken_eq_error_iff.mp htoken⟩
  · rintro ⟨forest, token, after, hdefined, rfl, hmeets⟩
    exact ⟨forestListing forest, token, after, forest.map ExprTree.value, rfl,
      pushTokens_forestListing hdefined, pushToken_eq_error_iff.mpr hmeets⟩

/-- The number of trees that is left to be joined. -/
theorem postfixValue_forestListing {forest : List ExprTree} (hdefined : AllDefined forest)
    (hmany : 2 ≤ forest.length) :
    postfixValue (forestListing forest) = .error (.unjoined forest.length) := by
  rw [postfixValue, pushTokens_forestListing hdefined]
  obtain _ | ⟨last, _ | ⟨earlier, below⟩⟩ := forest
  · simp at hmany
  · simp at hmany
  · simp

/-- The ways in which the evaluation of tokens ends with a fault: some token meets it behind the
    trees that are listed before it, or the tokens list trees whose number is not one. -/
theorem postfixValue_eq_error_iff {tokens : List Token} {fault : EvaluationFault} :
    postfixValue tokens = .error fault ↔
      (∃ (forest : List ExprTree) (token : Token) (after : List Token), AllDefined forest ∧
        tokens = forestListing forest ++ token :: after ∧ Meets forest token fault) ∨
      (tokens = [] ∧ fault = .noValue) ∨
      (∃ forest : List ExprTree, AllDefined forest ∧ tokens = forestListing forest ∧
        2 ≤ forest.length ∧ fault = .unjoined forest.length) := by
  constructor
  · intro h
    cases hpush : pushTokens [] tokens with
    | error met =>
        rw [postfixValue, hpush] at h
        cases h
        exact .inl (pushTokens_nil_eq_error_iff.mp hpush)
    | ok stack =>
        obtain ⟨forest, hdefined, rfl, rfl⟩ := pushTokens_eq_ok_iff.mp hpush
        obtain _ | ⟨last, _ | ⟨earlier, below⟩⟩ := forest
        · cases h
          exact .inr (.inl ⟨rfl, rfl⟩)
        · rw [postfixValue, hpush] at h
          cases h
        · rw [postfixValue_forestListing hdefined (by simp)] at h
          cases h
          exact .inr (.inr ⟨last :: earlier :: below, hdefined, rfl, by simp, rfl⟩)
  · rintro (hmeets | ⟨rfl, rfl⟩ | ⟨forest, hdefined, rfl, hmany, rfl⟩)
    · rw [postfixValue, pushTokens_nil_eq_error_iff.mpr hmeets]
    · rfl
    · exact postfixValue_forestListing hdefined hmany

/-! ### The outcomes one by one -/

variable {tokens : List Token}

/-- The faults that arise on a token, and not when all tokens are put. -/
def EvaluationFault.onToken : EvaluationFault → Bool
  | misplaced _ | underflow _ _ | divisionByZero _ _ => true
  | noValue | unjoined _ => false

/-- A fault on a token is met behind the trees that are listed before the token. -/
theorem postfixValue_meets_iff {fault : EvaluationFault} (honToken : fault.onToken = true) :
    postfixValue tokens = .error fault ↔
      ∃ (forest : List ExprTree) (token : Token) (after : List Token), AllDefined forest ∧
        tokens = forestListing forest ++ token :: after ∧ Meets forest token fault := by
  rw [postfixValue_eq_error_iff]
  constructor
  · rintro (hmeets | ⟨_, rfl⟩ | ⟨forest, _, _, _, rfl⟩)
    · exact hmeets
    · cases honToken
    · cases honToken
  · exact .inl

/-- A fault that a token meets is a fault on a token. -/
theorem onToken_of_meets {forest : List ExprTree} {token : Token} {fault : EvaluationFault}
    (h : Meets forest token fault) : fault.onToken = true := by
  cases h <;> rfl

/-- An operator finds too few values exactly if fewer than two trees are listed before it. -/
theorem postfixValue_underflow_iff {token : Token} {available : Nat} :
    postfixValue tokens = .error (.underflow token available) ↔
      ∃ (forest : List ExprTree) (after : List Token), AllDefined forest ∧
        tokens = forestListing forest ++ token :: after ∧ token.isOperator = true ∧
          forest.length < 2 ∧ available = forest.length := by
  rw [postfixValue_meets_iff rfl]
  constructor
  · rintro ⟨forest, token, after, hdefined, rfl, hmeets⟩
    cases hmeets with
    | underflow op position hfew =>
        exact ⟨forest, after, hdefined, rfl, isOperator_operator op position, hfew, rfl⟩
  · rintro ⟨forest, after, hdefined, rfl, hoperator, hfew, rfl⟩
    obtain ⟨op, position, rfl⟩ := operator_of_isOperator hoperator
    exact ⟨forest, _, after, hdefined, rfl, .underflow op position hfew⟩

/-- A division is by zero exactly if two trees or more are listed before it and the latest one has
    the value zero. -/
theorem postfixValue_divisionByZero_iff {position : Int} {dividend : Rat} :
    postfixValue tokens = .error (.divisionByZero position dividend) ↔
      ∃ (rhs lhs : ExprTree) (below : List ExprTree) (after : List Token),
        AllDefined (rhs :: lhs :: below) ∧
        tokens = forestListing (rhs :: lhs :: below) ++ ⟨.operator .div, position⟩ :: after ∧
          rhs.value = 0 ∧ dividend = lhs.value := by
  rw [postfixValue_meets_iff rfl]
  constructor
  · rintro ⟨forest, token, after, hdefined, rfl, hmeets⟩
    cases hmeets with
    | @divisionByZero rhs lhs below position hzero =>
        exact ⟨rhs, lhs, below, after, hdefined, rfl, hzero, rfl⟩
  · rintro ⟨rhs, lhs, below, after, hdefined, rfl, hzero, rfl⟩
    exact ⟨rhs :: lhs :: below, _, after, hdefined, rfl, .divisionByZero position hzero⟩

/-- A bracket or a sentinel is refused exactly if trees are listed before it and nothing else. -/
theorem postfixValue_misplaced_iff {token : Token} :
    postfixValue tokens = .error (.misplaced token) ↔
      ∃ (forest : List ExprTree) (after : List Token), AllDefined forest ∧
        tokens = forestListing forest ++ token :: after ∧ token.isListed = false := by
  rw [postfixValue_meets_iff rfl]
  constructor
  · rintro ⟨forest, token, after, hdefined, rfl, hmeets⟩
    cases hmeets with
    | misplaced hlisted => exact ⟨forest, after, hdefined, rfl, hlisted⟩
  · rintro ⟨forest, after, hdefined, rfl, hlisted⟩
    exact ⟨forest, token, after, hdefined, rfl, .misplaced hlisted⟩

/-- Only the empty list has no value to offer. -/
theorem postfixValue_noValue_iff : postfixValue tokens = .error .noValue ↔ tokens = [] := by
  rw [postfixValue_eq_error_iff]
  constructor
  · rintro (⟨_, _, _, _, _, hmeets⟩ | ⟨htokens, _⟩ | ⟨_, _, _, _, hfault⟩)
    · cases onToken_of_meets hmeets
    · exact htokens
    · cases hfault
  · intro h
    exact .inr (.inl ⟨h, rfl⟩)

/-- Values are left unjoined exactly if two trees or more are listed and nothing else. -/
theorem postfixValue_unjoined_iff {count : Nat} :
    postfixValue tokens = .error (.unjoined count) ↔
      ∃ forest : List ExprTree, AllDefined forest ∧ tokens = forestListing forest ∧
        2 ≤ forest.length ∧ count = forest.length := by
  rw [postfixValue_eq_error_iff]
  constructor
  · rintro (⟨_, _, _, _, _, hmeets⟩ | ⟨_, hfault⟩ | ⟨forest, hdefined, hlisting, hmany, hfault⟩)
    · cases onToken_of_meets hmeets
    · cases hfault
    · cases hfault
      exact ⟨forest, hdefined, hlisting, hmany, rfl⟩
  · rintro ⟨forest, hdefined, hlisting, hmany, rfl⟩
    exact .inr (.inr ⟨forest, hdefined, hlisting, hmany, rfl⟩)

/-- Where a bracket or a sentinel stands, the evaluation fails on it or has failed before. -/
theorem postfixValue_of_unlisted (before : List Token) {token : Token} (after : List Token)
    (hlisted : token.isListed = false) :
    postfixValue (before ++ token :: after) = .error (.misplaced token) ∨
      ∃ (forest : List ExprTree) (culprit : Token) (later : List Token) (fault : EvaluationFault),
        AllDefined forest ∧ before = forestListing forest ++ culprit :: later ∧
          Meets forest culprit fault ∧
            postfixValue (before ++ token :: after) = .error fault := by
  cases hbefore : pushTokens [] before with
  | ok stack =>
      obtain ⟨forest, hdefined, rfl, _⟩ := pushTokens_eq_ok_iff.mp hbefore
      exact .inl (postfixValue_misplaced_iff.mpr ⟨forest, after, hdefined, rfl, hlisted⟩)
  | error fault =>
      obtain ⟨forest, culprit, later, hdefined, rfl, hmeets⟩ :=
        pushTokens_nil_eq_error_iff.mp hbefore
      refine .inr ⟨forest, culprit, later, fault, hdefined, rfl, hmeets, ?_⟩
      rw [postfixValue, pushTokens_append, hbefore]

/-- A list has the value of the one tree it lists, if no division by zero is in it. -/
theorem postfixValue_eq_ok_iff_unique {value : Rat} :
    postfixValue tokens = .ok value ↔
      ∃ tree : ExprTree, tokens = tree.postorder ∧
        (∀ other : ExprTree, tokens = other.postorder → other = tree) ∧
          tree.Defined ∧ value = tree.value := by
  rw [postfixValue_eq_ok_iff]
  constructor
  · rintro ⟨tree, rfl, hdefined, hvalue⟩
    exact ⟨tree, rfl, fun other h => postorder_injective h.symm, hdefined, hvalue⟩
  · rintro ⟨tree, hlisting, _, hdefined, hvalue⟩
    exact ⟨tree, hlisting, hdefined, hvalue⟩

/-- The complete outcome of an evaluation, for every list of tokens. It has a value exactly if it
    is the listing of a tree without a division by zero, and only one tree has this listing. Each
    fault has its lists, by the trees that are listed before the token on which it arises, or by
    the number of trees where all tokens are put: not one of the lists has two outcomes or none.
    On a bracket or a sentinel the evaluation fails, unless it has failed before. The report on a
    fault is made if the numbers that it shows can be written: the place of the token, and of a
    division by zero the dividend. -/
theorem postfixValue_outcome (tokens : List Token) :
    (∀ value : Rat, postfixValue tokens = .ok value ↔
      ∃ tree : ExprTree, tokens = tree.postorder ∧
        (∀ other : ExprTree, tokens = other.postorder → other = tree) ∧
          tree.Defined ∧ value = tree.value) ∧
    (∀ (token : Token) (available : Nat),
      postfixValue tokens = .error (.underflow token available) ↔
        ∃ (forest : List ExprTree) (after : List Token), AllDefined forest ∧
          tokens = forestListing forest ++ token :: after ∧ token.isOperator = true ∧
            forest.length < 2 ∧ available = forest.length) ∧
    (∀ (position : Int) (dividend : Rat),
      postfixValue tokens = .error (.divisionByZero position dividend) ↔
        ∃ (rhs lhs : ExprTree) (below : List ExprTree) (after : List Token),
          AllDefined (rhs :: lhs :: below) ∧
          tokens = forestListing (rhs :: lhs :: below) ++ ⟨.operator .div, position⟩ :: after ∧
            rhs.value = 0 ∧ dividend = lhs.value) ∧
    (postfixValue tokens = .error .noValue ↔ tokens = []) ∧
    (∀ count : Nat, postfixValue tokens = .error (.unjoined count) ↔
      ∃ forest : List ExprTree, AllDefined forest ∧ tokens = forestListing forest ∧
        2 ≤ forest.length ∧ count = forest.length) ∧
    (∀ token : Token, postfixValue tokens = .error (.misplaced token) ↔
      ∃ (forest : List ExprTree) (after : List Token), AllDefined forest ∧
        tokens = forestListing forest ++ token :: after ∧ token.isListed = false) ∧
    (∀ (before : List Token) (token : Token) (after : List Token),
      tokens = before ++ token :: after → token.isListed = false →
        postfixValue tokens = .error (.misplaced token) ∨
          ∃ (forest : List ExprTree) (culprit : Token) (later : List Token)
            (fault : EvaluationFault), AllDefined forest ∧
              before = forestListing forest ++ culprit :: later ∧ Meets forest culprit fault ∧
                postfixValue tokens = .error fault) ∧
    ∀ fault : EvaluationFault, postfixValue tokens = .error fault →
      fault.outline.Makes fault.report? := by
  refine ⟨fun value => postfixValue_eq_ok_iff_unique, fun token available =>
    postfixValue_underflow_iff, fun position dividend => postfixValue_divisionByZero_iff,
    postfixValue_noValue_iff, fun count => postfixValue_unjoined_iff,
    fun token => postfixValue_misplaced_iff, ?_, fun fault _ => fault.makes⟩
  rintro before token after rfl hlisted
  exact postfixValue_of_unlisted before after hlisted

/-- A product of 8001 digits, divided by zero: the division fails, and there is no report. -/
theorem postfixValue_longDividend :
    ∃ fault : EvaluationFault,
      postfixValue [⟨.operand (10 ^ 4000), 0⟩, ⟨.operand (10 ^ 4000), 1⟩, ⟨.operator .mul, 2⟩,
        ⟨.operand 0, 3⟩, ⟨.operator .div, 4⟩] = .error fault ∧ fault.report? = none := by
  have hproduct : ((10 ^ 4000 : Int) : Rat) * ((10 ^ 4000 : Int) : Rat) =
      ((10 ^ 8000 : Int) : Rat) := by
    rw [← Rat.intCast_mul, ← Int.pow_add]
  have hlong : ¬ Text.IsWritable (10 ^ 8000) :=
    mt Text.isWritable_ten_pow_iff.mp (by decide)
  refine ⟨.divisionByZero 4 ((10 ^ 8000 : Int) : Rat), ?_,
    EvaluationFault.report?_divisionByZero_of_long hlong 4⟩
  simp only [postfixValue, pushTokens, pushToken, Operation.apply?, hproduct]
  rfl

end Abacus
