/-
Module: Abacus.Proofs.InfixMeaning
Purpose: What infix expressions mean. A derivation of the grammar and the shunting yard go through
  the tokens together: after each nonterminal, the operators that wait and the output so far make
  up the listing of its tree. So the postfix order of an expression is the listing of its tree, and
  its value the value of the tree.
Main exports: Passes, passes_of_derives, toPostfix_of_derives, Calculator.evaluate_of_derives
-/
import Mathlib.Control.Monad.Basic
import Abacus.Proofs.CalculatorStages
import Abacus.Proofs.InfixGrammar

namespace Abacus

/-! ### Derivations in the yard -/

/-- The operators that may still wait when all tokens of a nonterminal have been put. -/
def Nonterminal.leaves : Nonterminal → Token → Bool
  | .expression => Token.bindsAtLeast 1
  | .term => Token.bindsAtLeast 2
  | .factor => fun _ => false

theorem bindsAtLeast_one_of_two (token : Token) (h : token.bindsAtLeast 2 = true) :
    token.bindsAtLeast 1 = true := by
  obtain ⟨lexeme, position⟩ := token
  cases lexeme with
  | operator op =>
      cases op with
      | add | sub => cases h
      | mul | div => rfl
  | _ => cases h

theorem priority_of_weak {op : Operation} (h : op.kind = .weak) : op.priority = 1 := by
  cases op with
  | add | sub => rfl
  | mul | div => cases h

theorem priority_of_strong {op : Operation} (h : op.kind = .strong) : op.priority = 2 := by
  cases op with
  | add | sub => cases h
  | mul | div => rfl

/-- An operator sends what waits of its left operand to the output and waits in its place. -/
theorem putAll_operator {op : Operation} {pending operators : List Token}
    (hpending : ∀ token ∈ pending, token.bindsAtLeast op.priority = true)
    (hsettled : Settled (Token.bindsAtLeast op.priority) operators) (position : Int)
    (output rest : List Token) :
    Yard.putAll ⟨pending ++ operators, output⟩ (⟨.operator op, position⟩ :: rest) =
      Yard.putAll ⟨⟨.operator op, position⟩ :: operators, pending.reverse ++ output⟩ rest := by
  simp only [Yard.putAll, Yard.put, Yard.popWhile_append output hpending hsettled]

/-- A closing bracket sends what waits inside the brackets to the output. -/
theorem putAll_closeBracket {pending : List Token}
    (hpending : ∀ token ∈ pending, token.isInside = true) (opening closing : Int)
    (operators output rest : List Token) :
    Yard.putAll ⟨pending ++ ⟨.openBracket, opening⟩ :: operators, output⟩
        (⟨.closeBracket, closing⟩ :: rest) =
      Yard.putAll ⟨operators, pending.reverse ++ output⟩ rest := by
  have hsettled : Settled Token.isInside (⟨.openBracket, opening⟩ :: operators) := by
    rw [settled_cons]
    rfl
  simp only [Yard.putAll, Yard.put, Yard.popWhile_append output hpending hsettled]

/-- Tokens pass through the yard as the listing of a tree: what waits of them afterwards, operators
    of a certain strength, and what has come out of them make up the listing, and what waited
    before still waits below. -/
def Passes (leaves : Token → Bool) (tokens : List Token) (tree : ExprTree) : Prop :=
  ∀ operators : List Token, Settled leaves operators → ∀ output rest : List Token,
    ∃ pending ready : List Token,
      Yard.putAll ⟨operators, output⟩ (tokens ++ rest) =
        Yard.putAll ⟨pending ++ operators, ready ++ output⟩ rest ∧
      (∀ token ∈ pending, leaves token = true) ∧
      pending.reverse ++ ready = tree.postorder.reverse

/-- What passes with stronger operators passes with weaker ones. -/
theorem Passes.loosen {loose tight : Token → Bool} {tokens : List Token} {tree : ExprTree}
    (h : Passes tight tokens tree) (himp : ∀ token, tight token = true → loose token = true) :
    Passes loose tokens tree := by
  intro operators hsettled output rest
  have htight : Settled tight operators := by
    intro top htop
    cases htoken : tight top with
    | false => rfl
    | true => rw [← hsettled top htop, himp top htoken]
  obtain ⟨pending, ready, hput, hpending, hlisting⟩ := h operators htight output rest
  exact ⟨pending, ready, hput, fun token htoken => himp token (hpending token htoken), hlisting⟩

/-- An operator between two operands passes as a node, if only stronger operators wait of its right
    operand. -/
theorem Passes.node {op : Operation} {tight : Token → Bool} {left right : List Token}
    {lhs rhs : ExprTree} (position : Int)
    (himp : ∀ token, tight token = true → token.bindsAtLeast op.priority = true)
    (htight : tight ⟨.operator op, position⟩ = false)
    (hleft : Passes (Token.bindsAtLeast op.priority) left lhs) (hright : Passes tight right rhs) :
    Passes (Token.bindsAtLeast op.priority) (left ++ ⟨.operator op, position⟩ :: right)
      (.node op position lhs rhs) := by
  intro operators hsettled output rest
  obtain ⟨pendingLeft, readyLeft, hputLeft, hpendingLeft, hlistingLeft⟩ :=
    hleft operators hsettled output (⟨.operator op, position⟩ :: (right ++ rest))
  have hwaits : Settled tight (⟨.operator op, position⟩ :: operators) := by
    rwa [settled_cons]
  obtain ⟨pendingRight, readyRight, hputRight, hpendingRight, hlistingRight⟩ :=
    hright _ hwaits (lhs.postorder.reverse ++ output) rest
  refine ⟨pendingRight ++ [⟨.operator op, position⟩], readyRight ++ lhs.postorder.reverse,
    ?_, ?_, ?_⟩
  · rw [List.append_assoc, List.cons_append, hputLeft, putAll_operator hpendingLeft hsettled,
      ← List.append_assoc, hlistingLeft, hputRight]
    simp
  · intro token htoken
    rcases List.mem_append.mp htoken with hwaiting | hroot
    · exact himp token (hpendingRight token hwaiting)
    · obtain rfl := List.mem_singleton.mp hroot
      simp [Token.bindsAtLeast]
  · simp [ExprTree.postorder, ← hlistingRight]

/-- What stands between brackets passes with nothing left to wait. -/
theorem Passes.bracketed {level : Nat} {tokens : List Token} {tree : ExprTree}
    (h : Passes (Token.bindsAtLeast level) tokens tree) (opening closing : Int) :
    Passes (fun _ => false) (⟨.openBracket, opening⟩ :: (tokens ++ [⟨.closeBracket, closing⟩]))
      tree := by
  intro operators _ output rest
  have hsettled : Settled (Token.bindsAtLeast level) (⟨.openBracket, opening⟩ :: operators) := by
    rw [settled_cons]
    rfl
  obtain ⟨pending, ready, hput, hpending, hlisting⟩ :=
    h _ hsettled output (⟨.closeBracket, closing⟩ :: rest)
  refine ⟨[], tree.postorder.reverse, ?_, by simp, rfl⟩
  have hinside : ∀ token ∈ pending, token.isInside = true :=
    fun token htoken => isInside_of_bindsAtLeast (hpending token htoken)
  rw [List.cons_append, List.append_assoc, ← hlisting, List.append_assoc, List.nil_append,
    ← putAll_closeBracket hinside opening closing, ← List.cons_append, ← hput]
  rfl

/-- The tokens of a derivation pass through the yard as the listing of its tree. -/
theorem passes_of_derives {nonterminal : Nonterminal} {tokens : List Token} {tree : ExprTree}
    (h : Derives nonterminal tokens tree) : Passes nonterminal.leaves tokens tree := by
  -- A factor leaves nothing waiting, a term strong operators, and an expression weak ones too; so a
  -- factor passes as a term, and a term as an expression.
  induction h with
  | ofTerm _ ih => exact ih.loosen bindsAtLeast_one_of_two
  | weak position hop _ _ ihl ihr =>
      have hpriority := priority_of_weak hop
      simp only [Nonterminal.leaves, ← hpriority] at ihl ⊢
      refine Passes.node position ?_ ?_ ihl ihr
      · rw [hpriority]
        exact bindsAtLeast_one_of_two
      · simp [Nonterminal.leaves, Token.bindsAtLeast, hpriority]
  | ofFactor _ ih => exact ih.loosen (by simp [Nonterminal.leaves])
  | strong position hop _ _ ihl ihr =>
      have hpriority := priority_of_strong hop
      simp only [Nonterminal.leaves, ← hpriority] at ihl ⊢
      exact Passes.node position (by simp [Nonterminal.leaves]) rfl ihl ihr
  | literal value position =>
      intro operators _ output rest
      exact ⟨[], [⟨.operand value, position⟩], rfl, by simp, rfl⟩
  | bracketed opening closing _ ih => exact ih.bracketed opening closing

/-- The postfix order of an expression is the listing of its tree. -/
theorem toPostfix_of_derives {body : List Token} {tree : ExprTree}
    (h : Derives .expression body tree) (start finish : Int) :
    toPostfix (⟨.begin, start⟩ :: body ++ [⟨.finish, finish⟩]) = .ok tree.postorder := by
  obtain ⟨pending, ready, hput, hpending, hlisting⟩ :=
    passes_of_derives h [] (settled_nil _) [] []
  simp only [List.append_nil, Yard.putAll] at hput
  have hinside : ∀ token ∈ pending, token.isInside = true :=
    fun token htoken => isInside_of_bindsAtLeast (hpending token htoken)
  have hpop := Yard.popWhile_append ready hinside (settled_nil _)
  rw [List.append_nil] at hpop
  rw [toPostfix_of_putAll start hput finish, Yard.close, hpop, hlisting]
  show Except.ok tree.postorder.reverse.reverse = _
  rw [List.reverse_reverse]

/-! ### The value of an expression -/

namespace Calculator

theorem toPostfix_text_of_derives {calculator : Calculator} {expression : String}
    {body : List Token} {tree : ExprTree} {finish : Int} (hderives : Derives .expression body tree)
    (htokens : calculator.tokens expression =
      .ok (⟨.begin, 0⟩ :: body ++ [⟨.finish, finish⟩])) :
    calculator.toPostfix expression = .ok tree.postorder := by
  rw [toPostfix_of_tokens htokens, toPostfix_of_derives hderives]
  rfl

/-- The meaning of infix expressions. Whatever derivation the tokens of a text have, their postfix
    order is the listing of its tree; the exact value is that of the tree, rounded once for the
    result, unless some division in the tree is by zero. Then the evaluation fails at the first such
    division in post-order, and the report with its position is made if this and the dividend, which
    the report shows, can be written. -/
theorem evaluate_of_derives (calculator : Calculator) (expression : String) (body : List Token)
    (tree : ExprTree) (finish : Int) (hderives : Derives .expression body tree)
    (htokens : calculator.tokens expression =
      .ok (⟨.begin, 0⟩ :: body ++ [⟨.finish, finish⟩])) :
    calculator.toPostfix expression = .ok tree.postorder ∧
      match tree.firstZeroDivision? with
      | none =>
          calculator.evaluateExact expression = .ok tree.value ∧
            calculator.evaluate expression = .ok (roundHalfEven tree.value)
      | some (position, dividend) =>
          calculator.evaluateExact expression =
              .error (.evaluation (.divisionByZero position dividend)) ∧
            calculator.evaluate expression =
              .error (.evaluation (.divisionByZero position dividend)) ∧
            ({ kind := .divisionByZero
               place := some position
               details := [dividend.num, dividend.den] } : Report.Outline).Makes
              (Failure.evaluation (.divisionByZero position dividend)).report? := by
  have horder := toPostfix_text_of_derives hderives htokens
  have hexact := evaluateExact_of_toPostfix horder
  rw [postfixValue_postorder] at hexact
  refine ⟨horder, ?_⟩
  cases hdivision : tree.firstZeroDivision? with
  | none =>
      rw [hdivision] at hexact
      exact ⟨hexact, by rw [evaluate, hexact]; rfl⟩
  | some division =>
      rw [hdivision] at hexact
      exact ⟨hexact, by rw [evaluate, hexact]; rfl, EvaluationFault.makes (.divisionByZero _ _)⟩

/-- A quotient with brackets: its value 7/2 lies half way, and rounds to the even 4. -/
theorem evaluate_bracketed_quotient :
    (Derives .expression
        [⟨.operand 7, 0⟩, ⟨.operator .div, 1⟩, ⟨.openBracket, 2⟩, ⟨.operand 3, 3⟩,
          ⟨.operator .sub, 4⟩, ⟨.operand 1, 5⟩, ⟨.closeBracket, 6⟩]
        (.node .div 1 (.literal 7 0) (.node .sub 4 (.literal 3 3) (.literal 1 5))) ∧
      ({} : Calculator).tokens "7/(3-1)" =
        .ok [⟨.begin, 0⟩, ⟨.operand 7, 0⟩, ⟨.operator .div, 1⟩, ⟨.openBracket, 2⟩,
          ⟨.operand 3, 3⟩, ⟨.operator .sub, 4⟩, ⟨.operand 1, 5⟩, ⟨.closeBracket, 6⟩,
          ⟨.finish, 7⟩]) ∧
    ({} : Calculator).toPostfix "7/(3-1)" =
      .ok [⟨.operand 7, 0⟩, ⟨.operand 3, 3⟩, ⟨.operand 1, 5⟩, ⟨.operator .sub, 4⟩,
        ⟨.operator .div, 1⟩] ∧
    ({} : Calculator).evaluateExact "7/(3-1)" = .ok (7 / 2) ∧
    ({} : Calculator).evaluate "7/(3-1)" = .ok 4 := by
  have hdifference : Derives .expression [⟨.operand 3, 3⟩, ⟨.operator .sub, 4⟩, ⟨.operand 1, 5⟩]
      (.node .sub 4 (.literal 3 3) (.literal 1 5)) :=
    .weak 4 rfl (.ofTerm (.ofFactor (.literal 3 3))) (.ofFactor (.literal 1 5))
  have hderives := Derives.ofTerm (@Derives.strong [_] _ _ _ .div 1 rfl
    (.ofFactor (.literal 7 0)) (.bracketed 2 6 hdifference))
  obtain ⟨horder, hvalue⟩ := evaluate_of_derives {} "7/(3-1)" _ _ 7 hderives (by decide +kernel)
  have hdefined : (ExprTree.node .div 1 (.literal 7 0)
      (.node .sub 4 (.literal 3 3) (.literal 1 5))).firstZeroDivision? = none := by
    decide +kernel
  have hquotient : (ExprTree.node .div 1 (.literal 7 0)
      (.node .sub 4 (.literal 3 3) (.literal 1 5))).value = 7 / 2 := by
    decide +kernel
  have hround : roundHalfEven (7 / 2) = 4 := by
    decide +kernel
  rw [hdefined, hquotient, hround] at hvalue
  exact ⟨⟨hderives, by decide +kernel⟩, horder, hvalue⟩

end Calculator

/-! ### Long dividends -/

/-- The characters of a text are read as tokens that a nonterminal derives. -/
structure ReadAs (maxLiteral : Int) (nonterminal : Nonterminal) (text : List Char)
    (body : List Token) (tree : ExprTree) : Prop where
  scanned : scan maxLiteral 0 text = .ok (body ++ [⟨.finish, (text.length : Nat)⟩])
  derives : Derives nonterminal body tree

section

variable {maxLiteral : Int} {digits : List Char}

/-- A literal behind a strong operator goes on with a term. -/
theorem ReadAs.times {text : List Char} {body : List Token} {tree : ExprTree}
    (h : ReadAs maxLiteral .term text body tree) {op : Operation} (hop : op.kind = .strong)
    (hnonempty : digits ≠ []) (hdigits : ∀ c ∈ digits, Text.isDigit c = true)
    (hbound : (digitsValue digits : Int) ≤ maxLiteral) :
    ReadAs maxLiteral .term (text ++ op.symbol :: digits)
      (body ++ [⟨.operator op, text.length⟩,
        ⟨.operand (digitsValue digits), (text.length + 1 : Nat)⟩])
      (.node op text.length tree (.literal (digitsValue digits) (text.length + 1 : Nat))) where
  scanned := by
    have hsymbol : Text.isDigit op.symbol = false ∧ Text.isBlank op.symbol = false ∧
        Lexeme.ofSymbol? op.symbol = some (.operator op) := by
      cases op <;> decide
    obtain ⟨hdigit, hblank, hlexeme⟩ := hsymbol
    rw [scan_append 0 text (by simpa using hdigit), h.scanned, scan]
    simp only [hdigit, hblank, hlexeme, Bool.false_eq_true, if_false,
      scan_literal hnonempty hdigits hbound]
    simp [Functor.map, Except.map, Nat.add_assoc, Nat.add_comm 1]
  derives := .strong _ hop h.derives (.literal _ _)

end

/-- The greatest literal, one time and `n` more times as a factor. -/
def powerText : Nat → List Char
  | 0 => "9223372036854775807".toList
  | n + 1 => powerText n ++ '*' :: "9223372036854775807".toList

/-- A product of greatest literals is read as their power. -/
theorem exists_power (n : Nat) :
    ∃ (body : List Token) (tree : ExprTree),
      ReadAs defaultMaxLiteral .term (powerText n) body tree ∧ tree.Defined ∧
        tree.value = (defaultMaxLiteral ^ (n + 1) : Int) := by
  have hvalue : digitsValue "9223372036854775807".toList = 9223372036854775807 := by
    rfl
  have hbound : (digitsValue "9223372036854775807".toList : Int) ≤ defaultMaxLiteral := by
    rw [hvalue]
    decide
  have hall : "9223372036854775807".toList.all Text.isDigit = true := by
    rfl
  have hdigits : ∀ c ∈ "9223372036854775807".toList, Text.isDigit c = true :=
    List.all_eq_true.mp hall
  have hnonempty : "9223372036854775807".toList ≠ [] := by
    decide +kernel
  -- One more factor is one more use of the rule for products, and one more power.
  induction n with
  | zero =>
      have hscan := scan_literal hnonempty hdigits hbound 0
      rw [hvalue, Nat.zero_add] at hscan
      exact ⟨[⟨.operand 9223372036854775807, 0⟩], .literal 9223372036854775807 0,
        ⟨hscan, .ofFactor (.literal _ _)⟩, rfl, rfl⟩
  | succ n ih =>
      obtain ⟨body, tree, hread, hdefined, hpower⟩ := ih
      have hproduct := hread.times (show Operation.mul.kind = .strong from rfl) hnonempty hdigits
        hbound
      rw [hvalue] at hproduct
      refine ⟨_, _, hproduct, ?_, ?_⟩
      · simp only [ExprTree.Defined] at hdefined
        simp [ExprTree.Defined, hdefined, ExprTree.zeroDivision?]
      · rw [ExprTree.value, hpower, Int.pow_succ _ (n + 1), Rat.intCast_mul]
        rfl

namespace Calculator

theorem tokens_of_readAs {calculator : Calculator} {nonterminal : Nonterminal} {text : List Char}
    {body : List Token} {tree : ExprTree}
    (h : ReadAs calculator.maxLiteral nonterminal text body tree) :
    calculator.tokens (String.ofList text) =
      .ok (⟨.begin, 0⟩ :: body ++ [⟨.finish, (text.length : Nat)⟩]) := by
  refine tokens_of_scan ?_
  rw [String.toList_ofList]
  exact h.scanned

/-- A power of the greatest literal, divided by zero. -/
theorem exists_power_div_zero (n : Nat) :
    ∃ (body : List Token) (tree : ExprTree) (finish : Int),
      Derives .expression body tree ∧
      ({} : Calculator).tokens (String.ofList (powerText n ++ ['/', '0'])) =
        .ok (⟨.begin, 0⟩ :: body ++ [⟨.finish, finish⟩]) ∧
      tree.firstZeroDivision? =
        some (((powerText n).length : Int), ((defaultMaxLiteral ^ (n + 1) : Int) : Rat)) := by
  obtain ⟨body, tree, hread, hdefined, hpower⟩ := exists_power n
  have hzero : ∀ c ∈ ['0'], Text.isDigit c = true := List.forall_mem_singleton.mpr rfl
  have hquotient := hread.times (show Operation.div.kind = .strong from rfl)
    (List.cons_ne_nil '0' []) hzero (by decide)
  refine ⟨_, _, _, .ofTerm hquotient.derives, tokens_of_readAs hquotient, ?_⟩
  simp only [ExprTree.Defined] at hdefined
  simp [hdefined, ExprTree.zeroDivision?, ExprTree.value, hpower, digitsValue]

/-- The evaluation of a power of the greatest literal, divided by zero, fails at the division. -/
theorem evaluate_power_div_zero (n : Nat) :
    ({} : Calculator).evaluate (String.ofList (powerText n ++ ['/', '0'])) =
      .error (.evaluation
        (.divisionByZero (powerText n).length (defaultMaxLiteral ^ (n + 1) : Int))) := by
  obtain ⟨body, tree, finish, hderives, htokens, hdivision⟩ := exists_power_div_zero n
  have hexact := evaluateExact_of_toPostfix (toPostfix_text_of_derives hderives htokens)
  rw [postfixValue_postorder, hdivision] at hexact
  rw [evaluate, hexact]
  rfl

/-- The 230th power of the greatest literal has more digits than are written. -/
theorem not_isWritable_power : ¬ Text.IsWritable (defaultMaxLiteral ^ (229 + 1)) := by
  intro h
  have hlimit : Text.IsWritable (10 ^ Text.maxDigits) :=
    h.of_natAbs_le (by decide +kernel)
  exact absurd (Text.isWritable_ten_pow_iff.mp hlimit) (Nat.lt_irrefl _)

/-- An expression of which the first division by zero, in post-order, is not reported: the dividend
    has too many digits to be written. -/
theorem evaluate_longDividend :
    ∃ (body : List Token) (tree : ExprTree) (finish position : Int) (dividend : Rat),
      Derives .expression body tree ∧
      ({} : Calculator).tokens (String.ofList (powerText 229 ++ ['/', '0'])) =
        .ok (⟨.begin, 0⟩ :: body ++ [⟨.finish, finish⟩]) ∧
      tree.firstZeroDivision? = some (position, dividend) ∧
      ∃ failure : Failure,
        ({} : Calculator).evaluate (String.ofList (powerText 229 ++ ['/', '0'])) =
          .error failure ∧ failure.report? = none := by
  obtain ⟨body, tree, finish, hderives, htokens, hdivision⟩ := exists_power_div_zero 229
  exact ⟨body, tree, finish, _, _, hderives, htokens, hdivision, _, evaluate_power_div_zero 229,
    EvaluationFault.report?_divisionByZero_of_long not_isWritable_power _⟩

end Calculator

end Abacus
