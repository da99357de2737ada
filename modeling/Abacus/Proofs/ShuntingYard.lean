/-
Module: Abacus.Proofs.ShuntingYard
Purpose: The shunting yard by numeric priorities, and its agreement with the precedence automaton.
  The automaton takes one operator off the stack where the textbook takes as many as bind strongly
  enough. Both do the same because the waiting operators are layered: an operator never waits on
  one that binds at least as strongly. This holds for every stream of tokens, so that all that is
  said of conversions can be said of the textbook algorithm, which recurses on the tokens.
Main exports: Yard.put, shuntingYard, Layered, run_put, run_putAll, toPostfix_eq_shuntingYard
-/
import Abacus.Proofs.AutomatonRun

namespace Abacus

/-! ### The textbook algorithm -/

/-- How strongly an operation binds. -/
def Operation.priority : Operation → Nat
  | .add | .sub => 1
  | .mul | .div => 2

/-- Whether a token is an operator of at least the given priority. -/
def Token.bindsAtLeast (level : Nat) (token : Token) : Bool :=
  match token.lexeme with
  | .operator op => decide (level ≤ op.priority)
  | _ => false

/-- Whether a token is no opening bracket. -/
def Token.isInside (token : Token) : Bool :=
  token.lexeme != .openBracket

/-- An operator that binds is no opening bracket. -/
theorem isInside_of_bindsAtLeast {level : Nat} {token : Token}
    (h : token.bindsAtLeast level = true) : token.isInside = true := by
  obtain ⟨lexeme, position⟩ := token
  cases lexeme with
  | openBracket => cases h
  | _ => rfl

namespace Yard

/-- Takes tokens off the stack and to the output while the top passes a test. -/
def popWhile (test : Token → Bool) (yard : Yard) : Yard where
  operators := yard.operators.dropWhile test
  output := (yard.operators.takeWhile test).reverse ++ yard.output

/-- Puts a token to the yard; fails on a closing bracket without a partner. The sentinels are not
    among the tokens that the yard takes. -/
def put (yard : Yard) (token : Token) : Except Token Yard :=
  match token.lexeme with
  | .operand _ => .ok { yard with output := token :: yard.output }
  | .operator op =>
      let ready := yard.popWhile (Token.bindsAtLeast op.priority)
      .ok { ready with operators := token :: ready.operators }
  | .openBracket => .ok { yard with operators := token :: yard.operators }
  | .closeBracket =>
      let ready := yard.popWhile Token.isInside
      match ready.operators with
      | [] => .error token
      | _ :: below => .ok { ready with operators := below }
  | .begin | .finish => .error token

/-- Puts tokens to the yard, from left to right. -/
def putAll (yard : Yard) : List Token → Except Token Yard
  | [] => .ok yard
  | token :: rest =>
      match yard.put token with
      | .ok next => next.putAll rest
      | .error culprit => .error culprit

/-- Empties the yard at the end of an expression; fails if a bracket is still open. -/
def close (yard : Yard) (finish : Token) : Except Token (List Token) :=
  let ready := yard.popWhile Token.isInside
  match ready.operators with
  | [] => .ok ready.output.reverse
  | _ :: _ => .error finish

end Yard

/-- Postfix order by the shunting yard with numeric priorities, of the tokens between the two
    sentinels; or the token on which it fails. -/
def shuntingYard (body : List Token) (finish : Token) : Except Token (List Token) :=
  match Yard.putAll ⟨[], []⟩ body with
  | .ok yard => yard.close finish
  | .error culprit => .error culprit

/-! ### Popping -/

/-- The first of a list fails a test, or there is no first. The top of a stack is its first. -/
def Settled {α : Type} (test : α → Bool) (list : List α) : Prop :=
  ∀ first ∈ list.head?, test first = false

section

variable {α : Type} {test : α → Bool}

@[simp] theorem settled_nil (test : α → Bool) : Settled test [] := by
  simp [Settled]

@[simp] theorem settled_cons (test : α → Bool) (first : α) (rest : List α) :
    Settled test (first :: rest) ↔ test first = false := by
  simp [Settled]

/-- A part of a settled list at its front is settled. -/
theorem settled_of_append {list next : List α} (h : Settled test (list ++ next)) :
    Settled test list := by
  cases list with
  | nil => exact settled_nil test
  | cons first rest => simpa using h

/-- A settled list stays settled with more behind it, unless it is empty. -/
theorem settled_append {list next : List α} (hlist : Settled test list)
    (hnext : list = [] → Settled test next) : Settled test (list ++ next) := by
  cases list with
  | nil => exact hnext rfl
  | cons first rest => simpa using hlist

/-- At the front of a settled list, nothing passes the test. -/
theorem eq_nil_of_settled {list next : List α} (hall : ∀ item ∈ list, test item = true)
    (h : Settled test (list ++ next)) : list = [] := by
  cases list with
  | nil => rfl
  | cons first rest => simp [hall first List.mem_cons_self] at h

/-- What is left of a list once its front is taken is settled. -/
theorem settled_dropWhile (test : α → Bool) (list : List α) :
    Settled test (list.dropWhile test) := by
  intro first hfirst
  have h := List.head?_dropWhile_not test list
  simp only [Option.mem_def] at hfirst
  simpa [hfirst] using h

/-- What passes a test goes on into no settled list. -/
theorem takeWhile_append_settled (list : List α) {next : List α} (hnext : Settled test next) :
    (list ++ next).takeWhile test = list.takeWhile test := by
  induction list with
  | nil =>
      cases next with
      | nil => rfl
      | cons first rest =>
          rw [settled_cons] at hnext
          simp [hnext]
  | cons first rest ih =>
      cases hfirst : test first with
      | true => simp [hfirst, ih]
      | false => simp [hfirst]

/-- A settled list is left as a whole. -/
theorem dropWhile_append_settled (list : List α) {next : List α} (hnext : Settled test next) :
    (list ++ next).dropWhile test = list.dropWhile test ++ next := by
  induction list with
  | nil =>
      cases next with
      | nil => rfl
      | cons first rest =>
          rw [settled_cons] at hnext
          simp [hnext]
  | cons first rest ih =>
      cases hfirst : test first with
      | true => simp [hfirst, ih]
      | false => simp [hfirst]

end

namespace Yard

theorem popWhile_cons_pos {test : Token → Bool} {top : Token} (below output : List Token)
    (h : test top = true) :
    popWhile test ⟨top :: below, output⟩ = popWhile test ⟨below, top :: output⟩ := by
  simp [popWhile, h]

theorem popWhile_cons_neg {test : Token → Bool} {top : Token} (below output : List Token)
    (h : test top = false) :
    popWhile test ⟨top :: below, output⟩ = ⟨top :: below, output⟩ := by
  simp [popWhile, h]

/-- Nothing is popped off a settled stack. -/
theorem popWhile_settled {test : Token → Bool} {operators : List Token} (output : List Token)
    (h : Settled test operators) :
    popWhile test ⟨operators, output⟩ = ⟨operators, output⟩ := by
  cases operators with
  | nil => rfl
  | cons top below => exact popWhile_cons_neg below output (h top rfl)

/-- Exactly the tokens that pass the test are popped off a settled stack. -/
theorem popWhile_append {test : Token → Bool} {pending operators : List Token}
    (output : List Token) (hpending : ∀ token ∈ pending, test token = true)
    (hsettled : Settled test operators) :
    popWhile test ⟨pending ++ operators, output⟩ = ⟨operators, pending.reverse ++ output⟩ := by
  induction pending generalizing output with
  | nil => exact popWhile_settled output hsettled
  | cons top pending ih =>
      rw [List.cons_append, popWhile_cons_pos _ _ (hpending top List.mem_cons_self),
        ih (top :: output) fun token h => hpending token (List.mem_cons_of_mem _ h)]
      simp

end Yard

/-- After popping, the stack is settled. -/
theorem settled_popWhile (test : Token → Bool) (yard : Yard) :
    Settled test (yard.popWhile test).operators :=
  settled_dropWhile test yard.operators

/-! ### Layered stacks -/

/-- The stacks of waiting operators and open brackets on which no operator waits directly on one
    that binds at least as strongly. -/
inductive Layered : List Token → Prop where
  | nil : Layered []
  | openBracket (position : Int) {below : List Token} :
      Layered below → Layered (⟨.openBracket, position⟩ :: below)
  | operator (op : Operation) (position : Int) {below : List Token} :
      Layered below → Settled (Token.bindsAtLeast op.priority) below →
        Layered (⟨.operator op, position⟩ :: below)

/-- What lies below the top of a layered stack is layered. -/
theorem layered_tail {top : Token} {below : List Token} (h : Layered (top :: below)) :
    Layered below := by
  cases h with
  | openBracket _ hbelow => exact hbelow
  | operator _ _ hbelow _ => exact hbelow

/-- Popping keeps a stack layered. -/
theorem layered_popWhile {yard : Yard} (test : Token → Bool) (h : Layered yard.operators) :
    Layered (yard.popWhile test).operators := by
  obtain ⟨operators, output⟩ := yard
  induction operators generalizing output with
  | nil => exact h
  | cons top below ih =>
      cases htest : test top with
      | true =>
          rw [Yard.popWhile_cons_pos below output htest]
          exact ih (top :: output) (layered_tail h)
      | false =>
          rw [Yard.popWhile_cons_neg below output htest]
          exact h

/-- The tokens that stand between the two sentinels. -/
def Token.IsInner (token : Token) : Prop :=
  token.lexeme ≠ .begin ∧ token.lexeme ≠ .finish

/-- The textbook algorithm keeps its stack layered: it pushes an operator only after it has popped
    what binds at least as strongly. -/
theorem layered_put {yard next : Yard} {token : Token} (h : Layered yard.operators)
    (hput : yard.put token = .ok next) : Layered next.operators := by
  obtain ⟨lexeme, position⟩ := token
  cases lexeme with
  | operand value =>
      cases hput
      exact h
  | operator op =>
      cases hput
      exact .operator op position (layered_popWhile _ h) (settled_popWhile _ yard)
  | openBracket =>
      cases hput
      exact .openBracket position h
  | closeBracket =>
      have hready := layered_popWhile Token.isInside h
      simp only [Yard.put] at hput
      split at hput
      · cases hput
      · rename_i top below hoperators
        cases hput
        rw [hoperators] at hready
        exact layered_tail hready
  | begin => cases hput
  | finish => cases hput

/-! ### The automaton follows the textbook -/

/-- The yard of the automaton, at whose bottom lies the opening sentinel. -/
def Yard.over (yard : Yard) (start : Int) : Yard where
  operators := yard.operators ++ [⟨.begin, start⟩]
  output := yard.output

/-- The entries of the table for two operators compare their priorities. -/
theorem transition?_operators (top op : Operation) :
    transition? top.kind op.kind =
      some (if top.priority < op.priority then .push
        else if top.priority = op.priority then .moveTopThenPush
        else .moveTopStay) := by
  cases top <;> cases op <;> rfl

namespace Conversion

variable (start : Int)

/-- On an operator, the automaton pops what binds at least as strongly: tokens that bind more
    strongly one by one, looking at the operator again, and one of the same strength with the
    step that pushes the operator. Under the latter nothing is left to pop. -/
theorem run_operator {operators : List Token} (layered : Layered operators) (op : Operation)
    (position : Int) (output rest : List Token) :
    run ⟨Yard.over ⟨operators, output⟩ start, ⟨.operator op, position⟩ :: rest⟩ =
      let ready := Yard.popWhile (Token.bindsAtLeast op.priority) ⟨operators, output⟩
      run ⟨Yard.over ⟨⟨.operator op, position⟩ :: ready.operators, ready.output⟩ start, rest⟩ := by
  induction layered generalizing output with
  | nil =>
      have hpush : transition? .begin op.kind = some .push := by
        cases op <;> rfl
      exact run_top ⟨.begin, start⟩ ⟨.operator op, position⟩ [] output rest hpush
  | openBracket bracket hbelow ih =>
      have hpush : transition? .openBracket op.kind = some .push := by
        cases op <;> rfl
      exact run_top ⟨.openBracket, bracket⟩ ⟨.operator op, position⟩ _ output rest hpush
  | @operator top topPosition below hbelow hsettled ih =>
      rcases Nat.lt_trichotomy top.priority op.priority with hlt | heq | hgt
      · -- the top binds less: nothing is popped
        have hpush : transition? top.kind op.kind = some .push := by
          simp [transition?_operators, hlt]
        have hstay : Token.bindsAtLeast op.priority ⟨.operator top, topPosition⟩ = false := by
          simp [Token.bindsAtLeast, hlt]
        rw [Yard.popWhile_cons_neg below output hstay]
        exact run_top ⟨.operator top, topPosition⟩ ⟨.operator op, position⟩ _ output rest hpush
      · -- the top binds the same: it goes, and by layering nothing below it does
        have hmove : transition? top.kind op.kind = some .moveTopThenPush := by
          simp [transition?_operators, heq]
        have hgo : Token.bindsAtLeast op.priority ⟨.operator top, topPosition⟩ = true := by
          simp [Token.bindsAtLeast, heq]
        rw [heq] at hsettled
        rw [Yard.popWhile_cons_pos below output hgo, Yard.popWhile_settled _ hsettled]
        exact run_top ⟨.operator top, topPosition⟩ ⟨.operator op, position⟩ _ output rest hmove
      · -- the top binds more: it goes, and the operator is looked at again
        have hstay : transition? top.kind op.kind = some .moveTopStay := by
          have hne : top.priority ≠ op.priority := by omega
          simp [transition?_operators, hne, Nat.not_lt.mpr (Nat.le_of_lt hgt)]
        have hgo : Token.bindsAtLeast op.priority ⟨.operator top, topPosition⟩ = true := by
          simp [Token.bindsAtLeast, (Nat.le_of_lt hgt)]
        rw [Yard.popWhile_cons_pos below output hgo, ← ih]
        exact run_top ⟨.operator top, topPosition⟩ ⟨.operator op, position⟩ _ output _ hstay

/-- An opening bracket is pushed whatever lies on top. -/
theorem run_openBracket {operators : List Token} (layered : Layered operators) (position : Int)
    (output rest : List Token) :
    run ⟨Yard.over ⟨operators, output⟩ start, ⟨.openBracket, position⟩ :: rest⟩ =
      run ⟨Yard.over ⟨⟨.openBracket, position⟩ :: operators, output⟩ start, rest⟩ := by
  cases layered with
  | nil =>
      exact run_top ⟨.begin, start⟩ ⟨.openBracket, position⟩ [] output rest rfl
  | openBracket bracket hbelow =>
      exact run_top ⟨.openBracket, bracket⟩ ⟨.openBracket, position⟩ _ output rest rfl
  | operator op opPosition hbelow hsettled =>
      have hpush : transition? op.kind .openBracket = some .push := by
        cases op <;> rfl
      exact run_top ⟨.operator op, opPosition⟩ ⟨.openBracket, position⟩ _ output rest hpush

/-- On a token before which every operator is moved to the output, the automaton pops down to the
    nearest open bracket or to the sentinel. -/
theorem run_popInside {operators : List Token} (layered : Layered operators) {token : Token}
    (hstay : ∀ op : Operation, transition? op.kind token.kind = some .moveTopStay)
    (output rest : List Token) :
    run ⟨Yard.over ⟨operators, output⟩ start, token :: rest⟩ =
      run ⟨Yard.over (Yard.popWhile Token.isInside ⟨operators, output⟩) start, token :: rest⟩ := by
  induction layered generalizing output with
  | nil => rfl
  | openBracket bracket hbelow ih =>
      rw [Yard.popWhile_cons_neg _ output rfl]
  | operator top topPosition hbelow hsettled ih =>
      rw [Yard.popWhile_cons_pos _ output rfl, ← ih]
      exact run_top ⟨.operator top, topPosition⟩ token _ output rest (hstay top)

/-- On a closing bracket, the automaton pops down to the nearest open bracket and drops it. -/
theorem run_closeBracket {operators : List Token} (layered : Layered operators) (position : Int)
    (output rest : List Token) :
    run ⟨Yard.over ⟨operators, output⟩ start, ⟨.closeBracket, position⟩ :: rest⟩ =
      let ready := Yard.popWhile Token.isInside ⟨operators, output⟩
      match ready.operators with
      | [] => .error (.unexpected ⟨.closeBracket, position⟩)
      | _ :: below => run ⟨Yard.over ⟨below, ready.output⟩ start, rest⟩ := by
  rw [run_popInside start layered fun op => by cases op <;> rfl]
  have hsettled := settled_popWhile Token.isInside ⟨operators, output⟩
  generalize Yard.popWhile Token.isInside ⟨operators, output⟩ = ready at hsettled
  obtain ⟨_ | ⟨top, below⟩, output⟩ := ready
  · exact run_top ⟨.begin, start⟩ ⟨.closeBracket, position⟩ [] output rest rfl
  · have htop : top.lexeme = .openBracket := by
      simpa [Token.isInside] using hsettled top rfl
    have hdiscard : transition? top.kind .closeBracket = some .discard := by
      rw [Token.kind, htop]; rfl
    exact run_top top ⟨.closeBracket, position⟩ _ output rest hdiscard

/-- On the closing sentinel, the automaton empties its stack; an open bracket is in the way. -/
theorem run_finish {yard : Yard} (layered : Layered yard.operators) (position : Int)
    (rest : List Token) :
    run ⟨yard.over start, ⟨.finish, position⟩ :: rest⟩ =
      (yard.close ⟨.finish, position⟩).mapError .unexpected := by
  rw [run_popInside start layered fun op => by cases op <;> rfl]
  have hsettled := settled_popWhile Token.isInside yard
  simp only [Yard.close]
  generalize yard.popWhile Token.isInside = ready at hsettled
  obtain ⟨_ | ⟨top, below⟩, output⟩ := ready
  · exact run_top ⟨.begin, start⟩ ⟨.finish, position⟩ [] output rest rfl
  · have htop : top.lexeme = .openBracket := by
      simpa [Token.isInside] using hsettled top rfl
    have herror : transition? top.kind .finish = some .error := by
      rw [Token.kind, htop]; rfl
    exact run_top top ⟨.finish, position⟩ _ output rest herror

/-- Whatever stands between the sentinels, the automaton does with it what the textbook does. -/
theorem run_put {yard : Yard} (layered : Layered yard.operators) {token : Token}
    (hinner : token.IsInner) (rest : List Token) :
    run ⟨yard.over start, token :: rest⟩ =
      match yard.put token with
      | .ok next => run ⟨next.over start, rest⟩
      | .error culprit => .error (.unexpected culprit) := by
  obtain ⟨lexeme, position⟩ := token
  cases lexeme with
  | operand value => exact run_operand _ value position rest
  | operator op => exact run_operator start layered op position yard.output rest
  | openBracket => exact run_openBracket start layered position yard.output rest
  | closeBracket =>
      rw [run_closeBracket start layered position yard.output rest]
      simp only [Yard.put]
      cases (yard.popWhile Token.isInside).operators <;> rfl
  | begin => exact absurd rfl hinner.1
  | finish => exact absurd rfl hinner.2

/-- The automaton follows the textbook over any number of tokens. -/
theorem run_putAll {yard : Yard} (layered : Layered yard.operators) {body : List Token}
    (hinner : ∀ token ∈ body, token.IsInner) (rest : List Token) :
    run ⟨yard.over start, body ++ rest⟩ =
      match yard.putAll body with
      | .ok next => run ⟨next.over start, rest⟩
      | .error culprit => .error (.unexpected culprit) := by
  induction body generalizing yard with
  | nil => rfl
  | cons token body ih =>
      rw [List.cons_append, run_put start layered (hinner token List.mem_cons_self)]
      simp only [Yard.putAll]
      cases hput : yard.put token with
      | error culprit => rfl
      | ok next =>
          exact ih (layered_put layered hput) fun token h =>
            hinner token (List.mem_cons_of_mem _ h)

end Conversion

/-- The textbook algorithm keeps its stack layered over any number of tokens. -/
theorem layered_putAll {body : List Token} {yard next : Yard} (h : Layered yard.operators)
    (hput : yard.putAll body = .ok next) : Layered next.operators := by
  induction body generalizing yard with
  | nil =>
      cases hput
      exact h
  | cons token body ih =>
      simp only [Yard.putAll] at hput
      split at hput
      · next hnext => exact ih (layered_put h hnext) hput
      · cases hput

/-- The tokens that the textbook algorithm takes stand between the sentinels. -/
theorem isInner_of_putAll {body : List Token} {yard next : Yard}
    (hput : yard.putAll body = .ok next) : ∀ token ∈ body, token.IsInner := by
  induction body generalizing yard with
  | nil => simp
  | cons token body ih =>
      simp only [Yard.putAll] at hput
      split at hput
      · next hnext =>
          have hinner : token.IsInner := by
            constructor <;> intro hlexeme <;> simp [Yard.put, hlexeme] at hnext
          simpa using ⟨hinner, ih hput⟩
      · cases hput

/-! ### Conversions by the textbook -/

variable (start : Int)

theorem toPostfix_begin (rest : List Token) :
    toPostfix (⟨.begin, start⟩ :: rest) = Conversion.run ⟨Yard.over ⟨[], []⟩ start, rest⟩ := by
  rfl

/-- Where the textbook algorithm takes all tokens, the conversion ends as it does on closing. -/
theorem toPostfix_of_putAll {body : List Token} {yard : Yard}
    (h : Yard.putAll ⟨[], []⟩ body = .ok yard) (finish : Int) :
    toPostfix (⟨.begin, start⟩ :: body ++ [⟨.finish, finish⟩]) =
      (yard.close ⟨.finish, finish⟩).mapError .unexpected := by
  rw [List.cons_append, toPostfix_begin, Conversion.run_putAll start .nil (isInner_of_putAll h), h]
  exact Conversion.run_finish start (layered_putAll .nil h) finish []

/-- Where the textbook algorithm fails on a token, the conversion fails on the same. -/
theorem toPostfix_of_putAll_error {body : List Token} {culprit : Token}
    (hinner : ∀ token ∈ body, token.IsInner)
    (h : Yard.putAll ⟨[], []⟩ body = .error culprit) (rest : List Token) :
    toPostfix (⟨.begin, start⟩ :: body ++ rest) = .error (.unexpected culprit) := by
  rw [List.cons_append, toPostfix_begin, Conversion.run_putAll start .nil hinner, h]

/-- On every list of tokens between two sentinels, grammatical or not, the automaton gives what
    the shunting yard by numeric priorities gives, or fails on the same token. -/
theorem toPostfix_eq_shuntingYard (start finish : Int) (body : List Token)
    (hinner : ∀ token ∈ body, token.IsInner) :
    toPostfix (⟨.begin, start⟩ :: body ++ [⟨.finish, finish⟩]) =
      (shuntingYard body ⟨.finish, finish⟩).mapError .unexpected := by
  rw [shuntingYard]
  cases hput : Yard.putAll ⟨[], []⟩ body with
  | ok yard => exact toPostfix_of_putAll start hput finish
  | error culprit => exact toPostfix_of_putAll_error start hinner hput _

/-- A stream that is no expression: two operands side by side, and an operator first in brackets. -/
theorem toPostfix_eq_shuntingYard_malformed :
    (∀ token ∈ ([⟨.operator .mul, 0⟩, ⟨.operand 1, 1⟩, ⟨.openBracket, 2⟩, ⟨.operator .sub, 3⟩,
        ⟨.operand 2, 4⟩, ⟨.operand 3, 5⟩, ⟨.closeBracket, 6⟩, ⟨.operator .add, 7⟩] : List Token),
      token.IsInner) ∧
    toPostfix (⟨.begin, 0⟩ :: [⟨.operator .mul, 0⟩, ⟨.operand 1, 1⟩, ⟨.openBracket, 2⟩,
        ⟨.operator .sub, 3⟩, ⟨.operand 2, 4⟩, ⟨.operand 3, 5⟩, ⟨.closeBracket, 6⟩,
        ⟨.operator .add, 7⟩] ++ [⟨.finish, 8⟩]) =
      .ok [⟨.operand 1, 1⟩, ⟨.operand 2, 4⟩, ⟨.operand 3, 5⟩, ⟨.operator .sub, 3⟩,
        ⟨.operator .mul, 0⟩, ⟨.operator .add, 7⟩] := by
  have hinner : ∀ token ∈ ([⟨.operator .mul, 0⟩, ⟨.operand 1, 1⟩, ⟨.openBracket, 2⟩,
      ⟨.operator .sub, 3⟩, ⟨.operand 2, 4⟩, ⟨.operand 3, 5⟩, ⟨.closeBracket, 6⟩,
      ⟨.operator .add, 7⟩] : List Token), token.IsInner := by
    simp [Token.IsInner]
  refine ⟨hinner, ?_⟩
  rw [toPostfix_eq_shuntingYard 0 8 _ hinner]
  rfl

end Abacus
