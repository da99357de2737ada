/-
Module: Abacus.Proofs.AtomicSteps
Purpose: A step of the precedence automaton changes two lists, one after the other. Here each change
  is carried out by itself, and a fault leaves what has been changed by then; that this is nothing
  is for the order of the changes to achieve. So a step does all that its action stands for or
  changes nothing, whatever lies on the stack. Over any number of steps, tokens come by those that
  push and go by those that discard, and in no other way.
Main exports: Yard.InPlace.perform, Yard.Attempt, Yard.Effect, Yard.Refused, Yard.tryAll,
  Yard.steps_atomic
-/
import Abacus.Precedence
import Mathlib.Algebra.Order.Group.Multiset
import Mathlib.Tactic.Abel

namespace Abacus.Yard

/-! ### Changes in place

Each of these is one access to one of the two lists. What has been changed before a fault stays
changed. -/

namespace InPlace

/-- Looks at the top of the stack. -/
def readTop : EStateM StackFault Yard Token := do
  match (← get).operators with
  | [] => throw .emptyTop
  | top :: _ => return top

/-- Takes the top off the stack. -/
def takeTop : EStateM StackFault Yard Token := do
  match (← get).operators with
  | [] => throw .emptyPop
  | top :: below =>
      modify fun yard => { yard with operators := below }
      return top

/-- Puts a token on top of the stack. -/
def putOnTop (token : Token) : EStateM StackFault Yard Unit :=
  modify fun yard => { yard with operators := token :: yard.operators }

/-- Sends a token to the output. -/
def emit (token : Token) : EStateM StackFault Yard Unit :=
  modify fun yard => { yard with output := token :: yard.output }

/-- The action for a token, by the table and the top of the stack. -/
def lookUp (token : Token) : EStateM StackFault Yard Action := do
  let top ← readTop
  match transition? top.kind token.kind with
  | some action => return action
  | none => throw (.noTransition top.kind token.kind)

/-- Carries out an action by one change after another, and tells whether the input goes on behind
    the token. -/
def perform (action : Action) (token : Token) : EStateM StackFault Yard Bool := do
  match action with
  | .push =>
      putOnTop token
      return true
  | .moveTopThenPush =>
      -- on an empty stack, the pop fails before anything is sent or put
      emit (← takeTop)
      putOnTop token
      return true
  | .discard =>
      let _ ← takeTop
      return true
  | .moveTopStay =>
      emit (← takeTop)
      return false
  | .finish | .error => throw (.inapplicable action token)

/-- What an answer leaves in place: the changed yard, or with a fault the yard as it was. -/
def ofAnswer {α : Type} (yard : Yard) :
    Except StackFault (Yard × α) → EStateM.Result StackFault Yard α
  | .ok (next, value) => .ok value next
  | .error fault => .error fault yard

/-- Looking up an action changes nothing. -/
theorem lookUp_run (yard : Yard) (token : Token) :
    (lookUp token).run yard = ofAnswer yard ((yard.actionFor token).map (yard, ·)) := by
  obtain ⟨_ | ⟨top, below⟩, output⟩ := yard
  · rfl
  · have hread : readTop.run ⟨top :: below, output⟩ = .ok top ⟨top :: below, output⟩ := rfl
    rw [lookUp, EStateM.run_bind, hread]
    simp only [actionFor, lookupAction]
    cases transition? top.kind token.kind <;> rfl

/-- The changes of an action come to what the action does as a whole, and none of them is made
    before a fault. -/
theorem perform_run (yard : Yard) (action : Action) (token : Token) :
    (perform action token).run yard = ofAnswer yard (yard.apply action token) := by
  obtain ⟨_ | ⟨top, below⟩, output⟩ := yard
  · cases action <;> rfl
  · cases action <;> rfl

end InPlace

/-! ### Attempts at a step -/

/-- An attempt at a step: a token, with a given action or else with that of the table. -/
structure Attempt where
  token : Token
  given? : Option Action := none
deriving DecidableEq, Repr, Inhabited

namespace Attempt

/-- The attempt in place. A step that succeeds tells its action, and whether the input goes on. -/
def carryOut (attempt : Attempt) : EStateM StackFault Yard (Action × Bool) := do
  let action ← match attempt.given? with
    | some action => pure action
    | none => InPlace.lookUp attempt.token
  let advance ← InPlace.perform action attempt.token
  return (action, advance)

/-- The action that is chosen for an attempt. -/
def chosen (attempt : Attempt) (yard : Yard) : Except StackFault Action :=
  match attempt.given? with
  | some action => .ok action
  | none => yard.actionFor attempt.token

/-- The attempt as a whole: the yard behind it, if it succeeds. -/
def answer (attempt : Attempt) (yard : Yard) : Except StackFault (Yard × Action × Bool) := do
  let action ← attempt.chosen yard
  let (next, advance) ← yard.apply action attempt.token
  return (next, action, advance)

/-- In place, an attempt comes to the same as a whole, and changes nothing if it fails. -/
theorem carryOut_run (attempt : Attempt) (yard : Yard) :
    attempt.carryOut.run yard = InPlace.ofAnswer yard (attempt.answer yard) := by
  have hperform : ∀ action : Action,
      EStateM.run (do return (action, ← InPlace.perform action attempt.token)) yard =
        InPlace.ofAnswer yard (do
          let (next, advance) ← yard.apply action attempt.token
          return (next, action, advance)) := by
    intro action
    rw [EStateM.run_bind, InPlace.perform_run]
    cases yard.apply action attempt.token <;> rfl
  obtain ⟨token, _ | action⟩ := attempt
  · have hlookUp := InPlace.lookUp_run yard token
    simp only [carryOut, answer, chosen, EStateM.run_bind, hlookUp]
    cases yard.actionFor token with
    | error fault => rfl
    | ok action => exact hperform action
  · exact hperform action

end Attempt

/-! ### What a step does -/

/-- What each action does to a yard with a token, and whether the input goes on behind the token. -/
inductive Effect (token : Token) : Action → Bool → (before after : Yard) → Prop where
  | push (operators output : List Token) :
      Effect token .push true ⟨operators, output⟩ ⟨token :: operators, output⟩
  | moveTopThenPush (top : Token) (below output : List Token) :
      Effect token .moveTopThenPush true ⟨top :: below, output⟩ ⟨token :: below, top :: output⟩
  | discard (top : Token) (below output : List Token) :
      Effect token .discard true ⟨top :: below, output⟩ ⟨below, output⟩
  | moveTopStay (top : Token) (below output : List Token) :
      Effect token .moveTopStay false ⟨top :: below, output⟩ ⟨below, top :: output⟩

/-- Why an attempt fails. -/
inductive Refused (attempt : Attempt) (yard : Yard) : StackFault → Prop where
  | emptyTop (hgiven : attempt.given? = none) (hempty : yard.operators = []) :
      Refused attempt yard .emptyTop
  | noTransition {top : Token} {below : List Token} (hgiven : attempt.given? = none)
      (htop : yard.operators = top :: below)
      (hnone : transition? top.kind attempt.token.kind = none) :
      Refused attempt yard (.noTransition top.kind attempt.token.kind)
  | inapplicable {action : Action} (hchosen : attempt.chosen yard = .ok action)
      (hends : action = .finish ∨ action = .error) :
      Refused attempt yard (.inapplicable action attempt.token)
  | emptyPop {action : Action} (hchosen : attempt.chosen yard = .ok action)
      (htakes : action = .moveTopThenPush ∨ action = .discard ∨ action = .moveTopStay)
      (hempty : yard.operators = []) :
      Refused attempt yard .emptyPop

/-- No action is chosen without a top to look at, or without an entry for it in the table. -/
theorem refused_of_chosen {attempt : Attempt} {yard : Yard} {fault : StackFault}
    (h : attempt.chosen yard = .error fault) : Refused attempt yard fault := by
  obtain ⟨token, _ | action⟩ := attempt
  · obtain ⟨_ | ⟨top, below⟩, output⟩ := yard
    · cases h
      exact .emptyTop rfl rfl
    · simp only [Attempt.chosen, actionFor, lookupAction] at h
      split at h
      · cases h
      · next hnone =>
          cases h
          exact .noTransition rfl rfl hnone
  · cases h

/-- An attempt has the effect of its action, or it is refused. -/
theorem answer_cases (attempt : Attempt) (yard : Yard) :
    match attempt.answer yard with
    | .ok (next, action, advance) =>
        attempt.chosen yard = .ok action ∧ Effect attempt.token action advance yard next
    | .error fault => Refused attempt yard fault := by
  rw [Attempt.answer]
  cases hchosen : attempt.chosen yard with
  | error fault => exact refused_of_chosen hchosen
  | ok action =>
      obtain ⟨operators, output⟩ := yard
      cases action with
      | push => exact ⟨rfl, .push operators output⟩
      | moveTopThenPush =>
          obtain _ | ⟨top, below⟩ := operators
          · exact .emptyPop hchosen (.inl rfl) rfl
          · exact ⟨rfl, .moveTopThenPush top below output⟩
      | discard =>
          obtain _ | ⟨top, below⟩ := operators
          · exact .emptyPop hchosen (.inr (.inl rfl)) rfl
          · exact ⟨rfl, .discard top below output⟩
      | moveTopStay =>
          obtain _ | ⟨top, below⟩ := operators
          · exact .emptyPop hchosen (.inr (.inr rfl)) rfl
          · exact ⟨rfl, .moveTopStay top below output⟩
      | finish => exact .inapplicable hchosen (.inl rfl)
      | error => exact .inapplicable hchosen (.inr rfl)

/-- A yard is changed by a token at its top and at its end only: one token at most is taken off the
    stack, the token itself at most is put on it, and what is added to the output has been taken. -/
def ChangesAtTop (token : Token) (before after : Yard) : Prop :=
  ∃ taken added sent kept : List Token,
    before.operators = taken ++ kept ∧ after.operators = added ++ kept ∧
      after.output = sent ++ before.output ∧
        taken.length ≤ 1 ∧ added.Sublist [token] ∧ sent.Sublist taken

/-- The tokens of a yard, whichever of its lists they are in. -/
def held (yard : Yard) : Multiset Token :=
  (yard.operators : Multiset Token) + (yard.output : Multiset Token)

/-- What a step that succeeds adds to the tokens of a yard. -/
def brought (token : Token) : Action → Multiset Token
  | .push | .moveTopThenPush => {token}
  | _ => 0

/-- What a step that succeeds takes away from the tokens of a yard. -/
def dropped (before : Yard) : Action → Multiset Token
  | .discard => (before.operators.head?.toList : List Token)
  | _ => 0

namespace Effect

variable {token : Token} {action : Action} {advance : Bool} {before after : Yard}
  (h : Effect token action advance before after)

include h

theorem changesAtTop : ChangesAtTop token before after := by
  cases h with
  | push operators output => exact ⟨[], [token], [], operators, by simp⟩
  | moveTopThenPush top below output => exact ⟨[top], [token], [top], below, by simp⟩
  | discard top below output => exact ⟨[top], [], [], below, by simp⟩
  | moveTopStay top below output => exact ⟨[top], [], [top], below, by simp⟩

/-- A token that goes to the output stays in the yard. -/
theorem held_add : after.held + dropped before action = before.held + brought token action := by
  have hcons : ∀ (top : Token) (tokens : List Token),
      ((top :: tokens : List Token) : Multiset Token) = {top} + tokens := fun _ _ => rfl
  cases h with
  | push operators output =>
      simp only [held, dropped, brought, hcons]
      abel
  | moveTopThenPush top below output =>
      simp only [held, dropped, brought, hcons]
      abel
  | discard top below output =>
      have hdropped : dropped ⟨top :: below, output⟩ .discard = {top} := rfl
      simp only [held, hdropped, brought, hcons]
      abel
  | moveTopStay top below output =>
      simp only [held, dropped, brought, hcons]
      abel

end Effect

/-! ### Runs of attempts -/

/-- An attempt that has been made: the yard before it, and what came of it in place. -/
structure Tried where
  before : Yard
  attempt : Attempt
  outcome : EStateM.Result StackFault Yard (Action × Bool)

namespace Tried

/-- The yard behind an attempt. -/
def after (tried : Tried) : Yard :=
  match tried.outcome with
  | .ok _ yard => yard
  | .error _ yard => yard

/-- The token of a step that has put it on the stack. -/
def pushed (tried : Tried) : Multiset Token :=
  match tried.outcome with
  | .ok (action, _) _ => brought tried.attempt.token action
  | .error _ _ => 0

/-- The top of the stack that a step has dropped. -/
def discarded (tried : Tried) : Multiset Token :=
  match tried.outcome with
  | .ok (action, _) _ => dropped tried.before action
  | .error _ _ => 0

/-- An attempt in place comes to the same as a whole. If it fails, it is refused for a known reason
    and the yard is as before. If it succeeds, the yard shows the effect of the action that was
    chosen, and no other change. -/
structure IsAtomic (tried : Tried) : Prop where
  whole : tried.outcome = InPlace.ofAnswer tried.before (tried.attempt.answer tried.before)
  failed : ∀ (fault : StackFault) (after : Yard), tried.outcome = .error fault after →
    after = tried.before ∧ Refused tried.attempt tried.before fault
  succeeded : ∀ (action : Action) (advance : Bool) (after : Yard),
    tried.outcome = .ok (action, advance) after →
      tried.attempt.chosen tried.before = .ok action ∧
        Effect tried.attempt.token action advance tried.before after ∧
          ChangesAtTop tried.attempt.token tried.before after

end Tried

/-- An attempt made on a yard. -/
def Attempt.on (attempt : Attempt) (yard : Yard) : Tried :=
  ⟨yard, attempt, attempt.carryOut.run yard⟩

/-- Attempts made one after another on one yard; one that fails does not stop those behind it. -/
def tryAll (yard : Yard) : List Attempt → List Tried
  | [] => []
  | attempt :: rest => attempt.on yard :: tryAll (attempt.on yard).after rest

/-- The yard behind attempts made one after another. -/
def afterAll (yard : Yard) : List Attempt → Yard
  | [] => yard
  | attempt :: rest => afterAll (attempt.on yard).after rest

/-- Each attempt is atomic. -/
theorem isAtomic_on (attempt : Attempt) (yard : Yard) : (attempt.on yard).IsAtomic := by
  have hwhole : (attempt.on yard).outcome = InPlace.ofAnswer yard (attempt.answer yard) :=
    attempt.carryOut_run yard
  have hcases := answer_cases attempt yard
  split at hcases
  · next next action advance hanswer =>
      have houtcome : (attempt.on yard).outcome = .ok (action, advance) next := by
        rw [hwhole, hanswer]
        rfl
      refine ⟨hwhole, fun fault after hfault => ?_, fun chosen goesOn after hok => ?_⟩
      · rw [houtcome] at hfault
        cases hfault
      · rw [houtcome] at hok
        cases hok
        exact ⟨hcases.1, hcases.2, hcases.2.changesAtTop⟩
  · next fault hanswer =>
      have houtcome : (attempt.on yard).outcome = .error fault yard := by
        rw [hwhole, hanswer]
        rfl
      refine ⟨hwhole, fun found after hfault => ?_, fun chosen goesOn after hok => ?_⟩
      · rw [houtcome] at hfault
        cases hfault
        exact ⟨rfl, hcases⟩
      · rw [houtcome] at hok
        cases hok

/-- Each attempt accounts for the tokens of the yard. -/
theorem held_on (attempt : Attempt) (yard : Yard) :
    (attempt.on yard).after.held + (attempt.on yard).discarded =
      yard.held + (attempt.on yard).pushed := by
  have hatomic := isAtomic_on attempt yard
  cases houtcome : (attempt.on yard).outcome with
  | ok answer after =>
      have heffect := (hatomic.succeeded answer.1 answer.2 after houtcome).2.1
      simp only [Tried.after, Tried.discarded, Tried.pushed, houtcome]
      exact heffect.held_add
  | error fault after =>
      obtain ⟨rfl, _⟩ := hatomic.failed fault after houtcome
      simp only [Tried.after, Tried.discarded, Tried.pushed, houtcome]

/-- What holds of each attempt, on whatever yard, holds of all that are made one after another. -/
theorem forall_tryAll {motive : Tried → Prop}
    (h : ∀ (attempt : Attempt) (yard : Yard), motive (attempt.on yard)) (first : Yard)
    (attempts : List Attempt) : ∀ tried ∈ tryAll first attempts, motive tried := by
  induction attempts generalizing first with
  | nil => exact List.forall_mem_nil _
  | cons attempt rest ih =>
      exact List.forall_mem_cons.mpr ⟨h attempt first, ih (attempt.on first).after⟩

/-- The tokens that steps have put on the stack, each as often as it was put there. -/
def allPushed (run : List Tried) : Multiset Token :=
  (run.map Tried.pushed).sum

/-- The tops of the stack that steps have dropped. -/
def allDiscarded (run : List Tried) : Multiset Token :=
  (run.map Tried.discarded).sum

theorem allPushed_cons (tried : Tried) (run : List Tried) :
    allPushed (tried :: run) = tried.pushed + allPushed run := by
  simp [allPushed]

theorem allDiscarded_cons (tried : Tried) (run : List Tried) :
    allDiscarded (tried :: run) = tried.discarded + allDiscarded run := by
  simp [allDiscarded]

/-- Attempts made one after another account for the tokens of the yard. -/
theorem held_afterAll (first : Yard) (attempts : List Attempt) :
    (afterAll first attempts).held + allDiscarded (tryAll first attempts) =
      first.held + allPushed (tryAll first attempts) := by
  induction attempts generalizing first with
  | nil => rfl
  | cons attempt rest ih =>
      -- `hstep` leads from the first yard to the next one, `hrest` from there to the last
      have hstep := held_on attempt first
      rw [afterAll, tryAll, allDiscarded_cons, allPushed_cons]
      generalize attempt.on first = tried at hstep ⊢
      have hrest := ih tried.after
      generalize tryAll tried.after rest = later at hrest ⊢
      calc
        (afterAll tried.after rest).held + (tried.discarded + allDiscarded later) =
            (afterAll tried.after rest).held + allDiscarded later + tried.discarded := by
          abel
        _ = tried.after.held + allPushed later + tried.discarded := by
          rw [hrest]
        _ = tried.after.held + tried.discarded + allPushed later := by
          abel
        _ = first.held + tried.pushed + allPushed later := by
          rw [hstep]
        _ = first.held + (tried.pushed + allPushed later) := add_assoc _ _ _

/-- Steps of the automaton are atomic and keep account of the tokens, whatever the two lists of the
    yard hold at first, and for all attempts, each with a given action or with that of the table.
    One that fails leaves both lists as they were. One that succeeds only adds to the output, and
    changes the stack at most by its top and the token. Behind all of them the yard holds the tokens
    that it held at first and those that were pushed, less those that were discarded. -/
theorem steps_atomic (first : Yard) (attempts : List Attempt) :
    (∀ tried ∈ tryAll first attempts, tried.IsAtomic) ∧
    allDiscarded (tryAll first attempts) ≤ first.held + allPushed (tryAll first attempts) ∧
    (afterAll first attempts).held =
      first.held + allPushed (tryAll first attempts) - allDiscarded (tryAll first attempts) := by
  have hheld := held_afterAll first attempts
  refine ⟨forall_tryAll isAtomic_on first attempts, ?_, ?_⟩
  · rw [← hheld]
    exact Multiset.le_add_left _ _
  · rw [← hheld]
    exact (Multiset.add_sub_cancel_right).symm

/-- Attempts that start on an empty stack. One of each kind that fails is among them: a pop of the
    empty stack, a look at it, a sentinel without an entry in the table, and an action that ends. -/
theorem steps_atomic_refusals :
    let first : Yard := ⟨[], [⟨.operand 1, 0⟩]⟩
    let attempts : List Attempt := [⟨⟨.operator .add, 1⟩, some .discard⟩,
      ⟨⟨.operator .add, 1⟩, none⟩, ⟨⟨.openBracket, 2⟩, some .push⟩, ⟨⟨.operator .mul, 3⟩, none⟩,
      ⟨⟨.begin, 4⟩, none⟩, ⟨⟨.operator .div, 5⟩, none⟩, ⟨⟨.finish, 6⟩, some .finish⟩,
      ⟨⟨.closeBracket, 7⟩, none⟩, ⟨⟨.closeBracket, 7⟩, none⟩]
    (∀ tried ∈ tryAll first attempts, tried.IsAtomic) ∧
    afterAll first attempts =
      ⟨[], [⟨.operator .div, 5⟩, ⟨.operator .mul, 3⟩, ⟨.operand 1, 0⟩]⟩ ∧
    allDiscarded (tryAll first attempts) = {⟨.openBracket, 2⟩} ∧
    (afterAll first attempts).held =
      first.held + allPushed (tryAll first attempts) - {⟨.openBracket, 2⟩} := by
  intro first attempts
  have hlast : afterAll first attempts =
      ⟨[], [⟨.operator .div, 5⟩, ⟨.operator .mul, 3⟩, ⟨.operand 1, 0⟩]⟩ := rfl
  have hdiscarded : allDiscarded (tryAll first attempts) = {⟨.openBracket, 2⟩} := rfl
  obtain ⟨hatomic, _, hheld⟩ := steps_atomic first attempts
  rw [hdiscarded] at hheld
  exact ⟨hatomic, hlast, hdiscarded, hheld⟩

end Abacus.Yard
