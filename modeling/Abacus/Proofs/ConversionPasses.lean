/-
Module: Abacus.Proofs.ConversionPasses
Purpose: How long a conversion takes. Its loop does not always go on to the next token, so the place
  among the tokens is no measure; but a pass that stays at its token takes an operator off the stack
  that an earlier pass has put there. Two passes for each token are enough, for every list of
  tokens, and in none of them is the stack empty.
Main exports: Conversion.runWithin, Conversion.length_points_le, Conversion.start,
  Conversion.operators_ne_nil, toPostfixWithin, passes, toPostfix_passes
-/
import Mathlib.Control.Monad.Basic
import Abacus.Proofs.WaitingGroups

namespace Abacus

/-! ### A loop that may be cut off -/

namespace Conversion

/-- Where a run ends, if it ends within a number of passes. -/
def runWithin : (limit : Nat) → Conversion → Option (Except ConversionFault (List Token))
  | 0, _ => none
  | limit + 1, conversion =>
      match conversion.step with
      | .done tokens => some (.ok tokens)
      | .failed fault => some (.error fault)
      | .next next => runWithin limit next

/-- A run comes to its end within as many passes as it has points, and within no fewer. -/
theorem runWithin_eq (limit : Nat) (conversion : Conversion) :
    conversion.runWithin limit =
      if conversion.points.length ≤ limit then some conversion.run else none := by
  -- each pass goes to the next point and takes one off the limit
  fun_induction points conversion generalizing limit with
  | case1 conversion next hnext ih =>
      cases limit with
      | zero => rfl
      | succ limit =>
          rw [runWithin, hnext, run_step, hnext, List.length_cons]
          simp only [Nat.add_le_add_iff_right]
          exact ih limit
  | case2 conversion hlast =>
      cases limit with
      | zero => rfl
      | succ limit =>
          rw [if_pos (by simp), runWithin, run_step]
          cases hstep : conversion.step with
          | done tokens => rfl
          | failed fault => rfl
          | next next => exact absurd hstep (hlast next)

/-- A run has no more points than its bound allows, as each step that goes on lowers the bound. -/
theorem length_points_le (conversion : Conversion) :
    conversion.points.length ≤ conversion.bound + 1 := by
  fun_induction points conversion with
  | case1 conversion next hnext ih =>
      have hlower : next.bound < conversion.bound := bound_lt_of_step hnext
      rw [List.length_cons]
      omega
  | case2 conversion hlast => simp

/-! ### Access to the stack -/

/-- A step on a stack that holds something neither reads nor pops an empty stack. -/
theorem step_of_ne_nil {conversion : Conversion} (h : conversion.yard.operators ≠ []) :
    conversion.step ≠ .failed (.stack .emptyTop) ∧
      conversion.step ≠ .failed (.stack .emptyPop) := by
  obtain ⟨⟨_ | ⟨top, below⟩, output⟩, rest⟩ := conversion
  · exact absurd rfl h
  obtain _ | ⟨token, rest⟩ := rest
  · simp [step]
  by_cases hoperand : token.kind = .operand
  · simp [step, Token.isOperand, hoperand]
  · rw [step_top top below output rest hoperand]
    cases transition? top.kind token.kind with
    | none => simp
    | some action => cases action <;> simp [stepBy]

/-! ### Where a conversion starts -/

/-- The point at which the loop of a conversion starts. A list that does not open with its sentinel
    is refused before the loop. -/
def start (tokens : List Token) : Except ConversionFault Conversion :=
  match tokens with
  | [] => .error (.noBegin none)
  | first :: rest =>
      if first.kind = .begin then .ok ⟨⟨[first], []⟩, rest⟩ else .error (.noBegin (some first))

/-- The loop starts behind the opening sentinel, which is all that lies on the stack. -/
theorem start_eq_ok {tokens : List Token} {first : Conversion} (h : start tokens = .ok first) :
    ∃ (sentinel : Token) (rest : List Token), sentinel.kind = .begin ∧
      tokens = sentinel :: rest ∧ first = ⟨⟨[sentinel], []⟩, rest⟩ := by
  obtain _ | ⟨sentinel, rest⟩ := tokens
  · cases h
  rw [start] at h
  split at h
  · next hbegin =>
      cases h
      exact ⟨sentinel, rest, hbegin, rfl, rfl⟩
  · cases h

/-- A conversion is its start and the run from there. -/
theorem toPostfix_eq_start (tokens : List Token) :
    toPostfix tokens =
      match start tokens with
      | .ok first => first.run
      | .error fault => .error fault := by
  obtain _ | ⟨sentinel, rest⟩ := tokens
  · rfl
  rw [toPostfix, start]
  split <;> rfl

/-- The bound at the start is less than twice the number of tokens. -/
theorem bound_start {tokens : List Token} {first : Conversion} (h : start tokens = .ok first) :
    first.bound < 2 * tokens.length := by
  obtain ⟨sentinel, rest, _, rfl, rfl⟩ := start_eq_ok h
  simp only [bound, List.length_cons, List.length_nil]
  omega

/-- The opening sentinel never leaves the stack, so that no point finds the stack empty. -/
theorem operators_ne_nil {tokens : List Token} {first point : Conversion}
    (h : start tokens = .ok first) (hpoint : point ∈ first.points) :
    point.yard.operators ≠ [] := by
  obtain ⟨sentinel, rest, hsentinel, rfl, rfl⟩ := start_eq_ok h
  have hbottom : Grouped sentinel 0 [sentinel] := .bottom .none
  obtain ⟨_, _, _, _, hgrouped⟩ := grouped_points hsentinel hbottom point hpoint
  obtain ⟨above, habove, _⟩ := hgrouped.sentinel
  simp [habove]

end Conversion

/-! ### Main result -/

/-- The postfix order of tokens, if the loop comes to its end within a number of passes. -/
def toPostfixWithin (limit : Nat) (tokens : List Token) :
    Option (Except ConversionFault (List Token)) :=
  match Conversion.start tokens with
  | .ok first => first.runWithin limit
  | .error fault => some (.error fault)

/-- The points at which the passes of the loop start, one for each pass. -/
def passes (tokens : List Token) : List Conversion :=
  match Conversion.start tokens with
  | .ok first => first.points
  | .error _ => []

/-- The loop that may be cut off comes to the same end as the one that may not, as soon as it may
    take all passes. -/
theorem toPostfixWithin_eq (limit : Nat) (tokens : List Token) :
    toPostfixWithin limit tokens =
      if (passes tokens).length ≤ limit then some (toPostfix tokens) else none := by
  rw [toPostfixWithin, passes, Conversion.toPostfix_eq_start]
  cases Conversion.start tokens with
  | ok first => exact first.runWithin_eq limit
  | error fault => simp

/-- There are two passes for each token at most. -/
theorem length_passes_le (tokens : List Token) : (passes tokens).length ≤ 2 * tokens.length := by
  rw [passes]
  split
  · next first hstart =>
      calc
        first.points.length ≤ first.bound + 1 := first.length_points_le
        _ ≤ 2 * tokens.length := Conversion.bound_start hstart
  · exact Nat.zero_le _

/-- No pass finds the stack empty. -/
theorem operators_ne_nil_of_mem_passes {tokens : List Token} {point : Conversion}
    (h : point ∈ passes tokens) : point.yard.operators ≠ [] := by
  rw [passes] at h
  split at h
  · next first hstart => exact Conversion.operators_ne_nil hstart h
  · cases h

/-- The loop of a conversion ends, for every list of tokens: two passes for each token are enough to
    come to a result or a fault, and it is the one that the conversion gives. A loop that may be cut
    off comes to its end exactly if it may take all its passes. No pass finds the stack empty, and
    none reads or pops the top of an empty stack. -/
theorem toPostfix_passes (tokens : List Token) :
    toPostfixWithin (2 * tokens.length) tokens = some (toPostfix tokens) ∧
    (∀ limit : Nat, toPostfixWithin limit tokens =
      if (passes tokens).length ≤ limit then some (toPostfix tokens) else none) ∧
    (passes tokens).length ≤ 2 * tokens.length ∧
    ∀ point ∈ passes tokens, point.yard.operators ≠ [] ∧
      point.step ≠ .failed (.stack .emptyTop) ∧ point.step ≠ .failed (.stack .emptyPop) := by
  have hlength := length_passes_le tokens
  refine ⟨?_, fun limit => toPostfixWithin_eq limit tokens, hlength, fun point hpoint => ?_⟩
  · rw [toPostfixWithin_eq, if_pos hlength]
  · have hoperators := operators_ne_nil_of_mem_passes hpoint
    exact ⟨hoperators, Conversion.step_of_ne_nil hoperators⟩

/-- A closing bracket at which the loop stays twice, in a list of five tokens that does not close
    with its sentinel: there are seven passes, the last one for want of a token. -/
theorem toPostfix_passes_unfinished :
    let tokens : List Token := [⟨.begin, 0⟩, ⟨.openBracket, 0⟩, ⟨.operator .add, 1⟩,
      ⟨.operator .mul, 2⟩, ⟨.closeBracket, 3⟩]
    let point : Conversion := ⟨⟨[⟨.operator .mul, 2⟩, ⟨.operator .add, 1⟩, ⟨.openBracket, 0⟩,
      ⟨.begin, 0⟩], []⟩, [⟨.closeBracket, 3⟩]⟩
    (passes tokens).length = 7 ∧ point ∈ passes tokens ∧ point.yard.operators ≠ [] ∧
      toPostfixWithin 10 tokens = some (.error .noFinish) ∧ toPostfixWithin 6 tokens = none := by
  intro tokens point
  have hlength : (passes tokens).length = 7 := by decide +kernel
  have hmem : point ∈ passes tokens := by decide +kernel
  have hresult : toPostfix tokens = .error .noFinish := by decide +kernel
  obtain ⟨hend, hlimit, _, hpoints⟩ := toPostfix_passes tokens
  refine ⟨hlength, hmem, (hpoints point hmem).1, ?_, ?_⟩
  · rw [← hresult]
    exact hend
  · rw [hlimit, hlength]
    rfl

end Abacus
