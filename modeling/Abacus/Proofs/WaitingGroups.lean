/-
Module: Abacus.Proofs.WaitingGroups
Purpose: What waits on the stack of the precedence automaton, at every point of a conversion. Above
  the opening sentinel and above each open bracket waits a group of operators: none, one, or a
  strong one on a weak one. That is why the automaton may pop one operator and push the next without
  another look at the stack, and why no token is looked at more than three times.
Main exports: Conversion.points, Conversion.run_points, Grouped, Conversion.continues_of_step,
  Conversion.grouped_points, toPostfix_grouped
-/
import Abacus.Proofs.BracketDepth

namespace Abacus

/-! ### The points of a run -/

namespace Conversion

/-- The points that a run comes to, the first one first. -/
def points (conversion : Conversion) : List Conversion :=
  match _h : conversion.step with
  | .next next => conversion :: points next
  | _ => [conversion]
termination_by conversion.bound
decreasing_by exact bound_lt_of_step _h

/-- The action that the automaton takes at a point. An operand calls for none, nor does a token that
    the table has no entry for. -/
def action? (conversion : Conversion) : Option Action :=
  match conversion.rest with
  | [] => none
  | token :: _ => if token.isOperand then none else (conversion.yard.actionFor token).toOption

/-- At a point the automaton sends the top of its stack to the output, and stays at the token that
    is numbered by how many tokens are left with it. -/
def staysAt (place : Nat) (conversion : Conversion) : Bool :=
  conversion.rest.length == place && conversion.action? == some .moveTopStay

theorem staysAt_iff {place : Nat} {conversion : Conversion} :
    staysAt place conversion = true ↔
      conversion.rest.length = place ∧ conversion.action? = some .moveTopStay := by
  simp [staysAt]

/-- A run ends with the step at its last point. -/
theorem run_points (conversion : Conversion) :
    ∃ (earlier : List Conversion) (last : Conversion), conversion.points = earlier ++ [last] ∧
      (∀ next : Conversion, last.step ≠ .next next) ∧ conversion.run = last.step.resume := by
  fun_induction points conversion with
  | case1 conversion next hnext ih =>
      obtain ⟨earlier, last, hpoints, hlast, hrun⟩ := ih
      refine ⟨conversion :: earlier, last, by rw [hpoints]; rfl, hlast, ?_⟩
      rw [run_step, hnext]
      exact hrun
  | case2 conversion hlast => exact ⟨[], conversion, rfl, hlast, run_step conversion⟩

/-- What the table says for the top of the stack and a token is the action at the point. -/
theorem action?_top (top : Token) (below output : List Token) {token : Token} (rest : List Token)
    (h : token.kind ≠ .operand) :
    action? ⟨⟨top :: below, output⟩, token :: rest⟩ = transition? top.kind token.kind := by
  have hoperand : token.isOperand = false := by
    simpa [Token.isOperand] using h
  simp only [action?, hoperand, Yard.actionFor, lookupAction]
  cases transition? top.kind token.kind <;> rfl

end Conversion

/-! ### Stacks in groups -/

/-- The groups of operators that wait above a bracket or the sentinel, the top one first: none, one,
    or a strong one on a weak one. -/
inductive IsGroup : List Token → Prop where
  | none : IsGroup []
  | weak {lower : Token} (hlower : lower.kind = .weak) : IsGroup [lower]
  | strong {upper : Token} (hupper : upper.kind = .strong) : IsGroup [upper]
  | strongOnWeak {upper lower : Token} (hupper : upper.kind = .strong)
      (hlower : lower.kind = .weak) : IsGroup [upper, lower]

/-- The stacks that have the opening sentinel at the bottom and hold a number of open brackets, with
    a group of operators above the sentinel and above each bracket. -/
inductive Grouped (start : Token) : (depth : Nat) → List Token → Prop where
  | bottom {group : List Token} (hgroup : IsGroup group) : Grouped start 0 (group ++ [start])
  | bracket {depth : Nat} {group below : List Token} {bracket : Token} (hgroup : IsGroup group)
      (hbracket : bracket.kind = .openBracket) (hbelow : Grouped start depth below) :
      Grouped start (depth + 1) (group ++ bracket :: below)

namespace IsGroup

variable {group : List Token} (h : IsGroup group)

include h

theorem length_le : group.length ≤ 2 := by
  cases h <;> simp

theorem kind_ne_begin : ∀ token ∈ group, token.kind ≠ .begin := by
  cases h <;> simp_all

end IsGroup

/-- A stack on which every group may wait. -/
def Floor (start : Token) (depth : Nat) (base : List Token) : Prop :=
  ∀ group : List Token, IsGroup group → Grouped start depth (group ++ base)

/-- What can lie on top of a grouped stack: the sentinel, an open bracket, an operator that waits
    alone, or a strong operator on a weak one. -/
inductive GroupTop (start : Token) (depth : Nat) (top : Token) (below : List Token) : Prop where
  | sentinel (htop : top.kind = .begin) (hfloor : Floor start depth (top :: below))
  | bracket {outer : Nat} (htop : top.kind = .openBracket) (hdepth : depth = outer + 1)
      (hbelow : Grouped start outer below) (hfloor : Floor start depth (top :: below))
  | alone (htop : top.kind = .weak ∨ top.kind = .strong) (hfloor : Floor start depth below)
  | onWeak {lower : Token} {base : List Token} (htop : top.kind = .strong)
      (hlower : lower.kind = .weak) (hbelow : below = lower :: base)
      (hfloor : Floor start depth base)

theorem groupTop_of_floor {start top : Token} {depth : Nat} {group base below : List Token}
    (hgroup : IsGroup group) (hne : group ≠ []) (hfloor : Floor start depth base)
    (h : top :: below = group ++ base) : GroupTop start depth top below := by
  cases hgroup with
  | none => exact absurd rfl hne
  | weak hlower =>
      cases h
      exact .alone (.inl hlower) hfloor
  | strong hupper =>
      cases h
      exact .alone (.inr hupper) hfloor
  | strongOnWeak hupper hlower =>
      cases h
      exact .onWeak hupper hlower rfl hfloor

namespace Grouped

variable {start : Token} {depth : Nat}

theorem groupTop {top : Token} {below : List Token} (h : Grouped start depth (top :: below))
    (hstart : start.kind = .begin) : GroupTop start depth top below := by
  generalize hoperators : top :: below = operators at h
  cases h with
  | @bottom group hgroup =>
      have hfloor : Floor start 0 [start] := fun _ hgroup => .bottom hgroup
      by_cases hempty : group = []
      · subst hempty
        cases hoperators
        exact .sentinel hstart hfloor
      · exact groupTop_of_floor hgroup hempty hfloor hoperators
  | @bracket outer group inner bracket hgroup hbracket hinner =>
      have hfloor : Floor start (outer + 1) (bracket :: inner) :=
        fun _ hgroup => .bracket hgroup hbracket hinner
      by_cases hempty : group = []
      · subst hempty
        cases hoperators
        exact .bracket hbracket rfl hinner hfloor
      · exact groupTop_of_floor hgroup hempty hfloor hoperators

end Grouped

/-- Two operators at most wait on top. -/
theorem Grouped.length_takeWhile_le {start : Token} {depth : Nat} {operators : List Token}
    (h : Grouped start depth operators) (hstart : start.kind = .begin) :
    (operators.takeWhile Token.isOperator).length ≤ 2 := by
  have hbound : ∀ {group base : List Token}, IsGroup group → Settled Token.isOperator base →
      ((group ++ base).takeWhile Token.isOperator).length ≤ 2 := by
    intro group base hgroup hbase
    rw [takeWhile_append_settled group hbase]
    exact Nat.le_trans ((List.takeWhile_prefix _).length_le) hgroup.length_le
  cases h with
  | bottom hgroup => exact hbound hgroup (by simp [Token.isOperator, hstart])
  | bracket hgroup hbracket => exact hbound hgroup (by simp [Token.isOperator, hbracket])

/-- The opening sentinel lies at the bottom, and nowhere else. -/
theorem Grouped.sentinel {start : Token} {depth : Nat} {operators : List Token}
    (h : Grouped start depth operators) :
    ∃ above : List Token, operators = above ++ [start] ∧ ∀ token ∈ above, token.kind ≠ .begin := by
  induction h with
  | bottom hgroup => exact ⟨_, rfl, hgroup.kind_ne_begin⟩
  | @bracket depth group below bracket hgroup hbracket _ ih =>
      obtain ⟨above, rfl, habove⟩ := ih
      have hbegin : bracket.kind ≠ .begin := by
        rw [hbracket]
        decide
      exact ⟨group ++ bracket :: above, by simp, List.forall_mem_append.mpr
        ⟨hgroup.kind_ne_begin, List.forall_mem_cons.mpr ⟨hbegin, habove⟩⟩⟩

/-! ### What the actions do to a grouped stack -/

namespace GroupTop

variable {start top token : Token} {depth : Nat} {below : List Token}
  (h : GroupTop start depth top below)

include h

/-- An operator on top can be taken away. -/
theorem pop (htop : top.kind = .weak ∨ top.kind = .strong) : Grouped start depth below := by
  cases h with
  | sentinel hkind => simp [hkind] at htop
  | bracket hkind => simp [hkind] at htop
  | alone _ hfloor => exact hfloor [] .none
  | onWeak _ hlower hbelow hfloor =>
      rw [hbelow]
      exact hfloor _ (.weak hlower)

/-- An operator on top can be exchanged for another of its kind. -/
theorem exchange (htop : top.kind = .weak ∨ top.kind = .strong) (hsame : token.kind = top.kind) :
    Grouped start depth (token :: below) := by
  cases h with
  | sentinel hkind => simp [hkind] at htop
  | bracket hkind => simp [hkind] at htop
  | alone _ hfloor =>
      rcases htop with htop | htop
      · exact hfloor [token] (.weak (hsame.trans htop))
      · exact hfloor [token] (.strong (hsame.trans htop))
  | onWeak hkind hlower hbelow hfloor =>
      rw [hbelow]
      exact hfloor _ (.strongOnWeak (hsame.trans hkind) hlower)

/-- A weak operator can wait where no operator waits. -/
theorem pushWeak (htop : top.kind = .begin ∨ top.kind = .openBracket)
    (htoken : token.kind = .weak) : Grouped start depth (token :: top :: below) := by
  cases h with
  | sentinel _ hfloor | bracket _ _ _ hfloor => exact hfloor [token] (.weak htoken)
  | alone hkind => rcases hkind with hkind | hkind <;> simp [hkind] at htop
  | onWeak hkind => simp [hkind] at htop

/-- A strong operator can wait where no strong operator waits on top. -/
theorem pushStrong (htop : top.kind ≠ .strong) (htoken : token.kind = .strong) :
    Grouped start depth (token :: top :: below) := by
  cases h with
  | sentinel _ hfloor | bracket _ _ _ hfloor => exact hfloor [token] (.strong htoken)
  | alone hkind hfloor =>
      exact hfloor [token, top] (.strongOnWeak htoken (hkind.resolve_right htop))
  | onWeak hkind => exact absurd hkind htop

/-- With an open bracket on top, no operator waits inside of it any more, and it can be closed. -/
theorem close (htop : top.kind = .openBracket) :
    ∃ outer : Nat, depth = outer + 1 ∧ Grouped start outer below := by
  cases h with
  | sentinel hkind => simp [hkind] at htop
  | bracket _ hdepth hbelow => exact ⟨_, hdepth, hbelow⟩
  | alone hkind => rcases hkind with hkind | hkind <;> simp [hkind] at htop
  | onWeak hkind => simp [hkind] at htop

end GroupTop

/-! ### What the table asks for -/

theorem operator_of_moveTopStay {state symbol : TokenKind}
    (h : transition? state symbol = some .moveTopStay) : state = .weak ∨ state = .strong := by
  cases state <;> cases symbol <;> simp [transition?] at h ⊢

/-- The automaton stays at a token only with an operator on top. -/
theorem isOperator_of_stay {top : Token} {symbol : TokenKind}
    (h : transition? top.kind symbol = some .moveTopStay) : top.isOperator = true := by
  rcases operator_of_moveTopStay h with hkind | hkind <;> simp [Token.isOperator, hkind]

theorem operator_of_moveTopThenPush {state symbol : TokenKind}
    (h : transition? state symbol = some .moveTopThenPush) :
    (state = .weak ∨ state = .strong) ∧ symbol = state := by
  cases state <;> cases symbol <;> simp [transition?] at h ⊢

theorem brackets_of_discard {state symbol : TokenKind}
    (h : transition? state symbol = some .discard) :
    state = .openBracket ∧ symbol = .closeBracket := by
  cases state <;> cases symbol <;> simp [transition?] at h ⊢

theorem symbol_of_push {state symbol : TokenKind} (h : transition? state symbol = some .push) :
    symbol = .openBracket ∨
      symbol = .weak ∧ (state = .begin ∨ state = .openBracket) ∨
      symbol = .strong ∧ state ≠ .strong := by
  cases state <;> cases symbol <;> simp [transition?] at h ⊢

/-! ### Steps -/

/-- The kind of a token decides how it changes the number of open brackets. -/
theorem depthAfter?_of_kind (token : Token) (depth : Nat) :
    token.depthAfter? depth =
      match token.kind, depth with
      | .openBracket, depth => some (depth + 1)
      | .closeBracket, 0 => none
      | .closeBracket, depth + 1 => some depth
      | _, depth => some depth := by
  obtain ⟨lexeme, position⟩ := token
  cases lexeme with
  | operator op => cases op <;> rfl
  | closeBracket => cases depth <;> rfl
  | _ => rfl

namespace Conversion

/-- How many operators wait on top, above the nearest bracket or the sentinel. -/
def waiting (conversion : Conversion) : Nat :=
  (conversion.yard.operators.takeWhile Token.isOperator).length

/-- Where the automaton stays at a token, an operator waits. -/
theorem waiting_pos {conversion : Conversion} (h : conversion.action? = some .moveTopStay) :
    0 < conversion.waiting := by
  obtain ⟨⟨operators, output⟩, _ | ⟨token, rest⟩⟩ := conversion
  · cases h
  by_cases hoperand : token.kind = .operand
  · simp [action?, Token.isOperand, hoperand] at h
  · obtain _ | ⟨top, below⟩ := operators
    · simp [action?, Token.isOperand, hoperand, Yard.actionFor, Except.toOption] at h
    · rw [action?_top top below output rest hoperand] at h
      simp [waiting, isOperator_of_stay h]

/-- How a conversion over a grouped stack goes on: it stays at its token with one operator less that
    waits, or it is done with the token, and the brackets that are open are those behind it. The
    stack is grouped again. -/
inductive Continues (start : Token) (depth : Nat) (conversion next : Conversion) : Prop where
  | stay (haction : conversion.action? = some .moveTopStay) (hrest : next.rest = conversion.rest)
      (hwaiting : next.waiting < conversion.waiting)
      (hgrouped : Grouped start depth next.yard.operators)
  | advance {token : Token} {after : Nat} (haction : conversion.action? ≠ some .moveTopStay)
      (hrest : conversion.rest = token :: next.rest) (hdepth : token.depthAfter? depth = some after)
      (hgrouped : Grouped start after next.yard.operators)

section

variable {start : Token} (hstart : start.kind = .begin) {depth : Nat} {conversion next : Conversion}

/-- Each action that goes on leaves a grouped stack. -/
theorem continues_of_action {top token : Token} {below output rest : List Token} {action : Action}
    (h : Grouped start depth (top :: below)) (htop : GroupTop start depth top below)
    (htransition : transition? top.kind token.kind = some action)
    (hoperand : token.kind ≠ .operand)
    (hstep : stepBy top token below output rest action = .next next) :
    Continues start depth ⟨⟨top :: below, output⟩, token :: rest⟩ next := by
  have haction := action?_top top below output rest hoperand
  rw [htransition] at haction
  cases action with
  | push =>
      cases hstep
      rcases symbol_of_push htransition with hopen | ⟨hweak, hbare⟩ | ⟨hstrong, hbare⟩
      · refine .advance (by simp [haction]) rfl ?_ (h.bracket .none hopen)
        rw [depthAfter?_of_kind, hopen]
      · refine .advance (by simp [haction]) rfl ?_ (htop.pushWeak hbare hweak)
        rw [depthAfter?_of_kind, hweak]
      · refine .advance (by simp [haction]) rfl ?_ (htop.pushStrong hbare hstrong)
        rw [depthAfter?_of_kind, hstrong]
  | moveTopThenPush =>
      cases hstep
      obtain ⟨hoperator, hsame⟩ := operator_of_moveTopThenPush htransition
      refine .advance (by simp [haction]) rfl ?_ (htop.exchange hoperator hsame)
      rcases hoperator with hkind | hkind <;> rw [depthAfter?_of_kind, hsame, hkind]
  | discard =>
      cases hstep
      obtain ⟨hopen, hclose⟩ := brackets_of_discard htransition
      obtain ⟨outer, rfl, hbelow⟩ := htop.close hopen
      refine .advance (by simp [haction]) rfl ?_ hbelow
      rw [depthAfter?_of_kind, hclose]
  | moveTopStay =>
      cases hstep
      refine .stay haction rfl ?_ (htop.pop (operator_of_moveTopStay htransition))
      simp [waiting, isOperator_of_stay htransition]
  | finish => cases hstep
  | error => cases hstep

include hstart

/-- A step over a grouped stack leaves a grouped stack. -/
theorem continues_of_step (h : Grouped start depth conversion.yard.operators)
    (hstep : conversion.step = .next next) : Continues start depth conversion next := by
  obtain ⟨⟨operators, output⟩, _ | ⟨token, rest⟩⟩ := conversion
  · cases hstep
  by_cases hoperand : token.kind = .operand
  · have hyes : token.isOperand = true := by
      simp [Token.isOperand, hoperand]
    simp only [step, hyes, if_true] at hstep
    cases hstep
    refine .advance (by simp [action?, hyes]) rfl ?_ h
    rw [depthAfter?_of_kind, hoperand]
  · obtain _ | ⟨top, below⟩ := operators
    · simp [step, Token.isOperand, hoperand, Yard.actionFor] at hstep
    · rw [step_top top below output rest hoperand] at hstep
      cases htransition : transition? top.kind token.kind with
      | none => simp [htransition] at hstep
      | some action =>
          rw [htransition] at hstep
          exact continues_of_action h (h.groupTop hstart) htransition hoperand hstep

end

/-! ### Runs -/

/-- What holds at a point, and holds behind each step if it holds before, holds at all points that
    follow. -/
theorem forall_points {motive : Conversion → Prop}
    (hstep : ∀ before after : Conversion, motive before → before.step = .next after → motive after)
    {conversion : Conversion} (h : motive conversion) :
    ∀ point ∈ conversion.points, motive point := by
  fun_induction points conversion with
  | case1 conversion next hnext ih =>
      exact List.forall_mem_cons.mpr ⟨h, ih (hstep conversion next h hnext)⟩
  | case2 conversion hlast => exact List.forall_mem_singleton.mpr h

section

variable {start : Token} (hstart : start.kind = .begin) {depth : Nat} {conversion : Conversion}
  (h : Grouped start depth conversion.yard.operators)

include hstart h

/-- At each point of a run, the stack is grouped, and the brackets that are open on it are those
    that the tokens taken so far leave open. -/
theorem grouped_points :
    ∀ point ∈ conversion.points, ∃ (taken : List Token) (after : Nat),
      conversion.rest = taken ++ point.rest ∧ openAfter? depth taken = some after ∧
        Grouped start after point.yard.operators := by
  refine forall_points ?_ ⟨[], depth, rfl, rfl, h⟩
  rintro before next ⟨taken, inner, htaken, hinner, hgrouped⟩ hstep
  cases continues_of_step hstart hgrouped hstep with
  | stay _ hrest _ hnext => exact ⟨taken, inner, by rw [hrest, htaken], hinner, hnext⟩
  | @advance token after _ hrest hdepth hnext =>
      refine ⟨taken ++ [token], after, by rw [htaken, hrest]; simp, ?_, hnext⟩
      rw [openAfter?, List.foldlM_append, ← openAfter?, hinner]
      simp [hdepth]

/-- The automaton does not come back to a token that it is done with. -/
theorem countP_staysAt_eq_zero {place : Nat} (hplace : conversion.rest.length < place) :
    conversion.points.countP (staysAt place) = 0 := by
  have hbehind : ∀ point ∈ conversion.points,
      (∃ depth : Nat, Grouped start depth point.yard.operators) ∧ point.rest.length < place := by
    refine forall_points ?_ ⟨⟨depth, h⟩, hplace⟩
    rintro before after ⟨⟨depth, hgrouped⟩, hbefore⟩ hstep
    cases continues_of_step hstart hgrouped hstep with
    | stay _ hrest _ hnext =>
        rw [hrest]
        exact ⟨⟨depth, hnext⟩, hbefore⟩
    | advance _ hrest _ hnext =>
        rw [hrest, List.length_cons] at hbefore
        exact ⟨⟨_, hnext⟩, Nat.lt_of_succ_lt hbefore⟩
  refine List.countP_eq_zero.mpr fun point hpoint => ?_
  simp [staysAt, Nat.ne_of_lt (hbehind point hpoint).2]

/-- While the automaton stays at a token, operators that wait on top become less; so it stays there
    no more often than there are such operators when it comes to the token. -/
theorem countP_staysAt_le_waiting (place : Nat) :
    conversion.points.countP (staysAt place) ≤
      if conversion.rest.length = place then conversion.waiting else 2 := by
  fun_induction points conversion generalizing depth with
  | case1 conversion next hnext ih =>
      rw [List.countP_cons]
      cases continues_of_step hstart h hnext with
      | stay haction hrest hwaiting hgrouped =>
          have hlater := ih hgrouped
          rw [hrest] at hlater
          by_cases hplace : conversion.rest.length = place
          · simp only [hplace, if_true] at hlater ⊢
            split <;> omega
          · have hother : staysAt place conversion = false := by
              simp [staysAt, hplace]
            simpa [hother, hplace] using hlater
      | @advance token after haction hrest hdepth hgrouped =>
          have hother : staysAt place conversion = false := by
            simp [staysAt, haction]
          have hlater := ih hgrouped
          have htwo : next.waiting ≤ 2 := hgrouped.length_takeWhile_le hstart
          by_cases hplace : conversion.rest.length = place
          · have hbehind : next.rest.length < place := by
              rw [← hplace, hrest, List.length_cons]
              exact Nat.lt_succ_self _
            simp [hother, countP_staysAt_eq_zero hstart hgrouped hbehind]
          · have hlater : next.points.countP (staysAt place) ≤ 2 := by
              split at hlater <;> omega
            simpa [hother, hplace] using hlater
  | case2 conversion hlast =>
      by_cases hstays : staysAt place conversion = true
      · have hpos := waiting_pos (staysAt_iff.mp hstays).2
        simp only [List.countP_singleton, hstays, if_true]
        split <;> omega
      · simp [hstays]

end

end Conversion

/-! ### Main result -/

/-- The stack of a conversion, for every list of tokens that starts with the opening sentinel. The
    points of the run lead to what the conversion gives. At each of them, the stack holds the
    sentinel at the bottom and nowhere else, and as many open brackets as the tokens that have been
    taken leave open, with a group of operators above the sentinel and above each bracket. At no
    place among the tokens does the automaton stay more than twice. -/
theorem toPostfix_grouped {start : Token} (hstart : start.kind = .begin) (tokens : List Token) :
    let first : Conversion := ⟨⟨[start], []⟩, tokens⟩
    (∃ (earlier : List Conversion) (last : Conversion), first.points = earlier ++ [last] ∧
      (∀ next : Conversion, last.step ≠ .next next) ∧
        toPostfix (start :: tokens) = last.step.resume) ∧
    (∀ point ∈ first.points, ∃ (taken : List Token) (depth : Nat),
      tokens = taken ++ point.rest ∧ openAfter? 0 taken = some depth ∧
        Grouped start depth point.yard.operators ∧
        ∃ above : List Token, point.yard.operators = above ++ [start] ∧
          ∀ token ∈ above, token.kind ≠ .begin) ∧
    ∀ place : Nat, first.points.countP (Conversion.staysAt place) ≤ 2 := by
  intro first
  have hgrouped : Grouped start 0 first.yard.operators := .bottom .none
  refine ⟨?_, fun point hpoint => ?_, fun place => ?_⟩
  · rw [toPostfix, if_pos hstart]
    exact first.run_points
  · obtain ⟨taken, depth, htaken, hdepth, hpoint⟩ :=
      Conversion.grouped_points hstart hgrouped point hpoint
    exact ⟨taken, depth, htaken, hdepth, hpoint, hpoint.sentinel⟩
  · have hstays := Conversion.countP_staysAt_le_waiting hstart hgrouped place
    have htwo : first.waiting ≤ 2 := hgrouped.length_takeWhile_le hstart
    split at hstays <;> omega

/-- The tokens of a sum of products with brackets, and one closing bracket too many. -/
def nestedTokens : List Token :=
  [⟨.operand 1, 0⟩, ⟨.operator .add, 1⟩, ⟨.operand 2, 2⟩, ⟨.operator .mul, 3⟩, ⟨.openBracket, 4⟩,
    ⟨.operand 3, 5⟩, ⟨.operator .sub, 6⟩, ⟨.operand 4, 7⟩, ⟨.operator .mul, 8⟩, ⟨.operand 5, 9⟩,
    ⟨.closeBracket, 10⟩, ⟨.closeBracket, 11⟩, ⟨.finish, 12⟩]

/-- The point of its conversion at the first closing bracket. -/
def nestedPoint : Conversion where
  yard := {
    operators := [⟨.operator .mul, 8⟩, ⟨.operator .sub, 6⟩, ⟨.openBracket, 4⟩,
      ⟨.operator .mul, 3⟩, ⟨.operator .add, 1⟩, ⟨.begin, 0⟩]
    output := [⟨.operand 5, 9⟩, ⟨.operand 4, 7⟩, ⟨.operand 3, 5⟩, ⟨.operand 2, 2⟩,
      ⟨.operand 1, 0⟩] }
  rest := nestedTokens.drop 10

/-- There a product waits on a difference inside of the bracket, and a product on a sum outside of
    it; and the automaton stays at the bracket twice. -/
theorem toPostfix_grouped_nested :
    let start : Token := ⟨.begin, 0⟩
    let first : Conversion := ⟨⟨[start], []⟩, nestedTokens⟩
    start.kind = .begin ∧ nestedPoint ∈ first.points ∧
      Grouped start 1 nestedPoint.yard.operators ∧
      first.points.countP (Conversion.staysAt 3) = 2 ∧
      ∀ place : Nat, first.points.countP (Conversion.staysAt place) ≤ 2 := by
  intro start first
  have hstart : start.kind = .begin := rfl
  have hmem : nestedPoint ∈ first.points := by decide +kernel
  have hstays : first.points.countP (Conversion.staysAt 3) = 2 := by decide +kernel
  obtain ⟨_, hpoints, hmost⟩ := toPostfix_grouped hstart nestedTokens
  obtain ⟨taken, depth, htaken, hdepth, hgrouped, _⟩ := hpoints nestedPoint hmem
  obtain rfl : nestedTokens.take 10 = taken :=
    List.append_cancel_right ((List.take_append_drop 10 nestedTokens).trans htaken)
  cases hdepth
  exact ⟨hstart, hmem, hgrouped, hstays, hmost⟩

end Abacus
