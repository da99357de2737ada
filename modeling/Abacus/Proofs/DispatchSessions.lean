/-
Module: Abacus.Proofs.DispatchSessions
Purpose: Sessions with a dispatcher: steps that run one call, make several at once or shut down, one
  after the other, with the workers finishing in any order. Each step that is accepted evaluates
  each of its calls once and gives every caller its own result; after the shutdown of a pool nothing
  is evaluated any more. A dispatcher that has a thread for each call answers as a pool does that is
  not shut down. And no session can come to a halt before all calls have their answers.
Main exports: Step, Entry, Session, gather_of_complete, Step.Served, served_of_step,
  Session.served, Settles, sessions_served
-/
import Mathlib.Data.List.Perm.Basic
import Abacus.Calculator
import Abacus.Proofs.CallTraffic

namespace Abacus.Dispatcher

variable {α β : Type} {work : α → β}

/-! ### Sessions -/

/-- What is asked of a dispatcher. -/
inductive Step (α : Type) where
  | run (argument : α)
  | gather (arguments : List α)
  | shutdown
deriving DecidableEq, Repr, Inhabited

namespace Step

/-- The calls of a step. -/
def arguments : Step α → List α
  | run argument => [argument]
  | gather arguments => arguments
  | shutdown => []

def isShutdown : Step α → Bool
  | shutdown => true
  | run _ | gather _ => false

/-- The dispatcher after a step. -/
def after (dispatcher : Dispatcher) : Step α → Dispatcher
  | shutdown => dispatcher.shutdown.1
  | run _ | gather _ => dispatcher

/-- What a step logs. -/
def records (dispatcher : Dispatcher) : Step α → List Log.Record
  | shutdown => dispatcher.shutdown.2
  | run _ | gather _ => []

/-- What a dispatcher gives for a step whose calls finish in the given order. -/
def results (work : α → β) (dispatcher : Dispatcher) (order : List Nat) :
    Step α → List (Option β)
  | run argument => [dispatcher.run work argument]
  | gather arguments => dispatcher.gather work order arguments
  | shutdown => []

end Step

/-- Whether an event shuts the dispatcher down. -/
def Event.isShutdown : Event α → Bool
  | .shutdown => true
  | _ => false

/-- What came of a step: the answers to its calls, and in which order these were finished. -/
structure Entry (β : Type) where
  answers : List (Option β)
  order : List Nat
deriving DecidableEq, Repr

/-- What came of a step, after which the traffic is `next`; its calls are numbered from the first
    one on. -/
def entryOf (traffic next : Traffic α β) (events : List (Event α)) : Entry β where
  answers := (next.calls.drop traffic.calls.length).filterMap Call.answer?
  order := (events.filterMap Event.finished?).map (· - traffic.calls.length)

/-- Events that carry out a step: they make the calls of the step in order, shut the dispatcher down
    if it is asked for, and go on until every call has its answer. -/
structure CarriesOut (work : α → β) (traffic : Traffic α β) (step : Step α)
    (events : List (Event α)) (next : Traffic α β) : Prop where
  calls : events.filterMap Event.argument? = step.arguments
  shutdowns : events.countP Event.isShutdown = if step.isShutdown then 1 else 0
  follow : traffic.follow? work events = some next
  quiet : next.isQuiet = true

/-- Steps that are carried out one after the other, with what came of each. -/
inductive Session (work : α → β) :
    Traffic α β → List (Step α) → List (Entry β) → Traffic α β → Prop where
  | nil {traffic : Traffic α β} : Session work traffic [] [] traffic
  | cons {traffic next last : Traffic α β} {step : Step α} {steps : List (Step α)}
      {events : List (Event α)} {entries : List (Entry β)}
      (first : CarriesOut work traffic step events next)
      (later : Session work next steps entries last) :
      Session work traffic (step :: steps) (entryOf traffic next events :: entries) last

/-! ### Results of calls -/

theorem run_of_accepts {dispatcher : Dispatcher} (h : dispatcher.accepts = true) :
    dispatcher.run work = fun argument => some (work argument) :=
  funext fun _ => if_pos h

theorem run_of_refuses {dispatcher : Dispatcher} (h : ¬dispatcher.accepts = true) :
    dispatcher.run work = fun _ => none :=
  funext fun _ => if_neg h

theorem getElem?_foldl_finishSlot (order : List Nat) (slots : List (Slot α β)) (number : Nat) :
    (order.foldl (finishSlot work) slots)[number]? =
      slots[number]?.map fun slot => if number ∈ order then slot.finish work else slot := by
  induction order generalizing slots with
  | nil => simp
  | cons first order ih =>
      rw [List.foldl_cons, ih, finishSlot, List.getElem?_modify]
      cases slots[number]? with
      | none => rfl
      | some slot =>
          by_cases hfirst : first = number
          · by_cases hlater : number ∈ order <;> simp [hfirst, hlater, Slot.finish]
          · simp [hfirst, Ne.symm hfirst]

/-- Calls that all finish have their own results, whatever the order in which they finish. -/
theorem gather_of_complete {dispatcher : Dispatcher} (haccepts : dispatcher.accepts = true)
    {order : List Nat} {arguments : List α}
    (hcomplete : ∀ number < arguments.length, number ∈ order) :
    dispatcher.gather work order arguments =
      arguments.map fun argument => some (work argument) := by
  rw [gather, if_pos haccepts]
  refine List.ext_getElem? fun number => ?_
  rw [List.getElem?_map, getElem?_foldl_finishSlot, List.getElem?_map, List.getElem?_map]
  cases hargument : arguments[number]? with
  | none => rfl
  | some argument =>
      have hfinished := hcomplete number (List.getElem?_eq_some_iff.mp hargument).1
      simp [hfinished, Slot.finish]

/-! ### Calls that have their answers -/

section

variable {past : List (Option β)} {order : List Nat} {traffic : Traffic α β}

/-- Where every call has its answer, the answers are what was due. -/
theorem Sound.answers (h : Sound work past order traffic) (hquiet : traffic.isQuiet = true) :
    traffic.calls.map Call.answer? = past.map some := by
  refine List.ext_getElem? fun number => ?_
  rw [List.getElem?_map, List.getElem?_map]
  cases hcall : traffic.calls[number]? with
  | none =>
      have hlength : past.length ≤ number := h.length ▸ List.getElem?_eq_none_iff.mp hcall
      rw [List.getElem?_eq_none hlength]
      rfl
  | some call =>
      obtain ⟨due, hdue⟩ := h.exists_due hcall
      have hfits := h.fits number call due hcall hdue
      have hanswer := List.all_eq_true.mp hquiet call (List.mem_of_getElem? hcall)
      obtain ⟨argument, stage⟩ := call
      cases stage with
      | waiting | working | finished => cases hanswer
      | answered answer =>
          rw [hdue, hfits.1]
          rfl

/-- Where every call has its answer, those that were accepted are finished. -/
theorem Sound.mem_order (h : Sound work past order traffic) (hquiet : traffic.isQuiet = true)
    (number : Nat) : number ∈ order ↔ ∃ result : β, past[number]? = some (some result) := by
  cases hcall : traffic.calls[number]? with
  | none =>
      have hlength : traffic.calls.length ≤ number := List.getElem?_eq_none_iff.mp hcall
      have hnone : past[number]? = none := List.getElem?_eq_none (h.length ▸ hlength)
      refine iff_of_false (fun hmem => Nat.not_lt.mpr hlength (h.known number hmem)) ?_
      rintro ⟨result, hresult⟩
      rw [hnone] at hresult
      cases hresult
  | some call =>
      obtain ⟨due, hdue⟩ := h.exists_due hcall
      have hfits := h.fits number call due hcall hdue
      have hanswer := List.all_eq_true.mp hquiet call (List.mem_of_getElem? hcall)
      obtain ⟨argument, stage⟩ := call
      cases stage with
      | waiting | working | finished => cases hanswer
      | answered answer =>
          rw [hdue, hfits.1, hfits.2, Option.isSome_iff_exists]
          simp

end

/-! ### What a step changes -/

/-- Without a shutdown, each call is due what the dispatcher gives for it. -/
theorem dues_of_no_shutdown (work : α → β) {events : List (Event α)} (dispatcher : Dispatcher)
    (h : events.countP Event.isShutdown = 0) :
    dues work dispatcher events = (events.filterMap Event.argument?).map (dispatcher.run work) ∧
      afterAll dispatcher events = dispatcher ∧ allRecords dispatcher events = [] := by
  induction events with
  | nil => exact ⟨rfl, rfl, rfl⟩
  | cons event events ih =>
      cases event with
      | shutdown =>
          rw [List.countP_cons_of_pos rfl] at h
          cases h
      | call argument =>
          obtain ⟨hdues, hafter, hrecords⟩ := ih h
          refine ⟨?_, hafter, hrecords⟩
          simp only [dues, Event.after, hdues]
          rfl
      | take _ | finish _ | deliver => exact ih h

/-- A shutdown alone makes nothing due. -/
theorem dues_of_shutdown (work : α → β) {events : List (Event α)} (dispatcher : Dispatcher)
    (hcalls : events.filterMap Event.argument? = [])
    (h : events.countP Event.isShutdown = 1) :
    dues work dispatcher events = [] ∧ afterAll dispatcher events = dispatcher.shutdown.1 ∧
      allRecords dispatcher events = dispatcher.shutdown.2 := by
  induction events with
  | nil => cases h
  | cons event events ih =>
      cases event with
      | shutdown =>
          rw [List.countP_cons_of_pos rfl] at h
          obtain ⟨hdues, hafter, hrecords⟩ :=
            dues_of_no_shutdown work dispatcher.shutdown.1 (Nat.succ.inj h)
          have hcalls : events.filterMap Event.argument? = [] := hcalls
          rw [hcalls] at hdues
          refine ⟨hdues, hafter, ?_⟩
          rw [allRecords, Event.after, hrecords, List.append_nil]
          rfl
      | call argument => cases hcalls
      | take _ | finish _ | deliver => exact ih hcalls h

/-- Calls can be made at any time. -/
theorem exists_follow_calls (work : α → β) (traffic : Traffic α β) (arguments : List α) :
    ∃ next : Traffic α β, traffic.follow? work (arguments.map .call) = some next := by
  induction arguments generalizing traffic with
  | nil => exact ⟨traffic, rfl⟩
  | cons argument arguments ih => exact ih _

/-- Inner events make no calls and shut nothing down. -/
theorem inner_asks_nothing {events : List (Event α)}
    (h : ∀ event ∈ events, event.isInner = true) :
    events.filterMap Event.argument? = [] ∧ events.countP Event.isShutdown = 0 := by
  rw [List.filterMap_eq_nil_iff, List.countP_eq_zero]
  constructor
  · intro event hmem
    have hinner := h event hmem
    cases event with
    | take _ | finish _ | deliver => rfl
    | call _ | shutdown => cases hinner
  · intro event hmem
    have hinner := h event hmem
    cases event with
    | take _ | finish _ | deliver => exact Bool.false_ne_true
    | call _ | shutdown => cases hinner

section

variable {past : List (Option β)} {order : List Nat} {traffic next : Traffic α β} {step : Step α}
  {events : List (Event α)}

/-- What a step brings: its calls are due what the dispatcher gives for them, and a shutdown shuts
    the dispatcher down and is logged. -/
theorem CarriesOut.brings (h : CarriesOut work traffic step events next)
    (hsound : Sound work past order traffic) :
    Sound work (past ++ step.arguments.map (traffic.dispatcher.run work))
        (order ++ events.filterMap Event.finished?) next ∧
      next.dispatcher = step.after traffic.dispatcher ∧
      next.records = traffic.records ++ step.records traffic.dispatcher ∧
      next.workers = traffic.workers := by
  have hrun := sound_follow hsound h.follow
  have hcalls := h.calls
  have hshutdowns := h.shutdowns
  cases step with
  | shutdown =>
      obtain ⟨hdues, hafter, hrecords⟩ :=
        dues_of_shutdown work traffic.dispatcher hcalls hshutdowns
      rw [hdues, hafter, hrecords] at hrun
      exact hrun
  | run _ | gather _ =>
      obtain ⟨hdues, hafter, hrecords⟩ :=
        dues_of_no_shutdown work traffic.dispatcher hshutdowns
      rw [hdues, hafter, hrecords, hcalls] at hrun
      exact hrun

/-- The answers of a step are what its dispatcher gives for its calls. -/
theorem CarriesOut.answers (h : CarriesOut work traffic step events next)
    (hsound : Sound work past order traffic) :
    (entryOf traffic next events).answers =
      step.arguments.map (traffic.dispatcher.run work) := by
  have hanswers := (h.brings hsound).1.answers h.quiet
  have hnew : (next.calls.drop traffic.calls.length).map Call.answer? =
      (step.arguments.map (traffic.dispatcher.run work)).map some := by
    rw [List.map_drop, hanswers, ← List.map_drop, hsound.length, List.drop_left]
  have hfilter : ∀ calls : List (Call α β),
      calls.filterMap Call.answer? = (calls.map Call.answer?).filterMap id := by
    intro calls
    rw [List.filterMap_map]
    rfl
  rw [entryOf, hfilter, hnew, List.filterMap_map]
  exact List.filterMap_some

/-- The calls that finish in a step are those of its own calls that are accepted. -/
theorem CarriesOut.mem_finished (h : CarriesOut work traffic step events next)
    (hsound : Sound work past order traffic) (hquiet : traffic.isQuiet = true) (number : Nat) :
    number ∈ events.filterMap Event.finished? ↔
      traffic.calls.length ≤ number ∧ number - traffic.calls.length < step.arguments.length ∧
        traffic.dispatcher.accepts = true := by
  obtain ⟨hnext, _⟩ := h.brings hsound
  have hbefore := hsound.mem_order hquiet number
  have hafter := hnext.mem_order h.quiet number
  rcases Nat.lt_or_ge number traffic.calls.length with hold | hnew
  · -- A call from before the step that is finished was finished before it.
    rw [List.getElem?_append_left (hsound.length ▸ hold), ← hbefore] at hafter
    refine iff_of_false (fun hmem => ?_) (fun hright => Nat.not_le.mpr hold hright.1)
    have hfinished := hafter.mp (List.mem_append_right _ hmem)
    exact List.disjoint_of_nodup_append hnext.once hfinished hmem
  · have hunknown : number ∉ order := fun hmem => Nat.not_lt.mpr hnew (hsound.known number hmem)
    rw [List.getElem?_append_right (hsound.length ▸ hnew), ← hsound.length, List.mem_append,
      or_iff_right hunknown] at hafter
    rw [hafter, and_iff_right hnew, List.getElem?_map]
    cases hargument : step.arguments[number - traffic.calls.length]? with
    | none =>
        have hlength := List.getElem?_eq_none_iff.mp hargument
        simp [Nat.not_lt.mpr hlength]
    | some argument =>
        have hlength := (List.getElem?_eq_some_iff.mp hargument).1
        simp [hlength, Dispatcher.run]

/-- Of the calls of a step, those that are accepted finish, each of them once. -/
theorem CarriesOut.finished (h : CarriesOut work traffic step events next)
    (hsound : Sound work past order traffic) (hquiet : traffic.isQuiet = true) :
    (entryOf traffic next events).order.Nodup ∧
      ∀ number : Nat, number ∈ (entryOf traffic next events).order ↔
        number < step.arguments.length ∧ traffic.dispatcher.accepts = true := by
  have hmem := h.mem_finished hsound hquiet
  have honce := (List.nodup_append.mp (h.brings hsound).1.once).2.1
  constructor
  · refine honce.map_on fun first hfirst second hsecond heq => ?_
    have hfirst := ((hmem first).mp hfirst).1
    have hsecond := ((hmem second).mp hsecond).1
    omega
  · intro number
    simp only [entryOf, List.mem_map]
    constructor
    · rintro ⟨finished, hfinished, rfl⟩
      exact ((hmem finished).mp hfinished).2
    · intro hright
      refine ⟨traffic.calls.length + number, (hmem _).mpr ?_, Nat.add_sub_cancel_left ..⟩
      rw [Nat.add_sub_cancel_left]
      exact ⟨Nat.le_add_right .., hright⟩

/-- Where nothing is on its way, every step can be carried out. -/
theorem exists_carriesOut (h : Sound work past order traffic) (hworkers : 0 < traffic.workers)
    (hquiet : traffic.isQuiet = true) (step : Step α) :
    ∃ (events : List (Event α)) (next : Traffic α β), CarriesOut work traffic step events next := by
  by_cases hshutdown : step.isShutdown = true
  · cases step with
    | run _ | gather _ => cases hshutdown
    | shutdown =>
        have hidle : (traffic.calls.any fun call => call.isWaiting || call.isWorking) = false :=
          List.any_eq_false.mpr fun call hmem => by
            have hanswer := List.all_eq_true.mp hquiet call hmem
            obtain ⟨argument, stage⟩ := call
            cases stage <;> simp_all [Call.answer?, Call.isWaiting, Call.isWorking]
        have hstep : ∃ next : Traffic α β, traffic.step? work .shutdown = some next ∧
            next.isQuiet = true := by
          simp only [Traffic.step?, hidle, Bool.and_false, Bool.false_eq_true, if_false]
          exact ⟨_, rfl, hquiet⟩
        obtain ⟨next, hnext, hend⟩ := hstep
        refine ⟨[.shutdown], next, rfl, rfl, ?_, hend⟩
        rw [Traffic.follow?, hnext]
        rfl
  · obtain ⟨busy, hcalls⟩ := exists_follow_calls work traffic step.arguments
    obtain ⟨hsound, _, _, hsame⟩ := sound_follow h hcalls
    obtain ⟨inner, last, hinner, hlast, hend⟩ := exists_quiet hsound (hsame ▸ hworkers)
    obtain ⟨hnone, hzero⟩ := inner_asks_nothing hinner
    refine ⟨step.arguments.map .call ++ inner, last, ?_, ?_, ?_, hend⟩
    · rw [List.filterMap_append, hnone, List.append_nil, List.filterMap_map]
      exact List.filterMap_some
    · rw [List.countP_append, hzero, List.countP_map, if_neg hshutdown]
      exact List.countP_eq_zero.mpr fun _ _ => Bool.false_ne_true
    · rw [follow?_append, hcalls]
      exact hlast

end

/-! ### What a session preserves -/

/-- What comes of a step: every caller has what the dispatcher gives for its own call, and if the
    dispatcher takes the calls, each of them finishes once. -/
structure Step.Served (work : α → β) (dispatcher : Dispatcher) (step : Step α) (entry : Entry β) :
    Prop where
  answers : entry.answers = step.arguments.map (dispatcher.run work)
  computed : entry.answers = step.results work dispatcher entry.order
  once : entry.order.Nodup
  finished : ∀ number : Nat, number ∈ entry.order ↔
    number < step.arguments.length ∧ dispatcher.accepts = true

section

variable {past : List (Option β)} {order : List Nat} {traffic next last : Traffic α β}

theorem served_of_step (h : Sound work past order traffic) (hquiet : traffic.isQuiet = true)
    {step : Step α} {events : List (Event α)} (hstep : CarriesOut work traffic step events next) :
    step.Served work traffic.dispatcher (entryOf traffic next events) := by
  have hanswers := hstep.answers h
  obtain ⟨honce, hfinished⟩ := hstep.finished h hquiet
  refine ⟨hanswers, ?_, honce, hfinished⟩
  rw [hanswers]
  cases step with
  | run argument => rfl
  | shutdown => rfl
  | gather arguments =>
      rw [Step.results, Step.arguments]
      by_cases haccepts : traffic.dispatcher.accepts = true
      · have hcomplete : ∀ number < arguments.length,
            number ∈ (entryOf traffic next events).order :=
          fun number hlt => (hfinished number).mpr ⟨hlt, haccepts⟩
        rw [gather_of_complete haccepts hcomplete, run_of_accepts haccepts]
      · rw [run_of_refuses haccepts, gather, if_neg haccepts]

/-- What steps log. -/
def sessionRecords (dispatcher : Dispatcher) : List (Step α) → List Log.Record
  | [] => []
  | step :: steps =>
      step.records dispatcher ++ sessionRecords (step.after dispatcher) steps

/-- Each step of a session is served by the dispatcher that the steps before it have left. -/
theorem Session.served {steps : List (Step α)} {entries : List (Entry β)}
    (hsession : Session work traffic steps entries last) (h : Sound work past order traffic)
    (hquiet : traffic.isQuiet = true) :
    (∀ (before : List (Step α)) (step : Step α) (after : List (Step α)),
        steps = before ++ step :: after → ∃ entry : Entry β, entries[before.length]? = some entry ∧
          step.Served work (before.foldl Step.after traffic.dispatcher) entry) ∧
      entries.length = steps.length ∧
      last.records = traffic.records ++ sessionRecords traffic.dispatcher steps := by
  induction hsession generalizing past order with
  | nil =>
      refine ⟨fun before step after hsteps => ?_, rfl, (List.append_nil _).symm⟩
      exact absurd hsteps.symm (List.append_ne_nil_of_right_ne_nil before (List.cons_ne_nil _ _))
  | @cons traffic next last step steps events entries first later ih =>
      obtain ⟨hsound, hdispatcher, hrecords, _⟩ := first.brings h
      obtain ⟨hserved, hlength, hlater⟩ := ih hsound first.quiet
      refine ⟨?_, congrArg Nat.succ hlength, ?_⟩
      · intro before served after hsteps
        cases before with
        | nil =>
            cases hsteps
            exact ⟨_, rfl, served_of_step h hquiet first⟩
        | cons earlier before =>
            cases hsteps
            rw [hdispatcher] at hserved
            exact hserved before served after rfl
      · rw [hlater, hrecords, hdispatcher, sessionRecords, List.append_assoc]

/-- Where nothing is on its way, every session can be carried out. -/
theorem exists_session (h : Sound work past order traffic) (hworkers : 0 < traffic.workers)
    (hquiet : traffic.isQuiet = true) (steps : List (Step α)) :
    ∃ (entries : List (Entry β)) (last : Traffic α β), Session work traffic steps entries last := by
  induction steps generalizing past order traffic with
  | nil => exact ⟨[], traffic, .nil⟩
  | cons step steps ih =>
      obtain ⟨events, next, hstep⟩ := exists_carriesOut h hworkers hquiet step
      obtain ⟨hsound, _, _, hsame⟩ := hstep.brings h
      obtain ⟨entries, last, hlater⟩ := ih hsound (hsame ▸ hworkers) hstep.quiet
      exact ⟨_, last, .cons hstep hlater⟩

end

/-! ### Dispatchers in a session -/

/-- Steps leave a dispatcher its pool unless they shut it down. -/
theorem foldl_after (dispatcher : Dispatcher) (steps : List (Step α)) :
    steps.foldl Step.after dispatcher =
      ⟨dispatcher.mode, dispatcher.hasPool && !steps.any Step.isShutdown⟩ := by
  induction steps generalizing dispatcher with
  | nil => simp
  | cons step steps ih =>
      rw [List.foldl_cons, ih]
      cases step with
      | run _ | gather _ => simp [Step.after, Step.isShutdown]
      | shutdown =>
          cases hpool : dispatcher.hasPool <;>
            simp [Step.after, Step.isShutdown, shutdown, hpool]

/-- The first shutdown of a pool is logged, and nothing else is. -/
theorem sessionRecords_eq (dispatcher : Dispatcher) (steps : List (Step α)) :
    sessionRecords dispatcher steps =
      if dispatcher.hasPool && steps.any Step.isShutdown then
        [⟨.debug, .dispatcher, "Shutting down worker pool"⟩]
      else [] := by
  induction steps generalizing dispatcher with
  | nil => simp [sessionRecords]
  | cons step steps ih =>
      rw [sessionRecords, ih]
      cases step with
      | run _ | gather _ => simp [Step.records, Step.after, Step.isShutdown]
      | shutdown =>
          cases hpool : dispatcher.hasPool <;>
            simp [Step.records, Step.after, Step.isShutdown, shutdown, hpool]

/-- A new dispatcher that has a worker at least. -/
theorem create?_of_pos (mode : DispatchMode) {workers : Int} (h : 0 < workers) :
    create? mode workers = some ⟨mode, mode == .pool⟩ := by
  cases mode with
  | thread => rfl
  | pool => exact if_neg (Int.not_le.mpr h)

/-! ### Main result -/

/-- Every caller of a step has the result of its own call, and each call was finished once, in
    whatever order. -/
def Step.Answered (work : α → β) (step : Step α) (entry : Entry β) : Prop :=
  entry.answers = step.arguments.map (fun argument => some (work argument)) ∧
    entry.order.Perm (List.range step.arguments.length)

/-- Every caller of a step is told that no worker takes its call, and no call was finished. -/
def Step.Refused (step : Step α) (entry : Entry β) : Prop :=
  entry.answers = step.arguments.map (fun _ => none) ∧ entry.order = []

theorem Step.Served.answered {dispatcher : Dispatcher} {step : Step α} {entry : Entry β}
    (h : step.Served work dispatcher entry) :
    if dispatcher.accepts then step.Answered work entry else step.Refused entry := by
  have hanswers := h.answers
  split
  · next haccepts =>
      rw [run_of_accepts haccepts] at hanswers
      refine ⟨hanswers, (List.perm_ext_iff_of_nodup h.once List.nodup_range).mpr fun number => ?_⟩
      rw [h.finished, and_iff_left haccepts, List.mem_range]
  · next hrefuses =>
      rw [run_of_refuses hrefuses] at hanswers
      refine ⟨hanswers, List.eq_nil_iff_forall_not_mem.mpr fun number hmem => ?_⟩
      exact hrefuses ((h.finished number).mp hmem).2

/-- Whatever the workers and the event loop do next, the calls on their way come nearer to their
    answers, they can go on until every call has its answer, and the answers that calls already have
    are what was due to them. -/
structure Settles (work : α → β) (due : List (Option β)) (traffic : Traffic α β) : Prop where
  goes_on : traffic.isQuiet = false →
    ∃ event : Event α, event.isInner = true ∧ (traffic.step? work event).isSome = true
  ends : ∀ (events : List (Event α)) (last : Traffic α β),
    (∀ event ∈ events, event.isInner = true) → traffic.follow? work events = some last →
      events.length ≤ left traffic
  answers : ∀ (number : Nat) (call : Call α β) (answer : Option β),
    traffic.calls[number]? = some call → call.answer? = some answer → due[number]? = some answer

theorem Sound.settles {due : List (Option β)} {order : List Nat} {traffic : Traffic α β}
    (h : Sound work due order traffic) (hworkers : 0 < traffic.workers) :
    Settles work due traffic where
  goes_on := exists_inner h hworkers
  ends _ _ hinner hlast := Nat.le_of_add_right_le (length_le_left h hinner hlast)
  answers := by
    intro number call answer hcall hanswer
    obtain ⟨expected, hdue⟩ := h.exists_due hcall
    have hfits := h.fits number call expected hcall hdue
    obtain ⟨argument, stage⟩ := call
    cases stage with
    | waiting | working | finished => cases hanswer
    | answered given =>
        cases hanswer
        rw [hdue, hfits.1]

/-- Both modes of dispatch serve every caller its own result. Whatever happens in whatever order, a
    dispatcher with a worker at least never comes to a halt before all calls have their answers, and
    those are what was due when the calls were made. So every session can be carried out, and
    whichever way it is, each of its calls is evaluated once and answered with its own result, until
    the first shutdown if there is a pool, and to the end if there is a thread for each call. After
    the shutdown of a pool no call is evaluated any more. The first shutdown of a pool is logged,
    and nothing else is. -/
theorem sessions_served (calculator : Calculator) (mode : DispatchMode) (workers : Int)
    (h : 0 < workers) :
    ∃ dispatcher : Dispatcher, create? mode workers = some dispatcher ∧
      (∀ (events : List (Event String)) (traffic : Traffic String (Except Failure Int)),
        (Traffic.start dispatcher workers.toNat).follow? calculator.evaluate events =
          some traffic →
        Settles calculator.evaluate (dues calculator.evaluate dispatcher events) traffic) ∧
      ∀ steps : List (Step String),
        (∃ (entries : List (Entry (Except Failure Int))) (last : Traffic String _),
          Session calculator.evaluate (Traffic.start dispatcher workers.toNat) steps entries last) ∧
        ∀ (entries : List (Entry (Except Failure Int))) (last : Traffic String _),
          Session calculator.evaluate (Traffic.start dispatcher workers.toNat) steps entries last →
          entries.length = steps.length ∧
          (∀ (before : List (Step String)) (step : Step String) (after : List (Step String)),
            steps = before ++ step :: after →
            ∃ entry : Entry (Except Failure Int), entries[before.length]? = some entry ∧
              entry.answers = step.results calculator.evaluate
                (before.foldl Step.after dispatcher) entry.order ∧
              if mode = .pool ∧ before.any Step.isShutdown = true then step.Refused entry
              else step.Answered calculator.evaluate entry) ∧
          last.records =
            if mode = .pool ∧ steps.any Step.isShutdown = true then
              [⟨.debug, .dispatcher, "Shutting down worker pool"⟩]
            else [] := by
  have hpositive : 0 < workers.toNat := Int.lt_toNat.mpr h
  refine ⟨_, create?_of_pos mode h, ?_, fun steps => ?_⟩
  · intro events traffic hlast
    obtain ⟨hsound, _, _, hsame⟩ := sound_follow (sound_start _ _ _) hlast
    exact hsound.settles (hsame ▸ hpositive)
  · refine ⟨exists_session (sound_start _ _ _) hpositive rfl steps, ?_⟩
    intro entries last hsession
    obtain ⟨hserved, hlength, hrecords⟩ := hsession.served (sound_start _ _ _) rfl
    refine ⟨hlength, ?_, ?_⟩
    · intro before step after hsteps
      obtain ⟨entry, hentry, hstep⟩ := hserved before step after hsteps
      refine ⟨entry, hentry, hstep.computed, ?_⟩
      have hanswered := hstep.answered
      rw [foldl_after] at hanswered
      cases mode with
      | thread => simpa [accepts, Traffic.start] using hanswered
      | pool =>
          cases hany : before.any Step.isShutdown <;>
            simpa [accepts, Traffic.start, hany] using hanswered
    · rw [hrecords, sessionRecords_eq]
      cases mode <;> simp [Traffic.start]

theorem sessions_served_shutdown_between :
    (0 : Int) < 2 ∧ ∃ (dispatcher : Dispatcher) (entries : List (Entry (Except Failure Int)))
      (last : Traffic String (Except Failure Int)),
      create? .pool 2 = some dispatcher ∧
      Session (Calculator.evaluate {}) (Traffic.start dispatcher 2)
        [.gather ["6*7", "1/0"], .shutdown, .run "1"] entries last ∧
      (∃ order : List Nat, entries[0]? = some
          ⟨[some (.ok 42), some (Calculator.evaluate {} "1/0")], order⟩ ∧ order.Perm [0, 1]) ∧
      entries[2]? = some ⟨[none], []⟩ ∧
      last.records = [⟨.debug, .dispatcher, "Shutting down worker pool"⟩] := by
  obtain ⟨dispatcher, hcreate, _, hsessions⟩ := sessions_served {} .pool 2 (by decide)
  obtain ⟨⟨entries, last, hsession⟩, hserved⟩ :=
    hsessions [.gather ["6*7", "1/0"], .shutdown, .run "1"]
  obtain ⟨_, hentries, hrecords⟩ := hserved entries last hsession
  obtain ⟨⟨_, order⟩, hfirst, _, rfl, horder⟩ := hentries [] _ _ rfl
  obtain ⟨⟨_, _⟩, hthird, _, rfl, rfl⟩ := hentries [_, _] _ [] rfl
  have hvalue : Calculator.evaluate {} "6*7" = .ok 42 := by decide +kernel
  refine ⟨by decide, dispatcher, entries, last, hcreate, hsession, ⟨order, ?_, horder⟩, hthird,
    hrecords⟩
  rw [← hvalue]
  exact hfirst

end Abacus.Dispatcher
