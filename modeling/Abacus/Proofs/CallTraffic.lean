/-
Module: Abacus.Proofs.CallTraffic
Purpose: What the events of a dispatcher preserve and where they lead. What is due to a call is
  settled when it is made. Every event keeps each call on its way to just that: a message belongs to
  the one call that it was posted for, and a call is finished once at most. Each event of a worker
  or of the event loop brings the calls nearer to their end, and as long as a call is without its
  answer one of these events can happen.
Main exports: Fits, Sound, sound_step, sound_follow, left, left_lt_of_inner, exists_inner,
  exists_quiet
-/
import Mathlib.Algebra.Ring.Nat
import Mathlib.Data.List.Nodup
import Abacus.Dispatcher.Traffic

namespace Abacus.Dispatcher

variable {α β : Type} {work : α → β}

/-! ### What is due -/

/-- The call that an event makes. -/
def Event.argument? : Event α → Option α
  | .call argument => some argument
  | _ => none

/-- The number of the call that an event finishes. -/
def Event.finished? : Event α → Option Nat
  | .finish number => some number
  | _ => none

/-- The dispatcher after an event. -/
def Event.after (dispatcher : Dispatcher) : Event α → Dispatcher
  | .shutdown => dispatcher.shutdown.1
  | _ => dispatcher

/-- What an event logs. -/
def Event.records (dispatcher : Dispatcher) : Event α → List Log.Record
  | .shutdown => dispatcher.shutdown.2
  | _ => []

/-- What is due to the call that an event makes: the result of the work, if the dispatcher accepts
    calls then. -/
def Event.due (work : α → β) (dispatcher : Dispatcher) (event : Event α) : List (Option β) :=
  (event.argument?.map (dispatcher.run work)).toList

/-! ### What an event does -/

/-- An event and what it leads to. -/
inductive Happens (work : α → β) (traffic : Traffic α β) : Event α → Traffic α β → Prop where
  | call (argument : α) : Happens work traffic (.call argument) { traffic with
      calls := traffic.calls ++
        [⟨argument, if traffic.dispatcher.accepts then .waiting else .answered none⟩] }
  | take {number : Nat} {argument : α}
      (hcall : traffic.calls[number]? = some ⟨argument, .waiting⟩) :
      Happens work traffic (.take number) (traffic.put number .working)
  | finish {number : Nat} {argument : α}
      (hcall : traffic.calls[number]? = some ⟨argument, .working⟩) :
      Happens work traffic (.finish number) { traffic.put number .finished with
        posted := traffic.posted ++ [⟨number, work argument⟩] }
  | deliver {message : Message β} {posted : List (Message β)}
      (hposted : traffic.posted = message :: posted) :
      Happens work traffic .deliver { traffic with
        calls := traffic.calls.modify message.number (Call.receive message.result)
        posted }
  | shutdown : Happens work traffic .shutdown { traffic with
      dispatcher := traffic.dispatcher.shutdown.1
      records := traffic.records ++ traffic.dispatcher.shutdown.2 }

theorem exists_waiting_of_canTake {traffic : Traffic α β} {number : Nat}
    (h : traffic.canTake number = true) :
    ∃ argument : α, traffic.calls[number]? = some ⟨argument, .waiting⟩ := by
  have hwaiting : ∃ call : Call α β,
      traffic.calls[number]? = some call ∧ call.isWaiting = true := by
    unfold Traffic.canTake at h
    split at h
    · obtain ⟨hlt, hcall, _⟩ :=
        List.findIdx?_eq_some_iff_getElem.mp (eq_of_beq (Bool.and_eq_true_iff.mp h).1)
      exact ⟨_, List.getElem?_eq_getElem hlt, hcall⟩
    · exact (Option.any_eq_true _ _).mp h
  obtain ⟨⟨argument, stage⟩, hcall, hstage⟩ := hwaiting
  cases stage with
  | waiting => exact ⟨argument, hcall⟩
  | working | finished | answered => cases hstage

theorem happens_of_step {traffic next : Traffic α β} {event : Event α}
    (h : traffic.step? work event = some next) : Happens work traffic event next := by
  cases event with
  | call argument =>
      cases h
      exact .call argument
  | take number =>
      simp only [Traffic.step?, Option.ite_none_right_eq_some] at h
      obtain ⟨htake, ⟨⟩⟩ := h
      obtain ⟨argument, hcall⟩ := exists_waiting_of_canTake htake
      exact .take hcall
  | finish number =>
      simp only [Traffic.step?] at h
      split at h
      · next argument hcall =>
          cases h
          exact .finish hcall
      · cases h
  | deliver =>
      simp only [Traffic.step?] at h
      split at h
      · cases h
      · next message posted hposted =>
          cases h
          exact .deliver hposted
  | shutdown =>
      simp only [Traffic.step?, Option.ite_none_left_eq_some] at h
      obtain ⟨_, ⟨⟩⟩ := h
      exact .shutdown

/-! ### Calls on their way to what is due -/

/-- A call is on its way to what is due to it. If it is finished, its result has been posted. -/
def Fits (work : α → β) (posted : List (Message β)) (order : List Nat) (number : Nat)
    (call : Call α β) (due : Option β) : Prop :=
  match call.stage with
  | .waiting | .working => due = some (work call.argument) ∧ number ∉ order
  | .finished => due = some (work call.argument) ∧ number ∈ order ∧
      ⟨number, work call.argument⟩ ∈ posted
  | .answered answer => due = answer ∧ (number ∈ order ↔ answer.isSome = true)

/-- All calls are on their way to what is due to them; `order` are the numbers of those that are
    finished. Each message is for a call that is finished and waits for it. -/
structure Sound (work : α → β) (dues : List (Option β)) (order : List Nat)
    (traffic : Traffic α β) : Prop where
  length : traffic.calls.length = dues.length
  fits : ∀ (number : Nat) (call : Call α β) (due : Option β), traffic.calls[number]? = some call →
    dues[number]? = some due → Fits work traffic.posted order number call due
  posted : ∀ message ∈ traffic.posted, ∃ argument : α,
    traffic.calls[message.number]? = some ⟨argument, .finished⟩
  apart : (traffic.posted.map Message.number).Nodup
  once : order.Nodup
  known : ∀ number ∈ order, number < traffic.calls.length

theorem sound_start (work : α → β) (dispatcher : Dispatcher) (workers : Nat) :
    Sound work [] [] (Traffic.start dispatcher workers) where
  length := rfl
  fits := nofun
  posted := nofun
  apart := List.nodup_nil
  once := List.nodup_nil
  known := nofun

theorem Fits.mono {posted later : List (Message β)} {order next : List Nat} {number : Nat}
    {call : Call α β} {due : Option β} (h : Fits work posted order number call due)
    (hposted : ∀ result : β, ⟨number, result⟩ ∈ posted → ⟨number, result⟩ ∈ later)
    (horder : number ∈ next ↔ number ∈ order) : Fits work later next number call due := by
  unfold Fits at h ⊢
  split at h
  · exact ⟨h.1, horder.not.mpr h.2⟩
  · exact ⟨h.1, horder.not.mpr h.2⟩
  · exact ⟨h.1, horder.mpr h.2.1, hposted _ h.2.2⟩
  · exact ⟨h.1, horder.trans h.2⟩

section

variable {dues : List (Option β)} {order : List Nat} {traffic next : Traffic α β}

theorem Sound.exists_due (h : Sound work dues order traffic) {number : Nat} {call : Call α β}
    (hcall : traffic.calls[number]? = some call) : ∃ due : Option β, dues[number]? = some due := by
  have hlt : number < dues.length := h.length ▸ (List.getElem?_eq_some_iff.mp hcall).1
  exact ⟨_, List.getElem?_eq_getElem hlt⟩

/-- A new call is on its way to what its dispatcher gives for it. -/
theorem Sound.call (h : Sound work dues order traffic) (argument : α) :
    Sound work (dues ++ [traffic.dispatcher.run work argument]) order
      { traffic with calls := traffic.calls ++
        [⟨argument, if traffic.dispatcher.accepts then .waiting else .answered none⟩] } where
  length := by simp [h.length]
  fits := by
    intro number call due hcall hdue
    rcases Nat.lt_or_ge number traffic.calls.length with hold | hnew
    · rw [List.getElem?_append_left hold] at hcall
      rw [List.getElem?_append_left (h.length ▸ hold)] at hdue
      exact h.fits number call due hcall hdue
    · have hunknown : number ∉ order := fun hmem => Nat.not_lt.mpr hnew (h.known number hmem)
      rw [List.getElem?_append_right hnew] at hcall
      rw [List.getElem?_append_right (h.length ▸ hnew), ← h.length] at hdue
      simp only [List.getElem?_singleton, Option.ite_none_right_eq_some,
        Option.some.injEq] at hcall hdue
      obtain ⟨_, rfl⟩ := hcall
      obtain ⟨_, rfl⟩ := hdue
      by_cases haccepts : traffic.dispatcher.accepts = true
      · simp [Fits, Dispatcher.run, haccepts, hunknown]
      · simp [Fits, Dispatcher.run, haccepts, hunknown]
  posted := by
    intro message hmessage
    obtain ⟨argument, hcall⟩ := h.posted message hmessage
    have hold := (List.getElem?_eq_some_iff.mp hcall).1
    exact ⟨argument, (List.getElem?_append_left hold).trans hcall⟩
  apart := h.apart
  once := h.once
  known := by
    intro number hnumber
    rw [List.length_append]
    exact Nat.lt_add_right _ (h.known number hnumber)

theorem length_put (traffic : Traffic α β) (number : Nat) (stage : Stage β) :
    (traffic.put number stage).calls.length = traffic.calls.length := by
  rw [Traffic.put, List.length_modify]

theorem getElem?_put (traffic : Traffic α β) (number other : Nat) (stage : Stage β) :
    (traffic.put number stage).calls[other]? =
      if number = other then traffic.calls[other]?.map ({ · with stage }) else
        traffic.calls[other]? := by
  rw [Traffic.put, List.getElem?_modify]
  split <;> simp

/-- One call comes to another stage, and nothing of what is posted or finished concerns any other
    call. -/
theorem Sound.put (h : Sound work dues order traffic) {number : Nat} {call : Call α β}
    (hcall : traffic.calls[number]? = some call) {stage : Stage β} {posted : List (Message β)}
    {later : List Nat}
    (hfits : ∀ due : Option β, Fits work traffic.posted order number call due →
      Fits work posted later number { call with stage } due)
    (hothers : ∀ other : Nat, other ≠ number → (other ∈ later ↔ other ∈ order) ∧
      ∀ result : β, (⟨other, result⟩ ∈ posted ↔ ⟨other, result⟩ ∈ traffic.posted))
    (hposted : ∀ result : β, ⟨number, result⟩ ∈ posted → stage = .finished)
    (hapart : (posted.map Message.number).Nodup) (honce : later.Nodup) :
    Sound work dues later { traffic.put number stage with posted } where
  length := (length_put traffic number stage).trans h.length
  fits := by
    intro other found due hfound hdue
    rw [getElem?_put] at hfound
    split at hfound
    · next hsame =>
        subst hsame
        rw [hcall] at hfound
        cases hfound
        exact hfits due (h.fits number call due hcall hdue)
    · next hother =>
        obtain ⟨horder, hmessages⟩ := hothers other (Ne.symm hother)
        exact (h.fits other found due hfound hdue).mono
          (fun result => (hmessages result).mpr) horder
  posted := by
    rintro ⟨other, result⟩ hmessage
    simp only [getElem?_put]
    split
    · next hsame =>
        subst hsame
        rw [hcall, hposted result hmessage]
        exact ⟨call.argument, rfl⟩
    · next hother =>
        exact h.posted ⟨other, result⟩ (((hothers other (Ne.symm hother)).2 result).mp hmessage)
  apart := hapart
  once := honce
  known := by
    intro other hmem
    simp only [length_put]
    by_cases hsame : other = number
    · rw [hsame]
      exact (List.getElem?_eq_some_iff.mp hcall).1
    · exact h.known other ((hothers other hsame).1.mp hmem)

/-- No message is for a call that is not finished. -/
theorem Sound.no_message (h : Sound work dues order traffic) {number : Nat} {call : Call α β}
    (hcall : traffic.calls[number]? = some call) (hstage : call.stage ≠ .finished) (result : β) :
    ⟨number, result⟩ ∉ traffic.posted := by
  intro hmessage
  obtain ⟨argument, hfinished⟩ := h.posted _ hmessage
  rw [hcall] at hfinished
  cases hfinished
  exact hstage rfl

theorem Sound.take (h : Sound work dues order traffic) {number : Nat} {argument : α}
    (hcall : traffic.calls[number]? = some ⟨argument, .waiting⟩) :
    Sound work dues order (traffic.put number .working) :=
  h.put hcall (fun _ hfits => hfits) (fun _ _ => ⟨Iff.rfl, fun _ => Iff.rfl⟩)
    (fun result hmessage => absurd hmessage (h.no_message hcall nofun result)) h.apart h.once

theorem Sound.finish (h : Sound work dues order traffic) {number : Nat} {argument : α}
    (hcall : traffic.calls[number]? = some ⟨argument, .working⟩) :
    Sound work dues (order ++ [number])
      { traffic.put number .finished with
        posted := traffic.posted ++ [⟨number, work argument⟩] } := by
  obtain ⟨due, hdue⟩ := h.exists_due hcall
  have hunknown : number ∉ order := (h.fits number _ due hcall hdue).2
  have hunposted := h.no_message hcall nofun
  refine h.put hcall ?_ ?_ (fun _ _ => rfl) ?_ ?_
  · rintro due ⟨hdue, _⟩
    exact ⟨hdue, List.mem_append_right _ List.mem_cons_self,
      List.mem_append_right _ List.mem_cons_self⟩
  · intro other hother
    simp [hother]
  · have hnew : number ∉ traffic.posted.map Message.number := by
      intro hmem
      obtain ⟨⟨_, result⟩, hmessage, rfl⟩ := List.mem_map.mp hmem
      exact hunposted result hmessage
    rw [List.map_append]
    exact h.apart.append (List.nodup_singleton number) (List.disjoint_singleton.mpr hnew)
  · exact h.once.append (List.nodup_singleton number) (List.disjoint_singleton.mpr hunknown)

/-- A message brings its call the result that is due to it. -/
theorem Sound.deliver (h : Sound work dues order traffic) {message : Message β}
    {posted : List (Message β)} (hposted : traffic.posted = message :: posted) :
    Sound work dues order { traffic with
      calls := traffic.calls.modify message.number (Call.receive message.result)
      posted } := by
  have hfirst : message ∈ traffic.posted := hposted ▸ List.mem_cons_self
  obtain ⟨argument, hcall⟩ := h.posted message hfirst
  obtain ⟨due, hdue⟩ := h.exists_due hcall
  obtain ⟨_, _, hown⟩ := h.fits _ _ due hcall hdue
  have hapart := h.apart
  rw [hposted, List.map_cons, List.nodup_cons] at hapart
  have hresult : message.result = work argument :=
    congrArg Message.result (List.inj_on_of_nodup_map h.apart hfirst hown rfl)
  have hsame : traffic.calls.modify message.number (Call.receive message.result) =
      (traffic.put message.number (.answered (some message.result))).calls := by
    refine List.ext_getElem? fun other => ?_
    rw [getElem?_put, List.getElem?_modify]
    split
    · next hsame =>
        rw [← hsame, hcall]
        rfl
    · rw [id_map']
  rw [hsame]
  refine h.put hcall ?_ ?_ ?_ hapart.2 h.once
  · rintro due ⟨hdue, horder, _⟩
    exact ⟨hresult ▸ hdue, by simpa using horder⟩
  · intro other hother
    refine ⟨Iff.rfl, fun result => ?_⟩
    rw [hposted, List.mem_cons, or_iff_right]
    rintro rfl
    exact hother rfl
  · intro result hlater
    exact absurd (List.mem_map_of_mem hlater) hapart.1

/-! ### What an event preserves -/

/-- What an event brings: calls are made with what is due to them, a call may be finished, and
    nothing but a shutdown changes the dispatcher or is logged. -/
structure Brings (work : α → β) (dues : List (Option β)) (order : List Nat)
    (traffic : Traffic α β) (event : Event α) (next : Traffic α β) : Prop where
  sound : Sound work (dues ++ event.due work traffic.dispatcher)
    (order ++ event.finished?.toList) next
  dispatcher : next.dispatcher = event.after traffic.dispatcher
  records : next.records = traffic.records ++ event.records traffic.dispatcher
  workers : next.workers = traffic.workers

theorem sound_step (h : Sound work dues order traffic) {event : Event α}
    (hnext : traffic.step? work event = some next) :
    Brings work dues order traffic event next := by
  -- An event that makes no call adds nothing to what is due, and one that finishes none nothing to
  -- the order.
  have hdues : ∀ {later : Traffic α β}, Sound work dues order later →
      Sound work (dues ++ []) (order ++ []) later := by
    intro later hsound
    rwa [List.append_nil, List.append_nil]
  cases happens_of_step hnext with
  | call argument =>
      have hsound := h.call argument
      rw [← List.append_nil order] at hsound
      exact ⟨hsound, rfl, (List.append_nil _).symm, rfl⟩
  | take hcall => exact ⟨hdues (h.take hcall), rfl, (List.append_nil _).symm, rfl⟩
  | finish hcall =>
      have hsound := h.finish hcall
      rw [← List.append_nil dues] at hsound
      exact ⟨hsound, rfl, (List.append_nil _).symm, rfl⟩
  | deliver hposted => exact ⟨hdues (h.deliver hposted), rfl, (List.append_nil _).symm, rfl⟩
  | shutdown =>
      exact ⟨hdues ⟨h.length, h.fits, h.posted, h.apart, h.once, h.known⟩, rfl, rfl, rfl⟩

end

/-! ### What a run preserves -/

/-- What is due to the calls that events make. -/
def dues (work : α → β) (dispatcher : Dispatcher) : List (Event α) → List (Option β)
  | [] => []
  | event :: events =>
      event.due work dispatcher ++ dues work (event.after dispatcher) events

/-- The dispatcher after events. -/
def afterAll (dispatcher : Dispatcher) (events : List (Event α)) : Dispatcher :=
  events.foldl Event.after dispatcher

/-- What events log. -/
def allRecords (dispatcher : Dispatcher) : List (Event α) → List Log.Record
  | [] => []
  | event :: events =>
      event.records dispatcher ++ allRecords (event.after dispatcher) events

/-- However the events of a run come one after the other, every call is on its way to what was due
    to it when it was made, or has come there. -/
theorem sound_follow {past : List (Option β)} {order : List Nat} {traffic last : Traffic α β}
    (h : Sound work past order traffic) {events : List (Event α)}
    (hlast : traffic.follow? work events = some last) :
    Sound work (past ++ dues work traffic.dispatcher events)
        (order ++ events.filterMap Event.finished?) last ∧
      last.dispatcher = afterAll traffic.dispatcher events ∧
      last.records = traffic.records ++ allRecords traffic.dispatcher events ∧
      last.workers = traffic.workers := by
  induction events generalizing past order traffic with
  | nil =>
      cases hlast
      refine ⟨?_, rfl, (List.append_nil _).symm, rfl⟩
      simpa [dues] using h
  | cons event events ih =>
      obtain ⟨next, hnext, hrest⟩ := Option.bind_eq_some_iff.mp hlast
      have hstep := sound_step h hnext
      obtain ⟨hsound, hdispatcher, hrecords, hworkers⟩ := ih hstep.sound hrest
      rw [hstep.dispatcher] at hsound hdispatcher hrecords
      rw [hstep.records] at hrecords
      refine ⟨?_, hdispatcher, ?_, hworkers.trans hstep.workers⟩
      · have horder : (event :: events).filterMap Event.finished? =
            event.finished?.toList ++ events.filterMap Event.finished? := by
          cases hfinished : event.finished? <;> simp [hfinished]
        rw [horder, dues, ← List.append_assoc, ← List.append_assoc]
        exact hsound
      · rw [hrecords, allRecords, List.append_assoc]

/-! ### Progress -/

/-- The events of workers and of the event loop, which nobody asks for. -/
def Event.isInner : Event α → Bool
  | .take _ | .finish _ | .deliver => true
  | .call _ | .shutdown => false

/-- How many events of its worker a call needs. -/
def Call.left (call : Call α β) : Nat :=
  match call.stage with
  | .waiting => 3
  | .working => 2
  | .finished | .answered _ => 0

/-- How many inner events there can be at most until nothing is left to do. -/
def left (traffic : Traffic α β) : Nat :=
  (traffic.calls.map Call.left).sum + traffic.posted.length

theorem sum_map_modify {γ : Type} {items : List γ} {number : Nat} {item : γ}
    (hitem : items[number]? = some item) (weight : γ → Nat) (f : γ → γ) :
    ((items.modify number f).map weight).sum + weight item =
      (items.map weight).sum + weight (f item) := by
  induction items generalizing number with
  | nil => cases hitem
  | cons first rest ih =>
      cases number with
      | zero =>
          cases hitem
          simp only [List.modify_zero_cons, List.map_cons, List.sum_cons]
          omega
      | succ number =>
          have hrest := ih hitem
          simp only [List.modify_succ_cons, List.map_cons, List.sum_cons]
          omega

section

variable {dues : List (Option β)} {order : List Nat} {traffic next : Traffic α β}

/-- Every inner event brings the calls nearer to their end. -/
theorem left_lt_of_inner (h : Sound work dues order traffic) {event : Event α}
    (hinner : event.isInner = true) (hnext : traffic.step? work event = some next) :
    left next < left traffic := by
  cases happens_of_step hnext with
  | call argument => cases hinner
  | shutdown => cases hinner
  | take hcall =>
      have hsum := sum_map_modify hcall Call.left ({ · with stage := .working })
      simp only [Call.left] at hsum
      simp only [left, Traffic.put]
      omega
  | finish hcall =>
      have hsum := sum_map_modify hcall Call.left ({ · with stage := .finished })
      simp only [Call.left] at hsum
      simp only [left, Traffic.put, List.length_append, List.length_singleton]
      omega
  | @deliver message posted hposted =>
      obtain ⟨argument, hcall⟩ := h.posted message (hposted ▸ List.mem_cons_self)
      have hsum := sum_map_modify hcall Call.left (Call.receive message.result)
      simp only [Call.left, Call.receive] at hsum
      simp only [left, hposted, List.length_cons]
      omega

/-- A worker can take the first call that waits, if no worker is at work. -/
theorem canTake_first (hworkers : 0 < traffic.workers)
    (hidle : traffic.calls.any Call.isWorking = false) {number : Nat}
    (hfirst : traffic.calls.findIdx? Call.isWaiting = some number) :
    traffic.canTake number = true := by
  unfold Traffic.canTake
  split
  · have hnone : traffic.calls.countP Call.isWorking = 0 :=
      List.countP_eq_zero.mpr fun call hcall => by simpa using List.any_eq_false.mp hidle call hcall
    simpa [hfirst, hnone] using hworkers
  · obtain ⟨hlt, hwaiting, _⟩ := List.findIdx?_eq_some_iff_getElem.mp hfirst
    rw [List.getElem?_eq_getElem hlt]
    exact hwaiting

/-- Where nothing is posted and no worker is at work, a call without its answer waits. -/
theorem Sound.any_waiting (h : Sound work dues order traffic) (hposted : traffic.posted = [])
    (hidle : traffic.calls.any Call.isWorking = false) (hbusy : traffic.isQuiet = false) :
    ∃ number : Nat, traffic.calls.findIdx? Call.isWaiting = some number := by
  obtain ⟨call, hmem, hanswer⟩ := List.all_eq_false.mp hbusy
  obtain ⟨place, hcall⟩ := List.mem_iff_getElem?.mp hmem
  obtain ⟨due, hdue⟩ := h.exists_due hcall
  have hfits := h.fits place call due hcall hdue
  have hnot := List.any_eq_false.mp hidle call hmem
  obtain ⟨argument, stage⟩ := call
  cases stage with
  | working => exact absurd rfl hnot
  | answered answer => exact absurd rfl hanswer
  | finished =>
      have hmessage := hfits.2.2
      rw [hposted] at hmessage
      cases hmessage
  | waiting =>
      rw [← Option.isSome_iff_exists, List.findIdx?_isSome]
      exact List.any_eq_true.mpr ⟨_, hmem, rfl⟩

/-- As long as a call is without its answer, a worker or the event loop can go on. -/
theorem exists_inner (h : Sound work dues order traffic) (hworkers : 0 < traffic.workers)
    (hbusy : traffic.isQuiet = false) :
    ∃ event : Event α, event.isInner = true ∧ (traffic.step? work event).isSome = true := by
  cases hposted : traffic.posted with
  | cons message posted =>
      refine ⟨.deliver, rfl, ?_⟩
      simp only [Traffic.step?, hposted, Option.isSome_some]
  | nil =>
      cases hworking : traffic.calls.any Call.isWorking with
      | true =>
          obtain ⟨⟨argument, stage⟩, hmem, hstage⟩ := List.any_eq_true.mp hworking
          obtain ⟨number, hcall⟩ := List.mem_iff_getElem?.mp hmem
          cases stage with
          | working =>
              refine ⟨.finish number, rfl, ?_⟩
              simp only [Traffic.step?, hcall, Option.isSome_some]
          | waiting | finished | answered => cases hstage
      | false =>
          obtain ⟨number, hfirst⟩ := h.any_waiting hposted hworking hbusy
          refine ⟨.take number, rfl, ?_⟩
          simp only [Traffic.step?, canTake_first hworkers hworking hfirst, if_true,
            Option.isSome_some]

end

/-! ### Runs to the end -/

theorem follow?_append (traffic : Traffic α β) (first later : List (Event α)) :
    traffic.follow? work (first ++ later) =
      traffic.follow? work first >>= fun next => next.follow? work later := by
  induction first generalizing traffic with
  | nil => rfl
  | cons event events ih =>
      simp only [List.cons_append, Traffic.follow?, ih, bind_assoc]

/-- However the inner events come, there are no more of them than are left. -/
theorem length_le_left {dues : List (Option β)} {order : List Nat} {traffic last : Traffic α β}
    (h : Sound work dues order traffic) {events : List (Event α)}
    (hinner : ∀ event ∈ events, event.isInner = true)
    (hlast : traffic.follow? work events = some last) :
    events.length + left last ≤ left traffic := by
  induction events generalizing dues order traffic with
  | nil =>
      cases hlast
      simp
  | cons event events ih =>
      obtain ⟨hfirst, hlater⟩ := List.forall_mem_cons.mp hinner
      obtain ⟨next, hnext, hrest⟩ := Option.bind_eq_some_iff.mp hlast
      have hfewer := left_lt_of_inner h hfirst hnext
      have hbound := ih (sound_step h hnext).sound hlater hrest
      rw [List.length_cons]
      omega

/-- The inner events can always go on until every call has its answer. -/
theorem exists_quiet {dues : List (Option β)} {order : List Nat} {traffic : Traffic α β}
    (h : Sound work dues order traffic) (hworkers : 0 < traffic.workers) :
    ∃ (events : List (Event α)) (last : Traffic α β), (∀ event ∈ events, event.isInner = true) ∧
      traffic.follow? work events = some last ∧ last.isQuiet = true := by
  induction hleft : left traffic using Nat.strongRecOn generalizing dues order traffic with
  | _ count ih =>
    cases hquiet : traffic.isQuiet with
    | true => exact ⟨[], traffic, nofun, rfl, hquiet⟩
    | false =>
        obtain ⟨event, hinner, hsome⟩ := exists_inner h hworkers hquiet
        obtain ⟨next, hnext⟩ := Option.isSome_iff_exists.mp hsome
        have hstep := sound_step h hnext
        have hfewer := left_lt_of_inner h hinner hnext
        obtain ⟨events, last, hevents, hlast, hend⟩ :=
          ih (left next) (hleft ▸ hfewer) hstep.sound (hstep.workers ▸ hworkers) rfl
        refine ⟨event :: events, last, List.forall_mem_cons.mpr ⟨hinner, hevents⟩, ?_, hend⟩
        rw [Traffic.follow?, hnext]
        exact hlast

end Abacus.Dispatcher
