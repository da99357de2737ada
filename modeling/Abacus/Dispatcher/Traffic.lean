/-
Module: Abacus.Dispatcher.Traffic
Purpose: The calls of a dispatcher on their way, event by event. A call waits until a worker takes
  it; when the worker has finished, it posts the result with the number of the call, and the event
  loop hands what was posted to the caller. The workers of a pool take the calls in order and are
  limited in number; without a pool each call has a worker of its own. A pool is shut down once its
  workers have nothing left to do.
Main exports: Stage, Call, Message, Traffic, Event, Traffic.step?, Traffic.follow?
-/
import Abacus.Dispatcher

namespace Abacus.Dispatcher

/-- How far a call has come. -/
inductive Stage (β : Type) where
  | waiting
  | working
  /-- Its result has been posted. -/
  | finished
  /-- The caller has the result, or knows that no worker takes the call. -/
  | answered (answer : Option β)
deriving DecidableEq, Repr, Inhabited

/-- A call on its way. -/
structure Call (α β : Type) where
  argument : α
  stage : Stage β
deriving DecidableEq, Repr

/-- A result for the call of a number. -/
structure Message (β : Type) where
  number : Nat
  result : β
deriving DecidableEq, Repr

/-- A dispatcher with its calls, numbered in the order in which they were made, and the results that
were posted and not yet handed over, the oldest one first. -/
structure Traffic (α β : Type) where
  dispatcher : Dispatcher
  /-- The number of workers of a pool. -/
  workers : Nat
  calls : List (Call α β) := []
  posted : List (Message β) := []
  records : List Log.Record := []
deriving Repr

/-- What happens to a dispatcher and its calls. -/
inductive Event (α : Type) where
  | call (argument : α)
  /-- A worker takes a call. -/
  | take (number : Nat)
  /-- A worker finishes a call. -/
  | finish (number : Nat)
  /-- The event loop hands over the oldest result that was posted. -/
  | deliver
  | shutdown
deriving DecidableEq, Repr, Inhabited

namespace Call

variable {α β : Type}

def isWaiting (call : Call α β) : Bool :=
  match call.stage with
  | .waiting => true
  | _ => false

def isWorking (call : Call α β) : Bool :=
  match call.stage with
  | .working => true
  | _ => false

/-- The answer that the caller has, if there is one yet. -/
def answer? (call : Call α β) : Option (Option β) :=
  match call.stage with
  | .answered answer => some answer
  | _ => none

/-- The call with a result handed over. One that has its answer keeps it. -/
def receive (result : β) (call : Call α β) : Call α β :=
  match call.stage with
  | .answered _ => call
  | _ => { call with stage := .answered (some result) }

end Call

namespace Traffic

variable {α β : Type}

/-- A dispatcher that has no calls yet. -/
def start (dispatcher : Dispatcher) (workers : Nat) : Traffic α β where
  dispatcher
  workers

/-- Whether a worker can take the call of a number: of a pool, if it is the first call that waits
and not all workers are at work. -/
def canTake (traffic : Traffic α β) (number : Nat) : Bool :=
  match traffic.dispatcher.mode with
  | .pool =>
      traffic.calls.findIdx? Call.isWaiting == some number &&
        traffic.calls.countP Call.isWorking < traffic.workers
  | .thread => traffic.calls[number]?.any Call.isWaiting

/-- The traffic with the call of a number at another stage. -/
def put (traffic : Traffic α β) (number : Nat) (stage : Stage β) : Traffic α β :=
  { traffic with calls := traffic.calls.modify number fun call => { call with stage } }

/-- What an event leads to; none if it cannot happen. -/
def step? (work : α → β) (traffic : Traffic α β) : Event α → Option (Traffic α β)
  | .call argument =>
      let stage := if traffic.dispatcher.accepts then .waiting else .answered none
      some { traffic with calls := traffic.calls ++ [⟨argument, stage⟩] }
  | .take number =>
      if traffic.canTake number then some (traffic.put number .working) else none
  | .finish number =>
      match traffic.calls[number]? with
      | some ⟨argument, .working⟩ =>
          some { traffic.put number .finished with
            posted := traffic.posted ++ [⟨number, work argument⟩] }
      | _ => none
  | .deliver =>
      match traffic.posted with
      | [] => none
      | message :: posted =>
          some { traffic with
            calls := traffic.calls.modify message.number (Call.receive message.result)
            posted }
  | .shutdown =>
      if traffic.dispatcher.hasPool && traffic.calls.any (fun c => c.isWaiting || c.isWorking) then
        none
      else
        let (dispatcher, records) := traffic.dispatcher.shutdown
        some { traffic with dispatcher, records := traffic.records ++ records }

/-- What events one after the other lead to; none if one of them cannot happen. -/
def follow? (work : α → β) (traffic : Traffic α β) : List (Event α) → Option (Traffic α β)
  | [] => some traffic
  | event :: events => do
      let next ← traffic.step? work event
      next.follow? work events

/-- Whether every call has its answer. -/
def isQuiet (traffic : Traffic α β) : Bool :=
  traffic.calls.all fun call => call.answer?.isSome

end Traffic

end Abacus.Dispatcher
