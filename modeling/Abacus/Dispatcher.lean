/-
Module: Abacus.Dispatcher
Purpose: Calls handed to workers. A pool takes calls until it is shut down; with a thread for
  each call there is nothing to shut down. The calls of a batch finish in any order, and each
  leaves its result in its own slot.
Main exports: Dispatcher, Dispatcher.create?, Dispatcher.run, Dispatcher.gather,
  Dispatcher.shutdown
-/
import Abacus.Log
import Abacus.Settings

namespace Abacus

/-- A dispatcher, with a pool as long as it has one. -/
structure Dispatcher where
  mode : DispatchMode
  hasPool : Bool
deriving DecidableEq, Repr, Inhabited

/-- A call of a batch: what it is called with, and its result once it has finished. -/
structure Slot (α β : Type) where
  argument : α
  result : Option β := none
deriving Repr

namespace Slot

/-- The call with its result. -/
def finish (work : α → β) (slot : Slot α β) : Slot α β :=
  { slot with result := some (work slot.argument) }

end Slot

/-- The calls of a batch after the one with the given number has finished. -/
def finishSlot (work : α → β) (slots : List (Slot α β)) (number : Nat) : List (Slot α β) :=
  slots.modify number (Slot.finish work)

namespace Dispatcher

/-- What is said when a pool is to have no workers. -/
def noWorkersMessage : String :=
  "max_workers must be greater than 0"

/-- What is said when a call comes after the pool was shut down. -/
def noPoolMessage : String :=
  "Pool dispatcher has no executor"

/-- A new dispatcher. A pool needs one worker at least. -/
def create? (mode : DispatchMode) (workers : Int) : Option Dispatcher :=
  match mode with
  | .thread => some ⟨.thread, false⟩
  | .pool => if workers ≤ 0 then none else some ⟨.pool, true⟩

/-- Whether a call can be handed to a worker. -/
def accepts (dispatcher : Dispatcher) : Bool :=
  dispatcher.mode == .thread || dispatcher.hasPool

/-- The result of a call; none if no worker takes it. -/
def run (dispatcher : Dispatcher) (work : α → β) (argument : α) : Option β :=
  if dispatcher.accepts then some (work argument) else none

/-- The results of calls made at once, in the order of the calls. The calls finish in the given
order of their numbers. -/
def gather (dispatcher : Dispatcher) (work : α → β) (order : List Nat) (arguments : List α) :
    List (Option β) :=
  if dispatcher.accepts then
    let slots := arguments.map fun argument => ⟨argument, none⟩
    (order.foldl (finishSlot work) slots).map Slot.result
  else
    arguments.map fun _ => none

/-- Shuts the pool down, if there is one. -/
def shutdown (dispatcher : Dispatcher) : Dispatcher × List Log.Record :=
  if dispatcher.hasPool then
    ({ dispatcher with hasPool := false }, [⟨.debug, .dispatcher, "Shutting down worker pool"⟩])
  else (dispatcher, [])

end Dispatcher

end Abacus
