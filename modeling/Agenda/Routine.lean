import Agenda.Scheduler.Iteration

/-!
# Routines: what is done with a scheduler

A routine is a tree of requests to a scheduler and its surroundings; each request goes on with
what its answer asks for.  Callbacks are routines too, but items carry only their codes, so a
callback may schedule its own code again without end.
-/

namespace Agenda

/-- A question about a scheduler whose answer changes nothing. -/
inductive Query where
  /-- Does a handle name an item? -/
  | contains (handle : ItemHandle)
  /-- How many items are pending? -/
  | size
  /-- How many items are detached? -/
  | detachedCount
  /-- How long may a single wait be? -/
  | pollCeiling
  deriving DecidableEq, Repr

namespace Query

/-- What a question is answered with. -/
abbrev Reply : Query → Type
  | contains _ => Bool
  | size => Nat
  | detachedCount => Nat
  | pollCeiling => UInt64

end Query

namespace Scheduler

variable {σ : Type → Type} {κ D : Type} [OrderedStore σ]

/-- Answer a question. -/
def reply (scheduler : Scheduler σ κ D) : (query : Query) → query.Reply
  | .contains handle => scheduler.contains handle
  | .size => scheduler.size
  | .detachedCount => scheduler.detachedCount
  | .pollCeiling => scheduler.pollCeiling

end Scheduler

/-- A tree of requests, for callback codes `κ`, data `D` and surroundings `ε`. -/
inductive Routine (κ D ε : Type) : Type where
  /-- Nothing more is asked for. -/
  | done
  /-- Look at the surroundings. -/
  | observe (next : Host ε → Routine κ D ε)
  /-- Change the surroundings. -/
  | update (change : Host ε → Host ε) (next : Routine κ D ε)
  /-- Ask the scheduler a question. -/
  | ask (query : Query) (next : query.Reply → Routine κ D ε)
  /-- Ask when the earliest item is due. -/
  | nextDue (next : Option Instant → Routine κ D ε)
  /-- Schedule an item, which is kept aside if the store refuses it. -/
  | schedule (delay : Delay) (callback : κ) (data : D) (next : ItemHandle → Routine κ D ε)
  /-- Schedule an item, which is given up if the store refuses it. -/
  | trySchedule (delay : Delay) (callback : κ) (data : D)
      (next : Except SchedulerError ItemHandle → Routine κ D ε)
  /-- Dispatch an item at once. -/
  | cancel (handle : ItemHandle) (next : Except SchedulerError Unit → Routine κ D ε)
  /-- Release every item and learn how many there were. -/
  | shutdown (next : Nat → Routine κ D ε)
  /-- Run a loop that nobody can reach from outside. -/
  | runLoop (hooks : Hooks ε) (poller : Poller ε) (next : LoopExit → Routine κ D ε)
  /-- Run a loop that others can reach while it waits; what they do during a wait of a given
  length comes before the poller's answer. -/
  | runShared (hooks : Hooks ε) (poller : Poller ε) (others : UInt64 → Routine κ D ε)
      (next : LoopExit → Routine κ D ε)

end Agenda
