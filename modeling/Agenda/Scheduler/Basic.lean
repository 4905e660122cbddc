import Agenda.Config.Basic
import Agenda.Host
import Agenda.Scheduler.Detached

/-!
# Schedulers

A scheduler owns a store of items.  An item is accepted with a delay, from which its due
instant follows, and leaves once: it is taken out to be dispatched, or released with all the
others.  What the store refuses is either kept as a detached item or given up.
-/

namespace Agenda

/-- A store of items, the items that it refused, and the longest single wait. -/
structure Scheduler (σ : Type → Type) (κ D : Type) where
  /-- The pending items. -/
  store : σ (Item κ D)
  /-- The refused items that were kept. -/
  detached : DetachedItems κ D
  /-- The longest single wait in milliseconds. -/
  pollCeiling : UInt64

namespace Scheduler

variable {σ : Type → Type} {κ D : Type}

/-- A scheduler over a store. -/
def ofStore (store : σ (Item κ D)) : Scheduler σ κ D where
  store := store
  detached := .empty
  pollCeiling := defaultPollCeiling

/-- The same scheduler with another longest wait. -/
def withPollCeiling (scheduler : Scheduler σ κ D) (ceiling : UInt64) : Scheduler σ κ D :=
  { scheduler with pollCeiling := ceiling }

/-- How many detached items there are. -/
def detachedCount (scheduler : Scheduler σ κ D) : Nat := scheduler.detached.size

variable [OrderedStore σ]

/-- How many items are pending in the store. -/
def size (scheduler : Scheduler σ κ D) : Nat := OrderedStore.size scheduler.store

/-- Whether a handle names a pending or a detached item. -/
def contains (scheduler : Scheduler σ κ D) : ItemHandle → Bool
  | .stored handle => OrderedStore.contains scheduler.store handle
  | .detached number => scheduler.detached.contains number

/-- When the earliest pending item is due. -/
def nextDue (scheduler : Scheduler σ κ D) : Option Instant × Scheduler σ κ D :=
  let (earliest, store) := OrderedStore.peek scheduler.store
  (earliest.map Prod.snd, { scheduler with store })

/-- The item that runs a callback after a delay. -/
def itemAfter (now : Instant) (delay : Delay) (callback : κ) (data : D) : Item κ D :=
  ⟨dueAfter now delay, callback, data⟩

/-- Give an item to the store. -/
def insert (scheduler : Scheduler σ κ D) (item : Item κ D) :
    Except (Refused (Item κ D)) ItemHandle × Scheduler σ κ D :=
  let (stored, store) := OrderedStore.insert scheduler.store item.due item
  (stored.map .stored, { scheduler with store })

/-- Keep an item aside. -/
def detach (scheduler : Scheduler σ κ D) (item : Item κ D) : ItemHandle × Scheduler σ κ D :=
  let (number, detached) := scheduler.detached.add item
  (.detached number, { scheduler with detached })

/-- Give an item to the store, and keep it aside if the store refuses it. -/
def schedule (scheduler : Scheduler σ κ D) (item : Item κ D) :
    ItemHandle × Scheduler σ κ D :=
  match scheduler.insert item with
  | (.ok handle, grown) => (handle, grown)
  | (.error refused, same) => same.detach refused.value

/-- Give an item to the store, and give it up if the store refuses it. -/
def trySchedule (scheduler : Scheduler σ κ D) (item : Item κ D) :
    Except SchedulerError ItemHandle × Scheduler σ κ D :=
  let (inserted, grown) := scheduler.insert item
  (inserted.mapError fun refused => .insertFailed refused.cause.reason, grown)

/-- Take out the item that a handle names. -/
def remove (scheduler : Scheduler σ κ D) :
    ItemHandle → Option (Item κ D) × Scheduler σ κ D
  | .stored handle =>
      let (item, store) := OrderedStore.remove scheduler.store handle
      (item, { scheduler with store })
  | .detached number =>
      let (item, detached) := scheduler.detached.remove number
      (item, { scheduler with detached })

/-- Take out every item, pending or detached, to be given up. -/
def release (scheduler : Scheduler σ κ D) : List (Item κ D) × Scheduler σ κ D :=
  let (pending, store) := OrderedStore.removeAll scheduler.store
  let (refused, detached) := scheduler.detached.removeAll
  (pending ++ refused, { scheduler with store, detached })

/-- A description of a scheduler that counts its items. -/
def describe (pending detached : Nat) (ceiling : UInt64) : String :=
  "Scheduler \x7b pending: " ++ toString pending ++ ", detached: " ++ toString detached ++
    ", max_poll_wait_ms: " ++ toString ceiling.toNat ++ ", .. \x7d"

end Scheduler
end Agenda
