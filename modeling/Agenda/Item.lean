import Agenda.Store.Basic

/-!
# Items and their handles

An item is a callback together with the data handed to it and the instant from which it may
run.  Callbacks are codes; what a code stands for is decided by whoever runs the scheduler.
An item that the store took is named by its slot.  One that the store refused is kept aside,
detached, under a number.  When an item is dispatched its callback learns what it was called
for.
-/

namespace Agenda

/-- Something to be done, the data for it, and the instant at which it is due. -/
structure Item (κ D : Type) where
  /-- When the item may run. -/
  due : Instant
  /-- What to run. -/
  callback : κ
  /-- What to hand over. -/
  data : D
  deriving DecidableEq, Repr

namespace Item

variable {κ D : Type}

/-- A description of an item that shows nothing but its due instant. -/
def description (item : Item κ D) : String :=
  "ScheduledItem \x7b due_time: " ++ toString item.due ++ ", .. \x7d"

end Item

/-- The name of an item. -/
inductive ItemHandle where
  /-- An item in the store. -/
  | stored (handle : SlotHandle)
  /-- An item that the store refused. -/
  | detached (number : UInt64)
  deriving DecidableEq, Repr

namespace ItemHandle

/-- The handle of the item's entry in the store. -/
def slotHandle? : ItemHandle → Option SlotHandle
  | stored handle => some handle
  | detached _ => none

/-- Whether the item was refused by the store, so that no loop will ever fire it. -/
def isDegenerate : ItemHandle → Bool
  | stored _ => false
  | detached _ => true

/-- The wording of a handle. -/
def text : ItemHandle → String
  | stored handle => "event " ++ handle.text
  | detached number => "detached event " ++ toString number.toNat

@[simp] theorem slotHandle?_eq_none_iff (handle : ItemHandle) :
    handle.slotHandle? = none ↔ handle.isDegenerate = true := by
  cases handle <;> simp [slotHandle?, isDegenerate]

end ItemHandle

/-- Why a callback runs. -/
inductive Reason where
  /-- The item was due and a loop fired it. -/
  | timed
  /-- The item was cancelled. -/
  | abort
  deriving DecidableEq, Repr

namespace Reason

/-- The name of a reason. -/
def name : Reason → String
  | timed => "timed"
  | abort => "abort"

/-- The reason of a name. -/
def ofName? (text : String) : Option Reason :=
  if text = timed.name then some timed
  else if text = abort.name then some abort
  else none

@[simp] theorem ofName?_name (reason : Reason) : ofName? reason.name = some reason := by
  cases reason <;> decide

end Reason

/-- What a callback is told when it runs. -/
structure Dispatch (D : Type) where
  /-- The name that the item had until now. -/
  handle : ItemHandle
  /-- When the item was due. -/
  due : Instant
  /-- Why it runs. -/
  reason : Reason
  /-- Nanoseconds reserved for an overrun; always zero. -/
  latency : Nat
  /-- The data of the item. -/
  data : D
  deriving DecidableEq, Repr

namespace Dispatch

variable {D : Type}

/-- Whether the item was cancelled. -/
def isAbort (dispatch : Dispatch D) : Bool := dispatch.reason == .abort

end Dispatch

namespace Item

variable {κ D : Type}

/-- What the callback of an item is told. -/
def dispatch (item : Item κ D) (handle : ItemHandle) (reason : Reason) : Dispatch D where
  handle := handle
  due := item.due
  reason := reason
  latency := 0
  data := item.data

end Item
end Agenda
