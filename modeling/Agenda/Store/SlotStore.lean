import Agenda.Store.KeyQueue

/-!
# The slot store

Values live in numbered slots; a queue of keys orders them.  Taking a value out raises the
generation of its slot, so every handle to it and its key in the queue go stale.  Stale keys
are dropped when they come to the front, and all at once when they outnumber the live ones.
An emptied slot is used again before a new one is made, the last emptied first.
-/

namespace Agenda

/-- A place for one value. -/
structure Slot (α : Type) where
  /-- How often the slot has been emptied, counted round a 32-bit number. -/
  generation : UInt32
  /-- The value in the slot. -/
  content : Option α
  deriving Repr

/-- Values in slots, ordered by a queue of keys. -/
structure SlotStore (α : Type) where
  /-- Every slot made so far. -/
  slots : Array (Slot α)
  /-- The numbers of the empty slots, the last emptied first. -/
  free : List Nat
  /-- A key for each entry, and keys of entries that have left. -/
  queue : KeyQueue
  /-- The number of entries. -/
  size : Nat
  /-- How many entries were ever inserted. -/
  nextRank : UInt64
  /-- The largest number of entries allowed. -/
  limit : Option Nat

namespace SlotStore

variable {α : Type}

/-- A store without entries, and with a limit on their number if one is given. -/
def empty (limit : Option Nat) : SlotStore α where
  slots := #[]
  free := []
  queue := .empty
  size := 0
  nextRank := 0
  limit := limit

/-- A store that takes any number of entries. -/
def unbounded : SlotStore α := empty none

/-- A store that refuses to hold more entries than its limit. -/
def bounded (limit : Nat) : SlotStore α := empty (some limit)

/-- Whether the store holds as many entries as it may. -/
def isFull (store : SlotStore α) : Bool :=
  match store.limit with
  | none => false
  | some limit => decide (limit ≤ store.size)

/-- The value that a handle names. -/
def get? (store : SlotStore α) (handle : SlotHandle) : Option α :=
  match store.slots[handle.slot]? with
  | none => none
  | some slot => if slot.generation = handle.generation then slot.content else none

/-- Whether a handle names an entry. -/
def contains (store : SlotStore α) (handle : SlotHandle) : Bool :=
  (store.get? handle).isSome

/-- Put a value into a slot that is free, or into a new one, and give its handle. -/
def occupy (store : SlotStore α) (value : α) : SlotHandle × SlotStore α :=
  match store.free with
  | [] =>
      (⟨store.slots.size, 0⟩,
        { store with slots := store.slots.push ⟨0, some value⟩, size := store.size + 1 })
  | index :: others =>
      let generation := (store.slots[index]?.map (·.generation)).getD 0
      (⟨index, generation⟩,
        { store with
          slots := store.slots.setIfInBounds index ⟨generation, some value⟩
          free := others
          size := store.size + 1 })

/-- Queue a key for an entry that was just put into a slot. -/
def enqueue (store : SlotStore α) (due : Instant) (handle : SlotHandle) : SlotStore α :=
  { store with
    queue := store.queue.insert ⟨due, store.nextRank, handle⟩
    nextRank := store.nextRank + 1 }

/-- Store a value under its due instant, or give it back when the store is full. -/
def insert (store : SlotStore α) (due : Instant) (value : α) :
    Except (Refused α) SlotHandle × SlotStore α :=
  if store.isFull then
    (.error ⟨value, .limitReached⟩, store)
  else
    let (handle, occupied) := store.occupy value
    (.ok handle, occupied.enqueue due handle)

/-- The handle and the due instant of the earliest entry; stale keys in front of it go. -/
def peek (store : SlotStore α) : Option (SlotHandle × Instant) × SlotStore α :=
  let queue := store.queue.dropWhile fun key => !store.contains key.handle
  (queue.first?.map fun key => (key.handle, key.due), { store with queue })

/-- Empty a slot: its generation goes up and it becomes free. -/
def vacate (store : SlotStore α) (index : Nat) : SlotStore α :=
  { store with
    slots := store.slots.modify index fun slot => ⟨slot.generation + 1, none⟩
    free := index :: store.free
    size := store.size - 1 }

/-- The number of keys below which stale ones are left alone. -/
def compactionThreshold : Nat := 64

/-- Drop every stale key once there are many keys and more stale than live ones. -/
def compact (store : SlotStore α) : SlotStore α :=
  if compactionThreshold < store.queue.size ∧ 2 * store.size < store.queue.size then
    { store with queue := store.queue.filter fun key => store.contains key.handle }
  else
    store

/-- Take out the entry that a handle names. -/
def remove (store : SlotStore α) (handle : SlotHandle) : Option α × SlotStore α :=
  match store.get? handle with
  | none => (none, store)
  | some value => (some value, (store.vacate handle.slot).compact)

/-- The numbers of the slots that hold a value, in ascending order. -/
def occupiedSlots (store : SlotStore α) : List Nat :=
  (List.range store.slots.size).filter fun index =>
    store.slots[index]?.any fun slot => slot.content.isSome

/-- Every value, in the order of the slots. -/
def values (store : SlotStore α) : List α :=
  store.slots.toList.filterMap Slot.content

/-- Take out every entry, and give back the values in the order of their slots. -/
def removeAll (store : SlotStore α) : List α × SlotStore α :=
  (store.values, { store.occupiedSlots.foldl vacate store with queue := .empty })

instance : OrderedStore SlotStore where
  insert := insert
  peek := peek
  remove := remove
  contains := contains
  size := SlotStore.size
  removeAll := removeAll

end SlotStore
end Agenda
