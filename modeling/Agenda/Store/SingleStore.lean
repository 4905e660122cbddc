import Agenda.Store.Basic

/-!
# The store of one slot

The smallest store: one slot, refused while it is taken.  Its generation goes up with every
value that it takes, so the first entry has generation one.
-/

namespace Agenda

/-- One slot with the due instant of its value. -/
structure SingleStore (α : Type) where
  /-- How many values were ever stored, counted round a 32-bit number. -/
  generation : UInt32
  /-- The entry, if there is one. -/
  entry : Option (Instant × α)
  deriving Repr

namespace SingleStore

variable {α : Type}

/-- The slot is free and was never taken. -/
def empty : SingleStore α := ⟨0, none⟩

/-- The handle of the entry that is stored now or was stored last. -/
def handle (store : SingleStore α) : SlotHandle := ⟨0, store.generation⟩

/-- Store a value under its due instant, or give it back while the slot is taken. -/
def insert (store : SingleStore α) (due : Instant) (value : α) :
    Except (Refused α) SlotHandle × SingleStore α :=
  match store.entry with
  | some _ => (.error ⟨value, .slotOccupied⟩, store)
  | none =>
      let filled : SingleStore α := ⟨store.generation + 1, some (due, value)⟩
      (.ok filled.handle, filled)

/-- The handle and the due instant of the entry. -/
def peek (store : SingleStore α) : Option (SlotHandle × Instant) × SingleStore α :=
  (store.entry.map fun entry => (store.handle, entry.1), store)

/-- Whether a handle names the entry. -/
def contains (store : SingleStore α) (handle : SlotHandle) : Bool :=
  store.entry.isSome && handle == store.handle

/-- Take out the entry if the handle names it. -/
def remove (store : SingleStore α) (handle : SlotHandle) : Option α × SingleStore α :=
  if store.contains handle then (store.entry.map Prod.snd, { store with entry := none })
  else (none, store)

/-- The number of entries. -/
def size (store : SingleStore α) : Nat := if store.entry.isSome then 1 else 0

/-- Take out the entry; the generation stays. -/
def removeAll (store : SingleStore α) : List α × SingleStore α :=
  (store.entry.toList.map Prod.snd, { store with entry := none })

instance : OrderedStore SingleStore where
  insert := insert
  peek := peek
  remove := remove
  contains := contains
  size := size
  removeAll := removeAll

end SingleStore
end Agenda
