import Agenda.Time

/-!
# Stores of entries ordered by due instant

A store keeps values, each with the instant at which it is due.  It names every entry by a
handle, gives the earliest entry first and, among entries due at the same instant, the one
inserted first.  A handle whose entry has left is told from that of the entry which now sits in
its slot by the generation of the slot.
-/

namespace Agenda

/-- The name of an entry: a slot, and the generation that the slot had at insertion. -/
structure SlotHandle where
  /-- The number of the slot. -/
  slot : Nat
  /-- How often the slot had been emptied. -/
  generation : UInt32
  deriving DecidableEq, Repr

namespace SlotHandle

/-- The slot and the generation, with a point between them. -/
def text (handle : SlotHandle) : String :=
  toString handle.slot ++ "." ++ toString handle.generation.toNat

end SlotHandle

/-- Why a store does not take a value. -/
inductive Refusal where
  /-- The store holds as many entries as it may. -/
  | limitReached
  /-- The only slot is taken. -/
  | slotOccupied
  deriving DecidableEq, Repr

namespace Refusal

/-- The wording of a refusal. -/
def reason : Refusal → String
  | limitReached => "max queue length reached"
  | slotOccupied => "slot occupied"

end Refusal

/-- A value that a store gives back together with the cause. -/
structure Refused (α : Type) where
  /-- The value that was not stored. -/
  value : α
  /-- Why it was not stored. -/
  cause : Refusal
  deriving DecidableEq, Repr

/-- What every store of values ordered by due instant can do.  Each operation that may change a
store answers with what it found and with the store afterwards. -/
class OrderedStore (σ : Type → Type) where
  /-- Store a value under its due instant, or give it back. -/
  insert {α : Type} (store : σ α) (due : Instant) (value : α) :
    Except (Refused α) SlotHandle × σ α
  /-- The handle and the due instant of the earliest entry. -/
  peek {α : Type} (store : σ α) : Option (SlotHandle × Instant) × σ α
  /-- Take out the entry that a handle names. -/
  remove {α : Type} (store : σ α) (handle : SlotHandle) : Option α × σ α
  /-- Whether a handle names an entry. -/
  contains {α : Type} (store : σ α) (handle : SlotHandle) : Bool
  /-- The number of entries. -/
  size {α : Type} (store : σ α) : Nat
  /-- Take out every entry, and give back the values in the order of their slots. -/
  removeAll {α : Type} (store : σ α) : List α × σ α

/-- Whether a store has no entry. -/
def OrderedStore.isEmpty {σ : Type → Type} [OrderedStore σ] {α : Type} (store : σ α) : Bool :=
  OrderedStore.size store == 0

end Agenda
