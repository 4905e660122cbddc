import Agenda.Item

/-!
# Detached items

Items that the store refused are kept under numbers, given out in order.  They wait there to be
cancelled or released; no loop ever looks at them.
-/

namespace Agenda

/-- The items that the store refused. -/
structure DetachedItems (κ D : Type) where
  /-- The items under their numbers. -/
  items : List (UInt64 × Item κ D)
  /-- The number for the next item. -/
  nextNumber : UInt64
  deriving Repr

namespace DetachedItems

variable {κ D : Type}

/-- No item was refused yet. -/
def empty : DetachedItems κ D := ⟨[], 0⟩

/-- How many items are kept. -/
def size (table : DetachedItems κ D) : Nat := table.items.length

/-- The item under a number. -/
def get? (table : DetachedItems κ D) (number : UInt64) : Option (Item κ D) :=
  table.items.lookup number

/-- Whether there is an item under a number. -/
def contains (table : DetachedItems κ D) (number : UInt64) : Bool :=
  (table.get? number).isSome

/-- Drop what is under a number, if anything is. -/
def erase (table : DetachedItems κ D) (number : UInt64) : DetachedItems κ D :=
  if table.contains number then
    { table with items := table.items.eraseP fun entry => entry.1 == number }
  else
    table

/-- Keep an item under the next number, in place of what was there. -/
def add (table : DetachedItems κ D) (item : Item κ D) : UInt64 × DetachedItems κ D :=
  (table.nextNumber,
    { items := (table.nextNumber, item) :: (table.erase table.nextNumber).items
      nextNumber := table.nextNumber + 1 })

/-- Take out the item under a number. -/
def remove (table : DetachedItems κ D) (number : UInt64) :
    Option (Item κ D) × DetachedItems κ D :=
  match table.get? number with
  | none => (none, table)
  | some item => (some item, table.erase number)

/-- Take out every item; numbers go on from where they were. -/
def removeAll (table : DetachedItems κ D) : List (Item κ D) × DetachedItems κ D :=
  (table.items.map Prod.snd, { table with items := [] })

end DetachedItems
end Agenda
