/-!
# Holders of shared cells

Some values are held by several parties at once: what one of them changes, the others see.
Holders are numbered in the order in which they appear.  Each points at a cell; a copy of a
holder points at the same cell, a new holder at a cell of its own.
-/

namespace Agenda

/-- Numbered holders, some of which share a cell. -/
structure Sharing (α : Type) where
  /-- The contents of the cells. -/
  cells : Array α
  /-- The cell of each holder. -/
  holders : Array (Fin cells.size)

namespace Sharing

/-- One holder with one cell. -/
def single (value : α) : Sharing α := ⟨#[value], #[⟨0, by simp⟩]⟩

/-- The number of holders. -/
def size (sharing : Sharing α) : Nat := sharing.holders.size

/-- The cell of a holder; a number past the end stands for the last holder. -/
def cellOf? (sharing : Sharing α) (holder : Nat) : Option (Fin sharing.cells.size) :=
  sharing.holders[min holder (sharing.holders.size - 1)]?

/-- What a holder sees; a number past the end stands for the last holder. -/
def get? (sharing : Sharing α) (holder : Nat) : Option α :=
  (sharing.cellOf? holder).map fun cell => sharing.cells[cell]

/-- Change what a holder, and everyone who shares its cell, sees. -/
def modify (sharing : Sharing α) (holder : Nat) (change : α → α) : Sharing α :=
  match sharing.cellOf? holder with
  | none => sharing
  | some cell =>
      ⟨sharing.cells.set cell (change sharing.cells[cell]),
        sharing.holders.map fun other => other.cast (by simp)⟩

/-- Add a holder that shares the cell of another. -/
def share (sharing : Sharing α) (holder : Nat) : Sharing α :=
  match sharing.cellOf? holder with
  | none => sharing
  | some cell => ⟨sharing.cells, sharing.holders.push cell⟩

/-- Add a holder with a cell of its own. -/
def add (sharing : Sharing α) (value : α) : Sharing α :=
  ⟨sharing.cells.push value,
    (sharing.holders.map fun other => other.castLE (by simp)).push
      ⟨sharing.cells.size, by simp⟩⟩

/-- What the holders see, in their order. -/
def toList (sharing : Sharing α) : List α :=
  sharing.holders.toList.map fun cell => sharing.cells[cell]

end Sharing
end Agenda
