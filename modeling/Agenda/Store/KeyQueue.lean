import Agenda.Store.Basic
import Agenda.Store.LeftistHeap

/-!
# Queues of keys

A key says when an entry is due, how many entries were inserted before it, and what its handle
is.  A queue of keys gives the earliest due instant first and, among equal instants, the first
inserted; it knows its size without counting.
-/

namespace Agenda

/-- What a store knows about an entry when it orders it. -/
structure Key where
  /-- When the entry is due. -/
  due : Instant
  /-- How many entries were inserted before it. -/
  rank : UInt64
  /-- The name of the entry. -/
  handle : SlotHandle
  deriving DecidableEq, Repr

namespace Key

/-- Keys are ordered by due instant, and by rank where these are equal. -/
def before (key other : Key) : Bool :=
  decide (key.due < other.due) || (key.due == other.due && decide (key.rank < other.rank))

theorem before_iff (key other : Key) :
    key.before other ↔
      key.due < other.due ∨ key.due = other.due ∧ key.rank < other.rank := by
  simp [before]

end Key

/-- A heap of keys and the number of keys in it. -/
structure KeyQueue where
  /-- The keys, the first on top. -/
  heap : LeftistHeap Key
  /-- The number of keys. -/
  size : Nat
  /-- The number is right. -/
  size_eq : size = heap.size

namespace KeyQueue

/-- The queue without keys. -/
def empty : KeyQueue := ⟨.empty, 0, rfl⟩

/-- The keys of a queue, in no order to rely on. -/
def toList (queue : KeyQueue) : List Key := queue.heap.toList

/-- The first key. -/
def first? (queue : KeyQueue) : Option Key := queue.heap.root?

/-- Add a key. -/
def insert (queue : KeyQueue) (key : Key) : KeyQueue where
  heap := queue.heap.insert Key.before key
  size := queue.size + 1
  size_eq := by simp [queue.size_eq]

/-- A queue without its first key. -/
def tail (queue : KeyQueue) : KeyQueue where
  heap := queue.heap.tail Key.before
  size := queue.size - 1
  size_eq := by simp [queue.size_eq]

/-- Keep the keys that pass a test. -/
def filter (keep : Key → Bool) (queue : KeyQueue) : KeyQueue :=
  let kept := queue.heap.toList.filter keep
  ⟨.ofList Key.before kept, kept.length, by simp⟩

@[simp] theorem size_empty : empty.size = 0 := rfl

@[simp] theorem size_insert (queue : KeyQueue) (key : Key) :
    (queue.insert key).size = queue.size + 1 := rfl

@[simp] theorem size_tail (queue : KeyQueue) : queue.tail.size = queue.size - 1 := rfl

theorem length_toList (queue : KeyQueue) : queue.toList.length = queue.size := by
  rw [toList, LeftistHeap.length_toList, queue.size_eq]

theorem size_pos_of_first?_eq_some {queue : KeyQueue} {key : Key}
    (hasFirst : queue.first? = some key) : 0 < queue.size := by
  rw [queue.size_eq]
  refine Nat.pos_of_ne_zero fun sizeZero => ?_
  rw [first?, (LeftistHeap.root?_eq_none_iff _).mpr sizeZero] at hasFirst
  cases hasFirst

/-- Take keys off the front for as long as a test says that they are of no use. -/
def dropWhile (useless : Key → Bool) (queue : KeyQueue) : KeyQueue :=
  match _hasFirst : queue.first? with
  | none => queue
  | some key => if useless key then dropWhile useless queue.tail else queue
  termination_by queue.size
  decreasing_by
    have positive := size_pos_of_first?_eq_some _hasFirst
    simp only [size_tail]
    omega

end KeyQueue
end Agenda
