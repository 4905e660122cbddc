/-!
# Leftist heaps

A leftist heap is a binary tree in which every key comes before the keys below it, and in which
the shorter right spine always hangs on the right.  Two heaps are merged along their right
spines, so a merge takes few steps however the keys arrive, while the left side may grow as deep
as it likes.  Keys are compared by a Boolean order given to each operation.
-/

namespace Agenda

/-- A binary tree of keys; each node knows the length of its right spine. -/
inductive LeftistHeap (κ : Type) where
  | empty
  | node (spine : Nat) (key : κ) (left right : LeftistHeap κ)
  deriving Repr

namespace LeftistHeap

variable {κ : Type}

/-- The keys of a heap, in front of other keys. -/
def prepend : LeftistHeap κ → List κ → List κ
  | empty, others => others
  | node _ key left right, others => left.prepend (right.prepend (key :: others))

/-- The keys of a heap. -/
def toList (heap : LeftistHeap κ) : List κ := heap.prepend []

/-- The keys in front stay in front of the others. -/
theorem prepend_append (heap : LeftistHeap κ) (others rest : List κ) :
    heap.prepend (others ++ rest) = heap.prepend others ++ rest := by
  induction heap generalizing others with
  | empty => rfl
  | node spine key left right leftHypothesis rightHypothesis =>
      rw [prepend, ← List.cons_append, rightHypothesis, leftHypothesis, ← prepend]

theorem prepend_eq (heap : LeftistHeap κ) (others : List κ) :
    heap.prepend others = heap.toList ++ others :=
  heap.prepend_append [] others

@[simp] theorem toList_empty : (empty : LeftistHeap κ).toList = [] := rfl

@[simp] theorem toList_node (spine : Nat) (key : κ) (left right : LeftistHeap κ) :
    (node spine key left right).toList = left.toList ++ (right.toList ++ [key]) := by
  rw [toList, prepend, prepend_eq, prepend_eq]

/-- The keys of a heap are its root and the keys on both sides. -/
theorem toList_node_perm (spine : Nat) (key : κ) (left right : LeftistHeap κ) :
    (node spine key left right).toList.Perm (key :: (left.toList ++ right.toList)) := by
  rw [toList_node, ← List.append_assoc]
  exact List.perm_append_singleton key _

/-- The number of keys. -/
def size : LeftistHeap κ → Nat
  | empty => 0
  | node _ _ left right => left.size + right.size + 1

@[simp] theorem size_empty : (empty : LeftistHeap κ).size = 0 := rfl

@[simp] theorem size_node (spine : Nat) (key : κ) (left right : LeftistHeap κ) :
    (node spine key left right).size = left.size + right.size + 1 := rfl

theorem length_toList (heap : LeftistHeap κ) : heap.toList.length = heap.size := by
  induction heap with
  | empty => rfl
  | node spine key left right leftHypothesis rightHypothesis =>
      simp only [toList_node, List.length_append, List.length_singleton, leftHypothesis,
        rightHypothesis, size_node]
      omega

/-- The length of the right spine. -/
def spine : LeftistHeap κ → Nat
  | empty => 0
  | node spine _ _ _ => spine

/-- A key above two heaps, the one with the shorter right spine on the right. -/
def join (key : κ) (heap other : LeftistHeap κ) : LeftistHeap κ :=
  if other.spine ≤ heap.spine then node (other.spine + 1) key heap other
  else node (heap.spine + 1) key other heap

/-- A joined heap holds the key and the keys of both heaps. -/
theorem toList_join (key : κ) (heap other : LeftistHeap κ) :
    (join key heap other).toList.Perm (key :: (heap.toList ++ other.toList)) := by
  unfold join
  split
  · exact toList_node_perm ..
  · exact (toList_node_perm ..).trans (List.perm_append_comm.cons key)

/-- The heap of one key. -/
def singleton (key : κ) : LeftistHeap κ := node 1 key empty empty

@[simp] theorem toList_singleton (key : κ) : (singleton key).toList = [key] := rfl

/-- Merge a root and its left child with another heap, where `mergeRight` merges the right
child of that root and `whole` is the heap that all of these make up. -/
def mergeNode (before : κ → κ → Bool) (key : κ) (left : LeftistHeap κ)
    (mergeRight : LeftistHeap κ → LeftistHeap κ) (whole : LeftistHeap κ) :
    LeftistHeap κ → LeftistHeap κ
  | empty => whole
  | node otherSpine otherKey otherLeft otherRight =>
      if before otherKey key then
        join otherKey otherLeft (mergeNode before key left mergeRight whole otherRight)
      else
        join key left (mergeRight (node otherSpine otherKey otherLeft otherRight))

/-- Merge two heaps; of two keys in the same place the first heap's goes on top. -/
def merge (before : κ → κ → Bool) : LeftistHeap κ → LeftistHeap κ → LeftistHeap κ
  | empty, other => other
  | node spine key left right, other =>
      mergeNode before key left (merge before right) (node spine key left right) other

@[simp] theorem merge_empty_left (before : κ → κ → Bool) (heap : LeftistHeap κ) :
    merge before empty heap = heap := rfl

@[simp] theorem merge_empty_right (before : κ → κ → Bool) (heap : LeftistHeap κ) :
    merge before heap empty = heap := by
  cases heap <;> rfl

theorem merge_node_node (before : κ → κ → Bool) (spine otherSpine : Nat) (key otherKey : κ)
    (left right otherLeft otherRight : LeftistHeap κ) :
    merge before (node spine key left right) (node otherSpine otherKey otherLeft otherRight) =
      if before otherKey key then
        join otherKey otherLeft (merge before (node spine key left right) otherRight)
      else
        join key left (merge before right (node otherSpine otherKey otherLeft otherRight)) :=
  rfl

/-- A merge holds the keys of both heaps. -/
theorem toList_merge (before : κ → κ → Bool) (heap other : LeftistHeap κ) :
    (merge before heap other).toList.Perm (heap.toList ++ other.toList) := by
  induction heap generalizing other with
  | empty => simp
  | node spine key left right _ rightHypothesis =>
      induction other with
      | empty => simp
      | node otherSpine otherKey otherLeft otherRight _ otherHypothesis =>
          rw [merge_node_node]
          split
          · refine (toList_join ..).trans ?_
            refine ((otherHypothesis.append_left _).cons otherKey).trans ?_
            refine ((List.perm_append_comm_assoc ..).cons otherKey).trans ?_
            exact List.perm_middle.symm.trans ((toList_node_perm ..).symm.append_left _)
          · refine (toList_join ..).trans ?_
            refine (((rightHypothesis _).append_left _).cons key).trans ?_
            rw [← List.append_assoc, ← List.cons_append]
            exact (toList_node_perm ..).symm.append_right _

/-- A merge holds as many keys as both heaps. -/
@[simp] theorem size_merge (before : κ → κ → Bool) (heap other : LeftistHeap κ) :
    (merge before heap other).size = heap.size + other.size := by
  simpa [length_toList] using (toList_merge before heap other).length_eq

/-- Add a key. -/
def insert (before : κ → κ → Bool) (key : κ) (heap : LeftistHeap κ) : LeftistHeap κ :=
  merge before heap (singleton key)

@[simp] theorem size_insert (before : κ → κ → Bool) (key : κ) (heap : LeftistHeap κ) :
    (heap.insert before key).size = heap.size + 1 := by
  simp [insert, singleton]

/-- The key at the root. -/
def root? : LeftistHeap κ → Option κ
  | empty => none
  | node _ key _ _ => some key

@[simp] theorem root?_empty : (empty : LeftistHeap κ).root? = none := rfl

@[simp] theorem root?_node (spine : Nat) (key : κ) (left right : LeftistHeap κ) :
    (node spine key left right).root? = some key := rfl

/-- A heap without its root. -/
def tail (before : κ → κ → Bool) : LeftistHeap κ → LeftistHeap κ
  | empty => empty
  | node _ _ left right => merge before left right

@[simp] theorem tail_empty (before : κ → κ → Bool) :
    (empty : LeftistHeap κ).tail before = empty := rfl

@[simp] theorem tail_node (before : κ → κ → Bool) (spine : Nat) (key : κ)
    (left right : LeftistHeap κ) :
    (node spine key left right).tail before = merge before left right := rfl

@[simp] theorem size_tail (before : κ → κ → Bool) (heap : LeftistHeap κ) :
    (heap.tail before).size = heap.size - 1 := by
  cases heap <;> simp

theorem root?_eq_none_iff (heap : LeftistHeap κ) : heap.root? = none ↔ heap.size = 0 := by
  cases heap <;> simp

/-- Build a heap from keys. -/
def ofList (before : κ → κ → Bool) (keys : List κ) : LeftistHeap κ :=
  keys.foldl (fun heap key => heap.insert before key) empty

theorem size_foldl_insert (before : κ → κ → Bool) (keys : List κ) (heap : LeftistHeap κ) :
    (keys.foldl (fun grown key => grown.insert before key) heap).size =
      heap.size + keys.length := by
  induction keys generalizing heap with
  | nil => rfl
  | cons key rest inductionHypothesis =>
      simp only [List.foldl_cons, inductionHypothesis, size_insert, List.length_cons]
      omega

@[simp] theorem size_ofList (before : κ → κ → Bool) (keys : List κ) :
    (ofList before keys).size = keys.length := by
  simp [ofList, size_foldl_insert]

end LeftistHeap
end Agenda
