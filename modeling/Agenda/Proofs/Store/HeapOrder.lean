import Agenda.Store.KeyQueue

/-!
# The order kept by heaps and queues of keys

A heap is ordered when no key comes before a key above it.  Every operation on heaps keeps them
ordered, so the root of an ordered heap is one of its first keys.  A queue of keys inherits
this, and taking useless keys off its front loses no useful one.
-/

namespace Agenda

/-- The comparison never holds both ways, and failing to come before carries over. -/
structure WeakOrder {κ : Type} (before : κ → κ → Bool) : Prop where
  /-- Of two keys at most one comes before the other. -/
  asymm : ∀ key other, before key other = true → before other key = false
  /-- Not to come before is passed on along keys. -/
  trans : ∀ first second third,
    before second first = false → before third second = false → before third first = false

theorem WeakOrder.irrefl
    {κ : Type}
    {before : κ → κ → Bool}
    (order : WeakOrder before)
    (key : κ) :
    before key key = false := by
  cases selfBefore : before key key with
  | false => rfl
  | true => exact selfBefore.symm.trans (order.asymm key key selfBefore)

namespace LeftistHeap

variable {κ : Type} {before : κ → κ → Bool}

/-- No key comes before a key above it. -/
def Ordered (before : κ → κ → Bool) : LeftistHeap κ → Prop
  | empty => True
  | node _ key left right =>
      (∀ other ∈ left.toList, before other key = false) ∧
        (∀ other ∈ right.toList, before other key = false) ∧
        left.Ordered before ∧ right.Ordered before

@[simp] theorem ordered_empty : (empty : LeftistHeap κ).Ordered before := trivial

@[simp] theorem ordered_singleton (key : κ) : (singleton key).Ordered before := by
  simp [singleton, Ordered]

/-- A key may stand above two ordered heaps none of whose keys comes before it. -/
theorem ordered_join
    {key : κ}
    {heap other : LeftistHeap κ}
    (heapLater : ∀ below ∈ heap.toList, before below key = false)
    (otherLater : ∀ below ∈ other.toList, before below key = false)
    (heapOrdered : heap.Ordered before)
    (otherOrdered : other.Ordered before) :
    (join key heap other).Ordered before := by
  unfold join
  split
  · exact ⟨heapLater, otherLater, heapOrdered, otherOrdered⟩
  · exact ⟨otherLater, heapLater, otherOrdered, heapOrdered⟩

theorem mem_toList_merge (key : κ) (heap other : LeftistHeap κ) :
    key ∈ (merge before heap other).toList ↔ key ∈ heap.toList ∨ key ∈ other.toList := by
  rw [(toList_merge before heap other).mem_iff, List.mem_append]

theorem mem_toList_node (key root : κ) (spine : Nat) (left right : LeftistHeap κ) :
    key ∈ (node spine root left right).toList ↔
      key = root ∨ key ∈ left.toList ∨ key ∈ right.toList := by
  rw [(toList_node_perm ..).mem_iff, List.mem_cons, List.mem_append]

/-- The root of an ordered heap comes no later than any of its keys. -/
theorem Ordered.before_root
    {root key : κ}
    {spine : Nat}
    {left right : LeftistHeap κ}
    (order : WeakOrder before)
    (ordered : (node spine root left right).Ordered before)
    (present : key ∈ (node spine root left right).toList) :
    before key root = false := by
  rw [mem_toList_node] at present
  rcases present with equal | inLeft | inRight
  · subst equal
    exact order.irrefl key
  · exact ordered.1 key inLeft
  · exact ordered.2.1 key inRight

/-- Merging keeps heaps ordered. -/
theorem ordered_merge
    (order : WeakOrder before)
    {heap other : LeftistHeap κ}
    (heapOrdered : heap.Ordered before)
    (otherOrdered : other.Ordered before) :
    (merge before heap other).Ordered before := by
  induction heap generalizing other with
  | empty => simpa using otherOrdered
  | node spine key left right _ rightHypothesis =>
      induction other with
      | empty => simpa using heapOrdered
      | node otherSpine otherKey otherLeft otherRight _ otherHypothesis =>
          rw [merge_node_node]
          split
          next otherFirst =>
            have keyLater : before key otherKey = false :=
              order.asymm otherKey key otherFirst
            refine ordered_join otherOrdered.1 ?_ otherOrdered.2.2.1
              (otherHypothesis otherOrdered.2.2.2)
            intro below present
            rw [mem_toList_merge] at present
            rcases present with inHeap | inOther
            · exact order.trans _ _ _ keyLater (heapOrdered.before_root order inHeap)
            · exact otherOrdered.2.1 below inOther
          next otherLater =>
            have otherLater : before otherKey key = false := by simpa using otherLater
            refine ordered_join heapOrdered.1 ?_ heapOrdered.2.2.1
              (rightHypothesis heapOrdered.2.2.2 otherOrdered)
            intro below present
            rw [mem_toList_merge] at present
            rcases present with inRight | inOther
            · exact heapOrdered.2.1 below inRight
            · exact order.trans _ _ _ otherLater (otherOrdered.before_root order inOther)

theorem ordered_insert
    (order : WeakOrder before)
    (key : κ)
    {heap : LeftistHeap κ}
    (heapOrdered : heap.Ordered before) :
    (heap.insert before key).Ordered before :=
  ordered_merge order heapOrdered (ordered_singleton key)

theorem ordered_tail
    (order : WeakOrder before)
    {heap : LeftistHeap κ}
    (heapOrdered : heap.Ordered before) :
    (heap.tail before).Ordered before := by
  cases heap with
  | empty => trivial
  | node spine key left right => exact ordered_merge order heapOrdered.2.2.1 heapOrdered.2.2.2

theorem ordered_ofList
    (order : WeakOrder before)
    (keys : List κ) :
    (ofList before keys).Ordered before := by
  suffices grows : ∀ heap : LeftistHeap κ, heap.Ordered before →
      (keys.foldl (fun grown key => grown.insert before key) heap).Ordered before from
    grows empty ordered_empty
  induction keys with
  | nil => exact fun _ ordered => ordered
  | cons key rest inductionHypothesis =>
      exact fun _ ordered => inductionHypothesis _ (ordered_insert order key ordered)

/-- Inserting adds exactly one key. -/
theorem toList_insert (key : κ) (heap : LeftistHeap κ) :
    (heap.insert before key).toList.Perm (key :: heap.toList) := by
  refine (toList_merge ..).trans ?_
  rw [toList_singleton]
  exact List.perm_append_singleton key _

/-- Without its root a heap has lost exactly that key. -/
theorem toList_tail
    {key : κ}
    {heap : LeftistHeap κ}
    (hasRoot : heap.root? = some key) :
    heap.toList.Perm (key :: (heap.tail before).toList) := by
  cases heap with
  | empty => cases hasRoot
  | node spine root left right =>
      cases hasRoot
      exact (toList_node_perm ..).trans ((toList_merge ..).symm.cons _)

/-- A heap built from keys holds these keys. -/
theorem toList_ofList (keys : List κ) : (ofList before keys).toList.Perm keys := by
  suffices grows : ∀ heap : LeftistHeap κ,
      (keys.foldl (fun grown key => grown.insert before key) heap).toList.Perm
        (heap.toList ++ keys) from grows empty
  induction keys with
  | nil => simp
  | cons key rest inductionHypothesis =>
      intro heap
      refine (inductionHypothesis _).trans ?_
      exact ((toList_insert key heap).append_right rest).trans List.perm_middle.symm

/-- The root of an ordered heap is one of its first keys. -/
theorem Ordered.before_root?
    {key other : κ}
    {heap : LeftistHeap κ}
    (order : WeakOrder before)
    (ordered : heap.Ordered before)
    (hasRoot : heap.root? = some key)
    (present : other ∈ heap.toList) :
    before other key = false := by
  cases heap with
  | empty => cases hasRoot
  | node spine root left right =>
      cases hasRoot
      exact ordered.before_root order present

end LeftistHeap

namespace Key

theorem before_eq_false_iff (key other : Key) :
    key.before other = false ↔
      other.due < key.due ∨ other.due = key.due ∧ other.rank ≤ key.rank := by
  rw [← Bool.not_eq_true, before_iff, UInt64.lt_iff_toNat_lt, UInt64.le_iff_toNat_le]
  grind

/-- Keys compare as the pairs of their due instants and ranks do. -/
theorem weakOrder_before : WeakOrder before where
  asymm key other keyFirst := by
    rw [before_iff, UInt64.lt_iff_toNat_lt] at keyFirst
    rw [before_eq_false_iff, UInt64.le_iff_toNat_le]
    grind
  trans first second third secondLater thirdLater := by
    rw [before_eq_false_iff, UInt64.le_iff_toNat_le] at secondLater thirdLater ⊢
    grind

end Key

namespace KeyQueue

/-- The heap of a queue is ordered. -/
def Ordered (queue : KeyQueue) : Prop := queue.heap.Ordered Key.before

@[simp] theorem toList_empty : empty.toList = [] := rfl

@[simp] theorem ordered_empty : empty.Ordered := trivial

theorem mem_toList_insert (queue : KeyQueue) (key other : Key) :
    other ∈ (queue.insert key).toList ↔ other = key ∨ other ∈ queue.toList := by
  rw [toList, insert, (LeftistHeap.toList_insert key queue.heap).mem_iff, List.mem_cons,
    toList]

theorem mem_toList_filter (keep : Key → Bool) (queue : KeyQueue) (key : Key) :
    key ∈ (queue.filter keep).toList ↔ key ∈ queue.toList ∧ keep key = true := by
  rw [toList, filter, (LeftistHeap.toList_ofList _).mem_iff, List.mem_filter, toList]

theorem Ordered.insert
    {queue : KeyQueue}
    (ordered : queue.Ordered)
    (key : Key) :
    (queue.insert key).Ordered :=
  LeftistHeap.ordered_insert Key.weakOrder_before key ordered

theorem ordered_filter (keep : Key → Bool) (queue : KeyQueue) : (queue.filter keep).Ordered :=
  LeftistHeap.ordered_ofList Key.weakOrder_before _

theorem Ordered.tail
    {queue : KeyQueue}
    (ordered : queue.Ordered) :
    queue.tail.Ordered :=
  LeftistHeap.ordered_tail Key.weakOrder_before ordered

/-- Without its first key a queue has lost exactly that key. -/
theorem toList_tail
    {queue : KeyQueue}
    {key : Key}
    (hasFirst : queue.first? = some key) :
    queue.toList.Perm (key :: queue.tail.toList) :=
  LeftistHeap.toList_tail hasFirst

/-- The first key of an ordered queue comes no later than any other. -/
theorem Ordered.before_first?
    {queue : KeyQueue}
    {key other : Key}
    (ordered : queue.Ordered)
    (hasFirst : queue.first? = some key)
    (present : other ∈ queue.toList) :
    other.before key = false :=
  LeftistHeap.Ordered.before_root? Key.weakOrder_before ordered hasFirst present

theorem mem_toList_of_first?
    {queue : KeyQueue}
    {key : Key}
    (hasFirst : queue.first? = some key) :
    key ∈ queue.toList := by
  rw [(toList_tail hasFirst).mem_iff]
  exact List.mem_cons_self

theorem toList_eq_nil_of_first?
    {queue : KeyQueue}
    (noFirst : queue.first? = none) :
    queue.toList = [] := by
  rw [← List.length_eq_zero_iff, length_toList, queue.size_eq]
  exact (LeftistHeap.root?_eq_none_iff queue.heap).mp noFirst

section DropWhile

variable {useless : Key → Bool}

/-- Dropping from the front keeps the order. -/
theorem Ordered.dropWhile
    {queue : KeyQueue}
    (ordered : queue.Ordered) :
    (queue.dropWhile useless).Ordered := by
  fun_induction KeyQueue.dropWhile useless queue with
  | case1 queue _ => exact ordered
  | case2 queue key _ _ inductionHypothesis => exact inductionHypothesis ordered.tail
  | case3 queue key _ _ => exact ordered

/-- Only keys of the queue are left. -/
theorem mem_of_mem_dropWhile
    {queue : KeyQueue}
    {key : Key}
    (present : key ∈ (queue.dropWhile useless).toList) :
    key ∈ queue.toList := by
  fun_induction KeyQueue.dropWhile useless queue with
  | case1 queue _ => exact present
  | case2 queue first hasFirst _ inductionHypothesis =>
      rw [(toList_tail hasFirst).mem_iff]
      exact List.mem_cons_of_mem _ (inductionHypothesis present)
  | case3 queue first _ _ => exact present

/-- No useful key is dropped. -/
theorem mem_dropWhile
    {queue : KeyQueue}
    {key : Key}
    (present : key ∈ queue.toList)
    (useful : useless key = false) :
    key ∈ (queue.dropWhile useless).toList := by
  fun_induction KeyQueue.dropWhile useless queue with
  | case1 queue _ => exact present
  | case2 queue first hasFirst firstUseless inductionHypothesis =>
      rw [(toList_tail hasFirst).mem_iff, List.mem_cons] at present
      rcases present with equal | inTail
      · subst equal
        rw [useful] at firstUseless
        cases firstUseless
      · exact inductionHypothesis inTail
  | case3 queue first _ _ => exact present

/-- What is left begins with a useful key. -/
theorem first?_dropWhile
    {queue : KeyQueue}
    {key : Key}
    (hasFirst : (queue.dropWhile useless).first? = some key) :
    useless key = false := by
  fun_induction KeyQueue.dropWhile useless queue with
  | case1 queue noFirst =>
      rw [noFirst] at hasFirst
      cases hasFirst
  | case2 queue first _ _ inductionHypothesis => exact inductionHypothesis hasFirst
  | case3 queue first isFirst firstUseful =>
      rw [isFirst] at hasFirst
      cases hasFirst
      simpa using firstUseful

end DropWhile

end KeyQueue
end Agenda
