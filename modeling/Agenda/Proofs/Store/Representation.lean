import Agenda.Proofs.Store.HeapOrder
import Agenda.Proofs.Store.Slots

/-!
# Stores that represent ledgers

A store represents a ledger when its slots hold the live entries and its queue has a key for
each of them and only keys of entries that were taken at some time.  Every operation of a store
does to the ledger that it represents what its name says, for any length of history.  As long as
the history is within bounds, the first key of a live entry belongs to the earliest entry.
-/

namespace Agenda

variable {α : Type}

theorem Entry.key_before_eq_false_iff
    {entry other : Entry α}
    (entry_lt : entry.order < 2 ^ 64)
    (other_lt : other.order < 2 ^ 64) :
    other.key.before entry.key = false ↔
      entry.due < other.due ∨ entry.due = other.due ∧ entry.order ≤ other.order := by
  rw [Key.before_eq_false_iff]
  simp only [Entry.key, UInt64.ofNat_le_iff_le entry_lt other_lt]

/-! ## Queues and ledgers -/

/-- The keys of a queue belong to entries that were taken, and no live entry lacks its key. -/
structure KeyQueue.Serves (queue : KeyQueue) (ledger : Ledger α) : Prop where
  /-- The queue is ordered. -/
  ordered : queue.Ordered
  /-- Every live entry has its key in the queue. -/
  live_key : ∀ entry ∈ ledger.live, entry.key ∈ queue.toList
  /-- Every key in the queue is the key of an entry. -/
  key_issued : ∀ key ∈ queue.toList, ∃ entry ∈ ledger.issued, entry.key = key

namespace KeyQueue

variable {queue : KeyQueue} {ledger : Ledger α}

theorem serves_empty (noneLive : ledger.live = []) : empty.Serves ledger where
  ordered := ordered_empty
  live_key entry present := by
    rw [noneLive] at present
    cases present
  key_issued key present := by cases present

theorem Serves.insert
    (serves : queue.Serves ledger)
    (handle : SlotHandle)
    (due : Instant)
    (value : α) :
    (queue.insert (ledger.newEntry handle due value).key).Serves
      (ledger.add handle due value) where
  ordered := serves.ordered.insert _
  live_key entry present := by
    rw [Ledger.live_add, List.mem_append, List.mem_singleton] at present
    rw [mem_toList_insert]
    rcases present with old | rfl
    · exact Or.inr (serves.live_key entry old)
    · exact Or.inl rfl
  key_issued key present := by
    rw [mem_toList_insert] at present
    rw [Ledger.issued_add]
    rcases present with rfl | old
    · exact ⟨_, List.mem_append_right _ List.mem_cons_self, rfl⟩
    · obtain ⟨entry, issued, key_eq⟩ := serves.key_issued key old
      exact ⟨entry, List.mem_append_left _ issued, key_eq⟩

/-- Departures leave stale keys behind and harm nothing else. -/
theorem Serves.departWhere
    (serves : queue.Serves ledger)
    (leaves : Entry α → Bool) :
    queue.Serves (ledger.departWhere leaves) where
  ordered := serves.ordered
  live_key entry present :=
    serves.live_key entry ((ledger.mem_live_departWhere leaves entry).mp present).1
  key_issued key present := by
    obtain ⟨entry, issued, key_eq⟩ := serves.key_issued key present
    exact ⟨entry, (ledger.issued_departWhere leaves).mem_iff.mpr issued, key_eq⟩

theorem Serves.filter
    (serves : queue.Serves ledger)
    {keep : Key → Bool}
    (keeps : ∀ entry ∈ ledger.live, keep entry.key = true) :
    (queue.filter keep).Serves ledger where
  ordered := ordered_filter keep queue
  live_key entry present :=
    (mem_toList_filter keep queue _).mpr ⟨serves.live_key entry present, keeps entry present⟩
  key_issued key present := serves.key_issued key ((mem_toList_filter keep queue key).mp present).1

theorem Serves.dropWhile
    (serves : queue.Serves ledger)
    {useless : Key → Bool}
    (useful : ∀ entry ∈ ledger.live, useless entry.key = false) :
    (queue.dropWhile useless).Serves ledger where
  ordered := serves.ordered.dropWhile
  live_key entry present := mem_dropWhile (serves.live_key entry present) (useful entry present)
  key_issued key present := serves.key_issued key (mem_of_mem_dropWhile present)

/-- The first key of a queue, if its handle is that of a live entry, is the key of the earliest
entry. -/
theorem Serves.isEarliest_of_first?
    (serves : queue.Serves ledger)
    (coherent : ledger.Coherent)
    (legible : ledger.Legible)
    {key : Key}
    (hasFirst : queue.first? = some key)
    {entry : Entry α}
    (present : entry ∈ ledger.live)
    (sameHandle : entry.handle = key.handle) :
    ledger.IsEarliest entry ∧ entry.key = key := by
  obtain ⟨taken, issued, key_eq⟩ := serves.key_issued key (mem_toList_of_first? hasFirst)
  have sameEntry : taken = entry := by
    refine legible.eq_of_handle_eq taken issued entry present ?_
    rw [sameHandle, ← key_eq, Entry.handle_key]
  rw [sameEntry] at key_eq
  refine ⟨⟨present, fun other otherLive => ?_⟩, key_eq⟩
  have order_lt : ∀ member ∈ ledger.live, member.order < 2 ^ 64 := fun member memberLive =>
    Nat.lt_trans (coherent.order_lt member (Ledger.mem_issued_of_live memberLive))
      legible.inserted_lt
  have notBefore := serves.ordered.before_first? hasFirst (serves.live_key other otherLive)
  rw [← key_eq, Entry.key_before_eq_false_iff (order_lt entry present) (order_lt other otherLive)]
    at notBefore
  rcases notBefore with earlier | ⟨sameDue, order_le⟩
  · exact Or.inr (Or.inl earlier)
  · rcases Nat.lt_or_eq_of_le order_le with earlier | sameOrder
    · exact Or.inr (Or.inr ⟨sameDue, earlier⟩)
    · exact Or.inl (coherent.eq_of_order_eq (Ledger.mem_issued_of_live otherLive)
        (Ledger.mem_issued_of_live present) sameOrder.symm)

end KeyQueue

/-! ## Stores and ledgers -/

namespace SlotStore

/-- The slots hold the live entries, the queue serves them, and the count of insertions and the
limit are respected. -/
structure Represents (store : SlotStore α) (ledger : Ledger α) : Prop where
  /-- The slots hold the live entries. -/
  holds : store.Holds ledger
  /-- The queue has the keys of the live entries. -/
  serves : store.queue.Serves ledger
  /-- Insertions are counted, round a 64-bit number. -/
  nextRank_eq : store.nextRank = UInt64.ofNat ledger.inserted
  /-- There are no more entries than allowed. -/
  size_le : ∀ limit, store.limit = some limit → store.size ≤ limit

theorem represents_empty (limit : Option Nat) : (empty limit : SlotStore α).Represents .empty where
  holds := holds_empty limit
  serves := KeyQueue.serves_empty rfl
  nextRank_eq := rfl
  size_le _ _ := Nat.zero_le _

/-! ### Insertion -/

theorem insert_of_isFull
    {store : SlotStore α}
    (full : store.isFull = true)
    (due : Instant)
    (value : α) :
    store.insert due value = (.error ⟨value, .limitReached⟩, store) := by
  rw [insert, if_pos full]

theorem insert_of_not_isFull
    {store : SlotStore α}
    (room : store.isFull = false)
    (due : Instant)
    (value : α) :
    store.insert due value =
      (.ok (store.occupy value).1,
        (store.occupy value).2.enqueue due (store.occupy value).1) := by
  rw [insert, if_neg (by simp [room])]

/-- A removal that finds nothing changes nothing. -/
theorem of_remove_eq_none
    {store next : SlotStore α}
    {handle : SlotHandle}
    (removed : store.remove handle = (none, next)) :
    store.get? handle = none ∧ next = store := by
  unfold remove at removed
  split at removed
  next unnamed =>
    cases removed
    exact ⟨unnamed, rfl⟩
  next => cases removed

namespace Represents

variable {store next : SlotStore α} {ledger : Ledger α}

/-- A store is full exactly if it holds as many entries as its limit allows. -/
theorem isFull_iff (represents : store.Represents ledger) :
    store.isFull = true ↔ store.limit = some ledger.live.length := by
  rw [← represents.holds.size_eq, isFull]
  cases hasLimit : store.limit with
  | none => simp
  | some limit =>
      have size_le := represents.size_le limit hasLimit
      simp only [decide_eq_true_eq, Option.some.injEq]
      omega

/-- An insertion that succeeds adds an entry. -/
theorem of_insert_ok
    (represents : store.Represents ledger)
    {due : Instant}
    {value : α}
    {handle : SlotHandle}
    (inserted : store.insert due value = (.ok handle, next)) :
    next.Represents (ledger.add handle due value) := by
  cases room : store.isFull with
  | true =>
      rw [insert_of_isFull room] at inserted
      cases inserted
  | false =>
      rw [insert_of_not_isFull room] at inserted
      cases inserted
      refine ⟨(represents.holds.occupy due value).of_slots_eq rfl rfl rfl, ?_, ?_, ?_⟩
      · have served := represents.serves.insert (store.occupy value).1 due value
        rwa [Entry.key, Ledger.newEntry, ← represents.nextRank_eq, ← queue_occupy store value,
          ← nextRank_occupy store value] at served
      · rw [Ledger.inserted_add, UInt64.ofNat_add, ← represents.nextRank_eq, enqueue,
          nextRank_occupy]
        rfl
      · intro limit hasLimit
        rw [enqueue] at hasLimit ⊢
        rw [limit_occupy] at hasLimit
        rw [isFull, hasLimit, decide_eq_false_iff_not] at room
        rw [size_occupy]
        omega

/-- An insertion that fails gives the value back and changes nothing, and it fails because the
store is full. -/
theorem of_insert_error
    (represents : store.Represents ledger)
    {due : Instant}
    {value : α}
    {refused : Refused α}
    (inserted : store.insert due value = (.error refused, next)) :
    store.limit = some ledger.live.length ∧ refused = ⟨value, .limitReached⟩ ∧ next = store := by
  cases full : store.isFull with
  | true =>
      rw [insert_of_isFull full] at inserted
      cases inserted
      exact ⟨represents.isFull_iff.mp full, rfl, rfl⟩
  | false =>
      rw [insert_of_not_isFull full] at inserted
      cases inserted

/-! ### Looking at the earliest entry -/

theorem contains_of_live
    (represents : store.Represents ledger)
    {entry : Entry α}
    (present : entry ∈ ledger.live) :
    store.contains entry.handle = true :=
  (represents.holds.contains_iff _).mpr ⟨entry, present, rfl⟩

/-- Looking at the earliest entry changes nothing but the queue. -/
theorem peek (represents : store.Represents ledger) : store.peek.2.Represents ledger where
  holds := represents.holds.of_slots_eq rfl rfl rfl
  serves := represents.serves.dropWhile fun entry present => by
    rw [Entry.handle_key, represents.contains_of_live present]
    rfl
  nextRank_eq := represents.nextRank_eq
  size_le := represents.size_le

theorem of_peek
    (represents : store.Represents ledger)
    {found : Option (SlotHandle × Instant)}
    (peeked : store.peek = (found, next)) :
    next.Represents ledger := by
  have looked := represents.peek
  rwa [peeked] at looked

theorem exists_live_of_peek
    (represents : store.Represents ledger)
    {handle : SlotHandle}
    {due : Instant}
    (found : store.peek.1 = some (handle, due)) :
    ∃ key, store.peek.2.queue.first? = some key ∧ key.handle = handle ∧ key.due = due ∧
      ∃ entry ∈ ledger.live, entry.handle = handle := by
  obtain ⟨key, hasFirst, pair_eq⟩ := Option.map_eq_some_iff.mp found
  cases pair_eq
  have useful := KeyQueue.first?_dropWhile hasFirst
  rw [Bool.not_eq_false'] at useful
  exact ⟨key, hasFirst, rfl, rfl, (represents.holds.contains_iff _).mp useful⟩

/-- A store has no earliest entry exactly if it has no entry. -/
theorem peek_eq_none_iff (represents : store.Represents ledger) :
    store.peek.1 = none ↔ ledger.live = [] := by
  constructor
  · intro noneFound
    have noFirst : store.peek.2.queue.first? = none := Option.map_eq_none_iff.mp noneFound
    have noKeys := KeyQueue.toList_eq_nil_of_first? noFirst
    refine List.eq_nil_iff_forall_not_mem.mpr fun entry present => ?_
    have hasKey := represents.peek.serves.live_key entry present
    rw [noKeys] at hasKey
    cases hasKey
  · intro noneLive
    cases found : store.peek.1 with
    | none => rfl
    | some pair =>
        obtain ⟨_, _, _, _, entry, present, _⟩ := represents.exists_live_of_peek found
        rw [noneLive] at present
        cases present

/-- What a store shows is its earliest entry if its ledger is legible. -/
theorem isEarliest_of_peek_of_legible
    (represents : store.Represents ledger)
    (legible : ledger.Legible)
    {handle : SlotHandle}
    {due : Instant}
    (found : store.peek.1 = some (handle, due)) :
    ∃ entry, ledger.IsEarliest entry ∧ entry.handle = handle ∧ entry.due = due := by
  obtain ⟨key, hasFirst, rfl, rfl, entry, present, sameHandle⟩ :=
    represents.exists_live_of_peek found
  obtain ⟨earliest, key_eq⟩ :=
    represents.peek.serves.isEarliest_of_first? represents.holds.coherent legible hasFirst present
      sameHandle
  exact ⟨entry, earliest, sameHandle, key_eq ▸ rfl⟩

/-- Within bounds, what a store shows is its earliest entry. -/
theorem isEarliest_of_peek
    (represents : store.Represents ledger)
    (bounds : ledger.WithinBounds)
    {handle : SlotHandle}
    {due : Instant}
    (found : store.peek.1 = some (handle, due)) :
    ∃ entry, ledger.IsEarliest entry ∧ entry.handle = handle ∧ entry.due = due :=
  represents.isEarliest_of_peek_of_legible (represents.holds.coherent.legible bounds) found

/-! ### Taking entries out -/

/-- Dropping stale keys changes nothing but the queue. -/
theorem compact (represents : store.Represents ledger) : store.compact.Represents ledger := by
  unfold SlotStore.compact
  split
  · exact
      { holds := represents.holds.of_slots_eq rfl rfl rfl
        serves := represents.serves.filter fun entry present =>
          represents.contains_of_live present
        nextRank_eq := represents.nextRank_eq
        size_le := represents.size_le }
  · exact represents

theorem vacate
    (represents : store.Represents ledger)
    {entry : Entry α}
    (present : entry ∈ ledger.live) :
    (store.vacate entry.handle.slot).Represents (ledger.erase entry.handle) where
  holds := represents.holds.vacate present
  serves := represents.serves.departWhere _
  nextRank_eq := by
    rw [Ledger.erase, Ledger.inserted_departWhere]
    exact represents.nextRank_eq
  size_le limit hasLimit := Nat.le_trans (Nat.sub_le _ _) (represents.size_le limit hasLimit)

/-- Taking out what a handle names lets its entry go. -/
theorem of_remove_some
    (represents : store.Represents ledger)
    {handle : SlotHandle}
    {value : α}
    (removed : store.remove handle = (some value, next)) :
    ∃ entry ∈ ledger.live, entry.handle = handle ∧ entry.value = value ∧
      next.Represents (ledger.erase handle) := by
  unfold SlotStore.remove at removed
  split at removed
  next => cases removed
  next taken named =>
    cases removed
    obtain ⟨entry, present, rfl, value_eq⟩ :=
      (represents.holds.get?_eq_some_iff handle value).mp named
    exact ⟨entry, present, rfl, value_eq, (represents.vacate present).compact⟩

/-- What is in the store can be taken out. -/
theorem exists_remove_of_live
    (represents : store.Represents ledger)
    {entry : Entry α}
    (present : entry ∈ ledger.live) :
    ∃ next, store.remove entry.handle = (some entry.value, next) ∧
      next.Represents (ledger.erase entry.handle) := by
  have named := (represents.holds.get?_eq_some_iff entry.handle entry.value).mpr
    ⟨entry, present, rfl, rfl⟩
  exact ⟨_, by rw [SlotStore.remove, named], (represents.vacate present).compact⟩

/-- Where a handle names nothing, nothing is changed. -/
theorem of_remove_none
    (represents : store.Represents ledger)
    {handle : SlotHandle}
    (removed : store.remove handle = (none, next)) :
    (∀ entry ∈ ledger.live, entry.handle ≠ handle) ∧ next = store := by
  obtain ⟨unnamed, same⟩ := of_remove_eq_none removed
  refine ⟨fun entry present sameHandle => ?_, same⟩
  have named := (represents.holds.get?_eq_some_iff handle entry.value).mpr
    ⟨entry, present, sameHandle, rfl⟩
  rw [unnamed] at named
  cases named

end Represents

@[simp] theorem nextRank_foldl_vacate (indices : List Nat) (store : SlotStore α) :
    (indices.foldl vacate store).nextRank = store.nextRank := by
  induction indices generalizing store with
  | nil => rfl
  | cons index rest inductionHypothesis => exact inductionHypothesis (store.vacate index)

@[simp] theorem limit_foldl_vacate (indices : List Nat) (store : SlotStore α) :
    (indices.foldl vacate store).limit = store.limit := by
  induction indices generalizing store with
  | nil => rfl
  | cons index rest inductionHypothesis => exact inductionHypothesis (store.vacate index)

/-- Taking everything out lets every entry go. -/
theorem Represents.removeAll
    {store : SlotStore α}
    {ledger : Ledger α}
    (represents : store.Represents ledger) :
    store.removeAll.2.Represents ledger.clear where
  holds := represents.holds.vacateAll.of_slots_eq rfl rfl rfl
  serves := KeyQueue.serves_empty ledger.live_clear
  nextRank_eq := by
    rw [Ledger.clear, Ledger.inserted_departWhere, ← represents.nextRank_eq]
    exact nextRank_foldl_vacate _ _
  size_le limit _ := by
    have size_eq := represents.holds.vacateAll.size_eq
    rw [Ledger.live_clear, List.length_nil] at size_eq
    exact Nat.le_trans (Nat.le_of_eq size_eq) (Nat.zero_le limit)

/-! ## The limit never changes -/

@[simp] theorem limit_insert (store : SlotStore α) (due : Instant) (value : α) :
    (store.insert due value).2.limit = store.limit := by
  cases room : store.isFull with
  | true => rw [insert_of_isFull room]
  | false =>
      rw [insert_of_not_isFull room]
      exact limit_occupy store value

@[simp] theorem limit_peek (store : SlotStore α) : store.peek.2.limit = store.limit := rfl

@[simp] theorem limit_remove (store : SlotStore α) (handle : SlotHandle) :
    (store.remove handle).2.limit = store.limit := by
  unfold remove compact
  split
  · rfl
  · split <;> rfl

@[simp] theorem limit_removeAll (store : SlotStore α) :
    store.removeAll.2.limit = store.limit :=
  limit_foldl_vacate _ _

end SlotStore
end Agenda
