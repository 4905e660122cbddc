import Agenda.Proofs.Store.StaleHandles

/-!
# How large a store grows

A slot is made only where none is free, so there are as many slots as there have been entries at
one time.  The keys of entries that have left stay in the queue for a while.  A removal drops all of
them once they outnumber the others in a long queue, and insertions add none, so at no time are
there more of them than entries, or than a fixed number where there are few entries.

The bound on the queue rests on handles: as long as no slot has been emptied 2^32 times, no two keys
have the same one, and the keys that are not stale are one for each entry.
-/

namespace Agenda

variable {α : Type}

/-! ## Keys with different handles -/

namespace KeyQueue

/-- No two keys of a queue have the same handle. -/
def Distinct (queue : KeyQueue) : Prop := (queue.toList.map Key.handle).Nodup

theorem distinct_empty : empty.Distinct := List.nodup_nil

theorem Distinct.insert
    {queue : KeyQueue}
    (distinct : queue.Distinct)
    {key : Key}
    (fresh : ∀ other ∈ queue.toList, other.handle ≠ key.handle) :
    (queue.insert key).Distinct := by
  have isPerm : (queue.insert key).toList.Perm (key :: queue.toList) :=
    LeftistHeap.toList_insert key queue.heap
  rw [Distinct, (isPerm.map Key.handle).nodup_iff, List.map_cons, List.nodup_cons]
  refine ⟨?_, distinct⟩
  rw [List.mem_map]
  rintro ⟨other, present, sameHandle⟩
  exact fresh other present sameHandle

/-- The keys that pass a test are those of the filtered queue. -/
theorem toList_filter (keep : Key → Bool) (queue : KeyQueue) :
    (queue.filter keep).toList.Perm (queue.toList.filter keep) :=
  LeftistHeap.toList_ofList _

theorem Distinct.filter
    {queue : KeyQueue}
    (distinct : queue.Distinct)
    (keep : Key → Bool) :
    (queue.filter keep).Distinct := by
  rw [Distinct, ((toList_filter keep queue).map Key.handle).nodup_iff]
  exact distinct.sublist (List.filter_sublist.map _)

theorem Distinct.tail
    {queue : KeyQueue}
    (distinct : queue.Distinct)
    {key : Key}
    (hasFirst : queue.first? = some key) :
    queue.tail.Distinct := by
  rw [Distinct, ((toList_tail hasFirst).map Key.handle).nodup_iff, List.map_cons] at distinct
  exact distinct.of_cons

theorem Distinct.dropWhile
    {queue : KeyQueue}
    (distinct : queue.Distinct)
    (useless : Key → Bool) :
    (queue.dropWhile useless).Distinct := by
  fun_induction KeyQueue.dropWhile useless queue with
  | case1 queue _ => exact distinct
  | case2 queue key hasFirst _ inductionHypothesis =>
      exact inductionHypothesis (distinct.tail hasFirst)
  | case3 queue key _ _ => exact distinct

theorem size_dropWhile_le (useless : Key → Bool) (queue : KeyQueue) :
    (queue.dropWhile useless).size ≤ queue.size := by
  fun_induction KeyQueue.dropWhile useless queue with
  | case1 queue _ => exact Nat.le_refl _
  | case2 queue key _ _ inductionHypothesis =>
      exact Nat.le_trans inductionHypothesis (Nat.sub_le _ _)
  | case3 queue key _ _ => exact Nat.le_refl _

end KeyQueue

open StoreCall

namespace SlotStore

variable {store : SlotStore α} {ledger : Ledger α}

/-! ## Slots -/

/-- Every slot is free or occupied, and none is both. -/
theorem FreeListExact.slots_perm (exact : store.FreeListExact) :
    (store.free ++ store.occupiedSlots).Perm (List.range store.slots.size) := by
  rw [List.perm_ext_iff_of_nodup ?_ List.nodup_range]
  · intro index
    rw [List.mem_append, exact.mem_iff, mem_occupiedSlots, List.mem_range]
    constructor
    · rintro (⟨inRange, -⟩ | ⟨value, occupied⟩)
      · exact inRange
      · exact lt_size_of_contentAt occupied
    · intro inRange
      cases content : store.contentAt index with
      | none => exact Or.inl ⟨inRange, rfl⟩
      | some value => exact Or.inr ⟨value, rfl⟩
  · rw [List.nodup_append]
    refine ⟨exact.nodup, store.occupiedSlots_nodup, ?_⟩
    rintro index isFree other isOccupied rfl
    obtain ⟨value, occupied⟩ := (store.mem_occupiedSlots index).mp isOccupied
    rw [((exact.mem_iff index).mp isFree).2] at occupied
    cases occupied

/-- The free slots and the entries are as many as the slots. -/
theorem Holds.length_free_add_size (holds : store.Holds ledger) :
    store.free.length + store.size = store.slots.size := by
  have counted := holds.freeList.slots_perm.length_eq
  rwa [List.length_append, List.length_range, ← holds.slots_perm_occupiedSlots.length_eq,
    List.length_map, ← holds.size_eq] at counted

theorem size_slots_foldl_vacate (indices : List Nat) (store : SlotStore α) :
    (indices.foldl vacate store).slots.size = store.slots.size := by
  induction indices generalizing store with
  | nil => rfl
  | cons index rest inductionHypothesis =>
      rw [List.foldl_cons, inductionHypothesis, size_slots_vacate]

theorem slots_compact (store : SlotStore α) : store.compact.slots = store.slots := by
  unfold compact
  split <;> rfl

/-- A slot is made only by an insertion, and only where none is free. -/
theorem size_slots_answer (store : SlotStore α) (call : StoreCall α) :
    (call.answer store).2.slots.size = store.slots.size ∨
      store.free = [] ∧ (call.answer store).2.slots.size = store.slots.size + 1 ∧
        (call.answer store).2.size = store.size + 1 := by
  cases call with
  | insert due value =>
      change (store.insert due value).2.slots.size = _ ∨ store.free = [] ∧
        (store.insert due value).2.slots.size = _ ∧ (store.insert due value).2.size = _
      cases room : store.isFull with
      | true =>
          rw [insert_of_isFull room]
          exact Or.inl rfl
      | false =>
          rw [insert_of_not_isFull room]
          dsimp only [enqueue]
          cases freeList : store.free with
          | nil =>
              refine Or.inr ⟨rfl, ?_, size_occupy store value⟩
              rw [occupy, freeList]
              exact Array.size_push _
          | cons index others =>
              left
              rw [occupy, freeList]
              exact Array.size_setIfInBounds
  | peek | contains | size | isEmpty => exact Or.inl rfl
  | remove handle =>
      left
      change (store.remove handle).2.slots.size = _
      unfold remove
      split
      · rfl
      · rw [slots_compact, size_slots_vacate]
  | removeAll =>
      left
      exact size_slots_foldl_vacate _ _

/-- The most entries that a store holds before, between and after calls. -/
def peakSize : List (StoreCall α) → SlotStore α → Nat
  | [], store => store.size
  | call :: calls, store => max store.size (peakSize calls (call.answer store).2)

theorem size_le_peakSize (calls : List (StoreCall α)) (store : SlotStore α) :
    store.size ≤ peakSize calls store := by
  cases calls with
  | nil => exact Nat.le_refl _
  | cons call calls => exact Nat.le_max_left _ _

theorem size_after_le_peakSize (calls : List (StoreCall α)) (store : SlotStore α) :
    (after calls store).size ≤ peakSize calls store := by
  induction calls generalizing store with
  | nil => exact Nat.le_refl _
  | cons call calls inductionHypothesis =>
      exact Nat.le_trans (inductionHypothesis _) (Nat.le_max_right _ _)

/-- There are as many slots as there were, or as many as there have been entries since. -/
theorem size_slots_after
    (represents : store.Represents ledger)
    (calls : List (StoreCall α)) :
    (after calls store).slots.size = max store.slots.size (peakSize calls store) := by
  induction calls generalizing store ledger with
  | nil =>
      have counted := represents.holds.length_free_add_size
      rw [after_nil, peakSize]
      omega
  | cons call calls inductionHypothesis =>
      obtain ⟨next, follows⟩ := exists_follows represents call
      have counted := represents.holds.length_free_add_size
      have countedNext := follows.represents.holds.length_free_add_size
      have size_le := size_le_peakSize calls (call.answer store).2
      rw [after_cons, inductionHypothesis follows.represents, peakSize]
      rcases store.size_slots_answer call with sameSlots | ⟨noneFree, oneMore, entered⟩
      · omega
      · rw [noneFree, List.length_nil] at counted
        omega

/-! ## Stale keys -/

/-- The keys of entries that have left. -/
def staleKeys (store : SlotStore α) : List Key :=
  store.queue.toList.filter fun key => !store.contains key.handle

/-- There are many keys, and more stale ones than others. -/
def IsCrowded (store : SlotStore α) : Prop :=
  compactionThreshold < store.queue.size ∧ 2 * store.size < store.queue.size

instance (store : SlotStore α) : Decidable store.IsCrowded :=
  inferInstanceAs (Decidable (_ ∧ _))

/-- The keys that are not stale are one for each entry. -/
theorem Represents.countP_contains
    (represents : store.Represents ledger)
    (distinct : store.queue.Distinct) :
    store.queue.toList.countP (fun key => store.contains key.handle) = store.size := by
  let known := store.queue.toList.filter fun key => store.contains key.handle
  have handles_perm : (known.map Key.handle).Perm (ledger.live.map Entry.handle) := by
    have knownNodup : (known.map Key.handle).Nodup :=
      distinct.sublist (List.filter_sublist.map _)
    have liveNodup : (ledger.live.map Entry.handle).Nodup := by
      refine List.Nodup.of_map SlotHandle.slot ?_
      rw [List.map_map]
      exact represents.holds.coherent.slot_nodup
    rw [List.perm_ext_iff_of_nodup knownNodup liveNodup]
    intro handle
    simp only [List.mem_map, known, List.mem_filter]
    constructor
    · rintro ⟨key, ⟨-, isKnown⟩, rfl⟩
      exact (represents.holds.contains_iff _).mp isKnown
    · rintro ⟨entry, present, rfl⟩
      exact ⟨entry.key,
        ⟨represents.serves.live_key entry present, represents.contains_of_live present⟩, rfl⟩
  rw [List.countP_eq_length_filter, represents.holds.size_eq]
  simpa using handles_perm.length_eq

theorem Represents.size_add_length_staleKeys
    (represents : store.Represents ledger)
    (distinct : store.queue.Distinct) :
    store.size + store.staleKeys.length = store.queue.size := by
  rw [← represents.countP_contains distinct, ← store.queue.length_toList, staleKeys,
    ← List.countP_eq_length_filter,
    List.length_eq_countP_add_countP fun key => store.contains key.handle]
  simp

theorem compact_of_isCrowded (crowded : store.IsCrowded) :
    store.compact =
      { store with queue := store.queue.filter fun key => store.contains key.handle } :=
  if_pos crowded

theorem compact_of_not_isCrowded (notCrowded : ¬ store.IsCrowded) : store.compact = store :=
  if_neg notCrowded

/-- Dropping the stale keys leaves one key for each entry. -/
theorem Represents.size_queue_compact
    (represents : store.Represents ledger)
    (distinct : store.queue.Distinct)
    (crowded : store.IsCrowded) :
    store.compact.queue.size = store.compact.size := by
  rw [compact_of_isCrowded crowded, ← KeyQueue.length_toList,
    (KeyQueue.toList_filter _ _).length_eq, ← List.countP_eq_length_filter]
  exact represents.countP_contains distinct

/-- No two keys have the same handle, and few of them are stale. -/
structure Slim (store : SlotStore α) : Prop where
  /-- Keys have different handles. -/
  distinct : store.queue.Distinct
  /-- There are no more stale keys than entries, or than the queue may have in any case. -/
  queue_le : store.queue.size ≤ store.size + max compactionThreshold store.size

/-- Few stale keys are left where they are dropped if there are too many. -/
theorem Represents.slim_compact
    (represents : store.Represents ledger)
    (distinct : store.queue.Distinct) :
    store.compact.Slim := by
  by_cases crowded : store.IsCrowded
  · constructor
    · rw [compact_of_isCrowded crowded]
      exact distinct.filter _
    · rw [represents.size_queue_compact distinct crowded]
      exact Nat.le_add_right _ _
  · rw [compact_of_not_isCrowded crowded]
    refine ⟨distinct, ?_⟩
    rw [IsCrowded] at crowded
    omega

theorem slim_empty (limit : Option Nat) : (empty limit : SlotStore α).Slim where
  distinct := KeyQueue.distinct_empty
  queue_le := Nat.zero_le _

namespace Slim

variable (slim : store.Slim)

include slim

/-- An insertion adds a key that is not stale. -/
theorem insert
    (represents : store.Represents ledger)
    (few : ∀ slot, ledger.timesEmptied slot < 2 ^ 32)
    (due : Instant)
    (value : α) :
    (store.insert due value).2.Slim := by
  cases room : store.isFull with
  | true =>
      rw [insert_of_isFull room]
      exact slim
  | false =>
      rw [insert_of_not_isFull room]
      constructor
      · rw [enqueue, queue_occupy]
        apply slim.distinct.insert
        intro key present
        obtain ⟨entry, issued, rfl⟩ := represents.serves.key_issued key present
        exact represents.holds.handle_ne_occupy few issued value
      · have queue_le := slim.queue_le
        rw [enqueue, size_occupy, queue_occupy, KeyQueue.size_insert]
        omega

theorem peek : store.peek.2.Slim where
  distinct := slim.distinct.dropWhile _
  queue_le := Nat.le_trans (KeyQueue.size_dropWhile_le _ _) slim.queue_le

/-- A removal makes one key stale, and it drops all stale keys if there are too many. -/
theorem remove (represents : store.Represents ledger) (handle : SlotHandle) :
    (store.remove handle).2.Slim := by
  cases named : store.get? handle with
  | none =>
      rw [SlotStore.remove, named]
      exact slim
  | some value =>
      obtain ⟨entry, present, rfl, -⟩ :=
        (represents.holds.get?_eq_some_iff handle value).mp named
      rw [SlotStore.remove, named]
      exact (represents.vacate present).slim_compact slim.distinct

theorem answer
    (represents : store.Represents ledger)
    (few : ∀ slot, ledger.timesEmptied slot < 2 ^ 32)
    (call : StoreCall α) :
    (call.answer store).2.Slim := by
  cases call with
  | insert due value => exact slim.insert represents few due value
  | peek => exact slim.peek
  | remove handle => exact slim.remove represents handle
  | contains | size | isEmpty => exact slim
  | removeAll => exact ⟨KeyQueue.distinct_empty, Nat.zero_le _⟩

/-- A store stays slim as long as no slot is emptied too often. -/
theorem after
    (represents : store.Represents ledger)
    (calls : List (StoreCall α))
    (few : ∀ slot, ledger.timesEmptied slot + emptyings slot calls store < 2 ^ 32) :
    (StoreCall.after calls store).Slim := by
  induction calls generalizing store ledger with
  | nil => exact slim
  | cons call calls inductionHypothesis =>
      obtain ⟨next, follows⟩ := exists_follows represents call
      have fewBefore : ∀ slot, ledger.timesEmptied slot < 2 ^ 32 := fun slot =>
        Nat.lt_of_le_of_lt (Nat.le_add_right _ _) (few slot)
      refine inductionHypothesis (slim.answer represents fewBefore call) follows.represents ?_
      intro slot
      rw [follows.timesEmptied_eq, Nat.add_assoc]
      exact few slot

end Slim

/-! ## Runs of calls -/

/-- There are no more slots than needed after calls. -/
structure SlotsFit (calls : List (StoreCall α)) (store : SlotStore α) : Prop where
  /-- There are as many slots as there have been entries at one time. -/
  size_eq : (after calls store).slots.size = peakSize calls store
  /-- Every slot is occupied, or it is in the list of the free ones, once. -/
  slots_perm : ((after calls store).free ++ (after calls store).occupiedSlots).Perm
    (List.range (after calls store).slots.size)
  /-- No call makes a slot while one is free. -/
  noneFree : ∀ call : StoreCall α,
    (call.answer (after calls store)).2.slots.size ≠ (after calls store).slots.size →
      (after calls store).free = []

/-- There are no more keys than needed after calls. -/
structure KeysFit (calls : List (StoreCall α)) (store : SlotStore α) : Prop where
  /-- There is one key for each entry besides the stale ones. -/
  size_eq : (after calls store).queue.size =
    (after calls store).size + (after calls store).staleKeys.length
  /-- The stale keys are no more than the entries, or than 64. -/
  length_staleKeys_le : (after calls store).staleKeys.length ≤ max 64 (after calls store).size
  /-- So the keys are bounded by the entries that there are. -/
  size_le : (after calls store).queue.size ≤
    (after calls store).size + max 64 (after calls store).size
  /-- And by the entries that there have been at one time, however many there were in all. -/
  size_le_peak : (after calls store).queue.size ≤
    peakSize calls store + max 64 (peakSize calls store)
  /-- A removal that finds a crowd of keys leaves none but those of the entries. -/
  compacted : ∀ earlier handle, calls = earlier ++ [.remove handle] →
    (after earlier store).contains handle = true →
      ((after earlier store).vacate handle.slot).IsCrowded →
        (after calls store).queue.size = (after calls store).size

/-- A removal that finds a crowd of keys leaves none but those of the entries. -/
theorem Slim.size_queue_remove
    (slim : store.Slim)
    (represents : store.Represents ledger)
    {handle : SlotHandle}
    (known : store.contains handle = true)
    (crowded : (store.vacate handle.slot).IsCrowded) :
    (store.remove handle).2.queue.size = (store.remove handle).2.size := by
  obtain ⟨value, named⟩ := Option.isSome_iff_exists.mp known
  obtain ⟨entry, present, rfl, -⟩ := (represents.holds.get?_eq_some_iff handle value).mp named
  rw [SlotStore.remove, named]
  exact (represents.vacate present).size_queue_compact slim.distinct crowded

/-- A store that was empty at first has never more slots than it has held entries at one time; and
its queue has never many more keys than there are entries, as long as no slot has been emptied 2^32
times. -/
theorem footprint_follows_load (limit : Option Nat) (calls : List (StoreCall α)) :
    SlotsFit calls (empty limit) ∧
      ((∀ slot, emptyings slot calls (empty limit) < 2 ^ 32) → KeysFit calls (empty limit)) := by
  have initially : (empty limit : SlotStore α).Represents .empty := represents_empty limit
  obtain ⟨ledger, represents, -⟩ := exists_represents_after initially calls
  constructor
  · refine ⟨?_, represents.holds.freeList.slots_perm, ?_⟩
    · rw [size_slots_after initially calls]
      exact Nat.max_eq_right (Nat.zero_le _)
    · intro call grows
      rcases size_slots_answer (after calls (empty limit)) call with same | ⟨noneFree, -⟩
      · exact absurd same grows
      · exact noneFree
  · intro few
    have slimAfter : ∀ earlier later, calls = earlier ++ later →
        (after earlier (empty limit : SlotStore α)).Slim := by
      rintro earlier later rfl
      refine (slim_empty limit).after initially earlier fun slot => ?_
      have fewInAll := few slot
      rw [emptyings_append] at fewInAll
      have noneYet : (Ledger.empty : Ledger α).timesEmptied slot = 0 := rfl
      omega
    have slim := slimAfter calls [] (List.append_nil calls).symm
    have counted := represents.size_add_length_staleKeys slim.distinct
    have queue_le := slim.queue_le
    have size_le := size_after_le_peakSize calls (empty limit : SlotStore α)
    rw [compactionThreshold] at queue_le
    refine ⟨counted.symm, ?_, queue_le, ?_, ?_⟩
    · omega
    · omega
    · rintro earlier handle rfl known crowded
      obtain ⟨between, representsBetween, -⟩ := exists_represents_after initially earlier
      rw [after_append]
      exact (slimAfter earlier _ rfl).size_queue_remove representsBetween known crowded

/-- Put in 65 values, and take out all but 32 of them in the same order. -/
def turnover : List (StoreCall Char) :=
  ((List.range 65).map fun index => .insert index 'a') ++
    (List.range 33).map fun index => .remove ⟨index, 0⟩

theorem footprint_follows_load_turnover :
    (∀ slot, emptyings slot turnover (empty none) < 2 ^ 32) ∧
      (after turnover (empty none : SlotStore Char)).slots.size = 65 ∧
      (after turnover (empty none : SlotStore Char)).size = 32 ∧
      (after turnover (empty none : SlotStore Char)).queue.size = 32 := by
  let earlier := turnover.dropLast
  have few : ∀ slot, emptyings slot turnover (empty none) < 2 ^ 32 := fun slot =>
    Nat.lt_of_le_of_lt (emptyings_le_length slot turnover _) (by decide)
  obtain ⟨slotsFit, keysFit⟩ := footprint_follows_load (α := Char) none turnover
  have peak_eq : peakSize turnover (empty none) = 65 := by decide +kernel
  have size_eq : (after turnover (empty none : SlotStore Char)).size = 32 := by decide +kernel
  have split : turnover = earlier ++ [.remove ⟨32, 0⟩] := rfl
  have known : (after earlier (empty none)).contains ⟨32, 0⟩ = true := by decide +kernel
  have crowded : ((after earlier (empty none)).vacate 32).IsCrowded := by decide +kernel
  refine ⟨few, ?_, size_eq, ?_⟩
  · rw [slotsFit.size_eq, peak_eq]
  · rw [(keysFit few).compacted earlier ⟨32, 0⟩ split known crowded, size_eq]

end SlotStore
end Agenda
