import Agenda.Proofs.Store.Ledger
import Agenda.Store.SlotStore
import Mathlib.Data.List.Induction

/-!
# What the slots of a store hold

Seen from outside, a slot has a content and the generation that the next entry in it will get.
A store holds a ledger when its slots, its list of free slots and its count of entries say the
same as the ledger.  This stays so when values are put into slots and taken out of them, also
past the point where generations start again from zero.
-/

namespace Agenda
namespace SlotStore

variable {α : Type}

/-- The value in a slot. -/
def contentAt (store : SlotStore α) (index : Nat) : Option α :=
  store.slots[index]?.bind Slot.content

/-- The generation that an entry put into a slot now would get. -/
def generationAt (store : SlotStore α) (index : Nat) : UInt32 :=
  (store.slots[index]?.map (·.generation)).getD 0

theorem get?_eq_some_iff (store : SlotStore α) (handle : SlotHandle) (value : α) :
    store.get? handle = some value ↔
      store.generationAt handle.slot = handle.generation ∧
        store.contentAt handle.slot = some value := by
  unfold get? generationAt contentAt
  cases store.slots[handle.slot]? with
  | none => simp
  | some slot => simp

theorem lt_size_of_contentAt
    {store : SlotStore α}
    {index : Nat}
    {value : α}
    (occupied : store.contentAt index = some value) :
    index < store.slots.size := by
  by_contra outside
  rw [contentAt, Array.getElem?_eq_none (Nat.le_of_not_lt outside)] at occupied
  cases occupied

/-! ## Occupying a slot -/

/-- The free list names the empty slots, each of them once. -/
structure FreeListExact (store : SlotStore α) : Prop where
  /-- No slot is free twice. -/
  nodup : store.free.Nodup
  /-- A slot is free when it exists and is empty. -/
  mem_iff : ∀ index,
    index ∈ store.free ↔ index < store.slots.size ∧ store.contentAt index = none

theorem freeListExact_empty (limit : Option Nat) :
    (empty limit : SlotStore α).FreeListExact where
  nodup := List.nodup_nil
  mem_iff index := by simp [empty]

@[simp] theorem generation_occupy (store : SlotStore α) (value : α) :
    (store.occupy value).1.generation = store.generationAt (store.occupy value).1.slot := by
  unfold occupy
  split
  next => simp [generationAt]
  next => rfl

@[simp] theorem size_occupy (store : SlotStore α) (value : α) :
    (store.occupy value).2.size = store.size + 1 := by
  unfold occupy
  split <;> rfl

@[simp] theorem queue_occupy (store : SlotStore α) (value : α) :
    (store.occupy value).2.queue = store.queue := by
  unfold occupy
  split <;> rfl

@[simp] theorem nextRank_occupy (store : SlotStore α) (value : α) :
    (store.occupy value).2.nextRank = store.nextRank := by
  unfold occupy
  split <;> rfl

@[simp] theorem limit_occupy (store : SlotStore α) (value : α) :
    (store.occupy value).2.limit = store.limit := by
  unfold occupy
  split <;> rfl

section Occupy

variable {store : SlotStore α} (value : α)

/-- A value goes into a slot that was empty. -/
theorem FreeListExact.contentAt_occupied (exact : store.FreeListExact) :
    store.contentAt (store.occupy value).1.slot = none := by
  unfold occupy
  split
  next noneFree => simp [contentAt]
  next index others freeList =>
    have isFree : index ∈ store.free := freeList ▸ List.mem_cons_self
    exact ((exact.mem_iff index).mp isFree).2

theorem FreeListExact.contentAt_occupy (exact : store.FreeListExact) (index : Nat) :
    (store.occupy value).2.contentAt index =
      if index = (store.occupy value).1.slot then some value else store.contentAt index := by
  unfold occupy
  split
  next =>
    simp only [contentAt, Array.getElem?_push]
    split <;> rfl
  next freeIndex others freeList =>
    have isFree : freeIndex ∈ store.free := freeList ▸ List.mem_cons_self
    have inRange := ((exact.mem_iff freeIndex).mp isFree).1
    simp only [contentAt, Array.getElem?_setIfInBounds, eq_comm (a := index), inRange, if_true]
    split <;> rfl

theorem FreeListExact.generationAt_occupy (exact : store.FreeListExact) (index : Nat) :
    (store.occupy value).2.generationAt index = store.generationAt index := by
  unfold occupy
  split
  next =>
    simp only [generationAt, Array.getElem?_push]
    split
    next atEnd => simp [atEnd]
    next => rfl
  next freeIndex others freeList =>
    have isFree : freeIndex ∈ store.free := freeList ▸ List.mem_cons_self
    have inRange := ((exact.mem_iff freeIndex).mp isFree).1
    simp only [generationAt, Array.getElem?_setIfInBounds, inRange, if_true]
    split
    next same => simp [same]
    next => rfl

theorem FreeListExact.occupy (exact : store.FreeListExact) :
    (store.occupy value).2.FreeListExact := by
  have content := exact.contentAt_occupy value
  revert content
  unfold SlotStore.occupy
  split
  next noneFree =>
    intro content
    refine ⟨exact.nodup, fun index => ?_⟩
    rw [content index, exact.mem_iff index, Array.size_push]
    simp only
    split
    next atEnd => simp [atEnd]
    next notEnd =>
      rw [Nat.lt_succ_iff_lt_or_eq]
      simp [notEnd]
  next freeIndex others freeList =>
    intro content
    have nodup : (freeIndex :: others).Nodup := freeList ▸ exact.nodup
    refine ⟨nodup.of_cons, fun index => ?_⟩
    rw [content index, Array.size_setIfInBounds]
    simp only
    have isFree := exact.mem_iff index
    rw [freeList, List.mem_cons] at isFree
    split
    next same => simp [same, (List.nodup_cons.mp nodup).1]
    next different => simpa [different] using isFree

end Occupy

/-! ## Vacating slots -/

section Vacate

variable {store : SlotStore α} {index : Nat}

theorem contentAt_vacate (store : SlotStore α) (index other : Nat) :
    (store.vacate index).contentAt other =
      if other = index then none else store.contentAt other := by
  simp only [vacate, contentAt, Array.getElem?_modify, eq_comm (a := other)]
  split
  next same =>
    subst same
    cases store.slots[index]? <;> rfl
  next => rfl

theorem generationAt_vacate
    {value : α}
    (occupied : store.contentAt index = some value)
    (other : Nat) :
    (store.vacate index).generationAt other =
      if other = index then store.generationAt other + 1 else store.generationAt other := by
  have inRange := lt_size_of_contentAt occupied
  simp only [vacate, generationAt, Array.getElem?_modify, eq_comm (a := other)]
  split
  next same =>
    subst same
    simp [Array.getElem?_eq_getElem inRange]
  next => rfl

@[simp] theorem size_vacate (store : SlotStore α) (index : Nat) :
    (store.vacate index).size = store.size - 1 := rfl

@[simp] theorem size_slots_vacate (store : SlotStore α) (index : Nat) :
    (store.vacate index).slots.size = store.slots.size :=
  Array.size_modify

theorem contentAt_foldl_vacate (indices : List Nat) (store : SlotStore α) (other : Nat) :
    (indices.foldl vacate store).contentAt other =
      if other ∈ indices then none else store.contentAt other := by
  induction indices generalizing store with
  | nil => simp
  | cons index rest inductionHypothesis =>
      rw [List.foldl_cons, inductionHypothesis, contentAt_vacate]
      by_cases first : other = index <;> simp [first]

theorem size_foldl_vacate (indices : List Nat) (store : SlotStore α) :
    (indices.foldl vacate store).size = store.size - indices.length := by
  induction indices generalizing store with
  | nil => rfl
  | cons index rest inductionHypothesis =>
      rw [List.foldl_cons, inductionHypothesis, size_vacate, List.length_cons]
      omega

theorem FreeListExact.vacate
    (exact : store.FreeListExact)
    {value : α}
    (occupied : store.contentAt index = some value) :
    (store.vacate index).FreeListExact where
  nodup := by
    refine List.nodup_cons.mpr ⟨fun isFree => ?_, exact.nodup⟩
    rw [exact.mem_iff, occupied] at isFree
    cases isFree.2
  mem_iff other := by
    rw [size_slots_vacate, contentAt_vacate]
    simp only [SlotStore.vacate, List.mem_cons, exact.mem_iff other]
    split
    next same => simp [same, lt_size_of_contentAt occupied]
    next different => simp [different]

/-- Occupied slots stay occupied while others are vacated. -/
private theorem occupied_after_vacate
    {rest : List Nat}
    (nodup : (index :: rest).Nodup)
    (occupied : ∀ other ∈ index :: rest, ∃ value, store.contentAt other = some value)
    (other : Nat)
    (present : other ∈ rest) :
    ∃ value, (store.vacate index).contentAt other = some value := by
  have different : other ≠ index :=
    fun same => (List.nodup_cons.mp nodup).1 (same ▸ present)
  rw [contentAt_vacate, if_neg different]
  exact occupied other (List.mem_cons_of_mem _ present)

theorem generationAt_foldl_vacate
    {indices : List Nat}
    (nodup : indices.Nodup)
    (occupied : ∀ index ∈ indices, ∃ value, store.contentAt index = some value)
    (other : Nat) :
    (indices.foldl SlotStore.vacate store).generationAt other =
      if other ∈ indices then store.generationAt other + 1 else store.generationAt other := by
  induction indices generalizing store with
  | nil => simp
  | cons index rest inductionHypothesis =>
      obtain ⟨value, indexOccupied⟩ := occupied index List.mem_cons_self
      rw [List.foldl_cons,
        inductionHypothesis nodup.of_cons (occupied_after_vacate nodup occupied),
        generationAt_vacate indexOccupied]
      by_cases first : other = index
      · subst first
        simp [(List.nodup_cons.mp nodup).1]
      · simp [first]

theorem FreeListExact.foldl_vacate
    (exact : store.FreeListExact)
    {indices : List Nat}
    (nodup : indices.Nodup)
    (occupied : ∀ index ∈ indices, ∃ value, store.contentAt index = some value) :
    (indices.foldl SlotStore.vacate store).FreeListExact := by
  induction indices generalizing store with
  | nil => exact exact
  | cons index rest inductionHypothesis =>
      obtain ⟨value, indexOccupied⟩ := occupied index List.mem_cons_self
      exact inductionHypothesis (exact.vacate indexOccupied) nodup.of_cons
        (occupied_after_vacate nodup occupied)

end Vacate

/-! ## The occupied slots -/

theorem mem_occupiedSlots (store : SlotStore α) (index : Nat) :
    index ∈ store.occupiedSlots ↔ ∃ value, store.contentAt index = some value := by
  rw [occupiedSlots, List.mem_filter, List.mem_range]
  constructor
  · rintro ⟨inRange, occupied⟩
    rw [Array.getElem?_eq_getElem inRange, Option.any_some, Option.isSome_iff_exists] at occupied
    rw [contentAt, Array.getElem?_eq_getElem inRange]
    exact occupied
  · rintro ⟨value, occupied⟩
    have inRange := lt_size_of_contentAt occupied
    refine ⟨inRange, ?_⟩
    rw [contentAt, Array.getElem?_eq_getElem inRange, Option.bind_some] at occupied
    rw [Array.getElem?_eq_getElem inRange, Option.any_some, occupied]
    rfl

theorem occupiedSlots_ascending (store : SlotStore α) :
    store.occupiedSlots.Pairwise (· < ·) :=
  List.pairwise_lt_range.filter _

theorem occupiedSlots_nodup (store : SlotStore α) : store.occupiedSlots.Nodup :=
  List.nodup_range.filter _

private theorem filterMap_range_length
    {β γ : Type}
    (list : List β)
    (view : β → Option γ) :
    (List.range list.length).filterMap (fun index => list[index]?.bind view) =
      list.filterMap view := by
  induction list using List.reverseRecOn with
  | nil => rfl
  | append_singleton list last inductionHypothesis =>
      rw [List.length_append, List.length_singleton, List.range_succ, List.filterMap_append,
        List.filterMap_append, ← inductionHypothesis]
      refine congrArg₂ List.append ?_ ?_
      · refine List.filterMap_congr fun index inRange => ?_
        rw [List.getElem?_append_left (List.mem_range.mp inRange)]
      · simp [List.filterMap_cons]

/-- The values of a store are the contents of its occupied slots. -/
theorem values_eq (store : SlotStore α) :
    store.values = store.occupiedSlots.filterMap store.contentAt := by
  rw [values, ← filterMap_range_length, Array.length_toList, occupiedSlots,
    List.filterMap_filter]
  refine List.filterMap_congr fun index inRange => ?_
  rw [Array.getElem?_toList, contentAt]
  cases store.slots[index]? with
  | none => rfl
  | some slot => cases content : slot.content <;> simp [content]

/-! ## Slots and ledgers -/

/-- The slots of a store hold the live entries of a ledger. -/
structure Holds (store : SlotStore α) (ledger : Ledger α) : Prop where
  /-- The handles of the ledger are the ones that the store gives out. -/
  coherent : ledger.Coherent
  /-- The free list is exact. -/
  freeList : store.FreeListExact
  /-- A slot's generation counts how often it has been emptied. -/
  generation_eq : ∀ index,
    store.generationAt index = UInt32.ofNat (ledger.timesEmptied index)
  /-- A slot holds the value of the entry that is in it. -/
  content_iff : ∀ index value, store.contentAt index = some value ↔
    ∃ entry ∈ ledger.live, entry.handle.slot = index ∧ entry.value = value
  /-- The count of entries is right. -/
  size_eq : store.size = ledger.live.length

theorem holds_empty (limit : Option Nat) : (empty limit : SlotStore α).Holds .empty where
  coherent := Ledger.coherent_empty
  freeList := freeListExact_empty limit
  generation_eq _ := rfl
  content_iff index value := by simp [contentAt, empty]
  size_eq := rfl

namespace Holds

variable {store : SlotStore α} {ledger : Ledger α}

/-- Only the slots, the free list and the count of entries matter. -/
theorem of_slots_eq
    (holds : store.Holds ledger)
    {next : SlotStore α}
    (slots_eq : next.slots = store.slots)
    (free_eq : next.free = store.free)
    (size_eq : next.size = store.size) :
    next.Holds ledger := by
  have content_eq : next.contentAt = store.contentAt := by
    funext index
    rw [contentAt, contentAt, slots_eq]
  have generation_eq : next.generationAt = store.generationAt := by
    funext index
    rw [generationAt, generationAt, slots_eq]
  refine ⟨holds.coherent, ⟨?_, ?_⟩, ?_, ?_, ?_⟩
  · exact free_eq ▸ holds.freeList.nodup
  · intro index
    rw [free_eq, slots_eq, content_eq]
    exact holds.freeList.mem_iff index
  · exact fun index => generation_eq ▸ holds.generation_eq index
  · exact fun index value => content_eq ▸ holds.content_iff index value
  · exact size_eq ▸ holds.size_eq

theorem contentAt_of_live
    (holds : store.Holds ledger)
    {entry : Entry α}
    (present : entry ∈ ledger.live) :
    store.contentAt entry.handle.slot = some entry.value :=
  (holds.content_iff _ _).mpr ⟨entry, present, rfl, rfl⟩

/-- A handle names a value exactly if it is the handle of a live entry with that value. -/
theorem get?_eq_some_iff
    (holds : store.Holds ledger)
    (handle : SlotHandle)
    (value : α) :
    store.get? handle = some value ↔
      ∃ entry ∈ ledger.live, entry.handle = handle ∧ entry.value = value := by
  rw [SlotStore.get?_eq_some_iff, holds.content_iff, holds.generation_eq]
  constructor
  · rintro ⟨generation_eq, entry, present, slot_eq, value_eq⟩
    refine ⟨entry, present, ?_, value_eq⟩
    have sameGeneration : entry.handle.generation = handle.generation := by
      rw [holds.coherent.live_generation entry present, slot_eq, generation_eq]
    cases handle
    cases entryHandle : entry.handle
    simp_all
  · rintro ⟨entry, present, rfl, value_eq⟩
    exact ⟨(holds.coherent.live_generation entry present).symm, entry, present, rfl, value_eq⟩

theorem contains_iff (holds : store.Holds ledger) (handle : SlotHandle) :
    store.contains handle = true ↔ ∃ entry ∈ ledger.live, entry.handle = handle := by
  rw [SlotStore.contains, Option.isSome_iff_exists]
  simp only [holds.get?_eq_some_iff]
  constructor
  · rintro ⟨value, entry, present, sameHandle, -⟩
    exact ⟨entry, present, sameHandle⟩
  · rintro ⟨entry, present, sameHandle⟩
    exact ⟨entry.value, entry, present, sameHandle, rfl⟩

/-- What a handle names is what the ledger finds under it. -/
theorem get?_eq
    (holds : store.Holds ledger)
    (handle : SlotHandle) :
    store.get? handle = (ledger.find? handle).map Entry.value := by
  cases found : ledger.find? handle with
  | none =>
      rw [Option.map_none, Option.eq_none_iff_forall_ne_some]
      intro value named
      obtain ⟨entry, present, sameHandle, -⟩ := (holds.get?_eq_some_iff handle value).mp named
      rw [Ledger.find?, List.find?_eq_none] at found
      exact found entry present (by simpa using sameHandle)
  | some entry =>
      refine (holds.get?_eq_some_iff handle entry.value).mpr
        ⟨entry, List.mem_of_find?_eq_some found, ?_, rfl⟩
      simpa using List.find?_some found

/-- Putting a value into a slot adds an entry. -/
theorem occupy (holds : store.Holds ledger) (due : Instant) (value : α) :
    (store.occupy value).2.Holds (ledger.add (store.occupy value).1 due value) where
  coherent := by
    refine holds.coherent.add ?_ ?_ due value
    · intro entry present sameSlot
      have occupied := holds.contentAt_of_live present
      rw [sameSlot, holds.freeList.contentAt_occupied value] at occupied
      cases occupied
    · rw [generation_occupy, holds.generation_eq]
  freeList := holds.freeList.occupy value
  generation_eq index := by
    rw [holds.freeList.generationAt_occupy, holds.generation_eq, Ledger.timesEmptied_add]
  content_iff index other := by
    rw [holds.freeList.contentAt_occupy, Ledger.live_add]
    split
    next sameSlot =>
      subst sameSlot
      constructor
      · rintro ⟨rfl⟩
        exact ⟨_, List.mem_append_right _ List.mem_cons_self, rfl, rfl⟩
      · rintro ⟨entry, present, sameSlot, value_eq⟩
        rcases List.mem_append.mp present with old | new
        · have occupied := holds.contentAt_of_live old
          rw [sameSlot, holds.freeList.contentAt_occupied value] at occupied
          cases occupied
        · obtain rfl := List.mem_singleton.mp new
          exact congrArg some value_eq
    next otherSlot =>
      rw [holds.content_iff]
      constructor
      · rintro ⟨entry, present, slot_eq, value_eq⟩
        exact ⟨entry, List.mem_append_left _ present, slot_eq, value_eq⟩
      · rintro ⟨entry, present, slot_eq, value_eq⟩
        rcases List.mem_append.mp present with old | new
        · exact ⟨entry, old, slot_eq, value_eq⟩
        · obtain rfl := List.mem_singleton.mp new
          exact absurd slot_eq.symm otherSlot
  size_eq := by
    rw [size_occupy, holds.size_eq, Ledger.live_add, List.length_append, List.length_singleton]

/-- As long as no slot has been emptied too often, a value goes into a slot under a handle that no
entry ever had. -/
theorem handle_ne_occupy
    (holds : store.Holds ledger)
    (few : ∀ slot, ledger.timesEmptied slot < 2 ^ 32)
    {entry : Entry α}
    (issued : entry ∈ ledger.issued)
    (value : α) :
    entry.handle ≠ (store.occupy value).1 := by
  rcases (ledger.mem_issued entry).mp issued with departed | live
  · have isNew : ledger.newEntry (store.occupy value).1 entry.due value ∈
        (ledger.add (store.occupy value).1 entry.due value).live := by
      rw [Ledger.live_add]
      exact List.mem_append_right _ List.mem_cons_self
    exact (holds.occupy entry.due value).coherent.handle_ne_of_departed (few _) departed isNew
  · intro sameHandle
    have occupied := holds.contentAt_of_live live
    rw [sameHandle, holds.freeList.contentAt_occupied value] at occupied
    cases occupied

/-- Vacating the slot of an entry lets this entry go. -/
theorem vacate
    (holds : store.Holds ledger)
    {entry : Entry α}
    (present : entry ∈ ledger.live) :
    (store.vacate entry.handle.slot).Holds (ledger.erase entry.handle) where
  coherent := holds.coherent.departWhere _
  freeList := holds.freeList.vacate (holds.contentAt_of_live present)
  generation_eq index := by
    rw [generationAt_vacate (holds.contentAt_of_live present), holds.generation_eq, Ledger.erase]
    split
    next sameSlot =>
      rw [sameSlot, holds.coherent.timesEmptied_departWhere_of_leaving present (by simp),
        UInt32.ofNat_add]
      rfl
    next otherSlot =>
      rw [Ledger.timesEmptied_departWhere_of_staying]
      intro other _ leaves sameSlot
      rw [beq_iff_eq] at leaves
      exact otherSlot (leaves ▸ sameSlot).symm
  content_iff index value := by
    rw [contentAt_vacate, Ledger.erase]
    simp only [Ledger.mem_live_departWhere, beq_eq_false_iff_ne]
    split
    next sameSlot =>
      constructor
      · intro impossible
        cases impossible
      · rintro ⟨other, ⟨otherLive, stays⟩, slot_eq, -⟩
        have equal := holds.coherent.eq_of_slot_eq otherLive present (slot_eq.trans sameSlot)
        exact absurd (congrArg Entry.handle equal) stays
    next otherSlot =>
      rw [holds.content_iff]
      constructor
      · rintro ⟨other, otherLive, slot_eq, value_eq⟩
        refine ⟨other, ⟨otherLive, fun sameHandle => ?_⟩, slot_eq, value_eq⟩
        exact otherSlot (slot_eq.symm.trans (congrArg SlotHandle.slot sameHandle))
      · rintro ⟨other, ⟨otherLive, -⟩, slot_eq, value_eq⟩
        exact ⟨other, otherLive, slot_eq, value_eq⟩
  size_eq := by
    have oneLess := holds.coherent.length_live_erase present
    rw [size_vacate, holds.size_eq]
    omega

/-- The occupied slots are the slots of the live entries. -/
theorem slots_perm_occupiedSlots (holds : store.Holds ledger) :
    (ledger.live.map fun entry => entry.handle.slot).Perm store.occupiedSlots := by
  rw [List.perm_ext_iff_of_nodup holds.coherent.slot_nodup store.occupiedSlots_nodup]
  intro index
  rw [mem_occupiedSlots, List.mem_map]
  simp only [holds.content_iff]
  constructor
  · rintro ⟨entry, present, slot_eq⟩
    exact ⟨entry.value, entry, present, slot_eq, rfl⟩
  · rintro ⟨value, entry, present, slot_eq, -⟩
    exact ⟨entry, present, slot_eq⟩

/-- Vacating every occupied slot lets every entry go. -/
theorem vacateAll (holds : store.Holds ledger) :
    (store.occupiedSlots.foldl SlotStore.vacate store).Holds ledger.clear where
  coherent := holds.coherent.departWhere _
  freeList :=
    holds.freeList.foldl_vacate store.occupiedSlots_nodup fun index =>
      (store.mem_occupiedSlots index).mp
  generation_eq index := by
    rw [generationAt_foldl_vacate store.occupiedSlots_nodup
      (fun other => (store.mem_occupiedSlots other).mp), holds.generation_eq, Ledger.clear]
    split
    next isOccupied =>
      rw [← holds.slots_perm_occupiedSlots.mem_iff, List.mem_map] at isOccupied
      obtain ⟨entry, present, rfl⟩ := isOccupied
      rw [holds.coherent.timesEmptied_departWhere_of_leaving present rfl, UInt32.ofNat_add]
      rfl
    next notOccupied =>
      rw [Ledger.timesEmptied_departWhere_of_staying]
      intro entry present _ slot_eq
      apply notOccupied
      rw [← holds.slots_perm_occupiedSlots.mem_iff]
      exact slot_eq ▸ List.mem_map_of_mem present
  content_iff index value := by
    rw [contentAt_foldl_vacate, Ledger.live_clear]
    split
    next => simp
    next notOccupied =>
      constructor
      · exact fun occupied => absurd ((store.mem_occupiedSlots index).mpr ⟨value, occupied⟩)
          notOccupied
      · rintro ⟨entry, present, -⟩
        cases present
  size_eq := by
    rw [size_foldl_vacate, holds.size_eq, ← holds.slots_perm_occupiedSlots.length_eq,
      List.length_map, Nat.sub_self, Ledger.live_clear, List.length_nil]

/-- The values of a store are those of the live entries, in the order of their slots. -/
theorem values_eq_map (holds : store.Holds ledger) :
    ∃ entries : List (Entry α), entries.Perm ledger.live ∧
      entries.Pairwise (fun entry other => entry.handle.slot < other.handle.slot) ∧
      store.values = entries.map Entry.value := by
  let slotOf : Entry α → Nat := fun entry => entry.handle.slot
  let entries := ledger.live.mergeSort fun entry other => decide (slotOf entry ≤ slotOf other)
  have isPerm : entries.Perm ledger.live := List.mergeSort_perm _ _
  have weaklySorted : entries.Pairwise fun entry other => slotOf entry ≤ slotOf other := by
    refine (List.pairwise_mergeSort ?_ ?_ ledger.live).imp fun le => of_decide_eq_true le
    · intro first second third
      simp only [decide_eq_true_eq]
      exact Nat.le_trans
    · intro first second
      simp only [Bool.or_eq_true, decide_eq_true_eq]
      exact Nat.le_total _ _
  have slotsNodup : (entries.map slotOf).Nodup :=
    (isPerm.map slotOf).nodup_iff.mpr holds.coherent.slot_nodup
  have sorted : entries.Pairwise fun entry other => slotOf entry < slotOf other := by
    rw [List.Nodup, List.pairwise_map] at slotsNodup
    exact (weaklySorted.and slotsNodup).imp fun both => Nat.lt_of_le_of_ne both.1 both.2
  have slots_eq : entries.map slotOf = store.occupiedSlots := by
    have ascending : (entries.map slotOf).Pairwise (· < ·) := List.pairwise_map.mpr sorted
    refine List.Perm.eq_of_pairwise ?_ ascending store.occupiedSlots_ascending
      ((isPerm.map slotOf).trans holds.slots_perm_occupiedSlots)
    intro slot other _ _ before after
    exact absurd after (Nat.lt_asymm before)
  refine ⟨entries, isPerm, sorted, ?_⟩
  rw [values_eq, ← slots_eq, List.filterMap_map, ← List.filterMap_eq_map]
  refine List.filterMap_congr fun entry present => ?_
  exact holds.contentAt_of_live (isPerm.mem_iff.mp present)

end Holds

end SlotStore
end Agenda
