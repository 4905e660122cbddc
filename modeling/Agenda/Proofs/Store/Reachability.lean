import Agenda.Proofs.Store.StaleHandles

/-!
# Every entry can be reached

Stale keys are dropped from the queue when they come to the front and when they are too many, and
the keys of entries that are there never are.  So the queue holds a key for every occupied slot,
with the generation that the slot has now and the due instant of the last insertion into it.  This
needs no bound on the length of a run: where generations have started again from zero, a stale key
may pass for a live one, but no live one is taken for stale.
-/

namespace Agenda

variable {α : Type}

namespace StoreCall

/-- What a call with this answer puts into a slot, and the instant at which it is due. -/
def insertion? (slot : Nat) : StoreCall α → CallAnswer α → Option (Instant × α)
  | insert due value, .inserted (.ok handle) =>
      if handle.slot = slot then some (due, value) else none
  | _, _ => none

end StoreCall

open StoreCall

namespace SlotStore

/-- What is put into a slot while calls are made, the first one first. -/
def insertions (slot : Nat) : List (StoreCall α) → SlotStore α → List (Instant × α)
  | [], _ => []
  | call :: calls, store =>
      (call.insertion? slot (call.answer store).1).toList ++
        insertions slot calls (call.answer store).2

/-! ## Keys that stay -/

/-- No call drops the key of an entry that is there afterwards. -/
theorem mem_queue_answer
    {store : SlotStore α}
    {ledger : Ledger α}
    (represents : store.Represents ledger)
    (call : StoreCall α)
    {key : Key}
    (queued : key ∈ store.queue.toList)
    (known : (call.answer store).2.contains key.handle = true) :
    key ∈ (call.answer store).2.queue.toList := by
  cases call with
  | insert due value =>
      change key ∈ (store.insert due value).2.queue.toList
      unfold SlotStore.insert
      split
      · exact queued
      · dsimp only [enqueue]
        rw [queue_occupy, KeyQueue.mem_toList_insert]
        exact Or.inr queued
  | peek =>
      refine KeyQueue.mem_dropWhile queued ?_
      change store.contains key.handle = true at known
      rw [known]
      rfl
  | remove handle =>
      change key ∈ (store.remove handle).2.queue.toList
      change (store.remove handle).2.contains key.handle = true at known
      unfold SlotStore.remove at known ⊢
      split
      next => exact queued
      next value named =>
        rw [named] at known
        unfold compact at known ⊢
        split
        next tooMany =>
          rw [if_pos tooMany] at known
          exact (KeyQueue.mem_toList_filter _ _ _).mpr ⟨queued, known⟩
        next => exact queued
  | contains handle | size | isEmpty => exact queued
  | removeAll =>
      obtain ⟨entry, present, -⟩ :=
        (represents.removeAll.holds.contains_iff key.handle).mp known
      rw [Ledger.live_clear] at present
      cases present

/-! ## What the entries were inserted with -/

/-- Every entry is what was last put into its slot. -/
def Latest (ledger : Ledger α) (log : Nat → List (Instant × α)) : Prop :=
  ∀ entry ∈ ledger.live, (log entry.handle.slot).getLast? = some (entry.due, entry.value)

/-- An entry that is there after a call was put into its slot by the call, or it was there before
and nothing was put into its slot. -/
theorem exists_represents_answer
    {store : SlotStore α}
    {ledger : Ledger α}
    (represents : store.Represents ledger)
    (call : StoreCall α) :
    ∃ later, (call.answer store).2.Represents later ∧ ∀ entry ∈ later.live,
      call.insertion? entry.handle.slot (call.answer store).1 = some (entry.due, entry.value) ∨
        call.insertion? entry.handle.slot (call.answer store).1 = none ∧ entry ∈ ledger.live := by
  have departs : ∀ leaves : Entry α → Bool, ∀ entry ∈ (ledger.departWhere leaves).live,
      entry ∈ ledger.live := fun leaves entry present =>
    ((ledger.mem_live_departWhere leaves entry).mp present).1
  cases call with
  | insert due value =>
      change ∃ later, (store.insert due value).2.Represents later ∧ ∀ entry ∈ later.live,
        insertion? entry.handle.slot (.insert due value) (.inserted (store.insert due value).1) =
          some (entry.due, entry.value) ∨ insertion? entry.handle.slot (.insert due value)
            (.inserted (store.insert due value).1) = none ∧ entry ∈ ledger.live
      cases inserted : store.insert due value with
      | mk result next =>
          cases result with
          | error refused =>
              obtain ⟨-, -, rfl⟩ := represents.of_insert_error inserted
              exact ⟨ledger, represents, fun entry present => Or.inr ⟨rfl, present⟩⟩
          | ok handle =>
              have after := represents.of_insert_ok inserted
              refine ⟨_, after, fun entry present => ?_⟩
              have newPresent : ledger.newEntry handle due value ∈
                  (ledger.add handle due value).live := by
                rw [Ledger.live_add]
                exact List.mem_append_right _ List.mem_cons_self
              by_cases sameSlot : handle.slot = entry.handle.slot
              · rw [← after.holds.coherent.eq_of_slot_eq newPresent present sameSlot]
                exact Or.inl (if_pos rfl)
              · rw [Ledger.live_add, List.mem_append, List.mem_singleton] at present
                rcases present with old | rfl
                · exact Or.inr ⟨if_neg sameSlot, old⟩
                · exact absurd rfl sameSlot
  | peek => exact ⟨ledger, represents.peek, fun entry present => Or.inr ⟨rfl, present⟩⟩
  | remove handle =>
      change ∃ later, (store.remove handle).2.Represents later ∧ _
      cases removed : store.remove handle with
      | mk answer next =>
          cases answer with
          | none =>
              obtain ⟨-, rfl⟩ := represents.of_remove_none removed
              exact ⟨ledger, represents, fun entry present => Or.inr ⟨rfl, present⟩⟩
          | some value =>
              obtain ⟨-, -, -, -, after⟩ := represents.of_remove_some removed
              exact ⟨_, after, fun entry present => Or.inr ⟨rfl, departs _ entry present⟩⟩
  | contains | size | isEmpty =>
      exact ⟨ledger, represents, fun entry present => Or.inr ⟨rfl, present⟩⟩
  | removeAll =>
      exact ⟨_, represents.removeAll, fun entry present => Or.inr ⟨rfl, departs _ entry present⟩⟩

/-- After any number of calls every entry is what was last put into its slot. -/
theorem exists_represents_latest
    {store : SlotStore α}
    {ledger : Ledger α}
    (represents : store.Represents ledger)
    {log : Nat → List (Instant × α)}
    (latest : Latest ledger log)
    (calls : List (StoreCall α)) :
    ∃ last, (after calls store).Represents last ∧
      Latest last fun slot => log slot ++ insertions slot calls store := by
  induction calls generalizing store ledger log with
  | nil => exact ⟨ledger, represents, by simpa [insertions] using latest⟩
  | cons call calls inductionHypothesis =>
      obtain ⟨next, nextRepresents, origin⟩ := exists_represents_answer represents call
      have nextLatest : Latest next fun slot =>
          log slot ++ (call.insertion? slot (call.answer store).1).toList := by
        intro entry present
        rcases origin entry present with isInserted | ⟨noInsertion, old⟩
        · simp [isInserted]
        · simpa [noInsertion] using latest entry old
      obtain ⟨last, lastRepresents, lastLatest⟩ := inductionHypothesis nextRepresents nextLatest
      refine ⟨last, lastRepresents, fun entry present => ?_⟩
      simpa only [insertions, List.append_assoc] using lastLatest entry present

/-! ## Counting -/

/-- The count of entries is the number of slots that hold a value. -/
theorem Holds.size_eq_countP
    {store : SlotStore α}
    {ledger : Ledger α}
    (holds : store.Holds ledger) :
    store.size = store.slots.toList.countP fun slot => slot.content.isSome := by
  obtain ⟨entries, all, -, values_eq⟩ := holds.values_eq_map
  rw [holds.size_eq, ← all.length_eq, ← List.length_map, ← values_eq, values,
    List.length_filterMap_eq_countP]

/-- Every entry of a store can be reached, after these calls to it. -/
structure Reachable (calls : List (StoreCall α)) (store : SlotStore α) : Prop where
  /-- The free list names exactly the empty slots, each of them once. -/
  freeList : (after calls store).FreeListExact
  /-- The count of entries is the number of occupied slots. -/
  size_eq : (after calls store).size =
    (after calls store).slots.toList.countP fun slot => slot.content.isSome
  /-- The queue holds a key for every occupied slot, with the generation that the slot has now and
  the due instant with which its value was inserted. -/
  has_key : ∀ slot value, (after calls store).contentAt slot = some value →
    ∃ due rank, (insertions slot calls store).getLast? = some (due, value) ∧
      ⟨due, rank, ⟨slot, (after calls store).generationAt slot⟩⟩ ∈
        (after calls store).queue.toList
  /-- No call drops the key of an entry that is there afterwards. -/
  keeps_keys : ∀ call : StoreCall α, ∀ key ∈ (after calls store).queue.toList,
    (call.answer (after calls store)).2.contains key.handle = true →
      key ∈ (call.answer (after calls store)).2.queue.toList
  /-- There is no earliest entry exactly if there is no entry. -/
  peek_iff : (after calls store).peek.1 = none ↔ (after calls store).size = 0
  /-- As many values are taken out together as there are entries. -/
  length_removeAll : (after calls store).removeAll.1.length = (after calls store).size

/-- Every entry of a store that was empty at first can be reached, after any calls to it. -/
theorem reachable (limit : Option Nat) (calls : List (StoreCall α)) :
    Reachable calls (empty limit) := by
  have latest : Latest (.empty : Ledger α) fun _ => [] := nofun
  obtain ⟨ledger, represents, lastLatest⟩ :=
    exists_represents_latest (represents_empty limit) latest calls
  refine ⟨represents.holds.freeList, represents.holds.size_eq_countP, ?_, ?_, ?_, ?_⟩
  · intro slot value occupied
    obtain ⟨entry, present, rfl, rfl⟩ := (represents.holds.content_iff slot value).mp occupied
    refine ⟨entry.due, UInt64.ofNat entry.order, lastLatest entry present, ?_⟩
    have handle_eq : entry.handle =
        ⟨entry.handle.slot, (after calls (empty limit)).generationAt entry.handle.slot⟩ := by
      rw [represents.holds.generation_eq, ← represents.holds.coherent.live_generation entry present]
    rw [← handle_eq]
    exact represents.serves.live_key entry present
  · exact fun call key => mem_queue_answer represents call
  · rw [represents.peek_eq_none_iff, represents.holds.size_eq, List.length_eq_zero_iff]
  · obtain ⟨entries, all, -, values_eq⟩ := represents.holds.values_eq_map
    change (after calls (empty limit)).values.length = _
    rw [values_eq, List.length_map, all.length_eq, represents.holds.size_eq]

end SlotStore
end Agenda
