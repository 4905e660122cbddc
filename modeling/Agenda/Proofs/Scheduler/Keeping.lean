import Agenda.Proofs.Scheduler.Detached
import Agenda.Proofs.Store.Representation
import Agenda.Scheduler.Basic

/-!
# What a scheduler keeps

The items that a scheduler keeps are those in its store and those that it keeps aside.  Taken
together under their handles they are a plain list in which no handle occurs twice.  Each
operation of the scheduler does to this list what its name says, and it does nothing else.
-/

namespace Agenda
namespace Scheduler

variable {κ D : Type}

section Removal

variable {σ : Type → Type} [OrderedStore σ]
variable {scheduler remaining : Scheduler σ κ D} {answer : Option (Item κ D)}

theorem remove_stored
    {handle : SlotHandle}
    (removed : scheduler.remove (.stored handle) = (answer, remaining)) :
    OrderedStore.remove scheduler.store handle = (answer, remaining.store) ∧
      remaining.detached = scheduler.detached := by
  cases removed
  exact ⟨rfl, rfl⟩

theorem remove_detached
    {number : UInt64}
    (removed : scheduler.remove (.detached number) = (answer, remaining)) :
    remaining.store = scheduler.store ∧
      scheduler.detached.remove number = (answer, remaining.detached) := by
  cases removed
  exact ⟨rfl, rfl⟩

theorem remove_stored_eq
    {handle : SlotHandle}
    {store : σ (Item κ D)}
    (removed : OrderedStore.remove scheduler.store handle = (answer, store)) :
    scheduler.remove (.stored handle) = (answer, { scheduler with store }) := by
  rw [remove, removed]

theorem remove_detached_eq
    {number : UInt64}
    {detached : DetachedItems κ D}
    (removed : scheduler.detached.remove number = (answer, detached)) :
    scheduler.remove (.detached number) = (answer, { scheduler with detached }) := by
  rw [remove, removed]

/-- What is taken out under a handle of the store was not kept aside. -/
theorem detached_of_remove
    {handle : ItemHandle}
    (isStored : handle.isDegenerate = false)
    (removed : scheduler.remove handle = (answer, remaining)) :
    remaining.detached = scheduler.detached := by
  cases handle with
  | stored handle => exact (remove_stored removed).2
  | detached number => cases isStored

theorem pollCeiling_remove
    {handle : ItemHandle}
    (removed : scheduler.remove handle = (answer, remaining)) :
    remaining.pollCeiling = scheduler.pollCeiling := by
  cases handle <;> cases removed <;> rfl

end Removal

/-- Where nothing is found, nothing is changed. -/
theorem eq_of_remove_none
    {scheduler remaining : Scheduler SlotStore κ D}
    {handle : ItemHandle}
    (removed : scheduler.remove handle = (none, remaining)) :
    remaining = scheduler := by
  cases handle with
  | stored handle =>
      obtain ⟨fromStore, -⟩ := remove_stored removed
      rw [remove_stored_eq fromStore, (SlotStore.of_remove_eq_none fromStore).2] at removed
      exact (Prod.mk.inj removed).2.symm
  | detached number =>
      obtain ⟨-, fromDetached⟩ := remove_detached removed
      rw [remove_detached_eq fromDetached, DetachedItems.eq_of_remove_none fromDetached] at removed
      exact (Prod.mk.inj removed).2.symm

/-- The item of an entry under the handle that a scheduler gives it. -/
def storedItem (entry : Entry (Item κ D)) : ItemHandle × Item κ D :=
  (.stored entry.handle, entry.value)

/-- An item kept aside under the handle that a scheduler gives it. -/
def detachedItem (entry : UInt64 × Item κ D) : ItemHandle × Item κ D :=
  (.detached entry.1, entry.2)

/-- A scheduler over a slot store keeps some items under their handles, after a number of items
were refused. -/
structure Keeps (scheduler : Scheduler SlotStore κ D) (refusals : Nat)
    (pending : List (ItemHandle × Item κ D)) : Prop where
  /-- The store is in order, and the items are those of its entries and the ones kept aside. -/
  exists_ledger : ∃ ledger, scheduler.store.Represents ledger ∧
    pending.Perm (ledger.live.map storedItem ++ scheduler.detached.items.map detachedItem)
  /-- The items kept aside are numbered. -/
  numbered : scheduler.detached.Numbered refusals

/-- What a handle does not name stays. -/
def otherThan (handle : ItemHandle) (kept : ItemHandle × Item κ D) : Bool := kept.1 != handle

theorem filter_storedItem (handle : SlotHandle) (entries : List (Entry (Item κ D))) :
    (entries.map storedItem).filter (otherThan (.stored handle)) =
      (entries.filter fun entry => !entry.handle == handle).map storedItem := by
  rw [List.filter_map]
  congr 2
  funext entry
  simp [otherThan, storedItem, bne]

theorem filter_detachedItem (number : UInt64) (entries : List (UInt64 × Item κ D)) :
    (entries.map detachedItem).filter (otherThan (.detached number)) =
      (entries.filter fun entry => entry.1 != number).map detachedItem := by
  rw [List.filter_map]
  congr 2
  funext entry
  simp [otherThan, detachedItem, bne]

theorem countP_kept
    (counts : Bool → Bool)
    (entries : List (Entry (Item κ D)))
    (aside : List (UInt64 × Item κ D)) :
    (entries.map storedItem ++ aside.map detachedItem).countP
        (fun kept => counts kept.1.isDegenerate) =
      (if counts false then entries.length else 0) + if counts true then aside.length else 0 := by
  rw [List.countP_append, List.countP_map, List.countP_map]
  congr 1
  · cases stored : counts false <;>
      simp [Function.comp_def, storedItem, ItemHandle.isDegenerate, stored]
  · cases detached : counts true <;>
      simp [Function.comp_def, detachedItem, ItemHandle.isDegenerate, detached]

theorem keeps_empty
    {scheduler : Scheduler SlotStore κ D}
    {limit : Option Nat}
    (startsEmpty : scheduler.store = .empty limit)
    (noneDetached : scheduler.detached = .empty) :
    scheduler.Keeps 0 [] := by
  refine ⟨⟨.empty, ?_, ?_⟩, ?_⟩
  · rw [startsEmpty]
    exact SlotStore.represents_empty limit
  · rw [noneDetached]
    exact .refl []
  · rw [noneDetached]
    exact DetachedItems.numbered_empty

namespace Keeps

variable {scheduler remaining : Scheduler SlotStore κ D} {refusals : Nat}
variable {pending : List (ItemHandle × Item κ D)}

/-! ## What can be seen -/

/-- No handle names two items. -/
theorem handles_nodup (keeps : scheduler.Keeps refusals pending) :
    (pending.map Prod.fst).Nodup := by
  obtain ⟨ledger, represents, perm⟩ := keeps.exists_ledger
  rw [(perm.map Prod.fst).nodup_iff, List.map_append, List.map_map, List.map_map,
    List.nodup_append]
  refine ⟨?_, ?_, ?_⟩
  · refine List.Nodup.map_on ?_ represents.holds.coherent.live_nodup
    intro entry present other otherPresent sameHandle
    have handle_eq : entry.handle = other.handle := ItemHandle.stored.inj sameHandle
    exact represents.holds.coherent.eq_of_slot_eq present otherPresent
      (congrArg SlotHandle.slot handle_eq)
  · have numbers_nodup := keeps.numbered.numbers_nodup.map (f := ItemHandle.detached)
      fun _ _ same => ItemHandle.detached.inj same
    rwa [List.map_map] at numbers_nodup
  · intro handle isStored other isDetached
    obtain ⟨entry, -, rfl⟩ := List.mem_map.mp isStored
    obtain ⟨aside, -, rfl⟩ := List.mem_map.mp isDetached
    exact nofun

theorem get?_store_eq_some_iff
    (keeps : scheduler.Keeps refusals pending)
    (handle : SlotHandle)
    (item : Item κ D) :
    scheduler.store.get? handle = some item ↔ (.stored handle, item) ∈ pending := by
  obtain ⟨ledger, represents, perm⟩ := keeps.exists_ledger
  rw [represents.holds.get?_eq_some_iff, perm.mem_iff, List.mem_append, List.mem_map,
    List.mem_map]
  simp [storedItem, detachedItem]

theorem get?_detached_eq_some_iff
    (keeps : scheduler.Keeps refusals pending)
    (number : UInt64)
    (item : Item κ D) :
    scheduler.detached.get? number = some item ↔ (.detached number, item) ∈ pending := by
  obtain ⟨ledger, -, perm⟩ := keeps.exists_ledger
  rw [keeps.numbered.get?_eq_some_iff, perm.mem_iff, List.mem_append, List.mem_map,
    List.mem_map]
  simp [storedItem, detachedItem]

theorem size_eq (keeps : scheduler.Keeps refusals pending) :
    scheduler.size = pending.countP fun kept => !kept.1.isDegenerate := by
  obtain ⟨ledger, represents, perm⟩ := keeps.exists_ledger
  rw [perm.countP_eq, countP_kept not]
  exact represents.holds.size_eq

theorem detachedCount_eq (keeps : scheduler.Keeps refusals pending) :
    scheduler.detachedCount = pending.countP fun kept => kept.1.isDegenerate := by
  obtain ⟨ledger, represents, perm⟩ := keeps.exists_ledger
  rw [perm.countP_eq]
  exact ((countP_kept id _ _).trans (Nat.zero_add _)).symm

/-! ## What can be done -/

theorem of_peek
    (keeps : scheduler.Keeps refusals pending)
    {found : Option (SlotHandle × Instant)}
    {store : SlotStore (Item κ D)}
    (peeked : scheduler.store.peek = (found, store)) :
    ({ scheduler with store } : Scheduler SlotStore κ D).Keeps refusals pending := by
  obtain ⟨ledger, represents, perm⟩ := keeps.exists_ledger
  exact ⟨⟨ledger, represents.of_peek peeked, perm⟩, keeps.numbered⟩

theorem accept
    (keeps : scheduler.Keeps refusals pending)
    {item : Item κ D}
    {handle : SlotHandle}
    {store : SlotStore (Item κ D)}
    (inserted : scheduler.store.insert item.due item = (.ok handle, store)) :
    ({ scheduler with store } : Scheduler SlotStore κ D).Keeps refusals
      (pending ++ [(.stored handle, item)]) := by
  obtain ⟨ledger, represents, perm⟩ := keeps.exists_ledger
  refine ⟨⟨_, represents.of_insert_ok inserted, ?_⟩, keeps.numbered⟩
  rw [Ledger.live_add, List.map_append, List.append_assoc]
  refine (perm.append_right _).trans ?_
  rw [List.append_assoc]
  exact List.perm_append_comm.append_left _

theorem of_insert_error
    (keeps : scheduler.Keeps refusals pending)
    {item : Item κ D}
    {refused : Refused (Item κ D)}
    {store : SlotStore (Item κ D)}
    (inserted : scheduler.store.insert item.due item = (.error refused, store)) :
    refused.value = item ∧ store = scheduler.store := by
  obtain ⟨ledger, represents, -⟩ := keeps.exists_ledger
  obtain ⟨-, rfl, sameStore⟩ := represents.of_insert_error inserted
  exact ⟨rfl, sameStore⟩

theorem detach
    (keeps : scheduler.Keeps refusals pending)
    (few : refusals < 2 ^ 64)
    (item : Item κ D) :
    ({ scheduler with detached := (scheduler.detached.add item).2 } :
      Scheduler SlotStore κ D).Keeps (refusals + 1)
        (pending ++ [(.detached scheduler.detached.nextNumber, item)]) := by
  obtain ⟨ledger, represents, perm⟩ := keeps.exists_ledger
  refine ⟨⟨ledger, represents, ?_⟩, keeps.numbered.add few item⟩
  rw [keeps.numbered.items_add few, List.map_cons]
  refine (perm.append_right _).trans ?_
  rw [List.append_assoc]
  exact List.perm_append_comm.append_left _

/-- Taking out an item leaves all the others. -/
theorem of_remove_some
    (keeps : scheduler.Keeps refusals pending)
    {handle : ItemHandle}
    {item : Item κ D}
    (removed : scheduler.remove handle = (some item, remaining)) :
    (handle, item) ∈ pending ∧
      remaining.Keeps refusals (pending.filter (otherThan handle)) := by
  obtain ⟨ledger, represents, perm⟩ := keeps.exists_ledger
  have others_perm := perm.filter (otherThan handle)
  rw [List.filter_append] at others_perm
  cases handle with
  | stored handle =>
      obtain ⟨fromStore, sameDetached⟩ := remove_stored removed
      obtain ⟨entry, present, rfl, rfl, erased⟩ := represents.of_remove_some fromStore
      have detachedStay : (scheduler.detached.items.map detachedItem).filter
          (otherThan (.stored entry.handle)) = scheduler.detached.items.map detachedItem := by
        rw [List.filter_eq_self]
        intro kept isDetached
        obtain ⟨aside, -, rfl⟩ := List.mem_map.mp isDetached
        rfl
      rw [filter_storedItem, detachedStay, ← sameDetached] at others_perm
      refine ⟨?_, ⟨_, erased, others_perm⟩, sameDetached ▸ keeps.numbered⟩
      rw [perm.mem_iff]
      exact List.mem_append_left _ (List.mem_map.mpr ⟨entry, present, rfl⟩)
  | detached number =>
      obtain ⟨sameStore, fromDetached⟩ := remove_detached removed
      obtain ⟨numbered, items_eq, found⟩ := keeps.numbered.of_remove fromDetached
      have storedStay : (ledger.live.map storedItem).filter (otherThan (.detached number)) =
          ledger.live.map storedItem := by
        rw [List.filter_eq_self]
        intro kept isStored
        obtain ⟨entry, -, rfl⟩ := List.mem_map.mp isStored
        rfl
      rw [filter_detachedItem, storedStay, ← items_eq] at others_perm
      refine ⟨?_, ⟨ledger, sameStore ▸ represents, others_perm⟩, numbered⟩
      exact (keeps.get?_detached_eq_some_iff number item).mp found

/-- Where a handle names nothing, nothing is changed. -/
theorem of_remove_none
    (keeps : scheduler.Keeps refusals pending)
    {handle : ItemHandle}
    (removed : scheduler.remove handle = (none, remaining)) :
    remaining.Keeps refusals pending := by
  rw [eq_of_remove_none removed]
  exact keeps

/-- A release gives up all the items and leaves none. -/
theorem release (keeps : scheduler.Keeps refusals pending) :
    scheduler.release.1.Perm (pending.map Prod.snd) ∧
      scheduler.release.2.Keeps refusals [] := by
  obtain ⟨ledger, represents, perm⟩ := keeps.exists_ledger
  obtain ⟨entries, entries_perm, -, values_eq⟩ := represents.holds.values_eq_map
  constructor
  · have values_perm : scheduler.store.values.Perm (ledger.live.map Entry.value) := by
      rw [values_eq]
      exact entries_perm.map Entry.value
    have items_perm := perm.map Prod.snd
    rw [List.map_append, List.map_map, List.map_map] at items_perm
    exact (values_perm.append_right _).trans items_perm.symm
  · refine ⟨⟨ledger.clear, represents.removeAll, ?_⟩, keeps.numbered.removeAll⟩
    rw [Ledger.live_clear]
    exact .refl []

end Keeps

end Scheduler
end Agenda
