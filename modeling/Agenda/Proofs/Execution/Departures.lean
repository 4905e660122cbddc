import Agenda.Proofs.Execution.Course

/-!
# Departures from the store

As long as nothing is released, an item leaves the store only when its callback is called, by a
cancellation or because a loop fires it.  So what was in the store at first and what it took since
are the items whose callbacks were called and those that are still there, each of them once.
-/

namespace Agenda

variable {κ D ε : Type}

/-- The item whose callback was called, under its handle, if it was in the store. -/
def Event.departure? : Event κ D → Option (ItemHandle × Item κ D)
  | .dispatched callback told =>
      if told.handle.isDegenerate then none
      else some (told.handle, ⟨told.due, callback, told.data⟩)
  | _ => none

/-- The items of the store whose callbacks were called, the first one first. -/
def departures (history : List (Event κ D)) : List (ItemHandle × Item κ D) :=
  history.filterMap Event.departure?

@[simp] theorem departures_append (history events : List (Event κ D)) :
    departures (history ++ events) = departures history ++ departures events :=
  List.filterMap_append

/-- The items in the store, under their handles. -/
def Ledger.storedItems (ledger : Ledger (Item κ D)) : List (ItemHandle × Item κ D) :=
  ledger.live.map Scheduler.storedItem

theorem Ledger.mem_storedItems
    (ledger : Ledger (Item κ D))
    (handle : SlotHandle)
    (item : Item κ D) :
    (.stored handle, item) ∈ ledger.storedItems ↔
      ∃ entry ∈ ledger.live, entry.handle = handle ∧ entry.value = item := by
  simp [storedItems, Scheduler.storedItem]

/-! ## What was there and what came -/

/-- Between two ledgers items came into the store and left it, and nothing else became of them. -/
def Ledger.Passing (ledger : Ledger (Item κ D)) (events : List (Event κ D))
    (later : Ledger (Item κ D)) : Prop :=
  (ledger.storedItems ++ acceptances events).Perm (departures events ++ later.storedItems)

namespace Ledger.Passing

variable {ledger next last : Ledger (Item κ D)} {events later : List (Event κ D)}

theorem of_idle
    (noneAccepted : acceptances events = [])
    (noneDeparted : departures events = []) :
    ledger.Passing events ledger := by
  rw [Passing, noneAccepted, noneDeparted, List.append_nil, List.nil_append]

theorem trans
    (first : ledger.Passing events next)
    (second : next.Passing later last) :
    ledger.Passing (events ++ later) last := by
  have front := first.append_right (acceptances later)
  have back := second.append_left (departures events)
  rw [List.append_assoc, List.append_assoc] at front
  rw [← List.append_assoc (departures events) (departures later)] at back
  rw [Passing, acceptances_append, departures_append]
  exact front.trans back

/-- Where nothing is left, everything has left. -/
theorem departures_perm
    (passing : ledger.Passing events next)
    (noneLive : next.live = []) :
    (departures events).Perm (ledger.storedItems ++ acceptances events) := by
  have noneStored : next.storedItems = [] := by
    rw [storedItems, noneLive, List.map_nil]
  rw [Passing, noneStored, List.append_nil] at passing
  exact passing.symm

end Ledger.Passing

/-- A call of a callback is the departure of its item. -/
theorem Scheduler.passing_of_remove
    {scheduler remaining : Scheduler SlotStore κ D}
    {ledger : Ledger (Item κ D)}
    (represents : scheduler.store.Represents ledger)
    {handle : ItemHandle}
    {item : Item κ D}
    (removed : scheduler.remove handle = (some item, remaining))
    (reason : Reason) :
    ledger.Passing [.dispatched item.callback (item.dispatch handle reason)]
      (ledger.record (.dispatched item.callback (item.dispatch handle reason))) := by
  cases handle with
  | detached number => exact .of_idle rfl rfl
  | stored handle =>
      obtain ⟨entry, present, rfl, rfl, -⟩ := represents.of_remove_some (remove_stored removed).1
      have perm := represents.holds.coherent.cons_live_erase_perm present
      rw [Ledger.record_dispatch, Ledger.Passing, Ledger.storedItems]
      exact (List.append_nil _).symm ▸ (perm.map storedItem).symm

/-- A change that releases nothing accounts for the items in the store. -/
theorem Effect.passing
    {now : Instant}
    {scheduler next : Scheduler SlotStore κ D}
    {events : List (Event κ D)}
    (effect : Effect now scheduler events next)
    {ledger : Ledger (Item κ D)}
    (represents : scheduler.store.Represents ledger)
    (noRelease : ∀ items, .released items ∉ events) :
    ledger.Passing events (events.foldl Ledger.record ledger) := by
  cases effect with
  | quiet quiet =>
      rename Event κ D => event
      cases event <;> first | exact .of_idle rfl rfl | cases quiet
  | peek | detach | refuse | miss => exact .of_idle rfl rfl
  | accept =>
      rw [Ledger.Passing, Ledger.storedItems, List.foldl_cons, List.foldl_nil, Ledger.record,
        Ledger.storedItems, Ledger.live_add, List.map_append]
      exact .refl _
  | cancel removed => exact Scheduler.passing_of_remove represents removed .abort
  | fire peeked _ removed =>
      exact Scheduler.passing_of_remove (represents.of_peek peeked) removed .timed
  | release => exact absurd (List.mem_singleton_self _) (noRelease _)

/-! ## Handles of the items -/

/-- What has ever been in the store is what was in it before, and what it took. -/
theorem Effect.issued_perm
    {now : Instant}
    {scheduler next : Scheduler SlotStore κ D}
    {events : List (Event κ D)}
    (effect : Effect now scheduler events next)
    (ledger : Ledger (Item κ D)) :
    ((events.foldl Ledger.record ledger).issued.map Scheduler.storedItem).Perm
      (ledger.issued.map Scheduler.storedItem ++ acceptances events) := by
  have departs : ∀ leaves, ((ledger.departWhere leaves).issued.map Scheduler.storedItem).Perm
      (ledger.issued.map Scheduler.storedItem ++ []) := by
    intro leaves
    rw [List.append_nil]
    exact (ledger.issued_departWhere leaves).map _
  cases effect with
  | quiet quiet =>
      rw [List.foldl_cons, List.foldl_nil, Ledger.record_of_isQuiet ledger quiet]
      rename Event κ D => event
      cases event <;> first | exact (List.append_nil _).symm ▸ .refl _ | cases quiet
  | peek | detach | refuse | miss => exact (List.append_nil _).symm ▸ .refl _
  | accept =>
      rw [List.foldl_cons, List.foldl_nil, Ledger.record, Ledger.issued_add, List.map_append]
      exact .refl _
  | @cancel remaining handle _ _ =>
      cases handle with
      | stored handle => exact departs _
      | detached number => exact (List.append_nil _).symm ▸ .refl _
  | fire | release => exact departs _

/-- Within bounds no two entries that were ever in the store have the same handle. -/
theorem Ledger.Coherent.handles_nodup
    {ledger : Ledger (Item κ D)}
    (coherent : ledger.Coherent)
    (bounds : ledger.WithinBounds) :
    ((ledger.issued.map Scheduler.storedItem).map Prod.fst).Nodup := by
  rw [List.map_map]
  refine List.Nodup.map_on ?_ (coherent.order_nodup.of_map _)
  intro entry issued other otherIssued sameHandle
  exact coherent.eq_of_handle_eq bounds issued otherIssued (ItemHandle.stored.inj sameHandle)

/-! ## Whole histories -/

/-- What a history says of the store since the ledger that it began with is right. -/
structure Tracked (ledger : Ledger (Item κ D)) (history : List (Event κ D))
    (scheduler : Scheduler SlotStore κ D) : Prop where
  /-- The store has the entries that it should have. -/
  represents : scheduler.store.Represents (history.foldl Ledger.record ledger)
  /-- What was there and what came has left or is there, unless there was a release. -/
  passing : (∀ items, .released items ∉ history) →
    ledger.Passing history (history.foldl Ledger.record ledger)
  /-- What has ever been there was there before or has come. -/
  issued_perm : ((history.foldl Ledger.record ledger).issued.map Scheduler.storedItem).Perm
    (ledger.issued.map Scheduler.storedItem ++ acceptances history)

namespace Tracked

variable {ledger : Ledger (Item κ D)} {history events : List (Event κ D)}
variable {scheduler next : Scheduler SlotStore κ D}

theorem initially (represents : scheduler.store.Represents ledger) :
    Tracked ledger [] scheduler where
  represents := represents
  passing _ := .of_idle rfl rfl
  issued_perm := (List.append_nil _).symm ▸ .refl _

theorem change
    {now : Instant}
    (tracked : Tracked ledger history scheduler)
    (effect : Effect now scheduler events next) :
    Tracked ledger (history ++ events) next where
  represents := by
    rw [List.foldl_append]
    exact effect.represents tracked.represents
  passing noRelease := by
    rw [List.foldl_append]
    have earlier := tracked.passing fun items told => noRelease items (List.mem_append_left _ told)
    exact earlier.trans (effect.passing tracked.represents fun items told =>
      noRelease items (List.mem_append_right _ told))
  issued_perm := by
    rw [List.foldl_append, acceptances_append, ← List.append_assoc]
    exact (effect.issued_perm _).trans (tracked.issued_perm.append_right _)

/-- Within bounds no two of the items that were in the store or came into it have the same
handle. -/
theorem handles_nodup
    (tracked : Tracked ledger history scheduler)
    (bounds : (history.foldl Ledger.record ledger).WithinBounds) :
    ((ledger.storedItems ++ acceptances history).map Prod.fst).Nodup := by
  have coherent := tracked.represents.holds.coherent
  have perm := tracked.issued_perm.map Prod.fst
  have issued_nodup := perm.nodup_iff.mp (coherent.handles_nodup bounds)
  refine issued_nodup.sublist (List.Sublist.map _ (List.Sublist.append_right ?_ _))
  rw [Ledger.issued, List.map_append]
  exact List.sublist_append_right _ _

end Tracked

theorem Execution.tracked
    (act : Interpretation κ D ε)
    {execution : Execution SlotStore κ D ε}
    {ledger : Ledger (Item κ D)}
    (represents : execution.scheduler.store.Represents ledger)
    (steps : Nat) :
    Tracked ledger (execution.history act steps) (execution.after act steps).scheduler := by
  rw [← history_course]
  exact (execution.course act).timelessInvariant (Tracked ledger) (.initially represents)
    (fun effect tracked => tracked.change effect) steps

end Agenda
