import Agenda.Proofs.DueInstants
import Agenda.Proofs.Execution.Parties

/-!
# The order in which items fire

Items fire in the order of their due instants, and those due at the same instant in the order in
which the store took them.  This holds over the whole life of a scheduler, for items however far
apart, as long as the clock does not go back.

The reason is that a fired item is never due after the clock, and that due instants are whole
seconds counted from a reading that is cut to whole seconds.  So whatever is taken later is due
no earlier than what has fired, and it has a larger number.  The entries that have fired are
therefore ordered, and they come before all entries that are still pending.
-/

namespace Agenda

variable {κ D ε : Type}

/-- How many items the store took before the one with a handle. -/
def acceptanceOrder (history : List (Event κ D)) (handle : ItemHandle) : Nat :=
  ((acceptances history).map Prod.fst).idxOf handle

/-- An item with a due instant and a handle comes before another: it is due earlier, or it is
due at the same instant and the store took it earlier. -/
def ComesBefore (history : List (Event κ D)) (due : Instant) (handle : ItemHandle)
    (otherDue : Instant) (otherHandle : ItemHandle) : Prop :=
  due < otherDue ∨
    due = otherDue ∧ acceptanceOrder history handle < acceptanceOrder history otherHandle

/-- Items have fired in order, and whatever is pending or was taken later comes after them. -/
structure FiresInOrder (history : List (Event κ D)) (scheduler : Scheduler SlotStore κ D) :
    Prop where
  /-- No handle was given out twice, so handles tell the accepted items apart. -/
  handles_nodup : ((acceptances history).map Prod.fst).Nodup
  /-- What fires is an item that the store took under that handle, with that due instant. -/
  fired_accepted : ∀ told ∈ timedDispatches history, ∃ item,
    (told.handle, item) ∈ acceptances history ∧ told = item.dispatch told.handle .timed
  /-- Every item that fires comes before all items that fire later. -/
  fired_pairwise : (timedDispatches history).Pairwise fun earlier later =>
    ComesBefore history earlier.due earlier.handle later.due later.handle
  /-- An item that is taken after another has fired is due no earlier. -/
  newcomers_pairwise : history.Pairwise fun earlier later =>
    ∀ told ∈ earlier.timed?, ∀ taken ∈ later.acceptance?, told.due ≤ taken.2.due
  /-- Every item that has fired comes before all items that are still pending. -/
  pending_later : ∀ handle item, scheduler.store.get? handle = some item →
    ∀ told ∈ timedDispatches history,
      ComesBefore history told.due told.handle item.due (.stored handle)

/-! ## Changes of a ledger -/

namespace Ledger

/-- One change of a ledger, and the events that tell of it. -/
inductive Change (now : Instant) (ledger : Ledger (Item κ D)) :
    List (Event κ D) → Ledger (Item κ D) → Prop where
  /-- Entries leave without being fired, or none does. -/
  | depart {events : List (Event κ D)} (leaves : Entry (Item κ D) → Bool) :
      acceptances events = [] → timedDispatches events = [] →
      Change now ledger events (ledger.departWhere leaves)
  /-- A new item is taken. -/
  | accept {delay : Delay} {callback : κ} {data : D} {item : Item κ D} {handle : SlotHandle} :
      item = Scheduler.itemAfter now delay callback data →
      Change now ledger [.accepted (.stored handle) item] (ledger.add handle item.due item)
  /-- An entry is fired; within bounds it is the earliest and is due. -/
  | fire {entry : Entry (Item κ D)} :
      entry ∈ ledger.live →
      (ledger.WithinBounds → ledger.IsEarliest entry ∧ entry.due ≤ now) →
      Change now ledger
        [.dispatched entry.value.callback (entry.value.dispatch (.stored entry.handle) .timed)]
        (ledger.erase entry.handle)

theorem Change.idle
    {now : Instant}
    {ledger : Ledger (Item κ D)}
    {events : List (Event κ D)}
    (noneTaken : acceptances events = [])
    (noneFired : timedDispatches events = []) :
    Change now ledger events ledger := by
  have change : Change now ledger events (ledger.departWhere fun _ => false) :=
    .depart _ noneTaken noneFired
  have unchanged : ledger.departWhere (fun _ => false) = ledger := by
    simp [departWhere]
  rwa [unchanged] at change

end Ledger

/-- What a change of a scheduler means for the ledger of its store. -/
theorem Effect.change
    {now : Instant}
    {scheduler next : Scheduler SlotStore κ D}
    {events : List (Event κ D)}
    (effect : Effect now scheduler events next)
    {ledger : Ledger (Item κ D)}
    (represents : scheduler.store.Represents ledger) :
    Ledger.Change now ledger events (events.foldl Ledger.record ledger) := by
  cases effect with
  | quiet quiet =>
      rw [List.foldl_cons, Ledger.record_of_isQuiet ledger quiet]
      rename Event κ D => event
      cases event <;> first | exact .idle rfl rfl | cases quiet
  | peek | miss | detach | refuse => exact .idle rfl rfl
  | accept isNew _ => exact .accept isNew
  | release => exact .depart _ rfl rfl
  | cancel _ =>
      rename ItemHandle => handle
      cases handle with
      | stored handle => exact .depart _ rfl rfl
      | detached number => exact .idle rfl rfl
  | fire peeked due_le removed =>
      have looked := represents.of_peek peeked
      obtain ⟨fromStore, -⟩ := Scheduler.remove_stored removed
      obtain ⟨entry, present, rfl, rfl, -⟩ := looked.of_remove_some fromStore
      apply Ledger.Change.fire present
      intro bounds
      obtain ⟨first, earliest, sameHandle, rfl⟩ :=
        represents.isEarliest_of_peek bounds (congrArg Prod.fst peeked)
      have sameEntry : first = entry :=
        represents.holds.coherent.eq_of_slot_eq earliest.1 present
          (congrArg SlotHandle.slot sameHandle)
      rw [← sameEntry]
      exact ⟨earliest, due_le⟩

/-! ## The books of a history -/

/-- The entries of a ledger are the items that the history says were accepted, numbered in this
order, and they are due at whole seconds. -/
structure Ledger.Books (ledger : Ledger (Item κ D)) (history : List (Event κ D)) : Prop where
  /-- Every acceptance made an entry, and nothing else did. -/
  acceptances_perm :
    (ledger.issued.map fun entry => (ItemHandle.stored entry.handle, entry.value)).Perm
      (acceptances history)
  /-- The number of an entry says which acceptance made it. -/
  acceptance_eq : ∀ entry ∈ ledger.issued,
    (acceptances history)[entry.order]? = some (.stored entry.handle, entry.value)
  /-- Entries are due at whole seconds. -/
  whole : ∀ entry ∈ ledger.issued, millisecondsPerSecond ∣ entry.due

namespace Ledger

variable {now : Instant} {ledger later : Ledger (Item κ D)} {history events : List (Event κ D)}

theorem books_empty : (empty : Ledger (Item κ D)).Books [] where
  acceptances_perm := .refl _
  acceptance_eq _ present := nomatch present
  whole _ present := nomatch present

theorem Books.departWhere
    (books : ledger.Books history)
    (noneTaken : acceptances events = [])
    (leaves : Entry (Item κ D) → Bool) :
    (ledger.departWhere leaves).Books (history ++ events) := by
  have issued_perm := ledger.issued_departWhere leaves
  have acceptances_eq : acceptances (history ++ events) = acceptances history := by
    rw [acceptances_append, noneTaken, List.append_nil]
  refine ⟨?_, ?_, ?_⟩
  · rw [acceptances_eq]
    exact (issued_perm.map _).trans books.acceptances_perm
  · intro entry present
    rw [acceptances_eq]
    exact books.acceptance_eq entry (issued_perm.mem_iff.mp present)
  · intro entry present
    exact books.whole entry (issued_perm.mem_iff.mp present)

theorem Books.add
    (books : ledger.Books history)
    (handle : SlotHandle)
    {item : Item κ D}
    (whole : millisecondsPerSecond ∣ item.due) :
    (ledger.add handle item.due item).Books (history ++ [.accepted (.stored handle) item]) := by
  have acceptances_eq : acceptances (history ++ [.accepted (.stored handle) item]) =
      acceptances history ++ [(.stored handle, item)] := acceptances_append _ _
  have inserted_eq : ledger.inserted = (acceptances history).length := by
    rw [← books.acceptances_perm.length_eq, List.length_map, inserted]
  refine ⟨?_, ?_, ?_⟩
  · rw [acceptances_eq, issued_add, List.map_append]
    exact books.acceptances_perm.append_right _
  · intro entry present
    rw [issued_add, List.mem_append, List.mem_singleton] at present
    rw [acceptances_eq]
    rcases present with old | rfl
    · have found := books.acceptance_eq entry old
      have inRange := (List.getElem?_eq_some_iff.mp found).1
      rw [List.getElem?_append_left inRange]
      exact found
    · rw [newEntry, inserted_eq, List.getElem?_concat_length]
  · intro entry present
    rw [issued_add, List.mem_append, List.mem_singleton] at present
    rcases present with old | rfl
    · exact books.whole entry old
    · exact whole

theorem Books.change
    (books : ledger.Books history)
    (change : Change now ledger events later) :
    later.Books (history ++ events) := by
  cases change with
  | depart leaves noneTaken _ => exact books.departWhere noneTaken leaves
  | accept isNew =>
      apply books.add
      rw [isNew]
      exact millisecondsPerSecond_dvd_dueAfter _ _
  | fire => exact books.departWhere rfl _

theorem Books.handles_nodup
    (books : ledger.Books history)
    (coherent : ledger.Coherent)
    (bounds : ledger.WithinBounds) :
    ((acceptances history).map Prod.fst).Nodup := by
  have handles_perm := books.acceptances_perm.map Prod.fst
  rw [← handles_perm.nodup_iff, List.map_map]
  refine List.Nodup.map_on ?_ (coherent.order_nodup.of_map _)
  intro entry entryIssued other otherIssued sameHandle
  exact coherent.eq_of_handle_eq bounds entryIssued otherIssued (ItemHandle.stored.inj sameHandle)

/-- Within bounds, the number of an entry is the place of its handle among the acceptances. -/
theorem Books.acceptanceOrder_eq
    (books : ledger.Books history)
    (coherent : ledger.Coherent)
    (bounds : ledger.WithinBounds)
    {entry : Entry (Item κ D)}
    (issued : entry ∈ ledger.issued) :
    acceptanceOrder history (.stored entry.handle) = entry.order := by
  have found := books.acceptance_eq entry issued
  obtain ⟨inRange, atOrder⟩ := List.getElem?_eq_some_iff.mp found
  have handleInRange : entry.order < ((acceptances history).map Prod.fst).length := by
    rwa [List.length_map]
  have handleAt : ((acceptances history).map Prod.fst)[entry.order] = .stored entry.handle := by
    rw [List.getElem_map, atOrder]
  rw [acceptanceOrder, ← handleAt]
  exact (books.handles_nodup coherent bounds).idxOf_getElem _ _

end Ledger

/-! ## What has fired -/

/-- What a callback is told when an entry fires. -/
def Entry.fired (entry : Entry (Item κ D)) : Dispatch D :=
  entry.value.dispatch (.stored entry.handle) .timed

/-- The entries that a history has fired: they are ordered and not due after the clock, and they
come before all that are pending. -/
structure Chronicle (now : Instant) (history : List (Event κ D))
    (fired : List (Entry (Item κ D))) : Prop where
  /-- These are the entries whose callbacks ran because they were due. -/
  dispatches_eq : timedDispatches history = fired.map Entry.fired
  /-- They were in the store. -/
  issued : ∀ entry ∈ fired, entry ∈ (Ledger.ofHistory history).issued
  /-- Their due instants had come. -/
  due_le : ∀ entry ∈ fired, entry.due ≤ now
  /-- They fired in order. -/
  pairwise : fired.Pairwise Entry.before
  /-- They come before the pending entries. -/
  before_live : ∀ entry ∈ fired, ∀ other ∈ (Ledger.ofHistory history).live, entry.before other
  /-- What was taken after one of them fired is due no earlier. -/
  newcomers_pairwise : history.Pairwise fun earlier later =>
    ∀ told ∈ earlier.timed?, ∀ taken ∈ later.acceptance?, told.due ≤ taken.2.due

namespace Chronicle

variable {now : Instant} {history events : List (Event κ D)} {fired : List (Entry (Item κ D))}

theorem empty : Chronicle now ([] : List (Event κ D)) [] where
  dispatches_eq := rfl
  issued _ present := nomatch present
  due_le _ present := nomatch present
  pairwise := .nil
  before_live _ present := nomatch present
  newcomers_pairwise := .nil

theorem passes
    (chronicle : Chronicle now history fired)
    {later : Instant}
    (notBack : now ≤ later) :
    Chronicle later history fired :=
  { chronicle with
    due_le := fun entry present => Nat.le_trans (chronicle.due_le entry present) notBack }

theorem newcomers_append
    (newcomers : history.Pairwise fun earlier later =>
      ∀ told ∈ earlier.timed?, ∀ taken ∈ later.acceptance?, told.due ≤ taken.2.due)
    (noneFirst : acceptances events = [] ∨ timedDispatches events = [])
    (notEarlier : ∀ told ∈ timedDispatches history, ∀ taken ∈ acceptances events,
      told.due ≤ taken.2.due) :
    (history ++ events).Pairwise fun earlier later =>
      ∀ told ∈ earlier.timed?, ∀ taken ∈ later.acceptance?, told.due ≤ taken.2.due := by
  rw [List.pairwise_append]
  refine ⟨newcomers, ?_, ?_⟩
  · apply List.pairwise_of_forall_mem_list
    intro earlier earlierTold later laterTold told hasFired taken hasTaken
    have isFired : told ∈ timedDispatches events :=
      List.mem_filterMap.mpr ⟨earlier, earlierTold, hasFired⟩
    have isTaken : taken ∈ acceptances events :=
      List.mem_filterMap.mpr ⟨later, laterTold, hasTaken⟩
    rcases noneFirst with noneTaken | noneFired
    · rw [noneTaken] at isTaken
      cases isTaken
    · rw [noneFired] at isFired
      cases isFired
  · intro earlier earlierTold later laterTold told hasFired taken hasTaken
    exact notEarlier told (List.mem_filterMap.mpr ⟨earlier, earlierTold, hasFired⟩) taken
      (List.mem_filterMap.mpr ⟨later, laterTold, hasTaken⟩)

/-- Departures of entries that do not fire leave the fired entries as they are. -/
theorem depart
    (chronicle : Chronicle now history fired)
    {leaves : Entry (Item κ D) → Bool}
    (recorded : Ledger.ofHistory (history ++ events) =
      (Ledger.ofHistory history).departWhere leaves)
    (noneTaken : acceptances events = [])
    (noneFired : timedDispatches events = []) :
    Chronicle now (history ++ events) fired := by
  refine ⟨?_, ?_, chronicle.due_le, chronicle.pairwise, ?_, ?_⟩
  · rw [timedDispatches_append, noneFired, List.append_nil]
    exact chronicle.dispatches_eq
  · intro entry present
    rw [recorded]
    exact (Ledger.extends_departWhere _ _).issued_subset (chronicle.issued entry present)
  · intro entry present other stillLive
    rw [recorded, Ledger.mem_live_departWhere] at stillLive
    exact chronicle.before_live entry present other stillLive.1
  · apply newcomers_append chronicle.newcomers_pairwise (Or.inl noneTaken)
    intro told _ taken isTaken
    rw [noneTaken] at isTaken
    cases isTaken

/-- A new item comes after all that have fired. -/
theorem accept
    (chronicle : Chronicle now history fired)
    (books : (Ledger.ofHistory history).Books history)
    (coherent : (Ledger.ofHistory history).Coherent)
    {delay : Delay}
    {callback : κ}
    {data : D}
    {item : Item κ D}
    (isNew : item = Scheduler.itemAfter now delay callback data)
    (handle : SlotHandle) :
    Chronicle now (history ++ [.accepted (.stored handle) item]) fired := by
  have recorded : Ledger.ofHistory (history ++ [.accepted (.stored handle) item]) =
      (Ledger.ofHistory history).add handle item.due item := Ledger.ofHistory_append _ _
  have due_le : ∀ entry ∈ fired, entry.due ≤ item.due := by
    intro entry present
    rw [isNew]
    exact le_dueAfter (books.whole entry (chronicle.issued entry present))
      (chronicle.due_le entry present) delay
  refine ⟨?_, ?_, chronicle.due_le, chronicle.pairwise, ?_, ?_⟩
  · rw [timedDispatches_append]
    exact (List.append_nil _).trans chronicle.dispatches_eq
  · intro entry present
    rw [recorded]
    exact (Ledger.extends_add _ _ _ _).issued_subset (chronicle.issued entry present)
  · intro entry present other otherLive
    rw [recorded, Ledger.live_add, List.mem_append, List.mem_singleton] at otherLive
    rcases otherLive with old | rfl
    · exact chronicle.before_live entry present other old
    · rcases Nat.lt_or_eq_of_le (due_le entry present) with earlier | sameDue
      · exact Or.inl earlier
      · exact Or.inr ⟨sameDue, coherent.order_lt entry (chronicle.issued entry present)⟩
  · apply newcomers_append chronicle.newcomers_pairwise (Or.inr rfl)
    intro told hasFired taken isTaken
    obtain rfl := List.mem_singleton.mp isTaken
    rw [chronicle.dispatches_eq, List.mem_map] at hasFired
    obtain ⟨entry, present, rfl⟩ := hasFired
    have sameDue := Ledger.duesAgree_ofHistory history entry (chronicle.issued entry present)
    exact Nat.le_trans (Nat.le_of_eq sameDue.symm) (due_le entry present)

/-- The earliest entry comes after all that have fired and before all others. -/
theorem fire
    (chronicle : Chronicle now history fired)
    {entry : Entry (Item κ D)}
    (earliest : (Ledger.ofHistory history).IsEarliest entry)
    (due_le : entry.due ≤ now) :
    Chronicle now
      (history ++
        [.dispatched entry.value.callback (entry.value.dispatch (.stored entry.handle) .timed)])
      (fired ++ [entry]) := by
  have recorded : Ledger.ofHistory (history ++
      [.dispatched entry.value.callback (entry.value.dispatch (.stored entry.handle) .timed)]) =
      (Ledger.ofHistory history).erase entry.handle := Ledger.ofHistory_append _ _
  refine ⟨?_, ?_, ?_, ?_, ?_, ?_⟩
  · rw [timedDispatches_append, chronicle.dispatches_eq, List.map_append]
    rfl
  · intro other present
    rw [recorded]
    apply (Ledger.extends_departWhere _ _).issued_subset
    rw [List.mem_append, List.mem_singleton] at present
    rcases present with old | rfl
    · exact chronicle.issued other old
    · exact Ledger.mem_issued_of_live earliest.1
  · intro other present
    rw [List.mem_append, List.mem_singleton] at present
    rcases present with old | rfl
    · exact chronicle.due_le other old
    · exact due_le
  · rw [List.pairwise_append]
    refine ⟨chronicle.pairwise, List.pairwise_singleton _ _, ?_⟩
    intro other present last isLast
    obtain rfl := List.mem_singleton.mp isLast
    exact chronicle.before_live other present last earliest.1
  · intro other present stillLive isLive
    rw [recorded, Ledger.erase, Ledger.mem_live_departWhere] at isLive
    obtain ⟨wasLive, otherHandle⟩ := isLive
    rw [List.mem_append, List.mem_singleton] at present
    rcases present with old | rfl
    · exact chronicle.before_live other old stillLive wasLive
    · rcases earliest.2 stillLive wasLive with rfl | later
      · simp at otherHandle
      · exact later
  · apply newcomers_append chronicle.newcomers_pairwise (Or.inl rfl)
    intro told _ taken isTaken
    cases isTaken

/-- Every change carries the chronicle on. -/
theorem change
    (chronicle : Chronicle now history fired)
    (books : (Ledger.ofHistory history).Books history)
    (coherent : (Ledger.ofHistory history).Coherent)
    (bounds : (Ledger.ofHistory history).WithinBounds)
    (change : Ledger.Change now (.ofHistory history) events (.ofHistory (history ++ events))) :
    ∃ later, Chronicle now (history ++ events) later := by
  generalize recorded : Ledger.ofHistory (history ++ events) = ledger at change
  cases change with
  | depart leaves noneTaken noneFired =>
      exact ⟨fired, chronicle.depart recorded noneTaken noneFired⟩
  | accept isNew => exact ⟨fired, chronicle.accept books coherent isNew _⟩
  | @fire entry _ withinBounds =>
      obtain ⟨earliest, due_le⟩ := withinBounds bounds
      exact ⟨fired ++ [entry], chronicle.fire earliest due_le⟩

/-- A chronicle and the books of a ledger say that items have fired in order. -/
theorem firesInOrder
    (chronicle : Chronicle now history fired)
    (books : (Ledger.ofHistory history).Books history)
    (bounds : (Ledger.ofHistory history).WithinBounds)
    {scheduler : Scheduler SlotStore κ D}
    (represents : scheduler.store.Represents (.ofHistory history)) :
    FiresInOrder history scheduler := by
  have coherent := represents.holds.coherent
  have comesBefore : ∀ entry ∈ (Ledger.ofHistory history).issued,
      ∀ other ∈ (Ledger.ofHistory history).issued, entry.before other →
        ComesBefore history entry.value.due (.stored entry.handle) other.value.due
          (.stored other.handle) := by
    intro entry entryIssued other otherIssued isBefore
    rw [ComesBefore, books.acceptanceOrder_eq coherent bounds entryIssued,
      books.acceptanceOrder_eq coherent bounds otherIssued,
      ← Ledger.duesAgree_ofHistory history entry entryIssued,
      ← Ledger.duesAgree_ofHistory history other otherIssued]
    exact isBefore
  refine ⟨books.handles_nodup coherent bounds, ?_, ?_, chronicle.newcomers_pairwise, ?_⟩
  · intro told hasFired
    rw [chronicle.dispatches_eq, List.mem_map] at hasFired
    obtain ⟨entry, present, rfl⟩ := hasFired
    have accepted := books.acceptance_eq entry (chronicle.issued entry present)
    exact ⟨entry.value, List.mem_of_getElem? accepted, rfl⟩
  · rw [chronicle.dispatches_eq, List.pairwise_map]
    refine chronicle.pairwise.imp_of_mem ?_
    intro entry other entryFired otherFired isBefore
    exact comesBefore entry (chronicle.issued entry entryFired) other
      (chronicle.issued other otherFired) isBefore
  · intro handle item pending told hasFired
    rw [chronicle.dispatches_eq, List.mem_map] at hasFired
    obtain ⟨entry, present, rfl⟩ := hasFired
    obtain ⟨other, otherLive, rfl, rfl⟩ :=
      (represents.holds.get?_eq_some_iff handle item).mp pending
    exact comesBefore entry (chronicle.issued entry present) other
      (Ledger.mem_issued_of_live otherLive) (chronicle.before_live entry present other otherLive)

end Chronicle

/-! ## Whole courses -/

/-- Along a course whose clock does not go back, items fire in order. -/
theorem Course.firesInOrder
    (course : Course SlotStore κ D)
    {limit : Option Nat}
    (initiallyEmpty : (course.scheduler 0).store = .empty limit)
    {steps : Nat}
    (notBack : ∀ step < steps, course.now step ≤ course.now (step + 1))
    (bounds : (course.ledger steps).WithinBounds) :
    FiresInOrder (course.history steps) (course.scheduler steps) := by
  have represents := course.represents initiallyEmpty steps
  have booksAndChronicle : (course.ledger steps).Books (course.history steps) ∧
      ((course.ledger steps).WithinBounds →
        ∃ fired, Chronicle (course.now steps) (course.history steps) fired) := by
    refine (course.invariant (fun now history scheduler =>
      scheduler.store.Represents (.ofHistory history) ∧
        (Ledger.ofHistory history).Books history ∧
          ((Ledger.ofHistory history).WithinBounds → ∃ fired, Chronicle now history fired))
      ?_ ?_ ?_).2
    · rw [initiallyEmpty]
      exact ⟨SlotStore.represents_empty limit, Ledger.books_empty, fun _ => ⟨[], .empty⟩⟩
    · rintro step before history scheduler ⟨represents, books, exists_fired⟩
      refine ⟨represents, books, fun bounds => ?_⟩
      obtain ⟨fired, chronicle⟩ := exists_fired bounds
      exact ⟨fired, chronicle.passes (notBack step before)⟩
    · rintro now history scheduler events next effect ⟨represents, books, exists_fired⟩
      have change := effect.change represents
      have represents_next := effect.represents represents
      rw [← Ledger.ofHistory_append] at change represents_next
      refine ⟨represents_next, books.change change, fun bounds => ?_⟩
      have boundsBefore := (Ledger.extends_ofHistory_append history events).withinBounds bounds
      obtain ⟨fired, chronicle⟩ := exists_fired boundsBefore
      exact chronicle.change books represents.holds.coherent boundsBefore change
  obtain ⟨books, exists_fired⟩ := booksAndChronicle
  obtain ⟨fired, chronicle⟩ := exists_fired bounds
  exact chronicle.firesInOrder books bounds represents

/-- Whatever any number of parties do at a scheduler whose store is empty at first, items fire in
the order of their due instants, and of their acceptance where these are equal: as long as the
clock does not go back, fewer than 2^64 items are taken and no slot is emptied 2^32 times. -/
theorem Parties.timed_dispatches_in_order
    (act : Interpretation κ D ε)
    (mover : Nat → Nat)
    (parties : Parties SlotStore κ D ε)
    (limit : Option Nat)
    (startsEmpty : parties.scheduler.store = .empty limit)
    (steps : Nat)
    (notBack : ∀ step < steps, (parties.after act mover step).host.clock.now ≤
      (parties.after act mover (step + 1)).host.clock.now)
    (bounds : (parties.ledger act mover steps).WithinBounds) :
    FiresInOrder (parties.history act mover steps)
      (parties.after act mover steps).scheduler :=
  (parties.course act mover).firesInOrder startsEmpty notBack bounds

theorem Parties.timed_dispatches_in_order_visit :
    visit.scheduler.store = .empty (some 2) ∧
      (∀ step < 30, (visit.after visitAct visitMover step).host.clock.now ≤
        (visit.after visitAct visitMover (step + 1)).host.clock.now) ∧
      (visit.ledger visitAct visitMover 30).WithinBounds ∧
      (timedDispatches (visit.history visitAct visitMover 30)).map Dispatch.due =
        [5000, 5000, 6000] ∧
      FiresInOrder (visit.history visitAct visitMover 30)
        (visit.after visitAct visitMover 30).scheduler := by
  have notBack : ∀ step < 30, (visit.after visitAct visitMover step).host.clock.now ≤
      (visit.after visitAct visitMover (step + 1)).host.clock.now := by
    decide +kernel
  have bounds : (visit.ledger visitAct visitMover 30).WithinBounds :=
    withinBounds_of_short _ _ _ (by decide)
  refine ⟨rfl, notBack, bounds, by decide +kernel, ?_⟩
  exact timed_dispatches_in_order visitAct visitMover visit (some 2) rfl 30 notBack bounds

end Agenda
