import Agenda.Proofs.Execution.Parties

/-!
# Items that nothing takes out

An item leaves a scheduler only by an event that tells of it: a call of its callback, or a release.
As long as there is none, the item is found under the handle that its creation returned, whatever
else happens.  For items in the store this needs no bound on what happens.  An item that is kept
aside is found under its number until 2^64 further items are refused, when the number is given
again.
-/

namespace Agenda

variable {κ D ε : Type}

/-- Whether an event takes out what a handle names. -/
def Event.takesOut (handle : ItemHandle) : Event κ D → Bool
  | dispatched _ told => told.handle = handle
  | released _ => true
  | _ => false

/-- The item that a handle names, in the store or among those kept aside. -/
def Scheduler.find? (scheduler : Scheduler SlotStore κ D) : ItemHandle → Option (Item κ D)
  | .stored handle => scheduler.store.get? handle
  | .detached number => scheduler.detached.get? number

namespace Scheduler

/-- A handle is unknown exactly if it names nothing. -/
theorem contains_eq_false_iff (scheduler : Scheduler SlotStore κ D) (handle : ItemHandle) :
    scheduler.contains handle = false ↔ scheduler.find? handle = none := by
  rw [← Option.not_isSome_iff_eq_none, Bool.not_eq_true]
  cases handle <;> exact Iff.rfl

/-- What is taken out is what was found. -/
theorem fst_remove (scheduler : Scheduler SlotStore κ D) (handle : ItemHandle) :
    (scheduler.remove handle).1 = scheduler.find? handle := by
  cases handle with
  | stored handle =>
      show (scheduler.store.remove handle).1 = scheduler.store.get? handle
      unfold SlotStore.remove
      split
      next notFound => exact notFound.symm
      next found => exact found.symm
  | detached number =>
      show (scheduler.detached.remove number).1 = scheduler.detached.get? number
      unfold DetachedItems.remove
      split
      next notFound => exact notFound.symm
      next found => exact found.symm

end Scheduler

/-! ## Entries that stay -/

theorem Ledger.mem_live_record
    {ledger : Ledger (Item κ D)}
    {entry : Entry (Item κ D)}
    (present : entry ∈ ledger.live)
    {event : Event κ D}
    (stays : event.takesOut (.stored entry.handle) = false) :
    entry ∈ (ledger.record event).live := by
  unfold Ledger.record
  split
  next => exact List.mem_append_left _ present
  next =>
    have otherHandle := of_decide_eq_false stays
    refine (ledger.mem_live_departWhere _ entry).mpr ⟨present, ?_⟩
    rw [beq_eq_false_iff_ne]
    rintro rfl
    exact otherHandle rfl
  next => cases stays
  next => exact present

theorem Ledger.mem_live_foldl_record
    {ledger : Ledger (Item κ D)}
    {entry : Entry (Item κ D)}
    (present : entry ∈ ledger.live)
    {events : List (Event κ D)}
    (stays : ∀ event ∈ events, event.takesOut (.stored entry.handle) = false) :
    entry ∈ (events.foldl Ledger.record ledger).live := by
  induction events generalizing ledger with
  | nil => exact present
  | cons event events inductionHypothesis =>
      obtain ⟨staysHere, staysLater⟩ := List.forall_mem_cons.mp stays
      exact inductionHypothesis (mem_live_record present staysHere) staysLater

/-! ## One change -/

namespace Scheduler

variable {scheduler remaining : Scheduler SlotStore κ D} {handle : ItemHandle}
variable {answer : Option (Item κ D)}

theorem nextNumber_of_remove (removed : scheduler.remove handle = (answer, remaining)) :
    remaining.detached.nextNumber = scheduler.detached.nextNumber := by
  cases handle with
  | stored handle => rw [(remove_stored removed).2]
  | detached number =>
      rw [← DetachedItems.nextNumber_remove scheduler.detached number,
        (remove_detached removed).2]

/-- Items that are kept aside under other numbers stay. -/
theorem get?_detached_of_remove
    (removed : scheduler.remove handle = (answer, remaining))
    {number : UInt64}
    (other : answer = none ∨ handle ≠ .detached number) :
    remaining.detached.get? number = scheduler.detached.get? number := by
  cases handle with
  | stored handle => rw [(remove_stored removed).2]
  | detached removedNumber =>
      have fromTable := (remove_detached removed).2
      rcases other with rfl | different
      · rw [DetachedItems.eq_of_remove_none fromTable]
      · have otherNumber : number ≠ removedNumber := fun same => different (same ▸ rfl)
        rw [← scheduler.detached.get?_remove_of_ne otherNumber, fromTable]

end Scheduler

namespace Effect

variable {now : Instant} {scheduler next : Scheduler SlotStore κ D} {events : List (Event κ D)}

/-- The numbers of items that are kept aside count the refusals. -/
theorem nextNumber_eq (effect : Effect now scheduler events next) :
    next.detached.nextNumber =
      scheduler.detached.nextNumber + UInt64.ofNat (refusals events) := by
  have noRefusal : ∀ {number : UInt64}, number = number + UInt64.ofNat 0 :=
    (UInt64.add_zero _).symm
  cases effect with
  | @quiet event isQuiet => cases event <;> first | exact noRefusal | cases isQuiet
  | peek | accept | refuse | release => exact noRefusal
  | detach => rfl
  | cancel removed => exact (Scheduler.nextNumber_of_remove removed).trans noRefusal
  | miss removed => exact (Scheduler.nextNumber_of_remove removed).trans noRefusal
  | fire _ _ removed => exact (Scheduler.nextNumber_of_remove removed).trans noRefusal

/-- An item that is created is found under its handle, and if it is kept aside, it was refused and
its number is the next one. -/
theorem find?_of_creation
    (effect : Effect now scheduler events next)
    {ledger : Ledger (Item κ D)}
    (represents : scheduler.store.Represents ledger)
    {created : Event κ D}
    (told : created ∈ events)
    {handle : ItemHandle}
    {item : Item κ D}
    (isCreation : created.creation? = some (handle, item)) :
    events = [created] ∧ next.find? handle = some item ∧
      (handle.isDegenerate = true →
        created.isDetached = true ∧ handle = .detached scheduler.detached.nextNumber) := by
  cases effect with
  | quiet isQuiet =>
      obtain rfl := List.mem_singleton.mp told
      cases created with
      | accepted | detached | refused | dispatched | released => cases isQuiet
      | unknown | turn | rotated | statusUpdated | polled | exited => cases isCreation
  | peek | miss => cases told
  | refuse | cancel | fire | release =>
      obtain rfl := List.mem_singleton.mp told
      cases isCreation
  | accept _ inserted =>
      obtain rfl := List.mem_singleton.mp told
      cases isCreation
      have grown := represents.of_insert_ok inserted
      refine ⟨rfl, (grown.holds.get?_eq_some_iff _ item).mpr ?_, nofun⟩
      exact ⟨_, List.mem_append_right _ List.mem_cons_self, rfl, rfl⟩
  | detach _ inserted =>
      obtain rfl := List.mem_singleton.mp told
      cases isCreation
      obtain ⟨-, rfl, -⟩ := represents.of_insert_error inserted
      exact ⟨rfl, scheduler.detached.get?_add_self item, fun _ => ⟨rfl, rfl⟩⟩

/-- What nothing takes out is found where it was, unless its number is given again. -/
theorem find?_of_untouched
    (effect : Effect now scheduler events next)
    {ledger : Ledger (Item κ D)}
    (represents : scheduler.store.Represents ledger)
    {handle : ItemHandle}
    {item : Item κ D}
    (found : scheduler.find? handle = some item)
    (untouched : ∀ event ∈ events, event.takesOut handle = false)
    (notAgain : handle = .detached scheduler.detached.nextNumber → refusals events = 0) :
    next.find? handle = some item := by
  cases handle with
  | stored handle =>
      obtain ⟨entry, present, rfl, value_eq⟩ :=
        (represents.holds.get?_eq_some_iff handle item).mp found
      exact ((effect.represents represents).holds.get?_eq_some_iff _ item).mpr
        ⟨entry, Ledger.mem_live_foldl_record present untouched, rfl, value_eq⟩
  | detached number =>
      change scheduler.detached.get? number = some item at found
      change next.detached.get? number = some item
      cases effect with
      | quiet | peek | accept | refuse => exact found
      | detach =>
          have different : number ≠ scheduler.detached.nextNumber := by
            rintro rfl
            cases notAgain rfl
          exact (scheduler.detached.get?_add_of_ne _ different).trans found
      | cancel removed =>
          have other := of_decide_eq_false (untouched _ List.mem_cons_self)
          exact (Scheduler.get?_detached_of_remove removed (Or.inr other)).trans found
      | miss removed => exact (Scheduler.get?_detached_of_remove removed (Or.inl rfl)).trans found
      | fire _ _ removed =>
          exact (Scheduler.get?_detached_of_remove removed (Or.inr nofun)).trans found
      | release => cases untouched _ List.mem_cons_self

end Effect

/-! ## Whole courses -/

/-- A history is right about the store and about the numbers of the items that are kept aside, and
an item is found under its handle as long as nothing takes it out. -/
structure Findable (base : UInt64) (history : List (Event κ D))
    (scheduler : Scheduler SlotStore κ D) : Prop where
  /-- The store has the entries of the history's ledger. -/
  represents : scheduler.store.Represents (.ofHistory history)
  /-- The refusals are counted. -/
  nextNumber_eq : scheduler.detached.nextNumber = base + UInt64.ofNat (refusals history)
  /-- An item that nothing took out is found, and its number, if it has one, says how many were
  refused before it. -/
  find?_eq : ∀ before created after handle item, history = before ++ created :: after →
    created.creation? = some (handle, item) →
      (∀ event ∈ after, event.takesOut handle = false) →
        (handle.isDegenerate = true → refusals after < 2 ^ 64) →
          scheduler.find? handle = some item ∧
            (handle.isDegenerate = true → created.isDetached = true ∧
              handle = .detached (base + UInt64.ofNat (refusals before)))

theorem add_ofNat_ne_of_lt
    (base : UInt64)
    {before later : Nat}
    (positive : 0 < later)
    (few : later < 2 ^ 64) :
    base + UInt64.ofNat before ≠ base + UInt64.ofNat (before + later) := by
  intro same
  rw [← UInt64.toNat_inj, UInt64.toNat_add, UInt64.toNat_add, UInt64.toNat_ofNat',
    UInt64.toNat_ofNat'] at same
  omega

/-- A member of a list that was extended was there before, or it is new. -/
theorem split_of_append
    {α : Type}
    {old new before after : List α}
    {member : α}
    (split : old ++ new = before ++ member :: after) :
    (∃ middle, before = old ++ middle ∧ new = middle ++ member :: after) ∨
      ∃ middle, old = before ++ member :: middle ∧ after = middle ++ new := by
  rcases List.append_eq_append_iff.mp split with isNew | ⟨middle, old_eq, rest_eq⟩
  · exact Or.inl isNew
  · cases middle with
    | nil =>
        rw [List.append_nil] at old_eq
        exact Or.inl ⟨[], by rw [old_eq, List.append_nil], rest_eq.symm⟩
    | cons head middle =>
        cases rest_eq
        exact Or.inr ⟨middle, old_eq, rfl⟩

theorem Findable.change
    {base : UInt64}
    {history : List (Event κ D)}
    {scheduler next : Scheduler SlotStore κ D}
    (findable : Findable base history scheduler)
    {now : Instant}
    {events : List (Event κ D)}
    (effect : Effect now scheduler events next) :
    Findable base (history ++ events) next where
  represents := by
    rw [Ledger.ofHistory_append]
    exact effect.represents findable.represents
  nextNumber_eq := by
    rw [effect.nextNumber_eq, findable.nextNumber_eq, refusals_append, UInt64.ofNat_add,
      UInt64.add_assoc]
  find?_eq before created after handle item split isCreation untouched few := by
    rcases split_of_append split with ⟨middle, rfl, events_eq⟩ | ⟨middle, history_eq, rfl⟩
    · -- The item is created by this change.
      obtain ⟨single, found, isNext⟩ := effect.find?_of_creation findable.represents
        (events_eq ▸ List.mem_append_right _ List.mem_cons_self) isCreation
      have noneBefore : middle = [] := by
        have length_eq := congrArg List.length (single.symm.trans events_eq)
        simp only [List.length_append, List.length_cons, List.length_nil] at length_eq
        exact List.eq_nil_of_length_eq_zero (by omega)
      refine ⟨found, fun isDegenerate => ?_⟩
      rw [noneBefore, List.append_nil, ← findable.nextNumber_eq]
      exact isNext isDegenerate
    · -- It was created earlier, and the change leaves it alone.
      rw [refusals_append] at few
      obtain ⟨untouchedBefore, untouchedHere⟩ := List.forall_mem_append.mp untouched
      obtain ⟨found, numbered⟩ := findable.find?_eq before created middle handle item history_eq
        isCreation untouchedBefore
        fun isDegenerate => Nat.lt_of_le_of_lt (Nat.le_add_right _ _) (few isDegenerate)
      refine ⟨effect.find?_of_untouched findable.represents found untouchedHere ?_, numbered⟩
      intro isNext
      by_contra refuses
      have isDegenerate : handle.isDegenerate = true := isNext ▸ rfl
      obtain ⟨isDetached, handle_eq⟩ := numbered isDegenerate
      have counted : refusals (created :: middle) = refusals middle + 1 :=
        List.countP_cons_of_pos isDetached
      rw [handle_eq, findable.nextNumber_eq, history_eq, refusals_append, counted] at isNext
      refine add_ofNat_ne_of_lt base (Nat.succ_pos _) ?_ (ItemHandle.detached.inj isNext)
      have fewHere := few isDegenerate
      omega

theorem findable_initially
    {scheduler : Scheduler SlotStore κ D}
    {limit : Option Nat}
    (startsEmpty : scheduler.store = .empty limit) :
    Findable scheduler.detached.nextNumber [] scheduler where
  represents := by
    rw [startsEmpty]
    exact SlotStore.represents_empty limit
  nextNumber_eq := (UInt64.add_zero _).symm
  find?_eq before created after _ _ split := by simp at split

/-- An item that was created along a course of events is found under its handle as long as nothing
takes it out; if it is kept aside, this holds until 2^64 further items are refused. -/
theorem Course.find?_of_creation
    (course : Course SlotStore κ D)
    {limit : Option Nat}
    (startsEmpty : (course.scheduler 0).store = .empty limit)
    {steps : Nat}
    {before after : List (Event κ D)}
    {created : Event κ D}
    {handle : ItemHandle}
    {item : Item κ D}
    (split : course.history steps = before ++ created :: after)
    (isCreation : created.creation? = some (handle, item))
    (untouched : ∀ event ∈ after, event.takesOut handle = false)
    (few : handle.isDegenerate = true → refusals after < 2 ^ 64) :
    (course.scheduler steps).find? handle = some item := by
  have findable := course.timelessInvariant (Findable (course.scheduler 0).detached.nextNumber)
    (findable_initially startsEmpty) (fun effect findable => findable.change effect) steps
  exact (findable.find?_eq before created after handle item split isCreation untouched few).1

end Agenda
