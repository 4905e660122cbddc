import Agenda.Proofs.Execution.Handles
import Agenda.Proofs.Execution.Limits

/-!
# Cancelling is all or nothing

A request to cancel finds an item exactly if the handle is known.  Then the item is taken out,
nothing else is changed, and its callback is called.  From then on the handle is used up: it is
unknown for good, even when the slot of the item holds another one, and no other call is made for
it.  If the handle is unknown, the request has no effect but its answer, and so it is with a request
to schedule that fails.

The number of insertions is of no importance here.  All that is asked for is that the names do not
run out.
-/

namespace Agenda

variable {κ D ε : Type}

/-! ## Names that do not run out -/

/-- No slot was emptied 2^32 times, and there were fewer than 2^64 refusals. -/
structure HandlesSuffice (history : List (Event κ D)) : Prop where
  /-- The departures from a slot can be counted by a 32-bit number. -/
  timesEmptied_lt : ∀ slot, (Ledger.ofHistory history).timesEmptied slot < 2 ^ 32
  /-- The refusals can be counted by a 64-bit number. -/
  refusals_lt : refusals history < 2 ^ 64

theorem HandlesSuffice.of_append
    {history events : List (Event κ D)}
    (suffice : HandlesSuffice (history ++ events)) :
    HandlesSuffice history where
  timesEmptied_lt slot :=
    Nat.lt_of_le_of_lt ((Ledger.extends_ofHistory_append history events).timesEmptied_le slot)
      (suffice.timesEmptied_lt slot)
  refusals_lt := Nat.lt_of_le_of_lt (refusals_le_append history events) suffice.refusals_lt

/-- In a bounded history the names do not run out. -/
theorem Bounded.handlesSuffice {history : List (Event κ D)} (bounded : Bounded history) :
    HandlesSuffice history where
  timesEmptied_lt := bounded.ledger.timesEmptied_lt
  refusals_lt := bounded.refusals_lt

/-! ## Taking out one item -/

/-- What a handle names has left a scheduler, and nothing else was changed. -/
structure Scheduler.Loses (scheduler : Scheduler SlotStore κ D) (handle : ItemHandle)
    (remaining : Scheduler SlotStore κ D) : Prop where
  /-- The handle is unknown now, and every other one names what it named. -/
  find?_eq : ∀ other,
    remaining.find? other = if other = handle then none else scheduler.find? other
  /-- If the item was in the store, it is the only one that is missing, and what is kept aside is
  not touched. -/
  of_stored : handle.isDegenerate = false →
    remaining.size + 1 = scheduler.size ∧ remaining.detached = scheduler.detached
  /-- If it was kept aside, it is the only one that is missing there, the numbers go on from where
  they were, and the store is not touched. -/
  of_detached : handle.isDegenerate = true →
    remaining.detachedCount + 1 = scheduler.detachedCount ∧
      remaining.detached.nextNumber = scheduler.detached.nextNumber ∧
        remaining.store = scheduler.store
  /-- The store has the same limit. -/
  limit_eq : remaining.store.limit = scheduler.store.limit
  /-- And single waits may be as long as before. -/
  pollCeiling_eq : remaining.pollCeiling = scheduler.pollCeiling

namespace Scheduler

variable {scheduler remaining : Scheduler SlotStore κ D} {handle : ItemHandle} {count : Nat}

/-- An item that is refused and given up changes nothing. -/
theorem eq_of_trySchedule_error
    {item : Item κ D}
    {error : SchedulerError}
    (refused : scheduler.trySchedule item = (.error error, remaining)) :
    remaining = scheduler := by
  have isFull : scheduler.store.isFull = true := by
    have answer_eq := scheduler.fst_trySchedule item
    rw [refused] at answer_eq
    by_contra notFull
    rw [if_neg notFull] at answer_eq
    cases answer_eq
  have inserted : OrderedStore.insert scheduler.store item.due item = _ :=
    SlotStore.insert_of_isFull isFull item.due item
  simp only [trySchedule, insert, inserted] at refused
  exact (congrArg Prod.snd refused).symm

/-- Where nothing was kept aside, nothing is kept after a removal. -/
theorem get?_detached_eq_none_of_remove
    {answer : Option (Item κ D)}
    (removed : scheduler.remove handle = (answer, remaining))
    {number : UInt64}
    (notFound : scheduler.detached.get? number = none) :
    remaining.detached.get? number = none := by
  refine (get?_detached_of_remove removed ?_).trans notFound
  by_cases names : handle = .detached number
  · left
    have answer_eq := scheduler.fst_remove handle
    rw [removed, names] at answer_eq
    exact answer_eq.trans notFound
  · exact Or.inr names

namespace Keeps

variable {pending : List (ItemHandle × Item κ D)} {item : Item κ D}

theorem find?_eq_some_iff
    (keeps : scheduler.Keeps count pending)
    (handle : ItemHandle)
    (item : Item κ D) :
    scheduler.find? handle = some item ↔ (handle, item) ∈ pending := by
  cases handle with
  | stored handle => exact keeps.get?_store_eq_some_iff handle item
  | detached number => exact keeps.get?_detached_eq_some_iff number item

/-- What a handle names and what it does not name are all there is. -/
theorem cons_otherThan_perm
    (keeps : scheduler.Keeps count pending)
    (present : (handle, item) ∈ pending) :
    ((handle, item) :: pending.filter (otherThan handle)).Perm pending := by
  have named_eq : (pending.filter fun kept => !otherThan handle kept) = [(handle, item)] := by
    refine Ledger.eq_singleton_of_forall_eq (keeps.handles_nodup.of_map.filter _) ?_ ?_
    · simp [present, otherThan]
    · intro kept named
      obtain ⟨keptPresent, sameHandle⟩ := List.mem_filter.mp named
      simp only [otherThan, bne, Bool.not_not, beq_iff_eq] at sameHandle
      exact List.inj_on_of_nodup_map keeps.handles_nodup keptPresent present sameHandle
  have parts := List.filter_append_perm (fun kept => !otherThan handle kept) pending
  simp only [named_eq, Bool.not_not] at parts
  exact parts

/-- Taking out what a handle names takes out nothing else. -/
theorem loses
    (keeps : scheduler.Keeps count pending)
    (removed : scheduler.remove handle = (some item, remaining)) :
    scheduler.Loses handle remaining := by
  obtain ⟨present, kept⟩ := keeps.of_remove_some removed
  have perm := keeps.cons_otherThan_perm present
  refine ⟨?_, ?_, ?_, limit_remove removed, pollCeiling_remove removed⟩
  · intro other
    ext found
    rw [kept.find?_eq_some_iff, List.mem_filter, ← keeps.find?_eq_some_iff]
    by_cases same : other = handle <;> simp [same, otherThan]
  · intro isStored
    refine ⟨?_, detached_of_remove isStored removed⟩
    rw [kept.size_eq, keeps.size_eq, ← perm.countP_eq, List.countP_cons_of_pos]
    simp [isStored]
  · intro isDegenerate
    refine ⟨?_, nextNumber_of_remove removed, ?_⟩
    · rw [kept.detachedCount_eq, keeps.detachedCount_eq, ← perm.countP_eq, List.countP_cons_of_pos]
      exact isDegenerate
    · cases handle with
      | stored handle => cases isDegenerate
      | detached number => exact (remove_detached removed).1

end Keeps
end Scheduler

/-- The entries that are left when an item goes are in the same order. -/
theorem Ledger.live_record_dispatch
    (ledger : Ledger (Item κ D))
    (callback : κ)
    (item : Item κ D)
    (handle : ItemHandle)
    (reason : Reason) :
    (ledger.record (.dispatched callback (item.dispatch handle reason))).live =
      ledger.live.filter fun entry => .stored entry.handle != handle := by
  cases handle with
  | stored handle =>
      refine List.filter_congr fun entry _ => ?_
      simp [bne]
  | detached number => exact (List.filter_eq_self.mpr fun _ _ => rfl).symm

/-! ## Handles that are used up -/

/-- The item that a handle named has left. -/
def UsedUp (history : List (Event κ D)) (scheduler : Scheduler SlotStore κ D) : ItemHandle → Prop
  | .stored handle => ∃ entry ∈ (Ledger.ofHistory history).departed, entry.handle = handle
  | .detached number => number.toNat < refusals history ∧ scheduler.detached.get? number = none

/-- A history is right about a scheduler, and about the handles that callbacks were called for. -/
structure Spent (history : List (Event κ D)) (scheduler : Scheduler SlotStore κ D) : Prop where
  /-- The store has the entries of the ledger. -/
  represents : scheduler.store.Represents (.ofHistory history)
  /-- The accounts are right. -/
  balanced : Balanced history scheduler
  /-- A handle that a callback was called for is used up. -/
  usedUp : ∀ call ∈ calls history, UsedUp history scheduler call.2.handle
  /-- And no two callbacks were called for one handle. -/
  handles_nodup : ((calls history).map fun call => call.2.handle).Nodup

section

variable {now : Instant} {history events : List (Event κ D)}
variable {scheduler next remaining : Scheduler SlotStore κ D} {handle : ItemHandle}

/-- A handle that is used up names nothing. -/
theorem UsedUp.find?_eq_none
    (usedUp : UsedUp history scheduler handle)
    (represents : scheduler.store.Represents (.ofHistory history))
    (suffice : HandlesSuffice history) :
    scheduler.find? handle = none := by
  cases handle with
  | detached number => exact usedUp.2
  | stored handle =>
      obtain ⟨entry, departed, rfl⟩ := usedUp
      refine Option.eq_none_iff_forall_ne_some.mpr fun item found => ?_
      obtain ⟨other, live, sameHandle, -⟩ := (represents.holds.get?_eq_some_iff _ item).mp found
      exact represents.holds.coherent.handle_ne_of_departed (suffice.timesEmptied_lt _) departed
        live sameHandle.symm

/-- Once it is used up, a handle remains so. -/
theorem UsedUp.change
    (usedUp : UsedUp history scheduler handle)
    (numbered : scheduler.detached.Numbered (refusals history))
    (suffice : HandlesSuffice history)
    (effect : Effect now scheduler events next) :
    UsedUp (history ++ events) next handle := by
  cases handle with
  | stored handle =>
      obtain ⟨entry, departed, sameHandle⟩ := usedUp
      exact ⟨entry,
        (Ledger.extends_ofHistory_append history events).departed_sublist.subset departed,
        sameHandle⟩
  | detached number =>
      obtain ⟨number_lt, notFound⟩ := usedUp
      refine ⟨Nat.lt_of_lt_of_le number_lt (refusals_le_append history events), ?_⟩
      cases effect with
      | quiet | peek | accept | refuse => exact notFound
      | detach =>
          have different : number ≠ scheduler.detached.nextNumber := by
            rintro rfl
            rw [numbered.nextNumber_eq, UInt64.toNat_ofNat',
              Nat.mod_eq_of_lt suffice.refusals_lt] at number_lt
            exact Nat.lt_irrefl _ number_lt
          exact (scheduler.detached.get?_add_of_ne _ different).trans notFound
      | cancel removed => exact Scheduler.get?_detached_eq_none_of_remove removed notFound
      | miss removed => exact Scheduler.get?_detached_eq_none_of_remove removed notFound
      | fire _ _ removed => exact Scheduler.get?_detached_eq_none_of_remove removed notFound
      | release => rfl

/-- A handle whose item was taken out to run its callback is used up. -/
theorem usedUp_of_remove
    {pending : List (ItemHandle × Item κ D)}
    (represents : scheduler.store.Represents (.ofHistory history))
    (keeps : scheduler.Keeps (refusals history) pending)
    {item : Item κ D}
    (removed : scheduler.remove handle = (some item, remaining))
    (reason : Reason) :
    UsedUp (history ++ [.dispatched item.callback (item.dispatch handle reason)]) remaining
      handle := by
  cases handle with
  | stored handle =>
      obtain ⟨entry, live, rfl, -⟩ := represents.of_remove_some (Scheduler.remove_stored removed).1
      refine ⟨entry, ?_, rfl⟩
      rw [Ledger.ofHistory_append]
      refine List.mem_append_right _ (List.mem_filter.mpr ⟨live, ?_⟩)
      exact beq_self_eq_true _
  | detached number =>
      have present := (keeps.of_remove_some removed).1
      have number_lt := keeps.numbered.number_lt _
        ((keeps.numbered.get?_eq_some_iff number item).mp
          ((keeps.get?_detached_eq_some_iff number item).mpr present))
      refine ⟨?_, ?_⟩
      · rw [refusals_append]
        exact number_lt
      · exact ((keeps.loses removed).find?_eq (.detached number)).trans (if_pos rfl)

/-- A change calls no callback, or that of an item that was found, and uses its handle up. -/
theorem Spent.calls_effect
    (spent : Spent history scheduler)
    (effect : Effect now scheduler events next) :
    calls events = [] ∨ ∃ handle item reason,
      calls events = [(item.callback, item.dispatch handle reason)] ∧
        scheduler.find? handle = some item ∧ UsedUp (history ++ events) next handle := by
  have keeps := spent.balanced.keeps
  cases effect with
  | quiet quiet =>
      refine Or.inl (calls_eq_nil_of_quiet fun event told => ?_)
      obtain rfl := List.mem_singleton.mp told
      exact quiet
  | peek | accept | detach | refuse | miss | release => exact Or.inl rfl
  | cancel removed =>
      exact Or.inr ⟨_, _, .abort, rfl, (keeps.find?_eq_some_iff _ _).mpr
        (keeps.of_remove_some removed).1, usedUp_of_remove spent.represents keeps removed .abort⟩
  | fire peeked _ removed =>
      have looked := keeps.of_peek peeked
      exact Or.inr ⟨_, _, .timed, rfl, (keeps.find?_eq_some_iff _ _).mpr
        (looked.of_remove_some removed).1,
        usedUp_of_remove (spent.represents.of_peek peeked) looked removed .timed⟩

theorem Spent.change
    (spent : Spent history scheduler)
    (effect : Effect now scheduler events next)
    (suffice : HandlesSuffice (history ++ events)) :
    Spent (history ++ events) next := by
  have represents_next := effect.represents spent.represents
  rw [← Ledger.ofHistory_append] at represents_next
  have balanced_next := spent.balanced.change effect suffice.refusals_lt
  have remains : ∀ call ∈ calls history, UsedUp (history ++ events) next call.2.handle :=
    fun call called => (spent.usedUp call called).change spent.balanced.keeps.numbered
      suffice.of_append effect
  rcases spent.calls_effect effect with noCall | ⟨handle, item, reason, isCall, found, usedUp⟩
  · refine ⟨represents_next, balanced_next, ?_, ?_⟩
    · rw [calls_append, noCall, List.append_nil]
      exact remains
    · rw [calls_append, noCall, List.append_nil]
      exact spent.handles_nodup
  · refine ⟨represents_next, balanced_next, ?_, ?_⟩
    · rw [calls_append, isCall]
      intro call called
      rcases List.mem_append.mp called with old | new
      · exact remains call old
      · obtain rfl := List.mem_singleton.mp new
        exact usedUp
    · rw [calls_append, isCall, List.map_append, List.nodup_append]
      refine ⟨spent.handles_nodup, List.nodup_singleton _, ?_⟩
      rintro _ old _ new rfl
      obtain ⟨call, called, sameHandle⟩ := List.mem_map.mp old
      -- A handle that was used up does not name what is called now.
      have notFound := (spent.usedUp call called).find?_eq_none spent.represents suffice.of_append
      rw [sameHandle, List.mem_singleton.mp new] at notFound
      cases found.symm.trans notFound

end

/-! ## Whole courses -/

namespace Course

variable (course : Course SlotStore κ D)

theorem spent
    {limit : Option Nat}
    (startsEmpty : (course.scheduler 0).store = .empty limit)
    (noneDetached : (course.scheduler 0).detached = .empty)
    {steps : Nat}
    (suffice : HandlesSuffice (course.history steps)) :
    Spent (course.history steps) (course.scheduler steps) := by
  refine course.boundedInvariant HandlesSuffice Spent HandlesSuffice.of_append ?_
    (fun effect suffice spent => spent.change effect suffice) suffice
  exact ⟨startsEmpty ▸ SlotStore.represents_empty limit, .initially startsEmpty noneDetached,
    nofun, .nil⟩

end Course

/-! ## Requests to cancel -/

namespace Parties

/-- A request to cancel has found an item: it is taken out and its callback is called, and it is
gone for good. -/
structure Withdraws (act : Interpretation κ D ε) (mover : Nat → Nat)
    (parties : Parties SlotStore κ D ε) (time : Nat) (handle : ItemHandle) (item : Item κ D) :
    Prop where
  /-- All that happens is the call of the item's callback, which is told that the item was
  cancelled, whatever the clock shows. -/
  events_eq : ((parties.after act mover time).step act (mover time)).1 =
    [.dispatched item.callback (item.dispatch handle .abort)]
  /-- When the callback is entered, the item has left, and it is the only one. -/
  loses : (parties.after act mover time).scheduler.Loses handle
    (parties.after act mover (time + 1)).scheduler
  /-- The store has the entries that the ledger has then. -/
  represents : (parties.after act mover (time + 1)).scheduler.store.Represents
    (parties.ledger act mover (time + 1))
  /-- Those are the other ones, with the same due instants and in the same order. -/
  live_eq : (parties.ledger act mover (time + 1)).live =
    (parties.ledger act mover time).live.filter fun entry => .stored entry.handle != handle
  /-- The clock, the raised requests and everything else are left alone. -/
  host_eq : (parties.after act mover (time + 1)).host = (parties.after act mover time).host
  /-- From then on the handle is unknown, and requests to cancel it are answered so. -/
  forGood : ∀ later, time < later → HandlesSuffice (parties.history act mover later) →
    (parties.after act mover later).scheduler.contains handle = false ∧
      ∀ next tasks, (parties.after act mover later).tasks (mover later) =
          .routine (.cancel handle next) :: tasks →
        (parties.after act mover later).step act (mover later) =
          ([.unknown handle],
            { parties.after act mover later with
              tasks := Function.update (parties.after act mover later).tasks (mover later)
                (.routine (next (.error (.unknownItem handle))) :: tasks) })
  /-- And there is no other call for it, before or afterwards. -/
  once : ∀ later, time < later → HandlesSuffice (parties.history act mover later) →
    (calls (parties.history act mover later)).filter (fun call => call.2.handle = handle) =
      [(item.callback, item.dispatch handle .abort)]

/-- A request to cancel what is unknown does nothing, and it is answered so. -/
theorem step_of_unknown
    (act : Interpretation κ D ε)
    {parties : Parties SlotStore κ D ε}
    {party : Nat}
    {handle : ItemHandle}
    {next : Except SchedulerError Unit → Routine κ D ε}
    {tasks : List (Task κ D ε)}
    (tasks_eq : parties.tasks party = .routine (.cancel handle next) :: tasks)
    (unknown : parties.scheduler.contains handle = false) :
    parties.step act party =
      ([.unknown handle],
        { parties with
          tasks := Function.update parties.tasks party
            (.routine (next (.error (.unknownItem handle))) :: tasks) }) := by
  have notFound := (parties.scheduler.contains_eq_false_iff handle).mp unknown
  rw [← Scheduler.fst_remove] at notFound
  rcases removed : parties.scheduler.remove handle with ⟨answer, remaining⟩
  rw [removed] at notFound
  obtain rfl : answer = none := notFound
  obtain rfl := Scheduler.eq_of_remove_none removed
  simp only [step, execution, tasks_eq, Execution.step, Execution.request, removed]

/-- A request to schedule that fails does nothing, and it is answered so. -/
theorem step_of_refused
    (act : Interpretation κ D ε)
    {parties : Parties SlotStore κ D ε}
    {party : Nat}
    {delay : Delay}
    {callback : κ}
    {data : D}
    {next : Except SchedulerError ItemHandle → Routine κ D ε}
    {tasks : List (Task κ D ε)}
    (tasks_eq : parties.tasks party = .routine (.trySchedule delay callback data next) :: tasks)
    {error : SchedulerError}
    (refused : (parties.scheduler.trySchedule
      (Scheduler.itemAfter parties.host.clock.now delay callback data)).1 = .error error) :
    parties.step act party =
      ([.refused (Scheduler.itemAfter parties.host.clock.now delay callback data)],
        { parties with
          tasks := Function.update parties.tasks party
            (.routine (next (.error error)) :: tasks) }) := by
  rcases tried : parties.scheduler.trySchedule
    (Scheduler.itemAfter parties.host.clock.now delay callback data) with ⟨answer, grown⟩
  rw [tried] at refused
  obtain rfl : answer = .error error := refused
  obtain rfl := Scheduler.eq_of_trySchedule_error tried
  simp only [step, execution, tasks_eq, Execution.step, Execution.request, tried]

/-- A request to cancel that finds an item withdraws it for good. -/
theorem withdraws
    {act : Interpretation κ D ε}
    {mover : Nat → Nat}
    {parties : Parties SlotStore κ D ε}
    {limit : Option Nat}
    (startsEmpty : parties.scheduler.store = .empty limit)
    (noneDetached : parties.scheduler.detached = .empty)
    {time : Nat}
    (suffice : HandlesSuffice (parties.history act mover time))
    {handle : ItemHandle}
    {item : Item κ D}
    {next : Except SchedulerError Unit → Routine κ D ε}
    {tasks : List (Task κ D ε)}
    (tasks_eq : (parties.after act mover time).tasks (mover time) =
      .routine (.cancel handle next) :: tasks)
    (found : (parties.after act mover time).scheduler.find? handle = some item) :
    parties.Withdraws act mover time handle item ∧
      (parties.after act mover (time + 1)).tasks =
        Function.update (parties.after act mover time).tasks (mover time)
          (.routine (act item.callback (item.dispatch handle .abort)) ::
            .routine (next (.ok ())) :: tasks) := by
  have spent : ∀ step, HandlesSuffice (parties.history act mover step) →
      Spent (parties.history act mover step) (parties.after act mover step).scheduler :=
    fun step => (parties.course act mover).spent startsEmpty noneDetached
  rw [← Scheduler.fst_remove] at found
  rcases removed : (parties.after act mover time).scheduler.remove handle with ⟨answer, remaining⟩
  rw [removed] at found
  obtain rfl : answer = some item := found
  have step_eq : (parties.after act mover time).step act (mover time) =
      ([.dispatched item.callback (item.dispatch handle .abort)],
        ⟨remaining, (parties.after act mover time).host,
          Function.update (parties.after act mover time).tasks (mover time)
            (.routine (act item.callback (item.dispatch handle .abort)) ::
              .routine (next (.ok ())) :: tasks)⟩) := by
    simp only [step, execution, tasks_eq, Execution.step, Execution.request, removed,
      Execution.dispatch]
  have history_eq : parties.history act mover (time + 1) = parties.history act mover time ++
      [.dispatched item.callback (item.dispatch handle .abort)] :=
    congrArg (parties.history act mover time ++ ·) (congrArg Prod.fst step_eq)
  have called : ∀ later, time < later →
      (item.callback, item.dispatch handle .abort) ∈ calls (parties.history act mover later) := by
    intro later isLater
    rw [mem_calls]
    refine ((parties.course act mover).history_mono isLater).subset ?_
    show _ ∈ parties.history act mover (time + 1)
    rw [history_eq]
    exact List.mem_append_right _ List.mem_cons_self
  have represents := (parties.course act mover).represents startsEmpty (time + 1)
  refine ⟨⟨congrArg Prod.fst step_eq, ?_, represents, ?_, ?_, ?_, ?_⟩, ?_⟩
  · rw [after, step_eq]
    exact (spent time suffice).balanced.keeps.loses removed
  · rw [ledger, history_eq, Ledger.ofHistory_append]
    exact Ledger.live_record_dispatch _ _ _ _ _
  · rw [after, step_eq]
  · intro later isLater sufficeLater
    have spentLater := spent later sufficeLater
    have usedUp := spentLater.usedUp _ (called later isLater)
    have unknown := ((parties.after act mover later).scheduler.contains_eq_false_iff handle).mpr
      (usedUp.find?_eq_none spentLater.represents sufficeLater)
    exact ⟨unknown, fun _ _ cancels => step_of_unknown act cancels unknown⟩
  · intro later isLater sufficeLater
    have nodup := (spent later sufficeLater).handles_nodup
    refine Ledger.eq_singleton_of_forall_eq (nodup.of_map.filter _) ?_ ?_
    · exact List.mem_filter.mpr ⟨called later isLater, decide_eq_true rfl⟩
    · intro call isCall
      obtain ⟨otherCalled, sameHandle⟩ := List.mem_filter.mp isCall
      exact List.inj_on_of_nodup_map nodup otherCalled (called later isLater)
        (of_decide_eq_true sameHandle)
  · rw [after, step_eq]

/-- Cancelling agrees with what is known and is all or nothing, whatever any number of parties do
at a scheduler.  A request to cancel a known handle withdraws its item, calls its callback and is
granted.  A request to cancel any other handle has no effect but its answer, and so has a request to
schedule that fails. -/
theorem cancel_is_all_or_nothing
    (act : Interpretation κ D ε)
    (mover : Nat → Nat)
    (parties : Parties SlotStore κ D ε)
    (limit : Option Nat)
    (startsEmpty : parties.scheduler.store = .empty limit)
    (noneDetached : parties.scheduler.detached = .empty)
    (time : Nat)
    (suffice : HandlesSuffice (parties.history act mover time)) :
    let reached := parties.after act mover time
    let goesOn := Function.update reached.tasks (mover time)
    (∀ handle next tasks,
      reached.tasks (mover time) = .routine (.cancel handle next) :: tasks →
        (reached.scheduler.contains handle = true →
          ∃ item, reached.scheduler.find? handle = some item ∧
            parties.Withdraws act mover time handle item ∧
              (parties.after act mover (time + 1)).tasks =
                goesOn (.routine (act item.callback (item.dispatch handle .abort)) ::
                  .routine (next (.ok ())) :: tasks)) ∧
        (reached.scheduler.contains handle = false →
          reached.step act (mover time) =
            ([.unknown handle],
              { reached with
                tasks := goesOn (.routine (next (.error (.unknownItem handle))) :: tasks) }))) ∧
    ∀ delay callback data next tasks error,
      reached.tasks (mover time) = .routine (.trySchedule delay callback data next) :: tasks →
        let item := Scheduler.itemAfter reached.host.clock.now delay callback data
        (reached.scheduler.trySchedule item).1 = .error error →
          reached.step act (mover time) =
            ([.refused item],
              { reached with tasks := goesOn (.routine (next (.error error)) :: tasks) }) := by
  intro reached goesOn
  refine ⟨?_, ?_⟩
  · intro handle next tasks tasks_eq
    refine ⟨fun known => ?_, fun unknown => step_of_unknown act tasks_eq unknown⟩
    cases found : reached.scheduler.find? handle with
    | none =>
        rw [(reached.scheduler.contains_eq_false_iff handle).mpr found] at known
        cases known
    | some item =>
        exact ⟨item, rfl, withdraws startsEmpty noneDetached suffice tasks_eq found⟩
  · intro delay callback data next tasks error tasks_eq item refused
    exact step_of_refused act tasks_eq refused

/-- A callback that has a further item take the slot of its own, and cancels itself then. -/
def relayAct : Interpretation Char Nat Unit := fun callback told =>
  if callback = 'a' then
    .schedule (.ofSeconds 0) 'b' 1 fun _ => .cancel told.handle fun _ => .done
  else .done

/-- A store for one item, which is cancelled after another one was refused. -/
def relay : Parties SlotStore Char Nat Unit :=
  .start (.ofStore (.empty (some 1))) ⟨⟨5000⟩, .clear, ()⟩ fun _ =>
    .schedule (.ofSeconds 1) 'a' 0 fun handle => .trySchedule (.ofSeconds 1) 'c' 2 fun _ =>
      .cancel handle fun _ => .done

theorem cancel_is_all_or_nothing_relay :
    let reached := relay.after relayAct fun _ => 0
    relay.scheduler.store = .empty (some 1) ∧
      relay.scheduler.detached = .empty ∧
      ((reached 1).step relayAct 0).1 = [.refused ⟨6000, 'c', 2⟩] ∧
      (reached 2).scheduler = (reached 1).scheduler ∧
      relay.Withdraws relayAct (fun _ => 0) 2 (.stored ⟨0, 0⟩) ⟨6000, 'a', 0⟩ ∧
      (reached 4).scheduler.contains (.stored ⟨0, 1⟩) = true ∧
      ((reached 4).step relayAct 0).1 = [.unknown (.stored ⟨0, 0⟩)] ∧
      (reached 5).scheduler = (reached 4).scheduler := by
  intro reached
  have suffice : ∀ steps, steps < 100 →
      HandlesSuffice (relay.history relayAct (fun _ => 0) steps) := by
    intro steps few
    refine (bounded_of_short (Nat.lt_of_le_of_lt
      (Course.length_history_le _ (relay.length_events_le relayAct _) steps) ?_)).handlesSuffice
    omega
  have rules := fun time few =>
    cancel_is_all_or_nothing relayAct (fun _ => 0) relay (some 1) rfl rfl time (suffice time few)
  have refused := (rules 1 (by decide)).2 (.ofSeconds 1) 'c' 2 _ _
    (.insertFailed Refusal.limitReached.reason) (by with_unfolding_all rfl) (by decide +kernel)
  obtain ⟨item, found, withdraws, -⟩ := ((rules 2 (by decide)).1 (.stored ⟨0, 0⟩)
    (fun _ => .done) [] (by with_unfolding_all rfl)).1 (by decide +kernel)
  have found_eq : (reached 2).scheduler.find? (.stored ⟨0, 0⟩) = some ⟨6000, 'a', 0⟩ := by
    decide +kernel
  obtain rfl := Option.some.inj (found.symm.trans found_eq)
  have unknown := (withdraws.forGood 4 (by decide) (suffice 4 (by decide))).2 (fun _ => .done)
    [.routine .done] (by with_unfolding_all rfl)
  exact ⟨rfl, rfl, congrArg Prod.fst refused,
    congrArg (fun outcome => outcome.2.scheduler) refused, withdraws, by decide +kernel,
    congrArg Prod.fst unknown, congrArg (fun outcome => outcome.2.scheduler) unknown⟩

end Parties
end Agenda
