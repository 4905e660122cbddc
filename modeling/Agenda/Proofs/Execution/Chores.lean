import Agenda.Proofs.Execution.Course
import Mathlib.Logic.Hydra

/-!
# Chores

Where every callback is a finite tree of requests, and what it schedules has smaller callbacks than
its own, there is an end to what the items of a scheduler can lead to.  A chore is an item whose
callback is still to be called, or what is left of a callback that has begun.  A chore that is taken
up is replaced by chores that come later in a well-founded order: a callback by its routine, a
routine by what it goes on with and by an item that it schedules.  So the chores that are to be done
get lighter with every request, however many there are, in the order of multisets in which one
element may be replaced by any number of later ones.

Cancelling takes up the chore of another item.  An item that is kept aside may come in the place of
another one, whose chore is then gone.
-/

namespace Agenda

variable {κ D ε : Type}

/-! ## Routines that come to an end -/

/-- A routine that schedules items with certain callbacks only, and that may cancel items, but neither
releases them nor runs a loop. -/
inductive Routine.SchedulesOnly (among : κ → Prop) : Routine κ D ε → Prop where
  | done : SchedulesOnly among .done
  | observe {next : Host ε → Routine κ D ε} :
      (∀ host, (next host).SchedulesOnly among) → SchedulesOnly among (.observe next)
  | update {change : Host ε → Host ε} {next : Routine κ D ε} :
      next.SchedulesOnly among → SchedulesOnly among (.update change next)
  | ask {query : Query} {next : query.Reply → Routine κ D ε} :
      (∀ reply, (next reply).SchedulesOnly among) → SchedulesOnly among (.ask query next)
  | nextDue {next : Option Instant → Routine κ D ε} :
      (∀ due, (next due).SchedulesOnly among) → SchedulesOnly among (.nextDue next)
  | schedule {delay : Delay} {callback : κ} {data : D} {next : ItemHandle → Routine κ D ε} :
      among callback → (∀ handle, (next handle).SchedulesOnly among) →
      SchedulesOnly among (.schedule delay callback data next)
  | trySchedule {delay : Delay} {callback : κ} {data : D}
      {next : Except SchedulerError ItemHandle → Routine κ D ε} :
      among callback → (∀ result, (next result).SchedulesOnly among) →
      SchedulesOnly among (.trySchedule delay callback data next)
  | cancel {handle : ItemHandle} {next : Except SchedulerError Unit → Routine κ D ε} :
      (∀ result, (next result).SchedulesOnly among) → SchedulesOnly among (.cancel handle next)

/-- What a routine may go on with after its first request. -/
inductive Routine.Continues : Routine κ D ε → Routine κ D ε → Prop where
  | observe {next : Host ε → Routine κ D ε} (host : Host ε) :
      Continues (next host) (.observe next)
  | update {change : Host ε → Host ε} {next : Routine κ D ε} :
      Continues next (.update change next)
  | ask {query : Query} {next : query.Reply → Routine κ D ε} (reply : query.Reply) :
      Continues (next reply) (.ask query next)
  | nextDue {next : Option Instant → Routine κ D ε} (due : Option Instant) :
      Continues (next due) (.nextDue next)
  | schedule {delay : Delay} {callback : κ} {data : D} {next : ItemHandle → Routine κ D ε}
      (handle : ItemHandle) : Continues (next handle) (.schedule delay callback data next)
  | trySchedule {delay : Delay} {callback : κ} {data : D}
      {next : Except SchedulerError ItemHandle → Routine κ D ε}
      (result : Except SchedulerError ItemHandle) :
      Continues (next result) (.trySchedule delay callback data next)
  | cancel {handle : ItemHandle} {next : Except SchedulerError Unit → Routine κ D ε}
      (result : Except SchedulerError Unit) : Continues (next result) (.cancel handle next)

theorem Routine.wellFounded_continues :
    WellFounded (Continues : Routine κ D ε → Routine κ D ε → Prop) := by
  refine ⟨fun routine => ?_⟩
  induction routine with
  | done | shutdown | runLoop | runShared => exact ⟨_, fun _ continues => nomatch continues⟩
  | observe _ inductionHypothesis =>
      refine ⟨_, fun _ continues => ?_⟩
      cases continues with
      | observe host => exact inductionHypothesis host
  | update _ _ inductionHypothesis =>
      refine ⟨_, fun _ continues => ?_⟩
      cases continues with
      | update => exact inductionHypothesis
  | ask _ _ inductionHypothesis =>
      refine ⟨_, fun _ continues => ?_⟩
      cases continues with
      | ask reply => exact inductionHypothesis reply
  | nextDue _ inductionHypothesis =>
      refine ⟨_, fun _ continues => ?_⟩
      cases continues with
      | nextDue due => exact inductionHypothesis due
  | schedule _ _ _ _ inductionHypothesis =>
      refine ⟨_, fun _ continues => ?_⟩
      cases continues with
      | schedule handle => exact inductionHypothesis handle
  | trySchedule _ _ _ _ inductionHypothesis =>
      refine ⟨_, fun _ continues => ?_⟩
      cases continues with
      | trySchedule result => exact inductionHypothesis result
  | cancel _ _ inductionHypothesis =>
      refine ⟨_, fun _ continues => ?_⟩
      cases continues with
      | cancel result => exact inductionHypothesis result

/-! ## Chores and their order -/

/-- Something that is to be done. -/
inductive Chore (κ D ε : Type) where
  /-- An item whose callback is to be called. -/
  | call (callback : κ)
  /-- What is left of a callback that has begun. -/
  | rest (callback : κ) (routine : Routine κ D ε)

/-- What may take the place of a chore that is taken up, where callbacks schedule smaller ones. -/
inductive Chore.Replaces (smaller : κ → κ → Prop) : Chore κ D ε → Chore κ D ε → Prop where
  /-- A callback begins. -/
  | begin {callback : κ} {routine : Routine κ D ε} :
      Replaces smaller (.rest callback routine) (.call callback)
  /-- A callback goes on. -/
  | goOn {callback : κ} {routine later : Routine κ D ε} :
      later.Continues routine → Replaces smaller (.rest callback later) (.rest callback routine)
  /-- A callback has scheduled an item. -/
  | create {callback created : κ} {routine : Routine κ D ε} :
      smaller created callback → Replaces smaller (.call created) (.rest callback routine)

theorem Chore.wellFounded_replaces
    {smaller : κ → κ → Prop}
    (wellFounded : WellFounded smaller) :
    WellFounded (Replaces smaller : Chore κ D ε → Chore κ D ε → Prop) := by
  -- A routine is reached after all the callbacks that it may schedule, a callback after all routines.
  have rests : ∀ callback, (∀ created, smaller created callback →
      Acc (Replaces smaller) (.call created : Chore κ D ε)) →
      ∀ routine, Acc (Replaces smaller) (.rest callback routine : Chore κ D ε) := by
    intro callback creations routine
    induction routine using Routine.wellFounded_continues.induction with
    | _ routine inductionHypothesis =>
        refine ⟨_, fun chore replaces => ?_⟩
        cases replaces with
        | goOn continues => exact inductionHypothesis _ continues
        | create isSmaller => exact creations _ isSmaller
  have calls : ∀ callback, Acc (Replaces smaller) (.call callback : Chore κ D ε) := by
    intro callback
    induction callback using wellFounded.induction with
    | _ callback inductionHypothesis =>
        refine ⟨_, fun chore replaces => ?_⟩
        cases replaces with
        | begin => exact rests callback inductionHypothesis _
  refine ⟨fun chore => ?_⟩
  cases chore with
  | call callback => exact calls callback
  | rest callback routine => exact rests callback (fun created _ => calls created) routine

/-- Some chores are lighter than others if they come from them by taking up one after another. -/
def Chore.Lighter (smaller : κ → κ → Prop) :
    Multiset (Chore κ D ε) → Multiset (Chore κ D ε) → Prop :=
  Relation.TransGen (Relation.CutExpand (Replaces smaller))

theorem Chore.wellFounded_lighter
    {smaller : κ → κ → Prop}
    (wellFounded : WellFounded smaller) :
    WellFounded (Lighter smaller : Multiset (Chore κ D ε) → Multiset (Chore κ D ε) → Prop) :=
  (wellFounded_replaces wellFounded).cutExpand.transGen

namespace Chore

variable {smaller : κ → κ → Prop} {chore : Chore κ D ε}
variable {later work others : Multiset (Chore κ D ε)}

/-- A chore may be replaced by any number of later ones, some of which may be gone. -/
theorem lighter_of_le
    {replacement : Multiset (Chore κ D ε)}
    (replaces : ∀ other ∈ replacement, other.Replaces smaller chore)
    (le : later ≤ replacement + others) :
    Lighter smaller later (chore ::ₘ others) := by
  have replaced : Lighter smaller (replacement + others) (chore ::ₘ others) := by
    refine .single ⟨replacement, chore, replaces, ?_⟩
    rw [add_comm replacement, add_right_comm, ← Multiset.singleton_add, add_comm others]
  obtain ⟨gone, work_eq⟩ := Multiset.le_iff_exists_add.mp le
  rw [work_eq] at replaced
  clear work_eq le
  induction gone using Multiset.induction with
  | empty => rwa [add_zero] at replaced
  | cons lost gone inductionHypothesis =>
      refine inductionHypothesis (.head ⟨0, lost, nofun, ?_⟩ replaced)
      rw [add_zero, add_assoc, add_comm gone, Multiset.singleton_add]

theorem lighter_of_done (chore : Chore κ D ε) (others : Multiset (Chore κ D ε)) :
    Lighter smaller others (chore ::ₘ others) :=
  lighter_of_le (fun _ isOne => absurd isOne (Multiset.notMem_zero _)) (zero_add others).ge

theorem lighter_of_replaces
    {replacement : Chore κ D ε}
    (replaces : replacement.Replaces smaller chore)
    (others : Multiset (Chore κ D ε)) :
    Lighter smaller (replacement ::ₘ others) (chore ::ₘ others) := by
  refine lighter_of_le (fun other isOne => ?_) (Multiset.singleton_add replacement others).ge
  obtain rfl := Multiset.mem_singleton.mp isOne
  exact replaces

end Chore

/-! ## The chores of a scheduler -/

/-- A routine that is under way, with the callback to which it belongs. -/
abbrev Underway (κ D ε : Type) := κ × Routine κ D ε

/-- The tasks of routines that are under way. -/
def tasksOf (above : List (Underway κ D ε)) : List (Task κ D ε) :=
  above.map fun owned => .routine owned.2

/-- The chores of the items in the store, of those kept aside, and of the routines under way. -/
def workload (ledger : Ledger (Item κ D)) (detached : DetachedItems κ D)
    (above : List (Underway κ D ε)) : Multiset (Chore κ D ε) :=
  Multiset.ofList ((ledger.live.map fun entry => .call entry.value.callback) ++
    ((detached.items.map fun aside => .call aside.2.callback) ++
      above.map fun owned => .rest owned.1 owned.2))

section Workload

variable {ledger : Ledger (Item κ D)} {detached : DetachedItems κ D}
variable {above : List (Underway κ D ε)}

theorem workload_cons (owned : Underway κ D ε) :
    workload ledger detached (owned :: above) =
      .rest owned.1 owned.2 ::ₘ workload ledger detached above := by
  unfold workload
  rw [← List.append_assoc, ← List.append_assoc, List.map_cons, Multiset.cons_coe,
    Multiset.coe_eq_coe]
  exact List.perm_middle

theorem workload_add
    (handle : SlotHandle)
    (due : Instant)
    (item : Item κ D) :
    workload (ledger.add handle due item) detached above =
      .call item.callback ::ₘ workload ledger detached above := by
  unfold workload
  rw [Ledger.live_add, List.map_append, List.append_assoc, Multiset.cons_coe,
    Multiset.coe_eq_coe]
  exact List.perm_middle

theorem workload_of_live
    (coherent : ledger.Coherent)
    {entry : Entry (Item κ D)}
    (present : entry ∈ ledger.live) :
    workload ledger detached above =
      .call entry.value.callback ::ₘ workload (ledger.erase entry.handle) detached above := by
  unfold workload
  rw [Multiset.cons_coe, Multiset.coe_eq_coe]
  exact ((coherent.cons_live_erase_perm present).symm.map _).append_right _

/-- An item that is kept aside may come in the place of another one. -/
theorem workload_detach_le (item : Item κ D) :
    workload ledger (detached.add item).2 above ≤
      .call item.callback ::ₘ workload ledger detached above := by
  have stays : (detached.erase detached.nextNumber).items.Sublist detached.items := by
    unfold DetachedItems.erase
    split
    · exact List.eraseP_sublist
    · exact .refl _
  unfold workload
  rw [Multiset.cons_coe, Multiset.coe_le]
  refine List.Subperm.trans (List.perm_middle.subperm) (List.Sublist.subperm ?_)
  exact (((stays.map _).append_right _).append_left _).cons_cons _

theorem workload_of_detached
    {number : UInt64}
    {item : Item κ D}
    {remaining : DetachedItems κ D}
    (removed : detached.remove number = (some item, remaining)) :
    workload ledger detached above =
      .call item.callback ::ₘ workload ledger remaining above := by
  unfold DetachedItems.remove at removed
  split at removed
  next => cases removed
  next taken found =>
    cases removed
    obtain ⟨front, back, items_eq, others⟩ := List.lookup_eq_some_iff.mp found
    have notBefore : ∀ aside ∈ front, ¬ (aside.1 == number) = true := by
      intro aside inFront sameNumber
      have differs := others aside inFront
      rw [beq_iff_eq.mp sameNumber, bne_self_eq_false] at differs
      cases differs
    have erase_eq : (detached.erase number).items = front ++ back := by
      simp [DetachedItems.erase, DetachedItems.contains, found, items_eq,
        List.eraseP_append_right _ notBefore]
    have items_perm : detached.items.Perm ((number, item) :: (detached.erase number).items) := by
      rw [erase_eq, items_eq]
      exact List.perm_middle
    unfold workload
    rw [Multiset.cons_coe, Multiset.coe_eq_coe]
    exact (((items_perm.map _).append_right _).append_left _).trans List.perm_middle

/-- What is taken out of a scheduler is a chore that was to be done. -/
theorem workload_of_remove
    {scheduler remaining : Scheduler SlotStore κ D}
    (represents : scheduler.store.Represents ledger)
    {handle : ItemHandle}
    {item : Item κ D}
    (removed : scheduler.remove handle = (some item, remaining))
    (reason : Reason) :
    workload ledger scheduler.detached above =
      .call item.callback ::ₘ
        workload (ledger.record (.dispatched item.callback (item.dispatch handle reason)))
          remaining.detached above := by
  cases handle with
  | stored handle =>
      obtain ⟨fromStore, sameDetached⟩ := Scheduler.remove_stored removed
      obtain ⟨entry, present, rfl, rfl, -⟩ := represents.of_remove_some fromStore
      rw [sameDetached]
      exact workload_of_live represents.holds.coherent present
  | detached number => exact workload_of_detached (Scheduler.remove_detached removed).2

end Workload

/-! ## One request -/

/-- A request that lightens the work: it releases nothing, and what it leads to are again routines
that come to an end. -/
structure Lightens (smaller : κ → κ → Prop) (ledger : Ledger (Item κ D))
    (scheduler : Scheduler SlotStore κ D) (owned : Underway κ D ε) (events : List (Event κ D))
    (next : Scheduler SlotStore κ D) (pushed : List (Underway κ D ε)) : Prop where
  /-- Nothing is released. -/
  noRelease : ∀ items, .released items ∉ events
  /-- The routines that are under way then schedule smaller callbacks only. -/
  tame : ∀ other ∈ pushed, other.2.SchedulesOnly (smaller · other.1)
  /-- There is less to do. -/
  lighter : ∀ above,
    Chore.Lighter smaller
      (workload (events.foldl Ledger.record ledger) next.detached (pushed ++ above))
      (workload ledger scheduler.detached (owned :: above))

/-- Whether an event is a release of all items. -/
def Event.isRelease : Event κ D → Bool
  | released _ => true
  | _ => false

theorem not_released_nil (items : List (Item κ D)) : .released items ∉ ([] : List (Event κ D)) :=
  List.not_mem_nil

theorem not_released_singleton
    {event : Event κ D}
    (noRelease : event.isRelease = false) :
    ∀ items, .released items ∉ [event] := by
  intro items told
  rw [← List.mem_singleton.mp told] at noRelease
  cases noRelease

section Requests

variable {smaller : κ → κ → Prop} {ledger : Ledger (Item κ D)}
variable {scheduler : Scheduler SlotStore κ D} {host : Host ε} {owner : κ}
variable {routine later : Routine κ D ε} {events : List (Event κ D)}

/-- A request that neither creates an item nor takes one out. -/
theorem Lightens.of_continues
    {next : Scheduler SlotStore κ D}
    (noRelease : ∀ items, .released items ∉ events)
    (ledger_eq : events.foldl Ledger.record ledger = ledger)
    (detached_eq : next.detached = scheduler.detached)
    (continues : later.Continues routine)
    (tame : later.SchedulesOnly (smaller · owner)) :
    Lightens smaller ledger scheduler (owner, routine) events next [(owner, later)] where
  noRelease := noRelease
  tame other isLater := by
    obtain rfl := List.mem_singleton.mp isLater
    exact tame
  lighter above := by
    rw [ledger_eq, detached_eq, List.singleton_append, workload_cons, workload_cons]
    exact Chore.lighter_of_replaces (.goOn continues) _

/-- A request that creates an item with a smaller callback. -/
theorem Lightens.of_creation
    {next : Scheduler SlotStore κ D}
    {created : κ}
    (noRelease : ∀ items, .released items ∉ events)
    (isSmaller : smaller created owner)
    (atMost : ∀ above : List (Underway κ D ε),
      workload (events.foldl Ledger.record ledger) next.detached above ≤
        .call created ::ₘ workload ledger scheduler.detached above)
    (continues : later.Continues routine)
    (tame : later.SchedulesOnly (smaller · owner)) :
    Lightens smaller ledger scheduler (owner, routine) events next [(owner, later)] where
  noRelease := noRelease
  tame other isLater := by
    obtain rfl := List.mem_singleton.mp isLater
    exact tame
  lighter above := by
    rw [List.singleton_append, workload_cons, workload_cons]
    have replaces : ∀ other ∈ ({.rest owner later, .call created} : Multiset (Chore κ D ε)),
        other.Replaces smaller (.rest owner routine) := by
      intro other isOne
      rw [Multiset.insert_eq_cons, Multiset.mem_cons, Multiset.mem_singleton] at isOne
      rcases isOne with rfl | rfl
      · exact .goOn continues
      · exact .create isSmaller
    exact Chore.lighter_of_le replaces (Multiset.cons_le_cons _ (atMost above))

/-- A routine that comes to an end lightens the work with every request. -/
theorem exists_lightens
    (act : Interpretation κ D ε)
    (allTame : ∀ callback told, (act callback told).SchedulesOnly (smaller · callback))
    (represents : scheduler.store.Represents ledger)
    (host : Host ε)
    (tame : routine.SchedulesOnly (smaller · owner)) :
    ∃ events next changed pushed,
      (∀ tasks, Execution.request act scheduler host tasks routine =
        (events, ⟨next, changed, tasksOf pushed ++ tasks⟩)) ∧
      Lightens smaller ledger scheduler (owner, routine) events next pushed := by
  cases tame with
  | done =>
      refine ⟨[], scheduler, host, [], fun _ => rfl, not_released_nil,
        List.forall_mem_nil _, fun above => ?_⟩
      rw [List.nil_append, workload_cons]
      exact Chore.lighter_of_done _ _
  | observe goesOn =>
      exact ⟨[], _, _, _, fun _ => rfl,
        .of_continues not_released_nil rfl rfl (.observe host) (goesOn host)⟩
  | update goesOn =>
      exact ⟨[], _, _, _, fun _ => rfl, .of_continues not_released_nil rfl rfl .update goesOn⟩
  | ask goesOn =>
      exact ⟨[], _, _, _, fun _ => rfl,
        .of_continues not_released_nil rfl rfl (.ask _) (goesOn _)⟩
  | @nextDue next goesOn =>
      exact ⟨[], scheduler.nextDue.2, host, [(owner, next scheduler.nextDue.1)], fun _ => rfl,
        .of_continues not_released_nil rfl rfl (.nextDue _) (goesOn _)⟩
  | @schedule delay callback data next isSmaller goesOn =>
      let item := Scheduler.itemAfter host.clock.now delay callback data
      rcases inserted : OrderedStore.insert scheduler.store item.due item with ⟨answer, store⟩
      cases answer with
      | ok handle =>
          refine ⟨[.accepted (.stored handle) item], { scheduler with store }, host,
            [(owner, next (.stored handle))], fun _ => ?_,
            .of_creation (not_released_singleton rfl) isSmaller (fun above => ?_) (.schedule _)
              (goesOn _)⟩
          · simp only [Execution.request, Scheduler.schedule, Scheduler.insert, item, inserted]
            rfl
          · exact le_of_eq (workload_add handle item.due item)
      | error refused =>
          obtain ⟨-, rfl, -⟩ := represents.of_insert_error inserted
          let number := scheduler.detached.nextNumber
          refine ⟨[.detached (.detached number) item],
            { scheduler with store, detached := (scheduler.detached.add item).2 }, host,
            [(owner, next (.detached number))], fun _ => ?_,
            .of_creation (not_released_singleton rfl) isSmaller (fun above => ?_) (.schedule _)
              (goesOn _)⟩
          · simp only [Execution.request, Scheduler.schedule, Scheduler.insert, item, inserted]
            rfl
          · exact workload_detach_le item
  | @trySchedule delay callback data next isSmaller goesOn =>
      let item := Scheduler.itemAfter host.clock.now delay callback data
      rcases inserted : OrderedStore.insert scheduler.store item.due item with ⟨answer, store⟩
      cases answer with
      | ok handle =>
          refine ⟨[.accepted (.stored handle) item], { scheduler with store }, host,
            [(owner, next (.ok (.stored handle)))], fun _ => ?_,
            .of_creation (not_released_singleton rfl) isSmaller (fun above => ?_) (.trySchedule _)
              (goesOn _)⟩
          · simp only [Execution.request, Scheduler.trySchedule, Scheduler.insert, item, inserted]
            rfl
          · exact le_of_eq (workload_add handle item.due item)
      | error refused =>
          refine ⟨[.refused item], { scheduler with store }, host,
            [(owner, next (.error (.insertFailed refused.cause.reason)))], fun _ => ?_,
            .of_continues (not_released_singleton rfl) rfl rfl (.trySchedule _)
              (goesOn _)⟩
          simp only [Execution.request, Scheduler.trySchedule, Scheduler.insert, item, inserted]
          rfl
  | @cancel handle next goesOn =>
      rcases removed : scheduler.remove handle with ⟨_ | item, remaining⟩
      · have detached_eq : remaining.detached = scheduler.detached :=
          congrArg Scheduler.detached (Scheduler.eq_of_remove_none removed)
        refine ⟨[.unknown handle], remaining, host,
          [(owner, next (.error (.unknownItem handle)))], fun _ => ?_,
          .of_continues (not_released_singleton rfl) rfl detached_eq (.cancel _)
            (goesOn _)⟩
        simp only [Execution.request, removed]
        rfl
      · let told := item.dispatch handle .abort
        refine ⟨[.dispatched item.callback told], remaining, host,
          [(item.callback, act item.callback told), (owner, next (.ok ()))], fun _ => ?_,
          not_released_singleton rfl, fun other isOne => ?_, fun above => ?_⟩
        · simp only [Execution.request, removed]
          rfl
        · rw [List.mem_cons, List.mem_singleton] at isOne
          rcases isOne with rfl | rfl
          · exact allTame _ _
          · exact goesOn _
        · -- The routine goes on, and the callback of the cancelled item begins.
          rw [List.cons_append, List.singleton_append, workload_cons, workload_cons, workload_cons,
            workload_of_remove represents removed .abort]
          refine (Chore.lighter_of_replaces .begin _).trans ?_
          rw [Multiset.cons_swap]
          exact Chore.lighter_of_replaces (.goOn (.cancel _)) _

end Requests

end Agenda
