import Agenda.Proofs.Execution.Pending
import Agenda.Proofs.Execution.Turns
import Agenda.Scheduler.Build

/-!
# The limit on pending items

A store with a limit never holds more entries than the limit allows, and it refuses an item exactly
if it holds as many; keys of entries that have left it do not count.  An item is taken out before
its callback runs.  So there is room for another one from then on, until the store takes an item,
and a callback that schedules before anything else is always heard.
-/

namespace Agenda

variable {κ D ε : Type}

/-! ## Limits -/

theorem Scheduler.limit_remove
    {scheduler remaining : Scheduler SlotStore κ D}
    {handle : ItemHandle}
    {answer : Option (Item κ D)}
    (removed : scheduler.remove handle = (answer, remaining)) :
    remaining.store.limit = scheduler.store.limit := by
  cases handle with
  | stored handle =>
      obtain ⟨fromStore, -⟩ := remove_stored removed
      have same := SlotStore.limit_remove scheduler.store handle
      rwa [show scheduler.store.remove handle = _ from fromStore] at same
  | detached number => rw [(remove_detached removed).1]

/-- No change alters the limit of a store. -/
theorem Effect.limit_eq
    {now : Instant}
    {scheduler next : Scheduler SlotStore κ D}
    {events : List (Event κ D)}
    (effect : Effect now scheduler events next) :
    next.store.limit = scheduler.store.limit := by
  have ofInsert : ∀ {item : Item κ D} {answer store},
      OrderedStore.insert scheduler.store item.due item = (answer, store) →
        store.limit = scheduler.store.limit := by
    intro item answer store inserted
    have same := SlotStore.limit_insert scheduler.store item.due item
    rwa [show scheduler.store.insert item.due item = _ from inserted] at same
  cases effect with
  | quiet => rfl
  | peek => rfl
  | accept _ inserted => exact ofInsert inserted
  | detach _ inserted => exact ofInsert inserted
  | refuse inserted => exact ofInsert inserted
  | cancel removed => exact Scheduler.limit_remove removed
  | miss removed => exact Scheduler.limit_remove removed
  | fire peeked _ removed =>
      have looked := SlotStore.limit_peek scheduler.store
      rw [show scheduler.store.peek = _ from peeked] at looked
      exact (Scheduler.limit_remove removed).trans looked
  | release => exact SlotStore.limit_removeAll _

theorem Course.limit_eq
    (course : Course SlotStore κ D)
    {limit : Option Nat}
    (initially : (course.scheduler 0).store = .empty limit)
    (steps : Nat) :
    (course.scheduler steps).store.limit = limit := by
  refine course.timelessInvariant (fun _ scheduler => scheduler.store.limit = limit) ?_ ?_ steps
  · rw [initially]
    rfl
  · intro now history scheduler events next effect same
    exact effect.limit_eq.trans same

/-! ## Requests to schedule -/

/-- The item of a request to schedule that an execution makes next is taken by the store, or not,
and the request is answered so. -/
structure Execution.AnswersOffer (act : Interpretation κ D ε)
    (execution : Execution SlotStore κ D ε) (taken : Prop) : Prop where
  /-- An item that is not taken is kept aside under a degenerate handle. -/
  schedules : ∀ delay callback data next tasks,
    execution.tasks = .routine (.schedule delay callback data next) :: tasks →
      ∃ handle, (execution.step act).2.tasks = .routine (next handle) :: tasks ∧
        (handle.isDegenerate = true ↔ ¬ taken)
  /-- Or the request fails, and the error gives the reason of the refusal. -/
  triesSchedule : ∀ delay callback data next tasks,
    execution.tasks = .routine (.trySchedule delay callback data next) :: tasks →
      ∃ result, (execution.step act).2.tasks = .routine (next result) :: tasks ∧
        ((∃ handle, result = .ok (.stored handle)) ↔ taken) ∧
        (result = .error (.insertFailed Refusal.limitReached.reason) ↔ ¬ taken)

namespace Scheduler

variable {scheduler : Scheduler SlotStore κ D}

/-- A handle is degenerate if the store was full. -/
theorem isDegenerate_schedule (scheduler : Scheduler SlotStore κ D) (item : Item κ D) :
    (scheduler.schedule item).1.isDegenerate = scheduler.store.isFull := by
  cases full : scheduler.store.isFull with
  | true =>
      have inserted : OrderedStore.insert scheduler.store item.due item = _ :=
        SlotStore.insert_of_isFull full item.due item
      simp only [schedule, insert, inserted]
      rfl
  | false =>
      have inserted : OrderedStore.insert scheduler.store item.due item = _ :=
        SlotStore.insert_of_not_isFull full item.due item
      simp only [schedule, insert, inserted]
      rfl

/-- A full store refuses an item, and every other store takes it. -/
theorem fst_trySchedule (scheduler : Scheduler SlotStore κ D) (item : Item κ D) :
    (scheduler.trySchedule item).1 =
      if scheduler.store.isFull then .error (.insertFailed Refusal.limitReached.reason)
      else .ok (.stored (scheduler.store.occupy item).1) := by
  cases full : scheduler.store.isFull with
  | true =>
      have inserted : OrderedStore.insert scheduler.store item.due item = _ :=
        SlotStore.insert_of_isFull full item.due item
      simp only [trySchedule, insert, inserted]
      rfl
  | false =>
      have inserted : OrderedStore.insert scheduler.store item.due item = _ :=
        SlotStore.insert_of_not_isFull full item.due item
      simp only [trySchedule, insert, inserted]
      rfl

end Scheduler

/-- A scheduler is built over an empty store with the limit of the configuration. -/
theorem Scheduler.store_of_ofConfig
    {config : Config}
    {limit : UInt64}
    {scheduler : Scheduler SlotStore κ D}
    (built : ofConfig config = .ok scheduler)
    (hasLimit : config.maxPendingEvents = some limit) :
    scheduler.store = .empty (some limit.toNat) := by
  unfold ofConfig validated Config.validate at built
  split at built
  · cases built
  · cases built
    show SlotStore.empty (config.maxPendingEvents.map UInt64.toNat) = _
    rw [hasLimit, Option.map_some]

/-- Requests to schedule are answered by whether the store is full. -/
theorem Execution.answersOffer
    (act : Interpretation κ D ε)
    {execution : Execution SlotStore κ D ε}
    {taken : Prop}
    (full_iff : execution.scheduler.store.isFull = true ↔ ¬ taken) :
    execution.AnswersOffer act taken := by
  obtain ⟨scheduler, host, stack⟩ := execution
  refine ⟨?_, ?_⟩
  · rintro delay callback data next tasks rfl
    let item := Scheduler.itemAfter host.clock.now delay callback data
    refine ⟨(scheduler.schedule item).1, rfl, ?_⟩
    rw [scheduler.isDegenerate_schedule item]
    exact full_iff
  · rintro delay callback data next tasks rfl
    let item := Scheduler.itemAfter host.clock.now delay callback data
    refine ⟨(scheduler.trySchedule item).1, rfl, ?_⟩
    rw [scheduler.fst_trySchedule item]
    cases full : scheduler.store.isFull with
    | true =>
        have refused : ¬ taken := full_iff.mp full
        simp [refused]
    | false =>
        have accepted : taken := by
          by_contra refused
          rw [full_iff.mpr refused] at full
          cases full
        simp [accepted]

/-! ## Room after a departure -/

namespace Ledger

/-- The number of pending items grows only if the store takes one. -/
theorem length_live_record_le
    (ledger : Ledger (Item κ D))
    {event : Event κ D}
    (notAccepted : event.acceptance? = none) :
    (ledger.record event).live.length ≤ ledger.live.length := by
  unfold record
  split
  · cases notAccepted
  · exact List.length_filter_le _ _
  · exact List.length_filter_le _ _
  · exact Nat.le_refl _

theorem length_live_foldl_record_le
    (ledger : Ledger (Item κ D))
    {events : List (Event κ D)}
    (noneAccepted : acceptances events = []) :
    (events.foldl record ledger).live.length ≤ ledger.live.length := by
  rw [acceptances, List.filterMap_eq_nil_iff] at noneAccepted
  induction events generalizing ledger with
  | nil => exact Nat.le_refl _
  | cons event events inductionHypothesis =>
      obtain ⟨notAccepted, noneLater⟩ := List.forall_mem_cons.mp noneAccepted
      exact Nat.le_trans (inductionHypothesis (ledger.record event) noneLater)
        (ledger.length_live_record_le notAccepted)

end Ledger

/-- An item of the store that is taken out was one of those that were pending. -/
theorem Scheduler.length_live_lt_of_remove
    {scheduler remaining : Scheduler SlotStore κ D}
    {ledger : Ledger (Item κ D)}
    (represents : scheduler.store.Represents ledger)
    {handle : ItemHandle}
    {item : Item κ D}
    (removed : scheduler.remove handle = (some item, remaining))
    (isStored : handle.isDegenerate = false)
    (reason : Reason) :
    (ledger.record (.dispatched item.callback (item.dispatch handle reason))).live.length <
      ledger.live.length := by
  cases handle with
  | detached number => cases isStored
  | stored handle =>
      obtain ⟨entry, present, rfl, -⟩ := represents.of_remove_some (remove_stored removed).1
      rw [Ledger.record_dispatch]
      exact Nat.lt_of_succ_le (Nat.le_of_eq (represents.holds.coherent.length_live_erase present))

/-- A change that calls the callback of an item of the store does nothing else, and it takes the
item out. -/
theorem Effect.of_dispatched
    {now : Instant}
    {scheduler next : Scheduler SlotStore κ D}
    {events : List (Event κ D)}
    (effect : Effect now scheduler events next)
    {ledger : Ledger (Item κ D)}
    (represents : scheduler.store.Represents ledger)
    {callback : κ}
    {told : Dispatch D}
    (called : .dispatched callback told ∈ events)
    (isStored : told.handle.isDegenerate = false) :
    events = [.dispatched callback told] ∧
      (events.foldl Ledger.record ledger).live.length < ledger.live.length := by
  cases effect with
  | quiet quiet =>
      obtain rfl := List.mem_singleton.mp called
      cases quiet
  | peek | miss => cases called
  | accept | detach | refuse | release => cases List.mem_singleton.mp called
  | cancel removed =>
      cases List.mem_singleton.mp called
      exact ⟨rfl, Scheduler.length_live_lt_of_remove represents removed isStored .abort⟩
  | fire peeked _ removed =>
      cases List.mem_singleton.mp called
      exact ⟨rfl, Scheduler.length_live_lt_of_remove (represents.of_peek peeked) removed isStored
        .timed⟩

/-- A store with a limit has room after an item has left it to run its callback, until it takes
another one. -/
structure HasRoom (limit : Nat) (history : List (Event κ D)) (scheduler : Scheduler SlotStore κ D) :
    Prop where
  /-- The store has the entries of the ledger. -/
  represents : scheduler.store.Represents (.ofHistory history)
  /-- It has the limit. -/
  limit_eq : scheduler.store.limit = some limit
  /-- And there is room. -/
  size_lt : ∀ before callback told after,
    history = before ++ .dispatched callback told :: after →
      told.handle.isDegenerate = false → acceptances after = [] → scheduler.size < limit

namespace HasRoom

variable {limit : Nat} {history events : List (Event κ D)}
variable {scheduler next : Scheduler SlotStore κ D}

theorem size_eq (hasRoom : HasRoom limit history scheduler) :
    scheduler.size = (Ledger.ofHistory history).live.length :=
  hasRoom.represents.holds.size_eq

theorem size_le (hasRoom : HasRoom limit history scheduler) : scheduler.size ≤ limit :=
  hasRoom.represents.size_le limit hasRoom.limit_eq

theorem isFull_iff (hasRoom : HasRoom limit history scheduler) :
    scheduler.store.isFull = true ↔ scheduler.size = limit := by
  rw [hasRoom.represents.isFull_iff, hasRoom.limit_eq, hasRoom.size_eq, Option.some.injEq, eq_comm]

theorem change
    {now : Instant}
    (hasRoom : HasRoom limit history scheduler)
    (effect : Effect now scheduler events next) :
    HasRoom limit (history ++ events) next where
  represents := by
    rw [Ledger.ofHistory_append]
    exact effect.represents hasRoom.represents
  limit_eq := effect.limit_eq.trans hasRoom.limit_eq
  size_lt before callback told after history_eq isStored noneAccepted := by
    have next_size_eq : next.size = (events.foldl Ledger.record (.ofHistory history)).live.length :=
      (effect.represents hasRoom.represents).holds.size_eq
    have size_le := hasRoom.size_le
    rcases split_of_append history_eq with ⟨middle, rfl, rfl⟩ | ⟨middle, rfl, rfl⟩
    · -- The item leaves by this change.
      have length_lt := (effect.of_dispatched hasRoom.represents
        (List.mem_append_right _ List.mem_cons_self) isStored).2
      rw [← next_size_eq, ← hasRoom.size_eq] at length_lt
      omega
    · -- It has left before, and nothing comes in.
      rw [acceptances_append, List.append_eq_nil_iff] at noneAccepted
      have wasRoom := hasRoom.size_lt before callback told middle rfl isStored noneAccepted.1
      have length_le := Ledger.length_live_foldl_record_le
        (.ofHistory (before ++ .dispatched callback told :: middle)) noneAccepted.2
      rw [← next_size_eq, ← hasRoom.size_eq] at length_le
      omega

end HasRoom

theorem Course.hasRoom
    (course : Course SlotStore κ D)
    {limit : Nat}
    (startsEmpty : (course.scheduler 0).store = .empty (some limit))
    (steps : Nat) :
    HasRoom limit (course.history steps) (course.scheduler steps) := by
  refine course.timelessInvariant (HasRoom limit) ⟨?_, ?_, ?_⟩
    (fun effect hasRoom => hasRoom.change effect) steps
  · rw [startsEmpty]
    exact SlotStore.represents_empty _
  · rw [startsEmpty]
    rfl
  · intro before callback told after noHistory
    simp at noHistory

/-! ## Steps that call a callback -/

private theorem eq_singleton_of_mem
    {α : Type}
    {list : List α}
    {member : α}
    (present : member ∈ list)
    (short : list.length ≤ 1) :
    list = [member] := by
  match list, present, short with
  | [only], present, _ => rw [List.mem_singleton.mp present]

namespace Execution

variable {σ : Type → Type} [OrderedStore σ]

/-- The call of a callback is the last thing that happens in a step. -/
theorem exists_events_eq_of_dispatched
    {act : Interpretation κ D ε}
    {execution : Execution σ κ D ε}
    {callback : κ}
    {told : Dispatch D}
    (called : .dispatched callback told ∈ (execution.step act).1) :
    ∃ begun, (execution.step act).1 = begun ++ [.dispatched callback told] := by
  have ofEnded : ∀ begun {ended : List (Event κ D)}, .dispatched callback told ∈ ended →
      ended.length ≤ 1 → ∃ earlier, begun ++ ended = earlier ++ [.dispatched callback told] :=
    fun begun _ present short => ⟨begun, congrArg _ (eq_singleton_of_mem present short)⟩
  obtain ⟨scheduler, host, tasks⟩ := execution
  cases tasks with
  | nil => cases called
  | cons task tasks =>
      cases task with
      | routine routine => exact ofEnded [] called (length_request_le ..)
      | turns hooks poller next =>
          simp only [step, turn] at called ⊢
          split at called
          next =>
            rcases List.mem_append.mp called with begun | ended
            · exact (not_dispatched_planEvents _ _ _ _ begun).elim
            · cases List.mem_singleton.mp ended
          next wait planned =>
            rcases List.mem_append.mp called with begun | ended
            · exact (not_dispatched_planEvents _ _ _ _ begun).elim
            · cases ended with
              | tail _ ended =>
                  rw [← List.singleton_append, ← List.append_assoc]
                  exact ofEnded _ ended (length_afterTurn_le ..)
      | sharedTurns hooks poller others next =>
          simp only [step, sharedPlan] at called
          split at called
          · rcases List.mem_append.mp called with begun | ended
            · exact (not_dispatched_planEvents _ _ _ _ begun).elim
            · cases List.mem_singleton.mp ended
          · exact (not_dispatched_planEvents _ _ _ _ called).elim
      | sharedSettle wait hooks poller others next =>
          cases called with
          | tail _ ended => exact ofEnded [_] ended (length_afterTurn_le ..)

end Execution

/-! ## Schedulers that are built with a limit -/

namespace Parties

/-- The limit of a configuration is exact, whatever any number of parties do at the scheduler that
is built from it.  There are never more pending items than the limit allows; a request to schedule
is refused exactly if there are as many; when the callback of a pending item is entered there is
one less, at least; and from then on requests to schedule are granted until the store has taken an
item. -/
theorem limit_is_exact
    (act : Interpretation κ D ε)
    (mover : Nat → Nat)
    (parties : Parties SlotStore κ D ε)
    (config : Config)
    (limit : UInt64)
    (built : Scheduler.ofConfig config = .ok parties.scheduler)
    (hasLimit : config.maxPendingEvents = some limit)
    (time : Nat) :
    (parties.after act mover time).scheduler.size ≤ limit.toNat ∧
      ((parties.after act mover time).execution (mover time)).AnswersOffer act
        ((parties.after act mover time).scheduler.size ≠ limit.toNat) ∧
      (∀ callback told,
        .dispatched callback told ∈ ((parties.after act mover time).step act (mover time)).1 →
          told.handle.isDegenerate = false →
            (∃ waiting, (parties.after act mover (time + 1)).tasks (mover time) =
                .routine (act callback told) :: waiting) ∧
              (parties.after act mover (time + 1)).scheduler.size + 1 ≤ limit.toNat) ∧
      ∀ before callback told after,
        parties.history act mover time = before ++ .dispatched callback told :: after →
          told.handle.isDegenerate = false → acceptances after = [] →
            ((parties.after act mover time).execution (mover time)).AnswersOffer act True := by
  have startsEmpty : parties.scheduler.store = .empty (some limit.toNat) :=
    Scheduler.store_of_ofConfig built hasLimit
  have hasRoom : ∀ step, HasRoom limit.toNat (parties.history act mover step)
      (parties.after act mover step).scheduler := (parties.course act mover).hasRoom startsEmpty
  refine ⟨(hasRoom time).size_le, ?_, ?_, ?_⟩
  · refine Execution.answersOffer act ?_
    rw [not_ne_iff]
    exact (hasRoom time).isFull_iff
  · intro callback told called isStored
    constructor
    · rw [after, tasks_step_self]
      exact Execution.tasks_of_dispatched act _ called
    · obtain ⟨begun, events_eq⟩ := Execution.exists_events_eq_of_dispatched called
      refine (hasRoom (time + 1)).size_lt (parties.history act mover time ++ begun) callback told []
        ?_ isStored rfl
      rw [List.append_assoc, ← events_eq]
      rfl
  · intro before callback told after history_eq isStored noneAccepted
    have size_lt := (hasRoom time).size_lt before callback told after history_eq isStored
      noneAccepted
    refine Execution.answersOffer act ?_
    rw [not_true, iff_false]
    intro full
    exact Nat.ne_of_lt size_lt ((hasRoom time).isFull_iff.mp full)

/-- The configuration from which the scheduler of the two loops and the visitor is built. -/
def visitConfig : Config := { Config.standard with maxPendingEvents := some 2 }

theorem limit_is_exact_visit :
    Scheduler.ofConfig visitConfig = .ok visit.scheduler ∧
      visitConfig.maxPendingEvents = some 2 ∧
      (visit.after visitAct visitMover 2).scheduler.size = 2 ∧
      ((visit.after visitAct visitMover 2).execution (visitMover 2)).AnswersOffer visitAct False ∧
      (visit.after visitAct visitMover 13).scheduler.size = 2 ∧
      (visit.after visitAct visitMover 14).scheduler.size + 1 ≤ 2 ∧
      ((visit.after visitAct visitMover 15).execution (visitMover 15)).AnswersOffer visitAct
        True := by
  have built : Scheduler.ofConfig visitConfig = .ok visit.scheduler := rfl
  have size_two : (visit.after visitAct visitMover 2).scheduler.size = 2 := by decide +kernel
  have called : ('b', ⟨.stored ⟨1, 0⟩, 5000, .timed, 0, 1⟩) ∈
      calls ((visit.after visitAct visitMover 13).step visitAct (visitMover 13)).1 := by
    decide +kernel
  obtain ⟨before, history_eq⟩ : ∃ before, visit.history visitAct visitMover 15 =
      before ++ .dispatched 'b' ⟨.stored ⟨1, 0⟩, 5000, .timed, 0, 1⟩ :: [.polled 0 (.ok 0)] :=
    ⟨visit.history visitAct visitMover 13 ++ [.polled 0 (.ok 0)], by with_unfolding_all rfl⟩
  have exactAt := limit_is_exact visitAct visitMover visit visitConfig 2 built rfl
  have full : ((visit.after visitAct visitMover 2).scheduler.size ≠ 2) = False :=
    eq_false (not_not_intro size_two)
  refine ⟨built, rfl, size_two, full ▸ (exactAt 2).2.1, by decide +kernel, ?_, ?_⟩
  · exact ((exactAt 13).2.2.1 _ _ ((mem_calls _ _ _).mp called) rfl).2
  · exact (exactAt 15).2.2.2 before _ _ _ history_eq rfl rfl

end Parties
end Agenda
