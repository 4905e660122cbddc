import Agenda.Proofs.Execution.Continuation
import Agenda.Proofs.Execution.Course

/-!
# The halves of a turn

The first half of a turn goes on only if no request to stop is raised, and it then waits for the
earliest item.  The second half fires this item exactly if no source had input, the item is
still the earliest, and its due instant has come; otherwise it changes nothing.  Nothing but a
second half fires an item.
-/

namespace Agenda

variable {κ D ε : Type}

/-- The second half of a turn: what was awaited, what the wait brought, and what the clock
showed then. -/
structure Completion where
  /-- The item that the turn waits for. -/
  wait : Wait
  /-- What the wait brought. -/
  result : PollResult
  /-- What the clock shows after the wait. -/
  reading : Instant

/-- The entry that was awaited is to be fired. -/
structure Completion.IsDue (completion : Completion) (ledger : Ledger (Item κ D))
    (entry : Entry (Item κ D)) : Prop where
  /-- The wait was not cut short, and no source had input. -/
  result_eq : completion.result = .ok 0
  /-- The entry is the earliest. -/
  earliest : ledger.IsEarliest entry
  /-- It is the one that was awaited. -/
  handle_eq : entry.handle = completion.wait.handle
  /-- Its due instant has come. -/
  due_le : entry.due ≤ completion.reading

/-- Serving a request to rotate the log keeps two states related if the hooks do. -/
theorem Host.serveRotation_related
    {R : Host ε → Host ε → Prop}
    {hooks otherHooks : Hooks ε}
    (rotateLog : ∀ now host changed, R host changed →
      R (hooks.rotateLog now host) (otherHooks.rotateLog now changed))
    (updateStatus : ∀ host changed, R host changed →
      R (hooks.updateStatus host) (otherHooks.updateStatus changed))
    {host changed : Host ε}
    (related : R host changed)
    (taken : R { host with signals := host.signals.takeLogRotation.2 }
      { changed with signals := changed.signals.takeLogRotation.2 })
    (requested_eq : changed.signals.logRotation = host.signals.logRotation)
    (now_eq : changed.clock.now = host.clock.now) :
    (changed.serveRotation otherHooks).1 = (host.serveRotation hooks).1 ∧
      R (host.serveRotation hooks).2 (changed.serveRotation otherHooks).2 := by
  unfold serveRotation
  cases requested : host.signals.logRotation with
  | false =>
      simp only [Signals.takeLogRotation_fst, requested_eq, requested, Bool.false_eq_true, if_false]
      exact ⟨trivial, related⟩
  | true =>
      simp only [Signals.takeLogRotation_fst, requested_eq, requested, if_true, now_eq]
      exact ⟨trivial, updateStatus _ _ (rotateLog host.clock.now _ _ taken)⟩

namespace Scheduler

variable {scheduler : Scheduler SlotStore κ D} {ledger : Ledger (Item κ D)}

/-- A turn goes on if no request to stop is raised, and it waits for the earliest item. -/
theorem of_planTurn_await
    (represents : scheduler.store.Represents ledger)
    (bounds : ledger.WithinBounds)
    {hooks : Hooks ε}
    {host : Host ε}
    {wait : Wait}
    (planned : (scheduler.planTurn hooks host).plan = .await wait) :
    host.signals.shutdown = false ∧ host.signals.restart = false ∧
      ∃ entry, ledger.IsEarliest entry ∧ entry.handle = wait.handle ∧
        wait.timeout = waitFor host.clock.now entry.due scheduler.pollCeiling := by
  unfold planTurn at planned
  split at planned
  next => cases planned
  next noStop =>
    obtain ⟨noShutdown, noRestart⟩ := (Signals.stop?_eq_none_iff _).mp noStop
    refine ⟨noShutdown, noRestart, ?_⟩
    dsimp only [awaitFirst] at planned
    split at planned
    next => cases planned
    next handle due store peeked =>
      cases planned
      obtain ⟨entry, earliest, sameHandle, rfl⟩ :=
        represents.isEarliest_of_peek bounds (congrArg Prod.fst peeked)
      exact ⟨entry, earliest, sameHandle, rfl⟩

/-- The awaited item is fired if it is to be fired. -/
theorem settleTurn_of_isDue
    (represents : scheduler.store.Represents ledger)
    (bounds : ledger.WithinBounds)
    {completion : Completion}
    {entry : Entry (Item κ D)}
    (isDue : completion.IsDue ledger entry) :
    (scheduler.settleTurn completion.wait completion.result completion.reading).1 =
      .fire (.stored entry.handle) entry.value := by
  have notEmpty : scheduler.store.peek.1 ≠ none := by
    intro noneFound
    have noneLive := represents.peek_eq_none_iff.mp noneFound
    have present := isDue.earliest.1
    rw [noneLive] at present
    cases present
  have noneReady : scheduler.settleTurn completion.wait completion.result completion.reading =
      scheduler.fireIfDue completion.wait completion.reading := by
    rw [isDue.result_eq]
    rfl
  rw [noneReady, fireIfDue]
  split
  next peeked => exact absurd (congrArg Prod.fst peeked) notEmpty
  next handle due store peeked =>
    obtain ⟨first, earliest, rfl, rfl⟩ :=
      represents.isEarliest_of_peek bounds (congrArg Prod.fst peeked)
    obtain rfl : first = entry := earliest.eq isDue.earliest
    have noTimeLeft : ¬ 0 < timeLeft completion.reading first.due := by
      rw [timeLeft_pos_iff, Nat.not_lt]
      exact isDue.due_le
    dsimp only
    rw [if_pos ⟨isDue.handle_eq, noTimeLeft⟩, ← isDue.handle_eq]
    have looked := represents.of_peek peeked
    split
    next removed =>
      have unnamed := (looked.of_remove_none (remove_stored removed).1).1
      exact absurd rfl (unnamed first earliest.1)
    next item _ removed =>
      obtain ⟨other, present, sameHandle, rfl, -⟩ :=
        looked.of_remove_some (remove_stored removed).1
      have sameEntry := represents.holds.coherent.eq_of_slot_eq present earliest.1
        (congrArg SlotHandle.slot sameHandle)
      rw [sameEntry]

/-- No item is fired if none is to be fired. -/
theorem settleTurn_of_not_isDue
    (represents : scheduler.store.Represents ledger)
    (bounds : ledger.WithinBounds)
    {completion : Completion}
    (notDue : ∀ entry, ¬ completion.IsDue ledger entry)
    (handle : ItemHandle)
    (item : Item κ D) :
    (scheduler.settleTurn completion.wait completion.result completion.reading).1 ≠
      .fire handle item := by
  unfold settleTurn
  split
  next error =>
    split
    · exact nofun
    · exact nofun
  next ready result_eq =>
    split
    next => exact nofun
    next noneReady =>
      obtain rfl : ready = 0 := Nat.eq_zero_of_not_pos noneReady
      unfold fireIfDue
      split
      next => exact nofun
      next first due store peeked =>
        obtain ⟨entry, earliest, rfl, rfl⟩ :=
          represents.isEarliest_of_peek bounds (congrArg Prod.fst peeked)
        have waits : ¬ (entry.handle = completion.wait.handle ∧
            ¬ 0 < timeLeft completion.reading entry.due) := by
          rintro ⟨sameHandle, noTimeLeft⟩
          rw [timeLeft_pos_iff, Nat.not_lt] at noTimeLeft
          exact notDue entry ⟨result_eq, earliest, sameHandle, noTimeLeft⟩
        dsimp only
        rw [if_neg waits]
        exact nofun

/-- The first half of a turn leaves alone what is kept aside. -/
theorem detached_planTurn
    {σ : Type → Type}
    [OrderedStore σ]
    (scheduler : Scheduler σ κ D)
    (hooks : Hooks ε)
    (host : Host ε) :
    (scheduler.planTurn hooks host).scheduler.detached = scheduler.detached := by
  unfold planTurn awaitFirst
  split
  · rfl
  · dsimp only
    split <;> rfl

/-- The second half of a turn leaves alone what is kept aside. -/
theorem detached_settleTurn
    {σ : Type → Type}
    [OrderedStore σ]
    (scheduler : Scheduler σ κ D)
    (wait : Wait)
    (result : PollResult)
    (now : Instant) :
    (scheduler.settleTurn wait result now).2.detached = scheduler.detached := by
  unfold settleTurn fireIfDue
  split
  · split <;> rfl
  · split
    · rfl
    · split
      · rfl
      · dsimp only
        split
        · split
          next removed => exact (remove_stored removed).2
          next removed => exact (remove_stored removed).2
        · rfl

end Scheduler

namespace Execution

variable {σ : Type → Type} [OrderedStore σ]

/-- The second half of a turn that the next step completes, if it completes one. -/
def completion? (execution : Execution σ κ D ε) : Option Completion :=
  match execution.tasks with
  | .turns hooks poller _ :: _ =>
      let planned := execution.scheduler.planTurn hooks execution.host
      match planned.plan with
      | .leave _ => none
      | .await wait =>
          let (result, polledHost) := poller wait.timeout planned.host
          some ⟨wait, result, polledHost.clock.now⟩
  | .sharedSettle wait _ poller _ _ :: _ =>
      let (result, polledHost) := poller wait.timeout execution.host
      some ⟨wait, result, polledHost.clock.now⟩
  | _ => none

omit [OrderedStore σ] in
@[simp] theorem scheduler_afterTurn
    (act : Interpretation κ D ε)
    (scheduler : Scheduler σ κ D)
    (host : Host ε)
    (settlement : Settlement κ D)
    (loop : Task κ D ε)
    (next : LoopExit → Routine κ D ε)
    (tasks : List (Task κ D ε)) :
    (afterTurn act scheduler host settlement loop next tasks).2.scheduler = scheduler := by
  cases settlement <;> rfl

omit [OrderedStore σ] in
theorem afterTurn_fire
    (act : Interpretation κ D ε)
    (scheduler : Scheduler σ κ D)
    (host : Host ε)
    (handle : ItemHandle)
    (item : Item κ D)
    (loop : Task κ D ε)
    (next : LoopExit → Routine κ D ε)
    (tasks : List (Task κ D ε)) :
    (afterTurn act scheduler host (.fire handle item) loop next tasks).1 =
      [.dispatched item.callback (item.dispatch handle .timed)] := rfl

omit [OrderedStore σ] in
theorem quiet_afterTurn
    (act : Interpretation κ D ε)
    (scheduler : Scheduler σ κ D)
    (host : Host ε)
    {settlement : Settlement κ D}
    (firesNothing : ∀ handle item, settlement ≠ .fire handle item)
    (loop : Task κ D ε)
    (next : LoopExit → Routine κ D ε)
    (tasks : List (Task κ D ε)) :
    ∀ event ∈ (afterTurn act scheduler host settlement loop next tasks).1,
      event.isQuiet = true := by
  intro event told
  cases settlement with
  | again => cases told
  | leave exit =>
      obtain rfl := List.mem_singleton.mp told
      rfl
  | fire handle item => exact absurd rfl (firesNothing handle item)

/-- A step that completes a turn settles it, after events that leave the items alone. -/
theorem exists_settle_of_completion
    (act : Interpretation κ D ε)
    {execution : Execution σ κ D ε}
    {completion : Completion}
    (completes : execution.completion? = some completion) :
    ∃ begun scheduler host loop next tasks,
      (∀ event ∈ begun, event.isQuiet = true) ∧
        Effects completion.reading execution.scheduler begun scheduler ∧
          scheduler.detached = execution.scheduler.detached ∧
            let settled := scheduler.settleTurn completion.wait completion.result
              completion.reading
            let ended := afterTurn act settled.2 host settled.1 loop next tasks
            (execution.step act).1 = begun ++ ended.1 ∧
              (execution.step act).2.scheduler = settled.2 ∧
                (execution.step act).2.host.clock.now = completion.reading := by
  obtain ⟨scheduler, host, tasks⟩ := execution
  cases tasks with
  | nil => cases completes
  | cons task tasks =>
      cases task with
      | routine | sharedTurns => cases completes
      | turns hooks poller next =>
          simp only [completion?] at completes
          split at completes
          next => cases completes
          next wait planned =>
            cases completes
            let polledHost := (poller wait.timeout (scheduler.planTurn hooks host).host).2
            let polled : Event κ D := .polled wait.timeout
              (poller wait.timeout (scheduler.planTurn hooks host).host).1
            refine ⟨planEvents host (scheduler.planTurn hooks host).rotatedAt ++ [polled],
              (scheduler.planTurn hooks host).scheduler, polledHost,
              .turns hooks poller next, next, tasks, ?_, ?_, ?_, ?_, ?_, ?_⟩
            · intro event told
              rcases List.mem_append.mp told with begun | isPolled
              · exact planEvents_quiet host _ event begun
              · obtain rfl := List.mem_singleton.mp isPolled
                rfl
            · exact (plan_effects scheduler hooks host _).trans (.single (.quiet rfl))
            · exact scheduler.detached_planTurn hooks host
            · simp only [step, turn, planned, List.append_assoc]
              rfl
            · simp only [step, turn, planned, scheduler_afterTurn]
            · simp only [step, turn, planned, host_afterTurn]
      | sharedSettle wait hooks poller others next =>
          cases completes
          refine ⟨[.polled wait.timeout (poller wait.timeout host).1], scheduler,
            (poller wait.timeout host).2, .sharedTurns hooks poller others next, next, tasks,
            ?_, .single (.quiet rfl), rfl, rfl, ?_, ?_⟩
          · intro event told
            obtain rfl := List.mem_singleton.mp told
            rfl
          · simp only [step, sharedSettle, scheduler_afterTurn]
          · simp only [step, sharedSettle, host_afterTurn]

/-! ## Calls -/

omit [OrderedStore σ] in
theorem not_dispatched_planEvents
    (host : Host ε)
    (rotatedAt : Option Instant)
    (callback : κ)
    (told : Dispatch D) :
    .dispatched callback told ∉ (planEvents host rotatedAt : List (Event κ D)) := by
  intro called
  cases planEvents_quiet host rotatedAt _ called

/-- Nothing but the second half of a turn fires an item. -/
theorem reason_of_dispatched
    (act : Interpretation κ D ε)
    (execution : Execution σ κ D ε)
    {callback : κ}
    {told : Dispatch D}
    (called : .dispatched callback told ∈ (execution.step act).1)
    (completesNothing : execution.completion? = none) :
    told.reason = .abort := by
  obtain ⟨scheduler, host, tasks⟩ := execution
  cases tasks with
  | nil => cases called
  | cons task tasks =>
      obtain ⟨resumed, goesOn, -⟩ := goesOn_step act scheduler host task tasks
      have made := (mem_calls _ _ _).mpr called
      cases task with
      | routine routine => exact goesOn.reason_eq_abort made
      | turns hooks poller next =>
          cases planned : (scheduler.planTurn hooks host).plan with
          | leave exit =>
              simp only [step, turn, planned, calls_append, calls_planEvents] at made
              cases made
          | await wait => simp [completion?, planned] at completesNothing
      | sharedTurns hooks poller others next =>
          rw [goesOn.eq_nil_of_sharedTurns] at made
          cases made
      | sharedSettle wait hooks poller others next => cases completesNothing

end Execution

end Agenda
