import Agenda.Proofs.Execution.Parties
import Agenda.Proofs.Store.Reachability

/-!
# How loops end

A loop ends at the beginning of a turn, where a request to stop is raised or no item is in the
store, or after a wait that failed.  That no item is in the store is found by looking for the
earliest one.  Since every entry of a store can be reached, a loop never ends for want of items
while one is pending in the store.
-/

namespace Agenda

variable {κ D ε : Type}

/-- The end of a loop. -/
def Event.exit? : Event κ D → Option LoopExit
  | exited exit => some exit
  | _ => none

theorem mem_filterMap_exit? (history : List (Event κ D)) (exit : LoopExit) :
    exit ∈ history.filterMap Event.exit? ↔ .exited exit ∈ history := by
  rw [List.mem_filterMap]
  constructor
  · rintro ⟨event, present, isExit⟩
    cases event <;> cases isExit
    exact present
  · intro present
    exact ⟨_, present, rfl⟩

namespace Scheduler

variable {σ : Type → Type} [OrderedStore σ]

/-- A turn that is settled ends its loop only if the wait failed. -/
theorem isFailure_of_settleTurn_leave
    {scheduler : Scheduler σ κ D}
    {wait : Wait}
    {result : PollResult}
    {now : Instant}
    {exit : LoopExit}
    (leaves : (scheduler.settleTurn wait result now).1 = .leave exit) :
    exit.isFailure = true := by
  unfold settleTurn fireIfDue at leaves
  split at leaves
  next error =>
    split at leaves
    · cases leaves
    · cases leaves
      rfl
  next ready =>
    split at leaves
    · cases leaves
    · split at leaves
      · cases leaves
      · dsimp only at leaves
        split at leaves
        · split at leaves <;> cases leaves
        · cases leaves

/-- A turn ends its loop at once if a request to stop is raised, or if no earliest item is found. -/
theorem of_planTurn_leave
    {scheduler : Scheduler σ κ D}
    {hooks : Hooks ε}
    {host : Host ε}
    {exit : LoopExit}
    (leaves : (scheduler.planTurn hooks host).plan = .leave exit) :
    host.signals.stop? = some exit ∨
      host.signals.stop? = none ∧ exit = .queueEmpty ∧
        (OrderedStore.peek scheduler.store).1 = none ∧
          (scheduler.planTurn hooks host).scheduler.store =
            (OrderedStore.peek scheduler.store).2 := by
  cases stop : host.signals.stop? with
  | some other =>
      rw [planTurn, stop] at leaves
      cases leaves
      exact Or.inl rfl
  | none =>
      have planned_eq : scheduler.planTurn hooks host =
          ⟨(scheduler.awaitFirst host.clock.now).1, (host.serveRotation hooks).1,
            (scheduler.awaitFirst host.clock.now).2, (host.serveRotation hooks).2⟩ := by
        rw [planTurn, stop]
      rw [planned_eq] at leaves ⊢
      dsimp only [awaitFirst] at leaves ⊢
      cases peeked : OrderedStore.peek scheduler.store with
      | mk found store =>
          rw [peeked] at leaves
          cases found with
          | none =>
              cases leaves
              exact Or.inr ⟨rfl, rfl, rfl, rfl⟩
          | some pair => cases leaves

end Scheduler

namespace Execution

variable {σ : Type → Type} [OrderedStore σ]

omit [OrderedStore σ] in
theorem not_exited_planEvents
    (host : Host ε)
    (rotatedAt : Option Instant)
    (exit : LoopExit) :
    .exited exit ∉ (planEvents host rotatedAt : List (Event κ D)) := by
  cases rotatedAt <;> simp [planEvents]

omit [OrderedStore σ] in
theorem settlement_of_exited_afterTurn
    {act : Interpretation κ D ε}
    {scheduler : Scheduler σ κ D}
    {host : Host ε}
    {settlement : Settlement κ D}
    {loop : Task κ D ε}
    {next : LoopExit → Routine κ D ε}
    {tasks : List (Task κ D ε)}
    {exit : LoopExit}
    (told : .exited exit ∈ (afterTurn act scheduler host settlement loop next tasks).1) :
    settlement = .leave exit := by
  cases settlement with
  | again => cases told
  | leave other =>
      cases List.mem_singleton.mp told
      rfl
  | fire handle item => cases List.mem_singleton.mp told

theorem not_exited_request
    (act : Interpretation κ D ε)
    (scheduler : Scheduler σ κ D)
    (host : Host ε)
    (tasks : List (Task κ D ε))
    (routine : Routine κ D ε)
    (exit : LoopExit) :
    .exited exit ∉ (request act scheduler host tasks routine).1 := by
  intro told
  cases routine with
  | done | observe | update | ask | nextDue | runLoop | runShared => cases told
  | shutdown next => cases List.mem_singleton.mp told
  | schedule delay callback data next =>
      simp only [request, List.mem_singleton] at told
      split at told <;> cases told
  | trySchedule delay callback data next =>
      have same := List.mem_singleton.mp told
      split at same <;> cases same
  | cancel handle next =>
      simp only [request] at told
      split at told <;> cases List.mem_singleton.mp told

/-- A loop ends by the decision at the beginning of a turn, or by a wait that failed. -/
theorem of_exited
    {act : Interpretation κ D ε}
    {execution : Execution σ κ D ε}
    {exit : LoopExit}
    (told : .exited exit ∈ (execution.step act).1) :
    exit.isFailure = true ∨
      ∃ hooks, (execution.scheduler.planTurn hooks execution.host).plan = .leave exit ∧
        (execution.step act).2.scheduler =
          (execution.scheduler.planTurn hooks execution.host).scheduler := by
  obtain ⟨scheduler, host, tasks⟩ := execution
  cases tasks with
  | nil => cases told
  | cons task tasks =>
      cases task with
      | routine routine => exact (not_exited_request act scheduler host tasks routine exit told).elim
      | turns hooks poller next =>
          cases planned : (scheduler.planTurn hooks host).plan with
          | leave other =>
              simp only [step, turn, planned] at told
              rcases List.mem_append.mp told with begun | ended
              · exact (not_exited_planEvents _ _ _ begun).elim
              · cases List.mem_singleton.mp ended
                refine Or.inr ⟨hooks, planned, ?_⟩
                simp only [step, turn, planned]
          | await wait =>
              simp only [step, turn, planned] at told
              rcases List.mem_append.mp told with begun | ended
              · exact (not_exited_planEvents _ _ _ begun).elim
              · cases ended with
                | tail _ ended =>
                    exact Or.inl (Scheduler.isFailure_of_settleTurn_leave
                      (settlement_of_exited_afterTurn ended))
      | sharedTurns hooks poller others next =>
          cases planned : (scheduler.planTurn hooks host).plan with
          | leave other =>
              simp only [step, sharedPlan, planned] at told
              rcases List.mem_append.mp told with begun | ended
              · exact (not_exited_planEvents _ _ _ begun).elim
              · cases List.mem_singleton.mp ended
                refine Or.inr ⟨hooks, planned, ?_⟩
                simp only [step, sharedPlan, planned]
          | await wait =>
              simp only [step, sharedPlan, planned] at told
              exact (not_exited_planEvents _ _ _ told).elim
      | sharedSettle wait hooks poller others next =>
          cases told with
          | tail _ ended =>
              exact Or.inl (Scheduler.isFailure_of_settleTurn_leave
                (settlement_of_exited_afterTurn ended))

/-- A loop that ends for want of items has looked for the earliest one and found none. -/
theorem of_exited_queueEmpty
    {act : Interpretation κ D ε}
    {execution : Execution σ κ D ε}
    (told : .exited .queueEmpty ∈ (execution.step act).1) :
    (OrderedStore.peek execution.scheduler.store).1 = none ∧
      (execution.step act).2.scheduler.store =
        (OrderedStore.peek execution.scheduler.store).2 := by
  obtain isFailure | ⟨hooks, leaves, scheduler_eq⟩ := of_exited told
  · cases isFailure
  · obtain stop | ⟨-, -, noneFound, store_eq⟩ := Scheduler.of_planTurn_leave leaves
    · unfold Signals.stop? at stop
      split at stop
      · cases stop
      · split at stop <;> cases stop
    · exact ⟨noneFound, by rw [scheduler_eq, store_eq]⟩

end Execution

namespace Parties

/-- No entry of a store ever gets out of reach, and so a loop ends for want of items only if no
item is pending in the store. -/
theorem entries_stay_reachable :
    (∀ {α : Type} (limit : Option Nat) (calls : List (StoreCall α)),
      SlotStore.Reachable calls (.empty limit)) ∧
    ∀ (act : Interpretation κ D ε) (mover : Nat → Nat) (parties : Parties SlotStore κ D ε)
      (limit : Option Nat) (time : Nat),
      parties.scheduler.store = .empty limit →
        .exited .queueEmpty ∈ ((parties.after act mover time).step act (mover time)).1 →
          (parties.after act mover time).scheduler.size = 0 ∧
            (parties.after act mover (time + 1)).scheduler.size = 0 ∧
              (parties.ledger act mover time).live = [] := by
  refine ⟨fun limit calls => SlotStore.reachable limit calls, ?_⟩
  intro act mover parties limit time startsEmpty told
  obtain ⟨noneFound, store_eq⟩ := Execution.of_exited_queueEmpty told
  have represents : (parties.after act mover time).scheduler.store.Represents
      (parties.ledger act mover time) := (parties.course act mover).represents startsEmpty time
  have noneLive := represents.peek_eq_none_iff.mp noneFound
  have size_eq : (parties.after act mover time).scheduler.store.size = 0 := by
    rw [represents.holds.size_eq, noneLive, List.length_nil]
  refine ⟨size_eq, ?_, noneLive⟩
  rw [after, scheduler_step]
  exact (congrArg SlotStore.size store_eq).trans size_eq

theorem entries_stay_reachable_visit :
    SlotStore.Reachable SlotStore.slotReuse (.empty (some 2)) ∧
      visit.scheduler.store = .empty (some 2) ∧
      .exited .queueEmpty ∈ ((visit.after visitAct visitMover 31).step visitAct (visitMover 31)).1 ∧
      (visit.after visitAct visitMover 31).scheduler.size = 0 ∧
      (visit.after visitAct visitMover 32).scheduler.size = 0 ∧
      (visit.ledger visitAct visitMover 31).live = [] := by
  obtain ⟨reachable, emptied⟩ := entries_stay_reachable (κ := Char) (D := Nat) (ε := Unit)
  have told : .exited .queueEmpty ∈
      ((visit.after visitAct visitMover 31).step visitAct (visitMover 31)).1 :=
    (mem_filterMap_exit? _ _).mp (by decide +kernel)
  exact ⟨reachable (some 2) SlotStore.slotReuse, rfl, told,
    emptied visitAct visitMover visit (some 2) 31 rfl told⟩

end Parties
end Agenda
