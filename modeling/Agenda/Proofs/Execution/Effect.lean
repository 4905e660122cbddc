import Agenda.Proofs.Execution.History
import Agenda.Proofs.TimeLeft
import Mathlib.Order.Basic

/-!
# What steps do to a scheduler

Whatever an execution does, its scheduler is changed in few ways only: an item is taken or
refused, the earliest item is looked at, an item is cancelled or fired, or all of them are
released.  Each way goes with the event that tells of it.  A step is a chain of such effects at
the instant that the clock shows after it, so what every effect preserves is preserved by
executions.
-/

namespace Agenda

variable {σ : Type → Type} {κ D ε : Type} [OrderedStore σ]

/-- One change of a scheduler at an instant, and the events that tell of it. -/
inductive Effect (now : Instant) :
    Scheduler σ κ D → List (Event κ D) → Scheduler σ κ D → Prop where
  /-- Nothing is changed. -/
  | quiet {scheduler : Scheduler σ κ D} {event : Event κ D} :
      event.isQuiet = true → Effect now scheduler [event] scheduler
  /-- The earliest item is looked at. -/
  | peek {scheduler : Scheduler σ κ D} :
      Effect now scheduler []
        { scheduler with store := (OrderedStore.peek scheduler.store).2 }
  /-- The store takes a new item. -/
  | accept {scheduler : Scheduler σ κ D} {delay : Delay} {callback : κ} {data : D}
      {item : Item κ D} {handle : SlotHandle} {store : σ (Item κ D)} :
      item = Scheduler.itemAfter now delay callback data →
      OrderedStore.insert scheduler.store item.due item = (.ok handle, store) →
      Effect now scheduler [.accepted (.stored handle) item] { scheduler with store }
  /-- The store refuses a new item, which is kept aside. -/
  | detach {scheduler : Scheduler σ κ D} {delay : Delay} {callback : κ} {data : D}
      {item : Item κ D} {refused : Refused (Item κ D)} {store : σ (Item κ D)} :
      item = Scheduler.itemAfter now delay callback data →
      OrderedStore.insert scheduler.store item.due item = (.error refused, store) →
      Effect now scheduler
        [.detached (.detached scheduler.detached.nextNumber) item]
        { scheduler with store, detached := (scheduler.detached.add refused.value).2 }
  /-- The store refuses a new item, which is given up. -/
  | refuse {scheduler : Scheduler σ κ D} {item : Item κ D} {refused : Refused (Item κ D)}
      {store : σ (Item κ D)} :
      OrderedStore.insert scheduler.store item.due item = (.error refused, store) →
      Effect now scheduler [.refused item] { scheduler with store }
  /-- An item is cancelled. -/
  | cancel {scheduler remaining : Scheduler σ κ D} {handle : ItemHandle} {item : Item κ D} :
      scheduler.remove handle = (some item, remaining) →
      Effect now scheduler [.dispatched item.callback (item.dispatch handle .abort)] remaining
  /-- A handle names nothing. -/
  | miss {scheduler remaining : Scheduler σ κ D} {handle : ItemHandle} :
      scheduler.remove handle = (none, remaining) →
      Effect now scheduler [] remaining
  /-- The earliest item is due and is fired. -/
  | fire {scheduler remaining : Scheduler σ κ D} {handle : SlotHandle} {due : Instant}
      {store : σ (Item κ D)} {item : Item κ D} :
      OrderedStore.peek scheduler.store = (some (handle, due), store) →
      due ≤ now →
      ({ scheduler with store } : Scheduler σ κ D).remove (.stored handle) =
        (some item, remaining) →
      Effect now scheduler [.dispatched item.callback (item.dispatch (.stored handle) .timed)]
        remaining
  /-- Every item is released. -/
  | release {scheduler : Scheduler σ κ D} :
      Effect now scheduler [.released scheduler.release.1] scheduler.release.2

/-- A chain of changes at one instant. -/
inductive Effects (now : Instant) :
    Scheduler σ κ D → List (Event κ D) → Scheduler σ κ D → Prop where
  | nil {scheduler : Scheduler σ κ D} : Effects now scheduler [] scheduler
  | cons {scheduler next last : Scheduler σ κ D} {events later : List (Event κ D)} :
      Effect now scheduler events next → Effects now next later last →
      Effects now scheduler (events ++ later) last

namespace Effects

variable {now : Instant} {scheduler next last : Scheduler σ κ D}
variable {events later : List (Event κ D)}

theorem single (effect : Effect now scheduler events next) :
    Effects now scheduler events next := by
  rw [← List.append_nil events]
  exact .cons effect .nil

theorem trans
    (first : Effects now scheduler events next)
    (second : Effects now next later last) :
    Effects now scheduler (events ++ later) last := by
  induction first with
  | nil => exact second
  | cons effect _ inductionHypothesis =>
      rw [List.append_assoc]
      exact .cons effect (inductionHypothesis second)

theorem quiet
    (allQuiet : ∀ event ∈ events, event.isQuiet = true) :
    Effects now scheduler events scheduler := by
  induction events with
  | nil => exact .nil
  | cons event rest inductionHypothesis =>
      have restQuiet := inductionHypothesis fun other inRest =>
        allQuiet other (List.mem_cons_of_mem _ inRest)
      exact .cons (.quiet (allQuiet event List.mem_cons_self)) restQuiet

/-- What every change preserves is preserved by a chain of changes. -/
theorem preserve
    {Invariant : List (Event κ D) → Scheduler σ κ D → Prop}
    (preserves : ∀ {history scheduler events next},
      Effect now scheduler events next → Invariant history scheduler →
        Invariant (history ++ events) next)
    (effects : Effects now scheduler events next)
    {history : List (Event κ D)}
    (holds : Invariant history scheduler) :
    Invariant (history ++ events) next := by
  induction effects generalizing history with
  | nil => rwa [List.append_nil]
  | cons effect _ inductionHypothesis =>
      rw [← List.append_assoc]
      exact inductionHypothesis (preserves effect holds)

end Effects

/-! ## The halves of a turn -/

namespace Scheduler

variable {now : Instant} {scheduler : Scheduler σ κ D}

theorem awaitFirst_effects (scheduler : Scheduler σ κ D) (now planned : Instant) :
    Effects now scheduler [] (scheduler.awaitFirst planned).2 := by
  have effect : Effect now scheduler []
      { scheduler with store := (OrderedStore.peek scheduler.store).2 } := .peek
  unfold awaitFirst
  split
  next peeked =>
    rw [peeked] at effect
    exact .single effect
  next peeked =>
    rw [peeked] at effect
    exact .single effect

theorem planTurn_effects
    (scheduler : Scheduler σ κ D)
    (hooks : Hooks ε)
    (host : Host ε)
    (now : Instant) :
    Effects now scheduler [] (scheduler.planTurn hooks host).scheduler := by
  unfold planTurn
  split
  · exact .nil
  · exact awaitFirst_effects scheduler now host.clock.now

end Scheduler

namespace Execution

theorem planEvents_quiet (host : Host ε) (rotatedAt : Option Instant) :
    ∀ event ∈ (planEvents host rotatedAt : List (Event κ D)), event.isQuiet = true := by
  intro event told
  cases rotatedAt with
  | none =>
      obtain rfl := List.mem_singleton.mp told
      rfl
  | some now =>
      simp only [planEvents, List.mem_cons, List.not_mem_nil, or_false] at told
      rcases told with rfl | rfl | rfl <;> rfl

/-- The first half of a turn tells of the turn and looks at the earliest item. -/
theorem plan_effects
    (scheduler : Scheduler σ κ D)
    (hooks : Hooks ε)
    (host : Host ε)
    (now : Instant) :
    Effects now scheduler (planEvents host (scheduler.planTurn hooks host).rotatedAt)
      (scheduler.planTurn hooks host).scheduler := by
  rw [← List.append_nil (planEvents host _)]
  exact (Effects.quiet (planEvents_quiet host _)).trans
    (scheduler.planTurn_effects hooks host now)

omit [OrderedStore σ] in
@[simp] theorem host_afterTurn
    (act : Interpretation κ D ε)
    (scheduler : Scheduler σ κ D)
    (host : Host ε)
    (settlement : Settlement κ D)
    (loop : Task κ D ε)
    (next : LoopExit → Routine κ D ε)
    (tasks : List (Task κ D ε)) :
    (afterTurn act scheduler host settlement loop next tasks).2.host = host := by
  cases settlement <;> rfl

theorem fireIfDue_effects
    (act : Interpretation κ D ε)
    (scheduler : Scheduler σ κ D)
    (host : Host ε)
    (wait : Wait)
    (now : Instant)
    (loop : Task κ D ε)
    (next : LoopExit → Routine κ D ε)
    (tasks : List (Task κ D ε)) :
    let fired := scheduler.fireIfDue wait now
    let outcome := afterTurn act fired.2 host fired.1 loop next tasks
    Effects now scheduler outcome.1 outcome.2.scheduler := by
  have looked : Effects now scheduler []
      { scheduler with store := (OrderedStore.peek scheduler.store).2 } := .single .peek
  unfold Scheduler.fireIfDue
  split
  next store peeked =>
    rw [peeked] at looked
    exact looked
  next handle due store peeked =>
    rw [peeked] at looked
    dsimp only at looked ⊢
    by_cases isDue : handle = wait.handle ∧ ¬ 0 < timeLeft now due
    · obtain ⟨rfl, noneLeft⟩ := isDue
      rw [if_pos ⟨rfl, noneLeft⟩]
      rw [timeLeft_pos_iff, Nat.not_lt] at noneLeft
      split
      next remaining removed => exact looked.trans (.single (.miss removed))
      next item remaining removed => exact .single (.fire peeked noneLeft removed)
    · rw [if_neg isDue]
      exact looked

/-- The second half of a turn fires the awaited item, or it takes out nothing. -/
theorem settleTurn_effects
    (act : Interpretation κ D ε)
    (scheduler : Scheduler σ κ D)
    (host : Host ε)
    (wait : Wait)
    (result : PollResult)
    (now : Instant)
    (loop : Task κ D ε)
    (next : LoopExit → Routine κ D ε)
    (tasks : List (Task κ D ε)) :
    let settled := scheduler.settleTurn wait result now
    let outcome := afterTurn act settled.2 host settled.1 loop next tasks
    Effects now scheduler (.polled wait.timeout result :: outcome.1) outcome.2.scheduler := by
  have polled : Effects now scheduler [.polled wait.timeout result] scheduler :=
    .single (.quiet rfl)
  unfold Scheduler.settleTurn
  split
  next error =>
    split
    · exact polled
    · exact polled.trans (.single (.quiet rfl))
  next ready =>
    split
    · exact polled
    · exact polled.trans (fireIfDue_effects act scheduler host wait now loop next tasks)

/-! ## Steps -/

theorem turn_effects
    (act : Interpretation κ D ε)
    (scheduler : Scheduler σ κ D)
    (host : Host ε)
    (hooks : Hooks ε)
    (poller : Poller ε)
    (next : LoopExit → Routine κ D ε)
    (tasks : List (Task κ D ε)) :
    let outcome := turn act scheduler host hooks poller next tasks
    Effects outcome.2.host.clock.now scheduler outcome.1 outcome.2.scheduler := by
  have planned := plan_effects scheduler hooks host
  unfold turn
  dsimp only
  split
  next exit _ => exact (planned _).trans (.single (.quiet rfl))
  next wait _ =>
    rw [host_afterTurn]
    exact (planned _).trans (settleTurn_effects ..)

theorem sharedPlan_effects
    (scheduler : Scheduler σ κ D)
    (host : Host ε)
    (hooks : Hooks ε)
    (poller : Poller ε)
    (others : UInt64 → Routine κ D ε)
    (next : LoopExit → Routine κ D ε)
    (tasks : List (Task κ D ε)) :
    let outcome := sharedPlan scheduler host hooks poller others next tasks
    Effects outcome.2.host.clock.now scheduler outcome.1 outcome.2.scheduler := by
  have planned := plan_effects scheduler hooks host
  unfold sharedPlan
  dsimp only
  split
  · exact (planned _).trans (.single (.quiet rfl))
  · exact planned _

theorem sharedSettle_effects
    (act : Interpretation κ D ε)
    (scheduler : Scheduler σ κ D)
    (host : Host ε)
    (wait : Wait)
    (hooks : Hooks ε)
    (poller : Poller ε)
    (others : UInt64 → Routine κ D ε)
    (next : LoopExit → Routine κ D ε)
    (tasks : List (Task κ D ε)) :
    let outcome := sharedSettle act scheduler host wait hooks poller others next tasks
    Effects outcome.2.host.clock.now scheduler outcome.1 outcome.2.scheduler := by
  unfold sharedSettle
  dsimp only
  rw [host_afterTurn]
  exact settleTurn_effects ..

theorem request_effects
    (act : Interpretation κ D ε)
    (scheduler : Scheduler σ κ D)
    (host : Host ε)
    (tasks : List (Task κ D ε))
    (routine : Routine κ D ε) :
    let outcome := request act scheduler host tasks routine
    Effects outcome.2.host.clock.now scheduler outcome.1 outcome.2.scheduler := by
  cases routine with
  | done | observe | update | ask | runLoop | runShared => exact .nil
  | nextDue next => exact .single .peek
  | schedule delay callback data next =>
      obtain ⟨item, isNew⟩ :
          ∃ item, item = Scheduler.itemAfter host.clock.now delay callback data := ⟨_, rfl⟩
      rcases inserted : OrderedStore.insert scheduler.store item.due item with ⟨answer, store⟩
      cases answer with
      | ok handle =>
          have accepted := Effects.single (.accept isNew inserted)
          simpa only [request, Scheduler.schedule, Scheduler.insert, ← isNew, inserted]
      | error refused =>
          have detached := Effects.single (.detach isNew inserted)
          simpa only [request, Scheduler.schedule, Scheduler.insert, ← isNew, inserted]
  | trySchedule delay callback data next =>
      obtain ⟨item, isNew⟩ :
          ∃ item, item = Scheduler.itemAfter host.clock.now delay callback data := ⟨_, rfl⟩
      rcases inserted : OrderedStore.insert scheduler.store item.due item with ⟨answer, store⟩
      cases answer with
      | ok handle =>
          have accepted := Effects.single (.accept isNew inserted)
          simpa only [request, Scheduler.trySchedule, Scheduler.insert, ← isNew, inserted]
      | error refused =>
          have refusal : Effects host.clock.now _ _ _ := Effects.single (.refuse inserted)
          simpa only [request, Scheduler.trySchedule, Scheduler.insert, ← isNew, inserted]
  | cancel handle next =>
      simp only [request]
      rcases removed : scheduler.remove handle with ⟨_ | item, remaining⟩
      · exact .cons (.miss removed) (.single (.quiet rfl))
      · exact .single (.cancel removed)
  | shutdown next => exact .single .release

/-- Every step is a chain of changes at the instant that the clock shows after it. -/
theorem step_effects (act : Interpretation κ D ε) (execution : Execution σ κ D ε) :
    Effects (execution.step act).2.host.clock.now execution.scheduler (execution.step act).1
      (execution.step act).2.scheduler := by
  obtain ⟨scheduler, host, tasks⟩ := execution
  cases tasks with
  | nil => exact .nil
  | cons task tasks =>
      cases task with
      | routine routine => exact request_effects act scheduler host tasks routine
      | turns hooks poller next => exact turn_effects act scheduler host hooks poller next tasks
      | sharedTurns hooks poller others next =>
          exact sharedPlan_effects scheduler host hooks poller others next tasks
      | sharedSettle wait hooks poller others next =>
          exact sharedSettle_effects act scheduler host wait hooks poller others next tasks

end Execution
end Agenda
