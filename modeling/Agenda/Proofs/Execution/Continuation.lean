import Agenda.Proofs.Execution.Effect

/-!
# What a step goes on with

A step takes up the topmost task and puts others in its place.  On top come the callbacks that the
step calls, which are those that its events tell of; below them comes what the task itself goes on
with, and below that everything that was there before.  So a callback is never run without an event
that tells of it, and never twice for one event.
-/

namespace Agenda

variable {κ D ε : Type}

/-- The task of a callback that is called. -/
def callbackTask (act : Interpretation κ D ε) (call : κ × Dispatch D) : Task κ D ε :=
  .routine (act call.1 call.2)

/-- What the turns of a loop go on with after one that makes some calls: another turn, or what comes
after the loop. -/
inductive LoopGoesOn (loop : Task κ D ε) (next : LoopExit → Routine κ D ε) :
    List (κ × Dispatch D) → List (Task κ D ε) → Prop where
  /-- The loop goes on. -/
  | again : LoopGoesOn loop next [] [loop]
  /-- The loop waits for the callback of an item that was due. -/
  | fire {callback : κ} {told : Dispatch D} :
      told.reason = .timed → LoopGoesOn loop next [(callback, told)] [loop]
  /-- The loop has ended. -/
  | leave (exit : LoopExit) : LoopGoesOn loop next [] [.routine (next exit)]

/-- What a task goes on with after a step that makes some calls, apart from the callbacks that are
called. -/
inductive Task.GoesOn : Task κ D ε → List (κ × Dispatch D) → List (Task κ D ε) → Prop where
  /-- A routine at its end leaves nothing behind. -/
  | done : GoesOn (.routine .done) [] []
  | observe {next : Host ε → Routine κ D ε} (host : Host ε) :
      GoesOn (.routine (.observe next)) [] [.routine (next host)]
  | update {change : Host ε → Host ε} {next : Routine κ D ε} :
      GoesOn (.routine (.update change next)) [] [.routine next]
  | ask {query : Query} {next : query.Reply → Routine κ D ε} (reply : query.Reply) :
      GoesOn (.routine (.ask query next)) [] [.routine (next reply)]
  | nextDue {next : Option Instant → Routine κ D ε} (due : Option Instant) :
      GoesOn (.routine (.nextDue next)) [] [.routine (next due)]
  | schedule {delay : Delay} {callback : κ} {data : D} {next : ItemHandle → Routine κ D ε}
      (handle : ItemHandle) :
      GoesOn (.routine (.schedule delay callback data next)) [] [.routine (next handle)]
  | trySchedule {delay : Delay} {callback : κ} {data : D}
      {next : Except SchedulerError ItemHandle → Routine κ D ε}
      (result : Except SchedulerError ItemHandle) :
      GoesOn (.routine (.trySchedule delay callback data next)) [] [.routine (next result)]
  /-- Who cancels an item waits for its callback. -/
  | cancel {handle : ItemHandle} {next : Except SchedulerError Unit → Routine κ D ε} {callback : κ}
      {told : Dispatch D} :
      told.handle = handle → told.reason = .abort →
      GoesOn (.routine (.cancel handle next)) [(callback, told)] [.routine (next (.ok ()))]
  /-- Nothing is called if there is nothing to cancel. -/
  | miss {handle : ItemHandle} {next : Except SchedulerError Unit → Routine κ D ε} :
      GoesOn (.routine (.cancel handle next)) []
        [.routine (next (.error (.unknownItem handle)))]
  /-- A release calls nothing, however many items are released. -/
  | shutdown {next : Nat → Routine κ D ε} (count : Nat) :
      GoesOn (.routine (.shutdown next)) [] [.routine (next count)]
  | runLoop {hooks : Hooks ε} {poller : Poller ε} {next : LoopExit → Routine κ D ε} :
      GoesOn (.routine (.runLoop hooks poller next)) [] [.turns hooks poller next]
  | runShared {hooks : Hooks ε} {poller : Poller ε} {others : UInt64 → Routine κ D ε}
      {next : LoopExit → Routine κ D ε} :
      GoesOn (.routine (.runShared hooks poller others next)) []
        [.sharedTurns hooks poller others next]
  | turns {hooks : Hooks ε} {poller : Poller ε} {next : LoopExit → Routine κ D ε}
      {called : List (κ × Dispatch D)} {resumed : List (Task κ D ε)} :
      LoopGoesOn (.turns hooks poller next) next called resumed →
      GoesOn (.turns hooks poller next) called resumed
  /-- A turn that others can reach has not ended yet, and they come next. -/
  | sharedWait {hooks : Hooks ε} {poller : Poller ε} {others : UInt64 → Routine κ D ε}
      {next : LoopExit → Routine κ D ε} (wait : Wait) :
      GoesOn (.sharedTurns hooks poller others next) []
        [.routine (others wait.timeout), .sharedSettle wait hooks poller others next]
  | sharedLeave {hooks : Hooks ε} {poller : Poller ε} {others : UInt64 → Routine κ D ε}
      {next : LoopExit → Routine κ D ε} (exit : LoopExit) :
      GoesOn (.sharedTurns hooks poller others next) [] [.routine (next exit)]
  | sharedSettle {wait : Wait} {hooks : Hooks ε} {poller : Poller ε}
      {others : UInt64 → Routine κ D ε} {next : LoopExit → Routine κ D ε}
      {called : List (κ × Dispatch D)} {resumed : List (Task κ D ε)} :
      LoopGoesOn (.sharedTurns hooks poller others next) next called resumed →
      GoesOn (.sharedSettle wait hooks poller others next) called resumed

/-- A loop waits for one call at most. -/
theorem LoopGoesOn.eq_singleton_of_mem
    {loop : Task κ D ε}
    {next : LoopExit → Routine κ D ε}
    {called : List (κ × Dispatch D)}
    {resumed : List (Task κ D ε)}
    (goesOn : LoopGoesOn loop next called resumed)
    {call : κ × Dispatch D}
    (made : call ∈ called) :
    called = [call] := by
  cases goesOn with
  | again | leave => cases made
  | fire => rw [List.mem_singleton.mp made]

namespace Task.GoesOn

variable {task : Task κ D ε} {called : List (κ × Dispatch D)} {resumed : List (Task κ D ε)}
variable {call : κ × Dispatch D}

/-- No task makes more than one call in a step. -/
theorem eq_singleton_of_mem (goesOn : task.GoesOn called resumed) (made : call ∈ called) :
    called = [call] := by
  cases goesOn with
  | cancel => rw [List.mem_singleton.mp made]
  | turns loop | sharedSettle loop => exact loop.eq_singleton_of_mem made
  | done | observe | update | ask | nextDue | schedule | trySchedule | miss | shutdown | runLoop
  | runShared | sharedWait | sharedLeave => cases made

/-- A routine calls a callback only if it cancels an item. -/
theorem reason_eq_abort
    {routine : Routine κ D ε}
    (goesOn : (Task.routine routine).GoesOn called resumed)
    (made : call ∈ called) :
    call.2.reason = .abort := by
  cases goesOn with
  | cancel _ isAbort =>
      rw [List.mem_singleton.mp made]
      exact isAbort
  | done | observe | update | ask | nextDue | schedule | trySchedule | miss | shutdown | runLoop
  | runShared => cases made

/-- The first half of a turn that others can reach calls nothing. -/
theorem eq_nil_of_sharedTurns
    {hooks : Hooks ε}
    {poller : Poller ε}
    {others : UInt64 → Routine κ D ε}
    {next : LoopExit → Routine κ D ε}
    (goesOn : (Task.sharedTurns hooks poller others next).GoesOn called resumed) :
    called = [] := by
  cases goesOn <;> rfl

end Task.GoesOn

namespace Execution

variable {σ : Type → Type}

theorem loopGoesOn_afterTurn
    (act : Interpretation κ D ε)
    (scheduler : Scheduler σ κ D)
    (host : Host ε)
    (settlement : Settlement κ D)
    (loop : Task κ D ε)
    (next : LoopExit → Routine κ D ε)
    (tasks : List (Task κ D ε)) :
    ∃ resumed,
      LoopGoesOn loop next (calls (afterTurn act scheduler host settlement loop next tasks).1)
          resumed ∧
        (afterTurn act scheduler host settlement loop next tasks).2.tasks =
          (calls (afterTurn act scheduler host settlement loop next tasks).1).map
            (callbackTask act) ++ (resumed ++ tasks) := by
  cases settlement with
  | again => exact ⟨[loop], .again, rfl⟩
  | leave exit => exact ⟨[.routine (next exit)], .leave exit, rfl⟩
  | fire handle item => exact ⟨[loop], .fire rfl, rfl⟩

variable [OrderedStore σ]

theorem goesOn_request
    (act : Interpretation κ D ε)
    (scheduler : Scheduler σ κ D)
    (host : Host ε)
    (tasks : List (Task κ D ε))
    (routine : Routine κ D ε) :
    ∃ resumed,
      (Task.routine routine).GoesOn (calls (request act scheduler host tasks routine).1) resumed ∧
        (request act scheduler host tasks routine).2.tasks =
          (calls (request act scheduler host tasks routine).1).map (callbackTask act) ++
            (resumed ++ tasks) := by
  cases routine with
  | done => exact ⟨[], .done, rfl⟩
  | observe next => exact ⟨_, .observe host, rfl⟩
  | update change next => exact ⟨_, .update, rfl⟩
  | ask query next => exact ⟨_, .ask _, rfl⟩
  | nextDue next => exact ⟨_, .nextDue _, rfl⟩
  | schedule delay callback data next =>
      have noCall : calls (request act scheduler host tasks
          (.schedule delay callback data next)).1 = [] := by
        simp only [request]
        split <;> rfl
      rw [noCall]
      exact ⟨_, .schedule _, rfl⟩
  | trySchedule delay callback data next =>
      have noCall : calls (request act scheduler host tasks
          (.trySchedule delay callback data next)).1 = [] := by
        simp only [request]
        split <;> rfl
      rw [noCall]
      exact ⟨_, .trySchedule _, rfl⟩
  | cancel handle next =>
      simp only [request]
      split
      · exact ⟨_, .cancel rfl rfl, rfl⟩
      · exact ⟨_, .miss, rfl⟩
  | shutdown next => exact ⟨_, .shutdown _, rfl⟩
  | runLoop hooks poller next => exact ⟨_, .runLoop, rfl⟩
  | runShared hooks poller others next => exact ⟨_, .runShared, rfl⟩

omit [OrderedStore σ] in
theorem calls_planEvents (host : Host ε) (rotatedAt : Option Instant) :
    calls (planEvents host rotatedAt : List (Event κ D)) = [] :=
  calls_eq_nil_of_quiet (planEvents_quiet host rotatedAt)

/-- The tasks after a step are the callbacks that the step calls, what the topmost task goes on
with, and the tasks below it. -/
theorem goesOn_step
    (act : Interpretation κ D ε)
    (scheduler : Scheduler σ κ D)
    (host : Host ε)
    (task : Task κ D ε)
    (below : List (Task κ D ε)) :
    ∃ resumed, task.GoesOn (calls (step act ⟨scheduler, host, task :: below⟩).1) resumed ∧
      (step act ⟨scheduler, host, task :: below⟩).2.tasks =
        (calls (step act ⟨scheduler, host, task :: below⟩).1).map (callbackTask act) ++
          (resumed ++ below) := by
  cases task with
  | routine routine => exact goesOn_request act scheduler host below routine
  | turns hooks poller next =>
      simp only [step, turn]
      split
      next exit _ =>
        rw [calls_append, calls_planEvents]
        exact ⟨_, .turns (.leave exit), rfl⟩
      next wait _ =>
        rw [calls_append, calls_planEvents]
        obtain ⟨resumed, goesOn, tasks_eq⟩ := loopGoesOn_afterTurn act _ _ _ _ _ below
        exact ⟨resumed, .turns goesOn, tasks_eq⟩
  | sharedTurns hooks poller others next =>
      simp only [step, sharedPlan]
      split
      next exit _ =>
        rw [calls_append, calls_planEvents]
        exact ⟨_, .sharedLeave exit, rfl⟩
      next wait _ =>
        rw [calls_planEvents]
        exact ⟨_, .sharedWait wait, rfl⟩
  | sharedSettle wait hooks poller others next =>
      obtain ⟨resumed, goesOn, tasks_eq⟩ := loopGoesOn_afterTurn act _ _ _ _ _ below
      exact ⟨resumed, .sharedSettle goesOn, tasks_eq⟩

/-- The callback that a step calls runs next. -/
theorem tasks_of_dispatched
    (act : Interpretation κ D ε)
    (execution : Execution σ κ D ε)
    {callback : κ}
    {told : Dispatch D}
    (called : .dispatched callback told ∈ (execution.step act).1) :
    ∃ waiting, (execution.step act).2.tasks = .routine (act callback told) :: waiting := by
  obtain ⟨scheduler, host, tasks⟩ := execution
  cases tasks with
  | nil => cases called
  | cons task below =>
      obtain ⟨resumed, goesOn, tasks_eq⟩ := goesOn_step act scheduler host task below
      rw [goesOn.eq_singleton_of_mem ((mem_calls _ _ _).mpr called)] at tasks_eq
      exact ⟨resumed ++ below, tasks_eq⟩

end Execution
end Agenda
