import Agenda.Routine

/-!
# Executing routines

An execution consists of a scheduler, its surroundings and a stack of tasks.  Each step works
on the topmost task.  When an item is dispatched its callback becomes the topmost task and what
dispatched it waits below, so callbacks may schedule, cancel and run loops to any depth while a
step stays small.  A step also tells what happened in it; the history of an execution is what
its steps told.
-/

namespace Agenda

/-- What can happen to items, requests and waits. -/
inductive Event (κ D : Type) where
  /-- The store took an item. -/
  | accepted (handle : ItemHandle) (item : Item κ D)
  /-- The store refused an item, which was kept aside. -/
  | detached (handle : ItemHandle) (item : Item κ D)
  /-- The store refused an item, which was given up. -/
  | refused (item : Item κ D)
  /-- An item left the scheduler to run its callback. -/
  | dispatched (callback : κ) (dispatch : Dispatch D)
  /-- No item had the handle that was to be cancelled. -/
  | unknown (handle : ItemHandle)
  /-- Every item was given up. -/
  | released (items : List (Item κ D))
  /-- A turn of a loop began. -/
  | turn (now : Instant) (signals : Signals)
  /-- The log was rotated, at the instant when the turn began. -/
  | rotated (now : Instant)
  /-- The status was written after a rotation. -/
  | statusUpdated
  /-- A loop waited. -/
  | polled (timeout : UInt64) (result : PollResult)
  /-- A loop ended. -/
  | exited (exit : LoopExit)

/-- What is still to be done. -/
inductive Task (κ D ε : Type) where
  /-- A routine. -/
  | routine (routine : Routine κ D ε)
  /-- Turns of a loop, and what comes after it. -/
  | turns (hooks : Hooks ε) (poller : Poller ε) (next : LoopExit → Routine κ D ε)
  /-- Turns of a loop that others can reach, and what comes after it. -/
  | sharedTurns (hooks : Hooks ε) (poller : Poller ε) (others : UInt64 → Routine κ D ε)
      (next : LoopExit → Routine κ D ε)
  /-- The second half of a turn of a loop that others can reach. -/
  | sharedSettle (wait : Wait) (hooks : Hooks ε) (poller : Poller ε)
      (others : UInt64 → Routine κ D ε) (next : LoopExit → Routine κ D ε)

/-- A scheduler, its surroundings, and the tasks that are under way, the topmost first. -/
structure Execution (σ : Type → Type) (κ D ε : Type) where
  /-- The scheduler. -/
  scheduler : Scheduler σ κ D
  /-- The state around it. -/
  host : Host ε
  /-- The tasks. -/
  tasks : List (Task κ D ε)

/-- What callback codes stand for. -/
abbrev Interpretation (κ D ε : Type) := κ → Dispatch D → Routine κ D ε

namespace Execution

variable {σ : Type → Type} {κ D ε : Type}

/-- What a step leads to: what happened in it, and the execution after it. -/
abbrev Outcome (σ : Type → Type) (κ D ε : Type) :=
  List (Event κ D) × Execution σ κ D ε

/-- Run the callback of an item that was taken out, before the tasks that wait for it. -/
def dispatch (act : Interpretation κ D ε) (scheduler : Scheduler σ κ D) (host : Host ε)
    (handle : ItemHandle) (item : Item κ D) (reason : Reason) (tasks : List (Task κ D ε)) :
    Outcome σ κ D ε :=
  let told := item.dispatch handle reason
  ([.dispatched item.callback told],
    ⟨scheduler, host, .routine (act item.callback told) :: tasks⟩)

/-- Act on the decision that ends a turn: go on with the loop, or with what comes after it. -/
def afterTurn (act : Interpretation κ D ε) (scheduler : Scheduler σ κ D) (host : Host ε)
    (settlement : Settlement κ D) (loop : Task κ D ε) (next : LoopExit → Routine κ D ε)
    (tasks : List (Task κ D ε)) : Outcome σ κ D ε :=
  match settlement with
  | .again => ([], ⟨scheduler, host, loop :: tasks⟩)
  | .leave exit => ([.exited exit], ⟨scheduler, host, .routine (next exit) :: tasks⟩)
  | .fire handle item => dispatch act scheduler host handle item .timed (loop :: tasks)

variable [OrderedStore σ]

/-- Answer the first request of a routine. -/
def request (act : Interpretation κ D ε) (scheduler : Scheduler σ κ D) (host : Host ε)
    (tasks : List (Task κ D ε)) : Routine κ D ε → Outcome σ κ D ε
  | .done => ([], ⟨scheduler, host, tasks⟩)
  | .observe next => ([], ⟨scheduler, host, .routine (next host) :: tasks⟩)
  | .update change next => ([], ⟨scheduler, change host, .routine next :: tasks⟩)
  | .ask query next =>
      ([], ⟨scheduler, host, .routine (next (scheduler.reply query)) :: tasks⟩)
  | .nextDue next =>
      let (due, peeked) := scheduler.nextDue
      ([], ⟨peeked, host, .routine (next due) :: tasks⟩)
  | .schedule delay callback data next =>
      let item := Scheduler.itemAfter host.clock.now delay callback data
      let (handle, grown) := scheduler.schedule item
      ([if handle.isDegenerate then .detached handle item else .accepted handle item],
        ⟨grown, host, .routine (next handle) :: tasks⟩)
  | .trySchedule delay callback data next =>
      let item := Scheduler.itemAfter host.clock.now delay callback data
      let (result, grown) := scheduler.trySchedule item
      ([match result with
        | .ok handle => .accepted handle item
        | .error _ => .refused item],
        ⟨grown, host, .routine (next result) :: tasks⟩)
  | .cancel handle next =>
      match scheduler.remove handle with
      | (some item, remaining) =>
          dispatch act remaining host handle item .abort (.routine (next (.ok ())) :: tasks)
      | (none, remaining) =>
          ([.unknown handle],
            ⟨remaining, host, .routine (next (.error (.unknownItem handle))) :: tasks⟩)
  | .shutdown next =>
      let (items, emptied) := scheduler.release
      ([.released items], ⟨emptied, host, .routine (next items.length) :: tasks⟩)
  | .runLoop hooks poller next =>
      ([], ⟨scheduler, host, .turns hooks poller next :: tasks⟩)
  | .runShared hooks poller others next =>
      ([], ⟨scheduler, host, .sharedTurns hooks poller others next :: tasks⟩)

/-- What the first half of a turn tells. -/
def planEvents (host : Host ε) (rotatedAt : Option Instant) : List (Event κ D) :=
  .turn host.clock.now host.signals ::
    match rotatedAt with
    | none => []
    | some now => [.rotated now, .statusUpdated]

/-- One turn of a loop. -/
def turn (act : Interpretation κ D ε) (scheduler : Scheduler σ κ D) (host : Host ε)
    (hooks : Hooks ε) (poller : Poller ε) (next : LoopExit → Routine κ D ε)
    (tasks : List (Task κ D ε)) : Outcome σ κ D ε :=
  let planned := scheduler.planTurn hooks host
  let begun := planEvents host planned.rotatedAt
  match planned.plan with
  | .leave exit =>
      (begun ++ [.exited exit],
        ⟨planned.scheduler, planned.host, .routine (next exit) :: tasks⟩)
  | .await wait =>
      let (result, polledHost) := poller wait.timeout planned.host
      let (settlement, settled) :=
        planned.scheduler.settleTurn wait result polledHost.clock.now
      let (ended, execution) :=
        afterTurn act settled polledHost settlement (.turns hooks poller next) next tasks
      (begun ++ .polled wait.timeout result :: ended, execution)

/-- The first half of a turn of a loop that others can reach; they come next. -/
def sharedPlan (scheduler : Scheduler σ κ D) (host : Host ε)
    (hooks : Hooks ε) (poller : Poller ε) (others : UInt64 → Routine κ D ε)
    (next : LoopExit → Routine κ D ε) (tasks : List (Task κ D ε)) : Outcome σ κ D ε :=
  let planned := scheduler.planTurn hooks host
  let begun := planEvents host planned.rotatedAt
  match planned.plan with
  | .leave exit =>
      (begun ++ [.exited exit],
        ⟨planned.scheduler, planned.host, .routine (next exit) :: tasks⟩)
  | .await wait =>
      (begun,
        ⟨planned.scheduler, planned.host,
          .routine (others wait.timeout) ::
            .sharedSettle wait hooks poller others next :: tasks⟩)

/-- The second half of a turn of a loop that others can reach. -/
def sharedSettle (act : Interpretation κ D ε) (scheduler : Scheduler σ κ D) (host : Host ε)
    (wait : Wait) (hooks : Hooks ε) (poller : Poller ε) (others : UInt64 → Routine κ D ε)
    (next : LoopExit → Routine κ D ε) (tasks : List (Task κ D ε)) : Outcome σ κ D ε :=
  let (result, polledHost) := poller wait.timeout host
  let (settlement, settled) := scheduler.settleTurn wait result polledHost.clock.now
  let (ended, execution) :=
    afterTurn act settled polledHost settlement (.sharedTurns hooks poller others next) next
      tasks
  (.polled wait.timeout result :: ended, execution)

/-- Work on the topmost task; where there is none, nothing happens. -/
def step (act : Interpretation κ D ε) (execution : Execution σ κ D ε) : Outcome σ κ D ε :=
  match execution with
  | ⟨scheduler, host, []⟩ => ([], ⟨scheduler, host, []⟩)
  | ⟨scheduler, host, .routine routine :: tasks⟩ =>
      request act scheduler host tasks routine
  | ⟨scheduler, host, .turns hooks poller next :: tasks⟩ =>
      turn act scheduler host hooks poller next tasks
  | ⟨scheduler, host, .sharedTurns hooks poller others next :: tasks⟩ =>
      sharedPlan scheduler host hooks poller others next tasks
  | ⟨scheduler, host, .sharedSettle wait hooks poller others next :: tasks⟩ =>
      sharedSettle act scheduler host wait hooks poller others next tasks

/-- Whether nothing is left to be done. -/
def isOver (execution : Execution σ κ D ε) : Bool := execution.tasks.isEmpty

theorem step_of_isOver (act : Interpretation κ D ε) {execution : Execution σ κ D ε}
    (finished : execution.isOver = true) : execution.step act = ([], execution) := by
  obtain ⟨scheduler, host, tasks⟩ := execution
  cases tasks with
  | nil => rfl
  | cons task tasks => cases finished

/-- The execution after a number of steps; it stays as it is once it is over. -/
def after (act : Interpretation κ D ε) : Nat → Execution σ κ D ε → Execution σ κ D ε
  | 0, execution => execution
  | steps + 1, execution =>
      if execution.isOver then execution else after act steps (execution.step act).2

@[simp] theorem after_zero (act : Interpretation κ D ε) (execution : Execution σ κ D ε) :
    execution.after act 0 = execution := rfl

theorem after_of_isOver (act : Interpretation κ D ε) {execution : Execution σ κ D ε}
    (finished : execution.isOver = true) (steps : Nat) : execution.after act steps = execution := by
  cases steps with
  | zero => rfl
  | succ steps => simp [after, finished]

theorem after_succ (act : Interpretation κ D ε) (steps : Nat)
    (execution : Execution σ κ D ε) :
    execution.after act (steps + 1) = (execution.step act).2.after act steps := by
  rw [after]
  split
  next finished => rw [step_of_isOver act finished, after_of_isOver act finished]
  next => rfl

/-- What happened in a number of steps. -/
def history (act : Interpretation κ D ε) : Nat → Execution σ κ D ε → List (Event κ D)
  | 0, _ => []
  | steps + 1, execution =>
      (execution.step act).1 ++ history act steps (execution.step act).2

/-- The start of a routine. -/
def start (scheduler : Scheduler σ κ D) (host : Host ε) (routine : Routine κ D ε) :
    Execution σ κ D ε :=
  ⟨scheduler, host, [.routine routine]⟩

end Execution
end Agenda
