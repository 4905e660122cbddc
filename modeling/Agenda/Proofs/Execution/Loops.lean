import Agenda.Proofs.Execution.Course

/-!
# Loops on their own

A loop runs above the tasks that wait for it, and what it has called runs above the loop.  The
tasks that wait and what comes after the loop have no part in what it does.  So a passage of a
loop from one situation to another, and its end, are stated for whatever waits and comes after.

A loop that has ended does not begin again: it leaves once, by one exit, and what it passes on
its way lies before that.
-/

namespace Agenda

variable {σ : Type → Type} {κ D ε : Type}

/-- Events, each with what the clock shows at the end of its step. -/
abbrev Diary (κ D : Type) := List (Instant × Event κ D)

/-- Enter events at an instant. -/
def stamp (now : Instant) (events : List (Event κ D)) : Diary κ D :=
  events.map fun event => (now, event)

@[simp] theorem map_snd_stamp (now : Instant) (events : List (Event κ D)) :
    (stamp now events).map Prod.snd = events := by
  rw [stamp, List.map_map]
  exact List.map_id events

@[simp] theorem stamp_append (now : Instant) (events later : List (Event κ D)) :
    stamp now (events ++ later) = stamp now events ++ stamp now later :=
  List.map_append

namespace Execution

variable [OrderedStore σ]

/-- What happened in a number of steps, and when. -/
def diary (act : Interpretation κ D ε) : Nat → Execution σ κ D ε → Diary κ D
  | 0, _ => []
  | steps + 1, execution =>
      stamp (execution.step act).2.host.clock.now (execution.step act).1 ++
        diary act steps (execution.step act).2

/-- A diary without the instants is a history. -/
theorem map_snd_diary
    (act : Interpretation κ D ε)
    (steps : Nat)
    (execution : Execution σ κ D ε) :
    (execution.diary act steps).map Prod.snd = execution.history act steps := by
  induction steps generalizing execution with
  | zero => rfl
  | succ steps inductionHypothesis =>
      rw [diary, List.map_append, map_snd_stamp, inductionHypothesis, history]

theorem after_add
    (act : Interpretation κ D ε)
    (steps more : Nat)
    (execution : Execution σ κ D ε) :
    execution.after act (steps + more) = (execution.after act steps).after act more := by
  induction steps generalizing execution with
  | zero => rw [Nat.zero_add, after_zero]
  | succ steps inductionHypothesis =>
      rw [Nat.succ_add, after_succ, inductionHypothesis, after_succ]

theorem diary_add
    (act : Interpretation κ D ε)
    (steps more : Nat)
    (execution : Execution σ κ D ε) :
    execution.diary act (steps + more) =
      execution.diary act steps ++ (execution.after act steps).diary act more := by
  induction steps generalizing execution with
  | zero => rw [Nat.zero_add, diary, List.nil_append, after_zero]
  | succ steps inductionHypothesis =>
      rw [Nat.succ_add, diary, inductionHypothesis, diary, List.append_assoc, after_succ]

theorem history_add
    (act : Interpretation κ D ε)
    (steps more : Nat)
    (execution : Execution σ κ D ε) :
    execution.history act (steps + more) =
      execution.history act steps ++ (execution.after act steps).history act more := by
  rw [← map_snd_diary, diary_add, List.map_append, map_snd_diary, map_snd_diary]

theorem history_of_isOver
    (act : Interpretation κ D ε)
    {execution : Execution σ κ D ε}
    (finished : execution.isOver = true)
    (steps : Nat) :
    execution.history act steps = [] := by
  induction steps with
  | zero => rfl
  | succ steps inductionHypothesis =>
      rw [history, step_of_isOver act finished, inductionHypothesis]
      rfl

theorem history_one (act : Interpretation κ D ε) (execution : Execution σ κ D ε) :
    execution.history act 1 = (execution.step act).1 :=
  List.append_nil _

theorem after_one (act : Interpretation κ D ε) (execution : Execution σ κ D ε) :
    execution.after act 1 = (execution.step act).2 :=
  after_succ act 0 execution

/-- A routine that asks for nothing is over after one step and stays so. -/
theorem tasks_after_done
    (act : Interpretation κ D ε)
    (scheduler : Scheduler σ κ D)
    (host : Host ε)
    (steps : Nat) :
    (Execution.after act (steps + 1) ⟨scheduler, host, [.routine .done]⟩).tasks = [] := by
  rw [after_succ, step, request]
  rw [after_of_isOver act rfl]

end Execution

/-- A loop: the meaning of callbacks, its hooks, and its way of waiting. -/
structure Loop (κ D ε : Type) where
  /-- What callback codes stand for. -/
  act : Interpretation κ D ε
  /-- What is called when the log is to be rotated. -/
  hooks : Hooks ε
  /-- The way of waiting for input. -/
  poller : Poller ε

/-- A scheduler and its surroundings. -/
structure Situation (σ : Type → Type) (κ D ε : Type) where
  /-- The scheduler. -/
  scheduler : Scheduler σ κ D
  /-- The state around it. -/
  host : Host ε

namespace Situation

/-- An execution that has got into a situation. -/
def withTasks (situation : Situation σ κ D ε) (tasks : List (Task κ D ε)) : Execution σ κ D ε :=
  ⟨situation.scheduler, situation.host, tasks⟩

/-- An execution in a situation, whose next task is what comes after a loop. -/
def continued (situation : Situation σ κ D ε) (next : LoopExit → Routine κ D ε)
    (below : List (Task κ D ε)) (exit : LoopExit) : Execution σ κ D ε :=
  situation.withTasks (.routine (next exit) :: below)

theorem withTasks_injective
    {situation other : Situation σ κ D ε}
    {tasks otherTasks : List (Task κ D ε)}
    (same : situation.withTasks tasks = other.withTasks otherTasks) :
    situation = other ∧ tasks = otherTasks := by
  obtain ⟨scheduler, host⟩ := situation
  obtain ⟨otherScheduler, otherHost⟩ := other
  cases same
  exact ⟨rfl, rfl⟩

end Situation

namespace Loop

/-- A loop in a situation, with the tasks above it and below it. -/
def running (loop : Loop κ D ε) (situation : Situation σ κ D ε) (above : List (Task κ D ε))
    (next : LoopExit → Routine κ D ε) (below : List (Task κ D ε)) : Execution σ κ D ε :=
  situation.withTasks (above ++ .turns loop.hooks loop.poller next :: below)

variable [OrderedStore σ]

/-- In a number of steps a loop gets from one situation to another. -/
def PassesIn (loop : Loop κ D ε) (steps : Nat) (above : List (Task κ D ε))
    (start : Situation σ κ D ε) (told : Diary κ D) (aboveThen : List (Task κ D ε))
    (stop : Situation σ κ D ε) : Prop :=
  ∀ next below,
    (loop.running start above next below).after loop.act steps =
        loop.running stop aboveThen next below ∧
      (loop.running start above next below).diary loop.act steps = told

/-- In a number of steps a loop gets from a situation to its end. -/
def LeavesIn (loop : Loop κ D ε) (steps : Nat) (above : List (Task κ D ε))
    (start : Situation σ κ D ε) (told : Diary κ D) (exit : LoopExit)
    (stop : Situation σ κ D ε) : Prop :=
  ∀ next below,
    (loop.running start above next below).after loop.act steps = stop.continued next below exit ∧
      (loop.running start above next below).diary loop.act steps = told

/-- A loop at the beginning of a turn gets to the beginning of a later turn. -/
def Passes (loop : Loop κ D ε) (start : Situation σ κ D ε) (told : Diary κ D)
    (stop : Situation σ κ D ε) : Prop :=
  ∃ steps, loop.PassesIn steps [] start told [] stop

/-- A loop at the beginning of a turn gets to its end. -/
def Leaves (loop : Loop κ D ε) (start : Situation σ κ D ε) (told : Diary κ D) (exit : LoopExit)
    (stop : Situation σ κ D ε) : Prop :=
  ∃ steps, loop.LeavesIn steps [] start told exit stop

/-! ## Composition -/

section Composition

variable {loop : Loop κ D ε} {start middle stop : Situation σ κ D ε}
variable {above aboveThen aboveLast : List (Task κ D ε)}
variable {told later events : Diary κ D} {exit : LoopExit} {steps more : Nat}

theorem passesIn_zero (loop : Loop κ D ε) (above : List (Task κ D ε))
    (start : Situation σ κ D ε) : loop.PassesIn 0 above start [] above start :=
  fun _ _ => ⟨rfl, rfl⟩

theorem PassesIn.trans
    (first : loop.PassesIn steps above start told aboveThen middle)
    (second : loop.PassesIn more aboveThen middle later aboveLast stop) :
    loop.PassesIn (steps + more) above start (told ++ later) aboveLast stop := by
  intro next below
  rw [Execution.after_add, Execution.diary_add, (first next below).1, (first next below).2]
  exact ⟨(second next below).1, congrArg _ (second next below).2⟩

theorem PassesIn.leavesIn
    (first : loop.PassesIn steps above start told aboveThen middle)
    (second : loop.LeavesIn more aboveThen middle later exit stop) :
    loop.LeavesIn (steps + more) above start (told ++ later) exit stop := by
  intro next below
  rw [Execution.after_add, Execution.diary_add, (first next below).1, (first next below).2]
  exact ⟨(second next below).1, congrArg _ (second next below).2⟩

/-- What a loop passes on the way to its end lies before the end. -/
theorem LeavesIn.of_passesIn
    (leaves : loop.LeavesIn more above start events exit stop)
    (passes : loop.PassesIn steps above start told aboveThen middle) :
    ∃ rest later, more = steps + rest ∧ events = told ++ later ∧
      loop.LeavesIn rest aboveThen middle later exit stop := by
  rcases Nat.lt_or_ge more steps with endsBefore | notBefore
  · -- The tasks of a loop that has ended run out, and it does not begin again.
    obtain ⟨rest, rfl⟩ := Nat.exists_eq_add_of_lt endsBefore
    have reached := (passes (fun _ => .done) []).1
    rw [Nat.add_assoc, Execution.after_add, (leaves (fun _ => .done) []).1] at reached
    have ranOut := Execution.tasks_after_done loop.act stop.scheduler stop.host rest
    have tasks_eq := congrArg Execution.tasks reached
    rw [Situation.continued, Situation.withTasks, ranOut] at tasks_eq
    exact absurd tasks_eq.symm (List.append_ne_nil_of_right_ne_nil _ (List.cons_ne_nil _ _))
  · obtain ⟨rest, rfl⟩ := Nat.exists_eq_add_of_le notBefore
    have split : ∀ next below,
        (loop.running middle aboveThen next below).after loop.act rest =
            stop.continued next below exit ∧
          told ++ (loop.running middle aboveThen next below).diary loop.act rest = events := by
      intro next below
      have reached := leaves next below
      rwa [Execution.after_add, Execution.diary_add, (passes next below).1,
        (passes next below).2] at reached
    obtain ⟨-, events_eq⟩ := split (fun _ => .done) []
    refine ⟨rest, _, rfl, events_eq.symm, fun next below => ⟨(split next below).1, ?_⟩⟩
    exact List.append_cancel_left ((split next below).2.trans events_eq.symm)

/-- A loop ends as it ends from any turn that it passes. -/
theorem Passes.leaves_iff
    (passes : loop.Passes start told middle) :
    loop.Leaves start events exit stop ↔
      ∃ later, events = told ++ later ∧ loop.Leaves middle later exit stop := by
  obtain ⟨steps, passesIn⟩ := passes
  constructor
  · rintro ⟨more, leavesIn⟩
    obtain ⟨rest, later, -, events_eq, leavesThen⟩ := leavesIn.of_passesIn passesIn
    exact ⟨later, events_eq, rest, leavesThen⟩
  · rintro ⟨later, rfl, rest, leavesThen⟩
    exact ⟨steps + rest, passesIn.leavesIn leavesThen⟩

end Composition

/-! ## Leaving once -/

omit [OrderedStore σ] in
private theorem exit_eq_of_continued
    {stop other : Situation σ κ D ε}
    {exit otherExit : LoopExit}
    (same : ∀ next below, stop.continued next below exit = other.continued next below otherExit) :
    exit = otherExit ∧ stop = other := by
  -- What comes after the loop can tell its exits apart.
  let next : LoopExit → Routine κ D ε := fun reached =>
    if reached = exit then .done else .observe fun _ => .done
  obtain ⟨stop_eq, tasks_eq⟩ := Situation.withTasks_injective (same next [])
  refine ⟨?_, stop_eq⟩
  by_contra differ
  have routines_eq : next exit = next otherExit := by
    have heads_eq := (List.cons.inj tasks_eq).1
    exact Task.routine.inj heads_eq
  have isOther : ¬ otherExit = exit := fun equal => differ equal.symm
  simp [next, isOther] at routines_eq

private theorem unique_of_le
    {loop : Loop κ D ε}
    {above : List (Task κ D ε)}
    {start stop other : Situation σ κ D ε}
    {told events : Diary κ D}
    {exit otherExit : LoopExit}
    {steps more : Nat}
    (leaves : loop.LeavesIn steps above start told exit stop)
    (leavesToo : loop.LeavesIn (steps + more) above start events otherExit other) :
    more = 0 ∧ told = events ∧ exit = otherExit ∧ stop = other := by
  cases more with
  | zero =>
      have same := exit_eq_of_continued fun next below =>
        (leaves next below).1.symm.trans (leavesToo next below).1
      refine ⟨rfl, ?_, same⟩
      exact (leaves (fun _ => .done) []).2.symm.trans (leavesToo (fun _ => .done) []).2
  | succ more =>
      have reached := (leavesToo (fun _ => .done) []).1
      rw [Execution.after_add, (leaves (fun _ => .done) []).1] at reached
      have ranOut := Execution.tasks_after_done loop.act stop.scheduler stop.host more
      have tasks_eq := congrArg Execution.tasks reached
      rw [Situation.continued, Situation.withTasks, ranOut] at tasks_eq
      cases tasks_eq

/-- A loop leaves once, by one exit. -/
theorem LeavesIn.unique
    {loop : Loop κ D ε}
    {above : List (Task κ D ε)}
    {start stop other : Situation σ κ D ε}
    {told events : Diary κ D}
    {exit otherExit : LoopExit}
    {steps more : Nat}
    (leaves : loop.LeavesIn steps above start told exit stop)
    (leavesToo : loop.LeavesIn more above start events otherExit other) :
    steps = more ∧ told = events ∧ exit = otherExit ∧ stop = other := by
  rcases Nat.le_total steps more with before | before
  · obtain ⟨rest, rfl⟩ := Nat.exists_eq_add_of_le before
    obtain ⟨rfl, same⟩ := unique_of_le leaves leavesToo
    exact ⟨rfl, same⟩
  · obtain ⟨rest, rfl⟩ := Nat.exists_eq_add_of_le before
    obtain ⟨rfl, rfl, rfl, rfl⟩ := unique_of_le leavesToo leaves
    exact ⟨rfl, rfl, rfl, rfl⟩

/-! ## Single steps -/

section Steps

variable {loop : Loop κ D ε} {start : Situation σ κ D ε}
variable {above aboveThen : List (Task κ D ε)} {events : List (Event κ D)} {exit : LoopExit}

theorem passesIn_one
    (stop : Situation σ κ D ε)
    (stepped : ∀ next below, (loop.running start above next below).step loop.act =
      (events, loop.running stop aboveThen next below)) :
    loop.PassesIn 1 above start (stamp stop.host.clock.now events) aboveThen stop := by
  intro next below
  rw [Execution.after_succ, Execution.after_zero, Execution.diary, Execution.diary,
    List.append_nil, stepped]
  exact ⟨rfl, rfl⟩

theorem leavesIn_one
    (stop : Situation σ κ D ε)
    (stepped : ∀ next below, (loop.running start above next below).step loop.act =
      (events, stop.continued next below exit)) :
    loop.LeavesIn 1 above start (stamp stop.host.clock.now events) exit stop := by
  intro next below
  rw [Execution.after_succ, Execution.after_zero, Execution.diary, Execution.diary,
    List.append_nil, stepped]
  exact ⟨rfl, rfl⟩

end Steps

/-- The topmost routine of what runs above a loop makes a request. -/
theorem passesIn_of_request
    {loop : Loop κ D ε}
    {scheduler next : Scheduler σ κ D}
    {host changed : Host ε}
    {routine : Routine κ D ε}
    {events : List (Event κ D)}
    (pushed : List (Task κ D ε))
    (requested : ∀ tasks, Execution.request loop.act scheduler host tasks routine =
      (events, ⟨next, changed, pushed ++ tasks⟩))
    (above : List (Task κ D ε)) :
    loop.PassesIn 1 (.routine routine :: above) ⟨scheduler, host⟩
      (stamp changed.clock.now events) (pushed ++ above) ⟨next, changed⟩ := by
  refine passesIn_one ⟨_, _⟩ fun _ _ => ?_
  rw [running, Situation.withTasks, List.cons_append, Execution.step, requested, running,
    Situation.withTasks, List.append_assoc]

/-- The topmost routine of what runs above a loop makes a request that nothing tells of. -/
theorem passesIn_of_silent
    {loop : Loop κ D ε}
    {scheduler next : Scheduler σ κ D}
    {host changed : Host ε}
    {routine : Routine κ D ε}
    (pushed : List (Task κ D ε))
    (requested : ∀ tasks, Execution.request loop.act scheduler host tasks routine =
      ([], ⟨next, changed, pushed ++ tasks⟩))
    (above : List (Task κ D ε)) :
    loop.PassesIn 1 (.routine routine :: above) ⟨scheduler, host⟩ [] (pushed ++ above)
      ⟨next, changed⟩ :=
  passesIn_of_request pushed requested above

/-! ## Turns -/

section Turns

variable {loop : Loop κ D ε} {scheduler settled : Scheduler σ κ D} {host polledHost : Host ε}
variable {wait : Wait} {result : PollResult} {exit : LoopExit}

/-- What a turn tells before it settles. -/
def begun (loop : Loop κ D ε) (start : Situation σ κ D ε) : List (Event κ D) :=
  Execution.planEvents start.host (start.scheduler.planTurn loop.hooks start.host).rotatedAt

/-- The loop ends before it waits. -/
theorem leavesIn_of_plan
    (planned : (scheduler.planTurn loop.hooks host).plan = .leave exit) :
    loop.LeavesIn 1 [] ⟨scheduler, host⟩
      (stamp (scheduler.planTurn loop.hooks host).host.clock.now
        (loop.begun ⟨scheduler, host⟩ ++ [.exited exit]))
      exit
      ⟨(scheduler.planTurn loop.hooks host).scheduler,
        (scheduler.planTurn loop.hooks host).host⟩ := by
  refine leavesIn_one ⟨_, _⟩ fun next below => ?_
  simp only [running, Situation.withTasks, Situation.continued, List.nil_append, Execution.step,
    Execution.turn, planned, begun]

/-- The loop ends because its wait failed. -/
theorem leavesIn_of_settled
    (planned : (scheduler.planTurn loop.hooks host).plan = .await wait)
    (polled : loop.poller wait.timeout (scheduler.planTurn loop.hooks host).host =
      (result, polledHost))
    (settles : (scheduler.planTurn loop.hooks host).scheduler.settleTurn wait result
      polledHost.clock.now = (.leave exit, settled)) :
    loop.LeavesIn 1 [] ⟨scheduler, host⟩
      (stamp polledHost.clock.now
        (loop.begun ⟨scheduler, host⟩ ++ [.polled wait.timeout result, .exited exit]))
      exit ⟨settled, polledHost⟩ := by
  refine leavesIn_one ⟨_, _⟩ fun next below => ?_
  simp only [running, Situation.withTasks, Situation.continued, List.nil_append, Execution.step,
    Execution.turn, planned, polled, settles, begun, Execution.afterTurn]

/-- The loop goes on with another turn. -/
theorem passesIn_of_again
    (planned : (scheduler.planTurn loop.hooks host).plan = .await wait)
    (polled : loop.poller wait.timeout (scheduler.planTurn loop.hooks host).host =
      (result, polledHost))
    (settles : (scheduler.planTurn loop.hooks host).scheduler.settleTurn wait result
      polledHost.clock.now = (.again, settled)) :
    loop.PassesIn 1 [] ⟨scheduler, host⟩
      (stamp polledHost.clock.now
        (loop.begun ⟨scheduler, host⟩ ++ [.polled wait.timeout result]))
      [] ⟨settled, polledHost⟩ := by
  refine passesIn_one ⟨_, _⟩ fun next below => ?_
  simp only [running, Situation.withTasks, List.nil_append, Execution.step, Execution.turn,
    planned, polled, settles, begun, Execution.afterTurn]

/-- The loop fires an item, whose callback comes next. -/
theorem passesIn_of_fire
    {handle : ItemHandle}
    {item : Item κ D}
    (planned : (scheduler.planTurn loop.hooks host).plan = .await wait)
    (polled : loop.poller wait.timeout (scheduler.planTurn loop.hooks host).host =
      (result, polledHost))
    (settles : (scheduler.planTurn loop.hooks host).scheduler.settleTurn wait result
      polledHost.clock.now = (.fire handle item, settled)) :
    loop.PassesIn 1 [] ⟨scheduler, host⟩
      (stamp polledHost.clock.now
        (loop.begun ⟨scheduler, host⟩ ++
          [.polled wait.timeout result,
            .dispatched item.callback (item.dispatch handle .timed)]))
      [.routine (loop.act item.callback (item.dispatch handle .timed))]
      ⟨settled, polledHost⟩ := by
  refine passesIn_one ⟨_, _⟩ fun next below => ?_
  simp only [running, Situation.withTasks, List.nil_append, Execution.step, Execution.turn,
    planned, polled, settles, begun, Execution.afterTurn, Execution.dispatch, List.cons_append]

end Turns

end Loop
end Agenda
