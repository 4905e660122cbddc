import Agenda.Proofs.Execution.Exits
import Agenda.Proofs.Execution.Overwriting
import Agenda.Proofs.Execution.SafeFiring

/-!
# How soon a loop stops

A loop looks at the requests to stop whenever one of its turns begins, and nowhere else.  A request
may be raised at any point of a turn, by the hooks, during the wait or by a callback, and by anyone
else who works at the same scheduler.  If it stays raised, the turn that is under way is the last
one that waits or calls a callback, and the next one ends the loop.

The loop is found again among the tasks of its party by the number of tasks below it, which does
not change while the loop is under way.  What it has done since the request was raised and what it
may still do in the turn that is under way never exceed one wait and one call of a callback.

Stopping costs no item.  An item is lost only if it is kept aside while 2^64 others are refused, and
then to the one that is given its number.
-/

namespace Agenda

variable {κ D ε : Type}

/-! ## Events of a turn -/

namespace Event

/-- Whether a loop waited. -/
def isPolled : Event κ D → Bool
  | polled _ _ => true
  | _ => false

/-- Whether a callback was called because its item was due. -/
def isTimed (event : Event κ D) : Bool := event.timed?.isSome

end Event

/-- A kind of event that happens at most once in a turn, and only after the requests to stop were
looked at. -/
structure OncePerTurn (counts : Event κ D → Bool) : Prop where
  /-- The beginning of a turn is not of this kind. -/
  turn : ∀ now signals, counts (.turn now signals) = false
  /-- Nor is a rotation of the log. -/
  rotated : ∀ now, counts (.rotated now) = false
  /-- Nor is the writing of the status. -/
  statusUpdated : counts .statusUpdated = false
  /-- Nor is the end of a loop. -/
  exited : ∀ exit, counts (.exited exit) = false
  /-- Waits and calls of callbacks are not both of this kind. -/
  exclusive : ∀ timeout result callback told,
    counts (.polled timeout result) = true → counts (.dispatched callback told) = false

theorem oncePerTurn_isPolled : OncePerTurn (Event.isPolled : Event κ D → Bool) where
  turn _ _ := rfl
  rotated _ := rfl
  statusUpdated := rfl
  exited _ := rfl
  exclusive _ _ _ _ _ := rfl

theorem oncePerTurn_isTimed : OncePerTurn (Event.isTimed : Event κ D → Bool) where
  turn _ _ := rfl
  rotated _ := rfl
  statusUpdated := rfl
  exited _ := rfl
  exclusive _ _ _ _ := nofun

theorem length_timedDispatches (history : List (Event κ D)) :
    (timedDispatches history).length = history.countP Event.isTimed :=
  List.length_filterMap_eq_countP

namespace OncePerTurn

variable {counts : Event κ D → Bool}

theorem countP_planEvents
    (once : OncePerTurn counts)
    (host : Host ε)
    (rotatedAt : Option Instant) :
    (Execution.planEvents host rotatedAt).countP counts = 0 := by
  rw [List.countP_eq_zero]
  intro event told
  cases rotatedAt with
  | none =>
      obtain rfl := List.mem_singleton.mp told
      exact ne_true_of_eq_false (once.turn _ _)
  | some now =>
      simp only [Execution.planEvents, List.mem_cons, List.not_mem_nil, or_false] at told
      rcases told with rfl | rfl | rfl
      · exact ne_true_of_eq_false (once.turn _ _)
      · exact ne_true_of_eq_false (once.rotated _)
      · exact ne_true_of_eq_false once.statusUpdated

theorem countP_settled_le
    {σ : Type → Type}
    (once : OncePerTurn counts)
    (timeout : UInt64)
    (result : PollResult)
    (act : Interpretation κ D ε)
    (scheduler : Scheduler σ κ D)
    (host : Host ε)
    (settlement : Settlement κ D)
    (loop : Task κ D ε)
    (next : LoopExit → Routine κ D ε)
    (tasks : List (Task κ D ε)) :
    (.polled timeout result ::
      (Execution.afterTurn act scheduler host settlement loop next tasks).1).countP counts ≤ 1 := by
  cases settlement with
  | again => exact List.countP_le_length
  | leave exit =>
      rw [Execution.afterTurn, List.countP_cons, List.countP_singleton, once.exited,
        if_neg Bool.false_ne_true]
      split <;> decide
  | fire handle item =>
      rw [Execution.afterTurn, Execution.dispatch, List.countP_cons, List.countP_singleton]
      cases polls : counts (.polled timeout result) with
      | true => rw [once.exclusive _ _ _ _ polls, if_neg Bool.false_ne_true, if_pos rfl]
      | false =>
          rw [if_neg Bool.false_ne_true]
          split <;> decide

end OncePerTurn

/-! ## The task of a loop -/

namespace Task

/-- Whether a task belongs to a loop. -/
def isLoop : Task κ D ε → Bool
  | .routine _ => false
  | _ => true

/-- What comes after a loop, if a turn of the loop is about to begin. -/
def afterLoop? : Task κ D ε → Option (LoopExit → Routine κ D ε)
  | .turns _ _ next | .sharedTurns _ _ _ next => some next
  | _ => none

/-- The task that has a number of tasks below it. -/
def at? (tasks : List (Task κ D ε)) (depth : Nat) : Option (Task κ D ε) := tasks.reverse[depth]?

/-- Whether the task at a depth is the second half of a turn. -/
def settles (tasks : List (Task κ D ε)) (depth : Nat) : Bool := (at? tasks depth).any isSettle

theorem at?_length (task : Task κ D ε) (tasks : List (Task κ D ε)) :
    at? (task :: tasks) tasks.length = some task := by
  rw [at?, List.reverse_cons, ← List.length_reverse, List.getElem?_concat_length]

theorem at?_append_of_lt
    (pushed : List (Task κ D ε))
    {tasks : List (Task κ D ε)}
    {depth : Nat}
    (below : depth < tasks.length) :
    at? (pushed ++ tasks) depth = at? tasks depth := by
  rw [at?, List.reverse_append, List.getElem?_append_left (by rwa [List.length_reverse]), at?]

theorem settles_append_length
    {pushed : List (Task κ D ε)}
    (noSettle : ∀ task ∈ pushed, task.isSettle = false)
    (tasks : List (Task κ D ε)) :
    settles (pushed ++ tasks) tasks.length = false := by
  rw [settles, at?, List.reverse_append, List.getElem?_append_right (by rw [List.length_reverse]),
    List.length_reverse, Nat.sub_self]
  cases lowest : pushed.reverse[0]? with
  | none => rfl
  | some task =>
      exact noSettle task (List.mem_reverse.mp (List.mem_of_getElem? lowest))

end Task

/-! ## One step of a loop -/

namespace Execution

variable {σ : Type → Type} [OrderedStore σ]
variable {act : Interpretation κ D ε} {scheduler : Scheduler σ κ D} {host : Host ε}
variable {task : Task κ D ε} {tasks : List (Task κ D ε)}

/-- A turn that begins while a request to stop is raised ends the loop and does nothing else. -/
theorem step_of_stop
    {next : LoopExit → Routine κ D ε}
    (begins : task.afterLoop? = some next)
    {exit : LoopExit}
    (stop : host.signals.stop? = some exit) :
    step act ⟨scheduler, host, task :: tasks⟩ =
      ([.turn host.clock.now host.signals, .exited exit],
        ⟨scheduler, host, .routine (next exit) :: tasks⟩) := by
  have planned_eq : ∀ hooks : Hooks ε,
      scheduler.planTurn hooks host = ⟨.leave exit, none, scheduler, host⟩ := by
    intro hooks
    rw [Scheduler.planTurn, stop]
  cases task with
  | routine | sharedSettle => cases begins
  | turns hooks poller next =>
      cases begins
      simp only [step, turn, planned_eq, planEvents, List.cons_append, List.nil_append]
  | sharedTurns hooks poller others next =>
      cases begins
      simp only [step, sharedPlan, planned_eq, planEvents, List.cons_append, List.nil_append]

/-- A turn goes into its second half by its first one only. -/
theorem exists_of_settles_step
    (settles : Task.settles (step act ⟨scheduler, host, task :: tasks⟩).2.tasks tasks.length =
      true) :
    ∃ hooks poller others next wait, task = .sharedTurns hooks poller others next ∧
      (scheduler.planTurn hooks host).plan = .await wait := by
  obtain ⟨pushed, tasks_eq, noSettle⟩ | ⟨hooks, poller, others, next, wait, isShared, planned, -⟩ :=
    tasks_step act scheduler host task tasks
  · rw [tasks_eq, Task.settles_append_length noSettle] at settles
    cases settles
  · exact ⟨hooks, poller, others, next, wait, isShared, planned⟩

/-- What lies below the topmost task stays. -/
theorem at?_step_of_lt
    {depth : Nat}
    (below : depth < tasks.length) :
    Task.at? (step act ⟨scheduler, host, task :: tasks⟩).2.tasks depth = Task.at? tasks depth := by
  obtain ⟨pushed, tasks_eq, -⟩ | ⟨hooks, poller, others, next, wait, -, -, tasks_eq⟩ :=
    tasks_step act scheduler host task tasks
  · rw [tasks_eq, Task.at?_append_of_lt pushed below]
  · rw [tasks_eq]
    exact Task.at?_append_of_lt [_, _] below

section Counting

variable {counts : Event κ D → Bool}

theorem countP_step_sharedTurns
    (once : OncePerTurn counts)
    (hooks : Hooks ε)
    (poller : Poller ε)
    (others : UInt64 → Routine κ D ε)
    (next : LoopExit → Routine κ D ε) :
    (step act ⟨scheduler, host, .sharedTurns hooks poller others next :: tasks⟩).1.countP counts =
      0 := by
  simp only [step, sharedPlan]
  split
  next =>
    rw [List.countP_append, once.countP_planEvents, List.countP_singleton, once.exited]
    rfl
  next => exact once.countP_planEvents _ _

/-- What happens at most once in a turn happens at most once in a step of a loop. -/
theorem countP_step_le
    (once : OncePerTurn counts)
    (isLoop : task.isLoop = true) :
    (step act ⟨scheduler, host, task :: tasks⟩).1.countP counts ≤ 1 := by
  cases task with
  | routine => cases isLoop
  | turns hooks poller next =>
      simp only [step, turn]
      split
      next =>
        rw [List.countP_append, once.countP_planEvents, Nat.zero_add]
        exact List.countP_le_length
      next =>
        rw [List.countP_append, once.countP_planEvents, Nat.zero_add]
        exact once.countP_settled_le ..
  | sharedTurns hooks poller others next =>
      rw [countP_step_sharedTurns once]
      exact Nat.zero_le 1
  | sharedSettle wait hooks poller others next => exact once.countP_settled_le ..

/-- What happens at most once in a turn happens in a step of a loop, or may still happen in the
second half of its turn, but not both. -/
theorem countP_step_add_settles_le
    (once : OncePerTurn counts)
    (isLoop : task.isLoop = true) :
    (step act ⟨scheduler, host, task :: tasks⟩).1.countP counts +
        (Task.settles (step act ⟨scheduler, host, task :: tasks⟩).2.tasks tasks.length).toNat ≤
      1 := by
  cases settles : Task.settles (step act ⟨scheduler, host, task :: tasks⟩).2.tasks tasks.length with
  | true =>
      obtain ⟨hooks, poller, others, next, _, rfl, -⟩ := exists_of_settles_step settles
      rw [countP_step_sharedTurns once]
      decide
  | false => exact countP_step_le once isLoop

/-- Once a request to stop is raised, nothing of the kind happens but in the second half of the
turn that is under way. -/
theorem countP_step_add_settles_le_of_stop
    (once : OncePerTurn counts)
    (isLoop : task.isLoop = true)
    (stops : host.signals.stop?.isSome = true) :
    (step act ⟨scheduler, host, task :: tasks⟩).1.countP counts +
      (Task.settles (step act ⟨scheduler, host, task :: tasks⟩).2.tasks tasks.length).toNat ≤
        task.isSettle.toNat := by
  cases begins : task.afterLoop? with
  | some next =>
      obtain ⟨exit, stop⟩ := Option.isSome_iff_exists.mp stops
      rw [step_of_stop begins stop, Task.settles, Task.at?_length]
      simp [once.turn, once.exited, Task.isSettle]
  | none =>
      have isSettle : task.isSettle = true := by
        cases task with
        | routine => cases isLoop
        | turns | sharedTurns => cases begins
        | sharedSettle => rfl
      rw [isSettle]
      exact countP_step_add_settles_le once isLoop

end Counting
end Execution

/-! ## A loop among several parties -/

namespace Parties

variable {σ : Type → Type} [OrderedStore σ]

section Loops

variable (act : Interpretation κ D ε) (mover : Nat → Nat) (parties : Parties σ κ D ε)
variable (party depth : Nat)

/-- Whether a party is at a loop that has a number of tasks below it; tasks above it are those that
the loop waits for. -/
def LoopUnderWay (time : Nat) : Prop :=
  (Task.at? ((parties.after act mover time).tasks party) depth).any Task.isLoop = true

/-- Whether a step is made by the loop, and not by another party or by a task above the loop. -/
def LoopMoves (time : Nat) : Prop :=
  mover time = party ∧ ((parties.after act mover time).tasks party).length = depth + 1

instance (time : Nat) : Decidable (parties.LoopUnderWay act mover party depth time) :=
  inferInstanceAs (Decidable (_ = _))

instance (time : Nat) : Decidable (parties.LoopMoves act mover party depth time) :=
  inferInstanceAs (Decidable (_ ∧ _))

/-- What happens in a step if it is one of the loop. -/
def loopEvents (time : Nat) : List (Event κ D) :=
  if parties.LoopMoves act mover party depth time then
    ((parties.after act mover time).step act (mover time)).1
  else []

/-- What the loop does in a number of steps of the parties, from a moment on. -/
def loopHistory (moment : Nat) : Nat → List (Event κ D)
  | 0 => []
  | steps + 1 =>
      loopHistory moment steps ++ parties.loopEvents act mover party depth (moment + steps)

/-- Whether the loop has begun a turn and not completed it. -/
def loopWaits (time : Nat) : Bool :=
  Task.settles ((parties.after act mover time).tasks party) depth

/-- Whether a request to stop is raised. -/
def stopRaised (time : Nat) : Bool :=
  (parties.after act mover time).host.signals.stop?.isSome

/-- A request to stop is raised by the step that is made at a moment, or it was raised before, and
for a number of steps the loop is under way and the request is not withdrawn. -/
structure Stopping (moment steps : Nat) : Prop where
  /-- The loop is under way. -/
  underWay : ∀ step < steps, parties.LoopUnderWay act mover party depth (moment + step)
  /-- The request is raised after the first step. -/
  raised : ∀ step < steps, 0 < step → parties.stopRaised act mover (moment + step) = true

end Loops

/-- A loop waits and fires no more often than a number of times. -/
structure DoesAtMost (most : Nat) (history : List (Event κ D)) : Prop where
  /-- How often it waits. -/
  polls : history.countP Event.isPolled ≤ most
  /-- How often it calls a callback because its item is due. -/
  fires : (timedDispatches history).length ≤ most

section Counting

variable {act : Interpretation κ D ε} {mover : Nat → Nat} {parties : Parties σ κ D ε}
variable {party depth time moment steps : Nat} {counts : Event κ D → Bool}

theorem LoopUnderWay.lt_length (underWay : parties.LoopUnderWay act mover party depth time) :
    depth < ((parties.after act mover time).tasks party).length := by
  rw [← List.length_reverse]
  by_contra outside
  rw [LoopUnderWay, Task.at?, List.getElem?_eq_none (Nat.le_of_not_lt outside)] at underWay
  cases underWay

/-- A loop is the topmost task of its party when it makes a step. -/
theorem LoopMoves.exists_tasks_eq
    (moves : parties.LoopMoves act mover party depth time)
    (underWay : parties.LoopUnderWay act mover party depth time) :
    ∃ task tasks, (parties.after act mover time).tasks party = task :: tasks ∧
      tasks.length = depth ∧ task.isLoop = true := by
  obtain ⟨task, tasks, tasks_eq⟩ :=
    List.exists_cons_of_length_pos (Nat.zero_lt_of_lt underWay.lt_length)
  have length_eq : tasks.length = depth := by
    have above := moves.2
    rw [tasks_eq, List.length_cons] at above
    exact Nat.succ.inj above
  rw [LoopUnderWay, tasks_eq, ← length_eq, Task.at?_length] at underWay
  exact ⟨task, tasks, tasks_eq, length_eq, underWay⟩

/-- A step that is not one of the loop leaves the loop as it is. -/
theorem loopWaits_succ_of_not_moves
    (waits : ¬ parties.LoopMoves act mover party depth time)
    (underWay : parties.LoopUnderWay act mover party depth time) :
    parties.loopWaits act mover party depth (time + 1) =
      parties.loopWaits act mover party depth time := by
  rw [loopWaits, loopWaits, after]
  by_cases moved : mover time = party
  · subst moved
    rw [tasks_step_self, execution]
    cases tasks_eq : (parties.after act mover time).tasks (mover time) with
    | nil => rfl
    | cons task tasks =>
        have inside := underWay.lt_length
        rw [tasks_eq, List.length_cons] at inside
        have notTopmost : depth ≠ tasks.length := by
          rintro rfl
          exact waits ⟨rfl, by rw [tasks_eq, List.length_cons]⟩
        have below : depth < tasks.length := by omega
        rw [Task.settles, Task.settles, Execution.at?_step_of_lt below]
        exact congrArg (Option.any Task.isSettle) (Task.at?_append_of_lt [task] below).symm
  · rw [tasks_step_of_ne act _ fun same => moved same.symm]

/-- What happens at most once in a turn happens in a step of the loop, or may still happen in the
turn that is under way, but not both. -/
theorem countP_loopEvents_add_le
    (once : OncePerTurn counts)
    (underWay : parties.LoopUnderWay act mover party depth time) :
    (parties.loopEvents act mover party depth time).countP counts +
      (parties.loopWaits act mover party depth (time + 1)).toNat ≤ 1 := by
  rw [loopEvents]
  split
  next moves =>
    obtain ⟨task, tasks, tasks_eq, rfl, isLoop⟩ := moves.exists_tasks_eq underWay
    obtain ⟨rfl, -⟩ := moves
    rw [loopWaits, after, tasks_step_self, events_step, execution, tasks_eq]
    exact Execution.countP_step_add_settles_le once isLoop
  next => exact Nat.le_trans (Nat.le_of_eq (Nat.zero_add _)) (Bool.toNat_le _)

/-- If a request to stop is raised, or if the step is not one of the loop, then nothing of the kind
happens but what may still happen in the turn that is under way. -/
theorem countP_loopEvents_add_le_of_stop
    (once : OncePerTurn counts)
    (underWay : parties.LoopUnderWay act mover party depth time)
    (stops : parties.stopRaised act mover time = true ∨
      ¬ parties.LoopMoves act mover party depth time) :
    (parties.loopEvents act mover party depth time).countP counts +
        (parties.loopWaits act mover party depth (time + 1)).toNat ≤
      (parties.loopWaits act mover party depth time).toNat := by
  rw [loopEvents]
  split
  next moves =>
    obtain ⟨task, tasks, tasks_eq, rfl, isLoop⟩ := moves.exists_tasks_eq underWay
    have raised := stops.resolve_right (not_not_intro moves)
    obtain ⟨rfl, -⟩ := moves
    rw [loopWaits, loopWaits, after, tasks_step_self, events_step, execution, tasks_eq,
      Task.settles, Task.settles, Task.at?_length]
    exact Execution.countP_step_add_settles_le_of_stop once isLoop raised
  next waits =>
    rw [loopWaits_succ_of_not_moves waits underWay]
    exact Nat.le_of_eq (Nat.zero_add _)

/-- What happens at most once in a turn has happened since a request to stop was raised, or may
still happen in the turn that is under way, no more often than the first step allows. -/
theorem Stopping.countP_loopHistory_add_le
    (stopping : parties.Stopping act mover party depth moment steps)
    (once : OncePerTurn counts)
    {most : Nat}
    (initially : (parties.loopWaits act mover party depth moment).toNat ≤ most)
    (first : 0 < steps → (parties.loopEvents act mover party depth moment).countP counts +
      (parties.loopWaits act mover party depth (moment + 1)).toNat ≤ most) :
    (parties.loopHistory act mover party depth moment steps).countP counts +
      (parties.loopWaits act mover party depth (moment + steps)).toNat ≤ most := by
  induction steps with
  | zero => exact Nat.le_trans (Nat.le_of_eq (Nat.zero_add _)) initially
  | succ steps inductionHypothesis =>
      rw [loopHistory, List.countP_append]
      rcases Nat.eq_zero_or_pos steps with rfl | later
      · rw [loopHistory, List.countP_nil, Nat.zero_add]
        exact first Nat.one_pos
      · have earlier := inductionHypothesis
          ⟨fun step before => stopping.underWay step (Nat.lt_succ_of_lt before),
            fun step before => stopping.raised step (Nat.lt_succ_of_lt before)⟩
          fun _ => first (Nat.succ_pos steps)
        have last := countP_loopEvents_add_le_of_stop once
          (stopping.underWay steps (Nat.lt_succ_self steps))
          (Or.inl (stopping.raised steps (Nat.lt_succ_self steps) later))
        rw [← Nat.add_assoc]
        omega

/-- A loop waits and fires no more often than the first step allows. -/
theorem Stopping.doesAtMost
    (stopping : parties.Stopping act mover party depth moment steps)
    {most : Nat}
    (initially : (parties.loopWaits act mover party depth moment).toNat ≤ most)
    (first : ∀ {counts : Event κ D → Bool}, OncePerTurn counts → 0 < steps →
      (parties.loopEvents act mover party depth moment).countP counts +
        (parties.loopWaits act mover party depth (moment + 1)).toNat ≤ most) :
    DoesAtMost most (parties.loopHistory act mover party depth moment steps) where
  polls :=
    Nat.le_trans (Nat.le_add_right _ _)
      (stopping.countP_loopHistory_add_le oncePerTurn_isPolled initially
        (first oncePerTurn_isPolled))
  fires := by
    rw [length_timedDispatches]
    exact Nat.le_trans (Nat.le_add_right _ _)
      (stopping.countP_loopHistory_add_le oncePerTurn_isTimed initially
        (first oncePerTurn_isTimed))

end Counting

/-- A request to stop takes effect within one turn and costs no item.  From the step on in which it
is raised, a loop waits once more at most and fires once more at most; it does neither if the
request is raised while the loop is not in the middle of a turn, by what the loop calls or before
one of its turns begins.  The next turn that begins ends the loop and does nothing else: the
scheduler and the surroundings stay as they are, so no hook is called and a request to rotate the
log stays raised.  And at every time each item is found that was not dispatched or released since
it was created; among those that were refused and kept aside, each that is not followed by 2^64
others. -/
theorem stop_takes_effect :
    (∀ {σ : Type → Type} [OrderedStore σ] (act : Interpretation κ D ε) (mover : Nat → Nat)
      (parties : Parties σ κ D ε) (party depth moment steps : Nat),
      parties.Stopping act mover party depth moment steps →
        DoesAtMost 1 (parties.loopHistory act mover party depth moment steps) ∧
        (parties.loopWaits act mover party depth moment = false →
          parties.stopRaised act mover moment = true ∨
              ¬ parties.LoopMoves act mover party depth moment →
            DoesAtMost 0 (parties.loopHistory act mover party depth moment steps))) ∧
    (∀ {σ : Type → Type} [OrderedStore σ] (act : Interpretation κ D ε) (parties : Parties σ κ D ε)
      (party : Nat) (task : Task κ D ε) (below : List (Task κ D ε))
      (next : LoopExit → Routine κ D ε),
      parties.tasks party = task :: below → task.afterLoop? = some next →
        parties.host.signals.shutdown = true ∨ parties.host.signals.restart = true →
          let exit : LoopExit := if parties.host.signals.shutdown then .shutdown else .restart
          parties.step act party =
            ([.turn parties.host.clock.now parties.host.signals, .exited exit],
              { parties with
                tasks := Function.update parties.tasks party (.routine (next exit) :: below) })) ∧
    ∀ (act : Interpretation κ D ε) (mover : Nat → Nat) (parties : Parties SlotStore κ D ε)
      (limit : Option Nat) (time : Nat) (before after : List (Event κ D)) (created : Event κ D)
      (handle : ItemHandle) (item : Item κ D),
      parties.scheduler.store = .empty limit →
        parties.history act mover time = before ++ created :: after →
          created.creation? = some (handle, item) →
            (∀ event ∈ after, event.takesOut handle = false) →
              (handle.isDegenerate = true → refusals after < 2 ^ 64) →
                (parties.after act mover time).scheduler.find? handle = some item := by
  refine ⟨?_, ?_, ?_⟩
  · intro σ _ act mover parties party depth moment steps stopping
    refine ⟨?_, fun notWaiting stops => ?_⟩
    · refine stopping.doesAtMost (Bool.toNat_le _) fun once positive => ?_
      exact countP_loopEvents_add_le once (stopping.underWay 0 positive)
    · have allowed : (parties.loopWaits act mover party depth moment).toNat ≤ 0 := by
        rw [notWaiting]
        exact Nat.le_refl 0
      refine stopping.doesAtMost allowed fun once positive => ?_
      exact Nat.le_trans
        (countP_loopEvents_add_le_of_stop once (stopping.underWay 0 positive) stops) allowed
  · intro σ _ act parties party task below next tasks_eq begins raised exit
    have stop : parties.host.signals.stop? = some exit := by
      unfold Signals.stop?
      cases shutdown : parties.host.signals.shutdown with
      | true => exact congrArg some (if_pos shutdown).symm
      | false =>
          rw [if_pos (raised.resolve_left (ne_true_of_eq_false shutdown))]
          exact congrArg some (if_neg (ne_true_of_eq_false shutdown)).symm
    rw [step, execution, tasks_eq, Execution.step_of_stop begins stop]
  · intro act mover parties limit time before after created handle item startsEmpty split isCreation
      untouched few
    exact (parties.course act mover).find?_of_creation startsEmpty split isCreation untouched few

/-- A loop for two items, and a visitor who raises every request. -/
def stopping : Parties SlotStore Char Nat Unit :=
  .start (.ofStore (.empty none)) ⟨⟨5000⟩, .clear, ()⟩ fun
    | 0 =>
        .schedule (.ofSeconds 0) 'a' 0 fun _ => .schedule (.ofSeconds 1) 'b' 1 fun _ =>
          .runShared .idle sleep (fun _ => .done) fun _ => .done
    | _ => .update (fun host => { host with signals := ⟨true, true, true⟩ }) .done

/-- Callbacks that do nothing. -/
def idleAct : Interpretation Char Nat Unit := fun _ _ => .done

/-- The visitor comes while the loop waits. -/
def stoppingMover (step : Nat) : Nat := if step = 5 then 1 else 0

/-- What the loop does from the moment when the requests are raised. -/
def stoppingTold : List (Event Char Nat) :=
  [.polled 0 (.ok 0), .dispatched 'a' ⟨.stored ⟨0, 0⟩, 5000, .timed, 0, 0⟩,
    .turn 5000 ⟨true, true, true⟩, .exited .shutdown]

theorem stop_takes_effect_visitor :
    stopping.Stopping idleAct stoppingMover 0 0 5 4 ∧
      stopping.loopHistory idleAct stoppingMover 0 0 5 4 = stoppingTold ∧
      DoesAtMost 1 stoppingTold ∧
      DoesAtMost 0 (stopping.loopHistory idleAct stoppingMover 0 0 8 1) ∧
      ((stopping.after idleAct stoppingMover 8).step idleAct 0).1 =
        [.turn 5000 ⟨true, true, true⟩, .exited .shutdown] ∧
      ((stopping.after idleAct stoppingMover 8).step idleAct 0).2.host =
        (stopping.after idleAct stoppingMover 8).host ∧
      (stopping.after idleAct stoppingMover 9).scheduler.find? (.stored ⟨1, 0⟩) =
        some ⟨6000, 'b', 1⟩ := by
  obtain ⟨bounded, ends, keeps⟩ := stop_takes_effect (κ := Char) (D := Nat) (ε := Unit)
  have raisedOutside : stopping.Stopping idleAct stoppingMover 0 0 5 4 :=
    ⟨by decide +kernel, by decide +kernel⟩
  have raisedBefore : stopping.Stopping idleAct stoppingMover 0 0 8 1 :=
    ⟨by decide +kernel, by decide +kernel⟩
  have told_eq : stopping.loopHistory idleAct stoppingMover 0 0 5 4 = stoppingTold := by
    with_unfolding_all rfl
  have ended := ends idleAct (stopping.after idleAct stoppingMover 8) 0
    (.sharedTurns .idle sleep (fun _ => .done) fun _ => .done) [] (fun _ => .done)
    (by with_unfolding_all rfl) rfl (Or.inl (by decide +kernel))
  refine ⟨raisedOutside, told_eq, ?_, ?_, ?_, ?_, ?_⟩
  · rw [← told_eq]
    exact (bounded _ _ _ _ _ _ _ raisedOutside).1
  · exact (bounded _ _ _ _ _ _ _ raisedBefore).2 (by decide +kernel) (Or.inl (by decide +kernel))
  · rw [ended]
    with_unfolding_all rfl
  · rw [ended]
  · refine keeps idleAct stoppingMover stopping none 9
      [.accepted (.stored ⟨0, 0⟩) ⟨5000, 'a', 0⟩] (.turn 5000 .clear :: stoppingTold)
      (.accepted (.stored ⟨1, 0⟩) ⟨6000, 'b', 1⟩) _ _ rfl (by with_unfolding_all rfl) rfl
      (by decide) nofun

/-! ## An item that is lost -/

/-- The last of the items that are refused. -/
def floodEnd : Routine Char Nat Unit := .schedule (.ofSeconds 1) 'e' 4 fun _ => .done

/-- Refusals that use up the numbers from 1 on, and the last one. -/
def floodRounds : Routine Char Nat Unit :=
  .scheduleAndCancel (.ofSeconds 1) 'd' 3 floodEnd (2 ^ 64 - 1)

/-- Callbacks that do nothing, but for one that stops the loop, fills the store again, and has items
refused until the numbers have gone round. -/
def floodAct : Interpretation Char Nat Unit := fun callback _ =>
  if callback = 'a' then
    .update (fun host => { host with signals := ⟨true, false, false⟩ })
      (.schedule (.ofSeconds 1) 'c' 2 fun _ => floodRounds)
  else
    .done

/-- A loop over a store for one item, which has refused a second one. -/
def flood : Parties SlotStore Char Nat Unit :=
  .start (.ofStore (.empty (some 1))) ⟨⟨5000⟩, .clear, ()⟩ fun _ =>
    .schedule (.ofSeconds 0) 'a' 0 fun _ => .schedule (.ofSeconds 1) 'b' 1 fun _ =>
      .runLoop .idle sleep fun _ => .done

/-- What happens until the store is full again. -/
def floodTold : List (Event Char Nat) :=
  [.accepted (.stored ⟨0, 0⟩) ⟨5000, 'a', 0⟩, .detached (.detached 0) ⟨6000, 'b', 1⟩,
    .turn 5000 .clear, .polled 0 (.ok 0),
    .dispatched 'a' ⟨.stored ⟨0, 0⟩, 5000, .timed, 0, 0⟩,
    .accepted (.stored ⟨0, 1⟩) ⟨6000, 'c', 2⟩]

/-- The store then. -/
def floodStore : SlotStore (Item Char Nat) :=
  ((flood.execution 0).after floodAct 6).scheduler.store

/-- The callback of the first item at some of its requests, with the second item kept aside. -/
def flooded (nextNumber : UInt64) (requests : Routine Char Nat Unit) :
    Execution SlotStore Char Nat Unit :=
  ⟨⟨floodStore, ⟨[(0, ⟨6000, 'b', 1⟩)], nextNumber⟩, defaultPollCeiling⟩,
    ⟨⟨5000⟩, ⟨true, false, false⟩, ()⟩, [.routine requests, .turns .idle sleep fun _ => .done]⟩

theorem flood_begins :
    (flood.execution 0).history floodAct 6 = floodTold ∧
      (flood.execution 0).after floodAct 6 = flooded 1 floodRounds := by
  constructor <;> with_unfolding_all rfl

theorem flood_goes_round :
    (flooded 1 floodRounds).after floodAct (3 * (2 ^ 64 - 1)) = flooded 0 floodEnd ∧
      refusals ((flooded 1 floodRounds).history floodAct (3 * (2 ^ 64 - 1))) = 2 ^ 64 - 1 ∧
      ∀ event ∈ (flooded 1 floodRounds).history floodAct (3 * (2 ^ 64 - 1)),
        event.takesOut (.detached 0) = false := by
  have idle : ∀ told, floodAct 'd' told = .done := fun _ => rfl
  have refuses : (flooded 1 floodRounds).scheduler.Refuses := fun _ =>
    ⟨.limitReached, if_pos (by with_unfolding_all rfl)⟩
  have areNew : ∀ round < 2 ^ 64 - 1, (flooded 1 floodRounds).scheduler.detached.get?
      ((flooded 1 floodRounds).scheduler.detached.nextNumber + UInt64.ofNat round) = none := by
    intro round inRange
    have notFirst : 1 + UInt64.ofNat round ≠ 0 := by
      intro same
      rw [← UInt64.toNat_inj, UInt64.toNat_add, UInt64.toNat_ofNat'] at same
      simp only [UInt64.toNat_one, UInt64.toNat_zero] at same
      omega
    show List.lookup (1 + UInt64.ofNat round) _ = none
    rw [flooded, List.lookup_cons, beq_false_of_ne notFirst]
    rfl
  obtain ⟨goesRound, counted, untouched⟩ := Execution.scheduleAndCancel_run idle
    ⟨⟨5000⟩, ⟨true, false, false⟩, ()⟩ (.ofSeconds 1) 3 floodEnd (2 ^ 64 - 1)
    [.turns .idle sleep fun _ => .done] refuses areNew
  refine ⟨goesRound, counted, fun event told => untouched event told 0 ?_⟩
  decide

theorem flood_ends :
    (flooded 0 floodEnd).history floodAct 3 = [.detached (.detached 0) ⟨6000, 'e', 4⟩,
        .turn 5000 ⟨true, false, false⟩, .exited .shutdown] ∧
      ((flooded 0 floodEnd).after floodAct 3).scheduler =
        ⟨floodStore, ⟨[(0, ⟨6000, 'e', 4⟩)], 1⟩, defaultPollCeiling⟩ := by
  constructor <;> with_unfolding_all rfl

/-- The steps until the loop has ended. -/
def floodSteps : Nat := 6 + (3 * (2 ^ 64 - 1) + 3)

/-- The bound on what is kept aside is needed.  Nothing calls or releases the second item, but it is
nowhere when the loop has ended: the 2^64th item that was refused after it has its number. -/
theorem refused_item_is_overwritten :
    flood.scheduler.store = .empty (some 1) ∧
      (∃ middle, flood.history floodAct (fun _ => 0) floodSteps =
        floodTold ++ middle ++ [.turn 5000 ⟨true, false, false⟩, .exited .shutdown]) ∧
      (∀ event ∈ flood.history floodAct (fun _ => 0) floodSteps,
        event.takesOut (.detached 0) = false) ∧
      refusals (flood.history floodAct (fun _ => 0) floodSteps) = 2 ^ 64 + 1 ∧
      ∀ handle, (flood.after floodAct (fun _ => 0) floodSteps).scheduler.find? handle ≠
        some ⟨6000, 'b', 1⟩ := by
  obtain ⟨begins, begun⟩ := flood_begins
  obtain ⟨goesRound, counted, untouched⟩ := flood_goes_round
  obtain ⟨ends, ended⟩ := flood_ends
  have history_eq : flood.history floodAct (fun _ => 0) floodSteps =
      floodTold ++ ((flooded 1 floodRounds).history floodAct (3 * (2 ^ 64 - 1)) ++
        [.detached (.detached 0) ⟨6000, 'e', 4⟩]) ++
      [.turn 5000 ⟨true, false, false⟩, .exited .shutdown] := by
    rw [history_alone, floodSteps, Execution.history_add, Execution.history_add, begins, begun,
      goesRound, ends, List.append_assoc, List.append_assoc]
    rfl
  have scheduler_eq : (flood.after floodAct (fun _ => 0) floodSteps).scheduler =
      ⟨floodStore, ⟨[(0, ⟨6000, 'e', 4⟩)], 1⟩, defaultPollCeiling⟩ := by
    rw [scheduler_after_alone, floodSteps, Execution.after_add, Execution.after_add, begun,
      goesRound, ended]
  refine ⟨rfl, ⟨_, history_eq⟩, ?_, ?_, ?_⟩
  · rw [history_eq]
    simp only [List.forall_mem_append]
    exact ⟨⟨by decide, untouched, by decide⟩, by decide⟩
  · simp only [history_eq, refusals_append, counted]
    rfl
  · rw [scheduler_eq]
    rintro (⟨slot, generation⟩ | number) found
    · have slots_eq : floodStore.slots = #[⟨1, some ⟨6000, 'c', 2⟩⟩] := by
        with_unfolding_all rfl
      rw [Scheduler.find?, SlotStore.get?, slots_eq] at found
      cases slot <;> simp at found
    · rw [Scheduler.find?, DetachedItems.get?, List.lookup_cons] at found
      split at found <;> cases found

end Parties
end Agenda
