import Agenda.Proofs.Execution.Parties

/-!
# Requests to rotate the log

A request to rotate the log may be raised at any time: before a loop runs, while it waits, by a
callback, or by the very hooks that serve another one.  The raised flag does not say how many there
were.  Here the surroundings count them, in a component that nothing else needs to look at.  Where
nobody but a turn of a loop takes the flag back, it is up exactly if a request was raised since the
log was rotated last, and the next turn that begins without a request to stop serves all of them at
once.
-/

namespace Agenda

variable {σ : Type → Type} {κ D ε : Type}

/-! ## Changes of the surroundings -/

/-- A way of waiting that changes the surroundings in a certain manner. -/
def Poller.ChangesBy (R : Host ε → Host ε → Prop) (poller : Poller ε) : Prop :=
  ∀ timeout host, R host (poller timeout host).2

/-- Hooks that change the surroundings in a certain manner. -/
structure Hooks.ChangeBy (R : Host ε → Host ε → Prop) (hooks : Hooks ε) : Prop where
  /-- Rotating the log does. -/
  rotateLog : ∀ now host, R host (hooks.rotateLog now host)
  /-- Writing the status does. -/
  updateStatus : ∀ host, R host (hooks.updateStatus host)

/-- A routine that changes the surroundings in a certain manner, as do the loops that it runs. -/
inductive Routine.ChangesBy (R : Host ε → Host ε → Prop) : Routine κ D ε → Prop where
  | done : ChangesBy R .done
  | observe {next : Host ε → Routine κ D ε} :
      (∀ host, (next host).ChangesBy R) → ChangesBy R (.observe next)
  | update {change : Host ε → Host ε} {next : Routine κ D ε} :
      (∀ host, R host (change host)) → next.ChangesBy R → ChangesBy R (.update change next)
  | ask {query : Query} {next : query.Reply → Routine κ D ε} :
      (∀ reply, (next reply).ChangesBy R) → ChangesBy R (.ask query next)
  | nextDue {next : Option Instant → Routine κ D ε} :
      (∀ due, (next due).ChangesBy R) → ChangesBy R (.nextDue next)
  | schedule {delay : Delay} {callback : κ} {data : D} {next : ItemHandle → Routine κ D ε} :
      (∀ handle, (next handle).ChangesBy R) → ChangesBy R (.schedule delay callback data next)
  | trySchedule {delay : Delay} {callback : κ} {data : D}
      {next : Except SchedulerError ItemHandle → Routine κ D ε} :
      (∀ result, (next result).ChangesBy R) → ChangesBy R (.trySchedule delay callback data next)
  | cancel {handle : ItemHandle} {next : Except SchedulerError Unit → Routine κ D ε} :
      (∀ result, (next result).ChangesBy R) → ChangesBy R (.cancel handle next)
  | shutdown {next : Nat → Routine κ D ε} :
      (∀ released, (next released).ChangesBy R) → ChangesBy R (.shutdown next)
  | runLoop {hooks : Hooks ε} {poller : Poller ε} {next : LoopExit → Routine κ D ε} :
      hooks.ChangeBy R → poller.ChangesBy R → (∀ exit, (next exit).ChangesBy R) →
      ChangesBy R (.runLoop hooks poller next)
  | runShared {hooks : Hooks ε} {poller : Poller ε} {others : UInt64 → Routine κ D ε}
      {next : LoopExit → Routine κ D ε} :
      hooks.ChangeBy R → poller.ChangesBy R → (∀ timeout, (others timeout).ChangesBy R) →
      (∀ exit, (next exit).ChangesBy R) → ChangesBy R (.runShared hooks poller others next)

/-- A task that changes the surroundings in a certain manner. -/
inductive Task.ChangesBy (R : Host ε → Host ε → Prop) : Task κ D ε → Prop where
  | routine {routine : Routine κ D ε} : routine.ChangesBy R → ChangesBy R (.routine routine)
  | turns {hooks : Hooks ε} {poller : Poller ε} {next : LoopExit → Routine κ D ε} :
      hooks.ChangeBy R → poller.ChangesBy R → (∀ exit, (next exit).ChangesBy R) →
      ChangesBy R (.turns hooks poller next)
  | sharedTurns {hooks : Hooks ε} {poller : Poller ε} {others : UInt64 → Routine κ D ε}
      {next : LoopExit → Routine κ D ε} :
      hooks.ChangeBy R → poller.ChangesBy R → (∀ timeout, (others timeout).ChangesBy R) →
      (∀ exit, (next exit).ChangesBy R) → ChangesBy R (.sharedTurns hooks poller others next)
  | sharedSettle {wait : Wait} {hooks : Hooks ε} {poller : Poller ε}
      {others : UInt64 → Routine κ D ε} {next : LoopExit → Routine κ D ε} :
      hooks.ChangeBy R → poller.ChangesBy R → (∀ timeout, (others timeout).ChangesBy R) →
      (∀ exit, (next exit).ChangesBy R) → ChangesBy R (.sharedSettle wait hooks poller others next)

/-! ## One step -/

/-- Whether an event tells of a call of a hook. -/
def Event.isHookCall : Event κ D → Bool
  | rotated _ | statusUpdated => true
  | _ => false

/-- The calls of hooks, the first one first. -/
def hookCalls (history : List (Event κ D)) : List (Event κ D) := history.filter Event.isHookCall

/-- The hooks of a loop if a turn of it is about to begin. -/
def Task.hooks? : Task κ D ε → Option (Hooks ε)
  | .turns hooks _ _ | .sharedTurns hooks _ _ _ => some hooks
  | _ => none

/-- Serving a request to rotate the log calls both hooks. -/
def Host.rotated (host : Host ε) (hooks : Hooks ε) : Host ε :=
  hooks.updateStatus
    (hooks.rotateLog host.clock.now { host with signals := host.signals.takeLogRotation.2 })

/-- A turn rotates the log if no request to stop is raised, but one to rotate the log. -/
def Signals.rotates (signals : Signals) : Bool :=
  signals.stop? = none && signals.logRotation

namespace Execution

/-- The hooks of the loop of which a turn begins in the next step, if one does. -/
def hooks? (execution : Execution σ κ D ε) : Option (Hooks ε) :=
  execution.tasks.head?.bind Task.hooks?

/-- The surroundings when the log was rotated, if it is rotated in the next step. -/
def rotatedHost (execution : Execution σ κ D ε) : Host ε :=
  match execution.hooks? with
  | none => execution.host
  | some hooks =>
      if execution.host.signals.rotates then execution.host.rotated hooks else execution.host

end Execution

variable [OrderedStore σ]

theorem Scheduler.rotatedAt_planTurn
    (scheduler : Scheduler σ κ D)
    (hooks : Hooks ε)
    (host : Host ε) :
    (scheduler.planTurn hooks host).rotatedAt =
      if host.signals.rotates then some host.clock.now else none := by
  unfold planTurn Signals.rotates
  cases stop : host.signals.stop? with
  | some exit => rfl
  | none =>
      cases requested : host.signals.logRotation <;>
        simp [Host.serveRotation, requested]

theorem Scheduler.host_planTurn
    (scheduler : Scheduler σ κ D)
    (hooks : Hooks ε)
    (host : Host ε) :
    (scheduler.planTurn hooks host).host =
      if host.signals.rotates then host.rotated hooks else host := by
  unfold planTurn Signals.rotates
  cases stop : host.signals.stop? with
  | some exit => rfl
  | none =>
      cases requested : host.signals.logRotation <;>
        simp [Host.serveRotation, Host.rotated, requested]

@[simp] theorem hookCalls_append (history events : List (Event κ D)) :
    hookCalls (history ++ events) = hookCalls history ++ hookCalls events :=
  List.filter_append ..

namespace Execution

section Hooks

variable {act : Interpretation κ D ε}

theorem hookCalls_planEvents (host : Host ε) (rotatedAt : Option Instant) :
    hookCalls (planEvents host rotatedAt : List (Event κ D)) =
      match rotatedAt with
      | none => []
      | some now => [.rotated now, .statusUpdated] := by
  cases rotatedAt <;> rfl

omit [OrderedStore σ] in
theorem hookCalls_afterTurn
    (scheduler : Scheduler σ κ D)
    (host : Host ε)
    (settlement : Settlement κ D)
    (loop : Task κ D ε)
    (next : LoopExit → Routine κ D ε)
    (tasks : List (Task κ D ε)) :
    hookCalls (afterTurn act scheduler host settlement loop next tasks).1 = [] := by
  cases settlement <;> rfl

theorem hookCalls_request
    (scheduler : Scheduler σ κ D)
    (host : Host ε)
    (tasks : List (Task κ D ε))
    (routine : Routine κ D ε) :
    hookCalls (request act scheduler host tasks routine).1 = [] := by
  cases routine with
  | done | observe | update | ask | nextDue | shutdown | runLoop | runShared => rfl
  | schedule | trySchedule | cancel =>
      simp only [request]
      split <;> rfl

/-- Hooks are called where a turn begins, if the log is to be rotated and no request to stop is
raised. -/
theorem hookCalls_step (act : Interpretation κ D ε) (execution : Execution σ κ D ε) :
    hookCalls (execution.step act).1 =
      if execution.hooks?.isSome && execution.host.signals.rotates then
        [.rotated execution.host.clock.now, .statusUpdated]
      else [] := by
  obtain ⟨scheduler, host, tasks⟩ := execution
  -- Only the first half of a turn tells of hooks.
  have begun : ∀ hooks : Hooks ε,
      hookCalls (planEvents host (scheduler.planTurn hooks host).rotatedAt : List (Event κ D)) =
        if host.signals.rotates then [.rotated host.clock.now, .statusUpdated] else [] := by
    intro hooks
    rw [hookCalls_planEvents, scheduler.rotatedAt_planTurn hooks host]
    cases host.signals.rotates <;> rfl
  cases tasks with
  | nil => rfl
  | cons task tasks =>
      cases task with
      | routine routine => exact hookCalls_request scheduler host tasks routine
      | turns hooks poller next =>
          refine Eq.trans ?_ (begun hooks)
          simp only [step, turn]
          split
          · rw [hookCalls_append]
            exact List.append_nil _
          · rw [hookCalls_append, ← List.singleton_append, hookCalls_append, hookCalls_afterTurn]
            exact List.append_nil _
      | sharedTurns hooks poller others next =>
          refine Eq.trans ?_ (begun hooks)
          simp only [step, sharedPlan]
          split
          · rw [hookCalls_append]
            exact List.append_nil _
          · rfl
      | sharedSettle wait hooks poller others next =>
          simp only [step, sharedSettle]
          rw [← List.singleton_append, hookCalls_append, hookCalls_afterTurn]
          rfl

end Hooks

section Changes

variable {R : Host ε → Host ε → Prop} {act : Interpretation κ D ε}

theorem tasks_request_changeBy
    (acts : ∀ callback told, (act callback told).ChangesBy R)
    (scheduler : Scheduler σ κ D)
    (host : Host ε)
    {tasks : List (Task κ D ε)}
    (below : ∀ task ∈ tasks, task.ChangesBy R)
    {routine : Routine κ D ε}
    (changes : routine.ChangesBy R) :
    ∀ task ∈ (request act scheduler host tasks routine).2.tasks, task.ChangesBy R := by
  have goesOn : ∀ {next : Routine κ D ε}, next.ChangesBy R →
      ∀ task ∈ .routine next :: tasks, task.ChangesBy R :=
    fun next => List.forall_mem_cons.mpr ⟨.routine next, below⟩
  cases changes with
  | done => exact below
  | observe next | ask next | nextDue next | schedule next | trySchedule next | shutdown next =>
      exact goesOn (next _)
  | update _ next => exact goesOn next
  | cancel next =>
      simp only [request]
      split
      · exact List.forall_mem_cons.mpr ⟨.routine (acts _ _), goesOn (next _)⟩
      · exact goesOn (next _)
  | runLoop hooks poller next =>
      exact List.forall_mem_cons.mpr ⟨.turns hooks poller next, below⟩
  | runShared hooks poller others next =>
      exact List.forall_mem_cons.mpr ⟨.sharedTurns hooks poller others next, below⟩

omit [OrderedStore σ] in
theorem tasks_afterTurn_changeBy
    (acts : ∀ callback told, (act callback told).ChangesBy R)
    (scheduler : Scheduler σ κ D)
    (host : Host ε)
    (settlement : Settlement κ D)
    {loop : Task κ D ε}
    (changes : loop.ChangesBy R)
    {next : LoopExit → Routine κ D ε}
    (next_changes : ∀ exit, (next exit).ChangesBy R)
    {tasks : List (Task κ D ε)}
    (below : ∀ task ∈ tasks, task.ChangesBy R) :
    ∀ task ∈ (afterTurn act scheduler host settlement loop next tasks).2.tasks,
      task.ChangesBy R := by
  have again : ∀ task ∈ loop :: tasks, task.ChangesBy R :=
    List.forall_mem_cons.mpr ⟨changes, below⟩
  cases settlement with
  | again => exact again
  | leave exit => exact List.forall_mem_cons.mpr ⟨.routine (next_changes exit), below⟩
  | fire handle item => exact List.forall_mem_cons.mpr ⟨.routine (acts _ _), again⟩

/-- Tasks that change the surroundings in a certain manner go on with such tasks. -/
theorem tasks_changeBy
    (acts : ∀ callback told, (act callback told).ChangesBy R)
    {execution : Execution σ κ D ε}
    (allChange : ∀ task ∈ execution.tasks, task.ChangesBy R) :
    ∀ task ∈ (execution.step act).2.tasks, task.ChangesBy R := by
  obtain ⟨scheduler, host, tasks⟩ := execution
  cases tasks with
  | nil => exact allChange
  | cons task tasks =>
      obtain ⟨changes, below⟩ := List.forall_mem_cons.mp allChange
      cases changes with
      | routine changes => exact tasks_request_changeBy acts scheduler host below changes
      | turns hooks poller next =>
          simp only [step, turn]
          split
          · exact List.forall_mem_cons.mpr ⟨.routine (next _), below⟩
          · exact tasks_afterTurn_changeBy acts _ _ _ (.turns hooks poller next) next below
      | sharedTurns hooks poller others next =>
          simp only [step, sharedPlan]
          split
          · exact List.forall_mem_cons.mpr ⟨.routine (next _), below⟩
          · exact List.forall_mem_cons.mpr ⟨.routine (others _),
              List.forall_mem_cons.mpr ⟨.sharedSettle hooks poller others next, below⟩⟩
      | sharedSettle hooks poller others next =>
          exact tasks_afterTurn_changeBy acts _ _ _ (.sharedTurns hooks poller others next) next
            below

theorem host_request
    (unchanged : ∀ host, R host host)
    (scheduler : Scheduler σ κ D)
    (host : Host ε)
    (tasks : List (Task κ D ε))
    {routine : Routine κ D ε}
    (changes : routine.ChangesBy R) :
    R host (request act scheduler host tasks routine).2.host := by
  cases changes with
  | done | observe | ask | nextDue | schedule | trySchedule | shutdown | runLoop | runShared =>
      exact unchanged host
  | update change => exact change host
  | cancel =>
      simp only [request]
      split <;> exact unchanged host

/-- A step changes the surroundings in the manner of its tasks, once the log has been rotated. -/
theorem rotatedHost_step
    (act : Interpretation κ D ε)
    (unchanged : ∀ host, R host host)
    {execution : Execution σ κ D ε}
    (allChange : ∀ task ∈ execution.tasks, task.ChangesBy R) :
    R execution.rotatedHost (execution.step act).2.host := by
  obtain ⟨scheduler, host, tasks⟩ := execution
  cases tasks with
  | nil => exact unchanged host
  | cons task tasks =>
      cases allChange task List.mem_cons_self with
      | routine changes => exact host_request unchanged scheduler host tasks changes
      | @turns hooks poller next _ polls _ =>
          show R (if host.signals.rotates then host.rotated hooks else host) _
          rw [← scheduler.host_planTurn hooks host]
          simp only [step, turn]
          split
          · exact unchanged _
          · rw [host_afterTurn]
            exact polls _ _
      | @sharedTurns hooks poller others next _ _ _ _ =>
          show R (if host.signals.rotates then host.rotated hooks else host) _
          rw [← scheduler.host_planTurn hooks host]
          simp only [step, sharedPlan]
          split <;> exact unchanged _
      | sharedSettle _ polls =>
          simp only [step, sharedSettle]
          rw [host_afterTurn]
          exact polls _ _

omit [OrderedStore σ] in
theorem hooks_changeBy
    {execution : Execution σ κ D ε}
    (allChange : ∀ task ∈ execution.tasks, task.ChangesBy R)
    {hooks : Hooks ε}
    (begins : execution.hooks? = some hooks) :
    hooks.ChangeBy R := by
  obtain ⟨scheduler, host, tasks⟩ := execution
  cases tasks with
  | nil => cases begins
  | cons task tasks =>
      cases allChange task List.mem_cons_self with
      | routine | sharedSettle => cases begins
      | turns hooks =>
          cases begins
          exact hooks
      | sharedTurns hooks =>
          cases begins
          exact hooks

end Changes
end Execution

/-! ## Counted requests -/

/-- Some requests to rotate the log were raised and counted, and nobody has taken the flag back. -/
def Host.Raises (count : ε → Nat) (host changed : Host ε) : Prop :=
  ∃ requests, count changed.rest = count host.rest + requests ∧
    changed.signals.logRotation = (Signals.requestLogRotation^[requests] host.signals).logRotation

/-- The flag says whether any request was raised after a number of them had been served. -/
structure Host.Accounted (count : ε → Nat) (served : Nat) (host : Host ε) : Prop where
  /-- No more were served than were raised. -/
  served_le : served ≤ count host.rest
  /-- The flag is up exactly if more were raised than were served. -/
  logRotation_eq : host.signals.logRotation = decide (served < count host.rest)

theorem Signals.logRotation_iterate (requests : Nat) (signals : Signals) :
    (requestLogRotation^[requests] signals).logRotation =
      (signals.logRotation || decide (0 < requests)) := by
  induction requests generalizing signals with
  | zero => exact (Bool.or_false _).symm
  | succ requests inductionHypothesis =>
      rw [Function.iterate_succ_apply, inductionHypothesis]
      simp [requestLogRotation]

namespace Host

variable {count : ε → Nat} {served : Nat} {host changed : Host ε}

theorem Raises.refl (host : Host ε) : host.Raises count host := ⟨0, rfl, rfl⟩

theorem Raises.count_le (raises : host.Raises count changed) :
    count host.rest ≤ count changed.rest := by
  obtain ⟨requests, count_eq, -⟩ := raises
  exact Nat.le.intro count_eq.symm

theorem Accounted.raises
    (accounted : host.Accounted count served)
    (raises : host.Raises count changed) :
    changed.Accounted count served := by
  obtain ⟨requests, count_eq, flag_eq⟩ := raises
  have served_le := accounted.served_le
  refine ⟨by omega, ?_⟩
  rw [flag_eq, Signals.logRotation_iterate, accounted.logRotation_eq, count_eq, ← Bool.decide_or,
    decide_eq_decide]
  omega

/-- Rotating the log serves all requests that were raised before the hooks are called. -/
theorem accounted_rotated
    {hooks : Hooks ε}
    (changes : hooks.ChangeBy (Raises count))
    (host : Host ε) :
    (host.rotated hooks).Accounted count (count host.rest) := by
  -- The flag is taken first, so it is up afterwards exactly if the hooks raise a request.
  have taken : Accounted count (count host.rest)
      { host with signals := host.signals.takeLogRotation.2 } :=
    ⟨Nat.le_refl _, (decide_eq_false (Nat.lt_irrefl _)).symm⟩
  exact (taken.raises (changes.rotateLog _ _)).raises (changes.updateStatus _)

end Host

omit [OrderedStore σ] in
/-- If the log is rotated, all requests are served that were raised before the step. -/
theorem Execution.accounted_rotatedHost
    {count : ε → Nat}
    {served : Nat}
    (execution : Execution σ κ D ε)
    (allChange : ∀ task ∈ execution.tasks, task.ChangesBy (Host.Raises count))
    (accounted : execution.host.Accounted count served) :
    execution.rotatedHost.Accounted count
      (if execution.hooks?.isSome && execution.host.signals.rotates then count execution.host.rest
        else served) := by
  unfold rotatedHost
  cases begins : execution.hooks? with
  | none => exact accounted
  | some hooks =>
      rw [Option.isSome_some, Bool.true_and]
      dsimp only
      split
      · exact Host.accounted_rotated (hooks_changeBy allChange begins) execution.host
      · exact accounted

omit [OrderedStore σ] in
theorem Execution.count_le_rotatedHost
    {count : ε → Nat}
    (execution : Execution σ κ D ε)
    (allChange : ∀ task ∈ execution.tasks, task.ChangesBy (Host.Raises count)) :
    count execution.host.rest ≤ count execution.rotatedHost.rest := by
  unfold rotatedHost
  cases begins : execution.hooks? with
  | none => exact Nat.le_refl _
  | some hooks =>
      dsimp only
      split
      · exact (Host.accounted_rotated (hooks_changeBy allChange begins) execution.host).served_le
      · exact Nat.le_refl _

/-! ## Whole courses -/

namespace Parties

section Counting

variable (count : ε → Nat) (act : Interpretation κ D ε) (mover : Nat → Nat)
variable (parties : Parties σ κ D ε)

/-- How many requests to rotate the log had been raised when the log was rotated last. -/
def served : Nat → Nat
  | 0 => 0
  | time + 1 =>
      if (hookCalls ((parties.after act mover time).step act (mover time)).1).isEmpty then
        served time
      else
        count (parties.after act mover time).host.rest

/-- A request to rotate the log was raised that has not been served. -/
def Unserved (time : Nat) : Prop :=
  parties.served count act mover time < count (parties.after act mover time).host.rest

/-- A turn of a loop begins in a step, and no request to stop is raised. -/
def TurnGoesOn (time : Nat) : Prop :=
  ((parties.after act mover time).execution (mover time)).hooks?.isSome = true ∧
    (parties.after act mover time).host.signals.shutdown = false ∧
      (parties.after act mover time).host.signals.restart = false

instance (time : Nat) : Decidable (parties.Unserved count act mover time) :=
  inferInstanceAs (Decidable (_ < _))

instance (time : Nat) : Decidable (parties.TurnGoesOn act mover time) :=
  inferInstanceAs (Decidable (_ ∧ _))

/-- The log is rotated in a step. -/
def Rotates (time : Nat) : Prop :=
  parties.TurnGoesOn act mover time ∧ parties.Unserved count act mover time

instance (time : Nat) : Decidable (parties.Rotates count act mover time) :=
  inferInstanceAs (Decidable (_ ∧ _))

/-- The steps in which the log is rotated, the first one first. -/
def rotations (time : Nat) : List Nat :=
  (List.range time).filter fun step => parties.Rotates count act mover step

/-- Requests to rotate the log are served, each of them once. -/
structure ServesRotations (time : Nat) : Prop where
  /-- The flag is up exactly if there is a request that was not served. -/
  logRotation_eq : (parties.after act mover time).host.signals.logRotation =
    decide (parties.Unserved count act mover time)
  /-- If there is one, the hooks are called where a turn begins and no request to stop is raised, at
  the instant that the clock shows then; nowhere else are they called. -/
  hookCalls_eq : hookCalls ((parties.after act mover time).step act (mover time)).1 =
    if parties.Rotates count act mover time then
      [.rotated (parties.after act mover time).host.clock.now, .statusUpdated]
    else []
  /-- The surroundings are what the hooks make of them, after the flag was taken. -/
  host_eq : ∀ hooks,
    ((parties.after act mover time).execution (mover time)).hooks? = some hooks →
      ((parties.after act mover time).scheduler.planTurn hooks
          (parties.after act mover time).host).host =
        if parties.Rotates count act mover time then
          (parties.after act mover time).host.rotated hooks
        else (parties.after act mover time).host
  /-- So the two hooks have been called in turn. -/
  history_eq : hookCalls (parties.history act mover time) =
    (parties.rotations count act mover time).flatMap fun step =>
      [.rotated (parties.after act mover step).host.clock.now, .statusUpdated]

/-- In a step a request is served, which is known by how many had been raised with it. -/
structure Serves (request step : Nat) : Prop where
  /-- The log is rotated. -/
  rotates : parties.Rotates count act mover step
  /-- The request was not served before. -/
  served_lt : parties.served count act mover step < request
  /-- It has been raised. -/
  le_count : request ≤ count (parties.after act mover step).host.rest

/-- Everyone counts the requests to rotate the log that he raises, and nobody but a turn of a loop
takes the flag back. -/
structure CountsRequests : Prop where
  /-- The flag is up at first exactly if requests were raised before. -/
  logRotation_eq : parties.host.signals.logRotation = decide (0 < count parties.host.rest)
  /-- What the parties do, their pollers and their hooks included, raises and counts requests. -/
  tasks : ∀ party, ∀ task ∈ parties.tasks party, task.ChangesBy (Host.Raises count)
  /-- So does what callbacks do. -/
  callbacks : ∀ callback told, (act callback told).ChangesBy (Host.Raises count)

end Counting

section Runs

variable {count : ε → Nat} {act : Interpretation κ D ε} {mover : Nat → Nat}
variable {parties : Parties σ κ D ε} {time : Nat}

section Step

variable (accounted : (parties.after act mover time).host.Accounted count
  (parties.served count act mover time))

include accounted

/-- Where the flag is right, it says whether a turn rotates the log. -/
theorem rotates_eq :
    (((parties.after act mover time).execution (mover time)).hooks?.isSome &&
        ((parties.after act mover time).execution (mover time)).host.signals.rotates) =
      decide (parties.Rotates count act mover time) := by
  have flag_eq := accounted.logRotation_eq
  unfold Signals.rotates
  rw [Parties.execution, flag_eq, Bool.eq_iff_iff]
  simp [Rotates, TurnGoesOn, Unserved, Parties.execution, and_assoc]

theorem hookCalls_step_eq :
    hookCalls ((parties.after act mover time).step act (mover time)).1 =
      if parties.Rotates count act mover time then
        [.rotated (parties.after act mover time).host.clock.now, .statusUpdated]
      else [] := by
  rw [events_step, Execution.hookCalls_step, rotates_eq accounted]
  simp only [decide_eq_true_eq]
  rfl

theorem served_succ :
    parties.served count act mover (time + 1) =
      if parties.Rotates count act mover time then
        count (parties.after act mover time).host.rest
      else parties.served count act mover time := by
  rw [served, hookCalls_step_eq accounted]
  by_cases rotates : parties.Rotates count act mover time <;> simp [rotates]

end Step

namespace CountsRequests

variable (counts : parties.CountsRequests count act)

include counts

theorem tasks_after (mover : Nat → Nat) (time party : Nat) :
    ∀ task ∈ (parties.after act mover time).tasks party, task.ChangesBy (Host.Raises count) := by
  induction time generalizing party with
  | zero => exact counts.tasks party
  | succ time inductionHypothesis =>
      by_cases moves : party = mover time
      · subst moves
        rw [after, tasks_step_self]
        exact Execution.tasks_changeBy counts.callbacks (inductionHypothesis (mover time))
      · rw [after, tasks_step_of_ne act _ moves]
        exact inductionHypothesis party

theorem raises_step (mover : Nat → Nat) (time : Nat) :
    ((parties.after act mover time).execution (mover time)).rotatedHost.Raises count
      (parties.after act mover (time + 1)).host :=
  Execution.rotatedHost_step act Host.Raises.refl (counts.tasks_after mover time (mover time))

/-- The flag is always right. -/
theorem accounted (mover : Nat → Nat) (time : Nat) :
    (parties.after act mover time).host.Accounted count (parties.served count act mover time) := by
  induction time with
  | zero => exact ⟨Nat.zero_le _, counts.logRotation_eq⟩
  | succ time inductionHypothesis =>
      have allChange := counts.tasks_after mover time (mover time)
      have rotated := Execution.accounted_rotatedHost
        ((parties.after act mover time).execution (mover time)) allChange inductionHypothesis
      rw [rotates_eq inductionHypothesis] at rotated
      simp only [decide_eq_true_eq] at rotated
      rw [served_succ inductionHypothesis]
      exact rotated.raises (counts.raises_step mover time)

/-- Requests are never counted down. -/
theorem count_mono (mover : Nat → Nat) :
    Monotone fun time => count (parties.after act mover time).host.rest := by
  refine monotone_nat_of_le_succ fun time => ?_
  have rotated_le := Execution.count_le_rotatedHost
    ((parties.after act mover time).execution (mover time))
    (counts.tasks_after mover time (mover time))
  exact Nat.le_trans rotated_le (counts.raises_step mover time).count_le

theorem served_mono (mover : Nat → Nat) : Monotone (parties.served count act mover) := by
  refine monotone_nat_of_le_succ fun time => ?_
  rw [served_succ (counts.accounted mover time)]
  split
  · exact (counts.accounted mover time).served_le
  · exact Nat.le_refl _

theorem servesRotations (mover : Nat → Nat) (time : Nat) :
    parties.ServesRotations count act mover time := by
  have accounted := counts.accounted mover
  refine ⟨(accounted time).logRotation_eq, hookCalls_step_eq (accounted time), ?_, ?_⟩
  · intro hooks begins
    have rotates_iff := rotates_eq (accounted time)
    rw [begins, Option.isSome_some, Bool.true_and, Parties.execution] at rotates_iff
    rw [Scheduler.host_planTurn, rotates_iff]
    simp only [decide_eq_true_eq]
  · induction time with
    | zero => rfl
    | succ time inductionHypothesis =>
        have history_eq : parties.history act mover (time + 1) = parties.history act mover time ++
            ((parties.after act mover time).step act (mover time)).1 := rfl
        rw [history_eq, hookCalls_append, inductionHypothesis, hookCalls_step_eq (accounted time),
          rotations, rotations, List.range_succ, List.filter_append, List.flatMap_append]
        by_cases rotates : parties.Rotates count act mover time <;> simp [rotates]

/-- A request is served before the next step in which one is. -/
theorem not_lt_of_serves
    {request step later : Nat}
    (serves : parties.Serves count act mover request step)
    (servesLater : parties.Serves count act mover request later) :
    ¬ step < later := by
  intro isLater
  have served_le := counts.served_mono mover (Nat.succ_le_of_lt isLater)
  rw [Nat.succ_eq_add_one, served_succ (counts.accounted mover step), if_pos serves.rotates]
    at served_le
  exact Nat.not_lt_of_le (Nat.le_trans serves.le_count served_le) servesLater.served_lt

/-- As long as no turn goes on, nothing more is served. -/
theorem served_eq_of_noneGoesOn
    {raised later : Nat}
    (notBefore : raised ≤ later)
    (noneGoesOn : ∀ step, raised ≤ step → step < later → ¬ parties.TurnGoesOn act mover step) :
    parties.served count act mover later = parties.served count act mover raised := by
  induction notBefore with
  | refl => rfl
  | @step later notBefore inductionHypothesis =>
      have sameBefore := inductionHypothesis fun step from_raised before =>
        noneGoesOn step from_raised (Nat.lt_succ_of_lt before)
      have notRotated : ¬ parties.Rotates count act mover later := fun rotates =>
        noneGoesOn later notBefore (Nat.lt_succ_self later) rotates.1
      rw [Nat.succ_eq_add_one, served_succ (counts.accounted mover later), if_neg notRotated]
      exact sameBefore

end CountsRequests
end Runs

/-- Requests to rotate the log are served once each, coalesced and never lost, whatever any number
of parties do.  Both hooks are called, one after the other, by the next turn that begins without a
request to stop, and only if a request was raised since this was done last; the flag says at every
time, so after every exit of a loop, whether there is such a request.  No request is served twice.
And one that was raised while loops were asked to stop is served by the first turn that begins when
they are not. -/
theorem rotations_are_served
    (count : ε → Nat)
    (act : Interpretation κ D ε)
    (mover : Nat → Nat)
    (parties : Parties σ κ D ε)
    (counts : parties.CountsRequests count act) :
    (∀ time, parties.ServesRotations count act mover time) ∧
      (∀ request step later,
        parties.Serves count act mover request step →
          parties.Serves count act mover request later → step = later) ∧
      ∀ request raised later, raised ≤ later →
        parties.served count act mover raised < request →
          request ≤ count (parties.after act mover raised).host.rest →
            (∀ step, raised ≤ step → step < later → ¬ parties.TurnGoesOn act mover step) →
              parties.TurnGoesOn act mover later →
                parties.Serves count act mover request later := by
  refine ⟨counts.servesRotations mover, ?_, ?_⟩
  · intro request step later serves servesLater
    exact Nat.le_antisymm (Nat.not_lt.mp (counts.not_lt_of_serves servesLater serves))
      (Nat.not_lt.mp (counts.not_lt_of_serves serves servesLater))
  · intro request raised later notBefore served_lt le_count noneGoesOn goesOn
    rw [← counts.served_eq_of_noneGoesOn notBefore noneGoesOn] at served_lt
    have le_countLater := Nat.le_trans le_count (counts.count_mono mover notBefore)
    exact ⟨⟨goesOn, Nat.lt_of_lt_of_le served_lt le_countLater⟩, served_lt, le_countLater⟩

/-- Raise a request to rotate the log, and count it. -/
def requestRotation (host : Host Nat) : Host Nat :=
  { host with signals := host.signals.requestLogRotation, rest := host.rest + 1 }

/-- Rotating the log asks for another rotation, at first. -/
def restlessHooks : Hooks Nat where
  rotateLog _ host := if host.rest < 3 then requestRotation host else host
  updateStatus := id

/-- While the loop waits, a rotation is asked for, and a shutdown. -/
def hurry : Poller Nat := fun _ host =>
  (.ok 1, { requestRotation host with
    clock := host.clock.set 6500
    signals := (requestRotation host).signals.requestShutdown })

/-- Nothing happens while the loop waits. -/
def doze : Poller Nat := fun _ host => (.ok 0, host)

/-- Two requests are raised before a loop runs; another loop runs after it was shut down. -/
def restless : Parties SlotStore Char Nat Nat :=
  .start (.ofStore (.empty none)) ⟨⟨5000⟩, .clear, 0⟩ fun _ =>
    .update requestRotation <| .update requestRotation <|
      .schedule (.ofSeconds 0) 'a' 0 fun _ => .runLoop restlessHooks hurry fun _ =>
        .update (fun host => { host with signals := host.signals.reset }) <|
          .runShared restlessHooks doze (fun _ => .done) fun _ => .done

theorem restless_countsRequests : restless.CountsRequests id fun _ _ => .done where
  logRotation_eq := rfl
  callbacks _ _ := .done
  tasks party task present := by
    have raises : ∀ host, Host.Raises id host (requestRotation host) := fun _ => ⟨1, rfl, rfl⟩
    have hooks : restlessHooks.ChangeBy (Host.Raises id) := by
      refine ⟨fun now host => ?_, Host.Raises.refl⟩
      show host.Raises id (if host.rest < 3 then requestRotation host else host)
      split
      · exact raises host
      · exact .refl host
    obtain rfl := List.mem_singleton.mp present
    refine .routine (.update raises (.update raises (.schedule fun _ => .runLoop hooks ?_ fun _ =>
      .update (fun _ => ⟨0, rfl, rfl⟩) (.runShared hooks ?_ (fun _ => .done) fun _ => .done))))
    · exact fun _ _ => ⟨1, rfl, rfl⟩
    · exact fun _ host => .refl host

theorem rotations_are_served_restless :
    let act : Interpretation Char Nat Nat := fun _ _ => .done
    let mover : Nat → Nat := fun _ => 0
    restless.CountsRequests id act ∧
      hookCalls (restless.history act mover 9) =
        [.rotated 5000, .statusUpdated, .rotated 6500, .statusUpdated] ∧
      ((restless.after act mover 5).step act 0).1 =
        [.turn 6500 ⟨true, false, true⟩, .exited .shutdown] ∧
      (restless.after act mover 6).host.signals.logRotation = true ∧
      restless.Serves id act mover 3 8 ∧
      restless.Serves id act mover 4 8 := by
  intro act mover
  obtain ⟨serves, -, neverLost⟩ :=
    rotations_are_served id act mover restless restless_countsRequests
  have rotations_eq : restless.rotations id act mover 9 = [4, 8] := by decide +kernel
  have servedAt : ∀ request, 2 < request → request ≤ 4 →
      restless.Serves id act mover request 8 := by
    intro request isNew wasRaised
    have served_eq : restless.served id act mover 6 = 2 := by decide +kernel
    have count_eq : (restless.after act mover 6).host.rest = 4 := by decide +kernel
    refine neverLost request 6 8 (by decide) (served_eq ▸ isNew) ?_ ?_ (by decide +kernel)
    · exact count_eq.symm ▸ wasRaised
    · intro step from_exit before
      have between : step = 6 ∨ step = 7 := by omega
      rcases between with rfl | rfl <;> decide +kernel
  refine ⟨restless_countsRequests, ?_, ?_, ?_, servedAt 3 (by decide) (by decide),
    servedAt 4 (by decide) (by decide)⟩
  · rw [(serves 9).history_eq, rotations_eq]
    with_unfolding_all rfl
  · with_unfolding_all rfl
  · rw [(serves 6).logRotation_eq]
    decide +kernel

end Parties
end Agenda
