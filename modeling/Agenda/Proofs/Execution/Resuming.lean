import Agenda.Proofs.Execution.Loops
import Agenda.Proofs.Execution.Turns

/-!
# Leaving a loop and running it again

A loop that is left because of a request to stop, or because its wait failed, keeps nothing back:
the item that it waited for is still in the store, a request to rotate the log is still raised,
and nothing else is known to the loop.  So running it again from where it was left goes on as if
it had not been left.

Two loops are compared in lockstep, in surroundings that differ in a way which hooks and callbacks
do not see.  Both do the same until the first of them is left by an exit that is cut; at this point
the second is at the beginning of its next turn.
-/

namespace Agenda

variable {σ : Type → Type} {κ D ε : Type}

/-! ## Deeds -/

/-- Whether something was done, other than beginning a turn or ending a loop. -/
def Event.isDeed : Event κ D → Bool
  | .turn .. | .exited .. => false
  | _ => true

/-- What was done, and when: waits, calls of the hooks, and all that happened to items. -/
def deeds (told : Diary κ D) : Diary κ D := told.filter fun record => record.2.isDeed

@[simp] theorem deeds_append (told later : Diary κ D) :
    deeds (told ++ later) = deeds told ++ deeds later :=
  List.filter_append ..

/-! ## Routines that do not see a difference -/

/-- Two routines do the same in surroundings that are related, and keep them related.  Neither
runs a loop, for a loop looks at the requests to stop. -/
inductive Routine.Alike (R : Host ε → Host ε → Prop) : Routine κ D ε → Routine κ D ε → Prop where
  | done : Alike R .done .done
  | observe {next other : Host ε → Routine κ D ε} :
      (∀ host changed, R host changed → Alike R (next host) (other changed)) →
      Alike R (.observe next) (.observe other)
  | update {change otherChange : Host ε → Host ε} {next other : Routine κ D ε} :
      (∀ host changed, R host changed → R (change host) (otherChange changed)) →
      Alike R next other → Alike R (.update change next) (.update otherChange other)
  | ask {query : Query} {next other : query.Reply → Routine κ D ε} :
      (∀ reply, Alike R (next reply) (other reply)) →
      Alike R (.ask query next) (.ask query other)
  | nextDue {next other : Option Instant → Routine κ D ε} :
      (∀ due, Alike R (next due) (other due)) → Alike R (.nextDue next) (.nextDue other)
  | schedule {delay : Delay} {callback : κ} {data : D} {next other : ItemHandle → Routine κ D ε} :
      (∀ handle, Alike R (next handle) (other handle)) →
      Alike R (.schedule delay callback data next) (.schedule delay callback data other)
  | trySchedule {delay : Delay} {callback : κ} {data : D}
      {next other : Except SchedulerError ItemHandle → Routine κ D ε} :
      (∀ result, Alike R (next result) (other result)) →
      Alike R (.trySchedule delay callback data next) (.trySchedule delay callback data other)
  | cancel {handle : ItemHandle} {next other : Except SchedulerError Unit → Routine κ D ε} :
      (∀ result, Alike R (next result) (other result)) →
      Alike R (.cancel handle next) (.cancel handle other)
  | shutdown {next other : Nat → Routine κ D ε} :
      (∀ count, Alike R (next count) (other count)) → Alike R (.shutdown next) (.shutdown other)

/-! ## Loops in lockstep -/

/-- A loop ended because it was asked to. -/
def LoopExit.IsStop (exit : LoopExit) : Prop := exit = .shutdown ∨ exit = .restart

@[simp] theorem LoopExit.not_isStop_queueEmpty : ¬ LoopExit.queueEmpty.IsStop := by
  simp [IsStop]

@[simp] theorem LoopExit.not_isStop_pollFailed (error : PollError) :
    ¬ (LoopExit.pollFailed error).IsStop := by
  simp [IsStop]

theorem Signals.isStop_of_stop?
    {signals : Signals}
    {exit : LoopExit}
    (isDemanded : signals.stop? = some exit) :
    exit.IsStop := by
  unfold stop? at isDemanded
  split at isDemanded
  · exact Or.inl (Option.some.inj isDemanded).symm
  · split at isDemanded
    · exact Or.inr (Option.some.inj isDemanded).symm
    · cases isDemanded


/-- One wait of each of two loops.  Either both bring the same, which does not end a loop by an
exit that is cut; or the first fails, by an exit that is cut, where the second is interrupted. -/
inductive PollsAlike (R S : Host ε → Host ε → Prop) (cut : LoopExit → Prop) :
    PollResult × Host ε → PollResult × Host ε → Prop where
  | same {result : PollResult} {host changed : Host ε} :
      R host changed →
      (∀ error, result = .error error → error.kind ≠ .interrupted → ¬ cut (.pollFailed error)) →
      PollsAlike R S cut (result, host) (result, changed)
  | struck {error other : PollError} {host changed : Host ε} :
      S host changed → error.kind ≠ .interrupted → cut (.pollFailed error) →
      other.kind = .interrupted →
      PollsAlike R S cut (.error error, host) (.error other, changed)

/-- Two loops do the same in related surroundings, until the first is left by an exit that is cut;
the surroundings are then related in a second way. -/
structure Loop.Alike (R S : Host ε → Host ε → Prop) (cut : LoopExit → Prop)
    (first second : Loop κ D ε) : Prop where
  /-- Callbacks do the same. -/
  act : ∀ callback told, (first.act callback told).Alike R (second.act callback told)
  /-- Rotating the log keeps the surroundings related. -/
  rotateLog : ∀ now host changed, R host changed →
    R (first.hooks.rotateLog now host) (second.hooks.rotateLog now changed)
  /-- So does writing the status. -/
  updateStatus : ∀ host changed, R host changed →
    R (first.hooks.updateStatus host) (second.hooks.updateStatus changed)
  /-- And so does taking the request to rotate the log. -/
  taken : ∀ host changed, R host changed →
    R { host with signals := host.signals.takeLogRotation.2 }
      { changed with signals := changed.signals.takeLogRotation.2 }
  /-- This request is raised in both or in neither. -/
  logRotation_eq : ∀ host changed, R host changed →
    changed.signals.logRotation = host.signals.logRotation
  /-- The clocks show the same. -/
  clock_eq : ∀ host changed, R host changed → changed.clock = host.clock
  /-- Also after the first loop has been cut. -/
  cutClock_eq : ∀ host changed, S host changed → changed.clock = host.clock
  /-- The same exit is demanded, or the one that is demanded of the first loop is cut. -/
  stop : ∀ host changed, R host changed →
    (changed.signals.stop? = host.signals.stop? ∧
        ∀ exit, host.signals.stop? = some exit → ¬ cut exit) ∨
      (∃ exit, host.signals.stop? = some exit ∧ cut exit ∧ S host changed)
  /-- The pollers bring the same, or the first loop is cut. -/
  polls : ∀ timeout host changed, R host changed →
    PollsAlike R S cut (first.poller timeout host) (second.poller timeout changed)
  /-- An empty store does not cut. -/
  not_cut_queueEmpty : ¬ cut .queueEmpty

/-- What the loops did last when the first was cut: nothing, or a wait that failed in the first
and was interrupted in the second. -/
inductive LastDeeds : LoopExit → Diary κ D → Diary κ D → Prop where
  | stop {exit : LoopExit} : exit.IsStop → LastDeeds exit [] []
  | poll (now : Instant) (timeout : UInt64) (error : PollError) {other : PollError} :
      other.kind = .interrupted →
      LastDeeds (.pollFailed error) [(now, .polled timeout (.error error))]
        [(now, .polled timeout (.error other))]

theorem LastDeeds.eq_of_isStop
    {exit : LoopExit}
    {last lastPassed : Diary κ D}
    (lastDeeds : LastDeeds exit last lastPassed)
    (isStop : exit.IsStop) :
    lastPassed = last := by
  cases lastDeeds with
  | stop => rfl
  | poll now timeout error => exact absurd isStop (LoopExit.not_isStop_pollFailed error)

theorem LastDeeds.of_pollFailed
    {error : PollError}
    {last lastPassed : Diary κ D}
    (lastDeeds : LastDeeds (.pollFailed error) last lastPassed) :
    ∃ now timeout other, last = [(now, .polled timeout (.error error))] ∧
      lastPassed = [(now, .polled timeout (.error other))] ∧ other.kind = .interrupted := by
  cases lastDeeds with
  | stop isStop => exact absurd isStop (LoopExit.not_isStop_pollFailed error)
  | poll now timeout _ interrupted => exact ⟨now, timeout, _, rfl, rfl, interrupted⟩

namespace Scheduler

variable [OrderedStore σ] {scheduler settled : Scheduler σ κ D} {exit : LoopExit}

/-- A loop is left before it waits by the exit that is demanded, or because its store is empty. -/
theorem exit_of_planTurn
    {hooks : Hooks ε}
    {host : Host ε}
    (planned : (scheduler.planTurn hooks host).plan = .leave exit) :
    host.signals.stop? = some exit ∨ exit = .queueEmpty := by
  unfold planTurn at planned
  split at planned
  next demanded isDemanded =>
    cases planned
    exact Or.inl isDemanded
  next =>
    refine Or.inr ?_
    simp only [awaitFirst] at planned
    split at planned
    · cases planned
      rfl
    · cases planned

/-- A loop is left after it has waited because the wait failed. -/
theorem exit_of_settleTurn
    {wait : Wait}
    {result : PollResult}
    {now : Instant}
    (settles : scheduler.settleTurn wait result now = (.leave exit, settled)) :
    ∃ error, result = .error error ∧ error.kind ≠ .interrupted ∧ exit = .pollFailed error := by
  unfold settleTurn at settles
  split at settles
  next error =>
    split at settles
    next => cases settles
    next failing =>
      cases settles
      exact ⟨error, rfl, failing, rfl⟩
  next ready =>
    split at settles
    next => cases settles
    next =>
      unfold fireIfDue at settles
      split at settles
      · cases settles
      · dsimp only at settles
        split at settles
        · split at settles <;> cases settles
        · cases settles

theorem settleTurn_of_failing
    {error : PollError}
    (failing : error.kind ≠ .interrupted)
    (scheduler : Scheduler σ κ D)
    (wait : Wait)
    (now : Instant) :
    scheduler.settleTurn wait (.error error) now = (.leave (.pollFailed error), scheduler) := by
  rw [settleTurn, if_neg failing]

theorem settleTurn_of_interrupted
    {error : PollError}
    (interrupted : error.kind = .interrupted)
    (scheduler : Scheduler σ κ D)
    (wait : Wait)
    (now : Instant) :
    scheduler.settleTurn wait (.error error) now = (.again, scheduler) := by
  rw [settleTurn, if_pos interrupted]

end Scheduler

namespace Loop

variable [OrderedStore σ]
variable {R S : Host ε → Host ε → Prop} {cut : LoopExit → Prop} {first second : Loop κ D ε}

namespace Alike

/-- The same request is made in both loops. -/
theorem exists_request
    (alike : first.Alike R S cut second)
    (scheduler : Scheduler σ κ D)
    {host changed : Host ε}
    (related : R host changed)
    {routine other : Routine κ D ε}
    (routines : routine.Alike R other) :
    ∃ events next hostThen changedThen, ∃ pushed otherPushed : List (Routine κ D ε),
      R hostThen changedThen ∧ List.Forall₂ (Routine.Alike R) pushed otherPushed ∧
        (∀ tasks, Execution.request first.act scheduler host tasks routine =
          (events, ⟨next, hostThen, pushed.map .routine ++ tasks⟩)) ∧
        ∀ tasks, Execution.request second.act scheduler changed tasks other =
          (events, ⟨next, changedThen, otherPushed.map .routine ++ tasks⟩) := by
  have clock_eq := alike.clock_eq host changed related
  cases routines with
  | done =>
      exact ⟨_, _, _, _, [], [], related, .nil, fun _ => rfl, fun _ => rfl⟩
  | observe next =>
      exact ⟨_, _, _, _, [_], [_], related, .cons (next _ _ related) .nil, fun _ => rfl,
        fun _ => rfl⟩
  | update keeps next =>
      exact ⟨_, _, _, _, [_], [_], keeps _ _ related, .cons next .nil, fun _ => rfl,
        fun _ => rfl⟩
  | ask next =>
      exact ⟨_, _, _, _, [_], [_], related, .cons (next _) .nil, fun _ => rfl, fun _ => rfl⟩
  | nextDue next =>
      exact ⟨_, _, _, _, [_], [_], related, .cons (next _) .nil, fun _ => rfl, fun _ => rfl⟩
  | schedule next =>
      refine ⟨_, _, _, _, [_], [_], related, .cons (next _) .nil, fun _ => rfl, fun _ => ?_⟩
      simp only [Execution.request, clock_eq]
      rfl
  | trySchedule next =>
      refine ⟨_, _, _, _, [_], [_], related, .cons (next _) .nil, fun _ => rfl, fun _ => ?_⟩
      simp only [Execution.request, clock_eq]
      rfl
  | @cancel handle _ _ next =>
      rcases removed : scheduler.remove handle with ⟨_ | item, remaining⟩
      · refine ⟨[.unknown handle], remaining, host, changed, [_], [_], related,
          .cons (next (.error (.unknownItem handle))) .nil, fun _ => ?_, fun _ => ?_⟩
        · simp only [Execution.request, removed]
          rfl
        · simp only [Execution.request, removed]
          rfl
      · let told := item.dispatch handle .abort
        refine ⟨[.dispatched item.callback told], remaining, host, changed, [_, _], [_, _], related,
          .cons (alike.act item.callback told) (.cons (next (.ok ())) .nil), fun _ => ?_,
          fun _ => ?_⟩
        · simp only [Execution.request, removed]
          rfl
        · simp only [Execution.request, removed]
          rfl
  | shutdown next =>
      exact ⟨_, _, _, _, [_], [_], related, .cons (next _) .nil, fun _ => rfl, fun _ => rfl⟩

/-- The first halves of a turn agree if the same exit is demanded. -/
theorem planTurn
    (alike : first.Alike R S cut second)
    (scheduler : Scheduler σ κ D)
    {host changed : Host ε}
    (related : R host changed)
    (stop?_eq : changed.signals.stop? = host.signals.stop?) :
    let planned := scheduler.planTurn first.hooks host
    let otherPlanned := scheduler.planTurn second.hooks changed
    otherPlanned.plan = planned.plan ∧ otherPlanned.rotatedAt = planned.rotatedAt ∧
      otherPlanned.scheduler = planned.scheduler ∧ R planned.host otherPlanned.host := by
  have clock_eq := alike.clock_eq host changed related
  have now_eq : changed.clock.now = host.clock.now := by rw [clock_eq]
  have served := Host.serveRotation_related alike.rotateLog alike.updateStatus related
    (alike.taken _ _ related) (alike.logRotation_eq _ _ related) now_eq
  simp only [Scheduler.planTurn, stop?_eq]
  split
  · exact ⟨rfl, rfl, rfl, related⟩
  · rw [now_eq]
    exact ⟨rfl, served.1, rfl, served.2⟩

/-- What the second loop does where the first is left by an exit. -/
structure Follows (R S : Host ε → Host ε → Prop) (cut : LoopExit → Prop) (second : Loop κ D ε)
    (above : List (Task κ D ε)) (start : Situation σ κ D ε) (told : Diary κ D) (exit : LoopExit)
    (stop : Situation σ κ D ε) : Prop where
  /-- It comes to the beginning of a turn if the exit is cut. -/
  of_cut : cut exit → ∃ steps passed done last lastPassed host,
    second.PassesIn steps above start passed [] ⟨stop.scheduler, host⟩ ∧ S stop.host host ∧
      deeds told = done ++ last ∧ deeds passed = done ++ lastPassed ∧
      LastDeeds exit last lastPassed
  /-- It is left by the same exit otherwise. -/
  of_not_cut : ¬ cut exit → ∃ steps passed host,
    second.LeavesIn steps above start passed exit ⟨stop.scheduler, host⟩ ∧ R stop.host host ∧
      deeds passed = deeds told

/-- What both loops do at first can be added in front. -/
theorem Follows.after
    {above aboveThen : List (Task κ D ε)}
    {start middle stop : Situation σ κ D ε}
    {first passed told : Diary κ D}
    {exit : LoopExit}
    {steps : Nat}
    (passes : second.PassesIn steps above start passed aboveThen middle)
    (sameDeeds : deeds passed = deeds first)
    (follows : Follows R S cut second aboveThen middle told exit stop) :
    Follows R S cut second above start (first ++ told) exit stop where
  of_cut isCut := by
    obtain ⟨more, later, done, last, lastPassed, host, passesOn, related, told_eq, later_eq,
      lastDeeds⟩ := follows.of_cut isCut
    refine ⟨steps + more, passed ++ later, deeds first ++ done, last, lastPassed, host,
      passes.trans passesOn, related, ?_, ?_, lastDeeds⟩
    · rw [deeds_append, told_eq, List.append_assoc]
    · rw [deeds_append, sameDeeds, later_eq, List.append_assoc]
  of_not_cut notCut := by
    obtain ⟨more, later, host, leaves, related, later_eq⟩ := follows.of_not_cut notCut
    refine ⟨steps + more, passed ++ later, host, passes.leavesIn leaves, related, ?_⟩
    rw [deeds_append, deeds_append, sameDeeds, later_eq]

/-- The same is done at the beginning of two turns that begin alike. -/
theorem deeds_begun
    (alike : first.Alike R S cut second)
    (scheduler : Scheduler σ κ D)
    {host changed : Host ε}
    (related : R host changed)
    (stop?_eq : changed.signals.stop? = host.signals.stop?)
    (now : Instant)
    (events : List (Event κ D)) :
    deeds (stamp now (second.begun ⟨scheduler, changed⟩ ++ events)) =
      deeds (stamp now (first.begun ⟨scheduler, host⟩ ++ events)) := by
  obtain ⟨-, rotatedAt_eq, -⟩ := alike.planTurn scheduler related stop?_eq
  rw [begun, begun, rotatedAt_eq]
  cases (scheduler.planTurn first.hooks host).rotatedAt <;> rfl

section Turns

variable {steps : Nat} {scheduler : Scheduler σ κ D} {host changed : Host ε}
variable {told : Diary κ D} {exit : LoopExit} {stop : Situation σ κ D ε}

/-- The first loop is left at the beginning of a turn, where the second stays. -/
theorem follows_of_stop
    {demanded : LoopExit}
    (isDemanded : host.signals.stop? = some demanded)
    (isCut : cut demanded)
    (related : S host changed)
    (leaves : first.LeavesIn steps [] ⟨scheduler, host⟩ told exit stop) :
    Follows R S cut second [] ⟨scheduler, changed⟩ told exit stop := by
  have planned : scheduler.planTurn first.hooks host =
      ⟨.leave demanded, none, scheduler, host⟩ := by
    rw [Scheduler.planTurn, isDemanded]
  have leavesAtOnce := leavesIn_of_plan (congrArg Scheduler.Planned.plan planned)
  rw [begun, planned] at leavesAtOnce
  obtain ⟨-, rfl, rfl, rfl⟩ := leaves.unique leavesAtOnce
  refine ⟨fun _ => ?_, fun notCut => absurd isCut notCut⟩
  exact ⟨0, [], [], [], [], changed, passesIn_zero second [] _, related, rfl, rfl,
    .stop (Signals.isStop_of_stop? isDemanded)⟩

end Turns

/-- One turn: the second loop follows if it follows from all that comes after the turn. -/
theorem follows_turn
    (alike : first.Alike R S cut second)
    {steps : Nat}
    {scheduler : Scheduler σ κ D}
    {host changed : Host ε}
    {told : Diary κ D}
    {exit : LoopExit}
    {stop : Situation σ κ D ε}
    (related : R host changed)
    (leaves : first.LeavesIn steps [] ⟨scheduler, host⟩ told exit stop)
    (followsLater : ∀ rest < steps, ∀ {next : Scheduler σ κ D} {hostThen changedThen later},
      ∀ {callbacks otherCallbacks : List (Routine κ D ε)},
      List.Forall₂ (Routine.Alike R) callbacks otherCallbacks → R hostThen changedThen →
      first.LeavesIn rest (callbacks.map .routine) ⟨next, hostThen⟩ later exit stop →
      Follows R S cut second (otherCallbacks.map .routine) ⟨next, changedThen⟩ later exit stop) :
    Follows R S cut second [] ⟨scheduler, changed⟩ told exit stop := by
  rcases alike.stop host changed related with
    ⟨stop?_eq, notCut⟩ | ⟨demanded, isDemanded, isCut, cutRelated⟩
  case inr => exact follows_of_stop isDemanded isCut cutRelated leaves
  obtain ⟨plan_eq, -, scheduler_eq, plannedRelated⟩ := alike.planTurn scheduler related stop?_eq
  have sameDeeds := alike.deeds_begun scheduler related stop?_eq
  cases planned : (scheduler.planTurn first.hooks host).plan with
  | leave planExit =>
      obtain ⟨-, rfl, rfl, rfl⟩ := leaves.unique (leavesIn_of_plan planned)
      have otherLeaves := leavesIn_of_plan (plan_eq.trans planned)
      rw [scheduler_eq] at otherLeaves
      refine ⟨fun isCut => ?_, fun _ => ⟨1, _, _, otherLeaves, plannedRelated, ?_⟩⟩
      · rcases Scheduler.exit_of_planTurn planned with isDemanded | rfl
        · exact absurd isCut (notCut _ isDemanded)
        · exact absurd isCut alike.not_cut_queueEmpty
      · rw [sameDeeds, alike.clock_eq _ _ plannedRelated]
  | await wait =>
      have polls := alike.polls wait.timeout _ _ plannedRelated
      rcases polled : first.poller wait.timeout (scheduler.planTurn first.hooks host).host with
        ⟨result, polledHost⟩
      rcases otherPolled :
          second.poller wait.timeout (scheduler.planTurn second.hooks changed).host with
        ⟨otherResult, otherPolledHost⟩
      rw [polled, otherPolled] at polls
      have otherPlanned := plan_eq.trans planned
      cases polls with
      | @struck error _ _ _ cutRelated failing isCut interrupted =>
          have settles := Scheduler.settleTurn_of_failing failing
            (scheduler.planTurn first.hooks host).scheduler wait polledHost.clock.now
          have otherSettles := Scheduler.settleTurn_of_interrupted interrupted
            (scheduler.planTurn second.hooks changed).scheduler wait otherPolledHost.clock.now
          obtain ⟨-, rfl, rfl, rfl⟩ := leaves.unique (leavesIn_of_settled planned polled settles)
          have otherPasses := passesIn_of_again otherPlanned otherPolled otherSettles
          rw [scheduler_eq, alike.cutClock_eq _ _ cutRelated] at otherPasses
          refine ⟨fun _ => ?_, fun notCutHere => absurd isCut notCutHere⟩
          have begunDeeds := sameDeeds polledHost.clock.now []
          rw [List.append_nil, List.append_nil] at begunDeeds
          refine ⟨1, _, deeds (stamp polledHost.clock.now (first.begun ⟨scheduler, host⟩)), _, _,
            otherPolledHost, otherPasses, cutRelated, ?_, ?_,
            .poll polledHost.clock.now wait.timeout error interrupted⟩
          · rw [stamp_append, deeds_append]
            rfl
          · rw [stamp_append, deeds_append, begunDeeds]
            rfl
      | same polledRelated notCutPoll =>
          have clock_eq := alike.clock_eq _ _ polledRelated
          rcases settles : (scheduler.planTurn first.hooks host).scheduler.settleTurn wait result
            polledHost.clock.now with ⟨settlement, settled⟩
          have otherSettles := settles
          rw [← scheduler_eq, ← clock_eq] at otherSettles
          cases settlement with
          | again =>
              have otherPasses := passesIn_of_again otherPlanned otherPolled otherSettles
              obtain ⟨rest, later, rfl, rfl, leavesThen⟩ :=
                leaves.of_passesIn (passesIn_of_again planned polled settles)
              refine Follows.after otherPasses ?_
                (followsLater rest (by omega) .nil polledRelated leavesThen)
              rw [sameDeeds, clock_eq]
          | leave settledExit =>
              obtain ⟨error, rfl, failing, rfl⟩ := Scheduler.exit_of_settleTurn settles
              obtain ⟨-, rfl, rfl, rfl⟩ :=
                leaves.unique (leavesIn_of_settled planned polled settles)
              have otherLeaves := leavesIn_of_settled otherPlanned otherPolled otherSettles
              refine ⟨fun isCut => absurd isCut (notCutPoll error rfl failing),
                fun _ => ⟨1, _, _, otherLeaves, polledRelated, ?_⟩⟩
              rw [sameDeeds, clock_eq]
          | fire handle item =>
              have otherPasses := passesIn_of_fire otherPlanned otherPolled otherSettles
              obtain ⟨rest, later, rfl, rfl, leavesThen⟩ :=
                leaves.of_passesIn (passesIn_of_fire planned polled settles)
              refine Follows.after otherPasses ?_
                (followsLater rest (by omega) (.cons (alike.act _ _) .nil) polledRelated leavesThen)
              rw [sameDeeds, clock_eq]

/-- Wherever the first loop is left, the second follows. -/
theorem follows
    (alike : first.Alike R S cut second)
    {steps : Nat}
    {scheduler : Scheduler σ κ D}
    {host changed : Host ε}
    {told : Diary κ D}
    {exit : LoopExit}
    {stop : Situation σ κ D ε}
    {callbacks otherCallbacks : List (Routine κ D ε)}
    (routines : List.Forall₂ (Routine.Alike R) callbacks otherCallbacks)
    (related : R host changed)
    (leaves : first.LeavesIn steps (callbacks.map .routine) ⟨scheduler, host⟩ told exit stop) :
    Follows R S cut second (otherCallbacks.map .routine) ⟨scheduler, changed⟩ told exit stop := by
  induction steps using Nat.strong_induction_on
    generalizing scheduler host changed told callbacks otherCallbacks with
  | _ steps inductionHypothesis =>
      cases routines with
      | nil =>
          exact alike.follows_turn related leaves
            fun rest before _ _ _ _ _ _ routinesThen relatedThen leavesThen =>
              inductionHypothesis rest before routinesThen relatedThen leavesThen
      | @cons routine other callbacks otherCallbacks routine_alike routines =>
          obtain ⟨events, next, hostThen, changedThen, pushed, otherPushed, relatedThen,
              pushed_alike, requested, otherRequested⟩ :=
            alike.exists_request scheduler related routine_alike
          have passes := passesIn_of_request (pushed.map .routine) requested
            (callbacks.map .routine)
          have otherPasses := passesIn_of_request (otherPushed.map .routine) otherRequested
            (otherCallbacks.map .routine)
          obtain ⟨rest, later, rfl, rfl, leavesThen⟩ := leaves.of_passesIn passes
          rw [← List.map_append] at leavesThen otherPasses
          refine Follows.after otherPasses ?_
            (inductionHypothesis rest (by omega) (List.rel_append pushed_alike routines) relatedThen
              leavesThen)
          rw [alike.clock_eq _ _ relatedThen]

end Alike

end Loop

/-! ## Requests to stop and failures -/

/-- The state without the requests to shut down and to restart. -/
def Host.reset (host : Host ε) : Host ε := { host with signals := host.signals.reset }

/-- The situation without the requests to shut down and to restart. -/
def Situation.reset (situation : Situation σ κ D ε) : Situation σ κ D ε :=
  { situation with host := situation.host.reset }

namespace Loop

/-- A loop does what another does, but where the other raises requests to stop it raises none.
Hooks, callbacks and pollers of the other do not look whether one is raised. -/
structure WithoutStops (loop plain : Loop κ D ε) : Prop where
  /-- Callbacks do the same. -/
  act : ∀ callback told,
    (loop.act callback told).Alike (fun host calm => calm = host.reset) (plain.act callback told)
  /-- So does rotating the log. -/
  rotateLog : ∀ now host,
    plain.hooks.rotateLog now host.reset = (loop.hooks.rotateLog now host).reset
  /-- And writing the status. -/
  updateStatus : ∀ host, plain.hooks.updateStatus host.reset = (loop.hooks.updateStatus host).reset
  /-- Waiting brings the same. -/
  poller : ∀ timeout host, plain.poller timeout host.reset =
    ((loop.poller timeout host).1, (loop.poller timeout host).2.reset)

theorem WithoutStops.alike
    {loop plain : Loop κ D ε}
    (withoutStops : loop.WithoutStops plain) :
    loop.Alike (fun host calm => calm = host.reset) (fun host calm => calm = host.reset)
      LoopExit.IsStop plain where
  act := withoutStops.act
  rotateLog := by
    rintro now host _ rfl
    exact withoutStops.rotateLog now host
  updateStatus := by
    rintro host _ rfl
    exact withoutStops.updateStatus host
  taken := by
    rintro host _ rfl
    rfl
  logRotation_eq := by
    rintro host _ rfl
    rfl
  clock_eq := by
    rintro host _ rfl
    rfl
  cutClock_eq := by
    rintro host _ rfl
    rfl
  stop := by
    rintro host _ rfl
    have noStop : host.reset.signals.stop? = none := Signals.stop?_reset _
    cases demanded : host.signals.stop? with
    | none => exact Or.inl ⟨noStop, fun _ => nofun⟩
    | some exit => exact Or.inr ⟨exit, rfl, Signals.isStop_of_stop? demanded, rfl⟩
  polls := by
    rintro timeout host _ rfl
    rw [withoutStops.poller]
    exact .same rfl fun error _ _ => LoopExit.not_isStop_pollFailed error
  not_cut_queueEmpty := LoopExit.not_isStop_queueEmpty

variable [OrderedStore σ]

/-- Leaving a loop and running it again is the same as not leaving it.  This holds of a loop that
is left because a request to stop was raised, at any point and by whomsoever: with the request
withdrawn it goes on as the loop goes on in which the request is not raised.  It also holds of a
loop that is left because its wait failed: it goes on as the loop goes on in whose surroundings,
which hooks and callbacks cannot tell apart, this wait is interrupted. -/
theorem resuming_is_transparent
    {first again plain loop : Loop κ D ε}
    (firstWithoutStops : first.WithoutStops plain)
    (againWithoutStops : again.WithoutStops plain)
    {R : Host ε → Host ε → Prop}
    (interrupts : loop.Alike R Eq (fun exit => exit.isFailure = true) loop) :
    (∀ (start middle : Situation σ κ D ε) told exit,
      first.Leaves start told exit middle → exit.IsStop →
        ∃ passed, deeds passed = deeds told ∧
          (∀ whole lastExit last, plain.Leaves start.reset whole lastExit last ↔
            ∃ later, whole = passed ++ later ∧
              plain.Leaves middle.reset later lastExit last) ∧
          ∀ later lastExit last,
            again.Leaves middle.reset later lastExit last → ¬ lastExit.IsStop →
              ∃ laterPassed, deeds laterPassed = deeds later ∧
                plain.Leaves start.reset (passed ++ laterPassed) lastExit last.reset) ∧
    ∀ (scheduler : Scheduler σ κ D) (host changed : Host ε) told error middle,
      R host changed → loop.Leaves ⟨scheduler, host⟩ told (.pollFailed error) middle →
        ∃ passed done now timeout interruption,
          deeds told = done ++ [(now, .polled timeout (.error error))] ∧
          deeds passed = done ++ [(now, .polled timeout (.error interruption))] ∧
          interruption.kind = .interrupted ∧
          ∀ whole lastExit last, loop.Leaves ⟨scheduler, changed⟩ whole lastExit last ↔
            ∃ later, whole = passed ++ later ∧ loop.Leaves middle later lastExit last := by
  constructor
  · rintro start middle told exit ⟨steps, leaves⟩ isStop
    obtain ⟨_, passed, done, last, lastPassed, host, passes, rfl, told_eq, passed_eq, lastDeeds⟩ :=
      (firstWithoutStops.alike.follows .nil rfl leaves).of_cut isStop
    have passesOn : plain.Passes start.reset passed middle.reset := ⟨_, passes⟩
    refine ⟨passed, ?_, fun _ _ _ => passesOn.leaves_iff, ?_⟩
    · rw [passed_eq, told_eq, lastDeeds.eq_of_isStop isStop]
    · rintro later lastExit lastSituation ⟨_, leavesThen⟩ notStop
      obtain ⟨more, laterPassed, _, plainLeaves, rfl, sameDeeds⟩ :=
        (againWithoutStops.alike.follows .nil rfl leavesThen).of_not_cut notStop
      exact ⟨laterPassed, sameDeeds, passesOn.leaves_iff.mpr ⟨laterPassed, rfl, more, plainLeaves⟩⟩
  · rintro scheduler host changed told error middle related ⟨steps, leaves⟩
    obtain ⟨_, passed, done, last, lastPassed, _, passes, rfl, told_eq, passed_eq, lastDeeds⟩ :=
      (interrupts.follows .nil related leaves).of_cut rfl
    have passesOn : loop.Passes ⟨scheduler, changed⟩ passed middle := ⟨_, passes⟩
    obtain ⟨now, timeout, interruption, rfl, rfl, interrupted⟩ := lastDeeds.of_pollFailed
    exact ⟨passed, done, now, timeout, interruption, told_eq, passed_eq, interrupted,
      fun _ _ _ => passesOn.leaves_iff⟩

/-- A poller that waits for as long as it is told and takes its answers from a script; when the
script is over there is no input any more. -/
def scripted : Poller (List PollResult) := fun timeout host =>
  let waited := { host with clock := host.clock.advance timeout }
  match host.rest with
  | [] => (.ok 0, waited)
  | answer :: rest => (answer, { waited with rest })

/-- A loop in which one callback asks for a shutdown. -/
def asking : Loop Char Nat (List PollResult) where
  act callback _ :=
    if callback = 'a' then
      .update (fun host => { host with signals := host.signals.requestShutdown }) .done
    else .done
  hooks := .idle
  poller := scripted

/-- The same loop without the request. -/
def unasked : Loop Char Nat (List PollResult) where
  act callback _ := if callback = 'a' then .update id .done else .done
  hooks := .idle
  poller := scripted

/-- One script has an interruption where the other has the first failure. -/
structure Interrupting (host changed : Host (List PollResult)) : Prop where
  /-- The clocks show the same. -/
  clock_eq : changed.clock = host.clock
  /-- The same requests are raised. -/
  signals_eq : changed.signals = host.signals
  /-- The scripts differ in one answer. -/
  script : ∃ before error after,
    (∀ failure, .error failure ∈ before → failure.kind = .interrupted) ∧
      error.kind ≠ .interrupted ∧
      host.rest = before ++ .error error :: after ∧
      changed.rest = before ++ .error ⟨.interrupted, ""⟩ :: after

/-- Two items, due now and in a second. -/
def twoItems : Scheduler SlotStore Char Nat :=
  ((Scheduler.ofStore (.empty none)).schedule ⟨5000, 'a', 0⟩).2.schedule ⟨6000, 'b', 1⟩ |>.2

/-- The first has been fired and a shutdown is requested. -/
def stopped : Situation SlotStore Char Nat (List PollResult) where
  scheduler := (twoItems.remove (.stored ⟨0, 0⟩)).2
  host := ⟨⟨5000⟩, Signals.clear.requestShutdown, []⟩

/-- Both have been fired. -/
def drained : Situation SlotStore Char Nat (List PollResult) where
  scheduler := (stopped.scheduler.remove (.stored ⟨1, 0⟩)).2.nextDue.2
  host := ⟨⟨6000⟩, .clear, []⟩

/-- The wait has failed before an item was fired. -/
def failed : Situation SlotStore Char Nat (List PollResult) where
  scheduler := twoItems
  host := ⟨⟨5000⟩, .clear, []⟩

/-- What the loop tells until it is asked to stop. -/
def toldBefore : Diary Char Nat :=
  stamp 5000
    [.turn 5000 .clear, .polled 0 (.ok 0),
      .dispatched 'a' ⟨.stored ⟨0, 0⟩, 5000, .timed, 0, 0⟩,
      .turn 5000 ⟨true, false, false⟩, .exited .shutdown]

/-- What it tells when it is run again. -/
def toldAfterwards : Diary Char Nat :=
  stamp 6000
    [.turn 5000 .clear, .polled 1000 (.ok 0),
      .dispatched 'b' ⟨.stored ⟨1, 0⟩, 6000, .timed, 0, 1⟩,
      .turn 6000 .clear, .exited .queueEmpty]

/-- What it tells until its wait fails. -/
def toldUntilFailure : Diary Char Nat :=
  stamp 5000
    [.turn 5000 .clear, .polled 0 (.ok 1), .turn 5000 .clear,
      .polled 0 (.error ⟨.brokenPipe, "gone"⟩), .exited (.pollFailed ⟨.brokenPipe, "gone"⟩)]

theorem asking_leaves_stopped :
    asking.Leaves ⟨twoItems, ⟨⟨5000⟩, .clear, []⟩⟩ toldBefore .shutdown stopped :=
  ⟨4, fun _ _ => ⟨by with_unfolding_all rfl, by with_unfolding_all rfl⟩⟩

theorem asking_leaves_drained :
    asking.Leaves stopped.reset toldAfterwards .queueEmpty drained :=
  ⟨3, fun _ _ => ⟨by with_unfolding_all rfl, by with_unfolding_all rfl⟩⟩

theorem asking_leaves_failed :
    asking.Leaves ⟨twoItems, ⟨⟨5000⟩, .clear, [.ok 1, .error ⟨.brokenPipe, "gone"⟩]⟩⟩
      toldUntilFailure (.pollFailed ⟨.brokenPipe, "gone"⟩) failed :=
  ⟨2, fun _ _ => ⟨by with_unfolding_all rfl, by with_unfolding_all rfl⟩⟩

theorem asking_withoutStops : asking.WithoutStops unasked where
  act callback _ := by
    dsimp only [asking, unasked]
    split
    · exact .update (by rintro host _ rfl; rfl) .done
    · exact .done
  rotateLog _ _ := rfl
  updateStatus _ := rfl
  poller timeout host := by
    obtain ⟨clock, signals, rest⟩ := host
    cases rest <;> rfl

theorem asking_interrupting :
    asking.Alike Interrupting Eq (fun exit => exit.isFailure = true) asking where
  act callback told := by
    dsimp only [asking]
    split
    · refine .update (fun host changed related => ?_) .done
      exact ⟨related.clock_eq, congrArg Signals.requestShutdown related.signals_eq, related.script⟩
    · exact .done
  rotateLog _ _ _ related := related
  updateStatus _ _ related := related
  taken _ _ related :=
    ⟨related.clock_eq, congrArg (fun signals => signals.takeLogRotation.2) related.signals_eq,
      related.script⟩
  logRotation_eq _ _ related := congrArg Signals.logRotation related.signals_eq
  clock_eq _ _ related := related.clock_eq
  cutClock_eq := by
    rintro host _ rfl
    rfl
  stop host changed related := by
    refine Or.inl ⟨congrArg Signals.stop? related.signals_eq, fun exit isDemanded => ?_⟩
    rcases Signals.isStop_of_stop? isDemanded with rfl | rfl
    · exact Bool.false_ne_true
    · exact Bool.false_ne_true
  polls timeout host changed related := by
    obtain ⟨clock, signals, rest⟩ := host
    obtain ⟨otherClock, otherSignals, otherRest⟩ := changed
    obtain ⟨rfl, rfl, before, error, after, harmless, failing, rfl, rfl⟩ := related
    cases before with
    | nil => exact .struck rfl failing rfl rfl
    | cons answer before =>
        refine .same ⟨rfl, rfl, before, error, after, ?_, failing, rfl, rfl⟩ ?_
        · exact fun failure present => harmless failure (List.mem_cons_of_mem _ present)
        · rintro failure rfl isFailing
          exact absurd (harmless failure List.mem_cons_self) isFailing
  not_cut_queueEmpty := Bool.false_ne_true

theorem resuming_is_transparent_twoItems :
    let start : Situation SlotStore Char Nat (List PollResult) :=
      ⟨twoItems, ⟨⟨5000⟩, .clear, []⟩⟩
    let failing : Host (List PollResult) :=
      ⟨⟨5000⟩, .clear, [.ok 1, .error ⟨.brokenPipe, "gone"⟩]⟩
    let interrupted : Host (List PollResult) :=
      ⟨⟨5000⟩, .clear, [.ok 1, .error ⟨.interrupted, ""⟩]⟩
    asking.WithoutStops unasked ∧
      asking.Alike Interrupting Eq (fun exit => exit.isFailure = true) asking ∧
      Interrupting failing interrupted ∧
      asking.Leaves start toldBefore .shutdown stopped ∧
      asking.Leaves stopped.reset toldAfterwards .queueEmpty drained ∧
      (∃ whole, deeds whole = deeds (toldBefore ++ toldAfterwards) ∧
        unasked.Leaves start.reset whole .queueEmpty drained.reset) ∧
      asking.Leaves ⟨twoItems, failing⟩ toldUntilFailure
        (.pollFailed ⟨.brokenPipe, "gone"⟩) failed ∧
      ∃ passed, ∀ whole exit last,
        asking.Leaves ⟨twoItems, interrupted⟩ whole exit last ↔
          ∃ later, whole = passed ++ later ∧ asking.Leaves failed later exit last := by
  intro start failing interrupted
  obtain ⟨afterStop, afterFailure⟩ :=
    @resuming_is_transparent SlotStore _ _ _ _ _ _ _ _ asking_withoutStops asking_withoutStops _
      asking_interrupting
  have differsInOne : Interrupting failing interrupted := by
    refine ⟨rfl, rfl, [.ok 1], ⟨.brokenPipe, "gone"⟩, [], ?_, by decide, rfl, rfl⟩
    rintro failure (_ | ⟨_, ⟨⟩⟩)
  refine ⟨asking_withoutStops, asking_interrupting, differsInOne, asking_leaves_stopped,
    asking_leaves_drained, ?_, asking_leaves_failed, ?_⟩
  · obtain ⟨passed, passed_eq, -, runs⟩ :=
      afterStop start stopped _ _ asking_leaves_stopped (Or.inl rfl)
    obtain ⟨later, later_eq, leaves⟩ :=
      runs _ _ _ asking_leaves_drained LoopExit.not_isStop_queueEmpty
    refine ⟨passed ++ later, ?_, leaves⟩
    rw [deeds_append, deeds_append, passed_eq, later_eq]
  · obtain ⟨passed, _, _, _, _, -, -, -, resumes⟩ :=
      afterFailure twoItems failing interrupted _ _ _ differsInOne asking_leaves_failed
    exact ⟨passed, resumes⟩

end Loop
end Agenda
