import Agenda.Proofs.Execution.Renaming
import Agenda.Proofs.Execution.Turns

/-!
# Two runs in lockstep

Corresponding executions at schedulers that hold the same items make corresponding steps.  The
handles that a step gives out in one of them are paired with those that it gives out in the other;
whatever pairs them makes the outcomes correspond.  So the runs of corresponding parties are the
same but for the names of items.
-/

namespace Agenda

variable {κ D ε : Type}

theorem Ledger.ofHistory_append_of_quiet
    (history : List (Event κ D))
    {events : List (Event κ D)}
    (quiet : ∀ event ∈ events, event.isQuiet = true) :
    ofHistory (history ++ events) = ofHistory history := by
  rw [ofHistory_append, foldl_record_of_quiet _ quiet]

theorem Ledger.foldl_record_dispatched
    (ledger : Ledger (Item κ D))
    (item : Item κ D)
    (handle : ItemHandle)
    (reason : Reason) :
    [.dispatched item.callback (item.dispatch handle reason)].foldl record ledger =
      ledger.without handle := by
  cases handle <;> rfl

theorem Recorded.kept
    {history : List (Event κ D)}
    {scheduler : Scheduler SlotStore κ D}
    (recorded : Recorded history scheduler) :
    scheduler.Kept (.ofHistory history) (refusals history) :=
  ⟨recorded.represents, recorded.bounded.ledger, recorded.balanced.keeps.numbered,
    recorded.bounded.refusals_lt⟩

namespace Execution

variable {C : Correspondence κ D ε} {names more : Naming} {before : Nat}
variable {history twinHistory : List (Event κ D)}

/-- Two executions with given histories are the same but for the names of items. -/
structure Corresponds (C : Correspondence κ D ε) (names : Naming) (before : Nat)
    (history twinHistory : List (Event κ D)) (execution twin : Execution SlotStore κ D ε) :
    Prop where
  /-- The schedulers hold the same items. -/
  schedulers : execution.scheduler.Twins C names before (.ofHistory history)
    (.ofHistory twinHistory) twin.scheduler
  /-- The surroundings correspond. -/
  hosts : execution.host.Corresponds C names twin.host
  /-- The tasks correspond. -/
  tasks : List.Forall₂ (Task.Corresponds C names) execution.tasks twin.tasks

/-- Two steps give out as many handles, of the same kinds.  Whatever pairs them, the same was told
but for the names of items, and the executions correspond. -/
structure OutcomesCorrespond (C : Correspondence κ D ε) (names : Naming) (before : Nat)
    (history twinHistory : List (Event κ D)) (outcome twin : Outcome SlotStore κ D ε) :
    Prop where
  /-- The handles are of the same kinds. -/
  sameKinds : List.Forall₂ (fun handle other => handle.isDegenerate = other.isDegenerate)
    (givenHandles outcome.1) (givenHandles twin.1)
  /-- What follows corresponds. -/
  follows : ∀ more, names ≤ more →
    List.Forall₂ more.Pairs (givenHandles outcome.1) (givenHandles twin.1) →
      List.Forall₂ (Event.Corresponds C more) outcome.1 twin.1 ∧
        Corresponds C more before (history ++ outcome.1) (twinHistory ++ twin.1) outcome.2 twin.2

namespace OutcomesCorrespond

/-- Steps that give out no handles. -/
theorem of_quiet
    {events twinEvents : List (Event κ D)}
    {execution twin : Execution SlotStore κ D ε}
    (quiet : ∀ event ∈ events, event.isQuiet = true)
    (twinQuiet : ∀ event ∈ twinEvents, event.isQuiet = true)
    (told : List.Forall₂ (Event.Corresponds C names) events twinEvents)
    (executions : Corresponds C names before history twinHistory execution twin) :
    OutcomesCorrespond C names before history twinHistory (events, execution)
      (twinEvents, twin) where
  sameKinds := by
    rw [givenHandles_eq_nil_of_quiet quiet, givenHandles_eq_nil_of_quiet twinQuiet]
    exact .nil
  follows more le _ := by
    refine ⟨told.imp fun _ _ events => events.mono le, ?_, executions.hosts.mono le,
      executions.tasks.imp fun _ _ tasks => tasks.mono le⟩
    rw [Ledger.ofHistory_append_of_quiet history quiet,
      Ledger.ofHistory_append_of_quiet twinHistory twinQuiet]
    exact executions.schedulers.mono le

/-- Steps that tell nothing. -/
theorem of_silent
    {execution twin : Execution SlotStore κ D ε}
    (executions : Corresponds C names before history twinHistory execution twin) :
    OutcomesCorrespond C names before history twinHistory ([], execution) ([], twin) :=
  .of_quiet (fun _ told => nomatch told) (fun _ told => nomatch told) .nil executions

/-- Events come first that leave the items alone. -/
theorem prepend
    {begun twinBegun : List (Event κ D)}
    {outcome twin : Outcome SlotStore κ D ε}
    (quiet : ∀ event ∈ begun, event.isQuiet = true)
    (twinQuiet : ∀ event ∈ twinBegun, event.isQuiet = true)
    (told : List.Forall₂ (Event.Corresponds C names) begun twinBegun)
    (outcomes : OutcomesCorrespond C names before (history ++ begun) (twinHistory ++ twinBegun)
      outcome twin) :
    OutcomesCorrespond C names before history twinHistory (begun ++ outcome.1, outcome.2)
      (twinBegun ++ twin.1, twin.2) where
  sameKinds := by
    rw [givenHandles_append, givenHandles_append, givenHandles_eq_nil_of_quiet quiet,
      givenHandles_eq_nil_of_quiet twinQuiet]
    exact outcomes.sameKinds
  follows more le paired := by
    rw [givenHandles_append, givenHandles_append, givenHandles_eq_nil_of_quiet quiet,
      givenHandles_eq_nil_of_quiet twinQuiet] at paired
    obtain ⟨toldThen, executions⟩ := outcomes.follows more le paired
    rw [List.append_assoc, List.append_assoc] at executions
    exact ⟨List.rel_append (told.imp fun _ _ events => events.mono le) toldThen, executions⟩

end OutcomesCorrespond

variable {act twinAct : Interpretation κ D ε}
variable {scheduler twin : Scheduler SlotStore κ D} {host twinHost : Host ε}
variable {tasks twinTasks : List (Task κ D ε)}

/-! ## Dispatches and the ends of turns -/

section Ends

variable (acts : ActsCorrespond C act twinAct)
variable (hosts : host.Corresponds C names twinHost)
variable (below : List.Forall₂ (Task.Corresponds C names) tasks twinTasks)
include acts hosts below

/-- The callbacks of corresponding items are told the same. -/
theorem dispatch_corresponds
    {handle other : ItemHandle}
    (paired : names.Pairs handle other)
    {item otherItem : Item κ D}
    (items : item.Corresponds C names otherItem)
    (reason : Reason)
    (twins : scheduler.Twins C names before ((Ledger.ofHistory history).without handle)
      ((Ledger.ofHistory twinHistory).without other) twin) :
    OutcomesCorrespond C names before history twinHistory
      (dispatch act scheduler host handle item reason tasks)
      (dispatch twinAct twin twinHost other otherItem reason twinTasks) := by
  have dispatches : (item.dispatch handle reason).Corresponds C names
      (otherItem.dispatch other reason) :=
    ⟨paired, items.due_eq, rfl, rfl, items.data⟩
  refine ⟨.nil, fun more le _ => ⟨.cons ?_ .nil, ?_, hosts.mono le, .cons ?_ ?_⟩⟩
  · exact .dispatched (C.callback_mono le items.callback) (dispatches.mono le)
  · show Scheduler.Twins _ _ _ (Ledger.ofHistory (_ ++ [_])) (Ledger.ofHistory (_ ++ [_])) _ _
    rw [Ledger.ofHistory_append, Ledger.foldl_record_dispatched, Ledger.ofHistory_append,
      Ledger.foldl_record_dispatched]
    exact twins.mono le
  · exact .routine ((acts _ _ _ _ _ items.callback dispatches).mono le)
  · exact below.imp fun _ _ tasks => tasks.mono le

theorem afterTurn_corresponds
    {settlement other : Settlement κ D}
    (settlements : settlement.Corresponds C names other)
    (twins : scheduler.Twins C names before ((Ledger.ofHistory history).settle settlement)
      ((Ledger.ofHistory twinHistory).settle other) twin)
    {loop otherLoop : Task κ D ε}
    (loops : loop.Corresponds C names otherLoop)
    {next otherNext : LoopExit → Routine κ D ε}
    (nexts : ∀ exit, (next exit).Corresponds C names (otherNext exit)) :
    OutcomesCorrespond C names before history twinHistory
      (afterTurn act scheduler host settlement loop next tasks)
      (afterTurn twinAct twin twinHost other otherLoop otherNext twinTasks) := by
  cases settlements with
  | again => exact .of_silent ⟨twins, hosts, .cons loops below⟩
  | leave exit =>
      exact .of_quiet (List.forall_mem_singleton.mpr rfl) (List.forall_mem_singleton.mpr rfl)
        (.cons (.exited exit) .nil) ⟨twins, hosts, .cons (.routine (nexts exit)) below⟩
  | fire paired items =>
      exact dispatch_corresponds acts hosts (.cons loops below) paired items .timed twins

end Ends

/-! ## Requests -/

theorem request_schedule_of_ok
    (act : Interpretation κ D ε)
    {scheduler : Scheduler SlotStore κ D}
    {host : Host ε}
    {delay : Delay}
    {callback : κ}
    {data : D}
    {handle : SlotHandle}
    {store : SlotStore (Item κ D)}
    (inserted : OrderedStore.insert scheduler.store
      (Scheduler.itemAfter host.clock.now delay callback data).due
      (Scheduler.itemAfter host.clock.now delay callback data) = (.ok handle, store))
    (tasks : List (Task κ D ε))
    (next : ItemHandle → Routine κ D ε) :
    request act scheduler host tasks (.schedule delay callback data next) =
      ([.accepted (.stored handle) (Scheduler.itemAfter host.clock.now delay callback data)],
        ⟨{ scheduler with store }, host, .routine (next (.stored handle)) :: tasks⟩) := by
  simp only [request, Scheduler.schedule, Scheduler.insert, inserted]
  rfl

theorem request_schedule_of_error
    (act : Interpretation κ D ε)
    {scheduler : Scheduler SlotStore κ D}
    {host : Host ε}
    {delay : Delay}
    {callback : κ}
    {data : D}
    {cause : Refusal}
    (refused : OrderedStore.insert scheduler.store
      (Scheduler.itemAfter host.clock.now delay callback data).due
      (Scheduler.itemAfter host.clock.now delay callback data) =
        (.error ⟨Scheduler.itemAfter host.clock.now delay callback data, cause⟩, scheduler.store))
    (tasks : List (Task κ D ε))
    (next : ItemHandle → Routine κ D ε) :
    request act scheduler host tasks (.schedule delay callback data next) =
      ([.detached (.detached scheduler.detached.nextNumber)
          (Scheduler.itemAfter host.clock.now delay callback data)],
        ⟨(scheduler.detach (Scheduler.itemAfter host.clock.now delay callback data)).2, host,
          .routine (next (.detached scheduler.detached.nextNumber)) :: tasks⟩) := by
  simp only [request, Scheduler.schedule, Scheduler.insert, refused]
  rfl

section Requests

variable (acts : ActsCorrespond C act twinAct)
variable (recorded : Recorded history scheduler) (twinRecorded : Recorded twinHistory twin)
variable (twins : scheduler.Twins C names before (.ofHistory history) (.ofHistory twinHistory) twin)
variable (hosts : host.Corresponds C names twinHost)
variable (below : List.Forall₂ (Task.Corresponds C names) tasks twinTasks)
include recorded twinRecorded twins hosts below

omit recorded twinRecorded twins in
/-- Corresponding items that are taken get paired handles. -/
theorem accepted_corresponds
    {item otherItem : Item κ D}
    (items : item.Corresponds C names otherItem)
    {handle other : SlotHandle}
    {store twinStore : SlotStore (Item κ D)}
    (twinsThen : ∀ more, names ≤ more → more.Pairs (.stored handle) (.stored other) →
      ({ scheduler with store } : Scheduler SlotStore κ D).Twins C more before
        ((Ledger.ofHistory history).add handle item.due item)
        ((Ledger.ofHistory twinHistory).add other otherItem.due otherItem)
        { twin with store := twinStore })
    {next otherNext : Routine κ D ε}
    (nexts : ∀ more, names ≤ more → more.Pairs (.stored handle) (.stored other) →
      next.Corresponds C more otherNext) :
    OutcomesCorrespond C names before history twinHistory
      ([.accepted (.stored handle) item],
        ⟨{ scheduler with store }, host, .routine next :: tasks⟩)
      ([.accepted (.stored other) otherItem],
        ⟨{ twin with store := twinStore }, twinHost, .routine otherNext :: twinTasks⟩) := by
  refine ⟨.cons rfl .nil, fun more le paired => ?_⟩
  obtain ⟨paired, -⟩ := List.forall₂_cons.mp paired
  refine ⟨.cons (.accepted paired (items.mono le)) .nil, ?_, hosts.mono le,
    .cons (.routine (nexts more le paired)) (below.imp fun _ _ tasks => tasks.mono le)⟩
  rw [Ledger.ofHistory_append, Ledger.ofHistory_append]
  exact twinsThen more le paired

theorem schedule_corresponds
    (delay : Delay)
    {callback otherCallback : κ}
    (callbacks : C.callback names callback otherCallback)
    {data otherData : D}
    (datas : C.data names data otherData)
    {next otherNext : ItemHandle → Routine κ D ε}
    (nexts : ∀ more, names ≤ more → ∀ handle other, more.Pairs handle other →
      (next handle).Corresponds C more (otherNext other)) :
    OutcomesCorrespond C names before history twinHistory
      (request act scheduler host tasks (.schedule delay callback data next))
      (request twinAct twin twinHost twinTasks
        (.schedule delay otherCallback otherData otherNext)) := by
  have items : (Scheduler.itemAfter host.clock.now delay callback data).Corresponds C names
      (Scheduler.itemAfter twinHost.clock.now delay otherCallback otherData) :=
    ⟨by rw [hosts.clock_eq]; rfl, callbacks, datas⟩
  rcases twins.insert recorded.kept twinRecorded.kept items with
    ⟨handle, other, store, twinStore, inserted, twinInserted, twinsThen⟩ | ⟨refused, twinRefused⟩
  · rw [request_schedule_of_ok act inserted, request_schedule_of_ok twinAct twinInserted]
    exact accepted_corresponds hosts below items twinsThen fun more le => nexts more le _ _
  · rw [request_schedule_of_error act refused, request_schedule_of_error twinAct twinRefused]
    refine ⟨.cons rfl .nil, fun more le paired => ?_⟩
    obtain ⟨paired, -⟩ := List.forall₂_cons.mp paired
    refine ⟨.cons (.detached paired (items.mono le)) .nil, ?_, hosts.mono le,
      .cons (.routine (nexts more le _ _ paired)) (below.imp fun _ _ tasks => tasks.mono le)⟩
    rw [Ledger.ofHistory_append, Ledger.ofHistory_append]
    exact twins.detach recorded.kept twinRecorded.kept items le paired

theorem trySchedule_corresponds
    (delay : Delay)
    {callback otherCallback : κ}
    (callbacks : C.callback names callback otherCallback)
    {data otherData : D}
    (datas : C.data names data otherData)
    {next otherNext : Except SchedulerError ItemHandle → Routine κ D ε}
    (nexts : ∀ more, names ≤ more → ∀ handle other, more.Pairs handle other →
      (next (.ok handle)).Corresponds C more (otherNext (.ok other)))
    (failures : ∀ error, (next (.error error)).Corresponds C names (otherNext (.error error))) :
    OutcomesCorrespond C names before history twinHistory
      (request act scheduler host tasks (.trySchedule delay callback data next))
      (request twinAct twin twinHost twinTasks
        (.trySchedule delay otherCallback otherData otherNext)) := by
  have items : (Scheduler.itemAfter host.clock.now delay callback data).Corresponds C names
      (Scheduler.itemAfter twinHost.clock.now delay otherCallback otherData) :=
    ⟨by rw [hosts.clock_eq]; rfl, callbacks, datas⟩
  rcases twins.insert recorded.kept twinRecorded.kept items with
    ⟨handle, other, store, twinStore, inserted, twinInserted, twinsThen⟩ | ⟨refused, twinRefused⟩
  · simp only [request, Scheduler.trySchedule, Scheduler.insert, inserted, twinInserted]
    exact accepted_corresponds hosts below items twinsThen fun more le => nexts more le _ _
  · simp only [request, Scheduler.trySchedule, Scheduler.insert, refused, twinRefused]
    refine ⟨.nil, fun more le _ => ⟨.cons (.refused (items.mono le)) .nil, ?_, hosts.mono le,
      .cons (.routine ((failures _).mono le)) (below.imp fun _ _ tasks => tasks.mono le)⟩⟩
    rw [Ledger.ofHistory_append, Ledger.ofHistory_append]
    exact twins.mono le

theorem shutdown_corresponds
    {next otherNext : Nat → Routine κ D ε}
    (nexts : ∀ count, (next count).Corresponds C names (otherNext count)) :
    OutcomesCorrespond C names before history twinHistory
      (request act scheduler host tasks (.shutdown next))
      (request twinAct twin twinHost twinTasks (.shutdown otherNext)) := by
  obtain ⟨⟨items, items_perm, others, others_perm, corresponding⟩, twinsThen⟩ :=
    twins.release recorded.kept twinRecorded.kept
  have count_eq : twin.release.1.length = scheduler.release.1.length := by
    rw [← items_perm.length_eq, ← others_perm.length_eq, corresponding.length_eq]
  refine ⟨.nil, fun more le _ => ⟨.cons ?_ .nil, ?_, hosts.mono le, .cons (.routine ?_)
    (below.imp fun _ _ tasks => tasks.mono le)⟩⟩
  · exact .released items_perm others_perm
      (corresponding.imp fun _ _ items => items.mono le)
  · simp only [request]
    rw [Ledger.ofHistory_append, Ledger.ofHistory_append]
    exact twinsThen.mono le
  · show (next scheduler.release.1.length).Corresponds C more (otherNext twin.release.1.length)
    rw [count_eq]
    exact (nexts _).mono le

include acts

theorem cancel_corresponds
    {handle other : ItemHandle}
    (paired : names.Pairs handle other)
    {next otherNext : Except SchedulerError Unit → Routine κ D ε}
    (success : (next (.ok ())).Corresponds C names (otherNext (.ok ())))
    (failure : (next (.error (.unknownItem handle))).Corresponds C names
      (otherNext (.error (.unknownItem other)))) :
    OutcomesCorrespond C names before history twinHistory
      (request act scheduler host tasks (.cancel handle next))
      (request twinAct twin twinHost twinTasks (.cancel other otherNext)) := by
  rcases twins.remove recorded.kept twinRecorded.kept paired with
    ⟨item, otherItem, remaining, twinRemaining, removed, twinRemoved, items, twinsThen⟩ |
      ⟨removed, twinRemoved⟩
  · simp only [request, removed, twinRemoved]
    exact dispatch_corresponds acts hosts (.cons (.routine success) below) paired items .abort
      twinsThen
  · simp only [request, removed, twinRemoved]
    exact .of_quiet (List.forall_mem_singleton.mpr rfl) (List.forall_mem_singleton.mpr rfl)
      (.cons (.unknown paired) .nil) ⟨twins, hosts, .cons (.routine failure) below⟩

/-- Corresponding requests are answered alike. -/
theorem request_corresponds
    {routine other : Routine κ D ε}
    (routines : routine.Corresponds C names other) :
    OutcomesCorrespond C names before history twinHistory
      (request act scheduler host tasks routine)
      (request twinAct twin twinHost twinTasks other) := by
  have kept := recorded.kept
  have twinKept := twinRecorded.kept
  cases routines with
  | done => exact .of_silent ⟨twins, hosts, below⟩
  | observe next =>
      exact .of_silent ⟨twins, hosts, .cons (.routine (next _ le_rfl _ _ hosts)) below⟩
  | update keeps next =>
      exact .of_silent ⟨twins, keeps _ le_rfl _ _ hosts, .cons (.routine next) below⟩
  | @ask _ query _ _ isFree next =>
      refine .of_silent ⟨twins, hosts, .cons (.routine ?_) below⟩
      cases query with
      | contains handle => exact absurd rfl (isFree handle)
      | size =>
          have reply_eq : twin.size = scheduler.size := twins.size_eq kept twinKept
          simp only [Scheduler.reply, reply_eq]
          exact next _
      | detachedCount =>
          simp only [Scheduler.reply, twins.detachedCount_eq]
          exact next _
      | pollCeiling =>
          simp only [Scheduler.reply, twins.pollCeiling_eq]
          exact next _
  | contains paired next =>
      refine .of_silent ⟨twins, hosts, .cons (.routine ?_) below⟩
      simp only [Scheduler.reply, twins.contains_eq kept twinKept paired]
      exact next _
  | @nextDue _ next otherNext nexts =>
      refine .of_silent ⟨twins.peeked, hosts, .cons (.routine ?_) below⟩
      show (next scheduler.nextDue.1).Corresponds C names (otherNext twin.nextDue.1)
      rw [twins.nextDue_eq kept twinKept]
      exact nexts _
  | schedule callback data next =>
      exact schedule_corresponds recorded twinRecorded twins hosts below _ callback data next
  | trySchedule callback data next failures =>
      exact trySchedule_corresponds recorded twinRecorded twins hosts below _ callback data next
        failures
  | cancel paired success failure =>
      exact cancel_corresponds acts recorded twinRecorded twins hosts below paired success failure
  | shutdown next => exact shutdown_corresponds recorded twinRecorded twins hosts below next
  | runLoop hooks pollers next =>
      exact .of_silent ⟨twins, hosts, .cons (.turns hooks pollers next) below⟩
  | runShared hooks pollers others next =>
      exact .of_silent ⟨twins, hosts, .cons (.sharedTurns hooks pollers others next) below⟩

end Requests

/-! ## Turns -/

theorem planEvents_correspond
    (hosts : host.Corresponds C names twinHost)
    (rotatedAt : Option Instant) :
    List.Forall₂ (Event.Corresponds C names) (planEvents host rotatedAt : List (Event κ D))
      (planEvents twinHost rotatedAt) := by
  simp only [planEvents, hosts.clock_eq, hosts.signals_eq]
  cases rotatedAt with
  | none => exact .cons (.turn _ _) .nil
  | some now => exact .cons (.turn _ _) (.cons (.rotated now) (.cons .statusUpdated .nil))

/-- What waiting brings is settled alike. -/
theorem settle_corresponds
    (acts : ActsCorrespond C act twinAct)
    {count twinCount : Nat}
    (kept : scheduler.Kept (.ofHistory history) count)
    (twinKept : twin.Kept (.ofHistory twinHistory) twinCount)
    (twins : scheduler.Twins C names before (.ofHistory history) (.ofHistory twinHistory) twin)
    (hosts : host.Corresponds C names twinHost)
    (below : List.Forall₂ (Task.Corresponds C names) tasks twinTasks)
    {wait other : Wait}
    (waits : wait.Corresponds names other)
    {poller otherPoller : Poller ε}
    (pollers : PollersCorrespond C names poller otherPoller)
    {loop otherLoop : Task κ D ε}
    (loops : loop.Corresponds C names otherLoop)
    {next otherNext : LoopExit → Routine κ D ε}
    (nexts : ∀ exit, (next exit).Corresponds C names (otherNext exit)) :
    let polled := poller wait.timeout host
    let settled := scheduler.settleTurn wait polled.1 polled.2.clock.now
    let ended := afterTurn act settled.2 polled.2 settled.1 loop next tasks
    let twinPolled := otherPoller other.timeout twinHost
    let twinSettled := twin.settleTurn other twinPolled.1 twinPolled.2.clock.now
    let twinEnded := afterTurn twinAct twinSettled.2 twinPolled.2 twinSettled.1 otherLoop otherNext
      twinTasks
    OutcomesCorrespond C names before history twinHistory
      (.polled wait.timeout polled.1 :: ended.1, ended.2)
      (.polled other.timeout twinPolled.1 :: twinEnded.1, twinEnded.2) := by
  rw [waits.timeout_eq]
  obtain ⟨result_eq, polledHosts⟩ := pollers names le_rfl wait.timeout host twinHost hosts
  have now_eq := congrArg Clock.now polledHosts.clock_eq
  dsimp only
  rw [result_eq, now_eq]
  obtain ⟨settlements, twinsThen⟩ := twins.settleTurn kept twinKept waits
    (poller wait.timeout host).1 (poller wait.timeout host).2.clock.now
  have quiet : ∀ event ∈ [(.polled wait.timeout (poller wait.timeout host).1 : Event κ D)],
      event.isQuiet = true :=
    List.forall_mem_singleton.mpr rfl
  rw [← Ledger.ofHistory_append_of_quiet history quiet,
    ← Ledger.ofHistory_append_of_quiet twinHistory quiet] at twinsThen
  exact .prepend quiet quiet (.cons (.polled _ _) .nil)
    (afterTurn_corresponds acts polledHosts below settlements twinsThen loops nexts)

/-- The first halves of two turns correspond. -/
structure PlansCorrespond (C : Correspondence κ D ε) (names : Naming) (before : Nat)
    (history twinHistory : List (Event κ D))
    (planned twinPlanned : Scheduler.Planned SlotStore κ D ε) : Prop where
  /-- They come to the same decision. -/
  plans : planned.plan.Corresponds names twinPlanned.plan
  /-- The log is rotated at the same instant, or not at all. -/
  rotatedAt_eq : twinPlanned.rotatedAt = planned.rotatedAt
  /-- The surroundings correspond. -/
  hosts : planned.host.Corresponds C names twinPlanned.host
  /-- The schedulers hold the same items. -/
  twins : planned.scheduler.Twins C names before (.ofHistory history) (.ofHistory twinHistory)
    twinPlanned.scheduler
  /-- The first history is right about the first scheduler. -/
  kept : planned.scheduler.Kept (.ofHistory history) (refusals history)
  /-- The second history is right about the second scheduler. -/
  twinKept : twinPlanned.scheduler.Kept (.ofHistory twinHistory) (refusals twinHistory)

theorem leave_corresponds
    (hosts : host.Corresponds C names twinHost)
    (below : List.Forall₂ (Task.Corresponds C names) tasks twinTasks)
    {next otherNext : LoopExit → Routine κ D ε}
    (nexts : ∀ exit, (next exit).Corresponds C names (otherNext exit))
    {planned twinPlanned : Scheduler.Planned SlotStore κ D ε}
    (plansCorrespond : PlansCorrespond C names before history twinHistory planned twinPlanned)
    (exit : LoopExit) :
    OutcomesCorrespond C names before history twinHistory
      (planEvents host planned.rotatedAt ++ [.exited exit],
        ⟨planned.scheduler, planned.host, .routine (next exit) :: tasks⟩)
      (planEvents twinHost twinPlanned.rotatedAt ++ [.exited exit],
        ⟨twinPlanned.scheduler, twinPlanned.host, .routine (otherNext exit) :: twinTasks⟩) := by
  have exited : ∀ event ∈ [(.exited exit : Event κ D)], event.isQuiet = true :=
    List.forall_mem_singleton.mpr rfl
  rw [plansCorrespond.rotatedAt_eq]
  refine .of_quiet ?_ ?_ ?_ ⟨plansCorrespond.twins, plansCorrespond.hosts,
    .cons (.routine (nexts exit)) below⟩
  · exact List.forall_mem_append.mpr ⟨planEvents_quiet host _, exited⟩
  · exact List.forall_mem_append.mpr ⟨planEvents_quiet twinHost _, exited⟩
  · exact List.rel_append (planEvents_correspond hosts _) (.cons (.exited exit) .nil)

section Turns

variable (acts : ActsCorrespond C act twinAct)
variable (recorded : Recorded history scheduler) (twinRecorded : Recorded twinHistory twin)
variable (twins : scheduler.Twins C names before (.ofHistory history) (.ofHistory twinHistory) twin)
variable (hosts : host.Corresponds C names twinHost)
variable (below : List.Forall₂ (Task.Corresponds C names) tasks twinTasks)
variable {hooks otherHooks : Hooks ε} (hooksCorrespond : hooks.Correspond C names otherHooks)
variable {poller otherPoller : Poller ε}
variable (pollersCorrespond : PollersCorrespond C names poller otherPoller)
variable {others othersThen : UInt64 → Routine κ D ε}
variable (othersCorrespond : ∀ timeout, (others timeout).Corresponds C names (othersThen timeout))
variable {next otherNext : LoopExit → Routine κ D ε}
variable (nexts : ∀ exit, (next exit).Corresponds C names (otherNext exit))
include recorded twinRecorded twins hosts hooksCorrespond

theorem planTurn_corresponds :
    PlansCorrespond C names before history twinHistory (scheduler.planTurn hooks host)
      (twin.planTurn otherHooks twinHost) := by
  have kept := recorded.kept
  have twinKept := twinRecorded.kept
  simp only [Scheduler.planTurn, hosts.signals_eq, hosts.clock_eq]
  split
  next exit _ => exact ⟨.leave exit, rfl, hosts, twins, kept, twinKept⟩
  next =>
    have taken : Host.Corresponds C names
        { host with signals := host.signals.takeLogRotation.2 }
        { twinHost with signals := twinHost.signals.takeLogRotation.2 } :=
      ⟨hosts.clock_eq, by rw [hosts.signals_eq], hosts.rest⟩
    obtain ⟨rotatedAt_eq, served⟩ := Host.serveRotation_related
      (hooksCorrespond.rotateLog names le_rfl) (hooksCorrespond.updateStatus names le_rfl) hosts
      taken (congrArg Signals.logRotation hosts.signals_eq) (congrArg Clock.now hosts.clock_eq)
    obtain ⟨plans, looked, twinLooked⟩ := twins.awaitFirst kept twinKept host.clock.now
    refine ⟨plans, rotatedAt_eq, served, ?_, ?_, ?_⟩
    · simp only [looked, twinLooked]
      exact twins.peeked
    · simp only [looked]
      exact kept.peeked
    · simp only [twinLooked]
      exact twinKept.peeked

include below pollersCorrespond nexts

include acts in
theorem turn_corresponds :
    OutcomesCorrespond C names before history twinHistory
      (turn act scheduler host hooks poller next tasks)
      (turn twinAct twin twinHost otherHooks otherPoller otherNext twinTasks) := by
  have plansCorrespond :=
    planTurn_corresponds recorded twinRecorded twins hosts hooksCorrespond
  unfold turn
  generalize scheduler.planTurn hooks host = planned at plansCorrespond ⊢
  generalize twin.planTurn otherHooks twinHost = twinPlanned at plansCorrespond ⊢
  obtain ⟨plan, rotatedAt, planScheduler, planHost⟩ := planned
  obtain ⟨twinPlan, twinRotatedAt, twinPlanScheduler, twinPlanHost⟩ := twinPlanned
  cases plansCorrespond.plans with
  | leave exit => exact leave_corresponds hosts below nexts plansCorrespond exit
  | @await wait other waits =>
      obtain rfl := plansCorrespond.rotatedAt_eq
      have kept := plansCorrespond.kept
      have twinKept := plansCorrespond.twinKept
      have planTwins := plansCorrespond.twins
      have quiet : ∀ event ∈ (planEvents host twinRotatedAt : List (Event κ D)),
          event.isQuiet = true := planEvents_quiet host _
      have twinQuiet : ∀ event ∈ (planEvents twinHost twinRotatedAt : List (Event κ D)),
          event.isQuiet = true := planEvents_quiet twinHost _
      rw [← Ledger.ofHistory_append_of_quiet history quiet] at kept planTwins
      rw [← Ledger.ofHistory_append_of_quiet twinHistory twinQuiet] at twinKept planTwins
      exact .prepend quiet twinQuiet (planEvents_correspond hosts _)
        (settle_corresponds acts kept twinKept planTwins plansCorrespond.hosts below waits
          pollersCorrespond (.turns hooksCorrespond pollersCorrespond nexts) nexts)

include othersCorrespond in
theorem sharedPlan_corresponds :
    OutcomesCorrespond C names before history twinHistory
      (sharedPlan scheduler host hooks poller others next tasks)
      (sharedPlan twin twinHost otherHooks otherPoller othersThen otherNext twinTasks) := by
  have plansCorrespond :=
    planTurn_corresponds recorded twinRecorded twins hosts hooksCorrespond
  unfold sharedPlan
  generalize scheduler.planTurn hooks host = planned at plansCorrespond ⊢
  generalize twin.planTurn otherHooks twinHost = twinPlanned at plansCorrespond ⊢
  obtain ⟨plan, rotatedAt, planScheduler, planHost⟩ := planned
  obtain ⟨twinPlan, twinRotatedAt, twinPlanScheduler, twinPlanHost⟩ := twinPlanned
  cases plansCorrespond.plans with
  | leave exit => exact leave_corresponds hosts below nexts plansCorrespond exit
  | @await wait other waits =>
      obtain rfl := plansCorrespond.rotatedAt_eq
      refine .of_quiet (planEvents_quiet host _) (planEvents_quiet twinHost _)
        (planEvents_correspond hosts _) ⟨plansCorrespond.twins, plansCorrespond.hosts, ?_⟩
      refine .cons (.routine ?_) (.cons (.sharedSettle waits hooksCorrespond pollersCorrespond
        othersCorrespond nexts) below)
      rw [waits.timeout_eq]
      exact othersCorrespond _

end Turns

/-- Corresponding executions make corresponding steps. -/
theorem step_corresponds
    (acts : ActsCorrespond C act twinAct)
    {execution twin : Execution SlotStore κ D ε}
    (executions : Corresponds C names before history twinHistory execution twin)
    (recorded : Recorded history execution.scheduler)
    (twinRecorded : Recorded twinHistory twin.scheduler) :
    OutcomesCorrespond C names before history twinHistory (execution.step act)
      (twin.step twinAct) := by
  obtain ⟨scheduler, host, tasks⟩ := execution
  obtain ⟨twinScheduler, twinHost, twinTasks⟩ := twin
  obtain ⟨twins, hosts, allTasks⟩ := executions
  cases allTasks with
  | nil => exact .of_silent ⟨twins, hosts, .nil⟩
  | cons top below =>
      cases top with
      | routine routines =>
          exact request_corresponds acts recorded twinRecorded twins hosts below routines
      | turns hooks pollers nexts =>
          exact turn_corresponds acts recorded twinRecorded twins hosts below hooks pollers nexts
      | sharedTurns hooks pollers others nexts =>
          exact sharedPlan_corresponds recorded twinRecorded twins hosts below hooks pollers others
            nexts
      | sharedSettle waits hooks pollers others nexts =>
          exact settle_corresponds acts recorded.kept twinRecorded.kept twins hosts below waits
            pollers (.sharedTurns hooks pollers others nexts) nexts

end Execution

/-! ## Runs -/

namespace Parties

variable {C : Correspondence κ D ε} {before : Nat} {earlier twinEarlier : List (Event κ D)}
variable {act twinAct : Interpretation κ D ε} {mover : Nat → Nat}
variable {parties twin : Parties SlotStore κ D ε}

/-- What two corresponding runs have in common after a number of steps. -/
structure RunsCorrespond (C : Correspondence κ D ε) (names : Naming) (before : Nat)
    (earlier twinEarlier history twinHistory : List (Event κ D))
    (parties twin : Parties SlotStore κ D ε) : Prop where
  /-- The names are the handles that were given out in the first run, in their order. -/
  fst_eq : names.pairs.map Prod.fst = givenHandles history
  /-- And those that were given out in the second. -/
  snd_eq : names.pairs.map Prod.snd = givenHandles twinHistory
  /-- The same was told but for the names of items. -/
  told : List.Forall₂ (Event.Corresponds C names) history twinHistory
  /-- All parties go on alike. -/
  executions : ∀ party, (parties.execution party).Corresponds C names before
    (earlier ++ history) (twinEarlier ++ twinHistory) (twin.execution party)

/-- One step of a party in each run. -/
theorem RunsCorrespond.step
    {names : Naming}
    {history twinHistory : List (Event κ D)}
    (runs : RunsCorrespond C names before earlier twinEarlier history twinHistory parties twin)
    (acts : ActsCorrespond C act twinAct)
    (party : Nat)
    (recorded : Recorded (earlier ++ history) parties.scheduler)
    (twinRecorded : Recorded (twinEarlier ++ twinHistory) twin.scheduler)
    (given_nodup : (givenHandles (history ++ (parties.step act party).1)).Nodup)
    (twinGiven_nodup : (givenHandles (twinHistory ++ (twin.step twinAct party).1)).Nodup) :
    ∃ more, RunsCorrespond C more before earlier twinEarlier
      (history ++ (parties.step act party).1) (twinHistory ++ (twin.step twinAct party).1)
      (parties.step act party).2 (twin.step twinAct party).2 := by
  have outcomes := Execution.step_corresponds acts (runs.executions party) recorded twinRecorded
  rw [givenHandles_append, ← runs.fst_eq] at given_nodup
  rw [givenHandles_append, ← runs.snd_eq] at twinGiven_nodup
  obtain ⟨more, le, fst_eq, snd_eq, paired⟩ :=
    names.exists_extension outcomes.sameKinds given_nodup twinGiven_nodup
  obtain ⟨told, executions⟩ := outcomes.follows more le paired
  refine ⟨more, ?_, ?_, ?_, ?_⟩
  · rw [fst_eq, runs.fst_eq, givenHandles_append]
    rfl
  · rw [snd_eq, runs.snd_eq, givenHandles_append]
    rfl
  · exact List.rel_append (runs.told.imp fun _ _ events => events.mono le) told
  · intro other
    rw [← List.append_assoc, ← List.append_assoc]
    refine ⟨executions.schedulers, executions.hosts, related_tasks_step executions.tasks ?_ other⟩
    exact fun anyone => (runs.executions anyone).tasks.imp fun _ _ tasks => tasks.mono le

/-- Runs of corresponding parties are the same but for the names of items. -/
theorem exists_runsCorrespond
    (acts : ActsCorrespond C act twinAct)
    (executions : ∀ party, (parties.execution party).Corresponds C .empty before earlier
      twinEarlier (twin.execution party))
    (recorded : Recorded earlier parties.scheduler)
    (twinRecorded : Recorded twinEarlier twin.scheduler)
    {steps : Nat}
    (bounded : Bounded (earlier ++ parties.history act mover steps))
    (twinBounded : Bounded (twinEarlier ++ twin.history twinAct mover steps)) :
    ∃ names, RunsCorrespond C names before earlier twinEarlier (parties.history act mover steps)
      (twin.history twinAct mover steps) (parties.after act mover steps)
      (twin.after twinAct mover steps) := by
  -- No step gives out a handle for the second time, so its handles can be paired with each other.
  induction steps with
  | zero =>
      refine ⟨.empty, rfl, rfl, .nil, fun party => ?_⟩
      have first := executions party
      rw [← List.append_nil earlier, ← List.append_nil twinEarlier] at first
      exact first
  | succ steps inductionHypothesis =>
      have recordedThen := (parties.course act mover).recorded recorded bounded
      have twinRecordedThen := (twin.course twinAct mover).recorded twinRecorded twinBounded
      have given_nodup := recordedThen.handles_nodup
      have twinGiven_nodup := twinRecordedThen.handles_nodup
      rw [givenHandles_append] at given_nodup twinGiven_nodup
      have boundedBefore := (parties.course act mover).bounded_of_succ bounded
      have twinBoundedBefore := (twin.course twinAct mover).bounded_of_succ twinBounded
      obtain ⟨names, runs⟩ := inductionHypothesis boundedBefore twinBoundedBefore
      exact runs.step acts (mover steps)
        ((parties.course act mover).recorded recorded boundedBefore)
        ((twin.course twinAct mover).recorded twinRecorded twinBoundedBefore)
        given_nodup.of_append_right twinGiven_nodup.of_append_right

end Parties
end Agenda
