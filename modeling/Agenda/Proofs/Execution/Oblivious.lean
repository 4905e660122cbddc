import Agenda.Proofs.Execution.Parties
import Agenda.Proofs.Execution.Turns
import Mathlib.Data.List.Forall2

/-!
# Programs that do not look aside

Two schedulers may differ in the items that they keep aside and in the numbers of these items.  A
program does not look aside if it neither cancels nor asks for an item that is kept aside, does not
ask how many there are, and does not act on a number that such an item is given or on the number of
items that a shutdown has released.  It may remember these numbers, so two runs of it may come to
differ in what they remember.

Two runs of such a program at such schedulers go in lockstep.  In each step they are told the same,
but for the numbers of the items that are kept aside and for what is released.
-/

namespace Agenda

variable {σ : Type → Type} {κ D ε : Type}

/-! ## Schedulers that differ aside -/

namespace Scheduler

/-- The same scheduler with other items kept aside. -/
def withAside (scheduler : Scheduler σ κ D) (detached : DetachedItems κ D) : Scheduler σ κ D :=
  { scheduler with detached }

/-- Two schedulers differ at most in the items that they keep aside and in the number for the next
one. -/
def DiffersAside (scheduler twin : Scheduler σ κ D) : Prop :=
  ∃ detached, twin = scheduler.withAside detached

/-- The items that are kept aside, the last one first. -/
def aside (scheduler : Scheduler σ κ D) : List (Item κ D) :=
  scheduler.detached.items.map Prod.snd

@[simp] theorem store_withAside (scheduler : Scheduler σ κ D) (detached : DetachedItems κ D) :
    (scheduler.withAside detached).store = scheduler.store := rfl

variable [OrderedStore σ]

/-- A handle of the store finds the same. -/
theorem remove_withAside
    (scheduler : Scheduler σ κ D)
    (detached : DetachedItems κ D)
    (handle : SlotHandle) :
    (scheduler.withAside detached).remove (.stored handle) =
      ((scheduler.remove (.stored handle)).1,
        (scheduler.remove (.stored handle)).2.withAside detached) := rfl

/-- An item is taken under the same handle, or it is refused and kept aside. -/
theorem schedule_withAside
    (scheduler : Scheduler σ κ D)
    (detached : DetachedItems κ D)
    (item : Item κ D) :
    (∃ handle next,
      scheduler.schedule item = (.stored handle, next) ∧
        (scheduler.withAside detached).schedule item =
          (.stored handle, next.withAside detached)) ∨
      ∃ number otherNumber next detachedThen,
        scheduler.schedule item = (.detached number, next) ∧
          (scheduler.withAside detached).schedule item =
            (.detached otherNumber, next.withAside detachedThen) := by
  rcases inserted : OrderedStore.insert scheduler.store item.due item with ⟨refused | handle, store⟩
  · right
    refine ⟨scheduler.detached.nextNumber, detached.nextNumber,
      (detach { scheduler with store } refused.value).2, (detached.add refused.value).2, ?_, ?_⟩
    · simp only [schedule, insert, inserted]
      rfl
    · simp only [schedule, insert, store_withAside, inserted]
      rfl
  · left
    refine ⟨handle, { scheduler with store }, ?_, ?_⟩
    · simp only [schedule, insert, inserted]
      rfl
    · simp only [schedule, insert, store_withAside, inserted]
      rfl

/-- An item is taken under the same handle, or it is refused for the same reason. -/
theorem trySchedule_withAside
    (scheduler : Scheduler σ κ D)
    (detached : DetachedItems κ D)
    (item : Item κ D) :
    ∃ result : Except SchedulerError SlotHandle, ∃ next,
      scheduler.trySchedule item = (result.map .stored, next) ∧
        (scheduler.withAside detached).trySchedule item =
          (result.map .stored, next.withAside detached) := by
  rcases inserted : OrderedStore.insert scheduler.store item.due item with ⟨refused | handle, store⟩
  · refine ⟨.error (.insertFailed refused.cause.reason), { scheduler with store }, ?_, ?_⟩
    · simp only [trySchedule, insert, inserted]
      rfl
    · simp only [trySchedule, insert, store_withAside, inserted]
      rfl
  · refine ⟨.ok handle, { scheduler with store }, ?_, ?_⟩
    · simp only [trySchedule, insert, inserted]
      rfl
    · simp only [trySchedule, insert, store_withAside, inserted]
      rfl

/-- The same item is waited for. -/
theorem awaitFirst_withAside
    (scheduler : Scheduler σ κ D)
    (detached : DetachedItems κ D)
    (now : Instant) :
    (scheduler.withAside detached).awaitFirst now =
      ((scheduler.awaitFirst now).1, (scheduler.awaitFirst now).2.withAside detached) := by
  unfold awaitFirst
  rw [store_withAside]
  split <;> rfl

theorem fireIfDue_withAside
    (scheduler : Scheduler σ κ D)
    (detached : DetachedItems κ D)
    (wait : Wait)
    (now : Instant) :
    (scheduler.withAside detached).fireIfDue wait now =
      ((scheduler.fireIfDue wait now).1, (scheduler.fireIfDue wait now).2.withAside detached) := by
  unfold fireIfDue
  rw [store_withAside]
  split
  · rfl
  · next handle due store _ =>
      dsimp only
      split
      · rcases removed : OrderedStore.remove store wait.handle with ⟨_ | item, remaining⟩ <;>
          simp only [remove, removed] <;> rfl
      · rfl

/-- What a wait has brought is settled in the same way. -/
theorem settleTurn_withAside
    (scheduler : Scheduler σ κ D)
    (detached : DetachedItems κ D)
    (wait : Wait)
    (result : PollResult)
    (now : Instant) :
    (scheduler.withAside detached).settleTurn wait result now =
      ((scheduler.settleTurn wait result now).1,
        (scheduler.settleTurn wait result now).2.withAside detached) := by
  unfold settleTurn
  split
  · split <;> rfl
  · split
    · rfl
    · exact scheduler.fireIfDue_withAside detached wait now

/-- Only the item in the store that was awaited is fired. -/
theorem handle_of_fire
    {scheduler : Scheduler σ κ D}
    {wait : Wait}
    {result : PollResult}
    {now : Instant}
    {handle : ItemHandle}
    {item : Item κ D}
    (fires : (scheduler.settleTurn wait result now).1 = .fire handle item) :
    handle = .stored wait.handle := by
  unfold settleTurn fireIfDue at fires
  split at fires
  · split at fires <;> cases fires
  · split at fires
    · cases fires
    · split at fires
      · cases fires
      · dsimp only at fires
        split at fires
        · split at fires <;> cases fires
          rfl
        · cases fires

end Scheduler

/-! ## What two runs have in common -/

namespace Event

/-- Whether an event has nothing to do with what is kept aside. -/
def isApart : Event κ D → Bool
  | detached _ _ | released _ => false
  | _ => true

/-- An event without what two runs need not have in common: the numbers of the items that are kept
aside, and the items that are released. -/
def apart : Event κ D → Event κ D
  | detached _ item => detached (.detached 0) item
  | released _ => released []
  | event => event

/-- The items that are kept aside after an event, the last one first. -/
def aside (kept : List (Item κ D)) : Event κ D → List (Item κ D)
  | detached _ item => item :: kept
  | released _ => []
  | _ => kept

theorem isApart_of_isQuiet {event : Event κ D} (quiet : event.isQuiet = true) :
    event.isApart = true := by
  cases event <;> first | rfl | cases quiet

theorem aside_of_isApart
    (kept : List (Item κ D))
    {event : Event κ D}
    (isApart : event.isApart = true) :
    event.aside kept = kept := by
  cases event <;> first | rfl | cases isApart

end Event

/-- Two histories tell the same, beginning with some items aside in the one and with others in the
other.  The items that are put aside get any numbers, and a release gives up what is kept aside
together with items that are the same in both. -/
inductive ToldAlike :
    List (Item κ D) → List (Item κ D) → List (Event κ D) → List (Event κ D) → Prop where
  | nil {kept twinKept : List (Item κ D)} : ToldAlike kept twinKept [] []
  | same {kept twinKept : List (Item κ D)} {event : Event κ D}
      {history twinHistory : List (Event κ D)} :
      event.isApart = true → ToldAlike kept twinKept history twinHistory →
      ToldAlike kept twinKept (event :: history) (event :: twinHistory)
  | detached {kept twinKept : List (Item κ D)} {number otherNumber : UInt64} {item : Item κ D}
      {history twinHistory : List (Event κ D)} :
      ToldAlike (item :: kept) (item :: twinKept) history twinHistory →
      ToldAlike kept twinKept (.detached (.detached number) item :: history)
        (.detached (.detached otherNumber) item :: twinHistory)
  | released {kept twinKept pending : List (Item κ D)} {history twinHistory : List (Event κ D)} :
      ToldAlike [] [] history twinHistory →
      ToldAlike kept twinKept (.released (pending ++ kept) :: history)
        (.released (pending ++ twinKept) :: twinHistory)

namespace ToldAlike

variable {kept twinKept : List (Item κ D)} {history twinHistory later twinLater : List (Event κ D)}

/-- Events come first that have nothing to do with what is kept aside. -/
theorem prepend
    {events : List (Event κ D)}
    (allApart : ∀ event ∈ events, event.isApart = true)
    (alike : ToldAlike kept twinKept history twinHistory) :
    ToldAlike kept twinKept (events ++ history) (events ++ twinHistory) := by
  induction events with
  | nil => exact alike
  | cons event rest inductionHypothesis =>
      exact .same (allApart event List.mem_cons_self)
        (inductionHypothesis fun other inRest => allApart other (List.mem_cons_of_mem _ inRest))

/-- What is told later is told with other items aside. -/
theorem append
    (alike : ToldAlike kept twinKept history twinHistory)
    (laterAlike : ToldAlike (history.foldl Event.aside kept)
      (twinHistory.foldl Event.aside twinKept) later twinLater) :
    ToldAlike kept twinKept (history ++ later) (twinHistory ++ twinLater) := by
  induction alike with
  | nil => exact laterAlike
  | same isApart _ inductionHypothesis =>
      rw [List.foldl_cons, List.foldl_cons, Event.aside_of_isApart _ isApart,
        Event.aside_of_isApart _ isApart] at laterAlike
      exact .same isApart (inductionHypothesis laterAlike)
  | detached _ inductionHypothesis => exact .detached (inductionHypothesis laterAlike)
  | released _ inductionHypothesis => exact .released (inductionHypothesis laterAlike)

theorem apart_eq (alike : ToldAlike kept twinKept history twinHistory) :
    twinHistory.map Event.apart = history.map Event.apart := by
  induction alike with
  | nil => rfl
  | same _ _ inductionHypothesis => rw [List.map_cons, List.map_cons, inductionHypothesis]
  | detached _ inductionHypothesis =>
      rw [List.map_cons, List.map_cons, inductionHypothesis]
      rfl
  | released _ inductionHypothesis =>
      rw [List.map_cons, List.map_cons, inductionHypothesis]
      rfl

end ToldAlike

/-- Only items in the store are dispatched in a history. -/
def DispatchesStored (history : List (Event κ D)) : Prop :=
  ∀ callback told, .dispatched callback told ∈ history → told.handle.isDegenerate = false

theorem DispatchesStored.append
    {history later : List (Event κ D)}
    (stored : DispatchesStored history)
    (laterStored : DispatchesStored later) :
    DispatchesStored (history ++ later) := by
  intro callback told called
  rcases List.mem_append.mp called with before | after
  · exact stored callback told before
  · exact laterStored callback told after

theorem dispatchesStored_of_quiet
    {events : List (Event κ D)}
    (quiet : ∀ event ∈ events, event.isQuiet = true) :
    DispatchesStored events :=
  fun _ _ called => nomatch quiet _ called

/-- A question looks aside if its answer depends on what is kept aside. -/
def Query.looksAside : Query → Bool
  | .contains handle => handle.isDegenerate
  | .detachedCount => true
  | .size | .pollCeiling => false

/-- Two states around a scheduler are the same but for what the programs remember. -/
structure Host.Resembles (S : ε → ε → Prop) (host other : Host ε) : Prop where
  /-- The clocks show the same. -/
  clock_eq : other.clock = host.clock
  /-- The same requests are raised. -/
  signals_eq : other.signals = host.signals
  /-- What the programs remember is related. -/
  rest : S host.rest other.rest

/-- Hooks keep the surroundings resembling. -/
structure Hooks.Resemble (S : ε → ε → Prop) (hooks other : Hooks ε) : Prop where
  /-- Rotating the log does. -/
  rotateLog : ∀ now host changed, host.Resembles S changed →
    (hooks.rotateLog now host).Resembles S (other.rotateLog now changed)
  /-- Writing the status does. -/
  updateStatus : ∀ host changed, host.Resembles S changed →
    (hooks.updateStatus host).Resembles S (other.updateStatus changed)

/-- Pollers bring the same and keep the surroundings resembling. -/
def PollersResemble (S : ε → ε → Prop) (poller other : Poller ε) : Prop :=
  ∀ timeout host changed, host.Resembles S changed →
    (other timeout changed).1 = (poller timeout host).1 ∧
      (poller timeout host).2.Resembles S (other timeout changed).2

/-- Two routines do the same without looking aside: whatever number an item gets that is kept aside,
and however many items a shutdown releases, they go on in the same way. -/
inductive Routine.Oblivious (S : ε → ε → Prop) : Routine κ D ε → Routine κ D ε → Prop where
  | done : Oblivious S .done .done
  | observe {next other : Host ε → Routine κ D ε} :
      (∀ host changed, host.Resembles S changed → Oblivious S (next host) (other changed)) →
      Oblivious S (.observe next) (.observe other)
  | update {change otherChange : Host ε → Host ε} {next other : Routine κ D ε} :
      (∀ host changed, host.Resembles S changed →
        (change host).Resembles S (otherChange changed)) →
      Oblivious S next other → Oblivious S (.update change next) (.update otherChange other)
  | ask {query : Query} {next other : query.Reply → Routine κ D ε} :
      query.looksAside = false → (∀ reply, Oblivious S (next reply) (other reply)) →
      Oblivious S (.ask query next) (.ask query other)
  | nextDue {next other : Option Instant → Routine κ D ε} :
      (∀ due, Oblivious S (next due) (other due)) → Oblivious S (.nextDue next) (.nextDue other)
  | schedule {delay : Delay} {callback : κ} {data : D} {next other : ItemHandle → Routine κ D ε} :
      (∀ handle, Oblivious S (next (.stored handle)) (other (.stored handle))) →
      (∀ number otherNumber,
        Oblivious S (next (.detached number)) (other (.detached otherNumber))) →
      Oblivious S (.schedule delay callback data next) (.schedule delay callback data other)
  | trySchedule {delay : Delay} {callback : κ} {data : D}
      {next other : Except SchedulerError ItemHandle → Routine κ D ε} :
      (∀ handle, Oblivious S (next (.ok (.stored handle))) (other (.ok (.stored handle)))) →
      (∀ error, Oblivious S (next (.error error)) (other (.error error))) →
      Oblivious S (.trySchedule delay callback data next) (.trySchedule delay callback data other)
  | cancel {handle : SlotHandle} {next other : Except SchedulerError Unit → Routine κ D ε} :
      (∀ result, Oblivious S (next result) (other result)) →
      Oblivious S (.cancel (.stored handle) next) (.cancel (.stored handle) other)
  | shutdown {next other : Nat → Routine κ D ε} :
      (∀ count otherCount, Oblivious S (next count) (other otherCount)) →
      Oblivious S (.shutdown next) (.shutdown other)
  | runLoop {hooks otherHooks : Hooks ε} {poller otherPoller : Poller ε}
      {next other : LoopExit → Routine κ D ε} :
      hooks.Resemble S otherHooks → PollersResemble S poller otherPoller →
      (∀ exit, Oblivious S (next exit) (other exit)) →
      Oblivious S (.runLoop hooks poller next) (.runLoop otherHooks otherPoller other)
  | runShared {hooks otherHooks : Hooks ε} {poller otherPoller : Poller ε}
      {others othersThen : UInt64 → Routine κ D ε} {next other : LoopExit → Routine κ D ε} :
      hooks.Resemble S otherHooks → PollersResemble S poller otherPoller →
      (∀ timeout, Oblivious S (others timeout) (othersThen timeout)) →
      (∀ exit, Oblivious S (next exit) (other exit)) →
      Oblivious S (.runShared hooks poller others next)
        (.runShared otherHooks otherPoller othersThen other)

/-- Callbacks of items in the store do not look aside. -/
def ActsOblivious (S : ε → ε → Prop) (act otherAct : Interpretation κ D ε) : Prop :=
  ∀ callback told, told.handle.isDegenerate = false →
    (act callback told).Oblivious S (otherAct callback told)

/-- Two tasks do the same without looking aside. -/
inductive Task.Oblivious (S : ε → ε → Prop) : Task κ D ε → Task κ D ε → Prop where
  | routine {routine other : Routine κ D ε} :
      routine.Oblivious S other → Oblivious S (.routine routine) (.routine other)
  | turns {hooks otherHooks : Hooks ε} {poller otherPoller : Poller ε}
      {next other : LoopExit → Routine κ D ε} :
      hooks.Resemble S otherHooks → PollersResemble S poller otherPoller →
      (∀ exit, (next exit).Oblivious S (other exit)) →
      Oblivious S (.turns hooks poller next) (.turns otherHooks otherPoller other)
  | sharedTurns {hooks otherHooks : Hooks ε} {poller otherPoller : Poller ε}
      {others othersThen : UInt64 → Routine κ D ε} {next other : LoopExit → Routine κ D ε} :
      hooks.Resemble S otherHooks → PollersResemble S poller otherPoller →
      (∀ timeout, (others timeout).Oblivious S (othersThen timeout)) →
      (∀ exit, (next exit).Oblivious S (other exit)) →
      Oblivious S (.sharedTurns hooks poller others next)
        (.sharedTurns otherHooks otherPoller othersThen other)
  | sharedSettle {wait : Wait} {hooks otherHooks : Hooks ε} {poller otherPoller : Poller ε}
      {others othersThen : UInt64 → Routine κ D ε} {next other : LoopExit → Routine κ D ε} :
      hooks.Resemble S otherHooks → PollersResemble S poller otherPoller →
      (∀ timeout, (others timeout).Oblivious S (othersThen timeout)) →
      (∀ exit, (next exit).Oblivious S (other exit)) →
      Oblivious S (.sharedSettle wait hooks poller others next)
        (.sharedSettle wait otherHooks otherPoller othersThen other)

namespace Execution

/-- Two executions are the same but for what is kept aside and what the programs remember. -/
structure Resembles (S : ε → ε → Prop) (execution twin : Execution σ κ D ε) : Prop where
  /-- The schedulers differ aside only. -/
  schedulers : execution.scheduler.DiffersAside twin.scheduler
  /-- The surroundings resemble each other. -/
  hosts : execution.host.Resembles S twin.host
  /-- The tasks do the same without looking aside. -/
  tasks : List.Forall₂ (Task.Oblivious S) execution.tasks twin.tasks

/-- Two steps that begin with some items aside are the same but for what is kept aside, and no
callback of such an item is called. -/
structure OutcomesResemble (S : ε → ε → Prop) (kept twinKept : List (Item κ D))
    (outcome twin : Outcome σ κ D ε) : Prop where
  /-- The same is told. -/
  told : ToldAlike kept twinKept outcome.1 twin.1
  /-- Only items in the store are dispatched. -/
  stored : DispatchesStored outcome.1
  /-- The executions still resemble each other. -/
  executions : outcome.2.Resembles S twin.2

variable {S : ε → ε → Prop} {kept twinKept : List (Item κ D)}
variable {act twinAct : Interpretation κ D ε}
variable {scheduler : Scheduler σ κ D} {detached : DetachedItems κ D} {host twinHost : Host ε}
variable {tasks twinTasks : List (Task κ D ε)}

/-- Steps that tell nothing. -/
theorem OutcomesResemble.of_silent
    {execution twin : Execution σ κ D ε}
    (executions : execution.Resembles S twin) :
    OutcomesResemble S kept twinKept ([], execution) ([], twin) where
  told := .nil
  stored := nofun
  executions := executions

/-- Events come first that tell nothing of items. -/
theorem OutcomesResemble.prepend
    {events : List (Event κ D)}
    (quiet : ∀ event ∈ events, event.isQuiet = true)
    {outcome twin : Outcome σ κ D ε}
    (outcomes : OutcomesResemble S kept twinKept outcome twin) :
    OutcomesResemble S kept twinKept (events ++ outcome.1, outcome.2)
      (events ++ twin.1, twin.2) where
  told := outcomes.told.prepend fun event told => Event.isApart_of_isQuiet (quiet event told)
  stored := (dispatchesStored_of_quiet quiet).append outcomes.stored
  executions := outcomes.executions

/-- Steps that tell the same, and nothing of items. -/
theorem OutcomesResemble.of_quiet
    {events : List (Event κ D)}
    (quiet : ∀ event ∈ events, event.isQuiet = true)
    {execution twin : Execution σ κ D ε}
    (executions : execution.Resembles S twin) :
    OutcomesResemble S kept twinKept (events, execution) (events, twin) := by
  have resemble : OutcomesResemble S kept twinKept (events ++ [], execution)
      (events ++ [], twin) := .prepend quiet (.of_silent executions)
  rwa [List.append_nil] at resemble

/-- Steps that tell of one item, which is not dispatched. -/
theorem OutcomesResemble.of_event
    {event other : Event κ D}
    (alike : ToldAlike kept twinKept [event] [other])
    (notCalled : event.call? = none)
    {execution twin : Execution σ κ D ε}
    (executions : execution.Resembles S twin) :
    OutcomesResemble S kept twinKept ([event], execution) ([other], twin) where
  told := alike
  stored callback told called := by
    rw [← List.mem_singleton.mp called] at notCalled
    cases notCalled
  executions := executions

/-! ## Dispatches and the ends of turns -/

section Ends

variable (acts : ActsOblivious S act twinAct) (hosts : host.Resembles S twinHost)
variable (below : List.Forall₂ (Task.Oblivious S) tasks twinTasks)
include acts hosts below

theorem dispatch_resembles
    (scheduler : Scheduler σ κ D)
    (detached : DetachedItems κ D)
    {handle : ItemHandle}
    (isStored : handle.isDegenerate = false)
    (item : Item κ D)
    (reason : Reason) :
    OutcomesResemble S kept twinKept (dispatch act scheduler host handle item reason tasks)
      (dispatch twinAct (scheduler.withAside detached) twinHost handle item reason twinTasks) where
  told := .same rfl .nil
  stored _ _ called := by
    cases List.mem_singleton.mp called
    exact isStored
  executions := ⟨⟨detached, rfl⟩, hosts, .cons (.routine (acts _ _ isStored)) below⟩

theorem afterTurn_resembles
    (scheduler : Scheduler σ κ D)
    (detached : DetachedItems κ D)
    {settlement : Settlement κ D}
    (firesStored : ∀ handle item, settlement = .fire handle item → handle.isDegenerate = false)
    {loop otherLoop : Task κ D ε}
    (loops : loop.Oblivious S otherLoop)
    {next otherNext : LoopExit → Routine κ D ε}
    (nexts : ∀ exit, (next exit).Oblivious S (otherNext exit)) :
    OutcomesResemble S kept twinKept (afterTurn act scheduler host settlement loop next tasks)
      (afterTurn twinAct (scheduler.withAside detached) twinHost settlement otherLoop otherNext
        twinTasks) := by
  cases settlement with
  | again => exact .of_silent ⟨⟨detached, rfl⟩, hosts, .cons loops below⟩
  | leave exit =>
      exact .of_quiet (List.forall_mem_singleton.mpr rfl)
        ⟨⟨detached, rfl⟩, hosts, .cons (.routine (nexts exit)) below⟩
  | fire handle item =>
      exact dispatch_resembles acts hosts (.cons loops below) scheduler detached
        (firesStored handle item rfl) item .timed

variable [OrderedStore σ]

/-- What a wait has brought is settled alike. -/
theorem settle_resembles
    (scheduler : Scheduler σ κ D)
    (detached : DetachedItems κ D)
    (wait : Wait)
    {poller otherPoller : Poller ε}
    (pollers : PollersResemble S poller otherPoller)
    {loop otherLoop : Task κ D ε}
    (loops : loop.Oblivious S otherLoop)
    {next otherNext : LoopExit → Routine κ D ε}
    (nexts : ∀ exit, (next exit).Oblivious S (otherNext exit)) :
    let twin := scheduler.withAside detached
    let polled := poller wait.timeout host
    let settled := scheduler.settleTurn wait polled.1 polled.2.clock.now
    let ended := afterTurn act settled.2 polled.2 settled.1 loop next tasks
    let twinPolled := otherPoller wait.timeout twinHost
    let twinSettled := twin.settleTurn wait twinPolled.1 twinPolled.2.clock.now
    let twinEnded := afterTurn twinAct twinSettled.2 twinPolled.2 twinSettled.1 otherLoop otherNext
      twinTasks
    OutcomesResemble S kept twinKept (.polled wait.timeout polled.1 :: ended.1, ended.2)
      (.polled wait.timeout twinPolled.1 :: twinEnded.1, twinEnded.2) := by
  obtain ⟨result_eq, polledHosts⟩ := pollers wait.timeout host twinHost hosts
  dsimp only
  rw [result_eq, polledHosts.clock_eq, Scheduler.settleTurn_withAside]
  refine .prepend (List.forall_mem_singleton.mpr rfl)
    (afterTurn_resembles acts polledHosts below _ detached (fun handle item fires => ?_) loops nexts)
  rw [Scheduler.handle_of_fire fires]
  rfl

end Ends

variable [OrderedStore σ]

/-! ## Requests -/

/-- A routine that does not look aside makes the same request in both runs. -/
theorem request_resembles
    (acts : ActsOblivious S act twinAct)
    (scheduler : Scheduler σ κ D)
    (detached : DetachedItems κ D)
    (hosts : host.Resembles S twinHost)
    (below : List.Forall₂ (Task.Oblivious S) tasks twinTasks)
    {routine other : Routine κ D ε}
    (routines : routine.Oblivious S other) :
    OutcomesResemble S scheduler.aside (scheduler.withAside detached).aside
      (request act scheduler host tasks routine)
      (request twinAct (scheduler.withAside detached) twinHost twinTasks other) := by
  have same : scheduler.DiffersAside (scheduler.withAside detached) := ⟨detached, rfl⟩
  cases routines with
  | done => exact .of_silent ⟨same, hosts, below⟩
  | observe next => exact .of_silent ⟨same, hosts, .cons (.routine (next _ _ hosts)) below⟩
  | update keeps next =>
      exact .of_silent ⟨same, keeps _ _ hosts, .cons (.routine next) below⟩
  | @ask query _ _ notAside next =>
      have reply_eq : (scheduler.withAside detached).reply query = scheduler.reply query := by
        cases query with
        | contains handle =>
            cases handle with
            | stored handle => rfl
            | detached number => cases notAside
        | detachedCount => cases notAside
        | size | pollCeiling => rfl
      refine .of_silent ⟨same, hosts, .cons (.routine ?_) below⟩
      rw [reply_eq]
      exact next _
  | nextDue next =>
      exact .of_silent ⟨⟨detached, rfl⟩, hosts, .cons (.routine (next _)) below⟩
  | @schedule delay callback data next otherNext nexts nextsAside =>
      have itemAfter_eq : Scheduler.itemAfter twinHost.clock.now delay callback data =
          Scheduler.itemAfter host.clock.now delay callback data := by
        rw [hosts.clock_eq]
      rcases scheduler.schedule_withAside detached
          (Scheduler.itemAfter host.clock.now delay callback data) with
        ⟨handle, reached, scheduled, twinScheduled⟩ |
          ⟨number, otherNumber, reached, detachedThen, scheduled, twinScheduled⟩
      · simp only [request, itemAfter_eq, scheduled, twinScheduled]
        exact .of_event (.same rfl .nil) rfl ⟨⟨detached, rfl⟩, hosts, .cons (.routine (nexts handle)) below⟩
      · simp only [request, itemAfter_eq, scheduled, twinScheduled]
        exact .of_event (.detached .nil) rfl
          ⟨⟨detachedThen, rfl⟩, hosts, .cons (.routine (nextsAside number otherNumber)) below⟩
  | @trySchedule delay callback data next otherNext nexts failures =>
      have itemAfter_eq : Scheduler.itemAfter twinHost.clock.now delay callback data =
          Scheduler.itemAfter host.clock.now delay callback data := by
        rw [hosts.clock_eq]
      obtain ⟨result, reached, scheduled, twinScheduled⟩ := scheduler.trySchedule_withAside detached
        (Scheduler.itemAfter host.clock.now delay callback data)
      simp only [request, itemAfter_eq, scheduled, twinScheduled]
      cases result with
      | error error =>
          exact .of_event (.same rfl .nil) rfl
            ⟨⟨detached, rfl⟩, hosts, .cons (.routine (failures error)) below⟩
      | ok handle =>
          exact .of_event (.same rfl .nil) rfl ⟨⟨detached, rfl⟩, hosts, .cons (.routine (nexts handle)) below⟩
  | @cancel handle next otherNext nexts =>
      simp only [request, Scheduler.remove_withAside]
      rcases scheduler.remove (.stored handle) with ⟨_ | item, remaining⟩
      · exact .of_event (.same rfl .nil) rfl ⟨⟨detached, rfl⟩, hosts, .cons (.routine (nexts _)) below⟩
      · exact dispatch_resembles acts hosts (.cons (.routine (nexts _)) below) remaining detached
          rfl item .abort
  | shutdown nexts =>
      exact .of_event (.released .nil) rfl
        ⟨⟨detached.removeAll.2, rfl⟩, hosts, .cons (.routine (nexts _ _)) below⟩
  | runLoop hooks pollers next =>
      exact .of_silent ⟨same, hosts, .cons (.turns hooks pollers next) below⟩
  | runShared hooks pollers others next =>
      exact .of_silent ⟨same, hosts, .cons (.sharedTurns hooks pollers others next) below⟩

/-! ## Turns -/

theorem planEvents_eq
    (hosts : host.Resembles S twinHost)
    (rotatedAt : Option Instant) :
    (planEvents twinHost rotatedAt : List (Event κ D)) = planEvents host rotatedAt := by
  unfold planEvents
  rw [hosts.clock_eq, hosts.signals_eq]

/-- The first halves of two turns come to the same decision. -/
theorem planTurn_resembles
    (scheduler : Scheduler σ κ D)
    (detached : DetachedItems κ D)
    (hosts : host.Resembles S twinHost)
    {hooks otherHooks : Hooks ε}
    (hooksResemble : hooks.Resemble S otherHooks) :
    ∃ plan rotatedAt reached hostThen twinHostThen,
      scheduler.planTurn hooks host = ⟨plan, rotatedAt, reached, hostThen⟩ ∧
        (scheduler.withAside detached).planTurn otherHooks twinHost =
          ⟨plan, rotatedAt, reached.withAside detached, twinHostThen⟩ ∧
        hostThen.Resembles S twinHostThen := by
  rw [Scheduler.planTurn, Scheduler.planTurn, hosts.signals_eq, hosts.clock_eq]
  cases host.signals.stop? with
  | some exit => exact ⟨_, _, _, _, _, rfl, rfl, hosts⟩
  | none =>
      have taken : Host.Resembles S
          { host with signals := host.signals.takeLogRotation.2 }
          { twinHost with signals := twinHost.signals.takeLogRotation.2 } :=
        ⟨hosts.clock_eq, by rw [hosts.signals_eq], hosts.rest⟩
      obtain ⟨rotatedAt_eq, served⟩ := Host.serveRotation_related hooksResemble.rotateLog
        hooksResemble.updateStatus hosts taken (congrArg Signals.logRotation hosts.signals_eq)
        (congrArg Clock.now hosts.clock_eq)
      refine ⟨_, _, _, _, _, rfl, ?_, served⟩
      simp only [rotatedAt_eq, Scheduler.awaitFirst_withAside]

omit [OrderedStore σ] in
/-- A loop is left alike. -/
theorem leave_resembles
    {hostThen twinHostThen : Host ε}
    (hostsThen : hostThen.Resembles S twinHostThen)
    (below : List.Forall₂ (Task.Oblivious S) tasks twinTasks)
    {next otherNext : LoopExit → Routine κ D ε}
    (nexts : ∀ exit, (next exit).Oblivious S (otherNext exit))
    (host : Host ε)
    (rotatedAt : Option Instant)
    (reached : Scheduler σ κ D)
    (detached : DetachedItems κ D)
    (exit : LoopExit) :
    OutcomesResemble S kept twinKept
      (planEvents host rotatedAt ++ [.exited exit],
        ⟨reached, hostThen, .routine (next exit) :: tasks⟩)
      (planEvents host rotatedAt ++ [.exited exit],
        ⟨reached.withAside detached, twinHostThen, .routine (otherNext exit) :: twinTasks⟩) := by
  refine .of_quiet ?_ ⟨⟨detached, rfl⟩, hostsThen, .cons (.routine (nexts exit)) below⟩
  exact List.forall_mem_append.mpr ⟨planEvents_quiet host _, List.forall_mem_singleton.mpr rfl⟩

section Turns

variable (hosts : host.Resembles S twinHost)
variable (below : List.Forall₂ (Task.Oblivious S) tasks twinTasks)
variable {hooks otherHooks : Hooks ε} (hooksResemble : hooks.Resemble S otherHooks)
variable {poller otherPoller : Poller ε} (pollers : PollersResemble S poller otherPoller)
variable {others othersThen : UInt64 → Routine κ D ε}
variable (othersOblivious : ∀ timeout, (others timeout).Oblivious S (othersThen timeout))
variable {next otherNext : LoopExit → Routine κ D ε}
variable (nexts : ∀ exit, (next exit).Oblivious S (otherNext exit))
include hosts below hooksResemble pollers nexts

theorem turn_resembles
    (acts : ActsOblivious S act twinAct)
    (scheduler : Scheduler σ κ D)
    (detached : DetachedItems κ D) :
    OutcomesResemble S kept twinKept (turn act scheduler host hooks poller next tasks)
      (turn twinAct (scheduler.withAside detached) twinHost otherHooks otherPoller otherNext
        twinTasks) := by
  obtain ⟨plan, rotatedAt, reached, hostThen, twinHostThen, planned, twinPlanned, hostsThen⟩ :=
    planTurn_resembles scheduler detached hosts hooksResemble
  unfold turn
  rw [planned, twinPlanned]
  dsimp only
  rw [planEvents_eq hosts]
  cases plan with
  | leave exit =>
      exact leave_resembles hostsThen below nexts host rotatedAt reached detached exit
  | await wait =>
      exact .prepend (planEvents_quiet host _)
        (settle_resembles acts hostsThen below reached detached wait pollers
          (.turns hooksResemble pollers nexts) nexts)

include othersOblivious in
theorem sharedPlan_resembles
    (scheduler : Scheduler σ κ D)
    (detached : DetachedItems κ D) :
    OutcomesResemble S kept twinKept (sharedPlan scheduler host hooks poller others next tasks)
      (sharedPlan (scheduler.withAside detached) twinHost otherHooks otherPoller othersThen
        otherNext twinTasks) := by
  obtain ⟨plan, rotatedAt, reached, hostThen, twinHostThen, planned, twinPlanned, hostsThen⟩ :=
    planTurn_resembles scheduler detached hosts hooksResemble
  unfold sharedPlan
  rw [planned, twinPlanned]
  dsimp only
  rw [planEvents_eq hosts]
  cases plan with
  | leave exit =>
      exact leave_resembles hostsThen below nexts host rotatedAt reached detached exit
  | await wait =>
      exact .of_quiet (planEvents_quiet host _) ⟨⟨detached, rfl⟩, hostsThen,
        .cons (.routine (othersOblivious _))
          (.cons (.sharedSettle hooksResemble pollers othersOblivious nexts) below)⟩

end Turns

/-- Executions that resemble each other make the same step. -/
theorem step_resembles
    (acts : ActsOblivious S act twinAct)
    {execution twin : Execution σ κ D ε}
    (executions : execution.Resembles S twin) :
    OutcomesResemble S execution.scheduler.aside twin.scheduler.aside (execution.step act)
      (twin.step twinAct) := by
  obtain ⟨scheduler, host, tasks⟩ := execution
  obtain ⟨twinScheduler, twinHost, twinTasks⟩ := twin
  obtain ⟨⟨detached, rfl⟩, hosts, allTasks⟩ := executions
  cases allTasks with
  | nil => exact .of_silent ⟨⟨detached, rfl⟩, hosts, .nil⟩
  | cons top below =>
      cases top with
      | routine routines => exact request_resembles acts scheduler detached hosts below routines
      | turns hooks pollers nexts =>
          exact turn_resembles hosts below hooks pollers nexts acts scheduler detached
      | sharedTurns hooks pollers others nexts =>
          exact sharedPlan_resembles hosts below hooks pollers others nexts scheduler detached
      | sharedSettle hooks pollers others nexts =>
          exact settle_resembles acts hosts below scheduler detached _ pollers
            (.sharedTurns hooks pollers others nexts) nexts

end Execution

/-! ## Runs -/

namespace Parties

variable [OrderedStore σ] {S : ε → ε → Prop} {act twinAct : Interpretation κ D ε}
variable {parties twin : Parties σ κ D ε}

/-- Parties are the same but for what is kept aside and what the programs remember. -/
structure Resemble (S : ε → ε → Prop) (parties twin : Parties σ κ D ε) : Prop where
  /-- The schedulers differ aside only. -/
  schedulers : parties.scheduler.DiffersAside twin.scheduler
  /-- The surroundings resemble each other. -/
  hosts : parties.host.Resembles S twin.host
  /-- The tasks do the same without looking aside. -/
  tasks : ∀ party, List.Forall₂ (Task.Oblivious S) (parties.tasks party) (twin.tasks party)

omit [OrderedStore σ] in
theorem Resemble.execution (resemble : parties.Resemble S twin) (party : Nat) :
    (parties.execution party).Resembles S (twin.execution party) :=
  ⟨resemble.schedulers, resemble.hosts, resemble.tasks party⟩

/-- Resembling parties still resemble each other after a step. -/
theorem Resemble.step
    (resemble : parties.Resemble S twin)
    (acts : ActsOblivious S act twinAct)
    (party : Nat) :
    (parties.step act party).2.Resemble S (twin.step twinAct party).2 := by
  have outcomes := Execution.step_resembles acts (resemble.execution party)
  exact ⟨outcomes.executions.schedulers, outcomes.executions.hosts,
    related_tasks_step outcomes.executions.tasks resemble.tasks⟩

/-- Resembling parties resemble each other along their runs. -/
theorem Resemble.after
    (resemble : parties.Resemble S twin)
    (acts : ActsOblivious S act twinAct)
    (mover : Nat → Nat)
    (steps : Nat) :
    (parties.after act mover steps).Resemble S (twin.after twinAct mover steps) := by
  induction steps with
  | zero => exact resemble
  | succ steps inductionHypothesis => exact inductionHypothesis.step acts (mover steps)

/-- Resembling parties make the same steps. -/
theorem Resemble.outcomes
    (resemble : parties.Resemble S twin)
    (acts : ActsOblivious S act twinAct)
    (mover : Nat → Nat)
    (steps : Nat) :
    Execution.OutcomesResemble S (parties.after act mover steps).scheduler.aside
      (twin.after twinAct mover steps).scheduler.aside
      (((parties.after act mover steps).execution (mover steps)).step act)
      (((twin.after twinAct mover steps).execution (mover steps)).step twinAct) :=
  Execution.step_resembles acts ((resemble.after acts mover steps).execution (mover steps))

end Parties
end Agenda
