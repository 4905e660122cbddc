import Agenda.Proofs.Execution.Handles
import Agenda.Proofs.Scheduler.Twins

/-!
# Runs that differ in the names of items

Programs get to know handles from the answers to their requests and from what their callbacks are
told.  Two programs correspond if they make corresponding requests as long as they are given
handles of the same items: they may compare handles and ask of which kind they are, and nothing
else is known of a handle.  A program corresponds to itself if it does so much only.

Two runs of corresponding programs at schedulers that hold the same items go in lockstep.  In each
step they are told the same but for the names of items, and new names are paired.
-/

namespace Agenda

variable {κ D ε : Type}

/-! ## What corresponds -/

/-- Two states around a scheduler correspond. -/
structure Host.Corresponds (C : Correspondence κ D ε) (names : Naming) (host other : Host ε) :
    Prop where
  /-- The clocks show the same. -/
  clock_eq : other.clock = host.clock
  /-- The same requests are raised. -/
  signals_eq : other.signals = host.signals
  /-- The rest corresponds. -/
  rest : C.rest names host.rest other.rest

/-- Hooks keep the surroundings corresponding. -/
structure Hooks.Correspond (C : Correspondence κ D ε) (names : Naming) (hooks other : Hooks ε) :
    Prop where
  /-- Rotating the log does. -/
  rotateLog : ∀ more, names ≤ more → ∀ now host changed, host.Corresponds C more changed →
    (hooks.rotateLog now host).Corresponds C more (other.rotateLog now changed)
  /-- Writing the status does. -/
  updateStatus : ∀ more, names ≤ more → ∀ host changed, host.Corresponds C more changed →
    (hooks.updateStatus host).Corresponds C more (other.updateStatus changed)

/-- Pollers bring the same and keep the surroundings corresponding. -/
def PollersCorrespond (C : Correspondence κ D ε) (names : Naming) (poller other : Poller ε) :
    Prop :=
  ∀ more, names ≤ more → ∀ timeout host changed, host.Corresponds C more changed →
    (other timeout changed).1 = (poller timeout host).1 ∧
      (poller timeout host).2.Corresponds C more (other timeout changed).2

/-- Two callbacks are told the same. -/
structure Dispatch.Corresponds (C : Correspondence κ D ε) (names : Naming)
    (told other : Dispatch D) : Prop where
  /-- The handles name the same item. -/
  paired : names.Pairs told.handle other.handle
  /-- The items were due at the same instant. -/
  due_eq : other.due = told.due
  /-- They are called for the same reason. -/
  reason_eq : other.reason = told.reason
  /-- The same is reserved for an overrun. -/
  latency_eq : other.latency = told.latency
  /-- The data correspond. -/
  data : C.data names told.data other.data

/-- Two routines make corresponding requests, whatever handles are given out to them. -/
inductive Routine.Corresponds (C : Correspondence κ D ε) :
    Naming → Routine κ D ε → Routine κ D ε → Prop where
  | done {names : Naming} : Corresponds C names .done .done
  | observe {names : Naming} {next other : Host ε → Routine κ D ε} :
      (∀ more, names ≤ more → ∀ host changed, host.Corresponds C more changed →
        Corresponds C more (next host) (other changed)) →
      Corresponds C names (.observe next) (.observe other)
  | update {names : Naming} {change otherChange : Host ε → Host ε} {next other : Routine κ D ε} :
      (∀ more, names ≤ more → ∀ host changed, host.Corresponds C more changed →
        (change host).Corresponds C more (otherChange changed)) →
      Corresponds C names next other →
      Corresponds C names (.update change next) (.update otherChange other)
  | ask {names : Naming} {query : Query} {next other : query.Reply → Routine κ D ε} :
      (∀ handle, query ≠ .contains handle) →
      (∀ reply, Corresponds C names (next reply) (other reply)) →
      Corresponds C names (.ask query next) (.ask query other)
  | contains {names : Naming} {handle otherHandle : ItemHandle}
      {next other : Bool → Routine κ D ε} :
      names.Pairs handle otherHandle →
      (∀ answer, Corresponds C names (next answer) (other answer)) →
      Corresponds C names (.ask (.contains handle) next) (.ask (.contains otherHandle) other)
  | nextDue {names : Naming} {next other : Option Instant → Routine κ D ε} :
      (∀ due, Corresponds C names (next due) (other due)) →
      Corresponds C names (.nextDue next) (.nextDue other)
  | schedule {names : Naming} {delay : Delay} {callback otherCallback : κ} {data otherData : D}
      {next other : ItemHandle → Routine κ D ε} :
      C.callback names callback otherCallback → C.data names data otherData →
      (∀ more, names ≤ more → ∀ handle otherHandle, more.Pairs handle otherHandle →
        Corresponds C more (next handle) (other otherHandle)) →
      Corresponds C names (.schedule delay callback data next)
        (.schedule delay otherCallback otherData other)
  | trySchedule {names : Naming} {delay : Delay} {callback otherCallback : κ}
      {data otherData : D} {next other : Except SchedulerError ItemHandle → Routine κ D ε} :
      C.callback names callback otherCallback → C.data names data otherData →
      (∀ more, names ≤ more → ∀ handle otherHandle, more.Pairs handle otherHandle →
        Corresponds C more (next (.ok handle)) (other (.ok otherHandle))) →
      (∀ error, Corresponds C names (next (.error error)) (other (.error error))) →
      Corresponds C names (.trySchedule delay callback data next)
        (.trySchedule delay otherCallback otherData other)
  | cancel {names : Naming} {handle otherHandle : ItemHandle}
      {next other : Except SchedulerError Unit → Routine κ D ε} :
      names.Pairs handle otherHandle →
      Corresponds C names (next (.ok ())) (other (.ok ())) →
      Corresponds C names (next (.error (.unknownItem handle)))
        (other (.error (.unknownItem otherHandle))) →
      Corresponds C names (.cancel handle next) (.cancel otherHandle other)
  | shutdown {names : Naming} {next other : Nat → Routine κ D ε} :
      (∀ count, Corresponds C names (next count) (other count)) →
      Corresponds C names (.shutdown next) (.shutdown other)
  | runLoop {names : Naming} {hooks otherHooks : Hooks ε} {poller otherPoller : Poller ε}
      {next other : LoopExit → Routine κ D ε} :
      hooks.Correspond C names otherHooks → PollersCorrespond C names poller otherPoller →
      (∀ exit, Corresponds C names (next exit) (other exit)) →
      Corresponds C names (.runLoop hooks poller next) (.runLoop otherHooks otherPoller other)
  | runShared {names : Naming} {hooks otherHooks : Hooks ε} {poller otherPoller : Poller ε}
      {others othersThen : UInt64 → Routine κ D ε} {next other : LoopExit → Routine κ D ε} :
      hooks.Correspond C names otherHooks → PollersCorrespond C names poller otherPoller →
      (∀ timeout, Corresponds C names (others timeout) (othersThen timeout)) →
      (∀ exit, Corresponds C names (next exit) (other exit)) →
      Corresponds C names (.runShared hooks poller others next)
        (.runShared otherHooks otherPoller othersThen other)

/-- Corresponding codes stand for corresponding routines. -/
def ActsCorrespond (C : Correspondence κ D ε) (act otherAct : Interpretation κ D ε) : Prop :=
  ∀ names callback otherCallback told otherTold, C.callback names callback otherCallback →
    told.Corresponds C names otherTold →
    (act callback told).Corresponds C names (otherAct otherCallback otherTold)

/-- Two tasks correspond. -/
inductive Task.Corresponds (C : Correspondence κ D ε) (names : Naming) :
    Task κ D ε → Task κ D ε → Prop where
  | routine {routine other : Routine κ D ε} :
      routine.Corresponds C names other → Corresponds C names (.routine routine) (.routine other)
  | turns {hooks otherHooks : Hooks ε} {poller otherPoller : Poller ε}
      {next other : LoopExit → Routine κ D ε} :
      hooks.Correspond C names otherHooks → PollersCorrespond C names poller otherPoller →
      (∀ exit, (next exit).Corresponds C names (other exit)) →
      Corresponds C names (.turns hooks poller next) (.turns otherHooks otherPoller other)
  | sharedTurns {hooks otherHooks : Hooks ε} {poller otherPoller : Poller ε}
      {others othersThen : UInt64 → Routine κ D ε} {next other : LoopExit → Routine κ D ε} :
      hooks.Correspond C names otherHooks → PollersCorrespond C names poller otherPoller →
      (∀ timeout, (others timeout).Corresponds C names (othersThen timeout)) →
      (∀ exit, (next exit).Corresponds C names (other exit)) →
      Corresponds C names (.sharedTurns hooks poller others next)
        (.sharedTurns otherHooks otherPoller othersThen other)
  | sharedSettle {wait otherWait : Wait} {hooks otherHooks : Hooks ε}
      {poller otherPoller : Poller ε} {others othersThen : UInt64 → Routine κ D ε}
      {next other : LoopExit → Routine κ D ε} :
      wait.Corresponds names otherWait →
      hooks.Correspond C names otherHooks → PollersCorrespond C names poller otherPoller →
      (∀ timeout, (others timeout).Corresponds C names (othersThen timeout)) →
      (∀ exit, (next exit).Corresponds C names (other exit)) →
      Corresponds C names (.sharedSettle wait hooks poller others next)
        (.sharedSettle otherWait otherHooks otherPoller othersThen other)

/-- Two events are the same but for the names of items; items may be released in another order. -/
inductive Event.Corresponds (C : Correspondence κ D ε) (names : Naming) :
    Event κ D → Event κ D → Prop where
  | accepted {handle other : ItemHandle} {item otherItem : Item κ D} :
      names.Pairs handle other → item.Corresponds C names otherItem →
      Corresponds C names (.accepted handle item) (.accepted other otherItem)
  | detached {handle other : ItemHandle} {item otherItem : Item κ D} :
      names.Pairs handle other → item.Corresponds C names otherItem →
      Corresponds C names (.detached handle item) (.detached other otherItem)
  | refused {item otherItem : Item κ D} :
      item.Corresponds C names otherItem → Corresponds C names (.refused item) (.refused otherItem)
  | dispatched {callback otherCallback : κ} {told otherTold : Dispatch D} :
      C.callback names callback otherCallback → told.Corresponds C names otherTold →
      Corresponds C names (.dispatched callback told) (.dispatched otherCallback otherTold)
  | unknown {handle other : ItemHandle} :
      names.Pairs handle other → Corresponds C names (.unknown handle) (.unknown other)
  | released {items others released otherReleased : List (Item κ D)} :
      items.Perm released → others.Perm otherReleased →
      List.Forall₂ (Item.Corresponds C names) items others →
      Corresponds C names (.released released) (.released otherReleased)
  | turn (now : Instant) (signals : Signals) :
      Corresponds C names (.turn now signals) (.turn now signals)
  | rotated (now : Instant) : Corresponds C names (.rotated now) (.rotated now)
  | statusUpdated : Corresponds C names .statusUpdated .statusUpdated
  | polled (timeout : UInt64) (result : PollResult) :
      Corresponds C names (.polled timeout result) (.polled timeout result)
  | exited (exit : LoopExit) : Corresponds C names (.exited exit) (.exited exit)

section Mono

variable {C : Correspondence κ D ε} {names more : Naming}

theorem Host.Corresponds.mono
    {host other : Host ε}
    (hosts : host.Corresponds C names other)
    (le : names ≤ more) :
    host.Corresponds C more other :=
  ⟨hosts.clock_eq, hosts.signals_eq, C.rest_mono le hosts.rest⟩

theorem Hooks.Correspond.mono
    {hooks other : Hooks ε}
    (correspond : hooks.Correspond C names other)
    (le : names ≤ more) :
    hooks.Correspond C more other where
  rotateLog most moreLe := correspond.rotateLog most (le.trans moreLe)
  updateStatus most moreLe := correspond.updateStatus most (le.trans moreLe)

theorem PollersCorrespond.mono
    {poller other : Poller ε}
    (correspond : PollersCorrespond C names poller other)
    (le : names ≤ more) :
    PollersCorrespond C more poller other :=
  fun most moreLe => correspond most (le.trans moreLe)

theorem Dispatch.Corresponds.mono
    {told other : Dispatch D}
    (dispatches : told.Corresponds C names other)
    (le : names ≤ more) :
    told.Corresponds C more other :=
  ⟨dispatches.paired.mono le, dispatches.due_eq, dispatches.reason_eq, dispatches.latency_eq,
    C.data_mono le dispatches.data⟩

/-- Routines go on corresponding when more handles are given out. -/
theorem Routine.Corresponds.mono
    {routine other : Routine κ D ε}
    (routines : routine.Corresponds C names other)
    (le : names ≤ more) :
    routine.Corresponds C more other := by
  induction routines generalizing more with
  | done => exact .done
  | observe next _ => exact .observe fun most moreLe => next most (le.trans moreLe)
  | update keeps _ inductionHypothesis =>
      exact .update (fun most moreLe => keeps most (le.trans moreLe)) (inductionHypothesis le)
  | ask isFree _ inductionHypothesis =>
      exact .ask isFree fun reply => inductionHypothesis reply le
  | contains paired _ inductionHypothesis =>
      exact .contains (paired.mono le) fun answer => inductionHypothesis answer le
  | nextDue _ inductionHypothesis => exact .nextDue fun due => inductionHypothesis due le
  | schedule callback data next _ =>
      exact .schedule (C.callback_mono le callback) (C.data_mono le data)
        fun most moreLe => next most (le.trans moreLe)
  | trySchedule callback data next _ _ inductionHypothesis =>
      exact .trySchedule (C.callback_mono le callback) (C.data_mono le data)
        (fun most moreLe => next most (le.trans moreLe)) fun error => inductionHypothesis error le
  | cancel paired _ _ okHypothesis errorHypothesis =>
      exact .cancel (paired.mono le) (okHypothesis le) (errorHypothesis le)
  | shutdown _ inductionHypothesis => exact .shutdown fun count => inductionHypothesis count le
  | runLoop hooks pollers _ inductionHypothesis =>
      exact .runLoop (hooks.mono le) (pollers.mono le) fun exit => inductionHypothesis exit le
  | runShared hooks pollers _ _ othersHypothesis inductionHypothesis =>
      exact .runShared (hooks.mono le) (pollers.mono le)
        (fun timeout => othersHypothesis timeout le) fun exit => inductionHypothesis exit le

theorem Task.Corresponds.mono
    {task other : Task κ D ε}
    (tasks : task.Corresponds C names other)
    (le : names ≤ more) :
    task.Corresponds C more other := by
  cases tasks with
  | routine routines => exact .routine (routines.mono le)
  | turns hooks pollers next =>
      exact .turns (hooks.mono le) (pollers.mono le) fun exit => (next exit).mono le
  | sharedTurns hooks pollers others next =>
      exact .sharedTurns (hooks.mono le) (pollers.mono le)
        (fun timeout => (others timeout).mono le) fun exit => (next exit).mono le
  | sharedSettle waits hooks pollers others next =>
      exact .sharedSettle (waits.mono le) (hooks.mono le) (pollers.mono le)
        (fun timeout => (others timeout).mono le) fun exit => (next exit).mono le

theorem Event.Corresponds.mono
    {event other : Event κ D}
    (events : event.Corresponds C names other)
    (le : names ≤ more) :
    event.Corresponds C more other := by
  cases events with
  | accepted paired items => exact .accepted (paired.mono le) (items.mono le)
  | detached paired items => exact .detached (paired.mono le) (items.mono le)
  | refused items => exact .refused (items.mono le)
  | dispatched callback told => exact .dispatched (C.callback_mono le callback) (told.mono le)
  | unknown paired => exact .unknown (paired.mono le)
  | released perm otherPerm items =>
      exact .released perm otherPerm (items.imp fun _ _ corresponding => corresponding.mono le)
  | turn now signals => exact .turn now signals
  | rotated now => exact .rotated now
  | statusUpdated => exact .statusUpdated
  | polled timeout result => exact .polled timeout result
  | exited exit => exact .exited exit

end Mono

end Agenda
