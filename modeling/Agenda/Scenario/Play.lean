import Agenda.Scenario.Client
import Agenda.Scheduler.Build
import Agenda.Store.SingleStore

/-!
# Playing a scripted client

A scenario says how a scheduler is made and which steps its client carries out.  Each step is
executed to its end before the next begins; its outcome tells the answer, how many items there
are then, and what the client saw on the way.
-/

namespace Agenda
namespace Scenario

/-- The steps of a callback that are meant for a reason. -/
def stepsFor (reason : Reason) (callback : Callback) : List Step :=
  callback.filterMap fun guarded =>
    if guarded.1.all fun only => only == reason then some guarded.2 else none

/-- What the callback of a scripted item does: it notes what it was told and what it sees, and
carries out the steps that are meant for the reason. -/
def interpret : Interpretation Callback Payload Scene := fun callback dispatch =>
  .ask (.contains dispatch.handle) fun held =>
    .ask .size fun size =>
      .ask .detachedCount fun detached =>
        .update
          (fun host =>
            ClientHost.note host (.fired dispatch held host.clock.now size detached))
          (stepsRoutine ⟨false, some (callback, dispatch)⟩
            (stepsFor dispatch.reason callback))

/-- What a step led to. -/
structure StepReport where
  /-- The answer, unless the step did not end within the allowed number of small steps. -/
  answer : Option Answer
  /-- How many items are pending. -/
  size : Nat
  /-- How many items are detached. -/
  detached : Nat
  /-- What the client saw, in order. -/
  notes : List Note

/-- How many small steps one step of a client may take. -/
def stepBudget : Nat := 1000000000000

section Playing

variable {σ : Type → Type} [OrderedStore σ]

/-- Carry out one step of the client. -/
def playStep (isShared : Bool) (scheduler : Scheduler σ Callback Payload) (host : ClientHost)
    (step : Step) : StepReport × Scheduler σ Callback Payload × ClientHost :=
  let fresh := host.mapRest fun scene => { scene with notes := [], answer := none }
  let routine :=
    step.routine ⟨isShared, none⟩ fun answer =>
      .update (·.mapRest fun scene => { scene with answer := some answer }) .done
  let final := (Execution.start scheduler fresh routine).after interpret stepBudget
  let answer := if final.isOver then final.host.rest.answer else none
  (⟨answer, final.scheduler.size, final.scheduler.detachedCount, final.host.rest.notes.reverse⟩,
    final.scheduler, final.host)

/-- Carry out the steps of the client. -/
def playSteps (isShared : Bool) :
    Scheduler σ Callback Payload → ClientHost → List Step → List StepReport
  | _, _, [] => []
  | scheduler, host, step :: steps =>
      let (report, next, nextHost) := playStep isShared scheduler host step
      report :: playSteps isShared next nextHost steps

end Playing

/-- How the scheduler of a scenario is made. -/
inductive Blueprint where
  /-- Over a slot store without a limit. -/
  | plain
  /-- As a configuration sets it. -/
  | configured (config : Config)
  /-- As a configuration sets it, and shared at once. -/
  | configuredShared (config : Config)
  /-- By a configuration, over a store that is made for the number of entries to expect: a slot
  store, with a limit if there is one, or no store at all. -/
  | factory (config : Config) (store : Except SchedulerError (Option Nat))
  /-- Over a slot store, with a limit if there is one. -/
  | slots (limit : Option Nat)
  /-- Over the store of one slot. -/
  | single

end Scenario

/-- A scheduler and what its client does with it. -/
structure Scenario where
  /-- What the clock reads at first. -/
  start : UInt64
  /-- Whether the scheduler is reached through a handle that others can share. -/
  isShared : Bool
  /-- How the scheduler is made. -/
  blueprint : Scenario.Blueprint
  /-- The longest single wait, if it is not the one that comes with the scheduler. -/
  pollCeiling : Option UInt64
  /-- The requests that are raised at first. -/
  signals : Signals
  /-- The steps. -/
  steps : List Scenario.Step

namespace Scenario

/-- What came of a scenario. -/
structure Transcript where
  /-- The number of entries that a store was to be made for, if a store was asked for. -/
  capacity : Option UInt64
  /-- The outcomes of the steps, or why there is no scheduler. -/
  result : Except SchedulerError (List StepReport)

section Running

variable {σ : Type → Type} [OrderedStore σ]

/-- Carry out the steps on a scheduler as it was made. -/
def runAsMade (scenario : Scenario) (signals : Signals)
    (scheduler : Scheduler σ Callback Payload) : List StepReport :=
  playSteps scenario.isShared scheduler ⟨⟨scenario.start⟩, signals, .empty⟩ scenario.steps

/-- Carry out the steps on a scheduler with the scenario's longest wait and requests. -/
def run (scenario : Scenario) (scheduler : Scheduler σ Callback Payload) : List StepReport :=
  scenario.runAsMade scenario.signals
    ((scenario.pollCeiling.map scheduler.withPollCeiling).getD scheduler)

end Running

/-- The number of entries that a factory is asked to make a store for. -/
def askedCapacity (config : Config) : Option UInt64 :=
  (Scheduler.validated config).toOption.map Config.initialCapacity

/-- Make the scheduler of a scenario and carry out its steps. -/
def play (scenario : Scenario) : Transcript :=
  match scenario.blueprint with
  | .plain => ⟨none, .ok (scenario.run Scheduler.unbounded)⟩
  | .slots limit => ⟨none, .ok (scenario.run (.ofStore (SlotStore.empty limit)))⟩
  | .single => ⟨none, .ok (scenario.run (.ofStore SingleStore.empty))⟩
  | .configured config => ⟨none, (Scheduler.ofConfig config).map scenario.run⟩
  | .configuredShared config =>
      ⟨none, (Scheduler.ofConfig config).map (scenario.runAsMade .clear)⟩
  | .factory config store =>
      ⟨askedCapacity config,
        (Scheduler.ofConfigWith config fun _ => store.map SlotStore.empty).map scenario.run⟩

end Scenario
end Agenda
