import Agenda.Channel
import Agenda.Execution
import Agenda.Scenario.SignalScript
import Std.Data.TreeMap

/-!
# Steps of a scripted client

A scripted client works on one scheduler by a list of steps.  Steps also make up the callbacks
of its items, the hooks of its loops, and what happens while its loops wait.  It binds handles
to names, which may be bound again, and keeps notes of what it sees.
-/

namespace Agenda
namespace Scenario

/-- The data of a scripted item. -/
structure Payload where
  /-- A text that stays as it is. -/
  label : String
  /-- A number that goes up each time the item is scheduled again. -/
  number : UInt64
  deriving DecidableEq, Repr

/-- What a scripted wait brings. -/
structure PollOutcome where
  /-- What the clock is set to. -/
  set : Option UInt64
  /-- How far the clock is moved forward after that. -/
  advance : Option UInt64
  /-- How many sources have input, or a failure. -/
  result : PollResult

/-- What a loop waits with once its script has ended. -/
inductive FallbackPoller where
  /-- Nothing ever has input. -/
  | idle
  /-- A new channel with a number of sources, some of which notify it before the loop. -/
  | channel (sources : Nat) (notified : List Nat)

/-- A step of a scripted client. -/
inductive Step where
  /-- Schedule an item whose callback is a list of steps, some of which are meant for one
  reason only; its handle is bound to a name if one is given. -/
  | schedule (payload : Payload) (delay : Delay) (callback : List (Option Reason × Step))
      (name : Option String)
  /-- The same, but give the item up if the store refuses it; where the scheduler is reached
  directly, the step may ask that a refused item be kept aside after all. -/
  | trySchedule (payload : Payload) (delay : Delay) (callback : List (Option Reason × Step))
      (name : Option String) (keepsRefused : Bool)
  /-- In a callback, schedule its item again, up to a number of times. -/
  | rearm (delay : Delay) (times : UInt64) (name : Option String)
  | cancel (item : String)
  | contains (item : String)
  | handle (item : String)
  | nextDue
  | size
  | detachedCount
  | isEmpty
  | shutdown
  | debug
  | now
  | setClock (reading : UInt64)
  | advanceClock (milliseconds : UInt64)
  | signal (step : SignalStep)
  /-- Notify the channel made last from one of its sources. -/
  | notify (source : Nat)
  /-- Run a loop that waits as scripted: at most so many times, with the given hooks, and with
  steps carried out during each wait. -/
  | runLoop (script : List (List Step × PollOutcome)) (maxPolls : Nat)
      (hooks : Option (List Step × List Step)) (fallback : FallbackPoller)

/-- The callback of a scripted item. -/
abbrev Callback := List (Option Reason × Step)

/-- How a scripted loop ended. -/
structure LoopReport where
  /-- Why it ended. -/
  exit : LoopExit
  /-- How often it waited. -/
  polls : Nat
  /-- The ready sources and the number of sources of its channel, if it had one. -/
  channel : Option (List SourceId × Nat)

/-- What a step answers. -/
inductive Answer where
  | nothing
  | succeeded
  | truth (value : Bool)
  | count (value : Nat)
  | amount (value : Nat)
  | text (value : String)
  /-- The description of a shared scheduler, and that of the scheduler in it. -/
  | sharedText (outer inner : String)
  | failed (error : SchedulerError)
  | handle (handle : ItemHandle)
  | loop (report : LoopReport)
  /-- The step needs a scheduler and there is none to reach. -/
  | noScheduler

/-- Something that a scripted client saw. -/
inductive Note where
  /-- A callback ran. -/
  | fired (dispatch : Dispatch Payload) (held : Bool) (now : Instant) (size detached : Nat)
  /-- A step of a callback, a hook or a wait was carried out. -/
  | did (step : Step) (answer : Answer)
  /-- A loop began to wait. -/
  | polled (timeout : UInt64) (now : Instant)
  /-- The log was rotated. -/
  | rotated (now : Instant) (signals : Signals)
  /-- The status was written. -/
  | statusUpdated

/-- Where a scripted loop is. -/
structure LoopProgress where
  /-- How often it has waited. -/
  polls : Nat
  /-- The number of its channel, if it has one. -/
  channel : Option Nat

/-- What a scripted client knows. -/
structure Scene where
  /-- The handles bound to names. -/
  names : Std.TreeMap String ItemHandle
  /-- What the client saw, the last first. -/
  notes : List Note
  /-- The loops that are running, the innermost first. -/
  loops : List LoopProgress
  /-- The channels made so far. -/
  channels : Array Channel
  /-- The answer to the last step of the client itself. -/
  answer : Option Answer

namespace Scene

/-- The client knows nothing. -/
def empty : Scene := ⟨∅, [], [], #[], none⟩

/-- Keep a note. -/
def note (scene : Scene) (note : Note) : Scene := { scene with notes := note :: scene.notes }

/-- Bind a handle to a name, if there is one. -/
def bind (scene : Scene) (name : Option String) (handle : ItemHandle) : Scene :=
  match name with
  | none => scene
  | some name => { scene with names := scene.names.insert name handle }

/-- The name by which a callback knows its own item. -/
def selfName : String := "$self"

/-- The handle that a name stands for; in a callback one name stands for its own item. -/
def resolve (scene : Scene) (running : Option ItemHandle) (item : String) :
    Option ItemHandle :=
  match running with
  | some handle => if item = selfName then some handle else scene.names[item]?
  | none => scene.names[item]?

end Scene
end Scenario
end Agenda
