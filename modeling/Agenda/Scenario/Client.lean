import Agenda.Scenario.Step

/-!
# The routines of a scripted client

Each step of a scripted client is a routine that goes on with the step's answer.  Some steps
need no scheduler; these alone can be carried out in hooks and while a loop waits that nobody
can reach from outside.
-/

namespace Agenda

namespace Host

variable {ε : Type}

/-- Change the rest of the state around a scheduler. -/
def mapRest (host : Host ε) (change : ε → ε) : Host ε :=
  { host with rest := change host.rest }

/-- Move the clock forward. -/
def advanceClock (host : Host ε) (milliseconds : UInt64) : Host ε :=
  { host with clock := host.clock.advance milliseconds }

/-- Move the clock to a reading. -/
def setClock (host : Host ε) (reading : UInt64) : Host ε :=
  { host with clock := host.clock.set reading }

end Host

namespace Scenario

/-- The state around the scheduler of a scripted client. -/
abbrev ClientHost := Host Scene

/-- A routine of a scripted client. -/
abbrev Script := Routine Callback Payload Scene

/-- The answer to a step on requests. -/
def SignalAnswer.toAnswer : SignalAnswer → Answer
  | nothing => .nothing
  | truth value => .truth value
  | text value => .text value
  | holder number => .count number

namespace ClientHost

/-- Keep a note. -/
def note (host : ClientHost) (note : Note) : ClientHost :=
  host.mapRest fun scene => scene.note note

/-- Notify the channel made last from one of its sources. -/
def notify (host : ClientHost) (source : Nat) : Answer × ClientHost :=
  match host.rest.channels.back? with
  | none => (.nothing, host)
  | some channel =>
      if source < channel.nextSource.toNat then
        let (taken, notified) := channel.notify (UInt64.ofNat source)
        (.truth taken,
          host.mapRest fun scene => { scene with channels := scene.channels.pop.push notified })
      else
        (.nothing, host)

/-- Carry out a step that needs no scheduler. -/
def performOutside? (running : Option ItemHandle) (host : ClientHost) :
    Step → Option (Answer × ClientHost)
  | .handle item =>
      some (((host.rest.resolve running item).map Answer.handle).getD .nothing, host)
  | .now => some (.amount host.clock.now, host)
  | .setClock reading => some (.nothing, host.setClock reading)
  | .advanceClock milliseconds => some (.nothing, host.advanceClock milliseconds)
  | .signal step =>
      let (answer, signals) := step.perform host.signals
      some (answer.toAnswer, { host with signals })
  | .notify source => some (host.notify source)
  | _ => none

/-- The answer to a step that needs a scheduler where none can be reached.  A step without an
item to work on has nothing to do, with or without a scheduler. -/
def answerAlone (host : ClientHost) : Step → Answer
  | .rearm .. => .nothing
  | .cancel item => if (host.rest.resolve none item).isSome then .noScheduler else .nothing
  | .contains item => if (host.rest.resolve none item).isSome then .noScheduler else .nothing
  | _ => .noScheduler

/-- Carry out a step where no scheduler can be reached, and keep a note of it. -/
def performAlone (host : ClientHost) (step : Step) : ClientHost :=
  let (answer, changed) :=
    (host.performOutside? none step).getD (host.answerAlone step, host)
  changed.note (.did step answer)

/-- The hooks that carry out steps. -/
def hooks : Option (List Step × List Step) → Hooks Scene
  | none => .idle
  | some (rotate, status) =>
      { rotateLog := fun now host =>
          rotate.foldl performAlone (ClientHost.note host (.rotated now host.signals))
        updateStatus := fun host =>
          status.foldl performAlone (ClientHost.note host .statusUpdated) }

/-- Register sources with a new channel and notify it from some of them. -/
def makeChannel (sources : Nat) (notified : List Nat) : Channel :=
  let (registered, channel) := Channel.empty.registerMany sources
  notified.foldl
    (fun filled source =>
      match registered[source]? with
      | none => filled
      | some sender => (filled.notify sender).2)
    channel

/-- Begin a loop.  A new channel takes the place of the one before it, whose sources are
dropped. -/
def enterLoop (fallback : FallbackPoller) (host : ClientHost) : ClientHost :=
  host.mapRest fun scene =>
    match fallback with
    | .idle => { scene with loops := ⟨0, none⟩ :: scene.loops }
    | .channel sources notified =>
        { scene with
          loops := ⟨0, some scene.channels.size⟩ :: scene.loops
          channels :=
            (scene.channels.modify (scene.channels.size - 1) fun channel =>
              { channel with registered := 0 }).push (makeChannel sources notified) }

/-- How often the innermost loop has waited. -/
def polls (host : ClientHost) : Nat := (host.rest.loops.head?.map LoopProgress.polls).getD 0

/-- The number of the innermost loop's channel. -/
def channel? (host : ClientHost) : Option Nat := host.rest.loops.head?.bind LoopProgress.channel

/-- What is told about the innermost loop when it ends. -/
def report (host : ClientHost) (exit : LoopExit) : LoopReport where
  exit := exit
  polls := host.polls
  channel :=
    (host.channel?.bind fun number => host.rest.channels[number]?).map fun channel =>
      (channel.takeReady.1, channel.registered)

/-- End the innermost loop and close its channel. -/
def leaveLoop (host : ClientHost) : ClientHost :=
  let channels :=
    match host.channel? with
    | none => host.rest.channels
    | some number => host.rest.channels.modify number Channel.close
  host.mapRest fun scene => { scene with loops := scene.loops.tail, channels }

/-- Begin a wait of the innermost loop. -/
def beginPoll (timeout : UInt64) (host : ClientHost) : ClientHost :=
  host.mapRest fun scene =>
    { scene with
      loops := scene.loops.modifyHead fun progress =>
        { progress with polls := progress.polls + 1 }
      notes := .polled timeout host.clock.now :: scene.notes }

/-- Take what is queued in the innermost loop's channel, and say how much that was. -/
def pollChannel (host : ClientHost) : Nat × ClientHost :=
  match host.channel? with
  | none => (0, host)
  | some number =>
      match host.rest.channels[number]? with
      | none => (0, host)
      | some channel =>
          let (count, polled) := channel.poll
          (count,
            host.mapRest fun scene =>
              { scene with channels := scene.channels.setIfInBounds number polled })

/-- The failure of a loop that waits too often. -/
def pollLimit : PollError := ⟨.other, "poll limit"⟩

/-- End a wait: as scripted, or after the script by taking what is queued, in which case the
whole time passes if there is nothing. -/
def finishPoll (outcomes : Array PollOutcome) (maxPolls : Nat) (timeout : UInt64)
    (host : ClientHost) : PollResult × ClientHost :=
  if maxPolls < host.polls then
    (.error pollLimit, host)
  else
    match outcomes[host.polls - 1]? with
    | some outcome =>
        let reset := (outcome.set.map host.setClock).getD host
        (outcome.result, (outcome.advance.map reset.advanceClock).getD reset)
    | none =>
        let (count, polled) := host.pollChannel
        (.ok count, if count = 0 then polled.advanceClock timeout else polled)

/-- What there is to do during a wait of the innermost loop, one entry for each wait. -/
def duringPoll? {α : Type} (entries : Array α) (maxPolls : Nat) (host : ClientHost) :
    Option α :=
  if maxPolls < host.polls then none else entries[host.polls - 1]?

/-- Wait as scripted where no scheduler can be reached. -/
def pollAlone (steps : Array (List Step)) (outcomes : Array PollOutcome) (maxPolls : Nat) :
    Poller Scene :=
  fun timeout host =>
    let begun := beginPoll timeout host
    let during := (duringPoll? steps maxPolls begun).getD []
    finishPoll outcomes maxPolls timeout (during.foldl performAlone begun)

end ClientHost

/-- Where steps are carried out. -/
structure Context where
  /-- Whether the scheduler is reached through a handle that others share. -/
  isShared : Bool
  /-- The callback that is running and what it was told. -/
  running : Option (Callback × Dispatch Payload)

namespace Context

/-- The handle of the running item. -/
def runningHandle (context : Context) : Option ItemHandle :=
  context.running.map fun running => running.2.handle

/-- Go on with the handle that a name stands for, or answer with nothing. -/
def withItem (context : Context) (item : String) (next : Answer → Script)
    (use : ItemHandle → Script) : Script :=
  .observe fun host =>
    match host.rest.resolve context.runningHandle item with
    | none => next .nothing
    | some handle => use handle

/-- Schedule an item and bind its handle. -/
def schedule (delay : Delay) (callback : Callback) (payload : Payload)
    (name : Option String) (next : Answer → Script) : Script :=
  .schedule delay callback payload fun handle =>
    .update (·.mapRest fun scene => scene.bind name handle) (next (.text handle.text))

/-- Schedule an item unless the store refuses it, and bind its handle. -/
def trySchedule (delay : Delay) (callback : Callback) (payload : Payload)
    (name : Option String) (next : Answer → Script) : Script :=
  .trySchedule delay callback payload fun
    | .error error => next (.failed error)
    | .ok handle =>
        .update (·.mapRest fun scene => scene.bind name handle) (next (.text handle.text))

/-- The description of a handle that others share. -/
def sharedDescription : String := "SharedScheduler \x7b .. \x7d"

/-- Describe the scheduler, and the handle through which it is reached if that is shared. -/
def debug (context : Context) (next : Answer → Script) : Script :=
  .ask .size fun size =>
    .ask .detachedCount fun detached =>
      .ask .pollCeiling fun ceiling =>
        let text := Scheduler.describe size detached ceiling
        if context.isShared then next (.sharedText sharedDescription text)
        else next (.text text)

end Context

mutual

/-- Carry out a step and go on with its answer. -/
def Step.routine (context : Context) (next : Answer → Script) : Step → Script
  | .schedule payload delay callback name =>
      Context.schedule delay callback payload name next
  | .trySchedule payload delay callback name keepsRefused =>
      if keepsRefused && !context.isShared then
        Context.schedule delay callback payload name next
      else
        Context.trySchedule delay callback payload name next
  | .rearm delay times name =>
      match context.running with
      | none => next .nothing
      | some (callback, dispatch) =>
          let payload := dispatch.data
          if payload.number < times then
            Context.schedule delay callback ⟨payload.label, payload.number + 1⟩ name next
          else
            next .nothing
  | .cancel item =>
      context.withItem item next fun handle =>
        .cancel handle fun
          | .ok () => next .succeeded
          | .error error => next (.failed error)
  | .contains item =>
      context.withItem item next fun handle =>
        .ask (.contains handle) fun held => next (.truth held)
  | .nextDue => .nextDue fun due => next ((due.map Answer.amount).getD .nothing)
  | .size => .ask .size fun size => next (.count size)
  | .detachedCount => .ask .detachedCount fun count => next (.count count)
  | .isEmpty => .ask .size fun size => next (.truth (size == 0))
  | .shutdown => .shutdown fun count => next (.count count)
  | .debug => context.debug next
  | .runLoop script maxPolls hooks fallback =>
      let outcomes := (script.map Prod.snd).toArray
      let finish := fun exit =>
        Routine.observe fun host =>
          .update ClientHost.leaveLoop (next (.loop (ClientHost.report host exit)))
      let others := (waitRoutines script).toArray
      .update (ClientHost.enterLoop fallback) <|
        if context.isShared then
          .runShared (ClientHost.hooks hooks) (ClientHost.finishPoll outcomes maxPolls)
            (fun timeout =>
              .update (ClientHost.beginPoll timeout) <|
                .observe fun host => (ClientHost.duringPoll? others maxPolls host).getD .done)
            finish
        else
          .runLoop (ClientHost.hooks hooks)
            (ClientHost.pollAlone (script.map Prod.fst).toArray outcomes maxPolls) finish
  | step =>
      .observe fun host =>
        match ClientHost.performOutside? context.runningHandle host step with
        | none => next .nothing
        | some (answer, changed) => .update (fun _ => changed) (next answer)

/-- Carry out steps, and keep a note of each. -/
def stepsRoutine (context : Context) : List Step → Script
  | [] => .done
  | step :: steps =>
      step.routine context fun answer =>
        .update (fun host => ClientHost.note host (.did step answer))
          (stepsRoutine context steps)

/-- What is to be done during each wait of a loop that others can reach. -/
def waitRoutines : List (List Step × PollOutcome) → List Script
  | [] => []
  | (steps, _) :: rest => stepsRoutine ⟨true, none⟩ steps :: waitRoutines rest

end

end Scenario
end Agenda
