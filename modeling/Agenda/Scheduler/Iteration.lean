import Agenda.Scheduler.Basic

/-!
# One turn of the main loop

A turn has two halves with a wait between them.  The first half looks at the raised requests,
rotates the log if that is asked for, and finds out for which item to wait and how long.  The
second half judges what the wait brought: an item is fired only if no source had input, the
item is still the earliest, and the clock has reached its due instant.
-/

namespace Agenda

/-- The item that a turn waits for, and how long at most. -/
structure Wait where
  /-- The earliest item. -/
  handle : SlotHandle
  /-- The longest wait in milliseconds. -/
  timeout : UInt64
  deriving DecidableEq, Repr

/-- What the first half of a turn decides. -/
inductive Plan where
  /-- The loop ends. -/
  | leave (exit : LoopExit)
  /-- The loop waits. -/
  | await (wait : Wait)
  deriving DecidableEq, Repr

/-- What the second half of a turn decides. -/
inductive Settlement (κ D : Type) where
  /-- The loop goes on with another turn. -/
  | again
  /-- The loop ends. -/
  | leave (exit : LoopExit)
  /-- An item is dispatched before the next turn. -/
  | fire (handle : ItemHandle) (item : Item κ D)

namespace Host

variable {ε : Type}

/-- Serve a request to rotate the log: when it was served, if it was, and the state after the
hooks have run. -/
def serveRotation (host : Host ε) (hooks : Hooks ε) : Option Instant × Host ε :=
  let now := host.clock.now
  let (requested, signals) := host.signals.takeLogRotation
  if requested then
    (some now, hooks.updateStatus (hooks.rotateLog now { host with signals }))
  else
    (none, host)

end Host

namespace Scheduler

variable {σ : Type → Type} {κ D ε : Type} [OrderedStore σ]

/-- Wait for the earliest item, or end the loop if there is none. -/
def awaitFirst (scheduler : Scheduler σ κ D) (now : Instant) : Plan × Scheduler σ κ D :=
  match OrderedStore.peek scheduler.store with
  | (none, store) => (.leave .queueEmpty, { scheduler with store })
  | (some (handle, due), store) =>
      (.await ⟨handle, waitFor now due scheduler.pollCeiling⟩, { scheduler with store })

/-- What the first half of a turn leaves behind. -/
structure Planned (σ : Type → Type) (κ D ε : Type) where
  /-- The decision. -/
  plan : Plan
  /-- When the log was rotated, if it was. -/
  rotatedAt : Option Instant
  /-- The scheduler afterwards. -/
  scheduler : Scheduler σ κ D
  /-- The state around it afterwards. -/
  host : Host ε

/-- The first half of a turn. -/
def planTurn (scheduler : Scheduler σ κ D) (hooks : Hooks ε) (host : Host ε) :
    Planned σ κ D ε :=
  match host.signals.stop? with
  | some exit => ⟨.leave exit, none, scheduler, host⟩
  | none =>
      let served := host.serveRotation hooks
      let awaited := scheduler.awaitFirst host.clock.now
      ⟨awaited.1, served.1, awaited.2, served.2⟩

/-- Take out the awaited item if it is still the earliest and its due instant has come. -/
def fireIfDue (scheduler : Scheduler σ κ D) (wait : Wait) (now : Instant) :
    Settlement κ D × Scheduler σ κ D :=
  match OrderedStore.peek scheduler.store with
  | (none, store) => (.again, { scheduler with store })
  | (some (handle, due), store) =>
      let peeked := { scheduler with store }
      if handle = wait.handle ∧ ¬ 0 < timeLeft now due then
        match peeked.remove (.stored wait.handle) with
        | (none, remaining) => (.again, remaining)
        | (some item, remaining) => (.fire (.stored wait.handle) item, remaining)
      else
        (.again, peeked)

/-- The second half of a turn, at the instant that the clock shows after the wait. -/
def settleTurn (scheduler : Scheduler σ κ D) (wait : Wait) (polled : PollResult)
    (now : Instant) : Settlement κ D × Scheduler σ κ D :=
  match polled with
  | .error error =>
      if error.kind = .interrupted then (.again, scheduler)
      else (.leave (.pollFailed error), scheduler)
  | .ok ready => if 0 < ready then (.again, scheduler) else scheduler.fireIfDue wait now

end Scheduler
end Agenda
