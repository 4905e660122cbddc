import Agenda.Error
import Agenda.Signals

/-!
# What a loop shares with the program around it

A loop reads a clock and the raised requests, waits for input by a poller, and calls two hooks
when the log is to be rotated.  All of these may change the clock, the requests and the rest of
the program's state.
-/

namespace Agenda

/-- The state around a scheduler. -/
structure Host (ε : Type) where
  /-- The clock that the scheduler reads. -/
  clock : Clock
  /-- The raised requests. -/
  signals : Signals
  /-- Everything else. -/
  rest : ε

/-- What is called when the log is to be rotated. -/
structure Hooks (ε : Type) where
  /-- Rotate the log, at an instant. -/
  rotateLog : Instant → Host ε → Host ε
  /-- Write down the state of the program afterwards. -/
  updateStatus : Host ε → Host ε

namespace Hooks

/-- Hooks that do nothing. -/
def idle {ε : Type} : Hooks ε := ⟨fun _ host => host, id⟩

end Hooks

/-- How many sources have input, or why waiting for them failed. -/
abbrev PollResult := Except PollError Nat

/-- A way of waiting for input, for a number of milliseconds at most. -/
abbrev Poller (ε : Type) := UInt64 → Host ε → PollResult × Host ε

namespace Signals

/-- The exit that the raised requests demand; a shutdown comes before a restart. -/
def stop? (signals : Signals) : Option LoopExit :=
  if signals.shutdown then some .shutdown
  else if signals.restart then some .restart
  else none

@[simp] theorem stop?_eq_none_iff (signals : Signals) :
    signals.stop? = none ↔ signals.shutdown = false ∧ signals.restart = false := by
  unfold stop?
  cases signals.shutdown <;> cases signals.restart <;> simp

@[simp] theorem stop?_reset (signals : Signals) : signals.reset.stop? = none := by
  simp [reset]

end Signals
end Agenda
