import Agenda.Sharing
import Agenda.Signals

/-!
# Scripts for raised requests

Requests are held by several parties, some of which share what they hold.  Each step of a script
acts on what one holder sees, or adds a holder.
-/

namespace Agenda
namespace Scenario

/-- What can be asked of raised requests. -/
inductive SignalStep where
  | requestShutdown
  | requestRestart
  | requestLogRotation
  | reset
  | takeLogRotation
  | flags

/-- What a step on requests answers. -/
inductive SignalAnswer where
  | nothing
  | truth (value : Bool)
  | text (value : String)
  /-- The number of a new holder. -/
  | holder (number : Nat)

/-- Carry out a step on requests. -/
def SignalStep.perform (signals : Signals) : SignalStep → SignalAnswer × Signals
  | requestShutdown => (.nothing, signals.requestShutdown)
  | requestRestart => (.nothing, signals.requestRestart)
  | requestLogRotation => (.nothing, signals.requestLogRotation)
  | reset => (.nothing, signals.reset)
  | takeLogRotation =>
      let (taken, rest) := signals.takeLogRotation
      (.truth taken, rest)
  | flags => (.text signals.letters, signals)

/-- What can be asked of several holders of requests. -/
inductive SignalsStep where
  /-- Carry out a step on what a holder sees. -/
  | perform (holder : Nat) (step : SignalStep)
  /-- Add a holder that sees what another sees. -/
  | share (holder : Nat)
  /-- Add a holder of its own requests. -/
  | add

/-- Carry out a step on holders of requests. -/
def SignalsStep.run (holders : Sharing Signals) : SignalsStep → SignalAnswer × Sharing Signals
  | perform holder step =>
      match holders.get? holder with
      | none => (.nothing, holders)
      | some signals =>
          ((step.perform signals).1,
            holders.modify holder fun current => (step.perform current).2)
  | share holder => (.holder holders.size, holders.share holder)
  | add => (.holder holders.size, holders.add .clear)

/-- Carry out steps, and pair each answer with what every holder sees after it. -/
def playSignals : Sharing Signals → List SignalsStep → List (SignalAnswer × List Signals)
  | _, [] => []
  | holders, step :: steps =>
      let (answer, next) := step.run holders
      (answer, next.toList) :: playSignals next steps

end Scenario
end Agenda
