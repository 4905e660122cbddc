import Agenda.Sharing
import Agenda.Time

/-!
# Scripts for clocks

Clocks are held by several parties, some of which share a clock.  Each step of a script moves
the clock of one holder, or adds a holder.
-/

namespace Agenda
namespace Scenario

/-- What can be asked of several holders of clocks. -/
inductive ClockStep where
  | share (holder : Nat)
  | set (holder : Nat) (reading : UInt64)
  | advance (holder : Nat) (milliseconds : UInt64)

/-- Carry out a step on holders of clocks. -/
def ClockStep.run (holders : Sharing Clock) : ClockStep → Sharing Clock
  | share holder => holders.share holder
  | set holder reading => holders.modify holder fun clock => clock.set reading
  | advance holder milliseconds =>
      holders.modify holder fun clock => clock.advance milliseconds

/-- Carry out steps, and tell what every holder reads after each. -/
def playClocks : Sharing Clock → List ClockStep → List (List Clock)
  | _, [] => []
  | holders, step :: steps =>
      let next := step.run holders
      next.toList :: playClocks next steps

end Scenario
end Agenda
