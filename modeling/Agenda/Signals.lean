/-!
# Requests from outside

Three requests can be raised at any time and stay raised until they are dealt with: to shut
down, to restart, and to rotate the log.  A reset withdraws the first two.  The third is taken
once, by whoever acts on it.
-/

namespace Agenda

/-- The requests that are raised. -/
structure Signals where
  /-- A shutdown is requested. -/
  shutdown : Bool
  /-- A restart is requested. -/
  restart : Bool
  /-- A rotation of the log is requested. -/
  logRotation : Bool
  deriving DecidableEq, Repr

namespace Signals

/-- No request is raised. -/
def clear : Signals := ⟨false, false, false⟩

/-- Raise the request to shut down. -/
def requestShutdown (signals : Signals) : Signals := { signals with shutdown := true }

/-- Raise the request to restart. -/
def requestRestart (signals : Signals) : Signals := { signals with restart := true }

/-- Raise the request to rotate the log. -/
def requestLogRotation (signals : Signals) : Signals := { signals with logRotation := true }

/-- Withdraw the requests to shut down and to restart. -/
def reset (signals : Signals) : Signals :=
  { signals with shutdown := false, restart := false }

/-- Whether a log rotation is requested, and the requests without it. -/
def takeLogRotation (signals : Signals) : Bool × Signals :=
  (signals.logRotation, { signals with logRotation := false })

/-- One letter for each raised request, and a dash for each of the others. -/
def letters (signals : Signals) : String :=
  String.ofList
    [if signals.shutdown then 's' else '-',
      if signals.restart then 'r' else '-',
      if signals.logRotation then 'l' else '-']

@[simp] theorem logRotation_reset (signals : Signals) :
    signals.reset.logRotation = signals.logRotation := rfl

@[simp] theorem takeLogRotation_fst (signals : Signals) :
    signals.takeLogRotation.1 = signals.logRotation := rfl

@[simp] theorem takeLogRotation_taken (signals : Signals) :
    signals.takeLogRotation.2.takeLogRotation.1 = false := rfl

end Signals
end Agenda
