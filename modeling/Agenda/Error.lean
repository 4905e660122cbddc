import Agenda.Item

/-!
# Failures

A scheduler fails in four ways: the store refuses an item, a handle names nothing, waiting for
input fails, or a configuration is out of range.  Failures to wait come in kinds, of which an
interruption alone is harmless.
-/

namespace Agenda

/-- The kinds of failure to wait for input. -/
inductive PollErrorKind where
  | interrupted
  | brokenPipe
  | wouldBlock
  | timedOut
  | notFound
  | invalidInput
  | other
  deriving DecidableEq, Repr

/-- A failure to wait for input. -/
structure PollError where
  /-- What kind of failure it is. -/
  kind : PollErrorKind
  /-- Its wording. -/
  text : String
  deriving DecidableEq, Repr

/-- The failures of a scheduler. -/
inductive SchedulerError where
  /-- The store refused an item. -/
  | insertFailed (reason : String)
  /-- No pending item has this handle. -/
  | unknownItem (handle : ItemHandle)
  /-- Waiting for input failed. -/
  | pollFailed (text : String)
  /-- A value of the configuration is out of range. -/
  | invalidConfig (text : String)
  deriving DecidableEq, Repr

namespace SchedulerError

/-- The wording of a failure. -/
def message : SchedulerError → String
  | insertFailed reason => "insert failed: " ++ reason
  | unknownItem handle => "unknown item: " ++ handle.text
  | pollFailed text => "poll failed: " ++ text
  | invalidConfig text => "invalid config: " ++ text

end SchedulerError

/-- Why a loop ended. -/
inductive LoopExit where
  /-- A shutdown was requested. -/
  | shutdown
  /-- A restart was requested. -/
  | restart
  /-- The store holds no item. -/
  | queueEmpty
  /-- Waiting for input failed, and not by an interruption. -/
  | pollFailed (error : PollError)
  deriving DecidableEq, Repr

namespace LoopExit

/-- The failure that ended the loop. -/
def failure? : LoopExit → Option PollError
  | pollFailed error => some error
  | _ => none

/-- Whether a failure ended the loop. -/
def isFailure (exit : LoopExit) : Bool := exit.failure?.isSome

/-- A failure as an error of the scheduler, and every other exit as it is. -/
def toResult (exit : LoopExit) : Except SchedulerError LoopExit :=
  match exit.failure? with
  | some error => .error (.pollFailed error.text)
  | none => .ok exit

end LoopExit
end Agenda
