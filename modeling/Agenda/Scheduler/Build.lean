import Agenda.Scheduler.Basic
import Agenda.Store.SlotStore

/-!
# Building schedulers from configurations

A configuration whose values are in range gives a scheduler over a slot store with the limit
that it sets, or over a store that is made for the number of entries to expect.
-/

namespace Agenda
namespace Scheduler

variable {σ : Type → Type} {κ D : Type}

/-- A scheduler over a slot store without a limit. -/
def unbounded : Scheduler SlotStore κ D := ofStore .unbounded

/-- A configuration whose values are in range, or the error of a scheduler. -/
def validated (config : Config) : Except SchedulerError Config :=
  config.validate.mapError fun violation => .invalidConfig violation.message

/-- A scheduler over a slot store, as a configuration sets it. -/
def ofConfig (config : Config) : Except SchedulerError (Scheduler SlotStore κ D) :=
  (validated config).map fun valid =>
    (ofStore (.empty (valid.maxPendingEvents.map UInt64.toNat))).withPollCeiling
      valid.maxPollWait

/-- A scheduler over a store that is made for a number of entries to expect. -/
def ofConfigWith (config : Config)
    (makeStore : UInt64 → Except SchedulerError (σ (Item κ D))) :
    Except SchedulerError (Scheduler σ κ D) :=
  match validated config with
  | .error error => .error error
  | .ok valid =>
      (makeStore valid.initialCapacity).map fun store =>
        (ofStore store).withPollCeiling valid.maxPollWait

end Scheduler
end Agenda
