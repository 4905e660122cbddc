/-!
# Configurations

A configuration sets how large a store is at first, how long a loop waits at most, how many
items may be pending, and how many hosts and services are monitored.  Some values are out of
range; the first such value in the order of the fields is the one that is reported.
-/

namespace Agenda

/-- The longest single wait, in milliseconds, unless another is set. -/
def defaultPollCeiling : UInt64 := 1500

/-- The least number of entries that a store is prepared for, unless another is set. -/
def defaultQueueCapacity : UInt64 := 4096

/-- The settings of a scheduler. -/
structure Config where
  /-- The least number of entries that the store is prepared for. -/
  minQueueCapacity : UInt64
  /-- The longest single wait in milliseconds. -/
  maxPollWait : UInt64
  /-- The largest number of pending items, if there is a limit. -/
  maxPendingEvents : Option UInt64
  /-- How many hosts are monitored. -/
  monitoredHosts : UInt64
  /-- How many services are monitored. -/
  monitoredServices : UInt64
  deriving DecidableEq, Repr

namespace Config

/-- The settings that hold unless others are given. -/
def standard : Config where
  minQueueCapacity := defaultQueueCapacity
  maxPollWait := defaultPollCeiling
  maxPendingEvents := none
  monitoredHosts := 0
  monitoredServices := 0

instance : Inhabited Config := ⟨standard⟩

/-- A value that is out of range. -/
inductive Violation where
  | minQueueCapacityZero
  | maxPollWaitZero
  | maxPendingEventsZero
  deriving DecidableEq, Repr

/-- The wording of a violation. -/
def Violation.message : Violation → String
  | minQueueCapacityZero => "min_queue_capacity must be greater than 0"
  | maxPollWaitZero => "max_poll_wait_ms must be greater than 0"
  | maxPendingEventsZero => "max_pending_events must be greater than 0 when set"

/-- The first value that is out of range. -/
def violation? (config : Config) : Option Violation :=
  if config.minQueueCapacity = 0 then some .minQueueCapacityZero
  else if config.maxPollWait = 0 then some .maxPollWaitZero
  else if config.maxPendingEvents = some 0 then some .maxPendingEventsZero
  else none

/-- A configuration whose values are in range, or the first value that is not. -/
def validate (config : Config) : Except Violation Config :=
  match config.violation? with
  | some violation => .error violation
  | none => .ok config

@[simp] theorem violation?_standard : standard.violation? = none := rfl

/-- How many entries to expect: one for each host and each service, held at the largest 64-bit
number. -/
def capacityHint (config : Config) : UInt64 :=
  UInt64.ofNat
    (min (config.monitoredHosts.toNat + config.monitoredServices.toNat) (UInt64.size - 1))

/-- How many entries a store is prepared for at first. -/
def initialCapacity (config : Config) : UInt64 :=
  max config.capacityHint config.minQueueCapacity

/-- The fields of a configuration. -/
inductive Field where
  | minQueueCapacity
  | maxPollWait
  | maxPendingEvents
  | monitoredHosts
  | monitoredServices
  deriving DecidableEq, Repr

namespace Field

/-- Every field, in the order in which they are written and read. -/
def all : List Field :=
  [minQueueCapacity, maxPollWait, maxPendingEvents, monitoredHosts, monitoredServices]

theorem mem_all (field : Field) : field ∈ all := by
  cases field <;> decide

/-- The key of a field in a text. -/
def key : Field → String
  | minQueueCapacity => "min_queue_capacity"
  | maxPollWait => "max_poll_wait_ms"
  | maxPendingEvents => "max_pending_events"
  | monitoredHosts => "monitored_hosts"
  | monitoredServices => "monitored_services"

/-- The field of a key. -/
def ofKey? (key : String) : Option Field := all.find? fun field => field.key == key

@[simp] theorem ofKey?_key (field : Field) : ofKey? field.key = some field := by
  cases field <;> decide

/-- The variable that holds a field. -/
def variableName : Field → String
  | minQueueCapacity => "TIMED_EVENTS_MIN_QUEUE_CAPACITY"
  | maxPollWait => "TIMED_EVENTS_MAX_POLL_WAIT_MS"
  | maxPendingEvents => "TIMED_EVENTS_MAX_PENDING_EVENTS"
  | monitoredHosts => "TIMED_EVENTS_MONITORED_HOSTS"
  | monitoredServices => "TIMED_EVENTS_MONITORED_SERVICES"

/-- Whether a field can be left without a value. -/
def isOptional : Field → Bool
  | maxPendingEvents => true
  | _ => false

end Field

/-- The value of a field. -/
def get (config : Config) : Field → Option UInt64
  | .minQueueCapacity => some config.minQueueCapacity
  | .maxPollWait => some config.maxPollWait
  | .maxPendingEvents => config.maxPendingEvents
  | .monitoredHosts => some config.monitoredHosts
  | .monitoredServices => some config.monitoredServices

/-- Set a field to a number. -/
def set (config : Config) (field : Field) (value : UInt64) : Config :=
  match field with
  | .minQueueCapacity => { config with minQueueCapacity := value }
  | .maxPollWait => { config with maxPollWait := value }
  | .maxPendingEvents => { config with maxPendingEvents := some value }
  | .monitoredHosts => { config with monitoredHosts := value }
  | .monitoredServices => { config with monitoredServices := value }

/-- Leave a field without a value, if that is possible. -/
def clear? (config : Config) : Field → Option Config
  | .maxPendingEvents => some { config with maxPendingEvents := none }
  | _ => none

@[simp] theorem get_set_self (config : Config) (field : Field) (value : UInt64) :
    (config.set field value).get field = some value := by
  cases field <;> rfl

theorem get_set_of_ne (config : Config) {field other : Field} (different : other ≠ field)
    (value : UInt64) : (config.set field value).get other = config.get other := by
  cases field <;> cases other <;> simp_all [set, get]

end Config
end Agenda
