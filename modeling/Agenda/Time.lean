/-!
# Instants, delays and the time left

Instants are counted in milliseconds.  An agenda keeps whole seconds only: both the current
instant and the delay lose their part below one second before they are added.  The time left
until an instant is a signed 64-bit number of milliseconds, and a wait is never longer than
the ceiling it is given.
-/

namespace Agenda

/-- A point in time, in milliseconds since a fixed origin. -/
abbrev Instant := Nat

/-- The number of milliseconds in a second. -/
def millisecondsPerSecond : Nat := 1000

/-- The number of nanoseconds in a second. -/
def nanosecondsPerSecond : Nat := 1000000000

/-- A length of time: whole seconds and a remainder below one second. -/
structure Delay where
  /-- Whole seconds. -/
  seconds : UInt64
  /-- Nanoseconds beyond the whole seconds. -/
  nanoseconds : Nat
  /-- The remainder is below one second. -/
  nanoseconds_lt : nanoseconds < nanosecondsPerSecond

namespace Delay

/-- The delay of some whole seconds. -/
def ofSeconds (seconds : UInt64) : Delay :=
  ⟨seconds, 0, by decide⟩

/-- The delay of some seconds and any number of nanoseconds; full seconds among the
nanoseconds are carried over, and the seconds stop at the largest 64-bit number. -/
def ofParts (seconds : UInt64) (nanoseconds : Nat) : Delay where
  seconds :=
    UInt64.ofNat (min (seconds.toNat + nanoseconds / nanosecondsPerSecond) (UInt64.size - 1))
  nanoseconds := nanoseconds % nanosecondsPerSecond
  nanoseconds_lt := Nat.mod_lt _ (by decide)

/-- The length of a delay in nanoseconds. -/
def inNanoseconds (delay : Delay) : Nat :=
  delay.seconds.toNat * nanosecondsPerSecond + delay.nanoseconds

end Delay

/-- The instant at which something put off by a delay becomes due, in whole seconds. -/
def dueAfter (now : Instant) (delay : Delay) : Instant :=
  (now / millisecondsPerSecond + delay.seconds.toNat) * millisecondsPerSecond

/-- The least distance, 2^63, that is too large for a signed 64-bit number. -/
def farDistance : Nat := 9223372036854775808

/-- The signed distance from one instant to another, held at the ends of the 64-bit range. -/
def timeLeft (start stop : Instant) : Int64 :=
  if start ≤ stop then
    if stop - start < farDistance then Int64.ofNat (stop - start) else Int64.maxValue
  else
    if start - stop < farDistance then -Int64.ofNat (start - stop) else Int64.minValue

/-- How long to wait for an instant: not at all once it has come, and never longer than the
ceiling. -/
def waitFor (now due : Instant) (ceiling : UInt64) : UInt64 :=
  if timeLeft now due < 0 then 0 else min (timeLeft now due).toUInt64 ceiling

/-- A clock that moves only when it is told to. -/
structure Clock where
  /-- The current reading in milliseconds. -/
  reading : UInt64
  deriving DecidableEq, Repr

namespace Clock

/-- The instant that a clock shows. -/
def now (clock : Clock) : Instant := clock.reading.toNat

/-- Move a clock to a reading. -/
def set (clock : Clock) (reading : UInt64) : Clock := { clock with reading }

/-- Move a clock forward; it starts again from zero past the largest reading. -/
def advance (clock : Clock) (milliseconds : UInt64) : Clock :=
  { clock with reading := clock.reading + milliseconds }

@[simp] theorem now_set (clock : Clock) (reading : UInt64) :
    (clock.set reading).now = reading.toNat := rfl

/-- A clock that does not run over reads as many milliseconds later as it was told. -/
theorem now_advance (clock : Clock) (milliseconds : UInt64)
    (noOverflow : clock.now + milliseconds.toNat < UInt64.size) :
    (clock.advance milliseconds).now = clock.now + milliseconds.toNat := by
  simp only [now, advance, UInt64.toNat_add]
  exact Nat.mod_eq_of_lt noOverflow

end Clock
end Agenda
