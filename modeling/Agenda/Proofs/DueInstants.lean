import Agenda.Time
import Mathlib.Data.BitVec

/-!
# Due instants

A due instant is a whole second.  The current instant and the delay both lose what they have below
one second, so it may come up to two seconds too early, and never too late.  What is put off
later, and for no shorter a time, is not due earlier: the order can be lost within a second, but
it is never reversed.

Instants are unbounded here and 128-bit words where they are computed.  The computation that
refuses to run over is given beside the unbounded one; it gives the same instant as long as this
fits in a word, and for every 64-bit reading of a clock it does.
-/

namespace Agenda

/-- The number of nanoseconds in a millisecond. -/
def nanosecondsPerMillisecond : Nat := 1000000

/-! ## Words that do not run over -/

section Words

variable {width : Nat} (word other : BitVec width)

/-- The sum of two words, if it is a word. -/
def checkedAdd : Option (BitVec width) :=
  if word.uaddOverflow other then none else some (word + other)

/-- The product of two words, if it is a word. -/
def checkedMul : Option (BitVec width) :=
  if word.umulOverflow other then none else some (word * other)

/-- A result that is given up exactly if it does not fit in a word is exact where it is given. -/
theorem map_toNat_unless {result : BitVec width} {exactly : Nat} {runsOver : Bool}
    (runsOver_eq : runsOver = decide (2 ^ width ≤ exactly))
    (result_eq : ¬ runsOver = true → result.toNat = exactly) :
    (if runsOver then none else some result).map BitVec.toNat =
      if exactly < 2 ^ width then some exactly else none := by
  by_cases fits : exactly < 2 ^ width
  · have noOverflow : ¬ runsOver = true := by
      rw [runsOver_eq, decide_eq_true_eq]
      exact Nat.not_le.mpr fits
    rw [if_neg noOverflow, if_pos fits, Option.map_some, result_eq noOverflow]
  · have overflow : runsOver = true := by
      rw [runsOver_eq, decide_eq_true_eq]
      exact Nat.not_lt.mp fits
    rw [if_pos overflow, if_neg fits, Option.map_none]

theorem map_toNat_checkedAdd :
    (checkedAdd word other).map BitVec.toNat =
      if word.toNat + other.toNat < 2 ^ width then some (word.toNat + other.toNat) else none :=
  map_toNat_unless rfl BitVec.toNat_add_of_not_uaddOverflow

theorem map_toNat_checkedMul :
    (checkedMul word other).map BitVec.toNat =
      if word.toNat * other.toNat < 2 ^ width then some (word.toNat * other.toNat) else none :=
  map_toNat_unless rfl BitVec.toNat_mul_of_not_umulOverflow

end Words

/-- The due instant as it is computed, in 128-bit words. -/
def checkedDueAfter (now : BitVec 128) (delay : Delay) : Option (BitVec 128) :=
  (checkedAdd (now / 1000#128) (delay.seconds.toBitVec.setWidth 128)).bind fun seconds =>
    checkedMul seconds 1000#128

/-- The computation gives the due instant, unless this is no word. -/
theorem map_toNat_checkedDueAfter (now : BitVec 128) (delay : Delay) :
    (checkedDueAfter now delay).map BitVec.toNat =
      if dueAfter now.toNat delay < 2 ^ 128 then some (dueAfter now.toNat delay) else none := by
  have seconds_lt := delay.seconds.toNat_lt
  have reading_lt := now.isLt
  have seconds_eq : (delay.seconds.toBitVec.setWidth 128).toNat = delay.seconds.toNat :=
    BitVec.toNat_setWidth_of_le (by decide)
  have sum_eq := map_toNat_checkedAdd (now / 1000#128) (delay.seconds.toBitVec.setWidth 128)
  rw [seconds_eq, BitVec.toNat_udiv] at sum_eq
  have divisor_eq : (1000#128).toNat = 1000 := rfl
  have fits : now.toNat / (1000#128).toNat + delay.seconds.toNat < 2 ^ 128 := by
    rw [divisor_eq]
    omega
  rw [if_pos fits] at sum_eq
  obtain ⟨seconds, added, sum_eq⟩ := Option.map_eq_some_iff.mp sum_eq
  rw [checkedDueAfter, added, Option.bind_some, map_toNat_checkedMul, sum_eq]
  rfl

/-! ## Accuracy -/

/-- An instant is when something put off becomes due: it is what is computed, a whole second, not
later than the delay says, and less than two seconds earlier.  The delay counts with all its
nanoseconds. -/
structure PutOff (now : Instant) (delay : Delay) (due : Instant) : Prop where
  /-- The computation does not run over, and this is its result. -/
  computed : (checkedDueAfter (BitVec.ofNat 128 now) delay).map BitVec.toNat = some due
  /-- The instant is a whole second. -/
  whole : millisecondsPerSecond ∣ due
  /-- It is not too late. -/
  notLate : due * nanosecondsPerMillisecond ≤
    now * nanosecondsPerMillisecond + delay.inNanoseconds
  /-- It is less than two seconds too early. -/
  notEarly : now * nanosecondsPerMillisecond + delay.inNanoseconds <
    (due + 2 * millisecondsPerSecond) * nanosecondsPerMillisecond

theorem millisecondsPerSecond_dvd_dueAfter (now : Instant) (delay : Delay) :
    millisecondsPerSecond ∣ dueAfter now delay :=
  Nat.dvd_mul_left _ _

/-- At every 64-bit reading of a clock, the due instant is what it should be. -/
theorem putOff_dueAfter
    {now : Instant}
    (now_lt : now < 2 ^ 64)
    (delay : Delay) :
    PutOff now delay (dueAfter now delay) where
  computed := by
    have seconds_lt := delay.seconds.toNat_lt
    have reading_eq : (BitVec.ofNat 128 now).toNat = now := by
      rw [BitVec.toNat_ofNat]
      exact Nat.mod_eq_of_lt (Nat.lt_trans now_lt (by decide))
    have fits : dueAfter now delay < 2 ^ 128 := by
      unfold dueAfter millisecondsPerSecond
      simp only [Instant] at *
      omega
    rw [map_toNat_checkedDueAfter, reading_eq, if_pos fits]
  whole := millisecondsPerSecond_dvd_dueAfter now delay
  notLate := by
    unfold dueAfter Delay.inNanoseconds nanosecondsPerMillisecond millisecondsPerSecond
      nanosecondsPerSecond
    simp only [Instant] at *
    omega
  notEarly := by
    have remainder_lt := delay.nanoseconds_lt
    unfold dueAfter Delay.inNanoseconds nanosecondsPerMillisecond millisecondsPerSecond
    unfold nanosecondsPerSecond at *
    simp only [Instant] at *
    omega

/-! ## Order -/

/-- What is due at a whole second that has come is due no later than anything new. -/
theorem le_dueAfter
    {due now : Instant}
    (whole : millisecondsPerSecond ∣ due)
    (hasCome : due ≤ now)
    (delay : Delay) :
    due ≤ dueAfter now delay := by
  obtain ⟨seconds, rfl⟩ := whole
  have seconds_le : seconds ≤ now / millisecondsPerSecond := by
    rw [Nat.le_div_iff_mul_le (by decide), Nat.mul_comm]
    exact hasCome
  rw [dueAfter, Nat.mul_comm]
  exact Nat.mul_le_mul_right _ (Nat.le_trans seconds_le (Nat.le_add_right _ _))

/-- A delay that is no shorter has no fewer whole seconds. -/
theorem Delay.seconds_le
    {delay longer : Delay}
    (notShorter : delay.inNanoseconds ≤ longer.inNanoseconds) :
    delay.seconds.toNat ≤ longer.seconds.toNat := by
  have remainder_lt := longer.nanoseconds_lt
  unfold inNanoseconds at notShorter
  unfold nanosecondsPerSecond at *
  omega

/-- What is put off later, and for no shorter a time, is due no earlier. -/
theorem dueAfter_mono
    {now later : Instant}
    {delay longer : Delay}
    (notBack : now ≤ later)
    (notShorter : delay.inNanoseconds ≤ longer.inNanoseconds) :
    dueAfter now delay ≤ dueAfter later longer := by
  have seconds_le := Delay.seconds_le notShorter
  exact Nat.mul_le_mul_right _ (Nat.add_le_add (Nat.div_le_div_right notBack) seconds_le)

end Agenda
