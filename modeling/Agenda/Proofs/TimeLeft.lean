import Agenda.Time
import Mathlib.Order.Lattice

/-!
# The time left and the wait for it

The time left until an instant is the distance to it, held at the ends of the signed 64-bit
range.  So a wait is the distance to the instant, at most the ceiling, and at most 2^63 - 1.
-/

namespace Agenda

/-- The time left is the distance, held at the ends of the signed 64-bit range. -/
theorem toInt_timeLeft (start stop : Instant) :
    (timeLeft start stop).toInt =
      max (-(farDistance : Int)) (min ((stop : Int) - start) (farDistance - 1)) := by
  unfold timeLeft farDistance
  split
  next notLater =>
    split
    next near =>
      rw [Int64.toInt_ofNat_of_lt near]
      simp only [Instant] at *
      omega
    next far =>
      rw [Int64.toInt_maxValue]
      simp only [Instant] at *
      omega
  next later =>
    split
    next near =>
      rw [Int64.toInt_neg_ofNat_of_le (Nat.le_of_lt near)]
      simp only [Instant] at *
      omega
    next far =>
      rw [Int64.toInt_minValue]
      simp only [Instant] at *
      omega

/-- There is time left until an instant exactly if it lies ahead. -/
theorem timeLeft_pos_iff (now due : Instant) : 0 < timeLeft now due ↔ now < due := by
  rw [Int64.lt_iff_toInt_lt, Int64.toInt_zero, toInt_timeLeft, farDistance]
  simp only [Instant] at *
  omega

/-- A wait is as long as the time left, but no longer than the ceiling or than the largest signed
64-bit number. -/
theorem toNat_waitFor (now due : Instant) (ceiling : UInt64) :
    (waitFor now due ceiling).toNat =
      min (due - now) (min ceiling.toNat (farDistance - 1)) := by
  have left_eq := toInt_timeLeft now due
  unfold waitFor
  split
  next noneLeft =>
    rw [Int64.lt_iff_toInt_lt, Int64.toInt_zero, left_eq] at noneLeft
    unfold farDistance at *
    simp only [Instant, UInt64.toNat_zero] at *
    omega
  next someLeft =>
    have notNegative : 0 ≤ timeLeft now due := Int64.not_lt.mp someLeft
    have left_le : 0 ≤ (timeLeft now due).toInt := by
      rwa [Int64.le_iff_toInt_le, Int64.toInt_zero] at notNegative
    rw [UInt64.toNat_min, Int64.toNat_toUInt64_of_le notNegative, Int64.toNatClampNeg, left_eq]
    rw [left_eq] at left_le
    unfold farDistance at *
    simp only [Instant] at *
    omega

end Agenda
