import Agenda.Proofs.Execution.Pending
import Agenda.Proofs.Execution.Turns
import Mathlib.Algebra.Group.Int.Defs

/-!
# How long a turn waits

The time left until an instant is exact but for the ends of the signed 64-bit range, and so is a
wait for the instant but for its ceiling.  A turn waits for the earliest item.  So it never sleeps
past any of the pending items, and it does not sleep at all exactly if one of them is due.  The
second half of a turn asks for the time left, too; where the clock has not moved, it finds the item
due exactly if the first half did.
-/

namespace Agenda

variable {κ D ε : Type}

/-! ## Waits and due items -/

/-- Where waiting is allowed, there is no wait exactly if there is no time left. -/
theorem waitFor_eq_zero_iff
    {now due : Instant}
    {ceiling : UInt64}
    (positive : 1 ≤ ceiling) :
    waitFor now due ceiling = 0 ↔ due ≤ now := by
  have ceiling_pos : 1 ≤ ceiling.toNat := UInt64.le_iff_toNat_le.mp positive
  rw [← UInt64.toNat_inj, toNat_waitFor, farDistance, UInt64.toNat_zero]
  simp only [Instant] at *
  omega

theorem waitFor_le (now due : Instant) (ceiling : UInt64) : waitFor now due ceiling ≤ ceiling := by
  rw [UInt64.le_iff_toNat_le, toNat_waitFor]
  omega

/-- A turn that begins at an instant waits for the right time. -/
structure Scheduler.WaitsExactly (scheduler : Scheduler SlotStore κ D) (now : Instant) (wait : Wait)
    (planned : Scheduler SlotStore κ D) : Prop where
  /-- It waits for a pending item, for as long as its due instant and the ceiling say. -/
  timeout_eq : ∃ item, scheduler.store.get? wait.handle = some item ∧
    wait.timeout = waitFor now item.due scheduler.pollCeiling
  /-- The ceiling is respected. -/
  timeout_le_ceiling : wait.timeout ≤ scheduler.pollCeiling
  /-- The turn does not sleep past any pending item. -/
  timeout_le : ∀ handle item, scheduler.store.get? handle = some item →
    (wait.timeout.toNat : Int) ≤ max ((item.due : Int) - now) 0
  /-- If waiting is allowed, the turn does not sleep exactly if some pending item is due. -/
  timeout_eq_zero_iff : 1 ≤ scheduler.pollCeiling →
    (wait.timeout = 0 ↔ ∃ handle item, scheduler.store.get? handle = some item ∧ item.due ≤ now)
  /-- And then it is to be fired by the second half, if the clock has not moved. -/
  fires_iff : 1 ≤ scheduler.pollCeiling →
    (wait.timeout = 0 ↔
      ∃ item, (planned.settleTurn wait (.ok 0) now).1 = .fire (.stored wait.handle) item)

namespace Scheduler

variable {scheduler : Scheduler SlotStore κ D} {ledger : Ledger (Item κ D)}

/-- The awaited item is fired exactly if it is due, where nothing has happened since. -/
theorem exists_fire_iff
    (represents : scheduler.store.Represents ledger)
    (bounds : ledger.WithinBounds)
    {wait : Wait}
    {entry : Entry (Item κ D)}
    (earliest : ledger.IsEarliest entry)
    (handle_eq : entry.handle = wait.handle)
    (now : Instant) :
    (∃ item, (scheduler.settleTurn wait (.ok 0) now).1 = .fire (.stored wait.handle) item) ↔
      entry.due ≤ now := by
  constructor
  · rintro ⟨item, fires⟩
    by_contra notYet
    have noneDue : ∀ other, ¬ Completion.IsDue ⟨wait, .ok 0, now⟩ ledger other := by
      intro other isDue
      rw [isDue.earliest.eq earliest] at isDue
      exact notYet isDue.due_le
    exact settleTurn_of_not_isDue represents bounds noneDue _ _ fires
  · intro due_le
    have isDue : Completion.IsDue ⟨wait, .ok 0, now⟩ ledger entry :=
      ⟨rfl, earliest, handle_eq, due_le⟩
    rw [← handle_eq]
    exact ⟨entry.value, settleTurn_of_isDue represents bounds isDue⟩

theorem waitsExactly
    (represents : scheduler.store.Represents ledger)
    (bounds : ledger.WithinBounds)
    (agree : ledger.DuesAgree)
    {hooks : Hooks ε}
    {host : Host ε}
    {wait : Wait}
    (planned : (scheduler.planTurn hooks host).plan = .await wait) :
    scheduler.WaitsExactly host.clock.now wait (scheduler.planTurn hooks host).scheduler := by
  obtain ⟨-, -, entry, earliest, handle_eq, timeout_eq⟩ :=
    of_planTurn_await represents bounds planned
  have found : scheduler.store.get? wait.handle = some entry.value :=
    (represents.holds.get?_eq_some_iff _ _).mpr ⟨entry, earliest.1, handle_eq, rfl⟩
  have due_eq : ∀ other ∈ ledger.live, other.due = other.value.due := fun other live =>
    agree other (Ledger.mem_issued_of_live live)
  have due_le : ∀ handle item, scheduler.store.get? handle = some item → entry.due ≤ item.due := by
    intro handle item isPending
    obtain ⟨other, live, -, rfl⟩ := (represents.holds.get?_eq_some_iff handle item).mp isPending
    rw [← due_eq other live]
    rcases earliest.2 other live with rfl | sooner | ⟨sameDue, -⟩
    · exact Nat.le_refl _
    · exact Nat.le_of_lt sooner
    · exact Nat.le_of_eq sameDue
  refine ⟨⟨entry.value, found, ?_⟩, ?_, ?_, ?_, ?_⟩
  · rw [timeout_eq, due_eq entry earliest.1]
  · rw [timeout_eq]
    exact waitFor_le _ _ _
  · intro handle item isPending
    have sooner := due_le handle item isPending
    rw [timeout_eq, toNat_waitFor]
    simp only [Instant] at *
    omega
  · intro positive
    rw [timeout_eq, waitFor_eq_zero_iff positive]
    constructor
    · intro isDue
      refine ⟨wait.handle, entry.value, found, ?_⟩
      rw [← due_eq entry earliest.1]
      exact isDue
    · rintro ⟨handle, item, isPending, isDue⟩
      exact Nat.le_trans (due_le handle item isPending) isDue
  · intro positive
    have planned_represents :=
      (scheduler.planTurn_effects hooks host 0).represents represents
    rw [timeout_eq, waitFor_eq_zero_iff positive,
      exists_fire_iff planned_represents bounds earliest handle_eq]

end Scheduler

/-! ## Whole courses -/

namespace Parties

/-- Waits are exact at every magnitude, and no turn of a loop ever sleeps past an item, whatever any
number of parties do at the scheduler. -/
theorem waits_are_exact
    (act : Interpretation κ D ε)
    (mover : Nat → Nat)
    (parties : Parties SlotStore κ D ε)
    (limit : Option Nat)
    (startsEmpty : parties.scheduler.store = .empty limit)
    (time : Nat)
    (bounds : (parties.ledger act mover time).WithinBounds) :
    (∀ start stop : Instant, (timeLeft start stop).toInt =
      max (-2 ^ 63) (min ((stop : Int) - start) (2 ^ 63 - 1))) ∧
    (∀ (now due : Instant) (ceiling : UInt64), ((waitFor now due ceiling).toNat : Int) =
      min (max ((due : Int) - now) 0) (min (ceiling.toNat : Int) (2 ^ 63 - 1))) ∧
    (∀ now due : Instant, 0 < timeLeft now due ↔ now < due) ∧
    ∀ (hooks : Hooks ε) (host : Host ε) (wait : Wait),
      ((parties.after act mover time).scheduler.planTurn hooks host).plan = .await wait →
        (parties.after act mover time).scheduler.WaitsExactly host.clock.now wait
          ((parties.after act mover time).scheduler.planTurn hooks host).scheduler := by
  refine ⟨?_, ?_, timeLeft_pos_iff, ?_⟩
  · intro start stop
    rw [toInt_timeLeft, farDistance]
    rfl
  · intro now due ceiling
    rw [toNat_waitFor, farDistance]
    simp only [Instant] at *
    omega
  · intro hooks host wait planned
    have represents := (parties.course act mover).represents startsEmpty time
    exact Scheduler.waitsExactly represents bounds (Ledger.duesAgree_ofHistory _) planned

theorem waits_are_exact_visit :
    let reached := visit.after visitAct visitMover 24
    let planned := reached.scheduler.planTurn .idle reached.host
    visit.scheduler.store = .empty (some 2) ∧
      (visit.ledger visitAct visitMover 24).WithinBounds ∧
      (timeLeft 0 (2 ^ 100)).toInt = 2 ^ 63 - 1 ∧
      (timeLeft (2 ^ 100) 0).toInt = -2 ^ 63 ∧
      planned.plan = .await ⟨⟨0, 1⟩, 1000⟩ ∧
      reached.scheduler.WaitsExactly 5000 ⟨⟨0, 1⟩, 1000⟩ planned.scheduler := by
  intro reached planned
  have bounds := visit.withinBounds_of_short visitAct visitMover (show 5 * 24 < 2 ^ 32 by decide)
  obtain ⟨left_eq, -, -, waits⟩ :=
    waits_are_exact visitAct visitMover visit (some 2) rfl 24 bounds
  have awaits : planned.plan = .await ⟨⟨0, 1⟩, 1000⟩ := by decide +kernel
  have now_eq : reached.host.clock.now = 5000 := by decide +kernel
  refine ⟨rfl, bounds, ?_, ?_, awaits, ?_⟩
  · rw [left_eq]
    decide
  · rw [left_eq]
    decide
  · rw [← now_eq]
    exact waits .idle reached.host _ awaits

end Parties
end Agenda
