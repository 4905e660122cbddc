import Agenda.Proofs.Execution.Loops
import Agenda.Proofs.Execution.Parties
import Agenda.Proofs.Execution.Turns
import Mathlib.Algebra.Order.Floor.Div

/-!
# Draining a store

A loop that is left alone, with a poller that waits for as long as it is told, fires every
pending item and then ends because the store is empty.  The items come in the order of their due
instants, and of their acceptance where these are equal.  Each is fired at the first instant at
which it may be, and the number of waits before it is the number of pieces, no longer than the
longest wait, into which the time until then is cut.

The proof is an induction on the pending items, and for each of them on the time left until it is
due.  The handle of a pending item stays its own however often slots are emptied meanwhile, so
only the ledger at the start has to be within bounds.
-/

namespace Agenda

variable {κ D ε : Type}

/-! ## What is to be expected -/

/-- The longest wait that a ceiling allows. -/
def longestWait (ceiling : UInt64) : Nat := min ceiling.toNat (farDistance - 1)

/-- How many waits it takes from an instant to the firing of an item. -/
def pollsUntil (ceiling : UInt64) (now due : Instant) : Nat :=
  max 1 ((due - now) ⌈/⌉ longestWait ceiling)

/-- What is known of an item that a loop has fired. -/
structure Firing (κ D : Type) where
  /-- Its callback. -/
  callback : κ
  /-- What the callback was told. -/
  dispatch : Dispatch D
  /-- What the clock showed. -/
  reading : Instant
  /-- How many waits there were since the firing before it. -/
  polls : Nat
  deriving DecidableEq, Repr

/-- The firings of some entries, one after the other, by a loop that begins at one instant and
has fired its last item at another. -/
def timetable (ceiling : UInt64) (start : Instant) :
    Instant → List (Entry (Item κ D)) → List (Firing κ D)
  | _, [] => []
  | previous, entry :: later =>
      ⟨entry.value.callback, entry.value.dispatch (.stored entry.handle) .timed,
          max start entry.due, pollsUntil ceiling previous entry.due⟩ ::
        timetable ceiling start (max start entry.due) later

/-- The calls that a diary tells of, with the number of waits before each, and the number of waits
after the last; some waits may have gone before. -/
def tally : Nat → Diary κ D → List (Firing κ D) × Nat
  | polls, [] => ([], polls)
  | polls, (_, .polled _ _) :: later => tally (polls + 1) later
  | polls, (reading, .dispatched callback dispatch) :: later =>
      (⟨callback, dispatch, reading, polls⟩ :: (tally 0 later).1, (tally 0 later).2)
  | polls, _ :: later => tally polls later

/-! ## Being left alone -/

/-- The clock shows the same in another state, and the same exit is demanded. -/
structure Host.Undisturbed (host changed : Host ε) : Prop where
  /-- The clock shows the same. -/
  clock_eq : changed.clock = host.clock
  /-- The same exit is demanded. -/
  stop?_eq : changed.signals.stop? = host.signals.stop?

@[refl] theorem Host.Undisturbed.refl (host : Host ε) : host.Undisturbed host := ⟨rfl, rfl⟩

theorem Host.Undisturbed.trans
    {host changed last : Host ε}
    (first : host.Undisturbed changed)
    (second : changed.Undisturbed last) :
    host.Undisturbed last :=
  ⟨second.clock_eq.trans first.clock_eq, second.stop?_eq.trans first.stop?_eq⟩

/-- A routine that leaves alone the items, the clock and the requests to stop. -/
inductive Routine.Bystands : Routine κ D ε → Prop where
  | done : Bystands .done
  | observe {next : Host ε → Routine κ D ε} :
      (∀ host, (next host).Bystands) → Bystands (.observe next)
  | update {change : Host ε → Host ε} {next : Routine κ D ε} :
      (∀ host : Host ε, host.Undisturbed (change host)) → next.Bystands →
      Bystands (.update change next)
  | ask {query : Query} {next : query.Reply → Routine κ D ε} :
      (∀ reply, (next reply).Bystands) → Bystands (.ask query next)
  | nextDue {next : Option Instant → Routine κ D ε} :
      (∀ due, (next due).Bystands) → Bystands (.nextDue next)

/-- Hooks that leave alone the clock and the requests to stop. -/
structure Hooks.Bystand (hooks : Hooks ε) : Prop where
  /-- Rotating the log does. -/
  rotateLog : ∀ now, ∀ host : Host ε, host.Undisturbed (hooks.rotateLog now host)
  /-- Writing the status does. -/
  updateStatus : ∀ host : Host ε, host.Undisturbed (hooks.updateStatus host)

/-- A poller that finds no input and waits for as long as it is told. -/
structure Poller.Sleeps (poller : Poller ε) : Prop where
  /-- No source has input. -/
  result_eq : ∀ timeout host, (poller timeout host).1 = .ok 0
  /-- The whole time passes. -/
  clock_eq : ∀ timeout host, (poller timeout host).2.clock = host.clock.advance timeout
  /-- The same exit is demanded as before. -/
  stop?_eq : ∀ timeout host, (poller timeout host).2.signals.stop? = host.signals.stop?

/-! ## The number of waits -/

section Waits

variable {ceiling : UInt64} {now due : Instant}

theorem longestWait_pos (positive : 0 < ceiling) : 0 < longestWait ceiling := by
  rw [UInt64.lt_iff_toNat_lt, UInt64.toNat_zero] at positive
  unfold longestWait farDistance
  omega

/-- An item that one wait reaches takes one wait. -/
theorem pollsUntil_of_near
    (positive : 0 < ceiling)
    (near : due ≤ now + longestWait ceiling) :
    pollsUntil ceiling now due = 1 := by
  have onePiece : (due - now) ⌈/⌉ longestWait ceiling ≤ 1 := by
    rw [ceilDiv_le_iff_le_mul (longestWait_pos positive)]
    simp only [Instant] at *
    omega
  exact Nat.max_eq_left onePiece

/-- An item that one wait does not reach takes one wait more than from the end of that wait. -/
theorem pollsUntil_of_far
    (positive : 0 < ceiling)
    (far : now + longestWait ceiling < due) :
    pollsUntil ceiling now due = 1 + pollsUntil ceiling (now + longestWait ceiling) due := by
  have wait_pos := longestWait_pos positive
  unfold pollsUntil
  generalize longestWait ceiling = wait at far wait_pos ⊢
  have piecesLeft : 0 < (due - (now + wait)) ⌈/⌉ wait := by
    rw [Nat.pos_iff_ne_zero]
    intro noPiece
    have reached := (ceilDiv_le_iff_le_mul wait_pos).mp (Nat.le_of_eq noPiece)
    simp only [Instant] at *
    omega
  have onePieceMore : (due - now) ⌈/⌉ wait = (due - (now + wait)) ⌈/⌉ wait + 1 := by
    have distance : due - now + wait - 1 = due - (now + wait) + wait - 1 + wait := by
      simp only [Instant] at *
      omega
    rw [Nat.ceilDiv_eq_add_pred_div, Nat.ceilDiv_eq_add_pred_div, distance,
      Nat.add_div_right _ wait_pos]
  rw [onePieceMore]
  generalize (due - (now + wait)) ⌈/⌉ wait = pieces at piecesLeft ⊢
  rw [Nat.max_eq_right (Nat.le_add_left 1 pieces), Nat.max_eq_right piecesLeft, Nat.add_comm]

/-- A wait that does not reach far enough is the longest one, and any other ends when the item is
due. -/
theorem now_after_wait
    {clock : Clock}
    (due_lt : due < 2 ^ 64) :
    (clock.advance (waitFor clock.now due ceiling)).now =
      clock.now + min (due - clock.now) (longestWait ceiling) := by
  have reading_lt : clock.now < 2 ^ 64 := clock.reading.toNat_lt
  have wait_eq := toNat_waitFor clock.now due ceiling
  rw [← longestWait] at wait_eq
  rw [Clock.now_advance, wait_eq]
  rw [wait_eq, UInt64.size]
  simp only [Instant] at *
  omega

end Waits

/-! ## The halves of a turn -/

namespace Scheduler

/-- A scheduler that holds the live entries of a legible ledger, and its ceiling. -/
structure Stocked (scheduler : Scheduler SlotStore κ D) (ledger : Ledger (Item κ D))
    (ceiling : UInt64) : Prop where
  /-- The store holds the live entries. -/
  represents : scheduler.store.Represents ledger
  /-- Their handles are their own. -/
  legible : ledger.Legible
  /-- The ceiling is the longest single wait. -/
  pollCeiling_eq : scheduler.pollCeiling = ceiling

namespace Stocked

variable {scheduler : Scheduler SlotStore κ D} {ledger : Ledger (Item κ D)} {ceiling : UInt64}
variable {entry : Entry (Item κ D)} {host : Host ε} {now : Instant}

theorem peeked (stocked : scheduler.Stocked ledger ceiling) :
    ({ scheduler with store := scheduler.store.peek.2 } : Scheduler SlotStore κ D).Stocked
      ledger ceiling :=
  ⟨stocked.represents.peek, stocked.legible, stocked.pollCeiling_eq⟩

theorem exists_isEarliest
    (stocked : scheduler.Stocked ledger ceiling)
    (someLive : 0 < ledger.live.length) :
    ∃ entry, ledger.IsEarliest entry := by
  cases found : scheduler.store.peek.1 with
  | none =>
      rw [stocked.represents.peek_eq_none_iff.mp found] at someLive
      cases someLive
  | some pair =>
      obtain ⟨entry, earliest, -⟩ :=
        stocked.represents.isEarliest_of_peek_of_legible stocked.legible found
      exact ⟨entry, earliest⟩

theorem peek_eq
    (stocked : scheduler.Stocked ledger ceiling)
    (earliest : ledger.IsEarliest entry) :
    scheduler.store.peek = (some (entry.handle, entry.due), scheduler.store.peek.2) := by
  cases found : scheduler.store.peek.1 with
  | none =>
      have noneLive := stocked.represents.peek_eq_none_iff.mp found
      have present := earliest.1
      rw [noneLive] at present
      cases present
  | some pair =>
      obtain ⟨handle, due⟩ := pair
      obtain ⟨first, firstEarliest, rfl, rfl⟩ :=
        stocked.represents.isEarliest_of_peek_of_legible stocked.legible found
      rw [earliest.eq firstEarliest, ← found]

/-- A turn that no request stops waits for the earliest entry. -/
theorem planTurn_eq
    (stocked : scheduler.Stocked ledger ceiling)
    (earliest : ledger.IsEarliest entry)
    (hooks : Hooks ε)
    (goesOn : host.signals.stop? = none) :
    scheduler.planTurn hooks host =
      ⟨.await ⟨entry.handle, waitFor host.clock.now entry.due ceiling⟩,
        (host.serveRotation hooks).1,
        { scheduler with store := scheduler.store.peek.2 },
        (host.serveRotation hooks).2⟩ := by
  have found : OrderedStore.peek scheduler.store = _ := stocked.peek_eq earliest
  rw [planTurn, goesOn]
  simp only [awaitFirst, found, stocked.pollCeiling_eq]

/-- A turn that no request stops ends the loop if the store is empty. -/
theorem planTurn_of_empty
    (stocked : scheduler.Stocked ledger ceiling)
    (noneLive : ledger.live = [])
    (hooks : Hooks ε)
    (goesOn : host.signals.stop? = none) :
    (scheduler.planTurn hooks host).plan = .leave .queueEmpty ∧
      (scheduler.planTurn hooks host).scheduler.Stocked ledger ceiling := by
  have found : OrderedStore.peek scheduler.store = (none, scheduler.store.peek.2) :=
    Prod.ext (stocked.represents.peek_eq_none_iff.mpr noneLive) rfl
  rw [planTurn, goesOn]
  simp only [awaitFirst, found, true_and]
  exact stocked.peeked

theorem fireIfDue_of_early
    (stocked : scheduler.Stocked ledger ceiling)
    (earliest : ledger.IsEarliest entry)
    (timeout : UInt64)
    (early : now < entry.due) :
    scheduler.fireIfDue ⟨entry.handle, timeout⟩ now =
      (.again, { scheduler with store := scheduler.store.peek.2 }) := by
  have found : OrderedStore.peek scheduler.store = _ := stocked.peek_eq earliest
  have timeIsLeft : 0 < timeLeft now entry.due := (timeLeft_pos_iff now entry.due).mpr early
  simp only [fireIfDue, found, timeIsLeft, not_true, and_false, if_false]

theorem exists_fireIfDue
    (stocked : scheduler.Stocked ledger ceiling)
    (earliest : ledger.IsEarliest entry)
    (timeout : UInt64)
    (due_le : entry.due ≤ now) :
    ∃ next : Scheduler SlotStore κ D,
      scheduler.fireIfDue ⟨entry.handle, timeout⟩ now =
          (.fire (.stored entry.handle) entry.value, next) ∧
        next.Stocked (ledger.erase entry.handle) ceiling := by
  have found : OrderedStore.peek scheduler.store = _ := stocked.peek_eq earliest
  have noTimeLeft : ¬ 0 < timeLeft now entry.due := by
    rw [timeLeft_pos_iff, Nat.not_lt]
    exact due_le
  obtain ⟨store, removed, represents⟩ :=
    stocked.peeked.represents.exists_remove_of_live earliest.1
  have taken : OrderedStore.remove scheduler.store.peek.2 entry.handle = _ := removed
  refine ⟨{ scheduler with store }, ?_, represents, stocked.legible.departWhere _,
    stocked.pollCeiling_eq⟩
  simp only [fireIfDue, found, noTimeLeft, not_false_eq_true, and_self, if_true, remove, taken]

end Stocked

end Scheduler

theorem Host.undisturbed_serveRotation
    {hooks : Hooks ε}
    (bystand : hooks.Bystand)
    (host : Host ε) :
    host.Undisturbed (host.serveRotation hooks).2 := by
  unfold serveRotation
  dsimp only
  split
  · have taken : host.Undisturbed
        { host with signals := host.signals.takeLogRotation.2 } := ⟨rfl, rfl⟩
    exact (taken.trans (bystand.rotateLog _ _)).trans (bystand.updateStatus _)
  · exact .refl host

/-! ## Turns -/

namespace Loop

variable {loop : Loop κ D ε} {scheduler : Scheduler SlotStore κ D} {host : Host ε}
variable {ledger : Ledger (Item κ D)} {ceiling : UInt64} {entry : Entry (Item κ D)}

/-- A routine that stands by comes to its end, and nothing happens in it. -/
theorem exists_passesIn_of_bystands
    (loop : Loop κ D ε)
    (above : List (Task κ D ε))
    {routine : Routine κ D ε}
    (bystands : routine.Bystands)
    (stocked : scheduler.Stocked ledger ceiling)
    (host : Host ε) :
    ∃ steps next changed,
      loop.PassesIn steps (.routine routine :: above) ⟨scheduler, host⟩ [] above
          ⟨next, changed⟩ ∧
        next.Stocked ledger ceiling ∧ host.Undisturbed changed := by
  induction bystands generalizing scheduler host with
  | done =>
      exact ⟨1, scheduler, host, passesIn_of_silent [] (fun _ => rfl) above, stocked, .refl host⟩
  | observe _ inductionHypothesis =>
      obtain ⟨steps, next, changed, passes, stockedThen, undisturbed⟩ :=
        inductionHypothesis host stocked host
      exact ⟨1 + steps, next, changed,
        (passesIn_of_silent [.routine _] (fun _ => rfl) above).trans passes, stockedThen,
        undisturbed⟩
  | update keeps _ inductionHypothesis =>
      obtain ⟨steps, next, changed, passes, stockedThen, undisturbed⟩ :=
        inductionHypothesis stocked _
      exact ⟨1 + steps, next, changed,
        (passesIn_of_silent [.routine _] (fun _ => rfl) above).trans passes, stockedThen,
        (keeps host).trans undisturbed⟩
  | ask _ inductionHypothesis =>
      obtain ⟨steps, next, changed, passes, stockedThen, undisturbed⟩ :=
        inductionHypothesis _ stocked host
      exact ⟨1 + steps, next, changed,
        (passesIn_of_silent [.routine _] (fun _ => rfl) above).trans passes, stockedThen,
        undisturbed⟩
  | nextDue _ inductionHypothesis =>
      obtain ⟨steps, next, changed, passes, stockedThen, undisturbed⟩ :=
        inductionHypothesis _ stocked.peeked host
      exact ⟨1 + steps, next, changed,
        (passesIn_of_silent [.routine _] (fun _ => rfl) above).trans passes, stockedThen,
        undisturbed⟩

theorem tally_begun
    (loop : Loop κ D ε)
    (start : Situation SlotStore κ D ε)
    (now : Instant)
    (polls : Nat)
    (later : Diary κ D) :
    tally polls (stamp now (loop.begun start) ++ later) = tally polls later := by
  rw [begun]
  cases (start.scheduler.planTurn loop.hooks start.host).rotatedAt <;> rfl

section Turns

variable (hooks : loop.hooks.Bystand) (sleeps : loop.poller.Sleeps)
variable (stocked : scheduler.Stocked ledger ceiling) (goesOn : host.signals.stop? = none)
variable (positive : 0 < ceiling)
variable (earliest : ledger.IsEarliest entry) (due_lt : entry.due < 2 ^ 64)

include hooks sleeps stocked goesOn earliest due_lt

/-- A turn waits for the earliest entry. -/
theorem exists_wait :
    ∃ timeout polledHost,
      (scheduler.planTurn loop.hooks host).plan = .await ⟨entry.handle, timeout⟩ ∧
        (scheduler.planTurn loop.hooks host).scheduler.Stocked ledger ceiling ∧
        loop.poller timeout (scheduler.planTurn loop.hooks host).host = (.ok 0, polledHost) ∧
        polledHost.signals.stop? = none ∧
        polledHost.clock.now =
          host.clock.now + min (entry.due - host.clock.now) (longestWait ceiling) := by
  have served := Host.undisturbed_serveRotation hooks host
  rw [stocked.planTurn_eq earliest loop.hooks goesOn]
  refine ⟨_, _, rfl, stocked.peeked, Prod.ext (sleeps.result_eq _ _) rfl, ?_, ?_⟩
  · rw [sleeps.stop?_eq, served.stop?_eq, goesOn]
  · rw [sleeps.clock_eq, served.clock_eq, now_after_wait due_lt]

/-- A turn after which the earliest entry is not due yet changes nothing but the clock. -/
theorem exists_passesIn_early
    (far : host.clock.now + longestWait ceiling < entry.due) :
    ∃ told next changed,
      loop.PassesIn 1 [] ⟨scheduler, host⟩ told [] ⟨next, changed⟩ ∧
        next.Stocked ledger ceiling ∧ changed.signals.stop? = none ∧
        changed.clock.now = host.clock.now + longestWait ceiling ∧
        ∀ polls later, tally polls (told ++ later) = tally (polls + 1) later := by
  obtain ⟨timeout, polledHost, planned, stockedThen, polled, noStop, now_eq⟩ :=
    exists_wait hooks sleeps stocked goesOn earliest due_lt
  have wholeWait : min (entry.due - host.clock.now) (longestWait ceiling) =
      longestWait ceiling := by
    simp only [Instant] at *
    omega
  rw [wholeWait] at now_eq
  have early : polledHost.clock.now < entry.due := by rwa [now_eq]
  refine ⟨_, _, polledHost,
    passesIn_of_again planned polled (stockedThen.fireIfDue_of_early earliest timeout early),
    stockedThen.peeked, noStop, now_eq, fun polls later => ?_⟩
  rw [stamp_append, List.append_assoc, tally_begun]
  rfl

/-- A turn after which the earliest entry is due fires it. -/
theorem exists_passesIn_fire
    (bystands : ∀ told, (loop.act entry.value.callback told).Bystands)
    (near : entry.due ≤ host.clock.now + longestWait ceiling) :
    ∃ steps told next changed,
      loop.PassesIn steps [] ⟨scheduler, host⟩ told [] ⟨next, changed⟩ ∧
        next.Stocked (ledger.erase entry.handle) ceiling ∧ changed.signals.stop? = none ∧
        changed.clock.now = max host.clock.now entry.due ∧
        ∀ polls later, tally polls (told ++ later) =
          (⟨entry.value.callback, entry.value.dispatch (.stored entry.handle) .timed,
              max host.clock.now entry.due, polls + 1⟩ :: (tally 0 later).1,
            (tally 0 later).2) := by
  obtain ⟨timeout, polledHost, planned, stockedThen, polled, noStop, now_eq⟩ :=
    exists_wait hooks sleeps stocked goesOn earliest due_lt
  have reading_eq : polledHost.clock.now = max host.clock.now entry.due := by
    rw [now_eq]
    simp only [Instant] at *
    omega
  have isDue : entry.due ≤ polledHost.clock.now := by
    rw [reading_eq]
    exact Nat.le_max_right _ _
  obtain ⟨fired, settles, stockedAfter⟩ :=
    stockedThen.exists_fireIfDue earliest timeout isDue
  obtain ⟨steps, next, changed, passes, stockedLast, undisturbed⟩ :=
    exists_passesIn_of_bystands loop [] (bystands _) stockedAfter polledHost
  refine ⟨1 + steps, _, next, changed,
    (passesIn_of_fire planned polled settles).trans passes, stockedLast, ?_, ?_, ?_⟩
  · rw [undisturbed.stop?_eq, noStop]
  · rw [undisturbed.clock_eq, reading_eq]
  · intro polls later
    rw [stamp_append, List.append_nil, List.append_assoc, tally_begun, ← reading_eq]
    rfl

include positive

/-- The earliest entry is fired at the first instant at which it may be, after the number of waits
that it takes to get there. -/
theorem exists_passesIn_earliest
    (bystands : ∀ told, (loop.act entry.value.callback told).Bystands) :
    ∃ steps told next changed,
      loop.PassesIn steps [] ⟨scheduler, host⟩ told [] ⟨next, changed⟩ ∧
        next.Stocked (ledger.erase entry.handle) ceiling ∧ changed.signals.stop? = none ∧
        changed.clock.now = max host.clock.now entry.due ∧
        ∀ polls later, tally polls (told ++ later) =
          (⟨entry.value.callback, entry.value.dispatch (.stored entry.handle) .timed,
              max host.clock.now entry.due,
              polls + pollsUntil ceiling host.clock.now entry.due⟩ :: (tally 0 later).1,
            (tally 0 later).2) := by
  -- The induction is on the time left; every wait but the last is the longest one.
  induction left_eq : entry.due - host.clock.now using Nat.strong_induction_on
    generalizing scheduler host with
  | _ left inductionHypothesis =>
      rcases Nat.lt_or_ge (host.clock.now + longestWait ceiling) entry.due with far | near
      · obtain ⟨told, next, changed, passes, stockedThen, noStop, now_eq, tally_eq⟩ :=
          exists_passesIn_early hooks sleeps stocked goesOn earliest due_lt far
        have closer : entry.due - changed.clock.now < left := by
          have wait_pos := longestWait_pos positive
          rw [now_eq]
          simp only [Instant] at *
          omega
        obtain ⟨steps, later, last, changedLast, passesOn, stockedLast, goesOnLast, nowLast_eq,
            tallyLast_eq⟩ :=
          inductionHypothesis _ closer stockedThen noStop rfl
        have sameReading : max changed.clock.now entry.due = max host.clock.now entry.due := by
          rw [now_eq]
          simp only [Instant] at *
          omega
        rw [sameReading] at nowLast_eq tallyLast_eq
        refine ⟨1 + steps, told ++ later, last, changedLast, passes.trans passesOn, stockedLast,
          goesOnLast, nowLast_eq, fun polls rest => ?_⟩
        rw [List.append_assoc, tally_eq, tallyLast_eq, pollsUntil_of_far positive far, now_eq,
          Nat.add_assoc]
      · rw [pollsUntil_of_near positive near]
        exact exists_passesIn_fire hooks sleeps stocked goesOn earliest due_lt bystands near

end Turns

/-! ## Whole loops -/

theorem exists_leavesIn_of_empty
    (stocked : scheduler.Stocked ledger ceiling)
    (noneLive : ledger.live = [])
    (goesOn : host.signals.stop? = none) :
    ∃ told stop,
      loop.LeavesIn 1 [] ⟨scheduler, host⟩ told .queueEmpty stop ∧
        stop.scheduler.size = 0 ∧ tally 0 told = ([], 0) := by
  obtain ⟨planned, stockedThen⟩ := stocked.planTurn_of_empty noneLive loop.hooks goesOn
  refine ⟨_, _, leavesIn_of_plan planned, ?_, ?_⟩
  · have size_eq := stockedThen.represents.holds.size_eq
    rwa [noneLive] at size_eq
  · rw [stamp_append, tally_begun]
    rfl

/-- A loop drains a store by the timetable of its entries.  The timetable may begin at an earlier
instant if no entry was due between it and now. -/
theorem exists_leavesIn_drained
    (hooks : loop.hooks.Bystand)
    (sleeps : loop.poller.Sleeps)
    (positive : 0 < ceiling)
    (start : Instant)
    (stocked : scheduler.Stocked ledger ceiling)
    (goesOn : host.signals.stop? = none)
    (begins : ∀ entry ∈ ledger.live, max host.clock.now entry.due = max start entry.due)
    (due_lt : ∀ entry ∈ ledger.live, entry.due < 2 ^ 64)
    (bystands : ∀ entry ∈ ledger.live, ∀ told, (loop.act entry.value.callback told).Bystands) :
    ∃ entries : List (Entry (Item κ D)),
      entries.Perm ledger.live ∧ entries.Pairwise Entry.before ∧
        ∃ steps told stop,
          loop.LeavesIn steps [] ⟨scheduler, host⟩ told .queueEmpty stop ∧
            stop.scheduler.size = 0 ∧
            tally 0 told = (timetable ceiling start host.clock.now entries, 0) := by
  -- The induction is on the number of pending items.
  induction count_eq : ledger.live.length generalizing ledger scheduler host with
  | zero =>
      have noneLive := List.eq_nil_of_length_eq_zero count_eq
      obtain ⟨told, stop, leaves, size_eq, tally_eq⟩ :=
        exists_leavesIn_of_empty stocked noneLive goesOn
      exact ⟨[], noneLive ▸ .refl _, .nil, 1, told, stop, leaves, size_eq, tally_eq⟩
  | succ count inductionHypothesis =>
      have coherent := stocked.represents.holds.coherent
      obtain ⟨entry, earliest⟩ := stocked.exists_isEarliest (by rw [count_eq]; exact Nat.succ_pos _)
      have perm := coherent.cons_live_erase_perm earliest.1
      obtain ⟨steps, told, next, changed, passes, stockedThen, noStop, now_eq, tally_eq⟩ :=
        exists_passesIn_earliest hooks sleeps stocked goesOn positive earliest
          (due_lt entry earliest.1) (bystands entry earliest.1)
      have stillLive : ∀ other ∈ (ledger.erase entry.handle).live,
          other ∈ ledger.live ∧ entry.before other := by
        intro other otherLive
        obtain ⟨present, otherHandle⟩ := (Ledger.mem_live_departWhere ..).mp otherLive
        refine ⟨present, (earliest.2 other present).resolve_left ?_⟩
        rintro rfl
        simp at otherHandle
      have beginsThen : ∀ other ∈ (ledger.erase entry.handle).live,
          max changed.clock.now other.due = max start other.due := by
        intro other otherLive
        obtain ⟨present, isBefore⟩ := stillLive other otherLive
        have due_le : entry.due ≤ other.due := isBefore.elim Nat.le_of_lt fun same =>
          Nat.le_of_eq same.1
        have beginsOther := begins other present
        rw [now_eq]
        simp only [Instant] at *
        omega
      have countThen_eq : (ledger.erase entry.handle).live.length = count :=
        Nat.succ.inj (perm.length_eq.trans count_eq)
      obtain ⟨entries, entries_perm, pairwise, more, later, stop, leaves, size_eq, laterTally_eq⟩ :=
        inductionHypothesis stockedThen noStop beginsThen
          (fun other otherLive => due_lt other (stillLive other otherLive).1)
          (fun other otherLive => bystands other (stillLive other otherLive).1) countThen_eq
      refine ⟨entry :: entries, (entries_perm.cons entry).trans perm, ?_, steps + more,
        told ++ later, stop, passes.leavesIn leaves, size_eq, ?_⟩
      · rw [List.pairwise_cons]
        exact ⟨fun other inLater => (stillLive other (entries_perm.mem_iff.mp inLater)).2, pairwise⟩
      · rw [tally_eq, laterTally_eq, now_eq, Nat.zero_add, begins entry earliest.1, timetable]

/-- Whatever has been done at a scheduler, as long as fewer than 2^64 items were taken and no slot
was emptied 2^32 times, a loop that is left alone fires each pending item once, in the order of
their due instants and, where these are equal, of their acceptance; it fires an item when it is
due, or at once if it is overdue, after as many waits as it takes; and then it ends because the
store is empty. -/
theorem draining_follows_timetable
    (loop : Loop κ D ε)
    (mover : Nat → Nat)
    (parties : Parties SlotStore κ D ε)
    (limit : Option Nat)
    (startsEmpty : parties.scheduler.store = .empty limit)
    (steps : Nat)
    (bounds : (parties.ledger loop.act mover steps).WithinBounds)
    (host : Host ε)
    (goesOn : host.signals.stop? = none)
    (positive : 0 < (parties.after loop.act mover steps).scheduler.pollCeiling)
    (due_lt : ∀ entry ∈ (parties.ledger loop.act mover steps).live, entry.due < 2 ^ 64)
    (bystands : ∀ entry ∈ (parties.ledger loop.act mover steps).live, ∀ told,
      (loop.act entry.value.callback told).Bystands)
    (hooks : loop.hooks.Bystand)
    (sleeps : loop.poller.Sleeps) :
    let scheduler := (parties.after loop.act mover steps).scheduler
    ∃ entries told stop,
      entries.Perm (parties.ledger loop.act mover steps).live ∧
        (∀ handle item, scheduler.store.get? handle = some item ↔
          ∃ entry ∈ entries, entry.handle = handle ∧ entry.value = item) ∧
        entries.Pairwise Entry.before ∧
        loop.Leaves ⟨scheduler, host⟩ told .queueEmpty stop ∧
        stop.scheduler.size = 0 ∧
        tally 0 told =
          (timetable scheduler.pollCeiling host.clock.now host.clock.now entries, 0) := by
  intro scheduler
  have represents := (parties.course loop.act mover).represents startsEmpty steps
  have stocked : scheduler.Stocked (parties.ledger loop.act mover steps) scheduler.pollCeiling :=
    ⟨represents, represents.holds.coherent.legible bounds, rfl⟩
  obtain ⟨entries, perm, pairwise, more, told, stop, leaves, size_eq, tally_eq⟩ :=
    exists_leavesIn_drained hooks sleeps positive host.clock.now stocked goesOn
      (fun _ _ => rfl) due_lt bystands
  refine ⟨entries, told, stop, perm, fun handle item => ?_, pairwise, ⟨more, leaves⟩, size_eq,
    tally_eq⟩
  simp only [perm.mem_iff]
  exact represents.holds.get?_eq_some_iff handle item

/-- Three items, of which two are due at the same instant, and a fourth one that is cancelled. -/
def errands : Parties SlotStore Char Nat Unit :=
  .start (.ofStore (.empty none)) ⟨⟨5000⟩, .clear, ()⟩ fun _ =>
    .schedule (.ofSeconds 4) 'a' 0 fun _ => .schedule (.ofSeconds 1) 'b' 1 fun second =>
      .schedule (.ofSeconds 0) 'c' 2 fun _ => .cancel second fun _ =>
        .schedule (.ofSeconds 4) 'd' 3 fun _ => .done

/-- A loop whose callbacks do nothing, and that sleeps between them. -/
def sleeper : Loop Char Nat Unit := ⟨fun _ _ => .done, .idle, Parties.sleep⟩

theorem draining_follows_timetable_errands :
    let now : Host Unit := ⟨⟨5500⟩, .clear, ()⟩
    let scheduler := (errands.after sleeper.act (fun _ => 0) 6).scheduler
    errands.scheduler.store = .empty none ∧
      (errands.ledger sleeper.act (fun _ => 0) 6).WithinBounds ∧
      now.signals.stop? = none ∧ 0 < scheduler.pollCeiling ∧
      (∀ entry ∈ (errands.ledger sleeper.act (fun _ => 0) 6).live, entry.due < 2 ^ 64) ∧
      ∃ told stop,
        sleeper.Leaves ⟨scheduler, now⟩ told .queueEmpty stop ∧
          tally 0 told =
            ([⟨'c', ⟨.stored ⟨2, 0⟩, 5000, .timed, 0, 2⟩, 5500, 1⟩,
              ⟨'a', ⟨.stored ⟨0, 0⟩, 9000, .timed, 0, 0⟩, 9000, 3⟩,
              ⟨'d', ⟨.stored ⟨1, 1⟩, 9000, .timed, 0, 3⟩, 9000, 1⟩], 0) := by
  intro now scheduler
  have bounds : (errands.ledger sleeper.act (fun _ => 0) 6).WithinBounds :=
    errands.withinBounds_of_short _ _ (by decide)
  have due_lt : ∀ entry ∈ (errands.ledger sleeper.act (fun _ => 0) 6).live,
      entry.due < 2 ^ 64 := by
    decide +kernel
  have hooks : sleeper.hooks.Bystand := ⟨fun _ host => .refl host, .refl⟩
  have sleeps : sleeper.poller.Sleeps :=
    ⟨fun _ _ => rfl, fun _ _ => rfl, fun _ _ => rfl⟩
  refine ⟨rfl, bounds, rfl, by decide +kernel, due_lt, ?_⟩
  obtain ⟨entries, told, stop, perm, -, pairwise, leaves, -, tally_eq⟩ :=
    draining_follows_timetable sleeper (fun _ => 0) errands none rfl 6 bounds now rfl
      (by decide +kernel) due_lt (fun _ _ _ => .done) hooks sleeps
  refine ⟨told, stop, leaves, ?_⟩
  have entries_eq : entries = [⟨⟨2, 0⟩, 5000, 2, ⟨5000, 'c', 2⟩⟩,
      ⟨⟨0, 0⟩, 9000, 0, ⟨9000, 'a', 0⟩⟩, ⟨⟨1, 1⟩, 9000, 3, ⟨9000, 'd', 3⟩⟩] :=
    Entry.eq_of_pairwise_before (perm.trans (by decide +kernel)) pairwise (by decide)
  rw [tally_eq, entries_eq]
  decide +kernel

end Loop
end Agenda
