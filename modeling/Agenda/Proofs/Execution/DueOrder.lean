import Agenda.Proofs.Execution.FiringOrder
import Agenda.Proofs.Execution.SafeFiring

/-!
# Due instants keep the order of requests

Two items are scheduled at one scheduler, the second one later, at a reading of the clock that is
no smaller, and with a delay that is no shorter.  Then the second item is due no earlier than the
first, and no loop ever fires it while the first is still pending, whatever is cancelled,
scheduled or released in between and whichever way the clock moves.

Requests less than a second apart may be due at the same instant.  What keeps them in order then
is the number that the store gives to an entry: an entry that is fired comes before all others in
the store, by its due instant or by its number.
-/

namespace Agenda

variable {κ D ε : Type}

/-! ## Accepted requests -/

namespace Execution

variable {σ : Type → Type} [OrderedStore σ]

/-- The next step answers a request to schedule something after a delay, and the store takes the
item under a handle. -/
inductive Takes (act : Interpretation κ D ε) (execution : Execution σ κ D ε) (delay : Delay)
    (handle : SlotHandle) (item : Item κ D) : Prop where
  /-- The item would be kept aside if the store refused it. -/
  | schedule {callback : κ} {data : D} {next : ItemHandle → Routine κ D ε}
      {below : List (Task κ D ε)} :
      execution.tasks = .routine (.schedule delay callback data next) :: below →
      (execution.step act).1 = [.accepted (.stored handle) item] →
      Takes act execution delay handle item
  /-- The item would be given up if the store refused it. -/
  | trySchedule {callback : κ} {data : D} {next : Except SchedulerError ItemHandle → Routine κ D ε}
      {below : List (Task κ D ε)} :
      execution.tasks = .routine (.trySchedule delay callback data next) :: below →
      (execution.step act).1 = [.accepted (.stored handle) item] →
      Takes act execution delay handle item

variable {act : Interpretation κ D ε} {execution : Execution σ κ D ε} {delay : Delay}
variable {handle : SlotHandle} {item : Item κ D}

theorem Takes.events_eq (takes : Takes act execution delay handle item) :
    (execution.step act).1 = [.accepted (.stored handle) item] := by
  cases takes with
  | schedule _ events_eq | trySchedule _ events_eq => exact events_eq

/-- An item that is taken is due after its delay, from the instant that the clock shows. -/
theorem Takes.due_eq (takes : Takes act execution delay handle item) :
    item.due = dueAfter execution.host.clock.now delay := by
  obtain ⟨scheduler, host, tasks⟩ := execution
  cases takes with
  | schedule tasks_eq events_eq =>
      obtain rfl := tasks_eq
      simp only [step, request, List.singleton_inj] at events_eq
      split at events_eq
      next => cases events_eq
      next =>
        injection events_eq with _ item_eq
        rw [← item_eq]
        rfl
  | trySchedule tasks_eq events_eq =>
      obtain rfl := tasks_eq
      have told_eq := List.singleton_inj.mp events_eq
      split at told_eq
      next =>
        cases told_eq
        rfl
      next => cases told_eq

end Execution

/-- A request to schedule something that the store has taken. -/
structure Scheduling (κ D : Type) where
  /-- How many steps were made before the one that answers the request. -/
  time : Nat
  /-- The delay that was asked for. -/
  delay : Delay
  /-- The handle under which the store has taken the item. -/
  handle : SlotHandle
  /-- The item. -/
  item : Item κ D

namespace Scheduling

/-- A request was made by one of several parties. -/
def OccursIn (act : Interpretation κ D ε) (mover : Nat → Nat) (parties : Parties SlotStore κ D ε)
    (scheduling : Scheduling κ D) : Prop :=
  ((parties.after act mover scheduling.time).execution (mover scheduling.time)).Takes act
    scheduling.delay scheduling.handle scheduling.item

/-- The entry that a request makes. -/
def entry (act : Interpretation κ D ε) (mover : Nat → Nat) (parties : Parties SlotStore κ D ε)
    (scheduling : Scheduling κ D) : Entry (Item κ D) :=
  (parties.ledger act mover scheduling.time).newEntry scheduling.handle scheduling.item.due
    scheduling.item

variable {act : Interpretation κ D ε} {mover : Nat → Nat} {parties : Parties SlotStore κ D ε}
variable {scheduling first second : Scheduling κ D}

theorem OccursIn.ledger_eq (occurs : scheduling.OccursIn act mover parties) :
    parties.ledger act mover (scheduling.time + 1) =
      (parties.ledger act mover scheduling.time).add scheduling.handle scheduling.item.due
        scheduling.item := by
  rw [Parties.ledger_succ, Parties.events_step, Execution.Takes.events_eq occurs]
  rfl

theorem OccursIn.mem_issued
    (occurs : scheduling.OccursIn act mover parties)
    {time : Nat}
    (later : scheduling.time < time) :
    scheduling.entry act mover parties ∈ (parties.ledger act mover time).issued := by
  apply ((parties.course act mover).extends_ledger later).issued_subset
  change _ ∈ (parties.ledger act mover (scheduling.time + 1)).issued
  rw [occurs.ledger_eq, Ledger.issued_add]
  exact List.mem_append_right _ List.mem_cons_self

/-- Entries are numbered in the order of the requests. -/
theorem OccursIn.order_lt
    (occurs : first.OccursIn act mover parties)
    (isLater : first.time < second.time) :
    (first.entry act mover parties).order < (second.entry act mover parties).order := by
  have inserted_le := ((parties.course act mover).extends_ledger isLater).inserted_le
  change (parties.ledger act mover (first.time + 1)).inserted ≤ _ at inserted_le
  rw [occurs.ledger_eq, Ledger.inserted_add] at inserted_le
  exact inserted_le

/-- The instant at which the item is due is what the delay asks for. -/
theorem OccursIn.putOff (occurs : scheduling.OccursIn act mover parties) :
    PutOff (parties.after act mover scheduling.time).host.clock.now scheduling.delay
      scheduling.item.due := by
  rw [Execution.Takes.due_eq occurs]
  exact putOff_dueAfter (UInt64.toNat_lt _) scheduling.delay

/-- What is asked for later, and not sooner, is due no earlier. -/
theorem OccursIn.due_le
    (occursFirst : first.OccursIn act mover parties)
    (occursSecond : second.OccursIn act mover parties)
    (notBack : (parties.after act mover first.time).host.clock.now ≤
      (parties.after act mover second.time).host.clock.now)
    (notShorter : first.delay.inNanoseconds ≤ second.delay.inNanoseconds) :
    first.item.due ≤ second.item.due := by
  rw [Execution.Takes.due_eq occursFirst, Execution.Takes.due_eq occursSecond]
  exact dueAfter_mono notBack notShorter

/-- Of two entries, the one that was asked for first comes before the other, unless it is due
later. -/
theorem OccursIn.before
    (occurs : first.OccursIn act mover parties)
    (isLater : first.time < second.time)
    (due_le : first.item.due ≤ second.item.due) :
    (first.entry act mover parties).before (second.entry act mover parties) := by
  rcases Nat.lt_or_eq_of_le due_le with isEarlier | sameDue
  · exact Or.inl isEarlier
  · exact Or.inr ⟨sameDue, occurs.order_lt isLater⟩

/-- An item that its handle still names is pending. -/
theorem OccursIn.pending
    (occurs : scheduling.OccursIn act mover parties)
    {limit : Option Nat}
    (startsEmpty : parties.scheduler.store = .empty limit)
    {time : Nat}
    (later : scheduling.time < time)
    (bounds : (parties.ledger act mover time).WithinBounds)
    (contained : (parties.after act mover time).scheduler.contains (.stored scheduling.handle) =
      true) :
    scheduling.entry act mover parties ∈ (parties.ledger act mover time).live := by
  have represents : (parties.after act mover time).scheduler.store.Represents
      (parties.ledger act mover time) := Parties.represents startsEmpty time
  obtain ⟨entry, live, sameHandle⟩ :=
    (represents.holds.contains_iff scheduling.handle).mp contained
  have isEntry : entry = scheduling.entry act mover parties :=
    represents.holds.coherent.eq_of_handle_eq bounds (Ledger.mem_issued_of_live live)
      (occurs.mem_issued later) sameHandle
  rwa [← isEntry]

end Scheduling

/-! ## Firing the earliest -/

namespace Parties

variable {act : Interpretation κ D ε} {mover : Nat → Nat} {parties : Parties SlotStore κ D ε}
variable {limit : Option Nat} {time : Nat}

/-- What a loop fires is the earliest entry. -/
theorem exists_earliest_of_timed
    (startsEmpty : parties.scheduler.store = .empty limit)
    (bounds : (parties.ledger act mover time).WithinBounds)
    {told : Dispatch D}
    (hasFired : told ∈ timedDispatches ((parties.after act mover time).step act (mover time)).1) :
    ∃ entry, (parties.ledger act mover time).IsEarliest entry ∧ told = entry.fired := by
  obtain ⟨isTimed, callback, called⟩ := (mem_timedDispatches _ _).mp hasFired
  cases completes : ((parties.after act mover time).execution (mover time)).completion? with
  | none =>
      have isAbort := Execution.reason_of_dispatched act _ called completes
      rw [isAbort] at isTimed
      cases isTimed
  | some completion =>
      by_cases someDue : ∃ entry, completion.IsDue (parties.ledger act mover time) entry
      · obtain ⟨entry, isDue⟩ := someDue
        obtain ⟨begun, quiet, events_eq⟩ := events_of_isDue startsEmpty bounds completes isDue
        rw [events_eq, List.mem_append, List.mem_singleton] at called
        rcases called with isBegun | isCall
        · cases quiet _ isBegun
        · cases isCall
          exact ⟨entry, isDue.earliest, rfl⟩
      · have leaves := leavesItems_of_not_isDue startsEmpty bounds completes
          (not_exists.mp someDue)
        rw [← mem_calls, leaves.calls_eq] at called
        cases called

/-- No entry is fired while one that comes before it is pending. -/
theorem not_fired_of_before
    (startsEmpty : parties.scheduler.store = .empty limit)
    (bounds : (parties.ledger act mover time).WithinBounds)
    {entry other : Entry (Item κ D)}
    (pending : entry ∈ (parties.ledger act mover time).live)
    (issued : other ∈ (parties.ledger act mover time).issued)
    (isBefore : entry.before other) :
    ∀ told ∈ timedDispatches ((parties.after act mover time).step act (mover time)).1,
      told.handle ≠ .stored other.handle := by
  intro told hasFired sameHandle
  obtain ⟨fired, earliest, rfl⟩ := exists_earliest_of_timed startsEmpty bounds hasFired
  have coherent : (parties.ledger act mover time).Coherent :=
    (represents startsEmpty time).holds.coherent
  have isOther : fired = other :=
    coherent.eq_of_handle_eq bounds (Ledger.mem_issued_of_live earliest.1) issued
      (ItemHandle.stored.inj sameHandle)
  rw [isOther] at earliest
  rcases earliest.2 entry pending with same | isAfter
  · rw [same] at isBefore
    exact Entry.not_before_of_before isBefore isBefore
  · exact Entry.not_before_of_before isBefore isAfter

/-- Whatever any number of parties do at a scheduler whose store is empty at first: due instants
are what the delays ask for, without running over, and they keep the order of the requests.  Of
two requests the second of which is made later, at a reading of the clock that is no smaller, and
with a delay that is no shorter, the second is due no earlier, and within bounds it is never fired
while the first is pending. -/
theorem due_instants_keep_order
    (act : Interpretation κ D ε)
    (mover : Nat → Nat)
    (parties : Parties SlotStore κ D ε)
    (limit : Option Nat)
    (startsEmpty : parties.scheduler.store = .empty limit) :
    (∀ now delay, now < 2 ^ 64 → PutOff now delay (dueAfter now delay)) ∧
      (∀ scheduling : Scheduling κ D, scheduling.OccursIn act mover parties →
        PutOff (parties.after act mover scheduling.time).host.clock.now scheduling.delay
          scheduling.item.due) ∧
      ∀ first second : Scheduling κ D,
        first.OccursIn act mover parties → second.OccursIn act mover parties →
        first.time < second.time →
        (parties.after act mover first.time).host.clock.now ≤
          (parties.after act mover second.time).host.clock.now →
        first.delay.inNanoseconds ≤ second.delay.inNanoseconds →
          first.item.due ≤ second.item.due ∧
            ∀ time, second.time < time → (parties.ledger act mover time).WithinBounds →
              (parties.after act mover time).scheduler.contains (.stored first.handle) = true →
                ∀ told ∈ timedDispatches
                    ((parties.after act mover time).step act (mover time)).1,
                  told.handle ≠ .stored second.handle := by
  refine ⟨fun _ delay now_lt => putOff_dueAfter now_lt delay, fun _ occurs => occurs.putOff, ?_⟩
  intro first second occursFirst occursSecond isLater notBack notShorter
  have due_le := occursFirst.due_le occursSecond notBack notShorter
  refine ⟨due_le, fun time afterBoth bounds contained => ?_⟩
  exact not_fired_of_before startsEmpty bounds
    (occursFirst.pending startsEmpty (Nat.lt_trans isLater afterBoth) bounds contained)
    (occursSecond.mem_issued afterBoth) (occursFirst.before isLater due_le)

/-- Two items of one second, and a clock that goes back once both are taken. -/
def sameSecond : Parties SlotStore Char Nat Unit :=
  .start (.ofStore (.empty none)) ⟨⟨5400⟩, .clear, ()⟩ fun _ =>
    .schedule (.ofParts 1 200000000) 'a' 0 fun _ =>
      .update (fun host => { host with clock := host.clock.set 5900 }) <|
        .trySchedule (.ofParts 1 700000000) 'b' 1 fun _ =>
          .update (fun host => { host with clock := host.clock.set 1000 }) <|
            .runLoop .idle sleep fun _ => .done

/-- The first of the two requests. -/
def sameSecondFirst : Scheduling Char Nat := ⟨0, .ofParts 1 200000000, ⟨0, 0⟩, ⟨6000, 'a', 0⟩⟩

/-- The second of the two requests. -/
def sameSecondNext : Scheduling Char Nat := ⟨2, .ofParts 1 700000000, ⟨1, 0⟩, ⟨6000, 'b', 1⟩⟩

theorem due_instants_keep_order_same_second :
    sameSecond.scheduler.store = .empty none ∧
      PutOff 1000750 (.ofParts 2 900000000) 1002000 ∧
      sameSecondFirst.OccursIn visitAct (fun _ => 0) sameSecond ∧
      sameSecondNext.OccursIn visitAct (fun _ => 0) sameSecond ∧
      (sameSecond.after visitAct (fun _ => 0) 0).host.clock.now ≤
        (sameSecond.after visitAct (fun _ => 0) 2).host.clock.now ∧
      sameSecondFirst.delay.inNanoseconds ≤ sameSecondNext.delay.inNanoseconds ∧
      sameSecondFirst.item.due ≤ sameSecondNext.item.due ∧
      (sameSecond.ledger visitAct (fun _ => 0) 8).WithinBounds ∧
      (sameSecond.after visitAct (fun _ => 0) 8).scheduler.contains (.stored ⟨0, 0⟩) = true ∧
      (timedDispatches ((sameSecond.after visitAct (fun _ => 0) 8).step visitAct 0).1).map
        Dispatch.handle = [.stored ⟨0, 0⟩] ∧
      ∀ told ∈ timedDispatches ((sameSecond.after visitAct (fun _ => 0) 8).step visitAct 0).1,
        told.handle ≠ .stored ⟨1, 0⟩ := by
  have occursFirst : sameSecondFirst.OccursIn visitAct (fun _ => 0) sameSecond :=
    .schedule rfl (by with_unfolding_all rfl)
  have occursNext : sameSecondNext.OccursIn visitAct (fun _ => 0) sameSecond :=
    .trySchedule rfl (by with_unfolding_all rfl)
  have notBack : (sameSecond.after visitAct (fun _ => 0) 0).host.clock.now ≤
      (sameSecond.after visitAct (fun _ => 0) 2).host.clock.now := by
    decide +kernel
  have notShorter : sameSecondFirst.delay.inNanoseconds ≤ sameSecondNext.delay.inNanoseconds := by
    decide
  have bounds : (sameSecond.ledger visitAct (fun _ => 0) 8).WithinBounds :=
    withinBounds_of_short _ _ _ (by decide)
  have pending : (sameSecond.after visitAct (fun _ => 0) 8).scheduler.contains
      (.stored ⟨0, 0⟩) = true := by
    decide +kernel
  obtain ⟨accurate, -, ordered⟩ :=
    due_instants_keep_order visitAct (fun _ => 0) sameSecond none rfl
  obtain ⟨due_le, inOrder⟩ :=
    ordered sameSecondFirst sameSecondNext occursFirst occursNext (by decide) notBack notShorter
  exact ⟨rfl, accurate 1000750 (.ofParts 2 900000000) (by decide), occursFirst, occursNext,
    notBack, notShorter, due_le, bounds, pending, by decide +kernel,
    inOrder 8 (by decide) bounds pending⟩

end Parties

end Agenda
