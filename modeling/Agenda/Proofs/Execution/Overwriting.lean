import Agenda.Proofs.Execution.Loops
import Agenda.Proofs.Execution.Pending

/-!
# Numbers that are given again

Whoever has an item refused and takes it back at once leaves nothing behind but the count of the
refusals.  So the numbers of the items that are kept aside can be used up while next to nothing is
kept aside, and when the count has gone round, an item is put in the place of the one that has had
its number all the time.
-/

namespace Agenda

variable {σ : Type → Type} {κ D ε : Type}

/-- Count further refusals. -/
def DetachedItems.skip (table : DetachedItems κ D) (count : Nat) : DetachedItems κ D :=
  { table with nextNumber := table.nextNumber + UInt64.ofNat count }

theorem DetachedItems.skip_zero (table : DetachedItems κ D) : table.skip 0 = table := by
  rw [skip, show UInt64.ofNat 0 = 0 from rfl, UInt64.add_zero]

theorem DetachedItems.skip_add (table : DetachedItems κ D) (count more : Nat) :
    (table.skip count).skip more = table.skip (count + more) := by
  rw [skip, skip, skip, UInt64.ofNat_add, UInt64.add_assoc]

/-- Taking back an item that was kept aside under a new number leaves nothing but the count. -/
theorem DetachedItems.remove_add
    {table : DetachedItems κ D}
    (isNew : table.get? table.nextNumber = none)
    (item : Item κ D) :
    (table.add item).2.remove table.nextNumber = (some item, table.skip 1) := by
  have notThere : table.contains table.nextNumber = false := by
    rw [contains, isNew, Option.isSome_none]
  have isThere : (table.add item).2.contains table.nextNumber = true := by
    rw [contains, get?_add_self, Option.isSome_some]
  rw [remove, get?_add_self]
  simp only [erase, isThere, if_true]
  simp [add, erase, notThere, skip]

/-- Count further refusals. -/
def Scheduler.skip (scheduler : Scheduler σ κ D) (count : Nat) : Scheduler σ κ D :=
  { scheduler with detached := scheduler.detached.skip count }

theorem Scheduler.skip_zero (scheduler : Scheduler σ κ D) : scheduler.skip 0 = scheduler := by
  rw [skip, DetachedItems.skip_zero]

theorem Scheduler.skip_add (scheduler : Scheduler σ κ D) (count more : Nat) :
    (scheduler.skip count).skip more = scheduler.skip (count + more) := by
  rw [skip, skip, skip, DetachedItems.skip_add]

/-- The store refuses every item. -/
def Scheduler.Refuses [OrderedStore σ] (scheduler : Scheduler σ κ D) : Prop :=
  ∀ item : Item κ D, ∃ cause,
    OrderedStore.insert scheduler.store item.due item = (.error ⟨item, cause⟩, scheduler.store)

theorem Scheduler.Refuses.skip
    [OrderedStore σ]
    {scheduler : Scheduler σ κ D}
    (refuses : scheduler.Refuses)
    (count : Nat) :
    (scheduler.skip count).Refuses := refuses

/-- Schedule an item and cancel it, a number of times. -/
def Routine.scheduleAndCancel (delay : Delay) (callback : κ) (data : D) (next : Routine κ D ε) :
    Nat → Routine κ D ε
  | 0 => next
  | rounds + 1 =>
      .schedule delay callback data fun handle => .cancel handle fun _ =>
        scheduleAndCancel delay callback data next rounds

namespace Execution

variable [OrderedStore σ]
variable {act : Interpretation κ D ε} {callback : κ}
variable {scheduler : Scheduler σ κ D}

/-- One round at a store that refuses the item. -/
theorem scheduleAndCancel_succ
    (idle : ∀ told, act callback told = .done)
    (refuses : scheduler.Refuses)
    (isNew : scheduler.detached.get? scheduler.detached.nextNumber = none)
    (host : Host ε)
    (delay : Delay)
    (data : D)
    (next : Routine κ D ε)
    (rounds : Nat)
    (tasks : List (Task κ D ε)) :
    let item := Scheduler.itemAfter host.clock.now delay callback data
    let handle := ItemHandle.detached scheduler.detached.nextNumber
    let execution : Execution σ κ D ε := ⟨scheduler, host,
      .routine (.scheduleAndCancel delay callback data next (rounds + 1)) :: tasks⟩
    execution.after act 3 = ⟨scheduler.skip 1, host,
        .routine (.scheduleAndCancel delay callback data next rounds) :: tasks⟩ ∧
      execution.history act 3 =
        [.detached handle item, .dispatched callback (item.dispatch handle .abort)] := by
  intro item handle execution
  have scheduled : scheduler.schedule item = scheduler.detach item := by
    obtain ⟨cause, refused⟩ := refuses item
    rw [Scheduler.schedule, Scheduler.insert, refused]
    rfl
  have first : execution.step act = ([.detached handle item],
      ⟨(scheduler.detach item).2, host, .routine (.cancel handle fun _ =>
        .scheduleAndCancel delay callback data next rounds) :: tasks⟩) := by
    simp only [execution, step, Routine.scheduleAndCancel, request]
    rw [scheduled]
    rfl
  have taken : (scheduler.detach item).2.remove handle = (some item, scheduler.skip 1) := by
    simp only [handle, Scheduler.remove, Scheduler.detach, DetachedItems.remove_add isNew item]
    rfl
  have second : (execution.step act).2.step act =
      ([.dispatched callback (item.dispatch handle .abort)],
        ⟨scheduler.skip 1, host, .routine .done ::
          .routine (.scheduleAndCancel delay callback data next rounds) :: tasks⟩) := by
    rw [first]
    simp only [step, request, taken, dispatch]
    rw [show item.callback = callback from rfl, idle]
  constructor
  · rw [after_succ, after_succ, second]
    rfl
  · rw [history, history, second, first]
    rfl

/-- Any number of rounds at a store that refuses the item.  They leave alone what is kept aside. -/
theorem scheduleAndCancel_run
    (idle : ∀ told, act callback told = .done)
    (host : Host ε)
    (delay : Delay)
    (data : D)
    (next : Routine κ D ε)
    (rounds : Nat)
    (tasks : List (Task κ D ε))
    (refuses : scheduler.Refuses)
    (areNew : ∀ round < rounds,
      scheduler.detached.get? (scheduler.detached.nextNumber + UInt64.ofNat round) = none) :
    let execution : Execution σ κ D ε := ⟨scheduler, host,
      .routine (.scheduleAndCancel delay callback data next rounds) :: tasks⟩
    execution.after act (3 * rounds) = ⟨scheduler.skip rounds, host, .routine next :: tasks⟩ ∧
      refusals (execution.history act (3 * rounds)) = rounds ∧
      ∀ event ∈ execution.history act (3 * rounds),
        ∀ number, scheduler.detached.get? number ≠ none →
          event.takesOut (.detached number) = false := by
  induction rounds generalizing scheduler with
  | zero =>
      refine ⟨?_, rfl, nofun⟩
      rw [Scheduler.skip_zero]
      rfl
  | succ rounds inductionHypothesis =>
      have isNew : scheduler.detached.get? scheduler.detached.nextNumber = none := by
        simpa using areNew 0 (Nat.succ_pos rounds)
      have areNewLater : ∀ round < rounds, (scheduler.skip 1).detached.get?
          ((scheduler.skip 1).detached.nextNumber + UInt64.ofNat round) = none := by
        intro round isLater
        have isNewLater := areNew (1 + round) (by omega)
        rwa [UInt64.ofNat_add, ← UInt64.add_assoc] at isNewLater
      obtain ⟨after_eq, history_eq⟩ :=
        scheduleAndCancel_succ idle refuses isNew host delay data next rounds tasks
      obtain ⟨later, counted, untouched⟩ := inductionHypothesis (refuses.skip 1) areNewLater
      have steps_eq : 3 * (rounds + 1) = 3 + 3 * rounds := by omega
      intro execution
      refine ⟨?_, ?_, ?_⟩
      · rw [steps_eq, after_add, after_eq, later, Scheduler.skip_add, Nat.add_comm]
      · rw [steps_eq, history_add, refusals_append, after_eq, counted, history_eq]
        exact Nat.add_comm 1 rounds
      · rw [steps_eq, history_add, after_eq, history_eq]
        intro event told number kept
        rcases List.mem_append.mp told with now | later
        · have other : scheduler.detached.nextNumber ≠ number := by
            rintro rfl
            exact kept isNew
          rcases List.mem_pair.mp now with rfl | rfl
          · rfl
          · exact decide_eq_false fun same => other (ItemHandle.detached.inj same)
        · exact untouched event later number kept

end Execution
end Agenda
