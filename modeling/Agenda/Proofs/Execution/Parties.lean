import Agenda.Proofs.Execution.Course
import Mathlib.Logic.Function.Basic

/-!
# Several parties at one scheduler

Any number of parties work at one scheduler and in the same surroundings, each at tasks of its
own.  In every step one of them works on its topmost task, and which one it is follows no rule.
So between the two halves of a turn the others may do anything, and what holds of all courses of
several parties holds for every way in which they take turns.  A party that is alone at a
scheduler is an execution.
-/

namespace Agenda

/-- A scheduler, its surroundings, and the tasks of everyone who works at it. -/
structure Parties (σ : Type → Type) (κ D ε : Type) where
  /-- The scheduler. -/
  scheduler : Scheduler σ κ D
  /-- The state around it. -/
  host : Host ε
  /-- The tasks of each party, the topmost first. -/
  tasks : Nat → List (Task κ D ε)

namespace Parties

variable {σ : Type → Type} {κ D ε : Type}

/-- What one of the parties is at. -/
def execution (parties : Parties σ κ D ε) (party : Nat) : Execution σ κ D ε :=
  ⟨parties.scheduler, parties.host, parties.tasks party⟩

/-- Every party starts with a routine. -/
def start (scheduler : Scheduler σ κ D) (host : Host ε) (routines : Nat → Routine κ D ε) :
    Parties σ κ D ε :=
  ⟨scheduler, host, fun party => [.routine (routines party)]⟩

variable [OrderedStore σ]

/-- Let one of the parties work on its topmost task. -/
def step (act : Interpretation κ D ε) (parties : Parties σ κ D ε) (party : Nat) :
    List (Event κ D) × Parties σ κ D ε :=
  let (events, next) := (parties.execution party).step act
  (events, ⟨next.scheduler, next.host, Function.update parties.tasks party next.tasks⟩)

@[simp] theorem events_step
    (act : Interpretation κ D ε)
    (parties : Parties σ κ D ε)
    (party : Nat) :
    (parties.step act party).1 = ((parties.execution party).step act).1 := rfl

@[simp] theorem scheduler_step
    (act : Interpretation κ D ε)
    (parties : Parties σ κ D ε)
    (party : Nat) :
    (parties.step act party).2.scheduler =
      ((parties.execution party).step act).2.scheduler := rfl

theorem tasks_step_self
    (act : Interpretation κ D ε)
    (parties : Parties σ κ D ε)
    (party : Nat) :
    (parties.step act party).2.tasks party = ((parties.execution party).step act).2.tasks :=
  Function.update_self ..

theorem tasks_step_of_ne
    (act : Interpretation κ D ε)
    (parties : Parties σ κ D ε)
    {party other : Nat}
    (isOther : other ≠ party) :
    (parties.step act party).2.tasks other = parties.tasks other :=
  Function.update_of_ne isOther ..

/-- What is true of the mover's tasks after a step in each of two runs, and of everyone else's before
it, is true of everyone's tasks after it. -/
theorem related_tasks_step
    {Related : List (Task κ D ε) → List (Task κ D ε) → Prop}
    {act twinAct : Interpretation κ D ε}
    {parties twin : Parties σ κ D ε}
    {party : Nat}
    (movers : Related ((parties.execution party).step act).2.tasks
      ((twin.execution party).step twinAct).2.tasks)
    (others : ∀ other, Related (parties.tasks other) (twin.tasks other))
    (anyone : Nat) :
    Related ((parties.step act party).2.tasks anyone) ((twin.step twinAct party).2.tasks anyone) := by
  by_cases isMover : anyone = party
  · subst isMover
    rw [tasks_step_self, tasks_step_self]
    exact movers
  · rw [tasks_step_of_ne act parties isMover, tasks_step_of_ne twinAct twin isMover]
    exact others anyone

/-- What has become of the parties after a number of steps, each made by the party whose turn
it is. -/
def after (act : Interpretation κ D ε) (mover : Nat → Nat) (parties : Parties σ κ D ε) :
    Nat → Parties σ κ D ε
  | 0 => parties
  | steps + 1 => ((parties.after act mover steps).step act (mover steps)).2

/-- The course of several parties. -/
def course (act : Interpretation κ D ε) (mover : Nat → Nat) (parties : Parties σ κ D ε) :
    Course σ κ D where
  scheduler steps := (parties.after act mover steps).scheduler
  now steps := (parties.after act mover steps).host.clock.now
  events steps := ((parties.after act mover steps).step act (mover steps)).1
  effects steps := Execution.step_effects act ((parties.after act mover steps).execution _)

/-- What happened in a number of steps. -/
def history (act : Interpretation κ D ε) (mover : Nat → Nat) (parties : Parties σ κ D ε)
    (steps : Nat) : List (Event κ D) :=
  (parties.course act mover).history steps

/-- The ledger of the pending items after a number of steps. -/
def ledger (act : Interpretation κ D ε) (mover : Nat → Nat) (parties : Parties σ κ D ε)
    (steps : Nat) : Ledger (Item κ D) :=
  .ofHistory (parties.history act mover steps)

/-! ## One party alone -/

theorem execution_after_alone
    (act : Interpretation κ D ε)
    (parties : Parties σ κ D ε)
    (party steps : Nat) :
    (parties.after act (fun _ => party) steps).execution party =
      (parties.execution party).after act steps := by
  induction steps with
  | zero => rfl
  | succ steps inductionHypothesis =>
      rw [Execution.after_succ_last, ← inductionHypothesis, execution, after, tasks_step_self]
      rfl

theorem scheduler_after_alone
    (act : Interpretation κ D ε)
    (parties : Parties σ κ D ε)
    (party steps : Nat) :
    (parties.after act (fun _ => party) steps).scheduler =
      ((parties.execution party).after act steps).scheduler :=
  congrArg Execution.scheduler (parties.execution_after_alone act party steps)

/-- A party that makes every step goes the way of its execution. -/
theorem history_alone
    (act : Interpretation κ D ε)
    (parties : Parties σ κ D ε)
    (party steps : Nat) :
    parties.history act (fun _ => party) steps =
      (parties.execution party).history act steps := by
  induction steps with
  | zero => rfl
  | succ steps inductionHypothesis =>
      rw [Execution.history_succ_last, ← inductionHypothesis, ← execution_after_alone]
      rfl

/-! ## Short courses -/

theorem length_events_le
    (act : Interpretation κ D ε)
    (mover : Nat → Nat)
    (parties : Parties σ κ D ε)
    (steps : Nat) :
    ((parties.course act mover).events steps).length ≤ 5 :=
  Execution.length_events_le act _

/-- A short course stays within bounds. -/
theorem withinBounds_of_short
    (act : Interpretation κ D ε)
    (mover : Nat → Nat)
    (parties : Parties σ κ D ε)
    {steps : Nat}
    (short : 5 * steps < 2 ^ 32) :
    (parties.ledger act mover steps).WithinBounds :=
  Ledger.withinBounds_ofHistory
    (Nat.lt_of_le_of_lt
      (Course.length_history_le _ (parties.length_events_le act mover) steps) short)

/-! ## Two loops and a visitor -/

/-- Callbacks that do nothing, but for one that has a further item run at once. -/
def visitAct : Interpretation Char Nat Unit := fun callback _ =>
  if callback = 'b' then .schedule (.ofSeconds 0) 'd' 3 fun _ => .done else .done

/-- Wait for as long as it is allowed; nothing ever has input. -/
def sleep : Poller Unit := fun timeout host =>
  (.ok 0, { host with clock := host.clock.advance timeout })

/-- Two loops over a store for two items, which refuses a third one, and a visitor who cancels
an item and has its slot used again. -/
def visit : Parties SlotStore Char Nat Unit :=
  .start (.ofStore (.empty (some 2))) ⟨⟨5000⟩, .clear, ()⟩ fun
    | 0 =>
        .schedule (.ofSeconds 1) 'a' 0 fun _ => .schedule (.ofSeconds 0) 'b' 1 fun _ =>
          .schedule (.ofSeconds 0) 'c' 2 fun _ =>
            .runShared .idle sleep (fun _ => .done) fun _ => .done
    | 1 => .runShared .idle sleep (fun _ => .done) fun _ => .shutdown fun _ => .done
    | _ => .cancel (.stored ⟨0, 0⟩) fun _ => .schedule (.ofSeconds 1) 'e' 4 fun _ => .done

/-- The visitor comes while both loops wait for the same item. -/
def visitMover (step : Nat) : Nat :=
  [0, 0, 0, 0, 1, 0, 1, 2, 2, 2, 2, 0, 1].getD step (step % 2)

end Parties
end Agenda
