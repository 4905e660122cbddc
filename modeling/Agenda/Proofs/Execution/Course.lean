import Agenda.Proofs.Execution.Effect
import Agenda.Proofs.Scheduler.Keeping

/-!
# Courses of events

A course is what becomes of a scheduler step by step, whoever makes the steps: a sequence of
schedulers, each of which comes from the one before by changes at the instant that the clock
shows afterwards.  An execution has a course, and so have several executions that share one
scheduler.  What holds at the start of a course and is preserved by every change holds along the
whole of it.

The history of a course keeps a ledger of the pending items.  The ledger is made from the events
alone; over a slot store it is the ledger of the entries in the store.
-/

namespace Agenda

variable {κ D : Type}

/-- A sequence of schedulers that are changed step by step. -/
structure Course (σ : Type → Type) [OrderedStore σ] (κ D : Type) where
  /-- The scheduler after a number of steps. -/
  scheduler : Nat → Scheduler σ κ D
  /-- What the clock shows after a number of steps. -/
  now : Nat → Instant
  /-- What happens in the step that follows a number of steps. -/
  events : Nat → List (Event κ D)
  /-- Each step is a chain of changes at the instant that the clock shows after it. -/
  effects : ∀ steps,
    Effects (now (steps + 1)) (scheduler steps) (events steps) (scheduler (steps + 1))

namespace Course

variable {σ : Type → Type} [OrderedStore σ]

/-- What happened in a number of steps. -/
def history (course : Course σ κ D) : Nat → List (Event κ D)
  | 0 => []
  | steps + 1 => course.history steps ++ course.events steps

/-- What the passing of time and every change preserve holds along a course. -/
theorem invariant
    (course : Course σ κ D)
    (Invariant : Instant → List (Event κ D) → Scheduler σ κ D → Prop)
    {steps : Nat}
    (initially : Invariant (course.now 0) [] (course.scheduler 0))
    (passes : ∀ step < steps, ∀ {history scheduler},
      Invariant (course.now step) history scheduler →
        Invariant (course.now (step + 1)) history scheduler)
    (preserves : ∀ {now history scheduler events next},
      Effect now scheduler events next → Invariant now history scheduler →
        Invariant now (history ++ events) next) :
    Invariant (course.now steps) (course.history steps) (course.scheduler steps) := by
  induction steps with
  | zero => exact initially
  | succ steps inductionHypothesis =>
      have holds := inductionHypothesis fun step before => passes step (Nat.lt_succ_of_lt before)
      exact (course.effects steps).preserve preserves (passes steps (Nat.lt_succ_self steps) holds)

/-- What every change preserves holds along a course. -/
theorem timelessInvariant
    (course : Course σ κ D)
    (Invariant : List (Event κ D) → Scheduler σ κ D → Prop)
    (initially : Invariant [] (course.scheduler 0))
    (preserves : ∀ {now history scheduler events next},
      Effect now scheduler events next → Invariant history scheduler →
        Invariant (history ++ events) next)
    (steps : Nat) :
    Invariant (course.history steps) (course.scheduler steps) :=
  course.invariant (fun _ => Invariant) initially (fun _ _ _ _ holds => holds) preserves

/-- What every change within a bound preserves holds along a course that stays within it. -/
theorem boundedInvariant
    (course : Course σ κ D)
    (Bound : List (Event κ D) → Prop)
    (Invariant : List (Event κ D) → Scheduler σ κ D → Prop)
    (before : ∀ {history events}, Bound (history ++ events) → Bound history)
    (initially : Invariant [] (course.scheduler 0))
    (preserves : ∀ {now history scheduler events next},
      Effect now scheduler events next → Bound (history ++ events) → Invariant history scheduler →
        Invariant (history ++ events) next)
    {steps : Nat}
    (bound : Bound (course.history steps)) :
    Invariant (course.history steps) (course.scheduler steps) := by
  revert bound
  refine course.timelessInvariant (fun history scheduler => Bound history →
    Invariant history scheduler) (fun _ => initially) ?_ steps
  intro now history scheduler events next effect holds bound
  exact preserves effect bound (holds (before bound))

/-- What was told is the beginning of what will have been told. -/
theorem history_mono
    (course : Course σ κ D)
    {steps later : Nat}
    (notLater : steps ≤ later) :
    course.history steps <+: course.history later := by
  induction notLater with
  | refl => exact List.prefix_refl _
  | step _ inductionHypothesis => exact inductionHypothesis.trans (List.prefix_append _ _)

theorem length_history_le
    (course : Course σ κ D)
    {most : Nat}
    (few : ∀ steps, (course.events steps).length ≤ most)
    (steps : Nat) :
    (course.history steps).length ≤ most * steps := by
  induction steps with
  | zero => exact Nat.zero_le _
  | succ steps inductionHypothesis =>
      rw [history, List.length_append, Nat.mul_succ]
      exact Nat.add_le_add inductionHypothesis (few steps)

end Course

/-! ## Executions -/

namespace Execution

variable {σ : Type → Type} {ε : Type} [OrderedStore σ]

theorem after_succ_last
    (act : Interpretation κ D ε)
    (steps : Nat)
    (execution : Execution σ κ D ε) :
    execution.after act (steps + 1) = ((execution.after act steps).step act).2 := by
  induction steps generalizing execution with
  | zero => rw [after_succ, after_zero, after_zero]
  | succ steps inductionHypothesis =>
      rw [after_succ, inductionHypothesis, ← after_succ]

theorem history_succ_last
    (act : Interpretation κ D ε)
    (steps : Nat)
    (execution : Execution σ κ D ε) :
    execution.history act (steps + 1) =
      execution.history act steps ++ ((execution.after act steps).step act).1 := by
  induction steps generalizing execution with
  | zero => rw [history, history, history, List.append_nil, List.nil_append, after_zero]
  | succ steps inductionHypothesis =>
      rw [history, inductionHypothesis, history, List.append_assoc, ← after_succ]

omit [OrderedStore σ] in
theorem length_afterTurn_le
    (act : Interpretation κ D ε)
    (scheduler : Scheduler σ κ D)
    (host : Host ε)
    (settlement : Settlement κ D)
    (loop : Task κ D ε)
    (next : LoopExit → Routine κ D ε)
    (tasks : List (Task κ D ε)) :
    (afterTurn act scheduler host settlement loop next tasks).1.length ≤ 1 := by
  cases settlement with
  | again => exact Nat.zero_le 1
  | leave | fire => exact Nat.le_refl 1

theorem length_planEvents_le (host : Host ε) (rotatedAt : Option Instant) :
    (planEvents host rotatedAt : List (Event κ D)).length ≤ 3 := by
  cases rotatedAt with
  | none => exact Nat.le_add_right 1 2
  | some now => exact Nat.le_refl 3

theorem length_request_le
    (act : Interpretation κ D ε)
    (scheduler : Scheduler σ κ D)
    (host : Host ε)
    (tasks : List (Task κ D ε))
    (routine : Routine κ D ε) :
    (request act scheduler host tasks routine).1.length ≤ 1 := by
  cases routine with
  | cancel handle next =>
      simp only [request]
      split <;> exact Nat.le_refl 1
  | done | observe | update | ask | nextDue | runLoop | runShared => exact Nat.zero_le 1
  | schedule | trySchedule | shutdown => exact Nat.le_refl 1

/-- No more than five things happen in a step. -/
theorem length_events_le (act : Interpretation κ D ε) (execution : Execution σ κ D ε) :
    (execution.step act).1.length ≤ 5 := by
  obtain ⟨scheduler, host, tasks⟩ := execution
  have begun : ∀ hooks : Hooks ε,
      (planEvents host (scheduler.planTurn hooks host).rotatedAt : List (Event κ D)).length ≤ 3 :=
    fun hooks => length_planEvents_le host _
  cases tasks with
  | nil => exact Nat.zero_le 5
  | cons task tasks =>
      cases task with
      | routine routine =>
          exact Nat.le_trans (length_request_le act scheduler host tasks routine) (by decide)
      | turns hooks poller next =>
          simp only [step, turn]
          split
          next =>
            rw [List.length_append]
            exact Nat.add_le_add (begun hooks) (Nat.le_add_left 1 1)
          next =>
            rw [List.length_append]
            exact Nat.add_le_add (begun hooks) (Nat.succ_le_succ (length_afterTurn_le ..))
      | sharedTurns hooks poller others next =>
          simp only [step, sharedPlan]
          split
          next =>
            rw [List.length_append]
            exact Nat.add_le_add (begun hooks) (Nat.le_add_left 1 1)
          next => exact Nat.le_trans (begun hooks) (by decide)
      | sharedSettle wait hooks poller others next =>
          exact Nat.le_trans (Nat.succ_le_succ (length_afterTurn_le ..)) (by decide)

/-- The course of an execution. -/
def course (act : Interpretation κ D ε) (execution : Execution σ κ D ε) : Course σ κ D where
  scheduler steps := (execution.after act steps).scheduler
  now steps := (execution.after act steps).host.clock.now
  events steps := ((execution.after act steps).step act).1
  effects steps := by
    rw [after_succ_last]
    exact step_effects act (execution.after act steps)

theorem history_course
    (act : Interpretation κ D ε)
    (execution : Execution σ κ D ε)
    (steps : Nat) :
    (execution.course act).history steps = execution.history act steps := by
  induction steps with
  | zero => rfl
  | succ steps inductionHypothesis =>
      rw [Course.history, inductionHypothesis, history_succ_last]
      rfl

end Execution

/-! ## The ledger of a history -/

namespace Ledger

/-- Enter an event: an item that the store takes comes in, one that is dispatched goes out, and
a release lets all of them go. -/
def record (ledger : Ledger (Item κ D)) : Event κ D → Ledger (Item κ D)
  | .accepted (.stored handle) item => ledger.add handle item.due item
  | .dispatched _ ⟨.stored handle, _, _, _, _⟩ => ledger.erase handle
  | .released _ => ledger.clear
  | _ => ledger

/-- The ledger of the pending items that a history leaves behind. -/
def ofHistory (history : List (Event κ D)) : Ledger (Item κ D) := history.foldl record .empty

theorem ofHistory_append (history events : List (Event κ D)) :
    ofHistory (history ++ events) = events.foldl record (ofHistory history) :=
  List.foldl_append

@[simp] theorem record_dispatch
    (ledger : Ledger (Item κ D))
    (callback : κ)
    (item : Item κ D)
    (handle : SlotHandle)
    (reason : Reason) :
    ledger.record (.dispatched callback (item.dispatch (.stored handle) reason)) =
      ledger.erase handle := rfl

theorem record_of_isQuiet
    (ledger : Ledger (Item κ D))
    {event : Event κ D}
    (quiet : event.isQuiet = true) :
    ledger.record event = ledger := by
  cases event <;> first | rfl | cases quiet

theorem foldl_record_of_quiet
    (ledger : Ledger (Item κ D))
    {events : List (Event κ D)}
    (quiet : ∀ event ∈ events, event.isQuiet = true) :
    events.foldl record ledger = ledger := by
  induction events with
  | nil => rfl
  | cons event rest inductionHypothesis =>
      rw [List.foldl_cons, record_of_isQuiet ledger (quiet event List.mem_cons_self)]
      exact inductionHypothesis fun other inRest => quiet other (List.mem_cons_of_mem _ inRest)

theorem extends_record (ledger : Ledger (Item κ D)) (event : Event κ D) :
    ledger.Extends (ledger.record event) := by
  unfold record
  split
  · exact ledger.extends_add _ _ _
  · exact ledger.extends_departWhere _
  · exact ledger.extends_departWhere _
  · exact .refl ledger

theorem extends_foldl_record (ledger : Ledger (Item κ D)) (events : List (Event κ D)) :
    ledger.Extends (events.foldl record ledger) := by
  induction events generalizing ledger with
  | nil => exact .refl ledger
  | cons event rest inductionHypothesis =>
      exact (ledger.extends_record event).trans (inductionHypothesis (ledger.record event))

theorem extends_ofHistory_append (history events : List (Event κ D)) :
    (ofHistory history).Extends (ofHistory (history ++ events)) := by
  rw [ofHistory_append]
  exact extends_foldl_record _ events

/-- Each entry is due when its item is. -/
def DuesAgree (ledger : Ledger (Item κ D)) : Prop :=
  ∀ entry ∈ ledger.issued, entry.due = entry.value.due

theorem DuesAgree.departWhere
    {ledger : Ledger (Item κ D)}
    (agree : ledger.DuesAgree)
    (leaves : Entry (Item κ D) → Bool) :
    (ledger.departWhere leaves).DuesAgree := by
  intro entry present
  exact agree entry ((ledger.issued_departWhere leaves).mem_iff.mp present)

theorem DuesAgree.record
    {ledger : Ledger (Item κ D)}
    (agree : ledger.DuesAgree)
    (event : Event κ D) :
    (ledger.record event).DuesAgree := by
  unfold Ledger.record
  split
  · intro entry present
    rw [issued_add, List.mem_append, List.mem_singleton] at present
    rcases present with old | rfl
    · exact agree entry old
    · rfl
  · exact agree.departWhere _
  · exact agree.departWhere _
  · exact agree

theorem DuesAgree.foldl_record
    {ledger : Ledger (Item κ D)}
    (agree : ledger.DuesAgree)
    (events : List (Event κ D)) :
    (events.foldl Ledger.record ledger).DuesAgree := by
  induction events generalizing ledger with
  | nil => exact agree
  | cons event rest inductionHypothesis => exact inductionHypothesis (agree.record event)

theorem duesAgree_ofHistory (history : List (Event κ D)) : (ofHistory history).DuesAgree := by
  apply DuesAgree.foldl_record
  intro entry present
  cases present

theorem inserted_foldl_record_le (ledger : Ledger (Item κ D)) (events : List (Event κ D)) :
    (events.foldl record ledger).inserted ≤ ledger.inserted + events.length := by
  induction events generalizing ledger with
  | nil => exact Nat.le_refl _
  | cons event rest inductionHypothesis =>
      have recorded : (ledger.record event).inserted ≤ ledger.inserted + 1 := by
        unfold record
        split
        · exact Nat.le_of_eq (inserted_add ..)
        · rw [erase, inserted_departWhere]
          exact Nat.le_succ _
        · rw [clear, inserted_departWhere]
          exact Nat.le_succ _
        · exact Nat.le_succ _
      have later := inductionHypothesis (ledger.record event)
      rw [List.foldl_cons, List.length_cons]
      omega

theorem timesEmptied_le_inserted {α : Type} (ledger : Ledger α) (slot : Nat) :
    ledger.timesEmptied slot ≤ ledger.inserted := by
  rw [inserted, issued, List.length_append]
  exact Nat.le_trans (List.length_filter_le _ _) (Nat.le_add_right _ _)

/-- A short history is within bounds. -/
theorem withinBounds_ofHistory
    {history : List (Event κ D)}
    (short : history.length < 2 ^ 32) :
    (ofHistory history).WithinBounds := by
  have inserted_le : (ofHistory history).inserted ≤ history.length := by
    have counted := inserted_foldl_record_le (.empty : Ledger (Item κ D)) history
    have noneYet : (.empty : Ledger (Item κ D)).inserted = 0 := rfl
    rwa [noneYet, Nat.zero_add] at counted
  refine ⟨Nat.lt_trans (Nat.lt_of_le_of_lt inserted_le short) (by decide), fun slot => ?_⟩
  exact Nat.lt_of_le_of_lt (timesEmptied_le_inserted _ slot)
    (Nat.lt_of_le_of_lt inserted_le short)

end Ledger

/-! ## Slot stores -/

/-- What is taken out of a scheduler goes out of the ledger. -/
theorem Scheduler.represents_of_remove
    {scheduler remaining : Scheduler SlotStore κ D}
    {ledger : Ledger (Item κ D)}
    (represents : scheduler.store.Represents ledger)
    {handle : ItemHandle}
    {answer : Option (Item κ D)}
    (removed : scheduler.remove handle = (answer, remaining))
    (reason : Reason) :
    remaining.store.Represents
      (match answer with
        | none => ledger
        | some item =>
            ledger.record (.dispatched item.callback (item.dispatch handle reason))) := by
  cases handle with
  | stored handle =>
      obtain ⟨fromStore, -⟩ := remove_stored removed
      cases answer with
      | none =>
          rw [(represents.of_remove_none fromStore).2]
          exact represents
      | some item =>
          obtain ⟨_, _, _, _, erased⟩ := represents.of_remove_some fromStore
          exact erased
  | detached number =>
      rw [(remove_detached removed).1]
      cases answer <;> exact represents

/-- Every change of a scheduler over a slot store is entered in the ledger of the store. -/
theorem Effect.represents
    {now : Instant}
    {scheduler next : Scheduler SlotStore κ D}
    {events : List (Event κ D)}
    (effect : Effect now scheduler events next)
    {ledger : Ledger (Item κ D)}
    (represents : scheduler.store.Represents ledger) :
    next.store.Represents (events.foldl Ledger.record ledger) := by
  cases effect with
  | quiet quiet =>
      rw [List.foldl_cons, Ledger.record_of_isQuiet ledger quiet]
      exact represents
  | peek => exact represents.peek
  | accept _ inserted => exact represents.of_insert_ok inserted
  | detach _ inserted =>
      obtain ⟨-, -, same⟩ := represents.of_insert_error inserted
      exact same ▸ represents
  | refuse inserted =>
      obtain ⟨-, -, same⟩ := represents.of_insert_error inserted
      exact same ▸ represents
  | cancel removed => exact Scheduler.represents_of_remove represents removed .abort
  | miss removed => exact Scheduler.represents_of_remove represents removed .abort
  | fire peeked _ removed =>
      exact Scheduler.represents_of_remove (represents.of_peek peeked) removed .timed
  | release => exact represents.removeAll

theorem Effects.represents
    {now : Instant}
    {scheduler next : Scheduler SlotStore κ D}
    {events : List (Event κ D)}
    (effects : Effects now scheduler events next)
    {ledger : Ledger (Item κ D)}
    (represents : scheduler.store.Represents ledger) :
    next.store.Represents (events.foldl Ledger.record ledger) := by
  induction effects generalizing ledger with
  | nil => exact represents
  | cons effect _ inductionHypothesis =>
      rw [List.foldl_append]
      exact inductionHypothesis (effect.represents represents)

namespace Course

variable (course : Course SlotStore κ D)

/-- The ledger of the pending items after a number of steps. -/
def ledger (steps : Nat) : Ledger (Item κ D) := .ofHistory (course.history steps)

/-- The store of a course has the entries of the course's ledger. -/
theorem represents
    {limit : Option Nat}
    (initiallyEmpty : (course.scheduler 0).store = .empty limit)
    (steps : Nat) :
    (course.scheduler steps).store.Represents (course.ledger steps) := by
  refine course.timelessInvariant
    (fun history scheduler => scheduler.store.Represents (.ofHistory history))
    ?_ (fun effect represents => ?_) steps
  · rw [initiallyEmpty]
    exact SlotStore.represents_empty limit
  · rw [Ledger.ofHistory_append]
    exact effect.represents represents

theorem extends_ledger_succ (steps : Nat) :
    (course.ledger steps).Extends (course.ledger (steps + 1)) :=
  Ledger.extends_ofHistory_append _ _

theorem extends_ledger
    {steps later : Nat}
    (notLater : steps ≤ later) :
    (course.ledger steps).Extends (course.ledger later) := by
  induction notLater with
  | refl => exact .refl _
  | step _ inductionHypothesis => exact inductionHypothesis.trans (course.extends_ledger_succ _)

end Course
end Agenda
