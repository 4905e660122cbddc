import Agenda.Proofs.Execution.Parties
import Agenda.Proofs.Execution.Turns

/-!
# Firing is safe however parties take turns

Between the two halves of a turn of a shared loop other parties may do anything: take the
awaited item out, have its slot used again, put an earlier item before it, raise requests, move
the clock.  Still, what the second half fires is the very item for which the first half decided
to wait: it has been pending ever since, it is the earliest, and its due instant has come.  In
all other cases the second half leaves the items as they are.

The second half of a turn waits in the tasks of its party below whatever is done in between, so
the step in which the turn began can be found again.  The item is then recognised by its handle,
since within bounds no two items ever have the same one.
-/

namespace Agenda

variable {κ D ε : Type}

/-! ## The tasks of a party -/

/-- Whether a task is the second half of a turn. -/
def Task.isSettle : Task κ D ε → Bool
  | .sharedSettle _ _ _ _ _ => true
  | _ => false

namespace Execution

variable {σ : Type → Type}

theorem exists_pushed_afterTurn
    (act : Interpretation κ D ε)
    (scheduler : Scheduler σ κ D)
    (host : Host ε)
    (settlement : Settlement κ D)
    {loop : Task κ D ε}
    (noSettle : loop.isSettle = false)
    (next : LoopExit → Routine κ D ε)
    (tasks : List (Task κ D ε)) :
    ∃ pushed, (afterTurn act scheduler host settlement loop next tasks).2.tasks =
        pushed ++ tasks ∧
      ∀ task ∈ pushed, task.isSettle = false := by
  cases settlement with
  | again => exact ⟨[loop], rfl, by simpa using noSettle⟩
  | leave exit => exact ⟨[.routine (next exit)], rfl, by simp [Task.isSettle]⟩
  | fire handle item =>
      refine ⟨[.routine (act item.callback (item.dispatch handle .timed)), loop], rfl, ?_⟩
      intro task isPushed
      simp only [List.mem_cons, List.not_mem_nil, or_false] at isPushed
      rcases isPushed with rfl | rfl
      · rfl
      · exact noSettle

variable [OrderedStore σ]

theorem exists_pushed_request
    (act : Interpretation κ D ε)
    (scheduler : Scheduler σ κ D)
    (host : Host ε)
    (tasks : List (Task κ D ε))
    (routine : Routine κ D ε) :
    ∃ pushed, (request act scheduler host tasks routine).2.tasks = pushed ++ tasks ∧
      ∀ task ∈ pushed, task.isSettle = false := by
  cases routine with
  | done => exact ⟨[], rfl, by simp⟩
  | cancel handle next =>
      simp only [request]
      split
      · exact ⟨[_, _], rfl, by simp [Task.isSettle]⟩
      · exact ⟨[_], rfl, by simp [Task.isSettle]⟩
  | observe | update | ask | nextDue | schedule | trySchedule | shutdown | runLoop | runShared =>
      exact ⟨[_], rfl, by simp [Task.isSettle]⟩

/-- A step puts other tasks in place of the topmost one.  A second half is among them only if
the step was the first half of the same turn. -/
theorem tasks_step
    (act : Interpretation κ D ε)
    (scheduler : Scheduler σ κ D)
    (host : Host ε)
    (task : Task κ D ε)
    (tasks : List (Task κ D ε)) :
    (∃ pushed, (step act ⟨scheduler, host, task :: tasks⟩).2.tasks = pushed ++ tasks ∧
        ∀ other ∈ pushed, other.isSettle = false) ∨
      ∃ hooks poller others next wait, task = .sharedTurns hooks poller others next ∧
        (scheduler.planTurn hooks host).plan = .await wait ∧
          (step act ⟨scheduler, host, task :: tasks⟩).2.tasks =
            .routine (others wait.timeout) ::
              .sharedSettle wait hooks poller others next :: tasks := by
  cases task with
  | routine routine => exact Or.inl (exists_pushed_request act scheduler host tasks routine)
  | turns hooks poller next =>
      apply Or.inl
      simp only [step, turn]
      split
      · exact ⟨[_], rfl, by simp [Task.isSettle]⟩
      · exact exists_pushed_afterTurn act _ _ _ rfl next tasks
  | sharedTurns hooks poller others next =>
      simp only [step, sharedPlan]
      split
      next => exact Or.inl ⟨[_], rfl, by simp [Task.isSettle]⟩
      next wait planned =>
        exact Or.inr ⟨hooks, poller, others, next, wait, rfl, planned, rfl⟩
  | sharedSettle wait hooks poller others next =>
      exact Or.inl (exists_pushed_afterTurn act _ _ _ rfl next tasks)

end Execution

private theorem suffix_of_suffix_append
    {α : Type}
    {first : α}
    {rest pushed tasks : List α}
    (isSuffix : (first :: rest) <:+ pushed ++ tasks)
    (notPushed : first ∉ pushed) :
    (first :: rest) <:+ tasks := by
  induction pushed with
  | nil => exact isSuffix
  | cons head pushed inductionHypothesis =>
      rw [List.mem_cons, not_or] at notPushed
      rw [List.cons_append, List.suffix_cons_iff] at isSuffix
      rcases isSuffix with whole | isSuffix
      · exact absurd (List.cons.inj whole).1 notPushed.1
      · exact inductionHypothesis isSuffix notPushed.2

/-! ## Turns of several parties -/

namespace Parties

variable {σ : Type → Type} [OrderedStore σ]

/-- The second half of a turn has been waiting among the tasks of a party since the step in
which the party decided to wait. -/
structure Halfway (act : Interpretation κ D ε) (mover : Nat → Nat) (parties : Parties σ κ D ε)
    (party began time : Nat) (wait : Wait) (hooks : Hooks ε) (poller : Poller ε)
    (others : UInt64 → Routine κ D ε) (next : LoopExit → Routine κ D ε)
    (below : List (Task κ D ε)) : Prop where
  /-- The decision was made earlier. -/
  began_lt : began < time
  /-- It was made by the party. -/
  mover_eq : mover began = party
  /-- It was made at the beginning of a turn. -/
  tasks_began : (parties.after act mover began).tasks party =
    .sharedTurns hooks poller others next :: below
  /-- It was the decision to wait. -/
  planned : ((parties.after act mover began).scheduler.planTurn hooks
    (parties.after act mover began).host).plan = .await wait
  /-- The turn has not been completed since. -/
  waits : ∀ step, began < step → step ≤ time →
    (.sharedSettle wait hooks poller others next :: below) <:+
      (parties.after act mover step).tasks party

/-- A turn of a party's loop, from the step in which it began with the decision to wait to the
step that completes it. -/
inductive Turn (act : Interpretation κ D ε) (mover : Nat → Nat) (parties : Parties σ κ D ε)
    (party began time : Nat) (wait : Wait) : Prop where
  /-- A loop that cannot be reached from outside does both halves in one step. -/
  | alone {hooks : Hooks ε} {poller : Poller ε} {next : LoopExit → Routine κ D ε}
      {below : List (Task κ D ε)} :
      began = time →
      (parties.after act mover began).tasks party = .turns hooks poller next :: below →
      ((parties.after act mover began).scheduler.planTurn hooks
        (parties.after act mover began).host).plan = .await wait →
      Turn act mover parties party began time wait
  /-- The second half of a turn of another loop waits until it is the topmost task. -/
  | shared {hooks : Hooks ε} {poller : Poller ε} {others : UInt64 → Routine κ D ε}
      {next : LoopExit → Routine κ D ε} {below : List (Task κ D ε)} :
      Halfway act mover parties party began time wait hooks poller others next below →
      (parties.after act mover time).tasks party =
        .sharedSettle wait hooks poller others next :: below →
      Turn act mover parties party began time wait

section Halfway

variable {act : Interpretation κ D ε} {mover : Nat → Nat} {parties : Parties σ κ D ε}
variable {party began time : Nat} {wait : Wait} {hooks : Hooks ε} {poller : Poller ε}
variable {others : UInt64 → Routine κ D ε} {next : LoopExit → Routine κ D ε}
variable {below : List (Task κ D ε)}

theorem Halfway.succ
    (halfway : Halfway act mover parties party began time wait hooks poller others next below)
    (stillWaits : (.sharedSettle wait hooks poller others next :: below) <:+
      (parties.after act mover (time + 1)).tasks party) :
    Halfway act mover parties party began (time + 1) wait hooks poller others next below where
  began_lt := Nat.lt_succ_of_lt halfway.began_lt
  mover_eq := halfway.mover_eq
  tasks_began := halfway.tasks_began
  planned := halfway.planned
  waits step later notLater := by
    rcases Nat.lt_or_eq_of_le notLater with earlier | rfl
    · exact halfway.waits step later (Nat.le_of_lt_succ earlier)
    · exact stillWaits

/-- A second half among the tasks after a step was there before, or the step was its first
half. -/
theorem waits_before_or_began
    (waits : (.sharedSettle wait hooks poller others next :: below) <:+
      (parties.after act mover (time + 1)).tasks party) :
    (.sharedSettle wait hooks poller others next :: below) <:+
        (parties.after act mover time).tasks party ∨
      mover time = party ∧
        (parties.after act mover time).tasks party =
          .sharedTurns hooks poller others next :: below ∧
        ((parties.after act mover time).scheduler.planTurn hooks
          (parties.after act mover time).host).plan = .await wait := by
  by_cases moved : mover time = party
  · subst moved
    rw [after, tasks_step_self, execution] at waits
    cases tasks_eq : (parties.after act mover time).tasks (mover time) with
    | nil =>
        rw [tasks_eq] at waits
        exact Or.inl waits
    | cons task tasks =>
        rw [tasks_eq] at waits
        rcases Execution.tasks_step act (parties.after act mover time).scheduler
            (parties.after act mover time).host task tasks with
          ⟨pushed, next_eq, noSettle⟩ | ⟨hooks', poller', others', next', wait', rfl, planned,
            next_eq⟩
        · rw [next_eq] at waits
          have notPushed : .sharedSettle wait hooks poller others next ∉ pushed := by
            intro isPushed
            cases noSettle _ isPushed
          exact Or.inl ((suffix_of_suffix_append waits notPushed).trans (List.suffix_cons _ _))
        · rw [next_eq, List.suffix_cons_iff, List.suffix_cons_iff] at waits
          rcases waits with whole | whole | waits
          · cases whole
          · cases whole
            exact Or.inr ⟨rfl, rfl, planned⟩
          · exact Or.inl (waits.trans (List.suffix_cons _ _))
  · rw [after, tasks_step_of_ne act _ fun same => moved same.symm] at waits
    exact Or.inl waits

/-- A second half that waits among the tasks of a party was put there by its first half, and it
has been there ever since. -/
theorem exists_halfway
    (noneHalfway : ∀ party, ∀ task ∈ parties.tasks party, task.isSettle = false)
    (waits : (.sharedSettle wait hooks poller others next :: below) <:+
      (parties.after act mover time).tasks party) :
    ∃ began, Halfway act mover parties party began time wait hooks poller others next below := by
  induction time with
  | zero =>
      have present := waits.subset List.mem_cons_self
      cases noneHalfway party _ present
  | succ time inductionHypothesis =>
      rcases waits_before_or_began waits with waitedBefore | ⟨moved, tasks_eq, planned⟩
      · obtain ⟨began, halfway⟩ := inductionHypothesis waitedBefore
        exact ⟨began, halfway.succ waits⟩
      · refine ⟨time, Nat.lt_succ_self time, moved, tasks_eq, planned, ?_⟩
        intro step later notLater
        obtain rfl : step = time + 1 := Nat.le_antisymm notLater later
        exact waits

theorem Turn.began_le (turn : Turn act mover parties party began time wait) : began ≤ time := by
  cases turn with
  | alone same => exact Nat.le_of_eq same
  | shared halfway => exact Nat.le_of_lt halfway.began_lt

theorem Turn.exists_planned (turn : Turn act mover parties party began time wait) :
    ∃ hooks, ((parties.after act mover began).scheduler.planTurn hooks
      (parties.after act mover began).host).plan = .await wait := by
  cases turn with
  | alone _ _ planned => exact ⟨_, planned⟩
  | shared halfway => exact ⟨_, halfway.planned⟩

end Halfway

/-- A step that completes a turn completes one that began with the decision to wait. -/
theorem exists_turn
    {act : Interpretation κ D ε}
    {mover : Nat → Nat}
    {parties : Parties σ κ D ε}
    (noneHalfway : ∀ party, ∀ task ∈ parties.tasks party, task.isSettle = false)
    {time : Nat}
    {completion : Completion}
    (completes : ((parties.after act mover time).execution (mover time)).completion? =
      some completion) :
    ∃ began, Turn act mover parties (mover time) began time completion.wait := by
  unfold Execution.completion? at completes
  split at completes
  next hooks poller next below tasks_eq =>
    dsimp only at completes
    split at completes
    next => cases completes
    next wait planned =>
      cases completes
      exact ⟨time, .alone rfl tasks_eq planned⟩
  next wait hooks poller others next below tasks_eq =>
    cases completes
    have onTop : (parties.after act mover time).tasks (mover time) =
        .sharedSettle wait hooks poller others next :: below := tasks_eq
    have waits : (.sharedSettle wait hooks poller others next :: below) <:+
        (parties.after act mover time).tasks (mover time) :=
      ⟨[], onTop.symm⟩
    obtain ⟨began, halfway⟩ := exists_halfway noneHalfway waits
    exact ⟨began, .shared halfway onTop⟩
  next => cases completes

end Parties

/-! ## What a completed turn does -/

namespace Parties

/-- A turn that is completed has waited for an entry: no request to stop was raised when the
turn began, and the entry was the earliest then. -/
structure Awaited (act : Interpretation κ D ε) (mover : Nat → Nat)
    (parties : Parties SlotStore κ D ε) (began time : Nat) (wait : Wait)
    (entry : Entry (Item κ D)) : Prop where
  /-- The turn. -/
  turn : Turn act mover parties (mover time) began time wait
  /-- No shutdown was requested. -/
  noShutdown : (parties.after act mover began).host.signals.shutdown = false
  /-- No restart was requested. -/
  noRestart : (parties.after act mover began).host.signals.restart = false
  /-- The entry was the earliest. -/
  earliest : (parties.ledger act mover began).IsEarliest entry
  /-- It is the one that the turn has waited for. -/
  handle_eq : entry.handle = wait.handle

/-- A completed turn fires the entry that it has waited for. -/
structure FiresAwaited (act : Interpretation κ D ε) (mover : Nat → Nat)
    (parties : Parties SlotStore κ D ε) (began time : Nat) (completion : Completion)
    (entry : Entry (Item κ D)) : Prop where
  /-- The wait was not cut short, no source had input, the entry is the earliest, and it is
  due. -/
  isDue : completion.IsDue (parties.ledger act mover time) entry
  /-- The due instant of the item itself has come. -/
  due_le : entry.value.due ≤ completion.reading
  /-- The item has been pending ever since the turn began. -/
  pending : ∀ step, began ≤ step → step ≤ time →
    entry ∈ (parties.ledger act mover step).live ∧
      (parties.after act mover step).scheduler.store.get? entry.handle = some entry.value
  /-- Its callback is called, and no other. -/
  calls_eq : calls ((parties.after act mover time).step act (mover time)).1 =
    [(entry.value.callback, entry.value.dispatch (.stored entry.handle) .timed)]
  /-- The entry is taken out, and no other. -/
  ledger_eq : parties.ledger act mover (time + 1) =
    (parties.ledger act mover time).erase entry.handle

/-- A step leaves the items alone. -/
structure LeavesItems (act : Interpretation κ D ε) (mover : Nat → Nat)
    (parties : Parties SlotStore κ D ε) (time : Nat) : Prop where
  /-- No callback is called. -/
  calls_eq : calls ((parties.after act mover time).step act (mover time)).1 = []
  /-- The store holds what it held. -/
  get?_eq : ∀ handle, (parties.after act mover (time + 1)).scheduler.store.get? handle =
    (parties.after act mover time).scheduler.store.get? handle
  /-- The items kept aside are the same. -/
  detached_eq : (parties.after act mover (time + 1)).scheduler.detached =
    (parties.after act mover time).scheduler.detached
  /-- The pending entries are the same, with their due instants and in their order. -/
  ledger_eq : parties.ledger act mover (time + 1) = parties.ledger act mover time

section Safety

variable {act : Interpretation κ D ε} {mover : Nat → Nat} {parties : Parties SlotStore κ D ε}
variable {limit : Option Nat} {began time : Nat} {completion : Completion}
variable {entry : Entry (Item κ D)}

theorem represents
    (startsEmpty : parties.scheduler.store = .empty limit)
    (step : Nat) :
    (parties.after act mover step).scheduler.store.Represents (parties.ledger act mover step) :=
  (parties.course act mover).represents startsEmpty step

theorem ledger_succ (step : Nat) :
    parties.ledger act mover (step + 1) =
      ((parties.after act mover step).step act (mover step)).1.foldl Ledger.record
        (parties.ledger act mover step) :=
  Ledger.ofHistory_append _ _

theorem exists_awaited
    (startsEmpty : parties.scheduler.store = .empty limit)
    (bounds : (parties.ledger act mover time).WithinBounds)
    (turn : Turn act mover parties (mover time) began time completion.wait) :
    ∃ entry, Awaited act mover parties began time completion.wait entry := by
  have extension := (parties.course act mover).extends_ledger turn.began_le
  obtain ⟨hooks, planned⟩ := turn.exists_planned
  obtain ⟨noShutdown, noRestart, entry, earliest, handle_eq, -⟩ :=
    Scheduler.of_planTurn_await (represents startsEmpty began) (extension.withinBounds bounds)
      planned
  exact ⟨entry, turn, noShutdown, noRestart, earliest, handle_eq⟩

/-- An entry that is pending at the end of a turn has been pending since the turn began. -/
theorem Awaited.pending
    (awaited : Awaited act mover parties began time completion.wait entry)
    (startsEmpty : parties.scheduler.store = .empty limit)
    (live : entry ∈ (parties.ledger act mover time).live)
    {step : Nat}
    (notBefore : began ≤ step)
    (notAfter : step ≤ time) :
    entry ∈ (parties.ledger act mover step).live ∧
      (parties.after act mover step).scheduler.store.get? entry.handle = some entry.value := by
  have extensionBefore := (parties.course act mover).extends_ledger notBefore
  have extensionAfter := (parties.course act mover).extends_ledger notAfter
  have represents_time : (parties.after act mover time).scheduler.store.Represents
      (parties.ledger act mover time) := represents startsEmpty time
  have represents_step : (parties.after act mover step).scheduler.store.Represents
      (parties.ledger act mover step) := represents startsEmpty step
  have live_step : entry ∈ (parties.ledger act mover step).live :=
    represents_time.holds.coherent.live_of_extends extensionBefore extensionAfter
      (Ledger.mem_issued_of_live awaited.earliest.1) live
  refine ⟨live_step, ?_⟩
  rw [represents_step.holds.get?_eq_some_iff]
  exact ⟨entry, live_step, rfl, rfl⟩

/-- If the awaited entry is not to be fired, then no entry is. -/
theorem Awaited.not_isDue
    (awaited : Awaited act mover parties began time completion.wait entry)
    (startsEmpty : parties.scheduler.store = .empty limit)
    (bounds : (parties.ledger act mover time).WithinBounds)
    (notDue : ¬ completion.IsDue (parties.ledger act mover time) entry)
    (other : Entry (Item κ D)) :
    ¬ completion.IsDue (parties.ledger act mover time) other := by
  intro isDue
  have extension := (parties.course act mover).extends_ledger awaited.turn.began_le
  have coherent : (parties.ledger act mover time).Coherent :=
    (represents startsEmpty time).holds.coherent
  have issued := extension.issued_subset (Ledger.mem_issued_of_live awaited.earliest.1)
  have sameEntry : other = entry :=
    coherent.eq_of_handle_eq bounds (Ledger.mem_issued_of_live isDue.earliest.1) issued
      (isDue.handle_eq.trans awaited.handle_eq.symm)
  exact notDue (sameEntry ▸ isDue)

/-- A step that completes a turn calls the callback of the entry that is to be fired, after events
that leave the items alone. -/
theorem events_of_isDue
    (startsEmpty : parties.scheduler.store = .empty limit)
    (bounds : (parties.ledger act mover time).WithinBounds)
    (completes : ((parties.after act mover time).execution (mover time)).completion? =
      some completion)
    (isDue : completion.IsDue (parties.ledger act mover time) entry) :
    ∃ begun, (∀ event ∈ begun, event.isQuiet = true) ∧
      ((parties.after act mover time).step act (mover time)).1 =
        begun ++ [.dispatched entry.value.callback
          (entry.value.dispatch (.stored entry.handle) .timed)] := by
  obtain ⟨begun, scheduler, host, loop, next, tasks, quiet, effects, -, events_eq, -, -⟩ :=
    Execution.exists_settle_of_completion act completes
  have looked := effects.represents (represents startsEmpty time)
  rw [Ledger.foldl_record_of_quiet _ quiet] at looked
  rw [Scheduler.settleTurn_of_isDue looked bounds isDue, Execution.afterTurn_fire] at events_eq
  exact ⟨begun, quiet, events_eq⟩

theorem Awaited.fires
    (awaited : Awaited act mover parties began time completion.wait entry)
    (startsEmpty : parties.scheduler.store = .empty limit)
    (bounds : (parties.ledger act mover time).WithinBounds)
    (completes : ((parties.after act mover time).execution (mover time)).completion? =
      some completion)
    (isDue : completion.IsDue (parties.ledger act mover time) entry) :
    FiresAwaited act mover parties began time completion entry := by
  obtain ⟨begun, quiet, events_eq⟩ := events_of_isDue startsEmpty bounds completes isDue
  have issued := Ledger.mem_issued_of_live isDue.earliest.1
  have due_eq : entry.due = entry.value.due := Ledger.duesAgree_ofHistory _ entry issued
  refine ⟨isDue, due_eq ▸ isDue.due_le, ?_, ?_, ?_⟩
  · intro step notBefore notAfter
    exact awaited.pending startsEmpty isDue.earliest.1 notBefore notAfter
  · rw [events_eq, calls_append, calls_eq_nil_of_quiet quiet]
    rfl
  · rw [ledger_succ, events_eq, List.foldl_append, Ledger.foldl_record_of_quiet _ quiet]
    rfl

theorem leavesItems_of_not_isDue
    (startsEmpty : parties.scheduler.store = .empty limit)
    (bounds : (parties.ledger act mover time).WithinBounds)
    (completes : ((parties.after act mover time).execution (mover time)).completion? =
      some completion)
    (notDue : ∀ entry, ¬ completion.IsDue (parties.ledger act mover time) entry) :
    LeavesItems act mover parties time := by
  obtain ⟨begun, scheduler, host, loop, next, tasks, quiet, effects, sameDetached, events_eq,
    scheduler_eq, -⟩ := Execution.exists_settle_of_completion act completes
  have looked := effects.represents (represents startsEmpty time)
  rw [Ledger.foldl_record_of_quiet _ quiet] at looked
  have endQuiet := Execution.quiet_afterTurn act
    (scheduler.settleTurn completion.wait completion.result completion.reading).2 host
    (Scheduler.settleTurn_of_not_isDue looked bounds notDue) loop next tasks
  have allQuiet : ∀ event ∈ ((parties.after act mover time).step act (mover time)).1,
      event.isQuiet = true := by
    intro event told
    rw [events_step, events_eq, List.mem_append] at told
    rcases told with isBegun | isEnd
    · exact quiet event isBegun
    · exact endQuiet event isEnd
  have ledger_eq : parties.ledger act mover (time + 1) = parties.ledger act mover time := by
    rw [ledger_succ]
    exact Ledger.foldl_record_of_quiet _ allQuiet
  refine ⟨calls_eq_nil_of_quiet allQuiet, ?_, ?_, ledger_eq⟩
  · intro handle
    have represents_time : (parties.after act mover time).scheduler.store.Represents
        (parties.ledger act mover time) := represents startsEmpty time
    have represents_next : (parties.after act mover (time + 1)).scheduler.store.Represents
        (parties.ledger act mover (time + 1)) := represents startsEmpty (time + 1)
    rw [represents_next.holds.get?_eq, represents_time.holds.get?_eq, ledger_eq]
  · rw [after, scheduler_step, scheduler_eq, Scheduler.detached_settleTurn, sameDetached]
    rfl

/-- A completed turn fires what it has waited for, or it leaves the items alone. -/
theorem exists_awaited_of_completion
    (startsEmpty : parties.scheduler.store = .empty limit)
    (noneHalfway : ∀ party, ∀ task ∈ parties.tasks party, task.isSettle = false)
    (bounds : (parties.ledger act mover time).WithinBounds)
    (completes : ((parties.after act mover time).execution (mover time)).completion? =
      some completion) :
    ∃ began entry, Awaited act mover parties began time completion.wait entry ∧
      (FiresAwaited act mover parties began time completion entry ∨
        ¬ completion.IsDue (parties.ledger act mover time) entry ∧
          LeavesItems act mover parties time) := by
  obtain ⟨began, turn⟩ := exists_turn noneHalfway completes
  obtain ⟨entry, awaited⟩ := exists_awaited startsEmpty bounds turn
  refine ⟨began, entry, awaited, ?_⟩
  by_cases isDue : completion.IsDue (parties.ledger act mover time) entry
  · exact Or.inl (awaited.fires startsEmpty bounds completes isDue)
  · have noneDue := awaited.not_isDue startsEmpty bounds isDue
    exact Or.inr ⟨isDue, leavesItems_of_not_isDue startsEmpty bounds completes noneDue⟩

end Safety

/-- Whatever any number of parties do at a scheduler whose store is empty at first, and however
they take turns: within bounds, a callback is called as timed only by the second half of a turn,
for the entry that has been awaited since the turn began, and only if it is to be fired; in all
other cases the second half leaves the items as they are. -/
theorem timed_firing_is_safe
    (act : Interpretation κ D ε)
    (mover : Nat → Nat)
    (parties : Parties SlotStore κ D ε)
    (limit : Option Nat)
    (startsEmpty : parties.scheduler.store = .empty limit)
    (noneHalfway : ∀ party, ∀ task ∈ parties.tasks party, task.isSettle = false)
    (time : Nat)
    (bounds : (parties.ledger act mover time).WithinBounds) :
    (∀ callback told,
      (callback, told) ∈ calls ((parties.after act mover time).step act (mover time)).1 →
        told.reason = .timed →
          ∃ completion began entry,
            ((parties.after act mover time).execution (mover time)).completion? =
                some completion ∧
              Awaited act mover parties began time completion.wait entry ∧
              FiresAwaited act mover parties began time completion entry) ∧
      ∀ completion,
        ((parties.after act mover time).execution (mover time)).completion? = some completion →
          ∃ began entry, Awaited act mover parties began time completion.wait entry ∧
            (FiresAwaited act mover parties began time completion entry ∨
              ¬ completion.IsDue (parties.ledger act mover time) entry ∧
                LeavesItems act mover parties time) := by
  constructor
  · intro callback told called isTimed
    cases completes : ((parties.after act mover time).execution (mover time)).completion? with
    | none =>
        have isAbort :=
          Execution.reason_of_dispatched act _ ((mem_calls _ _ _).mp called) completes
        rw [isAbort] at isTimed
        cases isTimed
    | some completion =>
        obtain ⟨began, entry, awaited, fires | ⟨-, leaves⟩⟩ :=
          exists_awaited_of_completion startsEmpty noneHalfway bounds completes
        · exact ⟨completion, began, entry, rfl, awaited, fires⟩
        · rw [leaves.calls_eq] at called
          cases called
  · intro completion completes
    exact exists_awaited_of_completion startsEmpty noneHalfway bounds completes

theorem timed_firing_is_safe_visit :
    visit.scheduler.store = .empty (some 2) ∧
      (∀ party, ∀ task ∈ visit.tasks party, task.isSettle = false) ∧
      (visit.ledger visitAct visitMover 13).WithinBounds ∧
      ∃ completion began entry,
        ((visit.after visitAct visitMover 13).execution (visitMover 13)).completion? =
            some completion ∧
          Awaited visitAct visitMover visit began 13 completion.wait entry ∧
          FiresAwaited visitAct visitMover visit began 13 completion entry := by
  have noneHalfway : ∀ party, ∀ task ∈ visit.tasks party, task.isSettle = false := by
    intro party task present
    obtain rfl := List.mem_singleton.mp present
    rfl
  have bounds : (visit.ledger visitAct visitMover 13).WithinBounds :=
    withinBounds_of_short _ _ _ (by decide)
  have called : ('b', ⟨.stored ⟨1, 0⟩, 5000, .timed, 0, 1⟩) ∈
      calls ((visit.after visitAct visitMover 13).step visitAct (visitMover 13)).1 := by
    decide +kernel
  have safe := timed_firing_is_safe visitAct visitMover visit (some 2) rfl noneHalfway 13 bounds
  exact ⟨rfl, noneHalfway, bounds, safe.1 _ _ called rfl⟩

end Parties

end Agenda
