import Agenda.Proofs.Execution.Chores
import Agenda.Proofs.Execution.Departures
import Agenda.Proofs.Execution.Draining

/-!
# Loops come to an end when time passes

A loop goes on for as long as there are items in the store.  It comes to an end if every callback
is a finite tree of requests that schedules smaller callbacks only, and if time passes: a wait in
which no source has input takes as long as it should, and all but finitely many waits are such.

What is to be done gets lighter whenever an item is fired or a callback makes a request.  Between
these the loop waits for one and the same entry.  A wait that is cut short brings nearer the last of
such waits, and any other brings nearer the instant at which the entry is due, because the time to
wait for is positive as long as that instant lies ahead.
-/

namespace Agenda

variable {κ D ε : Type}

/-! ## Passing time -/

/-- Whether a wait took its time, counted from the instant when its turn began: the whole time if no
source had input, and otherwise any time, and it did not fail. -/
def Completion.Elapses (completion : Completion) (now : Instant) : Prop :=
  match completion.result with
  | .ok 0 => now + completion.wait.timeout.toNat ≤ completion.reading
  | .ok (_ + 1) => now ≤ completion.reading
  | .error error => error.kind = .interrupted ∧ now ≤ completion.reading

instance (completion : Completion) (now : Instant) : Decidable (completion.Elapses now) := by
  unfold Completion.Elapses
  split <;> infer_instance

/-- The clock is not moved backwards. -/
theorem Completion.Elapses.le
    {completion : Completion}
    {now : Instant}
    (elapses : completion.Elapses now) :
    now ≤ completion.reading := by
  unfold Elapses at elapses
  split at elapses
  · exact Nat.le_of_add_right_le elapses
  · exact elapses
  · exact elapses.2

/-- A wait that is not cut short takes the whole time. -/
theorem Completion.Elapses.add_le
    {completion : Completion}
    {now : Instant}
    (elapses : completion.Elapses now)
    (noInput : completion.result = .ok 0) :
    now + completion.wait.timeout.toNat ≤ completion.reading := by
  rwa [Elapses, noInput] at elapses

/-- A wait that is cut short has the loop go on. -/
theorem Completion.Elapses.settleTurn_eq
    {σ : Type → Type}
    [OrderedStore σ]
    {completion : Completion}
    {now : Instant}
    (elapses : completion.Elapses now)
    (cutShort : completion.result ≠ .ok 0)
    (scheduler : Scheduler σ κ D) :
    scheduler.settleTurn completion.wait completion.result completion.reading =
      (.again, scheduler) := by
  unfold Elapses at elapses
  split at elapses
  next noInput => exact absurd noInput cutShort
  next ready result_eq => rw [result_eq, Scheduler.settleTurn, if_pos (Nat.succ_pos ready)]
  next error result_eq => rw [result_eq, Scheduler.settleTurn, if_pos elapses.1]

namespace Loop

/-- A loop that nothing waits for. -/
def alone {σ : Type → Type} (loop : Loop κ D ε) (start : Situation σ κ D ε) :
    Execution σ κ D ε :=
  loop.running start [] (fun _ => .done) []

/-- Time passes while a loop runs after what has happened before, and nobody asks it to stop. -/
structure TimePasses (loop : Loop κ D ε) (history : List (Event κ D))
    (start : Situation SlotStore κ D ε) : Prop where
  /-- No request to stop is raised. -/
  goesOn : ∀ steps, ((loop.alone start).after loop.act steps).host.signals.stop? = none
  /-- Every wait takes its time. -/
  elapses : ∀ steps, ∀ completion ∈ ((loop.alone start).after loop.act steps).completion?,
    completion.Elapses ((loop.alone start).after loop.act steps).host.clock.now
  /-- Only finitely many waits are cut short. -/
  settles : ∃ last, ∀ steps ≥ last,
    ∀ completion ∈ ((loop.alone start).after loop.act steps).completion?,
      completion.result = .ok 0
  /-- Fewer than 2^64 items are taken, and no slot is emptied 2^32 times. -/
  bounds : ∀ steps,
    (Ledger.ofHistory (history ++ (loop.alone start).history loop.act steps)).WithinBounds

end Loop

/-! ## The longest wait -/

theorem Effect.pollCeiling_eq
    {σ : Type → Type}
    [OrderedStore σ]
    {now : Instant}
    {scheduler next : Scheduler σ κ D}
    {events : List (Event κ D)}
    (effect : Effect now scheduler events next) :
    next.pollCeiling = scheduler.pollCeiling := by
  cases effect with
  | quiet | peek | accept | detach | refuse | release => rfl
  | cancel removed => exact Scheduler.pollCeiling_remove removed
  | miss removed => exact Scheduler.pollCeiling_remove removed
  | fire _ _ removed =>
      have same := Scheduler.pollCeiling_remove removed
      exact same

theorem Execution.pollCeiling_after
    {σ : Type → Type}
    [OrderedStore σ]
    (act : Interpretation κ D ε)
    (execution : Execution σ κ D ε)
    (steps : Nat) :
    (execution.after act steps).scheduler.pollCeiling = execution.scheduler.pollCeiling :=
  (execution.course act).timelessInvariant
    (fun _ scheduler => scheduler.pollCeiling = execution.scheduler.pollCeiling) rfl
    (fun effect same => effect.pollCeiling_eq.trans same) steps

namespace Loop

/-! ## Points on the way -/

/-- In a number of steps a loop gets to routines that come to an end, and it has released nothing. -/
structure Reaches (loop : Loop κ D ε) (smaller : κ → κ → Prop) (start : Situation SlotStore κ D ε)
    (steps : Nat) (told : Diary κ D) (above : List (Underway κ D ε))
    (situation : Situation SlotStore κ D ε) : Prop where
  /-- The loop gets there. -/
  passesIn : loop.PassesIn steps [] start told (tasksOf above) situation
  /-- The routines schedule items with smaller callbacks only. -/
  tame : ∀ owned ∈ above, owned.2.SchedulesOnly (smaller · owned.1)
  /-- Nothing was released. -/
  noRelease : ∀ items, .released items ∉ told.map Prod.snd

/-- The ledger of a history and of what was told since. -/
def ledgerAfter (history : List (Event κ D)) (told : Diary κ D) : Ledger (Item κ D) :=
  .ofHistory (history ++ told.map Prod.snd)

theorem ledgerAfter_append_stamp
    (history : List (Event κ D))
    (told : Diary κ D)
    (now : Instant)
    (events : List (Event κ D)) :
    ledgerAfter history (told ++ stamp now events) =
      events.foldl Ledger.record (ledgerAfter history told) := by
  rw [ledgerAfter, List.map_append, map_snd_stamp, ← List.append_assoc, Ledger.ofHistory_append]
  rfl

section Points

variable {loop : Loop κ D ε} {smaller : κ → κ → Prop} {history : List (Event κ D)}
variable {start situation : Situation SlotStore κ D ε} {steps : Nat} {told : Diary κ D}
variable {above : List (Underway κ D ε)}

theorem Reaches.after_alone (reaches : loop.Reaches smaller start steps told above situation) :
    (loop.alone start).after loop.act steps =
      loop.running situation (tasksOf above) (fun _ => .done) [] :=
  (reaches.passesIn _ _).1

theorem Reaches.history_alone (reaches : loop.Reaches smaller start steps told above situation) :
    (loop.alone start).history loop.act steps = told.map Prod.snd := by
  rw [← Execution.map_snd_diary]
  exact congrArg _ (reaches.passesIn _ _).2

theorem Reaches.goesOn
    (reaches : loop.Reaches smaller start steps told above situation)
    (timePasses : loop.TimePasses history start) :
    situation.host.signals.stop? = none := by
  have goesOn := timePasses.goesOn steps
  rw [reaches.after_alone] at goesOn
  exact goesOn

/-- At every point the store has the entries of the ledger, and handles tell them apart. -/
theorem Reaches.stocked
    (reaches : loop.Reaches smaller start steps told above situation)
    (represents : start.scheduler.store.Represents (.ofHistory history))
    (timePasses : loop.TimePasses history start) :
    situation.scheduler.Stocked (ledgerAfter history told) start.scheduler.pollCeiling := by
  have represents_start : (loop.alone start).scheduler.store.Represents (.ofHistory history) :=
    represents
  have tracked := Execution.tracked loop.act represents_start steps
  have bounds := timePasses.bounds steps
  have ceiling_eq := (loop.alone start).pollCeiling_after loop.act steps
  rw [reaches.history_alone] at tracked bounds
  rw [reaches.after_alone] at tracked ceiling_eq
  have represents_now : situation.scheduler.store.Represents (ledgerAfter history told) := by
    rw [ledgerAfter, Ledger.ofHistory_append]
    exact tracked.represents
  exact ⟨represents_now, represents_now.holds.coherent.legible bounds, ceiling_eq⟩

/-- What is told in one more step. -/
theorem Reaches.succ
    (reaches : loop.Reaches smaller start steps told above situation)
    {events : List (Event κ D)}
    {aboveThen : List (Underway κ D ε)}
    {later : Situation SlotStore κ D ε}
    (passes : loop.PassesIn 1 (tasksOf above) situation (stamp later.host.clock.now events)
      (tasksOf aboveThen) later)
    (tame : ∀ owned ∈ aboveThen, owned.2.SchedulesOnly (smaller · owned.1))
    (noRelease : ∀ items, .released items ∉ events) :
    loop.Reaches smaller start (steps + 1) (told ++ stamp later.host.clock.now events) aboveThen
      later where
  passesIn := reaches.passesIn.trans passes
  tame := tame
  noRelease items told := by
    rw [List.map_append, map_snd_stamp, List.mem_append] at told
    exact told.elim (reaches.noRelease items) (noRelease items)

/-- What there is to do at a point on the way. -/
def workAt (history : List (Event κ D)) (told : Diary κ D) (above : List (Underway κ D ε))
    (situation : Situation SlotStore κ D ε) : Multiset (Chore κ D ε) :=
  workload (ledgerAfter history told) situation.scheduler.detached above

/-- A request of a callback lightens the work. -/
theorem Reaches.exists_request
    (allTame : ∀ callback told, (loop.act callback told).SchedulesOnly (smaller · callback))
    (represents : start.scheduler.store.Represents (.ofHistory history))
    (timePasses : loop.TimePasses history start)
    {owned : Underway κ D ε}
    (reaches : loop.Reaches smaller start steps told (owned :: above) situation) :
    ∃ toldThen aboveThen later,
      loop.Reaches smaller start (steps + 1) toldThen aboveThen later ∧
        Chore.Lighter smaller (workAt history toldThen aboveThen later)
          (workAt history told (owned :: above) situation) := by
  have stocked := reaches.stocked represents timePasses
  obtain ⟨events, next, changed, pushed, requested, lightens⟩ :=
    exists_lightens loop.act allTame stocked.represents situation.host
      (reaches.tame owned List.mem_cons_self)
  have passes := passesIn_of_request (tasksOf pushed) requested (tasksOf above)
  rw [tasksOf, tasksOf, ← List.map_append] at passes
  refine ⟨_, pushed ++ above, ⟨next, changed⟩, reaches.succ passes ?_ lightens.noRelease, ?_⟩
  · intro other isOther
    rcases List.mem_append.mp isOther with isPushed | isAbove
    · exact lightens.tame other isPushed
    · exact reaches.tame other (List.mem_cons_of_mem _ isAbove)
  · rw [workAt, ledgerAfter_append_stamp]
    exact lightens.lighter above

end Points

/-! ## Turns -/

theorem not_released_of_quiet
    {events : List (Event κ D)}
    (quiet : ∀ event ∈ events, event.isQuiet = true) :
    ∀ items, .released items ∉ events :=
  fun items told => nomatch quiet (.released items) told

theorem quiet_waited
    {σ : Type → Type}
    [OrderedStore σ]
    (loop : Loop κ D ε)
    (start : Situation σ κ D ε)
    (timeout : UInt64)
    (result : PollResult) :
    ∀ event ∈ loop.begun start ++ [.polled timeout result], event.isQuiet = true := by
  intro event told
  rcases List.mem_append.mp told with isBegun | isPolled
  · exact Execution.planEvents_quiet start.host _ event isBegun
  · obtain rfl := List.mem_singleton.mp isPolled
    rfl

section Turns

variable {loop : Loop κ D ε} {smaller : κ → κ → Prop} {history : List (Event κ D)}
variable {start situation : Situation SlotStore κ D ε} {steps : Nat} {told : Diary κ D}
variable {entry : Entry (Item κ D)}
variable (allTame : ∀ callback told, (loop.act callback told).SchedulesOnly (smaller · callback))
variable (positive : 0 < start.scheduler.pollCeiling)
variable (represents : start.scheduler.store.Represents (.ofHistory history))
variable (timePasses : loop.TimePasses history start)
variable (reaches : loop.Reaches smaller start steps told [] situation)
variable (earliest : (ledgerAfter history told).IsEarliest entry)

/-- A wait of a turn. -/
structure Waits (loop : Loop κ D ε) (situation : Situation SlotStore κ D ε)
    (completion : Completion) (polledHost : Host ε) : Prop where
  /-- The turn waits. -/
  plan_eq : (situation.scheduler.planTurn loop.hooks situation.host).plan = .await completion.wait
  /-- This is what the wait brings. -/
  polled_eq : loop.poller completion.wait.timeout
    (situation.scheduler.planTurn loop.hooks situation.host).host = (completion.result, polledHost)
  /-- And this is what the clock shows then. -/
  reading_eq : polledHost.clock.now = completion.reading

section Settled

include reaches

/-- A wait that is cut short, or after which the entry is not due yet, has the loop go on. -/
theorem Reaches.exists_again
    {completion : Completion}
    {polledHost : Host ε}
    (waits : loop.Waits situation completion polledHost)
    {settled : Scheduler SlotStore κ D}
    (settles : (situation.scheduler.planTurn loop.hooks situation.host).scheduler.settleTurn
      completion.wait completion.result completion.reading = (.again, settled)) :
    ∃ toldThen,
      loop.Reaches smaller start (steps + 1) toldThen [] ⟨settled, polledHost⟩ ∧
        ledgerAfter history toldThen = ledgerAfter history told ∧
        settled.detached = situation.scheduler.detached := by
  have passes := passesIn_of_again waits.plan_eq waits.polled_eq (waits.reading_eq ▸ settles)
  have quiet := quiet_waited loop situation completion.wait.timeout completion.result
  refine ⟨_, reaches.succ passes (List.forall_mem_nil _) (not_released_of_quiet quiet), ?_, ?_⟩
  · rw [ledgerAfter_append_stamp]
    exact Ledger.foldl_record_of_quiet _ quiet
  · have settled_eq := Scheduler.detached_settleTurn
      (situation.scheduler.planTurn loop.hooks situation.host).scheduler completion.wait
      completion.result completion.reading
    rw [settles, Scheduler.detached_planTurn] at settled_eq
    exact settled_eq

include allTame

/-- An entry that is due is fired, which lightens the work. -/
theorem Reaches.exists_fire
    {completion : Completion}
    {polledHost : Host ε}
    (waits : loop.Waits situation completion polledHost)
    (coherent : (ledgerAfter history told).Coherent)
    (present : entry ∈ (ledgerAfter history told).live)
    {settled : Scheduler SlotStore κ D}
    (settles : (situation.scheduler.planTurn loop.hooks situation.host).scheduler.settleTurn
      completion.wait completion.result completion.reading =
        (.fire (.stored entry.handle) entry.value, settled)) :
    ∃ toldThen aboveThen later,
      loop.Reaches smaller start (steps + 1) toldThen aboveThen later ∧
        Chore.Lighter smaller (workAt history toldThen aboveThen later)
          (workAt history told [] situation) := by
  let callback := entry.value.callback
  let dispatch := entry.value.dispatch (.stored entry.handle) .timed
  have passes := passesIn_of_fire waits.plan_eq waits.polled_eq (waits.reading_eq ▸ settles)
  have quiet := quiet_waited loop situation completion.wait.timeout completion.result
  have events_eq : loop.begun situation ++
      [.polled completion.wait.timeout completion.result, .dispatched callback dispatch] =
        (loop.begun situation ++ [.polled completion.wait.timeout completion.result]) ++
          [.dispatched callback dispatch] := by
    rw [List.append_assoc]
    rfl
  rw [events_eq] at passes
  refine ⟨_, [(callback, loop.act callback dispatch)], ⟨settled, polledHost⟩,
    reaches.succ passes ?_ ?_, ?_⟩
  · intro owned isOwned
    obtain rfl := List.mem_singleton.mp isOwned
    exact allTame _ _
  · intro items isTold
    rcases List.mem_append.mp isTold with isQuiet | isCall
    · exact not_released_of_quiet quiet items isQuiet
    · cases List.mem_singleton.mp isCall
  · have settled_eq := Scheduler.detached_settleTurn
      (situation.scheduler.planTurn loop.hooks situation.host).scheduler completion.wait
      completion.result completion.reading
    rw [settles, Scheduler.detached_planTurn] at settled_eq
    rw [workAt, workAt, ledgerAfter_append_stamp, List.foldl_append,
      Ledger.foldl_record_of_quiet _ quiet, List.foldl_cons, List.foldl_nil,
      Ledger.record_dispatch, settled_eq, workload_cons, workload_of_live coherent present]
    exact Chore.lighter_of_replaces .begin _

end Settled

include represents timePasses reaches earliest

theorem Reaches.exists_waits :
    ∃ completion polledHost,
      loop.Waits situation completion polledHost ∧
        completion.wait =
          ⟨entry.handle, waitFor situation.host.clock.now entry.due start.scheduler.pollCeiling⟩ ∧
        completion ∈ ((loop.alone start).after loop.act steps).completion? := by
  have goesOn : situation.host.signals.stop? = none := reaches.goesOn timePasses
  have planned :=
    (reaches.stocked represents timePasses).planTurn_eq earliest loop.hooks goesOn
  let wait : Wait :=
    ⟨entry.handle, waitFor situation.host.clock.now entry.due start.scheduler.pollCeiling⟩
  let polled := loop.poller wait.timeout (situation.scheduler.planTurn loop.hooks situation.host).host
  have plan_eq : (situation.scheduler.planTurn loop.hooks situation.host).plan = .await wait := by
    rw [planned]
  refine ⟨⟨wait, polled.1, polled.2.clock.now⟩, polled.2, ⟨plan_eq, rfl, rfl⟩, rfl, ?_⟩
  rw [reaches.after_alone, running, Situation.withTasks, tasksOf, List.map_nil, List.nil_append,
    Execution.completion?]
  simp only [plan_eq]
  rfl

theorem Reaches.stocked_planned :
    (situation.scheduler.planTurn loop.hooks situation.host).scheduler.Stocked
      (ledgerAfter history told) start.scheduler.pollCeiling := by
  have stocked := reaches.stocked represents timePasses
  rw [stocked.planTurn_eq earliest loop.hooks (reaches.goesOn timePasses)]
  exact stocked.peeked

include allTame positive

/-- The entry for which a loop waits is fired in the end. -/
theorem Reaches.exists_fired
    {last : Nat}
    (settles : ∀ steps ≥ last,
      ∀ completion ∈ ((loop.alone start).after loop.act steps).completion?,
        completion.result = .ok 0) :
    ∃ more toldThen aboveThen later,
      loop.Reaches smaller start more toldThen aboveThen later ∧
        Chore.Lighter smaller (workAt history toldThen aboveThen later)
          (workAt history told [] situation) := by
  -- The induction is on the waits that may yet be cut short and on the time left.
  induction left_eq : last - steps + (entry.due - situation.host.clock.now)
    using Nat.strong_induction_on generalizing steps told situation with
  | _ left inductionHypothesis =>
      obtain ⟨completion, polledHost, waits, wait_eq, completes⟩ :=
        reaches.exists_waits represents timePasses earliest
      have stocked := reaches.stocked_planned represents timePasses earliest
      have elapses : completion.Elapses situation.host.clock.now := by
        have elapsesThen := timePasses.elapses steps completion completes
        rw [reaches.after_alone] at elapsesThen
        exact elapsesThen
      have onward : ∀ settled,
          (situation.scheduler.planTurn loop.hooks situation.host).scheduler.settleTurn
              completion.wait completion.result completion.reading = (.again, settled) →
            last - (steps + 1) + (entry.due - completion.reading) < left →
              ∃ more toldThen aboveThen later,
                loop.Reaches smaller start more toldThen aboveThen later ∧
                  Chore.Lighter smaller (workAt history toldThen aboveThen later)
                    (workAt history told [] situation) := by
        intro settled again closer
        obtain ⟨toldThen, reachesThen, ledger_eq, detached_eq⟩ := reaches.exists_again waits again
        rw [← waits.reading_eq] at closer
        rw [← ledger_eq] at earliest
        rw [workAt, ← ledger_eq, ← detached_eq]
        exact inductionHypothesis _ closer reachesThen earliest rfl
      by_cases noInput : completion.result = .ok 0
      · have elapsed := elapses.add_le noInput
        have settleTurn_eq : ∀ scheduler : Scheduler SlotStore κ D,
            scheduler.settleTurn completion.wait completion.result completion.reading =
              scheduler.fireIfDue ⟨entry.handle, completion.wait.timeout⟩ completion.reading := by
          intro scheduler
          rw [noInput, wait_eq]
          rfl
        rcases Nat.lt_or_ge completion.reading entry.due with early | isDue
        · refine onward _ ((settleTurn_eq _).trans (stocked.fireIfDue_of_early earliest _ early)) ?_
          have timeout_eq := toNat_waitFor situation.host.clock.now entry.due
            start.scheduler.pollCeiling
          have wait_pos := longestWait_pos positive
          rw [wait_eq] at elapsed
          rw [longestWait] at wait_pos
          simp only [Instant] at *
          omega
        · obtain ⟨settled, fires, -⟩ :=
            stocked.exists_fireIfDue earliest completion.wait.timeout isDue
          have fired := reaches.exists_fire allTame waits stocked.represents.holds.coherent
            earliest.1 ((settleTurn_eq _).trans fires)
          exact ⟨steps + 1, fired⟩
      · have notLast : steps < last := by
          by_contra after
          exact noInput (settles steps (Nat.not_lt.mp after) completion completes)
        refine onward _ (elapses.settleTurn_eq noInput _) ?_
        have now_le := elapses.le
        simp only [Instant] at *
        omega

end Turns

/-! ## Whole loops -/

section Runs

variable {loop : Loop κ D ε} {smaller : κ → κ → Prop} {history : List (Event κ D)}
variable {start situation : Situation SlotStore κ D ε} {steps : Nat} {told : Diary κ D}
variable {above : List (Underway κ D ε)}

/-- A loop ends at a turn that finds the store empty. -/
theorem Reaches.exists_leavesIn_of_empty
    (represents : start.scheduler.store.Represents (.ofHistory history))
    (timePasses : loop.TimePasses history start)
    (reaches : loop.Reaches smaller start steps told [] situation)
    (noneLive : (ledgerAfter history told).live = []) :
    ∃ more toldThen stop,
      loop.LeavesIn more [] start toldThen .queueEmpty stop ∧
        (ledgerAfter history toldThen).live = [] ∧
        ∀ items, .released items ∉ toldThen.map Prod.snd := by
  have planned := (reaches.stocked represents timePasses).planTurn_of_empty noneLive loop.hooks
    (reaches.goesOn timePasses)
  have leaves := leavesIn_of_plan planned.1
  have quiet : ∀ event ∈ loop.begun situation ++ [.exited .queueEmpty], event.isQuiet = true := by
    intro event told
    rcases List.mem_append.mp told with isBegun | isExit
    · exact Execution.planEvents_quiet situation.host _ event isBegun
    · obtain rfl := List.mem_singleton.mp isExit
      rfl
  refine ⟨_, _, _, reaches.passesIn.leavesIn leaves, ?_, ?_⟩
  · rw [ledgerAfter_append_stamp, Ledger.foldl_record_of_quiet _ quiet]
    exact noneLive
  · intro items isTold
    rw [List.map_append, map_snd_stamp, List.mem_append] at isTold
    exact isTold.elim (reaches.noRelease items) (not_released_of_quiet quiet items)

/-- From every point on its way a loop gets to its end. -/
theorem Reaches.exists_leavesIn
    (wellFounded : WellFounded smaller)
    (allTame : ∀ callback told, (loop.act callback told).SchedulesOnly (smaller · callback))
    (positive : 0 < start.scheduler.pollCeiling)
    (represents : start.scheduler.store.Represents (.ofHistory history))
    (timePasses : loop.TimePasses history start)
    (reaches : loop.Reaches smaller start steps told above situation) :
    ∃ more toldThen stop,
      loop.LeavesIn more [] start toldThen .queueEmpty stop ∧
        (ledgerAfter history toldThen).live = [] ∧
        ∀ items, .released items ∉ toldThen.map Prod.snd := by
  -- The induction is on what there is to do.
  induction work_eq : workAt history told above situation
    using (Chore.wellFounded_lighter (D := D) (ε := ε) wellFounded).induction
    generalizing steps told above situation with
  | _ work inductionHypothesis =>
      subst work_eq
      cases above with
      | cons owned above =>
          obtain ⟨toldThen, aboveThen, later, reachesThen, lighter⟩ :=
            reaches.exists_request allTame represents timePasses
          exact inductionHypothesis _ lighter reachesThen rfl
      | nil =>
          have stocked := reaches.stocked represents timePasses
          rcases Nat.eq_zero_or_pos (ledgerAfter history told).live.length with noneLive | someLive
          · exact reaches.exists_leavesIn_of_empty represents timePasses
              (List.eq_nil_of_length_eq_zero noneLive)
          · obtain ⟨entry, earliest⟩ := stocked.exists_isEarliest someLive
            obtain ⟨last, settles⟩ := timePasses.settles
            obtain ⟨more, toldThen, aboveThen, later, reachesThen, lighter⟩ :=
              reaches.exists_fired allTame positive represents timePasses earliest settles
            exact inductionHypothesis _ lighter reachesThen rfl

end Runs

/-- A loop comes to an end if every callback is a finite tree of requests that schedules smaller
callbacks only, and if time passes: every wait in which no source has input takes as long as it
should, and only finitely many waits are cut short.  Then the loop ends because the store is empty,
and every item that was in the store at the beginning or came into it has been dispatched once. -/
theorem ends_when_time_passes
    (loop : Loop κ D ε)
    (mover : Nat → Nat)
    (parties : Parties SlotStore κ D ε)
    (limit : Option Nat)
    (startsEmpty : parties.scheduler.store = .empty limit)
    (steps : Nat)
    (host : Host ε)
    (positive : 0 < (parties.after loop.act mover steps).scheduler.pollCeiling)
    (smaller : κ → κ → Prop)
    (wellFounded : WellFounded smaller)
    (allTame : ∀ callback told, (loop.act callback told).SchedulesOnly (smaller · callback))
    (timePasses : loop.TimePasses (parties.history loop.act mover steps)
      ⟨(parties.after loop.act mover steps).scheduler, host⟩) :
    let scheduler := (parties.after loop.act mover steps).scheduler
    ∃ present told stop,
      (∀ handle item, scheduler.store.get? handle = some item ↔
        (.stored handle, item) ∈ present) ∧
        loop.Leaves ⟨scheduler, host⟩ told .queueEmpty stop ∧
        stop.scheduler.size = 0 ∧
        ((present ++ acceptances (told.map Prod.snd)).map Prod.fst).Nodup ∧
        (departures (told.map Prod.snd)).Perm (present ++ acceptances (told.map Prod.snd)) := by
  intro scheduler
  let ledger := parties.ledger loop.act mover steps
  let start : Situation SlotStore κ D ε := ⟨scheduler, host⟩
  have represents : start.scheduler.store.Represents ledger :=
    (parties.course loop.act mover).represents startsEmpty steps
  have begins : loop.Reaches smaller start 0 [] [] start :=
    ⟨passesIn_zero loop [] start, List.forall_mem_nil _, not_released_nil⟩
  obtain ⟨more, told, stop, leaves, noneLive, noRelease⟩ :=
    begins.exists_leavesIn wellFounded allTame positive represents timePasses
  have history_eq : (loop.alone start).history loop.act more = told.map Prod.snd := by
    rw [← Execution.map_snd_diary]
    exact congrArg _ (leaves _ _).2
  have represents_start : (loop.alone start).scheduler.store.Represents ledger := represents
  have tracked := Execution.tracked loop.act represents_start more
  have bounds := timePasses.bounds more
  have stop_eq : ((loop.alone start).after loop.act more).scheduler = stop.scheduler :=
    congrArg Execution.scheduler (leaves _ _).1
  rw [history_eq] at tracked bounds
  rw [stop_eq] at tracked
  rw [Ledger.ofHistory_append] at bounds
  rw [ledgerAfter, Ledger.ofHistory_append] at noneLive
  refine ⟨ledger.storedItems, told, stop, fun handle item => ?_, ⟨more, leaves⟩, ?_,
    tracked.handles_nodup bounds, ?_⟩
  · rw [Ledger.mem_storedItems]
    exact represents.holds.get?_eq_some_iff handle item
  · exact tracked.represents.holds.size_eq.trans (congrArg List.length noneLive)
  · exact (tracked.passing noRelease).departures_perm noneLive

/-! ## Checking that time passes -/

/-- What can be seen of a loop that comes to its end can be seen until then. -/
theorem exists_seen
    {loop : Loop κ D ε}
    {start : Situation SlotStore κ D ε}
    {last : Nat}
    (finished : ((loop.alone start).after loop.act last).isOver = true)
    (steps : Nat) :
    ∃ seen ≤ last,
      (loop.alone start).after loop.act steps = (loop.alone start).after loop.act seen ∧
        (loop.alone start).history loop.act steps = (loop.alone start).history loop.act seen := by
  rcases Nat.le_total steps last with before | after
  · exact ⟨steps, before, rfl, rfl⟩
  · obtain ⟨more, rfl⟩ := Nat.exists_eq_add_of_le after
    refine ⟨last, Nat.le_refl last, ?_, ?_⟩
    · rw [Execution.after_add, Execution.after_of_isOver loop.act finished]
    · rw [Execution.history_add, Execution.history_of_isOver loop.act finished, List.append_nil]

/-- That time passes while a loop runs that comes to its end can be checked step by step. -/
theorem timePasses_of_isOver
    {loop : Loop κ D ε}
    {history : List (Event κ D)}
    {start : Situation SlotStore κ D ε}
    {last : Nat}
    (finished : ((loop.alone start).after loop.act last).isOver = true)
    (goesOn : ∀ steps ≤ last, ((loop.alone start).after loop.act steps).host.signals.stop? = none)
    (elapses : ∀ steps ≤ last,
      ∀ completion ∈ ((loop.alone start).after loop.act steps).completion?,
        completion.Elapses ((loop.alone start).after loop.act steps).host.clock.now)
    (short : history.length + 5 * last < 2 ^ 32) :
    loop.TimePasses history start where
  goesOn steps := by
    obtain ⟨seen, before, after_eq, -⟩ := exists_seen finished steps
    rw [after_eq]
    exact goesOn seen before
  elapses steps := by
    obtain ⟨seen, before, after_eq, -⟩ := exists_seen finished steps
    rw [after_eq]
    exact elapses seen before
  settles := by
    refine ⟨last, fun steps after completion completes => ?_⟩
    obtain ⟨more, rfl⟩ := Nat.exists_eq_add_of_le after
    rw [Execution.after_add, Execution.after_of_isOver loop.act finished, Execution.completion?,
      List.isEmpty_iff.mp finished] at completes
    cases completes
  bounds steps := by
    obtain ⟨seen, before, -, history_eq⟩ := exists_seen finished steps
    have length_le := ((loop.alone start).course loop.act).length_history_le
      (fun _ => Execution.length_events_le loop.act _) seen
    rw [Execution.history_course] at length_le
    refine Ledger.withinBounds_ofHistory ?_
    rw [history_eq, List.length_append]
    omega

/-- A callback that schedules two smaller ones and cancels the second. -/
def countdown : Interpretation Nat Unit Nat
  | 0, _ => .done
  | callback + 1, _ =>
      .schedule (.ofSeconds 1) callback () fun _ =>
        .trySchedule (.ofSeconds 9) callback () fun
          | .ok second => .cancel second fun _ => .done
          | .error _ => .done

/-- A way of waiting that is interrupted once and finds input once, and then sleeps. -/
def restless : Poller Nat := fun timeout host =>
  let polled := { host with rest := host.rest + 1 }
  if host.rest = 0 then (.error ⟨.interrupted, "signal"⟩, polled)
  else if host.rest = 1 then (.ok 1, polled)
  else (.ok 0, { polled with clock := host.clock.advance timeout })

/-- A loop that counts down. -/
def countingDown : Loop Nat Unit Nat := ⟨countdown, .idle, restless⟩

/-- A store for two items, and the first item. -/
def launch : Parties SlotStore Nat Unit Nat :=
  .start ((Scheduler.ofStore (.empty (some 2))).withPollCeiling 700) ⟨⟨5000⟩, .clear, 0⟩ fun _ =>
    .schedule (.ofSeconds 1) 2 () fun _ => .done

theorem countdown_schedulesOnly (callback : Nat) (told : Dispatch Unit) :
    (countdown callback told).SchedulesOnly (· < callback) := by
  cases callback with
  | zero => exact .done
  | succ callback =>
      have isSmaller := Nat.lt_succ_self callback
      refine .schedule isSmaller fun _ => .trySchedule isSmaller fun result => ?_
      cases result with
      | ok second => exact .cancel fun _ => .done
      | error error => exact .done

theorem ends_when_time_passes_countdown :
    let scheduler := (launch.after countdown (fun _ => 0) 2).scheduler
    let history := launch.history countdown (fun _ => 0) 2
    let host : Host Nat := ⟨⟨5000⟩, .clear, 0⟩
    launch.scheduler.store = .empty (some 2) ∧ 0 < scheduler.pollCeiling ∧
      WellFounded (fun callback other : Nat => callback < other) ∧
      (∀ callback told, (countdown callback told).SchedulesOnly (· < callback)) ∧
      countingDown.TimePasses history ⟨scheduler, host⟩ ∧
      ∃ present told stop,
        (∀ handle item, scheduler.store.get? handle = some item ↔
          (.stored handle, item) ∈ present) ∧
          countingDown.Leaves ⟨scheduler, host⟩ told .queueEmpty stop ∧
          stop.scheduler.size = 0 ∧
          ((present ++ acceptances (told.map Prod.snd)).map Prod.fst).Nodup ∧
          (departures (told.map Prod.snd)).Perm (present ++ acceptances (told.map Prod.snd)) := by
  intro scheduler history host
  have finished : ((countingDown.alone ⟨scheduler, host⟩).after countdown 23).isOver = true := by
    decide +kernel
  have timePasses : countingDown.TimePasses history ⟨scheduler, host⟩ :=
    timePasses_of_isOver finished (by decide +kernel) (by decide +kernel) (by decide +kernel)
  have positive : 0 < scheduler.pollCeiling := by decide +kernel
  refine ⟨rfl, positive, Nat.lt_wfRel.wf, countdown_schedulesOnly, timePasses, ?_⟩
  exact ends_when_time_passes countingDown (fun _ => 0) launch (some 2) rfl 2 host positive
    (· < ·) Nat.lt_wfRel.wf countdown_schedulesOnly timePasses

end Loop
end Agenda
