import Agenda.Proofs.Execution.Loops
import Agenda.Proofs.Execution.Turns

/-!
# A shared loop that nobody else uses

A loop that others can reach takes three steps to a turn: it decides for how long to wait, the
others come, and it settles what the wait brought.  A loop that nobody can reach takes one.  If the
others do nothing, both do the same: they wait equally often and equally long, call the same hooks,
fire the same items, and leave the same situation behind by the same exit, or neither of them ever
ends.

The two run abreast.  A step of the one is a stride of one to three steps of the other, and in the
middle of a stride the other has not been left.
-/

namespace Agenda

variable {σ : Type → Type} {κ D ε : Type}

namespace Execution

/-- The same execution with further tasks that wait below. -/
def onTopOf (execution : Execution σ κ D ε) (below : List (Task κ D ε)) : Execution σ κ D ε :=
  { execution with tasks := execution.tasks ++ below }

theorem afterTurn_over
    (act : Interpretation κ D ε)
    (scheduler : Scheduler σ κ D)
    (host : Host ε)
    (settlement : Settlement κ D)
    (loop : Task κ D ε)
    (next : LoopExit → Routine κ D ε)
    (below : List (Task κ D ε)) :
    afterTurn act scheduler host settlement loop next below =
      ((afterTurn act scheduler host settlement loop next []).1,
        (afterTurn act scheduler host settlement loop next []).2.onTopOf below) := by
  cases settlement <;> rfl

variable [OrderedStore σ]

theorem request_over
    (act : Interpretation κ D ε)
    (scheduler : Scheduler σ κ D)
    (host : Host ε)
    (routine : Routine κ D ε)
    (below : List (Task κ D ε)) :
    request act scheduler host below routine =
      ((request act scheduler host [] routine).1,
        (request act scheduler host [] routine).2.onTopOf below) := by
  cases routine with
  | cancel handle next =>
      simp only [request]
      split <;> rfl
  | done | observe | update | ask | nextDue | schedule | trySchedule | shutdown | runLoop
  | runShared => rfl

/-- A step works on the topmost task and leaves alone those that wait. -/
theorem step_over
    (act : Interpretation κ D ε)
    (scheduler : Scheduler σ κ D)
    (host : Host ε)
    (task : Task κ D ε)
    (below : List (Task κ D ε)) :
    step act ⟨scheduler, host, task :: below⟩ =
      ((step act ⟨scheduler, host, [task]⟩).1,
        (step act ⟨scheduler, host, [task]⟩).2.onTopOf below) := by
  cases task with
  | routine routine => exact request_over act scheduler host routine below
  | turns hooks poller next =>
      simp only [step, turn]
      split
      · rfl
      · rw [afterTurn_over]
  | sharedTurns hooks poller others next =>
      simp only [step, sharedPlan]
      split <;> rfl
  | sharedSettle wait hooks poller others next =>
      simp only [step, sharedSettle]
      rw [afterTurn_over]

/-- What an execution has told is the beginning of what it will have told. -/
theorem history_prefix
    (act : Interpretation κ D ε)
    (execution : Execution σ κ D ε)
    {steps later : Nat}
    (notLater : steps ≤ later) :
    execution.history act steps <+: execution.history act later := by
  rw [← history_course, ← history_course]
  exact (execution.course act).history_mono notLater

end Execution

namespace Loop

/-- A loop that others could reach, but nobody does, with the tasks above it and below it. -/
def sharing (loop : Loop κ D ε) (situation : Situation σ κ D ε) (above : List (Task κ D ε))
    (next : LoopExit → Routine κ D ε) (below : List (Task κ D ε)) : Execution σ κ D ε :=
  situation.withTasks
    (above ++ .sharedTurns loop.hooks loop.poller (fun _ => .done) next :: below)

/-- Two executions that are in the same situation and have the same to do, except that what is a
loop of its own in the first is a shared one in the second; or that loop has been left. -/
inductive Abreast (loop : Loop κ D ε) (next : LoopExit → Routine κ D ε)
    (below : List (Task κ D ε)) : Execution σ κ D ε → Execution σ κ D ε → Prop where
  | within (situation : Situation σ κ D ε) (above : List (Task κ D ε)) :
      Abreast loop next below (loop.running situation above next below)
        (loop.sharing situation above next below)
  | beyond (execution : Execution σ κ D ε) : Abreast loop next below execution execution

variable {loop : Loop κ D ε} {next : LoopExit → Routine κ D ε} {below : List (Task κ D ε)}
variable {plain shared : Execution σ κ D ε} {stop : Situation σ κ D ε} {exit : LoopExit}

/-- As long as one of two executions is in the loop, so is the other. -/
theorem Abreast.eq_continued_iff (abreast : loop.Abreast next below plain shared) :
    plain = stop.continued next below exit ↔ shared = stop.continued next below exit := by
  cases abreast with
  | beyond => exact Iff.rfl
  | within situation above =>
      have inLoop : ∀ task : Task κ D ε, (∀ routine, task ≠ .routine routine) →
          situation.withTasks (above ++ task :: below) ≠ stop.continued next below exit := by
        intro task noRoutine same
        have tasks_eq : above ++ task :: below = .routine (next exit) :: below :=
          congrArg Execution.tasks same
        cases above with
        | nil => exact noRoutine _ (List.cons.inj tasks_eq).1
        | cons first above =>
            have length_eq := congrArg List.length tasks_eq
            simp only [List.length_append, List.length_cons] at length_eq
            omega
      constructor
      · exact fun same => absurd same (inLoop _ fun _ => nofun)
      · exact fun same => absurd same (inLoop _ fun _ => nofun)

/-- The ends of two turns that came to the same decision. -/
theorem abreast_afterTurn
    (loop : Loop κ D ε)
    (next : LoopExit → Routine κ D ε)
    (below : List (Task κ D ε))
    (scheduler : Scheduler σ κ D)
    (host : Host ε)
    (settlement : Settlement κ D) :
    let plain := Execution.afterTurn loop.act scheduler host settlement
      (.turns loop.hooks loop.poller next) next below
    let shared := Execution.afterTurn loop.act scheduler host settlement
      (.sharedTurns loop.hooks loop.poller (fun _ => .done) next) next below
    shared.1 = plain.1 ∧ loop.Abreast next below plain.2 shared.2 := by
  cases settlement with
  | again => exact ⟨rfl, .within ⟨scheduler, host⟩ []⟩
  | leave exit => exact ⟨rfl, .beyond _⟩
  | fire handle item => exact ⟨rfl, .within ⟨scheduler, host⟩ [.routine _]⟩

variable [OrderedStore σ]

/-- What runs above the loops does the same in both. -/
theorem abreast_step_above
    (loop : Loop κ D ε)
    (next : LoopExit → Routine κ D ε)
    (below : List (Task κ D ε))
    (situation : Situation σ κ D ε)
    (task : Task κ D ε)
    (above : List (Task κ D ε)) :
    let plain := (loop.running situation (task :: above) next below).step loop.act
    let shared := (loop.sharing situation (task :: above) next below).step loop.act
    shared.1 = plain.1 ∧ loop.Abreast next below plain.2 shared.2 := by
  have plain_eq := Execution.step_over loop.act situation.scheduler situation.host task
    (above ++ .turns loop.hooks loop.poller next :: below)
  have shared_eq := Execution.step_over loop.act situation.scheduler situation.host task
    (above ++ .sharedTurns loop.hooks loop.poller (fun _ => .done) next :: below)
  simp only [running, sharing, Situation.withTasks, List.cons_append, plain_eq, shared_eq]
  refine ⟨trivial, ?_⟩
  simp only [Execution.onTopOf, ← List.append_assoc]
  exact .within ⟨_, _⟩ _

/-- A turn that waits is a stride of three steps: the decision, others who do nothing, and the
settlement. -/
theorem sharing_stride
    {situation : Situation σ κ D ε}
    {wait : Wait}
    (planned : (situation.scheduler.planTurn loop.hooks situation.host).plan = .await wait) :
    let planned := situation.scheduler.planTurn loop.hooks situation.host
    let decided : Situation σ κ D ε := ⟨planned.scheduler, planned.host⟩
    let settling : List (Task κ D ε) :=
      .sharedSettle wait loop.hooks loop.poller (fun _ => .done) next :: below
    let shared := loop.sharing situation [] next below
    shared.after loop.act 1 = decided.withTasks (.routine .done :: settling) ∧
      shared.after loop.act 2 = decided.withTasks settling ∧
      shared.history loop.act 3 =
        ((loop.running situation [] next below).step loop.act).1 ∧
      loop.Abreast next below ((loop.running situation [] next below).step loop.act).2
        (shared.after loop.act 3) := by
  intro decision decided settling shared
  have first : shared.step loop.act =
      (loop.begun situation, decided.withTasks (.routine .done :: settling)) := by
    simp only [shared, sharing, Situation.withTasks, List.nil_append, Execution.step,
      Execution.sharedPlan, planned]
    rfl
  have second : (decided.withTasks (.routine .done :: settling)).step loop.act =
      ([], decided.withTasks settling) := rfl
  have after_two : shared.after loop.act 2 = decided.withTasks settling := by
    rw [Execution.after_succ, first, Execution.after_one, second]
  let polled := loop.poller wait.timeout decision.host
  let settled := decision.scheduler.settleTurn wait polled.1 polled.2.clock.now
  obtain ⟨ended_eq, abreast⟩ :=
    loop.abreast_afterTurn next below settled.2 polled.2 settled.1
  have whole : (loop.running situation [] next below).step loop.act =
      (loop.begun situation ++ .polled wait.timeout polled.1 ::
          (Execution.afterTurn loop.act settled.2 polled.2 settled.1
            (.turns loop.hooks loop.poller next) next below).1,
        (Execution.afterTurn loop.act settled.2 polled.2 settled.1
          (.turns loop.hooks loop.poller next) next below).2) := by
    simp only [running, Situation.withTasks, List.nil_append, Execution.step, Execution.turn,
      planned]
    rfl
  refine ⟨?_, after_two, ?_, ?_⟩
  · rw [Execution.after_one, first]
  · rw [Execution.history_succ_last, Execution.history_succ_last, Execution.history_one, after_two,
      Execution.after_one, first, second, whole, List.append_nil, ← ended_eq]
    rfl
  · rw [Execution.after_succ_last, after_two, whole]
    exact abreast

/-- A step of the first of two executions that run abreast is a stride of the second, which is not
left in the middle of it. -/
theorem Abreast.exists_stride (abreast : loop.Abreast next below plain shared) :
    ∃ more ≤ 2,
      shared.history loop.act (more + 1) = (plain.step loop.act).1 ∧
      loop.Abreast next below (plain.step loop.act).2 (shared.after loop.act (more + 1)) ∧
      ∀ steps, 0 < steps → steps ≤ more → ∀ stop exit,
        shared.after loop.act steps ≠ Situation.continued stop next below exit := by
  have notBetween : ∀ steps, 0 < steps → steps ≤ 0 → ∀ stop exit,
      shared.after loop.act steps ≠ Situation.continued stop next below exit :=
    fun _ positive none => absurd none (Nat.not_le_of_gt positive)
  cases abreast with
  | beyond =>
      refine ⟨0, Nat.zero_le 2, Execution.history_one _ _, ?_, notBetween⟩
      rw [Execution.after_one]
      exact .beyond _
  | within situation above =>
      cases above with
      | cons task above =>
          obtain ⟨told_eq, abreast⟩ := loop.abreast_step_above next below situation task above
          refine ⟨0, Nat.zero_le 2, ?_, ?_, notBetween⟩
          · rw [Execution.history_one, told_eq]
          · rw [Execution.after_one]
            exact abreast
      | nil =>
          cases planned :
              (situation.scheduler.planTurn loop.hooks situation.host).plan with
          | leave planExit =>
              have same : (loop.sharing situation [] next below).step loop.act =
                  (loop.running situation [] next below).step loop.act := by
                simp only [sharing, running, Situation.withTasks, List.nil_append, Execution.step,
                  Execution.sharedPlan, Execution.turn, planned]
              refine ⟨0, Nat.zero_le 2, ?_, ?_, notBetween⟩
              · rw [Execution.history_one, same]
              · rw [Execution.after_one, same]
                exact .beyond _
          | await wait =>
              obtain ⟨after_one, after_two, told_eq, abreast⟩ := sharing_stride planned
              refine ⟨2, Nat.le_refl 2, told_eq, abreast, ?_⟩
              intro steps positive few stop exit
              obtain rfl | rfl : steps = 1 ∨ steps = 2 := by omega
              · rw [after_one]
                intro same
                have length_eq := congrArg (fun reached => reached.tasks.length) same
                simp [Situation.withTasks, Situation.continued] at length_eq
              · rw [after_two]
                intro same
                have tasks_eq := congrArg Execution.tasks same
                cases tasks_eq

/-- However many steps the first of two executions makes, the second comes along. -/
theorem Abreast.exists_after
    (abreast : loop.Abreast next below plain shared)
    (steps : Nat) :
    ∃ more, steps ≤ more ∧ more ≤ 3 * steps ∧
      shared.history loop.act more = plain.history loop.act steps ∧
      loop.Abreast next below (plain.after loop.act steps) (shared.after loop.act more) := by
  induction steps with
  | zero => exact ⟨0, Nat.le_refl 0, Nat.le_refl 0, rfl, abreast⟩
  | succ steps inductionHypothesis =>
      obtain ⟨more, enough, few, told_eq, abreastThen⟩ := inductionHypothesis
      obtain ⟨stride, short, strideTold_eq, abreastLast, -⟩ := abreastThen.exists_stride
      refine ⟨more + (stride + 1), by omega, by omega, ?_, ?_⟩
      · rw [Execution.history_add, told_eq, strideTold_eq, Execution.history_succ_last]
      · rw [Execution.after_succ_last, Execution.after_add _ more]
        exact abreastLast

/-- What the second of two executions leaves behind, the first leaves behind. -/
theorem Abreast.exists_after_eq_continued
    (abreast : loop.Abreast next below plain shared)
    {steps : Nat}
    (left : shared.after loop.act steps = stop.continued next below exit) :
    ∃ fewer, plain.after loop.act fewer = stop.continued next below exit ∧
      plain.history loop.act fewer = shared.history loop.act steps := by
  -- The induction is on the strides; the loop cannot have been left in the middle of one.
  induction steps using Nat.strong_induction_on generalizing plain shared with
  | _ steps inductionHypothesis =>
      rcases Nat.eq_zero_or_pos steps with rfl | positive
      · exact ⟨0, abreast.eq_continued_iff.mpr left, rfl⟩
      · obtain ⟨stride, -, strideTold_eq, abreastThen, notBetween⟩ := abreast.exists_stride
        have wholeStride : stride + 1 ≤ steps := by
          by_contra tooFew
          exact notBetween steps positive (by omega) stop exit left
        obtain ⟨rest, rfl⟩ := Nat.exists_eq_add_of_le wholeStride
        rw [Execution.after_add] at left
        obtain ⟨fewer, leftThen, told_eq⟩ := inductionHypothesis rest (by omega) abreastThen left
        refine ⟨fewer + 1, ?_, ?_⟩
        · rw [Execution.after_succ]
          exact leftThen
        · rw [Execution.history, told_eq, Execution.history_add _ (stride + 1), strideTold_eq]

/-- A shared loop that nobody else uses does the same as a loop of its own, whatever its callbacks,
its hooks and its way of waiting do to the clock, to the requests and to the items.  The two run in
lockstep for as long as they run, and tell the same: the same waits for equally long and with the
same results, the same calls of the hooks, and the same dispatches.  Each of them leaves a
situation behind by some exit exactly if the other does. -/
theorem shared_loop_refines_loop
    (loop : Loop κ D ε)
    (start : Situation σ κ D ε)
    (next : LoopExit → Routine κ D ε)
    (below : List (Task κ D ε)) :
    let plain := loop.running start [] next below
    let shared := loop.sharing start [] next below
    (∀ steps, ∃ more, steps ≤ more ∧ more ≤ 3 * steps ∧
      shared.history loop.act more = plain.history loop.act steps ∧
      loop.Abreast next below (plain.after loop.act steps) (shared.after loop.act more)) ∧
    (∀ steps, shared.history loop.act steps <+: plain.history loop.act steps) ∧
    ∀ told stop exit,
      (∃ steps, plain.after loop.act steps = Situation.continued stop next below exit ∧
          plain.history loop.act steps = told) ↔
        ∃ steps, shared.after loop.act steps = Situation.continued stop next below exit ∧
          shared.history loop.act steps = told := by
  intro plain shared
  have abreast : loop.Abreast next below plain shared := .within start []
  refine ⟨abreast.exists_after, fun steps => ?_, fun told stop exit => ⟨?_, ?_⟩⟩
  · obtain ⟨more, enough, -, told_eq, -⟩ := abreast.exists_after steps
    rw [← told_eq]
    exact Execution.history_prefix loop.act shared enough
  · rintro ⟨steps, left, rfl⟩
    obtain ⟨more, -, -, told_eq, abreastThen⟩ := abreast.exists_after steps
    exact ⟨more, abreastThen.eq_continued_iff.mp left, told_eq⟩
  · rintro ⟨steps, left, rfl⟩
    exact abreast.exists_after_eq_continued left

end Loop
end Agenda
