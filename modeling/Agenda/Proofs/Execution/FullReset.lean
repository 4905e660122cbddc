import Agenda.Proofs.Execution.Limits
import Agenda.Proofs.Execution.Lockstep

/-!
# A shutdown starts everything afresh

A scheduler that was shut down differs from a new one in its slots and their generations, in the
order in which free slots are used, and in its counters.  None of this can be seen: whatever is
done later with handles that were given out later is answered as by a new scheduler, but for the
names of items.  The handles that were given out before are unknown for good.
-/

namespace Agenda

variable {κ D ε : Type}

/-! ## What a shutdown does -/

/-- Parties start alike, and none of them knows a handle. -/
structure StartAlike (C : Correspondence κ D ε) (parties twin : Parties SlotStore κ D ε) :
    Prop where
  /-- The surroundings correspond. -/
  hosts : parties.host.Corresponds C .empty twin.host
  /-- Whatever handles are given out, the parties make corresponding requests. -/
  tasks : ∀ party, List.Forall₂ (Task.Corresponds C .empty) (parties.tasks party)
    (twin.tasks party)

/-- Two runs are the same but for the names of items, which are paired one to one. -/
structure SameButNames (C : Correspondence κ D ε) (names : Naming)
    (history twinHistory : List (Event κ D)) (parties twin : Parties SlotStore κ D ε) :
    Prop where
  /-- The first names are the handles that the first run has given out, in their order. -/
  fst_eq : names.pairs.map Prod.fst = givenHandles history
  /-- The second names are those that the second run has given out. -/
  snd_eq : names.pairs.map Prod.snd = givenHandles twinHistory
  /-- The same has happened: insertions and refusals, dispatches, releases, turns, waits with their
  lengths and results, and exits. -/
  told : List.Forall₂ (Event.Corresponds C names) history twinHistory
  /-- As many items are pending. -/
  size_eq : twin.scheduler.size = parties.scheduler.size
  /-- As many are detached. -/
  detachedCount_eq : twin.scheduler.detachedCount = parties.scheduler.detachedCount
  /-- The earliest is due at the same instant. -/
  nextDue_eq : twin.scheduler.nextDue.1 = parties.scheduler.nextDue.1
  /-- Paired names are known in both runs or in neither. -/
  contains_eq : ∀ handle other, names.Pairs handle other →
    twin.scheduler.contains other = parties.scheduler.contains handle
  /-- The surroundings correspond. -/
  hosts : parties.host.Corresponds C names twin.host
  /-- All answers were the same, so the parties go on alike. -/
  tasks : ∀ party, List.Forall₂ (Task.Corresponds C names) (parties.tasks party)
    (twin.tasks party)

/-- What it means to shut down a scheduler over a slot store with a limit, after a history. -/
structure FullReset (ε : Type) (history : List (Event κ D)) (limit : Option Nat)
    (scheduler : Scheduler SlotStore κ D) : Prop where
  /-- No callback is run, and all items are counted. -/
  counts : ∀ (act : Interpretation κ D ε) host tasks next,
    Execution.request act scheduler host tasks (.shutdown next) =
      ([.released scheduler.release.1], ⟨scheduler.release.2, host,
        .routine (next (scheduler.size + scheduler.detachedCount)) :: tasks⟩)
  /-- A second shutdown releases nothing. -/
  counts_again : ∀ (act : Interpretation κ D ε) host tasks next,
    Execution.request act scheduler.release.2 host tasks (.shutdown next) =
      ([.released []], ⟨scheduler.release.2.release.2, host, .routine (next 0) :: tasks⟩)
  /-- All handles that were given out before are unknown, whatever is done later. -/
  forgets : ∀ (act : Interpretation κ D ε) mover (later : Parties SlotStore κ D ε) steps,
    later.scheduler = scheduler.release.2 →
    Bounded (history ++ .released scheduler.release.1 :: later.history act mover steps) →
      ∀ handle ∈ givenHandles history,
        (later.after act mover steps).scheduler.contains handle = false ∧
          ((later.after act mover steps).scheduler.remove handle).1 = none
  /-- Whatever is done later by parties who know no handle from before, it is done as at a new
  scheduler.  Both runs are within bounds: after another shutdown the two use their free slots in
  different orders, so the bounds of one run do not follow from those of the other. -/
  restarts : ∀ (C : Correspondence κ D ε) act freshAct mover
    (later fresh : Parties SlotStore κ D ε) steps,
    ActsCorrespond C act freshAct → StartAlike C later fresh →
    later.scheduler = scheduler.release.2 →
    fresh.scheduler = (Scheduler.ofStore (.empty limit)).withPollCeiling scheduler.pollCeiling →
    Bounded (history ++ .released scheduler.release.1 :: later.history act mover steps) →
    Bounded (fresh.history freshAct mover steps) →
      ∃ names, SameButNames C names (later.history act mover steps)
        (fresh.history freshAct mover steps) (later.after act mover steps)
        (fresh.after freshAct mover steps)

/-! ## The scheduler that is left -/

/-- A scheduler that was shut down holds the same items as a new one: none. -/
theorem Scheduler.twins_release
    (C : Correspondence κ D ε)
    (history : List (Event κ D))
    (scheduler : Scheduler SlotStore κ D) :
    scheduler.release.2.Twins C .empty (Ledger.ofHistory history).inserted
      (.ofHistory (history ++ [.released scheduler.release.1])) (.ofHistory [])
      ((Scheduler.ofStore (.empty scheduler.store.limit)).withPollCeiling
        scheduler.pollCeiling) := by
  have cleared : Ledger.ofHistory (history ++ [.released scheduler.release.1]) =
      (Ledger.ofHistory history).clear := Ledger.ofHistory_append _ _
  refine ⟨⟨?_, ?_⟩, .nil, ?_, rfl⟩
  · rw [cleared, Ledger.live_clear]
    exact .nil
  · rw [cleared, Ledger.clear, Ledger.inserted_departWhere]
    rfl
  · exact (SlotStore.limit_removeAll scheduler.store).symm

/-- What is unknown cannot be taken out. -/
theorem Scheduler.remove_eq_none
    {scheduler : Scheduler SlotStore κ D}
    {handle : ItemHandle}
    (unknown : scheduler.contains handle = false) :
    (scheduler.remove handle).1 = none := by
  rw [fst_remove, ← contains_eq_false_iff]
  exact unknown

namespace Recorded

variable {history : List (Event κ D)} {scheduler : Scheduler SlotStore κ D}

theorem length_release (recorded : Recorded history scheduler) :
    scheduler.release.1.length = scheduler.size + scheduler.detachedCount := by
  have keeps := recorded.balanced.keeps
  rw [keeps.release.1.length_eq, List.length_map, keeps.size_eq, keeps.detachedCount_eq,
    Nat.add_comm, List.length_eq_countP_add_countP fun kept => kept.1.isDegenerate]
  simp only [Bool.not_eq_true, Bool.decide_eq_false]

theorem release
    (recorded : Recorded history scheduler)
    (bounded : Bounded (history ++ [.released scheduler.release.1])) :
    Recorded (history ++ [.released scheduler.release.1]) scheduler.release.2 :=
  recorded.change (.release : Effect 0 scheduler _ _) bounded

/-- Nothing is left to be released. -/
theorem release_release (recorded : Recorded history scheduler) :
    scheduler.release.2.release.1 = [] := by
  obtain ⟨entries, entries_perm, -, values_eq⟩ :=
    recorded.represents.removeAll.holds.values_eq_map
  rw [Ledger.live_clear] at entries_perm
  show scheduler.store.removeAll.2.values ++ [] = []
  rw [values_eq, entries_perm.eq_nil, List.map_nil, List.append_nil]

/-- A shutdown of a scheduler that a history is right about is a full reset. -/
theorem fullReset (recorded : Recorded history scheduler) :
    FullReset ε history scheduler.store.limit scheduler where
  counts act host tasks next := by
    rw [← recorded.length_release]
    rfl
  counts_again act host tasks next := by
    simp only [Execution.request, recorded.release_release]
    rfl
  forgets act mover later steps starts bounded handle given := by
    rw [List.append_cons] at bounded
    have released : Recorded (history ++ [.released scheduler.release.1]) later.scheduler :=
      starts ▸ recorded.release bounded.of_append
    have recordedThen := (later.course act mover).recorded released bounded
    rw [← List.append_cons] at recordedThen
    have unknown := recordedThen.contains_of_released recorded.balanced given
    exact ⟨unknown, Scheduler.remove_eq_none unknown⟩
  restarts C act freshAct mover later fresh steps acts alike starts startsFresh bounded
      freshBounded := by
    rw [List.append_cons] at bounded
    have released : Recorded (history ++ [.released scheduler.release.1]) later.scheduler :=
      starts ▸ recorded.release bounded.of_append
    have freshRecorded : Recorded [] fresh.scheduler :=
      .initially (congrArg Scheduler.store startsFresh) (congrArg Scheduler.detached startsFresh)
    have executions : ∀ party, (later.execution party).Corresponds C .empty
        (Ledger.ofHistory history).inserted (history ++ [.released scheduler.release.1]) []
        (fresh.execution party) := by
      intro party
      refine ⟨?_, alike.hosts, alike.tasks party⟩
      rw [Parties.execution, Parties.execution, starts, startsFresh]
      exact scheduler.twins_release C history
    obtain ⟨names, runs⟩ := Parties.exists_runsCorrespond acts executions released freshRecorded
      bounded freshBounded
    have kept := ((later.course act mover).recorded released bounded).kept
    have freshKept := ((fresh.course freshAct mover).recorded freshRecorded freshBounded).kept
    have twins := (runs.executions 0).schedulers
    exact
      ⟨names, runs.fst_eq, runs.snd_eq, runs.told, twins.size_eq kept freshKept,
        twins.detachedCount_eq, twins.nextDue_eq kept freshKept,
        fun _ _ paired => twins.contains_eq kept freshKept paired, (runs.executions 0).hosts,
        fun party => (runs.executions party).tasks⟩

end Recorded

/-- Shutting down a scheduler that any number of parties have worked at is a full reset. -/
theorem Parties.shutdown_is_full_reset
    (act : Interpretation κ D ε)
    (mover : Nat → Nat)
    (parties : Parties SlotStore κ D ε)
    (limit : Option Nat)
    (startsEmpty : parties.scheduler.store = .empty limit)
    (noneDetached : parties.scheduler.detached = .empty)
    (steps : Nat)
    (bounded : Bounded (parties.history act mover steps)) :
    FullReset ε (parties.history act mover steps) limit
      (parties.after act mover steps).scheduler := by
  have recorded : Recorded (parties.history act mover steps)
      (parties.after act mover steps).scheduler :=
    (parties.course act mover).recorded (.initially startsEmpty noneDetached) bounded
  rw [← (parties.course act mover).limit_eq startsEmpty steps]
  exact recorded.fullReset

namespace Parties

/-- A party that keeps the handles that it is given: it cancels one item, asks for another, which
was refused, and runs a loop before it shuts down. -/
def comeback : Routine Char Nat Unit :=
  .schedule (.ofSeconds 1) 'a' 5 fun first => .schedule (.ofSeconds 1) 'b' 6 fun _ =>
    .schedule (.ofSeconds 0) 'c' 7 fun refused => .cancel first fun _ =>
      .ask (.contains refused) fun _ => .runLoop .idle sleep fun _ => .shutdown fun _ => .done

/-- Parties that come back to a scheduler. -/
def comingBack (scheduler : Scheduler SlotStore Char Nat) : Parties SlotStore Char Nat Unit :=
  .start scheduler ⟨⟨9000⟩, .clear, ()⟩ fun _ => comeback

theorem visitAct_corresponds :
    ActsCorrespond (.equality Char Nat Unit) visitAct visitAct := by
  rintro names callback _ told otherTold rfl _
  unfold visitAct
  split
  · exact .schedule rfl rfl fun _ _ _ _ _ => .done
  · exact .done

theorem comeback_corresponds :
    comeback.Corresponds (.equality Char Nat Unit) .empty comeback := by
  refine .schedule rfl rfl fun one _ first firstThen firstPaired => ?_
  refine .schedule rfl rfl fun two leTwo _ _ _ => ?_
  refine .schedule rfl rfl fun three leThree refused refusedThen refusedPaired => ?_
  have goesOn : Routine.Corresponds (.equality Char Nat Unit) three
      (.ask (.contains refused) fun _ => .runLoop .idle sleep fun _ => .shutdown fun _ => .done)
      (.ask (.contains refusedThen) fun _ =>
        .runLoop .idle sleep fun _ => .shutdown fun _ => .done) := by
    refine .contains refusedPaired fun _ => .runLoop ⟨?_, ?_⟩ ?_ fun _ => .shutdown fun _ => .done
    · exact fun _ _ _ _ _ hosts => hosts
    · exact fun _ _ _ _ hosts => hosts
    · intro more _ timeout host changed hosts
      exact ⟨rfl, congrArg (fun clock => clock.advance timeout) hosts.clock_eq, hosts.signals_eq,
        hosts.rest⟩
  exact .cancel (firstPaired.mono (leTwo.trans leThree)) goesOn goesOn

theorem comingBack_startAlike (scheduler twin : Scheduler SlotStore Char Nat) :
    StartAlike (.equality Char Nat Unit) (comingBack scheduler) (comingBack twin) where
  hosts := ⟨rfl, rfl, rfl⟩
  tasks _ := .cons (.routine comeback_corresponds) .nil

theorem shutdown_is_full_reset_visit :
    let reached := (visit.after visitAct visitMover 18).scheduler
    let later := comingBack reached.release.2
    let fresh := comingBack ((Scheduler.ofStore (.empty (some 2))).withPollCeiling
      reached.pollCeiling)
    visit.scheduler.store = .empty (some 2) ∧
      visit.scheduler.detached = .empty ∧
      Bounded (visit.history visitAct visitMover 18) ∧
      reached.size = 2 ∧ reached.detachedCount = 1 ∧
      FullReset Unit (visit.history visitAct visitMover 18) (some 2) reached ∧
      ∃ names, SameButNames (.equality Char Nat Unit) names
          (later.history visitAct (fun _ => 0) 15) (fresh.history visitAct (fun _ => 0) 15)
          (later.after visitAct (fun _ => 0) 15) (fresh.after visitAct (fun _ => 0) 15) ∧
        names.pairs.map Prod.fst =
          [.stored ⟨1, 2⟩, .stored ⟨0, 2⟩, .detached 1, .stored ⟨0, 3⟩] ∧
        names.pairs.map Prod.snd =
          [.stored ⟨0, 0⟩, .stored ⟨1, 0⟩, .detached 0, .stored ⟨1, 1⟩] := by
  intro reached later fresh
  have bounded : Bounded (visit.history visitAct visitMover 18) :=
    bounded_of_short (by decide +kernel)
  have reset : FullReset Unit (visit.history visitAct visitMover 18) (some 2) reached :=
    shutdown_is_full_reset visitAct visitMover visit (some 2) rfl rfl 18 bounded
  have laterBounded : Bounded (visit.history visitAct visitMover 18 ++
      .released reached.release.1 :: later.history visitAct (fun _ => 0) 15) :=
    bounded_of_short (by decide +kernel)
  have freshBounded : Bounded (fresh.history visitAct (fun _ => 0) 15) :=
    bounded_of_short (by decide +kernel)
  obtain ⟨names, same⟩ := reset.restarts (.equality Char Nat Unit) visitAct visitAct (fun _ => 0)
    later fresh 15 visitAct_corresponds (comingBack_startAlike _ _) rfl rfl laterBounded
    freshBounded
  refine ⟨rfl, rfl, bounded, by decide +kernel, by decide +kernel, reset, names, same, ?_, ?_⟩
  · rw [same.fst_eq]
    decide +kernel
  · rw [same.snd_eq]
    decide +kernel

end Parties
end Agenda
