import Agenda.Proofs.Execution.Oblivious
import Agenda.Store.SingleStore

/-!
# What is kept aside is never noticed

A run of programs that do not look aside is the same whatever is kept aside when it begins.  The
items that are put aside stay there until a shutdown, however much room there comes to be in the
store.  So two runs that begin with different items aside differ in two things only: in the items
that are still aside, and in those that the first shutdown gives up.
-/

namespace Agenda

variable {σ : Type → Type} {κ D ε : Type}

/-- A store gives back the value that it refuses. -/
class OrderedStore.GivesBack (σ : Type → Type) [OrderedStore σ] : Prop where
  /-- The value comes back as it was given. -/
  value_eq {α : Type} {store next : σ α} {due : Instant} {value : α} {refused : Refused α} :
    OrderedStore.insert store due value = (.error refused, next) → refused.value = value

instance : OrderedStore.GivesBack SlotStore where
  value_eq {α store next due value refused} inserted := by
    change SlotStore.insert store due value = _ at inserted
    unfold SlotStore.insert at inserted
    split at inserted <;> cases inserted
    rfl

instance : OrderedStore.GivesBack SingleStore where
  value_eq {α store next due value refused} inserted := by
    change SingleStore.insert store due value = _ at inserted
    unfold SingleStore.insert at inserted
    split at inserted <;> cases inserted
    rfl

/-! ## What is put aside in a run -/

section Runs

variable [OrderedStore σ]

namespace Scheduler

variable {scheduler remaining : Scheduler σ κ D} {handle : ItemHandle} {count : Nat}

/-- What is not found was not kept aside. -/
theorem detached_of_remove_none
    (removed : scheduler.remove handle = (none, remaining)) :
    remaining.detached = scheduler.detached := by
  cases handle with
  | stored handle => exact (remove_stored removed).2
  | detached number => exact DetachedItems.eq_of_remove_none (remove_detached removed).2

theorem numbered_of_remove
    (numbered : scheduler.detached.Numbered count)
    {answer : Option (Item κ D)}
    (removed : scheduler.remove handle = (answer, remaining)) :
    remaining.detached.Numbered count := by
  cases handle with
  | stored handle =>
      rw [(remove_stored removed).2]
      exact numbered
  | detached number => exact (numbered.of_remove (remove_detached removed).2).1

/-- A scheduler never gives a number for the second time in a history that begins with it. -/
def NumbersSuffice (scheduler : Scheduler σ κ D) (history : List (Event κ D)) : Prop :=
  ∃ count, scheduler.detached.Numbered count ∧ count + refusals history ≤ 2 ^ 64

omit [OrderedStore σ] in
theorem NumbersSuffice.of_append
    {history later : List (Event κ D)}
    (suffice : scheduler.NumbersSuffice (history ++ later)) :
    scheduler.NumbersSuffice history := by
  obtain ⟨count, numbered, suffice⟩ := suffice
  rw [refusals_append, ← Nat.add_assoc] at suffice
  exact ⟨count, numbered, Nat.le_of_add_right_le suffice⟩

end Scheduler

namespace Effect

variable {now : Instant} {scheduler next : Scheduler σ κ D} {events : List (Event κ D)}

/-- Every number that a change gives is counted. -/
theorem numbersSuffice
    (effect : Effect now scheduler events next)
    {later : List (Event κ D)}
    (suffice : scheduler.NumbersSuffice (events ++ later)) :
    next.NumbersSuffice later := by
  obtain ⟨count, numbered, suffice⟩ := suffice
  rw [refusals_append, ← Nat.add_assoc] at suffice
  have noneRefused : count + refusals later ≤ 2 ^ 64 := by omega
  cases effect with
  | quiet | peek | accept | refuse => exact ⟨count, numbered, noneRefused⟩
  | detach =>
      have few : count < 2 ^ 64 := Nat.le_of_add_right_le suffice
      exact ⟨count + 1, numbered.add few _, suffice⟩
  | cancel removed => exact ⟨count, Scheduler.numbered_of_remove numbered removed, noneRefused⟩
  | miss removed => exact ⟨count, Scheduler.numbered_of_remove numbered removed, noneRefused⟩
  | fire _ _ removed =>
      have detached_eq := (Scheduler.remove_stored removed).2
      exact ⟨count, detached_eq ▸ numbered, noneRefused⟩
  | release => exact ⟨count, numbered.removeAll, noneRefused⟩

variable [OrderedStore.GivesBack σ]

/-- A change puts aside what it tells of, and it gives up what is aside only if it tells of it. -/
theorem aside_eq
    (effect : Effect now scheduler events next)
    (stored : DispatchesStored events)
    (suffice : scheduler.NumbersSuffice events) :
    next.aside = events.foldl Event.aside scheduler.aside := by
  have unchanged : ∀ {reached : Scheduler σ κ D}, reached.detached = scheduler.detached →
      reached.aside = scheduler.aside :=
    fun same => congrArg (fun table => table.items.map Prod.snd) same
  cases effect with
  | quiet quiet =>
      exact (Event.aside_of_isApart _ (Event.isApart_of_isQuiet quiet)).symm
  | peek | accept | refuse => rfl
  | detach isNew inserted =>
      obtain ⟨count, numbered, few⟩ := suffice
      rw [OrderedStore.GivesBack.value_eq inserted, Scheduler.aside, numbered.items_add few]
      rfl
  | cancel removed =>
      exact unchanged (Scheduler.detached_of_remove (stored _ _ List.mem_cons_self) removed)
  | miss removed => exact unchanged (Scheduler.detached_of_remove_none removed)
  | fire _ _ removed => exact unchanged (Scheduler.remove_stored removed).2
  | release => rfl

end Effect

/-- What a history that begins with a scheduler says of what is kept aside afterwards. -/
structure AsideTold (start : Scheduler σ κ D) (history : List (Event κ D))
    (scheduler : Scheduler σ κ D) : Prop where
  /-- The numbers suffice from now on if they suffice from the beginning. -/
  numbersSuffice : ∀ later, start.NumbersSuffice (history ++ later) →
    scheduler.NumbersSuffice later
  /-- What is aside is what was put there and not given up since. -/
  aside_eq : start.NumbersSuffice history → DispatchesStored history →
    scheduler.aside = history.foldl Event.aside start.aside

variable [OrderedStore.GivesBack σ]

theorem AsideTold.change
    {now : Instant}
    {start scheduler next : Scheduler σ κ D}
    {history events : List (Event κ D)}
    (asideTold : AsideTold start history scheduler)
    (effect : Effect now scheduler events next) :
    AsideTold start (history ++ events) next where
  numbersSuffice later suffice := by
    rw [List.append_assoc] at suffice
    exact effect.numbersSuffice (asideTold.numbersSuffice _ suffice)
  aside_eq suffice stored := by
    have storedBefore : DispatchesStored history := fun callback told called =>
      stored callback told (List.mem_append_left _ called)
    have storedNow : DispatchesStored events := fun callback told called =>
      stored callback told (List.mem_append_right _ called)
    rw [List.foldl_append, ← asideTold.aside_eq suffice.of_append storedBefore]
    exact effect.aside_eq storedNow (asideTold.numbersSuffice _ suffice)

theorem Course.asideTold (course : Course σ κ D) (steps : Nat) :
    AsideTold (course.scheduler 0) (course.history steps) (course.scheduler steps) :=
  course.timelessInvariant (AsideTold (course.scheduler 0))
    ⟨fun _ suffice => suffice, fun _ _ => rfl⟩ (fun effect asideTold => asideTold.change effect)
    steps

end Runs

/-! ## What is put aside in two runs -/

/-- The items that a shutdown gives up. -/
def Event.givenUp? : Event κ D → Option (List (Item κ D))
  | released items => some items
  | _ => none

/-- What the shutdowns in a history give up, the first one first. -/
def shutdowns (history : List (Event κ D)) : List (List (Item κ D)) :=
  history.filterMap Event.givenUp?

/-- A history begins with some items aside and ends with others.  What is put there comes to them
until the first shutdown, which gives up all of them. -/
structure KeptAside (kept keptThen : List (Item κ D)) (history : List (Event κ D))
    (added : List (Item κ D)) (givenUp : List (List (Item κ D))) : Prop where
  /-- Until a shutdown the items from the beginning stay. -/
  aside_eq : keptThen = added ++ if givenUp.isEmpty then kept else []
  /-- The first shutdown gives them up, too. -/
  shutdowns_eq : shutdowns history = givenUp.modifyHead (· ++ kept)

namespace KeptAside

variable {kept keptThen added : List (Item κ D)} {givenUp : List (List (Item κ D))}
variable {history : List (Event κ D)}

theorem nil (kept : List (Item κ D)) : KeptAside kept kept [] [] [] := ⟨rfl, rfl⟩

theorem cons_apart
    {event : Event κ D}
    (isApart : event.isApart = true)
    (keptAside : KeptAside kept keptThen history added givenUp) :
    KeptAside kept keptThen (event :: history) added givenUp where
  aside_eq := keptAside.aside_eq
  shutdowns_eq := by
    have noShutdown : event.givenUp? = none := by
      cases event <;> first | rfl | cases isApart
    rw [shutdowns, List.filterMap_cons_none noShutdown]
    exact keptAside.shutdowns_eq

/-- What was aside before is kept together with what is put aside now. -/
theorem cons_detached
    {item : Item κ D}
    (keptAside : KeptAside (item :: kept) keptThen history added givenUp)
    (handle : ItemHandle) :
    KeptAside kept keptThen (.detached handle item :: history)
      (added ++ if givenUp.isEmpty then [item] else []) (givenUp.modifyHead (· ++ [item])) where
  aside_eq := by
    rw [keptAside.aside_eq]
    cases givenUp with
    | nil => exact (List.append_assoc added [item] kept).symm
    | cons first later => exact (List.append_nil _).symm
  shutdowns_eq := by
    refine keptAside.shutdowns_eq.trans ?_
    cases givenUp with
    | nil => rfl
    | cons first later =>
        rw [List.modifyHead_cons, List.modifyHead_cons, List.modifyHead_cons, List.append_assoc]
        rfl

/-- After a shutdown nothing is left aside. -/
theorem cons_released
    (keptAside : KeptAside [] keptThen history added givenUp)
    (pending : List (Item κ D)) :
    KeptAside kept keptThen (.released (pending ++ kept) :: history) added
      (pending :: givenUp) where
  aside_eq := by
    rw [keptAside.aside_eq, ite_self]
    rfl
  shutdowns_eq := by
    have later : shutdowns history = givenUp := by
      rw [keptAside.shutdowns_eq]
      cases givenUp with
      | nil => rfl
      | cons first later => rw [List.modifyHead_cons, List.append_nil]
    rw [List.modifyHead_cons, ← later]
    rfl

end KeptAside

/-- Histories that tell the same put the same items aside and give up the same, but for the items
that are aside at the beginning. -/
theorem ToldAlike.exists_keptAside
    {kept twinKept : List (Item κ D)}
    {history twinHistory : List (Event κ D)}
    (alike : ToldAlike kept twinKept history twinHistory) :
    ∃ added givenUp,
      KeptAside kept (history.foldl Event.aside kept) history added givenUp ∧
        KeptAside twinKept (twinHistory.foldl Event.aside twinKept) twinHistory added givenUp := by
  induction alike with
  | nil => exact ⟨[], [], .nil _, .nil _⟩
  | same isApart _ inductionHypothesis =>
      obtain ⟨added, givenUp, keptAside, twinAside⟩ := inductionHypothesis
      rw [List.foldl_cons, List.foldl_cons, Event.aside_of_isApart _ isApart,
        Event.aside_of_isApart _ isApart]
      exact ⟨added, givenUp, keptAside.cons_apart isApart, twinAside.cons_apart isApart⟩
  | detached _ inductionHypothesis =>
      obtain ⟨added, givenUp, keptAside, twinAside⟩ := inductionHypothesis
      exact ⟨_, _, keptAside.cons_detached _, twinAside.cons_detached _⟩
  | @released _ _ pending _ _ _ inductionHypothesis =>
      obtain ⟨added, givenUp, keptAside, twinAside⟩ := inductionHypothesis
      exact ⟨_, _, keptAside.cons_released pending, twinAside.cons_released pending⟩

/-! ## Two runs -/

theorem calls_map_apart (history : List (Event κ D)) :
    calls (history.map Event.apart) = calls history := by
  rw [calls, List.filterMap_map]
  congr 1
  funext event
  cases event <;> rfl

namespace Parties

variable [OrderedStore σ] {S : ε → ε → Prop} {act twinAct : Interpretation κ D ε}
variable {parties twin : Parties σ κ D ε}

/-- What a run has told and where it has come to, for two runs that begin with different items
aside. -/
structure SameButAside (S : ε → ε → Prop) (parties twin : Parties σ κ D ε)
    (history twinHistory : List (Event κ D)) (reached twinReached : Parties σ κ D ε) : Prop where
  /-- The same has happened but for the numbers of the items that are kept aside and for what was
  released: insertions with their handles, refusals, dispatches with what the callbacks were told,
  turns, calls of hooks, waits with their lengths and results, and exits. -/
  told_eq : twinHistory.map Event.apart = history.map Event.apart
  /-- No item that was kept aside was dispatched. -/
  stored : DispatchesStored history
  /-- All parties go on in the same way, at schedulers that differ aside only. -/
  resemble : reached.Resemble S twinReached
  /-- As many items are pending. -/
  size_eq : twinReached.scheduler.size = reached.scheduler.size
  /-- The earliest is due at the same instant. -/
  nextDue_eq : twinReached.scheduler.nextDue.1 = reached.scheduler.nextDue.1
  /-- The same handles of the store are known. -/
  contains_eq : ∀ handle, twinReached.scheduler.contains (.stored handle) =
    reached.scheduler.contains (.stored handle)
  /-- Where no number is given for the second time, the runs have put the same items aside and
  have given up the same items in their shutdowns, but for those that were aside at the
  beginning.  So up to the first shutdown the numbers of items aside differ as at the beginning,
  the totals of the first shutdowns differ by as much, and later on nothing differs. -/
  kept : parties.scheduler.NumbersSuffice history → twin.scheduler.NumbersSuffice twinHistory →
    ∃ added givenUp,
      KeptAside parties.scheduler.aside reached.scheduler.aside history added givenUp ∧
        KeptAside twin.scheduler.aside twinReached.scheduler.aside twinHistory added givenUp

theorem Resemble.dispatchesStored
    (resemble : parties.Resemble S twin)
    (acts : ActsOblivious S act twinAct)
    (mover : Nat → Nat)
    (steps : Nat) :
    DispatchesStored (parties.history act mover steps) := by
  induction steps with
  | zero => exact fun _ _ called => nomatch called
  | succ steps inductionHypothesis =>
      exact inductionHypothesis.append (resemble.outcomes acts mover steps).stored

/-- Runs that do not look aside tell the same. -/
theorem Resemble.told_eq
    (resemble : parties.Resemble S twin)
    (acts : ActsOblivious S act twinAct)
    (mover : Nat → Nat)
    (steps : Nat) :
    (twin.history twinAct mover steps).map Event.apart =
      (parties.history act mover steps).map Event.apart := by
  induction steps with
  | zero => rfl
  | succ steps inductionHypothesis =>
      have told_eq := (resemble.outcomes acts mover steps).told.apart_eq
      show (twin.history twinAct mover steps ++ _).map Event.apart =
        (parties.history act mover steps ++ _).map Event.apart
      rw [List.map_append, List.map_append, inductionHypothesis]
      exact congrArg _ told_eq

theorem Resemble.twin_dispatchesStored
    (resemble : parties.Resemble S twin)
    (acts : ActsOblivious S act twinAct)
    (mover : Nat → Nat)
    (steps : Nat) :
    DispatchesStored (twin.history twinAct mover steps) := by
  intro callback told called
  rw [← mem_calls, ← calls_map_apart, resemble.told_eq acts mover steps, calls_map_apart,
    mem_calls] at called
  exact resemble.dispatchesStored acts mover steps callback told called

variable [OrderedStore.GivesBack σ]

theorem aside_eq
    {mover : Nat → Nat}
    {steps : Nat}
    (suffice : parties.scheduler.NumbersSuffice (parties.history act mover steps))
    (stored : DispatchesStored (parties.history act mover steps)) :
    (parties.after act mover steps).scheduler.aside =
      (parties.history act mover steps).foldl Event.aside parties.scheduler.aside :=
  ((parties.course act mover).asideTold steps).aside_eq suffice stored

/-- Runs that do not look aside tell the same of what is put aside and released. -/
theorem Resemble.toldAlike
    (resemble : parties.Resemble S twin)
    (acts : ActsOblivious S act twinAct)
    (mover : Nat → Nat)
    {steps : Nat}
    (suffice : parties.scheduler.NumbersSuffice (parties.history act mover steps))
    (twinSuffice : twin.scheduler.NumbersSuffice (twin.history twinAct mover steps)) :
    ToldAlike parties.scheduler.aside twin.scheduler.aside (parties.history act mover steps)
      (twin.history twinAct mover steps) := by
  induction steps with
  | zero => exact .nil
  | succ steps inductionHypothesis =>
      have before := suffice.of_append
      have twinBefore := twinSuffice.of_append
      refine (inductionHypothesis before twinBefore).append ?_
      have told := (resemble.outcomes acts mover steps).told
      rw [aside_eq before (resemble.dispatchesStored acts mover steps),
        aside_eq twinBefore (resemble.twin_dispatchesStored acts mover steps)] at told
      exact told

/-- What is kept aside is never noticed by programs that do not look aside. -/
theorem aside_is_not_noticed
    (acts : ActsOblivious S act twinAct)
    (resemble : parties.Resemble S twin)
    (mover : Nat → Nat)
    (steps : Nat) :
    SameButAside S parties twin (parties.history act mover steps)
      (twin.history twinAct mover steps) (parties.after act mover steps)
      (twin.after twinAct mover steps) := by
  have reached := resemble.after acts mover steps
  obtain ⟨detached, differsAside⟩ := reached.schedulers
  refine ⟨resemble.told_eq acts mover steps, resemble.dispatchesStored acts mover steps, reached,
    ?_, ?_, fun handle => ?_, fun suffice twinSuffice => ?_⟩
  · rw [differsAside]
    rfl
  · rw [differsAside]
    rfl
  · rw [differsAside]
    rfl
  · rw [aside_eq suffice (resemble.dispatchesStored acts mover steps),
      aside_eq twinSuffice (resemble.twin_dispatchesStored acts mover steps)]
    exact (resemble.toldAlike acts mover suffice twinSuffice).exists_keptAside

/-- A store for one item, which is taken, and an item that was refused. -/
def crowded : Scheduler SlotStore Char Nat :=
  (((Scheduler.ofStore (.empty (some 1))).schedule ⟨7000, 'b', 0⟩).2.schedule ⟨6000, 'a', 1⟩).2

/-- Another item is refused, and one that comes after the loop is taken. -/
def queueing : Routine Char Nat Unit :=
  .schedule (.ofSeconds 0) 'c' 2 fun _ => .runLoop .idle sleep fun _ =>
    .schedule (.ofSeconds 1) 'e' 4 fun _ => .ask .size fun _ => .nextDue fun _ =>
      .shutdown fun _ => .done

/-- Parties who queue at a scheduler. -/
def queueingAt (scheduler : Scheduler SlotStore Char Nat) : Parties SlotStore Char Nat Unit :=
  .start scheduler ⟨⟨5000⟩, .clear, ()⟩ fun _ => queueing

theorem visitAct_oblivious : ActsOblivious (fun _ _ => True) visitAct visitAct := by
  intro callback told _
  unfold visitAct
  split
  · exact .schedule (fun _ => .done) fun _ _ => .done
  · exact .done

theorem queueing_oblivious : queueing.Oblivious (fun _ _ => True) queueing := by
  have goesOn : Routine.Oblivious (fun _ _ => True)
      (.ask .size fun _ => .nextDue fun _ => .shutdown fun _ => .done : Routine Char Nat Unit)
      (.ask .size fun _ => .nextDue fun _ => .shutdown fun _ => .done) :=
    .ask rfl fun _ => .nextDue fun _ => .shutdown fun _ _ => .done
  have loops : Routine.Oblivious (fun _ _ => True)
      (.runLoop .idle sleep fun _ => .schedule (.ofSeconds 1) 'e' 4 fun _ => .ask .size fun _ =>
        .nextDue fun _ => .shutdown fun _ => .done : Routine Char Nat Unit)
      (.runLoop .idle sleep fun _ => .schedule (.ofSeconds 1) 'e' 4 fun _ => .ask .size fun _ =>
        .nextDue fun _ => .shutdown fun _ => .done) := by
    refine .runLoop ⟨fun _ _ _ hosts => hosts, fun _ _ hosts => hosts⟩ ?_ fun _ =>
      .schedule (fun _ => goesOn) fun _ _ => goesOn
    intro timeout host changed hosts
    exact ⟨rfl, congrArg (fun clock => clock.advance timeout) hosts.clock_eq, hosts.signals_eq,
      trivial⟩
  exact .schedule (fun _ => loops) fun _ _ => loops

theorem queueingAt_resemble (scheduler : Scheduler SlotStore Char Nat)
    (detached : DetachedItems Char Nat) :
    (queueingAt scheduler).Resemble (fun _ _ => True)
      (queueingAt (scheduler.withAside detached)) where
  schedulers := ⟨detached, rfl⟩
  hosts := ⟨rfl, rfl, trivial⟩
  tasks _ := .cons (.routine queueing_oblivious) .nil

theorem aside_is_not_noticed_crowded :
    let parties := queueingAt crowded
    let twin := queueingAt (crowded.withAside .empty)
    let history := parties.history visitAct (fun _ => 0) 14
    let twinHistory := twin.history visitAct (fun _ => 0) 14
    ActsOblivious (fun _ _ => True) visitAct visitAct ∧
      parties.Resemble (fun _ _ => True) twin ∧
      parties.scheduler.NumbersSuffice history ∧
      twin.scheduler.NumbersSuffice twinHistory ∧
      SameButAside (fun _ _ => True) parties twin history twinHistory
        (parties.after visitAct (fun _ => 0) 14) (twin.after visitAct (fun _ => 0) 14) ∧
      (shutdowns history).map List.length = [3] ∧
      (shutdowns twinHistory).map List.length = [2] := by
  intro parties twin history twinHistory
  have resemble : parties.Resemble (fun _ _ => True) twin := queueingAt_resemble crowded .empty
  refine ⟨visitAct_oblivious, resemble, ⟨1, ⟨?_, ?_, ?_⟩, ?_⟩, ⟨0, DetachedItems.numbered_empty, ?_⟩,
    aside_is_not_noticed visitAct_oblivious resemble (fun _ => 0) 14, ?_, ?_⟩
  · rfl
  · decide
  · decide
  · decide +kernel
  · decide +kernel
  · decide +kernel
  · decide +kernel

end Parties
end Agenda
