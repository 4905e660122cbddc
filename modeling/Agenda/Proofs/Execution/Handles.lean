import Agenda.Proofs.Execution.Conservation

/-!
# Handles are given out once

Every handle that a scheduler over a slot store gives out is new: that of a stored item because no
slot was emptied too often, that of a detached item because its number counts the refusals.  So a
handle says which item is meant for good.  When all items have been released, the handles that were
given out before name nothing, whatever happens later.
-/

namespace Agenda

variable {κ D ε : Type}

/-- The handles that were given out, the oldest first. -/
def givenHandles (history : List (Event κ D)) : List ItemHandle :=
  (creations history).map Prod.fst

@[simp] theorem givenHandles_append (history events : List (Event κ D)) :
    givenHandles (history ++ events) = givenHandles history ++ givenHandles events := by
  rw [givenHandles, creations_append, List.map_append]
  rfl

theorem givenHandles_eq_nil_of_quiet
    {events : List (Event κ D)}
    (quiet : ∀ event ∈ events, event.isQuiet = true) :
    givenHandles events = [] := by
  rw [givenHandles, List.map_eq_nil_iff, creations, List.filterMap_eq_nil_iff]
  intro event told
  have isQuiet := quiet event told
  cases event <;> first | rfl | cases isQuiet

/-! ## Bounds -/

/-- No slot was emptied 2^32 times, and there were fewer than 2^64 insertions and refusals. -/
structure Bounded (history : List (Event κ D)) : Prop where
  /-- The insertions and the departures from each slot can be counted. -/
  ledger : (Ledger.ofHistory history).WithinBounds
  /-- The refusals can be counted. -/
  refusals_lt : refusals history < 2 ^ 64

theorem Bounded.of_append
    {history events : List (Event κ D)}
    (bounded : Bounded (history ++ events)) :
    Bounded history where
  ledger := (Ledger.extends_ofHistory_append history events).withinBounds bounded.ledger
  refusals_lt := Nat.lt_of_le_of_lt (refusals_le_append history events) bounded.refusals_lt

/-- A short history is within bounds. -/
theorem bounded_of_short
    {history : List (Event κ D)}
    (short : history.length < 2 ^ 32) :
    Bounded history where
  ledger := Ledger.withinBounds_ofHistory short
  refusals_lt := Nat.lt_of_le_of_lt List.countP_le_length (Nat.lt_trans short (by decide))

/-! ## Records -/

/-- A history knows a handle: it is that of an entry of the ledger, or its number is among those of
the refusals. -/
def Knows (history : List (Event κ D)) : ItemHandle → Prop
  | .stored handle => ∃ entry ∈ (Ledger.ofHistory history).issued, entry.handle = handle
  | .detached number => number.toNat < refusals history

theorem Knows.append
    {history : List (Event κ D)}
    {handle : ItemHandle}
    (knows : Knows history handle)
    (events : List (Event κ D)) :
    Knows (history ++ events) handle := by
  cases handle with
  | stored handle =>
      obtain ⟨entry, issued, sameHandle⟩ := knows
      exact ⟨entry, (Ledger.extends_ofHistory_append history events).issued_subset issued,
        sameHandle⟩
  | detached number => exact Nat.lt_of_lt_of_le knows (refusals_le_append history events)

/-- A history is within bounds, and what it says of a scheduler is right. -/
structure Recorded (history : List (Event κ D)) (scheduler : Scheduler SlotStore κ D) : Prop where
  /-- It can be counted. -/
  bounded : Bounded history
  /-- The store has the entries of the ledger. -/
  represents : scheduler.store.Represents (.ofHistory history)
  /-- The accounts are right. -/
  balanced : Balanced history scheduler
  /-- All handles that were given out are known. -/
  knows : ∀ handle ∈ givenHandles history, Knows history handle
  /-- And no handle was given out twice. -/
  handles_nodup : (givenHandles history).Nodup

namespace Recorded

variable {history events : List (Event κ D)} {scheduler next : Scheduler SlotStore κ D}

theorem initially
    {limit : Option Nat}
    (startsEmpty : scheduler.store = .empty limit)
    (noneDetached : scheduler.detached = .empty) :
    Recorded [] scheduler where
  bounded := bounded_of_short (Nat.two_pow_pos 32)
  represents := by
    rw [startsEmpty]
    exact SlotStore.represents_empty limit
  balanced := .initially startsEmpty noneDetached
  knows _ given := nomatch given
  handles_nodup := .nil

/-- A change gives out no handle, or one that is new. -/
theorem givenHandles_effect
    {now : Instant}
    (recorded : Recorded history scheduler)
    (effect : Effect now scheduler events next)
    (bounded : Bounded (history ++ events)) :
    givenHandles events = [] ∨ ∃ handle, givenHandles events = [handle] ∧
      Knows (history ++ events) handle ∧ ¬ Knows history handle := by
  have represents_next := effect.represents recorded.represents
  rw [← Ledger.ofHistory_append] at represents_next
  cases effect with
  | quiet quiet =>
      refine Or.inl (givenHandles_eq_nil_of_quiet fun event told => ?_)
      obtain rfl := List.mem_singleton.mp told
      exact quiet
  | peek | refuse | cancel | miss | fire | release => exact Or.inl rfl
  | @accept _ _ _ item handle =>
      refine Or.inr ⟨_, rfl, ?_⟩
      have ledger_eq : Ledger.ofHistory (history ++ [.accepted (.stored handle) item]) =
          (Ledger.ofHistory history).add handle item.due item := Ledger.ofHistory_append _ _
      have coherent := represents_next.holds.coherent
      have bounds := bounded.ledger
      rw [Knows, Knows]
      rw [ledger_eq] at coherent bounds ⊢
      rw [Ledger.issued_add]
      have newIssued := List.mem_append_right (Ledger.ofHistory history).issued
        (List.mem_singleton_self ((Ledger.ofHistory history).newEntry handle item.due item))
      refine ⟨⟨_, newIssued, rfl⟩, ?_⟩
      rintro ⟨entry, issued, sameHandle⟩
      have oldIssued := List.mem_append_left
        [(Ledger.ofHistory history).newEntry handle item.due item] issued
      rw [← Ledger.issued_add] at oldIssued newIssued
      have sameEntry := coherent.eq_of_handle_eq bounds oldIssued newIssued sameHandle
      have order_lt := recorded.represents.holds.coherent.order_lt entry issued
      rw [sameEntry] at order_lt
      exact Nat.lt_irrefl _ order_lt
  | detach =>
      have few := recorded.bounded.refusals_lt
      have number_eq : scheduler.detached.nextNumber.toNat = refusals history := by
        rw [recorded.balanced.keeps.numbered.nextNumber_eq, UInt64.toNat_ofNat',
          Nat.mod_eq_of_lt few]
      refine Or.inr ⟨_, rfl, ?_⟩
      rw [Knows, Knows, number_eq, refusals_append]
      exact ⟨Nat.lt_succ_self _, Nat.lt_irrefl _⟩

/-- Every change within bounds keeps the record right. -/
theorem change
    {now : Instant}
    (recorded : Recorded history scheduler)
    (effect : Effect now scheduler events next)
    (bounded : Bounded (history ++ events)) :
    Recorded (history ++ events) next := by
  have represents_next := effect.represents recorded.represents
  rw [← Ledger.ofHistory_append] at represents_next
  have balanced_next := recorded.balanced.change effect bounded.refusals_lt
  rcases recorded.givenHandles_effect effect bounded with
    noneGiven | ⟨handle, given, knowsNew, isNew⟩
  · refine ⟨bounded, represents_next, balanced_next, ?_, ?_⟩
    · intro handle given
      rw [givenHandles_append, noneGiven, List.append_nil] at given
      exact (recorded.knows handle given).append events
    · rw [givenHandles_append, noneGiven, List.append_nil]
      exact recorded.handles_nodup
  · refine ⟨bounded, represents_next, balanced_next, ?_, ?_⟩
    · intro other otherGiven
      rw [givenHandles_append, given, List.mem_append, List.mem_singleton] at otherGiven
      rcases otherGiven with old | rfl
      · exact (recorded.knows other old).append events
      · exact knowsNew
    · rw [givenHandles_append, given, List.nodup_append]
      refine ⟨recorded.handles_nodup, List.nodup_singleton _, ?_⟩
      rintro old oldGiven other isOther rfl
      obtain rfl := List.mem_singleton.mp isOther
      exact isNew (recorded.knows old oldGiven)

/-- After a release, the handles that were given out before it are unknown for good. -/
theorem contains_of_released
    {reached : Scheduler SlotStore κ D}
    {items : List (Item κ D)}
    (balanced : Balanced history reached)
    (recorded : Recorded (history ++ .released items :: events) scheduler)
    {handle : ItemHandle}
    (given : handle ∈ givenHandles history) :
    scheduler.contains handle = false := by
  rw [givenHandles, ← balanced.creations_eq, List.map_map, List.mem_map] at given
  obtain ⟨account, present, rfl⟩ := given
  obtain ⟨index, found⟩ := List.mem_iff_getElem?.mp present
  have releasedThen : (accountsOf (history ++ [.released items]))[index]? =
      some account.release := by
    rw [accountsOf_append, List.foldl_cons, List.foldl_nil, enter, List.getElem?_map, found,
      Option.map_some]
  obtain ⟨later, foundLater, becomes⟩ := exists_becomes_later _ events releasedThen
  rw [List.append_assoc, List.singleton_append] at foundLater
  have notPending : account.release.pending? = none := by
    obtain ⟨_, _, fate⟩ := account
    cases fate <;> rfl
  obtain rfl := becomes.final notPending
  have sameHandle := (Account.becomes_release account).handle_eq
  have handles_nodup := recorded.handles_nodup
  rw [givenHandles, ← recorded.balanced.creations_eq, List.map_map] at handles_nodup
  -- A pending item with the handle would have a second account under it.
  have noneUnder : ∀ item, ⟨account.handle, item, .pending⟩ ∉
      accountsOf (history ++ .released items :: events) := by
    intro item pending
    have sameAccount := List.inj_on_of_nodup_map handles_nodup
      (List.mem_of_getElem? foundLater) pending sameHandle
    rw [sameAccount] at notPending
    cases notPending
  have conserved := recorded.balanced.conserved
  show scheduler.contains account.handle = false
  cases handle_eq : account.handle with
  | stored handle =>
      change (scheduler.store.get? handle).isSome = false
      rw [Option.isSome_eq_false_iff, Option.isNone_iff_eq_none, Option.eq_none_iff_forall_ne_some]
      intro item found
      exact noneUnder item (handle_eq ▸ (conserved.stored_iff handle item).mp found)
  | detached number =>
      change (scheduler.detached.get? number).isSome = false
      rw [Option.isSome_eq_false_iff, Option.isNone_iff_eq_none, Option.eq_none_iff_forall_ne_some]
      intro item found
      exact noneUnder item (handle_eq ▸ (conserved.detached_iff number item).mp found)

end Recorded

theorem Course.bounded_of_succ
    (course : Course SlotStore κ D)
    {earlier : List (Event κ D)}
    {steps : Nat}
    (bounded : Bounded (earlier ++ course.history (steps + 1))) :
    Bounded (earlier ++ course.history steps) := by
  rw [history, ← List.append_assoc] at bounded
  exact bounded.of_append

/-- Records are kept along a course, as long as the history is within bounds. -/
theorem Course.recorded
    (course : Course SlotStore κ D)
    {earlier : List (Event κ D)}
    (initially : Recorded earlier (course.scheduler 0))
    {steps : Nat}
    (bounded : Bounded (earlier ++ course.history steps)) :
    Recorded (earlier ++ course.history steps) (course.scheduler steps) := by
  refine course.boundedInvariant (fun history => Bounded (earlier ++ history))
    (fun history => Recorded (earlier ++ history)) ?_ ?_ ?_ bounded
  · intro history events bounded
    rw [← List.append_assoc] at bounded
    exact bounded.of_append
  · rw [List.append_nil]
    exact initially
  · intro now history scheduler events next effect bounded recorded
    rw [← List.append_assoc] at bounded ⊢
    exact recorded.change effect bounded

end Agenda
