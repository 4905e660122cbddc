import Agenda.Proofs.Scheduler.Keeping
import Agenda.Proofs.Scheduler.Naming

/-!
# Schedulers that differ in the names of their items

Two schedulers are twins if they hold the same items in the same order, under handles that name
them one to one.  Their slots, their free lists, their queues with the stale keys in them and
their counters may differ.  Each operation answers twins alike and leaves them twins.
-/

namespace Agenda

variable {κ D ε : Type} {C : Correspondence κ D ε} {names more : Naming} {before : Nat}

/-- Two entries are those of corresponding items, the first after a number of earlier entries. -/
structure Entry.Corresponds (C : Correspondence κ D ε) (names : Naming) (before : Nat)
    (entry other : Entry (Item κ D)) : Prop where
  /-- Their handles name the same item. -/
  paired : names.Pairs (.stored entry.handle) (.stored other.handle)
  /-- They are due at the same instant. -/
  due_eq : other.due = entry.due
  /-- They were taken in the same order. -/
  order_eq : entry.order = before + other.order
  /-- What was stored corresponds. -/
  value : entry.value.Corresponds C names other.value

/-- Two detached items correspond. -/
structure DetachedItems.Corresponds (C : Correspondence κ D ε) (names : Naming)
    (entry other : UInt64 × Item κ D) : Prop where
  /-- Their handles name the same item. -/
  paired : names.Pairs (.detached entry.1) (.detached other.1)
  /-- The items correspond. -/
  value : entry.2.Corresponds C names other.2

theorem Entry.Corresponds.mono
    {entry other : Entry (Item κ D)}
    (entries : entry.Corresponds C names before other)
    (le : names ≤ more) :
    entry.Corresponds C more before other :=
  ⟨entries.paired.mono le, entries.due_eq, entries.order_eq, entries.value.mono le⟩

/-- Corresponding entries come one after the other in the same order. -/
theorem Entry.Corresponds.before_iff
    {entry other entryThen otherThen : Entry (Item κ D)}
    (entries : entry.Corresponds C names before other)
    (entriesThen : entryThen.Corresponds C names before otherThen) :
    entry.before entryThen ↔ other.before otherThen := by
  have order_eq := entries.order_eq
  have orderThen_eq := entriesThen.order_eq
  rw [Entry.before, Entry.before, entries.due_eq, entriesThen.due_eq]
  simp only [Instant] at *
  omega

private theorem exists_right_of_forall₂
    {α β : Type}
    {R : α → β → Prop}
    {list : List α}
    {others : List β}
    (related : List.Forall₂ R list others)
    {member : α}
    (present : member ∈ list) :
    ∃ other ∈ others, R member other := by
  induction related with
  | nil => cases present
  | cons head _ inductionHypothesis =>
      rcases List.mem_cons.mp present with rfl | inRest
      · exact ⟨_, List.mem_cons_self, head⟩
      · obtain ⟨other, otherPresent, relatedThen⟩ := inductionHypothesis inRest
        exact ⟨other, List.mem_cons_of_mem _ otherPresent, relatedThen⟩

private theorem exists_left_of_forall₂
    {α β : Type}
    {R : α → β → Prop}
    {list : List α}
    {others : List β}
    (related : List.Forall₂ R list others)
    {other : β}
    (present : other ∈ others) :
    ∃ member ∈ list, R member other :=
  exists_right_of_forall₂ related.flip present

/-! ## Ledgers -/

namespace Ledger

/-- Two ledgers have the same entries in the same order, the first after a number of earlier
entries. -/
structure Twins (C : Correspondence κ D ε) (names : Naming) (before : Nat)
    (ledger twin : Ledger (Item κ D)) : Prop where
  /-- The entries correspond. -/
  live : List.Forall₂ (Entry.Corresponds C names before) ledger.live twin.live
  /-- So do the numbers of entries taken. -/
  inserted_eq : ledger.inserted = before + twin.inserted

/-- What is left when an item goes. -/
def without {α : Type} (ledger : Ledger α) : ItemHandle → Ledger α
  | .stored handle => ledger.erase handle
  | .detached _ => ledger

/-- What is left after the second half of a turn. -/
def settle (ledger : Ledger (Item κ D)) : Settlement κ D → Ledger (Item κ D)
  | .fire handle _ => ledger.without handle
  | .again | .leave _ => ledger

namespace Twins

variable {ledger twin : Ledger (Item κ D)}

theorem mono (twins : ledger.Twins C names before twin) (le : names ≤ more) :
    ledger.Twins C more before twin :=
  ⟨twins.live.imp fun _ _ entries => entries.mono le, twins.inserted_eq⟩

theorem length_eq (twins : ledger.Twins C names before twin) :
    ledger.live.length = twin.live.length :=
  twins.live.length_eq

/-- Corresponding items are taken under new names. -/
theorem add
    (twins : ledger.Twins C names before twin)
    (le : names ≤ more)
    {handle other : SlotHandle}
    (paired : more.Pairs (.stored handle) (.stored other))
    {item otherItem : Item κ D}
    (items : item.Corresponds C names otherItem) :
    (ledger.add handle item.due item).Twins C more before
      (twin.add other otherItem.due otherItem) where
  live := by
    rw [live_add, live_add]
    refine List.rel_append (twins.mono le).live (.cons ?_ .nil)
    exact ⟨paired, items.due_eq, twins.inserted_eq, items.mono le⟩
  inserted_eq := by
    rw [inserted_add, inserted_add, twins.inserted_eq, Nat.add_assoc]

theorem departWhere
    (twins : ledger.Twins C names before twin)
    {leaves otherLeaves : Entry (Item κ D) → Bool}
    (leaves_eq : ∀ entry other, entry.Corresponds C names before other →
      otherLeaves other = leaves entry) :
    (ledger.departWhere leaves).Twins C names before (twin.departWhere otherLeaves) where
  live := by
    refine List.rel_filter ?_ twins.live
    intro entry other entries
    simp only [leaves_eq entry other entries]
  inserted_eq := by
    rw [inserted_departWhere, inserted_departWhere]
    exact twins.inserted_eq

theorem without
    (twins : ledger.Twins C names before twin)
    {handle other : ItemHandle}
    (paired : names.Pairs handle other) :
    (ledger.without handle).Twins C names before (twin.without other) := by
  have sameKind := names.sameKind _ paired
  cases handle with
  | stored handle =>
      cases other with
      | stored other =>
          refine twins.departWhere fun entry otherEntry entries => ?_
          have iff := entries.paired.eq_iff paired
          rw [ItemHandle.stored.injEq, ItemHandle.stored.injEq] at iff
          rw [Bool.eq_iff_iff, beq_iff_eq, beq_iff_eq]
          exact iff.symm
      | detached number => cases sameKind
  | detached number =>
      cases other with
      | stored other => cases sameKind
      | detached number => exact twins

theorem clear (twins : ledger.Twins C names before twin) :
    ledger.clear.Twins C names before twin.clear :=
  twins.departWhere fun _ _ _ => rfl

/-- A handle names an entry in both ledgers or in neither. -/
theorem exists_live_iff
    (twins : ledger.Twins C names before twin)
    {handle other : SlotHandle}
    (paired : names.Pairs (.stored handle) (.stored other)) :
    (∃ entry ∈ ledger.live, entry.handle = handle) ↔
      ∃ entry ∈ twin.live, entry.handle = other := by
  constructor
  · rintro ⟨entry, present, rfl⟩
    obtain ⟨otherEntry, otherPresent, entries⟩ := exists_right_of_forall₂ twins.live present
    have same := (entries.paired.eq_iff paired).mp rfl
    exact ⟨otherEntry, otherPresent, ItemHandle.stored.inj same⟩
  · rintro ⟨otherEntry, otherPresent, rfl⟩
    obtain ⟨entry, present, entries⟩ := exists_left_of_forall₂ twins.live otherPresent
    have same := (entries.paired.eq_iff paired).mpr rfl
    exact ⟨entry, present, ItemHandle.stored.inj same⟩

/-- The earliest entries correspond. -/
theorem exists_earliest
    (twins : ledger.Twins C names before twin)
    (coherent : twin.Coherent)
    {entry : Entry (Item κ D)}
    (earliest : ledger.IsEarliest entry) :
    ∃ other, twin.IsEarliest other ∧ entry.Corresponds C names before other := by
  obtain ⟨other, otherPresent, entries⟩ := exists_right_of_forall₂ twins.live earliest.1
  refine ⟨other, ⟨otherPresent, fun otherThen otherThenPresent => ?_⟩, entries⟩
  obtain ⟨entryThen, presentThen, entriesThen⟩ :=
    exists_left_of_forall₂ twins.live otherThenPresent
  rcases earliest.2 entryThen presentThen with rfl | isBefore
  · have sameOrder := entriesThen.order_eq.symm.trans entries.order_eq
    exact Or.inl (coherent.eq_of_order_eq (mem_issued_of_live otherThenPresent)
      (mem_issued_of_live otherPresent) (Nat.add_left_cancel sameOrder))
  · exact Or.inr ((entries.before_iff entriesThen).mp isBefore)

end Twins

end Ledger

/-! ## Schedulers -/

namespace Scheduler

/-- The store of a scheduler has the entries of a ledger and its detached items count a number of
refusals; ledger and number are within bounds. -/
structure Kept (scheduler : Scheduler SlotStore κ D) (ledger : Ledger (Item κ D))
    (refusals : Nat) : Prop where
  /-- The store has the entries of the ledger. -/
  represents : scheduler.store.Represents ledger
  /-- The ledger is within bounds. -/
  bounds : ledger.WithinBounds
  /-- The detached items are numbered. -/
  numbered : scheduler.detached.Numbered refusals
  /-- The refusals can be counted. -/
  few : refusals < 2 ^ 64

theorem Kept.peeked
    {scheduler : Scheduler SlotStore κ D}
    {ledger : Ledger (Item κ D)}
    {refusals : Nat}
    (kept : scheduler.Kept ledger refusals) :
    ({ scheduler with store := scheduler.store.peek.2 } : Scheduler SlotStore κ D).Kept ledger
      refusals :=
  ⟨kept.represents.peek, kept.bounds, kept.numbered, kept.few⟩

theorem Kept.remove_of_unnamed
    {scheduler : Scheduler SlotStore κ D}
    {ledger : Ledger (Item κ D)}
    {refusals : Nat}
    (kept : scheduler.Kept ledger refusals)
    {handle : SlotHandle}
    (unnamed : ¬ ∃ entry ∈ ledger.live, entry.handle = handle) :
    scheduler.remove (.stored handle) = (none, scheduler) := by
  rcases removed : scheduler.store.remove handle with ⟨_ | item, store⟩
  · obtain ⟨-, rfl⟩ := kept.represents.of_remove_none removed
    exact remove_stored_eq removed
  · obtain ⟨entry, present, sameHandle, -, -⟩ := kept.represents.of_remove_some removed
    exact absurd ⟨entry, present, sameHandle⟩ unnamed

/-- Two schedulers whose stores have the entries of given ledgers hold the same items. -/
structure Twins (C : Correspondence κ D ε) (names : Naming) (before : Nat)
    (ledger twinLedger : Ledger (Item κ D)) (scheduler twin : Scheduler SlotStore κ D) :
    Prop where
  /-- The pending items correspond. -/
  ledgers : ledger.Twins C names before twinLedger
  /-- So do the detached items. -/
  detached : List.Forall₂ (DetachedItems.Corresponds C names) scheduler.detached.items
    twin.detached.items
  /-- The stores have the same limit. -/
  limit_eq : twin.store.limit = scheduler.store.limit
  /-- Single waits are equally long at most. -/
  pollCeiling_eq : twin.pollCeiling = scheduler.pollCeiling

namespace Twins

variable {ledger twinLedger : Ledger (Item κ D)} {scheduler twin : Scheduler SlotStore κ D}
variable {refusals twinRefusals : Nat}

theorem mono
    (twins : scheduler.Twins C names before ledger twinLedger twin)
    (le : names ≤ more) :
    scheduler.Twins C more before ledger twinLedger twin where
  ledgers := twins.ledgers.mono le
  detached := twins.detached.imp fun _ _ entries => ⟨entries.paired.mono le, entries.value.mono le⟩
  limit_eq := twins.limit_eq
  pollCeiling_eq := twins.pollCeiling_eq

/-- Stores are exchanged for others with the same limits, whose entries correspond. -/
theorem withStores
    (twins : scheduler.Twins C names before ledger twinLedger twin)
    (le : names ≤ more)
    {ledgerThen twinLedgerThen : Ledger (Item κ D)}
    (ledgers : ledgerThen.Twins C more before twinLedgerThen)
    {store twinStore : SlotStore (Item κ D)}
    (sameLimit : store.limit = scheduler.store.limit)
    (twinSameLimit : twinStore.limit = twin.store.limit) :
    ({ scheduler with store } : Scheduler SlotStore κ D).Twins C more before ledgerThen
      twinLedgerThen { twin with store := twinStore } where
  ledgers := ledgers
  detached := (twins.mono le).detached
  limit_eq := twinSameLimit.trans (twins.limit_eq.trans sameLimit.symm)
  pollCeiling_eq := twins.pollCeiling_eq

/-! ### What can be seen -/

theorem size_eq
    (twins : scheduler.Twins C names before ledger twinLedger twin)
    (kept : scheduler.Kept ledger refusals)
    (twinKept : twin.Kept twinLedger twinRefusals) :
    twin.size = scheduler.size := by
  have size_eq := kept.represents.holds.size_eq
  have twinSize_eq := twinKept.represents.holds.size_eq
  rw [← twins.ledgers.length_eq, ← size_eq] at twinSize_eq
  exact twinSize_eq

theorem detachedCount_eq (twins : scheduler.Twins C names before ledger twinLedger twin) :
    twin.detachedCount = scheduler.detachedCount :=
  twins.detached.length_eq.symm

/-- Under corresponding numbers there are corresponding detached items, or none. -/
theorem get?_detached
    (twins : scheduler.Twins C names before ledger twinLedger twin)
    (kept : scheduler.Kept ledger refusals)
    (twinKept : twin.Kept twinLedger twinRefusals)
    {number other : UInt64}
    (paired : names.Pairs (.detached number) (.detached other)) :
    (scheduler.detached.get? number = none ∧ twin.detached.get? other = none) ∨
      ∃ item otherItem, scheduler.detached.get? number = some item ∧
        twin.detached.get? other = some otherItem ∧ item.Corresponds C names otherItem := by
  cases found : scheduler.detached.get? number with
  | some item =>
      have present := (kept.numbered.get?_eq_some_iff number item).mp found
      obtain ⟨⟨otherNumber, otherItem⟩, otherPresent, entries⟩ :=
        exists_right_of_forall₂ twins.detached present
      obtain rfl := ItemHandle.detached.inj ((entries.paired.eq_iff paired).mp rfl)
      exact Or.inr ⟨item, otherItem, rfl,
        (twinKept.numbered.get?_eq_some_iff _ _).mpr otherPresent, entries.value⟩
  | none =>
      refine Or.inl ⟨rfl, ?_⟩
      rw [Option.eq_none_iff_forall_ne_some]
      intro otherItem otherFound
      have otherPresent := (twinKept.numbered.get?_eq_some_iff other otherItem).mp otherFound
      obtain ⟨⟨numberThen, item⟩, present, entries⟩ :=
        exists_left_of_forall₂ twins.detached otherPresent
      obtain rfl := ItemHandle.detached.inj ((entries.paired.eq_iff paired).mpr rfl)
      rw [(kept.numbered.get?_eq_some_iff _ _).mpr present] at found
      cases found

/-- Corresponding handles are known to both or to neither. -/
theorem contains_eq
    (twins : scheduler.Twins C names before ledger twinLedger twin)
    (kept : scheduler.Kept ledger refusals)
    (twinKept : twin.Kept twinLedger twinRefusals)
    {handle other : ItemHandle}
    (paired : names.Pairs handle other) :
    twin.contains other = scheduler.contains handle := by
  have sameKind := names.sameKind _ paired
  cases handle with
  | stored handle =>
      cases other with
      | stored other =>
          have known := kept.represents.holds.contains_iff handle
          have otherKnown := twinKept.represents.holds.contains_iff other
          rw [← twins.ledgers.exists_live_iff paired, ← known] at otherKnown
          exact Bool.eq_iff_iff.mpr otherKnown
      | detached number => cases sameKind
  | detached number =>
      cases other with
      | stored other => cases sameKind
      | detached other =>
          show (twin.detached.get? other).isSome = (scheduler.detached.get? number).isSome
          rcases twins.get?_detached kept twinKept paired with
            ⟨noneFound, noneFoundThen⟩ | ⟨_, _, found, foundThen, -⟩
          · rw [noneFound, noneFoundThen]
          · rw [found, foundThen]
            rfl

/-- Looking at the earliest items shows corresponding ones, or none. -/
theorem peek
    (twins : scheduler.Twins C names before ledger twinLedger twin)
    (kept : scheduler.Kept ledger refusals)
    (twinKept : twin.Kept twinLedger twinRefusals) :
    (OrderedStore.peek scheduler.store = (none, scheduler.store.peek.2) ∧
        OrderedStore.peek twin.store = (none, twin.store.peek.2)) ∨
      ∃ entry ∈ ledger.live, ∃ other ∈ twinLedger.live,
        entry.Corresponds C names before other ∧
          OrderedStore.peek scheduler.store =
            (some (entry.handle, entry.due), scheduler.store.peek.2) ∧
          OrderedStore.peek twin.store =
            (some (other.handle, other.due), twin.store.peek.2) := by
  cases found : scheduler.store.peek.1 with
  | none =>
      refine Or.inl ⟨Prod.ext found rfl, Prod.ext ?_ rfl⟩
      refine twinKept.represents.peek_eq_none_iff.mpr ?_
      rw [← List.length_eq_zero_iff, ← twins.ledgers.length_eq, List.length_eq_zero_iff,
        ← kept.represents.peek_eq_none_iff]
      exact found
  | some first =>
      obtain ⟨entry, earliest, sameHandle, sameDue⟩ :=
        kept.represents.isEarliest_of_peek kept.bounds found
      obtain ⟨other, otherEarliest, entries⟩ :=
        twins.ledgers.exists_earliest twinKept.represents.holds.coherent earliest
      refine Or.inr ⟨entry, earliest.1, other, otherEarliest.1, entries, Prod.ext ?_ rfl,
        Prod.ext ?_ rfl⟩
      · rw [sameHandle, sameDue]
        exact found
      · cases otherFound : twin.store.peek.1 with
        | none =>
            have noneLive := twinKept.represents.peek_eq_none_iff.mp otherFound
            have present := otherEarliest.1
            rw [noneLive] at present
            cases present
        | some otherFirst =>
            obtain ⟨otherThen, earliestThen, handleThen, dueThen⟩ :=
              twinKept.represents.isEarliest_of_peek twinKept.bounds otherFound
            rw [otherEarliest.eq earliestThen, handleThen, dueThen]

theorem nextDue_eq
    (twins : scheduler.Twins C names before ledger twinLedger twin)
    (kept : scheduler.Kept ledger refusals)
    (twinKept : twin.Kept twinLedger twinRefusals) :
    twin.nextDue.1 = scheduler.nextDue.1 := by
  rcases twins.peek kept twinKept with
    ⟨noneFound, twinNoneFound⟩ | ⟨entry, -, other, -, entries, found, twinFound⟩
  · rw [nextDue, nextDue, noneFound, twinNoneFound]
  · rw [nextDue, nextDue, found, twinFound]
    exact congrArg some entries.due_eq

theorem peeked (twins : scheduler.Twins C names before ledger twinLedger twin) :
    ({ scheduler with store := scheduler.store.peek.2 } : Scheduler SlotStore κ D).Twins C names
      before ledger twinLedger { twin with store := twin.store.peek.2 } :=
  twins.withStores (le_refl names) twins.ledgers rfl rfl

/-! ### What can be done -/

/-- Corresponding items are taken by both, or refused by both. -/
theorem insert
    (twins : scheduler.Twins C names before ledger twinLedger twin)
    (kept : scheduler.Kept ledger refusals)
    (twinKept : twin.Kept twinLedger twinRefusals)
    {item other : Item κ D}
    (items : item.Corresponds C names other) :
    (∃ handle otherHandle store twinStore,
      OrderedStore.insert scheduler.store item.due item = (.ok handle, store) ∧
        OrderedStore.insert twin.store other.due other = (.ok otherHandle, twinStore) ∧
        ∀ more, names ≤ more → more.Pairs (.stored handle) (.stored otherHandle) →
          ({ scheduler with store } : Scheduler SlotStore κ D).Twins C more before
            (ledger.add handle item.due item) (twinLedger.add otherHandle other.due other)
            { twin with store := twinStore }) ∨
      (OrderedStore.insert scheduler.store item.due item =
          (.error ⟨item, .limitReached⟩, scheduler.store) ∧
        OrderedStore.insert twin.store other.due other =
          (.error ⟨other, .limitReached⟩, twin.store)) := by
  have full_iff : twin.store.isFull = true ↔ scheduler.store.isFull = true := by
    rw [twinKept.represents.isFull_iff, kept.represents.isFull_iff, twins.limit_eq,
      twins.ledgers.length_eq]
  cases full : scheduler.store.isFull with
  | true =>
      exact Or.inr ⟨SlotStore.insert_of_isFull full _ _,
        SlotStore.insert_of_isFull (full_iff.mpr full) _ _⟩
  | false =>
      have twinNotFull : twin.store.isFull = false := by
        rw [Bool.eq_false_iff, ne_eq, full_iff, full]
        exact Bool.false_ne_true
      refine Or.inl ⟨_, _, _, _, SlotStore.insert_of_not_isFull full _ _,
        SlotStore.insert_of_not_isFull twinNotFull _ _, fun more le paired => ?_⟩
      refine twins.withStores le (twins.ledgers.add le paired items) ?_ ?_
      · exact SlotStore.limit_occupy scheduler.store item
      · exact SlotStore.limit_occupy twin.store other

/-- Corresponding items are kept aside under new names. -/
theorem detach
    (twins : scheduler.Twins C names before ledger twinLedger twin)
    (kept : scheduler.Kept ledger refusals)
    (twinKept : twin.Kept twinLedger twinRefusals)
    {item other : Item κ D}
    (items : item.Corresponds C names other)
    (le : names ≤ more)
    (paired : more.Pairs (.detached scheduler.detached.nextNumber)
      (.detached twin.detached.nextNumber)) :
    (scheduler.detach item).2.Twins C more before ledger twinLedger (twin.detach other).2 where
  ledgers := twins.ledgers.mono le
  detached := by
    show List.Forall₂ _ (scheduler.detached.add item).2.items (twin.detached.add other).2.items
    rw [kept.numbered.items_add kept.few, twinKept.numbered.items_add twinKept.few]
    exact .cons ⟨paired, items.mono le⟩ (twins.mono le).detached
  limit_eq := twins.limit_eq
  pollCeiling_eq := twins.pollCeiling_eq

theorem remove_stored
    (twins : scheduler.Twins C names before ledger twinLedger twin)
    (kept : scheduler.Kept ledger refusals)
    (twinKept : twin.Kept twinLedger twinRefusals)
    {entry other : Entry (Item κ D)}
    (present : entry ∈ ledger.live)
    (otherPresent : other ∈ twinLedger.live)
    (entries : entry.Corresponds C names before other) :
    ∃ remaining twinRemaining,
      scheduler.remove (.stored entry.handle) = (some entry.value, remaining) ∧
        twin.remove (.stored other.handle) = (some other.value, twinRemaining) ∧
        remaining.Twins C names before (ledger.without (.stored entry.handle))
          (twinLedger.without (.stored other.handle)) twinRemaining := by
  obtain ⟨store, removed, -⟩ := kept.represents.exists_remove_of_live present
  obtain ⟨twinStore, twinRemoved, -⟩ := twinKept.represents.exists_remove_of_live otherPresent
  have sameLimit := SlotStore.limit_remove scheduler.store entry.handle
  have twinSameLimit := SlotStore.limit_remove twin.store other.handle
  rw [removed] at sameLimit
  rw [twinRemoved] at twinSameLimit
  refine ⟨_, _, remove_stored_eq removed, remove_stored_eq twinRemoved, ?_⟩
  exact twins.withStores (le_refl names) (twins.ledgers.without entries.paired) sameLimit
    twinSameLimit

theorem remove_detached
    (twins : scheduler.Twins C names before ledger twinLedger twin)
    (kept : scheduler.Kept ledger refusals)
    (twinKept : twin.Kept twinLedger twinRefusals)
    {number other : UInt64}
    (paired : names.Pairs (.detached number) (.detached other))
    {item otherItem : Item κ D}
    (found : scheduler.detached.get? number = some item)
    (otherFound : twin.detached.get? other = some otherItem) :
    ∃ remaining twinRemaining,
      scheduler.remove (.detached number) = (some item, remaining) ∧
        twin.remove (.detached other) = (some otherItem, twinRemaining) ∧
        remaining.Twins C names before ledger twinLedger twinRemaining := by
  have removed : scheduler.detached.remove number =
      (some item, scheduler.detached.erase number) := by
    rw [DetachedItems.remove, found]
  have twinRemoved : twin.detached.remove other = (some otherItem, twin.detached.erase other) := by
    rw [DetachedItems.remove, otherFound]
  obtain ⟨-, items_eq, -⟩ := kept.numbered.of_remove removed
  obtain ⟨-, twinItems_eq, -⟩ := twinKept.numbered.of_remove twinRemoved
  refine ⟨_, _, remove_detached_eq removed, remove_detached_eq twinRemoved, twins.ledgers, ?_,
    twins.limit_eq, twins.pollCeiling_eq⟩
  rw [items_eq, twinItems_eq]
  refine List.rel_filter ?_ twins.detached
  intro entry otherEntry entries
  have iff := entries.paired.eq_iff paired
  rw [ItemHandle.detached.injEq, ItemHandle.detached.injEq] at iff
  simp only [bne_iff_ne, ne_eq, iff]

/-- Corresponding handles take out corresponding items, or nothing. -/
theorem remove
    (twins : scheduler.Twins C names before ledger twinLedger twin)
    (kept : scheduler.Kept ledger refusals)
    (twinKept : twin.Kept twinLedger twinRefusals)
    {handle other : ItemHandle}
    (paired : names.Pairs handle other) :
    (∃ item otherItem remaining twinRemaining,
      scheduler.remove handle = (some item, remaining) ∧
        twin.remove other = (some otherItem, twinRemaining) ∧
        item.Corresponds C names otherItem ∧
        remaining.Twins C names before (ledger.without handle) (twinLedger.without other)
          twinRemaining) ∨
      (scheduler.remove handle = (none, scheduler) ∧ twin.remove other = (none, twin)) := by
  have sameKind := names.sameKind _ paired
  cases handle with
  | stored handle =>
      cases other with
      | stored other =>
          by_cases named : ∃ entry ∈ ledger.live, entry.handle = handle
          · obtain ⟨entry, present, rfl⟩ := named
            obtain ⟨otherEntry, otherPresent, entries⟩ :=
              exists_right_of_forall₂ twins.ledgers.live present
            obtain rfl := ItemHandle.stored.inj ((entries.paired.eq_iff paired).mp rfl)
            obtain ⟨remaining, twinRemaining, removed, twinRemoved, twinsThen⟩ :=
              twins.remove_stored kept twinKept present otherPresent entries
            exact Or.inl ⟨_, _, _, _, removed, twinRemoved, entries.value, twinsThen⟩
          · have twinUnnamed := mt (twins.ledgers.exists_live_iff paired).mpr named
            exact Or.inr ⟨kept.remove_of_unnamed named, twinKept.remove_of_unnamed twinUnnamed⟩
      | detached number => cases sameKind
  | detached number =>
      cases other with
      | stored other => cases sameKind
      | detached other =>
          rcases twins.get?_detached kept twinKept paired with
            ⟨noneFound, twinNoneFound⟩ | ⟨item, otherItem, found, otherFound, items⟩
          · refine Or.inr ⟨remove_detached_eq ?_, remove_detached_eq ?_⟩
            · rw [DetachedItems.remove, noneFound]
            · rw [DetachedItems.remove, twinNoneFound]
          · obtain ⟨_, _, removed, twinRemoved, twinsThen⟩ :=
              twins.remove_detached kept twinKept paired found otherFound
            exact Or.inl ⟨_, _, _, _, removed, twinRemoved, items, twinsThen⟩

/-- Both release as many items, and the same ones, though perhaps in another order. -/
theorem release
    (twins : scheduler.Twins C names before ledger twinLedger twin)
    (kept : scheduler.Kept ledger refusals)
    (twinKept : twin.Kept twinLedger twinRefusals) :
    (∃ items, items.Perm scheduler.release.1 ∧
      ∃ others, others.Perm twin.release.1 ∧
        List.Forall₂ (Item.Corresponds C names) items others) ∧
      scheduler.release.2.Twins C names before ledger.clear twinLedger.clear twin.release.2 := by
  obtain ⟨entries, entries_perm, -, values_eq⟩ := kept.represents.holds.values_eq_map
  obtain ⟨twinEntries, twinEntries_perm, -, twinValues_eq⟩ :=
    twinKept.represents.holds.values_eq_map
  have released : ((ledger.live.map Entry.value) ++ scheduler.detached.items.map Prod.snd).Perm
      scheduler.release.1 := by
    show List.Perm _ (scheduler.store.values ++ _)
    rw [values_eq]
    exact (entries_perm.map Entry.value).symm.append_right _
  have twinReleased : ((twinLedger.live.map Entry.value) ++ twin.detached.items.map Prod.snd).Perm
      twin.release.1 := by
    show List.Perm _ (twin.store.values ++ _)
    rw [twinValues_eq]
    exact (twinEntries_perm.map Entry.value).symm.append_right _
  refine ⟨⟨_, released, _, twinReleased, List.rel_append ?_ ?_⟩, ?_⟩
  · rw [List.forall₂_map_left_iff, List.forall₂_map_right_iff]
    exact twins.ledgers.live.imp fun _ _ entries => entries.value
  · rw [List.forall₂_map_left_iff, List.forall₂_map_right_iff]
    exact twins.detached.imp fun _ _ entries => entries.value
  · refine ⟨twins.ledgers.clear, .nil, ?_, twins.pollCeiling_eq⟩
    exact (SlotStore.limit_removeAll _).trans
      (twins.limit_eq.trans (SlotStore.limit_removeAll _).symm)

/-! ### The halves of a turn -/

/-- Both wait equally long for corresponding items, or both are left. -/
theorem awaitFirst
    (twins : scheduler.Twins C names before ledger twinLedger twin)
    (kept : scheduler.Kept ledger refusals)
    (twinKept : twin.Kept twinLedger twinRefusals)
    (now : Instant) :
    (scheduler.awaitFirst now).1.Corresponds names (twin.awaitFirst now).1 ∧
      (scheduler.awaitFirst now).2 = { scheduler with store := scheduler.store.peek.2 } ∧
      (twin.awaitFirst now).2 = { twin with store := twin.store.peek.2 } := by
  rcases twins.peek kept twinKept with
    ⟨noneFound, twinNoneFound⟩ | ⟨entry, -, other, -, entries, found, twinFound⟩
  · simp only [Scheduler.awaitFirst, noneFound, twinNoneFound]
    exact ⟨.leave .queueEmpty, trivial, trivial⟩
  · simp only [Scheduler.awaitFirst, found, twinFound]
    refine ⟨.await ⟨entries.paired, ?_⟩, trivial, trivial⟩
    rw [entries.due_eq, twins.pollCeiling_eq]

/-- Both fire corresponding items, or none. -/
theorem fireIfDue
    (twins : scheduler.Twins C names before ledger twinLedger twin)
    (kept : scheduler.Kept ledger refusals)
    (twinKept : twin.Kept twinLedger twinRefusals)
    {wait other : Wait}
    (waits : wait.Corresponds names other)
    (now : Instant) :
    let settled := scheduler.fireIfDue wait now
    let twinSettled := twin.fireIfDue other now
    settled.1.Corresponds C names twinSettled.1 ∧
      settled.2.Twins C names before (ledger.settle settled.1) (twinLedger.settle twinSettled.1)
        twinSettled.2 := by
  rcases twins.peek kept twinKept with
    ⟨noneFound, twinNoneFound⟩ |
      ⟨entry, present, otherEntry, otherPresent, entries, found, twinFound⟩
  · simp only [Scheduler.fireIfDue, noneFound, twinNoneFound]
    exact ⟨.again, twins.peeked⟩
  · have due_iff : (otherEntry.handle = other.handle ∧ ¬ 0 < timeLeft now otherEntry.due) ↔
        (entry.handle = wait.handle ∧ ¬ 0 < timeLeft now entry.due) := by
      have same_iff := entries.paired.eq_iff waits.paired
      rw [ItemHandle.stored.injEq, ItemHandle.stored.injEq] at same_iff
      rw [same_iff, entries.due_eq]
    obtain ⟨remaining, twinRemaining, removed, twinRemoved, twinsThen⟩ :=
      twins.peeked.remove_stored kept.peeked twinKept.peeked present otherPresent entries
    simp only [Scheduler.fireIfDue, found, twinFound, due_iff]
    split
    next isDue =>
      rw [← isDue.1, ← (due_iff.mpr isDue).1, removed, twinRemoved]
      exact ⟨.fire entries.paired entries.value, twinsThen⟩
    next => exact ⟨.again, twins.peeked⟩

theorem settleTurn
    (twins : scheduler.Twins C names before ledger twinLedger twin)
    (kept : scheduler.Kept ledger refusals)
    (twinKept : twin.Kept twinLedger twinRefusals)
    {wait other : Wait}
    (waits : wait.Corresponds names other)
    (result : PollResult)
    (now : Instant) :
    let settled := scheduler.settleTurn wait result now
    let twinSettled := twin.settleTurn other result now
    settled.1.Corresponds C names twinSettled.1 ∧
      settled.2.Twins C names before (ledger.settle settled.1) (twinLedger.settle twinSettled.1)
        twinSettled.2 := by
  unfold Scheduler.settleTurn
  split
  next error =>
    split
    · exact ⟨.again, twins⟩
    · exact ⟨.leave _, twins⟩
  next ready =>
    split
    · exact ⟨.again, twins⟩
    · exact twins.fireIfDue kept twinKept waits now

end Twins
end Scheduler
end Agenda
