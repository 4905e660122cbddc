import Agenda.Store.KeyQueue
import Mathlib.Algebra.Group.Nat.Defs
import Mathlib.Data.List.Nodup

/-!
# Ledgers of entries

A ledger is the plain account of a store: the entries that are in it, in the order in which
they were taken, and the entries that have left it.  It knows nothing of slots that are used
again, of queues or of stale keys.

A ledger is coherent when its handles are the ones that a slot store gives out: the slot of an
entry has been emptied as often as the generation in the handle says, counted round a 32-bit
number.  As long as no slot has been emptied 2^32 times, different entries of a coherent ledger
have different handles.
-/

namespace Agenda

/-- What is known of an entry that a store has taken. -/
structure Entry (α : Type) where
  /-- The name that the entry was given. -/
  handle : SlotHandle
  /-- When the entry is due. -/
  due : Instant
  /-- How many entries were taken before it. -/
  order : Nat
  /-- What was stored. -/
  value : α
  deriving DecidableEq, Repr

namespace Entry

variable {α : Type}

/-- An entry comes before the entries due later, and before those due at the same instant that
were taken after it. -/
def before (entry other : Entry α) : Prop :=
  entry.due < other.due ∨ entry.due = other.due ∧ entry.order < other.order

instance (entry other : Entry α) : Decidable (entry.before other) :=
  inferInstanceAs (Decidable (_ ∨ _ ∧ _))

/-- No two entries come each before the other. -/
theorem not_before_of_before {entry other : Entry α} (isBefore : entry.before other) :
    ¬ other.before entry := by
  unfold before at *
  simp only [Instant] at *
  omega

/-- There is one order of given entries in which each comes before the later ones. -/
theorem eq_of_pairwise_before
    {entries others : List (Entry α)}
    (perm : entries.Perm others)
    (pairwise : entries.Pairwise before)
    (othersPairwise : others.Pairwise before) :
    entries = others :=
  perm.eq_of_pairwise
    (fun _ _ _ _ isBefore isAfter => absurd isAfter (not_before_of_before isBefore))
    pairwise othersPairwise

/-- The key by which a queue orders an entry. -/
def key (entry : Entry α) : Key := ⟨entry.due, UInt64.ofNat entry.order, entry.handle⟩

@[simp] theorem handle_key (entry : Entry α) : entry.key.handle = entry.handle := rfl

@[simp] theorem due_key (entry : Entry α) : entry.key.due = entry.due := rfl

end Entry

/-- The entries that are in a store and those that have left it. -/
structure Ledger (α : Type) where
  /-- The entries in the store, in the order in which they were taken. -/
  live : List (Entry α)
  /-- The entries that have left, in the order in which they left. -/
  departed : List (Entry α)
  deriving DecidableEq, Repr

namespace Ledger

variable {α : Type}

/-- No entry was ever taken. -/
def empty : Ledger α := ⟨[], []⟩

/-- Every entry ever taken. -/
def issued (ledger : Ledger α) : List (Entry α) := ledger.departed ++ ledger.live

/-- How many entries were ever taken. -/
def inserted (ledger : Ledger α) : Nat := ledger.issued.length

/-- The entries that have left a slot, in the order in which they left. -/
def departuresFrom (ledger : Ledger α) (slot : Nat) : List (Entry α) :=
  ledger.departed.filter fun entry => entry.handle.slot == slot

/-- How often a slot has been emptied. -/
def timesEmptied (ledger : Ledger α) (slot : Nat) : Nat := (ledger.departuresFrom slot).length

/-- The entry that a handle names. -/
def find? (ledger : Ledger α) (handle : SlotHandle) : Option (Entry α) :=
  ledger.live.find? fun entry => entry.handle == handle

/-- An entry of the ledger that comes before all the others. -/
def IsEarliest (ledger : Ledger α) (entry : Entry α) : Prop :=
  entry ∈ ledger.live ∧ ∀ other ∈ ledger.live, other = entry ∨ entry.before other

/-- The entry that is made of a value taken now. -/
def newEntry (ledger : Ledger α) (handle : SlotHandle) (due : Instant) (value : α) : Entry α :=
  ⟨handle, due, ledger.inserted, value⟩

/-- Take a value under a handle. -/
def add (ledger : Ledger α) (handle : SlotHandle) (due : Instant) (value : α) : Ledger α :=
  { ledger with live := ledger.live ++ [ledger.newEntry handle due value] }

/-- Let the entries go that pass a test. -/
def departWhere (ledger : Ledger α) (leaves : Entry α → Bool) : Ledger α where
  live := ledger.live.filter fun entry => !leaves entry
  departed := ledger.departed ++ ledger.live.filter leaves

/-- Let the entry go that a handle names. -/
def erase (ledger : Ledger α) (handle : SlotHandle) : Ledger α :=
  ledger.departWhere fun entry => entry.handle == handle

/-- Let every entry go. -/
def clear (ledger : Ledger α) : Ledger α := ledger.departWhere fun _ => true

/-- Fewer than 2^64 entries were taken, and no slot was emptied 2^32 times. -/
structure WithinBounds (ledger : Ledger α) : Prop where
  /-- The entries can be counted by a 64-bit number. -/
  inserted_lt : ledger.inserted < 2 ^ 64
  /-- The departures from a slot can be counted by a 32-bit number. -/
  timesEmptied_lt : ∀ slot, ledger.timesEmptied slot < 2 ^ 32

/-- A handle of an entry in the store is that of no other entry, and the entries can be counted by
a 64-bit number. -/
structure Legible (ledger : Ledger α) : Prop where
  /-- The entries can be counted by a 64-bit number. -/
  inserted_lt : ledger.inserted < 2 ^ 64
  /-- Handles tell the entries in the store from all others. -/
  eq_of_handle_eq : ∀ entry ∈ ledger.issued, ∀ other ∈ ledger.live,
    entry.handle = other.handle → entry = other

@[simp] theorem live_empty : (empty : Ledger α).live = [] := rfl

@[simp] theorem departed_empty : (empty : Ledger α).departed = [] := rfl

@[simp] theorem live_add (ledger : Ledger α) (handle : SlotHandle) (due : Instant) (value : α) :
    (ledger.add handle due value).live =
      ledger.live ++ [ledger.newEntry handle due value] := rfl

@[simp] theorem departed_add
    (ledger : Ledger α)
    (handle : SlotHandle)
    (due : Instant)
    (value : α) :
    (ledger.add handle due value).departed = ledger.departed := rfl

@[simp] theorem live_clear (ledger : Ledger α) : ledger.clear.live = [] := by
  simp [clear, departWhere]

theorem mem_issued (ledger : Ledger α) (entry : Entry α) :
    entry ∈ ledger.issued ↔ entry ∈ ledger.departed ∨ entry ∈ ledger.live :=
  List.mem_append

theorem mem_issued_of_live
    {ledger : Ledger α}
    {entry : Entry α}
    (present : entry ∈ ledger.live) :
    entry ∈ ledger.issued :=
  List.mem_append_right _ present

theorem issued_add (ledger : Ledger α) (handle : SlotHandle) (due : Instant) (value : α) :
    (ledger.add handle due value).issued =
      ledger.issued ++ [ledger.newEntry handle due value] := by
  simp [issued]

@[simp] theorem inserted_add
    (ledger : Ledger α)
    (handle : SlotHandle)
    (due : Instant)
    (value : α) :
    (ledger.add handle due value).inserted = ledger.inserted + 1 := by
  simp [inserted, issued_add]

@[simp] theorem timesEmptied_add
    (ledger : Ledger α)
    (handle : SlotHandle)
    (due : Instant)
    (value : α)
    (slot : Nat) :
    (ledger.add handle due value).timesEmptied slot = ledger.timesEmptied slot := rfl

theorem mem_live_departWhere (ledger : Ledger α) (leaves : Entry α → Bool) (entry : Entry α) :
    entry ∈ (ledger.departWhere leaves).live ↔ entry ∈ ledger.live ∧ leaves entry = false := by
  simp [departWhere]

/-- Departures move entries and lose none. -/
theorem issued_departWhere (ledger : Ledger α) (leaves : Entry α → Bool) :
    (ledger.departWhere leaves).issued.Perm ledger.issued := by
  rw [issued, issued, departWhere, List.append_assoc]
  exact (List.filter_append_perm leaves ledger.live).append_left _

@[simp] theorem inserted_departWhere (ledger : Ledger α) (leaves : Entry α → Bool) :
    (ledger.departWhere leaves).inserted = ledger.inserted :=
  (ledger.issued_departWhere leaves).length_eq

/-- Departures leave a ledger legible, however often a slot is emptied by them. -/
theorem Legible.departWhere
    {ledger : Ledger α}
    (legible : ledger.Legible)
    (leaves : Entry α → Bool) :
    (ledger.departWhere leaves).Legible where
  inserted_lt := by
    rw [inserted_departWhere]
    exact legible.inserted_lt
  eq_of_handle_eq entry issued other live :=
    legible.eq_of_handle_eq entry ((ledger.issued_departWhere leaves).mem_iff.mp issued) other
      ((mem_live_departWhere ..).mp live).1

theorem departuresFrom_departWhere
    (ledger : Ledger α)
    (leaves : Entry α → Bool)
    (slot : Nat) :
    (ledger.departWhere leaves).departuresFrom slot =
      ledger.departuresFrom slot ++
        (ledger.live.filter leaves).filter fun entry => entry.handle.slot == slot := by
  simp [departuresFrom, departWhere]

/-- A slot that no entry leaves is not emptied. -/
theorem timesEmptied_departWhere_of_staying
    {ledger : Ledger α}
    {leaves : Entry α → Bool}
    {slot : Nat}
    (stays : ∀ entry ∈ ledger.live, leaves entry = true → entry.handle.slot ≠ slot) :
    (ledger.departWhere leaves).timesEmptied slot = ledger.timesEmptied slot := by
  have noneLeaves :
      ((ledger.live.filter leaves).filter fun entry => entry.handle.slot == slot) = [] := by
    rw [List.filter_eq_nil_iff]
    intro entry leaving
    obtain ⟨present, entryLeaves⟩ := List.mem_filter.mp leaving
    simpa using stays entry present entryLeaves
  rw [timesEmptied, departuresFrom_departWhere, noneLeaves, List.append_nil, timesEmptied]

/-- Where no entry has a handle, there is nothing to let go. -/
theorem erase_of_not_live
    {ledger : Ledger α}
    {handle : SlotHandle}
    (unknown : ∀ entry ∈ ledger.live, entry.handle ≠ handle) :
    ledger.erase handle = ledger := by
  have noneLeaves : (ledger.live.filter fun entry => entry.handle == handle) = [] := by
    rw [List.filter_eq_nil_iff]
    exact fun entry present => by simpa using unknown entry present
  have allStay : (ledger.live.filter fun entry => !entry.handle == handle) = ledger.live := by
    rw [List.filter_eq_self]
    exact fun entry present => by simpa using unknown entry present
  rw [erase, departWhere, noneLeaves, allStay, List.append_nil]

/-- There is at most one earliest entry. -/
theorem IsEarliest.eq
    {ledger : Ledger α}
    {entry other : Entry α}
    (earliest : ledger.IsEarliest entry)
    (otherEarliest : ledger.IsEarliest other) :
    entry = other := by
  rcases earliest.2 other otherEarliest.1 with rfl | isBefore
  · rfl
  · rcases otherEarliest.2 entry earliest.1 with rfl | isAfter
    · rfl
    · exact absurd isAfter (Entry.not_before_of_before isBefore)

/-! ## Ledgers that grow -/

/-- A ledger of which another is a later state. -/
structure Extends (ledger later : Ledger α) : Prop where
  /-- Entries are never forgotten. -/
  issued_subset : ledger.issued ⊆ later.issued
  /-- Entries that have left do not come back. -/
  departed_sublist : ledger.departed.Sublist later.departed
  /-- Entries are not counted down. -/
  inserted_le : ledger.inserted ≤ later.inserted

@[refl] theorem Extends.refl (ledger : Ledger α) : ledger.Extends ledger :=
  ⟨fun _ present => present, List.Sublist.refl _, Nat.le_refl _⟩

theorem Extends.trans
    {ledger later latest : Ledger α}
    (first : ledger.Extends later)
    (second : later.Extends latest) :
    ledger.Extends latest :=
  ⟨fun _ present => second.issued_subset (first.issued_subset present),
    first.departed_sublist.trans second.departed_sublist,
    Nat.le_trans first.inserted_le second.inserted_le⟩

theorem extends_add (ledger : Ledger α) (handle : SlotHandle) (due : Instant) (value : α) :
    ledger.Extends (ledger.add handle due value) where
  issued_subset := by
    rw [issued_add]
    exact List.subset_append_left _ _
  departed_sublist := List.Sublist.refl _
  inserted_le := by
    rw [inserted_add]
    exact Nat.le_succ _

theorem extends_departWhere (ledger : Ledger α) (leaves : Entry α → Bool) :
    ledger.Extends (ledger.departWhere leaves) where
  issued_subset := (ledger.issued_departWhere leaves).symm.subset
  departed_sublist := List.sublist_append_left _ _
  inserted_le := Nat.le_of_eq (ledger.inserted_departWhere leaves).symm

theorem Extends.timesEmptied_le
    {ledger later : Ledger α}
    (extension : ledger.Extends later)
    (slot : Nat) :
    ledger.timesEmptied slot ≤ later.timesEmptied slot :=
  (extension.departed_sublist.filter _).length_le

/-- A history that was within bounds has always been so. -/
theorem Extends.withinBounds
    {ledger later : Ledger α}
    (extension : ledger.Extends later)
    (bounds : later.WithinBounds) :
    ledger.WithinBounds where
  inserted_lt := Nat.lt_of_le_of_lt extension.inserted_le bounds.inserted_lt
  timesEmptied_lt slot :=
    Nat.lt_of_le_of_lt (extension.timesEmptied_le slot) (bounds.timesEmptied_lt slot)

/-! ## Coherent ledgers -/

/-- A list in which nothing but one member occurs, once, is that member alone. -/
theorem eq_singleton_of_forall_eq
    {β : Type}
    {list : List β}
    {member : β}
    (nodup : list.Nodup)
    (present : member ∈ list)
    (only : ∀ other ∈ list, other = member) :
    list = [member] := by
  cases list with
  | nil => cases present
  | cons head rest =>
      obtain rfl : head = member := only head List.mem_cons_self
      have noMore : rest = [] := by
        refine List.eq_nil_iff_forall_not_mem.mpr fun other inRest => ?_
        have equal := only other (List.mem_cons_of_mem _ inRest)
        exact (List.nodup_cons.mp nodup).1 (equal ▸ inRest)
      rw [noMore]

/-- The entries are numbered in the order in which they were taken, at most one of them is in
each slot, and the generations count the departures from a slot. -/
structure Coherent (ledger : Ledger α) : Prop where
  /-- No two entries have the same number. -/
  order_nodup : (ledger.issued.map Entry.order).Nodup
  /-- The numbers are the ones given out so far. -/
  order_lt : ∀ entry ∈ ledger.issued, entry.order < ledger.inserted
  /-- A slot holds at most one entry. -/
  slot_nodup : (ledger.live.map fun entry => entry.handle.slot).Nodup
  /-- An entry has the generation that its slot has now. -/
  live_generation : ∀ entry ∈ ledger.live,
    entry.handle.generation = UInt32.ofNat (ledger.timesEmptied entry.handle.slot)
  /-- The generations of the entries that left a slot count from zero. -/
  departed_generation : ∀ slot index entry,
    (ledger.departuresFrom slot)[index]? = some entry →
      entry.handle.generation = UInt32.ofNat index

theorem coherent_empty : (empty : Ledger α).Coherent where
  order_nodup := List.nodup_nil
  order_lt _ present := by cases present
  slot_nodup := List.nodup_nil
  live_generation _ present := by cases present
  departed_generation _ _ _ found := by simp [departuresFrom] at found

namespace Coherent

variable {ledger : Ledger α}

theorem eq_of_order_eq
    (coherent : ledger.Coherent)
    {entry other : Entry α}
    (entryIssued : entry ∈ ledger.issued)
    (otherIssued : other ∈ ledger.issued)
    (sameOrder : entry.order = other.order) :
    entry = other :=
  List.inj_on_of_nodup_map coherent.order_nodup entryIssued otherIssued sameOrder

theorem eq_of_slot_eq
    (coherent : ledger.Coherent)
    {entry other : Entry α}
    (entryLive : entry ∈ ledger.live)
    (otherLive : other ∈ ledger.live)
    (sameSlot : entry.handle.slot = other.handle.slot) :
    entry = other :=
  List.inj_on_of_nodup_map coherent.slot_nodup entryLive otherLive sameSlot

/-- An entry that is in the store has not left it. -/
theorem not_departed_of_live
    (coherent : ledger.Coherent)
    {entry : Entry α}
    (present : entry ∈ ledger.live) :
    entry ∉ ledger.departed := by
  intro departed
  have issuedNodup : (ledger.departed ++ ledger.live).Nodup := coherent.order_nodup.of_map _
  exact List.disjoint_of_nodup_append issuedNodup departed present

/-- Taking a value keeps a ledger coherent if the slot is vacant and the handle has the
generation that is due. -/
theorem add
    (coherent : ledger.Coherent)
    {handle : SlotHandle}
    (vacant : ∀ entry ∈ ledger.live, entry.handle.slot ≠ handle.slot)
    (generation_eq : handle.generation = UInt32.ofNat (ledger.timesEmptied handle.slot))
    (due : Instant)
    (value : α) :
    (ledger.add handle due value).Coherent where
  order_nodup := by
    rw [issued_add, List.map_append, List.nodup_append]
    refine ⟨coherent.order_nodup, List.nodup_singleton _, ?_⟩
    intro order present other isNew
    obtain ⟨entry, entryIssued, rfl⟩ := List.mem_map.mp present
    obtain rfl : other = ledger.inserted := List.mem_singleton.mp isNew
    exact Nat.ne_of_lt (coherent.order_lt entry entryIssued)
  order_lt entry present := by
    rw [issued_add, List.mem_append, List.mem_singleton] at present
    rw [inserted_add]
    rcases present with old | rfl
    · exact Nat.lt_succ_of_lt (coherent.order_lt entry old)
    · exact Nat.lt_succ_self _
  slot_nodup := by
    rw [live_add, List.map_append, List.nodup_append]
    refine ⟨coherent.slot_nodup, List.nodup_singleton _, ?_⟩
    intro slot present other isNew
    obtain ⟨entry, entryLive, rfl⟩ := List.mem_map.mp present
    obtain rfl : other = handle.slot := List.mem_singleton.mp isNew
    exact vacant entry entryLive
  live_generation entry present := by
    rw [live_add, List.mem_append, List.mem_singleton] at present
    rw [timesEmptied_add]
    rcases present with old | rfl
    · exact coherent.live_generation entry old
    · exact generation_eq
  departed_generation := coherent.departed_generation

theorem live_nodup (coherent : ledger.Coherent) : ledger.live.Nodup :=
  coherent.slot_nodup.of_map _

/-- The departures from the slot of an entry that leaves are this entry alone. -/
theorem leaving_eq_singleton
    (coherent : ledger.Coherent)
    {leaves : Entry α → Bool}
    {entry : Entry α}
    (present : entry ∈ ledger.live)
    (entryLeaves : leaves entry = true) :
    ((ledger.live.filter leaves).filter fun other => other.handle.slot == entry.handle.slot) =
      [entry] := by
  refine eq_singleton_of_forall_eq ((coherent.live_nodup.filter _).filter _) ?_ ?_
  · simp [present, entryLeaves]
  · intro other otherLeaving
    simp only [List.mem_filter, beq_iff_eq] at otherLeaving
    exact coherent.eq_of_slot_eq otherLeaving.1.1 present otherLeaving.2

theorem timesEmptied_departWhere_of_leaving
    (coherent : ledger.Coherent)
    {leaves : Entry α → Bool}
    {entry : Entry α}
    (present : entry ∈ ledger.live)
    (entryLeaves : leaves entry = true) :
    (ledger.departWhere leaves).timesEmptied entry.handle.slot =
      ledger.timesEmptied entry.handle.slot + 1 := by
  rw [timesEmptied, departuresFrom_departWhere, coherent.leaving_eq_singleton present entryLeaves,
    List.length_append, List.length_singleton, timesEmptied]

/-- The only entry in the store under a handle. -/
theorem filter_handle_eq
    (coherent : ledger.Coherent)
    {entry : Entry α}
    (present : entry ∈ ledger.live) :
    (ledger.live.filter fun other => other.handle == entry.handle) = [entry] := by
  refine eq_singleton_of_forall_eq (coherent.live_nodup.filter _) (by simp [present]) ?_
  intro other sameHandle
  rw [List.mem_filter, beq_iff_eq] at sameHandle
  exact coherent.eq_of_slot_eq sameHandle.1 present (congrArg SlotHandle.slot sameHandle.2)

/-- The entry that a handle names and those that stay when it goes are all there are. -/
theorem cons_live_erase_perm
    (coherent : ledger.Coherent)
    {entry : Entry α}
    (present : entry ∈ ledger.live) :
    (entry :: (ledger.erase entry.handle).live).Perm ledger.live := by
  have parts := List.filter_append_perm (fun other => other.handle == entry.handle) ledger.live
  rwa [coherent.filter_handle_eq present] at parts

theorem length_live_erase
    (coherent : ledger.Coherent)
    {entry : Entry α}
    (present : entry ∈ ledger.live) :
    (ledger.erase entry.handle).live.length + 1 = ledger.live.length :=
  (coherent.cons_live_erase_perm present).length_eq

/-- Departures keep a ledger coherent. -/
theorem departWhere
    (coherent : ledger.Coherent)
    (leaves : Entry α → Bool) :
    (ledger.departWhere leaves).Coherent where
  order_nodup :=
    ((ledger.issued_departWhere leaves).map Entry.order).nodup_iff.mpr coherent.order_nodup
  order_lt entry present := by
    rw [inserted_departWhere]
    exact coherent.order_lt entry ((ledger.issued_departWhere leaves).mem_iff.mp present)
  slot_nodup := coherent.slot_nodup.sublist (List.filter_sublist.map _)
  live_generation entry present := by
    obtain ⟨entryLive, stays⟩ := (mem_live_departWhere ..).mp present
    rw [coherent.live_generation entry entryLive, timesEmptied_departWhere_of_staying]
    intro other otherLive otherLeaves sameSlot
    rw [coherent.eq_of_slot_eq otherLive entryLive sameSlot, stays] at otherLeaves
    cases otherLeaves
  departed_generation slot index entry found := by
    rw [departuresFrom_departWhere, List.getElem?_append] at found
    split at found
    next => exact coherent.departed_generation slot index entry found
    next isNew =>
      have leaving := List.mem_of_getElem? found
      simp only [List.mem_filter, beq_iff_eq] at leaving
      obtain ⟨⟨entryLive, entryLeaves⟩, rfl⟩ := leaving
      rw [coherent.leaving_eq_singleton entryLive entryLeaves, List.getElem?_singleton] at found
      split at found
      next atEnd =>
        have index_eq : index = ledger.timesEmptied entry.handle.slot := by
          unfold timesEmptied
          omega
        rw [coherent.live_generation entry entryLive, index_eq]
      next => cases found

/-- An entry that left a slot was one of the departures from it, and its generation says which. -/
theorem departed_index
    (coherent : ledger.Coherent)
    {entry : Entry α}
    (departed : entry ∈ ledger.departed) :
    ∃ index, (ledger.departuresFrom entry.handle.slot)[index]? = some entry ∧
      index < ledger.timesEmptied entry.handle.slot ∧
      entry.handle.generation = UInt32.ofNat index := by
  have isDeparture : entry ∈ ledger.departuresFrom entry.handle.slot := by
    simpa [departuresFrom] using departed
  obtain ⟨index, found⟩ := List.mem_iff_getElem?.mp isDeparture
  exact ⟨index, found, (List.getElem?_eq_some_iff.mp found).1,
    coherent.departed_generation _ _ _ found⟩

end Coherent

/-- Numbers that a 32-bit number can count are told apart by it. -/
theorem generation_injective
    {index other : Nat}
    (index_lt : index < 2 ^ 32)
    (other_lt : other < 2 ^ 32)
    (equal : UInt32.ofNat index = UInt32.ofNat other) :
    index = other := by
  have sameNumber := congrArg UInt32.toNat equal
  rw [UInt32.toNat_ofNat', UInt32.toNat_ofNat'] at sameNumber
  rwa [Nat.mod_eq_of_lt index_lt, Nat.mod_eq_of_lt other_lt] at sameNumber

namespace Coherent

variable {ledger : Ledger α}

/-- An entry that has left shares no handle with one that is in the store. -/
theorem handle_ne_of_departed
    (coherent : ledger.Coherent)
    {entry other : Entry α}
    (few : ledger.timesEmptied other.handle.slot < 2 ^ 32)
    (departed : entry ∈ ledger.departed)
    (live : other ∈ ledger.live) :
    entry.handle ≠ other.handle := by
  intro sameHandle
  obtain ⟨index, -, index_lt, generation_eq⟩ := coherent.departed_index departed
  rw [sameHandle] at index_lt generation_eq
  rw [coherent.live_generation other live] at generation_eq
  have equal := generation_injective few (Nat.lt_trans index_lt few) generation_eq
  exact Nat.ne_of_lt index_lt equal.symm

/-- Handles tell the entries of a ledger apart as long as no slot was emptied too often. -/
theorem eq_of_handle_eq
    (coherent : ledger.Coherent)
    (bounds : ledger.WithinBounds)
    {entry other : Entry α}
    (entryIssued : entry ∈ ledger.issued)
    (otherIssued : other ∈ ledger.issued)
    (sameHandle : entry.handle = other.handle) :
    entry = other := by
  rw [mem_issued] at entryIssued otherIssued
  rcases entryIssued with entryDeparted | entryLive <;>
    rcases otherIssued with otherDeparted | otherLive
  · obtain ⟨index, found, index_lt, generation_eq⟩ := coherent.departed_index entryDeparted
    obtain ⟨otherIndex, otherFound, otherIndex_lt, otherGeneration_eq⟩ :=
      coherent.departed_index otherDeparted
    rw [sameHandle] at found index_lt generation_eq
    have few := bounds.timesEmptied_lt other.handle.slot
    obtain rfl : index = otherIndex :=
      generation_injective (Nat.lt_trans index_lt few) (Nat.lt_trans otherIndex_lt few)
        (generation_eq.symm.trans otherGeneration_eq)
    exact Option.some.inj (found.symm.trans otherFound)
  · exact absurd sameHandle
      (coherent.handle_ne_of_departed (bounds.timesEmptied_lt _) entryDeparted otherLive)
  · exact absurd sameHandle.symm
      (coherent.handle_ne_of_departed (bounds.timesEmptied_lt _) otherDeparted entryLive)
  · exact coherent.eq_of_slot_eq entryLive otherLive (congrArg SlotHandle.slot sameHandle)

/-- Within bounds a coherent ledger is legible. -/
theorem legible
    (coherent : ledger.Coherent)
    (bounds : ledger.WithinBounds) :
    ledger.Legible where
  inserted_lt := bounds.inserted_lt
  eq_of_handle_eq _ issued _ live sameHandle :=
    coherent.eq_of_handle_eq bounds issued (mem_issued_of_live live) sameHandle

/-- An entry in the store has been there ever since it was taken. -/
theorem live_of_extends
    (coherent : ledger.Coherent)
    {earlier between : Ledger α}
    (taken : earlier.Extends between)
    (stayed : between.Extends ledger)
    {entry : Entry α}
    (issued : entry ∈ earlier.issued)
    (live : entry ∈ ledger.live) :
    entry ∈ between.live := by
  rcases (mem_issued ..).mp (taken.issued_subset issued) with departed | stillLive
  · exact absurd (stayed.departed_sublist.subset departed) (coherent.not_departed_of_live live)
  · exact stillLive

end Coherent

end Ledger
end Agenda
