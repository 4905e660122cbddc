import Agenda.Proofs.Store.Representation

/-!
# Slot stores answer like ledgers

The calls that can be made to a store are data here, and so are its answers.  A ledger says
which answers are right: the earliest entry is found by comparing all entries, a handle is looked
up among all of them, and a new handle is one that was never given out.  Every sequence of calls
to an empty slot store is answered as a ledger demands, as long as fewer than 2^64 values are
taken and no slot is emptied 2^32 times.
-/

namespace Agenda

variable {α : Type}

/-- A call to a store. -/
inductive StoreCall (α : Type) where
  /-- Store a value under its due instant. -/
  | insert (due : Instant) (value : α)
  /-- Look at the earliest entry. -/
  | peek
  /-- Take out the entry that a handle names. -/
  | remove (handle : SlotHandle)
  /-- Does a handle name an entry? -/
  | contains (handle : SlotHandle)
  /-- How many entries are there? -/
  | size
  /-- Is there no entry? -/
  | isEmpty
  /-- Take out every entry. -/
  | removeAll

/-- What a store answers. -/
inductive CallAnswer (α : Type) where
  /-- The handle of a new entry, or the refused value. -/
  | inserted (result : Except (Refused α) SlotHandle)
  /-- The handle and the due instant of the earliest entry. -/
  | earliest (found : Option (SlotHandle × Instant))
  /-- The value taken out. -/
  | removed (value : Option α)
  /-- Yes or no. -/
  | truth (answer : Bool)
  /-- A number of entries. -/
  | count (number : Nat)
  /-- The values taken out. -/
  | values (values : List α)

namespace CallAnswer

/-- Whether a value was taken. -/
def isInsertion : CallAnswer α → Bool
  | inserted (.ok _) => true
  | _ => false

end CallAnswer

namespace StoreCall

variable {σ : Type → Type} [OrderedStore σ]

/-- Make a call. -/
def answer (store : σ α) : StoreCall α → CallAnswer α × σ α
  | insert due value =>
      let (result, next) := OrderedStore.insert store due value
      (.inserted result, next)
  | peek =>
      let (found, next) := OrderedStore.peek store
      (.earliest found, next)
  | remove handle =>
      let (value, next) := OrderedStore.remove store handle
      (.removed value, next)
  | contains handle => (.truth (OrderedStore.contains store handle), store)
  | size => (.count (OrderedStore.size store), store)
  | isEmpty => (.truth (OrderedStore.isEmpty store), store)
  | removeAll =>
      let (values, next) := OrderedStore.removeAll store
      (.values values, next)

/-- Make calls, one after another. -/
def answers : List (StoreCall α) → σ α → List (CallAnswer α)
  | [], _ => []
  | call :: calls, store => (call.answer store).1 :: answers calls (call.answer store).2

theorem length_answers (calls : List (StoreCall α)) (store : σ α) :
    (answers calls store).length = calls.length := by
  induction calls generalizing store with
  | nil => rfl
  | cons call calls inductionHypothesis =>
      rw [answers, List.length_cons, List.length_cons, inductionHypothesis]

end StoreCall

namespace Ledger

/-- What a call is answered with, and what is left, where nothing but a ledger is kept. -/
inductive Answers (limit : Option Nat) :
    Ledger α → StoreCall α → CallAnswer α → Ledger α → Prop where
  /-- A value is given back when there are as many entries as allowed. -/
  | refused {ledger : Ledger α} {due : Instant} {value : α}
      (full : limit = some ledger.live.length) :
      Answers limit ledger (.insert due value) (.inserted (.error ⟨value, .limitReached⟩)) ledger
  /-- Otherwise it is taken, under a handle that was never given out. -/
  | inserted {ledger : Ledger α} {due : Instant} {value : α} {handle : SlotHandle}
      (room : limit ≠ some ledger.live.length)
      (fresh : ∀ entry ∈ ledger.issued, entry.handle ≠ handle) :
      Answers limit ledger (.insert due value) (.inserted (.ok handle))
        (ledger.add handle due value)
  /-- Without entries none is the earliest. -/
  | nothingEarliest {ledger : Ledger α} (noneLive : ledger.live = []) :
      Answers limit ledger .peek (.earliest none) ledger
  /-- Otherwise the earliest entry is shown. -/
  | earliest {ledger : Ledger α} {entry : Entry α} (isEarliest : ledger.IsEarliest entry) :
      Answers limit ledger .peek (.earliest (some (entry.handle, entry.due))) ledger
  /-- A handle takes out the entry that it names. -/
  | removed {ledger : Ledger α} {handle : SlotHandle} :
      Answers limit ledger (.remove handle) (.removed ((ledger.find? handle).map Entry.value))
        (ledger.erase handle)
  /-- A handle is known as long as its entry is there. -/
  | contains {ledger : Ledger α} {handle : SlotHandle} :
      Answers limit ledger (.contains handle) (.truth (ledger.find? handle).isSome) ledger
  /-- The entries are counted. -/
  | size {ledger : Ledger α} : Answers limit ledger .size (.count ledger.live.length) ledger
  /-- Whether there is an entry can be asked. -/
  | isEmpty {ledger : Ledger α} :
      Answers limit ledger .isEmpty (.truth ledger.live.isEmpty) ledger
  /-- All values come out in the ascending order of their slots. -/
  | removedAll {ledger : Ledger α} {entries : List (Entry α)}
      (all : entries.Perm ledger.live)
      (ascending : entries.Pairwise fun entry other => entry.handle.slot < other.handle.slot) :
      Answers limit ledger .removeAll (.values (entries.map Entry.value)) ledger.clear

/-- What calls are answered with, one after another. -/
inductive Run (limit : Option Nat) :
    Ledger α → List (StoreCall α) → List (CallAnswer α) → Ledger α → Prop where
  /-- Nothing is called. -/
  | nil {ledger : Ledger α} : Run limit ledger [] [] ledger
  /-- A call comes before others. -/
  | cons {ledger next last : Ledger α} {call : StoreCall α} {answer : CallAnswer α}
      {calls : List (StoreCall α)} {answers : List (CallAnswer α)}
      (first : Answers limit ledger call answer next)
      (rest : Run limit next calls answers last) :
      Run limit ledger (call :: calls) (answer :: answers) last

end Ledger

namespace SlotStore

/-! ## Counting how often a slot is emptied -/

/-- Whether a slot has lost its content between two states of a store. -/
def emptied (store next : SlotStore α) (slot : Nat) : Bool :=
  (store.contentAt slot).isSome && (next.contentAt slot).isNone

/-- How often a slot is emptied while calls are made. -/
def emptyings (slot : Nat) : List (StoreCall α) → SlotStore α → Nat
  | [], _ => 0
  | call :: calls, store =>
      let next := (call.answer store).2
      (emptied store next slot).toNat + emptyings slot calls next

theorem emptyings_le_length (slot : Nat) (calls : List (StoreCall α)) (store : SlotStore α) :
    emptyings slot calls store ≤ calls.length := by
  induction calls generalizing store with
  | nil => exact Nat.le_refl _
  | cons call calls inductionHypothesis =>
      rw [emptyings, List.length_cons, Nat.add_comm]
      exact Nat.add_le_add (inductionHypothesis _) (Bool.toNat_le _)

section Emptied

variable {store next : SlotStore α} {ledger later : Ledger α}

theorem Holds.isSome_contentAt_iff (holds : store.Holds ledger) (slot : Nat) :
    (store.contentAt slot).isSome = true ↔ ∃ entry ∈ ledger.live, entry.handle.slot = slot := by
  rw [Option.isSome_iff_exists]
  simp only [holds.content_iff]
  constructor
  · rintro ⟨value, entry, present, slot_eq, -⟩
    exact ⟨entry, present, slot_eq⟩
  · rintro ⟨entry, present, slot_eq⟩
    exact ⟨entry.value, entry, present, slot_eq, rfl⟩

theorem Holds.emptied_iff
    (before : store.Holds ledger)
    (after : next.Holds later)
    (slot : Nat) :
    emptied store next slot = true ↔
      (∃ entry ∈ ledger.live, entry.handle.slot = slot) ∧
        ¬ ∃ entry ∈ later.live, entry.handle.slot = slot := by
  rw [emptied, Bool.and_eq_true, before.isSome_contentAt_iff, ← after.isSome_contentAt_iff,
    Option.isNone_iff_eq_none, Option.not_isSome_iff_eq_none]

theorem Holds.emptied_eq_false
    (before : store.Holds ledger)
    (after : next.Holds later)
    (stays : ledger.live ⊆ later.live)
    (slot : Nat) :
    emptied store next slot = false := by
  rw [← Bool.not_eq_true, before.emptied_iff after]
  rintro ⟨⟨entry, present, slot_eq⟩, goneAfter⟩
  exact goneAfter ⟨entry, stays present, slot_eq⟩

/-- Departures empty exactly the slots that are seen to be emptied. -/
theorem Holds.timesEmptied_departWhere
    (before : store.Holds ledger)
    {leaves : Entry α → Bool}
    (after : next.Holds (ledger.departWhere leaves))
    (slot : Nat) :
    (ledger.departWhere leaves).timesEmptied slot =
      ledger.timesEmptied slot + (emptied store next slot).toNat := by
  by_cases leaving : ∃ entry ∈ ledger.live, leaves entry = true ∧ entry.handle.slot = slot
  · obtain ⟨entry, present, entryLeaves, rfl⟩ := leaving
    have isEmptied : emptied store next entry.handle.slot = true := by
      rw [before.emptied_iff after]
      refine ⟨⟨entry, present, rfl⟩, ?_⟩
      rintro ⟨other, otherStays, sameSlot⟩
      obtain ⟨otherLive, stays⟩ := (ledger.mem_live_departWhere leaves other).mp otherStays
      rw [before.coherent.eq_of_slot_eq otherLive present sameSlot, entryLeaves] at stays
      cases stays
    rw [before.coherent.timesEmptied_departWhere_of_leaving present entryLeaves, isEmptied]
    rfl
  · have notEmptied : emptied store next slot = false := by
      rw [← Bool.not_eq_true, before.emptied_iff after]
      rintro ⟨⟨entry, present, slot_eq⟩, goneAfter⟩
      cases entryLeaves : leaves entry with
      | true => exact leaving ⟨entry, present, entryLeaves, slot_eq⟩
      | false =>
          exact goneAfter ⟨entry, (ledger.mem_live_departWhere leaves entry).mpr
            ⟨present, entryLeaves⟩, slot_eq⟩
    rw [notEmptied, Ledger.timesEmptied_departWhere_of_staying]
    · rfl
    · exact fun entry present entryLeaves slot_eq =>
        leaving ⟨entry, present, entryLeaves, slot_eq⟩

end Emptied

/-! ## One call -/

/-- A call takes a store and its ledger to a next state, and the answer is the ledger's. -/
structure Follows
    (store : SlotStore α)
    (ledger : Ledger α)
    (call : StoreCall α)
    (later : Ledger α) : Prop where
  /-- The store afterwards represents the ledger afterwards. -/
  represents : (call.answer store).2.Represents later
  /-- The ledger has grown. -/
  extension : ledger.Extends later
  /-- The limit is the same. -/
  limit_eq : (call.answer store).2.limit = store.limit
  /-- An entry was added if the answer says so. -/
  inserted_eq :
    later.inserted = ledger.inserted + (call.answer store).1.isInsertion.toNat
  /-- Slots were emptied as the states show. -/
  timesEmptied_eq : ∀ slot, later.timesEmptied slot =
    ledger.timesEmptied slot + (emptied store (call.answer store).2 slot).toNat
  /-- Within bounds the answer is right. -/
  answers : later.WithinBounds →
    Ledger.Answers store.limit ledger call (call.answer store).1 later

section Calls

variable {store : SlotStore α} {ledger : Ledger α}

/-- A call after which the store represents the same ledger. -/
private theorem follows_of_same
    (represents : store.Represents ledger)
    {call : StoreCall α}
    (after : (call.answer store).2.Represents ledger)
    (limit_eq : (call.answer store).2.limit = store.limit)
    (noInsertion : (call.answer store).1.isInsertion = false)
    (answers : ledger.WithinBounds →
      Ledger.Answers store.limit ledger call (call.answer store).1 ledger) :
    Follows store ledger call ledger where
  represents := after
  extension := .refl ledger
  limit_eq := limit_eq
  inserted_eq := by
    rw [noInsertion]
    rfl
  timesEmptied_eq slot := by
    rw [represents.holds.emptied_eq_false after.holds (fun _ present => present)]
    rfl
  answers := answers

/-- A call after which some entries have left. -/
private theorem follows_of_departWhere
    (represents : store.Represents ledger)
    {call : StoreCall α}
    {leaves : Entry α → Bool}
    (after : (call.answer store).2.Represents (ledger.departWhere leaves))
    (limit_eq : (call.answer store).2.limit = store.limit)
    (noInsertion : (call.answer store).1.isInsertion = false)
    (answers : Ledger.Answers store.limit ledger call (call.answer store).1
      (ledger.departWhere leaves)) :
    Follows store ledger call (ledger.departWhere leaves) where
  represents := after
  extension := ledger.extends_departWhere leaves
  limit_eq := limit_eq
  inserted_eq := by
    rw [noInsertion, Ledger.inserted_departWhere]
    rfl
  timesEmptied_eq := represents.holds.timesEmptied_departWhere after.holds
  answers _ := answers

private theorem follows_insert
    (represents : store.Represents ledger)
    (due : Instant)
    (value : α) :
    ∃ later, Follows store ledger (.insert due value) later := by
  cases inserted : store.insert due value with
  | mk result next =>
      have answer_eq : StoreCall.answer store (.insert due value) = (.inserted result, next) := by
        simp only [StoreCall.answer, OrderedStore.insert, inserted]
      cases result with
      | error refused =>
          obtain ⟨full, rfl, rfl⟩ := represents.of_insert_error inserted
          refine ⟨ledger, follows_of_same represents ?_ ?_ ?_ ?_⟩ <;> rw [answer_eq]
          · exact represents
          · rfl
          · exact fun _ => .refused full
      | ok handle =>
          have after := represents.of_insert_ok inserted
          have next_limit : next.limit = store.limit := by
            rw [← limit_insert store due value, inserted]
          refine ⟨ledger.add handle due value, ?_, ledger.extends_add handle due value,
            ?_, ?_, ?_, ?_⟩ <;> rw [answer_eq]
          · exact after
          · exact next_limit
          · exact ledger.inserted_add handle due value
          · intro slot
            rw [represents.holds.emptied_eq_false after.holds
              (by rw [Ledger.live_add]; exact List.subset_append_left _ _)]
            rfl
          · intro bounds
            refine .inserted ?_ ?_
            · intro full
              rw [insert_of_isFull (represents.isFull_iff.mpr full)] at inserted
              cases inserted
            · intro entry issued sameHandle
              have newIssued : ledger.newEntry handle due value ∈
                  (ledger.add handle due value).issued := by
                rw [Ledger.issued_add]
                exact List.mem_append_right _ List.mem_cons_self
              have equal := after.holds.coherent.eq_of_handle_eq bounds
                ((ledger.extends_add handle due value).issued_subset issued) newIssued sameHandle
              have order_lt := represents.holds.coherent.order_lt entry issued
              rw [equal] at order_lt
              exact Nat.lt_irrefl _ order_lt

private theorem follows_peek (represents : store.Represents ledger) :
    Follows store ledger .peek ledger := by
  refine follows_of_same represents represents.peek rfl rfl fun bounds => ?_
  change Ledger.Answers store.limit ledger .peek (.earliest store.peek.1) ledger
  cases found : store.peek.1 with
  | none => exact .nothingEarliest (represents.peek_eq_none_iff.mp found)
  | some pair =>
      obtain ⟨entry, isEarliest, handle_eq, due_eq⟩ := represents.isEarliest_of_peek bounds found
      have pair_eq : pair = (entry.handle, entry.due) := by rw [handle_eq, due_eq]
      exact pair_eq ▸ .earliest isEarliest

private theorem follows_remove (represents : store.Represents ledger) (handle : SlotHandle) :
    Follows store ledger (.remove handle) (ledger.erase handle) := by
  have value_eq : (store.remove handle).1 = (ledger.find? handle).map Entry.value := by
    rw [← represents.holds.get?_eq, remove]
    cases store.get? handle <;> rfl
  refine follows_of_departWhere represents ?_ (limit_remove store handle) rfl ?_
  · change (store.remove handle).2.Represents (ledger.erase handle)
    cases removed : store.remove handle with
    | mk result next =>
        cases result with
        | none =>
            obtain ⟨unknown, rfl⟩ := represents.of_remove_none removed
            rw [Ledger.erase_of_not_live unknown]
            exact represents
        | some value =>
            obtain ⟨_, _, _, _, after⟩ := represents.of_remove_some removed
            exact after
  · change Ledger.Answers store.limit ledger (.remove handle)
      (.removed (store.remove handle).1) (ledger.erase handle)
    rw [value_eq]
    exact .removed

private theorem follows_contains (represents : store.Represents ledger) (handle : SlotHandle) :
    Follows store ledger (.contains handle) ledger := by
  refine follows_of_same represents represents rfl rfl fun _ => ?_
  change Ledger.Answers store.limit ledger (.contains handle)
    (.truth (store.contains handle)) ledger
  rw [SlotStore.contains, represents.holds.get?_eq, Option.isSome_map]
  exact .contains

private theorem follows_size (represents : store.Represents ledger) :
    Follows store ledger .size ledger := by
  refine follows_of_same represents represents rfl rfl fun _ => ?_
  change Ledger.Answers store.limit ledger .size (.count store.size) ledger
  rw [represents.holds.size_eq]
  exact .size

private theorem follows_isEmpty (represents : store.Represents ledger) :
    Follows store ledger .isEmpty ledger := by
  refine follows_of_same represents represents rfl rfl fun _ => ?_
  change Ledger.Answers store.limit ledger .isEmpty (.truth (store.size == 0)) ledger
  have empty_eq : (store.size == 0) = ledger.live.isEmpty := by
    rw [represents.holds.size_eq]
    cases ledger.live <;> rfl
  rw [empty_eq]
  exact .isEmpty

private theorem follows_removeAll (represents : store.Represents ledger) :
    Follows store ledger .removeAll ledger.clear := by
  refine follows_of_departWhere represents represents.removeAll (limit_removeAll store) rfl ?_
  obtain ⟨entries, all, ascending, values_eq⟩ := represents.holds.values_eq_map
  change Ledger.Answers store.limit ledger .removeAll (.values store.values) ledger.clear
  rw [values_eq]
  exact .removedAll all ascending

/-- Every call is answered as the ledger demands. -/
theorem exists_follows (represents : store.Represents ledger) (call : StoreCall α) :
    ∃ later, Follows store ledger call later := by
  cases call with
  | insert due value => exact follows_insert represents due value
  | peek => exact ⟨ledger, follows_peek represents⟩
  | remove handle => exact ⟨_, follows_remove represents handle⟩
  | contains handle => exact ⟨ledger, follows_contains represents handle⟩
  | size => exact ⟨ledger, follows_size represents⟩
  | isEmpty => exact ⟨ledger, follows_isEmpty represents⟩
  | removeAll => exact ⟨_, follows_removeAll represents⟩

/-! ## Sequences of calls -/

/-- A sequence of calls is answered as the ledger demands, if the history stays within bounds. -/
theorem exists_run (represents : store.Represents ledger) (calls : List (StoreCall α)) :
    ∃ last : Ledger α,
      last.inserted = ledger.inserted +
          (StoreCall.answers calls store).countP CallAnswer.isInsertion ∧
        (∀ slot, last.timesEmptied slot = ledger.timesEmptied slot + emptyings slot calls store) ∧
        ledger.Extends last ∧
        (last.WithinBounds →
          Ledger.Run store.limit ledger calls (StoreCall.answers calls store) last) := by
  induction calls generalizing store ledger with
  | nil => exact ⟨ledger, rfl, fun _ => rfl, .refl ledger, fun _ => .nil⟩
  | cons call calls inductionHypothesis =>
      obtain ⟨next, follows⟩ := exists_follows represents call
      obtain ⟨last, inserted_eq, timesEmptied_eq, extension, run⟩ :=
        inductionHypothesis follows.represents
      refine ⟨last, ?_, fun slot => ?_, follows.extension.trans extension, fun bounds => ?_⟩
      · rw [inserted_eq, follows.inserted_eq, StoreCall.answers, List.countP_cons]
        cases (call.answer store).1.isInsertion with
        | false => rfl
        | true =>
            simp only [Bool.toNat_true, if_true]
            omega
      · rw [timesEmptied_eq, follows.timesEmptied_eq, emptyings, Nat.add_assoc]
      · rw [StoreCall.answers]
        rw [follows.limit_eq] at run
        exact .cons (follows.answers (extension.withinBounds bounds)) (run bounds)

end Calls

/-- Every sequence of calls to an empty store is answered as a ledger demands, as long as fewer
than 2^64 values are taken and no slot is emptied 2^32 times. -/
theorem answers_follow_ledger
    (limit : Option Nat)
    (calls : List (StoreCall α))
    (fewInsertions :
      (StoreCall.answers calls (empty limit : SlotStore α)).countP CallAnswer.isInsertion <
        2 ^ 64)
    (fewEmptyings : ∀ slot, emptyings slot calls (empty limit) < 2 ^ 32) :
    ∃ ledger, Ledger.Run limit .empty calls
      (StoreCall.answers calls (empty limit : SlotStore α)) ledger := by
  obtain ⟨last, inserted_eq, timesEmptied_eq, -, run⟩ := exists_run (represents_empty limit) calls
  refine ⟨last, run ⟨?_, fun slot => ?_⟩⟩
  · rw [inserted_eq]
    simpa [Ledger.inserted, Ledger.issued] using fewInsertions
  · rw [timesEmptied_eq]
    simpa [Ledger.timesEmptied, Ledger.departuresFrom] using fewEmptyings slot

/-- Calls among which a value is refused, a slot is used again and a stale handle is offered. -/
def slotReuse : List (StoreCall Char) :=
  [.insert 5000 'a', .insert 3000 'b', .insert 1000 'c', .peek, .remove ⟨1, 0⟩,
    .insert 4000 'd', .remove ⟨1, 0⟩, .contains ⟨1, 1⟩, .peek, .size, .removeAll, .isEmpty]

theorem answers_follow_ledger_slotReuse :
    (StoreCall.answers slotReuse (empty (some 2) : SlotStore Char)).countP
        CallAnswer.isInsertion < 2 ^ 64 ∧
      (∀ slot, emptyings slot slotReuse (empty (some 2)) < 2 ^ 32) ∧
      ∃ ledger, Ledger.Run (some 2) .empty slotReuse
        (StoreCall.answers slotReuse (empty (some 2) : SlotStore Char)) ledger := by
  have fewInsertions :
      (StoreCall.answers slotReuse (empty (some 2) : SlotStore Char)).countP
        CallAnswer.isInsertion < 2 ^ 64 := by
    refine Nat.lt_of_le_of_lt List.countP_le_length ?_
    rw [StoreCall.length_answers]
    decide
  have fewEmptyings : ∀ slot, emptyings slot slotReuse (empty (some 2)) < 2 ^ 32 :=
    fun slot => Nat.lt_of_le_of_lt (emptyings_le_length slot slotReuse _) (by decide)
  exact ⟨fewInsertions, fewEmptyings,
    answers_follow_ledger (some 2) slotReuse fewInsertions fewEmptyings⟩

end SlotStore
end Agenda
