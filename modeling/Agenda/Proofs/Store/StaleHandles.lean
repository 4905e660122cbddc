import Agenda.Proofs.Store.Refinement

/-!
# Stale handles

A handle goes stale when its entry leaves the store.  The generation of its slot has gone up by
then, and it comes round to that of the handle again only when the slot has been emptied 2^32
times since the entry was put into it.  Until then a stale handle names nothing, takes nothing
out, and is not given to any other entry, however long the sequence of calls is.

The limit is sharp: at the 2^32nd emptying the slot is back at the generation of the old handle,
and the next entry in the slot gets this handle and is taken out by it.
-/

namespace Agenda

variable {α : Type}

namespace StoreCall

variable {σ : Type → Type} [OrderedStore σ]

/-- What has become of a store after calls. -/
def after (calls : List (StoreCall α)) (store : σ α) : σ α :=
  calls.foldl (fun next call => (call.answer next).2) store

@[simp] theorem after_nil (store : σ α) : after [] store = store := rfl

@[simp] theorem after_cons (call : StoreCall α) (calls : List (StoreCall α)) (store : σ α) :
    after (call :: calls) store = after calls (call.answer store).2 := rfl

@[simp] theorem after_append (calls later : List (StoreCall α)) (store : σ α) :
    after (calls ++ later) store = after later (after calls store) :=
  List.foldl_append

theorem answers_append (calls later : List (StoreCall α)) (store : σ α) :
    answers (calls ++ later) store = answers calls store ++ answers later (after calls store) := by
  induction calls generalizing store with
  | nil => simp [answers]
  | cons call calls inductionHypothesis => simp [answers, inductionHypothesis]

/-- An answer is given to one of the calls, after those before it. -/
theorem exists_call_of_mem_answers
    {calls : List (StoreCall α)}
    {store : σ α}
    {answered : CallAnswer α}
    (present : answered ∈ answers calls store) :
    ∃ earlier call later, calls = earlier ++ call :: later ∧
      (call.answer (after earlier store)).1 = answered := by
  induction calls generalizing store with
  | nil => cases present
  | cons call calls inductionHypothesis =>
      rw [answers, List.mem_cons] at present
      rcases present with rfl | inLater
      · exact ⟨[], call, calls, rfl, rfl⟩
      · obtain ⟨earlier, found, later, rfl, answer_eq⟩ := inductionHypothesis inLater
        exact ⟨call :: earlier, found, later, rfl, answer_eq⟩

end StoreCall

open StoreCall

namespace SlotStore

variable {store : SlotStore α} {ledger : Ledger α}

theorem emptyings_append (slot : Nat) (calls later : List (StoreCall α)) (store : SlotStore α) :
    emptyings slot (calls ++ later) store =
      emptyings slot calls store + emptyings slot later (after calls store) := by
  induction calls generalizing store with
  | nil => exact (Nat.zero_add _).symm
  | cons call calls inductionHypothesis =>
      rw [List.cons_append, emptyings, inductionHypothesis, emptyings, after_cons, Nat.add_assoc]

/-! ## What a slot shows of its past -/

theorem exists_represents_after
    (represents : store.Represents ledger)
    (calls : List (StoreCall α)) :
    ∃ last : Ledger α, (after calls store).Represents last ∧
      ∀ slot, last.timesEmptied slot = ledger.timesEmptied slot + emptyings slot calls store := by
  induction calls generalizing store ledger with
  | nil => exact ⟨ledger, represents, fun _ => rfl⟩
  | cons call calls inductionHypothesis =>
      obtain ⟨next, follows⟩ := exists_follows represents call
      obtain ⟨last, last_represents, timesEmptied_eq⟩ := inductionHypothesis follows.represents
      refine ⟨last, last_represents, fun slot => ?_⟩
      rw [timesEmptied_eq, follows.timesEmptied_eq, emptyings, Nat.add_assoc]

/-- The generation of a slot goes up whenever the slot is emptied, and at no other time. -/
theorem generationAt_after
    (represents : store.Represents ledger)
    (calls : List (StoreCall α))
    (slot : Nat) :
    (after calls store).generationAt slot =
      store.generationAt slot + UInt32.ofNat (emptyings slot calls store) := by
  obtain ⟨last, last_represents, timesEmptied_eq⟩ := exists_represents_after represents calls
  rw [last_represents.holds.generation_eq, represents.holds.generation_eq, timesEmptied_eq,
    UInt32.ofNat_add]

/-- A slot that is not emptied keeps a content. -/
theorem isSome_contentAt_after
    {slot : Nat}
    (occupied : (store.contentAt slot).isSome = true)
    {calls : List (StoreCall α)}
    (neverEmptied : emptyings slot calls store = 0) :
    ((after calls store).contentAt slot).isSome = true := by
  induction calls generalizing store with
  | nil => exact occupied
  | cons call calls inductionHypothesis =>
      rw [emptyings, Nat.add_eq_zero_iff] at neverEmptied
      refine inductionHypothesis ?_ neverEmptied.2
      have notEmptied := neverEmptied.1
      rw [emptied, occupied, Bool.true_and] at notEmptied
      cases content : (call.answer store).2.contentAt slot with
      | some value => rfl
      | none =>
          rw [content] at notEmptied
          cases notEmptied

theorem contains_iff_generationAt (store : SlotStore α) (handle : SlotHandle) :
    store.contains handle = true ↔
      store.generationAt handle.slot = handle.generation ∧
        (store.contentAt handle.slot).isSome = true := by
  rw [contains, Option.isSome_iff_exists]
  simp only [get?_eq_some_iff]
  rw [exists_and_left, Option.isSome_iff_exists]

private theorem add_ofNat_eq_self_iff (generation : UInt32) (rounds : Nat) :
    generation + UInt32.ofNat rounds = generation ↔ 2 ^ 32 ∣ rounds := by
  rw [← UInt32.toNat_inj, UInt32.toNat_add, UInt32.toNat_ofNat']
  have generation_lt := generation.toNat_lt
  omega

/-- A handle that names an entry names one again exactly if its slot is occupied and has been
emptied a multiple of 2^32 times since. -/
theorem contains_after_iff
    (represents : store.Represents ledger)
    {handle : SlotHandle}
    (known : store.contains handle = true)
    (calls : List (StoreCall α)) :
    (after calls store).contains handle = true ↔
      2 ^ 32 ∣ emptyings handle.slot calls store ∧
        ((after calls store).contentAt handle.slot).isSome = true := by
  rw [contains_iff_generationAt] at known
  rw [contains_iff_generationAt, generationAt_after represents, known.1, add_ofNat_eq_self_iff]

/-- A handle names the entry under it for as long as the slot is not emptied. -/
theorem contains_after_of_emptyings_eq_zero
    (represents : store.Represents ledger)
    {handle : SlotHandle}
    (known : store.contains handle = true)
    {calls : List (StoreCall α)}
    (neverEmptied : emptyings handle.slot calls store = 0) :
    (after calls store).contains handle = true := by
  rw [contains_after_iff represents known, neverEmptied]
  exact ⟨Nat.dvd_zero _,
    isSome_contentAt_after ((contains_iff_generationAt _ _).mp known).2 neverEmptied⟩

/-- A handle that has gone stale names nothing until its slot has been emptied 2^32 times. -/
theorem contains_eq_false_of_stale
    (represents : store.Represents ledger)
    {handle : SlotHandle}
    {left later : List (StoreCall α)}
    (known : store.contains handle = true)
    (stale : (after left store).contains handle = false)
    (few : emptyings handle.slot (left ++ later) store < 2 ^ 32) :
    (after (left ++ later) store).contains handle = false := by
  have hasLeft : emptyings handle.slot left store ≠ 0 := by
    intro neverEmptied
    rw [contains_after_of_emptyings_eq_zero represents known neverEmptied] at stale
    cases stale
  rw [← Bool.not_eq_true, contains_after_iff represents known]
  rintro ⟨comesRound, -⟩
  rw [emptyings_append] at comesRound few
  have emptied_pos : 0 < emptyings handle.slot left store := Nat.pos_of_ne_zero hasLeft
  exact absurd (Nat.le_of_dvd (Nat.add_pos_left emptied_pos _) comesRound) (Nat.not_le_of_lt few)

theorem remove_of_not_contains
    {handle : SlotHandle}
    (unknown : store.contains handle = false) :
    store.remove handle = (none, store) := by
  rw [contains, Option.isSome_eq_false_iff, Option.isNone_iff_eq_none] at unknown
  rw [remove, unknown]

theorem Represents.contains_of_inserted
    (represents : store.Represents ledger)
    {call : StoreCall α}
    {handle : SlotHandle}
    (answer_eq : (call.answer store).1 = .inserted (.ok handle)) :
    (call.answer store).2.contains handle = true := by
  cases call with
  | insert due value =>
      rcases inserted : store.insert due value with ⟨result, next⟩
      have call_eq : StoreCall.answer store (.insert due value) = (.inserted result, next) := by
        simp only [StoreCall.answer, OrderedStore.insert, inserted]
      rw [call_eq] at answer_eq ⊢
      cases answer_eq
      have isNew : ledger.newEntry handle due value ∈ (ledger.add handle due value).live := by
        rw [Ledger.live_add]
        exact List.mem_append_right _ List.mem_cons_self
      exact (represents.of_insert_ok inserted).contains_of_live isNew
  | peek | remove | contains | size | isEmpty | removeAll => cases answer_eq

/-! ## Runs of calls -/

/-- Once the entry that a handle names has left a store, the handle names nothing, takes nothing
out and is not given to a new entry, as long as its slot has been emptied fewer than 2^32 times
since the entry was in it. -/
theorem stale_handle_is_refused
    (limit : Option Nat)
    (earlier left later : List (StoreCall α))
    (handle : SlotHandle)
    (known : (after earlier (empty limit : SlotStore α)).contains handle = true)
    (stale : (after (earlier ++ left) (empty limit : SlotStore α)).contains handle = false)
    (few : emptyings handle.slot (left ++ later) (after earlier (empty limit)) < 2 ^ 32) :
    let store : SlotStore α := after (earlier ++ left ++ later) (empty limit)
    store.contains handle = false ∧
      store.remove handle = (none, store) ∧
      ∀ answered ∈ answers later (after (earlier ++ left) (empty limit : SlotStore α)),
        answered ≠ .inserted (.ok handle) := by
  obtain ⟨ledger, represents, -⟩ :=
    exists_represents_after (represents_empty (α := α) limit) earlier
  rw [after_append] at stale
  have refused : ∀ next, emptyings handle.slot (left ++ next) (after earlier (empty limit)) <
      2 ^ 32 → (after (earlier ++ left ++ next) (empty limit : SlotStore α)).contains handle =
        false := by
    intro next fewEmptyings
    rw [List.append_assoc, after_append]
    exact contains_eq_false_of_stale represents known stale fewEmptyings
  refine ⟨refused later few, remove_of_not_contains (refused later few), ?_⟩
  rintro answered present rfl
  obtain ⟨front, call, back, rfl, answer_eq⟩ := exists_call_of_mem_answers present
  have fewBefore : emptyings handle.slot (left ++ (front ++ [call]))
      (after earlier (empty limit)) < 2 ^ 32 := by
    have split : left ++ (front ++ call :: back) = left ++ (front ++ [call]) ++ back := by simp
    rw [split, emptyings_append] at few
    exact Nat.lt_of_le_of_lt (Nat.le_add_right _ _) few
  obtain ⟨reached, reached_represents, -⟩ :=
    exists_represents_after (represents_empty (α := α) limit) (earlier ++ left ++ front)
  rw [← after_append] at answer_eq
  have named := reached_represents.contains_of_inserted answer_eq
  have unnamed := refused (front ++ [call]) fewBefore
  rw [← List.append_assoc, after_append] at unnamed
  rw [after_cons, after_nil, named] at unnamed
  cases unnamed

theorem stale_handle_is_refused_slotReuse :
    let earlier : List (StoreCall Char) := [.insert 5000 'a', .insert 3000 'b', .peek]
    let left : List (StoreCall Char) := [.insert 1000 'c', .remove ⟨1, 0⟩]
    let later : List (StoreCall Char) := [.insert 4000 'd', .remove ⟨1, 1⟩, .insert 2000 'e']
    (after earlier (empty (some 3) : SlotStore Char)).contains ⟨1, 0⟩ = true ∧
      (after (earlier ++ left) (empty (some 3) : SlotStore Char)).contains ⟨1, 0⟩ = false ∧
      emptyings 1 (left ++ later) (after earlier (empty (some 3))) < 2 ^ 32 ∧
      let store : SlotStore Char := after (earlier ++ left ++ later) (empty (some 3))
      store.contains ⟨1, 2⟩ = true ∧ store.contains ⟨1, 0⟩ = false ∧
        store.remove ⟨1, 0⟩ = (none, store) := by
  intro earlier left later
  have known : (after earlier (empty (some 3) : SlotStore Char)).contains ⟨1, 0⟩ = true := by
    decide +kernel
  have stale : (after (earlier ++ left) (empty (some 3) : SlotStore Char)).contains ⟨1, 0⟩ =
      false := by
    decide +kernel
  have few : emptyings 1 (left ++ later) (after earlier (empty (some 3))) < 2 ^ 32 :=
    Nat.lt_of_le_of_lt (emptyings_le_length _ _ _) (by decide)
  obtain ⟨unknown, takesNothing, -⟩ :=
    stale_handle_is_refused (some 3) earlier left later ⟨1, 0⟩ known stale few
  exact ⟨known, stale, few, by decide +kernel, unknown, takesNothing⟩

/-! ## Coming round -/

/-- Take a value into the first slot and out of it again, time after time, from a generation
on. -/
def reuse (first rounds : Nat) : List (StoreCall Char) :=
  (List.range' first rounds).flatMap fun round =>
    [.insert 0 'a', .remove ⟨0, UInt32.ofNat round⟩]

/-- The store has made one slot, which is empty, and has no limit. -/
structure OnlyVacant (store : SlotStore Char) (generation : UInt32) : Prop where
  /-- The slot is empty. -/
  slots_eq : store.slots = #[⟨generation, none⟩]
  /-- The slot is free. -/
  free_eq : store.free = [0]
  /-- There is no limit. -/
  limit_eq : store.limit = none

namespace OnlyVacant

variable {store : SlotStore Char} {generation : UInt32}

theorem insert_eq (vacant : OnlyVacant store generation) (due : Instant) (value : Char) :
    ∃ next, store.insert due value = (.ok ⟨0, generation⟩, next) ∧
      next.slots = #[⟨generation, some value⟩] ∧ next.free = [] ∧ next.limit = none := by
  have room : store.isFull = false := by rw [isFull, vacant.limit_eq]
  have occupy_eq : store.occupy value = (⟨0, generation⟩,
      { store with
        slots := #[⟨generation, some value⟩]
        free := []
        size := store.size + 1 }) := by
    rw [occupy, vacant.free_eq]
    simp [vacant.slots_eq]
  refine ⟨(store.occupy value).2.enqueue due ⟨0, generation⟩, ?_, ?_, ?_, ?_⟩
  · rw [insert_of_not_isFull room, occupy_eq]
  all_goals rw [occupy_eq, enqueue]
  exact vacant.limit_eq

theorem remove
    {value : Char}
    (slots_eq : store.slots = #[⟨generation, some value⟩])
    (free_eq : store.free = [])
    (limit_eq : store.limit = none) :
    (store.remove ⟨0, generation⟩).1 = some value ∧
      OnlyVacant (store.remove ⟨0, generation⟩).2 (generation + 1) := by
  have named : store.get? ⟨0, generation⟩ = some value := by simp [get?, slots_eq]
  have kept : ∀ next : SlotStore Char, next.compact.slots = next.slots ∧
      next.compact.free = next.free := by
    intro next
    unfold compact
    split <;> exact ⟨rfl, rfl⟩
  rw [SlotStore.remove, named]
  refine ⟨rfl, ?_, ?_, ?_⟩
  · rw [(kept _).1]
    simp [vacate, slots_eq]
  · rw [(kept _).2]
    simp [vacate, free_eq]
  · have unlimited := limit_remove store ⟨0, generation⟩
    rwa [SlotStore.remove, named, limit_eq] at unlimited

theorem after_reuse
    {first : Nat}
    (vacant : OnlyVacant store (UInt32.ofNat first))
    (rounds : Nat) :
    OnlyVacant (after (reuse first rounds) store) (UInt32.ofNat (first + rounds)) := by
  induction rounds generalizing first store with
  | zero => exact vacant
  | succ rounds inductionHypothesis =>
      obtain ⟨next, inserted, slots_eq, free_eq, limit_eq⟩ := vacant.insert_eq 0 'a'
      have emptied := (remove slots_eq free_eq limit_eq).2
      rw [show UInt32.ofNat first + 1 = UInt32.ofNat (first + 1) from
        (UInt32.ofNat_add first 1).symm] at emptied
      have unfolded : reuse first (rounds + 1) =
          [.insert 0 'a', .remove ⟨0, UInt32.ofNat first⟩] ++ reuse (first + 1) rounds := by
        rw [reuse, List.range'_succ, List.flatMap_cons, reuse]
      have twoCalls : after [.insert 0 'a', .remove ⟨0, UInt32.ofNat first⟩] store =
          (next.remove ⟨0, UInt32.ofNat first⟩).2 := by
        simp only [after_cons, after_nil, answer, OrderedStore.insert, OrderedStore.remove,
          inserted]
      rw [unfolded, after_append, twoCalls, Nat.add_comm rounds 1, ← Nat.add_assoc]
      exact inductionHypothesis emptied

/-- After so many rounds the slot gives out the handle of the generation reached. -/
theorem comes_round
    {first : Nat}
    (vacant : OnlyVacant store (UInt32.ofNat first))
    (rounds : Nat)
    (value : Char) :
    let handle : SlotHandle := ⟨0, UInt32.ofNat (first + rounds)⟩
    let calls := reuse first rounds ++ [.insert 0 value]
    (after calls store).contains handle = true ∧
      ((after calls store).remove handle).1 = some value ∧
      .inserted (.ok handle) ∈ answers calls store := by
  obtain ⟨next, inserted, slots_eq, free_eq, limit_eq⟩ :=
    (vacant.after_reuse rounds).insert_eq 0 value
  have answer_eq : (StoreCall.insert 0 value).answer (after (reuse first rounds) store) =
      (.inserted (.ok ⟨0, UInt32.ofNat (first + rounds)⟩), next) := by
    simp only [answer, OrderedStore.insert, inserted]
  simp only [after_append, after_cons, after_nil, answers_append, answers, answer_eq]
  refine ⟨?_, (OnlyVacant.remove slots_eq free_eq limit_eq).1, ?_⟩
  · rw [contains_iff_generationAt]
    simp [generationAt, contentAt, slots_eq]
  · exact List.mem_append_right _ List.mem_cons_self

end OnlyVacant

/-- An entry leaves, and after its slot has been emptied 2^32 times in all, its handle is given to
another entry and takes this one out. -/
theorem stale_handle_comes_back :
    let earlier : List (StoreCall Char) := [.insert 0 'a']
    let left : List (StoreCall Char) := [.remove ⟨0, 0⟩]
    let later : List (StoreCall Char) := reuse 1 (2 ^ 32 - 1) ++ [.insert 0 'b']
    (after earlier (empty none : SlotStore Char)).contains ⟨0, 0⟩ = true ∧
      (after (earlier ++ left) (empty none : SlotStore Char)).contains ⟨0, 0⟩ = false ∧
      let store : SlotStore Char := after (earlier ++ left ++ later) (empty none)
      store.contains ⟨0, 0⟩ = true ∧ (store.remove ⟨0, 0⟩).1 = some 'b' ∧
        .inserted (.ok ⟨0, 0⟩) ∈
          answers later (after (earlier ++ left) (empty none : SlotStore Char)) := by
  intro earlier left later
  have vacant : OnlyVacant (after (earlier ++ left) (empty none)) (UInt32.ofNat 1) :=
    ⟨rfl, rfl, rfl⟩
  have comesRound := vacant.comes_round (2 ^ 32 - 1) 'b'
  rw [show UInt32.ofNat (1 + (2 ^ 32 - 1)) = 0 by decide +kernel] at comesRound
  refine ⟨by decide +kernel, by decide +kernel, ?_⟩
  rw [after_append]
  exact comesRound

end SlotStore
end Agenda
