import Agenda.Scheduler.Detached
import Mathlib.Algebra.Group.Nat.Defs
import Mathlib.Data.List.Nodup

/-!
# The numbers of detached items

Detached items are kept under numbers that count the refusals, round a 64-bit number.  As long
as the count does not run over, a number is new when it is given out, so nothing is ever put in
the place of an item that is still kept.
-/

namespace Agenda
namespace DetachedItems

variable {κ D : Type}

private theorem eraseP_eq_filter
    {entries : List (UInt64 × Item κ D)}
    (distinct : (entries.map Prod.fst).Nodup)
    (number : UInt64) :
    (entries.eraseP fun entry => entry.1 == number) =
      entries.filter fun entry => entry.1 != number := by
  induction entries with
  | nil => rfl
  | cons entry rest inductionHypothesis =>
      rw [List.map_cons, List.nodup_cons] at distinct
      by_cases sameNumber : entry.1 = number
      · have othersStay : rest.filter (fun other => other.1 != number) = rest := by
          rw [List.filter_eq_self]
          intro other inRest
          rw [bne_iff_ne]
          intro same
          apply distinct.1
          rw [sameNumber, ← same]
          exact List.mem_map_of_mem inRest
        simp [sameNumber, othersStay]
      · simp [sameNumber, inductionHypothesis distinct.2]

/-! ## Items under other numbers -/

private theorem lookup_eraseP_of_ne
    {entries : List (UInt64 × Item κ D)}
    {number other : UInt64}
    (different : other ≠ number) :
    (entries.eraseP fun entry => entry.1 == number).lookup other = entries.lookup other := by
  induction entries with
  | nil => rfl
  | cons entry rest inductionHypothesis =>
      obtain ⟨kept, item⟩ := entry
      by_cases same : kept = number
      · subst same
        rw [List.eraseP_cons_of_pos (by simp), List.lookup_cons, beq_false_of_ne different]
      · rw [List.eraseP_cons_of_neg (by simpa using same), List.lookup_cons, List.lookup_cons,
          inductionHypothesis]

theorem get?_erase_of_ne
    (table : DetachedItems κ D)
    {number other : UInt64}
    (different : other ≠ number) :
    (table.erase number).get? other = table.get? other := by
  unfold erase
  split
  · exact lookup_eraseP_of_ne different
  · rfl

theorem get?_remove_of_ne
    (table : DetachedItems κ D)
    {number other : UInt64}
    (different : other ≠ number) :
    (table.remove number).2.get? other = table.get? other := by
  unfold remove
  split
  · rfl
  · exact table.get?_erase_of_ne different

theorem get?_add_self (table : DetachedItems κ D) (item : Item κ D) :
    (table.add item).2.get? table.nextNumber = some item :=
  List.lookup_cons_self

theorem get?_add_of_ne
    (table : DetachedItems κ D)
    (item : Item κ D)
    {other : UInt64}
    (different : other ≠ table.nextNumber) :
    (table.add item).2.get? other = table.get? other := by
  rw [← table.get?_erase_of_ne different, get?, add, List.lookup_cons, beq_false_of_ne different]
  rfl

@[simp] theorem nextNumber_remove (table : DetachedItems κ D) (number : UInt64) :
    (table.remove number).2.nextNumber = table.nextNumber := by
  unfold remove erase
  split
  · rfl
  · split <;> rfl

/-! ## Numbers that count the refusals -/

theorem eq_of_remove_none
    {table remaining : DetachedItems κ D}
    {number : UInt64}
    (removed : table.remove number = (none, remaining)) :
    remaining = table := by
  unfold remove at removed
  split at removed
  · cases removed
    rfl
  · cases removed

/-- The numbers in a table are the ones given out so far, and no two items share one. -/
structure Numbered (table : DetachedItems κ D) (count : Nat) : Prop where
  /-- The next number counts the refusals. -/
  nextNumber_eq : table.nextNumber = UInt64.ofNat count
  /-- The numbers in the table were given out before. -/
  number_lt : ∀ entry ∈ table.items, entry.1.toNat < count
  /-- No two items have the same number. -/
  numbers_nodup : (table.items.map Prod.fst).Nodup

theorem numbered_empty : (empty : DetachedItems κ D).Numbered 0 where
  nextNumber_eq := rfl
  number_lt _ present := nomatch present
  numbers_nodup := .nil

namespace Numbered

variable {table : DetachedItems κ D} {count : Nat}

/-- What is found under a number is what is kept there. -/
theorem get?_eq_some_iff
    (numbered : table.Numbered count)
    (number : UInt64)
    (item : Item κ D) :
    table.get? number = some item ↔ (number, item) ∈ table.items := by
  rw [get?, List.lookup_eq_some_iff]
  constructor
  · rintro ⟨front, back, split, -⟩
    rw [split]
    exact List.mem_append_right _ List.mem_cons_self
  · intro present
    obtain ⟨front, back, split⟩ := List.append_of_mem present
    refine ⟨front, back, split, ?_⟩
    intro entry inFront
    have distinct := numbered.numbers_nodup
    rw [split, List.map_append, List.nodup_append] at distinct
    have number_ne := distinct.2.2 entry.1 (List.mem_map_of_mem inFront) number
      (List.mem_map_of_mem List.mem_cons_self)
    simpa using number_ne.symm

/-- Numbers that are still to come are not in the table. -/
theorem get?_nextNumber
    (numbered : table.Numbered count)
    (few : count < 2 ^ 64) :
    table.get? table.nextNumber = none := by
  cases found : table.get? table.nextNumber with
  | none => rfl
  | some item =>
      have present := (numbered.get?_eq_some_iff _ item).mp found
      have number_lt := numbered.number_lt _ present
      rw [numbered.nextNumber_eq, UInt64.toNat_ofNat', Nat.mod_eq_of_lt few] at number_lt
      exact absurd number_lt (Nat.lt_irrefl count)

/-- A refused item is added to the others. -/
theorem items_add
    (numbered : table.Numbered count)
    (few : count < 2 ^ 64)
    (item : Item κ D) :
    (table.add item).2.items = (table.nextNumber, item) :: table.items := by
  have isNew : table.contains table.nextNumber = false := by
    rw [contains, numbered.get?_nextNumber few, Option.isSome_none]
  simp [add, erase, isNew]

theorem add
    (numbered : table.Numbered count)
    (few : count < 2 ^ 64)
    (item : Item κ D) :
    (table.add item).2.Numbered (count + 1) where
  nextNumber_eq := by
    rw [UInt64.ofNat_add, ← numbered.nextNumber_eq]
    rfl
  number_lt entry present := by
    rw [numbered.items_add few, List.mem_cons] at present
    rcases present with rfl | old
    · rw [numbered.nextNumber_eq, UInt64.toNat_ofNat', Nat.mod_eq_of_lt few]
      exact Nat.lt_succ_self count
    · exact Nat.lt_succ_of_lt (numbered.number_lt entry old)
  numbers_nodup := by
    rw [numbered.items_add few, List.map_cons, List.nodup_cons]
    refine ⟨?_, numbered.numbers_nodup⟩
    rw [List.mem_map]
    rintro ⟨entry, present, sameNumber⟩
    have found := (numbered.get?_eq_some_iff entry.1 entry.2).mpr present
    rw [sameNumber, numbered.get?_nextNumber few] at found
    cases found

/-- Taking out what is under a number leaves all the others. -/
theorem of_remove
    (numbered : table.Numbered count)
    {number : UInt64}
    {answer : Option (Item κ D)}
    {remaining : DetachedItems κ D}
    (removed : table.remove number = (answer, remaining)) :
    remaining.Numbered count ∧
      remaining.items = (table.items.filter fun entry => entry.1 != number) ∧
      table.get? number = answer := by
  have erased := eraseP_eq_filter numbered.numbers_nodup number
  cases found : table.get? number with
  | none =>
      rw [remove, found] at removed
      cases removed
      refine ⟨numbered, ?_, rfl⟩
      rw [← erased, List.eraseP_of_forall_not]
      intro entry present sameNumber
      obtain rfl : entry.1 = number := beq_iff_eq.mp sameNumber
      rw [(numbered.get?_eq_some_iff entry.1 entry.2).mpr present] at found
      cases found
  | some item =>
      have items_erase : (table.erase number).items =
          table.items.filter fun entry => entry.1 != number := by
        simp [erase, contains, found, erased]
      have nextNumber_erase : (table.erase number).nextNumber = table.nextNumber := by
        simp [erase, contains, found]
      rw [remove, found] at removed
      cases removed
      refine ⟨⟨?_, ?_, ?_⟩, items_erase, rfl⟩
      · rw [nextNumber_erase]
        exact numbered.nextNumber_eq
      · intro entry present
        rw [items_erase] at present
        exact numbered.number_lt entry (List.mem_filter.mp present).1
      · rw [items_erase]
        exact numbered.numbers_nodup.sublist (List.filter_sublist.map _)

theorem removeAll (numbered : table.Numbered count) : table.removeAll.2.Numbered count where
  nextNumber_eq := numbered.nextNumber_eq
  number_lt _ present := nomatch present
  numbers_nodup := .nil

end Numbered
end DetachedItems
end Agenda
