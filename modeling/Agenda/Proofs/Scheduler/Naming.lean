import Agenda.Scheduler.Iteration
import Mathlib.Data.List.Forall2
import Mathlib.Data.List.Nodup
import Mathlib.Order.Basic

/-!
# Names of items in two runs

Two runs of a program may give different handles to the same items.  A naming pairs the handles
that were given out so far, one to one.  What corresponds to what in the two runs depends on it,
and goes on corresponding when more handles are given out.
-/

namespace Agenda

/-- Which handles name the same items in two runs, one to one. -/
structure Naming where
  /-- The two names of each item. -/
  pairs : List (ItemHandle × ItemHandle)
  /-- No handle of the first run names two items. -/
  fst_nodup : (pairs.map Prod.fst).Nodup
  /-- Nor does one of the second. -/
  snd_nodup : (pairs.map Prod.snd).Nodup
  /-- An item is refused in both runs or in neither. -/
  sameKind : ∀ pair ∈ pairs, pair.1.isDegenerate = pair.2.isDegenerate

namespace Naming

/-- No handle was given out yet. -/
def empty : Naming := ⟨[], .nil, .nil, nofun⟩

/-- Two handles name the same item. -/
def Pairs (names : Naming) (handle other : ItemHandle) : Prop := (handle, other) ∈ names.pairs

/-- More handles are given out in the course of time. -/
instance : Preorder Naming where
  le names more := names.pairs ⊆ more.pairs
  le_refl names := List.Subset.refl names.pairs
  le_trans _ _ _ := List.Subset.trans

theorem Pairs.mono
    {names more : Naming}
    {handle other : ItemHandle}
    (paired : names.Pairs handle other)
    (le : names ≤ more) :
    more.Pairs handle other :=
  le paired

/-- Handles that name the same items are the same in one run if they are so in the other. -/
theorem Pairs.eq_iff
    {names : Naming}
    {handle other handleThen otherThen : ItemHandle}
    (paired : names.Pairs handle other)
    (pairedThen : names.Pairs handleThen otherThen) :
    handle = handleThen ↔ other = otherThen := by
  constructor
  · intro same
    exact congrArg Prod.snd (List.inj_on_of_nodup_map names.fst_nodup paired pairedThen same)
  · intro same
    exact congrArg Prod.fst (List.inj_on_of_nodup_map names.snd_nodup paired pairedThen same)

/-- New handles of the same kinds can be paired in their order. -/
theorem exists_extension
    (names : Naming)
    {handles others : List ItemHandle}
    (sameKinds : List.Forall₂ (fun handle other => handle.isDegenerate = other.isDegenerate)
      handles others)
    (fst_nodup : (names.pairs.map Prod.fst ++ handles).Nodup)
    (snd_nodup : (names.pairs.map Prod.snd ++ others).Nodup) :
    ∃ more, names ≤ more ∧ more.pairs.map Prod.fst = names.pairs.map Prod.fst ++ handles ∧
      more.pairs.map Prod.snd = names.pairs.map Prod.snd ++ others ∧
      List.Forall₂ more.Pairs handles others := by
  have length_eq := sameKinds.length_eq
  have fst_eq : (names.pairs ++ handles.zip others).map Prod.fst =
      names.pairs.map Prod.fst ++ handles := by
    rw [List.map_append, List.map_fst_zip (Nat.le_of_eq length_eq)]
  have snd_eq : (names.pairs ++ handles.zip others).map Prod.snd =
      names.pairs.map Prod.snd ++ others := by
    rw [List.map_append, List.map_snd_zip (Nat.le_of_eq length_eq.symm)]
  refine ⟨⟨names.pairs ++ handles.zip others, fst_eq ▸ fst_nodup, snd_eq ▸ snd_nodup, ?_⟩,
    List.subset_append_left _ _, fst_eq, snd_eq, ?_⟩
  · intro pair present
    rcases List.mem_append.mp present with old | isNew
    · exact names.sameKind pair old
    · exact (List.forall₂_iff_zip.mp sameKinds).2 isNew
  · exact List.forall₂_iff_zip.mpr ⟨length_eq, List.mem_append_right _⟩

end Naming

/-! ## What corresponds -/

/-- What corresponds to what in two programs, given the names of the items. -/
structure Correspondence (κ D ε : Type) where
  /-- Codes of callbacks. -/
  callback : Naming → κ → κ → Prop
  /-- Data of items. -/
  data : Naming → D → D → Prop
  /-- The rest of the programs' states. -/
  rest : Naming → ε → ε → Prop
  /-- Codes go on corresponding. -/
  callback_mono : ∀ {names more code other}, names ≤ more →
    callback names code other → callback more code other
  /-- Data go on corresponding. -/
  data_mono : ∀ {names more datum other}, names ≤ more →
    data names datum other → data more datum other
  /-- The rest goes on corresponding. -/
  rest_mono : ∀ {names more state other}, names ≤ more →
    rest names state other → rest more state other

/-- Everything corresponds to itself. -/
def Correspondence.equality (κ D ε : Type) : Correspondence κ D ε :=
  ⟨fun _ => Eq, fun _ => Eq, fun _ => Eq, fun _ => id, fun _ => id, fun _ => id⟩

variable {κ D ε : Type}

/-- Two items are due at the same instant, and their callbacks and data correspond. -/
structure Item.Corresponds (C : Correspondence κ D ε) (names : Naming) (item other : Item κ D) :
    Prop where
  /-- They are due at the same instant. -/
  due_eq : other.due = item.due
  /-- Their callbacks correspond. -/
  callback : C.callback names item.callback other.callback
  /-- Their data correspond. -/
  data : C.data names item.data other.data

/-- Two loops wait equally long for the same item. -/
structure Wait.Corresponds (names : Naming) (wait other : Wait) : Prop where
  /-- Their handles name the same item. -/
  paired : names.Pairs (.stored wait.handle) (.stored other.handle)
  /-- They wait equally long. -/
  timeout_eq : other.timeout = wait.timeout

/-- The first halves of two turns come to the same decision. -/
inductive Plan.Corresponds (names : Naming) : Plan → Plan → Prop where
  | leave (exit : LoopExit) : Corresponds names (.leave exit) (.leave exit)
  | await {wait other : Wait} :
      wait.Corresponds names other → Corresponds names (.await wait) (.await other)

/-- The second halves of two turns come to the same decision. -/
inductive Settlement.Corresponds (C : Correspondence κ D ε) (names : Naming) :
    Settlement κ D → Settlement κ D → Prop where
  | again : Corresponds C names .again .again
  | leave (exit : LoopExit) : Corresponds C names (.leave exit) (.leave exit)
  | fire {handle other : ItemHandle} {item otherItem : Item κ D} :
      names.Pairs handle other → item.Corresponds C names otherItem →
      Corresponds C names (.fire handle item) (.fire other otherItem)

variable {C : Correspondence κ D ε} {names more : Naming}

theorem Item.Corresponds.mono
    {item other : Item κ D}
    (items : item.Corresponds C names other)
    (le : names ≤ more) :
    item.Corresponds C more other :=
  ⟨items.due_eq, C.callback_mono le items.callback, C.data_mono le items.data⟩

theorem Wait.Corresponds.mono
    {wait other : Wait}
    (waits : wait.Corresponds names other)
    (le : names ≤ more) :
    wait.Corresponds more other :=
  ⟨waits.paired.mono le, waits.timeout_eq⟩

end Agenda
