import Agenda.Execution

/-!
# What a history tells

A history is the list of the events of an execution, the first one first.  It tells which items
were created and which of them the store took, which callbacks were called and why, and which
items were released.
-/

namespace Agenda

variable {κ D : Type}

namespace Event

/-- Whether an event leaves the items alone. -/
def isQuiet : Event κ D → Bool
  | accepted _ _ | detached _ _ | refused _ | dispatched _ _ | released _ => false
  | unknown _ | turn _ _ | rotated _ | statusUpdated | polled _ _ | exited _ => true

/-- The item that was created, under the handle that its creation returned. -/
def creation? : Event κ D → Option (ItemHandle × Item κ D)
  | accepted handle item | detached handle item => some (handle, item)
  | _ => none

/-- The item that the store took, under its handle. -/
def acceptance? : Event κ D → Option (ItemHandle × Item κ D)
  | accepted handle item => some (handle, item)
  | _ => none

/-- Whether a refused item was kept aside. -/
def isDetached : Event κ D → Bool
  | detached _ _ => true
  | _ => false

/-- The call of a callback. -/
def call? : Event κ D → Option (κ × Dispatch D)
  | dispatched callback told => some (callback, told)
  | _ => none

/-- What a callback was told, if it was called because its item was due. -/
def timed? : Event κ D → Option (Dispatch D)
  | dispatched _ told => if told.reason = .timed then some told else none
  | _ => none

/-- The items that were released. -/
def releasedItems : Event κ D → List (Item κ D)
  | released items => items
  | _ => []

end Event

/-- The items that were created, the oldest first. -/
def creations (history : List (Event κ D)) : List (ItemHandle × Item κ D) :=
  history.filterMap Event.creation?

/-- The items that the store took, the oldest first. -/
def acceptances (history : List (Event κ D)) : List (ItemHandle × Item κ D) :=
  history.filterMap Event.acceptance?

/-- How many refused items were kept aside. -/
def refusals (history : List (Event κ D)) : Nat := history.countP Event.isDetached

/-- The calls of callbacks, the first one first. -/
def calls (history : List (Event κ D)) : List (κ × Dispatch D) :=
  history.filterMap Event.call?

/-- What callbacks were told that were called because their items were due, the first one
first. -/
def timedDispatches (history : List (Event κ D)) : List (Dispatch D) :=
  history.filterMap Event.timed?

/-- The items that were released, the first one first. -/
def releases (history : List (Event κ D)) : List (Item κ D) :=
  history.flatMap Event.releasedItems

@[simp] theorem creations_append (history events : List (Event κ D)) :
    creations (history ++ events) = creations history ++ creations events :=
  List.filterMap_append

@[simp] theorem acceptances_append (history events : List (Event κ D)) :
    acceptances (history ++ events) = acceptances history ++ acceptances events :=
  List.filterMap_append

@[simp] theorem refusals_append (history events : List (Event κ D)) :
    refusals (history ++ events) = refusals history + refusals events :=
  List.countP_append

theorem refusals_le_append (history events : List (Event κ D)) :
    refusals history ≤ refusals (history ++ events) := by
  rw [refusals_append]
  exact Nat.le_add_right _ _

@[simp] theorem calls_append (history events : List (Event κ D)) :
    calls (history ++ events) = calls history ++ calls events :=
  List.filterMap_append

@[simp] theorem timedDispatches_append (history events : List (Event κ D)) :
    timedDispatches (history ++ events) = timedDispatches history ++ timedDispatches events :=
  List.filterMap_append

@[simp] theorem releases_append (history events : List (Event κ D)) :
    releases (history ++ events) = releases history ++ releases events :=
  List.flatMap_append

theorem mem_calls (history : List (Event κ D)) (callback : κ) (told : Dispatch D) :
    (callback, told) ∈ calls history ↔ .dispatched callback told ∈ history := by
  rw [calls, List.mem_filterMap]
  constructor
  · rintro ⟨event, present, isCall⟩
    cases event <;> cases isCall
    exact present
  · intro present
    exact ⟨_, present, rfl⟩

theorem mem_timedDispatches (history : List (Event κ D)) (told : Dispatch D) :
    told ∈ timedDispatches history ↔
      told.reason = .timed ∧ ∃ callback, .dispatched callback told ∈ history := by
  rw [timedDispatches, List.mem_filterMap]
  constructor
  · rintro ⟨event, present, isTimed⟩
    cases event with
    | dispatched callback other =>
        simp only [Event.timed?, Option.ite_none_right_eq_some, Option.some.injEq] at isTimed
        obtain ⟨reason_eq, rfl⟩ := isTimed
        exact ⟨reason_eq, callback, present⟩
    | accepted | detached | refused | unknown | released | turn | rotated | statusUpdated | polled
    | exited => cases isTimed
  · rintro ⟨reason_eq, callback, present⟩
    exact ⟨_, present, if_pos reason_eq⟩

theorem calls_eq_nil_of_quiet
    {events : List (Event κ D)}
    (quiet : ∀ event ∈ events, event.isQuiet = true) :
    calls events = [] := by
  rw [calls, List.filterMap_eq_nil_iff]
  intro event told
  have isQuiet := quiet event told
  cases event <;> first | rfl | cases isQuiet

end Agenda
