import Agenda.Proofs.Config.Settings

/-!
# Configurations written as JSON texts

What is written for a configuration is a text of an object that sets every field to its value.  So
it is read as this configuration, whatever its values, unless one of them is out of range, and the
texts of different configurations are different.
-/

namespace Agenda
namespace Config

/-- The JSON value that is written for a field. -/
def valueJson : Option UInt64 → Json
  | some value => .number (Text.numeral value).toList
  | none => .null

/-- The members of the object that is written for a configuration. -/
def members (config : Config) : List (List Json.Piece × Json) :=
  Field.all.map fun field => (field.key.toList.map .char, valueJson (config.get field))

theorem numberText_numeral (value : UInt64) :
    Json.NumberText (Text.numeral value).toList := by
  refine Json.WholeText.numberText ?_
  by_cases isZero : value.toNat = 0
  · rw [Text.toList_numeral, isZero, Nat.toDigits_zero]
    exact .zero
  · refine .positive (Text.isDigits_numeral value) ?_
    rw [Text.toList_numeral]
    exact Text.head_toDigits_of_pos (Nat.pos_of_ne_zero isZero)

theorem valueText_valueJson (value : Option UInt64) :
    Json.ValueText (valueJson value) (valueText value).toList := by
  cases value with
  | none => exact .null
  | some value => exact .number (numberText_numeral value)

theorem Field.isPlain_key (field : Field) : ∀ char ∈ field.key.toList, Json.IsPlain char := by
  cases field <;> decide

theorem writesMember (config : Config) (field : Field) :
    Json.WritesMember (field.key.toList.map .char, valueJson (config.get field))
      (config.memberText field).toList := by
  refine ⟨field.key.toList, (valueText (config.get field)).toList, field.isPlain_key, rfl,
    valueText_valueJson _, ?_⟩
  simp [memberText]

theorem isText_render (config : Config) : Json.IsText config.render (.object config.members) := by
  have written : List.Forall₂ Json.WritesMember config.members
      (Field.all.map fun field => (config.memberText field).toList) := by
    rw [members, List.forall₂_map_left_iff, List.forall₂_map_right_iff, List.forall₂_same]
    exact fun field _ => config.writesMember field
  refine Json.isText_of_writesMember written (by simp [members, Field.all]) ?_
  simp [render, String.toList_intercalate, Function.comp_def]

theorem names_key (field : Field) : Names (field.key.toList.map .char) field := by
  have spelled := Json.Spells.chars field.key.toList .nil
  rwa [List.append_nil, List.append_nil] at spelled

theorem stands_valueJson (config : Config) (field : Field) :
    Stands field (valueJson (config.get field)) (config.get field) := by
  cases isValue : config.get field with
  | some value => exact .number (Text.isDigits_numeral value) (Text.ofDigitChars_numeral value)
  | none =>
      cases field with
      | maxPendingEvents => exact .null
      | _ => cases isValue

theorem sets_members (config : Config) :
    Sets config.members fun field => some (config.get field) where
  spells member present := by
    obtain ⟨field, -, rfl⟩ := List.mem_map.mp present
    exact ⟨_, names_key field⟩
  once := by
    have distinct : Field.all.Pairwise (· ≠ ·) := by decide
    refine List.pairwise_map.mpr (distinct.imp ?_)
    intro field other different named names namesOther
    exact different
      (((names_key field).unique names).trans ((names_key other).unique namesOther).symm)
  given field setting isSet := by
    obtain rfl := Option.some.inj isSet
    exact ⟨_, List.mem_map_of_mem field.mem_all, names_key field, config.stands_valueJson field⟩
  missing field notSet := by cases notSet

/-- The object that is written for a configuration is the object of this configuration. -/
theorem ofJson?_members (config : Config) : ofJson? (.object config.members) = some config :=
  (ofJson?_object_eq_some_iff config.members config).mpr
    ⟨_, config.sets_members, fun _ => rfl⟩

/-- What is written for a configuration stands for this configuration, whatever its values. -/
theorem readsBack (config : Config) : (Json.read? config.render).bind ofJson? = some config := by
  rw [Json.read?_of_isText config.isText_render, Option.bind_some, ofJson?_members]

/-- What is written for a configuration is read as this configuration if its values are in range,
and otherwise the first value that is not is reported. -/
theorem ofText_render (config : Config) :
    ofText config.render = config.validate.mapError .invalid := by
  rw [ofText, readsBack]

/-- Different configurations are written differently. -/
theorem render_injective : Function.Injective render := by
  intro config other sameText
  have isRead := config.readsBack
  rw [sameText, other.readsBack] at isRead
  exact (Option.some.inj isRead).symm

/-- Validation changes no value. -/
theorem eq_of_validate
    {config valid : Config}
    (isValid : config.validate = .ok valid) :
    valid = config := by
  unfold validate at isValid
  split at isValid
  next => cases isValid
  next =>
    cases isValid
    rfl

/-- What is read from a text has all its values in range. -/
theorem validate_of_ofText
    {text : String}
    {config : Config}
    (isRead : ofText text = .ok config) :
    config.validate = .ok config := by
  unfold ofText at isRead
  split at isRead
  next => cases isRead
  next found _ =>
    cases isValid : found.validate with
    | error violation =>
        rw [isValid] at isRead
        cases isRead
    | ok valid =>
        obtain rfl := eq_of_validate isValid
        rw [isValid] at isRead
        cases isRead
        exact isValid

/-- Writing a configuration and reading it again comes to validating it, and nothing is lost on the
way: the text is a text of the object of the configuration, it is read as the configuration if the
values are in range, and otherwise the error is that of the first value that is not, and never that
of a malformed text.  So different configurations have different texts.  Nothing out of range is
ever read, from whatever text. -/
theorem render_round_trips :
    (∀ config : Config, Json.IsText config.render (.object config.members)) ∧
    (∀ config : Config, config.validate = .ok config → ofText config.render = .ok config) ∧
    (∀ (config : Config) (violation : Violation), config.validate = .error violation →
      ofText config.render = .error (.invalid violation) ∧
        (TextError.invalid violation).message = violation.message) ∧
    (∀ config : Config, ofText config.render ≠ .error .malformed) ∧
    Function.Injective render ∧
    ∀ text config, ofText text = .ok config → config.validate = .ok config := by
  refine ⟨isText_render, ?_, ?_, ?_, render_injective, fun _ _ => validate_of_ofText⟩
  · intro config isValid
    rw [ofText_render, isValid]
    rfl
  · intro config violation isInvalid
    rw [ofText_render, isInvalid]
    exact ⟨rfl, rfl⟩
  · intro config isMalformed
    rw [ofText_render] at isMalformed
    cases validated : config.validate with
    | ok valid =>
        rw [validated] at isMalformed
        cases isMalformed
    | error violation =>
        rw [validated] at isMalformed
        cases isMalformed

/-- Values at both ends of their range. -/
def extremeConfig : Config where
  minQueueCapacity := 1
  maxPollWait := 18446744073709551615
  maxPendingEvents := some 18446744073709551615
  monitoredHosts := 0
  monitoredServices := 18446744073709551615

theorem render_round_trips_extreme :
    extremeConfig.render =
      "\x7b\"min_queue_capacity\":1,\"max_poll_wait_ms\":18446744073709551615," ++
        "\"max_pending_events\":18446744073709551615,\"monitored_hosts\":0," ++
        "\"monitored_services\":18446744073709551615\x7d" ∧
      extremeConfig.validate = .ok extremeConfig ∧
      ofText extremeConfig.render = .ok extremeConfig ∧
      ofText { extremeConfig with maxPendingEvents := none }.render =
        .ok { extremeConfig with maxPendingEvents := none } ∧
      ofText { extremeConfig with maxPollWait := 0, maxPendingEvents := some 0 }.render =
        .error (.invalid .maxPollWaitZero) := by
  obtain ⟨-, valid, invalid, -, -, inRange⟩ := render_round_trips
  have isRead : ofText extremeConfig.render = .ok extremeConfig := valid extremeConfig rfl
  exact ⟨by decide +kernel, inRange _ _ isRead, isRead, valid _ rfl, (invalid _ _ rfl).1⟩

end Config
end Agenda
