import Agenda.Config.Variables
import Agenda.Proofs.Config.Rendering

/-!
# Settings in variables

A variable sets its field if it holds a numeral between blank characters, and sets nothing if it
is missing.  If every variable does one of these, the configuration is what the variables set;
otherwise the first variable that does not is reported, whatever the others hold.  The fields of a
configuration may be written to the variables with any padding, and are then read like the text
that is written for the configuration.
-/

namespace Agenda
namespace Config

/-- What a variable sets by what it holds. -/
inductive VariableSets : Option String → Option (Option UInt64) → Prop where
  /-- A variable that is missing sets nothing. -/
  | missing : VariableSets none none
  /-- A numeral between blank characters sets a value. -/
  | numeral {raw : String} {core : List Char} {value : UInt64} :
      Text.Trims raw.toList core → Text.IsNumeral core value →
        VariableSets (some raw) (some (some value))

section Reading

variable (lookup : String → Option String)

theorem ofVariable_of_sets
    {field : Field}
    {setting : Option (Option UInt64)}
    (sets : VariableSets (lookup field.variableName) setting)
    (config : Config) :
    ∃ next, ofVariable lookup config field = .ok next ∧
      next.get field = setting.getD (config.get field) ∧
        ∀ other, other ≠ field → next.get other = config.get other := by
  generalize held_eq : lookup field.variableName = held at sets
  cases sets with
  | missing => exact ⟨config, by simp only [ofVariable, held_eq], rfl, fun _ _ => rfl⟩
  | @numeral raw core value trims isNumeral =>
      have isRead := (Text.readNumeral_eq_ok_iff core value).mpr isNumeral
      refine ⟨config.set field value, ?_, config.get_set_self field value,
        fun _ different => config.get_set_of_ne different value⟩
      simp only [ofVariable, held_eq, (Text.trim_eq_iff _ _).mpr trims, isRead]

/-- A variable that sets nothing although it is there is reported. -/
theorem ofVariable_of_not_sets
    {field : Field}
    (setsNothing : ∀ setting, ¬ VariableSets (lookup field.variableName) setting)
    (config : Config) :
    ∃ raw cause, lookup field.variableName = some raw ∧
      ofVariable lookup config field = .error (.badValue field raw cause) := by
  cases held_eq : lookup field.variableName with
  | none => exact absurd .missing (held_eq ▸ setsNothing none)
  | some raw =>
      cases isRead : Text.readNumeral (Text.trim raw.toList) with
      | error cause => exact ⟨raw, cause, rfl, by simp only [ofVariable, held_eq, isRead]⟩
      | ok value =>
          have trims := (Text.trim_eq_iff raw.toList _).mp rfl
          have isNumeral := (Text.readNumeral_eq_ok_iff _ value).mp isRead
          exact absurd (.numeral trims isNumeral) (held_eq ▸ setsNothing (some (some value)))

/-- Variables that all set something are read one after the other. -/
theorem foldlM_ofVariable
    {fields : List Field}
    {settings : Settings}
    (sets : ∀ field ∈ fields, VariableSets (lookup field.variableName) (settings field))
    (config : Config) :
    ∃ result, fields.foldlM (ofVariable lookup) config = .ok result ∧
      (∀ field ∈ fields, result.get field = (settings field).getD (config.get field)) ∧
        ∀ field, field ∉ fields → result.get field = config.get field := by
  induction fields generalizing config with
  | nil => exact ⟨config, rfl, nofun, fun _ _ => rfl⟩
  | cons field fields inductionHypothesis =>
      obtain ⟨setsHere, setsRest⟩ := List.forall_mem_cons.mp sets
      obtain ⟨next, isNext, here, elsewhere⟩ := ofVariable_of_sets lookup setsHere config
      obtain ⟨result, isResult, inRest, outside⟩ := inductionHypothesis setsRest next
      refine ⟨result, ?_, ?_, ?_⟩
      · rw [List.foldlM_cons, isNext]
        exact isResult
      · intro other present
        by_cases later : other ∈ fields
        · rw [inRest other later]
          by_cases same : other = field
          · subst same
            rw [here]
            cases settings other <;> rfl
          · rw [elsewhere other same]
        · obtain rfl : other = field := (List.mem_cons.mp present).resolve_right later
          rw [outside other later, here]
      · intro other absent
        rw [List.mem_cons, not_or] at absent
        rw [outside other absent.2, elsewhere other absent.1]

/-- If every variable sets something, the result is the configuration of what is set, provided
that its values are in range. -/
theorem ofVariables_of_sets
    {settings : Settings}
    (sets : ∀ field : Field, VariableSets (lookup field.variableName) (settings field)) :
    ∃ config, Overrides settings standard config ∧
      ofVariables lookup = config.validate.mapError .invalid := by
  have setsAll : ∀ field ∈ Field.all, VariableSets (lookup field.variableName) (settings field) :=
    fun field _ => sets field
  obtain ⟨config, isRead, overrides, -⟩ := foldlM_ofVariable lookup setsAll standard
  refine ⟨config, fun field => overrides field field.mem_all, ?_⟩
  rw [ofVariables, isRead]

/-- The first variable that sets nothing although it is there is reported. -/
theorem ofVariables_of_not_sets
    {before after : List Field}
    {field : Field}
    (order : Field.all = before ++ field :: after)
    (sets : ∀ earlier ∈ before, ∃ setting, VariableSets (lookup earlier.variableName) setting)
    (setsNothing : ∀ setting, ¬ VariableSets (lookup field.variableName) setting) :
    ∃ raw cause, lookup field.variableName = some raw ∧
      ofVariables lookup = .error (.badValue field raw cause) := by
  choose! settings setsBefore using sets
  obtain ⟨reached, isReached, -⟩ := foldlM_ofVariable lookup setsBefore standard
  obtain ⟨raw, cause, held, isError⟩ := ofVariable_of_not_sets lookup setsNothing reached
  have isReported : Field.all.foldlM (ofVariable lookup) standard =
      .error (.badValue field raw cause) := by
    rw [order, List.foldlM_append, isReached]
    change (field :: after).foldlM (ofVariable lookup) reached = _
    rw [List.foldlM_cons, isError]
    rfl
  exact ⟨raw, cause, held, by rw [ofVariables, isReported]⟩

/-- Either every variable sets something or one is the first that does not. -/
theorem sets_or_first :
    (∃ settings : Settings,
      ∀ field : Field, VariableSets (lookup field.variableName) (settings field)) ∨
    ∃ before field after, Field.all = before ++ field :: after ∧
      (∀ earlier ∈ before, ∃ setting, VariableSets (lookup earlier.variableName) setting) ∧
        ∀ setting, ¬ VariableSets (lookup field.variableName) setting := by
  classical
  by_cases all : ∀ field : Field, ∃ setting, VariableSets (lookup field.variableName) setting
  · choose settings sets using all
    exact Or.inl ⟨settings, sets⟩
  · right
    obtain ⟨bad, setsNothing⟩ := not_forall.mp all
    let isBad (field : Field) : Bool :=
      decide (¬ ∃ setting, VariableSets (lookup field.variableName) setting)
    have isFound : (Field.all.find? isBad).isSome = true :=
      List.find?_isSome.mpr ⟨bad, bad.mem_all, decide_eq_true setsNothing⟩
    obtain ⟨field, found⟩ := Option.isSome_iff_exists.mp isFound
    obtain ⟨fieldBad, before, after, order, notBad⟩ := List.find?_eq_some_iff_append.mp found
    refine ⟨before, field, after, order, fun earlier present => ?_, ?_⟩
    · simpa [isBad] using notBad earlier present
    · exact not_exists.mp (of_decide_eq_true fieldBad)

end Reading

/-! ## Writing to variables -/

/-- What a variable may hold for the value of a field: the decimal numeral with any blank
characters around it, any zeros in front of it and a plus sign in front of these, or nothing if
there is no value. -/
inductive Renders : Option UInt64 → Option String → Prop where
  /-- There is no value. -/
  | missing : Renders none none
  /-- A padded numeral. -/
  | padded {value : UInt64} {raw : String} (before sign : List Char) (zeros : Nat)
      (after : List Char) :
      (∀ char ∈ before, Text.isBlank char = true) → sign ∈ [[], ['+']] →
        (∀ char ∈ after, Text.isBlank char = true) →
          raw.toList =
            before ++ (sign ++ (List.replicate zeros '0' ++ (Text.numeral value).toList)) ++ after →
            Renders (some value) (some raw)

theorem Renders.sets
    {value : Option UInt64}
    {held : Option String}
    (renders : Renders value held) :
    VariableSets held (value.map some) := by
  cases renders with
  | missing => exact .missing
  | @padded value _ _ _ zeros _ beforeBlank isSign afterBlank raw_eq =>
      have isNumeral := Text.isNumeral_padded isSign zeros value
      refine .numeral ?_ isNumeral
      rw [raw_eq]
      exact isNumeral.trims beforeBlank afterBlank

theorem overrides_get (config : Config) :
    Overrides (fun field => (config.get field).map some) standard config := by
  intro field
  dsimp only
  cases isValue : config.get field with
  | some value => rfl
  | none =>
      cases field with
      | maxPendingEvents => rfl
      | _ => cases isValue

/-- Exactly the variables of the five fields are read, and each of them has to hold a numeral below
2^64 between blank characters, or to be missing.  The first one that does neither is reported by
name, whatever the others hold; if there is none, a value out of range is.  The padded numerals of
a configuration are read like the text that is written for it. -/
theorem ofVariables_accepts_grammar :
    Field.all.map Field.variableName =
      ["TIMED_EVENTS_MIN_QUEUE_CAPACITY", "TIMED_EVENTS_MAX_POLL_WAIT_MS",
        "TIMED_EVENTS_MAX_PENDING_EVENTS", "TIMED_EVENTS_MONITORED_HOSTS",
        "TIMED_EVENTS_MONITORED_SERVICES"] ∧
    (∀ lookup config, ofVariables lookup = .ok config ↔
      ∃ settings : Settings,
        (∀ field : Field, VariableSets (lookup field.variableName) (settings field)) ∧
          Overrides settings standard config ∧ config.validate = .ok config) ∧
    (∀ lookup other, (∀ name ∈ Field.all.map Field.variableName, lookup name = other name) →
      ofVariables lookup = ofVariables other) ∧
    (∀ lookup (settings : Settings),
      (∀ field : Field, VariableSets (lookup field.variableName) (settings field)) →
        ∃ config, Overrides settings standard config ∧
          ofVariables lookup = config.validate.mapError .invalid) ∧
    (∀ lookup before field after, Field.all = before ++ field :: after →
      (∀ earlier ∈ before, ∃ setting, VariableSets (lookup earlier.variableName) setting) →
        (∀ setting, ¬ VariableSets (lookup field.variableName) setting) →
          ∃ raw error, lookup field.variableName = some raw ∧ ofVariables lookup = .error error ∧
            error.message =
              "invalid value for " ++ field.variableName ++ ": " ++ Text.quoted raw) ∧
    ∀ (config : Config) lookup,
      (∀ field : Field, Renders (config.get field) (lookup field.variableName)) →
        (config.violation? = none ∧ ofVariables lookup = .ok config ∧
          ofText config.render = .ok config) ∨
        ∃ violation, config.violation? = some violation ∧
          ofVariables lookup = .error (.invalid violation) ∧
            ofText config.render = .error (.invalid violation) := by
  have validated : ∀ {ε : Type} (wrap : Violation → ε) (config result : Config),
      config.validate.mapError wrap = .ok result ↔
        config = result ∧ config.validate = .ok config := by
    intro ε wrap config result
    unfold validate
    cases config.violation? <;> simp [Except.mapError]
  refine ⟨rfl, ?_, ?_, fun lookup _ => ofVariables_of_sets lookup, ?_, ?_⟩
  · intro lookup config
    constructor
    · intro isRead
      rcases sets_or_first lookup with
        ⟨settings, sets⟩ | ⟨before, field, after, order, setsBefore, setsNothing⟩
      · obtain ⟨made, overrides, isMade⟩ := ofVariables_of_sets lookup sets
        obtain ⟨rfl, isValid⟩ := (validated _ made config).mp (isMade.symm.trans isRead)
        exact ⟨settings, sets, overrides, isValid⟩
      · obtain ⟨raw, cause, -, isError⟩ :=
          ofVariables_of_not_sets lookup order setsBefore setsNothing
        rw [isRead] at isError
        cases isError
    · rintro ⟨settings, sets, overrides, isValid⟩
      obtain ⟨made, overridesToo, isMade⟩ := ofVariables_of_sets lookup sets
      obtain rfl := overrides.unique overridesToo
      rw [isMade]
      exact (validated _ config config).mpr ⟨rfl, isValid⟩
  · intro lookup other same
    have sameReading : ofVariable lookup = ofVariable other := by
      funext config field
      rw [ofVariable, ofVariable, same _ (List.mem_map_of_mem field.mem_all)]
    rw [ofVariables, ofVariables, sameReading]
  · intro lookup before field after order sets setsNothing
    obtain ⟨raw, cause, held, isError⟩ := ofVariables_of_not_sets lookup order sets setsNothing
    exact ⟨raw, _, held, isError, rfl⟩
  · intro config lookup renders
    obtain ⟨made, overrides, isMade⟩ := ofVariables_of_sets lookup fun field => (renders field).sets
    obtain rfl := config.overrides_get.unique overrides
    rw [isMade, ofText_render, validate]
    cases config.violation? with
    | none => exact Or.inl ⟨rfl, rfl, rfl⟩
    | some violation => exact Or.inr ⟨violation, rfl, rfl, rfl⟩

/-- Variables that hold padded numerals. -/
def paddedVariables (name : String) : Option String :=
  if name = "TIMED_EVENTS_MIN_QUEUE_CAPACITY" then some " 007\n"
  else if name = "TIMED_EVENTS_MAX_POLL_WAIT_MS" then some "+250"
  else if name = "TIMED_EVENTS_MONITORED_HOSTS" then some "0"
  else if name = "TIMED_EVENTS_MONITORED_SERVICES" then some "\u3000+018446744073709551615"
  else none

/-- Variables of which two hold no numeral and one holds a value out of range. -/
def spoiltVariables (name : String) : Option String :=
  if name = "TIMED_EVENTS_MIN_QUEUE_CAPACITY" then some "0"
  else if name = "TIMED_EVENTS_MAX_PENDING_EVENTS" then some " + "
  else if name = "TIMED_EVENTS_MONITORED_SERVICES" then some "18446744073709551616"
  else none

theorem renders_paddedVariables (field : Field) :
    Renders (Config.get ⟨7, 250, none, 0, 18446744073709551615⟩ field)
      (paddedVariables field.variableName) := by
  cases field with
  | minQueueCapacity =>
      exact .padded [' '] [] 2 ['\n'] (by decide) (by decide) (by decide) (by decide)
  | maxPollWait => exact .padded [] ['+'] 0 [] nofun (by decide) nofun (by decide)
  | maxPendingEvents => exact .missing
  | monitoredHosts => exact .padded [] [] 0 [] nofun (by decide) nofun (by decide)
  | monitoredServices =>
      exact .padded ['\u3000'] ['+'] 1 [] (by decide) (by decide) nofun (by decide)

theorem ofVariables_accepts_grammar_padded :
    (∀ field : Field, Renders (Config.get ⟨7, 250, none, 0, 18446744073709551615⟩ field)
      (paddedVariables field.variableName)) ∧
      ofVariables paddedVariables = .ok ⟨7, 250, none, 0, 18446744073709551615⟩ ∧
      ofText (Config.render ⟨7, 250, none, 0, 18446744073709551615⟩) =
        .ok ⟨7, 250, none, 0, 18446744073709551615⟩ ∧
      (∃ error, ofVariables spoiltVariables = .error error ∧
        error.message = "invalid value for TIMED_EVENTS_MAX_PENDING_EVENTS: \" + \"") := by
  obtain ⟨-, -, -, -, reports, agrees⟩ := ofVariables_accepts_grammar
  refine ⟨renders_paddedVariables, ?_⟩
  obtain ⟨-, ofVariables_eq, ofText_eq⟩ | ⟨violation, isViolated, -⟩ :=
    agrees ⟨7, 250, none, 0, 18446744073709551615⟩ paddedVariables renders_paddedVariables
  · refine ⟨ofVariables_eq, ofText_eq, ?_⟩
    have setsBefore : ∀ earlier ∈ [Field.minQueueCapacity, .maxPollWait],
        ∃ setting, VariableSets (spoiltVariables earlier.variableName) setting := by
      have isNumeral : Text.IsNumeral ['0'] 0 := .plain ⟨by decide, by decide⟩ (by decide)
      have trims : Text.Trims "0".toList ['0'] := (Text.trim_eq_iff _ _).mp (by decide)
      exact List.forall_mem_cons.mpr
        ⟨⟨_, .numeral trims isNumeral⟩, List.forall_mem_singleton.mpr ⟨_, .missing⟩⟩
    have setsNothing : ∀ setting,
        ¬ VariableSets (spoiltVariables Field.maxPendingEvents.variableName) setting := by
      rintro setting (_ | ⟨trims, isNumeral⟩)
      rw [← Text.trim_eq_iff] at trims
      have isRefused : Text.readNumeral (Text.trim " + ".toList) = .error .invalidDigit := rfl
      rw [← trims, ← Text.readNumeral_eq_ok_iff, isRefused] at isNumeral
      cases isNumeral
    obtain ⟨raw, error, held, isError, message_eq⟩ := reports spoiltVariables
      [.minQueueCapacity, .maxPollWait] .maxPendingEvents [.monitoredHosts, .monitoredServices] rfl
      setsBefore setsNothing
    obtain rfl : " + " = raw := Option.some.inj held
    exact ⟨error, isError, message_eq.trans (by decide +kernel)⟩
  · cases isViolated

end Config
end Agenda
