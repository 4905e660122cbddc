import Agenda.Config.Text
import Agenda.Proofs.Json.Reading
import Mathlib.Data.List.Nodup
import Mathlib.Logic.Function.Basic

/-!
# Settings of a configuration

The members of an object set some of the fields.  Which value a field is set to depends on the one
member whose key spells the key of the field, on no other member and on no order.  An object is
the object of a configuration exactly if the members that name fields name each of them once and
give it a value that it can have, and if every key is text at all.  The items of an array are read
like the values of the first members.
-/

namespace Agenda
namespace Config

/-- Configurations that agree on every field are the same. -/
theorem eq_of_get
    {config other : Config}
    (same : ∀ field, config.get field = other.get field) :
    config = other := by
  obtain ⟨capacity, wait, pending, hosts, services⟩ := config
  obtain ⟨otherCapacity, otherWait, otherPending, otherHosts, otherServices⟩ := other
  obtain rfl := Option.some.inj (same .minQueueCapacity)
  obtain rfl := Option.some.inj (same .maxPollWait)
  obtain rfl : pending = otherPending := same .maxPendingEvents
  obtain rfl := Option.some.inj (same .monitoredHosts)
  obtain rfl := Option.some.inj (same .monitoredServices)
  rfl

theorem Field.ofKey?_eq_some_iff (key : String) (field : Field) :
    ofKey? key = some field ↔ key = field.key := by
  constructor
  · intro found
    have keys_eq := List.find?_some found
    exact (beq_iff_eq.mp keys_eq).symm
  · rintro rfl
    exact ofKey?_key field

/-! ## What is set -/

/-- The fields that are set, each to a value or to have none. -/
abbrev Settings : Type := Field → Option (Option UInt64)

/-- A configuration holds what is set, and what another one holds where nothing is set. -/
def Overrides (settings : Settings) (base config : Config) : Prop :=
  ∀ field, config.get field = (settings field).getD (base.get field)

theorem Overrides.unique
    {settings : Settings}
    {base config other : Config}
    (overrides : Overrides settings base config)
    (overridesToo : Overrides settings base other) :
    config = other :=
  eq_of_get fun field => (overrides field).trans (overridesToo field).symm

/-- The values that a field can be set to: a plain decimal numeral below 2^64 stands for its
number, and null stands for no limit on pending events. -/
inductive Stands : Field → Json → Option UInt64 → Prop where
  /-- A numeral. -/
  | number {field : Field} {digits : List Char} {value : UInt64} :
      Text.IsDigits digits → Nat.ofDigitChars 10 digits 0 = value.toNat →
        Stands field (.number digits) (some value)
  /-- No limit. -/
  | null : Stands .maxPendingEvents .null none

/-- A key is the key of a field, however it is written. -/
def Names (pieces : List Json.Piece) (field : Field) : Prop :=
  Json.Spells pieces field.key.toList

instance (pieces : List Json.Piece) (field : Field) : Decidable (Names pieces field) :=
  inferInstanceAs (Decidable (Json.Spells pieces field.key.toList))

theorem Names.unique
    {pieces : List Json.Piece}
    {field other : Field}
    (names : Names pieces field)
    (namesToo : Names pieces other) :
    field = other := by
  have found := (Json.text?_eq_some_iff _ _).mpr names
  rw [(Json.text?_eq_some_iff _ _).mpr namesToo, Option.some.injEq, String.toList_inj] at found
  have fieldFound := Field.ofKey?_key field
  rw [← found, Field.ofKey?_key] at fieldFound
  exact (Option.some.inj fieldFound).symm

/-- No field is named by both members. -/
def Apart (member other : List Json.Piece × Json) : Prop :=
  ∀ field, Names member.1 field → ¬ Names other.1 field

/-- The members of an object set these fields to these values. -/
structure Sets (members : List (List Json.Piece × Json)) (settings : Settings) : Prop where
  /-- Every key is text. -/
  spells : ∀ member ∈ members, ∃ key, Json.Spells member.1 key
  /-- Every field is named at most once. -/
  once : members.Pairwise Apart
  /-- What is set is set by a member. -/
  given : ∀ field setting, settings field = some setting →
    ∃ member ∈ members, Names member.1 field ∧ Stands field member.2 setting
  /-- A field that is not set is not named. -/
  missing : ∀ field, settings field = none → ∀ member ∈ members, ¬ Names member.1 field

theorem Sets.perm
    {members others : List (List Json.Piece × Json)}
    {settings : Settings}
    (sets : Sets members settings)
    (permuted : members.Perm others) :
    Sets others settings where
  spells member present := sets.spells member (permuted.mem_iff.mpr present)
  once := by
    have symmetric : ∀ {member other}, Apart member other → Apart other member :=
      fun apart field named namedToo => apart field namedToo named
    exact (permuted.pairwise_iff symmetric).mp sets.once
  given field setting isSet := by
    obtain ⟨member, present, stands⟩ := sets.given field setting isSet
    exact ⟨member, permuted.mem_iff.mp present, stands⟩
  missing field notSet member present :=
    sets.missing field notSet member (permuted.mem_iff.mpr present)

theorem sets_nil_iff (settings : Settings) :
    Sets [] settings ↔ ∀ field, settings field = none := by
  constructor
  · intro sets field
    cases isSet : settings field with
    | none => rfl
    | some setting =>
        obtain ⟨member, present, -⟩ := sets.given field setting isSet
        cases present
  · intro noneSet
    refine ⟨nofun, .nil, ?_, nofun⟩
    intro field setting isSet
    rw [noneSet field] at isSet
    cases isSet

section Cons

variable {member : List Json.Piece × Json} {rest : List (List Json.Piece × Json)}
variable {settings : Settings} {field : Field} {setting : Option UInt64}

theorem Sets.cons_of_unnamed
    (sets : Sets rest settings)
    (spells : ∃ key, Json.Spells member.1 key)
    (unnamed : ∀ field, ¬ Names member.1 field) :
    Sets (member :: rest) settings where
  spells := List.forall_mem_cons.mpr ⟨spells, sets.spells⟩
  once := .cons (fun _ _ field names => absurd names (unnamed field)) sets.once
  given field setting isSet := by
    obtain ⟨giver, present, given⟩ := sets.given field setting isSet
    exact ⟨giver, List.mem_cons_of_mem _ present, given⟩
  missing field notSet := List.forall_mem_cons.mpr ⟨unnamed field, sets.missing field notSet⟩

theorem Sets.cons_of_named
    (sets : Sets rest (Function.update settings field none))
    (names : Names member.1 field)
    (stands : Stands field member.2 setting)
    (isSet : settings field = some setting) :
    Sets (member :: rest) settings where
  spells := List.forall_mem_cons.mpr ⟨⟨_, names⟩, sets.spells⟩
  once := by
    refine .cons (fun other present otherField namesOther => ?_) sets.once
    rw [namesOther.unique names]
    exact sets.missing field (Function.update_self ..) other present
  given other otherSetting otherSet := by
    by_cases same : other = field
    · subst same
      obtain rfl := Option.some.inj (isSet.symm.trans otherSet)
      exact ⟨member, List.mem_cons_self, names, stands⟩
    · obtain ⟨giver, present, given⟩ :=
        sets.given other otherSetting ((Function.update_of_ne same ..).trans otherSet)
      exact ⟨giver, List.mem_cons_of_mem _ present, given⟩
  missing other notSet := by
    have different : other ≠ field := by
      rintro rfl
      rw [isSet] at notSet
      cases notSet
    refine List.forall_mem_cons.mpr ⟨fun namesOther => different (namesOther.unique names), ?_⟩
    exact sets.missing other ((Function.update_of_ne different ..).trans notSet)

/-- A field that the first member does not name is set by a later one. -/
theorem Sets.given_later
    (sets : Sets (member :: rest) settings)
    (notNamed : ¬ Names member.1 field)
    (isSet : settings field = some setting) :
    ∃ giver ∈ rest, Names giver.1 field ∧ Stands field giver.2 setting := by
  obtain ⟨giver, present, givenName, stands⟩ := sets.given field setting isSet
  rcases List.mem_cons.mp present with rfl | later
  · exact absurd givenName notNamed
  · exact ⟨giver, later, givenName, stands⟩

theorem Sets.tail_of_unnamed
    (sets : Sets (member :: rest) settings)
    (unnamed : ∀ field, ¬ Names member.1 field) :
    Sets rest settings where
  spells := (List.forall_mem_cons.mp sets.spells).2
  once := (List.pairwise_cons.mp sets.once).2
  given field _ := sets.given_later (unnamed field)
  missing field notSet := (List.forall_mem_cons.mp (sets.missing field notSet)).2

theorem Sets.tail_of_named
    (sets : Sets (member :: rest) settings)
    (names : Names member.1 field) :
    Sets rest (Function.update settings field none) where
  spells := (List.forall_mem_cons.mp sets.spells).2
  once := (List.pairwise_cons.mp sets.once).2
  given other otherSetting otherSet := by
    have different : other ≠ field := by
      rintro rfl
      rw [Function.update_self] at otherSet
      cases otherSet
    rw [Function.update_of_ne different] at otherSet
    exact sets.given_later (fun namesOther => different (namesOther.unique names)) otherSet
  missing other notSet giver present givenName := by
    by_cases same : other = field
    · exact (List.pairwise_cons.mp sets.once).1 giver present field names (same ▸ givenName)
    · rw [Function.update_of_ne same] at notSet
      exact sets.missing other notSet giver (List.mem_cons_of_mem _ present) givenName

/-- A field that the first member names is set by this member. -/
theorem Sets.given_here
    (sets : Sets (member :: rest) settings)
    (names : Names member.1 field) :
    ∃ setting, Stands field member.2 setting ∧ settings field = some setting := by
  cases isSet : settings field with
  | none => exact absurd names (sets.missing field isSet member List.mem_cons_self)
  | some setting =>
      obtain ⟨giver, present, givenName, stands⟩ := sets.given field setting isSet
      rcases List.mem_cons.mp present with rfl | later
      · exact ⟨setting, stands, rfl⟩
      · exact absurd givenName ((List.pairwise_cons.mp sets.once).1 giver later field names)

end Cons

/-- The first member names no field, or it sets a field that no later member names. -/
theorem sets_cons_iff
    (member : List Json.Piece × Json)
    (rest : List (List Json.Piece × Json))
    (settings : Settings) :
    Sets (member :: rest) settings ↔
      ((∃ key, Json.Spells member.1 key) ∧ (∀ field, ¬ Names member.1 field) ∧
        Sets rest settings) ∨
      ∃ field setting, Names member.1 field ∧ Stands field member.2 setting ∧
        settings field = some setting ∧ Sets rest (Function.update settings field none) := by
  constructor
  · intro sets
    by_cases named : ∃ field, Names member.1 field
    · obtain ⟨field, names⟩ := named
      obtain ⟨setting, stands, isSet⟩ := sets.given_here names
      exact Or.inr ⟨field, setting, names, stands, isSet, sets.tail_of_named names⟩
    · have unnamed := not_exists.mp named
      have spells := sets.spells member List.mem_cons_self
      exact Or.inl ⟨spells, unnamed, sets.tail_of_unnamed unnamed⟩
  · rintro (⟨spells, unnamed, sets⟩ | ⟨field, setting, names, stands, isSet, sets⟩)
    · exact sets.cons_of_unnamed spells unnamed
    · exact sets.cons_of_named names stands isSet

/-! ## Reading members -/

theorem natural?_eq_some_iff (chars : List Char) (value : UInt64) :
    natural? chars = some value ↔
      Text.IsDigits chars ∧ Nat.ofDigitChars 10 chars 0 = value.toNat := by
  rw [natural?]
  split
  next allDigits =>
    rw [List.all_eq_true] at allDigits
    have toOption_iff : (Text.readNumeral chars).toOption = some value ↔
        Text.readNumeral chars = .ok value := by
      cases Text.readNumeral chars <;> simp [Except.toOption]
    rw [toOption_iff, Text.readNumeral_eq_ok_iff]
    constructor
    · rintro (⟨isDigits, value_eq⟩ | _)
      · exact ⟨isDigits, value_eq⟩
      · exact absurd (allDigits '+' List.mem_cons_self) (by decide)
    · rintro ⟨isDigits, value_eq⟩
      exact .plain isDigits value_eq
  next notDigits =>
    refine iff_of_false nofun ?_
    rintro ⟨isDigits, -⟩
    exact notDigits (List.all_eq_true.mpr isDigits.isDigit)

/-- What is set by one member alone. -/
theorem overrides_update_iff
    {base config : Config}
    {field : Field}
    {setting : Option UInt64} :
    Overrides (Function.update (fun _ => none) field (some setting)) base config ↔
      config.get field = setting ∧ ∀ other, other ≠ field → config.get other = base.get other := by
  constructor
  · intro overrides
    refine ⟨?_, fun other different => ?_⟩
    · rw [overrides field, Function.update_self, Option.getD_some]
    · rw [overrides other, Function.update_of_ne different, Option.getD_none]
  · rintro ⟨here, elsewhere⟩ other
    by_cases same : other = field
    · rw [same, here, Function.update_self, Option.getD_some]
    · rw [elsewhere other same, Function.update_of_ne same, Option.getD_none]

/-- What is set can be set one field at a time. -/
theorem overrides_after_iff
    {base assigned : Config}
    {settings : Settings}
    {field : Field}
    {setting : Option UInt64}
    (isSet : settings field = some setting)
    (overridesHere :
      Overrides (Function.update (fun _ => none) field (some setting)) base assigned)
    (result : Config) :
    Overrides (Function.update settings field none) assigned result ↔
      Overrides settings base result := by
  obtain ⟨here, elsewhere⟩ := overrides_update_iff.mp overridesHere
  refine forall_congr' fun other => ?_
  by_cases same : other = field
  · subst same
    rw [Function.update_self, isSet, here]
    rfl
  · rw [Function.update_of_ne same, elsewhere other same]

theorem overrides_set (config : Config) (field : Field) (value : UInt64) :
    Overrides (Function.update (fun _ => none) field (some (some value))) config
      (config.set field value) :=
  overrides_update_iff.mpr
    ⟨config.get_set_self field value, fun _ different => config.get_set_of_ne different value⟩

theorem overrides_clear?
    {config cleared : Config}
    {field : Field}
    (isCleared : config.clear? field = some cleared) :
    field = .maxPendingEvents ∧
      Overrides (Function.update (fun _ => none) field (some none)) config cleared := by
  cases field with
  | maxPendingEvents =>
      cases isCleared
      refine ⟨rfl, overrides_update_iff.mpr ⟨rfl, ?_⟩⟩
      rintro (_ | _ | _ | _ | _) different <;> first | rfl | exact absurd rfl different
  | _ => cases isCleared

/-- A field is assigned what the value stands for, and no other field changes. -/
theorem assign?_of_stands
    {field : Field}
    {value : Json}
    {setting : Option UInt64}
    (stands : Stands field value setting)
    (config : Config) :
    ∃ assigned, config.assign? field value = some assigned ∧
      Overrides (Function.update (fun _ => none) field (some setting)) config assigned := by
  cases stands with
  | @number _ digits number isDigits value_eq =>
      have found := (natural?_eq_some_iff digits number).mpr ⟨isDigits, value_eq⟩
      refine ⟨config.set field number, ?_, overrides_set config field number⟩
      rw [assign?, found, Option.map_some]
  | null => exact ⟨_, rfl, (overrides_clear? rfl).2⟩

/-- There is a configuration that holds what members set. -/
theorem Sets.exists_overrides
    {members : List (List Json.Piece × Json)}
    {settings : Settings}
    (sets : Sets members settings)
    (base : Config) :
    ∃ config, Overrides settings base config := by
  induction members generalizing settings base with
  | nil =>
      refine ⟨base, fun field => ?_⟩
      rw [(sets_nil_iff settings).mp sets field, Option.getD_none]
  | cons member rest inductionHypothesis =>
      rcases (sets_cons_iff member rest settings).mp sets with
        ⟨-, -, setsRest⟩ | ⟨field, setting, -, stands, isSet, setsRest⟩
      · exact inductionHypothesis setsRest base
      · obtain ⟨assigned, -, overridesHere⟩ := assign?_of_stands stands base
        obtain ⟨config, overrides⟩ := inductionHypothesis setsRest assigned
        exact ⟨config, (overrides_after_iff isSet overridesHere config).mp overrides⟩

/-- Nothing is assigned but what a value stands for. -/
theorem stands_of_assign?
    {config assigned : Config}
    {field : Field}
    {value : Json}
    (found : config.assign? field value = some assigned) :
    ∃ setting, Stands field value setting ∧
      Overrides (Function.update (fun _ => none) field (some setting)) config assigned := by
  cases value with
  | number chars =>
      obtain ⟨number, numberFound, rfl⟩ := Option.map_eq_some_iff.mp found
      obtain ⟨isDigits, value_eq⟩ := (natural?_eq_some_iff chars number).mp numberFound
      exact ⟨some number, .number isDigits value_eq, overrides_set config field number⟩
  | null =>
      obtain ⟨rfl, overrides⟩ := overrides_clear? found
      exact ⟨none, .null, overrides⟩
  | bool | string | array | object => cases found

theorem ofMembers?_senseless
    {pieces : List Json.Piece}
    (senseless : ¬ ∃ key, Json.Spells pieces key)
    (config : Config)
    (given : List Field)
    (value : Json)
    (rest : List (List Json.Piece × Json)) :
    ofMembers? config given ((pieces, value) :: rest) = none := by
  have noText : Json.text? pieces = none := by
    rw [Option.eq_none_iff_forall_ne_some]
    exact fun key found => senseless ⟨key, (Json.text?_eq_some_iff _ _).mp found⟩
  simp only [ofMembers?, noText]

theorem ofMembers?_unnamed
    {pieces : List Json.Piece}
    (spells : ∃ key, Json.Spells pieces key)
    (unnamed : ∀ field, ¬ Names pieces field)
    (config : Config)
    (given : List Field)
    (value : Json)
    (rest : List (List Json.Piece × Json)) :
    ofMembers? config given ((pieces, value) :: rest) = ofMembers? config given rest := by
  obtain ⟨key, isKey⟩ := spells
  have noField : Field.ofKey? (String.ofList key) = none := by
    rw [Option.eq_none_iff_forall_ne_some]
    intro field found
    rw [Field.ofKey?_eq_some_iff] at found
    refine unnamed field ?_
    rwa [Names, ← found, String.toList_ofList]
  simp only [ofMembers?, (Json.text?_eq_some_iff _ _).mpr isKey, noField]

theorem ofMembers?_named
    {pieces : List Json.Piece}
    {field : Field}
    (names : Names pieces field)
    (config : Config)
    (given : List Field)
    (value : Json)
    (rest : List (List Json.Piece × Json)) :
    ofMembers? config given ((pieces, value) :: rest) =
      if field ∈ given then none
      else (config.assign? field value).bind fun assigned =>
        ofMembers? assigned (field :: given) rest := by
  simp only [ofMembers?, (Json.text?_eq_some_iff _ _).mpr names, String.ofList_toList,
    Field.ofKey?_key]
  cases config.assign? field value <;> rfl

/-- The first member is passed over if it names no field, and otherwise it sets a field that is not
given yet. -/
theorem ofMembers?_cons_eq_some_iff
    (config : Config)
    (given : List Field)
    (member : List Json.Piece × Json)
    (rest : List (List Json.Piece × Json))
    (result : Config) :
    ofMembers? config given (member :: rest) = some result ↔
      ((∃ key, Json.Spells member.1 key) ∧ (∀ field, ¬ Names member.1 field) ∧
        ofMembers? config given rest = some result) ∨
      ∃ field setting assigned, Names member.1 field ∧ Stands field member.2 setting ∧
        field ∉ given ∧
          Overrides (Function.update (fun _ => none) field (some setting)) config assigned ∧
            ofMembers? assigned (field :: given) rest = some result := by
  obtain ⟨pieces, value⟩ := member
  constructor
  · intro found
    by_cases spells : ∃ key, Json.Spells pieces key
    · by_cases named : ∃ field, Names pieces field
      · obtain ⟨field, names⟩ := named
        rw [ofMembers?_named names] at found
        obtain ⟨isNew, found⟩ := Option.ite_none_left_eq_some.mp found
        obtain ⟨assigned, isAssigned, found⟩ := Option.bind_eq_some_iff.mp found
        obtain ⟨setting, stands, overrides⟩ := stands_of_assign? isAssigned
        exact Or.inr ⟨field, setting, assigned, names, stands, isNew, overrides, found⟩
      · have unnamed := not_exists.mp named
        rw [ofMembers?_unnamed spells unnamed] at found
        exact Or.inl ⟨spells, unnamed, found⟩
    · rw [ofMembers?_senseless spells] at found
      cases found
  · rintro (⟨spells, unnamed, found⟩ |
      ⟨field, setting, assigned, names, stands, isNew, overrides, found⟩)
    · rwa [ofMembers?_unnamed spells unnamed]
    · obtain ⟨assignedToo, isAssigned, overridesToo⟩ := assign?_of_stands stands config
      obtain rfl := overrides.unique overridesToo
      rwa [ofMembers?_named names, if_neg isNew, isAssigned, Option.bind_some]

/-- Members make a configuration out of another one exactly if they set fields that are not given
yet, and then nothing changes but what they set. -/
theorem ofMembers?_eq_some_iff
    (config : Config)
    (given : List Field)
    (members : List (List Json.Piece × Json))
    (result : Config) :
    ofMembers? config given members = some result ↔
      ∃ settings, Sets members settings ∧ (∀ field ∈ given, settings field = none) ∧
        Overrides settings config result := by
  induction members generalizing config given with
  | nil =>
      constructor
      · rintro ⟨rfl⟩
        exact ⟨fun _ => none, (sets_nil_iff _).mpr fun _ => rfl, fun _ _ => rfl, fun _ => rfl⟩
      · rintro ⟨settings, sets, -, overrides⟩
        have same : result = config := eq_of_get fun field => by
          rw [overrides field, (sets_nil_iff settings).mp sets field, Option.getD_none]
        rw [same, ofMembers?]
  | cons member rest inductionHypothesis =>
      simp only [ofMembers?_cons_eq_some_iff, inductionHypothesis]
      constructor
      · rintro (⟨spells, unnamed, settings, sets, unset⟩ |
          ⟨field, setting, assigned, names, stands, isNew, overridesHere, settings, sets, unset,
            overrides⟩)
        · exact ⟨settings, sets.cons_of_unnamed spells unnamed, unset⟩
        · have notLater :
              Function.update (Function.update settings field (some setting)) field none =
                settings := by
            rw [Function.update_idem, ← unset field List.mem_cons_self, Function.update_eq_self]
          have isSet : Function.update settings field (some setting) field = some setting :=
            Function.update_self ..
          rw [← notLater] at sets overrides
          refine ⟨_, sets.cons_of_named names stands isSet, ?_,
            (overrides_after_iff isSet overridesHere result).mp overrides⟩
          intro other isGiven
          have different : other ≠ field := fun same => isNew (same ▸ isGiven)
          rw [Function.update_of_ne different]
          exact unset other (List.mem_cons_of_mem _ isGiven)
      · rintro ⟨settings, sets, unset, overrides⟩
        rcases (sets_cons_iff _ _ _).mp sets with
          ⟨spells, unnamed, setsRest⟩ | ⟨field, setting, names, stands, isSet, setsRest⟩
        · exact Or.inl ⟨spells, unnamed, settings, setsRest, unset, overrides⟩
        · obtain ⟨assigned, -, overridesHere⟩ := assign?_of_stands stands config
          have isNew : field ∉ given := by
            intro isGiven
            rw [unset field isGiven] at isSet
            cases isSet
          refine Or.inr ⟨field, setting, assigned, names, stands, isNew, overridesHere, _, setsRest,
            ?_, (overrides_after_iff isSet overridesHere result).mpr overrides⟩
          intro other isGiven
          rcases List.mem_cons.mp isGiven with rfl | isGiven
          · exact Function.update_self ..
          · have different : other ≠ field := fun same => isNew (same ▸ isGiven)
            rw [Function.update_of_ne different, unset other isGiven]

/-! ## Reading items -/

/-- The values of members that name fields in their order are read like items. -/
theorem ofMembers?_eq_ofItems?
    {members : List (List Json.Piece × Json)}
    {named : List Field}
    (inOrder : List.Forall₂ (fun member field => Names member.1 field) members named)
    (others : List Field)
    (config : Config)
    {given : List Field}
    (distinct : (named ++ given).Nodup) :
    ofMembers? config given members =
      ofItems? config (named ++ others) (members.map Prod.snd) := by
  induction inOrder generalizing config given with
  | nil => cases others <;> rfl
  | @cons member field members named names _ inductionHypothesis =>
      obtain ⟨pieces, value⟩ := member
      rw [List.cons_append, List.nodup_cons, List.mem_append, not_or] at distinct
      obtain ⟨⟨notNamed, isNew⟩, distinct⟩ := distinct
      have stillDistinct : (named ++ field :: given).Nodup := by
        rw [List.nodup_middle, List.nodup_cons, List.mem_append, not_or]
        exact ⟨⟨notNamed, isNew⟩, distinct⟩
      rw [ofMembers?_named names, if_neg isNew, List.map_cons, List.cons_append, ofItems?]
      cases config.assign? field value with
      | none => rfl
      | some assigned => exact inductionHypothesis assigned stillDistinct

/-! ## Reading texts -/

/-- An object is the object of a configuration exactly if its members set fields. -/
theorem ofJson?_object_eq_some_iff
    (members : List (List Json.Piece × Json))
    (config : Config) :
    ofJson? (.object members) = some config ↔
      ∃ settings, Sets members settings ∧ Overrides settings standard config := by
  rw [ofJson?, ofMembers?_eq_some_iff]
  simp

theorem ofText_of_isText
    {text : String}
    {value : Json}
    (isText : Json.IsText text value) :
    ofText text =
      match ofJson? value with
      | none => .error .malformed
      | some config => config.validate.mapError .invalid := by
  rw [ofText, Json.read?_of_isText isText]
  rfl

/-- Two objects that set the same fields are read alike, and so is an object whose members are put
in another order, whatever they are. -/
theorem ofJson?_object_congr
    {members others : List (List Json.Piece × Json)}
    (alike : ∀ settings, Sets members settings ↔ Sets others settings) :
    ofJson? (.object members) = ofJson? (.object others) := by
  refine Option.ext fun config => ?_
  rw [ofJson?_object_eq_some_iff, ofJson?_object_eq_some_iff]
  simp only [alike]

/-- The reading of a text depends on the fields that it sets and on nothing else.  The members of
an object may have any order, any spelling of their keys, any white space around them and any
other members among them.  The items of an array are read like the values of the first fields.  A
field that is named twice makes a text malformed, whatever the rest of it is. -/
theorem ofText_depends_on_fields :
    (∀ text members settings, Json.IsText text (.object members) → Sets members settings →
      ∃ config, Overrides settings standard config ∧
        ofText text = config.validate.mapError .invalid) ∧
    (∀ text other members others settings,
      Json.IsText text (.object members) → Json.IsText other (.object others) →
        Sets members settings → Sets others settings → ofText other = ofText text) ∧
    (∀ text other members others,
      Json.IsText text (.object members) → Json.IsText other (.object others) →
        members.Perm others → ofText other = ofText text) ∧
    (∀ text other members, Json.IsText text (.object members) →
      List.Forall₂ (fun member field => Names member.1 field) members
        (Field.all.take members.length) →
        Json.IsText other (.array (members.map Prod.snd)) → ofText other = ofText text) ∧
    ∀ text before member between again after field,
      Json.IsText text (.object (before ++ member :: (between ++ again :: after))) →
        Names member.1 field → Names again.1 field → ofText text = .error .malformed := by
  have reads : ∀ text members settings, Json.IsText text (.object members) →
      Sets members settings → ∃ config, Overrides settings standard config ∧
        ofText text = config.validate.mapError .invalid := by
    intro text members settings isText sets
    obtain ⟨config, overrides⟩ := sets.exists_overrides standard
    have isRead := (ofJson?_object_eq_some_iff members config).mpr ⟨settings, sets, overrides⟩
    exact ⟨config, overrides, by rw [ofText_of_isText isText, isRead]⟩
  refine ⟨reads, ?_, ?_, ?_, ?_⟩
  · intro text other members others settings isText isTextToo sets setsToo
    obtain ⟨config, overrides, isRead⟩ := reads text members settings isText sets
    obtain ⟨otherConfig, overridesToo, isReadToo⟩ := reads other others settings isTextToo setsToo
    rw [isRead, isReadToo, overrides.unique overridesToo]
  · intro text other members others isText isTextToo permuted
    have sameValue := ofJson?_object_congr fun settings =>
      ⟨fun sets : Sets members settings => sets.perm permuted,
        fun sets : Sets others settings => sets.perm permuted.symm⟩
    rw [ofText_of_isText isText, ofText_of_isText isTextToo, sameValue]
  · intro text other members isText inOrder isTextToo
    have distinct : (Field.all.take members.length ++ []).Nodup := by
      rw [List.append_nil]
      exact List.Nodup.sublist (List.take_sublist _ _) (by decide)
    have sameValue :=
      ofMembers?_eq_ofItems? inOrder (Field.all.drop members.length) standard distinct
    rw [List.take_append_drop] at sameValue
    rw [ofText_of_isText isText, ofText_of_isText isTextToo, ofJson?, ofJson?, sameValue]
  · intro text before member between again after field isText names namesAgain
    rw [ofText_of_isText isText]
    cases found : ofJson? (.object (before ++ member :: (between ++ again :: after))) with
    | none => rfl
    | some config =>
        obtain ⟨settings, sets, -⟩ := (ofJson?_object_eq_some_iff _ config).mp found
        have onceInRest := (List.pairwise_append.mp sets.once).2.1
        have apart := (List.pairwise_cons.mp onceInRest).1 again (by simp)
        exact absurd namesAgain (apart field names)

/-- Members of which the first names no field and the second is written with an escape. -/
def strayMembers : List (List Json.Piece × Json) :=
  [("x".toList.map .char,
      .array [.object [("max_pending_events".toList.map .char, .number ['0'])]]),
    ("max_poll_wait_m".toList.map .char ++ [.unit 0x73], .number ['8']),
    ("min_queue_capacity".toList.map .char, .number ['7'])]

/-- A text of these members with some white space. -/
def strayText : String :=
  "\x7b\"x\":[\x7b\"max_pending_events\":0\x7d],\"max_poll_wait_m\\u0073\" : 8," ++
    "\n\"min_queue_capacity\":7\x7d"

/-- What these members set. -/
def straySettings : Settings
  | .minQueueCapacity => some (some 7)
  | .maxPollWait => some (some 8)
  | _ => none

theorem numberText_digit
    {digit : Char}
    (isDigit : digit.isDigit = true) :
    Json.NumberText [digit] := by
  refine Json.WholeText.numberText ?_
  by_cases isZero : digit = '0'
  · rw [isZero]
    exact .zero
  · exact .positive ⟨List.cons_ne_nil _ _, by simpa using isDigit⟩ (by simpa using isZero)

theorem writesMember_digit
    (key : String)
    (digit : Char)
    (allPlain : ∀ char ∈ key.toList, Json.IsPlain char)
    (isDigit : digit.isDigit = true) :
    Json.WritesMember (key.toList.map .char, .number [digit])
      ('"' :: (key.toList ++ '"' :: ':' :: [digit])) :=
  ⟨key.toList, [digit], allPlain, rfl, .number (numberText_digit isDigit), rfl⟩

theorem isText_strayText : Json.IsText strayText (.object strayMembers) := by
  have isInner : Json.MembersText [("max_pending_events".toList.map .char, .number ['0'])] _ :=
    Json.membersText_of_writesMember
      (.cons (writesMember_digit "max_pending_events" '0' (by decide) rfl) .nil)
      (List.cons_ne_nil _ _)
  have isArray := Json.ValueText.array (.last Json.isBlank_nil (.object isInner) Json.isBlank_nil)
  have isFirstKey : Json.StringText ("x".toList.map .char) _ := .plain_close (by decide)
  have isUnit : Json.hexUnit? '0' '0' '7' '3' = some 0x73 := by decide
  have isEscapedKey : Json.StringText ("max_poll_wait_m".toList.map .char ++ [.unit 0x73]) _ :=
    .plain (by decide) (.unit isUnit .close)
  have isLastKey : Json.StringText ("min_queue_capacity".toList.map .char) _ :=
    .plain_close (by decide)
  have none : Json.IsBlank [] := Json.isBlank_nil
  have space : Json.IsBlank [' '] := by decide
  have newLine : Json.IsBlank ['\n'] := by decide
  have isLast := Json.MembersText.last newLine isLastKey none none
    (.number (numberText_digit (by decide : '7'.isDigit = true))) none
  have isSecond := Json.MembersText.more none isEscapedKey space space
    (.number (numberText_digit (by decide : '8'.isDigit = true))) none isLast
  have isFirst := Json.MembersText.more none isFirstKey none none isArray none isSecond
  exact ⟨[], _, [], none, .object isFirst, none, by decide⟩

theorem sets_strayMembers : Sets strayMembers straySettings := by
  have isKey : Json.Spells ("x".toList.map .char) "x".toList := by decide
  refine (sets_cons_iff _ _ _).mpr (Or.inl ⟨⟨_, isKey⟩, ?_, ?_⟩)
  · intro field
    cases field <;> decide
  refine (sets_cons_iff _ _ _).mpr (Or.inr ⟨.maxPollWait, some 8, by decide,
    .number ⟨by decide, by decide⟩ (by decide), rfl, ?_⟩)
  refine (sets_cons_iff _ _ _).mpr (Or.inr ⟨.minQueueCapacity, some 7, by decide,
    .number ⟨by decide, by decide⟩ (by decide), by decide, ?_⟩)
  refine (sets_nil_iff _).mpr fun field => ?_
  cases field <;> decide

theorem ofText_depends_on_fields_stray :
    Json.IsText strayText (.object strayMembers) ∧
      Sets strayMembers straySettings ∧
      ofText strayText = .ok { standard with minQueueCapacity := 7, maxPollWait := 8 } ∧
      ofText "[7,8]" =
        ofText "\x7b\"min_queue_capacity\":7,\"max_poll_wait_ms\":8\x7d" ∧
      ofText "\x7b\"max_poll_wait_ms\":8,\"min_queue_capacity\":7\x7d" =
        ofText "\x7b\"min_queue_capacity\":7,\"max_poll_wait_ms\":8\x7d" ∧
      ofText "\x7b\"monitored_hosts\":1,\"x\":0,\"monitored_hosts\":1\x7d" =
        .error .malformed := by
  obtain ⟨reads, -, reordered, items, twice⟩ := ofText_depends_on_fields
  obtain ⟨config, overrides, isRead⟩ :=
    reads strayText strayMembers straySettings isText_strayText sets_strayMembers
  have config_eq : config = { standard with minQueueCapacity := 7, maxPollWait := 8 } := by
    refine eq_of_get fun field => ?_
    rw [overrides field]
    cases field <;> rfl
  have capacity := writesMember_digit "min_queue_capacity" '7' (by decide) rfl
  have wait := writesMember_digit "max_poll_wait_ms" '8' (by decide) rfl
  have stray := writesMember_digit "x" '0' (by decide) rfl
  have hosts := writesMember_digit "monitored_hosts" '1' (by decide) rfl
  have isOrdered : Json.IsText "\x7b\"min_queue_capacity\":7,\"max_poll_wait_ms\":8\x7d" _ :=
    Json.isText_of_writesMember (.cons capacity (.cons wait .nil)) (List.cons_ne_nil _ _)
      (by decide)
  have isReordered : Json.IsText "\x7b\"max_poll_wait_ms\":8,\"min_queue_capacity\":7\x7d" _ :=
    Json.isText_of_writesMember (.cons wait (.cons capacity .nil)) (List.cons_ne_nil _ _)
      (by decide)
  have isTwice : Json.IsText
      "\x7b\"monitored_hosts\":1,\"x\":0,\"monitored_hosts\":1\x7d" _ :=
    Json.isText_of_writesMember (.cons hosts (.cons stray (.cons hosts .nil)))
      (List.cons_ne_nil _ _) (by decide)
  have none : Json.IsBlank [] := Json.isBlank_nil
  have isItems : Json.IsText "[7,8]" (.array [.number ['7'], .number ['8']]) :=
    ⟨[], _, [], none, .array (.more none (.number (numberText_digit rfl)) none
      (.last none (.number (numberText_digit rfl)) none)), none, by decide⟩
  refine ⟨isText_strayText, sets_strayMembers, ?_, ?_, ?_, ?_⟩
  · rw [isRead, config_eq]
    rfl
  · exact items _ _ _ isOrdered (.cons (by decide) (.cons (by decide) .nil)) isItems
  · exact reordered _ _ _ _ isOrdered isReordered (.swap _ _ _)
  · exact twice _ [] _ [_] _ [] .monitoredHosts isTwice (by decide) (by decide)

end Config
end Agenda
