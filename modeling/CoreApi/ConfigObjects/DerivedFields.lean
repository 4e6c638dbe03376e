import Mathlib.Logic.Relation
import CoreApi.Foundation.StableSorting
import CoreApi.ConfigObjects.DerivedRuntime

/-!
# Well-defined derived fields

The value of a derived field is to be that of its formula on the final values of the
fields it reads, whatever the order of the registry, and a manifest is to show the value
of an instance that stores nothing. One pass over a partial record gives that for
formulas over plain fields: it does not see the core row, nor the derived fields whose
turn is still to come, and a manifest passes over the defaults of derived fields.
-/

namespace CoreApi.ConfigObjects

open CoreApi.Foundation DerivedRuntimeConfig

/-! ## What derived fields owe -/

/-- The field of a key is derived from that of the other. -/
def ReadsField (fieldRegistry : List CoreFieldDescriptor) (fieldKey source : String) : Prop :=
  ∃ descriptor ∈ fieldRegistry, descriptor.fieldKey = fieldKey ∧
    ∃ config, derivedConfigOf descriptor = some config ∧ source ∈ config.sourceKeys

/-- No field is derived from itself, be it through other fields. -/
def AcyclicFields (fieldRegistry : List CoreFieldDescriptor) : Prop :=
  ∀ fieldKey, ¬Relation.TransGen (ReadsField fieldRegistry) fieldKey fieldKey

/-- The value that a field has in the end: that of the core row for a column of it, and else that
of the merged fields. -/
def finalValue (coreColumns : List String) (core : String → Json) (dynamicFields : Record)
    (fieldKey : String) : Option Json :=
  if fieldKey ∈ coreColumns then some (core fieldKey) else dynamicFields.get? fieldKey

/-- The derived fields of a registry have the values of their formulas, in every arrangement of
the registry and for every record, and a manifest shows them as they are where nothing is stored. -/
structure DerivesFaithfully (coreColumns : List String) (fields : List ConfigObjectFieldEntity)
    (fieldRegistry : List CoreFieldDescriptor) : Prop where
  evaluates : ∀ arranged, arranged.Perm fieldRegistry → ∀ core source,
    ∀ descriptor ∈ fieldRegistry, ∀ config, derivedConfigOf descriptor = some config →
      source.get? descriptor.fieldKey = none →
        (dynamicFieldsOf arranged fields source).get? descriptor.fieldKey =
          some (Json.ofText (evaluateDerivedRuntimeValue config
            (finalValue coreColumns core (dynamicFieldsOf arranged fields source))))
  independent : ∀ arranged, arranged.Perm fieldRegistry → ∀ source,
    (dynamicFieldsOf arranged fields source).get? =
      (dynamicFieldsOf fieldRegistry fields source).get?
  previewed : ∀ arranged, arranged.Perm fieldRegistry →
    ∀ descriptor ∈ fieldRegistry, ∀ config, derivedConfigOf descriptor = some config →
      (buildDerivedRuntimeResolvedBlock arranged fields).valuesByFieldKey.get?
          descriptor.fieldKey =
        (dynamicFieldsOf arranged fields []).get? descriptor.fieldKey

/-- Derived fields have no defaults, and read neither core columns nor derived fields. -/
structure ReadPlainFields (coreColumns : List String) (fields : List ConfigObjectFieldEntity)
    (fieldRegistry : List CoreFieldDescriptor) : Prop where
  noDefault : ∀ descriptor ∈ fieldRegistry, (derivedConfigOf descriptor).isSome = true →
    ∀ field ∈ fields, field.fieldKey = descriptor.fieldKey → field.defaultValue = .null
  notCore : ∀ descriptor ∈ fieldRegistry, ∀ config, derivedConfigOf descriptor = some config →
    ∀ source ∈ config.sourceKeys, source ∉ coreColumns
  notDerived : ∀ descriptor ∈ fieldRegistry, ∀ config, derivedConfigOf descriptor = some config →
    ∀ source ∈ config.sourceKeys, ∀ other ∈ fieldRegistry,
      (derivedConfigOf other).isSome = true → other.fieldKey ≠ source

/-- The descriptors have formulas over the same fields, or none. -/
def SameReads (descriptor other : CoreFieldDescriptor) : Prop :=
  descriptor.fieldKey = other.fieldKey ∧
    (derivedConfigOf descriptor).map sourceFieldKeys = (derivedConfigOf other).map sourceFieldKeys

/-- The fields have defaults, or none. -/
def SameDefault (field other : ConfigObjectFieldEntity) : Prop :=
  field.fieldKey = other.fieldKey ∧ (field.defaultValue = .null ↔ other.defaultValue = .null)

section

variable {coreColumns : List String} {fields : List ConfigObjectFieldEntity}
  {fieldRegistry arranged : List CoreFieldDescriptor} {descriptor : CoreFieldDescriptor}
  {config : DerivedRuntimeConfig} {source : Record}

/-! ## Rules of a registry -/

theorem mem_derivedRules {rule : Rule String Json} : rule ∈ derivedRules fieldRegistry ↔
    ∃ descriptor ∈ fieldRegistry, ∃ config, derivedConfigOf descriptor = some config ∧
      derivedRule descriptor.fieldKey config = rule := by
  simp [derivedRules]

theorem targets_sublist :
    ((derivedRules fieldRegistry).map Rule.target).Sublist
      (fieldRegistry.map CoreFieldDescriptor.fieldKey) := by
  induction fieldRegistry with
  | nil => exact List.Sublist.slnil
  | cons descriptor rest ih =>
      cases isDerived : derivedConfigOf descriptor with
      | none =>
          rw [derivedRules, List.filterMap_cons_none (by rw [isDerived]; rfl), ← derivedRules]
          exact ih.cons _
      | some config =>
          rw [derivedRules, List.filterMap_cons_some (by rw [isDerived]; rfl), ← derivedRules]
          exact ih.cons_cons _

theorem distinct_targets (distinct : (fieldRegistry.map CoreFieldDescriptor.fieldKey).Nodup) :
    ((derivedRules fieldRegistry).map Rule.target).Nodup :=
  distinct.sublist targets_sublist

theorem perm_derivedRules (same : arranged.Perm fieldRegistry) :
    (derivedRules arranged).Perm (derivedRules fieldRegistry) :=
  same.filterMap _

theorem ReadPlainFields.readNoTargets (plain : ReadPlainFields coreColumns fields fieldRegistry) :
    ReadNoTargets (derivedRules fieldRegistry) := by
  intro rule member key isSource isTarget
  obtain ⟨descriptor, isField, config, isDerived, rfl⟩ := mem_derivedRules.mp member
  obtain ⟨_, isRule, rfl⟩ := List.mem_map.mp isTarget
  obtain ⟨other, isOther, otherConfig, otherDerived, rfl⟩ := mem_derivedRules.mp isRule
  exact plain.notDerived descriptor isField config isDerived _ isSource other isOther
    (by rw [otherDerived]; rfl) rfl

/-! ## What is stored -/

theorem get?_storedFields_eq_none {fieldKey : String} (missing : source.get? fieldKey = none)
    (noDefault : ∀ field ∈ fields, field.fieldKey = fieldKey → field.defaultValue = .null) :
    (storedFields fields source).get? fieldKey = none := by
  refine Record.get?_spread_of_not_mem fun isStored => ?_
  obtain ⟨entry, stored, rfl⟩ := List.mem_map.mp isStored
  obtain ⟨field, member, isEntry⟩ := List.mem_filterMap.mp stored
  unfold dynamicField at isEntry
  split at isEntry
  · next value given =>
      cases isEntry
      rw [missing] at given
      cases given
  · split at isEntry
    · cases isEntry
    · next hasDefault =>
        cases isEntry
        exact hasDefault (noDefault field member rfl)

/-- What an instance has that stores nothing is a default. -/
theorem default_of_get?_storedFields {fieldKey : String} {value : Json}
    (stored : (storedFields fields []).get? fieldKey = some value) :
    ∃ field ∈ fields, field.fieldKey = fieldKey ∧ field.defaultValue = value ∧ value ≠ .null := by
  have isName : fieldKey ∈ Record.names (fields.filterMap (dynamicField [])) := by
    by_contra notName
    have missing : (storedFields fields []).get? fieldKey = none :=
      Record.get?_spread_of_not_mem notName
    exact absurd (stored.symm.trans missing) nofun
  obtain ⟨found, member, isFound⟩ := @Record.get?_spread_of_mem [] _ _ isName
  obtain rfl : found = value := Option.some.inj (isFound.symm.trans stored)
  obtain ⟨field, isField, isEntry⟩ := List.mem_filterMap.mp member
  have hasDefault : field.defaultValue ≠ .null := by
    intro isNull
    rw [dynamicField, show Record.get? [] field.fieldKey = none from rfl] at isEntry
    simp [isNull] at isEntry
  rw [dynamicField, show Record.get? [] field.fieldKey = none from rfl] at isEntry
  simp only [if_neg hasDefault, Option.some.injEq, Prod.mk.injEq] at isEntry
  exact ⟨field, isField, isEntry.1, isEntry.2, isEntry.2 ▸ hasDefault⟩

theorem missing_of_plain (plain : ReadPlainFields coreColumns fields fieldRegistry)
    (isField : descriptor ∈ fieldRegistry) (isDerived : derivedConfigOf descriptor = some config)
    (missing : source.get? descriptor.fieldKey = none) :
    (storedFields fields source).get? descriptor.fieldKey = none :=
  get?_storedFields_eq_none missing
    (plain.noDefault descriptor isField (by rw [isDerived]; rfl))

/-! ## Formulas over plain fields -/

/-- In every arrangement a formula over plain fields has its value on what is stored. -/
theorem derived_of_plain (plain : ReadPlainFields coreColumns fields fieldRegistry)
    (distinct : (fieldRegistry.map CoreFieldDescriptor.fieldKey).Nodup)
    (same : arranged.Perm fieldRegistry) (isField : descriptor ∈ fieldRegistry)
    (isDerived : derivedConfigOf descriptor = some config)
    (missing : source.get? descriptor.fieldKey = none) :
    (dynamicFieldsOf arranged fields source).get? descriptor.fieldKey =
      some (Json.ofText (evaluateDerivedRuntimeValue config (storedFields fields source).get?)) := by
  unfold dynamicFieldsOf
  rw [get?_applyDerivedRuntimeFields,
    fillAll_perm (perm_derivedRules same) (distinct_targets distinct) plain.readNoTargets]
  have isRule : derivedRule descriptor.fieldKey config ∈ derivedRules fieldRegistry :=
    mem_derivedRules.mpr ⟨descriptor, isField, config, isDerived, rfl⟩
  exact fillAll_of_readNoTargets (distinct_targets distinct) plain.readNoTargets isRule
    (missing_of_plain plain isField isDerived missing)

/-- The sources of a formula over plain fields have in the end what is stored of them. -/
theorem finalValue_of_plain (plain : ReadPlainFields coreColumns fields fieldRegistry)
    (same : arranged.Perm fieldRegistry) (isField : descriptor ∈ fieldRegistry)
    (isDerived : derivedConfigOf descriptor = some config) (core : String → Json) {key : String}
    (isSource : key ∈ config.sourceKeys) :
    finalValue coreColumns core (dynamicFieldsOf arranged fields source) key =
      (storedFields fields source).get? key := by
  unfold finalValue
  rw [if_neg (plain.notCore descriptor isField config isDerived key isSource)]
  unfold dynamicFieldsOf
  rw [get?_applyDerivedRuntimeFields]
  refine fillAll_of_not_target fun isTarget => ?_
  refine plain.readNoTargets (derivedRule descriptor.fieldKey config)
    (mem_derivedRules.mpr ⟨descriptor, isField, config, isDerived, rfl⟩) key isSource ?_
  exact ((perm_derivedRules same).map _).subset isTarget

/-- The values of a manifest are those of the formulas on the defaults. -/
theorem valuesByFieldKey_of_derived
    (distinct : (fieldRegistry.map CoreFieldDescriptor.fieldKey).Nodup)
    (isField : descriptor ∈ fieldRegistry) (isDerived : derivedConfigOf descriptor = some config) :
    (buildDerivedRuntimeResolvedBlock fieldRegistry fields).valuesByFieldKey.get?
        descriptor.fieldKey =
      some (Json.ofText (evaluateDerivedRuntimeValue config (defaultFields fields).get?)) := by
  have isShown : (descriptor.fieldKey, config) ∈ fieldRegistry.filterMap fun descriptor =>
      (derivedConfigOf descriptor).map fun config => (descriptor.fieldKey, config) :=
    List.mem_filterMap.mpr ⟨descriptor, isField, by rw [isDerived]; rfl⟩
  unfold buildDerivedRuntimeResolvedBlock
  dsimp only
  have isName : descriptor.fieldKey ∈ Record.names ((fieldRegistry.filterMap fun descriptor =>
      (derivedConfigOf descriptor).map fun config => (descriptor.fieldKey, config)).map
        fun field => (field.1, Json.ofText
          (evaluateDerivedRuntimeValue field.2 (defaultFields fields).get?))) :=
    List.mem_map.mpr ⟨_, List.mem_map.mpr ⟨_, isShown, rfl⟩, rfl⟩
  obtain ⟨value, member, found⟩ := @Record.get?_spread_of_mem [] _ _ isName
  rw [found]
  obtain ⟨shown, isOther, isValue⟩ := List.mem_map.mp member
  obtain ⟨other, otherField, otherShown⟩ := List.mem_filterMap.mp isOther
  obtain ⟨otherConfig, otherDerived, rfl⟩ := Option.map_eq_some_iff.mp otherShown
  have sameKey : other.fieldKey = descriptor.fieldKey := congrArg Prod.fst isValue
  obtain rfl : other = descriptor := List.inj_on_of_nodup_map distinct otherField isField sameKey
  obtain rfl : otherConfig = config := Option.some.inj (otherDerived.symm.trans isDerived)
  exact congrArg some (congrArg Prod.snd isValue).symm

/-- Formulas over plain fields are derived faithfully. -/
theorem derivesFaithfully_of_plain
    (distinct : (fieldRegistry.map CoreFieldDescriptor.fieldKey).Nodup)
    (plain : ReadPlainFields coreColumns fields fieldRegistry) :
    DerivesFaithfully coreColumns fields fieldRegistry where
  evaluates arranged same core source descriptor isField config isDerived missing := by
    rw [derived_of_plain plain distinct same isField isDerived missing]
    refine congrArg some (congrArg Json.ofText (evaluateDerivedRuntimeValue_congr ?_))
    intro key isSource
    exact (finalValue_of_plain plain same isField isDerived core isSource).symm
  independent arranged same source := by
    unfold dynamicFieldsOf
    rw [get?_applyDerivedRuntimeFields, get?_applyDerivedRuntimeFields,
      fillAll_perm (perm_derivedRules same) (distinct_targets distinct) plain.readNoTargets]
  previewed arranged same descriptor isField config isDerived := by
    rw [derived_of_plain plain distinct same isField isDerived rfl, storedFields_nil,
      valuesByFieldKey_of_derived ((same.map _).nodup_iff.mpr distinct) (same.mem_iff.mpr isField)
        isDerived]

/-! ## Formulas over the same fields -/

theorem derivedConfigOf_of_sameReads {other : CoreFieldDescriptor}
    (same : SameReads descriptor other) :
    ((derivedConfigOf descriptor).isSome = true ↔ (derivedConfigOf other).isSome = true) ∧
      ∀ config, derivedConfigOf other = some config →
        ∃ ofSame, derivedConfigOf descriptor = some ofSame ∧
          ofSame.sourceKeys = config.sourceKeys := by
  obtain ⟨_, reads⟩ := same
  cases isDerived : derivedConfigOf descriptor with
  | none =>
      cases otherDerived : derivedConfigOf other with
      | none => exact ⟨Iff.rfl, nofun⟩
      | some config => rw [isDerived, otherDerived] at reads; cases reads
  | some ofSame =>
      cases otherDerived : derivedConfigOf other with
      | none => rw [isDerived, otherDerived] at reads; cases reads
      | some config =>
          rw [isDerived, otherDerived] at reads
          refine ⟨iff_of_true rfl rfl, fun found isFound => ⟨ofSame, rfl, ?_⟩⟩
          cases isFound
          exact congrArg (List.map Subtype.val) (Option.some.inj reads)

theorem fieldKeys_of_sameReads {fieldRegistry' : List CoreFieldDescriptor}
    (same : List.Forall₂ SameReads fieldRegistry fieldRegistry') :
    fieldRegistry'.map CoreFieldDescriptor.fieldKey =
      fieldRegistry.map CoreFieldDescriptor.fieldKey := by
  induction same with
  | nil => rfl
  | cons sameFirst _ ih => rw [List.map_cons, List.map_cons, ih, sameFirst.1]

/-- Whether formulas read plain fields shows in what they read and in which fields have defaults. -/
theorem ReadPlainFields.of_same {fields' : List ConfigObjectFieldEntity}
    {fieldRegistry' : List CoreFieldDescriptor}
    (plain : ReadPlainFields coreColumns fields fieldRegistry)
    (sameFields : List.Forall₂ SameDefault fields fields')
    (sameReads : List.Forall₂ SameReads fieldRegistry fieldRegistry') :
    ReadPlainFields coreColumns fields' fieldRegistry' := by
  have original {other : CoreFieldDescriptor} (isOther : other ∈ fieldRegistry') :
      ∃ descriptor ∈ fieldRegistry, SameReads descriptor other := by
    obtain ⟨i, bound, rfl⟩ := List.getElem_of_mem isOther
    have bound' : i < fieldRegistry.length := by rw [sameReads.length_eq]; exact bound
    exact ⟨_, List.getElem_mem bound', List.Forall₂.get sameReads bound' bound⟩
  have originalField {other : ConfigObjectFieldEntity} (isOther : other ∈ fields') :
      ∃ field ∈ fields, SameDefault field other := by
    obtain ⟨i, bound, rfl⟩ := List.getElem_of_mem isOther
    have bound' : i < fields.length := by rw [sameFields.length_eq]; exact bound
    exact ⟨_, List.getElem_mem bound', List.Forall₂.get sameFields bound' bound⟩
  refine ⟨?_, ?_, ?_⟩
  · intro other isOther isDerived field isField sameKey
    obtain ⟨descriptor, isDescriptor, same⟩ := original isOther
    obtain ⟨originalOf, isOriginal, sameDefault⟩ := originalField isField
    exact sameDefault.2.mp (plain.noDefault descriptor isDescriptor
      ((derivedConfigOf_of_sameReads same).1.mpr isDerived) originalOf isOriginal
      ((sameDefault.1.trans sameKey).trans same.1.symm))
  · intro other isOther config isDerived source isSource
    obtain ⟨descriptor, isDescriptor, same⟩ := original isOther
    obtain ⟨ofSame, sameDerived, sameKeys⟩ := (derivedConfigOf_of_sameReads same).2 config isDerived
    exact plain.notCore descriptor isDescriptor ofSame sameDerived source (sameKeys ▸ isSource)
  · intro other isOther config isDerived source isSource another isAnother anotherDerived
    obtain ⟨descriptor, isDescriptor, same⟩ := original isOther
    obtain ⟨ofSame, sameDerived, sameKeys⟩ := (derivedConfigOf_of_sameReads same).2 config isDerived
    obtain ⟨twin, isTwin, sameTwin⟩ := original isAnother
    exact sameTwin.1 ▸ plain.notDerived descriptor isDescriptor ofSame sameDerived source
      (sameKeys ▸ isSource) twin isTwin
      ((derivedConfigOf_of_sameReads sameTwin).1.mpr anotherDerived)

/-! ## The first derived fields of a registry -/

theorem dynamicFieldsOf_first {rest : List CoreFieldDescriptor}
    (distinct : ((descriptor :: rest).map CoreFieldDescriptor.fieldKey).Nodup)
    (isDerived : derivedConfigOf descriptor = some config)
    (missing : (storedFields fields source).get? descriptor.fieldKey = none) :
    (dynamicFieldsOf (descriptor :: rest) fields source).get? descriptor.fieldKey =
      some (Json.ofText (evaluateDerivedRuntimeValue config (storedFields fields source).get?)) := by
  have rules : derivedRules (descriptor :: rest) =
      [] ++ derivedRule descriptor.fieldKey config :: derivedRules rest :=
    List.filterMap_cons_some (by rw [isDerived]; rfl)
  have targets := distinct_targets distinct
  unfold dynamicFieldsOf
  rw [get?_applyDerivedRuntimeFields, rules]
  rw [rules] at targets
  exact fillAll_target targets missing

theorem dynamicFieldsOf_second {rest : List CoreFieldDescriptor} {first : CoreFieldDescriptor}
    {firstConfig : DerivedRuntimeConfig}
    (distinct : ((first :: descriptor :: rest).map CoreFieldDescriptor.fieldKey).Nodup)
    (firstDerived : derivedConfigOf first = some firstConfig)
    (isDerived : derivedConfigOf descriptor = some config)
    (missing : (storedFields fields source).get? descriptor.fieldKey = none) :
    (dynamicFieldsOf (first :: descriptor :: rest) fields source).get? descriptor.fieldKey =
      some (Json.ofText (evaluateDerivedRuntimeValue config
        ((derivedRule first.fieldKey firstConfig).fill (storedFields fields source).get?))) := by
  have rules : derivedRules (first :: descriptor :: rest) =
      [derivedRule first.fieldKey firstConfig] ++
        derivedRule descriptor.fieldKey config :: derivedRules rest := by
    rw [derivedRules, List.filterMap_cons_some (by rw [firstDerived]; rfl),
      List.filterMap_cons_some (by rw [isDerived]; rfl)]
    rfl
  have targets := distinct_targets distinct
  unfold dynamicFieldsOf
  rw [get?_applyDerivedRuntimeFields, rules]
  rw [rules] at targets
  exact fillAll_target targets missing

/-! ## Formulas that tell what they read -/

/-- The first value of the same sources, or else a text. -/
def firstValue (display : Option String) (config : DerivedRuntimeConfig) : DerivedRuntimeConfig :=
  { config with
    operation := .coalesce
    separator := none
    nullDisplayValue := display
    trim := none }

theorem evaluate_firstValue_of_blank {display : Option String} {store : String → Option Json}
    (blank : ∀ key ∈ config.sourceKeys, normalizeDerivedInputValue (store key) true = none) :
    evaluateDerivedRuntimeValue (firstValue display config) store = display := by
  have noValues : (sourceValues (firstValue display config) store).filterMap id = [] := by
    rw [List.filterMap_eq_nil_iff]
    intro value member
    obtain ⟨key, isSource, rfl⟩ := List.mem_map.mp member
    exact blank key isSource
  unfold evaluateDerivedRuntimeValue
  rw [noValues]
  rfl

theorem evaluate_firstValue_of_value {display : Option String} {store : String → Option Json}
    {key text : String} (isSource : key ∈ config.sourceKeys)
    (hasValue : normalizeDerivedInputValue (store key) true = some text) :
    ∃ value, evaluateDerivedRuntimeValue (firstValue display config) store = some value := by
  have member : text ∈ (sourceValues (firstValue display config) store).filterMap id :=
    List.mem_filterMap.mpr ⟨_, List.mem_map.mpr ⟨key, isSource, rfl⟩, hasValue⟩
  unfold evaluateDerivedRuntimeValue
  dsimp only [firstValue]
  cases values : (sourceValues (firstValue display config) store).filterMap id with
  | nil => rw [values] at member; cases member
  | cons value rest => exact ⟨value, by rw [firstValue] at values; rw [values]; rfl⟩

/-- A descriptor with such a formula, where it has one. -/
def reformed (display : String → Option String) (descriptor : CoreFieldDescriptor) :
    CoreFieldDescriptor :=
  { descriptor with
    derivedRuntimeConfig := (derivedConfigOf descriptor).map fun config =>
      (firstValue (display descriptor.fieldKey) config).toJson }

theorem derivedConfigOf_reformed (display : String → Option String)
    (descriptor : CoreFieldDescriptor) :
    derivedConfigOf (reformed display descriptor) =
      (derivedConfigOf descriptor).map (firstValue (display descriptor.fieldKey)) := by
  rw [derivedConfigOf, reformed]
  cases derivedConfigOf descriptor with
  | none => rfl
  | some config =>
      rw [Option.map_some, Option.bind_some, validate_toJson]
      rfl

theorem sameReads_reformed (display : String → Option String)
    (fieldRegistry : List CoreFieldDescriptor) :
    List.Forall₂ SameReads fieldRegistry (fieldRegistry.map (reformed display)) := by
  rw [List.forall₂_map_right_iff, List.forall₂_same]
  intro descriptor _
  refine ⟨rfl, ?_⟩
  rw [derivedConfigOf_reformed, Option.map_map]
  rfl

/-- A field whose default, where it has one, is blank, unless its key is the one that is shown. -/
def blanked (shown : String) (field : ConfigObjectFieldEntity) : ConfigObjectFieldEntity :=
  { field with
    defaultValue :=
      if field.defaultValue = .null then .null
      else if field.fieldKey = shown then .str "x" else .str "" }

theorem default_blanked_iff {shown : String} {field : ConfigObjectFieldEntity} :
    (blanked shown field).defaultValue = .null ↔ field.defaultValue = .null := by
  unfold blanked
  dsimp only
  split
  · next isNull => exact iff_of_true rfl isNull
  · next hasDefault =>
      refine iff_of_false ?_ hasDefault
      split <;> nofun

theorem sameDefault_blanked (shown : String) (fields : List ConfigObjectFieldEntity) :
    List.Forall₂ SameDefault fields (fields.map (blanked shown)) := by
  rw [List.forall₂_map_right_iff, List.forall₂_same]
  exact fun field _ => ⟨rfl, default_blanked_iff.symm⟩

theorem stored_blanked {shown key : String} {value : Json}
    (stored : (storedFields (fields.map (blanked shown)) []).get? key = some value) :
    value = if key = shown then .str "x" else .str "" := by
  obtain ⟨_, member, rfl, rfl, hasDefault⟩ := default_of_get?_storedFields stored
  obtain ⟨field, _, rfl⟩ := List.mem_map.mp member
  have notNull : field.defaultValue ≠ .null := fun isNull =>
    hasDefault (default_blanked_iff.mpr isNull)
  exact if_neg notNull

theorem blank_of_ne {shown key : String} (different : key ≠ shown) :
    normalizeDerivedInputValue ((storedFields (fields.map (blanked shown)) []).get? key) true =
      none := by
  cases stored : (storedFields (fields.map (blanked shown)) []).get? key with
  | none => rfl
  | some value =>
      rw [stored_blanked stored, if_neg different]
      decide

theorem shown_of_default {field : ConfigObjectFieldEntity} (isField : field ∈ fields)
    (hasDefault : field.defaultValue ≠ .null) :
    (storedFields (fields.map (blanked field.fieldKey)) []).get? field.fieldKey =
      some (.str "x") := by
  have isEntry : dynamicField [] (blanked field.fieldKey field) =
      some (field.fieldKey, (blanked field.fieldKey field).defaultValue) :=
    if_neg fun isNull => hasDefault (default_blanked_iff.mp isNull)
  have isName : field.fieldKey ∈ Record.names
      ((fields.map (blanked field.fieldKey)).filterMap (dynamicField [])) :=
    List.mem_map.mpr ⟨_, List.mem_filterMap.mpr ⟨_, List.mem_map_of_mem isField, isEntry⟩, rfl⟩
  obtain ⟨value, _, stored⟩ := @Record.get?_spread_of_mem [] _ _ isName
  have isShown := stored_blanked stored
  rw [if_pos rfl] at isShown
  exact stored.trans (congrArg some isShown)

theorem missing_blanked {shown : String}
    (noDefault : ∀ field ∈ fields, field.fieldKey = shown → field.defaultValue = .null) :
    (storedFields (fields.map (blanked shown)) []).get? shown = none := by
  refine get?_storedFields_eq_none rfl ?_
  intro _ member sameKey
  obtain ⟨field, isField, rfl⟩ := List.mem_map.mp member
  exact default_blanked_iff.mpr (noDefault field isField sameKey)

/-- Without a default for the shown key everything is blank. -/
theorem blank_of_noDefault {shown : String}
    (noDefault : ∀ field ∈ fields, field.fieldKey = shown → field.defaultValue = .null)
    (key : String) :
    normalizeDerivedInputValue ((storedFields (fields.map (blanked shown)) []).get? key) true =
      none := by
  by_cases same : key = shown
  · rw [same, missing_blanked noDefault]
    rfl
  · exact blank_of_ne same

/-! ## Formulas over other fields -/

section Faithful

variable (distinct : (fieldRegistry.map CoreFieldDescriptor.fieldKey).Nodup)
  (acyclic : AcyclicFields fieldRegistry)
  (faithful : ∀ fields' fieldRegistry', List.Forall₂ SameDefault fields fields' →
    List.Forall₂ SameReads fieldRegistry fieldRegistry' →
      DerivesFaithfully coreColumns fields' fieldRegistry')

include faithful in
theorem faithful_reformed (shown : String) (display : String → Option String) :
    DerivesFaithfully coreColumns (fields.map (blanked shown))
      (fieldRegistry.map (reformed display)) :=
  faithful _ _ (sameDefault_blanked shown fields) (sameReads_reformed display fieldRegistry)

theorem distinct_reformed {display : String → Option String}
    (distinct : (fieldRegistry.map CoreFieldDescriptor.fieldKey).Nodup)
    (same : arranged.Perm (fieldRegistry.map (reformed display))) :
    (arranged.map CoreFieldDescriptor.fieldKey).Nodup := by
  rw [(same.map _).nodup_iff, List.map_map]
  exact distinct

theorem reformed_derived (display : String → Option String)
    (isDerived : derivedConfigOf descriptor = some config) :
    derivedConfigOf (reformed display descriptor) =
      some (firstValue (display descriptor.fieldKey) config) := by
  rw [derivedConfigOf_reformed, isDerived]
  rfl

include acyclic in
theorem source_ne_of_acyclic (isField : descriptor ∈ fieldRegistry)
    (isDerived : derivedConfigOf descriptor = some config) {key : String}
    (isSource : key ∈ config.sourceKeys) : key ≠ descriptor.fieldKey := by
  rintro rfl
  exact acyclic descriptor.fieldKey
    (Relation.TransGen.single ⟨descriptor, isField, rfl, config, isDerived, isSource⟩)

/-- Some descriptors of a registry may come first. -/
theorem exists_first {part : List CoreFieldDescriptor} (distinctPart : part.Nodup)
    (sub : part ⊆ fieldRegistry) : ∃ rest, (part ++ rest).Perm fieldRegistry := by
  obtain ⟨rest, arranged⟩ := exists_perm_append distinctPart sub
  exact ⟨rest, List.perm_append_comm.trans arranged⟩

/-- A field that comes first, over blank fields, shows its text. -/
theorem first_reformed {display : String → Option String} {rest : List CoreFieldDescriptor}
    (distinctKeys : ((reformed display descriptor :: rest).map CoreFieldDescriptor.fieldKey).Nodup)
    (isDerived : derivedConfigOf descriptor = some config)
    (noDefault : ∀ field ∈ fields, field.fieldKey = descriptor.fieldKey →
      field.defaultValue = .null) :
    (dynamicFieldsOf (reformed display descriptor :: rest)
        (fields.map (blanked descriptor.fieldKey)) []).get? descriptor.fieldKey =
      some (Json.ofText (display descriptor.fieldKey)) := by
  have isFirst := dynamicFieldsOf_first distinctKeys (reformed_derived display isDerived)
    (missing_blanked noDefault)
  have isShown := @evaluate_firstValue_of_blank config (display descriptor.fieldKey)
    (storedFields (fields.map (blanked descriptor.fieldKey)) []).get?
    fun key _ => blank_of_noDefault noDefault key
  exact isFirst.trans (congrArg some (congrArg Json.ofText isShown))

/-- A field that comes after one that it reads, and that shows a text, has a value. -/
theorem second_reformed {display : String → Option String} {rest : List CoreFieldDescriptor}
    {other : CoreFieldDescriptor} {otherConfig : DerivedRuntimeConfig}
    (distinctKeys : ((reformed display other :: reformed display descriptor :: rest).map
      CoreFieldDescriptor.fieldKey).Nodup)
    (isDerived : derivedConfigOf descriptor = some config)
    (otherDerived : derivedConfigOf other = some otherConfig)
    (noDefault : ∀ field ∈ fields, field.fieldKey = descriptor.fieldKey →
      field.defaultValue = .null)
    (otherNoDefault : ∀ field ∈ fields, field.fieldKey = other.fieldKey →
      field.defaultValue = .null)
    (isSource : other.fieldKey ∈ config.sourceKeys) (isShown : display other.fieldKey = some "x") :
    ∃ value, (dynamicFieldsOf (reformed display other :: reformed display descriptor :: rest)
        (fields.map (blanked descriptor.fieldKey)) []).get? descriptor.fieldKey =
      some (.str value) := by
  let stored := (storedFields (fields.map (blanked descriptor.fieldKey)) []).get?
  let filled := (derivedRule other.fieldKey
    (firstValue (display other.fieldKey) otherConfig)).fill stored
  have otherMissing : stored other.fieldKey = none := by
    refine get?_storedFields_eq_none rfl ?_
    intro _ member sameKey
    obtain ⟨field, isField, rfl⟩ := List.mem_map.mp member
    exact default_blanked_iff.mpr (otherNoDefault field isField sameKey)
  have isFilled : filled other.fieldKey = some (.str "x") := by
    have shown : filled other.fieldKey = some (Json.ofText (evaluateDerivedRuntimeValue
        (firstValue (display other.fieldKey) otherConfig) stored)) :=
      Rule.fill_target _ otherMissing
    rw [shown, evaluate_firstValue_of_blank fun key _ => blank_of_noDefault noDefault key, isShown]
    rfl
  obtain ⟨value, hasValue⟩ := @evaluate_firstValue_of_value config (display descriptor.fieldKey)
    filled other.fieldKey "x" isSource (by rw [isFilled]; decide)
  refine ⟨value, ?_⟩
  have isSecond := dynamicFieldsOf_second distinctKeys (reformed_derived display otherDerived)
    (reformed_derived display isDerived) (missing_blanked noDefault)
  exact isSecond.trans (congrArg some (congrArg Json.ofText hasValue))

include distinct acyclic faithful in
/-- A manifest shows the formula of a field that has a default. -/
theorem noDefault_of_faithful (isField : descriptor ∈ fieldRegistry)
    (isDerived : derivedConfigOf descriptor = some config) :
    ∀ field ∈ fields, field.fieldKey = descriptor.fieldKey → field.defaultValue = .null := by
  intro field member sameKey
  by_contra hasDefault
  have isReformed : reformed (fun _ => none) descriptor ∈
      fieldRegistry.map (reformed fun _ => none) := List.mem_map_of_mem isField
  have shown := (faithful_reformed faithful field.fieldKey fun _ => none).previewed _
    (List.Perm.refl _) _ isReformed _ (reformed_derived _ isDerived)
  have isStored : (storedFields (fields.map (blanked field.fieldKey)) []).get?
      descriptor.fieldKey = some (.str "x") := sameKey ▸ shown_of_default member hasDefault
  have isKept : (dynamicFieldsOf (fieldRegistry.map (reformed fun _ => none))
      (fields.map (blanked field.fieldKey)) []).get? descriptor.fieldKey = some (.str "x") := by
    unfold dynamicFieldsOf
    rw [get?_applyDerivedRuntimeFields, fillAll_of_isSome (by rw [isStored]; rfl), isStored]
  have blank : ∀ key ∈ config.sourceKeys, normalizeDerivedInputValue
      ((defaultFields (fields.map (blanked field.fieldKey))).get? key) true = none :=
    fun key isSource => blank_of_ne
      (sameKey ▸ source_ne_of_acyclic acyclic isField isDerived isSource)
  rw [valuesByFieldKey_of_derived (distinct_reformed distinct (List.Perm.refl _)) isReformed
    (reformed_derived _ isDerived), evaluate_firstValue_of_blank blank] at shown
  exact absurd (shown.trans isKept) (by decide)

include distinct acyclic faithful in
/-- The pass does not see the core row. -/
theorem notCore_of_faithful (isField : descriptor ∈ fieldRegistry)
    (isDerived : derivedConfigOf descriptor = some config) {key : String}
    (isSource : key ∈ config.sourceKeys) : key ∉ coreColumns := by
  intro isCore
  have noDefault := noDefault_of_faithful distinct acyclic faithful isField isDerived
  have isReformed : reformed (fun _ => none) descriptor ∈
      fieldRegistry.map (reformed fun _ => none) := List.mem_map_of_mem isField
  obtain ⟨rest, arranged⟩ := exists_first (List.nodup_singleton _)
    (List.cons_subset.mpr ⟨isReformed, List.nil_subset _⟩)
  have evaluated := (faithful_reformed faithful descriptor.fieldKey fun _ => none).evaluates _
    arranged (fun _ => .str "x") [] _ isReformed _ (reformed_derived _ isDerived) rfl
  obtain ⟨value, hasValue⟩ := @evaluate_firstValue_of_value config none
    (finalValue coreColumns (fun _ => .str "x")
      (dynamicFieldsOf ([reformed (fun _ => none) descriptor] ++ rest)
        (fields.map (blanked descriptor.fieldKey)) [])) key "x" isSource (by
      rw [finalValue, if_pos isCore]
      decide)
  have isBlank := first_reformed (distinct_reformed distinct arranged) isDerived noDefault
  have hasText := evaluated.trans (congrArg some (congrArg Json.ofText hasValue))
  exact absurd (isBlank.symm.trans hasText) nofun

include distinct acyclic faithful in
/-- The pass does not see a derived field whose turn comes later. -/
theorem notDerived_of_faithful (isField : descriptor ∈ fieldRegistry)
    (isDerived : derivedConfigOf descriptor = some config) {other : CoreFieldDescriptor}
    (isOther : other ∈ fieldRegistry) {otherConfig : DerivedRuntimeConfig}
    (otherDerived : derivedConfigOf other = some otherConfig) :
    other.fieldKey ∉ config.sourceKeys := by
  intro isSource
  have noDefault := noDefault_of_faithful distinct acyclic faithful isField isDerived
  have otherNoDefault := noDefault_of_faithful distinct acyclic faithful isOther otherDerived
  have different : other.fieldKey ≠ descriptor.fieldKey :=
    source_ne_of_acyclic acyclic isField isDerived isSource
  let display : String → Option String := fun key => if key = other.fieldKey then some "x" else none
  have apart : reformed display other ≠ reformed display descriptor := fun same =>
    different (show (reformed display other).fieldKey = (reformed display descriptor).fieldKey from
      congrArg CoreFieldDescriptor.fieldKey same)
  have areFields : [reformed display other, reformed display descriptor] ⊆
      fieldRegistry.map (reformed display) :=
    List.cons_subset.mpr ⟨List.mem_map_of_mem isOther,
      List.cons_subset.mpr ⟨List.mem_map_of_mem isField, List.nil_subset _⟩⟩
  obtain ⟨rest, arranged⟩ := exists_first (by simpa using apart) areFields
  have swapped : (reformed display descriptor :: reformed display other :: rest).Perm
      (fieldRegistry.map (reformed display)) := (List.Perm.swap _ _ _).trans arranged
  have independent := (faithful_reformed faithful descriptor.fieldKey display).independent
  have same := congrFun ((independent _ arranged []).trans (independent _ swapped []).symm)
    descriptor.fieldKey
  obtain ⟨value, hasValue⟩ := second_reformed (distinct_reformed distinct arranged) isDerived
    otherDerived noDefault otherNoDefault isSource (if_pos rfl)
  have isBlank := first_reformed (distinct_reformed distinct swapped) isDerived noDefault
  rw [show display descriptor.fieldKey = none from if_neg (Ne.symm different)] at isBlank
  exact absurd (hasValue.symm.trans (same.trans isBlank)) nofun

end Faithful

end

/-- Fields that read no derived fields are not derived from themselves. -/
theorem acyclicFields_of_notDerived {fieldRegistry : List CoreFieldDescriptor}
    (notDerived : ∀ descriptor ∈ fieldRegistry, ∀ config,
      derivedConfigOf descriptor = some config → ∀ source ∈ config.sourceKeys,
        ∀ other ∈ fieldRegistry, (derivedConfigOf other).isSome = true →
          other.fieldKey ≠ source) : AcyclicFields fieldRegistry := by
  intro fieldKey cycle
  obtain ⟨_, ⟨descriptor, isField, rfl, config, isDerived, _⟩, _⟩ :=
    Relation.TransGen.head'_iff.mp cycle
  obtain ⟨_, _, other, isOther, _, otherConfig, otherDerived, isSource⟩ :=
    Relation.TransGen.tail'_iff.mp cycle
  exact notDerived other isOther otherConfig otherDerived _ isSource descriptor isField
    (by rw [isDerived]; rfl) rfl

theorem name_isToken : String.ofList (Json.trimmed "name") = "name" ∧ "name" ≠ "" := by
  decide

/-- The formula of a title: the name. -/
def titleConfig : DerivedRuntimeConfig where
  operation := .concat
  sourceFieldKeys := [⟨"name", name_isToken⟩]
  hasSources := List.cons_ne_nil _ _
  separator := none
  nullDisplayValue := none
  trim := none

/-- A field of the designer, without a default. -/
def titleField : ConfigObjectFieldEntity where
  configObjectFieldId := 1
  configObjectId := 1
  fieldKey := "title"
  label := "Title"
  description := none
  fieldType := "text"
  validationJson := some (.obj [("_six1DerivedRuntimeAuthoring", titleConfig.toJson)])
  defaultValue := .null
  isRequired := false
  isSystem := false
  orderIndex := 20
  sectionKey := none
  createdBy := 7
  updatedBy := none

def titleDescriptor : CoreFieldDescriptor where
  fieldKey := "title"
  label := "Title"
  fieldType := .text
  orderIndex := 20
  derivedRuntimeConfig := some titleConfig.toJson

/-- A name, and a title derived from it. -/
def titleRegistry : List CoreFieldDescriptor :=
  [{ fieldKey := "name", label := "Name", fieldType := .text, orderIndex := 10 }, titleDescriptor]

theorem derivedConfigOf_titleDescriptor : derivedConfigOf titleDescriptor = some titleConfig := by
  rw [derivedConfigOf, show titleDescriptor.derivedRuntimeConfig = some titleConfig.toJson from rfl,
    Option.bind_some, validate_toJson]
  rfl

theorem titleRegistry_distinct : (titleRegistry.map CoreFieldDescriptor.fieldKey).Nodup := by
  decide

theorem derived_of_titleRegistry {descriptor : CoreFieldDescriptor}
    (isField : descriptor ∈ titleRegistry) (isDerived : (derivedConfigOf descriptor).isSome = true) :
    descriptor = titleDescriptor := by
  rcases List.mem_cons.mp isField with rfl | isTitle
  · exact absurd isDerived nofun
  · exact List.mem_singleton.mp isTitle

/-- In a standalone object the name is a field of the designer. -/
theorem titleRegistry_plain : ReadPlainFields [] [titleField] titleRegistry where
  noDefault _ _ _ field member _ := by rw [List.mem_singleton.mp member]; rfl
  notCore _ _ _ _ _ _ := List.not_mem_nil
  notDerived descriptor isField config isDerived source isSource other isOther otherDerived := by
    obtain rfl := derived_of_titleRegistry isField (by rw [isDerived]; rfl)
    obtain rfl := derived_of_titleRegistry isOther otherDerived
    obtain rfl : titleConfig = config :=
      Option.some.inj (derivedConfigOf_titleDescriptor.symm.trans isDerived)
    obtain rfl := List.mem_singleton.mp isSource
    decide

end CoreApi.ConfigObjects
