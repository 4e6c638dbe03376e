import CoreApi.Foundation.RulePasses
import CoreApi.ConfigObjects.ObjectInstances
import CoreApi.ConfigObjects.FieldRegistry
import CoreApi.ConfigObjects.PanelLayout

/-!
# Fields derived at run time

A descriptor may carry a formula over other fields: the first of their values, or all of
them joined. An instance gets the values of such fields in one pass over the registry,
each from what is there when its turn comes. A manifest shows values for them as well,
which it reads from the defaults alone.
-/

namespace CoreApi.ConfigObjects

open CoreApi.Foundation RelationAuthoring CheckedFields PanelLayoutConfig

/-! ## Formulas -/

/-- `CoreFieldDerivedRuntimeOperation`. -/
inductive DerivedRuntimeOperation where
  | concat | coalesce
deriving DecidableEq

/-- `CoreFieldDerivedRuntimeConfig`, of schema version 1. -/
structure DerivedRuntimeConfig where
  operation : DerivedRuntimeOperation
  sourceFieldKeys : List Token
  hasSources : sourceFieldKeys ≠ []
  separator : Option String
  nullDisplayValue : Option String
  trim : Option Bool
deriving DecidableEq

namespace DerivedRuntimeConfig

def operations : List (String × DerivedRuntimeOperation) :=
  [("concat", .concat), ("coalesce", .coalesce)]

/-- A number that is the one version there is. -/
def parseSchemaVersion (value : Json) : Checked Unit :=
  if value = .num 1 then .ok ()
  else .error "_six1DerivedRuntimeAuthoring.schemaVersion must be 1"

/-- `sourceFieldKeys`, each trimmed. -/
def parseSourceFieldKeys (value : Json) : Checked { keys : List Token // keys ≠ [] } :=
  match value with
  | .arr (first :: rest) => do
      let keys ← eachFrom (fun i => tokenText
        (place "_six1DerivedRuntimeAuthoring.sourceFieldKeys" i ++ " must be a non-empty string"))
        0 (first :: rest)
      if notEmpty : keys ≠ [] then pure ⟨keys, notEmpty⟩
      else .error "_six1DerivedRuntimeAuthoring.sourceFieldKeys must be a non-empty string array"
  | _ => .error "_six1DerivedRuntimeAuthoring.sourceFieldKeys must be a non-empty string array"

def parseText (message : String) (value : Json) : Checked String :=
  match value with
  | .str text => .ok text
  | _ => .error message

def parseFlag (message : String) (value : Json) : Checked Bool :=
  match value with
  | .bool flag => .ok flag
  | _ => .error message

def names : List String :=
  ["schemaVersion", "operation", "sourceFieldKeys", "separator", "nullDisplayValue", "trim"]

/-- `validateDerivedRuntimeAuthoringMetadata`; a property that is `null` is set. -/
def validateDerivedRuntimeAuthoringMetadata (value : Json) : Checked DerivedRuntimeConfig := do
  let o ← assertPlainObject value "_six1DerivedRuntimeAuthoring"
  refuseUnknown o names fun name => "_six1DerivedRuntimeAuthoring: unknown key \"" ++ name ++ "\""
  parseSchemaVersion ((Record.get? o "schemaVersion").getD .null)
  let operation ← oneOf operations
    "_six1DerivedRuntimeAuthoring.operation must be concat or coalesce"
    ((Record.get? o "operation").getD .null)
  let keys ← parseSourceFieldKeys ((Record.get? o "sourceFieldKeys").getD .null)
  let separator ← parseGiven
    (parseText "_six1DerivedRuntimeAuthoring.separator must be a string")
    (Record.get? o "separator")
  let nullDisplayValue ← parseGiven
    (parseText "_six1DerivedRuntimeAuthoring.nullDisplayValue must be a string")
    (Record.get? o "nullDisplayValue")
  let trim ← parseGiven (parseFlag "_six1DerivedRuntimeAuthoring.trim must be boolean")
    (Record.get? o "trim")
  pure ⟨operation, keys.1, keys.2, separator, nullDisplayValue, trim⟩

def operationJson : DerivedRuntimeOperation → Json
  | .concat => .str "concat"
  | .coalesce => .str "coalesce"

/-- The object that the validation returns. -/
def toJson (config : DerivedRuntimeConfig) : Json :=
  .obj (entry "schemaVersion" (some (.num 1)) ++
    (entry "operation" (some (operationJson config.operation)) ++
      (entry "sourceFieldKeys" (some (arrayJson tokenJson config.sourceFieldKeys)) ++
        (entry "separator" (config.separator.map .str) ++
          (entry "nullDisplayValue" (config.nullDisplayValue.map .str) ++
            entry "trim" (config.trim.map .bool))))))

theorem parseSourceFieldKeys_arrayJson (config : DerivedRuntimeConfig) :
    parseSourceFieldKeys (arrayJson tokenJson config.sourceFieldKeys) =
      .ok ⟨config.sourceFieldKeys, config.hasSources⟩ := by
  obtain ⟨_, keys, notEmpty, _, _, _⟩ := config
  have areRead : eachFrom (fun i => tokenText
      (place "_six1DerivedRuntimeAuthoring.sourceFieldKeys" i ++ " must be a non-empty string"))
      0 (keys.map tokenJson) = .ok keys :=
    eachFrom_map (fun _ _ => tokenText_tokenJson _ _) 0 keys
  cases keys with
  | nil => exact absurd rfl notEmpty
  | cons key rest =>
      rw [List.map_cons] at areRead
      simp only [arrayJson, List.map_cons, parseSourceFieldKeys, areRead, ok_bind]
      rfl

/-- What the validation returned is validated again. -/
theorem validate_toJson (config : DerivedRuntimeConfig) :
    validateDerivedRuntimeAuthoringMetadata config.toJson = .ok config := by
  unfold toJson validateDerivedRuntimeAuthoringMetadata
  generalize isFields : entry "schemaVersion" (some (.num 1)) ++
    (entry "operation" (some (operationJson config.operation)) ++
      (entry "sourceFieldKeys" (some (arrayJson tokenJson config.sourceFieldKeys)) ++
        (entry "separator" (config.separator.map .str) ++
          (entry "nullDisplayValue" (config.nullDisplayValue.map .str) ++
            entry "trim" (config.trim.map .bool))))) = fields
  have known : unknownNames fields names = [] := by
    rw [← isFields, unknownNames_entry_append (by decide), unknownNames_entry_append (by decide),
      unknownNames_entry_append (by decide), unknownNames_entry_append (by decide),
      unknownNames_entry_append (by decide), unknownNames_entry (by decide)]
  have isVersion : Record.get? fields "schemaVersion" = some (.num 1) := by
    simp [← isFields, get?_entry_append]
  have isOperation : Record.get? fields "operation" = some (operationJson config.operation) := by
    simp [← isFields, get?_entry_append]
  have areKeys : Record.get? fields "sourceFieldKeys" =
      some (arrayJson tokenJson config.sourceFieldKeys) := by
    simp [← isFields, get?_entry_append]
  have isSeparator : Record.get? fields "separator" = config.separator.map .str := by
    simp [← isFields, get?_entry_append, get?_entry]
  have isDisplay : Record.get? fields "nullDisplayValue" = config.nullDisplayValue.map .str := by
    simp [← isFields, get?_entry_append, get?_entry]
  have isTrim : Record.get? fields "trim" = config.trim.map .bool := by
    simp [← isFields, get?_entry_append, get?_entry]
  have operationRead : oneOf operations
      "_six1DerivedRuntimeAuthoring.operation must be concat or coalesce"
      (operationJson config.operation) = .ok config.operation := by
    cases config.operation <;> rfl
  simp only [assertPlainObject, ok_bind, refuseUnknown_of_nil known, isVersion, isOperation,
    areKeys, isSeparator, isDisplay, isTrim, Option.getD_some, operationRead,
    parseSourceFieldKeys_arrayJson, parseSchemaVersion, if_true,
    parseGiven_map (fun _ => rfl : ∀ text, parseText _ (.str text) = .ok text),
    parseGiven_map (fun _ => rfl : ∀ flag, parseFlag _ (.bool flag) = .ok flag)]
  rfl

end DerivedRuntimeConfig

open DerivedRuntimeConfig

/-- The texts of the source keys. -/
def DerivedRuntimeConfig.sourceKeys (config : DerivedRuntimeConfig) : List String :=
  config.sourceFieldKeys.map Subtype.val

/-- The formula of a descriptor, as it was validated. -/
def derivedConfigOf (descriptor : CoreFieldDescriptor) : Option DerivedRuntimeConfig :=
  descriptor.derivedRuntimeConfig.bind fun json =>
    (validateDerivedRuntimeAuthoringMetadata json).toOption

/-- `normalizeDerivedInputValue`. -/
def normalizeDerivedInputValue (value : Option Json) (trim : Bool) : Option String :=
  match value with
  | none | some .null => none
  | some value =>
      let out := if trim = true then String.ofList (Json.trimmed value.toText) else value.toText
      if out = "" then none else some out

/-- The values of the sources, in their order. -/
def sourceValues (config : DerivedRuntimeConfig) (source : String → Option Json) :
    List (Option String) :=
  config.sourceKeys.map fun key =>
    normalizeDerivedInputValue (source key) (config.trim != some false)

/-- `evaluateDerivedRuntimeValue`. -/
def evaluateDerivedRuntimeValue (config : DerivedRuntimeConfig)
    (source : String → Option Json) : Option String :=
  let nonNullValues := (sourceValues config source).filterMap id
  match config.operation with
  | .coalesce => nonNullValues.head?.or config.nullDisplayValue
  | .concat =>
      if nonNullValues = [] then config.nullDisplayValue
      else
        let joined := (config.separator.getD " ").intercalate nonNullValues
        let finalValue :=
          if config.trim = some false then joined else String.ofList (Json.trimmed joined)
        if finalValue = "" then config.nullDisplayValue else some finalValue

/-- A formula reads its sources only. -/
theorem evaluateDerivedRuntimeValue_congr {config : DerivedRuntimeConfig}
    {source other : String → Option Json}
    (same : ∀ key ∈ config.sourceKeys, source key = other key) :
    evaluateDerivedRuntimeValue config source = evaluateDerivedRuntimeValue config other := by
  have sameValues : sourceValues config source = sourceValues config other :=
    List.map_congr_left fun key isSource => by rw [same key isSource]
  unfold evaluateDerivedRuntimeValue
  rw [sameValues]

/-! ## The fields of an instance -/

/-- The turn of a descriptor: a field that is not there gets the value of its formula. -/
def deriveField (target : Record) (descriptor : CoreFieldDescriptor) : Record :=
  match derivedConfigOf descriptor with
  | none => target
  | some config =>
      if (target.get? descriptor.fieldKey).isSome = true then target
      else
        target.set descriptor.fieldKey
          (Json.ofText (evaluateDerivedRuntimeValue config target.get?))

/-- `applyDerivedRuntimeFields`. -/
def applyDerivedRuntimeFields (fieldRegistry : List CoreFieldDescriptor) (target : Record) :
    Record :=
  fieldRegistry.foldl deriveField target

/-- The fields that are stored or have a default. -/
def storedFields (fields : List ConfigObjectFieldEntity) (source : Record) : Record :=
  Record.spread [] (fields.filterMap (dynamicField source))

/-- `mergeDynamicFieldsFromSource`, for a schema with a field registry. -/
def dynamicFieldsOf (fieldRegistry : List CoreFieldDescriptor)
    (fields : List ConfigObjectFieldEntity) (source : Record) : Record :=
  applyDerivedRuntimeFields fieldRegistry (storedFields fields source)

/-! ## The values of a manifest -/

/-- The defaults that a manifest reads. -/
def defaultFields (fields : List ConfigObjectFieldEntity) : Record :=
  Record.spread [] (fields.filterMap fun field =>
    if field.defaultValue = .null then none else some (field.fieldKey, field.defaultValue))

/-- The block `derivedRuntime` of a manifest. -/
structure DerivedRuntimeBlock where
  policy : Record
  fieldKeys : List String
  valuesByFieldKey : Record

/-- `buildDerivedRuntimeResolvedBlock`. -/
def buildDerivedRuntimeResolvedBlock (fieldRegistry : List CoreFieldDescriptor)
    (fields : List ConfigObjectFieldEntity) : DerivedRuntimeBlock :=
  let derived := fieldRegistry.filterMap fun descriptor =>
    (derivedConfigOf descriptor).map fun config => (descriptor.fieldKey, config)
  { policy := [("coalesce", .str "first_non_empty_value"), ("concat", .str "join_non_empty_values")]
    fieldKeys := derived.map Prod.fst
    valuesByFieldKey := Record.spread [] (derived.map fun field =>
      (field.1, Json.ofText
        (evaluateDerivedRuntimeValue field.2 (defaultFields fields).get?))) }

/-- A manifest reads the fields of an instance that stores nothing. -/
theorem storedFields_nil (fields : List ConfigObjectFieldEntity) :
    storedFields fields [] = defaultFields fields := rfl

/-! ## Passes over a registry -/

/-- The rule of a derived field. -/
def derivedRule (fieldKey : String) (config : DerivedRuntimeConfig) : Rule String Json where
  target := fieldKey
  sources := config.sourceKeys
  formula source := Json.ofText (evaluateDerivedRuntimeValue config source)
  reads _ _ same := congrArg Json.ofText (evaluateDerivedRuntimeValue_congr same)

/-- The rules of a registry, in its order. -/
def derivedRules (fieldRegistry : List CoreFieldDescriptor) : List (Rule String Json) :=
  fieldRegistry.filterMap fun descriptor =>
    (derivedConfigOf descriptor).map (derivedRule descriptor.fieldKey)

theorem get?_deriveField {target : Record} {descriptor : CoreFieldDescriptor}
    {config : DerivedRuntimeConfig} (isDerived : derivedConfigOf descriptor = some config) :
    (deriveField target descriptor).get? =
      (derivedRule descriptor.fieldKey config).fill target.get? := by
  unfold deriveField
  rw [isDerived]
  dsimp only
  split
  · next given =>
      exact (Rule.fill_eq_self (derivedRule descriptor.fieldKey config) given).symm
  · next missing =>
      have isMissing : target.get? descriptor.fieldKey = none := by simpa using missing
      funext key
      by_cases same : key = descriptor.fieldKey
      · rw [same, Record.get?_set_self]
        exact (Rule.fill_target (derivedRule descriptor.fieldKey config) isMissing).symm
      · rw [Record.get?_set_of_ne _ _ same]
        exact (Rule.fill_of_ne (derivedRule descriptor.fieldKey config) same).symm

/-- A pass over a registry fills an instance by its rules. -/
theorem get?_applyDerivedRuntimeFields (fieldRegistry : List CoreFieldDescriptor)
    (target : Record) :
    (applyDerivedRuntimeFields fieldRegistry target).get? =
      fillAll (derivedRules fieldRegistry) target.get? := by
  induction fieldRegistry generalizing target with
  | nil => rfl
  | cons descriptor rest ih =>
      have step := ih (deriveField target descriptor)
      cases isDerived : derivedConfigOf descriptor with
      | none =>
          have unchanged : deriveField target descriptor = target := by
            rw [deriveField, isDerived]
          rw [unchanged] at step
          rw [derivedRules, List.filterMap_cons_none (by rw [isDerived]; rfl), ← derivedRules,
            ← step, applyDerivedRuntimeFields, List.foldl_cons, unchanged,
            applyDerivedRuntimeFields]
      | some config =>
          rw [get?_deriveField isDerived] at step
          rw [derivedRules, List.filterMap_cons_some (by rw [isDerived]; rfl), ← derivedRules]
          exact step

end CoreApi.ConfigObjects
