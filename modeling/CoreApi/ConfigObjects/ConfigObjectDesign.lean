import CoreApi.ConfigObjects.Entities
import CoreApi.ConfigObjects.ObjectTypes

/-!
# The design of config objects

The calls by which config objects and their fields are created, edited and removed.
An object belongs to a template set and is stored under the canonical name of its
type; its binding says where its instances live. What the tables refuse beyond the
checks of the service, and how the metadata of a field is checked, is left open. A
call that raises keeps what it wrote before.
-/

namespace CoreApi.ConfigObjects

open CoreApi.Foundation Automation

/-- `config_objects`, with all columns of a definition. -/
structure DesignedObject extends ConfigObjectEntity where
  bindingMode : ConfigBindingMode
  sorTableName : Option String
  displayName : String
  description : Option String
deriving DecidableEq

/-- `config_object_fields`. -/
structure ConfigObjectFieldEntity where
  configObjectFieldId : Nat
  configObjectId : Nat
  fieldKey : String
  label : String
  description : Option String
  fieldType : String
  validationJson : Option Json
  defaultValue : Json
  isRequired : Bool
  isSystem : Bool
  orderIndex : Int
  sectionKey : Option String
  createdBy : Nat
  updatedBy : Option Nat
deriving DecidableEq

instance : Keyed DesignedObject where
  key object := object.configObjectId
  withKey n row := { row with configObjectId := n }
  key_withKey _ _ := rfl

instance : Keyed ConfigObjectFieldEntity where
  key := ConfigObjectFieldEntity.configObjectFieldId
  withKey n row := { row with configObjectFieldId := n }
  key_withKey _ _ := rfl

/-- What an audit entry of a definition is about. -/
inductive DesignedEntityType where
  | object | field
deriving DecidableEq

/-- An audit entry about a definition. -/
structure DesignAuditEntry where
  tenantId : Option Nat
  entityType : DesignedEntityType
  entityId : Nat
  action : AuditAction
  changedBy : Nat
  oldValue : Option Json
  newValue : Option Json
deriving DecidableEq

/-- The tables that the calls read and write. -/
structure DesignDb where
  tenants : List Nat
  tenantUsers : List Nat
  templateSets : Table ConfigTemplateSetEntity
  configObjects : Table DesignedObject
  configFields : Table ConfigObjectFieldEntity
  auditLogs : List DesignAuditEntry

/-- What a call raises: an exception of its own, or a failure of the database. -/
inductive DesignError where
  | rpc (message : String)
  | authoring (code message : String)
  | database
deriving DecidableEq

/-- What the calls rest on: how letters are lowered, what the tables accept, and how the metadata
of a field is checked and normalised. -/
structure DesignChecks where
  casing : LowerCasing
  acceptsObject : DesignDb → DesignedObject → Bool
  acceptsField : DesignDb → ConfigObjectFieldEntity → Bool
  applyDerivedDisplayAuthoringInValidationJson : Option Json → Except DesignError (Option Json)

/-- A binding as the source spells it. -/
def bindingModeText : ConfigBindingMode → String
  | .sorBound => "sor_bound"
  | .standalone => "standalone"
  | .systemTable => "system_table"

/-- A status as the source spells it. -/
def publishStatusText : PublishStatus → String
  | .draft => "DRAFT"
  | .published => "PUBLISHED"
  | .archived => "ARCHIVED"
  | .conflict => "CONFLICT"

namespace ObjectDesign

/-- Calls on definitions. -/
abbrev DesignTx := Program DesignDb DesignError

/-! ## Scopes -/

/-- `getEffectiveTenantId`: no tenant, or none that is positive, is the global scope. -/
def effectiveTenant (tenantId : Option Nat) : Option Nat := tenantId.filter fun tenant => tenant ≠ 0

/-- `templateSetWhereForTenantScope`: a tenant finds its own sets, the global scope all. -/
def templateSetInScope (db : DesignDb) (configTemplateSetId : Nat)
    (effectiveTenantId : Option Nat) : Option ConfigTemplateSetEntity :=
  db.templateSets.rows.find? fun templateSet =>
    templateSet.configTemplateSetId == configTemplateSetId &&
      (effectiveTenantId.isNone || templateSet.tenantId == effectiveTenantId)

/-- The template set must be in the scope of the call. -/
def checkTemplateSet (db : DesignDb) (configTemplateSetId : Nat) (effectiveTenantId : Option Nat)
    (message : String) : Except DesignError Unit :=
  match templateSetInScope db configTemplateSetId effectiveTenantId with
  | none => .error (.rpc message)
  | some _ => .ok ()

/-- The object must be there, and in the scope of the call. -/
def objectInScope (db : DesignDb) (configObjectId : Nat) (effectiveTenantId : Option Nat)
    (message : String) : Except DesignError DesignedObject :=
  match db.configObjects.find? configObjectId with
  | none => .error (.rpc message)
  | some configObject => do
      checkTemplateSet db configObject.configTemplateSetId effectiveTenantId
        "Config object does not belong to the specified tenant."
      pure configObject

/-! ## Writes -/

/-- The columns of a saved object. -/
def overwrittenObject (object row : DesignedObject) : DesignedObject :=
  { object with configObjectId := row.configObjectId }

/-- The columns of a saved field. -/
def overwrittenField (field row : ConfigObjectFieldEntity) : ConfigObjectFieldEntity :=
  { field with configObjectFieldId := row.configObjectFieldId }

section Writes

variable (checks : DesignChecks)

/-- The tables must accept a row. -/
def accept (accepts : DesignDb → Bool) : DesignTx Unit := do
  let accepted ← Program.read accepts
  if accepted = true then pure () else Program.raise .database

/-- `configObjectRepository.save` of a new row. -/
def insertObject (object : DesignedObject) : DesignTx DesignedObject := do
  accept fun db => checks.acceptsObject db (Keyed.withKey db.configObjects.autoIncrement object)
  Program.writeReturning fun db =>
    (Keyed.withKey db.configObjects.autoIncrement object,
      { db with configObjects := db.configObjects.insert object })

/-- `configObjectRepository.save` of a row that was read. -/
def saveObject (object : DesignedObject) : DesignTx Unit := do
  accept fun db => checks.acceptsObject db object
  Program.write fun db => { db with
    configObjects := db.configObjects.updateAt object.configObjectId (overwrittenObject object)
      fun _ => rfl }

/-- `configObjectRepository.remove`; the fields of the object go with it. -/
def removeObject (configObjectId : Nat) : DesignTx Unit :=
  Program.write fun db => { db with
    configObjects := db.configObjects.remove fun object => object.configObjectId == configObjectId
    configFields := db.configFields.remove fun field => field.configObjectId == configObjectId }

/-- `configObjectFieldRepository.save` of a new row. -/
def insertField (field : ConfigObjectFieldEntity) : DesignTx ConfigObjectFieldEntity := do
  accept fun db => checks.acceptsField db (Keyed.withKey db.configFields.autoIncrement field)
  Program.writeReturning fun db =>
    (Keyed.withKey db.configFields.autoIncrement field,
      { db with configFields := db.configFields.insert field })

/-- `configObjectFieldRepository.save` of a row that was read. -/
def saveField (field : ConfigObjectFieldEntity) : DesignTx Unit := do
  accept fun db => checks.acceptsField db field
  Program.write fun db => { db with
    configFields := db.configFields.updateAt field.configObjectFieldId (overwrittenField field)
      fun _ => rfl }

/-- `configObjectFieldRepository.remove`. -/
def removeField (configObjectFieldId : Nat) : DesignTx Unit :=
  Program.write fun db => { db with
    configFields := db.configFields.remove fun field =>
      field.configObjectFieldId == configObjectFieldId }

/-- `logConfigChange`; the tenant, where there is one, and the user are foreign keys. -/
def logChange (tenantId : Option Nat) (entityType : DesignedEntityType) (entityId : Nat)
    (action : AuditAction) (changedBy : Nat) (oldValue newValue : Option Json) :
    DesignTx Unit := do
  let db ← Program.read id
  if (∀ tenant ∈ tenantId, tenant ∈ db.tenants) ∧ changedBy ∈ db.tenantUsers then
    Program.write fun db => { db with
      auditLogs := db.auditLogs ++
        [{ tenantId := tenantId
           entityType := entityType
           entityId := entityId
           action := action
           changedBy := changedBy
           oldValue := oldValue
           newValue := newValue }] }
  else Program.raise .database

end Writes

/-! ## Config objects -/

section Types

variable (casing : LowerCasing)

/-- `normalizeCanonicalObjectTypeOrThrow`. -/
def normalizeCanonicalObjectTypeOrThrow (objectType : String) : Except DesignError String :=
  let canonical := canonicalizeObjectType casing objectType
  if canonical = "" then .error (.rpc "object_type must be a non-empty string.")
  else .ok canonical

/-- Whether a row has the canonical type; the first row without a type raises. -/
def anyOfType (canonicalObjectType : String) : List DesignedObject → Except DesignError Bool
  | [] => .ok false
  | row :: rest => do
      let canonical ← normalizeCanonicalObjectTypeOrThrow casing row.objectType
      if canonical = canonicalObjectType then pure true
      else anyOfType canonicalObjectType rest

end Types

section Objects

variable (checks : DesignChecks)

/-- A text that is not empty. -/
def nonEmpty (text : String) : Option String := if text = "" then none else some text

/-- `value.trim()`. -/
def trimText (text : String) : String := String.ofList (Json.trimmed text)

/-- `normalizeConfigObjectBinding`. -/
def normalizeConfigObjectBinding (bindingMode : Option ConfigBindingMode)
    (sorTableName : Option String) : Except DesignError (ConfigBindingMode × Option String) :=
  let mode := bindingMode.getD .sorBound
  if mode = .standalone then .ok (mode, none)
  else
    match sorTableName.bind fun name => nonEmpty (trimText name) with
    | none => .error
        (.rpc "sor_table_name is required when binding_mode is sor_bound or system_table.")
    | some trimmed => .ok (mode, some trimmed)

/-- The audited fields of an object that is removed. -/
def removedFields (object : DesignedObject) : Record :=
  [("objectType", .str object.objectType),
    ("bindingMode", .str (bindingModeText object.bindingMode)),
    ("sorTableName", .ofText object.sorTableName), ("displayName", .str object.displayName),
    ("description", .ofText object.description),
    ("configTemplateSetId", .num object.configTemplateSetId)]

/-- The audited fields of a new object. -/
def createdFields (object : DesignedObject) : Record :=
  removedFields object ++ [("status", .str (publishStatusText object.status))]

/-- The audited fields that an update may change. -/
def updatedFields (object : DesignedObject) : Record :=
  [("objectType", .str object.objectType), ("displayName", .str object.displayName),
    ("description", .ofText object.description), ("status", .str (publishStatusText object.status)),
    ("bindingMode", .str (bindingModeText object.bindingMode)),
    ("sorTableName", .ofText object.sorTableName)]

structure CreateConfigObjectParams where
  tenantId : Option Nat
  configTemplateSetId : Nat
  createdBy : Nat
  objectType : String
  sorTableName : Option String := none
  bindingMode : Option ConfigBindingMode := none
  displayName : String
  description : Option String := none
  status : Option PublishStatus := none

/-- The row of a new object, when the type is free in the template set. -/
def newObject (db : DesignDb) (params : CreateConfigObjectParams) :
    Except DesignError DesignedObject := do
  let canonicalObjectType ← normalizeCanonicalObjectTypeOrThrow checks.casing params.objectType
  checkTemplateSet db params.configTemplateSetId (effectiveTenant params.tenantId)
    "Template set not found for tenant when creating config object."
  let existing ← anyOfType checks.casing canonicalObjectType
    (db.configObjects.select fun row => row.configTemplateSetId == params.configTemplateSetId)
  if existing = true then
    .error (.rpc ("Config object with type \"" ++ params.objectType
      ++ "\" already exists in template set."))
  else do
    let (resolvedMode, resolvedSor) ←
      normalizeConfigObjectBinding params.bindingMode params.sorTableName
    pure
      { configObjectId := 0
        configTemplateSetId := params.configTemplateSetId
        objectType := canonicalObjectType
        status := params.status.getD .draft
        bindingMode := resolvedMode
        sorTableName := resolvedSor
        displayName := params.displayName
        description := params.description }

/-- `createConfigObject`. -/
def createConfigObject (params : CreateConfigObjectParams) : DesignTx DesignedObject := do
  let db ← Program.read id
  let configObject ← Program.lift (newObject checks db params)
  let saved ← insertObject checks configObject
  logChange (effectiveTenant params.tenantId) .object saved.configObjectId .create
    params.createdBy none (some (.obj (createdFields saved)))
  pure saved

structure UpdateConfigObjectParams where
  tenantId : Option Nat
  configObjectId : Nat
  updatedBy : Nat
  displayName : Option String := none
  description : Option (Option String) := none
  status : Option PublishStatus := none
  bindingMode : Option ConfigBindingMode := none
  sorTableName : Option (Option String) := none
  objectType : Option String := none

/-- The table that an update binds an object to. -/
def nextSor (params : UpdateConfigObjectParams) (existing : DesignedObject)
    (nextMode : ConfigBindingMode) : Except DesignError (Option String) :=
  let given := match params.sorTableName with
    | some name => name.bind fun name => nonEmpty (trimText name)
    | none => existing.sorTableName
  if nextMode = .standalone then .ok none
  else
    match given.bind nonEmpty with
    | none => .error
        (.rpc "sor_table_name is required when binding_mode is sor_bound or system_table.")
    | some name => .ok (some name)

/-- Whether another object of the template set has the type that an object changes to. -/
def siblingOfType (db : DesignDb) (existing : DesignedObject)
    (nextObjectType existingObjectType : String) : Except DesignError Bool :=
  if nextObjectType ≠ existingObjectType then
    anyOfType checks.casing nextObjectType (db.configObjects.select fun row =>
      row.configTemplateSetId == existing.configTemplateSetId &&
        row.configObjectId != existing.configObjectId)
  else .ok false

/-- The row that an update makes of an object. -/
def updatedObject (db : DesignDb) (params : UpdateConfigObjectParams)
    (existing : DesignedObject) : Except DesignError DesignedObject := do
  let nextMode := params.bindingMode.getD existing.bindingMode
  let nextObjectType ←
    normalizeCanonicalObjectTypeOrThrow checks.casing (params.objectType.getD existing.objectType)
  let nextSor ← nextSor params existing nextMode
  if nextMode = .systemTable ∧ existing.bindingMode ≠ .systemTable ∧
      db.configFields.select (fun field => field.configObjectId == existing.configObjectId) ≠ []
      then
    .error (.rpc ("Cannot set binding_mode to system_table while config_object_fields exist; "
      ++ "delete those fields first."))
  else do
    let existingObjectType ← normalizeCanonicalObjectTypeOrThrow checks.casing existing.objectType
    let duplicate ← siblingOfType checks db existing nextObjectType existingObjectType
    if duplicate = true then
      .error (.rpc ("Config object with type \"" ++ nextObjectType
        ++ "\" already exists in template set."))
    else
      pure
        { existing with
          displayName := params.displayName.getD existing.displayName
          description := params.description.getD existing.description
          status := params.status.getD existing.status
          objectType := nextObjectType
          bindingMode := nextMode
          sorTableName := nextSor }

/-- `updateConfigObject`. -/
def updateConfigObject (params : UpdateConfigObjectParams) : DesignTx DesignedObject := do
  let db ← Program.read id
  let existing ← Program.lift (objectInScope db params.configObjectId
    (effectiveTenant params.tenantId) "Config object not found.")
  let updated ← Program.lift (updatedObject checks db params existing)
  saveObject checks updated
  logChange (effectiveTenant params.tenantId) .object existing.configObjectId .update
    params.updatedBy (some (.obj (updatedFields existing))) (some (.obj (updatedFields updated)))
  pure updated

/-- `deleteConfigObject`. -/
def deleteConfigObject (tenantId : Option Nat) (configObjectId deletedBy : Nat) :
    DesignTx Unit := do
  let db ← Program.read id
  match db.configObjects.find? configObjectId with
  | none => pure ()
  | some existing => do
      Program.lift (checkTemplateSet db existing.configTemplateSetId (effectiveTenant tenantId)
        "Config object does not belong to the specified tenant.")
      removeObject existing.configObjectId
      logChange (effectiveTenant tenantId) .object configObjectId .delete deletedBy
        (some (.obj (removedFields existing))) none

end Objects

/-! ## Fields -/

section Fields

variable (checks : DesignChecks)

/-- `assertConfigObjectAllowsDesignerFields`: an object bound to a system table has no fields. -/
def assertConfigObjectAllowsDesignerFields (configObject : DesignedObject) :
    Except DesignError Unit :=
  if configObject.bindingMode = .systemTable then
    .error (.rpc "Custom config fields are not supported when binding_mode is system_table.")
  else .ok ()

/-- `text.replace(/\s+/g, '_')`; whether the last character was a blank. -/
def joinWords : List Char → Bool → List Char
  | [], _ => []
  | c :: rest, afterBlank =>
      if Json.isSpace c = true then
        if afterBlank = true then joinWords rest true else '_' :: joinWords rest true
      else c :: joinWords rest false

/-- `normalizeConfigObjectFieldKey`. -/
def normalizeConfigObjectFieldKey (raw : String) : String :=
  String.ofList (joinWords (checks.casing.toLowerCase (Json.trimmed raw)) false)

/-- `/^[a-z][a-z0-9_]*$/`. -/
def isFieldKey (fieldKey : String) : Bool :=
  match fieldKey.toList with
  | [] => false
  | first :: rest =>
      first.isLower && rest.all fun c => c.isLower || c.isDigit || c == '_'

/-- `text.length`: a character beyond the basic plane counts twice. -/
def lengthOf (text : String) : Nat :=
  text.toList.foldl (fun length c => length + if c.toNat < 0x10000 then 1 else 2) 0

/-- `assertPersistableConfigObjectFieldKey`. -/
def assertPersistableConfigObjectFieldKey (fieldKey : String) : Except DesignError Unit :=
  if fieldKey = "" then
    .error (.rpc "field_key cannot be empty after trimming and normalization.")
  else if lengthOf fieldKey > 100 then
    .error (.rpc "field_key exceeds maximum length of 100 characters.")
  else if isFieldKey fieldKey = false then
    .error (.rpc ("field_key must be a lowercase identifier: start with a letter, then only "
      ++ "letters, digits, or underscores. Replace spaces before sending or rely on automatic "
      ++ "normalization."))
  else .ok ()

/-- The audited fields that an update may change. -/
def labelFields (field : ConfigObjectFieldEntity) : Record :=
  [("label", .str field.label), ("description", .ofText field.description),
    ("fieldType", .str field.fieldType), ("validationJson", field.validationJson.getD .null),
    ("defaultValue", field.defaultValue), ("isRequired", .bool field.isRequired),
    ("isSystem", .bool field.isSystem), ("orderIndex", .num field.orderIndex),
    ("sectionKey", .ofText field.sectionKey)]

/-- The audited fields of a field as a whole. -/
def fieldFields (field : ConfigObjectFieldEntity) : Json :=
  .obj ([("configObjectId", .num field.configObjectId), ("fieldKey", .str field.fieldKey)]
    ++ labelFields field)

structure CreateConfigFieldParams where
  tenantId : Option Nat
  configObjectId : Nat
  createdBy : Nat
  fieldKey : String
  label : String
  description : Option String := none
  fieldType : String
  validationJson : Option Json := none
  defaultValue : Json := .null
  isRequired : Bool := false
  isSystem : Bool := false
  orderIndex : Int := 0
  sectionKey : Option String := none

/-- The row of a new field, when the object takes it. -/
def newField (db : DesignDb) (params : CreateConfigFieldParams) :
    Except DesignError ConfigObjectFieldEntity := do
  let configObject ← objectInScope db params.configObjectId (effectiveTenant params.tenantId)
    "Config object not found."
  assertConfigObjectAllowsDesignerFields configObject
  let fieldKey := normalizeConfigObjectFieldKey checks params.fieldKey
  assertPersistableConfigObjectFieldKey fieldKey
  if (db.configFields.select fun field =>
      field.configObjectId == params.configObjectId && field.fieldKey == fieldKey) ≠ [] then
    .error (.rpc ("Config field with key \"" ++ fieldKey ++ "\" already exists on object."))
  else do
    let validationJson ←
      checks.applyDerivedDisplayAuthoringInValidationJson params.validationJson
    pure
      { configObjectFieldId := 0
        configObjectId := params.configObjectId
        fieldKey := fieldKey
        label := params.label
        description := params.description
        fieldType := params.fieldType
        validationJson := validationJson
        defaultValue := params.defaultValue
        isRequired := params.isRequired
        isSystem := params.isSystem
        orderIndex := params.orderIndex
        sectionKey := params.sectionKey
        createdBy := params.createdBy
        updatedBy := some params.createdBy }

/-- `createConfigField`. -/
def createConfigField (params : CreateConfigFieldParams) : DesignTx ConfigObjectFieldEntity := do
  let db ← Program.read id
  let field ← Program.lift (newField checks db params)
  let saved ← insertField checks field
  logChange (effectiveTenant params.tenantId) .field saved.configObjectFieldId .create
    params.createdBy none (some (fieldFields saved))
  pure saved

structure UpdateConfigFieldParams where
  tenantId : Option Nat
  configObjectFieldId : Nat
  updatedBy : Nat
  label : Option String := none
  description : Option (Option String) := none
  fieldType : Option String := none
  validationJson : Option (Option Json) := none
  defaultValue : Option Json := none
  isRequired : Option Bool := none
  isSystem : Option Bool := none
  orderIndex : Option Int := none
  sectionKey : Option (Option String) := none

/-- The row that an update makes of a field. -/
def updatedField (db : DesignDb) (params : UpdateConfigFieldParams)
    (existing : ConfigObjectFieldEntity) : Except DesignError ConfigObjectFieldEntity := do
  let configObject ← objectInScope db existing.configObjectId (effectiveTenant params.tenantId)
    "Config object not found for field."
  assertConfigObjectAllowsDesignerFields configObject
  let validationJson ← (params.validationJson.map
    checks.applyDerivedDisplayAuthoringInValidationJson).getD (.ok existing.validationJson)
  pure
    { existing with
      label := params.label.getD existing.label
      description := params.description.getD existing.description
      fieldType := params.fieldType.getD existing.fieldType
      validationJson := validationJson
      defaultValue := params.defaultValue.getD existing.defaultValue
      isRequired := params.isRequired.getD existing.isRequired
      isSystem := params.isSystem.getD existing.isSystem
      orderIndex := params.orderIndex.getD existing.orderIndex
      sectionKey := params.sectionKey.getD existing.sectionKey
      updatedBy := some params.updatedBy }

/-- `updateConfigField`. -/
def updateConfigField (params : UpdateConfigFieldParams) : DesignTx ConfigObjectFieldEntity := do
  let db ← Program.read id
  match db.configFields.find? params.configObjectFieldId with
  | none => Program.raise (.rpc "Config field not found.")
  | some existing => do
      let updated ← Program.lift (updatedField checks db params existing)
      saveField checks updated
      logChange (effectiveTenant params.tenantId) .field existing.configObjectFieldId .update
        params.updatedBy (some (.obj (labelFields existing))) (some (.obj (labelFields updated)))
      pure updated

/-- `deleteConfigField`. -/
def deleteConfigField (tenantId : Option Nat) (configObjectFieldId deletedBy : Nat) :
    DesignTx Unit := do
  let db ← Program.read id
  match db.configFields.find? configObjectFieldId with
  | none => pure ()
  | some existing => do
      let _ ← Program.lift (objectInScope db existing.configObjectId (effectiveTenant tenantId)
        "Config object not found for field.")
      removeField existing.configObjectFieldId
      logChange (effectiveTenant tenantId) .field configObjectFieldId .delete deletedBy
        (some (fieldFields existing)) none

end Fields

end ObjectDesign

end CoreApi.ConfigObjects
