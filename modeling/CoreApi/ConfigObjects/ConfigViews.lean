import Mathlib.Data.List.MinMax
import CoreApi.ConfigObjects.Entities

/-!
# The views of config objects

The calls of the config objects service by which views are created, edited,
removed, activated and deactivated. A view belongs to a tenant or to the global
scope. Two unique indexes guard the table of views: the keys of the views of an
object, and the active view of an object, a type and a scope. A call that raises
keeps what it wrote before.
-/

namespace CoreApi.ConfigObjects

open CoreApi.Foundation

/-- `'list' | 'detail' | 'form'`. -/
inductive ConfigObjectViewType where
  | list | detail | form
deriving DecidableEq

def ConfigObjectViewType.text : ConfigObjectViewType → String
  | .list => "list"
  | .detail => "detail"
  | .form => "form"

/-- `config_object_views`; no tenant is the global scope. -/
structure ConfigObjectViewEntity where
  configObjectViewId : Nat
  configObjectId : Nat
  viewKey : String
  viewType : ConfigObjectViewType
  name : String
  description : Option String
  roleKey : Option String
  tenantId : Option Nat
  isDefault : Bool
  isActive : Bool
  configJson : Option Json
  createdBy : Option Nat
  updatedBy : Option Nat
deriving DecidableEq

instance : Keyed ConfigObjectViewEntity where
  key := ConfigObjectViewEntity.configObjectViewId
  withKey n row := { row with configObjectViewId := n }
  key_withKey _ _ := rfl

/-- An audit entry about a view. -/
structure ViewAuditEntry where
  tenantId : Option Nat
  entityId : Nat
  action : AuditAction
  changedBy : Nat
  oldValue : Option Json
  newValue : Option Json
deriving DecidableEq

/-- The tables that the view calls read and write. -/
structure ViewDb where
  tenants : List Nat
  tenantUsers : List Nat
  templateSets : Table ConfigTemplateSetEntity
  configObjects : Table ConfigObjectEntity
  views : Table ConfigObjectViewEntity
  auditLogs : List ViewAuditEntry

/-- An exception that the service throws. -/
inductive ViewRefusal where
  | rpc (message : String)
  | authoring (code message : String)
deriving DecidableEq

/-- What a call raises: an exception of its own, or a failure of the database. -/
inductive ViewError where
  | refused (refusal : ViewRefusal)
  | foreignKey
  /-- A unique index refuses a row; which indexes the row violates. -/
  | duplicateKey (activeScope viewKey : Bool)
deriving DecidableEq

/-- The checks of a view configuration, which read the fields and panels of the object. -/
structure ViewChecks where
  assertNoForbiddenInlineFieldAuthoringKeysInViewConfig : Json → Except ViewRefusal Unit
  normalizeListViewConfigJsonOrThrow : Json → Except ViewRefusal Json
  normalizeDetailFormViewConfigJsonOrThrow : Json → Except ViewRefusal Json
  assertScopedViewConfigFieldKeysExist :
    ViewDb → Option Nat → ConfigObjectEntity → Option Json → Except ViewRefusal Unit
  assertPanelKeysExistForView : ViewDb → Nat → Option Json → Except ViewRefusal Unit
  assertFormViewWriteSchemaConstraints :
    ViewDb → Option Nat → String → Nat → Option Json → Except ViewRefusal Unit

namespace ConfigObjectsService

/-- Calls on views. -/
abbrev ViewTx := Program ViewDb ViewError

/-- A check as part of a call. -/
def check {α : Type} (result : Except ViewRefusal α) : ViewTx α :=
  match result with
  | .ok value => Program.result value
  | .error refusal => Program.raise (.refused refusal)

/-! ## Scopes -/

/-- `getEffectiveTenantId`: no tenant, or none that is positive, is the global scope. -/
def getEffectiveTenantId (tenantId : Option Nat) : Option Nat :=
  tenantId.filter fun tenant => tenant ≠ 0

/-- `templateSetWhereForTenantScope`: a tenant finds its own sets, the global scope all. -/
def templateSetForTenantScope (db : ViewDb) (configTemplateSetId : Nat)
    (effectiveTenantId : Option Nat) : Option ConfigTemplateSetEntity :=
  db.templateSets.rows.find? fun templateSet =>
    templateSet.configTemplateSetId == configTemplateSetId &&
      (effectiveTenantId.isNone || templateSet.tenantId == effectiveTenantId)

/-- `resolveConfigObjectForEntityScope`. -/
def resolveConfigObjectForEntityScope (db : ViewDb) (entityKey : String)
    (effectiveTenantId : Option Nat) : Except ViewRefusal ConfigObjectEntity :=
  match db.configObjects.rows.find? fun configObject => configObject.objectType == entityKey with
  | none => .error (.rpc ("Config object not found for entityKey \"" ++ entityKey ++ "\"."))
  | some configObject =>
      match templateSetForTenantScope db configObject.configTemplateSetId effectiveTenantId with
      | none => .error (.rpc "Config object does not belong to the specified tenant.")
      | some _ => .ok configObject

/-- The object of a view must be in the scope. -/
def checkViewScope (db : ViewDb) (configObjectId : Nat) (effectiveTenantId : Option Nat) :
    Except ViewRefusal Unit :=
  match db.configObjects.find? configObjectId with
  | none => .error (.rpc "Config object not found for view.")
  | some configObject =>
      match templateSetForTenantScope db configObject.configTemplateSetId effectiveTenantId with
      | none => .error (.rpc "Config object does not belong to the specified tenant.")
      | some _ => .ok ()

/-- The views of an object, a type and a scope. -/
def inScopeOf (configObjectId : Nat) (viewType : ConfigObjectViewType) (tenantId : Option Nat)
    (view : ConfigObjectViewEntity) : Bool :=
  view.configObjectId == configObjectId && view.viewType == viewType && view.tenantId == tenantId

/-! ## Writes -/

/-- `uq_config_object_views_active_scope` refuses the row: another view is active in its scope.
Ids of tenants are positive, so that no tenant shares the index entry of the global scope. -/
def activeScopeTaken (db : ViewDb) (view : ConfigObjectViewEntity) : Bool :=
  view.isActive && db.views.rows.any fun other =>
    other.configObjectViewId != view.configObjectViewId && other.isActive &&
      inScopeOf view.configObjectId view.viewType view.tenantId other

/-- The unique index on object and key refuses the row. -/
def viewKeyTaken (db : ViewDb) (view : ConfigObjectViewEntity) : Bool :=
  db.views.rows.any fun other =>
    other.configObjectViewId != view.configObjectViewId &&
      other.configObjectId == view.configObjectId && other.viewKey == view.viewKey

def checkIndexes (db : ViewDb) (view : ConfigObjectViewEntity) : Except ViewError Unit :=
  if activeScopeTaken db view || viewKeyTaken db view then
    .error (.duplicateKey (activeScopeTaken db view) (viewKeyTaken db view))
  else .ok ()

/-- `viewRepository.save` of a new row. -/
def insertView (view : ConfigObjectViewEntity) : ViewTx ConfigObjectViewEntity := do
  let db ← Program.read id
  Program.lift (checkIndexes db (Keyed.withKey db.views.autoIncrement view))
  Program.writeReturning fun db =>
    (Keyed.withKey db.views.autoIncrement view, { db with views := db.views.insert view })

/-- The columns of a saved row. -/
def overwritten (view row : ConfigObjectViewEntity) : ConfigObjectViewEntity :=
  { view with configObjectViewId := row.configObjectViewId }

/-- `viewRepository.save` of a row that was read. -/
def saveView (view : ConfigObjectViewEntity) : ViewTx Unit := do
  let db ← Program.read id
  Program.lift (checkIndexes db view)
  Program.write fun db => { db with
    views := db.views.updateAt view.configObjectViewId (overwritten view) fun _ => rfl }

/-- `viewRepository.remove`. -/
def removeView (configObjectViewId : Nat) : ViewTx Unit :=
  Program.write fun db => { db with
    views := db.views.remove fun view => view.configObjectViewId == configObjectViewId }

def deactivated (view : ConfigObjectViewEntity) : ConfigObjectViewEntity :=
  { view with isActive := false }

theorem deactivated_key (view : ConfigObjectViewEntity) :
    Keyed.key (deactivated view) = Keyed.key view := rfl

/-- `deactivateViewsInScope`. -/
def deactivateViewsInScope (configObjectId : Nat) (viewType : ConfigObjectViewType)
    (tenantId except : Option Nat) : ViewTx Unit :=
  Program.write fun db => { db with
    views := db.views.update
      (fun view => inScopeOf configObjectId viewType tenantId view &&
        some view.configObjectViewId != except)
      deactivated deactivated_key }

/-- `logConfigChange`; the tenant, where there is one, and the user are foreign keys. -/
def logConfigChange (tenantId : Option Nat) (entityId : Nat) (action : AuditAction)
    (changedBy : Nat) (oldValue newValue : Option Json) : ViewTx Unit := do
  let db ← Program.read id
  if (∀ tenant ∈ tenantId, tenant ∈ db.tenants) ∧ changedBy ∈ db.tenantUsers then
    Program.write fun db => { db with
      auditLogs := db.auditLogs ++
        [{ tenantId := tenantId
           entityId := entityId
           action := action
           changedBy := changedBy
           oldValue := oldValue
           newValue := newValue }] }
  else Program.raise .foreignKey

/-! ## Views by key -/

/-- A value that may be null. -/
def textOrNull (value : Option String) : Json := (value.map Json.str).getD .null

/-- The audited fields that `updateConfigView` may change. -/
def labelFields (view : ConfigObjectViewEntity) : Record :=
  [("name", .str view.name), ("description", textOrNull view.description),
    ("roleKey", textOrNull view.roleKey), ("isDefault", .bool view.isDefault)]

/-- The audited fields of a view as a whole. -/
def viewFields (view : ConfigObjectViewEntity) : Json :=
  .obj ([("configObjectId", .num view.configObjectId), ("viewKey", .str view.viewKey),
    ("viewType", .str view.viewType.text)] ++ labelFields view)

structure CreateConfigViewParams where
  tenantId : Option Nat
  objectType : String
  createdBy : Nat
  viewKey : String
  viewType : ConfigObjectViewType
  name : String
  description : Option String := none
  roleKey : Option String := none
  isDefault : Bool := false

/-- The object that a new view is for, when the key is free. -/
def configObjectForNewView (db : ViewDb) (params : CreateConfigViewParams) :
    Except ViewRefusal ConfigObjectEntity :=
  match db.configObjects.rows.find? fun configObject =>
    configObject.objectType == params.objectType && configObject.status == .published with
  | none => .error (.rpc "Config object not found for view creation.")
  | some configObject =>
      match templateSetForTenantScope db configObject.configTemplateSetId
        (getEffectiveTenantId params.tenantId) with
      | none => .error (.rpc "Config object does not belong to the specified tenant.")
      | some _ =>
          match db.views.rows.find? fun view =>
            view.configObjectId == configObject.configObjectId &&
              view.viewKey == params.viewKey with
          | some _ => .error (.rpc ("Config view with key \"" ++ params.viewKey
              ++ "\" already exists for object type \"" ++ params.objectType ++ "\"."))
          | none => .ok configObject

/-- The row of a new view: without a tenant, and active as the column defaults to. -/
def newView (params : CreateConfigViewParams) (configObject : ConfigObjectEntity) :
    ConfigObjectViewEntity where
  configObjectViewId := 0
  configObjectId := configObject.configObjectId
  viewKey := params.viewKey
  viewType := params.viewType
  name := params.name
  description := params.description
  roleKey := params.roleKey
  tenantId := none
  isDefault := params.isDefault
  isActive := true
  configJson := none
  createdBy := none
  updatedBy := none

/-- `createConfigView`. -/
def createConfigView (params : CreateConfigViewParams) : ViewTx ConfigObjectViewEntity := do
  let db ← Program.read id
  let configObject ← check (configObjectForNewView db params)
  let saved ← insertView (newView params configObject)
  logConfigChange (getEffectiveTenantId params.tenantId) saved.configObjectViewId .create
    params.createdBy none (some (viewFields saved))
  pure saved

structure UpdateConfigViewParams where
  tenantId : Option Nat
  configObjectViewId : Nat
  updatedBy : Nat
  name : Option String := none
  description : Option (Option String) := none
  roleKey : Option (Option String) := none
  isDefault : Option Bool := none

/-- A view with the fields that are given. -/
def relabeledView (params : UpdateConfigViewParams) (view : ConfigObjectViewEntity) :
    ConfigObjectViewEntity :=
  { view with
    name := params.name.getD view.name
    description := params.description.getD view.description
    roleKey := params.roleKey.getD view.roleKey
    isDefault := params.isDefault.getD view.isDefault }

/-- `updateConfigView`. -/
def updateConfigView (params : UpdateConfigViewParams) : ViewTx ConfigObjectViewEntity := do
  let db ← Program.read id
  match db.views.find? params.configObjectViewId with
  | none => Program.raise (.refused (.rpc "Config view not found."))
  | some existing => do
      check (checkViewScope db existing.configObjectId
        (getEffectiveTenantId params.tenantId))
      saveView (relabeledView params existing)
      logConfigChange (getEffectiveTenantId params.tenantId) existing.configObjectViewId .update
        params.updatedBy (some (.obj (labelFields existing)))
        (some (.obj (labelFields (relabeledView params existing))))
      pure (relabeledView params existing)

/-- `deleteConfigView`. -/
def deleteConfigView (tenantId : Option Nat) (configObjectViewId deletedBy : Nat) :
    ViewTx Unit := do
  let db ← Program.read id
  match db.views.find? configObjectViewId with
  | none => pure ()
  | some existing => do
      check (checkViewScope db existing.configObjectId (getEffectiveTenantId tenantId))
      removeView existing.configObjectViewId
      logConfigChange (getEffectiveTenantId tenantId) configObjectViewId .delete deletedBy
        (some (viewFields existing)) none

/-! ## Views of a scope -/

section Scoped

variable (checks : ViewChecks)

structure UpsertScopedConfigViewParams where
  tenantId : Option Nat
  entityKey : String
  viewType : ConfigObjectViewType
  updatedBy : Nat
  configObjectViewId : Option Nat := none
  viewKey : Option String := none
  name : Option String := none
  description : Option (Option String) := none
  roleKey : Option (Option String) := none
  isDefault : Option Bool := none
  isActive : Option Bool := none
  configJson : Option (Option Json) := none

namespace UpsertScopedConfigViewParams

variable (params : UpsertScopedConfigViewParams)

def effectiveTenantId : Option Nat := getEffectiveTenantId params.tenantId

def shouldActivate : Bool := params.isActive.getD true

end UpsertScopedConfigViewParams

/-- A text that is given and not blank, trimmed. -/
def givenText (text : Option String) : Option String :=
  match text with
  | none => none
  | some text =>
      match Json.trimmed text with
      | [] => none
      | letters => some (String.ofList letters)

def viewKeyValue (params : UpsertScopedConfigViewParams) : String :=
  (givenText params.viewKey).getD (params.entityKey ++ "_" ++ params.viewType.text ++ "_"
    ++ (params.effectiveTenantId.map Nat.repr).getD "global")

def viewNameValue (params : UpsertScopedConfigViewParams) : String :=
  (givenText params.name).getD (params.entityKey ++ " " ++ params.viewType.text ++ " view")

/-- The view that an upsert edits: the one it names among those of the object, else the latest
of the scope. -/
def existingView (db : ViewDb) (params : UpsertScopedConfigViewParams) (configObjectId : Nat) :
    Option ConfigObjectViewEntity :=
  match params.configObjectViewId.filter fun viewId => viewId ≠ 0 with
  | some viewId => db.views.rows.find? fun view =>
      view.configObjectViewId == viewId && view.configObjectId == configObjectId
  | none => (db.views.select
      (inScopeOf configObjectId params.viewType params.effectiveTenantId)).argmax
        ConfigObjectViewEntity.configObjectViewId

/-- The configuration as it is checked and normalised before it is stored. -/
def authoredConfig (db : ViewDb) (params : UpsertScopedConfigViewParams)
    (configObject : ConfigObjectEntity) (configJson : Option Json) :
    Except ViewRefusal (Option Json) :=
  match configJson with
  | some (.obj fields) => do
      checks.assertNoForbiddenInlineFieldAuthoringKeysInViewConfig (.obj fields)
      let normalized ← match params.viewType with
        | .list => checks.normalizeListViewConfigJsonOrThrow (.obj fields)
        | .detail | .form => checks.normalizeDetailFormViewConfigJsonOrThrow (.obj fields)
      checks.assertScopedViewConfigFieldKeysExist db params.effectiveTenantId configObject
        (some normalized)
      pure (some normalized)
  | other => do
      checks.assertScopedViewConfigFieldKeysExist db params.effectiveTenantId configObject other
      pure other

/-- The panels that a configuration names, and what a form may write. -/
def checkPanels (db : ViewDb) (params : UpsertScopedConfigViewParams) (configObjectViewId : Nat)
    (configJson : Option Json) : Except ViewRefusal Unit :=
  match params.viewType with
  | .list => .ok ()
  | .detail => checks.assertPanelKeysExistForView db configObjectViewId configJson
  | .form => do
      checks.assertPanelKeysExistForView db configObjectViewId configJson
      checks.assertFormViewWriteSchemaConstraints db params.effectiveTenantId params.entityKey
        configObjectViewId configJson

/-- The configuration that an upsert gives an existing view. -/
def editedConfig (db : ViewDb) (params : UpsertScopedConfigViewParams)
    (configObject : ConfigObjectEntity) (existing : ConfigObjectViewEntity) :
    Except ViewRefusal (Option Json) := do
  let config ← authoredConfig checks db params configObject
    (params.configJson.getD existing.configJson)
  checkPanels checks db params existing.configObjectViewId config
  pure config

/-- The row that an upsert makes of an existing view. -/
def editedView (params : UpsertScopedConfigViewParams) (existing : ConfigObjectViewEntity)
    (configJson : Option Json) : ConfigObjectViewEntity :=
  { existing with
    viewType := params.viewType
    viewKey := viewKeyValue params
    name := viewNameValue params
    description := params.description.getD existing.description
    roleKey := params.roleKey.getD existing.roleKey
    isDefault := params.isDefault.getD existing.isDefault
    isActive := params.shouldActivate
    configJson := configJson
    updatedBy := some params.updatedBy }

/-- The row that an upsert creates. -/
def scopedView (params : UpsertScopedConfigViewParams) (configObject : ConfigObjectEntity)
    (configJson : Option Json) : ConfigObjectViewEntity where
  configObjectViewId := 0
  configObjectId := configObject.configObjectId
  viewKey := viewKeyValue params
  viewType := params.viewType
  name := viewNameValue params
  description := params.description.getD none
  roleKey := params.roleKey.getD none
  tenantId := params.effectiveTenantId
  isDefault := params.isDefault.getD false
  isActive := params.shouldActivate
  configJson := configJson
  createdBy := some params.updatedBy
  updatedBy := some params.updatedBy

/-- The audited fields of an upsert. -/
def scopedFields (view : ConfigObjectViewEntity) : Json :=
  .obj ([("viewKey", .str view.viewKey)] ++ labelFields view ++
    [("isActive", .bool view.isActive), ("configJson", view.configJson.getD .null)])

/-- `upsertScopedConfigView` on a view that exists. -/
def editScopedView (params : UpsertScopedConfigViewParams) (configObject : ConfigObjectEntity)
    (existing : ConfigObjectViewEntity) : ViewTx ConfigObjectViewEntity := do
  let db ← Program.read id
  let config ← check (editedConfig checks db params configObject existing)
  Program.when (params.shouldActivate = true)
    (deactivateViewsInScope configObject.configObjectId params.viewType params.effectiveTenantId
      (some existing.configObjectViewId))
  saveView (editedView params existing config)
  logConfigChange params.effectiveTenantId existing.configObjectViewId .update params.updatedBy
    (some (scopedFields existing)) (some (scopedFields (editedView params existing config)))
  pure (editedView params existing config)

/-- The checks of a view that was just created; where one fails the view is removed. -/
def checkCreatedView (params : UpsertScopedConfigViewParams) (saved : ConfigObjectViewEntity) :
    ViewTx Unit :=
  Program.attempt
    (do
      let db ← Program.read id
      check (checkPanels checks db params saved.configObjectViewId saved.configJson))
    fun failure => do
      removeView saved.configObjectViewId
      Program.raise failure

/-- `upsertScopedConfigView` where no view exists. -/
def createScopedView (params : UpsertScopedConfigViewParams) (configObject : ConfigObjectEntity) :
    ViewTx ConfigObjectViewEntity := do
  let db ← Program.read id
  let config ← check
    (authoredConfig checks db params configObject (params.configJson.getD none))
  Program.when (params.shouldActivate = true)
    (deactivateViewsInScope configObject.configObjectId params.viewType params.effectiveTenantId
      none)
  let saved ← insertView (scopedView params configObject config)
  checkCreatedView checks params saved
  logConfigChange params.effectiveTenantId saved.configObjectViewId .create params.updatedBy none
    (some (scopedFields saved))
  pure saved

/-- `upsertScopedConfigView`. -/
def upsertScopedConfigView (params : UpsertScopedConfigViewParams) :
    ViewTx ConfigObjectViewEntity := do
  let db ← Program.read id
  let configObject ← check
    (resolveConfigObjectForEntityScope db params.entityKey params.effectiveTenantId)
  match existingView db params configObject.configObjectId with
  | some existing => editScopedView checks params configObject existing
  | none => createScopedView checks params configObject

/-- A view of the object and the type. -/
def namedView (db : ViewDb) (configObjectViewId configObjectId : Nat)
    (viewType : ConfigObjectViewType) : Option ConfigObjectViewEntity :=
  db.views.rows.find? fun view =>
    view.configObjectViewId == configObjectViewId && view.configObjectId == configObjectId &&
      view.viewType == viewType

def scopeMismatch : ViewError :=
  .refused (.authoring "SIX1_AUTHORING_SCOPE_TENANT_MISMATCH"
    "Scoped config view does not match the requested tenant scope.")

/-- A view with its activity set. -/
def switched (isActive : Bool) (updatedBy : Nat) (view : ConfigObjectViewEntity) :
    ConfigObjectViewEntity :=
  { view with
    isActive := isActive
    updatedBy := some updatedBy }

/-- The audited change of activity. -/
def activity (isActive : Bool) : Json := .obj [("isActive", .bool isActive)]

/-- `activateScopedConfigView`. -/
def activateScopedConfigView (tenantId : Option Nat) (entityKey : String)
    (viewType : ConfigObjectViewType) (configObjectViewId updatedBy : Nat) :
    ViewTx ConfigObjectViewEntity := do
  let db ← Program.read id
  let configObject ← check
    (resolveConfigObjectForEntityScope db entityKey (getEffectiveTenantId tenantId))
  match namedView db configObjectViewId configObject.configObjectId viewType with
  | none => Program.raise (.refused (.rpc "Scoped config view not found for activation."))
  | some target =>
      if target.tenantId ≠ getEffectiveTenantId tenantId then Program.raise scopeMismatch
      else do
        deactivateViewsInScope configObject.configObjectId viewType
          (getEffectiveTenantId tenantId) (some target.configObjectViewId)
        saveView (switched true updatedBy target)
        logConfigChange (getEffectiveTenantId tenantId) target.configObjectViewId .update updatedBy
          (some (activity false)) (some (activity true))
        pure (switched true updatedBy target)

/-- `deactivateScopedConfigView`; how many views it set inactive. -/
def deactivateScopedConfigView (tenantId : Option Nat) (entityKey : String)
    (viewType : ConfigObjectViewType) (configObjectViewId : Option Nat) (updatedBy : Nat) :
    ViewTx Nat := do
  let db ← Program.read id
  let configObject ← check
    (resolveConfigObjectForEntityScope db entityKey (getEffectiveTenantId tenantId))
  match configObjectViewId with
  | some viewId =>
      match namedView db viewId configObject.configObjectId viewType with
      | none => pure 0
      | some target =>
          if target.tenantId ≠ getEffectiveTenantId tenantId then Program.raise scopeMismatch
          else do
            saveView (switched false updatedBy target)
            logConfigChange (getEffectiveTenantId tenantId) target.configObjectViewId .update
              updatedBy (some (activity true)) (some (activity false))
            pure 1
  | none =>
      Program.writeReturning fun db =>
        let affected := inScopeOf configObject.configObjectId viewType
          (getEffectiveTenantId tenantId)
        ((db.views.select affected).length,
          { db with views := db.views.update affected (switched false updatedBy) fun _ => rfl })

end Scoped

end ConfigObjectsService

end CoreApi.ConfigObjects
