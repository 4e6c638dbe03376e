import CoreApi.ConfigObjects.ObjectSchemas

/-!
# Instances of object types

Reading and patching an instance of an object type. An instance that is bound to a
system of record is a core row with its custom values in a row of its own; the service
knows five such tables. A patch runs in a transaction.
-/

namespace CoreApi.ConfigObjects

open CoreApi.Foundation Automation ObjectDesign

/-- The core tables that instances live in. -/
inductive SorType where
  | project | task | customer | customerContact | resource
deriving DecidableEq

/-- An object type as the source spells it. -/
def SorType.text : SorType → String
  | .project => "project"
  | .task => "task"
  | .customer => "customer"
  | .customerContact => "customer_contact"
  | .resource => "resource"

/-- The core table of an object type, which is compared as it is spelled. -/
def sorTypeOf (objectType : String) : Option SorType :=
  [SorType.project, .task, .customer, .customerContact, .resource].find? fun type =>
    type.text == objectType

/-- A row of `projects`, `tasks`, `customers`, `customer_contact_info` or `resources`. Customers
and their contacts have no tenant, and only contacts have a customer. -/
structure SorRow where
  coreId : Nat
  tenantId : Option Nat
  customerId : Option Nat
  columns : Record
deriving DecidableEq

/-- A row of `project_meta`, `task_meta`, `customer_meta`, `customer_contact_info_meta` or
`resource_meta`. -/
structure SorMetaRow where
  metaId : Nat
  coreId : Nat
  metaJson : Option Record
deriving DecidableEq

/-- `config_custom_object_instances`. -/
structure CustomObjectInstance where
  configCustomObjectInstanceId : Nat
  tenantId : Nat
  configObjectId : Nat
  payload : Option Record
deriving DecidableEq

instance : Keyed SorRow where
  key := SorRow.coreId
  withKey n row := { row with coreId := n }
  key_withKey _ _ := rfl

instance : Keyed SorMetaRow where
  key := SorMetaRow.metaId
  withKey n row := { row with metaId := n }
  key_withKey _ _ := rfl

instance : Keyed CustomObjectInstance where
  key := CustomObjectInstance.configCustomObjectInstanceId
  withKey n row := { row with configCustomObjectInstanceId := n }
  key_withKey _ _ := rfl

/-- The configuration, and the tables of the instances. -/
structure InstanceDb extends RuntimeDb where
  cores : SorType → Table SorRow
  metaRows : SorType → Table SorMetaRow
  customInstances : Table CustomObjectInstance

/-- What instances rest on besides their schemas: the fields derived at run time, and which core
rows the tables accept. -/
structure InstanceServices extends SchemaServices where
  applyDerivedRuntimeFields : ObjectSchema → Record → Record
  acceptsCore : InstanceDb → SorType → SorRow → Bool

/-- The custom values of a core row. -/
def metaRowOf (db : InstanceDb) (type : SorType) (coreId : Nat) : Option SorMetaRow :=
  (db.metaRows type).rows.find? fun row => row.coreId == coreId

/-- `row?.metaJson ?? {}`. -/
def metaJsonOf (row : Option SorMetaRow) : Record := (row.bind SorMetaRow.metaJson).getD []

section

variable (services : InstanceServices)

/-! ## Reading an instance -/

/-- What `resolveObjectInstance` returns. -/
inductive ResolvedInstance where
  | sorBound (objectType : String) (tenantId : Nat) (schema : ObjectSchema) (core : SorRow)
      (dynamicFields : Record)
  | standalone (objectType : String) (tenantId : Nat) (schema : ObjectSchema) (instanceId : Nat)
      (dynamicFields : Record)
deriving DecidableEq

/-- The value of a field: that of the source, else its default. -/
def dynamicField (source : Record) (field : ConfigObjectFieldEntity) : Option (String × Json) :=
  match source.get? field.fieldKey with
  | some value => some (field.fieldKey, value)
  | none => if field.defaultValue = .null then none else some (field.fieldKey, field.defaultValue)

/-- `mergeDynamicFieldsFromSource`. -/
def mergeDynamicFieldsFromSource (schema : ObjectSchema) (source : Record) : Record :=
  services.applyDerivedRuntimeFields schema
    (Record.spread [] (schema.fields.filterMap (dynamicField source)))

/-- `loadCoreAndMeta`. -/
def loadCoreAndMeta (db : InstanceDb) (objectType : String) (coreId : Nat) :
    Option (SorRow × Record) := do
  let type ← sorTypeOf objectType
  let core ← (db.cores type).find? coreId
  pure (core, metaJsonOf (metaRowOf db type coreId))

/-- `resolveStandaloneObjectInstance`. -/
def resolveStandaloneObjectInstance (db : InstanceDb) (tenantId : Nat) (objectType : String)
    (instanceId : Nat) : Except DesignError (Option ResolvedInstance) := do
  match ← getObjectSchema services.toSchemaServices db.toRuntimeDb (some tenantId) objectType with
  | none => pure none
  | some schema =>
      if schema.configObject.bindingMode ≠ .standalone then
        .error (.rpc "instanceId is only valid for standalone configurable objects.")
      else
        pure ((db.customInstances.rows.find? fun row =>
          row.configCustomObjectInstanceId == instanceId && row.tenantId == tenantId &&
            row.configObjectId == schema.configObject.configObjectId).map fun row =>
              .standalone objectType tenantId schema row.configCustomObjectInstanceId
                (mergeDynamicFieldsFromSource services schema (row.payload.getD [])))

/-- The instance under a core id, once its schema is resolved. -/
def instanceOfSchema (db : InstanceDb) (tenantId : Nat) (objectType : String) (coreId : Nat)
    (schema : ObjectSchema) : Except DesignError (Option ResolvedInstance) :=
  match schema.configObject.bindingMode with
  | .standalone => .error
      (.rpc "Standalone configurable objects require instanceId, not coreId.")
  | .systemTable => .error (.rpc ("resolve_config_instance with coreId is not supported for "
      ++ "system_table binding_mode; use existing REST APIs."))
  | .sorBound => .ok ((loadCoreAndMeta db objectType coreId).map fun (core, metaJson) =>
      .sorBound objectType tenantId schema core
        (mergeDynamicFieldsFromSource services schema metaJson))

/-- The instance under a core id. -/
def resolveSorObjectInstance (db : InstanceDb) (tenantId : Nat) (objectType : String)
    (coreId : Nat) : Except DesignError (Option ResolvedInstance) := do
  match ← getObjectSchema services.toSchemaServices db.toRuntimeDb (some tenantId) objectType with
  | none => pure none
  | some schema => instanceOfSchema services db tenantId objectType coreId schema

/-- `resolveObjectInstance`; ids that are not positive are none. -/
def resolveObjectInstance (db : InstanceDb) (tenantId : Nat) (objectType : String)
    (coreId instanceId : Option Nat) : Except DesignError (Option ResolvedInstance) :=
  match instanceId.filter (· ≠ 0), coreId.filter (· ≠ 0) with
  | some instanceId, _ =>
      resolveStandaloneObjectInstance services db tenantId objectType instanceId
  | none, none => .error (.rpc ("Provide coreId for SoR-backed objects or instanceId for "
      ++ "standalone objects."))
  | none, some coreId => resolveSorObjectInstance services db tenantId objectType coreId

/-! ## Patching an instance -/

/-- Calls on instances. -/
abbrev InstanceTx := Program InstanceDb DesignError

/-- What `applySorBoundInstancePatch` returns. -/
structure ApplySorBoundInstancePatchResult where
  core : SorRow
  metaJson : Record
deriving DecidableEq

/-- The shared flag of a resource: `1` for the values that mean so, else `0`. -/
def sharedFlag (value : Json) : Json :=
  if value ∈ [Json.bool true, .num 1, .str "1", .str "true"] then .num 1 else .num 0

/-- `assignFilteredCoreProps`. -/
def assignFilteredCoreProps (type : SorType) (columns filteredCore : Record) : Record :=
  columns.spread (filteredCore.map fun (key, value) =>
    if type = .resource ∧ key = "isShared" then (key, sharedFlag value) else (key, value))

/-- `manager.save` of a core row that was read. -/
def saveCore (type : SorType) (row : SorRow) : InstanceTx Unit := do
  let accepted ← Program.read fun db => services.acceptsCore db type row
  if accepted = true then
    Program.write fun db => { db with
      cores := Function.update db.cores type ((db.cores type).updateAt row.coreId
        (fun old => { row with coreId := old.coreId }) fun _ => rfl) }
  else Program.raise .database

/-- `manager.save` of the custom values of a core row. -/
def saveMeta (type : SorType) (coreId : Nat) (metaRow : Option SorMetaRow) (metaJson : Record) :
    InstanceTx Unit :=
  Program.write fun db => { db with
    metaRows := Function.update db.metaRows type (match metaRow with
      | none => (db.metaRows type).insert
          { metaId := 0
            coreId := coreId
            metaJson := some metaJson }
      | some metaRow => (db.metaRows type).updateAt metaRow.metaId
          (fun old => { metaRow with
            metaId := old.metaId
            metaJson := some metaJson }) fun _ => rfl) }

/-- How a core table is patched: its name in messages, and what a row must meet. -/
structure PatchTarget where
  type : SorType
  name : String
  checkRow : SorRow → Except DesignError Unit

/-- The core row, once it meets the target; a row that is not there raises. -/
def findCore (target : PatchTarget) (coreId : Nat) (missing : String) : InstanceTx SorRow := do
  let row ← Program.read fun db => (db.cores target.type).find? coreId
  match row with
  | none => Program.raise (.rpc (target.name ++ missing))
  | some row => pure row

/-- The body that the patches of the core tables share. -/
def patchCoreAndMeta (target : PatchTarget) (coreId : Nat) (filteredCore filteredMeta : Record) :
    InstanceTx ApplySorBoundInstancePatchResult := do
  let row ← findCore target coreId " not found."
  Program.lift (target.checkRow row)
  Program.when (filteredCore ≠ []) (saveCore services target.type
    { row with columns := assignFilteredCoreProps target.type row.columns filteredCore })
  let metaRow ← Program.read fun db => metaRowOf db target.type coreId
  let metaJson := (metaJsonOf metaRow).spread filteredMeta
  Program.when (filteredMeta ≠ []) (saveMeta target.type coreId metaRow metaJson)
  let core ← findCore target coreId " not found after update."
  pure { core, metaJson }

/-- The tenant of a row is checked where its core columns are patched. -/
def checkTenantOfCore (message : String) (tenantScope : Option Nat) (filteredCore : Record)
    (row : SorRow) : Except DesignError Unit :=
  if filteredCore ≠ [] ∧ tenantScope ≠ none ∧ row.tenantId ≠ tenantScope then
    .error (.rpc message)
  else .ok ()

section Patches

variable (coreId : Nat) (tenantScope : Option Nat) (filteredCore filteredMeta : Record)

/-- `patchProjectCoreAndMeta`. -/
def patchProjectCoreAndMeta : InstanceTx ApplySorBoundInstancePatchResult :=
  patchCoreAndMeta services
    { type := .project
      name := "Project"
      checkRow := checkTenantOfCore "Project does not belong to the specified tenant."
        tenantScope filteredCore } coreId filteredCore filteredMeta

/-- `patchTaskCoreAndMeta`. -/
def patchTaskCoreAndMeta : InstanceTx ApplySorBoundInstancePatchResult :=
  patchCoreAndMeta services
    { type := .task
      name := "Task"
      checkRow := checkTenantOfCore "Task does not belong to the specified tenant."
        tenantScope filteredCore } coreId filteredCore filteredMeta

/-- `patchResourceCoreAndMeta`. -/
def patchResourceCoreAndMeta : InstanceTx ApplySorBoundInstancePatchResult :=
  patchCoreAndMeta services
    { type := .resource
      name := "Resource"
      checkRow := checkTenantOfCore "Resource does not belong to the specified tenant."
        tenantScope filteredCore } coreId filteredCore filteredMeta

/-- `patchCustomerCoreAndMeta`: customers belong to no tenant. -/
def patchCustomerCoreAndMeta : InstanceTx ApplySorBoundInstancePatchResult :=
  patchCoreAndMeta services
    { type := .customer
      name := "Customer"
      checkRow := fun _ => .ok () } coreId filteredCore filteredMeta

/-- A contact must be of the customer that the call names. -/
def checkCustomer (customerId : Option Nat) (row : SorRow) : Except DesignError Unit :=
  if customerId ≠ none ∧ row.customerId ≠ customerId then
    .error (.rpc "customerId does not match the contact record.")
  else .ok ()

/-- `patchCustomerContactCoreAndMeta`. -/
def patchCustomerContactCoreAndMeta (customerId : Option Nat) :
    InstanceTx ApplySorBoundInstancePatchResult :=
  patchCoreAndMeta services
    { type := .customerContact
      name := "Customer contact"
      checkRow := checkCustomer customerId } coreId filteredCore filteredMeta

end Patches

structure ApplySorBoundInstancePatchParams where
  tenantId : Option Nat
  objectType : String
  coreId : Nat
  corePatch : Record := []
  metaPatch : Record := []
  customerId : Option Nat := none

namespace ApplySorBoundInstancePatchParams

variable (params : ApplySorBoundInstancePatchParams)

/-- The entries of the core patch whose keys may be written. -/
def filteredCore : Record :=
  params.corePatch.filter fun entry => (getWritableSorFieldKeys params.objectType).contains entry.1

/-- The entries of the custom patch whose keys are fields of the schema. -/
def filteredMeta (schema : ObjectSchema) : Record :=
  params.metaPatch.filter fun entry =>
    (schema.fields.map ConfigObjectFieldEntity.fieldKey).contains entry.1

end ApplySorBoundInstancePatchParams

/-- What a patch is checked for before it starts its transaction. -/
def checkPatch (params : ApplySorBoundInstancePatchParams) (schema : ObjectSchema) :
    Except DesignError Unit :=
  if schema.configObject.bindingMode ≠ .sorBound then
    .error (.rpc "apply_sor_bound_instance_patch is only valid for sor_bound objects.")
  else if getSorFieldDescriptors params.objectType = [] then
    .error (.rpc ("apply_sor_bound_instance_patch is not implemented for object_type: "
      ++ params.objectType ++ "."))
  else if params.filteredCore = [] ∧ params.filteredMeta schema = [] then
    .error (.rpc "No patch entries matched allowed SoR or custom field keys.")
  else if params.filteredCore ≠ [] ∧ effectiveTenant params.tenantId = none then
    .error (.rpc ("Core field updates require tenant scope. Omit corePatch or provide "
      ++ "tenantId >= 1."))
  else .ok ()

/-- `applySorBoundPatchInTransaction`. -/
def applySorBoundPatchInTransaction (params : ApplySorBoundInstancePatchParams)
    (schema : ObjectSchema) : InstanceTx ApplySorBoundInstancePatchResult :=
  match sorTypeOf params.objectType with
  | some .project => patchProjectCoreAndMeta services params.coreId
      (effectiveTenant params.tenantId) params.filteredCore (params.filteredMeta schema)
  | some .task => patchTaskCoreAndMeta services params.coreId
      (effectiveTenant params.tenantId) params.filteredCore (params.filteredMeta schema)
  | some .customer => patchCustomerCoreAndMeta services params.coreId params.filteredCore
      (params.filteredMeta schema)
  | some .customerContact => patchCustomerContactCoreAndMeta services params.coreId
      params.filteredCore (params.filteredMeta schema) params.customerId
  | some .resource => patchResourceCoreAndMeta services params.coreId
      (effectiveTenant params.tenantId) params.filteredCore (params.filteredMeta schema)
  | none => Program.raise (.rpc
      ("apply_sor_bound_instance_patch is not implemented for object_type: "
        ++ params.objectType ++ "."))

/-- `applySorBoundInstancePatch`. -/
def applySorBoundInstancePatch (params : ApplySorBoundInstancePatchParams) :
    InstanceTx ApplySorBoundInstancePatchResult := do
  let db ← Program.read id
  let schema ← Program.lift (getObjectSchema services.toSchemaServices db.toRuntimeDb
    (effectiveTenant params.tenantId) params.objectType)
  match schema with
  | none => Program.raise (.rpc "Configuration schema not found for object type.")
  | some schema => do
      Program.lift (checkPatch params schema)
      Program.atomically (fun before _ => before)
        (applySorBoundPatchInTransaction services params schema)

end

end CoreApi.ConfigObjects
