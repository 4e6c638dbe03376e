import CoreApi.ConfigObjects.ScopedViews

/-!
# Status mappings

A status mapping gives a state of the lifecycle of an object a status value. The calls
on mappings look the object up by its type, the oldest first, and then ask whether it
belongs to the scope of the call. A call that raises keeps what it wrote before.
-/

namespace CoreApi.ConfigObjects

open CoreApi.Foundation

/-- `'system_status' | 'project_task_status' | 'native_enum' | 'custom'`. -/
inductive ConfigObjectStatusSource where
  | systemStatus | projectTaskStatus | nativeEnum | custom
deriving DecidableEq

def ConfigObjectStatusSource.text : ConfigObjectStatusSource → String
  | .systemStatus => "system_status"
  | .projectTaskStatus => "project_task_status"
  | .nativeEnum => "native_enum"
  | .custom => "custom"

/-- `config_object_status_mappings`. -/
structure ConfigObjectStatusMappingEntity where
  configObjectStatusMappingId : Nat
  configObjectId : Nat
  stateKey : String
  statusSource : ConfigObjectStatusSource
  statusValue : String
  isDefault : Bool
  isTerminal : Bool
  orderIndex : Int
deriving DecidableEq

instance : Keyed ConfigObjectStatusMappingEntity where
  key := ConfigObjectStatusMappingEntity.configObjectStatusMappingId
  withKey n row := { row with configObjectStatusMappingId := n }
  key_withKey _ _ := rfl

/-- The tables of views, with those of lifecycles and status mappings. -/
structure ScopeDb extends ViewDb where
  lifecycles : Table ConfigObjectLifecycleEntity
  statusMappings : Table ConfigObjectStatusMappingEntity
  statusMappingLogs : List ViewAuditEntry

/-- What a call on mappings raises. -/
inductive MappingError where
  | rpc (message : String)
  | foreignKey
  | duplicateKey
deriving DecidableEq

namespace ConfigObjectsService

/-- Calls on status mappings. -/
abbrev MappingTx := Program ScopeDb MappingError

/-- The oldest object of a type. -/
def oldestObjectOfType (db : ScopeDb) (objectType : String) : Option ConfigObjectEntity :=
  (db.configObjects.select fun configObject => configObject.objectType == objectType).argmin
    ConfigObjectEntity.configObjectId

/-- `getConfigObjectForTenantScopeByObjectType`. -/
def getConfigObjectForTenantScopeByObjectType (db : ScopeDb) (tenantId : Option Nat)
    (objectType : String) : Except MappingError ConfigObjectEntity :=
  match oldestObjectOfType db objectType with
  | none => .error (.rpc ("No config object found for object type \"" ++ objectType ++ "\"."))
  | some configObject =>
      if isInScope db.toViewDb (getEffectiveTenantId tenantId) configObject = true then
        .ok configObject
      else .error (.rpc "Config object does not belong to the specified tenant.")

/-- `ORDER BY order_index, config_object_status_mapping_id`. -/
def mappingBefore (first second : ConfigObjectStatusMappingEntity) : Bool :=
  decide (first.orderIndex < second.orderIndex ∨
    (first.orderIndex = second.orderIndex ∧
      first.configObjectStatusMappingId ≤ second.configObjectStatusMappingId))

/-- The mappings of an object. -/
def statusMappingsOf (db : ScopeDb) (configObjectId : Nat) : List ConfigObjectStatusMappingEntity :=
  (db.statusMappings.select fun mapping =>
    mapping.configObjectId == configObjectId).mergeSort mappingBefore

/-- `listConfigStatusMappings`. -/
def listConfigStatusMappings (db : ScopeDb) (tenantId : Option Nat) (objectType : String) :
    Except MappingError (List ConfigObjectStatusMappingEntity) := do
  let configObject ← getConfigObjectForTenantScopeByObjectType db tenantId objectType
  pure (statusMappingsOf db configObject.configObjectId)

structure CreateConfigStatusMappingParams where
  tenantId : Option Nat
  objectType : String
  createdBy : Nat
  stateKey : String
  statusSource : ConfigObjectStatusSource
  statusValue : String
  isDefault : Bool := false
  isTerminal : Bool := false
  orderIndex : Int := 0

/-- The row of a new mapping. -/
def newMapping (params : CreateConfigStatusMappingParams) (configObject : ConfigObjectEntity) :
    ConfigObjectStatusMappingEntity where
  configObjectStatusMappingId := 0
  configObjectId := configObject.configObjectId
  stateKey := params.stateKey
  statusSource := params.statusSource
  statusValue := params.statusValue
  isDefault := params.isDefault
  isTerminal := params.isTerminal
  orderIndex := params.orderIndex

/-- The audited fields of a mapping. -/
def mappingFields (mapping : ConfigObjectStatusMappingEntity) : Json :=
  .obj [("configObjectId", .num mapping.configObjectId), ("stateKey", .str mapping.stateKey),
    ("statusSource", .str mapping.statusSource.text), ("statusValue", .str mapping.statusValue),
    ("isDefault", .bool mapping.isDefault), ("isTerminal", .bool mapping.isTerminal),
    ("orderIndex", .num mapping.orderIndex)]

/-- The state is one of the lifecycle of the object. -/
def lifecycleState (db : ScopeDb) (configObjectId : Nat) (stateKey : String) :
    Option ConfigObjectLifecycleEntity :=
  db.lifecycles.rows.find? fun lifecycle =>
    lifecycle.configObjectId == configObjectId && lifecycle.stateKey == stateKey

/-- `uniq_cosm_state_status` refuses the row. -/
def mappingTaken (db : ScopeDb) (mapping : ConfigObjectStatusMappingEntity) : Bool :=
  db.statusMappings.rows.any fun other =>
    other.configObjectId == mapping.configObjectId && other.stateKey == mapping.stateKey &&
      other.statusSource == mapping.statusSource && other.statusValue == mapping.statusValue

/-- `configObjectStatusMappingRepository.save` of a new row. -/
def insertMapping (mapping : ConfigObjectStatusMappingEntity) :
    MappingTx ConfigObjectStatusMappingEntity := do
  let db ← Program.read id
  if mappingTaken db mapping = true then Program.raise .duplicateKey
  else Program.writeReturning fun db =>
    (Keyed.withKey db.statusMappings.autoIncrement mapping,
      { db with statusMappings := db.statusMappings.insert mapping })

/-- `logConfigChange` of a new mapping. -/
def logMapping (tenantId : Option Nat) (changedBy : Nat)
    (saved : ConfigObjectStatusMappingEntity) : MappingTx Unit := do
  let db ← Program.read id
  if (∀ tenant ∈ tenantId, tenant ∈ db.tenants) ∧ changedBy ∈ db.tenantUsers then
    Program.write fun db => { db with
      statusMappingLogs := db.statusMappingLogs ++
        [{ tenantId := tenantId
           entityId := saved.configObjectStatusMappingId
           action := .create
           changedBy := changedBy
           oldValue := none
           newValue := some (mappingFields saved) }] }
  else Program.raise .foreignKey

/-- `createConfigStatusMapping`, once the object is found. -/
def createStatusMappingOf (params : CreateConfigStatusMappingParams)
    (configObject : ConfigObjectEntity) : MappingTx ConfigObjectStatusMappingEntity := do
  let db ← Program.read id
  match lifecycleState db configObject.configObjectId params.stateKey with
  | none => Program.raise (.rpc ("Lifecycle state \"" ++ params.stateKey
      ++ "\" does not exist for object type \"" ++ params.objectType ++ "\"."))
  | some _ => do
      let saved ← insertMapping (newMapping params configObject)
      logMapping (getEffectiveTenantId params.tenantId) params.createdBy saved
      pure saved

/-- `createConfigStatusMapping`. -/
def createConfigStatusMapping (params : CreateConfigStatusMappingParams) :
    MappingTx ConfigObjectStatusMappingEntity := do
  let db ← Program.read id
  let configObject ← Program.lift
    (getConfigObjectForTenantScopeByObjectType db params.tenantId params.objectType)
  createStatusMappingOf params configObject

end ConfigObjectsService

end CoreApi.ConfigObjects
