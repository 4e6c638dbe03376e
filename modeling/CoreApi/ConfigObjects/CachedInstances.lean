import CoreApi.ConfigObjects.CacheFreshness
import CoreApi.ConfigObjects.ObjectInstances

/-!
# Instances through the caches

Reading and patching an instance takes its schema from the cache; the tables of the
instances are not cached.
-/

namespace CoreApi.ConfigObjects

open CoreApi.Foundation Automation ObjectDesign

/-- The tables of the instances. -/
structure InstanceTables where
  cores : SorType → Table SorRow
  metaRows : SorType → Table SorMetaRow
  customInstances : Table CustomObjectInstance

/-- The caches, the configuration, and the tables of the instances. -/
structure InstanceState (casing : LowerCasing) extends RuntimeState casing, InstanceTables

/-- What the calls on instances rest on besides the cached reads. -/
structure InstanceCacheServices extends CacheServices where
  applyDerivedRuntimeFields : ObjectSchema → Record → Record
  acceptsCore : InstanceDb → SorType → SorRow → Bool

/-- What the calls rest on in a configuration. -/
def InstanceCacheServices.instancesOn (services : InstanceCacheServices)
    (config : RuntimeConfig services.casing) : InstanceServices where
  toSchemaServices := (services.toCacheServices.on config).toSchemaServices
  applyDerivedRuntimeFields := services.applyDerivedRuntimeFields
  acceptsCore := services.acceptsCore

/-- The configuration and the tables as the calls see them. -/
def instanceDbOf {casing : LowerCasing} (config : RuntimeConfig casing) (tables : InstanceTables) :
    InstanceDb where
  toRuntimeDb := config.toRuntimeDb
  cores := tables.cores
  metaRows := tables.metaRows
  customInstances := tables.customInstances

namespace CachedInstances

variable (services : InstanceCacheServices)

/-- Calls on instances through the caches. -/
abbrev InstanceCacheTx := Program (InstanceState services.casing) DesignError

/-- A read through the caches. -/
def throughCaches {α : Type} (read : CachedReads.RuntimeTx services.toCacheServices α) :
    InstanceCacheTx services α :=
  Program.within InstanceState.toRuntimeState (fun caches s => { s with toRuntimeState := caches })
    read

/-- A call on the tables. -/
def onTables {α : Type} (call : InstanceTx α) : InstanceCacheTx services α :=
  Program.within (fun s => instanceDbOf s.current s.toInstanceTables)
    (fun db s => { s with
      cores := db.cores
      metaRows := db.metaRows
      customInstances := db.customInstances }) call

/-- The schema of a call. -/
def schemaOf (tenantId : Option Nat) (objectType : String) :
    InstanceCacheTx services (Option ObjectSchema) :=
  throughCaches services (CachedReads.getObjectSchema services.toCacheServices tenantId objectType)

/-- The standalone instance under an id, once its schema is resolved. -/
def standaloneOfSchema (instances : InstanceServices) (db : InstanceDb) (tenantId : Nat)
    (objectType : String) (instanceId : Nat) (schema : ObjectSchema) :
    Except DesignError (Option ResolvedInstance) :=
  if schema.configObject.bindingMode ≠ .standalone then
    .error (.rpc "instanceId is only valid for standalone configurable objects.")
  else
    pure ((db.customInstances.rows.find? fun row =>
      row.configCustomObjectInstanceId == instanceId && row.tenantId == tenantId &&
        row.configObjectId == schema.configObject.configObjectId).map fun row =>
          .standalone objectType tenantId schema row.configCustomObjectInstanceId
            (mergeDynamicFieldsFromSource instances schema (row.payload.getD [])))

/-- An instance, once the schema is looked up. -/
def resolveThrough (tenantId : Nat) (objectType : String)
    (resolve : InstanceServices → InstanceDb → ObjectSchema →
      Except DesignError (Option ResolvedInstance)) :
    InstanceCacheTx services (Option ResolvedInstance) := do
  let schema ← schemaOf services (some tenantId) objectType
  match schema with
  | none => pure none
  | some schema => do
      let s ← Program.read id
      Program.lift (resolve (services.instancesOn s.current)
        (instanceDbOf s.current s.toInstanceTables) schema)

/-- `resolveObjectInstance`. -/
def resolveObjectInstance (tenantId : Nat) (objectType : String) (coreId instanceId : Option Nat) :
    InstanceCacheTx services (Option ResolvedInstance) :=
  match instanceId.filter (· ≠ 0), coreId.filter (· ≠ 0) with
  | some instanceId, _ => resolveThrough services tenantId objectType fun instances db schema =>
      standaloneOfSchema instances db tenantId objectType instanceId schema
  | none, none => Program.raise (.rpc ("Provide coreId for SoR-backed objects or instanceId for "
      ++ "standalone objects."))
  | none, some coreId => resolveThrough services tenantId objectType fun instances db schema =>
      instanceOfSchema instances db tenantId objectType coreId schema

/-- `applySorBoundInstancePatch`. -/
def applySorBoundInstancePatch (params : ApplySorBoundInstancePatchParams) :
    InstanceCacheTx services ApplySorBoundInstancePatchResult := do
  let schema ← schemaOf services (effectiveTenant params.tenantId) params.objectType
  match schema with
  | none => Program.raise (.rpc "Configuration schema not found for object type.")
  | some schema => do
      Program.lift (checkPatch params schema)
      let s ← Program.read id
      onTables services (Program.atomically (fun before _ => before)
        (applySorBoundPatchInTransaction (services.instancesOn s.current) params schema))

end CachedInstances

end CoreApi.ConfigObjects
