import CoreApi.ConfigObjects.ScopedViews
import CoreApi.ConfigObjects.ObjectSchemas

/-!
# Runtime manifests

A manifest joins the schema of a type with its active views. The schema and the views
are looked up apart from each other: the schema in the template set of the scope, under
the names that the type may have; the views at the first object of the type as it is
spelled. What a section says of its view is left open.
-/

namespace CoreApi.ConfigObjects

open CoreApi.Foundation ObjectDesign ConfigObjectsService

/-- The configuration with the panels of its views. -/
structure ManifestDb extends RuntimeDb where
  panels : List Json

/-- The configuration as the reads of views see it. -/
def RuntimeDb.viewDb (db : RuntimeDb) : ViewDb where
  tenants := []
  tenantUsers := []
  templateSets := db.templateSets
  configObjects := db.configObjects.seenAs DesignedObject.toConfigObjectEntity fun _ => rfl
  views := db.views
  auditLogs := []

/-- `'warn' | 'error'`. -/
inductive DiagnosticLevel where
  | warn | error
deriving DecidableEq

/-- A `RuntimeManifestDiagnostic`. -/
structure RuntimeDiagnostic where
  code : String
  message : String
  level : DiagnosticLevel
deriving DecidableEq

/-- `ConfigObjectRuntimeManifestView`, but for the time it was generated at. -/
structure RuntimeManifest where
  entityKey : String
  tenantId : Option Nat
  list : Option Json
  detail : Option Json
  form : Option Json
  diagnostics : List RuntimeDiagnostic
deriving DecidableEq

/-- What manifests rest on: the sections for views, each with its diagnostics. -/
structure ManifestServices extends SchemaServices where
  runtimeListSection :
    ManifestDb → ConfigObjectViewEntity → ObjectSchema → Json × List RuntimeDiagnostic
  runtimeDetailFormSection : ManifestDb → ConfigObjectViewType → ConfigObjectViewEntity →
    ObjectSchema → Json × List RuntimeDiagnostic

namespace RuntimeManifests

/-- The diagnostic of a view that is missing. -/
def missingView (entityKey : String) : ConfigObjectViewType → RuntimeDiagnostic
  | .list => ⟨"SIX1_RUNTIME_VIEW_LIST_MISSING",
      "No active list view found for entityKey \"" ++ entityKey ++ "\".", .warn⟩
  | .detail => ⟨"SIX1_RUNTIME_VIEW_DETAIL_MISSING",
      "No active detail view found for entityKey \"" ++ entityKey ++ "\".", .warn⟩
  | .form => ⟨"SIX1_RUNTIME_VIEW_FORM_MISSING",
      "No active form view found for entityKey \"" ++ entityKey ++ "\".", .warn⟩

/-- The diagnostics of the views that are missing. -/
def missingViews (entityKey : String)
    (views : ConfigObjectViewType → Option ConfigObjectViewEntity) : List RuntimeDiagnostic :=
  [ConfigObjectViewType.list, .detail, .form].flatMap fun viewType =>
    if (views viewType).isNone = true then [missingView entityKey viewType] else []

section

variable (services : ManifestServices)

/-- The section of a view, with its diagnostics; none where there is no view. -/
def sectionOf (db : ManifestDb) (schema : ObjectSchema) (viewType : ConfigObjectViewType)
    (view : Option ConfigObjectViewEntity) : Option Json × List RuntimeDiagnostic :=
  match view with
  | none => (none, [])
  | some view =>
      let built := match viewType with
        | .list => services.runtimeListSection db view schema
        | .detail | .form => services.runtimeDetailFormSection db viewType view schema
      (some built.1, built.2)

/-- The manifest that is made of a schema and the views. -/
def manifestOfViews (db : ManifestDb) (tenantId : Option Nat) (entityKey : String)
    (includeDiagnostics : Bool) (schema : ObjectSchema)
    (views : ConfigObjectViewType → Option ConfigObjectViewEntity) : RuntimeManifest :=
  let built (viewType : ConfigObjectViewType) := sectionOf services db schema viewType
    (views viewType)
  { entityKey := entityKey
    tenantId := tenantId
    list := (built .list).1
    detail := (built .detail).1
    form := (built .form).1
    diagnostics := (if includeDiagnostics = true then missingViews entityKey views else []) ++
      (built .list).2 ++ (built .detail).2 ++ (built .form).2 }

/-- The manifest without a schema. -/
def manifestWithoutSchema (tenantId : Option Nat) (entityKey : String)
    (includeDiagnostics : Bool) : RuntimeManifest where
  entityKey := entityKey
  tenantId := tenantId
  list := none
  detail := none
  form := none
  diagnostics :=
    if includeDiagnostics = true then
      [⟨"SIX1_RUNTIME_SCHEMA_NOT_FOUND",
        "No published schema found for entityKey \"" ++ entityKey ++ "\".", .error⟩]
    else []

/-- The schema and the views that a manifest is made of. -/
structure ManifestParts where
  schema : ObjectSchema
  views : ConfigObjectViewType → Option ConfigObjectViewEntity

/-- What `getRuntimeManifest` looks up, where nothing is cached. -/
def manifestParts (db : ManifestDb) (effectiveTenantId : Option Nat) (entityKey : String) :
    Except DesignError (Option ManifestParts) := do
  let schema ← getObjectSchema services.toSchemaServices db.toRuntimeDb effectiveTenantId entityKey
  pure (schema.map fun schema =>
    ⟨schema, getActiveScopedConfigView db.viewDb effectiveTenantId entityKey⟩)

/-- `getRuntimeManifest`, as it is computed where nothing is cached. -/
def getRuntimeManifest (db : ManifestDb) (tenantId : Option Nat) (entityKey : String)
    (includeDiagnostics : Bool) : Except DesignError RuntimeManifest := do
  let parts ← manifestParts services db (getEffectiveTenantId tenantId) entityKey
  match parts with
  | none =>
      pure (manifestWithoutSchema (getEffectiveTenantId tenantId) entityKey includeDiagnostics)
  | some parts =>
      pure (manifestOfViews services db (getEffectiveTenantId tenantId) entityKey
        includeDiagnostics parts.schema parts.views)

end

end RuntimeManifests

end CoreApi.ConfigObjects
