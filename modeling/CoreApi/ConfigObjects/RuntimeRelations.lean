import CoreApi.ConfigObjects.ConfigRelationships

/-!
# Relations at run time

What the runtime reads in the manifest of a relation: the references of its actions,
the permissions these require, and the defaults of its queries.
-/

namespace CoreApi.ConfigObjects

open CoreApi.Foundation ObjectDesign

/-- A `RuntimeManifestDiagnostic` of level `warn` about a relation. -/
structure RelationDiagnostic where
  code : String
  message : String
  refKey : String
deriving DecidableEq

namespace RuntimeRelations

def runtimeRelationMaxDepth : Int := 1

def runtimeRelationMaxPageSize : Int := 100

/-- The object under a name, `{}` where there is none. -/
def objectAt (fields : Record) (name : String) : Record :=
  match fields.get? name with
  | some (.obj inner) => inner
  | _ => []

/-- The texts that are not blank. -/
def nonBlankTexts (values : List Json) : List String :=
  values.filterMap fun value =>
    match value with
    | .str text => if Json.trimmed text = [] then none else some text
    | _ => none

/-- `knownActionRefs`. -/
def knownActionRefs (manifest : Record) : List String :=
  nonBlankTexts ((objectAt manifest "actions").map Prod.snd)

/-- `requiredPermissions` of an action. -/
def requiredPermissions (manifest : Record) (actionRef : String) : List String :=
  match (objectAt manifest "requiredPermissionsByActionRef").get? actionRef with
  | some (.arr items) => nonBlankTexts items
  | _ => []

/-- The manifest of a relation, where it is an object. -/
def manifestOf (schema : RelationSchema) (relationKey : String) : Option Record :=
  match schema.relationManifestsByKey.lookup relationKey with
  | some (some (.obj manifest)) => some manifest
  | _ => none

structure RuntimeRelationActionValidationResult where
  entityKey : String
  tenantId : Option Nat
  relationKey : String
  actionRef : String
  allowed : Bool
  requiredPermissions : List String
  missingPermissions : List String

/-- What is said of an action of a relation, from its manifest. -/
def checkAction (tenantId : Option Nat) (entityKey relationKey actionRef : String)
    (grantedPermissions : List String) (manifest : Record) :
    Except DesignError RuntimeRelationActionValidationResult :=
  if actionRef ∉ knownActionRefs manifest then
    .error (.authoring "SIX1_RUNTIME_RELATION_ACTION_UNKNOWN"
      ("Unknown relation actionRef \"" ++ actionRef ++ "\" for relation \"" ++ relationKey
        ++ "\"."))
  else
    let required := requiredPermissions manifest actionRef
    match required.filter fun permission => !grantedPermissions.contains permission with
    | [] => .ok ⟨entityKey, tenantId, relationKey, actionRef, true, required, []⟩
    | missing => .error (.authoring "SIX1_RUNTIME_RELATION_ACTION_FORBIDDEN"
        ("Missing permissions for relation action \"" ++ actionRef ++ "\": "
          ++ ", ".intercalate missing))

/-- `validateRuntimeRelationAction`. -/
def validateRuntimeRelationAction (services : RelationServices) (db : RelationDb)
    (tenantId : Option Nat) (entityKey relationKey actionRef : String)
    (grantedPermissions : List String) :
    Except DesignError RuntimeRelationActionValidationResult := do
  let schema ← getObjectSchemaWithRelations services db (effectiveTenant tenantId) entityKey
  match schema with
  | none => .error (.authoring "SIX1_RUNTIME_SCHEMA_NOT_FOUND"
      ("No published schema found for entityKey \"" ++ entityKey ++ "\"."))
  | some schema =>
      match manifestOf schema relationKey with
      | none => .error (.authoring "SIX1_RUNTIME_RELATION_ACTION_UNKNOWN"
          ("Relation manifest not found for relationKey \"" ++ relationKey ++ "\"."))
      | some manifest =>
          checkAction (effectiveTenant tenantId) entityKey relationKey actionRef grantedPermissions
            manifest

/-! ## Query defaults -/

structure RelationQueryDefaults where
  page : Int
  limit : Int
  depth : Int
  sort : Json
  filters : Json
deriving DecidableEq

/-- `Number(fields[name])`, where it is an integer from a bound on; else the default. -/
def integerFrom (fields : Record) (name : String) (least default : Int) : Int :=
  match (fields.get? name).bind Json.toNumber with
  | some value => if least ≤ value then value else default
  | none => default

/-- The defaults as they are given, each within its lower bound. -/
def givenQueryDefaults (value : Option Json) : RelationQueryDefaults :=
  let obj := match value with
    | some (.obj fields) => fields
    | _ => []
  { page := integerFrom obj "page" 1 1
    limit := integerFrom obj "limit" 1 runtimeRelationMaxPageSize
    depth := integerFrom obj "depth" 0 1
    sort := (obj.get? "sort").getD .null
    filters := (obj.get? "filters").getD .null }

/-- The diagnostics of defaults that exceed a limit. -/
def queryDefaultsDiagnostics (relationKey : String) (given : RelationQueryDefaults) :
    List RelationDiagnostic :=
  (if given.limit > runtimeRelationMaxPageSize then
    [⟨"SIX1_RUNTIME_VIEW_CONFIG_INVALID", "relation \"" ++ relationKey
      ++ "\" queryDefaults.limit exceeded max (100); clamped.", relationKey⟩] else []) ++
  (if given.depth > runtimeRelationMaxDepth then
    [⟨"SIX1_RUNTIME_RELATION_QUERY_DEPTH_EXCEEDED", "relation \"" ++ relationKey
      ++ "\" queryDefaults.depth exceeded max (1); clamped.", relationKey⟩] else [])

/-- `normalizeRuntimeRelationQueryDefaults`. -/
def normalizeRuntimeRelationQueryDefaults (value : Option Json) : RelationQueryDefaults :=
  let given := givenQueryDefaults value
  { given with
    limit := min given.limit runtimeRelationMaxPageSize
    depth := min given.depth runtimeRelationMaxDepth }

/-- The `queryDefaults` of what is stored for a relation. -/
def queryDefaultsOf (manifest : Option Json) : Option Json :=
  match manifest with
  | some (.obj block) => Record.get? block "queryDefaults"
  | _ => none

/-- `relationQueryDefaultsByKey` of a detail or form section, with its diagnostics. -/
def relationQueryDefaultsByKey (schema : RelationSchema) :
    List (String × RelationQueryDefaults) × List RelationDiagnostic :=
  (schema.relationManifestsByKey.map fun entry =>
      (entry.1, normalizeRuntimeRelationQueryDefaults (queryDefaultsOf entry.2)),
    schema.relationManifestsByKey.flatMap fun entry =>
      queryDefaultsDiagnostics entry.1 (givenQueryDefaults (queryDefaultsOf entry.2)))

end RuntimeRelations

end CoreApi.ConfigObjects
