import CoreApi.ConfigObjects.ConfigViews
import CoreApi.ConfigObjects.ConfigObjectDesign

/-!
# Schemas of object types

The object that a type resolves to for a tenant: the published template set of the
tenant that was created first, else that of the global scope, and in it the object of
the type under its canonical name, the name as it is spelled, or the table of the type.
What a schema derives from its object and the relations of the type is left open.
-/

namespace CoreApi.ConfigObjects

open CoreApi.Foundation Automation ObjectDesign

/-- The configuration that the runtime reads. -/
structure RuntimeDb where
  templateSets : Table ConfigTemplateSetEntity
  configObjects : Table DesignedObject
  configFields : Table ConfigObjectFieldEntity
  views : Table ConfigObjectViewEntity

/-- What `getObjectSchema` returns: an object, its fields, and what is derived from them and from
the relations of the type. -/
structure ObjectSchema where
  configObject : DesignedObject
  fields : List ConfigObjectFieldEntity
  runner : Json
deriving DecidableEq

/-- What schemas rest on: how letters are lowered, the order of the fields, and what the runner
adds to an object of a template set, which fails where its relations are broken. -/
structure SchemaServices where
  casing : LowerCasing
  orderFields : List ConfigObjectFieldEntity → List ConfigObjectFieldEntity
  attachRunner :
    RuntimeDb → Nat → DesignedObject → List ConfigObjectFieldEntity → Except DesignError Json

section

variable (services : SchemaServices)

/-- The names under which `getObjectSchema` looks for an object. -/
def candidateObjectTypes (objectType : String) : List String :=
  let canonical := canonicalizeObjectType services.casing objectType
  ([canonical, normalizedObjectType services.casing objectType] ++
    ((resolveEntityTable canonical).map (normalizedObjectType services.casing)).toList).filter
      fun name => name ≠ ""

/-- A published template set of a tenant; the sets of the global scope have none. -/
def isPublishedOf (tenantId : Option Nat) (templateSet : ConfigTemplateSetEntity) : Bool :=
  templateSet.status == .published && templateSet.tenantId == tenantId

/-- The template set that was created first. -/
def firstTemplateSet (db : RuntimeDb) (p : ConfigTemplateSetEntity → Bool) :
    Option ConfigTemplateSetEntity :=
  (db.templateSets.select p).argmin ConfigTemplateSetEntity.configTemplateSetId

/-- The template set of a scope: that of the tenant, else that of the global scope; without a
tenant any that is published. -/
def templateSetOfScope (db : RuntimeDb) (effectiveTenantId : Option Nat) :
    Option ConfigTemplateSetEntity :=
  match effectiveTenantId with
  | none => firstTemplateSet db fun templateSet => templateSet.status == .published
  | some tenant =>
      (firstTemplateSet db (isPublishedOf (some tenant))).or
        (firstTemplateSet db (isPublishedOf none))

/-- The object of a template set that the query meets first among those of the names. -/
def objectOfTemplateSet (db : RuntimeDb) (configTemplateSetId : Nat) (names : List String) :
    Option DesignedObject :=
  db.configObjects.rows.find? fun configObject =>
    configObject.configTemplateSetId == configTemplateSetId &&
      names.contains configObject.objectType

/-- The object that a type resolves to, with its template set. -/
def resolveSchemaObject (db : RuntimeDb) (effectiveTenantId : Option Nat) (objectType : String) :
    Option (ConfigTemplateSetEntity × DesignedObject) := do
  let templateSet ← templateSetOfScope db effectiveTenantId
  let configObject ← objectOfTemplateSet db templateSet.configTemplateSetId
    (candidateObjectTypes services objectType)
  pure (templateSet, configObject)

/-- `loadFieldViewsForConfigObjectId`. -/
def loadFieldsForConfigObjectId (db : RuntimeDb) (configObjectId : Nat) :
    List ConfigObjectFieldEntity :=
  services.orderFields (db.configFields.select fun field => field.configObjectId == configObjectId)

/-- `getObjectSchema`, as it is computed where no schema is cached. -/
def getObjectSchema (db : RuntimeDb) (tenantId : Option Nat) (objectType : String) :
    Except DesignError (Option ObjectSchema) := do
  let _ ← normalizeCanonicalObjectTypeOrThrow services.casing objectType
  match resolveSchemaObject services db (effectiveTenant tenantId) objectType with
  | none => pure none
  | some (templateSet, configObject) => do
      let fields := loadFieldsForConfigObjectId services db configObject.configObjectId
      let runner ← services.attachRunner db templateSet.configTemplateSetId configObject fields
      pure (some { configObject, fields, runner })

end

theorem effectiveTenant_idem (tenantId : Option Nat) :
    effectiveTenant (effectiveTenant tenantId) = effectiveTenant tenantId := by
  rcases tenantId with _ | tenant
  · rfl
  · by_cases none : tenant = 0 <;> simp [effectiveTenant, none]

/-- What getObjectSchema resolves for a tenant it resolves for the scope of the tenant. -/
theorem getObjectSchema_effectiveTenant {services : SchemaServices} {db : RuntimeDb}
    {tenantId : Option Nat} {objectType : String} :
    getObjectSchema services db (effectiveTenant tenantId) objectType =
      getObjectSchema services db tenantId objectType := by
  unfold getObjectSchema
  rw [effectiveTenant_idem]

theorem mem_of_resolveSchemaObject {services : SchemaServices} {db : RuntimeDb}
    {tenantId : Option Nat} {objectType : String} {templateSet : ConfigTemplateSetEntity}
    {configObject : DesignedObject}
    (resolved : resolveSchemaObject services db tenantId objectType =
      some (templateSet, configObject)) :
    configObject ∈ db.configObjects.rows ∧ templateSetOfScope db tenantId = some templateSet ∧
      configObject.configTemplateSetId = templateSet.configTemplateSetId ∧
      configObject.objectType ∈ candidateObjectTypes services objectType := by
  obtain ⟨_, isSet, resolved⟩ := Option.bind_eq_some_iff.mp resolved
  obtain ⟨_, isObject, resolved⟩ := Option.bind_eq_some_iff.mp resolved
  cases resolved
  have selected := List.find?_some isObject
  simp only [Bool.and_eq_true, beq_iff_eq, List.contains_iff_mem] at selected
  exact ⟨List.mem_of_find?_eq_some isObject, isSet, selected⟩

/-! ## Fields of the system of record -/

/-- The fields of a core entity that a patch may write, and those it may not. -/
structure SorFields where
  writable : List String
  readOnly : List String

/-- `byObjectType`; the keys of the descriptors. -/
def sorFieldsByObjectType : List (String × SorFields) :=
  [("project", ⟨["name", "description", "projectIdentifier", "status", "isShared",
      "parentProjectId"], ["projectId", "tenantId"]⟩),
    ("task", ⟨["name", "description", "taskIdentifier", "priority", "estimatedDuration",
      "effortHours", "parentTaskId", "statusControl", "schedulingMode"],
      ["taskId", "tenantId", "projectId"]⟩),
    ("customer", ⟨["firstName", "lastName", "isProfileCompleted"], ["email", "customerId"]⟩),
    ("customer_contact", ⟨["secondaryEmail", "phone", "address", "city", "state", "country"],
      ["customerContactId", "customerId"]⟩),
    ("resource", ⟨["name", "description", "type", "tenantUserId", "isShared"],
      ["resourceId", "tenantId"]⟩),
    ("customer_invitation", ⟨["email", "status", "customerRoleId"],
      ["invitationId", "projectId", "taskId", "token", "invitedBy"]⟩),
    ("customer_project_member", ⟨["roleId"],
      ["customerProjectMemberId", "projectId", "customerId", "joinedAt"]⟩),
    ("customer_task_member", ⟨["roleId"],
      ["customerTaskMemberId", "taskId", "customerId", "joinedAt"]⟩)]

/-- `getSorFieldDescriptors`, by key. -/
def getSorFieldDescriptors (objectType : String) : List String :=
  match sorFieldsByObjectType.lookup objectType with
  | none => []
  | some fields => fields.writable ++ fields.readOnly

/-- `getWritableSorFieldKeys`. -/
def getWritableSorFieldKeys (objectType : String) : List String :=
  match sorFieldsByObjectType.lookup objectType with
  | none => []
  | some fields => fields.writable

end CoreApi.ConfigObjects
