import Mathlib.Data.List.Sort
import CoreApi.ConfigObjects.ObjectSchemas
import CoreApi.ConfigObjects.RelationAuthoring

/-!
# Relationships between types

The relations of a type are those that its entity declares and those that designers
added. Designers create, edit and remove theirs by calls; both kinds are merged into
one catalog by key when the schema of a type is put together. A row of the table of
relationships belongs to no tenant. A call that raises keeps what it wrote before.
-/

namespace CoreApi.ConfigObjects

open CoreApi.Foundation RelationAuthoring

/-- `'one_to_many' | 'many_to_one' | 'many_to_many'`. -/
inductive RelationCardinality where
  | oneToMany | manyToOne | manyToMany
deriving DecidableEq

def RelationCardinality.text : RelationCardinality → String
  | .oneToMany => "one_to_many"
  | .manyToOne => "many_to_one"
  | .manyToMany => "many_to_many"

/-- `'orm' | 'designer'`. -/
inductive RelationshipSource where
  | orm | designer
deriving DecidableEq

def RelationshipSource.text : RelationshipSource → String
  | .orm => "orm"
  | .designer => "designer"

/-- `config_object_relationships`. -/
structure ConfigObjectRelationshipEntity where
  configObjectRelationshipId : Nat
  fromObjectType : String
  toObjectType : String
  relationshipKey : String
  relationshipSource : RelationshipSource
  displayName : String
  cardinality : RelationCardinality
  queryConfig : Record
  relationManifestJson : Option Json
  isActive : Bool
deriving DecidableEq

instance : Keyed ConfigObjectRelationshipEntity where
  key := ConfigObjectRelationshipEntity.configObjectRelationshipId
  withKey n row := { row with configObjectRelationshipId := n }
  key_withKey _ _ := rfl

/-- `RelationDescriptor`, with all its fields. -/
structure RelationCatalogDescriptor where
  fromObjectType : String
  toObjectType : String
  relationshipKey : String
  displayName : String
  cardinality : RelationCardinality
  relationshipSource : RelationshipSource
  isActive : Bool
  queryConfig : Record
  relationManifestJson : Option Json
deriving DecidableEq

/-- The configuration with the relationships between its types. -/
structure RelationDb extends RuntimeDb where
  tenants : List Nat
  tenantUsers : List Nat
  relationships : Table ConfigObjectRelationshipEntity
  relationshipLogs : List ViewAuditEntry

/-! ## Declared relations -/

/-- The kind of a declared relation. -/
inductive OrmRelationType where
  | oneToOne | oneToMany | manyToOne | manyToMany
deriving DecidableEq

/-- A relation that an entity declares; entities are named by their tables. -/
structure OrmRelation where
  target : String
  relationType : OrmRelationType
  type : Option String
deriving DecidableEq

/-- What schemas with relations rest on: the declared relations, how keys are compared, and the
fields that are listed for the targets of relations. -/
structure RelationServices extends SchemaServices where
  declared : List OrmRelation
  localeBefore : String → String → Bool
  relatedFieldRegistry : RuntimeDb → Nat → List RelationCatalogDescriptor → Json

/-- `JUNCTION_ONLY_OBJECT_TYPES`. -/
def JUNCTION_ONLY_OBJECT_TYPES : List String :=
  ["role_permissions", "user_roles", "tenant_user_roles", "tenant_team_members",
    "tenant_team_projects", "customer_project_members", "customer_task_members"]

def isJunctionOnlyObjectType (objectType : String) : Bool :=
  JUNCTION_ONLY_OBJECT_TYPES.contains objectType

/-- A blank for each run of the characters; `inRun` while within one. -/
def collapsed (p : Char → Bool) : Bool → List Char → List Char
  | _, [] => []
  | inRun, c :: rest =>
      if p c = true then
        if inRun = true then collapsed p true rest else ' ' :: collapsed p true rest
      else c :: collapsed p false rest

/-- `humanizeKey`; keys are made of lower-case identifiers. -/
def humanizeKey (value : String) : String :=
  let words := collapsed (fun c => c == '_' || c == '-') false value.toList
  match Json.trimmed (String.ofList (collapsed Json.isSpace false words)) with
  | [] => ""
  | first :: rest => String.ofList (first.toUpper :: rest)

def buildRelationshipKey (fromObjectType toObjectType : String) : String :=
  if (fromObjectType ++ "_").toList.isPrefixOf toObjectType.toList = true then toObjectType
  else fromObjectType ++ "_" ++ toObjectType

def inferCardinalityFromRelationType : OrmRelationType → RelationCardinality
  | .manyToMany => .manyToMany
  | .manyToOne => .manyToOne
  | .oneToOne | .oneToMany => .oneToMany

section Declared

variable (services : RelationServices)

/-- `resolveTargetObjectTypeFromJunction`. -/
def resolveTargetObjectTypeFromJunction (fromEntity junctionEntity : String) : Option String :=
  let candidates := services.declared.filterMap fun rel =>
    if rel.target = junctionEntity ∧ rel.relationType = .manyToOne then
      rel.type.filter fun target => target ≠ fromEntity ∧ isJunctionOnlyObjectType target = false
    else none
  (candidates.insertionSort fun first second => services.localeBefore first second = true).head?

/-- Where a declared relation leads, through the junction if it leads to one. -/
def targetOfRelation (fromEntity : String) (rel : OrmRelation) :
    Option (String × RelationCardinality) :=
  match rel.type with
  | none => none
  | some target =>
      if isJunctionOnlyObjectType target = true then
        (resolveTargetObjectTypeFromJunction services fromEntity target).map fun lifted =>
          (lifted, .manyToMany)
      else some (target, inferCardinalityFromRelationType rel.relationType)

/-- The descriptor of a declared relation. -/
def ormDescriptor (fromObjectType : String) (target : String × RelationCardinality) :
    RelationCatalogDescriptor where
  fromObjectType := fromObjectType
  toObjectType := target.1
  relationshipKey := buildRelationshipKey fromObjectType target.1
  displayName := humanizeKey (buildRelationshipKey fromObjectType target.1)
  cardinality := target.2
  relationshipSource := .orm
  isActive := true
  queryConfig := []
  relationManifestJson := none

/-- The first descriptor of each key. -/
def firstByKey : List RelationCatalogDescriptor → List RelationCatalogDescriptor
  | [] => []
  | descriptor :: rest => descriptor ::
      (firstByKey rest).filter fun other => other.relationshipKey ≠ descriptor.relationshipKey

/-- By key, as `localeCompare` orders them. -/
def sortedByKey (relations : List RelationCatalogDescriptor) : List RelationCatalogDescriptor :=
  relations.insertionSort fun first second =>
    services.localeBefore first.relationshipKey second.relationshipKey = true

/-- `generateOrmRelationDescriptorsForObjectType`. -/
def generateOrmRelationDescriptorsForObjectType (fromObjectType : String) :
    List RelationCatalogDescriptor :=
  match resolveEntityTable fromObjectType with
  | none => []
  | some fromEntity =>
      let rels := services.declared.filter fun rel =>
        rel.target == fromEntity &&
          (rel.relationType == .oneToMany || rel.relationType == .manyToMany)
      sortedByKey services (firstByKey ((rels.filterMap
        (targetOfRelation services fromEntity)).map (ormDescriptor fromObjectType)))

end Declared

/-! ## The catalog -/

/-- The descriptor of a row. -/
def designerDescriptor (row : ConfigObjectRelationshipEntity) : RelationCatalogDescriptor where
  fromObjectType := row.fromObjectType
  toObjectType := row.toObjectType
  relationshipKey := row.relationshipKey
  displayName := row.displayName
  cardinality := row.cardinality
  relationshipSource := row.relationshipSource
  isActive := row.isActive
  queryConfig := row.queryConfig
  relationManifestJson := row.relationManifestJson

/-- Rows are added to a catalog one after the other, each under a new key. -/
def withDesignerRows (objectType : String) :
    List RelationCatalogDescriptor → List ConfigObjectRelationshipEntity →
      Except DesignError (List RelationCatalogDescriptor)
  | catalog, [] => .ok catalog
  | catalog, row :: rest =>
      if row.relationshipKey ∈ catalog.map RelationCatalogDescriptor.relationshipKey then
        .error (.authoring "SIX1_AUTHORING_RELATION_CONFIG_INVALID"
          ("Duplicate relationship key \"" ++ row.relationshipKey
            ++ "\" exists in both orm and designer catalogs for \"" ++ objectType ++ "\"."))
      else withDesignerRows objectType (catalog ++ [designerDescriptor row]) rest

/-- The active rows of a type. -/
def activeRelationships (db : RelationDb) (objectType : String) :
    List ConfigObjectRelationshipEntity :=
  db.relationships.select fun row => row.fromObjectType == objectType && row.isActive

section Catalog

variable (services : RelationServices)

/-- `getMergedRelationshipCatalogForObjectType`, which is `getRelationshipsForObjectType`. -/
def getMergedRelationshipCatalogForObjectType (db : RelationDb) (objectType : String) :
    Except DesignError (List RelationCatalogDescriptor) := do
  let merged ← withDesignerRows objectType
    (generateOrmRelationDescriptorsForObjectType services objectType)
    (activeRelationships db objectType)
  pure (sortedByKey services merged)

/-- A schema with the relations of its type. -/
structure RelationSchema extends ObjectSchema where
  relations : List RelationCatalogDescriptor
  relatedFieldRegistryByRelationKey : Json
  relationManifestsByKey : List (String × Option Json)
deriving DecidableEq

/-- `attachRelationCatalog`. -/
def attachRelationCatalog (db : RelationDb) (schema : ObjectSchema) :
    Except DesignError RelationSchema := do
  let relations ← getMergedRelationshipCatalogForObjectType services db
    schema.configObject.objectType
  pure
    { schema with
      relations := relations
      relatedFieldRegistryByRelationKey := services.relatedFieldRegistry db.toRuntimeDb
        schema.configObject.configTemplateSetId relations
      relationManifestsByKey := relations.map fun rel =>
        (rel.relationshipKey, rel.relationManifestJson) }

/-- `getObjectSchema` with its relations, as it is computed where no schema is cached. -/
def getObjectSchemaWithRelations (db : RelationDb) (tenantId : Option Nat)
    (objectType : String) : Except DesignError (Option RelationSchema) := do
  let schema ← getObjectSchema services.toSchemaServices db.toRuntimeDb tenantId objectType
  match schema with
  | none => pure none
  | some schema => do
      let schema ← attachRelationCatalog services db schema
      pure (some schema)

end Catalog

/-! ## Authoring -/

namespace Relationships

open ObjectDesign

/-- Calls on relationships. -/
abbrev RelationTx := Program RelationDb DesignError

/-- `mapRelationAuthoringErrorToRpc`. -/
def authored {α : Type} (result : Checked α) : Except DesignError α :=
  match result with
  | .ok value => .ok value
  | .error message => .error (.authoring "SIX1_AUTHORING_RELATION_CONFIG_INVALID" message)

def endpointError (message : String) : DesignError :=
  .authoring "SIX1_AUTHORING_RELATION_PUBLISHED_ENDPOINTS" message

/-- The set in which the types of a relationship must be published. -/
def authoringTemplateSet (db : RelationDb) (effectiveTenantId : Option Nat) :
    Option ConfigTemplateSetEntity :=
  match effectiveTenantId with
  | none => firstTemplateSet db.toRuntimeDb fun templateSet => templateSet.status == .published
  | some tenant => firstTemplateSet db.toRuntimeDb (isPublishedOf (some tenant))

/-- An object of the type is published in the set. -/
def isPublishedIn (db : RelationDb) (configTemplateSetId : Nat) (objectType : String) : Bool :=
  db.configObjects.rows.any fun configObject =>
    configObject.configTemplateSetId == configTemplateSetId &&
      configObject.objectType == objectType && configObject.status == .published

/-- `assertRelationshipEndpointsPublishedInScope`. -/
def assertRelationshipEndpointsPublishedInScope (db : RelationDb) (tenantId : Nat)
    (fromObjectType toObjectType : String) : Except DesignError Unit :=
  match authoringTemplateSet db (effectiveTenant (some tenantId)) with
  | none => .error (endpointError
      "No active published template set found for relationship authoring scope.")
  | some templateSet =>
      if isPublishedIn db templateSet.configTemplateSetId fromObjectType = false then
        .error (endpointError ("fromObjectType \"" ++ fromObjectType
          ++ "\" must be a PUBLISHED configurable object."))
      else if isPublishedIn db templateSet.configTemplateSetId toObjectType = false then
        .error (endpointError ("toObjectType \"" ++ toObjectType
          ++ "\" must be a PUBLISHED configurable object."))
      else .ok ()

/-! ### Writes -/

/-- `relationshipRepository.save` of a new row. -/
def insertRelationship (rel : ConfigObjectRelationshipEntity) :
    RelationTx ConfigObjectRelationshipEntity :=
  Program.writeReturning fun db =>
    (Keyed.withKey db.relationships.autoIncrement rel,
      { db with relationships := db.relationships.insert rel })

/-- The columns of a saved row. -/
def overwrittenRelationship (rel row : ConfigObjectRelationshipEntity) :
    ConfigObjectRelationshipEntity :=
  { rel with configObjectRelationshipId := row.configObjectRelationshipId }

/-- `relationshipRepository.save` of a row that was read. -/
def saveRelationship (rel : ConfigObjectRelationshipEntity) : RelationTx Unit :=
  Program.write fun db => { db with
    relationships := db.relationships.updateAt rel.configObjectRelationshipId
      (overwrittenRelationship rel) fun _ => rfl }

/-- `relationshipRepository.remove`. -/
def removeRelationship (configObjectRelationshipId : Nat) : RelationTx Unit :=
  Program.write fun db => { db with
    relationships := db.relationships.remove fun rel =>
      rel.configObjectRelationshipId == configObjectRelationshipId }

/-- `logConfigChange`; the tenant, where there is one, and the user are foreign keys. -/
def logRelationship (tenantId entityId : Nat) (action : AuditAction) (changedBy : Nat)
    (oldValue newValue : Option Json) : RelationTx Unit := do
  let db ← Program.read id
  if (∀ tenant ∈ effectiveTenant (some tenantId), tenant ∈ db.tenants) ∧
      changedBy ∈ db.tenantUsers then
    Program.write fun db => { db with
      relationshipLogs := db.relationshipLogs ++
        [{ tenantId := effectiveTenant (some tenantId)
           entityId := entityId
           action := action
           changedBy := changedBy
           oldValue := oldValue
           newValue := newValue }] }
  else Program.raise .database

/-- The audited fields that an update may change. -/
def changeableFields (rel : ConfigObjectRelationshipEntity) : Record :=
  [("displayName", .str rel.displayName), ("cardinality", .str rel.cardinality.text),
    ("queryConfig", .obj rel.queryConfig), ("isActive", .bool rel.isActive),
    ("relationshipSource", .str rel.relationshipSource.text),
    ("relationManifestJson", rel.relationManifestJson.getD .null)]

/-- The audited fields of a relationship as a whole. -/
def relationshipFields (rel : ConfigObjectRelationshipEntity) : Record :=
  [("fromObjectType", .str rel.fromObjectType), ("toObjectType", .str rel.toObjectType),
    ("relationshipKey", .str rel.relationshipKey)] ++ changeableFields rel

/-! ### Calls -/

/-- A query as it is given: anything but an object counts as none. -/
def givenQuery (queryConfig : Option Json) : Record :=
  match queryConfig with
  | some (.obj fields) => fields
  | _ => []

/-- The manifests as they are stored: the whole object that is given, by relation. -/
def storedManifests (relationManifestsByKey : Option Json) : Except DesignError (Option Json) :=
  match relationManifestsByKey with
  | none => .ok none
  | some value => authored (validateAndNormalizeRelationManifestsByKey value)

structure CreateConfigRelationshipParams where
  tenantId : Nat
  fromObjectType : String
  toObjectType : String
  relationshipKey : String
  displayName : Option String := none
  cardinality : RelationCardinality
  queryConfig : Option Json := none
  createdBy : Nat
  isActive : Option Bool := none
  relationshipSource : Option RelationshipSource := none
  relationManifestsByKey : Option Json := none

/-- The row of a new relationship, when its key is free. -/
def newRelationship (db : RelationDb) (params : CreateConfigRelationshipParams) :
    Except DesignError ConfigObjectRelationshipEntity :=
  if db.relationships.rows.any (fun row => row.fromObjectType == params.fromObjectType &&
      row.relationshipKey == params.relationshipKey) = true then
    .error (.rpc ("Relationship with key \"" ++ params.relationshipKey
      ++ "\" already exists for \"" ++ params.fromObjectType ++ "\"."))
  else do
    assertRelationshipEndpointsPublishedInScope db params.tenantId params.fromObjectType
      params.toObjectType
    let normalizedQuery ← authored
      (normalizeQueryConfigInlineRelation (givenQuery params.queryConfig))
    let relationManifestJson ← storedManifests params.relationManifestsByKey
    pure
      { configObjectRelationshipId := 0
        fromObjectType := params.fromObjectType
        toObjectType := params.toObjectType
        relationshipKey := params.relationshipKey
        relationshipSource := params.relationshipSource.getD .designer
        displayName := (params.displayName.bind fun name => nonEmpty (trimText name)).getD
          params.relationshipKey
        cardinality := params.cardinality
        queryConfig := normalizedQuery
        relationManifestJson := relationManifestJson
        isActive := params.isActive.getD true }

/-- `createConfigRelationship`. -/
def createConfigRelationship (params : CreateConfigRelationshipParams) :
    RelationTx ConfigObjectRelationshipEntity := do
  let db ← Program.read id
  let rel ← Program.lift (newRelationship db params)
  let saved ← insertRelationship rel
  logRelationship params.tenantId saved.configObjectRelationshipId .create params.createdBy none
    (some (.obj (relationshipFields saved)))
  pure saved

structure UpdateConfigRelationshipParams where
  tenantId : Nat
  configObjectRelationshipId : Nat
  updatedBy : Nat
  displayName : Option String := none
  cardinality : Option RelationCardinality := none
  queryConfig : Option Json := none
  isActive : Option Bool := none
  relationshipSource : Option RelationshipSource := none
  relationManifestsByKey : Option Json := none

/-- The query after an update. -/
def nextQuery (queryConfig : Option Json) (current : Record) : Except DesignError Record :=
  match queryConfig with
  | none => .ok current
  | some value => authored (normalizeQueryConfigInlineRelation (givenQuery (some value)))

/-- The manifests after an update. -/
def nextManifests (relationManifestsByKey : Option Json) (current : Option Json) :
    Except DesignError (Option Json) :=
  match relationManifestsByKey with
  | none => .ok current
  | some value => storedManifests (some value)

/-- The relationship that an update edits, and what becomes of it. -/
def editedRelationship (db : RelationDb) (params : UpdateConfigRelationshipParams) :
    Except DesignError (ConfigObjectRelationshipEntity × ConfigObjectRelationshipEntity) :=
  match db.relationships.find? params.configObjectRelationshipId with
  | none => .error (.rpc "Config relationship not found.")
  | some rel => do
      assertRelationshipEndpointsPublishedInScope db params.tenantId rel.fromObjectType
        rel.toObjectType
      let queryConfig ← nextQuery params.queryConfig rel.queryConfig
      let relationManifestJson ←
        nextManifests params.relationManifestsByKey rel.relationManifestJson
      pure
        (rel,
          { rel with
            displayName := params.displayName.getD rel.displayName
            cardinality := params.cardinality.getD rel.cardinality
            queryConfig := queryConfig
            relationshipSource := params.relationshipSource.getD rel.relationshipSource
            relationManifestJson := relationManifestJson
            isActive := params.isActive.getD rel.isActive })

/-- `updateConfigRelationship`. -/
def updateConfigRelationship (params : UpdateConfigRelationshipParams) :
    RelationTx ConfigObjectRelationshipEntity := do
  let db ← Program.read id
  let edit ← Program.lift (editedRelationship db params)
  saveRelationship edit.2
  logRelationship params.tenantId edit.2.configObjectRelationshipId .update params.updatedBy
    (some (.obj (changeableFields edit.1))) (some (.obj (changeableFields edit.2)))
  pure edit.2

/-- `deleteConfigRelationship`. -/
def deleteConfigRelationship (tenantId configObjectRelationshipId deletedBy : Nat) :
    RelationTx Unit := do
  let db ← Program.read id
  match db.relationships.find? configObjectRelationshipId with
  | none => pure ()
  | some rel => do
      Program.lift (assertRelationshipEndpointsPublishedInScope db tenantId rel.fromObjectType
        rel.toObjectType)
      removeRelationship rel.configObjectRelationshipId
      logRelationship tenantId configObjectRelationshipId .delete deletedBy
        (some (.obj (relationshipFields rel))) none

end Relationships

end CoreApi.ConfigObjects
