import CoreApi.ConfigObjects.ObjectSpellings
import CoreApi.ConfigObjects.RelationManifests
import CoreApi.ConfigObjects.SatisfiableSubmissions

/-!
# Registries of related types

A schema has a registry for the target of each of its relations. The target is looked up
under its name as the relation gives it: one that is configured under another spelling is
described by its entity, as one that is not configured at all. The catalog of a relation
reads the schema of the target, which is found under any spelling.
-/

namespace CoreApi.ConfigObjects

open CoreApi.Foundation Automation ObjectDesign

/-! ## Inferred binding modes -/

/-- `SYSTEM_TABLE_OBJECT_TYPES`. -/
def SYSTEM_TABLE_OBJECT_TYPES : List String :=
  ["users", "user_meta", "tenants", "tenant_meta", "tenant_users", "tenant_user_meta",
    "tenant_types", "tenant_configurations", "tenant_working_hours", "tenant_off_days",
    "tenant_user_configurations", "tenant_user_working_hours", "tenant_user_off_days",
    "roles", "role_descriptions", "permissions", "permission_descriptions", "system_statuses",
    "system_languages",
    "process_templates", "process_template_descriptions", "process_template_categories",
    "process_template_steps", "process_template_step_descriptions",
    "process_template_step_requirements", "process_template_step_object_bindings",
    "process_template_step_trigger_conditions",
    "process_template_step_requirement_submissions",
    "process_template_step_trigger_condition_submissions", "process_instances",
    "process_instance_steps", "process_instance_step_requirements",
    "process_instance_step_object_instances", "process_instance_step_requirement_submissions",
    "process_instance_step_triggers"]

def isSystemTableObjectType (objectType : String) : Bool :=
  SYSTEM_TABLE_OBJECT_TYPES.contains objectType

def inferDefaultBindingModeForObjectType (objectType : String) : Option ConfigBindingMode :=
  if isJunctionOnlyObjectType objectType = true then none
  else if isSystemTableObjectType objectType = true then some .systemTable
  else some .sorBound

/-! ## Registries of relations -/

/-- `'configured_object' | 'entity_fallback' | 'unavailable'`. -/
inductive RelatedRegistrySource where
  | configuredObject | entityFallback | unavailable
deriving DecidableEq

/-- What a schema has for a relation: the fields of the target, and where they are from. -/
structure RelatedFieldRegistry where
  fieldRegistry : List CoreFieldDescriptor
  source : RelatedRegistrySource

/-- The registries of relations by key, as they are assigned one after the other. -/
abbrev RelatedFieldRegistries := List (String × RelatedFieldRegistry)

/-- What is assigned under a key; of several, the last. -/
def RelatedFieldRegistries.at (related : RelatedFieldRegistries) (relationshipKey : String) :
    Option RelatedFieldRegistry :=
  related.reverse.lookup relationshipKey

/-- `ConfigObjectRunnerSchemaView`, with what its readers here read. -/
structure RunnerSchemaView where
  configObject : DesignedObject
  fields : List ConfigObjectFieldView
  fieldRegistry : List CoreFieldDescriptor
  relations : List RelationCatalogDescriptor
  related : RelatedFieldRegistries

/-- What `getRelatedFieldCatalogForRelationship` returns. -/
structure RelatedFieldCatalog where
  fromObjectType : String
  relationshipKey : String
  toObjectType : String
  cardinality : RelationCardinality
  relationshipSource : RelationshipSource
  fieldKeys : List String

section

variable (services : SubmitServices) (db : SubmitDb)

/-- `loadFieldViewsForConfigObjectId`. -/
def loadFieldViewsForConfigObjectId (configObjectId : Nat) : List ConfigObjectFieldView :=
  fieldViewsOf db.fieldRules
    (loadFieldsForConfigObjectId services.toSchemaServices db.toRuntimeDb configObjectId)

/-- The registry of an object with its fields. -/
def configuredFieldRegistry (configObject : DesignedObject) :
    Except SubmitError (List CoreFieldDescriptor) :=
  (finalizeCoreFieldDescriptors services.metadata configObject.bindingMode configObject.objectType
    (loadFieldViewsForConfigObjectId services db configObject.configObjectId)).mapError
      SubmitError.invalidDescriptor

/-- What `buildRelatedFieldRegistryByRelationKey` assigns for a relation. -/
def relatedFieldRegistry (templateSetId : Nat) (rel : RelationCatalogDescriptor) :
    Except SubmitError RelatedFieldRegistry :=
  match objectOfTemplateSet db.toRuntimeDb templateSetId [rel.toObjectType] with
  | some targetConfigObject => do
      let fieldRegistry ← configuredFieldRegistry services db targetConfigObject
      pure ⟨fieldRegistry, .configuredObject⟩
  | none =>
      match inferDefaultBindingModeForObjectType rel.toObjectType with
      | none => pure ⟨[], .unavailable⟩
      | some inferredBindingMode => do
          let fieldRegistry ← (finalizeCoreFieldDescriptors services.metadata inferredBindingMode
            rel.toObjectType []).mapError SubmitError.invalidDescriptor
          pure ⟨fieldRegistry, .entityFallback⟩

/-- `buildRelatedFieldRegistryByRelationKey`. -/
def buildRelatedFieldRegistryByRelationKey (relations : List RelationCatalogDescriptor)
    (templateSetId : Nat) : Except SubmitError RelatedFieldRegistries :=
  relations.mapM fun rel => do
    let registry ← relatedFieldRegistry services db templateSetId rel
    pure (rel.relationshipKey, registry)

/-- The schema of a type in a template set: `enrichSchemaViewWithRunner` and
`attachRelationCatalog` of its object. -/
def runnerSchemaOf (templateSetId : Nat) (objectType : String) :
    Except SubmitError (Option RunnerSchemaView) :=
  match objectOfTemplateSet db.toRuntimeDb templateSetId
      (candidateObjectTypes services.toSchemaServices objectType) with
  | none => pure none
  | some configObject => do
      let fieldRegistry ← configuredFieldRegistry services db configObject
      let relations ← (getMergedRelationshipCatalogForObjectType services.toRelationServices
        db.toRelationDb configObject.objectType).mapError SubmitError.design
      let related ← buildRelatedFieldRegistryByRelationKey services db relations templateSetId
      pure (some
        { configObject
          fields := loadFieldViewsForConfigObjectId services db configObject.configObjectId
          fieldRegistry, relations, related })

/-- `getObjectSchema` with its registries, as it is computed where no schema is cached. -/
def getRunnerSchema (tenantId : Option Nat) (objectType : String) :
    Except SubmitError (Option RunnerSchemaView) := do
  let _ ← (normalizeCanonicalObjectTypeOrThrow services.casing objectType).mapError
    SubmitError.design
  match templateSetOfScope db.toRuntimeDb (effectiveTenant tenantId) with
  | none => pure none
  | some templateSet => runnerSchemaOf services db templateSet.configTemplateSetId objectType

/-- `getRelatedFieldCatalogForRelationship`. -/
def getRelatedFieldCatalogForRelationship (tenantId : Option Nat)
    (fromObjectType relationshipKey : String) : Except SubmitError RelatedFieldCatalog := do
  let merged ← (getMergedRelationshipCatalogForObjectType services.toRelationServices
    db.toRelationDb fromObjectType).mapError SubmitError.design
  match merged.find? fun rel => rel.relationshipKey == relationshipKey with
  | none => .error (.design (.authoring "SIX1_AUTHORING_RELATION_CATALOG_NOT_FOUND"
      "Relationship not found for catalog lookup."))
  | some rel => do
      let schema ← getRunnerSchema services db (effectiveTenant tenantId) rel.toObjectType
      let fields := (schema.map RunnerSchemaView.fields).getD []
      pure
        { fromObjectType := rel.fromObjectType
          relationshipKey := rel.relationshipKey
          toObjectType := rel.toObjectType
          cardinality := rel.cardinality
          relationshipSource := rel.relationshipSource
          fieldKeys := fields.map fun fieldView => fieldView.field.fieldKey }

end

/-! ## Registries of targets -/

/-- A type is configured in a template set under its canonical name, and under no other. -/
structure ConfiguredCanonically (casing : LowerCasing) (db : RuntimeDb) (templateSetId : Nat)
    (objectType : String) : Prop where
  configured : ∃ configObject ∈ db.configObjects.rows,
    configObject.configTemplateSetId = templateSetId ∧
      configObject.objectType = canonicalizeObjectType casing objectType
  canonical : ∀ configObject ∈ db.configObjects.rows,
    configObject.configTemplateSetId = templateSetId →
      canonicalizeObjectType casing configObject.objectType =
        canonicalizeObjectType casing objectType →
      configObject.objectType = canonicalizeObjectType casing objectType

/-- The registry that a schema has for a relation is that of the schema of the target, made from
its configured object, and has every field that is listed for the relation. -/
structure RelatedAsOwn (services : SubmitServices) (db : SubmitDb) (templateSetId : Nat)
    (schema : RunnerSchemaView) (rel : RelationCatalogDescriptor) : Prop where
  source : (schema.related.at rel.relationshipKey).map RelatedFieldRegistry.source =
    some .configuredObject
  registry : ∀ own, runnerSchemaOf services db templateSetId rel.toObjectType = .ok (some own) →
    (schema.related.at rel.relationshipKey).map RelatedFieldRegistry.fieldRegistry =
      some own.fieldRegistry
  listed : ∀ tenantId templateSet,
    templateSetOfScope db.toRuntimeDb (effectiveTenant tenantId) = some templateSet →
    templateSet.configTemplateSetId = templateSetId →
    ∀ catalog, getRelatedFieldCatalogForRelationship services db tenantId
      schema.configObject.objectType rel.relationshipKey = .ok catalog →
    ∀ fieldKey ∈ catalog.fieldKeys, ∃ related,
      schema.related.at rel.relationshipKey = some related ∧
        ∃ descriptor ∈ related.fieldRegistry, descriptor.fieldKey = fieldKey

/-! ## What is read for a relation -/

section

variable {services : SubmitServices} {db : SubmitDb} {templateSetId : Nat} {objectType : String}
  {schema : RunnerSchemaView} {rel : RelationCatalogDescriptor}

/-- What is assigned under a key of its own is read there. -/
theorem at_of_mem {related : RelatedFieldRegistries} (distinct : (related.map Prod.fst).Nodup)
    {relationshipKey : String} {registry : RelatedFieldRegistry}
    (member : (relationshipKey, registry) ∈ related) :
    related.at relationshipKey = some registry := by
  have reversed : (related.reverse.map Prod.fst).Nodup := by
    rw [List.map_reverse]
    exact List.nodup_reverse.mpr distinct
  exact lookup_of_mem reversed (List.mem_reverse.mpr member)

/-- A schema is made from the object that its type resolves to. -/
theorem runnerSchemaOf_eq_ok
    (isSchema : runnerSchemaOf services db templateSetId objectType = .ok (some schema)) :
    objectOfTemplateSet db.toRuntimeDb templateSetId
        (candidateObjectTypes services.toSchemaServices objectType) = some schema.configObject ∧
      schema.fields =
        loadFieldViewsForConfigObjectId services db schema.configObject.configObjectId ∧
      configuredFieldRegistry services db schema.configObject = .ok schema.fieldRegistry ∧
      getMergedRelationshipCatalogForObjectType services.toRelationServices db.toRelationDb
        schema.configObject.objectType = .ok schema.relations ∧
      buildRelatedFieldRegistryByRelationKey services db schema.relations templateSetId =
        .ok schema.related := by
  unfold runnerSchemaOf at isSchema
  split at isSchema
  · cases isSchema
  · next configObject found =>
      obtain ⟨fieldRegistry, isRegistry, isSchema⟩ := bind_eq_ok.mp isSchema
      obtain ⟨relations, isCatalog, isSchema⟩ := bind_eq_ok.mp isSchema
      obtain ⟨related, isRelated, isSchema⟩ := bind_eq_ok.mp isSchema
      cases isSchema
      exact ⟨found, rfl, isRegistry, mapError_eq_ok.mp isCatalog, isRelated⟩

theorem runnerSchemaOf_of_scope {tenantId : Option Nat} {templateSet : ConfigTemplateSetEntity}
    (inScope : templateSetOfScope db.toRuntimeDb (effectiveTenant tenantId) = some templateSet)
    {found : Option RunnerSchemaView}
    (isRead : getRunnerSchema services db tenantId objectType = .ok found) :
    runnerSchemaOf services db templateSet.configTemplateSetId objectType = .ok found := by
  obtain ⟨_, _, isRead⟩ := bind_eq_ok.mp isRead
  rw [inScope] at isRead
  exact isRead

/-- For each relation of a schema the registry is read that is assigned for it. -/
theorem at_of_schema
    (isSchema : runnerSchemaOf services db templateSetId objectType = .ok (some schema))
    (inCatalog : rel ∈ schema.relations) :
    ∃ registry, relatedFieldRegistry services db templateSetId rel = .ok registry ∧
      schema.related.at rel.relationshipKey = some registry := by
  obtain ⟨_, _, _, isCatalog, isRelated⟩ := runnerSchemaOf_eq_ok isSchema
  have keys : schema.related.map Prod.fst =
      schema.relations.map RelationCatalogDescriptor.relationshipKey := by
    refine labels_of_mapM (fun rel entry assigned => ?_) isRelated
    obtain ⟨registry, _, assigned⟩ := bind_eq_ok.mp assigned
    cases assigned
    rfl
  have distinct : (schema.related.map Prod.fst).Nodup := keys ▸ (mem_catalog isCatalog).1
  obtain ⟨entry, member, assigned⟩ := exists_of_mapM isRelated inCatalog
  obtain ⟨registry, isRegistry, assigned⟩ := bind_eq_ok.mp assigned
  cases assigned
  exact ⟨registry, isRegistry, at_of_mem distinct member⟩

theorem field_in_registry {configObject : DesignedObject} {fieldRegistry : List CoreFieldDescriptor}
    (isRegistry : configuredFieldRegistry services db configObject = .ok fieldRegistry)
    {fieldView : ConfigObjectFieldView}
    (member : fieldView ∈ loadFieldViewsForConfigObjectId services db configObject.configObjectId) :
    ∃ descriptor ∈ fieldRegistry, descriptor.fieldKey = fieldView.field.fieldKey := by
  obtain ⟨base, _, _, rfl⟩ := finalizeCoreFieldDescriptors_eq_ok.mp (mapError_eq_ok.mp isRegistry)
  obtain ⟨row, inRows, sameKey⟩ := (@exists_mergedRow_iff services.metadata base _ _).mpr
    (.inr ⟨fieldView, member, rfl⟩)
  exact ⟨_, List.mem_map_of_mem inRows, sameKey⟩

theorem listed_of_catalog {templateSet : ConfigTemplateSetEntity}
    (isSchema : runnerSchemaOf services db templateSet.configTemplateSetId objectType =
      .ok (some schema))
    (inCatalog : rel ∈ schema.relations) {tenantId : Option Nat}
    (inScope : templateSetOfScope db.toRuntimeDb (effectiveTenant tenantId) = some templateSet)
    {catalog : RelatedFieldCatalog}
    (isCatalog : getRelatedFieldCatalogForRelationship services db tenantId
      schema.configObject.objectType rel.relationshipKey = .ok catalog) :
    ∃ own, runnerSchemaOf services db templateSet.configTemplateSetId rel.toObjectType = .ok own ∧
      catalog.fieldKeys = ((own.map RunnerSchemaView.fields).getD []).map fun fieldView =>
        fieldView.field.fieldKey := by
  obtain ⟨_, _, _, isMerged, _⟩ := runnerSchemaOf_eq_ok isSchema
  have distinct := (mem_catalog isMerged).1
  obtain ⟨merged, sameMerged, isCatalog⟩ := bind_eq_ok.mp isCatalog
  obtain rfl : schema.relations = merged :=
    Except.ok.inj (isMerged.symm.trans (mapError_eq_ok.mp sameMerged))
  rcases found : schema.relations.find? (fun other =>
      other.relationshipKey == rel.relationshipKey) with _ | other
  · exact absurd (beq_self_eq_true rel.relationshipKey) (List.find?_eq_none.mp found rel inCatalog)
  · have sameKey := beq_iff_eq.mp (List.find?_some (p := fun other : RelationCatalogDescriptor =>
      other.relationshipKey == rel.relationshipKey) found)
    obtain rfl : other = rel :=
      List.inj_on_of_nodup_map distinct (List.mem_of_find?_eq_some found) inCatalog sameKey
    rw [found] at isCatalog
    obtain ⟨own, isOwn, isCatalog⟩ := bind_eq_ok.mp isCatalog
    cases isCatalog
    rw [← effectiveTenant_idem] at inScope
    exact ⟨own, runnerSchemaOf_of_scope inScope isOwn, rfl⟩

/-! ### Targets -/

theorem relatedFieldRegistry_of_found {target : DesignedObject}
    (found : objectOfTemplateSet db.toRuntimeDb templateSetId [rel.toObjectType] = some target)
    {registry : RelatedFieldRegistry}
    (assigned : relatedFieldRegistry services db templateSetId rel = .ok registry) :
    registry.source = .configuredObject ∧
      configuredFieldRegistry services db target = .ok registry.fieldRegistry := by
  unfold relatedFieldRegistry at assigned
  rw [found] at assigned
  obtain ⟨fieldRegistry, isRegistry, assigned⟩ := bind_eq_ok.mp assigned
  cases assigned
  exact ⟨rfl, isRegistry⟩

/-- A target that is not found under the name which a relation gives it is not taken for
configured. -/
theorem source_of_not_found
    (missing : objectOfTemplateSet db.toRuntimeDb templateSetId [rel.toObjectType] = none)
    {registry : RelatedFieldRegistry}
    (assigned : relatedFieldRegistry services db templateSetId rel = .ok registry) :
    registry.source ≠ .configuredObject := by
  unfold relatedFieldRegistry at assigned
  rw [missing] at assigned
  rcases inferred : inferDefaultBindingModeForObjectType rel.toObjectType with _ | bindingMode
  · rw [inferred] at assigned
    cases assigned
    exact nofun
  · rw [inferred] at assigned
    obtain ⟨fieldRegistry, _, assigned⟩ := bind_eq_ok.mp assigned
    cases assigned
    exact nofun

/-- As the calls on objects leave them, every type that is configured is so under its canonical
name only. -/
theorem configuredCanonically_of_types {db : RuntimeDb}
    (canonical : TypesCanonical services.casing db) {configObject : DesignedObject}
    (member : configObject ∈ db.configObjects.rows)
    (inSet : configObject.configTemplateSetId = templateSetId)
    (isTarget : canonicalizeObjectType services.casing configObject.objectType =
      canonicalizeObjectType services.casing objectType) :
    ConfiguredCanonically services.casing db templateSetId objectType where
  configured := ⟨configObject, member, inSet, (canonical configObject member).2 ▸ isTarget⟩
  canonical other otherMember _ same := (canonical other otherMember).2.symm.trans same

/-- A type that is configured under its canonical name is found under a name exactly where this is
the canonical one. -/
theorem isSome_objectOfTemplateSet_iff {db : RuntimeDb}
    (configured : ConfiguredCanonically services.casing db templateSetId objectType) :
    (objectOfTemplateSet db templateSetId [objectType]).isSome = true ↔
      canonicalizeObjectType services.casing objectType = objectType := by
  unfold objectOfTemplateSet
  rw [List.find?_isSome]
  simp only [Bool.and_eq_true, beq_iff_eq, List.contains_iff_mem, List.mem_singleton]
  constructor
  · rintro ⟨configObject, member, inSet, named⟩
    have canonical := configured.canonical configObject member inSet (by rw [named])
    rw [← canonical, named]
  · intro canonical
    obtain ⟨configObject, member, inSet, named⟩ := configured.configured
    exact ⟨configObject, member, inSet, named.trans canonical⟩

/-- Under its canonical name a type is found where its schema finds it. -/
theorem objectOfTemplateSet_canonical
    (configured : ConfiguredCanonically services.casing db.toRuntimeDb templateSetId objectType)
    (canonical : canonicalizeObjectType services.casing objectType = objectType)
    {target : DesignedObject}
    (found : objectOfTemplateSet db.toRuntimeDb templateSetId
      (candidateObjectTypes services.toSchemaServices objectType) = some target) :
    objectOfTemplateSet db.toRuntimeDb templateSetId [objectType] = some target := by
  rw [← found]
  have selected := List.find?_some found
  simp only [Bool.and_eq_true, beq_iff_eq, List.contains_iff_mem] at selected
  refine List.find?_congr fun configObject member => ?_
  rw [Bool.eq_iff_iff]
  simp only [Bool.and_eq_true, beq_iff_eq, List.contains_iff_mem, List.mem_singleton]
  refine and_congr_right fun inSet => ⟨fun named => ?_, fun candidate => ?_⟩
  · have sameName := configured.canonical target (List.mem_of_find?_eq_some found) selected.1
      (canonicalizeObjectType_candidate selected.2)
    have same : configObject.objectType = target.objectType :=
      named.trans (canonical.symm.trans sameName.symm)
    rw [same]
    exact selected.2
  · exact (configured.canonical configObject member inSet
      (canonicalizeObjectType_candidate candidate)).trans canonical

end

/-- The entity of projects declares a relation to the table of tasks. -/
def projectServices : SubmitServices :=
  { inspectionServices with declared := [⟨"projects", .oneToMany, some "tasks"⟩] }

/-- Designers relate projects to tasks a second time, by the name of the type. -/
def workOfProject : ConfigObjectRelationshipEntity where
  configObjectRelationshipId := 0
  fromObjectType := "project"
  toObjectType := "task"
  relationshipKey := "project_work"
  relationshipSource := .designer
  displayName := "Work"
  cardinality := .oneToMany
  queryConfig := []
  relationManifestJson := none
  isActive := true

/-- A serial number that designers gave to tasks. -/
def serialNumberOfTask : ConfigObjectFieldEntity := { serialNumber with configObjectId := 2 }

/-- Tenant 1 has published projects, and tasks with a serial number. -/
def projectsWithTasks : SubmitDb :=
  { inspections (.empty _) with
    configObjects := .ofRows
      [⟨⟨0, 1, "project", .published⟩, .sorBound, none, "Project", none⟩,
        ⟨⟨0, 1, "task", .published⟩, .sorBound, none, "Task", none⟩]
    configFields := .ofRows [serialNumberOfTask]
    relationships := .ofRows [workOfProject]
    fieldKeysDistinct := fun field member other otherMember _ _ => by
      rw [List.mem_singleton.mp member, List.mem_singleton.mp otherMember] }

theorem projectsWithTasks_canonical :
    TypesCanonical projectServices.casing projectsWithTasks.toRuntimeDb := by
  unfold TypesCanonical IsCanonical
  decide

/-- Tasks are configured, however a relation spells them. -/
theorem tasks_configured {objectType : String}
    (isTask : canonicalizeObjectType latinCasing objectType = "task") :
    ConfiguredCanonically projectServices.casing projectsWithTasks.toRuntimeDb 1 objectType := by
  let task : DesignedObject := ⟨⟨2, 1, "task", .published⟩, .sorBound, none, "Task", none⟩
  have stored : task ∈ projectsWithTasks.configObjects.rows := by decide
  refine @configuredCanonically_of_types projectServices 1 objectType _
    projectsWithTasks_canonical task stored rfl ?_
  have named : canonicalizeObjectType latinCasing "task" = "task" := by decide
  exact named.trans isTask.symm

/-- The schema of projects, as far as its relations go. -/
theorem projects_readable :
    ∃ schema, runnerSchemaOf projectServices projectsWithTasks 1 "project" = .ok (some schema) ∧
      schema.relations.map RelationCatalogDescriptor.toObjectType = ["tasks", "task"] := by
  have isRead : ((runnerSchemaOf projectServices projectsWithTasks 1 "project").toOption.join.map
      fun schema => schema.relations.map RelationCatalogDescriptor.toObjectType) =
        some ["tasks", "task"] := by
    decide
  obtain ⟨schema, isSchema, targets⟩ := Option.map_eq_some_iff.mp isRead
  refine ⟨schema, ?_, targets⟩
  rcases read : runnerSchemaOf projectServices projectsWithTasks 1 "project" with _ | found
  · rw [read] at isSchema
    cases isSchema
  · rw [read] at isSchema
    exact congrArg Except.ok isSchema

end CoreApi.ConfigObjects
