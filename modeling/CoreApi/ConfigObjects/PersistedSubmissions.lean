import CoreApi.ConfigObjects.ObjectInstances
import CoreApi.ConfigObjects.SatisfiableSubmissions

/-!
# Submissions as patches

An update is composed to a payload, and the payload is split into the patch of a core row and
that of its custom values. What an update may write follows from the columns of the entity,
the data transfer objects, the rules of designers and the system of record; what a patch
keeps follows from the system of record and the designers' fields alone.
-/

namespace CoreApi.ConfigObjects

open CoreApi.Foundation Automation ObjectDesign

/-! ## What an operation may write -/

section

variable {metadata : FieldMetadata} {configObject : DesignedObject}
  {fieldViews : List ConfigObjectFieldView} {base fieldRegistry : List CoreFieldDescriptor}
  {operation : SubmitOperation} {fieldKey : String}

/-- An operation may write a field that nothing makes read-only, and that its data transfer object
has; where no data transfer object has it, one that the system of record does not keep. -/
def IsOpenTo (metadata : FieldMetadata) (configObject : DesignedObject)
    (base : List CoreFieldDescriptor) (fieldViews : List ConfigObjectFieldView)
    (operation : SubmitOperation) (fieldKey : String) : Prop :=
  ¬IsReadOnly base fieldViews fieldKey ∧
    match inferDtoCapabilityOverridesForObjectType metadata configObject.objectType fieldKey with
    | some capability => operation.writableBy capability = some true
    | none => ¬IsKeptBySystemOfRecord configObject.bindingMode configObject.objectType fieldKey

theorem isSome_descriptorOf_iff
    (isMade : generateBaseCoreFieldDescriptors metadata configObject.bindingMode
      configObject.objectType = .ok base)
    (isBuilt : IsRegistryOf metadata configObject fieldViews fieldRegistry) :
    (descriptorOf fieldRegistry fieldKey).isSome = true ↔ IsField base fieldViews fieldKey := by
  obtain ⟨base', isMade', _, rfl⟩ := finalizeCoreFieldDescriptors_eq_ok.mp isBuilt
  obtain rfl : base = base' := Except.ok.inj (isMade.symm.trans isMade')
  rw [← @exists_mergedRow_iff metadata base fieldViews fieldKey]
  constructor
  · intro found
    obtain ⟨descriptor, isFound⟩ := Option.isSome_iff_exists.mp found
    obtain ⟨member, rfl⟩ := mem_of_descriptorOf isFound
    obtain ⟨row, inRows, rfl⟩ := List.mem_map.mp member
    exact ⟨row, inRows, rfl⟩
  · rintro ⟨row, inRows, rfl⟩
    unfold descriptorOf
    rw [List.find?_isSome]
    exact ⟨_, List.mem_reverse.mpr (List.mem_map_of_mem inRows), beq_self_eq_true row.fieldKey⟩

/-- The descriptors of a registry let an operation write what is open to it. -/
theorem allows_iff_isOpenTo (distinct : KeysDistinct fieldViews)
    (isMade : generateBaseCoreFieldDescriptors metadata configObject.bindingMode
      configObject.objectType = .ok base)
    (isBuilt : IsRegistryOf metadata configObject fieldViews fieldRegistry)
    {descriptor : CoreFieldDescriptor}
    (found : descriptorOf fieldRegistry fieldKey = some descriptor) :
    operation.allows descriptor = true ↔
      IsOpenTo metadata configObject base fieldViews operation fieldKey := by
  obtain ⟨base', isMade', _, rfl⟩ := finalizeCoreFieldDescriptors_eq_ok.mp isBuilt
  obtain rfl : base = base' := Except.ok.inj (isMade.symm.trans isMade')
  obtain ⟨member, rfl⟩ := mem_of_descriptorOf found
  obtain ⟨row, inRows, rfl⟩ := List.mem_map.mp member
  rw [allows_withWriteCapability]
  exact and_congr_left' (not_congr
    (@mergedRows_spec _ _ _ operation (isBase_of_generate isMade) distinct _ inRows).1)

end

/-! ## Patches of composed payloads -/

/-- A column of the entity of a type. -/
def IsColumn (metadata : FieldMetadata) (objectType fieldKey : String) : Prop :=
  fieldKey ∈ (metadata.entityColumns objectType).map EntityColumn.propertyName

instance (metadata : FieldMetadata) (objectType fieldKey : String) :
    Decidable (IsColumn metadata objectType fieldKey) :=
  inferInstanceAs (Decidable (fieldKey ∈ (metadata.entityColumns objectType).map
    EntityColumn.propertyName))

/-- What a patch has to list for a field: a column among those that it may write to the core row,
any other among the designers' fields. -/
def IsListed (metadata : FieldMetadata) (schema : RelationSchema) (entityKey fieldKey : String) :
    Prop :=
  if IsColumn metadata schema.configObject.objectType fieldKey then
    fieldKey ∈ getWritableSorFieldKeys entityKey
  else fieldKey ∈ schema.fields.map ConfigObjectFieldEntity.fieldKey

/-- The patch that a payload is split into: its columns for the core row, and the rest. -/
def splitPayload (metadata : FieldMetadata) (schema : RelationSchema) (tenantId : Option Nat)
    (entityKey : String) (coreId : Nat) (payload : Record) : ApplySorBoundInstancePatchParams where
  tenantId := tenantId
  objectType := entityKey
  coreId := coreId
  corePatch := payload.filter fun entry =>
    IsColumn metadata schema.configObject.objectType entry.1
  metaPatch := payload.filter fun entry =>
    ¬IsColumn metadata schema.configObject.objectType entry.1

section

variable {metadata : FieldMetadata} {configObject : DesignedObject}
  {base : List CoreFieldDescriptor} {fieldKey : String}

/-- The base has the columns of an entity; where there are none, a type that is bound to the system
of record has the fields of that. -/
theorem column_or_sor_of_base
    (isMade : generateBaseCoreFieldDescriptors metadata configObject.bindingMode
      configObject.objectType = .ok base)
    {row : CoreFieldDescriptor} (member : row ∈ base) :
    IsColumn metadata configObject.objectType row.fieldKey ∨
      configObject.bindingMode = .sorBound ∧
        metadata.entityColumns configObject.objectType = [] ∧
        ∃ sor ∈ sorDescriptorsOf configObject.objectType, sor.fieldKey = row.fieldKey := by
  have ofEntity : ∀ {rows}, generateBaseCoreFieldDescriptorsFromEntityMetadata metadata
      configObject.objectType = .ok rows → row ∈ rows →
        IsColumn metadata configObject.objectType row.fieldKey := by
    intro rows isRows inRows
    rw [IsColumn, ← fieldKeys_of_entityMetadata isRows]
    exact List.mem_map_of_mem inRows
  rcases isMode : configObject.bindingMode with _ | _ | _
  · rw [isMode] at isMade
    obtain ⟨entityBased, isEntityBased, isMade⟩ := bind_eq_ok.mp isMade
    split at isMade
    · cases isMade
      exact .inl (ofEntity isEntityBased member)
    · next noColumns =>
        refine .inr ⟨rfl, ?_, ?_⟩
        · have keys := fieldKeys_of_entityMetadata isEntityBased
          rw [not_not.mp noColumns] at keys
          exact List.map_eq_nil_iff.mp keys.symm
        · obtain ⟨_, rfl⟩ := (mapM_eq_ok fun _ _ => validateCoreFieldDescriptor_eq_ok).mp isMade
          obtain ⟨sor, inSor, rfl⟩ := List.mem_map.mp member
          exact ⟨sor, (List.mem_insertionSort _).mp inSor, rfl⟩
  · rw [isMode] at isMade
    obtain rfl : [] = base := Except.ok.inj isMade
    cases member
  · rw [isMode] at isMade
    exact .inl (ofEntity isMade member)

/-- Without columns, a type that is bound to the system of record has the fields of that. -/
theorem isField_of_sor {fieldViews : List ConfigObjectFieldView}
    (isMade : generateBaseCoreFieldDescriptors metadata configObject.bindingMode
      configObject.objectType = .ok base)
    (isMode : configObject.bindingMode = .sorBound)
    (noColumns : metadata.entityColumns configObject.objectType = [])
    {sor : SorFieldDescriptor} (member : sor ∈ sorDescriptorsOf configObject.objectType) :
    IsField base fieldViews sor.fieldKey := by
  rw [isMode] at isMade
  obtain ⟨entityBased, isEntityBased, isMade⟩ := bind_eq_ok.mp isMade
  have keys := fieldKeys_of_entityMetadata isEntityBased
  rw [noColumns] at keys
  have isEmpty := List.map_eq_nil_iff.mp keys
  rw [if_neg (not_not.mpr isEmpty)] at isMade
  obtain ⟨_, rfl⟩ := (mapM_eq_ok fun _ _ => validateCoreFieldDescriptor_eq_ok).mp isMade
  exact .inl ⟨_, List.mem_map_of_mem ((List.mem_insertionSort _).mpr member), rfl⟩

end

section

variable {metadata : FieldMetadata} {schema : RelationSchema} {tenantId : Option Nat}
  {entityKey : String}

theorem splitPayload_keeps (coreId : Nat) {payload : Record} {entry : String × Json}
    (member : entry ∈ payload) (listed : IsListed metadata schema entityKey entry.1) :
    entry ∈ (splitPayload metadata schema tenantId entityKey coreId payload).filteredCore ∨
      entry ∈ (splitPayload metadata schema tenantId entityKey coreId payload).filteredMeta
        schema.toObjectSchema := by
  unfold IsListed at listed
  split at listed
  · next isColumn =>
      refine .inl (List.mem_filter.mpr ⟨List.mem_filter.mpr ⟨member, ?_⟩, ?_⟩)
      · exact decide_eq_true isColumn
      · exact List.contains_iff_mem.mpr listed
  · next notColumn =>
      refine .inr (List.mem_filter.mpr ⟨List.mem_filter.mpr ⟨member, ?_⟩, ?_⟩)
      · exact decide_eq_true notColumn
      · exact List.contains_iff_mem.mpr listed

end

/-! ## Accepted updates -/

/-- Every accepted update is persisted: what it gives to fields is listed by the patch, nothing of
that is dropped from the payload, and the patch writes no core column that updates may not. -/
structure UpdatesPersist (services : SubmitServices) (db : SubmitDb) (tenantId : Option Nat)
    (entityKey : String) (schema : RelationSchema) : Prop where
  listed : ∀ fieldRegistry, IsRegistryOf services.metadata schema.configObject
      (fieldViewsOf db.fieldRules schema.fields) fieldRegistry →
    ∀ fieldValues relationBlocks submitted, composeRuntimeSubmitPayload services db tenantId
      entityKey .update fieldValues relationBlocks = .ok submitted →
    ∀ fieldKey ∈ fieldValues.names, (descriptorOf fieldRegistry fieldKey).isSome = true →
      IsListed services.metadata schema entityKey fieldKey
  kept : ∀ fieldRegistry, IsRegistryOf services.metadata schema.configObject
      (fieldViewsOf db.fieldRules schema.fields) fieldRegistry →
    ∀ fieldValues relationBlocks submitted, composeRuntimeSubmitPayload services db tenantId
      entityKey .update fieldValues relationBlocks = .ok submitted →
    ∀ coreId, ∀ entry ∈ submitted.payload, entry.1 ∈ fieldValues.names →
      (descriptorOf fieldRegistry entry.1).isSome = true →
      let patch := splitPayload services.metadata schema tenantId entityKey coreId submitted.payload
      entry ∈ patch.filteredCore ∨ entry ∈ patch.filteredMeta schema.toObjectSchema
  denied : ∀ fieldRegistry, IsRegistryOf services.metadata schema.configObject
      (fieldViewsOf db.fieldRules schema.fields) fieldRegistry →
    ∀ fieldValues, ∀ fieldKey ∈ deniedFields fieldRegistry .update fieldValues,
      fieldKey ∉ getWritableSorFieldKeys entityKey

/-- Updates and patches agree on a type with base descriptors: the core columns that a patch writes
are open to updates, and unless no update is accepted at all, a patch writes the columns that are
open to them. Fields of the system of record without an entity are designed where they are open. -/
structure PatchesAgree (metadata : FieldMetadata) (configObject : DesignedObject)
    (fieldViews : List ConfigObjectFieldView) (entityKey : String)
    (base : List CoreFieldDescriptor) : Prop where
  writableOpen : ∀ fieldKey ∈ getWritableSorFieldKeys entityKey, IsField base fieldViews fieldKey →
    IsOpenTo metadata configObject base fieldViews .update fieldKey
  columnsWritable : IsSatisfiable metadata configObject fieldViews .update →
    ∀ fieldKey, IsColumn metadata configObject.objectType fieldKey →
      IsField base fieldViews fieldKey →
      IsOpenTo metadata configObject base fieldViews .update fieldKey →
      fieldKey ∈ getWritableSorFieldKeys entityKey
  othersDesigned : IsSatisfiable metadata configObject fieldViews .update →
    configObject.bindingMode = .sorBound → metadata.entityColumns configObject.objectType = [] →
    ∀ sor ∈ sorDescriptorsOf configObject.objectType,
      IsOpenTo metadata configObject base fieldViews .update sor.fieldKey →
      ∃ fieldView ∈ fieldViews, fieldView.field.fieldKey = sor.fieldKey

section

variable {services : SubmitServices} {db : SubmitDb} {tenantId : Option Nat} {entityKey : String}
  {schema : RelationSchema} {fieldRegistry : List CoreFieldDescriptor}

/-- What an accepted update gives to fields is open to it. -/
theorem allows_of_submitted {relations : List RelationCatalogDescriptor}
    {operation : SubmitOperation} {fieldValues relationBlocks payload : Record}
    (accepted : composePayload fieldRegistry relations operation fieldValues relationBlocks =
      .ok payload)
    {fieldKey : String} (submitted : fieldKey ∈ fieldValues.names)
    {descriptor : CoreFieldDescriptor}
    (found : descriptorOf fieldRegistry fieldKey = some descriptor) :
    operation.allows descriptor = true := by
  obtain ⟨_, _, accepted⟩ := bind_eq_ok.mp accepted
  obtain ⟨_, noneDenied, _⟩ := bind_eq_ok.mp accepted
  have notDenied := List.filter_eq_nil_iff.mp (refuseUnless_eq_ok.mp noneDenied) fieldKey submitted
  simpa [found] using notDenied

theorem exists_update_of_isOpenTo
    (published : getObjectSchemaWithRelations services.toRelationServices db.toRelationDb
      (effectiveTenant tenantId) entityKey = .ok (some schema))
    (isBuilt : IsRegistryOf services.metadata schema.configObject
      (fieldViewsOf db.fieldRules schema.fields) fieldRegistry)
    (satisfiable : IsSatisfiable services.metadata schema.configObject
      (fieldViewsOf db.fieldRules schema.fields) .update)
    {fieldKey : String} (isOpen : ∀ descriptor,
      descriptorOf fieldRegistry fieldKey = some descriptor →
        SubmitOperation.update.allows descriptor = true) :
    ∃ fieldValues relationBlocks submitted, fieldKey ∈ Record.names fieldValues ∧
      composeRuntimeSubmitPayload services db tenantId entityKey .update fieldValues
        relationBlocks = .ok submitted := by
  have distinct := keysDistinct_of_published published
  have apart := keyedApart_of_registry distinct isBuilt
  have requiredAllowed := (isSatisfiable_iff_of_registry distinct isBuilt).mp satisfiable
  obtain ⟨payload, isPayload⟩ := @accepted_of_allowed fieldRegistry schema.relations .update
    (fieldKey :: requiredKeys fieldRegistry .update) (List.subset_cons_self _ _) (by
      intro name inKeys descriptor found
      rcases List.mem_cons.mp inKeys with rfl | isRequired
      · exact isOpen descriptor found
      · obtain ⟨required, inRegistry, rfl⟩ := List.mem_map.mp isRequired
        obtain ⟨member, requires⟩ := List.mem_filter.mp inRegistry
        rw [descriptorOf_of_mem apart member] at found
        exact Option.some.inj found ▸ requiredAllowed required member requires)
  refine ⟨_, _, _, ?_, (composeRuntimeSubmitPayload_eq_ok published).mpr
    ⟨fieldRegistry, isBuilt, payload, isPayload, rfl⟩⟩
  rw [names_nullsUnder, List.mem_dedup]
  exact List.mem_cons_self

theorem isListed_of_patchesAgree {metadata : FieldMetadata}
    {fieldViews : List ConfigObjectFieldView} {base : List CoreFieldDescriptor}
    (isMade : generateBaseCoreFieldDescriptors metadata schema.configObject.bindingMode
      schema.configObject.objectType = .ok base)
    (agree : PatchesAgree metadata schema.configObject fieldViews entityKey base)
    (satisfiable : IsSatisfiable metadata schema.configObject fieldViews .update)
    (designed : fieldViews.map (fun fieldView => fieldView.field) = schema.fields)
    {fieldKey : String} (isField : IsField base fieldViews fieldKey)
    (isOpen : IsOpenTo metadata schema.configObject base fieldViews .update fieldKey) :
    IsListed metadata schema entityKey fieldKey := by
  have ofDesigners : (∃ fieldView ∈ fieldViews, fieldView.field.fieldKey = fieldKey) →
      fieldKey ∈ schema.fields.map ConfigObjectFieldEntity.fieldKey := by
    rintro ⟨fieldView, member, rfl⟩
    rw [← designed]
    exact List.mem_map_of_mem (List.mem_map_of_mem member)
  unfold IsListed
  split
  · next isColumn => exact agree.columnsWritable satisfiable fieldKey isColumn isField isOpen
  · next notColumn =>
      rcases isField with ⟨row, member, rfl⟩ | isDesigned
      · rcases column_or_sor_of_base isMade member with isColumn | ⟨isMode, noColumns, sor, inSor, same⟩
        · exact absurd isColumn notColumn
        · rw [← same] at isOpen ofDesigners ⊢
          exact ofDesigners (agree.othersDesigned satisfiable isMode noColumns sor inSor isOpen)
      · exact ofDesigners isDesigned

theorem fields_fieldViewsOf (fieldRules : Table ConfigObjectFieldRuleEntity)
    (fields : List ConfigObjectFieldEntity) :
    (fieldViewsOf fieldRules fields).map (fun fieldView => fieldView.field) = fields := by
  unfold fieldViewsOf
  rw [List.map_map]
  exact List.map_id fields

/-- composeRuntimeSubmitPayload and applySorBoundInstancePatch agree on a published object exactly
where its updates and patches do. -/
theorem applySorBoundInstancePatch_persists_iff (services : SubmitServices) (db : SubmitDb)
    (tenantId : Option Nat) (entityKey : String) (schema : RelationSchema)
    (published : getObjectSchemaWithRelations services.toRelationServices db.toRelationDb
      (effectiveTenant tenantId) entityKey = .ok (some schema)) :
    UpdatesPersist services db tenantId entityKey schema ↔
      ∀ base, generateBaseCoreFieldDescriptors services.metadata schema.configObject.bindingMode
          schema.configObject.objectType = .ok base →
        (∀ fieldView ∈ fieldViewsOf db.fieldRules schema.fields, FitsOver base fieldView) →
        PatchesAgree services.metadata schema.configObject
          (fieldViewsOf db.fieldRules schema.fields) entityKey base := by
  have distinct := keysDistinct_of_published published
  constructor
  · intro persist base isMade fits
    have isBuilt : IsRegistryOf services.metadata schema.configObject
        (fieldViewsOf db.fieldRules schema.fields) _ :=
      finalizeCoreFieldDescriptors_eq_ok.mpr ⟨base, isMade,
        (valid_mergedRows_iff (isBase_of_generate isMade) distinct).mpr fits, rfl⟩
    have listed : IsSatisfiable services.metadata schema.configObject
          (fieldViewsOf db.fieldRules schema.fields) .update →
        ∀ fieldKey, IsField base (fieldViewsOf db.fieldRules schema.fields) fieldKey →
          IsOpenTo services.metadata schema.configObject base
            (fieldViewsOf db.fieldRules schema.fields) .update fieldKey →
          IsListed services.metadata schema entityKey fieldKey := by
      intro satisfiable fieldKey isField isOpen
      obtain ⟨fieldValues, relationBlocks, submitted, given, accepted⟩ :=
        exists_update_of_isOpenTo published isBuilt satisfiable fun descriptor found =>
          (allows_iff_isOpenTo distinct isMade isBuilt found).mpr isOpen
      exact persist.listed _ isBuilt fieldValues relationBlocks submitted accepted fieldKey given
        ((isSome_descriptorOf_iff isMade isBuilt).mpr isField)
    refine ⟨?_, ?_, ?_⟩
    · intro fieldKey writable isField
      obtain ⟨descriptor, found⟩ := Option.isSome_iff_exists.mp
        ((isSome_descriptorOf_iff isMade isBuilt).mpr isField)
      by_contra notOpen
      refine persist.denied _ isBuilt [(fieldKey, .null)] fieldKey ?_ writable
      have notAllowed := mt (allows_iff_isOpenTo distinct isMade isBuilt found).mp notOpen
      refine List.mem_filter.mpr ⟨List.mem_singleton.mpr rfl, ?_⟩
      simp [found, notAllowed]
    · intro satisfiable fieldKey isColumn isField isOpen
      exact (if_pos isColumn).mp (listed satisfiable fieldKey isField isOpen)
    · intro satisfiable isMode noColumns sor member isOpen
      have isListed := listed satisfiable sor.fieldKey
        (isField_of_sor isMade isMode noColumns member) isOpen
      have notColumn : ¬IsColumn services.metadata schema.configObject.objectType sor.fieldKey := by
        simp [IsColumn, noColumns]
      rw [IsListed, if_neg notColumn, ← fields_fieldViewsOf db.fieldRules schema.fields,
        List.map_map] at isListed
      exact List.mem_map.mp isListed
  · intro agree
    have listed : ∀ fieldRegistry, IsRegistryOf services.metadata schema.configObject
          (fieldViewsOf db.fieldRules schema.fields) fieldRegistry →
        ∀ fieldValues relationBlocks submitted, composeRuntimeSubmitPayload services db tenantId
          entityKey .update fieldValues relationBlocks = .ok submitted →
        ∀ fieldKey ∈ fieldValues.names, (descriptorOf fieldRegistry fieldKey).isSome = true →
          IsListed services.metadata schema entityKey fieldKey := by
      intro fieldRegistry isBuilt fieldValues relationBlocks submitted accepted fieldKey given known
      obtain ⟨base, isMade, valid, _⟩ := finalizeCoreFieldDescriptors_eq_ok.mp isBuilt
      have fits := (valid_mergedRows_iff (isBase_of_generate isMade) distinct).mp valid
      obtain ⟨registry', isBuilt', payload, isPayload, _⟩ :=
        (composeRuntimeSubmitPayload_eq_ok published).mp accepted
      obtain rfl : fieldRegistry = registry' := Except.ok.inj (isBuilt.symm.trans isBuilt')
      obtain ⟨descriptor, found⟩ := Option.isSome_iff_exists.mp known
      exact isListed_of_patchesAgree isMade (agree base isMade fits)
        (isSatisfiable_of_accepted published accepted) (fields_fieldViewsOf _ _)
        ((isSome_descriptorOf_iff isMade isBuilt).mp known)
        ((allows_iff_isOpenTo distinct isMade isBuilt found).mp
          (allows_of_submitted isPayload given found))
    refine ⟨listed, ?_, ?_⟩
    · intro fieldRegistry isBuilt fieldValues relationBlocks submitted accepted coreId entry member
        given known
      exact splitPayload_keeps coreId member
        (listed fieldRegistry isBuilt fieldValues relationBlocks submitted accepted entry.1 given
          known)
    · intro fieldRegistry isBuilt fieldValues fieldKey isDenied writable
      obtain ⟨base, isMade, valid, _⟩ := finalizeCoreFieldDescriptors_eq_ok.mp isBuilt
      have fits := (valid_mergedRows_iff (isBase_of_generate isMade) distinct).mp valid
      obtain ⟨_, denied⟩ := List.mem_filter.mp isDenied
      obtain ⟨descriptor, found, notAllowed⟩ := (Option.any_eq_true _ _).mp denied
      have isField := (isSome_descriptorOf_iff isMade isBuilt).mp
        (Option.isSome_iff_exists.mpr ⟨descriptor, found⟩)
      have allowed := (allows_iff_isOpenTo distinct isMade isBuilt found).mpr
        ((agree base isMade fits).writableOpen fieldKey writable isField)
      rw [allowed] at notAllowed
      cases notAllowed

end

/-! ## Resources -/

/-- The columns of resources, by property name. -/
def resourceColumns : List EntityColumn :=
  [⟨"createdAt", "Created At", .date, true, false, false⟩,
    ⟨"description", "Description", .textarea, false, false, false⟩,
    ⟨"isShared", "Is Shared", .number, false, false, false⟩,
    ⟨"name", "Name", .text, false, false, false⟩,
    ⟨"resourceId", "Resource Id", .number, false, true, false⟩,
    ⟨"tenantId", "Tenant Id", .number, false, false, false⟩,
    ⟨"tenantUserId", "Tenant User Id", .number, false, false, false⟩,
    ⟨"type", "Type", .select, false, false, false⟩]

/-- The decorators of `CreateResourceDto`. -/
def createResourceDto : List ValidationMetadata :=
  [⟨"name", .other⟩, ⟨"name", .isNotEmpty⟩, ⟨"description", .other⟩, ⟨"description", .isOptional⟩,
    ⟨"tenantUserId", .other⟩, ⟨"tenantUserId", .isOptional⟩, ⟨"type", .other⟩,
    ⟨"type", .isNotEmpty⟩, ⟨"tenantId", .other⟩, ⟨"tenantId", .isNotEmpty⟩, ⟨"isShared", .other⟩,
    ⟨"isShared", .isOptional⟩]

/-- Those of `UpdateResourceDto`, in which every property is optional. -/
def updateResourceDto : List ValidationMetadata :=
  createResourceDto ++ ["name", "description", "tenantUserId", "type", "tenantId", "isShared"].map
    fun name => ⟨name, .isOptional⟩

/-- Resources with their entity and data transfer objects. -/
def resourceServices : SubmitServices :=
  { inspectionServices with
    metadata := { inspectionServices.metadata with
      entityColumns := fun objectType => if objectType = "resource" then resourceColumns else []
      columnsDistinct := fun objectType => by
        split
        · decide
        · exact List.nodup_nil
      dtoPair := fun objectType =>
        if objectType = "resource" then some ⟨some createResourceDto, some updateResourceDto⟩
        else none } }

/-- A tenant field that designers gave to resources. -/
def tenantField : ConfigObjectFieldEntity :=
  { serialNumber with fieldKey := "tenantId", label := "Tenant", isRequired := false }

/-- Tenant 1 has published resources, with a field for the tenant under the rules. -/
def resources (fieldRules : Table ConfigObjectFieldRuleEntity) : SubmitDb :=
  { inspections fieldRules with
    configObjects := .ofRows
      [⟨⟨0, 1, "resource", .published⟩, .sorBound, none, "Resource", none⟩]
    configFields := .ofRows [tenantField]
    fieldKeysDistinct := fun field member other otherMember _ _ => by
      rw [List.mem_singleton.mp member, List.mem_singleton.mp otherMember] }

/-- The schema of resources. -/
def resourceSchema : RelationSchema :=
  { inspectionSchema with
    configObject := ⟨⟨1, 1, "resource", .published⟩, .sorBound, none, "Resource", none⟩
    fields := [{ tenantField with configObjectFieldId := 1 }] }

theorem resources_published (fieldRules : Table ConfigObjectFieldRuleEntity) :
    getObjectSchemaWithRelations resourceServices.toRelationServices
      (resources fieldRules).toRelationDb (some 1) "resource" = .ok (some resourceSchema) := by
  show getObjectSchemaWithRelations _ (resources (.empty _)).toRelationDb _ _ = _
  decide

/-- The base descriptors of resources. -/
def resourceBase : List CoreFieldDescriptor := resourceColumns.zipIdx.map columnDescriptor

theorem generate_resourceBase :
    generateBaseCoreFieldDescriptors resourceServices.metadata .sorBound "resource" =
      .ok resourceBase := by
  have made : generateBaseCoreFieldDescriptorsFromEntityMetadata resourceServices.metadata
      "resource" = .ok resourceBase :=
    (mapM_eq_ok fun _ _ => validateCoreFieldDescriptor_eq_ok).mpr ⟨by decide, rfl⟩
  exact bind_eq_ok.mpr ⟨resourceBase, made, if_pos nofun⟩

/-- The field registry of resources under rules. -/
def resourceRegistry (fieldRules : Table ConfigObjectFieldRuleEntity) : List CoreFieldDescriptor :=
  (mergedRows resourceServices.metadata resourceBase
    (fieldViewsOf fieldRules resourceSchema.fields)).map
      (withWriteCapability resourceServices.metadata .sorBound "resource" fun _ => none)

/-- A rule that makes the tenant of a resource read-only. -/
def readonlyTenant : Table ConfigObjectFieldRuleEntity := .ofRows [⟨0, 1, none, none, true⟩]

/-- Resources whose designer makes their tenant read-only keep every update. -/
theorem updates_of_resources_persist :
    UpdatesPersist resourceServices (resources readonlyTenant) (some 1) "resource"
      resourceSchema := by
  refine (applySorBoundInstancePatch_persists_iff resourceServices (resources readonlyTenant)
    (some 1) "resource" resourceSchema (resources_published _)).mpr ?_
  intro base isMade fits
  obtain rfl : resourceBase = base := Except.ok.inj (generate_resourceBase.symm.trans isMade)
  have distinct : KeysDistinct (fieldViewsOf readonlyTenant resourceSchema.fields) :=
    List.nodup_singleton _
  have isBuilt : IsRegistryOf resourceServices.metadata resourceSchema.configObject
      (fieldViewsOf readonlyTenant resourceSchema.fields) (resourceRegistry readonlyTenant) :=
    finalizeCoreFieldDescriptors_eq_ok.mpr ⟨resourceBase, isMade,
      (valid_mergedRows_iff (isBase_of_generate isMade) distinct).mpr fits, rfl⟩
  have isOpen : ∀ fieldKey, ((descriptorOf (resourceRegistry readonlyTenant) fieldKey).any
      SubmitOperation.update.allows = true ↔ IsField resourceBase
        (fieldViewsOf readonlyTenant resourceSchema.fields) fieldKey ∧
        IsOpenTo resourceServices.metadata resourceSchema.configObject resourceBase
          (fieldViewsOf readonlyTenant resourceSchema.fields) .update fieldKey) := by
    intro fieldKey
    rw [← isSome_descriptorOf_iff isMade isBuilt]
    rcases found : descriptorOf (resourceRegistry readonlyTenant) fieldKey with _ | descriptor
    · simp
    · simpa using allows_iff_isOpenTo distinct isMade isBuilt found
  have writableAllowed : ∀ fieldKey ∈ getWritableSorFieldKeys "resource",
      (descriptorOf (resourceRegistry readonlyTenant) fieldKey).any
        SubmitOperation.update.allows = true := by
    decide
  have allowedWritable : ∀ fieldKey ∈ resourceColumns.map EntityColumn.propertyName,
      (descriptorOf (resourceRegistry readonlyTenant) fieldKey).any
        SubmitOperation.update.allows = true →
      fieldKey ∈ getWritableSorFieldKeys "resource" := by
    decide
  exact ⟨fun fieldKey writable _ => ((isOpen fieldKey).mp (writableAllowed fieldKey writable)).2,
    fun _ fieldKey isColumn isField opened =>
      allowedWritable fieldKey isColumn ((isOpen fieldKey).mpr ⟨isField, opened⟩),
    fun _ _ noColumns => nomatch noColumns⟩

/-- Resources without fields of designers. -/
def undesignedResources : SubmitDb :=
  { resources (.empty _) with
    configFields := .empty _
    fieldKeysDistinct := fun _ member => absurd member List.not_mem_nil }

/-- The schema of resources without fields of designers. -/
def undesignedSchema : RelationSchema := { resourceSchema with fields := [] }

theorem undesignedResources_published :
    getObjectSchemaWithRelations resourceServices.toRelationServices
      undesignedResources.toRelationDb (some 1) "resource" = .ok (some undesignedSchema) := by
  decide

/-- An update of the tenant of a resource is accepted, and the patch of the resource drops it. -/
theorem tenant_of_resource_dropped :
    ¬UpdatesPersist resourceServices undesignedResources (some 1) "resource" undesignedSchema := by
  intro persist
  have accepted : composeRuntimeSubmitPayload resourceServices undesignedResources (some 1)
      "resource" .update [("tenantId", .num 2)] [] =
        .ok ⟨"resource", some 1, .update, [("tenantId", .num 2)]⟩ := by
    decide
  obtain ⟨fieldRegistry, isBuilt, _⟩ :=
    (composeRuntimeSubmitPayload_eq_ok undesignedResources_published).mp accepted
  have known := (isSome_descriptorOf_iff generate_resourceBase isBuilt).mpr
    (.inl ⟨_, List.mem_map_of_mem (List.mem_of_getElem? (i := 5) rfl), rfl⟩)
  have listed := persist.listed fieldRegistry isBuilt _ [] _ accepted "tenantId"
    List.mem_cons_self known
  rw [IsListed, if_pos (by decide)] at listed
  exact absurd listed (by decide)

end CoreApi.ConfigObjects
