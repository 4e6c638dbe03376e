import Mathlib.Data.List.Sort
import CoreApi.ConfigObjects.ObjectSchemas

/-!
# The field registry of a schema

What a schema knows of each field: the columns of the entity of its type, under them
the fields that designers added, and over both what the data transfer objects of the
type let a request write. The metadata of entities and data transfer objects, which
decorators leave behind, is left open, and so is how texts are collated.
-/

namespace CoreApi.ConfigObjects

open CoreApi.Foundation Automation

/-! ## Fields of the system of record -/

/-- `SorFieldPrimitiveType`. -/
inductive FieldPrimitiveType where
  | text | textarea | number | boolean | date | select | json
deriving DecidableEq

/-- `SorFieldDescriptor`. -/
structure SorFieldDescriptor where
  fieldKey : String
  label : String
  fieldType : FieldPrimitiveType
  orderIndex : Int
  readOnly : Bool

/-- `PROJECT_SOR_FIELDS`. -/
def projectSorFields : List SorFieldDescriptor :=
  [⟨"name", "Name", .text, 10, false⟩, ⟨"description", "Description", .textarea, 20, false⟩,
    ⟨"projectIdentifier", "Project identifier", .text, 30, false⟩,
    ⟨"status", "Status", .select, 40, false⟩, ⟨"isShared", "Shared", .boolean, 50, false⟩,
    ⟨"parentProjectId", "Parent project", .number, 60, false⟩,
    ⟨"projectId", "Project ID", .number, 0, true⟩, ⟨"tenantId", "Tenant", .number, 1, true⟩]

/-- `TASK_SOR_FIELDS`. -/
def taskSorFields : List SorFieldDescriptor :=
  [⟨"name", "Name", .text, 10, false⟩, ⟨"description", "Description", .textarea, 20, false⟩,
    ⟨"taskIdentifier", "Task identifier", .text, 30, false⟩,
    ⟨"priority", "Priority", .select, 40, false⟩,
    ⟨"estimatedDuration", "Estimated duration", .number, 50, false⟩,
    ⟨"effortHours", "Effort hours", .number, 60, false⟩,
    ⟨"parentTaskId", "Parent task", .number, 70, false⟩,
    ⟨"statusControl", "Status control", .select, 80, false⟩,
    ⟨"schedulingMode", "Scheduling mode", .select, 90, false⟩,
    ⟨"taskId", "Task ID", .number, 0, true⟩, ⟨"tenantId", "Tenant", .number, 1, true⟩,
    ⟨"projectId", "Project", .number, 2, true⟩]

/-- `CUSTOMER_SOR_FIELDS`. -/
def customerSorFields : List SorFieldDescriptor :=
  [⟨"firstName", "First name", .text, 10, false⟩, ⟨"lastName", "Last name", .text, 20, false⟩,
    ⟨"email", "Email", .text, 30, true⟩,
    ⟨"isProfileCompleted", "Profile completed", .boolean, 40, false⟩,
    ⟨"customerId", "Customer ID", .number, 0, true⟩]

/-- `CUSTOMER_CONTACT_SOR_FIELDS`. -/
def customerContactSorFields : List SorFieldDescriptor :=
  [⟨"secondaryEmail", "Secondary email", .text, 10, false⟩,
    ⟨"phone", "Phone", .text, 20, false⟩, ⟨"address", "Address", .textarea, 30, false⟩,
    ⟨"city", "City", .text, 40, false⟩, ⟨"state", "State", .text, 50, false⟩,
    ⟨"country", "Country", .text, 60, false⟩,
    ⟨"customerContactId", "Contact ID", .number, 0, true⟩,
    ⟨"customerId", "Customer", .number, 1, true⟩]

/-- `RESOURCE_SOR_FIELDS`. -/
def resourceSorFields : List SorFieldDescriptor :=
  [⟨"name", "Name", .text, 10, false⟩, ⟨"description", "Description", .textarea, 20, false⟩,
    ⟨"type", "Type", .select, 30, false⟩, ⟨"tenantUserId", "Tenant user", .number, 40, false⟩,
    ⟨"isShared", "Shared", .boolean, 50, false⟩,
    ⟨"resourceId", "Resource ID", .number, 0, true⟩, ⟨"tenantId", "Tenant", .number, 1, true⟩]

/-- `CUSTOMER_INVITATION_SOR_FIELDS`. -/
def customerInvitationSorFields : List SorFieldDescriptor :=
  [⟨"invitationId", "Invitation ID", .number, 0, true⟩,
    ⟨"projectId", "Project", .number, 10, true⟩, ⟨"taskId", "Task", .number, 20, true⟩,
    ⟨"email", "Email", .text, 30, false⟩, ⟨"token", "Token", .text, 35, true⟩,
    ⟨"status", "Status", .select, 40, false⟩, ⟨"customerRoleId", "Role", .number, 50, false⟩,
    ⟨"invitedBy", "Invited by", .number, 55, true⟩]

/-- `CUSTOMER_PROJECT_MEMBER_SOR_FIELDS`. -/
def customerProjectMemberSorFields : List SorFieldDescriptor :=
  [⟨"customerProjectMemberId", "Membership ID", .number, 0, true⟩,
    ⟨"projectId", "Project", .number, 10, true⟩, ⟨"customerId", "Customer", .number, 20, true⟩,
    ⟨"roleId", "Role", .number, 30, false⟩, ⟨"joinedAt", "Joined at", .date, 40, true⟩]

/-- `CUSTOMER_TASK_MEMBER_SOR_FIELDS`. -/
def customerTaskMemberSorFields : List SorFieldDescriptor :=
  [⟨"customerTaskMemberId", "Membership ID", .number, 0, true⟩,
    ⟨"taskId", "Task", .number, 10, true⟩, ⟨"customerId", "Customer", .number, 20, true⟩,
    ⟨"roleId", "Role", .number, 30, false⟩, ⟨"joinedAt", "Joined at", .date, 40, true⟩]

/-- `byObjectType`. -/
def sorDescriptorsByObjectType : List (String × List SorFieldDescriptor) :=
  [("project", projectSorFields),
    ("task", taskSorFields),
    ("customer", customerSorFields),
    ("customer_contact", customerContactSorFields),
    ("resource", resourceSorFields),
    ("customer_invitation", customerInvitationSorFields),
    ("customer_project_member", customerProjectMemberSorFields),
    ("customer_task_member", customerTaskMemberSorFields)]

/-- `getSorFieldDescriptors`. -/
def sorDescriptorsOf (objectType : String) : List SorFieldDescriptor :=
  (sorDescriptorsByObjectType.lookup objectType).getD []

/-! ## Descriptors -/

/-- `CoreFieldDescriptor`. -/
structure CoreFieldDescriptor where
  fieldKey : String
  label : String
  fieldType : FieldPrimitiveType
  orderIndex : Int
  readOnly : Option Bool := none
  canCreate : Option Bool := none
  canUpdate : Option Bool := none
  requiredOnCreate : Option Bool := none
  requiredOnUpdate : Option Bool := none
  path : Option String := none
  sectionKey : Option String := none
  description : Option String := none
  lookupSelectConfig : Option Json := none
  derivedRuntimeConfig : Option Json := none

/-- The properties that `validateSync` reports. -/
def invalidProperties (descriptor : CoreFieldDescriptor) : List String :=
  let within (most : Nat) (text : String) : Bool := text.length ≤ most
  ([("fieldKey", descriptor.fieldKey != "" && within 100 descriptor.fieldKey),
    ("label", descriptor.label != "" && within 255 descriptor.label),
    ("orderIndex", decide (0 ≤ descriptor.orderIndex)),
    ("path", descriptor.path.all (within 500)),
    ("sectionKey", descriptor.sectionKey.all (within 100)),
    ("description", descriptor.description.all (within 4000))].filter fun rule =>
      rule.2 = false).map Prod.fst

/-- `validateCoreFieldDescriptor`; the error names the properties. -/
def validateCoreFieldDescriptor (descriptor : CoreFieldDescriptor) :
    Except (List String) CoreFieldDescriptor :=
  if invalidProperties descriptor = [] then .ok descriptor
  else .error (invalidProperties descriptor)

theorem validateCoreFieldDescriptor_eq_ok {descriptor out : CoreFieldDescriptor} :
    validateCoreFieldDescriptor descriptor = .ok out ↔
      invalidProperties descriptor = [] ∧ out = descriptor := by
  unfold validateCoreFieldDescriptor
  by_cases valid : invalidProperties descriptor = []
  · rw [if_pos valid, Except.ok.injEq, eq_comm]
    exact (and_iff_right valid).symm
  · rw [if_neg valid]
    exact ⟨nofun, fun isValid => absurd isValid.1 valid⟩

/-! ## The metadata of a type -/

/-- A scalar column of an entity, with the label and the type read off it. -/
structure EntityColumn where
  propertyName : String
  label : String
  fieldType : FieldPrimitiveType
  isDateMode : Bool
  isPrimary : Bool
  isGenerated : Bool

/-- The kinds of validation metadata that matter here. -/
inductive ValidationKind where
  | isOptional | isNotEmpty | isDefined | other
deriving DecidableEq

/-- A decorator on a property of a data transfer object. -/
structure ValidationMetadata where
  propertyName : String
  kind : ValidationKind
deriving DecidableEq

/-- `ObjectTypeDtoPair`, each by its decorators. -/
structure ObjectTypeDtoPair where
  createDto : Option (List ValidationMetadata)
  updateDto : Option (List ValidationMetadata)

/-- What the registry rests on. -/
structure FieldMetadata where
  casing : LowerCasing
  /-- The columns of the entity of a type, by property name; none where no entity is registered. -/
  entityColumns : String → List EntityColumn
  /-- An entity has no two columns for a property. -/
  columnsDistinct : ∀ objectType, ((entityColumns objectType).map EntityColumn.propertyName).Nodup
  /-- `resolveDtoPairForObjectType`. -/
  dtoPair : String → Option ObjectTypeDtoPair
  /-- `localeCompare`, as the order of sections. -/
  sectionLess : String → String → Bool
  /-- `validateLookupSelectAuthoringMetadata`; none where it throws. -/
  lookupSelectConfig : Json → Option Json
  /-- `validateDerivedRuntimeAuthoringMetadata`; none where it throws. -/
  derivedRuntimeConfig : Json → Option Json

/-! ## Base descriptors -/

/-- The descriptor of a field of the system of record. -/
def sorDescriptor (sor : SorFieldDescriptor) : CoreFieldDescriptor where
  fieldKey := sor.fieldKey
  label := sor.label
  fieldType := sor.fieldType
  orderIndex := sor.orderIndex
  readOnly := if sor.readOnly = true then some true else none

/-- `mapSorFieldDescriptorToCore`. -/
def mapSorFieldDescriptorToCore (sor : SorFieldDescriptor) :
    Except (List String) CoreFieldDescriptor :=
  validateCoreFieldDescriptor (sorDescriptor sor)

/-- `generateBaseCoreFieldDescriptorsFromSorRegistry`. -/
def generateBaseCoreFieldDescriptorsFromSorRegistry (objectType : String) :
    Except (List String) (List CoreFieldDescriptor) :=
  ((sorDescriptorsOf objectType).insertionSort fun a b => a.orderIndex ≤ b.orderIndex).mapM
    mapSorFieldDescriptorToCore

/-- The descriptor of a column, with its place among the columns. -/
def columnDescriptor (column : EntityColumn × Nat) : CoreFieldDescriptor where
  fieldKey := column.1.propertyName
  label := column.1.label
  fieldType := column.1.fieldType
  orderIndex := (column.2 + 1) * 10
  readOnly := some (column.1.isDateMode || column.1.isPrimary || column.1.isGenerated)

section

variable (metadata : FieldMetadata)

/-- `generateBaseCoreFieldDescriptorsFromEntityMetadata`. -/
def generateBaseCoreFieldDescriptorsFromEntityMetadata (objectType : String) :
    Except (List String) (List CoreFieldDescriptor) :=
  (metadata.entityColumns objectType).zipIdx.mapM fun column =>
    validateCoreFieldDescriptor (columnDescriptor column)

/-- `generateBaseCoreFieldDescriptors`. -/
def generateBaseCoreFieldDescriptors (bindingMode : ConfigBindingMode) (objectType : String) :
    Except (List String) (List CoreFieldDescriptor) :=
  match bindingMode with
  | .standalone => .ok []
  | .systemTable => generateBaseCoreFieldDescriptorsFromEntityMetadata metadata objectType
  | .sorBound => do
      let entityBased ← generateBaseCoreFieldDescriptorsFromEntityMetadata metadata objectType
      if entityBased ≠ [] then pure entityBased
      else generateBaseCoreFieldDescriptorsFromSorRegistry objectType

/-! ## The fields of designers -/

/-- `config_object_field_rules`, with the columns the registry reads. -/
structure ConfigObjectFieldRuleEntity where
  configObjectFieldRuleId : Nat
  configObjectFieldId : Nat
  lifecycleStateKey : Option String
  roleKey : Option String
  isReadonly : Bool
deriving DecidableEq

instance : Keyed ConfigObjectFieldRuleEntity where
  key := ConfigObjectFieldRuleEntity.configObjectFieldRuleId
  withKey n row := { row with configObjectFieldRuleId := n }
  key_withKey _ _ := rfl

/-- A field with its rules. -/
structure ConfigObjectFieldView where
  field : ConfigObjectFieldEntity
  rules : List ConfigObjectFieldRuleEntity

/-- The primitive type of a name, or of another name for it. -/
def primitiveTypes : List (String × FieldPrimitiveType) :=
  [("text", .text), ("textarea", .textarea), ("number", .number), ("boolean", .boolean),
    ("date", .date), ("select", .select), ("json", .json), ("string", .text),
    ("varchar", .text), ("int", .number), ("integer", .number), ("float", .number),
    ("double", .number), ("bool", .boolean), ("datetime", .date), ("timestamp", .date)]

/-- `normalizeCustomFieldType`. -/
def normalizeCustomFieldType (raw : String) : FieldPrimitiveType :=
  (primitiveTypes.lookup
    (String.ofList (metadata.casing.toLowerCase (Json.trimmed raw)))).getD .text

/-- `isGlobalDefaultRule`. -/
def isGlobalDefaultRule (rule : ConfigObjectFieldRuleEntity) : Bool :=
  rule.lifecycleStateKey.all (· == "") && rule.roleKey.all (· == "")

/-- Some global rule makes the field read-only. -/
def isReadonlyByRule (rules : List ConfigObjectFieldRuleEntity) : Bool :=
  (rules.filter isGlobalDefaultRule).any ConfigObjectFieldRuleEntity.isReadonly

/-- `applyGlobalRulesToDescriptor`. -/
def applyGlobalRulesToDescriptor (descriptor : CoreFieldDescriptor)
    (rules : List ConfigObjectFieldRuleEntity) : CoreFieldDescriptor :=
  if descriptor.readOnly = some true ∨ isReadonlyByRule rules = true then
    { descriptor with readOnly := some true }
  else descriptor

/-- A property of the validation JSON, checked. -/
def runtimeMetadataOf (validate : Json → Option Json) (name : String)
    (validationJson : Option Json) : Option Json :=
  match validationJson with
  | some (.obj fields) => (fields.lookup name).bind validate
  | _ => none

/-- The designer's settings over a descriptor. -/
def designedOver (fieldView : ConfigObjectFieldView) (descriptor : CoreFieldDescriptor) :
    CoreFieldDescriptor :=
  let field := fieldView.field
  { descriptor with
    orderIndex := field.orderIndex
    sectionKey := field.sectionKey
    description := field.description
    lookupSelectConfig := runtimeMetadataOf metadata.lookupSelectConfig
      "_six1LookupSelectAuthoring" field.validationJson <|> descriptor.lookupSelectConfig
    derivedRuntimeConfig := runtimeMetadataOf metadata.derivedRuntimeConfig
      "_six1DerivedRuntimeAuthoring" field.validationJson <|> descriptor.derivedRuntimeConfig
    requiredOnCreate := if field.isRequired = true then some true else descriptor.requiredOnCreate
    requiredOnUpdate :=
      if field.isRequired = true then some true else descriptor.requiredOnUpdate }

/-- A base descriptor under the designer's field of its key. -/
def mergedDescriptor (base : CoreFieldDescriptor) (fieldView : ConfigObjectFieldView) :
    CoreFieldDescriptor :=
  applyGlobalRulesToDescriptor
    (designedOver metadata fieldView { base with
      label := if Json.trimmed fieldView.field.label ≠ [] then fieldView.field.label
        else base.label })
    fieldView.rules

/-- `mergeBaseWithFieldView`. -/
def mergeBaseWithFieldView (base : CoreFieldDescriptor) (fieldView : ConfigObjectFieldView) :
    Except (List String) CoreFieldDescriptor :=
  validateCoreFieldDescriptor (mergedDescriptor metadata base fieldView)

/-- The descriptor of a designer's own field. -/
def customDescriptor (fieldView : ConfigObjectFieldView) : CoreFieldDescriptor :=
  applyGlobalRulesToDescriptor
    (designedOver metadata fieldView
      { fieldKey := fieldView.field.fieldKey
        label := fieldView.field.label
        fieldType := normalizeCustomFieldType metadata fieldView.field.fieldType
        orderIndex := fieldView.field.orderIndex })
    fieldView.rules

/-- `descriptorFromCustomFieldView`. -/
def descriptorFromCustomFieldView (fieldView : ConfigObjectFieldView) :
    Except (List String) CoreFieldDescriptor :=
  validateCoreFieldDescriptor (customDescriptor metadata fieldView)

/-- The order of `sortFieldViewsForAppend`. -/
def appendsBefore (a b : ConfigObjectFieldView) : Bool :=
  let sectionOfA := a.field.sectionKey.getD ""
  let sectionOfB := b.field.sectionKey.getD ""
  if sectionOfA ≠ sectionOfB then metadata.sectionLess sectionOfA sectionOfB
  else a.field.orderIndex ≤ b.field.orderIndex

/-- `sortFieldViewsForAppend`. -/
def sortFieldViewsForAppend (fieldViews : List ConfigObjectFieldView) :
    List ConfigObjectFieldView :=
  fieldViews.insertionSort fun a b => appendsBefore metadata a b = true

/-- The field of a key; of several, the last. -/
def fieldViewOf (fieldViews : List ConfigObjectFieldView) (fieldKey : String) :
    Option ConfigObjectFieldView :=
  fieldViews.reverse.find? fun fieldView => fieldView.field.fieldKey == fieldKey

/-- The fields that designers added to those of the base. -/
def customOnly (base : List CoreFieldDescriptor) (fieldViews : List ConfigObjectFieldView) :
    List ConfigObjectFieldView :=
  fieldViews.filter fun fieldView =>
    !(base.map CoreFieldDescriptor.fieldKey).contains fieldView.field.fieldKey

/-- A base row, under the designer's field of its key. -/
def mergedRow (fieldViews : List ConfigObjectFieldView) (row : CoreFieldDescriptor) :
    Except (List String) CoreFieldDescriptor :=
  match fieldViewOf fieldViews row.fieldKey with
  | some fieldView => mergeBaseWithFieldView metadata row fieldView
  | none => .ok row

/-- `mergeCoreFieldDescriptorsWithFieldViews`. -/
def mergeCoreFieldDescriptorsWithFieldViews (base : List CoreFieldDescriptor)
    (fieldViews : List ConfigObjectFieldView) : Except (List String) (List CoreFieldDescriptor) :=
  do
    let mergedBase ← base.mapM (mergedRow metadata fieldViews)
    let sortedCustom ← (sortFieldViewsForAppend metadata (customOnly base fieldViews)).mapM
      (descriptorFromCustomFieldView metadata)
    pure (mergedBase ++ sortedCustom)

/-- `buildMergedCoreFieldDescriptors`. -/
def buildMergedCoreFieldDescriptors (bindingMode : ConfigBindingMode) (objectType : String)
    (fieldViews : List ConfigObjectFieldView) : Except (List String) (List CoreFieldDescriptor) :=
  do
    let base ← generateBaseCoreFieldDescriptors metadata bindingMode objectType
    mergeCoreFieldDescriptorsWithFieldViews metadata base fieldViews

/-! ## Write capabilities -/

/-- `FieldWriteCapability`. -/
structure FieldWriteCapability where
  canCreate : Option Bool
  canUpdate : Option Bool
  requiredOnCreate : Option Bool
  requiredOnUpdate : Option Bool
deriving DecidableEq

/-- A property that the decorators of a class name. -/
def isValidatedProperty (dto : List ValidationMetadata) (name : String) : Bool :=
  dto.any fun metadata => metadata.propertyName == name

/-- `inferRequiredPropertyNames`. -/
def isRequiredProperty (dto : List ValidationMetadata) (name : String) : Bool :=
  !(dto.any fun metadata => metadata.propertyName == name && metadata.kind == .isOptional) &&
    dto.any fun metadata => metadata.propertyName == name &&
      (metadata.kind == .isNotEmpty || metadata.kind == .isDefined)

/-- `inferDtoCapabilityOverridesForObjectType`. -/
def inferDtoCapabilityOverridesForObjectType (objectType fieldKey : String) :
    Option FieldWriteCapability :=
  (metadata.dtoPair objectType).bind fun pair =>
    let createDto := pair.createDto.getD []
    let updateDto := pair.updateDto.getD []
    if isValidatedProperty createDto fieldKey = true ∨
        isValidatedProperty updateDto fieldKey = true then
      some
        { canCreate := some (isValidatedProperty createDto fieldKey)
          canUpdate := some (isValidatedProperty updateDto fieldKey)
          requiredOnCreate := some (isRequiredProperty createDto fieldKey)
          requiredOnUpdate := some (isRequiredProperty updateDto fieldKey) }
    else none

/-- `inferWriteCapabilityForDescriptor`, which answers the same for both operations. -/
def inferWriteCapabilityForDescriptor (bindingMode : ConfigBindingMode) (objectType : String)
    (descriptor : CoreFieldDescriptor) (isCustomOnly : Bool) : Bool :=
  if descriptor.readOnly = some true then false
  else
    match bindingMode with
    | .systemTable | .standalone => true
    | .sorBound =>
        if isCustomOnly = true then true
        else
          !((sorDescriptorsOf objectType).find? fun sor =>
            sor.fieldKey == descriptor.fieldKey).any SorFieldDescriptor.readOnly

/-- What is written over the inferred capabilities. -/
def capabilityOverride (overrides : String → Option FieldWriteCapability) (objectType : String)
    (fieldKey : String) : FieldWriteCapability :=
  let dto := inferDtoCapabilityOverridesForObjectType metadata objectType fieldKey
  let given := overrides fieldKey
  { canCreate := given.bind FieldWriteCapability.canCreate <|>
      dto.bind FieldWriteCapability.canCreate
    canUpdate := given.bind FieldWriteCapability.canUpdate <|>
      dto.bind FieldWriteCapability.canUpdate
    requiredOnCreate := given.bind FieldWriteCapability.requiredOnCreate <|>
      dto.bind FieldWriteCapability.requiredOnCreate
    requiredOnUpdate := given.bind FieldWriteCapability.requiredOnUpdate <|>
      dto.bind FieldWriteCapability.requiredOnUpdate }

/-- A descriptor with its write capabilities. -/
def withWriteCapability (bindingMode : ConfigBindingMode) (objectType : String)
    (overrides : String → Option FieldWriteCapability) (descriptor : CoreFieldDescriptor) :
    CoreFieldDescriptor :=
  let isCustomOnly := bindingMode == .sorBound &&
    !((sorDescriptorsOf objectType).map SorFieldDescriptor.fieldKey).contains descriptor.fieldKey
  let inferred := inferWriteCapabilityForDescriptor bindingMode objectType descriptor isCustomOnly
  let override := capabilityOverride metadata overrides objectType descriptor.fieldKey
  { descriptor with
    canCreate := some (if descriptor.readOnly = some true then false
      else override.canCreate.getD inferred)
    canUpdate := some (if descriptor.readOnly = some true then false
      else override.canUpdate.getD inferred)
    requiredOnCreate := override.requiredOnCreate <|> descriptor.requiredOnCreate
    requiredOnUpdate := override.requiredOnUpdate <|> descriptor.requiredOnUpdate }

/-- `mergeWriteSchemaCapabilities`. -/
def mergeWriteSchemaCapabilities (bindingMode : ConfigBindingMode) (objectType : String)
    (overrides : String → Option FieldWriteCapability) (descriptors : List CoreFieldDescriptor) :
    Except (List String) (List CoreFieldDescriptor) :=
  descriptors.mapM fun descriptor =>
    validateCoreFieldDescriptor
      (withWriteCapability metadata bindingMode objectType overrides descriptor)

/-- `finalizeCoreFieldDescriptors`, which schemas call without overrides. -/
def finalizeCoreFieldDescriptors (bindingMode : ConfigBindingMode) (objectType : String)
    (fieldViews : List ConfigObjectFieldView) : Except (List String) (List CoreFieldDescriptor) :=
  do
    let merged ← buildMergedCoreFieldDescriptors metadata bindingMode objectType fieldViews
    mergeWriteSchemaCapabilities metadata bindingMode objectType (fun _ => none) merged

end

/-- The fields with their rules. -/
def fieldViewsOf (fieldRules : Table ConfigObjectFieldRuleEntity)
    (fields : List ConfigObjectFieldEntity) : List ConfigObjectFieldView :=
  fields.map fun field =>
    ⟨field, fieldRules.select fun rule => rule.configObjectFieldId == field.configObjectFieldId⟩

/-- The field registry of a schema. -/
def fieldRegistryOf (metadata : FieldMetadata) (fieldRules : Table ConfigObjectFieldRuleEntity)
    (schema : ObjectSchema) : Except (List String) (List CoreFieldDescriptor) :=
  finalizeCoreFieldDescriptors metadata schema.configObject.bindingMode
    schema.configObject.objectType (fieldViewsOf fieldRules schema.fields)

/-- The descriptor that a registry has under a key; of several, the last. -/
def descriptorOf (fieldRegistry : List CoreFieldDescriptor) (fieldKey : String) :
    Option CoreFieldDescriptor :=
  fieldRegistry.reverse.find? fun descriptor => descriptor.fieldKey == fieldKey

/-! ## What a registry holds -/

section

variable {metadata : FieldMetadata} {bindingMode : ConfigBindingMode} {objectType : String}
  {fieldViews : List ConfigObjectFieldView} {base fieldRegistry : List CoreFieldDescriptor}

/-- A base row as `mergedRow` leaves it, where it is valid. -/
def rowOver (metadata : FieldMetadata) (fieldViews : List ConfigObjectFieldView)
    (row : CoreFieldDescriptor) : CoreFieldDescriptor :=
  match fieldViewOf fieldViews row.fieldKey with
  | some fieldView => mergedDescriptor metadata row fieldView
  | none => row

/-- The rows of a registry, before their write capabilities. -/
def mergedRows (metadata : FieldMetadata) (base : List CoreFieldDescriptor)
    (fieldViews : List ConfigObjectFieldView) : List CoreFieldDescriptor :=
  base.map (rowOver metadata fieldViews) ++
    (sortFieldViewsForAppend metadata (customOnly base fieldViews)).map (customDescriptor metadata)

theorem mergedRow_eq_ok (row out : CoreFieldDescriptor) :
    mergedRow metadata fieldViews row = .ok out ↔
      ((fieldViewOf fieldViews row.fieldKey).isSome = true →
        invalidProperties (rowOver metadata fieldViews row) = []) ∧
      out = rowOver metadata fieldViews row := by
  unfold mergedRow rowOver
  rcases fieldViewOf fieldViews row.fieldKey with _ | fieldView
  · exact ⟨fun isRow => ⟨nofun, (Except.ok.inj isRow).symm⟩, fun isRow => isRow.2 ▸ rfl⟩
  · simpa [mergeBaseWithFieldView] using validateCoreFieldDescriptor_eq_ok

/-- What capabilities are added to is as valid as before. -/
theorem invalidProperties_withWriteCapability (overrides : String → Option FieldWriteCapability)
    (descriptor : CoreFieldDescriptor) :
    invalidProperties (withWriteCapability metadata bindingMode objectType overrides descriptor) =
      invalidProperties descriptor := rfl

/-- A registry is built where each of its rows is valid, and holds these. -/
theorem finalizeCoreFieldDescriptors_eq_ok :
    finalizeCoreFieldDescriptors metadata bindingMode objectType fieldViews = .ok fieldRegistry ↔
      ∃ base, generateBaseCoreFieldDescriptors metadata bindingMode objectType = .ok base ∧
        (∀ row ∈ mergedRows metadata base fieldViews, invalidProperties row = []) ∧
        fieldRegistry = (mergedRows metadata base fieldViews).map
          (withWriteCapability metadata bindingMode objectType fun _ => none) := by
  have capable (rows : List CoreFieldDescriptor) :
      mergeWriteSchemaCapabilities metadata bindingMode objectType (fun _ => none) rows =
          .ok fieldRegistry ↔
        (∀ row ∈ rows, invalidProperties row = []) ∧ fieldRegistry = rows.map
          (withWriteCapability metadata bindingMode objectType fun _ => none) :=
    mapM_eq_ok fun row out => by
      rw [validateCoreFieldDescriptor_eq_ok, invalidProperties_withWriteCapability]
  constructor
  · intro isBuilt
    obtain ⟨merged, isMerged, isBuilt⟩ := bind_eq_ok.mp isBuilt
    obtain ⟨base, isBase, isMerged⟩ := bind_eq_ok.mp isMerged
    obtain ⟨_, isRows, isMerged⟩ := bind_eq_ok.mp isMerged
    obtain ⟨_, isCustom, isMerged⟩ := bind_eq_ok.mp isMerged
    obtain ⟨_, rfl⟩ := (mapM_eq_ok mergedRow_eq_ok).mp isRows
    obtain ⟨_, rfl⟩ := (mapM_eq_ok fun _ _ => validateCoreFieldDescriptor_eq_ok).mp isCustom
    cases isMerged
    exact ⟨base, isBase, (capable _).mp isBuilt⟩
  · rintro ⟨base, isBase, valid, rfl⟩
    obtain ⟨rowsValid, customValid⟩ := List.forall_mem_append.mp valid
    have rows := (mapM_eq_ok (@mergedRow_eq_ok metadata fieldViews)).mpr
      ⟨fun row member _ => rowsValid _ (List.mem_map_of_mem member), rfl⟩
    have custom := (mapM_eq_ok fun fieldView out =>
      @validateCoreFieldDescriptor_eq_ok (customDescriptor metadata fieldView) out).mpr
        ⟨fun fieldView member => customValid _ (List.mem_map_of_mem member), rfl⟩
    refine bind_eq_ok.mpr ⟨mergedRows metadata base fieldViews, ?_, (capable _).mpr ⟨valid, rfl⟩⟩
    refine bind_eq_ok.mpr ⟨base, isBase, ?_⟩
    exact bind_eq_ok.mpr ⟨_, rows, bind_eq_ok.mpr ⟨_, custom, rfl⟩⟩

/-! ### Keys -/

theorem sorDescriptorsByObjectType_distinct : ∀ entry ∈ sorDescriptorsByObjectType,
    (entry.2.map SorFieldDescriptor.fieldKey).Nodup := by
  decide

/-- The fields that the system of record has for a type differ in their keys. -/
theorem sorDescriptorsOf_distinct (objectType : String) :
    ((sorDescriptorsOf objectType).map SorFieldDescriptor.fieldKey).Nodup := by
  unfold sorDescriptorsOf
  rcases found : sorDescriptorsByObjectType.lookup objectType with _ | descriptors
  · exact List.nodup_nil
  · exact sorDescriptorsByObjectType_distinct _ (mem_of_lookup found)

/-- What base descriptors have in common: they are valid, require nothing, and differ in their
keys. -/
structure IsBase (base : List CoreFieldDescriptor) : Prop where
  valid : ∀ row ∈ base, invalidProperties row = []
  requiresNothing : ∀ row ∈ base, row.requiredOnCreate = none ∧ row.requiredOnUpdate = none
  distinct : (base.map CoreFieldDescriptor.fieldKey).Nodup

theorem fieldKeys_of_entityMetadata
    (isMade : generateBaseCoreFieldDescriptorsFromEntityMetadata metadata objectType = .ok base) :
    base.map CoreFieldDescriptor.fieldKey =
      (metadata.entityColumns objectType).map EntityColumn.propertyName := by
  obtain ⟨_, rfl⟩ := (mapM_eq_ok fun _ _ => validateCoreFieldDescriptor_eq_ok).mp isMade
  conv_rhs => rw [← List.zipIdx_map_fst 0 (metadata.entityColumns objectType)]
  rw [List.map_map, List.map_map]
  rfl

theorem isBase_of_entityMetadata
    (isMade : generateBaseCoreFieldDescriptorsFromEntityMetadata metadata objectType = .ok base) :
    IsBase base := by
  have keys := fieldKeys_of_entityMetadata isMade
  obtain ⟨valid, rfl⟩ := (mapM_eq_ok fun _ _ => validateCoreFieldDescriptor_eq_ok).mp isMade
  refine ⟨List.forall_mem_map.mpr valid, List.forall_mem_map.mpr fun _ _ => ⟨rfl, rfl⟩, ?_⟩
  exact keys ▸ metadata.columnsDistinct objectType

theorem isBase_of_sorRegistry
    (isMade : generateBaseCoreFieldDescriptorsFromSorRegistry objectType = .ok base) :
    IsBase base := by
  obtain ⟨valid, rfl⟩ := (mapM_eq_ok fun _ _ => validateCoreFieldDescriptor_eq_ok).mp isMade
  refine ⟨List.forall_mem_map.mpr valid, List.forall_mem_map.mpr fun _ _ => ⟨rfl, rfl⟩, ?_⟩
  rw [List.map_map]
  exact (((List.perm_insertionSort _ _).map _).nodup_iff).mpr (sorDescriptorsOf_distinct objectType)

theorem isBase_of_generate
    (isMade : generateBaseCoreFieldDescriptors metadata bindingMode objectType = .ok base) :
    IsBase base := by
  cases bindingMode with
  | standalone =>
      obtain rfl : [] = base := Except.ok.inj isMade
      exact ⟨List.forall_mem_nil _, List.forall_mem_nil _, List.nodup_nil⟩
  | systemTable => exact isBase_of_entityMetadata isMade
  | sorBound =>
      obtain ⟨entityBased, isEntityBased, isMade⟩ := bind_eq_ok.mp isMade
      split at isMade
      · cases isMade
        exact isBase_of_entityMetadata isEntityBased
      · exact isBase_of_sorRegistry isMade

@[simp] theorem fieldKey_applyGlobalRulesToDescriptor (descriptor : CoreFieldDescriptor)
    (rules : List ConfigObjectFieldRuleEntity) :
    (applyGlobalRulesToDescriptor descriptor rules).fieldKey = descriptor.fieldKey := by
  unfold applyGlobalRulesToDescriptor
  split <;> rfl

@[simp] theorem fieldKey_mergedDescriptor (row : CoreFieldDescriptor)
    (fieldView : ConfigObjectFieldView) :
    (mergedDescriptor metadata row fieldView).fieldKey = row.fieldKey :=
  fieldKey_applyGlobalRulesToDescriptor _ _

@[simp] theorem fieldKey_customDescriptor (fieldView : ConfigObjectFieldView) :
    (customDescriptor metadata fieldView).fieldKey = fieldView.field.fieldKey :=
  fieldKey_applyGlobalRulesToDescriptor _ _

@[simp] theorem fieldKey_rowOver (row : CoreFieldDescriptor) :
    (rowOver metadata fieldViews row).fieldKey = row.fieldKey := by
  unfold rowOver
  split
  · exact fieldKey_mergedDescriptor row _
  · rfl

/-- The fields of designers, each under a key of its own. -/
def KeysDistinct (fieldViews : List ConfigObjectFieldView) : Prop :=
  (fieldViews.map fun fieldView => fieldView.field.fieldKey).Nodup

theorem fieldViewOf_eq_some (distinct : KeysDistinct fieldViews) {fieldKey : String}
    {fieldView : ConfigObjectFieldView} :
    fieldViewOf fieldViews fieldKey = some fieldView ↔
      fieldView ∈ fieldViews ∧ fieldView.field.fieldKey = fieldKey := by
  constructor
  · intro found
    exact ⟨List.mem_reverse.mp (List.mem_of_find?_eq_some found),
      beq_iff_eq.mp (List.find?_some (p := fun fieldView : ConfigObjectFieldView =>
        fieldView.field.fieldKey == fieldKey) found)⟩
  · rintro ⟨member, rfl⟩
    rcases found : fieldViewOf fieldViews fieldView.field.fieldKey with _ | other
    · have missed := List.find?_eq_none.mp found _ (List.mem_reverse.mpr member)
      exact absurd (beq_self_eq_true fieldView.field.fieldKey) missed
    · have same := beq_iff_eq.mp (List.find?_some (p := fun fieldView' : ConfigObjectFieldView =>
        fieldView'.field.fieldKey == fieldView.field.fieldKey) found)
      have others := List.mem_reverse.mp (List.mem_of_find?_eq_some found)
      exact congrArg some (List.inj_on_of_nodup_map distinct others member same)

theorem fieldViewOf_eq_none {fieldKey : String} :
    fieldViewOf fieldViews fieldKey = none ↔
      ∀ fieldView ∈ fieldViews, fieldView.field.fieldKey ≠ fieldKey := by
  simp [fieldViewOf]

theorem mem_customOnly {fieldView : ConfigObjectFieldView} :
    fieldView ∈ customOnly base fieldViews ↔ fieldView ∈ fieldViews ∧
      fieldView.field.fieldKey ∉ base.map CoreFieldDescriptor.fieldKey := by
  simp [customOnly]

/-- The rows of a registry are those of the base, and one for each field that designers added. -/
theorem mem_mergedRows {row : CoreFieldDescriptor} :
    row ∈ mergedRows metadata base fieldViews ↔
      (∃ baseRow ∈ base, rowOver metadata fieldViews baseRow = row) ∨
      ∃ fieldView ∈ customOnly base fieldViews, customDescriptor metadata fieldView = row := by
  simp [mergedRows, sortFieldViewsForAppend]

/-- The rows of a registry differ in their keys. -/
theorem distinct_mergedRows (distinctBase : (base.map CoreFieldDescriptor.fieldKey).Nodup)
    (distinct : KeysDistinct fieldViews) :
    ((mergedRows metadata base fieldViews).map CoreFieldDescriptor.fieldKey).Nodup := by
  have baseKeys : (base.map (rowOver metadata fieldViews)).map CoreFieldDescriptor.fieldKey =
      base.map CoreFieldDescriptor.fieldKey := by
    rw [List.map_map]
    exact List.map_congr_left fun row _ => fieldKey_rowOver row
  have customKeys : ((customOnly base fieldViews).map fun fieldView =>
      fieldView.field.fieldKey).Nodup :=
    List.Nodup.sublist (List.filter_sublist.map _) distinct
  have keptKeys : CoreFieldDescriptor.fieldKey ∘ customDescriptor metadata =
      fun fieldView => fieldView.field.fieldKey :=
    funext fun fieldView => fieldKey_customDescriptor fieldView
  rw [mergedRows, List.map_append, baseKeys, List.map_map, keptKeys]
  refine List.Nodup.append distinctBase ?_ ?_
  · exact ((List.perm_insertionSort _ _).map _).nodup_iff.mpr customKeys
  · intro fieldKey inBase inCustom
    obtain ⟨fieldView, member, rfl⟩ := List.mem_map.mp inCustom
    have added := (mem_customOnly.mp ((List.mem_insertionSort _).mp member)).2
    exact added (by simpa using inBase)

end

end CoreApi.ConfigObjects
