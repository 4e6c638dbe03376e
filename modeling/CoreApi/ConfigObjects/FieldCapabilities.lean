import CoreApi.ConfigObjects.SubmitPayload

/-!
# Capabilities of fields

What a request has to give and what it may not write come from the columns of the entity
of a type, from designers and their rules, and from the data transfer objects of the
type. Here each is stated apart from the registry, and the registry is shown to join them.
-/

namespace CoreApi.ConfigObjects

open CoreApi.Foundation Automation ObjectDesign

/-! ## Where fields are required and where they are kept from requests -/

/-- What the data transfer objects say of the operation: that it has to give the field. -/
def SubmitOperation.requiredBy (operation : SubmitOperation) (capability : FieldWriteCapability) :
    Option Bool :=
  match operation with
  | .create => capability.requiredOnCreate
  | .update => capability.requiredOnUpdate

/-- What the data transfer objects say of the operation: that it may write the field. -/
def SubmitOperation.writableBy (operation : SubmitOperation) (capability : FieldWriteCapability) :
    Option Bool :=
  match operation with
  | .create => capability.canCreate
  | .update => capability.canUpdate

section

variable {metadata : FieldMetadata} {bindingMode : ConfigBindingMode} {objectType : String}
  {base : List CoreFieldDescriptor} {fieldViews : List ConfigObjectFieldView}
  {operation : SubmitOperation}

/-- The column of a field, or a rule of its designer, makes it read-only. -/
def IsReadOnly (base : List CoreFieldDescriptor) (fieldViews : List ConfigObjectFieldView)
    (fieldKey : String) : Prop :=
  (∃ row ∈ base, row.fieldKey = fieldKey ∧ row.readOnly = some true) ∨
    ∃ fieldView ∈ fieldViews, fieldView.field.fieldKey = fieldKey ∧
      isReadonlyByRule fieldView.rules = true

/-- The designer of a field requires it. -/
def IsRequiredByDesigner (fieldViews : List ConfigObjectFieldView) (fieldKey : String) : Prop :=
  ∃ fieldView ∈ fieldViews, fieldView.field.fieldKey = fieldKey ∧ fieldView.field.isRequired = true

/-- The system of record of a type has the field for reading only. -/
def IsKeptBySystemOfRecord (bindingMode : ConfigBindingMode) (objectType fieldKey : String) :
    Prop :=
  bindingMode = .sorBound ∧ ∃ sor ∈ sorDescriptorsOf objectType, sor.fieldKey = fieldKey ∧
    sor.readOnly = true

theorem readOnly_applyGlobalRulesToDescriptor (descriptor : CoreFieldDescriptor)
    (rules : List ConfigObjectFieldRuleEntity) :
    (applyGlobalRulesToDescriptor descriptor rules).readOnly = some true ↔
      descriptor.readOnly = some true ∨ isReadonlyByRule rules = true := by
  unfold applyGlobalRulesToDescriptor
  split
  · next readOnly => exact iff_of_true rfl readOnly
  · next notReadOnly =>
      exact iff_of_false (fun isReadOnly => notReadOnly (.inl isReadOnly)) notReadOnly

theorem requires_applyGlobalRulesToDescriptor (descriptor : CoreFieldDescriptor)
    (rules : List ConfigObjectFieldRuleEntity) :
    operation.requires (applyGlobalRulesToDescriptor descriptor rules) =
      operation.requires descriptor := by
  unfold applyGlobalRulesToDescriptor
  split <;> cases operation <;> rfl

theorem requires_designedOver (fieldView : ConfigObjectFieldView)
    (descriptor : CoreFieldDescriptor) :
    operation.requires (designedOver metadata fieldView descriptor) =
      (fieldView.field.isRequired || operation.requires descriptor) := by
  by_cases required : fieldView.field.isRequired = true <;> cases operation <;>
    simp [designedOver, SubmitOperation.requires, required]

theorem requires_of_base (isBase : IsBase base) {row : CoreFieldDescriptor} (member : row ∈ base) :
    operation.requires row = false := by
  obtain ⟨onCreate, onUpdate⟩ := isBase.requiresNothing row member
  cases operation <;> simp [SubmitOperation.requires, onCreate, onUpdate]

theorem readOnly_mergedDescriptor (row : CoreFieldDescriptor)
    (fieldView : ConfigObjectFieldView) :
    (mergedDescriptor metadata row fieldView).readOnly = some true ↔
      row.readOnly = some true ∨ isReadonlyByRule fieldView.rules = true :=
  readOnly_applyGlobalRulesToDescriptor _ _

theorem requires_mergedDescriptor (row : CoreFieldDescriptor)
    (fieldView : ConfigObjectFieldView) :
    operation.requires (mergedDescriptor metadata row fieldView) =
      (fieldView.field.isRequired || operation.requires row) := by
  unfold mergedDescriptor
  rw [requires_applyGlobalRulesToDescriptor, requires_designedOver]
  cases operation <;> rfl

theorem readOnly_customDescriptor (fieldView : ConfigObjectFieldView) :
    (customDescriptor metadata fieldView).readOnly = some true ↔
      isReadonlyByRule fieldView.rules = true := by
  unfold customDescriptor
  rw [readOnly_applyGlobalRulesToDescriptor]
  exact or_iff_right nofun

theorem requires_customDescriptor (fieldView : ConfigObjectFieldView) :
    operation.requires (customDescriptor metadata fieldView) = fieldView.field.isRequired := by
  unfold customDescriptor
  rw [requires_applyGlobalRulesToDescriptor, requires_designedOver]
  cases operation <;> simp [SubmitOperation.requires]

theorem mergedRows_spec (isBase : IsBase base) (distinct : KeysDistinct fieldViews)
    {row : CoreFieldDescriptor} (member : row ∈ mergedRows metadata base fieldViews) :
    (row.readOnly = some true ↔ IsReadOnly base fieldViews row.fieldKey) ∧
      (operation.requires row = true ↔ IsRequiredByDesigner fieldViews row.fieldKey) := by
  have sameView : ∀ fieldView ∈ fieldViews, ∀ other ∈ fieldViews,
      other.field.fieldKey = fieldView.field.fieldKey → other = fieldView :=
    fun fieldView member other otherMember same =>
      List.inj_on_of_nodup_map distinct otherMember member same
  rcases mem_mergedRows.mp member with ⟨baseRow, inBase, rfl⟩ | ⟨fieldView, added, rfl⟩
  · have sameRow : ∀ other ∈ base, other.fieldKey = baseRow.fieldKey → other = baseRow :=
      fun other otherMember same => List.inj_on_of_nodup_map isBase.distinct otherMember inBase same
    rw [fieldKey_rowOver]
    unfold rowOver IsReadOnly IsRequiredByDesigner
    rcases found : fieldViewOf fieldViews baseRow.fieldKey with _ | fieldView
    · have noView := fieldViewOf_eq_none.mp found
      refine ⟨⟨fun readOnly => .inl ⟨baseRow, inBase, rfl, readOnly⟩, ?_⟩, ?_⟩
      · rintro (⟨other, otherMember, same, readOnly⟩ | ⟨other, otherMember, same, _⟩)
        · exact sameRow other otherMember same ▸ readOnly
        · exact absurd same (noView other otherMember)
      · refine iff_of_false (by simp [requires_of_base isBase inBase]) ?_
        rintro ⟨other, otherMember, same, _⟩
        exact noView other otherMember same
    · obtain ⟨viewMember, sameKey⟩ := (fieldViewOf_eq_some distinct).mp found
      dsimp only
      rw [readOnly_mergedDescriptor, requires_mergedDescriptor, requires_of_base isBase inBase,
        Bool.or_false]
      refine ⟨⟨?_, ?_⟩, ⟨fun required => ⟨fieldView, viewMember, sameKey, required⟩, ?_⟩⟩
      · rintro (readOnly | byRule)
        · exact .inl ⟨baseRow, inBase, rfl, readOnly⟩
        · exact .inr ⟨fieldView, viewMember, sameKey, byRule⟩
      · rintro (⟨other, otherMember, same, readOnly⟩ | ⟨other, otherMember, same, byRule⟩)
        · exact .inl (sameRow other otherMember same ▸ readOnly)
        · exact .inr (sameView fieldView viewMember other otherMember (same.trans sameKey.symm) ▸
            byRule)
      · rintro ⟨other, otherMember, same, required⟩
        exact sameView fieldView viewMember other otherMember (same.trans sameKey.symm) ▸ required
  · obtain ⟨viewMember, notBase⟩ := mem_customOnly.mp added
    rw [fieldKey_customDescriptor, readOnly_customDescriptor, requires_customDescriptor]
    refine ⟨⟨fun byRule => .inr ⟨fieldView, viewMember, rfl, byRule⟩, ?_⟩,
      ⟨fun required => ⟨fieldView, viewMember, rfl, required⟩, ?_⟩⟩
    · rintro (⟨other, otherMember, same, _⟩ | ⟨other, otherMember, same, byRule⟩)
      · exact absurd (List.mem_map.mpr ⟨other, otherMember, same⟩) notBase
      · exact sameView fieldView viewMember other otherMember same ▸ byRule
    · rintro ⟨other, otherMember, same, required⟩
      exact sameView fieldView viewMember other otherMember same ▸ required

/-- What the data transfer objects say of a field is definite, and what they require they let
requests write. -/
theorem dtoCapability_spec {fieldKey : String} {capability : FieldWriteCapability}
    (found : inferDtoCapabilityOverridesForObjectType metadata objectType fieldKey =
      some capability) :
    ∃ required writable, operation.requiredBy capability = some required ∧
      operation.writableBy capability = some writable ∧ (required = true → writable = true) := by
  have validated (dto : List ValidationMetadata) (required : isRequiredProperty dto fieldKey = true) :
      isValidatedProperty dto fieldKey = true := by
    obtain ⟨_, someRequires⟩ := Bool.and_eq_true_iff.mp required
    obtain ⟨decorator, member, isRequired⟩ := List.any_eq_true.mp someRequires
    exact List.any_eq_true.mpr ⟨decorator, member, (Bool.and_eq_true_iff.mp isRequired).1⟩
  obtain ⟨pair, _, found⟩ := Option.bind_eq_some_iff.mp found
  dsimp only at found
  split at found
  · cases found
    cases operation with
    | create => exact ⟨_, _, rfl, rfl, validated _⟩
    | update => exact ⟨_, _, rfl, rfl, validated _⟩
  · cases found

theorem keptBySystemOfRecord_iff {fieldKey : String} :
    (∃ sor ∈ sorDescriptorsOf objectType, sor.fieldKey = fieldKey ∧ sor.readOnly = true) ↔
      ((sorDescriptorsOf objectType).find? fun sor => sor.fieldKey == fieldKey).any
        SorFieldDescriptor.readOnly = true := by
  constructor
  · rintro ⟨sor, member, rfl, readOnly⟩
    rcases found : (sorDescriptorsOf objectType).find? fun other =>
      other.fieldKey == sor.fieldKey with _ | other
    · exact absurd (beq_self_eq_true sor.fieldKey) (List.find?_eq_none.mp found sor member)
    · have same := beq_iff_eq.mp (List.find?_some (p := fun other : SorFieldDescriptor =>
        other.fieldKey == sor.fieldKey) found)
      have isSor := List.inj_on_of_nodup_map (sorDescriptorsOf_distinct objectType)
        (List.mem_of_find?_eq_some found) member same
      rw [found, isSor]
      exact readOnly
  · intro readOnly
    rcases found : (sorDescriptorsOf objectType).find? fun sor =>
      sor.fieldKey == fieldKey with _ | sor
    · rw [found] at readOnly
      cases readOnly
    · rw [found] at readOnly
      exact ⟨sor, List.mem_of_find?_eq_some found,
        beq_iff_eq.mp (List.find?_some (p := fun sor : SorFieldDescriptor =>
          sor.fieldKey == fieldKey) found), readOnly⟩

/-- Capabilities are inferred for what nothing keeps from requests. -/
theorem inferWriteCapability_iff {row : CoreFieldDescriptor} :
    inferWriteCapabilityForDescriptor bindingMode objectType row
        (bindingMode == .sorBound &&
          !((sorDescriptorsOf objectType).map SorFieldDescriptor.fieldKey).contains row.fieldKey) =
      true ↔
      row.readOnly ≠ some true ∧ ¬IsKeptBySystemOfRecord bindingMode objectType row.fieldKey := by
  unfold inferWriteCapabilityForDescriptor IsKeptBySystemOfRecord
  by_cases readOnly : row.readOnly = some true
  · rw [if_pos readOnly]
    exact iff_of_false nofun fun isFree => isFree.1 readOnly
  rw [if_neg readOnly, and_iff_right readOnly, keptBySystemOfRecord_iff]
  cases bindingMode with
  | standalone => exact iff_of_true rfl fun isKept => nomatch isKept.1
  | systemTable => exact iff_of_true rfl fun isKept => nomatch isKept.1
  | sorBound =>
      by_cases known : ((sorDescriptorsOf objectType).map SorFieldDescriptor.fieldKey).contains
          row.fieldKey = true
      · rw [known]
        simp
      · have unknown : (sorDescriptorsOf objectType).find? (fun sor =>
            sor.fieldKey == row.fieldKey) = none := by
          simpa using known
        simp [unknown]

/-- What an operation has to give: what its data transfer objects require; where these do not know
the field, what its designer requires. -/
def IsRequired (metadata : FieldMetadata) (objectType : String)
    (fieldViews : List ConfigObjectFieldView) (operation : SubmitOperation) (fieldKey : String) :
    Prop :=
  match inferDtoCapabilityOverridesForObjectType metadata objectType fieldKey with
  | some capability => operation.requiredBy capability = some true
  | none => IsRequiredByDesigner fieldViews fieldKey

/-- What is kept from requests: what is read-only; where the data transfer objects do not know the
field, what the system of record has for reading only. -/
def IsKeptFromRequests (metadata : FieldMetadata) (bindingMode : ConfigBindingMode)
    (objectType : String) (base : List CoreFieldDescriptor)
    (fieldViews : List ConfigObjectFieldView) (fieldKey : String) : Prop :=
  IsReadOnly base fieldViews fieldKey ∨
    inferDtoCapabilityOverridesForObjectType metadata objectType fieldKey = none ∧
      IsKeptBySystemOfRecord bindingMode objectType fieldKey

/-- The field is one of the base, or one of the designers'. -/
def IsField (base : List CoreFieldDescriptor) (fieldViews : List ConfigObjectFieldView)
    (fieldKey : String) : Prop :=
  (∃ row ∈ base, row.fieldKey = fieldKey) ∨
    ∃ fieldView ∈ fieldViews, fieldView.field.fieldKey = fieldKey

theorem requires_withWriteCapability (row : CoreFieldDescriptor) :
    operation.requires (withWriteCapability metadata bindingMode objectType (fun _ => none) row) =
        true ↔
      match inferDtoCapabilityOverridesForObjectType metadata objectType row.fieldKey with
      | some capability => operation.requiredBy capability = some true
      | none => operation.requires row = true := by
  rcases found : inferDtoCapabilityOverridesForObjectType metadata objectType row.fieldKey with
    _ | capability
  · cases operation <;>
      simp [SubmitOperation.requires, withWriteCapability, capabilityOverride, found]
  · obtain ⟨required, _, isRequired, _⟩ := @dtoCapability_spec _ _ operation _ _ found
    cases operation <;> simp only [SubmitOperation.requiredBy] at isRequired <;>
      simp [SubmitOperation.requires, SubmitOperation.requiredBy, withWriteCapability,
        capabilityOverride, found, isRequired]

theorem allows_withWriteCapability (row : CoreFieldDescriptor) :
    operation.allows (withWriteCapability metadata bindingMode objectType (fun _ => none) row) =
        true ↔
      row.readOnly ≠ some true ∧
        match inferDtoCapabilityOverridesForObjectType metadata objectType row.fieldKey with
        | some capability => operation.writableBy capability = some true
        | none => ¬IsKeptBySystemOfRecord bindingMode objectType row.fieldKey := by
  have inferred := @inferWriteCapability_iff bindingMode objectType row
  by_cases readOnly : row.readOnly = some true
  · refine iff_of_false ?_ fun isFree => isFree.1 readOnly
    cases operation <;> simp [SubmitOperation.allows, withWriteCapability, readOnly]
  rw [and_iff_right readOnly] at inferred ⊢
  rcases found : inferDtoCapabilityOverridesForObjectType metadata objectType row.fieldKey with
    _ | capability
  · dsimp only
    rw [← inferred]
    cases operation <;>
      simp [SubmitOperation.allows, withWriteCapability, capabilityOverride, found, readOnly]
  · obtain ⟨_, writable, _, isWritable, _⟩ := @dtoCapability_spec _ _ operation _ _ found
    cases operation <;> simp only [SubmitOperation.writableBy] at isWritable <;>
      simp [SubmitOperation.allows, SubmitOperation.writableBy, withWriteCapability,
        capabilityOverride, found, readOnly, isWritable]

theorem satisfiable_row_iff (isBase : IsBase base) (distinct : KeysDistinct fieldViews)
    {row : CoreFieldDescriptor} (member : row ∈ mergedRows metadata base fieldViews) :
    (operation.requires (withWriteCapability metadata bindingMode objectType (fun _ => none) row) =
        true →
      operation.allows (withWriteCapability metadata bindingMode objectType (fun _ => none) row) =
        true) ↔
    (IsRequired metadata objectType fieldViews operation row.fieldKey →
      ¬IsKeptFromRequests metadata bindingMode objectType base fieldViews row.fieldKey) := by
  obtain ⟨readOnly, required⟩ := @mergedRows_spec _ _ _ operation isBase distinct _ member
  rw [requires_withWriteCapability, allows_withWriteCapability]
  unfold IsRequired IsKeptFromRequests
  rw [ne_eq, readOnly]
  rcases found : inferDtoCapabilityOverridesForObjectType metadata objectType row.fieldKey with
    _ | capability
  · dsimp only
    rw [required]
    tauto
  · obtain ⟨required, writable, isRequired, isWritable, follows⟩ :=
      @dtoCapability_spec _ _ operation _ _ found
    simp only [isRequired, isWritable, Option.some.injEq, reduceCtorEq, false_and, or_false]
    tauto

/-- The rows of a registry are of the fields of the base and of the designers. -/
theorem exists_mergedRow_iff {fieldKey : String} :
    (∃ row ∈ mergedRows metadata base fieldViews, row.fieldKey = fieldKey) ↔
      IsField base fieldViews fieldKey := by
  constructor
  · rintro ⟨row, member, rfl⟩
    rcases mem_mergedRows.mp member with ⟨baseRow, inBase, rfl⟩ | ⟨fieldView, added, rfl⟩
    · exact .inl ⟨baseRow, inBase, (fieldKey_rowOver baseRow).symm⟩
    · exact .inr ⟨fieldView, (mem_customOnly.mp added).1, (fieldKey_customDescriptor _).symm⟩
  · rintro (⟨baseRow, inBase, rfl⟩ | ⟨fieldView, viewMember, rfl⟩)
    · exact ⟨_, mem_mergedRows.mpr (.inl ⟨baseRow, inBase, rfl⟩), fieldKey_rowOver baseRow⟩
    · by_cases inBase : fieldView.field.fieldKey ∈ base.map CoreFieldDescriptor.fieldKey
      · obtain ⟨baseRow, member, same⟩ := List.mem_map.mp inBase
        exact ⟨_, mem_mergedRows.mpr (.inl ⟨baseRow, member, rfl⟩),
          (fieldKey_rowOver baseRow).trans same⟩
      · exact ⟨_, mem_mergedRows.mpr (.inr ⟨fieldView, mem_customOnly.mpr ⟨viewMember, inBase⟩, rfl⟩),
          fieldKey_customDescriptor fieldView⟩

/-! ## Fields that descriptors may hold -/

/-- What a designer set of a field is within the bounds of a descriptor. A field of the base may
do without a label, and its key is that of the base. -/
def FitsOver (base : List CoreFieldDescriptor) (fieldView : ConfigObjectFieldView) : Prop :=
  (if fieldView.field.fieldKey ∈ base.map CoreFieldDescriptor.fieldKey then
      Json.trimmed fieldView.field.label ≠ [] → fieldView.field.label.length ≤ 255
    else
      (fieldView.field.fieldKey ≠ "" ∧ fieldView.field.fieldKey.length ≤ 100) ∧
        fieldView.field.label ≠ "" ∧ fieldView.field.label.length ≤ 255) ∧
    0 ≤ fieldView.field.orderIndex ∧
    (∀ sectionKey ∈ fieldView.field.sectionKey, sectionKey.length ≤ 100) ∧
    ∀ description ∈ fieldView.field.description, description.length ≤ 4000

theorem invalidProperties_eq_nil {descriptor : CoreFieldDescriptor} :
    invalidProperties descriptor = [] ↔
      (descriptor.fieldKey ≠ "" ∧ descriptor.fieldKey.length ≤ 100) ∧
      (descriptor.label ≠ "" ∧ descriptor.label.length ≤ 255) ∧ 0 ≤ descriptor.orderIndex ∧
      (∀ path ∈ descriptor.path, path.length ≤ 500) ∧
      (∀ sectionKey ∈ descriptor.sectionKey, sectionKey.length ≤ 100) ∧
      ∀ description ∈ descriptor.description, description.length ≤ 4000 := by
  simp [invalidProperties, List.filter_eq_nil_iff, Option.all_eq_true]

theorem invalidProperties_applyGlobalRulesToDescriptor (descriptor : CoreFieldDescriptor)
    (rules : List ConfigObjectFieldRuleEntity) :
    invalidProperties (applyGlobalRulesToDescriptor descriptor rules) =
      invalidProperties descriptor := by
  unfold applyGlobalRulesToDescriptor
  split <;> rfl

theorem valid_mergedDescriptor {row : CoreFieldDescriptor} (valid : invalidProperties row = [])
    {fieldView : ConfigObjectFieldView} (inBase : fieldView.field.fieldKey ∈
      base.map CoreFieldDescriptor.fieldKey) :
    invalidProperties (mergedDescriptor metadata row fieldView) = [] ↔ FitsOver base fieldView := by
  obtain ⟨key, label, _, path, _, _⟩ := invalidProperties_eq_nil.mp valid
  unfold mergedDescriptor FitsOver
  rw [invalidProperties_applyGlobalRulesToDescriptor, invalidProperties_eq_nil, if_pos inBase]
  dsimp only [designedOver]
  by_cases isBlank : Json.trimmed fieldView.field.label = []
  · simp only [isBlank, ne_eq, not_true_eq_false, if_false, false_implies]
    tauto
  · have notEmpty : fieldView.field.label ≠ "" := fun isEmpty => isBlank (isEmpty ▸ rfl)
    simp only [isBlank, ne_eq, not_false_eq_true, if_true, forall_const]
    tauto

theorem valid_customDescriptor {fieldView : ConfigObjectFieldView}
    (notBase : fieldView.field.fieldKey ∉ base.map CoreFieldDescriptor.fieldKey) :
    invalidProperties (customDescriptor metadata fieldView) = [] ↔ FitsOver base fieldView := by
  unfold customDescriptor FitsOver
  rw [invalidProperties_applyGlobalRulesToDescriptor, invalidProperties_eq_nil, if_neg notBase]
  dsimp only [designedOver]
  simp only [Option.mem_def, reduceCtorEq, false_implies, implies_true, true_and, and_assoc]

/-- The rows of a registry are valid where what the designers set fits. -/
theorem valid_mergedRows_iff (isBase : IsBase base) (distinct : KeysDistinct fieldViews) :
    (∀ row ∈ mergedRows metadata base fieldViews, invalidProperties row = []) ↔
      ∀ fieldView ∈ fieldViews, FitsOver base fieldView := by
  constructor
  · intro valid fieldView viewMember
    by_cases inBase : fieldView.field.fieldKey ∈ base.map CoreFieldDescriptor.fieldKey
    · obtain ⟨row, member, same⟩ := List.mem_map.mp inBase
      have found := (fieldViewOf_eq_some distinct).mpr ⟨viewMember, same.symm⟩
      refine (@valid_mergedDescriptor metadata _ _ (isBase.valid row member) _ inBase).mp ?_
      have rowValid := valid _ (mem_mergedRows.mpr (.inl ⟨row, member, rfl⟩))
      simpa only [rowOver, found] using rowValid
    · exact (valid_customDescriptor inBase).mp
        (valid _ (mem_mergedRows.mpr (.inr ⟨fieldView, mem_customOnly.mpr ⟨viewMember, inBase⟩, rfl⟩)))
  · intro fits row member
    rcases mem_mergedRows.mp member with ⟨baseRow, inBase, rfl⟩ | ⟨fieldView, added, rfl⟩
    · unfold rowOver
      rcases found : fieldViewOf fieldViews baseRow.fieldKey with _ | fieldView
      · exact isBase.valid baseRow inBase
      · obtain ⟨viewMember, same⟩ := (fieldViewOf_eq_some distinct).mp found
        have keyInBase := same ▸ List.mem_map_of_mem (f := CoreFieldDescriptor.fieldKey) inBase
        exact (valid_mergedDescriptor (isBase.valid baseRow inBase) keyInBase).mpr
          (fits fieldView viewMember)
    · obtain ⟨viewMember, notBase⟩ := mem_customOnly.mp added
      exact (valid_customDescriptor notBase).mpr (fits fieldView viewMember)

/-! ## Satisfiable types -/

/-- A type has submissions that are accepted for an operation: its columns make descriptors, what
its designers set fits these, and no field is both required and kept from requests. -/
def IsSatisfiable (metadata : FieldMetadata) (configObject : DesignedObject)
    (fieldViews : List ConfigObjectFieldView) (operation : SubmitOperation) : Prop :=
  ∃ base, generateBaseCoreFieldDescriptors metadata configObject.bindingMode
      configObject.objectType = .ok base ∧
    (∀ fieldView ∈ fieldViews, FitsOver base fieldView) ∧
    ∀ fieldKey, IsField base fieldViews fieldKey →
      IsRequired metadata configObject.objectType fieldViews operation fieldKey →
        ¬IsKeptFromRequests metadata configObject.bindingMode configObject.objectType base
          fieldViews fieldKey

end

end CoreApi.ConfigObjects
