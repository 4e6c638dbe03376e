import CoreApi.Foundation.StableSorting
import CoreApi.ConfigObjects.PersistedSubmissions

/-!
# The order of merged fields

Two merges put the designer's fields behind those that are coded. The registry leaves
out of them the fields of the base, over whose rows they are laid. The merged order of
a schema has a list of its own of coded fields, and puts all fields of the designer
behind it.
-/

namespace CoreApi.ConfigObjects

open CoreApi.Foundation Automation

/-! ## The merged order of a schema -/

/-- `MergedConfigFieldOrderEntry.source`. -/
inductive FieldOrderSource where
  | sor | custom
deriving DecidableEq

/-- `MergedConfigFieldOrderEntry`. -/
structure MergedConfigFieldOrderEntry where
  source : FieldOrderSource
  fieldKey : String
  configObjectFieldId : Option Nat := none
deriving DecidableEq

/-- What the merged order reads of a designer's field. -/
structure CustomFieldMeta where
  configObjectFieldId : Nat
  fieldKey : String
  orderIndex : Int
  sectionKey : Option String

section

variable (metadata : FieldMetadata)

/-- The comparison of `buildMergedFieldOrder`. -/
def customBefore (a b : CustomFieldMeta) : Bool :=
  let sectionOfA := a.sectionKey.getD ""
  let sectionOfB := b.sectionKey.getD ""
  if sectionOfA ≠ sectionOfB then metadata.sectionLess sectionOfA sectionOfB
  else a.orderIndex ≤ b.orderIndex

/-- `buildMergedFieldOrder`. -/
def buildMergedFieldOrder (objectType : String) (customFields : List CustomFieldMeta) :
    List MergedConfigFieldOrderEntry :=
  let sor := (sorDescriptorsOf objectType).insertionSort fun a b => a.orderIndex ≤ b.orderIndex
  let sortedCustom := customFields.insertionSort fun a b => customBefore metadata a b = true
  sor.map (fun descriptor => { source := .sor, fieldKey := descriptor.fieldKey }) ++
    sortedCustom.map fun field =>
      { source := .custom
        fieldKey := field.fieldKey
        configObjectFieldId := some field.configObjectFieldId }

/-- What `attachMergedFieldOrder` adds to a schema. -/
structure AttachedFieldOrder where
  sorFieldDescriptors : List SorFieldDescriptor
  mergedFieldOrder : List MergedConfigFieldOrderEntry

/-- `customMeta`. -/
def customMeta (fieldView : ConfigObjectFieldView) : CustomFieldMeta where
  configObjectFieldId := fieldView.field.configObjectFieldId
  fieldKey := fieldView.field.fieldKey
  orderIndex := fieldView.field.orderIndex
  sectionKey := fieldView.field.sectionKey

/-- `attachMergedFieldOrder`. -/
def attachMergedFieldOrder (configObject : DesignedObject)
    (fields : List ConfigObjectFieldView) : AttachedFieldOrder :=
  if configObject.bindingMode = .systemTable then ⟨[], []⟩
  else
    ⟨sorDescriptorsOf configObject.objectType,
      buildMergedFieldOrder metadata configObject.objectType (fields.map customMeta)⟩

/-- The keys of the merged order. -/
def mergedFieldKeys (configObject : DesignedObject) (fields : List ConfigObjectFieldView) :
    List String :=
  (attachMergedFieldOrder metadata configObject fields).mergedFieldOrder.map
    MergedConfigFieldOrderEntry.fieldKey

end

/-! ## A faithful merge -/

section

variable (metadata : FieldMetadata)

/-- The first field is in an earlier section, or in the same one and not after the second. -/
def SectionThenOrder (first second : ConfigObjectFieldView) : Prop :=
  let sectionOf (fieldView : ConfigObjectFieldView) := fieldView.field.sectionKey.getD ""
  (sectionOf first ≠ sectionOf second →
      metadata.sectionLess (sectionOf first) (sectionOf second) = true) ∧
    (sectionOf first = sectionOf second → first.field.orderIndex ≤ second.field.orderIndex)

/-- A row is that of the base, with what the designer set of its field. -/
structure IsOverlay (fieldViews : List ConfigObjectFieldView) (base row : CoreFieldDescriptor) :
    Prop where
  fieldKey : row.fieldKey = base.fieldKey
  fieldType : row.fieldType = base.fieldType
  undesigned : (∀ fieldView ∈ fieldViews, fieldView.field.fieldKey ≠ base.fieldKey) → row = base
  designed : ∀ fieldView ∈ fieldViews, fieldView.field.fieldKey = base.fieldKey →
    (Json.trimmed fieldView.field.label ≠ [] → row.label = fieldView.field.label) ∧
      row.orderIndex = fieldView.field.orderIndex ∧
      row.sectionKey = fieldView.field.sectionKey ∧
      row.description = fieldView.field.description

/-- The registry has the rows of the base, under what the designer set, and after them the fields
that the designer added, by section and order. -/
structure MergesOver (base : List CoreFieldDescriptor)
    (fieldViews : List ConfigObjectFieldView) : Prop where
  /-- A registry comes about where what the designer set fits. -/
  returns : (∀ row ∈ base, invalidProperties row = []) →
    (∀ fieldView ∈ fieldViews, FitsOver base fieldView) →
      ∃ registry, mergeCoreFieldDescriptorsWithFieldViews metadata base fieldViews = .ok registry
  appends : (sortFieldViewsForAppend metadata (customOnly base fieldViews)).Perm
    (customOnly base fieldViews)
  ordered : (sortFieldViewsForAppend metadata (customOnly base fieldViews)).Pairwise
    (SectionThenOrder metadata)
  /-- Each key is listed once, those of the base in its order. -/
  lists : ∀ registry,
    mergeCoreFieldDescriptorsWithFieldViews metadata base fieldViews = .ok registry →
      (registry.map CoreFieldDescriptor.fieldKey).Nodup ∧ ∃ rows,
        List.Forall₂ (IsOverlay fieldViews) base rows ∧
        registry = rows ++ (sortFieldViewsForAppend metadata (customOnly base fieldViews)).map
          (customDescriptor metadata)

/-- The merged order lists each key once, and those that the designer added as a registry does. -/
structure OrdersAsRegistry (configObject : DesignedObject)
    (fieldViews : List ConfigObjectFieldView) : Prop where
  once : (mergedFieldKeys metadata configObject fieldViews).Nodup
  lists : ∀ fieldKey, fieldKey ∈ mergedFieldKeys metadata configObject fieldViews ↔
    fieldKey ∈ (sorDescriptorsOf configObject.objectType).map SorFieldDescriptor.fieldKey ∨
      fieldKey ∈ fieldViews.map fun fieldView => fieldView.field.fieldKey
  alike : ∀ base registry,
    generateBaseCoreFieldDescriptors metadata configObject.bindingMode configObject.objectType
        = .ok base →
      mergeCoreFieldDescriptorsWithFieldViews metadata base fieldViews = .ok registry →
        (mergedFieldKeys metadata configObject fieldViews).filter (fun fieldKey =>
            (customOnly base fieldViews).any fun fieldView =>
              fieldView.field.fieldKey == fieldKey) =
          (registry.map CoreFieldDescriptor.fieldKey).filter fun fieldKey =>
            (customOnly base fieldViews).any fun fieldView =>
              fieldView.field.fieldKey == fieldKey

/-- The designer's fields, however they are arranged, are merged over every base, and with the
fields of the object in the order of a registry. -/
def MergesFaithfully (configObject : DesignedObject)
    (fieldViews : List ConfigObjectFieldView) : Prop :=
  ∀ arranged, arranged.Perm fieldViews →
    (∀ base, (base.map CoreFieldDescriptor.fieldKey).Nodup → MergesOver metadata base arranged) ∧
      OrdersAsRegistry metadata configObject arranged

end

/-! ## The registry -/

section

variable {metadata : FieldMetadata} {configObject : DesignedObject}
  {base registry : List CoreFieldDescriptor} {fieldViews : List ConfigObjectFieldView}

/-- The merge returns where what it validates is valid. -/
theorem mergeCoreFieldDescriptorsWithFieldViews_eq_ok :
    mergeCoreFieldDescriptorsWithFieldViews metadata base fieldViews = .ok registry ↔
      ((∀ row ∈ base, (fieldViewOf fieldViews row.fieldKey).isSome = true →
          invalidProperties (rowOver metadata fieldViews row) = []) ∧
        ∀ fieldView ∈ customOnly base fieldViews,
          invalidProperties (customDescriptor metadata fieldView) = []) ∧
      registry = mergedRows metadata base fieldViews := by
  have isSorted {p : ConfigObjectFieldView → Prop} :
      (∀ fieldView ∈ sortFieldViewsForAppend metadata (customOnly base fieldViews), p fieldView) ↔
        ∀ fieldView ∈ customOnly base fieldViews, p fieldView := by
    simp [sortFieldViewsForAppend]
  constructor
  · intro isMerged
    obtain ⟨_, isRows, isMerged⟩ := bind_eq_ok.mp isMerged
    obtain ⟨_, isCustom, isMerged⟩ := bind_eq_ok.mp isMerged
    obtain ⟨rowsValid, rfl⟩ := (mapM_eq_ok mergedRow_eq_ok).mp isRows
    obtain ⟨customValid, rfl⟩ :=
      (mapM_eq_ok fun _ _ => validateCoreFieldDescriptor_eq_ok).mp isCustom
    cases isMerged
    exact ⟨⟨rowsValid, isSorted.mp customValid⟩, rfl⟩
  · rintro ⟨⟨rowsValid, customValid⟩, rfl⟩
    have rows := (mapM_eq_ok (@mergedRow_eq_ok metadata fieldViews)).mpr ⟨rowsValid, rfl⟩
    have custom := (mapM_eq_ok fun fieldView out =>
      @validateCoreFieldDescriptor_eq_ok (customDescriptor metadata fieldView) out).mpr
        ⟨isSorted.mpr customValid, rfl⟩
    exact bind_eq_ok.mpr ⟨_, rows, bind_eq_ok.mpr ⟨_, custom, rfl⟩⟩

theorem appendsBefore_iff {first second : ConfigObjectFieldView} :
    appendsBefore metadata first second = true ↔ SectionThenOrder metadata first second := by
  unfold appendsBefore SectionThenOrder
  by_cases same : first.field.sectionKey.getD "" = second.field.sectionKey.getD ""
  · simp [same]
  · simp [same]

/-- Rules change nothing but whether a field is read-only. -/
theorem applyGlobalRulesToDescriptor_keeps (descriptor : CoreFieldDescriptor)
    (rules : List ConfigObjectFieldRuleEntity) :
    ∃ readOnly, applyGlobalRulesToDescriptor descriptor rules =
      { descriptor with readOnly := readOnly } := by
  unfold applyGlobalRulesToDescriptor
  split
  · exact ⟨some true, rfl⟩
  · exact ⟨descriptor.readOnly, rfl⟩

/-- A row of a registry is one of the base, with what the designer set of its field. -/
theorem isOverlay_rowOver (distinct : KeysDistinct fieldViews) (row : CoreFieldDescriptor) :
    IsOverlay fieldViews row (rowOver metadata fieldViews row) := by
  refine ⟨fieldKey_rowOver row, ?_, ?_, ?_⟩
  · unfold rowOver
    split
    · next fieldView _ =>
        obtain ⟨_, kept⟩ := applyGlobalRulesToDescriptor_keeps (designedOver metadata fieldView _)
          fieldView.rules
        rw [mergedDescriptor, kept]
        rfl
    · rfl
  · intro undesigned
    rw [rowOver, fieldViewOf_eq_none.mpr undesigned]
  · intro fieldView member sameKey
    obtain ⟨_, kept⟩ := applyGlobalRulesToDescriptor_keeps (designedOver metadata fieldView _)
      fieldView.rules
    rw [rowOver, (fieldViewOf_eq_some distinct).mpr ⟨member, sameKey⟩]
    dsimp only
    rw [mergedDescriptor, kept]
    exact ⟨fun given => if_pos given, rfl, rfl, rfl⟩

/-- The comparison of sections and orders puts the fields in an order. -/
abbrev OrdersFields (metadata : FieldMetadata) (fieldViews : List ConfigObjectFieldView) : Prop :=
  OrdersOn (SectionThenOrder metadata) fieldViews

theorem ordersOn_appendsBefore_iff :
    OrdersOn (fun first second => appendsBefore metadata first second = true) fieldViews ↔
      OrdersFields metadata fieldViews := by
  simp only [appendsBefore_iff]

theorem sorted_sortFieldViewsForAppend (orders : OrdersFields metadata fieldViews) :
    (sortFieldViewsForAppend metadata fieldViews).Pairwise (SectionThenOrder metadata) :=
  (ordersOn_appendsBefore_iff.mpr orders).pairwise_insertionSort.imp appendsBefore_iff.mp

theorem fitsOver_valid (valid : ∀ row ∈ base, invalidProperties row = [])
    (distinct : KeysDistinct fieldViews)
    (fits : ∀ fieldView ∈ fieldViews, FitsOver base fieldView) :
    (∀ row ∈ base, (fieldViewOf fieldViews row.fieldKey).isSome = true →
        invalidProperties (rowOver metadata fieldViews row) = []) ∧
      ∀ fieldView ∈ customOnly base fieldViews,
        invalidProperties (customDescriptor metadata fieldView) = [] := by
  constructor
  · intro row member designed
    obtain ⟨fieldView, found⟩ := Option.isSome_iff_exists.mp designed
    obtain ⟨viewMember, sameKey⟩ := (fieldViewOf_eq_some distinct).mp found
    rw [rowOver, found]
    exact (valid_mergedDescriptor (valid row member)
      (sameKey ▸ List.mem_map_of_mem member)).mpr (fits fieldView viewMember)
  · intro fieldView added
    obtain ⟨viewMember, notBase⟩ := mem_customOnly.mp added
    exact (valid_customDescriptor notBase).mpr (fits fieldView viewMember)

theorem mergesOver (distinct : KeysDistinct fieldViews) (orders : OrdersFields metadata fieldViews)
    (distinctBase : (base.map CoreFieldDescriptor.fieldKey).Nodup) :
    MergesOver metadata base fieldViews where
  returns valid fits :=
    ⟨_, mergeCoreFieldDescriptorsWithFieldViews_eq_ok.mpr
      ⟨fitsOver_valid valid distinct fits, rfl⟩⟩
  appends := List.perm_insertionSort _ _
  ordered := sorted_sortFieldViewsForAppend (orders.subset (List.filter_subset_self _))
  lists registry isMerged := by
    obtain ⟨_, rfl⟩ := mergeCoreFieldDescriptorsWithFieldViews_eq_ok.mp isMerged
    refine ⟨distinct_mergedRows distinctBase distinct, base.map (rowOver metadata fieldViews), ?_,
      rfl⟩
    rw [List.forall₂_map_right_iff, List.forall₂_same]
    exact fun row _ => isOverlay_rowOver distinct row

/-! ## The merged order -/

/-- Both merges sort the designer's fields alike. -/
theorem customMeta_sorted :
    (fieldViews.map customMeta).insertionSort (fun a b => customBefore metadata a b = true) =
      (sortFieldViewsForAppend metadata fieldViews).map customMeta :=
  (List.map_insertionSort _ _ customMeta fieldViews fun _ _ _ _ => Iff.rfl).symm

/-- The keys of a merged order are the coded ones, and after them all of the designer's. -/
theorem mergedFieldKeys_of_sorBound (isSorBound : configObject.bindingMode = .sorBound) :
    mergedFieldKeys metadata configObject fieldViews =
      ((sorDescriptorsOf configObject.objectType).insertionSort
          fun a b => a.orderIndex ≤ b.orderIndex).map SorFieldDescriptor.fieldKey ++
        (sortFieldViewsForAppend metadata fieldViews).map
          fun fieldView => fieldView.field.fieldKey := by
  unfold mergedFieldKeys attachMergedFieldOrder
  rw [isSorBound, if_neg (by decide)]
  unfold buildMergedFieldOrder
  rw [customMeta_sorted, List.map_append, List.map_map, List.map_map, List.map_map]
  rfl

/-- No field of the designer has the key of a coded field of the type. -/
def ReusesNoSorKey (objectType : String) (fieldViews : List ConfigObjectFieldView) : Prop :=
  ∀ fieldView ∈ fieldViews,
    fieldView.field.fieldKey ∉ (sorDescriptorsOf objectType).map SorFieldDescriptor.fieldKey

theorem mem_mergedFieldKeys (isSorBound : configObject.bindingMode = .sorBound)
    {fieldKey : String} :
    fieldKey ∈ mergedFieldKeys metadata configObject fieldViews ↔
      fieldKey ∈ (sorDescriptorsOf configObject.objectType).map SorFieldDescriptor.fieldKey ∨
        fieldKey ∈ fieldViews.map fun fieldView => fieldView.field.fieldKey := by
  rw [mergedFieldKeys_of_sorBound isSorBound, List.mem_append]
  simp [sortFieldViewsForAppend]

/-- The merged order lists a key twice exactly where a field reuses a coded one. -/
theorem nodup_mergedFieldKeys_iff (isSorBound : configObject.bindingMode = .sorBound)
    (distinct : KeysDistinct fieldViews) :
    (mergedFieldKeys metadata configObject fieldViews).Nodup ↔
      ReusesNoSorKey configObject.objectType fieldViews := by
  have coded : (((sorDescriptorsOf configObject.objectType).insertionSort
      fun a b => a.orderIndex ≤ b.orderIndex).map SorFieldDescriptor.fieldKey).Perm
        ((sorDescriptorsOf configObject.objectType).map SorFieldDescriptor.fieldKey) :=
    (List.perm_insertionSort _ _).map _
  have designed : ((sortFieldViewsForAppend metadata fieldViews).map
      fun fieldView => fieldView.field.fieldKey).Perm
        (fieldViews.map fun fieldView => fieldView.field.fieldKey) :=
    (List.perm_insertionSort _ _).map _
  rw [mergedFieldKeys_of_sorBound isSorBound, (coded.append designed).nodup_iff]
  constructor
  · intro once fieldView member reused
    exact (List.nodup_append'.mp once).2.2 reused (List.mem_map_of_mem member)
  · intro reusesNone
    refine List.Nodup.append (sorDescriptorsOf_distinct _) distinct ?_
    intro fieldKey isCoded isDesigned
    obtain ⟨fieldView, member, rfl⟩ := List.mem_map.mp isDesigned
    exact reusesNone fieldView member isCoded

/-- A field is the designer's own where its key is the key of one of these. -/
theorem any_customOnly_iff {fieldView : ConfigObjectFieldView} (member : fieldView ∈ fieldViews) :
    ((customOnly base fieldViews).any fun other =>
        other.field.fieldKey == fieldView.field.fieldKey) =
      !(base.map CoreFieldDescriptor.fieldKey).contains fieldView.field.fieldKey := by
  rw [Bool.eq_iff_iff, List.any_eq_true, Bool.not_eq_true', List.contains_eq_mem,
    decide_eq_false_iff_not]
  constructor
  · rintro ⟨other, added, sameKey⟩
    exact beq_iff_eq.mp sameKey ▸ (mem_customOnly.mp added).2
  · intro notBase
    exact ⟨fieldView, mem_customOnly.mpr ⟨member, notBase⟩, beq_self_eq_true _⟩

theorem customOnly_keys_of_registry :
    ((mergedRows metadata base fieldViews).map CoreFieldDescriptor.fieldKey).filter
        (fun fieldKey => (customOnly base fieldViews).any fun fieldView =>
          fieldView.field.fieldKey == fieldKey) =
      (sortFieldViewsForAppend metadata (customOnly base fieldViews)).map
        fun fieldView => fieldView.field.fieldKey := by
  have keptKeys : CoreFieldDescriptor.fieldKey ∘ customDescriptor metadata =
      fun fieldView => fieldView.field.fieldKey :=
    funext fun fieldView => fieldKey_customDescriptor fieldView
  rw [mergedRows, List.map_append, List.map_map, List.map_map, keptKeys, List.filter_append]
  have noBase : (base.map (CoreFieldDescriptor.fieldKey ∘ rowOver metadata fieldViews)).filter
      (fun fieldKey => (customOnly base fieldViews).any fun fieldView =>
        fieldView.field.fieldKey == fieldKey) = [] := by
    rw [List.filter_eq_nil_iff]
    intro fieldKey isBase added
    obtain ⟨row, member, rfl⟩ := List.mem_map.mp isBase
    obtain ⟨fieldView, isCustom, sameKey⟩ := List.any_eq_true.mp added
    refine (mem_customOnly.mp isCustom).2 ?_
    rw [beq_iff_eq.mp sameKey]
    exact List.mem_map.mpr ⟨row, member, (fieldKey_rowOver row).symm⟩
  rw [noBase, List.nil_append, List.filter_eq_self]
  intro fieldKey isCustom
  obtain ⟨fieldView, added, rfl⟩ := List.mem_map.mp isCustom
  exact List.any_eq_true.mpr ⟨fieldView, (List.mem_insertionSort _).mp added, beq_self_eq_true _⟩

/-- The keys of the designer's own fields lie in the merged order as they are sorted. -/
theorem customOnly_keys_of_mergedOrder (isSorBound : configObject.bindingMode = .sorBound)
    (orders : OrdersFields metadata fieldViews)
    (reusesNone : ReusesNoSorKey configObject.objectType fieldViews) :
    (mergedFieldKeys metadata configObject fieldViews).filter
        (fun fieldKey => (customOnly base fieldViews).any fun fieldView =>
          fieldView.field.fieldKey == fieldKey) =
      (sortFieldViewsForAppend metadata (customOnly base fieldViews)).map
        fun fieldView => fieldView.field.fieldKey := by
  rw [mergedFieldKeys_of_sorBound isSorBound, List.filter_append]
  have noCoded : (((sorDescriptorsOf configObject.objectType).insertionSort
        fun a b => a.orderIndex ≤ b.orderIndex).map SorFieldDescriptor.fieldKey).filter
      (fun fieldKey => (customOnly base fieldViews).any fun fieldView =>
        fieldView.field.fieldKey == fieldKey) = [] := by
    rw [List.filter_eq_nil_iff]
    intro fieldKey isCoded added
    obtain ⟨fieldView, isCustom, sameKey⟩ := List.any_eq_true.mp added
    refine reusesNone fieldView (mem_customOnly.mp isCustom).1 ?_
    rw [beq_iff_eq.mp sameKey]
    exact ((List.perm_insertionSort _ _).map _).mem_iff.mp isCoded
  rw [noCoded, List.nil_append, List.filter_map]
  congr 1
  calc (sortFieldViewsForAppend metadata fieldViews).filter
        ((fun fieldKey => (customOnly base fieldViews).any fun fieldView =>
          fieldView.field.fieldKey == fieldKey) ∘ fun fieldView => fieldView.field.fieldKey)
      = (sortFieldViewsForAppend metadata fieldViews).filter fun fieldView =>
          !(base.map CoreFieldDescriptor.fieldKey).contains fieldView.field.fieldKey :=
        List.filter_congr fun fieldView sorted =>
          any_customOnly_iff ((List.mem_insertionSort _).mp sorted)
    _ = sortFieldViewsForAppend metadata (customOnly base fieldViews) :=
        (ordersOn_appendsBefore_iff.mpr orders).filter_insertionSort

theorem ordersAsRegistry (isSorBound : configObject.bindingMode = .sorBound)
    (distinct : KeysDistinct fieldViews) (orders : OrdersFields metadata fieldViews)
    (reusesNone : ReusesNoSorKey configObject.objectType fieldViews) :
    OrdersAsRegistry metadata configObject fieldViews where
  once := (nodup_mergedFieldKeys_iff isSorBound distinct).mpr reusesNone
  lists _ := mem_mergedFieldKeys isSorBound
  alike base registry _ isMerged := by
    obtain ⟨_, rfl⟩ := mergeCoreFieldDescriptorsWithFieldViews_eq_ok.mp isMerged
    rw [customOnly_keys_of_mergedOrder isSorBound orders reusesNone, customOnly_keys_of_registry]

/-! ## Every arrangement -/

theorem KeysDistinct.perm {arranged : List ConfigObjectFieldView}
    (distinct : KeysDistinct fieldViews) (isArranged : arranged.Perm fieldViews) :
    KeysDistinct arranged :=
  (isArranged.map _).nodup_iff.mpr distinct

/-- Over an empty base all fields are the designer's own. -/
theorem ordersFields_of_merges
    (merges : ∀ arranged, arranged.Perm fieldViews → MergesOver metadata [] arranged) :
    OrdersFields metadata fieldViews := by
  refine ordersOn_appendsBefore_iff.mp ((ordersOn_iff ?_).mpr ?_)
  · intro fieldView
    simp [appendsBefore]
  · intro arranged isArranged
    have areCustom : customOnly [] arranged = arranged := List.filter_eq_self.mpr fun _ _ => rfl
    have ordered := (merges arranged isArranged).ordered
    rw [areCustom] at ordered
    exact ordered.imp appendsBefore_iff.mpr

end

/-- The designer's fields of an object of the system of record are merged faithfully exactly where
none has the key of a coded field and the comparison of sections and orders orders them. -/
theorem mergedFieldOrder_faithful_iff (metadata : FieldMetadata) (configObject : DesignedObject)
    (fieldViews : List ConfigObjectFieldView) (isSorBound : configObject.bindingMode = .sorBound)
    (distinct : KeysDistinct fieldViews) :
    MergesFaithfully metadata configObject fieldViews ↔
      ReusesNoSorKey configObject.objectType fieldViews ∧ OrdersFields metadata fieldViews := by
  constructor
  · intro faithful
    refine ⟨?_, ?_⟩
    · exact (nodup_mergedFieldKeys_iff isSorBound distinct).mp
        (faithful fieldViews (List.Perm.refl _)).2.once
    · exact ordersFields_of_merges fun arranged isArranged =>
        (faithful arranged isArranged).1 [] List.nodup_nil
  · rintro ⟨reusesNone, orders⟩ arranged isArranged
    have arrangedOrders : OrdersFields metadata arranged := orders.subset isArranged.subset
    refine ⟨fun base distinctBase => mergesOver (distinct.perm isArranged) arrangedOrders
      distinctBase, ?_⟩
    exact ordersAsRegistry isSorBound (distinct.perm isArranged) arrangedOrders
      fun fieldView member => reusesNone fieldView (isArranged.subset member)

/-! ## Fields of resources -/

/-- Two fields that designers added to resources. -/
def addedToResources : List ConfigObjectFieldView :=
  [⟨{ tenantField with fieldKey := "warranty", label := "Warranty", sectionKey := some "care" }, []⟩,
    ⟨{ tenantField with fieldKey := "location", label := "Location" }, []⟩]

instance (fieldViews : List ConfigObjectFieldView) : Decidable (KeysDistinct fieldViews) :=
  inferInstanceAs (Decidable (List.Nodup _))

instance (objectType : String) (fieldViews : List ConfigObjectFieldView) :
    Decidable (ReusesNoSorKey objectType fieldViews) :=
  inferInstanceAs (Decidable (∀ fieldView ∈ fieldViews, _ ∉ _))

instance (metadata : FieldMetadata) (fieldViews : List ConfigObjectFieldView) :
    Decidable (OrdersFields metadata fieldViews) :=
  decidable_of_iff
    ((∀ a ∈ fieldViews, ∀ b ∈ fieldViews,
        appendsBefore metadata a b = true ∨ appendsBefore metadata b a = true) ∧
      ∀ a ∈ fieldViews, ∀ b ∈ fieldViews, ∀ c ∈ fieldViews,
        appendsBefore metadata a b = true → appendsBefore metadata b c = true →
          appendsBefore metadata a c = true)
    ⟨fun orders => ordersOn_appendsBefore_iff.mp ⟨orders.1, orders.2⟩,
      fun orders => ⟨(ordersOn_appendsBefore_iff.mpr orders).total,
        (ordersOn_appendsBefore_iff.mpr orders).trans⟩⟩

theorem addedToResources_faithful :
    MergesFaithfully resourceServices.metadata resourceSchema.configObject addedToResources :=
  (mergedFieldOrder_faithful_iff resourceServices.metadata resourceSchema.configObject
    addedToResources rfl (by decide)).mpr
      ⟨by decide, by decide⟩

/-- The tenant of a resource, given a label by the designer, is listed twice. -/
theorem tenant_of_resource_listed_twice :
    KeysDistinct (fieldViewsOf readonlyTenant resourceSchema.fields) ∧
      ¬MergesFaithfully resourceServices.metadata resourceSchema.configObject
        (fieldViewsOf readonlyTenant resourceSchema.fields) := by
  refine ⟨List.nodup_singleton _, fun faithful => ?_⟩
  have once := (faithful _ (List.Perm.refl _)).2.once
  rw [mergedFieldKeys_of_sorBound rfl] at once
  exact absurd once (by decide)

end CoreApi.ConfigObjects
