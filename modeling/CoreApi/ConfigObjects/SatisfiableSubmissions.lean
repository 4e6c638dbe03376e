import Mathlib.Data.List.Dedup
import CoreApi.ConfigObjects.FieldCapabilities

/-!
# Satisfiable submissions

An object has a submission that is accepted for an operation exactly where no field of it
is at once required and kept from requests, and its fields fit what descriptors may hold.
The submission gives `null` for all that is required: to a payload without primitive values
a property may be assigned at any path.
-/

namespace CoreApi.ConfigObjects

open CoreApi.Foundation Automation ObjectDesign

/-! ## Payloads without primitive values -/

/-- Objects and arrays of `null`s, to which a property may always be assigned. -/
inductive Hollow : Json → Prop where
  | null : Hollow .null
  | arr {items : List Json} (inside : ∀ item ∈ items, Hollow item) : Hollow (.arr items)
  | obj {fields : Record} (inside : ∀ entry ∈ fields, Hollow entry.2) : Hollow (.obj fields)

namespace Hollow

theorem itemAt {items : List Json} (hollow : ∀ item ∈ items, Hollow item) (idx : Int) :
    Hollow (itemAt items idx) := by
  unfold CoreApi.ConfigObjects.itemAt
  split
  · rcases found : items[idx.toNat]? with _ | item
    · exact null
    · exact hollow item (List.mem_of_getElem? found)
  · exact null

theorem withItem {items : List Json} (hollow : ∀ item ∈ items, Hollow item) (idx : Int)
    {value : Json} (hollowValue : Hollow value) :
    ∀ item ∈ withItem items idx value, Hollow item := by
  intro item member
  unfold CoreApi.ConfigObjects.withItem at member
  split at member
  · rcases List.mem_or_eq_of_mem_set member with old | rfl
    · rcases List.mem_append.mp old with inItems | isHole
      · exact hollow item inItems
      · exact List.eq_of_mem_replicate isHole ▸ null
    · exact hollowValue
  · exact hollow item member

theorem get? {fields : Record} (hollow : ∀ entry ∈ fields, Hollow entry.2) (name : String) :
    Hollow ((fields.get? name).getD .null) := by
  rcases found : fields.get? name with _ | value
  · exact null
  · exact hollow _ (mem_of_lookup found)

theorem set {fields : Record} (hollow : ∀ entry ∈ fields, Hollow entry.2) (name : String)
    {value : Json} (hollowValue : Hollow value) :
    ∀ entry ∈ fields.set name value, Hollow entry.2 := by
  induction fields with
  | nil => exact fun entry member => List.mem_singleton.mp member ▸ hollowValue
  | cons first rest ih =>
      obtain ⟨firstHollow, restHollow⟩ := List.forall_mem_cons.mp hollow
      unfold Record.set
      split
      · exact List.forall_mem_cons.mpr ⟨hollowValue, restHollow⟩
      · exact List.forall_mem_cons.mpr ⟨firstHollow, ih restHollow⟩

/-- What a segment leads to is hollow, and no `null`. -/
theorem orFresh {found : Json} (hollow : Hollow found) (next : String) :
    Hollow (orFresh next found) ∧ orFresh next found ≠ .null := by
  cases hollow with
  | null =>
      by_cases isIndex : (arrayIndexOf next).isSome = true
      · simpa [CoreApi.ConfigObjects.orFresh, isIndex] using arr (List.forall_mem_nil _)
      · simpa [CoreApi.ConfigObjects.orFresh, isIndex] using obj (List.forall_mem_nil _)
  | arr inside => exact ⟨arr inside, nofun⟩
  | obj inside => exact ⟨obj inside, nofun⟩

/-- An assignment below a hollow cursor succeeds, and leaves it hollow. -/
theorem setBelow {value : Json} (hollowValue : Hollow value) :
    ∀ (segments : List String) {cursor : Json}, Hollow cursor → cursor ≠ .null →
      ∃ out, setBelow value segments cursor = some out ∧ Hollow out ∧
        (∀ fields, cursor = .obj fields → ∃ fields', out = .obj fields')
  | [], cursor, hollow, _ => ⟨cursor, rfl, hollow, fun fields same => ⟨fields, same⟩⟩
  | [last], cursor, hollow, notNull => by
      cases hollow with
      | null => exact absurd rfl notNull
      | arr inside =>
          rcases isIndex : arrayIndexOf last with _ | idx
          · exact ⟨_, by simp only [CoreApi.ConfigObjects.setBelow, isIndex], arr inside, nofun⟩
          · exact ⟨_, by simp only [CoreApi.ConfigObjects.setBelow, isIndex],
              arr (withItem inside idx hollowValue), nofun⟩
      | obj inside =>
          rcases isIndex : arrayIndexOf last with _ | idx
          · exact ⟨_, by simp only [CoreApi.ConfigObjects.setBelow, isIndex],
              obj (set inside last hollowValue), fun _ _ => ⟨_, rfl⟩⟩
          · exact ⟨_, by simp only [CoreApi.ConfigObjects.setBelow, isIndex], obj inside,
              fun _ _ => ⟨_, rfl⟩⟩
  | segment :: next :: rest, cursor, hollow, notNull => by
      cases hollow with
      | null => exact absurd rfl notNull
      | @arr items inside =>
          rcases isIndex : arrayIndexOf segment with _ | idx
          · exact ⟨_, by simp only [CoreApi.ConfigObjects.setBelow, isIndex], arr inside, nofun⟩
          · obtain ⟨childHollow, childNotNull⟩ := orFresh (itemAt inside idx) next
            obtain ⟨child, isSet, hollowChild, _⟩ :=
              setBelow hollowValue (next :: rest) childHollow childNotNull
            refine ⟨.arr (CoreApi.ConfigObjects.withItem items idx child), ?_,
              arr (withItem inside idx hollowChild), nofun⟩
            simp only [CoreApi.ConfigObjects.setBelow, isIndex, isSet, Option.map_some]
      | @obj fields inside =>
          rcases isIndex : arrayIndexOf segment with _ | idx
          · obtain ⟨childHollow, childNotNull⟩ := orFresh (get? inside segment) next
            obtain ⟨child, isSet, hollowChild, _⟩ :=
              setBelow hollowValue (next :: rest) childHollow childNotNull
            refine ⟨.obj (Record.set fields segment child), ?_,
              obj (set inside segment hollowChild), fun _ _ => ⟨_, rfl⟩⟩
            simp only [CoreApi.ConfigObjects.setBelow, isIndex, isSet, Option.map_some]
          · exact ⟨_, by simp only [CoreApi.ConfigObjects.setBelow, isIndex], obj inside,
              fun _ _ => ⟨_, rfl⟩⟩

end Hollow

/-- No value of a payload is primitive. -/
def HollowPayload (payload : Record) : Prop := ∀ entry ∈ payload, Hollow entry.2

/-- `null` may be assigned at any path of a hollow payload. -/
theorem HollowPayload.setValueAtPath {payload : Record} (hollow : HollowPayload payload)
    (path : String) :
    ∃ after, setValueAtPath payload path .null = some after ∧ HollowPayload after := by
  obtain ⟨out, isSet, hollowOut, staysObject⟩ :=
    Hollow.setBelow Hollow.null (pathSegments path) (Hollow.obj hollow) nofun
  obtain ⟨after, rfl⟩ := staysObject payload rfl
  refine ⟨after, ?_, ?_⟩
  · simp only [CoreApi.ConfigObjects.setValueAtPath, isSet]
  · cases hollowOut with
    | obj inside => exact inside

theorem HollowPayload.foldlM {α : Type} {assign : Record → α → Option Record} {xs : List α}
    (step : ∀ x ∈ xs, ∀ payload, HollowPayload payload →
      ∃ after, assign payload x = some after ∧ HollowPayload after)
    {payload : Record} (hollow : HollowPayload payload) :
    ∃ after, xs.foldlM assign payload = some after ∧ HollowPayload after := by
  induction xs generalizing payload with
  | nil => exact ⟨payload, rfl, hollow⟩
  | cons x rest ih =>
      obtain ⟨stepFirst, stepRest⟩ := List.forall_mem_cons.mp step
      obtain ⟨next, isNext, nextHollow⟩ := stepFirst payload hollow
      obtain ⟨after, isAfter, afterHollow⟩ := ih stepRest nextHollow
      refine ⟨after, ?_, afterHollow⟩
      rw [List.foldlM_cons, isNext]
      exact isAfter

/-! ## Accepted submissions -/

/-- `null` under each of the names. -/
def nullsUnder (names : List String) : Record := names.dedup.map fun name => (name, .null)

@[simp] theorem names_nullsUnder (names : List String) :
    (nullsUnder names).names = names.dedup := by
  simp [nullsUnder, Record.names, Function.comp_def]

theorem nullsUnder_distinct (names : List String) : (nullsUnder names).Distinct := by
  unfold Record.Distinct
  rw [names_nullsUnder]
  exact List.nodup_dedup names

theorem null_of_mem_nullsUnder {names : List String} {entry : String × Json}
    (member : entry ∈ nullsUnder names) : entry.2 = .null := by
  obtain ⟨_, _, rfl⟩ := List.mem_map.mp member
  rfl

theorem null_of_nullsUnder {names : List String} {name : String} {value : Json}
    (found : (nullsUnder names).get? name = some value) : value = .null :=
  null_of_mem_nullsUnder (mem_of_lookup found)

theorem nullsUnder_isNone {names : List String} {name : String}
    (absent : ((nullsUnder names).get? name).isNone = true) : name ∉ names := by
  intro member
  have inNames : name ∈ (nullsUnder names).names := by
    rw [names_nullsUnder]
    exact List.mem_dedup.mpr member
  obtain ⟨entry, inEntries, rfl⟩ := List.mem_map.mp inNames
  have missed := List.lookup_eq_none_iff.mp (Option.isNone_iff_eq_none.mp absent) entry inEntries
  simp at missed

theorem refuseUnless_eq_ok {names : List String} {code message : String} :
    refuseUnless names code message = .ok () ↔ names = [] := by
  unfold refuseUnless
  split
  · next isEmpty => exact iff_of_true rfl isEmpty
  · next notEmpty => exact iff_of_false nofun notEmpty

theorem assigned_eq_ok {payload : Option Record} {out : Record} :
    assigned payload = .ok out ↔ payload = some out := by
  rcases payload with _ | payload
  · exact iff_of_false nofun nofun
  · exact ⟨fun same => congrArg some (Except.ok.inj same),
      fun same => congrArg Except.ok (Option.some.inj same)⟩

section

variable {fieldRegistry : List CoreFieldDescriptor} {relations : List RelationCatalogDescriptor}
  {operation : SubmitOperation}

/-- The descriptors of a registry differ in their keys. -/
def KeyedApart (fieldRegistry : List CoreFieldDescriptor) : Prop :=
  (fieldRegistry.map CoreFieldDescriptor.fieldKey).Nodup

theorem mem_of_descriptorOf {fieldKey : String} {descriptor : CoreFieldDescriptor}
    (found : descriptorOf fieldRegistry fieldKey = some descriptor) :
    descriptor ∈ fieldRegistry ∧ descriptor.fieldKey = fieldKey :=
  ⟨List.mem_reverse.mp (List.mem_of_find?_eq_some found),
    beq_iff_eq.mp (List.find?_some (p := fun descriptor : CoreFieldDescriptor =>
      descriptor.fieldKey == fieldKey) found)⟩

theorem descriptorOf_of_mem (apart : KeyedApart fieldRegistry) {descriptor : CoreFieldDescriptor}
    (member : descriptor ∈ fieldRegistry) :
    descriptorOf fieldRegistry descriptor.fieldKey = some descriptor := by
  rcases found : descriptorOf fieldRegistry descriptor.fieldKey with _ | other
  · have missed := List.find?_eq_none.mp found _ (List.mem_reverse.mpr member)
    exact absurd (beq_self_eq_true descriptor.fieldKey) missed
  · obtain ⟨others, same⟩ := mem_of_descriptorOf found
    exact congrArg some (List.inj_on_of_nodup_map apart others member same)

/-- A submission that is accepted gives every required field, and none that is kept from it. -/
theorem allows_of_accepted (apart : KeyedApart fieldRegistry)
    {fieldValues relationBlocks payload : Record}
    (accepted : composePayload fieldRegistry relations operation fieldValues relationBlocks =
      .ok payload)
    {descriptor : CoreFieldDescriptor} (member : descriptor ∈ fieldRegistry)
    (required : operation.requires descriptor = true) : operation.allows descriptor = true := by
  obtain ⟨_, _, accepted⟩ := bind_eq_ok.mp accepted
  obtain ⟨_, noneDenied, accepted⟩ := bind_eq_ok.mp accepted
  obtain ⟨_, noneMissing, _⟩ := bind_eq_ok.mp accepted
  have given : descriptor.fieldKey ∈ fieldValues.names := by
    have notMissing := List.filter_eq_nil_iff.mp (refuseUnless_eq_ok.mp noneMissing)
      descriptor.fieldKey (List.mem_map_of_mem (List.mem_filter.mpr ⟨member, required⟩))
    simpa using notMissing
  have notDenied := List.filter_eq_nil_iff.mp (refuseUnless_eq_ok.mp noneDenied)
    descriptor.fieldKey given
  simpa [descriptorOf_of_mem apart member] using notDenied

/-- The keys that an operation has to give. -/
def requiredKeys (fieldRegistry : List CoreFieldDescriptor) (operation : SubmitOperation) :
    List String :=
  (fieldRegistry.filter operation.requires).map CoreFieldDescriptor.fieldKey

/-- `null`s for fields that an operation may write, all that is required among them, make a
submission that is accepted. -/
theorem accepted_of_allowed {names : List String}
    (covers : requiredKeys fieldRegistry operation ⊆ names)
    (allowed : ∀ name ∈ names, ∀ descriptor, descriptorOf fieldRegistry name = some descriptor →
      operation.allows descriptor = true) :
    ∃ payload, composePayload fieldRegistry relations operation (nullsUnder names)
      (nullsUnder (relations.map RelationCatalogDescriptor.relationshipKey)) = .ok payload := by
  obtain ⟨fields, areFields, fieldsHollow⟩ := @HollowPayload.foldlM _
    (withFieldValue fieldRegistry operation) (nullsUnder names)
    (fun entry member payload hollow => by
      unfold withFieldValue
      rw [null_of_mem_nullsUnder member]
      split
      · exact ⟨payload, rfl, hollow⟩
      · split
        · exact ⟨payload, rfl, hollow⟩
        · split
          · exact hollow.setValueAtPath _
          · exact ⟨_, rfl, Hollow.set hollow _ Hollow.null⟩)
    [] (List.forall_mem_nil _)
  obtain ⟨payload, isPayload, _⟩ := @HollowPayload.foldlM _
    (withRelationBlock (nullsUnder (relations.map RelationCatalogDescriptor.relationshipKey)))
    relations
    (fun rel _ payload hollow => by
      unfold withRelationBlock
      split
      · exact ⟨payload, rfl, hollow⟩
      · next block isBlock =>
          rw [null_of_nullsUnder isBlock]
          exact hollow.setValueAtPath _)
    fields fieldsHollow
  refine ⟨payload, bind_eq_ok.mpr ⟨fields, assigned_eq_ok.mpr areFields, ?_⟩⟩
  refine bind_eq_ok.mpr ⟨(), refuseUnless_eq_ok.mpr ?_, ?_⟩
  · refine List.filter_eq_nil_iff.mpr fun fieldKey given => ?_
    rw [names_nullsUnder, List.mem_dedup] at given
    rcases found : descriptorOf fieldRegistry fieldKey with _ | descriptor
    · simp
    · simp [allowed fieldKey given descriptor found]
  · refine bind_eq_ok.mpr ⟨(), refuseUnless_eq_ok.mpr ?_, ?_⟩
    · refine List.filter_eq_nil_iff.mpr fun fieldKey isRequired => ?_
      simpa using covers isRequired
    · refine bind_eq_ok.mpr ⟨payload, assigned_eq_ok.mpr isPayload, ?_⟩
      refine bind_eq_ok.mpr ⟨(), refuseUnless_eq_ok.mpr ?_, rfl⟩
      rw [missingRequiredRelations, List.map_eq_nil_iff, List.filter_eq_nil_iff]
      intro rel member missing
      have absent := ((Bool.and_eq_true _ _).mp missing).2
      exact nullsUnder_isNone absent (List.mem_map_of_mem member)

/-- Where nothing that is required is kept from requests, `null`s for all that is required make a
submission that is accepted. -/
theorem accepted_of_allows (apart : KeyedApart fieldRegistry)
    (satisfiable : ∀ descriptor ∈ fieldRegistry, operation.requires descriptor = true →
      operation.allows descriptor = true) :
    ∃ payload, composePayload fieldRegistry relations operation
      (nullsUnder (requiredKeys fieldRegistry operation))
      (nullsUnder (relations.map RelationCatalogDescriptor.relationshipKey)) = .ok payload := by
  refine accepted_of_allowed (List.Subset.refl _) fun name inKeys descriptor found => ?_
  obtain ⟨required, inRegistry, rfl⟩ := List.mem_map.mp inKeys
  obtain ⟨member, isRequired⟩ := List.mem_filter.mp inRegistry
  rw [descriptorOf_of_mem apart member] at found
  exact Option.some.inj found ▸ satisfiable required member isRequired

end

section

variable {metadata : FieldMetadata} {configObject : DesignedObject}
  {fieldViews : List ConfigObjectFieldView} {fieldRegistry : List CoreFieldDescriptor}
  {operation : SubmitOperation}

/-- The registry of an object. -/
abbrev IsRegistryOf (metadata : FieldMetadata) (configObject : DesignedObject)
    (fieldViews : List ConfigObjectFieldView) (fieldRegistry : List CoreFieldDescriptor) : Prop :=
  finalizeCoreFieldDescriptors metadata configObject.bindingMode configObject.objectType
    fieldViews = .ok fieldRegistry

theorem keyedApart_of_registry (distinct : KeysDistinct fieldViews)
    (isBuilt : IsRegistryOf metadata configObject fieldViews fieldRegistry) :
    KeyedApart fieldRegistry := by
  obtain ⟨base, isMade, _, rfl⟩ := finalizeCoreFieldDescriptors_eq_ok.mp isBuilt
  unfold KeyedApart
  rw [List.map_map]
  exact distinct_mergedRows (isBase_of_generate isMade).distinct distinct

/-- A satisfiable type has a registry. -/
theorem registry_of_isSatisfiable (distinct : KeysDistinct fieldViews)
    (satisfiable : IsSatisfiable metadata configObject fieldViews operation) :
    ∃ fieldRegistry, IsRegistryOf metadata configObject fieldViews fieldRegistry := by
  obtain ⟨base, isMade, fits, _⟩ := satisfiable
  exact ⟨_, finalizeCoreFieldDescriptors_eq_ok.mpr
    ⟨base, isMade, (valid_mergedRows_iff (isBase_of_generate isMade) distinct).mpr fits, rfl⟩⟩

/-- A type is satisfiable where its registry lets requests write all that it requires of them. -/
theorem isSatisfiable_iff_of_registry (distinct : KeysDistinct fieldViews)
    (isBuilt : IsRegistryOf metadata configObject fieldViews fieldRegistry) :
    IsSatisfiable metadata configObject fieldViews operation ↔
      ∀ descriptor ∈ fieldRegistry, operation.requires descriptor = true →
        operation.allows descriptor = true := by
  obtain ⟨base, isMade, valid, rfl⟩ := finalizeCoreFieldDescriptors_eq_ok.mp isBuilt
  have isBase := isBase_of_generate isMade
  rw [List.forall_mem_map]
  constructor
  · rintro ⟨base', isMade', _, satisfiable⟩ row member
    obtain rfl : base = base' := Except.ok.inj (isMade.symm.trans isMade')
    exact (satisfiable_row_iff isBase distinct member).mpr
      (satisfiable row.fieldKey (exists_mergedRow_iff.mp ⟨row, member, rfl⟩))
  · intro satisfiable
    refine ⟨base, isMade, (valid_mergedRows_iff isBase distinct).mp valid, ?_⟩
    intro fieldKey isField
    obtain ⟨row, member, rfl⟩ := (@exists_mergedRow_iff metadata _ _ _).mpr isField
    exact (satisfiable_row_iff isBase distinct member).mp (satisfiable row member)

end

/-! ## Published objects -/

section

variable {services : SubmitServices} {db : SubmitDb} {tenantId : Option Nat} {entityKey : String}
  {schema : RelationSchema}

theorem fields_perm_of_getObjectSchema {services : SchemaServices}
    (reorders : ∀ fields, (services.orderFields fields).Perm fields) {db : RuntimeDb}
    {schema : ObjectSchema}
    (published : getObjectSchema services db tenantId entityKey = .ok (some schema)) :
    schema.fields.Perm (db.configFields.select fun field =>
      field.configObjectId == schema.configObject.configObjectId) := by
  obtain ⟨_, _, published⟩ := bind_eq_ok.mp published
  split at published
  · cases published
  · obtain ⟨_, _, published⟩ := bind_eq_ok.mp published
    cases published
    exact reorders _

theorem getObjectSchema_of_withRelations {services : RelationServices} {db : RelationDb}
    (published : getObjectSchemaWithRelations services db tenantId entityKey = .ok (some schema)) :
    getObjectSchema services.toSchemaServices db.toRuntimeDb tenantId entityKey =
      .ok (some schema.toObjectSchema) := by
  obtain ⟨found, isFound, published⟩ := bind_eq_ok.mp published
  rcases found with _ | found
  · cases published
  · obtain ⟨attached, isAttached, published⟩ := bind_eq_ok.mp published
    obtain ⟨_, _, isAttached⟩ := bind_eq_ok.mp isAttached
    cases isAttached
    cases published
    exact isFound

theorem keysDistinct_of_published
    (published : getObjectSchemaWithRelations services.toRelationServices db.toRelationDb tenantId
      entityKey = .ok (some schema)) :
    KeysDistinct (fieldViewsOf db.fieldRules schema.fields) := by
  have fields := fields_perm_of_getObjectSchema services.reorders
    (getObjectSchema_of_withRelations published)
  have rowsDistinct : db.configFields.rows.Nodup := List.Nodup.of_map _ db.configFields.distinct
  unfold KeysDistinct fieldViewsOf
  rw [List.map_map]
  refine List.Nodup.map_on ?_ (fields.nodup_iff.mpr (rowsDistinct.filter _))
  intro field member other otherMember sameKey
  obtain ⟨inTable, isOfObject⟩ := Table.mem_select.mp (fields.mem_iff.mp member)
  obtain ⟨otherInTable, otherOfObject⟩ := Table.mem_select.mp (fields.mem_iff.mp otherMember)
  exact db.fieldKeysDistinct field inTable other otherInTable
    ((beq_iff_eq.mp isOfObject).trans (beq_iff_eq.mp otherOfObject).symm) sameKey

theorem composeRuntimeSubmitPayload_eq_ok
    (published : getObjectSchemaWithRelations services.toRelationServices db.toRelationDb
      (effectiveTenant tenantId) entityKey = .ok (some schema))
    {operation : SubmitOperation} {fieldValues relationBlocks : Record}
    {submitted : RuntimeComposedSubmitPayloadView} :
    composeRuntimeSubmitPayload services db tenantId entityKey operation fieldValues
        relationBlocks = .ok submitted ↔
      ∃ fieldRegistry, IsRegistryOf services.metadata schema.configObject
        (fieldViewsOf db.fieldRules schema.fields) fieldRegistry ∧
      ∃ payload, composePayload fieldRegistry schema.relations operation fieldValues
          relationBlocks = .ok payload ∧
        submitted = ⟨entityKey, effectiveTenant tenantId, operation, payload⟩ := by
  have composed : composeRuntimeSubmitPayload services db tenantId entityKey operation fieldValues
      relationBlocks = (do
        let fieldRegistry ← (fieldRegistryOf services.metadata db.fieldRules schema.toObjectSchema).mapError
          SubmitError.invalidDescriptor
        let payload ← composePayload fieldRegistry schema.relations operation fieldValues
          relationBlocks
        pure ⟨entityKey, effectiveTenant tenantId, operation, payload⟩) := by
    unfold composeRuntimeSubmitPayload
    rw [published]
    rfl
  rw [composed]
  constructor
  · intro accepted
    obtain ⟨fieldRegistry, isBuilt, accepted⟩ := bind_eq_ok.mp accepted
    obtain ⟨payload, isPayload, accepted⟩ := bind_eq_ok.mp accepted
    refine ⟨fieldRegistry, ?_, payload, isPayload, (Except.ok.inj accepted).symm⟩
    rcases registry : fieldRegistryOf services.metadata db.fieldRules schema.toObjectSchema with _ | built
    · rw [registry] at isBuilt
      cases isBuilt
    · rw [registry] at isBuilt
      cases isBuilt
      exact registry
  · rintro ⟨fieldRegistry, isBuilt, payload, isPayload, rfl⟩
    rw [fieldRegistryOf, isBuilt]
    exact bind_eq_ok.mpr ⟨fieldRegistry, rfl, bind_eq_ok.mpr ⟨payload, isPayload, rfl⟩⟩

theorem isSatisfiable_of_accepted
    (published : getObjectSchemaWithRelations services.toRelationServices db.toRelationDb
      (effectiveTenant tenantId) entityKey = .ok (some schema))
    {operation : SubmitOperation} {fieldValues relationBlocks : Record}
    {submitted : RuntimeComposedSubmitPayloadView}
    (accepted : composeRuntimeSubmitPayload services db tenantId entityKey operation fieldValues
      relationBlocks = .ok submitted) :
    IsSatisfiable services.metadata schema.configObject (fieldViewsOf db.fieldRules schema.fields)
      operation := by
  obtain ⟨fieldRegistry, isBuilt, payload, isPayload, _⟩ :=
    (composeRuntimeSubmitPayload_eq_ok published).mp accepted
  have distinct := keysDistinct_of_published published
  exact (isSatisfiable_iff_of_registry distinct isBuilt).mpr fun _ member required =>
    allows_of_accepted (keyedApart_of_registry distinct isBuilt) isPayload member required

end

/-! ## Inspections -/

/-- No entity declares a relation, and inspections have neither an entity nor data transfer
objects. -/
def inspectionServices : SubmitServices where
  casing := latinCasing
  orderFields := id
  attachRunner _ _ _ _ := .ok (.obj [])
  declared := []
  localeBefore first second := decide (first.toList ≤ second.toList)
  relatedFieldRegistry _ _ _ := .obj []
  metadata :=
    { casing := latinCasing
      entityColumns := fun _ => []
      columnsDistinct := fun _ => List.nodup_nil
      dtoPair := fun _ => none
      sectionLess := fun first second => decide (first.toList ≤ second.toList)
      lookupSelectConfig := fun _ => none
      derivedRuntimeConfig := fun _ => none }
  reorders fields := List.Perm.refl fields

/-- The serial number of an inspection, which has to be given. -/
def serialNumber : ConfigObjectFieldEntity where
  configObjectFieldId := 0
  configObjectId := 1
  fieldKey := "serialNumber"
  label := "Serial number"
  description := none
  fieldType := "text"
  validationJson := none
  defaultValue := .null
  isRequired := true
  isSystem := false
  orderIndex := 10
  sectionKey := none
  createdBy := 7
  updatedBy := none

/-- Tenant 1 has published inspections, with a serial number under the rules. -/
def inspections (fieldRules : Table ConfigObjectFieldRuleEntity) : SubmitDb where
  tenants := [1]
  tenantUsers := [7]
  templateSets := .ofRows [{ configTemplateSetId := 0, tenantId := some 1, status := .published }]
  configObjects := .ofRows
    [⟨⟨0, 1, "inspection", .published⟩, .standalone, none, "Inspection", none⟩]
  configFields := .ofRows [serialNumber]
  views := .empty _
  relationships := .empty _
  relationshipLogs := []
  fieldRules := fieldRules
  fieldKeysDistinct field member other otherMember _ _ := by
    rw [List.mem_singleton.mp member, List.mem_singleton.mp otherMember]

/-- The schema of inspections. -/
def inspectionSchema : RelationSchema where
  configObject := ⟨⟨1, 1, "inspection", .published⟩, .standalone, none, "Inspection", none⟩
  fields := [{ serialNumber with configObjectFieldId := 1 }]
  runner := .obj []
  relations := []
  relatedFieldRegistryByRelationKey := .obj []
  relationManifestsByKey := []

theorem inspections_published (fieldRules : Table ConfigObjectFieldRuleEntity) :
    getObjectSchemaWithRelations inspectionServices.toRelationServices
      (inspections fieldRules).toRelationDb (some 1) "inspection" =
        .ok (some inspectionSchema) := by
  show getObjectSchemaWithRelations _ (inspections (.empty _)).toRelationDb _ _ = _
  decide

end CoreApi.ConfigObjects
