import CoreApi.ConfigObjects.RelationCatalog
import CoreApi.ConfigObjects.RuntimeRelations

/-!
# Authored manifests at run time

A relationship stores the object of manifests that it is given as a whole, by relation.
The runtime takes what is stored for the manifest of the relation itself, and finds in
it entries where it looks for actions and query defaults. An entry under the key of the
relationship is therefore seen only where it asks for nothing else than what is seen
without it.
-/

namespace CoreApi.ConfigObjects

open CoreApi.Foundation Relationships RelationAuthoring RuntimeRelations ObjectDesign

/-! ## What is stored -/

section Stored

variable {label key : String} {block entry entry' : Record}

/-- An entry has known names only. -/
def KnownNames (entry : Record) : Prop := ∀ name ∈ entry.names, name ∈ allowedNames

theorem KnownNames.set (known : KnownNames entry) {name : String} (isKnown : name ∈ allowedNames)
    (value : Json) : KnownNames (entry.set name value) := by
  intro other member
  rcases (Record.mem_names_set entry name other value).mp member with old | rfl
  · exact known other old
  · exact isKnown

theorem KnownNames.withField (known : KnownNames entry) {name : String}
    (isKnown : name ∈ allowedNames) {normalized : Json → Checked Json}
    (checked : withField block name normalized entry = .ok entry') : KnownNames entry' := by
  unfold RelationAuthoring.withField at checked
  split at checked
  · cases checked
    exact known
  · cases checked
    exact known
  · obtain ⟨value, _, checked⟩ := bind_eq_ok.mp checked
    cases checked
    exact known.set isKnown value

theorem knownNames_entryFields (checked : entryFields label block = .ok entry) :
    KnownNames entry := by
  unfold entryFields at checked
  obtain ⟨_, isEntry, checked⟩ := bind_eq_ok.mp checked
  have knownNone : KnownNames [] := nofun
  have known := knownNone.withField (by decide) isEntry
  obtain ⟨_, isEntry, checked⟩ := bind_eq_ok.mp checked
  have known := known.withField (by decide) isEntry
  obtain ⟨_, isEntry, checked⟩ := bind_eq_ok.mp checked
  have known := known.withField (by decide) isEntry
  obtain ⟨_, isEntry, checked⟩ := bind_eq_ok.mp checked
  have known := known.withField (by decide) isEntry
  obtain ⟨_, isEntry, checked⟩ := bind_eq_ok.mp checked
  have known := known.withField (by decide) isEntry
  obtain ⟨_, isEntry, checked⟩ := bind_eq_ok.mp checked
  have known := known.withField (by decide) isEntry
  obtain ⟨_, isEntry, checked⟩ := bind_eq_ok.mp checked
  have known := known.withField (by decide) isEntry
  obtain ⟨_, isEntry, checked⟩ := bind_eq_ok.mp checked
  have known := known.withField (by decide) isEntry
  exact known.withField (by decide) checked

theorem knownNames_entryOfMode (known : KnownNames entry)
    (checked : entryOfMode label entry = .ok entry') : KnownNames entry' := by
  unfold entryOfMode at checked
  split at checked
  · unfold membershipEntry at checked
    obtain ⟨_, _, checked⟩ := bind_eq_ok.mp checked
    obtain ⟨_, _, checked⟩ := bind_eq_ok.mp checked
    obtain ⟨_, _, checked⟩ := bind_eq_ok.mp checked
    split at checked
    · cases checked
      exact known.set (by decide) _
    · cases checked
      exact known
  · unfold embeddedFormEntry at checked
    obtain ⟨_, _, checked⟩ := bind_eq_ok.mp checked
    obtain ⟨_, _, checked⟩ := bind_eq_ok.mp checked
    unfold embeddedActions at checked
    split at checked
    · obtain ⟨_, _, checked⟩ := bind_eq_ok.mp checked
      split at checked
      · cases checked
        exact known.set (by decide) _
      · cases checked
    · cases checked
  · cases checked
    exact known

theorem knownNames_normalizedEntry (checked : normalizedEntry key block = .ok entry) :
    KnownNames entry := by
  unfold normalizedEntry at checked
  dsimp only at checked
  split at checked
  · obtain ⟨fields, isFields, checked⟩ := bind_eq_ok.mp checked
    obtain ⟨_, _, checked⟩ := bind_eq_ok.mp checked
    exact knownNames_entryOfMode (knownNames_entryFields isFields) checked
  · cases checked

/-- Each relation of an object of manifests has an entry. -/
def HasEntries (manifests : Record) : Prop :=
  ∀ name value, manifests.get? name = some value → ∃ entry, value = .obj entry ∧ KnownNames entry

theorem HasEntries.assign {manifests : Record} (has : HasEntries manifests) {key : String}
    (known : KnownNames entry) : HasEntries (manifests.assign key (.obj entry)) := by
  intro name value found
  unfold Record.assign at found
  split at found
  · exact has name value found
  · by_cases same : name = key
    · rw [same, Record.get?_set_self] at found
      exact ⟨entry, (Option.some.inj found).symm, known⟩
    · rw [Record.get?_set_of_ne _ _ same] at found
      exact has name value found

/-- The object of manifests has entries. -/
theorem hasEntries_normalizedEntries {fields : List (String × Json)} {before after : Record}
    (has : HasEntries before) (checked : normalizedEntries fields before = .ok after) :
    HasEntries after := by
  induction fields generalizing before with
  | nil =>
      cases checked
      exact has
  | cons field rest ih =>
      obtain ⟨rawKey, value⟩ := field
      unfold normalizedEntries at checked
      split at checked
      · cases checked
      · next letters isKey =>
          obtain ⟨block, _, checked⟩ := bind_eq_ok.mp checked
          obtain ⟨entry, isEntry, checked⟩ := bind_eq_ok.mp checked
          exact ih (has.assign (knownNames_normalizedEntry isEntry)) checked

end Stored

/-! ## Calls that author manifests -/

/-- A call that gives a relationship its manifests. -/
inductive AuthoringCall where
  | createConfigRelationship (params : CreateConfigRelationshipParams)
  | updateConfigRelationship (params : UpdateConfigRelationshipParams)

/-- The `relationManifestsByKey` of the call. -/
def AuthoringCall.given : AuthoringCall → Option Json
  | .createConfigRelationship params => params.relationManifestsByKey
  | .updateConfigRelationship params => params.relationManifestsByKey

/-- Run the call. -/
def AuthoringCall.run : AuthoringCall → RelationTx ConfigObjectRelationshipEntity
  | .createConfigRelationship params => Relationships.createConfigRelationship params
  | .updateConfigRelationship params => Relationships.updateConfigRelationship params

/-- The object of manifests as it is normalised. -/
def normalizedManifests (given : Json) : Record :=
  match validateAndNormalizeRelationManifestsByKey given with
  | .ok (some (.obj manifests)) => manifests
  | _ => []

/-- An entry of the object under the key of a relationship, as it is normalised. -/
def EntryUnder (given : Json) (relationshipKey : String) (entry : Record) : Prop :=
  ∃ fields rawKey block, given = .obj fields ∧ (rawKey, .obj block) ∈ fields ∧
    String.ofList (Json.trimmed rawKey) = relationshipKey ∧
    normalizedEntry relationshipKey block = .ok entry

section Calls

variable {services : RelationServices} {db after : RelationDb} {call : AuthoringCall}
  {given : Json} {rel : ConfigObjectRelationshipEntity} {entry : Record}

theorem authored_eq_ok {α : Type} {result : Checked α} {value : α} :
    authored result = .ok value ↔ result = .ok value := by
  rcases result with message | checked
  · exact iff_of_false nofun nofun
  · exact ⟨fun same => congrArg _ (Except.ok.inj same), fun same => congrArg _ (Except.ok.inj same)⟩

theorem manifests_of_newRelationship {params : CreateConfigRelationshipParams}
    (isNew : newRelationship db params = .ok rel) :
    storedManifests params.relationManifestsByKey = .ok rel.relationManifestJson := by
  unfold newRelationship at isNew
  split at isNew
  · cases isNew
  · obtain ⟨_, _, isNew⟩ := bind_eq_ok.mp isNew
    obtain ⟨_, _, isNew⟩ := bind_eq_ok.mp isNew
    obtain ⟨_, isStored, isNew⟩ := bind_eq_ok.mp isNew
    cases isNew
    exact isStored

theorem manifests_of_editedRelationship {params : UpdateConfigRelationshipParams}
    {edited : ConfigObjectRelationshipEntity}
    (isEdit : editedRelationship db params = .ok (rel, edited)) :
    nextManifests params.relationManifestsByKey rel.relationManifestJson =
      .ok edited.relationManifestJson := by
  unfold editedRelationship at isEdit
  split at isEdit
  · cases isEdit
  · obtain ⟨_, _, isEdit⟩ := bind_eq_ok.mp isEdit
    obtain ⟨_, _, isEdit⟩ := bind_eq_ok.mp isEdit
    obtain ⟨_, isStored, isEdit⟩ := bind_eq_ok.mp isEdit
    cases isEdit
    exact isStored

theorem stored_of_run (isGiven : call.given = some given)
    (succeeds : call.run db = (.ok rel, after)) :
    rel ∈ after.relationships.rows ∧
      validateAndNormalizeRelationManifestsByKey given = .ok rel.relationManifestJson := by
  have keepsRows {tenantId entityId changedBy : Nat} {action : AuditAction}
      {oldValue newValue : Option Json} {s : RelationDb} {saved : ConfigObjectRelationshipEntity}
      (member : saved ∈ s.relationships.rows)
      (isStored : validateAndNormalizeRelationManifestsByKey given =
        .ok saved.relationManifestJson) :
      (logRelationship tenantId entityId action changedBy oldValue newValue >>= fun _ =>
        pure saved).wp (fun rel after => rel ∈ after.relationships.rows ∧
          validateAndNormalizeRelationManifestsByKey given = .ok rel.relationManifestJson)
          (fun _ _ => True) s := by
    rw [Program.wp_bind]
    let isSaved (rows : Table ConfigObjectRelationshipEntity) : Prop := saved ∈ rows.rows
    have saves : isSaved s.relationships := member
    exact Program.wp_mono (wp_logRelationship saves)
      (fun _ _ here => ⟨here, isStored⟩) fun _ _ _ => trivial
  refine @Program.wp_ok _ _ _ (fun rel after => rel ∈ after.relationships.rows ∧
    validateAndNormalizeRelationManifestsByKey given = .ok rel.relationManifestJson)
      (fun _ _ => True) db call.run ?_ rel after succeeds
  cases call with
  | createConfigRelationship params =>
      unfold AuthoringCall.run Relationships.createConfigRelationship
      rw [Program.wp_bind, Program.wp_read, Program.wp_bind]
      rcases isNew : newRelationship (id db) params with failure | new
      · trivial
      · have isStored := manifests_of_newRelationship isNew
        change params.relationManifestsByKey = some given at isGiven
        rw [isGiven] at isStored
        rw [Program.wp_lift_ok, Program.wp_bind]
        exact keepsRows (List.mem_append_right _ (List.mem_singleton_self _))
          (authored_eq_ok.mp isStored)
  | updateConfigRelationship params =>
      unfold AuthoringCall.run Relationships.updateConfigRelationship
      rw [Program.wp_bind, Program.wp_read, Program.wp_bind]
      rcases isEdit : editedRelationship (id db) params with failure | ⟨old, edited⟩
      · trivial
      · have isStored := manifests_of_editedRelationship isEdit
        obtain ⟨member, sameId, _, _⟩ := editedRelationship_eq_ok isEdit
        change params.relationManifestsByKey = some given at isGiven
        rw [isGiven] at isStored
        have isImage : edited = overwrittenRelationship edited old := by
          unfold overwrittenRelationship
          rw [← sameId]
        have isRow : edited ∈ (db.relationships.updateAt edited.configObjectRelationshipId
            (overwrittenRelationship edited) fun _ => rfl).rows :=
          Table.mem_updateAt.mpr (.inl ⟨old, member, sameId.symm, isImage⟩)
        rw [Program.wp_lift_ok, Program.wp_bind]
        exact keepsRows isRow (authored_eq_ok.mp isStored)

theorem stored_eq_normalized (isGiven : call.given = some given)
    (succeeds : call.run db = (.ok rel, after)) {relationshipKey : String}
    (under : EntryUnder given relationshipKey entry) :
    rel.relationManifestJson = objectOrNull (normalizedManifests given) ∧
      HasEntries (normalizedManifests given) := by
  obtain ⟨_, stored⟩ := stored_of_run isGiven succeeds
  obtain ⟨fields, rawKey, block, rfl, member, _⟩ := under
  have isNormalized := stored
  unfold validateAndNormalizeRelationManifestsByKey at stored
  obtain ⟨obj, isObj, stored⟩ := bind_eq_ok.mp stored
  cases isObj
  obtain ⟨manifests, isManifests, stored⟩ := bind_eq_ok.mp stored
  have hasNone : HasEntries [] := nofun
  have hasEntries := hasEntries_normalizedEntries hasNone isManifests
  rw [← Except.ok.inj stored] at isNormalized
  have isWhole : normalizedManifests (.obj fields) = manifests := by
    unfold normalizedManifests
    rw [isNormalized]
    cases manifests with
    | nil => rfl
    | cons first rest => rfl
  rw [isWhole]
  exact ⟨(Except.ok.inj stored).symm, hasEntries⟩

end Calls

/-! ## What is read -/

section Read

variable {services : RelationServices} {after : RelationDb} {tenantId : Option Nat}
  {entityKey : String} {schema : RelationSchema} {rel : ConfigObjectRelationshipEntity}

theorem relations_of_schema
    (reads : getObjectSchemaWithRelations services after tenantId entityKey = .ok (some schema)) :
    getMergedRelationshipCatalogForObjectType services after schema.configObject.objectType =
        .ok schema.relations ∧
      schema.relationManifestsByKey = schema.relations.map fun rel =>
        (rel.relationshipKey, rel.relationManifestJson) := by
  obtain ⟨found, _, reads⟩ := bind_eq_ok.mp reads
  rcases found with _ | found
  · cases reads
  · obtain ⟨attached, isAttached, reads⟩ := bind_eq_ok.mp reads
    cases reads
    obtain ⟨relations, isCatalog, isAttached⟩ := bind_eq_ok.mp isAttached
    cases isAttached
    exact ⟨isCatalog, rfl⟩

theorem lookup_values {α β : Type} (value : α → β) (entries : List (String × α)) (name : String) :
    (entries.map fun entry => (entry.1, value entry.2)).lookup name =
      (entries.lookup name).map value := by
  induction entries with
  | nil => rfl
  | cons first rest ih =>
      rw [List.map_cons, List.lookup_cons, List.lookup_cons]
      rcases name == first.1 with _ | _
      · exact ih
      · rfl

theorem mem_catalog {objectType : String} {relations : List RelationCatalogDescriptor}
    (isCatalog :
      getMergedRelationshipCatalogForObjectType services after objectType = .ok relations) :
    (relations.map RelationCatalogDescriptor.relationshipKey).Nodup ∧ ∀ descriptor,
      descriptor ∈ relations ↔
        descriptor ∈ generateOrmRelationDescriptorsForObjectType services objectType ∨
          ∃ row ∈ activeRelationships after objectType, designerDescriptor row = descriptor := by
  obtain ⟨merged, isMerged, isSorted⟩ := bind_eq_ok.mp isCatalog
  cases isSorted
  obtain ⟨free, distinct, rfl⟩ := withDesignerRows_eq_ok.mp isMerged
  constructor
  · exact ((sortedByKey_perm _).map _).nodup_iff.mpr (mergedKeys_nodup free distinct)
  · intro descriptor
    rw [(sortedByKey_perm _).mem_iff, List.mem_append, List.mem_map]

theorem declared_manifest {objectType : String} {descriptor : RelationCatalogDescriptor}
    (declared : descriptor ∈ generateOrmRelationDescriptorsForObjectType services objectType) :
    descriptor.relationManifestJson = none := by
  unfold generateOrmRelationDescriptorsForObjectType at declared
  split at declared
  · cases declared
  · have member := mem_firstByKey ((sortedByKey_perm _).mem_iff.mp declared)
    obtain ⟨target, _, rfl⟩ := List.mem_map.mp member
    rfl

/-- What the runtime finds for a relationship that is stored. -/
theorem lookup_of_schema
    (reads : getObjectSchemaWithRelations services after tenantId entityKey = .ok (some schema))
    (distinct : DistinctKeys after.relationships) (member : rel ∈ after.relationships.rows)
    (ofType : schema.configObject.objectType = rel.fromObjectType) :
    schema.relationManifestsByKey.lookup rel.relationshipKey =
      if rel.isActive = true then some rel.relationManifestJson
      else if rel.relationshipKey ∈ ormKeys services rel.fromObjectType then some none
      else none := by
  obtain ⟨isCatalog, isManifests⟩ := relations_of_schema reads
  rw [ofType] at isCatalog
  obtain ⟨keys, listed⟩ := mem_catalog isCatalog
  have entries : (schema.relationManifestsByKey.map Prod.fst).Nodup := by
    rw [isManifests, List.map_map]
    exact keys
  have found {descriptor : RelationCatalogDescriptor} (isListed : descriptor ∈ schema.relations)
      (sameKey : descriptor.relationshipKey = rel.relationshipKey) :
      schema.relationManifestsByKey.lookup rel.relationshipKey =
        some descriptor.relationManifestJson := by
    rw [← sameKey]
    have member : (descriptor.relationshipKey, descriptor.relationManifestJson) ∈
        schema.relationManifestsByKey := by
      rw [isManifests]
      exact List.mem_map_of_mem isListed
    exact lookup_of_mem entries member
  by_cases active : rel.isActive = true
  · rw [if_pos active]
    have isActive : rel ∈ activeRelationships after rel.fromObjectType :=
      Table.mem_select.mpr ⟨member, by simp [active]⟩
    exact found ((listed _).mpr (.inr ⟨rel, isActive, rfl⟩)) rfl
  · rw [if_neg active]
    by_cases declared : rel.relationshipKey ∈ ormKeys services rel.fromObjectType
    · rw [if_pos declared]
      obtain ⟨descriptor, isDeclared, sameKey⟩ := List.mem_map.mp declared
      rw [found ((listed _).mpr (.inl isDeclared)) sameKey, declared_manifest isDeclared]
    · rw [if_neg declared, List.lookup_eq_none_iff, isManifests]
      intro entry isEntry
      obtain ⟨descriptor, isListed, rfl⟩ := List.mem_map.mp isEntry
      have other : descriptor.relationshipKey ≠ rel.relationshipKey := by
        intro sameKey
        rcases (listed _).mp isListed with isDeclared | ⟨row, isActive, rfl⟩
        · exact declared (sameKey ▸ List.mem_map_of_mem isDeclared)
        · obtain ⟨rowMember, ofType⟩ := Table.mem_select.mp isActive
          simp only [Bool.and_eq_true, beq_iff_eq] at ofType
          -- Two rows of one type and key are one row, which is not active.
          have sameRow : row.configObjectRelationshipId = rel.configObjectRelationshipId := by
            by_contra different
            exact distinct row rowMember rel member different ⟨ofType.1, sameKey⟩
          exact active (Table.eq_of_key_eq rowMember member sameRow ▸ ofType.2)
      simpa using Ne.symm other

end Read

/-! ## What reaches the runtime -/

/-- The texts of an object that are not empty. -/
def nonEmptyTexts (fields : Record) : List String :=
  fields.filterMap fun field =>
    match field.2 with
    | .str text => if text = "" then none else some text
    | _ => none

/-- The caller has every permission that an action of the relation may ask for. -/
def HoldsAll (schema : RelationSchema) (relationKey : String)
    (grantedPermissions : List String) : Prop :=
  ∀ manifest ∈ manifestOf schema relationKey, ∀ actionRef,
    ∀ permission ∈ requiredPermissions manifest actionRef, permission ∈ grantedPermissions

section Reached

variable (services : RelationServices) (after : RelationDb) (tenantId : Option Nat)
  (entityKey : String) (schema : RelationSchema)

/-- The actions of an entry are the ones that are accepted for the relation, and its query defaults
are the ones that are reported for it. -/
def ReachesRuntime (relationKey : String) (grantedPermissions : List String) (entry : Record) :
    Prop :=
  (∀ actions, entry.get? "actions" = some (.obj actions) → ∀ actionRef,
    (∃ result, validateRuntimeRelationAction services after tenantId entityKey relationKey
      actionRef grantedPermissions = .ok result) ↔ actionRef ∈ nonEmptyTexts actions) ∧
  (∀ defaults, entry.get? "queryDefaults" = some defaults →
    (relationQueryDefaultsByKey schema).1.lookup relationKey =
      some (normalizeRuntimeRelationQueryDefaults (some defaults)))

end Reached

/-- The defaults where none are given. -/
def standardQueryDefaults : RelationQueryDefaults := ⟨1, 100, 1, .null, .null⟩

/-- The relation is listed, the texts among the actions are those of an entry `actions`, and the
query defaults are the standard ones. -/
def MatchesOuterEntries (services : RelationServices) (given : Json)
    (rel : ConfigObjectRelationshipEntity) (entry : Record) : Prop :=
  (∀ actions, entry.get? "actions" = some (.obj actions) → ∀ actionRef,
    actionRef ∈ nonEmptyTexts actions ↔
      rel.isActive = true ∧ actionRef ∈ nonBlankTexts
        ((objectAt (normalizedManifests given) "actions").map Prod.snd)) ∧
  (∀ defaults, entry.get? "queryDefaults" = some defaults →
    (rel.isActive = true ∨ rel.relationshipKey ∈ ormKeys services rel.fromObjectType) ∧
      normalizeRuntimeRelationQueryDefaults (some defaults) = standardQueryDefaults)

section Reached

variable {services : RelationServices} {db after : RelationDb} {call : AuthoringCall}
  {given : Json} {rel : ConfigObjectRelationshipEntity} {entry : Record}
  {tenantId : Option Nat} {entityKey : String} {schema : RelationSchema}
  {grantedPermissions : List String}

theorem accepted_iff {relationKey actionRef : String}
    (reads : getObjectSchemaWithRelations services after (effectiveTenant tenantId) entityKey =
      .ok (some schema))
    (holdsAll : HoldsAll schema relationKey grantedPermissions) :
    (∃ result, validateRuntimeRelationAction services after tenantId entityKey relationKey
      actionRef grantedPermissions = .ok result) ↔
      ∃ manifest ∈ manifestOf schema relationKey, actionRef ∈ knownActionRefs manifest := by
  unfold validateRuntimeRelationAction
  rw [reads]
  simp only [Bind.bind, Except.bind]
  rcases isManifest : manifestOf schema relationKey with _ | manifest
  · simp
  · unfold checkAction
    dsimp only
    by_cases known : actionRef ∈ knownActionRefs manifest
    · have none : (requiredPermissions manifest actionRef).filter
          (fun permission => !grantedPermissions.contains permission) = [] := by
        rw [List.filter_eq_nil_iff]
        intro permission required
        simpa using holdsAll manifest isManifest actionRef permission required
      rw [if_neg (not_not.mpr known), none]
      exact iff_of_true ⟨_, rfl⟩ ⟨manifest, rfl, known⟩
    · rw [if_pos known]
      simp [known]

/-- An entry has no defaults of its own, other than under its known names. -/
theorem normalize_of_knownNames {block : Record} (known : KnownNames block) :
    normalizeRuntimeRelationQueryDefaults (some (.obj block)) = standardQueryDefaults := by
  have absent {name : String} (unknown : name ∉ allowedNames) : block.get? name = none := by
    rw [Record.get?, List.lookup_eq_none_iff]
    intro field member
    have other : name ≠ field.1 := fun same =>
      unknown (known name (same ▸ List.mem_map_of_mem member))
    simpa using other
  unfold normalizeRuntimeRelationQueryDefaults givenQueryDefaults integerFrom
  simp only [absent (show "page" ∉ allowedNames by decide),
    absent (show "limit" ∉ allowedNames by decide), absent (show "depth" ∉ allowedNames by decide),
    absent (show "sort" ∉ allowedNames by decide), absent (show "filters" ∉ allowedNames by decide)]
  rfl

end Reached

/-! ## Milestones of a project -/

/-- An entry for milestones, with actions and query defaults. -/
def milestoneEntry (actions queryDefaults : Record) : Record :=
  [("mode", .str "related_list"), ("queryDefaults", .obj queryDefaults), ("actions", .obj actions)]

/-- The manifests of milestones. -/
def milestoneManifests (actions queryDefaults : Record) : Json :=
  .obj [("project_milestones", .obj (milestoneEntry actions queryDefaults))]

/-- Milestones are created with their manifests. -/
def createMilestones (actions queryDefaults : Record) : AuthoringCall :=
  .createConfigRelationship
    { projectToTasks "project_milestones" with
      relationManifestsByKey := some (milestoneManifests actions queryDefaults) }

/-- The relationship that is stored. -/
def milestones (actions queryDefaults : Record) : ConfigObjectRelationshipEntity where
  configObjectRelationshipId := 1
  fromObjectType := "project"
  toObjectType := "task"
  relationshipKey := "project_milestones"
  relationshipSource := .designer
  displayName := "project_milestones"
  cardinality := .oneToMany
  queryConfig := []
  relationManifestJson := some (milestoneManifests actions queryDefaults)
  isActive := true

/-- The configuration with the milestones. -/
def withMilestones (actions queryDefaults : Record) : RelationDb :=
  ((createMilestones actions queryDefaults).run projectsAndTasks).2

/-- The schema of projects with the milestones. -/
def milestoneSchema (actions queryDefaults : Record) : RelationSchema where
  configObject := ⟨⟨1, 1, "project", .published⟩, .sorBound, some "projects", "Project", none⟩
  fields := []
  runner := .obj []
  relations := [designerDescriptor (milestones actions queryDefaults),
    ormDescriptor "project" ("tasks", .oneToMany)]
  relatedFieldRegistryByRelationKey := .obj []
  relationManifestsByKey :=
    [("project_milestones", some (milestoneManifests actions queryDefaults)),
      ("project_tasks", none)]

theorem milestones_created (actions queryDefaults : Record)
    (returned : ((createMilestones actions queryDefaults).run projectsAndTasks).1 =
      .ok (milestones actions queryDefaults)) :
    (createMilestones actions queryDefaults).run projectsAndTasks =
      (.ok (milestones actions queryDefaults), withMilestones actions queryDefaults) :=
  Prod.ext returned rfl

theorem withMilestones_distinct (actions queryDefaults : Record) :
    DistinctKeys (withMilestones actions queryDefaults).relationships := by
  have stepped := @step_relationships projectsAndTasks (.createConfigRelationship
    { projectToTasks "project_milestones" with
      relationManifestsByKey := some (milestoneManifests actions queryDefaults) })
  have isStep := Program.state_of_discarded
    ((createMilestones actions queryDefaults).run) projectsAndTasks
  have isAfter : (withMilestones actions queryDefaults).relationships = relationshipsAfter _ _ :=
    (congrArg RelationDb.relationships isStep.symm).trans stepped
  rw [isAfter]
  exact distinctKeys_after projectsAndTasks_distinct _

/-- No permission is asked for. -/
theorem milestones_holdsAll (actions queryDefaults : Record) :
    HoldsAll (milestoneSchema actions queryDefaults) "project_milestones" [] := by
  intro manifest isManifest actionRef permission required
  cases isManifest
  cases required

theorem milestones_under {actions queryDefaults : Record}
    (checked : normalizedEntry "project_milestones" (milestoneEntry actions queryDefaults) =
      .ok (milestoneEntry actions queryDefaults)) :
    EntryUnder (milestoneManifests actions queryDefaults) "project_milestones"
      (milestoneEntry actions queryDefaults) :=
  ⟨_, "project_milestones", milestoneEntry actions queryDefaults, rfl, List.mem_singleton_self _,
    by decide, checked⟩

end CoreApi.ConfigObjects
