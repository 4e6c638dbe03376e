import CoreApi.Foundation.StepSystem
import CoreApi.ConfigObjects.ConfigRelationships

/-!
# The catalog of relations under authoring

A catalog is broken by a key that occurs twice. Designers' keys are told apart where
they are stored, but nothing tells them from the keys of declared relations before
the catalog is read. Authoring keeps every catalog whole exactly when no call leaves
an active relationship under the key of a declared relation of its type.
-/

namespace CoreApi.ConfigObjects

open CoreApi.Foundation Relationships

/-- A call on relationships. -/
inductive RelationCall where
  | createConfigRelationship (params : CreateConfigRelationshipParams)
  | updateConfigRelationship (params : UpdateConfigRelationshipParams)
  | deleteConfigRelationship (tenantId configObjectRelationshipId deletedBy : Nat)

/-- Run a call. -/
def RelationCall.perform : RelationCall → RelationTx Unit
  | .createConfigRelationship params => do
      let _ ← Relationships.createConfigRelationship params
  | .updateConfigRelationship params => do
      let _ ← Relationships.updateConfigRelationship params
  | .deleteConfigRelationship tenantId configObjectRelationshipId deletedBy =>
      Relationships.deleteConfigRelationship tenantId configObjectRelationshipId deletedBy

/-- The relationships under calls; a call that raises keeps what it wrote. -/
def relationSystem : StepSystem RelationDb RelationCall where
  step db call := (call.perform db).2

/-- The row that a call stores, when it comes to storing one. -/
def storedRow (db : RelationDb) : RelationCall → Option ConfigObjectRelationshipEntity
  | .createConfigRelationship params => (newRelationship db params).toOption
  | .updateConfigRelationship params => (editedRelationship db params).toOption.map Prod.snd
  | .deleteConfigRelationship _ _ _ => none

section

variable (services : RelationServices)

/-- The keys of the declared relations of a type. -/
def ormKeys (objectType : String) : List String :=
  (generateOrmRelationDescriptorsForObjectType services objectType).map
    RelationCatalogDescriptor.relationshipKey

/-- Every catalog can be read, and lists each declared relation and each active relationship of
the type once, under distinct keys. -/
def CatalogsWhole (db : RelationDb) : Prop :=
  ∀ objectType, ∃ catalog,
    getMergedRelationshipCatalogForObjectType services db objectType = .ok catalog ∧
      (catalog.map RelationCatalogDescriptor.relationshipKey).Nodup ∧
      catalog.Perm (generateOrmRelationDescriptorsForObjectType services objectType ++
        (activeRelationships db objectType).map designerDescriptor)

/-- The call leaves no active row under the key of a declared relation. -/
def AvoidsOrmKeys (db : RelationDb) (call : RelationCall) : Prop :=
  ∀ rel ∈ storedRow db call, rel.isActive = true →
    rel.relationshipKey ∉ ormKeys services rel.fromObjectType

instance (db : RelationDb) (call : RelationCall) : Decidable (AvoidsOrmKeys services db call) :=
  inferInstanceAs (Decidable (∀ rel ∈ storedRow db call, _))

end

/-- Two rows are not the same relation of one type. -/
def OtherKey (first second : ConfigObjectRelationshipEntity) : Prop :=
  ¬(first.fromObjectType = second.fromObjectType ∧
    first.relationshipKey = second.relationshipKey)

/-- The unique index `uq_relationship_key`. -/
def DistinctKeys (relationships : Table ConfigObjectRelationshipEntity) : Prop :=
  relationships.Pairwise OtherKey

/-! ## Reading a catalog -/

section Reading

variable {services : RelationServices} {db : RelationDb} {objectType : String}

theorem withDesignerRows_eq_ok {rows : List ConfigObjectRelationshipEntity}
    {catalog merged : List RelationCatalogDescriptor} :
    withDesignerRows objectType catalog rows = .ok merged ↔
      (∀ row ∈ rows,
        row.relationshipKey ∉ catalog.map RelationCatalogDescriptor.relationshipKey) ∧
      (rows.map ConfigObjectRelationshipEntity.relationshipKey).Nodup ∧
      merged = catalog ++ rows.map designerDescriptor := by
  induction rows generalizing catalog with
  | nil =>
      simp only [withDesignerRows, List.map_nil, List.append_nil, List.not_mem_nil,
        false_implies, implies_true, List.nodup_nil, true_and, Except.ok.injEq]
      exact eq_comm
  | cons row rest ih =>
      unfold withDesignerRows
      by_cases taken : row.relationshipKey ∈ catalog.map RelationCatalogDescriptor.relationshipKey
      · rw [if_pos taken]
        exact iff_of_false nofun fun whole => whole.1 row List.mem_cons_self taken
      · rw [if_neg taken, ih]
        have keys : (catalog ++ [designerDescriptor row]).map RelationCatalogDescriptor.relationshipKey =
            catalog.map RelationCatalogDescriptor.relationshipKey ++ [row.relationshipKey] := by
          simp [designerDescriptor]
        rw [keys]
        simp only [List.mem_append, List.mem_singleton, not_or, List.mem_cons,
          List.not_mem_nil, or_false, forall_eq_or_imp, List.map_cons,
          List.nodup_cons, List.append_assoc, List.singleton_append]
        constructor
        · rintro ⟨free, distinct, isMerged⟩
          refine ⟨⟨taken, fun other member => (free other member).1⟩, ⟨?_, distinct⟩, isMerged⟩
          intro again
          obtain ⟨other, member, same⟩ := List.mem_map.mp again
          exact (free other member).2 same
        · rintro ⟨⟨_, free⟩, ⟨once, distinct⟩, isMerged⟩
          refine ⟨fun other member => ⟨free other member, ?_⟩, distinct, isMerged⟩
          intro same
          exact once (List.mem_map.mpr ⟨other, member, same⟩)

theorem mem_firstByKey {relations : List RelationCatalogDescriptor} {descriptor : RelationCatalogDescriptor}
    (member : descriptor ∈ firstByKey relations) : descriptor ∈ relations := by
  induction relations with
  | nil => exact member
  | cons first rest ih =>
      rcases List.mem_cons.mp member with same | member
      · exact same ▸ List.mem_cons_self
      · exact List.mem_cons_of_mem _ (ih (List.mem_filter.mp member).1)

theorem firstByKey_nodup (relations : List RelationCatalogDescriptor) :
    ((firstByKey relations).map RelationCatalogDescriptor.relationshipKey).Nodup := by
  induction relations with
  | nil => exact List.nodup_nil
  | cons first rest ih =>
      rw [firstByKey, List.map_cons, List.nodup_cons]
      refine ⟨?_, ih.sublist (List.filter_sublist.map _)⟩
      intro again
      obtain ⟨other, member, same⟩ := List.mem_map.mp again
      have different := (List.mem_filter.mp member).2
      exact (of_decide_eq_true different) same

theorem sortedByKey_perm (relations : List RelationCatalogDescriptor) :
    (sortedByKey services relations).Perm relations := List.perm_insertionSort _ relations

/-- Declared relations have distinct keys. -/
theorem ormKeys_nodup (objectType : String) : (ormKeys services objectType).Nodup := by
  unfold ormKeys generateOrmRelationDescriptorsForObjectType
  split
  · exact List.nodup_nil
  · exact ((sortedByKey_perm _).map _).nodup_iff.mpr (firstByKey_nodup _)

theorem activeRelationships_nodup (distinct : DistinctKeys db.relationships)
    (objectType : String) : ((activeRelationships db objectType).map
      ConfigObjectRelationshipEntity.relationshipKey).Nodup := by
  have rows : db.relationships.rows.Nodup := db.relationships.distinct.of_map
  refine List.Nodup.map_on ?_ (rows.filter _)
  intro row member other otherMember same
  obtain ⟨rowMember, ofType⟩ := Table.mem_select.mp member
  obtain ⟨otherRowMember, otherOfType⟩ := Table.mem_select.mp otherMember
  simp only [Bool.and_eq_true, beq_iff_eq] at ofType otherOfType
  by_contra different
  refine distinct row rowMember other otherRowMember ?_
    ⟨ofType.1.trans otherOfType.1.symm, same⟩
  exact fun sameId => different (Table.eq_of_key_eq rowMember otherRowMember sameId)

theorem mergedKeys_nodup {rows : List ConfigObjectRelationshipEntity}
    (free : ∀ row ∈ rows, row.relationshipKey ∉ ormKeys services objectType)
    (distinct : (rows.map ConfigObjectRelationshipEntity.relationshipKey).Nodup) :
    ((generateOrmRelationDescriptorsForObjectType services objectType ++
      rows.map designerDescriptor).map RelationCatalogDescriptor.relationshipKey).Nodup := by
  have designerKeys : (rows.map designerDescriptor).map
      RelationCatalogDescriptor.relationshipKey =
        rows.map ConfigObjectRelationshipEntity.relationshipKey := by
    rw [List.map_map]
    rfl
  rw [List.map_append, designerKeys]
  refine List.Nodup.append (ormKeys_nodup objectType) distinct ?_
  intro key declared again
  obtain ⟨row, isActive, rfl⟩ := List.mem_map.mp again
  exact free row isActive declared

theorem catalogsWhole_iff (distinct : DistinctKeys db.relationships) :
    CatalogsWhole services db ↔ ∀ row ∈ db.relationships.rows, row.isActive = true →
      row.relationshipKey ∉ ormKeys services row.fromObjectType := by
  constructor
  · intro whole row member active
    obtain ⟨catalog, isCatalog, _⟩ := whole row.fromObjectType
    obtain ⟨merged, isMerged, _⟩ := bind_eq_ok.mp isCatalog
    have isActive : row ∈ activeRelationships db row.fromObjectType :=
      Table.mem_select.mpr ⟨member, by simp [active]⟩
    exact (withDesignerRows_eq_ok.mp isMerged).1 row isActive
  · intro free objectType
    have isFree : ∀ row ∈ activeRelationships db objectType,
        row.relationshipKey ∉ ormKeys services objectType := by
      intro row isActive
      obtain ⟨member, ofType⟩ := Table.mem_select.mp isActive
      simp only [Bool.and_eq_true, beq_iff_eq] at ofType
      exact ofType.1 ▸ free row member ofType.2
    have isMerged := (@withDesignerRows_eq_ok objectType _ _ _).mpr
      ⟨isFree, activeRelationships_nodup distinct objectType, rfl⟩
    refine ⟨sortedByKey services (generateOrmRelationDescriptorsForObjectType services objectType ++
      (activeRelationships db objectType).map designerDescriptor), ?_, ?_, sortedByKey_perm _⟩
    · exact bind_eq_ok.mpr ⟨_, isMerged, rfl⟩
    · exact ((sortedByKey_perm _).map _).nodup_iff.mpr
        (mergedKeys_nodup isFree (activeRelationships_nodup distinct objectType))

/-- Where catalogs are whole, schemas are put together. -/
theorem attachRelationCatalog_of_whole (whole : CatalogsWhole services db)
    (schema : ObjectSchema) :
    ∃ relations, attachRelationCatalog services db schema = .ok relations := by
  obtain ⟨catalog, isCatalog, _⟩ := whole schema.configObject.objectType
  exact ⟨_, bind_eq_ok.mpr ⟨catalog, isCatalog, rfl⟩⟩

end Reading

/-! ## Authoring -/

section Authoring

variable {services : RelationServices} {db : RelationDb}

theorem wp_logRelationship {tenantId entityId changedBy : Nat} {action : AuditAction}
    {oldValue newValue : Option Json} {holds : Table ConfigObjectRelationshipEntity → Prop}
    (here : holds db.relationships) :
    (logRelationship tenantId entityId action changedBy oldValue newValue).wp
      (fun _ after => holds after.relationships) (fun _ after => holds after.relationships) db := by
  unfold logRelationship
  rw [Program.wp_bind, Program.wp_read, Program.wp_ite, Program.wp_write]
  exact ⟨fun _ => here, fun _ => here⟩

/-- What a call leaves of the table of relationships. -/
def relationshipsAfter (db : RelationDb) : RelationCall → Table ConfigObjectRelationshipEntity
  | .createConfigRelationship params =>
      match newRelationship db params with
      | .ok rel => db.relationships.insert rel
      | .error _ => db.relationships
  | .updateConfigRelationship params =>
      match editedRelationship db params with
      | .ok edited => db.relationships.updateAt edited.2.configObjectRelationshipId
          (overwrittenRelationship edited.2) fun _ => rfl
      | .error _ => db.relationships
  | .deleteConfigRelationship tenantId configObjectRelationshipId _ =>
      match db.relationships.find? configObjectRelationshipId with
      | none => db.relationships
      | some rel =>
          match assertRelationshipEndpointsPublishedInScope db tenantId rel.fromObjectType
            rel.toObjectType with
          | .ok _ => db.relationships.remove fun other =>
              other.configObjectRelationshipId == rel.configObjectRelationshipId
          | .error _ => db.relationships

theorem step_relationships (call : RelationCall) :
    (relationSystem.step db call).relationships = relationshipsAfter db call := by
  refine Program.wp_end (fun after : RelationDb =>
    after.relationships = relationshipsAfter db call) ?_
  cases call with
  | createConfigRelationship params =>
      unfold RelationCall.perform createConfigRelationship relationshipsAfter
      simp only [Program.wp_bind, Program.wp_read, id]
      rcases newRelationship db params with failure | rel
      · rfl
      · rw [Program.wp_lift_ok]
        unfold insertRelationship
        rw [Program.wp_writeReturning]
        exact @wp_logRelationship { db with relationships := db.relationships.insert rel } _ _ _ _
          _ _ (fun after => after = db.relationships.insert rel) rfl
  | updateConfigRelationship params =>
      unfold RelationCall.perform updateConfigRelationship relationshipsAfter
      simp only [Program.wp_bind, Program.wp_read, id]
      rcases editedRelationship db params with failure | ⟨rel, edited⟩
      · rfl
      · rw [Program.wp_lift_ok]
        unfold saveRelationship
        rw [Program.wp_write]
        exact @wp_logRelationship { db with relationships := _ } _ _ _ _ _ _
          (fun after => after = _) rfl
  | deleteConfigRelationship tenantId configObjectRelationshipId deletedBy =>
      unfold RelationCall.perform deleteConfigRelationship relationshipsAfter
      simp only [Program.wp_bind, Program.wp_read, id]
      rcases db.relationships.find? configObjectRelationshipId with _ | rel
      · rfl
      · dsimp only
        rw [Program.wp_bind]
        rcases assertRelationshipEndpointsPublishedInScope db tenantId rel.fromObjectType
          rel.toObjectType with failure | _
        · rfl
        · rw [Program.wp_lift_ok, Program.wp_bind]
          unfold removeRelationship
          rw [Program.wp_write]
          exact @wp_logRelationship { db with relationships := _ } _ _ _ _ _ _
            (fun after => after = _) rfl

/-- An update keeps the row in its place, of its type and under its key. -/
theorem editedRelationship_eq_ok {params : UpdateConfigRelationshipParams}
    {rel edited : ConfigObjectRelationshipEntity}
    (isEdit : editedRelationship db params = .ok (rel, edited)) :
    rel ∈ db.relationships.rows ∧
      edited.configObjectRelationshipId = rel.configObjectRelationshipId ∧
      edited.fromObjectType = rel.fromObjectType ∧
      edited.relationshipKey = rel.relationshipKey := by
  unfold editedRelationship at isEdit
  rcases found : db.relationships.find? params.configObjectRelationshipId with _ | existing
  · rw [found] at isEdit
    cases isEdit
  · rw [found] at isEdit
    obtain ⟨_, _, isEdit⟩ := bind_eq_ok.mp isEdit
    obtain ⟨_, _, isEdit⟩ := bind_eq_ok.mp isEdit
    obtain ⟨_, _, isEdit⟩ := bind_eq_ok.mp isEdit
    cases isEdit
    exact ⟨Table.mem_of_find? found, rfl, rfl, rfl⟩

theorem newRelationship_eq_ok {params : CreateConfigRelationshipParams}
    {rel : ConfigObjectRelationshipEntity} (isNew : newRelationship db params = .ok rel) :
    ∀ row ∈ db.relationships.rows, OtherKey row rel := by
  unfold newRelationship at isNew
  split at isNew
  · cases isNew
  · next free =>
      obtain ⟨_, _, isNew⟩ := bind_eq_ok.mp isNew
      obtain ⟨_, _, isNew⟩ := bind_eq_ok.mp isNew
      obtain ⟨_, _, isNew⟩ := bind_eq_ok.mp isNew
      cases isNew
      rintro row member ⟨sameType, sameKey⟩
      exact free (List.any_eq_true.mpr ⟨row, member, by simp_all⟩)

/-- The keys stay distinct, whatever is called. -/
theorem distinctKeys_after (distinct : DistinctKeys db.relationships) (call : RelationCall) :
    DistinctKeys (relationshipsAfter db call) := by
  cases call with
  | createConfigRelationship params =>
      rcases isNew : newRelationship db params with failure | rel <;>
        simp only [relationshipsAfter, isNew]
      · exact distinct
      · refine Table.Pairwise.append distinct
          (fun other same => other ⟨same.1.symm, same.2.symm⟩) Table.rows_insert ?_
        exact fun row member same => newRelationship_eq_ok isNew row member same
  | updateConfigRelationship params =>
      rcases isEdit : editedRelationship db params with failure | ⟨rel, edited⟩ <;>
        simp only [relationshipsAfter, isEdit]
      · exact distinct
      · obtain ⟨member, sameId, sameType, sameKey⟩ := editedRelationship_eq_ok isEdit
        let sameKeys (row image : ConfigObjectRelationshipEntity) : Prop :=
          image.fromObjectType = row.fromObjectType ∧
            image.relationshipKey = row.relationshipKey
        have reflexive : ∀ row, sameKeys row row := fun _ => ⟨rfl, rfl⟩
        refine Table.Pairwise.images distinct (Table.images_update reflexive ?_) ?_
        · intro row rowMember isRow
          have same : row = rel :=
            Table.eq_of_key_eq rowMember member ((beq_iff_eq.mp isRow).trans sameId)
          exact ⟨same ▸ sameType, same ▸ sameKey⟩
        · rintro a b a' b' ⟨typeA, keyA⟩ ⟨typeB, keyB⟩ other ⟨type, key⟩
          exact other ⟨typeA.symm.trans (type.trans typeB), keyA.symm.trans (key.trans keyB)⟩
  | deleteConfigRelationship tenantId configObjectRelationshipId deletedBy =>
      simp only [relationshipsAfter]
      split
      · exact distinct
      · split
        · intro row member other otherMember
          exact distinct row (Table.mem_remove.mp member).1 other
            (Table.mem_remove.mp otherMember).1
        · exact distinct

/-- One row has the type, the key and the activity of the other. -/
def SameRelation (first second : ConfigObjectRelationshipEntity) : Prop :=
  first.fromObjectType = second.fromObjectType ∧
    first.relationshipKey = second.relationshipKey ∧ first.isActive = second.isActive

theorem mem_relationshipsAfter {call : RelationCall} {row : ConfigObjectRelationshipEntity}
    (member : row ∈ (relationshipsAfter db call).rows) :
    row ∈ db.relationships.rows ∨ ∃ rel ∈ storedRow db call, SameRelation rel row := by
  cases call with
  | createConfigRelationship params =>
      rcases isNew : newRelationship db params with failure | rel <;>
        simp only [relationshipsAfter, storedRow, isNew] at member ⊢
      · exact .inl member
      · rw [Table.rows_insert] at member
        rcases List.mem_append.mp member with old | new
        · exact .inl old
        · exact .inr ⟨rel, rfl, List.mem_singleton.mp new ▸ ⟨rfl, rfl, rfl⟩⟩
  | updateConfigRelationship params =>
      rcases isEdit : editedRelationship db params with failure | ⟨rel, edited⟩ <;>
        simp only [relationshipsAfter, storedRow, isEdit] at member ⊢
      · exact .inl member
      · rcases Table.mem_updateAt.mp member with ⟨old, _, _, rfl⟩ | ⟨old, _⟩
        · exact .inr ⟨edited, rfl, rfl, rfl, rfl⟩
        · exact .inl old
  | deleteConfigRelationship tenantId configObjectRelationshipId deletedBy =>
      simp only [relationshipsAfter] at member
      left
      split at member
      · exact member
      · split at member
        · exact (Table.mem_remove.mp member).1
        · exact member

theorem stored_mem_after {call : RelationCall} {rel : ConfigObjectRelationshipEntity}
    (stored : rel ∈ storedRow db call) :
    ∃ row ∈ (relationshipsAfter db call).rows, SameRelation rel row := by
  cases call with
  | createConfigRelationship params =>
      rcases isNew : newRelationship db params with failure | new <;>
        simp only [relationshipsAfter, storedRow, isNew] at stored ⊢
      · cases stored
      · cases stored
        refine ⟨Keyed.withKey db.relationships.autoIncrement rel, ?_, rfl, rfl, rfl⟩
        rw [Table.rows_insert]
        exact List.mem_append_right _ (List.mem_singleton_self _)
  | updateConfigRelationship params =>
      rcases isEdit : editedRelationship db params with failure | ⟨old, edited⟩ <;>
        simp only [relationshipsAfter, storedRow, isEdit] at stored ⊢
      · cases stored
      · cases stored
        obtain ⟨member, sameId, _, _⟩ := editedRelationship_eq_ok isEdit
        exact ⟨overwrittenRelationship edited old,
          Table.mem_updateAt.mpr (.inl ⟨old, member, sameId.symm, rfl⟩), rfl, rfl, rfl⟩
  | deleteConfigRelationship => cases stored

theorem catalogsWhole_step_iff (distinct : DistinctKeys db.relationships)
    (whole : CatalogsWhole services db) (call : RelationCall) :
    CatalogsWhole services (relationSystem.step db call) ↔ AvoidsOrmKeys services db call := by
  have free := (catalogsWhole_iff distinct).mp whole
  have distinctAfter : DistinctKeys (relationSystem.step db call).relationships := by
    rw [step_relationships]
    exact distinctKeys_after distinct call
  rw [catalogsWhole_iff distinctAfter, step_relationships]
  constructor
  · intro freeAfter rel stored active
    obtain ⟨row, member, sameType, sameKey, sameActivity⟩ := stored_mem_after stored
    rw [sameType, sameKey]
    exact freeAfter row member (sameActivity ▸ active)
  · intro avoids row member active
    rcases mem_relationshipsAfter member with old | ⟨rel, stored, sameType, sameKey, sameActivity⟩
    · exact free row old active
    · rw [← sameType, ← sameKey]
      exact avoids rel stored (sameActivity.symm ▸ active)

end Authoring

/-! ## Tasks of a project -/

/-- Projects declare their tasks; nothing else is added to schemas. -/
def projectRelations : RelationServices where
  casing := latinCasing
  orderFields := id
  attachRunner _ _ _ _ := .ok (.obj [])
  declared := [{ target := "projects", relationType := .oneToMany, type := some "tasks" }]
  localeBefore first second := decide (first.toList ≤ second.toList)
  relatedFieldRegistry _ _ _ := .obj []

/-- Tenant 1 has published objects of projects and tasks, without relationships between them. -/
def projectsAndTasks : RelationDb where
  tenants := [1]
  tenantUsers := [7]
  templateSets := .ofRows [{ configTemplateSetId := 0, tenantId := some 1, status := .published }]
  configObjects := .ofRows
    [⟨⟨0, 1, "project", .published⟩, .sorBound, some "projects", "Project", none⟩,
      ⟨⟨0, 1, "task", .published⟩, .sorBound, some "tasks", "Task", none⟩]
  configFields := .empty _
  views := .empty _
  relationships := .empty _
  relationshipLogs := []

theorem projectsAndTasks_distinct : DistinctKeys projectsAndTasks.relationships := nofun

theorem projectsAndTasks_whole : CatalogsWhole projectRelations projectsAndTasks :=
  (catalogsWhole_iff projectsAndTasks_distinct).mpr nofun

/-- A relationship between projects and tasks. -/
def projectToTasks (relationshipKey : String) : CreateConfigRelationshipParams where
  tenantId := 1
  fromObjectType := "project"
  toObjectType := "task"
  relationshipKey := relationshipKey
  cardinality := .oneToMany
  createdBy := 7

/-- Milestones are created, put aside and taken up again. -/
def milestoneCalls : List RelationCall :=
  [.createConfigRelationship (projectToTasks "project_milestones"),
    .updateConfigRelationship
      { tenantId := 1, configObjectRelationshipId := 1, updatedBy := 7, isActive := some false },
    .updateConfigRelationship
      { tenantId := 1, configObjectRelationshipId := 1, updatedBy := 7, isActive := some true }]

end CoreApi.ConfigObjects
