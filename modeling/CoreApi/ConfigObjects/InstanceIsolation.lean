import CoreApi.ConfigObjects.ObjectInstances

/-!
# Instances of other tenants

Projects, tasks and resources belong to tenants. Reading an instance never looks at
the tenant of its core row, and a patch looks at it only where it writes core columns.
A call therefore stays out of the rows of other tenants exactly when it is refused, or
finds no instance, before it comes to such a row.
-/

namespace CoreApi.ConfigObjects

open CoreApi.Foundation ObjectDesign

/-- A call of a tenant on instances. -/
inductive InstanceCall where
  | resolveObjectInstance (objectType : String) (coreId instanceId : Option Nat)
  | applySorBoundInstancePatch (objectType : String) (coreId : Nat) (corePatch metaPatch : Record)
      (customerId : Option Nat)

/-- The core tables whose rows belong to tenants. -/
def ownedByTenants : List SorType := [.project, .task, .resource]

/-- The row is of another tenant. -/
structure IsForeign (db : InstanceDb) (tenantId : Nat) (type : SorType) (row : SorRow) : Prop where
  owned : type ∈ ownedByTenants
  member : row ∈ (db.cores type).rows
  foreign : row.tenantId ≠ some tenantId

/-- The call names a row by its type and its id. -/
def Names (objectType : String) (coreId : Nat) (type : SorType) (row : SorRow) : Prop :=
  sorTypeOf objectType = some type ∧ coreId = row.coreId

/-- The parameters of a patch of a tenant. -/
def patchParams (tenantId : Nat) (objectType : String) (coreId : Nat)
    (corePatch metaPatch : Record) (customerId : Option Nat) : ApplySorBoundInstancePatchParams where
  tenantId := some tenantId
  objectType := objectType
  coreId := coreId
  corePatch := corePatch
  metaPatch := metaPatch
  customerId := customerId

section

variable (services : InstanceServices)

/-- What is read is the instance of the row: its core columns and its custom values. -/
def ReadReturns (result : Except DesignError (Option ResolvedInstance)) (type : SorType)
    (row : SorRow) : Prop :=
  ∃ objectType tenantId schema core dynamicFields,
    result = .ok (some (.sorBound objectType tenantId schema core dynamicFields)) ∧
      Names objectType core.coreId type row

/-- The row and its custom values are those of before. -/
def RowUntouched (db after : InstanceDb) (type : SorType) (row : SorRow) : Prop :=
  (after.cores type).find? row.coreId = some row ∧
    metaRowOf after type row.coreId = metaRowOf db type row.coreId

/-- A patch neither changes the row or its custom values, nor returns them. -/
def PatchSpares (db : InstanceDb) (params : ApplySorBoundInstancePatchParams) (type : SorType)
    (row : SorRow) : Prop :=
  (applySorBoundInstancePatch services params).wp
    (fun value after => RowUntouched db after type row ∧
      ¬Names params.objectType value.core.coreId type row)
    (fun _ after => RowUntouched db after type row) db

/-- No row of another tenant is returned or changed. -/
def IsolatesTenants (db : InstanceDb) (tenantId : Nat) : InstanceCall → Prop
  | .resolveObjectInstance objectType coreId instanceId => ∀ type row,
      IsForeign db tenantId type row →
        ¬ReadReturns (resolveObjectInstance services db tenantId objectType coreId instanceId)
          type row
  | .applySorBoundInstancePatch objectType coreId corePatch metaPatch customerId => ∀ type row,
      IsForeign db tenantId type row →
        PatchSpares services db
          (patchParams tenantId objectType coreId corePatch metaPatch customerId) type row

/-- The type resolves, for the tenant, to an object that is bound to a system of record. -/
def ResolvesToSor (db : InstanceDb) (tenantId : Nat) (objectType : String)
    (schema : ObjectSchema) : Prop :=
  getObjectSchema services.toSchemaServices db.toRuntimeDb (effectiveTenant (some tenantId))
      objectType = .ok (some schema) ∧
    schema.configObject.bindingMode = .sorBound

/-- A call that names a row of another tenant does not come to it: the type resolves to no object
that is bound to a system of record; what is read is a custom instance; or the patch has entries
for core columns, or none at all that may be written. -/
def StaysOut (db : InstanceDb) (tenantId : Nat) : InstanceCall → Prop
  | .resolveObjectInstance objectType coreId instanceId => ∀ type row,
      IsForeign db tenantId type row → (∃ id ∈ coreId, id ≠ 0 ∧ Names objectType id type row) →
        (∃ id ∈ instanceId, id ≠ 0) ∨ ∀ schema, ¬ResolvesToSor services db tenantId objectType schema
  | .applySorBoundInstancePatch objectType coreId corePatch metaPatch customerId =>
      let params := patchParams tenantId objectType coreId corePatch metaPatch customerId
      ∀ type row, IsForeign db tenantId type row → Names objectType coreId type row →
        ∀ schema, ResolvesToSor services db tenantId objectType schema →
          params.filteredCore ≠ [] ∨ params.filteredMeta schema = []

end

/-! ## Reading -/

section Reading

variable {services : InstanceServices} {db : InstanceDb} {tenantId : Nat} {objectType : String}

theorem text_of_sorTypeOf {type : SorType} (isType : sorTypeOf objectType = some type) :
    type.text = objectType := by
  simpa using List.find?_some isType

theorem loadCoreAndMeta_eq_some {coreId : Nat} {core : SorRow} {metaJson : Record} :
    loadCoreAndMeta db objectType coreId = some (core, metaJson) ↔
      ∃ type, sorTypeOf objectType = some type ∧ (db.cores type).find? coreId = some core ∧
        metaJsonOf (metaRowOf db type coreId) = metaJson := by
  simp [loadCoreAndMeta, Option.bind_eq_some_iff]

/-- What is read under a core id is the core row of that id. -/
theorem instanceOfSchema_eq {coreId : Nat} {schema : ObjectSchema} {found : ResolvedInstance}
    (resolved : instanceOfSchema services db tenantId objectType coreId schema
      = .ok (some found)) :
    schema.configObject.bindingMode = .sorBound ∧
      ∃ type core dynamicFields, sorTypeOf objectType = some type ∧
        (db.cores type).find? coreId = some core ∧
        found = .sorBound objectType tenantId schema core dynamicFields := by
  unfold instanceOfSchema at resolved
  rcases mode : schema.configObject.bindingMode with _ | _ | _ <;> rw [mode] at resolved
  · obtain ⟨⟨core, metaJson⟩, loaded, isFound⟩ :=
      Option.map_eq_some_iff.mp (Except.ok.inj resolved)
    obtain ⟨type, isType, isCore, _⟩ := loadCoreAndMeta_eq_some.mp loaded
    exact ⟨rfl, type, core, _, isType, isCore, isFound.symm⟩
  · cases resolved
  · cases resolved

/-- A custom instance is no core row. -/
theorem standalone_not_returned {instanceId : Nat} {type : SorType} {row : SorRow} :
    ¬ReadReturns (resolveStandaloneObjectInstance services db tenantId objectType instanceId)
      type row := by
  rintro ⟨_, _, _, _, _, resolved, _⟩
  obtain ⟨schema, _, resolved⟩ := bind_eq_ok.mp resolved
  rcases schema with _ | schema
  · cases resolved
  · dsimp only at resolved
    split at resolved
    · cases resolved
    · obtain ⟨_, _, isStandalone⟩ := Option.map_eq_some_iff.mp (Except.ok.inj resolved)
      cases isStandalone

/-- A core row is returned exactly when the call names it and the type resolves to an object that
is bound to a system of record. -/
theorem read_returns_iff {coreId : Nat} {type : SorType} {row : SorRow}
    (member : row ∈ (db.cores type).rows) :
    ReadReturns (resolveSorObjectInstance services db tenantId objectType coreId) type row ↔
      Names objectType coreId type row ∧
        ∃ schema, ResolvesToSor services db tenantId objectType schema := by
  unfold ResolvesToSor
  simp only [getObjectSchema_effectiveTenant]
  constructor
  · rintro ⟨objectType', _, _, core, _, resolved, isType, isRow⟩
    obtain ⟨schema, isSchema, resolved⟩ := bind_eq_ok.mp resolved
    rcases schema with _ | schema
    · cases resolved
    · obtain ⟨isSor, type', core', _, isType', isCore, same⟩ := instanceOfSchema_eq resolved
      have sameParts : core = core' ∧ objectType' = objectType := by
        cases same
        exact ⟨rfl, rfl⟩
      have isKey : core'.coreId = coreId := Table.key_of_find? isCore
      rw [sameParts.1] at isRow
      rw [sameParts.2] at isType
      exact ⟨⟨isType, isKey.symm.trans isRow⟩, schema, isSchema, isSor⟩
  · rintro ⟨⟨isType, rfl⟩, schema, isSchema, isSor⟩
    have isCore : (db.cores type).find? row.coreId = some row := Table.find?_of_mem member
    refine ⟨objectType, tenantId, schema, row, mergeDynamicFieldsFromSource services schema
      (metaJsonOf (metaRowOf db type row.coreId)), ?_, isType, rfl⟩
    unfold resolveSorObjectInstance
    rw [isSchema]
    change instanceOfSchema services db tenantId objectType row.coreId schema = _
    unfold instanceOfSchema
    rw [isSor]
    have loaded := loadCoreAndMeta_eq_some.mpr ⟨type, isType, isCore, rfl⟩
    simp only [loaded, Option.map_some]

/-- A read stays out of the rows of other tenants exactly when it is refused, or reads a custom
instance. -/
theorem read_isolates_iff {coreId instanceId : Option Nat} :
    IsolatesTenants services db tenantId (.resolveObjectInstance objectType coreId instanceId) ↔
      StaysOut services db tenantId (.resolveObjectInstance objectType coreId instanceId) := by
  unfold IsolatesTenants StaysOut
  refine forall₂_congr fun type row => forall_congr' fun foreign => ?_
  unfold resolveObjectInstance
  rcases isInstance : instanceId.filter (· ≠ 0) with _ | id
  · have noInstance : ¬∃ id ∈ instanceId, id ≠ 0 := by
      rintro ⟨id, given, positive⟩
      rw [Option.mem_def.mp given] at isInstance
      simp [positive] at isInstance
    simp only [noInstance, false_or, isInstance]
    rcases isCore : coreId.filter (· ≠ 0) with _ | id
    · have noCore : ¬∃ id ∈ coreId, id ≠ 0 ∧ Names objectType id type row := by
        rintro ⟨id, given, positive, _⟩
        rw [Option.mem_def.mp given] at isCore
        simp [positive] at isCore
      simp only [isCore]
      refine iff_of_true ?_ fun named => absurd named noCore
      rintro ⟨_, _, _, _, _, resolved, _⟩
      cases resolved
    · obtain ⟨given, positive⟩ := Option.filter_eq_some_iff.mp isCore
      have positive : id ≠ 0 := by simpa using positive
      have names : (∃ id ∈ coreId, id ≠ 0 ∧ Names objectType id type row) ↔
          Names objectType id type row := by simp [given, positive]
      simp only [isCore, read_returns_iff foreign.member, names, not_and, not_exists]
  · obtain ⟨given, positive⟩ := Option.filter_eq_some_iff.mp isInstance
    have isGiven : ∃ id ∈ instanceId, id ≠ 0 := ⟨id, given, by simpa using positive⟩
    simp only [isInstance]
    exact iff_of_true standalone_not_returned fun _ => .inl isGiven

end Reading

/-! ## Patching -/

section Patching

variable {services : InstanceServices} {db before after : InstanceDb}

/-- Only the row of a table under an id, and its custom values, were written. -/
structure WritesOnly (type : SorType) (coreId : Nat) (before after : InstanceDb) : Prop where
  cores : ∀ type' id, (type' = type → id ≠ coreId) →
    (after.cores type').find? id = (before.cores type').find? id
  metaRows : ∀ type' id, (type' = type → id ≠ coreId) →
    metaRowOf after type' id = metaRowOf before type' id

theorem WritesOnly.refl {type : SorType} {coreId : Nat} (db : InstanceDb) :
    WritesOnly type coreId db db := ⟨fun _ _ _ => rfl, fun _ _ _ => rfl⟩

theorem WritesOnly.trans {type : SorType} {coreId : Nat} {between : InstanceDb}
    (first : WritesOnly type coreId before between) (second : WritesOnly type coreId between after) :
    WritesOnly type coreId before after where
  cores type' id other := (second.cores type' id other).trans (first.cores type' id other)
  metaRows type' id other := (second.metaRows type' id other).trans (first.metaRows type' id other)

/-- The custom values of a row, by selection. -/
theorem metaRowOf_eq_head? {type : SorType} {coreId : Nat} :
    metaRowOf db type coreId =
      ((db.metaRows type).select fun row => row.coreId == coreId).head? :=
  (List.head?_filter).symm

theorem metaRowOf_mem {type : SorType} {coreId : Nat} {row : SorMetaRow}
    (found : metaRowOf db type coreId = some row) :
    row ∈ (db.metaRows type).rows ∧ row.coreId = coreId :=
  ⟨List.mem_of_find?_eq_some found, by simpa using List.find?_some found⟩

theorem writesOnly_saveCore {type : SorType} {row : SorRow} :
    (saveCore services type row).wp (fun _ after => WritesOnly type row.coreId db after)
      (fun _ after => after = db) db := by
  unfold saveCore
  rw [Program.wp_bind, Program.wp_read, Program.wp_ite, Program.wp_write]
  refine ⟨fun _ => ⟨fun type' id other => ?_, fun _ _ _ => rfl⟩, fun _ => rfl⟩
  by_cases same : type' = type
  · subst same
    simp only [Function.update_self]
    exact Table.find?_updateAt_of_ne (other rfl)
  · simp only [Function.update_of_ne same]

theorem writesOnly_saveMeta {type : SorType} {coreId : Nat} {metaJson : Record}
    {metaRow : Option SorMetaRow} (found : metaRowOf db type coreId = metaRow) :
    (saveMeta type coreId metaRow metaJson).wp
      (fun _ after => WritesOnly type coreId db after ∧ after.cores = db.cores)
      (fun _ _ => False) db := by
  unfold saveMeta
  rw [Program.wp_write]
  refine ⟨⟨fun _ _ _ => rfl, fun type' id other => ?_⟩, rfl⟩
  by_cases same : type' = type
  · subst same
    have different := other rfl
    rw [metaRowOf_eq_head?, metaRowOf_eq_head?]
    simp only [Function.update_self]
    rcases metaRow with _ | metaRow
    · -- A new row has the id that is patched.
      unfold Table.select
      rw [Table.rows_insert, List.filter_append]
      simp [Keyed.withKey, different.symm]
    · obtain ⟨member, ofRow⟩ := metaRowOf_mem found
      refine congrArg List.head? (Table.select_updateAt_of_unselected ?_)
      intro row rowMember isKey
      have isRow : row = metaRow := Table.eq_of_key_eq rowMember member isKey
      simp [isRow, ofRow, different.symm]
  · simp only [metaRowOf, Function.update_of_ne same]

theorem wp_findCore {target : PatchTarget} {coreId : Nat} {missing : String}
    {ok : SorRow → InstanceDb → Prop} {err : DesignError → InstanceDb → Prop}
    (found : ∀ row, (db.cores target.type).find? coreId = some row → ok row db)
    (absent : (db.cores target.type).find? coreId = none →
      err (.rpc (target.name ++ missing)) db) :
    (findCore target coreId missing).wp ok err db := by
  unfold findCore
  rw [Program.wp_bind, Program.wp_read]
  rcases isRow : (db.cores target.type).find? coreId with _ | row
  · exact absent isRow
  · exact found row isRow

/-- A patch writes the row it names and its custom values, once the row meets the target. -/
theorem patchCoreAndMeta_confined (target : PatchTarget) (coreId : Nat)
    (filteredCore filteredMeta : Record) :
    (patchCoreAndMeta services target coreId filteredCore filteredMeta).wp
      (fun value after => value.core.coreId = coreId ∧ WritesOnly target.type coreId db after ∧
        ∃ row, (db.cores target.type).find? coreId = some row ∧ target.checkRow row = .ok ())
      (fun _ _ => True) db := by
  unfold patchCoreAndMeta
  rw [Program.wp_bind]
  refine wp_findCore (fun row isRow => ?_) fun _ => trivial
  rw [Program.wp_bind]
  rcases checked : target.checkRow row with failure | _
  · exact trivial
  rw [Program.wp_lift_ok, Program.wp_bind]
  -- The core columns are written where the patch has some.
  have saved : (Program.when (filteredCore ≠ []) (saveCore services target.type
      { row with columns := assignFilteredCoreProps target.type row.columns filteredCore })).wp
        (fun _ between => WritesOnly target.type coreId db between) (fun _ _ => True) db := by
    rw [Program.wp_when]
    refine ⟨fun _ => ?_, fun _ => WritesOnly.refl db⟩
    have isKey : row.coreId = coreId := Table.key_of_find? isRow
    rw [← isKey]
    exact Program.wp_mono writesOnly_saveCore (fun _ _ writes => writes) fun _ _ _ => trivial
  refine Program.wp_mono saved ?_ fun _ _ _ => trivial
  intro _ between writesCore
  rw [Program.wp_bind, Program.wp_read, Program.wp_bind, Program.wp_when]
  have rest : ∀ after, WritesOnly target.type coreId db after →
      (findCore target coreId " not found after update." >>= fun core =>
        (pure ⟨core, (metaJsonOf (metaRowOf between target.type coreId)).spread filteredMeta⟩
          : InstanceTx ApplySorBoundInstancePatchResult)).wp
        (fun value after => value.core.coreId = coreId ∧ WritesOnly target.type coreId db after ∧
          ∃ row, (db.cores target.type).find? coreId = some row ∧ target.checkRow row = .ok ())
        (fun _ _ => True) after := by
    intro after writes
    rw [Program.wp_bind]
    refine wp_findCore (fun core isCore => ?_) fun _ => trivial
    exact ⟨Table.key_of_find? isCore, writes, row, isRow, checked⟩
  refine ⟨fun _ => ?_, fun _ => rest between writesCore⟩
  exact Program.wp_mono (writesOnly_saveMeta rfl)
    (fun _ after writes => rest after (writesCore.trans writes.1)) fun _ _ impossible =>
      impossible.elim

/-- A patch of custom values alone returns the row it names. -/
theorem patchCoreAndMeta_returns {target : PatchTarget} {coreId : Nat} {filteredMeta : Record}
    {row : SorRow} (isRow : (db.cores target.type).find? coreId = some row)
    (checked : target.checkRow row = .ok ()) :
    (patchCoreAndMeta services target coreId [] filteredMeta).wp
      (fun value _ => value.core = row) (fun _ _ => False) db := by
  unfold patchCoreAndMeta
  rw [Program.wp_bind]
  refine wp_findCore (fun found isFound => ?_) fun absent => nomatch isRow.symm.trans absent
  have same : found = row := Option.some.inj (isFound.symm.trans isRow)
  rw [same, checked, Program.wp_bind, Program.wp_lift_ok, Program.wp_bind, Program.wp_when]
  refine ⟨fun some => absurd rfl some, fun _ => ?_⟩
  rw [Program.wp_bind, Program.wp_read, Program.wp_bind, Program.wp_when]
  have rest : ∀ after, after.cores = db.cores →
      (findCore target coreId " not found after update." >>= fun core =>
        (pure ⟨core, (metaJsonOf (metaRowOf db target.type coreId)).spread filteredMeta⟩
          : InstanceTx ApplySorBoundInstancePatchResult)).wp
        (fun value _ => value.core = row) (fun _ _ => False) after := by
    intro after sameCores
    rw [Program.wp_bind]
    have isRow : (after.cores target.type).find? coreId = some row := by rw [sameCores, isRow]
    refine wp_findCore (fun core isCore => ?_) fun absent => nomatch isRow.symm.trans absent
    exact Option.some.inj (isCore.symm.trans isRow)
  refine ⟨fun _ => ?_, fun _ => rest db rfl⟩
  exact Program.wp_mono (writesOnly_saveMeta rfl) (fun _ after writes => rest after writes.2)
    fun _ _ impossible => impossible

/-- How the core table of an object type is patched. -/
def targetOf (params : ApplySorBoundInstancePatchParams) (type : SorType) : PatchTarget :=
  let scope := effectiveTenant params.tenantId
  match type with
  | .project => ⟨.project, "Project",
      checkTenantOfCore "Project does not belong to the specified tenant." scope
        params.filteredCore⟩
  | .task => ⟨.task, "Task",
      checkTenantOfCore "Task does not belong to the specified tenant." scope params.filteredCore⟩
  | .customer => ⟨.customer, "Customer", fun _ => .ok ()⟩
  | .customerContact => ⟨.customerContact, "Customer contact", checkCustomer params.customerId⟩
  | .resource => ⟨.resource, "Resource",
      checkTenantOfCore "Resource does not belong to the specified tenant." scope
        params.filteredCore⟩

/-- The patch of each core table is the shared one at its target. -/
theorem patch_eq_patchCoreAndMeta {params : ApplySorBoundInstancePatchParams}
    {schema : ObjectSchema} {type : SorType} (isType : sorTypeOf params.objectType = some type) :
    applySorBoundPatchInTransaction services params schema =
      patchCoreAndMeta services (targetOf params type) params.coreId params.filteredCore
        (params.filteredMeta schema) := by
  unfold applySorBoundPatchInTransaction
  rw [isType]
  cases type <;> rfl

theorem targetOf_type {params : ApplySorBoundInstancePatchParams} {type : SorType} :
    (targetOf params type).type = type := by
  cases type <;> rfl

/-- The tables that belong to tenants check the tenant where core columns are patched. -/
theorem targetOf_checkRow {params : ApplySorBoundInstancePatchParams} {type : SorType}
    (owned : type ∈ ownedByTenants) :
    ∃ message, (targetOf params type).checkRow =
      checkTenantOfCore message (effectiveTenant params.tenantId) params.filteredCore := by
  cases type
  · exact ⟨_, rfl⟩
  · exact ⟨_, rfl⟩
  · exact absurd owned (by decide)
  · exact absurd owned (by decide)
  · exact ⟨_, rfl⟩

/-- Every core table has descriptors. -/
theorem getSorFieldDescriptors_ne_nil {objectType : String} {type : SorType}
    (isType : sorTypeOf objectType = some type) : getSorFieldDescriptors objectType ≠ [] := by
  rw [← text_of_sorTypeOf isType]
  cases type <;> decide

/-- What a patch that returned has passed and done. -/
structure Patched (services : InstanceServices) (db : InstanceDb)
    (params : ApplySorBoundInstancePatchParams) (type : SorType) (schema : ObjectSchema)
    (after : InstanceDb) : Prop where
  isType : sorTypeOf params.objectType = some type
  isSchema : getObjectSchema services.toSchemaServices db.toRuntimeDb
    (effectiveTenant params.tenantId) params.objectType = .ok (some schema)
  checked : checkPatch params schema = .ok ()
  writes : WritesOnly type params.coreId db after
  meets : ∃ row, (db.cores type).find? params.coreId = some row ∧
    (targetOf params type).checkRow row = .ok ()

/-- A patch that returned has written the row it names; one that raises leaves the database as it
is. -/
theorem patch_confined (params : ApplySorBoundInstancePatchParams) :
    (applySorBoundInstancePatch services params).wp
      (fun value after => value.core.coreId = params.coreId ∧
        ∃ type schema, Patched services db params type schema after)
      (fun _ after => after = db) db := by
  unfold applySorBoundInstancePatch
  rw [Program.wp_bind, Program.wp_read, Program.wp_bind]
  rcases isSchema : getObjectSchema services.toSchemaServices (id db).toRuntimeDb
    (effectiveTenant params.tenantId) params.objectType with failure | schema
  · exact rfl
  rw [Program.wp_lift_ok]
  rcases schema with _ | schema
  · exact rfl
  dsimp only
  rw [Program.wp_bind]
  rcases checked : checkPatch params schema with failure | _
  · exact rfl
  rw [Program.wp_lift_ok, Program.wp_atomically]
  rcases isType : sorTypeOf params.objectType with _ | type
  · unfold applySorBoundPatchInTransaction
    rw [isType]
    exact rfl
  · rw [patch_eq_patchCoreAndMeta isType]
    refine Program.wp_mono (patchCoreAndMeta_confined _ _ _ _) ?_ fun _ _ _ => rfl
    rintro value after ⟨isCore, writes, meets⟩
    rw [targetOf_type] at writes meets
    exact ⟨isCore, type, schema, isType, isSchema, checked, writes, meets⟩

/-- A patch of custom values alone, of a row that any tenant may own, returns the row. -/
theorem patch_returns {params : ApplySorBoundInstancePatchParams} {schema : ObjectSchema}
    {type : SorType} {row : SorRow} (isType : sorTypeOf params.objectType = some type)
    (owned : type ∈ ownedByTenants)
    (isSchema : getObjectSchema services.toSchemaServices db.toRuntimeDb
      (effectiveTenant params.tenantId) params.objectType = .ok (some schema))
    (isSor : schema.configObject.bindingMode = .sorBound)
    (isRow : (db.cores type).find? params.coreId = some row)
    (noCore : params.filteredCore = []) (someMeta : params.filteredMeta schema ≠ []) :
    (applySorBoundInstancePatch services params).wp (fun value _ => value.core = row)
      (fun _ _ => False) db := by
  have checked : checkPatch params schema = .ok () := by
    unfold checkPatch
    simp [isSor, getSorFieldDescriptors_ne_nil isType, noCore, someMeta]
  unfold applySorBoundInstancePatch
  rw [Program.wp_bind, Program.wp_read, Program.wp_bind, id, isSchema, Program.wp_lift_ok]
  dsimp only
  rw [Program.wp_bind, checked, Program.wp_lift_ok, Program.wp_atomically,
    patch_eq_patchCoreAndMeta isType, noCore]
  refine patchCoreAndMeta_returns ?_ ?_
  · rw [targetOf_type]
    exact isRow
  · obtain ⟨message, isCheck⟩ := @targetOf_checkRow params type owned
    rw [isCheck, checkTenantOfCore, noCore]
    simp

theorem rowUntouched_of_writesOnly {type named : SorType} {coreId : Nat} {row : SorRow}
    (writes : WritesOnly named coreId db after) (member : row ∈ (db.cores type).rows)
    (other : type = named → row.coreId ≠ coreId) : RowUntouched db after type row :=
  ⟨(writes.cores type row.coreId other).trans (Table.find?_of_mem member),
    writes.metaRows type row.coreId other⟩

/-- A patch that passed its checks is of an object that is bound to a system of record, and has
entries; those of core columns have a tenant. -/
theorem of_checkPatch {params : ApplySorBoundInstancePatchParams} {schema : ObjectSchema}
    (checked : checkPatch params schema = .ok ()) :
    schema.configObject.bindingMode = .sorBound ∧
      (params.filteredCore = [] → params.filteredMeta schema ≠ []) ∧
      (params.filteredCore ≠ [] → effectiveTenant params.tenantId ≠ none) := by
  unfold checkPatch at checked
  split at checked
  · cases checked
  · next isSor =>
      split at checked
      · cases checked
      · split at checked
        · cases checked
        · next entries =>
            split at checked
            · cases checked
            · next hasScope =>
                exact ⟨not_not.mp isSor, fun noCore noMeta => entries ⟨noCore, noMeta⟩,
                  fun someCore noScope => hasScope ⟨someCore, noScope⟩⟩

/-- A patch that wrote core columns of a row of a tenant was made by that tenant. -/
theorem tenantId_of_patched {params : ApplySorBoundInstancePatchParams} {type : SorType}
    {schema : ObjectSchema} {row : SorRow} (patched : Patched services db params type schema after)
    (owned : type ∈ ownedByTenants) (isRow : (db.cores type).find? params.coreId = some row)
    (someCore : params.filteredCore ≠ []) : row.tenantId = effectiveTenant params.tenantId := by
  obtain ⟨found, isFound, meets⟩ := patched.meets
  have same : found = row := Option.some.inj (isFound.symm.trans isRow)
  obtain ⟨message, isCheck⟩ := @targetOf_checkRow params type owned
  rw [same, isCheck, checkTenantOfCore] at meets
  split at meets
  · cases meets
  · next ofTenant =>
      by_contra different
      exact ofTenant ⟨someCore, (of_checkPatch patched.checked).2.2 someCore, different⟩

/-- A patch stays out of the rows of other tenants exactly when it has entries for core columns,
or is refused, before it comes to such a row. -/
theorem patch_isolates_iff {tenantId : Nat} {objectType : String} {coreId : Nat}
    {corePatch metaPatch : Record} {customerId : Option Nat} :
    IsolatesTenants services db tenantId
        (.applySorBoundInstancePatch objectType coreId corePatch metaPatch customerId) ↔
      StaysOut services db tenantId
        (.applySorBoundInstancePatch objectType coreId corePatch metaPatch customerId) := by
  unfold IsolatesTenants StaysOut
  dsimp only
  generalize isParams : patchParams tenantId objectType coreId corePatch metaPatch customerId
    = params
  have ofTenant : params.tenantId = some tenantId := by rw [← isParams]; rfl
  have ofType : params.objectType = objectType := by rw [← isParams]; rfl
  have ofCore : params.coreId = coreId := by rw [← isParams]; rfl
  refine forall₂_congr fun type row => forall_congr' fun foreign => ?_
  constructor
  · rintro spares ⟨isType, isCore⟩ schema ⟨isSchema, isSor⟩
    by_contra leaks
    obtain ⟨noCore, someMeta⟩ := not_or.mp leaks
    rw [← ofType] at isType isSchema
    rw [← ofTenant] at isSchema
    have isRow : (db.cores type).find? params.coreId = some row := by
      rw [ofCore, isCore]
      exact Table.find?_of_mem foreign.member
    have returned := patch_returns isType foreign.owned isSchema isSor isRow (not_not.mp noCore)
      someMeta
    refine Program.wp_end (fun _ => False) (Program.wp_mono (Program.wp_and spares returned)
      ?_ fun _ _ impossible => impossible.2)
    rintro value _ ⟨⟨_, notNamed⟩, isValue⟩
    exact notNamed ⟨isType, congrArg SorRow.coreId isValue⟩
  · intro staysOut
    refine Program.wp_mono (patch_confined params) ?_ ?_
    · rintro value after ⟨isValue, type', schema, patched⟩
      have notNamed : ¬Names params.objectType params.coreId type row := by
        rintro ⟨isType, isCore⟩
        have sameType : type' = type := Option.some.inj (patched.isType.symm.trans isType)
        subst sameType
        have isSchema := patched.isSchema
        rw [ofTenant, ofType] at isSchema
        obtain ⟨isSor, entries, _⟩ := of_checkPatch patched.checked
        have someCore : params.filteredCore ≠ [] := by
          intro noCore
          rcases staysOut ⟨ofType ▸ isType, ofCore ▸ isCore⟩ schema ⟨isSchema, isSor⟩ with some | noMeta
          · exact some noCore
          · exact entries noCore noMeta
        have isRow : (db.cores type').find? params.coreId = some row := by
          rw [isCore]
          exact Table.find?_of_mem foreign.member
        have scope := tenantId_of_patched patched foreign.owned isRow someCore
        have hasScope := (of_checkPatch patched.checked).2.2 someCore
        rw [ofTenant] at scope hasScope
        have isScope : effectiveTenant (some tenantId) = some tenantId := by
          by_cases zero : tenantId = 0
          · exact absurd (by simp [effectiveTenant, zero]) hasScope
          · simp [effectiveTenant, zero]
        exact foreign.foreign (scope.trans isScope)
      refine ⟨rowUntouched_of_writesOnly patched.writes foreign.member ?_, ?_⟩
      · intro sameType isCore
        exact notNamed ⟨sameType ▸ patched.isType, isCore.symm⟩
      · rw [isValue]
        exact notNamed
    · rintro _ after rfl
      exact ⟨Table.find?_of_mem foreign.member, rfl⟩

/-- No row of another tenant is returned or changed exactly when a call that names such a row
does not come to it. -/
theorem isolates_tenants_iff (services : InstanceServices) (db : InstanceDb) (tenantId : Nat)
    (call : InstanceCall) :
    IsolatesTenants services db tenantId call ↔ StaysOut services db tenantId call := by
  cases call with
  | resolveObjectInstance objectType coreId instanceId => exact read_isolates_iff
  | applySorBoundInstancePatch objectType coreId corePatch metaPatch customerId =>
      exact patch_isolates_iff

end Patching

/-! ## A project of another tenant -/

/-- Letters of the English alphabet, fields as they are stored, and nothing derived from them. -/
def plainServices : InstanceServices where
  casing := latinCasing
  orderFields := id
  attachRunner _ _ _ _ := .ok (.obj [])
  applyDerivedRuntimeFields _ fields := fields
  acceptsCore _ _ _ := true

/-- The project of tenant 2. -/
def foreignProject : SorRow where
  coreId := 1
  tenantId := some 2
  customerId := none
  columns := [("name", .str "Bridge")]

/-- Tenant 1 has published an object of projects with a field for notes; the only project is one
of tenant 2. -/
def withForeignProject : InstanceDb where
  templateSets := .ofRows [{ configTemplateSetId := 0, tenantId := some 1, status := .published }]
  configObjects := .ofRows
    [{ configObjectId := 0
       configTemplateSetId := 1
       objectType := "project"
       status := .published
       bindingMode := .sorBound
       sorTableName := some "projects"
       displayName := "Project"
       description := none }]
  configFields := .ofRows
    [{ configObjectFieldId := 0
       configObjectId := 1
       fieldKey := "notes"
       label := "Notes"
       description := none
       fieldType := "text"
       validationJson := none
       defaultValue := .null
       isRequired := false
       isSystem := false
       orderIndex := 0
       sectionKey := none
       createdBy := 1
       updatedBy := some 1 }]
  views := .empty _
  cores type := if type = .project then .ofRows [foreignProject] else .empty _
  metaRows _ := .empty _
  customInstances := .empty _

theorem foreignProject_isForeign : IsForeign withForeignProject 1 .project foreignProject :=
  ⟨by decide, by decide, by decide⟩

/-- The schema of projects of tenant 1. -/
def projectSchema : ObjectSchema where
  configObject := ⟨⟨1, 1, "project", .published⟩, .sorBound, some "projects", "Project", none⟩
  fields := withForeignProject.configFields.rows
  runner := .obj []

theorem projectSchema_resolves :
    ResolvesToSor plainServices withForeignProject 1 "project" projectSchema := by
  constructor
  · decide
  · rfl

/-- Tenant 1 reads the project of tenant 2, and patches its notes. -/
theorem reaches_foreign_project :
    ¬IsolatesTenants plainServices withForeignProject 1
        (.resolveObjectInstance "project" (some 1) none) ∧
      ¬IsolatesTenants plainServices withForeignProject 1
        (.applySorBoundInstancePatch "project" 1 [] [("notes", .str "mine")] none) := by
  have named : Names "project" 1 .project foreignProject := ⟨by decide, rfl⟩
  rw [read_isolates_iff, patch_isolates_iff]
  constructor
  · intro staysOut
    rcases staysOut .project foreignProject foreignProject_isForeign ⟨1, rfl, by decide, named⟩
      with ⟨id, given, _⟩ | unresolved
    · cases given
    · exact unresolved projectSchema projectSchema_resolves
  · intro staysOut
    rcases staysOut .project foreignProject foreignProject_isForeign named projectSchema
      projectSchema_resolves with someCore | noMeta
    · exact someCore rfl
    · exact absurd noMeta (by decide)

end CoreApi.ConfigObjects
