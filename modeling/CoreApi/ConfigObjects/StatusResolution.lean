import CoreApi.ConfigObjects.StatusMappings
import CoreApi.Foundation.Program
import CoreApi.Foundation.Ranking
import CoreApi.Foundation.StepSystem
import CoreApi.Foundation.TableChanges

/-!
# Resolving states and statuses

The mappings of an object are read in both directions: the status for a state, and the state for a
status. Of several mappings a default comes first, then one with a lower index; the database may
return any of those that tie. The calls that write mappings look at neither direction.
-/

namespace CoreApi.ConfigObjects

open CoreApi.Foundation

namespace ConfigObjectsService

/-! ## Changing and removing mappings -/

structure UpdateConfigStatusMappingParams where
  tenantId : Option Nat
  configObjectStatusMappingId : Nat
  updatedBy : Nat
  stateKey : Option String := none
  statusSource : Option ConfigObjectStatusSource := none
  statusValue : Option String := none
  isDefault : Option Bool := none
  isTerminal : Option Bool := none
  orderIndex : Option Int := none

/-- The object of a mapping must be there, and in the scope of the call. -/
def objectOfMapping (db : ScopeDb) (tenantId : Option Nat)
    (mapping : ConfigObjectStatusMappingEntity) : Except MappingError ConfigObjectEntity :=
  match db.configObjects.find? mapping.configObjectId with
  | none => .error (.rpc "Config object not found for status mapping.")
  | some configObject =>
      if isInScope db.toViewDb (getEffectiveTenantId tenantId) configObject = true then
        .ok configObject
      else .error (.rpc "Status mapping does not belong to the specified tenant.")

/-- A state that is given must be one of the lifecycle of the object. -/
def checkState (db : ScopeDb) (configObjectId : Nat) : Option String → Except MappingError Unit
  | none => .ok ()
  | some stateKey =>
      match lifecycleState db configObjectId stateKey with
      | none => .error (.rpc ("Lifecycle state \"" ++ stateKey
          ++ "\" does not exist for this object."))
      | some _ => .ok ()

/-- A mapping with what an update gives. -/
def changedMapping (params : UpdateConfigStatusMappingParams)
    (mapping : ConfigObjectStatusMappingEntity) : ConfigObjectStatusMappingEntity :=
  { mapping with
    stateKey := params.stateKey.getD mapping.stateKey
    statusSource := params.statusSource.getD mapping.statusSource
    statusValue := params.statusValue.getD mapping.statusValue
    isDefault := params.isDefault.getD mapping.isDefault
    isTerminal := params.isTerminal.getD mapping.isTerminal
    orderIndex := params.orderIndex.getD mapping.orderIndex }

/-- The row that an update makes of a mapping. -/
def updatedMapping (db : ScopeDb) (params : UpdateConfigStatusMappingParams)
    (mapping : ConfigObjectStatusMappingEntity) :
    Except MappingError ConfigObjectStatusMappingEntity := do
  let _ ← objectOfMapping db params.tenantId mapping
  checkState db mapping.configObjectId params.stateKey
  pure (changedMapping params mapping)

/-- `uniq_cosm_state_status` refuses the row that is written again. -/
def mappingTakenByOther (db : ScopeDb) (mapping : ConfigObjectStatusMappingEntity) : Bool :=
  db.statusMappings.rows.any fun other =>
    other.configObjectStatusMappingId != mapping.configObjectStatusMappingId &&
      (other.configObjectId == mapping.configObjectId && other.stateKey == mapping.stateKey &&
        other.statusSource == mapping.statusSource && other.statusValue == mapping.statusValue)

/-- The columns of a saved mapping. -/
def overwrittenMapping (mapping row : ConfigObjectStatusMappingEntity) :
    ConfigObjectStatusMappingEntity :=
  { mapping with configObjectStatusMappingId := row.configObjectStatusMappingId }

theorem key_overwrittenMapping (mapping row : ConfigObjectStatusMappingEntity) :
    Keyed.key (overwrittenMapping mapping row) = Keyed.key row := rfl

/-- `configObjectStatusMappingRepository.save` of a row that was read. -/
def saveMapping (mapping : ConfigObjectStatusMappingEntity) : MappingTx Unit := do
  let db ← Program.read id
  if mappingTakenByOther db mapping = true then Program.raise .duplicateKey
  else Program.write fun db => { db with
    statusMappings := db.statusMappings.updateAt mapping.configObjectStatusMappingId
      (overwrittenMapping mapping) (key_overwrittenMapping mapping) }

/-- `configObjectStatusMappingRepository.remove`. -/
def removeMapping (configObjectStatusMappingId : Nat) : MappingTx Unit :=
  Program.write fun db => { db with
    statusMappings := db.statusMappings.remove fun mapping =>
      mapping.configObjectStatusMappingId == configObjectStatusMappingId }

/-- `logConfigChange` of a mapping that was there. -/
def logMappingChange (tenantId : Option Nat) (entityId : Nat) (action : AuditAction)
    (changedBy : Nat) (oldValue newValue : Option Json) : MappingTx Unit := do
  let db ← Program.read id
  if (∀ tenant ∈ tenantId, tenant ∈ db.tenants) ∧ changedBy ∈ db.tenantUsers then
    Program.write fun db => { db with
      statusMappingLogs := db.statusMappingLogs ++
        [{ tenantId := tenantId
           entityId := entityId
           action := action
           changedBy := changedBy
           oldValue := oldValue
           newValue := newValue }] }
  else Program.raise .foreignKey

/-- The audited fields of a mapping, but for its object. -/
def changedMappingFields (mapping : ConfigObjectStatusMappingEntity) : Json :=
  .obj [("stateKey", .str mapping.stateKey), ("statusSource", .str mapping.statusSource.text),
    ("statusValue", .str mapping.statusValue), ("isDefault", .bool mapping.isDefault),
    ("isTerminal", .bool mapping.isTerminal), ("orderIndex", .num mapping.orderIndex)]

/-- `updateConfigStatusMapping`. -/
def updateConfigStatusMapping (params : UpdateConfigStatusMappingParams) :
    MappingTx ConfigObjectStatusMappingEntity := do
  let db ← Program.read id
  match db.statusMappings.find? params.configObjectStatusMappingId with
  | none => Program.raise (.rpc "Config status mapping not found.")
  | some mapping => do
      let updated ← Program.lift (updatedMapping db params mapping)
      saveMapping updated
      logMappingChange (getEffectiveTenantId params.tenantId) updated.configObjectStatusMappingId
        .update params.updatedBy (some (changedMappingFields mapping))
        (some (changedMappingFields updated))
      pure updated

/-- `deleteConfigStatusMapping`. -/
def deleteConfigStatusMapping (tenantId : Option Nat)
    (configObjectStatusMappingId deletedBy : Nat) : MappingTx Unit := do
  let db ← Program.read id
  match db.statusMappings.find? configObjectStatusMappingId with
  | none => pure ()
  | some mapping => do
      let _ ← Program.lift (objectOfMapping db tenantId mapping)
      removeMapping mapping.configObjectStatusMappingId
      logMappingChange (getEffectiveTenantId tenantId) configObjectStatusMappingId .delete deletedBy
        (some (mappingFields mapping)) none

/-! ## Resolving -/

/-- `order: { isDefault: 'DESC', orderIndex: 'ASC' }`. -/
def precedes (first second : ConfigObjectStatusMappingEntity) : Bool :=
  (first.isDefault && !second.isDefault) ||
    (first.isDefault == second.isDefault && decide (first.orderIndex < second.orderIndex))

/-- The mappings of an object for statuses of a source. -/
def mappingsFrom (db : ScopeDb) (configObjectId : Nat) (statusSource : ConfigObjectStatusSource) :
    List ConfigObjectStatusMappingEntity :=
  db.statusMappings.select fun mapping =>
    mapping.configObjectId == configObjectId && mapping.statusSource == statusSource

/-- The result of `resolveLifecycleStateFromStatus`. -/
structure ResolvedState where
  objectType : String
  statusSource : ConfigObjectStatusSource
  statusValue : String
  stateKey : Option String
deriving DecidableEq

/-- The result of `resolveStatusFromLifecycleState`. -/
structure ResolvedStatus where
  objectType : String
  stateKey : String
  statusSource : Option ConfigObjectStatusSource
  statusValue : Option String
deriving DecidableEq

section

variable (reading : Reading ConfigObjectStatusMappingEntity) (db : ScopeDb)

/-- `resolveLifecycleStateFromStatus`. -/
def resolveLifecycleStateFromStatus (tenantId : Option Nat) (objectType : String)
    (statusSource : ConfigObjectStatusSource) (statusValue : String) :
    Except MappingError ResolvedState := do
  let configObject ← getConfigObjectForTenantScopeByObjectType db tenantId objectType
  let mapping := firstRanked precedes (reading.read (db.statusMappings.select fun mapping =>
    mapping.configObjectId == configObject.configObjectId &&
      mapping.statusSource == statusSource && mapping.statusValue == statusValue))
  pure
    { objectType := objectType
      statusSource := statusSource
      statusValue := statusValue
      stateKey := mapping.map ConfigObjectStatusMappingEntity.stateKey }

/-- `resolveStatusFromLifecycleState`. -/
def resolveStatusFromLifecycleState (tenantId : Option Nat) (objectType stateKey : String)
    (statusSource : Option ConfigObjectStatusSource) : Except MappingError ResolvedStatus := do
  let configObject ← getConfigObjectForTenantScopeByObjectType db tenantId objectType
  let mapping := firstRanked precedes (reading.read (db.statusMappings.select fun mapping =>
    mapping.configObjectId == configObject.configObjectId && mapping.stateKey == stateKey &&
      statusSource.all (mapping.statusSource == ·)))
  pure
    { objectType := objectType
      stateKey := stateKey
      statusSource := mapping.map ConfigObjectStatusMappingEntity.statusSource
      statusValue := mapping.map ConfigObjectStatusMappingEntity.statusValue }

end

/-! ## Runs of calls -/

/-- A call on mappings. -/
inductive MappingCall where
  | create (params : CreateConfigStatusMappingParams)
  | update (params : UpdateConfigStatusMappingParams)
  | delete (tenantId : Option Nat) (configObjectStatusMappingId deletedBy : Nat)

def MappingCall.run : MappingCall → MappingTx Unit
  | .create params => do let _ ← createConfigStatusMapping params
  | .update params => do let _ ← updateConfigStatusMapping params
  | .delete tenantId configObjectStatusMappingId deletedBy =>
      deleteConfigStatusMapping tenantId configObjectStatusMappingId deletedBy

/-- Calls on mappings, one after another. -/
def mappingCalls : StepSystem ScopeDb MappingCall where
  step db call := (call.run db).2

/-- The row that a call writes: the checks and the unique index let it through. -/
def writtenMapping (db : ScopeDb) : MappingCall → Option ConfigObjectStatusMappingEntity
  | .create params =>
      match getConfigObjectForTenantScopeByObjectType db params.tenantId params.objectType with
      | .error _ => none
      | .ok configObject =>
          if (lifecycleState db configObject.configObjectId params.stateKey).isSome = true ∧
              mappingTaken db (newMapping params configObject) = false then
            some (Keyed.withKey db.statusMappings.autoIncrement (newMapping params configObject))
          else none
  | .update params =>
      (db.statusMappings.find? params.configObjectStatusMappingId).bind fun mapping =>
        (updatedMapping db params mapping).toOption.filter fun updated =>
          !mappingTakenByOther db updated
  | .delete .. => none

/-- The row that a call takes out: the one that it writes anew, or removes. -/
def clearedMapping (db : ScopeDb) : MappingCall → Option ConfigObjectStatusMappingEntity
  | .create _ => none
  | .update params =>
      if (writtenMapping db (.update params)).isSome = true then
        db.statusMappings.find? params.configObjectStatusMappingId
      else none
  | .delete tenantId configObjectStatusMappingId _ =>
      (db.statusMappings.find? configObjectStatusMappingId).filter fun mapping =>
        (objectOfMapping db tenantId mapping).isOk

/-! ## What a call does -/

/-- The row is written, or stays. -/
def Leaves (db : ScopeDb) (call : MappingCall) (row : ConfigObjectStatusMappingEntity) : Prop :=
  writtenMapping db call = some row ∨
    row ∈ db.statusMappings.rows ∧ ∀ old ∈ clearedMapping db call, Keyed.key row ≠ Keyed.key old

/-- The call leaves these rows, and the objects as they are. -/
structure Performs (db : ScopeDb) (call : MappingCall) (after : ScopeDb) : Prop where
  views : after.toViewDb = db.toViewDb
  rows : ∀ row, row ∈ after.statusMappings.rows ↔ Leaves db call row

/-- An update keeps the key of the row. -/
theorem key_of_updatedMapping {db : ScopeDb} {params : UpdateConfigStatusMappingParams}
    {mapping updated : ConfigObjectStatusMappingEntity}
    (isUpdated : updatedMapping db params mapping = .ok updated) :
    updated.configObjectStatusMappingId = mapping.configObjectStatusMappingId := by
  obtain ⟨_, _, isUpdated⟩ := bind_eq_ok.mp isUpdated
  obtain ⟨_, _, isUpdated⟩ := bind_eq_ok.mp isUpdated
  cases isUpdated
  rfl

/-- What a call takes out was there. -/
theorem mem_of_clearedMapping {db : ScopeDb} {call : MappingCall}
    {old : ConfigObjectStatusMappingEntity} (isOld : clearedMapping db call = some old) :
    old ∈ db.statusMappings.rows := by
  cases call with
  | create => cases isOld
  | update params =>
      simp only [clearedMapping] at isOld
      split at isOld
      · exact Table.mem_of_find? isOld
      · cases isOld
  | delete =>
      exact Table.mem_of_find? (Option.filter_eq_some_iff.mp isOld).1

theorem Performs.of_none {db after : ScopeDb} {call : MappingCall}
    (written : writtenMapping db call = none) (cleared : clearedMapping db call = none)
    (views : after.toViewDb = db.toViewDb) (same : after.statusMappings = db.statusMappings) :
    Performs db call after where
  views := views
  rows row := by
    rw [same, Leaves, written, cleared]
    constructor
    · exact fun member => .inr ⟨member, fun _ isOld => by cases isOld⟩
    · rintro (isWritten | ⟨member, _⟩)
      · cases isWritten
      · exact member

theorem wp_logMapping {tenantId : Option Nat} {changedBy : Nat}
    {saved : ConfigObjectStatusMappingEntity} {db : ScopeDb} (holds : ScopeDb → Prop)
    (each : ∀ logs, holds { db with statusMappingLogs := logs }) :
    Program.wp (logMapping tenantId changedBy saved) (fun _ after => holds after)
      (fun _ after => holds after) db := by
  simp [logMapping, each]

theorem wp_logMappingChange {tenantId : Option Nat} {entityId : Nat} {action : AuditAction}
    {changedBy : Nat} {oldValue newValue : Option Json} {db : ScopeDb} (holds : ScopeDb → Prop)
    (each : ∀ logs, holds { db with statusMappingLogs := logs }) :
    Program.wp (logMappingChange tenantId entityId action changedBy oldValue newValue)
      (fun _ after => holds after) (fun _ after => holds after) db := by
  simp [logMappingChange, each]

theorem performs_createConfigStatusMapping (params : CreateConfigStatusMappingParams)
    (db : ScopeDb) :
    Program.wp (createConfigStatusMapping params)
      (fun _ after => Performs db (.create params) after)
      (fun _ after => Performs db (.create params) after) db := by
  unfold createConfigStatusMapping
  rw [Program.wp_bind, Program.wp_read, Program.wp_bind, id]
  rcases isFound : getConfigObjectForTenantScopeByObjectType db params.tenantId params.objectType
    with raised | configObject
  · have none : writtenMapping db (.create params) = none := by
      simp only [writtenMapping, isFound]
    exact .of_none none rfl rfl rfl
  · rw [Program.wp_lift_ok, createStatusMappingOf, Program.wp_bind, Program.wp_read]
    rcases isState : lifecycleState db configObject.configObjectId params.stateKey with _ | lifecycle
    · have none : writtenMapping db (.create params) = none := by
        simp only [writtenMapping, isFound, isState, Option.isSome_none, Bool.false_eq_true,
          false_and, if_false]
      simp only [id, isState]
      exact .of_none none rfl rfl rfl
    · simp only [id, isState]
      rw [Program.wp_bind, insertMapping, Program.wp_bind, Program.wp_read, id]
      rcases taken : mappingTaken db (newMapping params configObject) with _ | _
      · have written : writtenMapping db (.create params) = some
            (Keyed.withKey db.statusMappings.autoIncrement (newMapping params configObject)) := by
          simp only [writtenMapping, isFound, isState, taken, Option.isSome_some, and_self, if_true]
        rw [if_neg Bool.false_ne_true, Program.wp_writeReturning, Program.wp_bind]
        refine Program.wp_mono (wp_logMapping (Performs db (.create params)) fun logs =>
          ⟨rfl, fun row => ?_⟩) (fun _ _ performed => performed) (fun _ _ performed => performed)
        rw [Table.saves_insert row, Leaves, written, Option.some.injEq, eq_comm]
        refine or_congr_right (and_congr_right fun member => iff_of_true ?_ nofun)
        rw [Keyed.key_withKey]
        exact Nat.ne_of_lt (db.statusMappings.bounded row member).2
      · have none : writtenMapping db (.create params) = none := by
          simp only [writtenMapping, isFound, isState, taken, Option.isSome_some, true_and,
            Bool.true_eq_false, if_false]
        rw [if_pos rfl]
        exact .of_none none rfl rfl rfl

theorem performs_updateConfigStatusMapping (params : UpdateConfigStatusMappingParams)
    (db : ScopeDb) :
    Program.wp (updateConfigStatusMapping params)
      (fun _ after => Performs db (.update params) after)
      (fun _ after => Performs db (.update params) after) db := by
  have unwritten (none : writtenMapping db (.update params) = none) :
      Performs db (.update params) db := by
    refine .of_none none ?_ rfl rfl
    rw [clearedMapping, none, Option.isSome_none, if_neg Bool.false_ne_true]
  unfold updateConfigStatusMapping
  rw [Program.wp_bind, Program.wp_read]
  rcases isFound : db.statusMappings.find? params.configObjectStatusMappingId with _ | mapping
  · simp only [id, isFound]
    exact unwritten (by simp only [writtenMapping, isFound, Option.bind_none])
  · simp only [id, isFound]
    rw [Program.wp_bind]
    rcases isUpdated : updatedMapping db params mapping with raised | updated
    · exact unwritten (by
        simp only [writtenMapping, isFound, isUpdated, Option.bind_some, Except.toOption,
          Option.filter_none])
    · rw [Program.wp_lift_ok, Program.wp_bind, saveMapping, Program.wp_bind, Program.wp_read, id]
      rcases taken : mappingTakenByOther db updated with _ | _
      · have written : writtenMapping db (.update params) = some updated := by
          simp [writtenMapping, isFound, isUpdated, taken, Except.toOption]
        have cleared : clearedMapping db (.update params) = some mapping := by
          rw [clearedMapping, written, Option.isSome_some, if_pos rfl, isFound]
        have sameKey := key_of_updatedMapping isUpdated
        rw [if_neg Bool.false_ne_true, Program.wp_write, Program.wp_bind]
        refine Program.wp_mono (wp_logMappingChange (Performs db (.update params))
          fun logs => ⟨rfl, fun row => ?_⟩) (fun _ _ performed => performed)
          (fun _ _ performed => performed)
        have isRow := Table.mem_of_find? isFound
        have saves : Table.Saves db.statusMappings updated (db.statusMappings.updateAt
            updated.configObjectStatusMappingId (overwrittenMapping updated)
            (key_overwrittenMapping updated)) := by
          refine Table.saves_updateAt rfl ?_ ?_
          · rw [sameKey]
            exact Option.isSome_iff_exists.mpr ⟨mapping, Table.find?_of_mem isRow⟩
          · intro old _ isOld
            have sameOld : old.configObjectStatusMappingId =
              updated.configObjectStatusMappingId := isOld
            rw [overwrittenMapping, sameOld]
        rw [saves row, Leaves, written, cleared, Option.some.injEq, eq_comm]
        refine or_congr_right (and_congr_right fun _ => ?_)
        have keys : Keyed.key updated = Keyed.key mapping := sameKey
        rw [keys]
        constructor
        · intro different old isOld
          rwa [← Option.some.inj isOld]
        · exact fun each => each mapping rfl
      · rw [if_pos rfl]
        exact unwritten (by simp [writtenMapping, isFound, isUpdated, taken, Except.toOption])

theorem performs_deleteConfigStatusMapping (tenantId : Option Nat)
    (configObjectStatusMappingId deletedBy : Nat) (db : ScopeDb) :
    Program.wp (deleteConfigStatusMapping tenantId configObjectStatusMappingId deletedBy)
      (fun _ after => Performs db (.delete tenantId configObjectStatusMappingId deletedBy) after)
      (fun _ after => Performs db (.delete tenantId configObjectStatusMappingId deletedBy) after)
      db := by
  unfold deleteConfigStatusMapping
  rw [Program.wp_bind, Program.wp_read]
  rcases isFound : db.statusMappings.find? configObjectStatusMappingId with _ | mapping
  · simp only [id, isFound]
    exact .of_none rfl (by simp only [clearedMapping, isFound, Option.filter_none]) rfl rfl
  · simp only [id, isFound]
    rw [Program.wp_bind]
    rcases isAllowed : objectOfMapping db tenantId mapping with raised | configObject
    · exact .of_none rfl (by
        simp [clearedMapping, isFound, isAllowed, Except.isOk, Except.toBool]) rfl rfl
    · have cleared : clearedMapping db (.delete tenantId configObjectStatusMappingId deletedBy) =
          some mapping := by
        simp [clearedMapping, isFound, isAllowed, Except.isOk, Except.toBool]
      rw [Program.wp_lift_ok, removeMapping, Program.wp_bind, Program.wp_write]
      refine wp_logMappingChange (Performs db _) fun logs => ⟨rfl, fun row => ?_⟩
      rw [Table.mem_remove, Leaves, cleared]
      constructor
      · rintro ⟨member, different⟩
        refine .inr ⟨member, fun old isOld same => ?_⟩
        cases isOld
        have sameId : row.configObjectStatusMappingId = mapping.configObjectStatusMappingId := same
        rw [sameId] at different
        simp at different
      · rintro (isWritten | ⟨member, different⟩)
        · cases isWritten
        · refine ⟨member, ?_⟩
          have others : row.configObjectStatusMappingId ≠ mapping.configObjectStatusMappingId :=
            different mapping rfl
          simpa using others

/-- A call leaves the rows that it writes or lets stay. -/
theorem performs_step (db : ScopeDb) (call : MappingCall) :
    Performs db call (mappingCalls.step db call) := by
  cases call with
  | create params =>
      simp only [mappingCalls, MappingCall.run, Program.state_of_discarded]
      exact Program.wp_end _ (performs_createConfigStatusMapping params db)
  | update params =>
      simp only [mappingCalls, MappingCall.run, Program.state_of_discarded]
      exact Program.wp_end _ (performs_updateConfigStatusMapping params db)
  | delete tenantId configObjectStatusMappingId deletedBy =>
      exact Program.wp_end _
        (performs_deleteConfigStatusMapping tenantId configObjectStatusMappingId deletedBy db)

end ConfigObjectsService

end CoreApi.ConfigObjects
