import Mathlib
import CoreApi.ConfigObjects.StatusResolution

/-!
# Inverse resolutions

The status for a state leads back to the state when one mapping comes first for the state, and
comes first for its value as well. The unique index keeps two mappings of one object from being for
one state, source and value, and nothing keeps two from tying, or two states from one value.
-/

namespace CoreApi.ConfigObjects

open CoreApi.Foundation

namespace ConfigObjectsService

/-! ## What the rows decide -/

/-- The status for each state of the object with a mapping leads back to the state, in whatever
order the database returns mappings. -/
def RoundTrips (db : ScopeDb) (tenantId : Option Nat) (objectType : String)
    (configObjectId : Nat) : Prop :=
  ∀ statusSource, ∀ mapping ∈ mappingsFrom db configObjectId statusSource, ∃ statusValue,
    (∀ reading, resolveStatusFromLifecycleState reading db tenantId objectType mapping.stateKey
        (some statusSource) =
      .ok ⟨objectType, mapping.stateKey, some statusSource, some statusValue⟩) ∧
    ∀ reading, resolveLifecycleStateFromStatus reading db tenantId objectType statusSource
        statusValue =
      .ok ⟨objectType, statusSource, statusValue, some mapping.stateKey⟩

/-- Both are of one object, for statuses of one source. -/
def SameSource (mapping other : ConfigObjectStatusMappingEntity) : Prop :=
  mapping.configObjectId = other.configObjectId ∧ mapping.statusSource = other.statusSource

/-- No mapping of the same state comes before this one. -/
def LeadsState (rows : List ConfigObjectStatusMappingEntity)
    (mapping : ConfigObjectStatusMappingEntity) : Prop :=
  ∀ other ∈ rows, SameSource mapping other → other.stateKey = mapping.stateKey →
    precedes other mapping = false

/-- What leads a state of the object comes before every other mapping that shares its state or its
value. -/
def Decided (rows : List ConfigObjectStatusMappingEntity) (configObjectId : Nat) : Prop :=
  ∀ leader ∈ rows, leader.configObjectId = configObjectId → LeadsState rows leader →
    ∀ other ∈ rows, other ≠ leader → SameSource leader other →
      other.stateKey = leader.stateKey ∨ other.statusValue = leader.statusValue →
      precedes leader other = true

/-- `uniq_cosm_state_status` holds. -/
def UniqueMappings (db : ScopeDb) : Prop :=
  ∀ mapping ∈ db.statusMappings.rows, ∀ other ∈ db.statusMappings.rows,
    SameSource mapping other → other.stateKey = mapping.stateKey →
      other.statusValue = mapping.statusValue → other = mapping

instance (mapping other : ConfigObjectStatusMappingEntity) : Decidable (SameSource mapping other) :=
  inferInstanceAs (Decidable (_ ∧ _))

instance (rows : List ConfigObjectStatusMappingEntity) (mapping : ConfigObjectStatusMappingEntity) :
    Decidable (LeadsState rows mapping) := by
  unfold LeadsState
  infer_instance

instance (rows : List ConfigObjectStatusMappingEntity) (configObjectId : Nat) :
    Decidable (Decided rows configObjectId) := by
  unfold Decided
  infer_instance

instance (db : ScopeDb) : Decidable (UniqueMappings db) := by
  unfold UniqueMappings
  infer_instance

theorem precedes_isRanking : IsRanking precedes where
  asymm {first second} := by
    unfold precedes
    cases first.isDefault <;> cases second.isDefault <;> simp <;> omega
  between {first third} second := by
    unfold precedes
    cases first.isDefault <;> cases second.isDefault <;> cases third.isDefault <;> simp <;> omega

section

variable {db : ScopeDb} {tenantId : Option Nat} {objectType : String}
  {configObject : ConfigObjectEntity}

theorem resolveLifecycleStateFromStatus_eq
    (isFound : getConfigObjectForTenantScopeByObjectType db tenantId objectType = .ok configObject)
    (reading : Reading ConfigObjectStatusMappingEntity) (statusSource : ConfigObjectStatusSource)
    (statusValue : String) :
    resolveLifecycleStateFromStatus reading db tenantId objectType statusSource statusValue =
      .ok ⟨objectType, statusSource, statusValue,
        (firstRanked precedes (reading.read (db.statusMappings.select fun mapping =>
          mapping.configObjectId == configObject.configObjectId &&
            mapping.statusSource == statusSource && mapping.statusValue == statusValue))).map
          ConfigObjectStatusMappingEntity.stateKey⟩ := by
  rw [resolveLifecycleStateFromStatus, isFound]
  rfl

theorem resolveStatusFromLifecycleState_eq
    (isFound : getConfigObjectForTenantScopeByObjectType db tenantId objectType = .ok configObject)
    (reading : Reading ConfigObjectStatusMappingEntity) (stateKey : String)
    (statusSource : Option ConfigObjectStatusSource) :
    resolveStatusFromLifecycleState reading db tenantId objectType stateKey statusSource =
      .ok ⟨objectType, stateKey,
        (firstRanked precedes (reading.read (db.statusMappings.select fun mapping =>
          mapping.configObjectId == configObject.configObjectId && mapping.stateKey == stateKey &&
            statusSource.all (mapping.statusSource == ·)))).map
          ConfigObjectStatusMappingEntity.statusSource,
        (firstRanked precedes (reading.read (db.statusMappings.select fun mapping =>
          mapping.configObjectId == configObject.configObjectId && mapping.stateKey == stateKey &&
            statusSource.all (mapping.statusSource == ·)))).map
          ConfigObjectStatusMappingEntity.statusValue⟩ := by
  rw [resolveStatusFromLifecycleState, isFound]
  rfl

/-- The mappings for a state. -/
abbrev mappingsOfState (db : ScopeDb) (configObjectId : Nat)
    (statusSource : ConfigObjectStatusSource) (stateKey : String) :
    List ConfigObjectStatusMappingEntity :=
  db.statusMappings.select fun mapping =>
    mapping.configObjectId == configObjectId && mapping.stateKey == stateKey &&
      (some statusSource).all (mapping.statusSource == ·)

/-- The mappings for a status. -/
abbrev mappingsOfStatus (db : ScopeDb) (configObjectId : Nat)
    (statusSource : ConfigObjectStatusSource) (statusValue : String) :
    List ConfigObjectStatusMappingEntity :=
  db.statusMappings.select fun mapping =>
    mapping.configObjectId == configObjectId && mapping.statusSource == statusSource &&
      mapping.statusValue == statusValue

theorem mem_mappingsOfState {configObjectId : Nat} {statusSource : ConfigObjectStatusSource}
    {stateKey : String} {mapping : ConfigObjectStatusMappingEntity} :
    mapping ∈ mappingsOfState db configObjectId statusSource stateKey ↔
      mapping ∈ db.statusMappings.rows ∧ mapping.configObjectId = configObjectId ∧
        mapping.stateKey = stateKey ∧ mapping.statusSource = statusSource := by
  rw [Table.mem_select]
  simp [and_assoc]

theorem mem_mappingsOfStatus {configObjectId : Nat} {statusSource : ConfigObjectStatusSource}
    {statusValue : String} {mapping : ConfigObjectStatusMappingEntity} :
    mapping ∈ mappingsOfStatus db configObjectId statusSource statusValue ↔
      mapping ∈ db.statusMappings.rows ∧ mapping.configObjectId = configObjectId ∧
        mapping.statusSource = statusSource ∧ mapping.statusValue = statusValue := by
  rw [Table.mem_select]
  simp [and_assoc]

theorem roundTrips_of_decided
    (isFound : getConfigObjectForTenantScopeByObjectType db tenantId objectType = .ok configObject)
    (decided : Decided db.statusMappings.rows configObject.configObjectId) :
    RoundTrips db tenantId objectType configObject.configObjectId := by
  intro statusSource mapping isMapping
  obtain ⟨isRow, ofObject⟩ := Table.mem_select.mp isMapping
  simp only [Bool.and_eq_true, beq_iff_eq] at ofObject
  have inState := mem_mappingsOfState.mpr ⟨isRow, ofObject.1, rfl, ofObject.2⟩
  obtain ⟨leader, isFirst⟩ := exists_isFirst precedes_isRanking inState
  obtain ⟨leaderRow, leaderObject, leaderState, leaderSource⟩ := mem_mappingsOfState.mp isFirst.1
  have leads : LeadsState db.statusMappings.rows leader := by
    intro other isOther sameSource sameState
    exact isFirst.2 other (mem_mappingsOfState.mpr ⟨isOther, sameSource.1 ▸ leaderObject,
      sameState.trans leaderState, sameSource.2 ▸ leaderSource⟩)
  have ahead := decided leader leaderRow leaderObject leads
  refine ⟨leader.statusValue, ?_, ?_⟩ <;> intro reading
  · have found := firstRanked_of_ahead precedes_isRanking isFirst.1 (fun other isOther different =>
      have ⟨otherRow, otherObject, otherState, otherSource⟩ := mem_mappingsOfState.mp isOther
      ahead other otherRow different
        ⟨leaderObject.trans otherObject.symm, leaderSource.trans otherSource.symm⟩
        (.inl (otherState.trans leaderState.symm))) reading
    rw [resolveStatusFromLifecycleState_eq isFound, found, Option.map_some, Option.map_some,
      leaderSource]
  · have atValue := mem_mappingsOfStatus.mpr ⟨leaderRow, leaderObject, leaderSource, rfl⟩
    have found := firstRanked_of_ahead precedes_isRanking atValue (fun other isOther different =>
      have ⟨otherRow, otherObject, otherSource, otherValue⟩ := mem_mappingsOfStatus.mp isOther
      ahead other otherRow different
        ⟨leaderObject.trans otherObject.symm, leaderSource.trans otherSource.symm⟩
        (.inr otherValue)) reading
    rw [resolveLifecycleStateFromStatus_eq isFound, found, Option.map_some, leaderState]

/-- Where the status for a state leads back to the state, the rows decide: of two mappings that
tie, either is returned when it is read first. -/
theorem decided_of_roundTrips
    (isFound : getConfigObjectForTenantScopeByObjectType db tenantId objectType = .ok configObject)
    (unique : UniqueMappings db)
    (inverse : RoundTrips db tenantId objectType configObject.configObjectId) :
    Decided db.statusMappings.rows configObject.configObjectId := by
  intro leader leaderRow leaderObject leads other otherRow different sameSource shared
  have isMapping : leader ∈ mappingsFrom db configObject.configObjectId leader.statusSource :=
    Table.mem_select.mpr ⟨leaderRow, by simp [leaderObject]⟩
  obtain ⟨statusValue, statusOf, stateOf⟩ := inverse leader.statusSource leader isMapping
  have otherObject := sameSource.1.symm.trans leaderObject
  -- What is first for the state has the value, and what is first for the value has the state.
  have hasValue {first : ConfigObjectStatusMappingEntity} (isFirst : IsFirst precedes
      (mappingsOfState db configObject.configObjectId leader.statusSource leader.stateKey) first) :
      first.statusValue = statusValue := by
    have resolved := statusOf (.starting first)
    rw [resolveStatusFromLifecycleState_eq isFound, firstRanked_starting isFirst] at resolved
    exact Option.some.inj (congrArg ResolvedStatus.statusValue (Except.ok.inj resolved))
  have hasState {first : ConfigObjectStatusMappingEntity} (isFirst : IsFirst precedes
      (mappingsOfStatus db configObject.configObjectId leader.statusSource statusValue) first) :
      first.stateKey = leader.stateKey := by
    have resolved := stateOf (.starting first)
    rw [resolveLifecycleStateFromStatus_eq isFound, firstRanked_starting isFirst] at resolved
    exact Option.some.inj (congrArg ResolvedState.stateKey (Except.ok.inj resolved))
  have leadsHere : IsFirst precedes (mappingsOfState db configObject.configObjectId
      leader.statusSource leader.stateKey) leader := by
    refine ⟨mem_mappingsOfState.mpr ⟨leaderRow, leaderObject, rfl, rfl⟩, fun third isThird => ?_⟩
    obtain ⟨thirdRow, thirdObject, thirdState, thirdSource⟩ := mem_mappingsOfState.mp isThird
    exact leads third thirdRow ⟨leaderObject.trans thirdObject.symm, thirdSource.symm⟩ thirdState
  obtain rfl := hasValue leadsHere
  by_contra ahead
  have tie := Bool.eq_false_iff.mpr ahead
  rcases shared with sameState | sameValue
  · have isOther := mem_mappingsOfState.mpr ⟨otherRow, otherObject, sameState, sameSource.2.symm⟩
    have sameValue := hasValue (leadsHere.of_tie precedes_isRanking isOther tie)
    exact different (unique leader leaderRow other otherRow sameSource sameState sameValue)
  · have atValue := mem_mappingsOfStatus.mpr ⟨leaderRow, leaderObject, rfl, rfl⟩
    obtain ⟨first, isFirst⟩ := exists_isFirst precedes_isRanking atValue
    obtain ⟨firstRow, firstObject, firstSource, firstValue⟩ := mem_mappingsOfStatus.mp isFirst.1
    obtain rfl := unique leader leaderRow first firstRow
      ⟨leaderObject.trans firstObject.symm, firstSource.symm⟩ (hasState isFirst) firstValue
    have isOther := mem_mappingsOfStatus.mpr ⟨otherRow, otherObject, sameSource.2.symm, sameValue⟩
    have sameState := hasState (isFirst.of_tie precedes_isRanking isOther tie)
    exact different (unique first leaderRow other otherRow sameSource sameState sameValue)

theorem roundTrips_iff
    (isFound : getConfigObjectForTenantScopeByObjectType db tenantId objectType = .ok configObject)
    (unique : UniqueMappings db) :
    RoundTrips db tenantId objectType configObject.configObjectId ↔
      Decided db.statusMappings.rows configObject.configObjectId :=
  ⟨decided_of_roundTrips isFound unique, roundTrips_of_decided isFound⟩

end

/-! ## What a call decides -/

/-- The mappings that a call leaves. -/
def leftMappings (db : ScopeDb) (call : MappingCall) : List ConfigObjectStatusMappingEntity :=
  (writtenMapping db call).toList ++ db.statusMappings.select fun row =>
    decide (∀ old ∈ clearedMapping db call, Keyed.key row ≠ Keyed.key old)

/-- The call writes one of the mappings, or takes one of the state out. -/
def Concerns (db : ScopeDb) (call : MappingCall)
    (leader other : ConfigObjectStatusMappingEntity) : Prop :=
  writtenMapping db call = some leader ∨ writtenMapping db call = some other ∨
    ¬∀ old ∈ clearedMapping db call, SameSource leader old → old.stateKey ≠ leader.stateKey

instance (db : ScopeDb) (call : MappingCall) (leader other : ConfigObjectStatusMappingEntity) :
    Decidable (Concerns db call leader other) := by
  unfold Concerns
  infer_instance

/-- Where the call matters, what leads a state of the object comes before every other mapping that
shares its state or its value. -/
def Decides (configObjectId : Nat) (db : ScopeDb) (call : MappingCall) : Prop :=
  ∀ leader ∈ leftMappings db call, leader.configObjectId = configObjectId →
    LeadsState (leftMappings db call) leader →
    ∀ other ∈ leftMappings db call, other ≠ leader → SameSource leader other →
      other.stateKey = leader.stateKey ∨ other.statusValue = leader.statusValue →
      Concerns db call leader other → precedes leader other = true

instance (configObjectId : Nat) (db : ScopeDb) (call : MappingCall) :
    Decidable (Decides configObjectId db call) := by
  unfold Decides
  infer_instance

section

variable {db : ScopeDb} {call : MappingCall}

theorem mem_leftMappings {row : ConfigObjectStatusMappingEntity} :
    row ∈ leftMappings db call ↔ Leaves db call row := by
  rw [leftMappings, List.mem_append, Table.mem_select, Option.mem_toList, decide_eq_true_eq]
  rfl

theorem mem_step_statusMappings {row : ConfigObjectStatusMappingEntity} :
    row ∈ (mappingCalls.step db call).statusMappings.rows ↔ row ∈ leftMappings db call :=
  ((performs_step db call).rows row).trans mem_leftMappings.symm

/-- A decision is about the mappings, in whatever order. -/
theorem decided_congr {rows others : List ConfigObjectStatusMappingEntity} {configObjectId : Nat}
    (same : ∀ row, row ∈ rows ↔ row ∈ others) :
    Decided rows configObjectId ↔ Decided others configObjectId := by
  simp only [Decided, LeadsState, same]

theorem unshared_of_writtenMapping {row other : ConfigObjectStatusMappingEntity}
    (isWritten : writtenMapping db call = some row) (isOther : other ∈ db.statusMappings.rows)
    (stays : ∀ old ∈ clearedMapping db call, Keyed.key other ≠ Keyed.key old)
    (sameSource : SameSource row other) (sameState : other.stateKey = row.stateKey) :
    other.statusValue ≠ row.statusValue := by
  intro sameValue
  cases call with
  | create params =>
      simp only [writtenMapping] at isWritten
      split at isWritten
      · cases isWritten
      · next configObject isFound =>
          split at isWritten
          · next free =>
              cases isWritten
              have taken := List.any_eq_false.mp free.2 other isOther
              simp only [Bool.and_eq_true, beq_iff_eq] at taken
              exact taken ⟨⟨⟨sameSource.1.symm, sameState⟩, sameSource.2.symm⟩, sameValue⟩
          · cases isWritten
  | update params =>
      have cleared : clearedMapping db (.update params) =
          db.statusMappings.find? params.configObjectStatusMappingId := by
        rw [clearedMapping, isWritten, Option.isSome_some, if_pos rfl]
      rw [cleared] at stays
      obtain ⟨mapping, isFound, isUpdated⟩ := Option.bind_eq_some_iff.mp isWritten
      obtain ⟨isUpdated, free⟩ := Option.filter_eq_some_iff.mp isUpdated
      rw [Bool.not_eq_true'] at free
      have taken := List.any_eq_false.mp free other isOther
      simp only [Bool.and_eq_true, beq_iff_eq, bne_iff_ne] at taken
      refine taken ⟨?_, ⟨⟨sameSource.1.symm, sameState⟩, sameSource.2.symm⟩, sameValue⟩
      rw [key_of_updatedMapping (toOption_eq_some.mp isUpdated)]
      exact stays mapping isFound
  | delete => cases isWritten

/-- The unique index holds after every call. -/
theorem uniqueMappings_step (db : ScopeDb) (call : MappingCall) (unique : UniqueMappings db) :
    UniqueMappings (mappingCalls.step db call) := by
  intro mapping isMapping other isOther sameSource sameState sameValue
  rw [(performs_step db call).rows] at isMapping isOther
  rcases isMapping with isWritten | ⟨isRow, stays⟩ <;>
    rcases isOther with otherWritten | ⟨otherRow, otherStays⟩
  · exact Option.some.inj (otherWritten.symm.trans isWritten)
  · exact absurd sameValue
      (unshared_of_writtenMapping isWritten otherRow otherStays sameSource sameState)
  · exact absurd sameValue.symm (unshared_of_writtenMapping otherWritten isRow stays
      ⟨sameSource.1.symm, sameSource.2.symm⟩ sameState.symm)
  · exact unique mapping isRow other otherRow sameSource sameState sameValue

theorem decided_step_iff (configObjectId : Nat) (db : ScopeDb) (call : MappingCall)
    (decided : Decided db.statusMappings.rows configObjectId) :
    Decided (mappingCalls.step db call).statusMappings.rows configObjectId ↔
      Decides configObjectId db call := by
  rw [decided_congr fun row => mem_step_statusMappings]
  constructor
  · intro after leader isLeader ofObject leads other isOther different sameSource shared _
    exact after leader isLeader ofObject leads other isOther different sameSource shared
  · intro decides leader isLeader ofObject leads other isOther different sameSource shared
    by_cases concerned : Concerns db call leader other
    · exact decides leader isLeader ofObject leads other isOther different sameSource shared
        concerned
    · simp only [Concerns, not_or, not_not] at concerned
      obtain ⟨leaderStays, otherStays, stateStays⟩ := concerned
      obtain ⟨leaderRow, _⟩ := (mem_leftMappings.mp isLeader).resolve_left leaderStays
      obtain ⟨otherRow, _⟩ := (mem_leftMappings.mp isOther).resolve_left otherStays
      refine decided leader leaderRow ofObject (fun third isThird thirdSource thirdState => ?_)
        other otherRow different sameSource shared
      refine leads third (mem_leftMappings.mpr (.inr ⟨isThird, fun old isOld same => ?_⟩))
        thirdSource thirdState
      obtain rfl : third = old :=
        Table.eq_of_key_eq isThird (mem_of_clearedMapping isOld) same
      exact stateStays third isOld thirdSource thirdState

end

/-! ## Runs -/

/-- The object of a type is found, and its mappings are unique. -/
structure Resolves (tenantId : Option Nat) (objectType : String)
    (configObject : ConfigObjectEntity) (db : ScopeDb) : Prop where
  found : getConfigObjectForTenantScopeByObjectType db tenantId objectType = .ok configObject
  unique : UniqueMappings db

theorem getConfigObjectForTenantScopeByObjectType_congr {db after : ScopeDb}
    (views : after.toViewDb = db.toViewDb) (tenantId : Option Nat) (objectType : String) :
    getConfigObjectForTenantScopeByObjectType after tenantId objectType =
      getConfigObjectForTenantScopeByObjectType db tenantId objectType := by
  unfold getConfigObjectForTenantScopeByObjectType oldestObjectOfType
  rw [views]

theorem Resolves.step {tenantId : Option Nat} {objectType : String}
    {configObject : ConfigObjectEntity} (db : ScopeDb) (call : MappingCall)
    (resolves : Resolves tenantId objectType configObject db) :
    Resolves tenantId objectType configObject (mappingCalls.step db call) where
  found := by
    rw [getConfigObjectForTenantScopeByObjectType_congr (performs_step db call).views]
    exact resolves.found
  unique := uniqueMappings_step db call resolves.unique

/-- Tenant 1 has tasks that are open or in review, and no mappings. -/
def reviewedTasks : ScopeDb where
  tenants := [1]
  tenantUsers := [7]
  templateSets := .ofRows
    [{ configTemplateSetId := 0, tenantId := some 1, status := .published }]
  configObjects := .ofRows
    [{ configObjectId := 0, configTemplateSetId := 1, objectType := "task", status := .published }]
  views := .empty _
  auditLogs := []
  lifecycles := .ofRows
    [⟨0, 1, "open", "Open", none, 0⟩, ⟨0, 1, "review", "In review", none, 1⟩]
  statusMappings := .empty _
  statusMappingLogs := []

/-- A task status for a state of tasks. -/
def taskStatus (stateKey statusValue : String) (orderIndex : Int) :
    CreateConfigStatusMappingParams where
  tenantId := some 1
  objectType := "task"
  createdBy := 7
  stateKey := stateKey
  statusSource := .projectTaskStatus
  statusValue := statusValue
  orderIndex := orderIndex

theorem unmapped_roundTrips {db : ScopeDb} (unmapped : db.statusMappings.rows = [])
    (tenantId : Option Nat) (objectType : String) (configObjectId : Nat) :
    RoundTrips db tenantId objectType configObjectId := by
  intro statusSource mapping isMapping
  have isRow := (Table.mem_select.mp isMapping).1
  rw [unmapped] at isRow
  cases isRow

/-- The open state has two statuses, one after the other, and the state in review has a third, which
is then changed and removed. -/
def orderedStatuses : List MappingCall :=
  [.create (taskStatus "open" "1" 0), .create (taskStatus "open" "2" 1),
    .create (taskStatus "review" "3" 0),
    .update { tenantId := some 1, configObjectStatusMappingId := 3, updatedBy := 7,
              statusValue := some "4" },
    .delete (some 1) 3 7]

/-- Two states are given one status. -/
def sharedStatus : List MappingCall :=
  [.create (taskStatus "open" "1" 0), .create (taskStatus "review" "1" 0)]

end ConfigObjectsService

end CoreApi.ConfigObjects
