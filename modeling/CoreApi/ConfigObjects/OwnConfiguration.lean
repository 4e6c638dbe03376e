import CoreApi.ConfigObjects.StatusMappings

/-!
# The configuration a tenant owns

A call for a type comes to the object that its query meets first, whoever owns it. When
that object is in the scope of the tenant the call goes on with it, and otherwise the
call is refused. A tenant that owns one object of the type is served exactly when its
own object is the first; what it then sees does not depend on the rows of others.
-/

namespace CoreApi.ConfigObjects

open CoreApi.Foundation ConfigObjectsService

/-- A call for the objects of a type. -/
inductive ScopeCall where
  | listConfigViews
  | createConfigView (params : CreateConfigViewParams)
  | listConfigStatusMappings
  | createConfigStatusMapping (params : CreateConfigStatusMappingParams)
  | getActiveScopedConfigView (viewType : ConfigObjectViewType)

/-- What a call returns or raises. -/
inductive ScopeOutcome where
  | views (result : Except ViewRefusal (List ConfigObjectViewEntity))
  | createdView (result : Except ViewError ConfigObjectViewEntity)
  | mappings (result : Except MappingError (List ConfigObjectStatusMappingEntity))
  | createdMapping (result : Except MappingError ConfigObjectStatusMappingEntity)
  | activeView (view : Option ConfigObjectViewEntity)

/-- The outcome apart from the id of a new row, which counts the rows of every tenant. -/
def ScopeOutcome.apartFromId : ScopeOutcome → ScopeOutcome
  | .createdView result => .createdView (result.map (Keyed.withKey 0))
  | .createdMapping result => .createdMapping (result.map (Keyed.withKey 0))
  | outcome => outcome

/-- A call on views, beside the other tables. -/
def onViews {α : Type} (program : ViewTx α) (db : ScopeDb) : Except ViewError α × ScopeDb :=
  ((program db.toViewDb).1, { db with toViewDb := (program db.toViewDb).2 })

/-- The parameters of a new view, from the tenant and the type of the call. -/
def ConfigObjectsService.CreateConfigViewParams.ofCall (params : CreateConfigViewParams) (tenantId : Nat)
    (objectType : String) : CreateConfigViewParams :=
  { params with
    tenantId := some tenantId
    objectType := objectType }

/-- The parameters of a new mapping, from the tenant and the type of the call. -/
def ConfigObjectsService.CreateConfigStatusMappingParams.ofCall (params : CreateConfigStatusMappingParams)
    (tenantId : Nat) (objectType : String) : CreateConfigStatusMappingParams :=
  { params with
    tenantId := some tenantId
    objectType := objectType }

namespace ScopeCall

/-- The user who is recorded for a write. -/
def changedBy : ScopeCall → Option Nat
  | .createConfigView params => some params.createdBy
  | .createConfigStatusMapping params => some params.createdBy
  | _ => none

/-- A tenant makes a call for a type. -/
def perform (db : ScopeDb) (tenantId : Nat) (objectType : String) :
    ScopeCall → ScopeOutcome × ScopeDb
  | .listConfigViews =>
      (.views (ConfigObjectsService.listConfigViews db.toViewDb (some tenantId) objectType), db)
  | .createConfigView params =>
      Prod.map .createdView id
        (onViews (ConfigObjectsService.createConfigView (params.ofCall tenantId objectType)) db)
  | .listConfigStatusMappings =>
      (.mappings (ConfigObjectsService.listConfigStatusMappings db (some tenantId) objectType), db)
  | .createConfigStatusMapping params =>
      Prod.map .createdMapping id
        (ConfigObjectsService.createConfigStatusMapping (params.ofCall tenantId objectType) db)
  | .getActiveScopedConfigView viewType =>
      (.activeView (ConfigObjectsService.getActiveScopedConfigView db.toViewDb (some tenantId)
        objectType viewType), db)

end ScopeCall

/-- No view of the object has the key. -/
def checkViewKey (db : ViewDb) (params : CreateConfigViewParams)
    (configObject : ConfigObjectEntity) : Except ViewRefusal Unit :=
  match db.views.rows.find? fun view =>
    view.configObjectId == configObject.configObjectId && view.viewKey == params.viewKey with
  | some _ => .error (.rpc ("Config view with key \"" ++ params.viewKey
      ++ "\" already exists for object type \"" ++ params.objectType ++ "\"."))
  | none => .ok ()

/-- `createConfigView`, once the object is found. -/
def createViewOf (params : CreateConfigViewParams) (configObject : ConfigObjectEntity) :
    ViewTx ConfigObjectViewEntity := do
  let db ← Program.read id
  check (checkViewKey db params configObject)
  let saved ← insertView (newView params configObject)
  logConfigChange (getEffectiveTenantId params.tenantId) saved.configObjectViewId .create
    params.createdBy none (some (viewFields saved))
  pure saved

namespace ScopeCall

/-- The call as it operates on an object. -/
def performOn (configObject : ConfigObjectEntity) (db : ScopeDb) (tenantId : Nat)
    (objectType : String) : ScopeCall → ScopeOutcome × ScopeDb
  | .listConfigViews => (.views (.ok (viewsOf db.toViewDb configObject.configObjectId)), db)
  | .createConfigView params =>
      Prod.map .createdView id
        (onViews (createViewOf (params.ofCall tenantId objectType) configObject) db)
  | .listConfigStatusMappings =>
      (.mappings (.ok (statusMappingsOf db configObject.configObjectId)), db)
  | .createConfigStatusMapping params =>
      Prod.map .createdMapping id
        (createStatusMappingOf (params.ofCall tenantId objectType) configObject db)
  | .getActiveScopedConfigView viewType =>
      (.activeView (activeViewOf db.toViewDb configObject.configObjectId viewType
        (getEffectiveTenantId (some tenantId))), db)

/-- The object that the query of the call meets first. -/
def firstMet (db : ScopeDb) (objectType : String) : ScopeCall → Option ConfigObjectEntity
  | .listConfigViews | .getActiveScopedConfigView _ => objectOfType db.toViewDb objectType
  | .createConfigView _ => db.configObjects.rows.find? fun configObject =>
      configObject.objectType == objectType && configObject.status == .published
  | .listConfigStatusMappings | .createConfigStatusMapping _ => oldestObjectOfType db objectType

/-- How the call is refused the object of another scope. -/
def refused : ScopeCall → ScopeOutcome
  | .listConfigViews =>
      .views (.error (.rpc "Config object does not belong to the specified tenant."))
  | .createConfigView _ =>
      .createdView (.error
        (.refused (.rpc "Config object does not belong to the specified tenant.")))
  | .listConfigStatusMappings =>
      .mappings (.error (.rpc "Config object does not belong to the specified tenant."))
  | .createConfigStatusMapping _ =>
      .createdMapping (.error (.rpc "Config object does not belong to the specified tenant."))
  | .getActiveScopedConfigView _ => .activeView none

end ScopeCall

/-! ## Ownership -/

/-- The tenant owns one template set, and in it one object of the type, which is published. -/
structure Owns (db : ViewDb) (tenantId : Nat) (objectType : String)
    (templateSet : ConfigTemplateSetEntity) (configObject : ConfigObjectEntity) : Prop where
  isTenant : tenantId ≠ 0
  oneSet : (db.templateSets.select fun row => row.tenantId == some tenantId) = [templateSet]
  oneObject : (db.configObjects.select fun row =>
    row.configTemplateSetId == templateSet.configTemplateSetId && row.objectType == objectType)
      = [configObject]
  isPublished : configObject.status = .published

/-- Two databases have the same rows of the tenant, and differ in rows of others only. -/
structure SameOwnRows (tenantId : Nat) (templateSet : ConfigTemplateSetEntity)
    (configObject : ConfigObjectEntity) (call : ScopeCall) (db other : ScopeDb) : Prop where
  templateSets : (db.templateSets.select fun row => row.tenantId == some tenantId) =
    other.templateSets.select fun row => row.tenantId == some tenantId
  configObjects : (db.configObjects.select fun row =>
      row.configTemplateSetId == templateSet.configTemplateSetId) =
    other.configObjects.select fun row =>
      row.configTemplateSetId == templateSet.configTemplateSetId
  views : (db.views.select fun row => row.configObjectId == configObject.configObjectId) =
    other.views.select fun row => row.configObjectId == configObject.configObjectId
  lifecycles : (db.lifecycles.select fun row =>
      row.configObjectId == configObject.configObjectId) =
    other.lifecycles.select fun row => row.configObjectId == configObject.configObjectId
  statusMappings : (db.statusMappings.select fun row =>
      row.configObjectId == configObject.configObjectId) =
    other.statusMappings.select fun row => row.configObjectId == configObject.configObjectId
  tenant : tenantId ∈ db.tenants ↔ tenantId ∈ other.tenants
  caller : ∀ user ∈ call.changedBy, user ∈ db.tenantUsers ↔ user ∈ other.tenantUsers

/-- The object of the tenant is the first that the call meets; or the call asks for the active
view, and the object has none. -/
def MeetsOwn (db : ScopeDb) (tenantId : Nat) (objectType : String)
    (configObject : ConfigObjectEntity) (call : ScopeCall) : Prop :=
  call.firstMet db objectType = some configObject ∨
    ∃ viewType, call = .getActiveScopedConfigView viewType ∧
      activeViewOf db.toViewDb configObject.configObjectId viewType
        (getEffectiveTenantId (some tenantId)) = none

section Ownership

variable {db other : ScopeDb} {tenantId : Nat} {objectType : String}
  {templateSet : ConfigTemplateSetEntity} {configObject found : ConfigObjectEntity}
  {call : ScopeCall}

/-- What is owned with the same rows. -/
theorem SameOwnRows.owns (same : SameOwnRows tenantId templateSet configObject call db other)
    (owns : Owns db.toViewDb tenantId objectType templateSet configObject) :
    Owns other.toViewDb tenantId objectType templateSet configObject where
  isTenant := owns.isTenant
  oneSet := same.templateSets ▸ owns.oneSet
  oneObject := by
    have ofSet (rows : List ConfigObjectEntity) : (rows.filter fun row =>
        row.configTemplateSetId == templateSet.configTemplateSetId && row.objectType == objectType)
          = (rows.filter fun row => row.configTemplateSetId == templateSet.configTemplateSetId).filter
            fun row => row.objectType == objectType := by
      rw [List.filter_filter]
      exact List.filter_congr fun row _ => Bool.and_comm _ _
    have sameRows := congrArg (List.filter fun row => row.objectType == objectType)
      same.configObjects
    have own := owns.oneObject
    unfold Table.select at sameRows own ⊢
    rw [ofSet] at own ⊢
    rw [← sameRows]
    exact own
  isPublished := owns.isPublished

theorem Owns.isInScope_iff (owns : Owns db.toViewDb tenantId objectType templateSet configObject) :
    isInScope db.toViewDb (getEffectiveTenantId (some tenantId)) found = true ↔
      found.configTemplateSetId = templateSet.configTemplateSetId := by
  have isScope : getEffectiveTenantId (some tenantId) = some tenantId := by
    simp [getEffectiveTenantId, owns.isTenant]
  have bySet : templateSetForTenantScope db.toViewDb found.configTemplateSetId (some tenantId) =
      [templateSet].find? fun row => row.configTemplateSetId == found.configTemplateSetId := by
    rw [← owns.oneSet]
    unfold templateSetForTenantScope Table.select
    rw [List.find?_filter]
    refine congrArg (List.find? · _) (funext fun row => ?_)
    exact Bool.eq_iff_iff.mpr (by simp [and_comm])
  unfold isInScope
  rw [isScope, bySet, List.find?_singleton]
  by_cases isSet : templateSet.configTemplateSetId = found.configTemplateSetId
  · simp [isSet]
  · simp [isSet, Ne.symm isSet]

/-- An object that a call meets is of the type, and one of the database. -/
theorem mem_of_firstMet (isFirst : call.firstMet db objectType = some found) :
    found ∈ db.configObjects.rows ∧ found.objectType = objectType := by
  cases call with
  | listConfigViews | getActiveScopedConfigView =>
      exact ⟨List.mem_of_find?_eq_some isFirst, by simpa using List.find?_some isFirst⟩
  | createConfigView =>
      have isObject := List.find?_some isFirst
      simp only [Bool.and_eq_true, beq_iff_eq] at isObject
      exact ⟨List.mem_of_find?_eq_some isFirst, isObject.1⟩
  | listConfigStatusMappings | createConfigStatusMapping =>
      have selected := Table.mem_select.mp (List.argmin_mem isFirst)
      exact ⟨selected.1, by simpa using selected.2⟩

theorem Owns.firstMet_ne_none
    (owns : Owns db.toViewDb tenantId objectType templateSet configObject) :
    call.firstMet db objectType ≠ none := by
  have own : configObject ∈ db.configObjects.select fun row =>
      row.configTemplateSetId == templateSet.configTemplateSetId &&
        row.objectType == objectType := owns.oneObject ▸ List.mem_singleton_self _
  obtain ⟨member, isOwn⟩ := Table.mem_select.mp own
  simp only [Bool.and_eq_true, beq_iff_eq] at isOwn
  cases call with
  | listConfigViews | getActiveScopedConfigView =>
      intro absent
      exact List.find?_eq_none.mp absent configObject member (by simp [isOwn.2])
  | createConfigView =>
      intro absent
      exact List.find?_eq_none.mp absent configObject member (by simp [isOwn.2, owns.isPublished])
  | listConfigStatusMappings | createConfigStatusMapping =>
      intro absent
      have selected : configObject ∈ db.configObjects.select fun row =>
          row.objectType == objectType := Table.mem_select.mpr ⟨member, by simp [isOwn.2]⟩
      rw [List.argmin_eq_none.mp absent] at selected
      exact List.not_mem_nil selected

theorem Owns.eq_of_inScope (owns : Owns db.toViewDb tenantId objectType templateSet configObject)
    (isFirst : call.firstMet db objectType = some found)
    (inScope : isInScope db.toViewDb (getEffectiveTenantId (some tenantId)) found = true) :
    found = configObject := by
  obtain ⟨member, isType⟩ := mem_of_firstMet isFirst
  have own : found ∈ db.configObjects.select fun row =>
      row.configTemplateSetId == templateSet.configTemplateSetId &&
        row.objectType == objectType :=
    Table.mem_select.mpr ⟨member, by simp [owns.isInScope_iff.mp inScope, isType]⟩
  rw [owns.oneObject] at own
  exact List.mem_singleton.mp own

theorem Owns.inScope (owns : Owns db.toViewDb tenantId objectType templateSet configObject) :
    isInScope db.toViewDb (getEffectiveTenantId (some tenantId)) configObject = true := by
  have own : configObject ∈ db.configObjects.select fun row =>
      row.configTemplateSetId == templateSet.configTemplateSetId &&
        row.objectType == objectType := owns.oneObject ▸ List.mem_singleton_self _
  have isOwn := (Table.mem_select.mp own).2
  simp only [Bool.and_eq_true, beq_iff_eq] at isOwn
  exact owns.isInScope_iff.mpr isOwn.1

end Ownership

/-! ## What a call comes to -/

section Performed

variable {db : ScopeDb} {tenantId : Nat} {objectType : String}
  {configObject found : ConfigObjectEntity}

theorem configObjectForNewView_of_firstMet {params : CreateConfigViewParams}
    (isFirst : (db.configObjects.rows.find? fun configObject =>
      configObject.objectType == params.objectType && configObject.status == .published)
        = some found) :
    configObjectForNewView db.toViewDb params =
      if isInScope db.toViewDb (getEffectiveTenantId params.tenantId) found = true then
        (checkViewKey db.toViewDb params found).map fun _ => found
      else .error (.rpc "Config object does not belong to the specified tenant.") := by
  unfold configObjectForNewView checkViewKey isInScope
  simp only [isFirst]
  rcases templateSetForTenantScope db.toViewDb found.configTemplateSetId
    (getEffectiveTenantId params.tenantId) with _ | templateSet
  · rfl
  · simp only [Option.isSome_some, if_true]
    split
    · next taken => simp only [taken, Except.map]
    · next free => simp only [free, Except.map]

theorem createConfigView_of_firstMet {params : CreateConfigViewParams}
    (isFirst : (db.configObjects.rows.find? fun configObject =>
      configObject.objectType == params.objectType && configObject.status == .published)
        = some found) :
    createConfigView params db.toViewDb =
      if isInScope db.toViewDb (getEffectiveTenantId params.tenantId) found = true then
        createViewOf params found db.toViewDb
      else (.error (.refused (.rpc "Config object does not belong to the specified tenant.")),
        db.toViewDb) := by
  change (check (configObjectForNewView db.toViewDb params) >>= _) db.toViewDb = _
  rw [configObjectForNewView_of_firstMet isFirst]
  split
  · change _ = (check (checkViewKey db.toViewDb params found) >>= _) db.toViewDb
    rcases checkViewKey db.toViewDb params found with _ | _ <;> rfl
  · rfl

/-- A call goes on with the object it meets first where that is in its scope, and is refused
otherwise. -/
theorem perform_of_firstMet (call : ScopeCall) (isFirst : call.firstMet db objectType = some found) :
    call.perform db tenantId objectType =
      if isInScope db.toViewDb (getEffectiveTenantId (some tenantId)) found = true then
        call.performOn found db tenantId objectType
      else (call.refused, db) := by
  cases call with
  | listConfigViews =>
      change objectOfType db.toViewDb objectType = some found at isFirst
      simp only [ScopeCall.perform, listConfigViews, isFirst]
      split <;> rfl
  | createConfigView params =>
      have created := @createConfigView_of_firstMet db found
        (params.ofCall tenantId objectType) isFirst
      change _ = if isInScope db.toViewDb (getEffectiveTenantId (some tenantId)) found = true
        then _ else _ at created
      simp only [ScopeCall.perform, onViews, created]
      by_cases inScope :
        isInScope db.toViewDb (getEffectiveTenantId (some tenantId)) found = true
      · rw [if_pos inScope, if_pos inScope]
        rfl
      · rw [if_neg inScope, if_neg inScope]
        rfl
  | listConfigStatusMappings =>
      change oldestObjectOfType db objectType = some found at isFirst
      simp only [ScopeCall.perform, listConfigStatusMappings,
        getConfigObjectForTenantScopeByObjectType, isFirst]
      split <;> rfl
  | createConfigStatusMapping params =>
      change oldestObjectOfType db objectType = some found at isFirst
      have resolved : getConfigObjectForTenantScopeByObjectType db (some tenantId) objectType =
          if isInScope db.toViewDb (getEffectiveTenantId (some tenantId)) found = true then
            .ok found
          else .error (.rpc "Config object does not belong to the specified tenant.") := by
        simp only [getConfigObjectForTenantScopeByObjectType, isFirst]
      change Prod.map _ _ ((Program.lift
        (getConfigObjectForTenantScopeByObjectType db (some tenantId) objectType) >>=
          createStatusMappingOf (params.ofCall tenantId objectType)) db) = _
      rw [resolved]
      split <;> rfl
  | getActiveScopedConfigView viewType =>
      change objectOfType db.toViewDb objectType = some found at isFirst
      simp only [ScopeCall.perform, getActiveScopedConfigView,
        tryResolveConfigObjectForEntityScope, isFirst, Option.filter_some]
      split <;> rfl

end Performed

/-! ## Creating on an object -/

section Creating

variable {db other : ScopeDb} {tenantId : Nat} {templateSet : ConfigTemplateSetEntity}
  {configObject : ConfigObjectEntity}

/-- The tenant and the user of an audit entry exist. -/
def MayLog (db : ViewDb) (tenantId : Option Nat) (changedBy : Nat) : Prop :=
  (∀ tenant ∈ tenantId, tenant ∈ db.tenants) ∧ changedBy ∈ db.tenantUsers

instance (db : ViewDb) (tenantId : Option Nat) (changedBy : Nat) :
    Decidable (MayLog db tenantId changedBy) := inferInstanceAs (Decidable (_ ∧ _))

/-- What the creation of a view returns or raises. -/
theorem createViewOf_result (params : CreateConfigViewParams) :
    (createViewOf params configObject db.toViewDb).1 =
      match checkViewKey db.toViewDb params configObject with
      | .error refusal => .error (.refused refusal)
      | .ok _ =>
          match checkIndexes db.toViewDb
            (Keyed.withKey db.views.autoIncrement (newView params configObject)) with
          | .error failure => .error failure
          | .ok _ =>
              if MayLog db.toViewDb (getEffectiveTenantId params.tenantId) params.createdBy then
                .ok (Keyed.withKey db.views.autoIncrement (newView params configObject))
              else .error .foreignKey := by
  unfold createViewOf insertView logConfigChange
  simp only [Bind.bind, Program.andThen, Program.read, id]
  rcases checkViewKey db.toViewDb params configObject with _ | _
  · rfl
  · simp only [check, Program.result]
    rcases checkIndexes db.toViewDb
      (Keyed.withKey db.views.autoIncrement (newView params configObject)) with _ | _
    · rfl
    · simp only [Program.lift, Program.result, Program.writeReturning]
      by_cases mayLog :
        MayLog db.toViewDb (getEffectiveTenantId params.tenantId) params.createdBy
      · rw [if_pos mayLog]
        unfold MayLog at mayLog
        rw [if_pos mayLog]
        rfl
      · rw [if_neg mayLog]
        unfold MayLog at mayLog
        rw [if_neg mayLog]
        rfl

/-- What the creation of a mapping returns or raises. -/
theorem createStatusMappingOf_result (params : CreateConfigStatusMappingParams) :
    (createStatusMappingOf params configObject db).1 =
      match lifecycleState db configObject.configObjectId params.stateKey with
      | none => .error (.rpc ("Lifecycle state \"" ++ params.stateKey
          ++ "\" does not exist for object type \"" ++ params.objectType ++ "\"."))
      | some _ =>
          if mappingTaken db (newMapping params configObject) = true then .error .duplicateKey
          else if MayLog db.toViewDb (getEffectiveTenantId params.tenantId) params.createdBy then
            .ok (Keyed.withKey db.statusMappings.autoIncrement (newMapping params configObject))
          else .error .foreignKey := by
  unfold createStatusMappingOf insertMapping logMapping
  simp only [Bind.bind, Program.andThen, Program.read, id]
  rcases lifecycleState db configObject.configObjectId params.stateKey with _ | _
  · rfl
  · simp only [Program.andThen, Program.read, id]
    by_cases taken : mappingTaken db (newMapping params configObject) = true
    · rw [if_pos taken, if_pos taken]
      rfl
    · rw [if_neg taken, if_neg taken]
      by_cases mayLog :
        MayLog db.toViewDb (getEffectiveTenantId params.tenantId) params.createdBy
      · rw [if_pos mayLog]
        unfold MayLog at mayLog
        simp only [Program.writeReturning]
        rw [if_pos mayLog]
        rfl
      · rw [if_neg mayLog]
        unfold MayLog at mayLog
        simp only [Program.writeReturning]
        rw [if_neg mayLog]
        rfl

/-- What the indexes of views say of a new row, among the rows of its object. -/
def indexesAmong (own : List ConfigObjectViewEntity) (view : ConfigObjectViewEntity) :
    Except ViewError Unit :=
  let active := view.isActive && own.any fun row =>
    row.isActive && inScopeOf view.configObjectId view.viewType view.tenantId row
  let taken := own.any fun row => row.viewKey == view.viewKey
  if active || taken then .error (.duplicateKey active taken) else .ok ()

theorem checkIndexes_new (view : ConfigObjectViewEntity) :
    checkIndexes db.toViewDb (Keyed.withKey db.views.autoIncrement view) =
      indexesAmong (db.views.select fun row => row.configObjectId == view.configObjectId)
        view := by
  have older (row : ConfigObjectViewEntity) (member : row ∈ db.views.rows) :
      row.configObjectViewId ≠ db.views.autoIncrement :=
    Nat.ne_of_lt (db.views.bounded row member).2
  have active : activeScopeTaken db.toViewDb (Keyed.withKey db.views.autoIncrement view) =
      (view.isActive && (db.views.select fun row =>
        row.configObjectId == view.configObjectId).any fun row =>
          row.isActive && inScopeOf view.configObjectId view.viewType view.tenantId row) := by
    rw [Bool.eq_iff_iff]
    simp only [activeScopeTaken, Keyed.withKey, Table.select, Bool.and_eq_true, List.any_eq_true,
      List.mem_filter, bne_iff_ne, beq_iff_eq, inScopeOf]
    constructor
    · rintro ⟨isActive, row, member, ⟨_, rowActive⟩, scope⟩
      exact ⟨isActive, row, ⟨member, scope.1.1⟩, rowActive, scope⟩
    · rintro ⟨isActive, row, ⟨member, _⟩, rowActive, scope⟩
      exact ⟨isActive, row, member, ⟨older row member, rowActive⟩, scope⟩
  have taken : viewKeyTaken db.toViewDb (Keyed.withKey db.views.autoIncrement view) =
      (db.views.select fun row => row.configObjectId == view.configObjectId).any fun row =>
        row.viewKey == view.viewKey := by
    rw [Bool.eq_iff_iff]
    simp only [viewKeyTaken, Keyed.withKey, Table.select, Bool.and_eq_true, List.any_eq_true,
      List.mem_filter, bne_iff_ne, beq_iff_eq]
    constructor
    · rintro ⟨row, member, ⟨_, ofObject⟩, sameKey⟩
      exact ⟨row, ⟨member, ofObject⟩, sameKey⟩
    · rintro ⟨row, ⟨member, ofObject⟩, sameKey⟩
      exact ⟨row, member, ⟨older row member, ofObject⟩, sameKey⟩
  unfold checkIndexes indexesAmong
  rw [active, taken]

end Creating

/-! ## The same own rows -/

section SameRows

variable {db other : ScopeDb} {tenantId : Nat} {objectType : String}
  {templateSet : ConfigTemplateSetEntity} {configObject : ConfigObjectEntity} {call : ScopeCall}

/-- A first row of an object is one among the rows of the object. -/
theorem find?_of_object {α : Type} [Keyed α] {rows others : Table α} {object q : α → Bool}
    (same : rows.select object = others.select object) :
    (rows.rows.find? fun row => object row && q row) =
      others.rows.find? fun row => object row && q row := by
  unfold Table.select at same
  have inside (table : Table α) : (table.rows.find? fun row => object row && q row) =
      (table.rows.filter object).find? q := by
    rw [List.find?_filter]
    exact congrArg (List.find? · _) (funext fun row => by simp)
  rw [inside, inside, same]

theorem SameOwnRows.latestActiveView
    (same : SameOwnRows tenantId templateSet configObject call db other)
    (viewType : ConfigObjectViewType) (scope : Option Nat) :
    ConfigObjectsService.latestActiveView db.toViewDb configObject.configObjectId viewType scope =
      ConfigObjectsService.latestActiveView other.toViewDb configObject.configObjectId viewType
        scope := by
  have inside (views : Table ConfigObjectViewEntity) : (views.select fun view =>
      view.isActive && inScopeOf configObject.configObjectId viewType scope view) =
        (views.select fun view => view.configObjectId == configObject.configObjectId).filter
          fun view => view.isActive && inScopeOf configObject.configObjectId viewType scope view := by
    unfold Table.select
    rw [List.filter_filter]
    refine List.filter_congr fun view _ => Bool.eq_iff_iff.mpr ?_
    simp only [inScopeOf, Bool.and_eq_true, beq_iff_eq]
    exact ⟨fun isActive => ⟨isActive, isActive.2.1.1⟩, fun isActive => isActive.1⟩
  unfold ConfigObjectsService.latestActiveView
  rw [inside, inside, same.views]

theorem SameOwnRows.mayLog (same : SameOwnRows tenantId templateSet configObject call db other)
    {user : Nat} (isCaller : user ∈ call.changedBy) :
    MayLog db.toViewDb (getEffectiveTenantId (some tenantId)) user ↔
      MayLog other.toViewDb (getEffectiveTenantId (some tenantId)) user := by
  refine and_congr (forall₂_congr fun tenant inScope => ?_) (same.caller user isCaller)
  have isTenant : tenant = tenantId :=
    (Option.some.inj (Option.filter_eq_some_iff.mp inScope).1).symm
  rw [isTenant]
  exact same.tenant

theorem SameOwnRows.mappingTaken
    (same : SameOwnRows tenantId templateSet configObject call db other)
    (params : CreateConfigStatusMappingParams) :
    ConfigObjectsService.mappingTaken db (newMapping params configObject) =
      ConfigObjectsService.mappingTaken other (newMapping params configObject) := by
  have inside (mappings : Table ConfigObjectStatusMappingEntity) :
      (mappings.rows.any fun row =>
        row.configObjectId == configObject.configObjectId && row.stateKey == params.stateKey &&
          row.statusSource == params.statusSource && row.statusValue == params.statusValue) =
        (mappings.select fun row => row.configObjectId == configObject.configObjectId).any
          fun row => row.stateKey == params.stateKey &&
            row.statusSource == params.statusSource && row.statusValue == params.statusValue := by
    unfold Table.select
    rw [List.any_filter]
    simp only [Bool.and_assoc]
  have both := congrArg (List.any · fun row => row.stateKey == params.stateKey &&
    row.statusSource == params.statusSource && row.statusValue == params.statusValue)
      same.statusMappings
  exact (inside _).trans (both.trans (inside _).symm)

theorem SameOwnRows.createViewOf
    (same : SameOwnRows tenantId templateSet configObject call db other)
    {params : CreateConfigViewParams} (ofTenant : params.tenantId = some tenantId)
    (isCaller : params.createdBy ∈ call.changedBy) :
    (CoreApi.ConfigObjects.createViewOf params configObject db.toViewDb).1.map
        (Keyed.withKey 0) =
      (CoreApi.ConfigObjects.createViewOf params configObject other.toViewDb).1.map
        (Keyed.withKey 0) := by
  have sameKeys : checkViewKey db.toViewDb params configObject =
      checkViewKey other.toViewDb params configObject := by
    unfold checkViewKey
    rw [find?_of_object same.views]
  have sameIndexes : checkIndexes db.toViewDb
        (Keyed.withKey db.views.autoIncrement (newView params configObject)) =
      checkIndexes other.toViewDb
        (Keyed.withKey other.views.autoIncrement (newView params configObject)) := by
    rw [checkIndexes_new, checkIndexes_new]
    exact congrArg (indexesAmong · _) same.views
  have sameLog := same.mayLog isCaller
  rw [← ofTenant] at sameLog
  rw [createViewOf_result, createViewOf_result, sameKeys, sameIndexes]
  rcases checkViewKey other.toViewDb params configObject with _ | _
  · rfl
  · rcases checkIndexes other.toViewDb
      (Keyed.withKey other.views.autoIncrement (newView params configObject)) with _ | _
    · rfl
    · dsimp only
      by_cases mayLog : MayLog db.toViewDb (getEffectiveTenantId params.tenantId) params.createdBy
      · rw [if_pos mayLog, if_pos (sameLog.mp mayLog)]
        rfl
      · rw [if_neg mayLog, if_neg fun mayLog' => mayLog (sameLog.mpr mayLog')]

theorem SameOwnRows.createStatusMappingOf
    (same : SameOwnRows tenantId templateSet configObject call db other)
    {params : CreateConfigStatusMappingParams} (ofTenant : params.tenantId = some tenantId)
    (isCaller : params.createdBy ∈ call.changedBy) :
    (ConfigObjectsService.createStatusMappingOf params configObject db).1.map (Keyed.withKey 0) =
      (ConfigObjectsService.createStatusMappingOf params configObject other).1.map
        (Keyed.withKey 0) := by
  have sameStates : lifecycleState db configObject.configObjectId params.stateKey =
      lifecycleState other configObject.configObjectId params.stateKey :=
    find?_of_object same.lifecycles
  have sameLog := same.mayLog isCaller
  rw [← ofTenant] at sameLog
  rw [createStatusMappingOf_result, createStatusMappingOf_result, sameStates,
    same.mappingTaken params]
  rcases lifecycleState other configObject.configObjectId params.stateKey with _ | _
  · rfl
  · dsimp only
    split
    · rfl
    · by_cases mayLog : MayLog db.toViewDb (getEffectiveTenantId params.tenantId) params.createdBy
      · rw [if_pos mayLog, if_pos (sameLog.mp mayLog)]
        rfl
      · rw [if_neg mayLog, if_neg fun mayLog' => mayLog (sameLog.mpr mayLog')]

theorem SameOwnRows.performOn
    (same : SameOwnRows tenantId templateSet configObject call db other) :
    (call.performOn configObject db tenantId objectType).1.apartFromId =
      (call.performOn configObject other tenantId objectType).1.apartFromId := by
  cases call with
  | listConfigViews =>
      simp only [ScopeCall.performOn, viewsOf, same.views]
  | createConfigView params =>
      have ofTenant : (params.ofCall tenantId objectType).tenantId = some tenantId := rfl
      exact congrArg ScopeOutcome.createdView (same.createViewOf ofTenant rfl)
  | listConfigStatusMappings =>
      simp only [ScopeCall.performOn, statusMappingsOf, same.statusMappings]
  | createConfigStatusMapping params =>
      have ofTenant : (params.ofCall tenantId objectType).tenantId = some tenantId := rfl
      exact congrArg ScopeOutcome.createdMapping (same.createStatusMappingOf ofTenant rfl)
  | getActiveScopedConfigView viewType =>
      simp only [ScopeCall.performOn, activeViewOf, same.latestActiveView]

end SameRows

/-! ## The configuration that a call reaches -/

section Reached

variable {db other : ScopeDb} {tenantId : Nat} {objectType : String}
  {templateSet : ConfigTemplateSetEntity} {configObject : ConfigObjectEntity} {call : ScopeCall}

/-- The call operates on the object. -/
def OperatesOn (db : ScopeDb) (tenantId : Nat) (objectType : String)
    (configObject : ConfigObjectEntity) (call : ScopeCall) : Prop :=
  call.perform db tenantId objectType = call.performOn configObject db tenantId objectType

theorem performOn_ne_refused (writes : ∀ viewType, call ≠ .getActiveScopedConfigView viewType) :
    (call.performOn configObject db tenantId objectType).1 ≠ call.refused := by
  cases call with
  | listConfigViews | listConfigStatusMappings =>
      intro same
      cases same
  | createConfigView params =>
      intro same
      have isRefused := ScopeOutcome.createdView.inj same
      change (createViewOf _ _ _).1 = _ at isRefused
      rw [createViewOf_result] at isRefused
      split at isRefused
      · next refusal notFree =>
          unfold checkViewKey at notFree
          split at notFree
          · cases notFree
            have letters := congrArg String.toList
              (ViewRefusal.rpc.inj (ViewError.refused.inj (Except.error.inj isRefused)))
            simp [String.toList_append] at letters
          · cases notFree
      · split at isRefused
        · next failure taken =>
            unfold checkIndexes at taken
            split at taken
            · cases taken
              cases isRefused
            · cases taken
        · split at isRefused <;> cases isRefused
  | createConfigStatusMapping params =>
      intro same
      have isRefused := ScopeOutcome.createdMapping.inj same
      change (createStatusMappingOf _ _ _).1 = _ at isRefused
      rw [createStatusMappingOf_result] at isRefused
      split at isRefused
      · have letters := congrArg String.toList (MappingError.rpc.inj (Except.error.inj isRefused))
        simp [String.toList_append] at letters
      · split at isRefused
        · cases isRefused
        · split at isRefused <;> cases isRefused
  | getActiveScopedConfigView viewType => exact absurd rfl (writes viewType)

/-- A call operates on the object of the tenant exactly when it meets it first, or asks for an
active view where there is none. -/
theorem operatesOn_iff (owns : Owns db.toViewDb tenantId objectType templateSet configObject) :
    OperatesOn db tenantId objectType configObject call ↔
      MeetsOwn db tenantId objectType configObject call := by
  obtain ⟨found, isFirst⟩ := Option.ne_none_iff_exists'.mp owns.firstMet_ne_none
  unfold OperatesOn MeetsOwn
  rw [perform_of_firstMet call isFirst]
  by_cases inScope : isInScope db.toViewDb (getEffectiveTenantId (some tenantId)) found = true
  · have isOwn := owns.eq_of_inScope isFirst inScope
    rw [if_pos inScope, isFirst, isOwn]
    exact iff_of_true rfl (.inl rfl)
  · have notOwn : call.firstMet db objectType ≠ some configObject := by
      intro isOwn
      have same : found = configObject := Option.some.inj (isFirst.symm.trans isOwn)
      exact inScope (same ▸ owns.inScope)
    rw [if_neg inScope]
    by_cases reads : ∃ viewType, call = .getActiveScopedConfigView viewType
    · obtain ⟨viewType, rfl⟩ := reads
      constructor
      · intro noView
        exact .inr ⟨viewType, rfl, (ScopeOutcome.activeView.inj (congrArg Prod.fst noView)).symm⟩
      · rintro (isOwn | ⟨viewType', isCall, noView⟩)
        · exact absurd isOwn notOwn
        · cases isCall
          simp only [ScopeCall.performOn, ScopeCall.refused, noView]
    · refine iff_of_false ?_ ?_
      · intro same
        exact performOn_ne_refused (fun viewType isCall => reads ⟨viewType, isCall⟩)
          (congrArg Prod.fst same).symm
      · rintro (isOwn | ⟨viewType, isCall, _⟩)
        · exact notOwn isOwn
        · exact reads ⟨viewType, isCall⟩

/-- A tenant reaches its own configuration, whatever others configure, exactly when its object is
the first that the call meets with their rows and without them. -/
theorem own_configuration_reached_iff
    (owns : Owns db.toViewDb tenantId objectType templateSet configObject)
    (same : SameOwnRows tenantId templateSet configObject call db other) :
    (OperatesOn db tenantId objectType configObject call ∧
        OperatesOn other tenantId objectType configObject call ∧
        (call.perform db tenantId objectType).1.apartFromId =
          (call.perform other tenantId objectType).1.apartFromId) ↔
      MeetsOwn db tenantId objectType configObject call ∧
        MeetsOwn other tenantId objectType configObject call := by
  have operates := @operatesOn_iff db _ _ _ _ call owns
  have operatesOther := @operatesOn_iff other _ _ _ _ call (same.owns owns)
  constructor
  · rintro ⟨here, there, _⟩
    exact ⟨operates.mp here, operatesOther.mp there⟩
  · rintro ⟨here, there⟩
    have isHere := operates.mpr here
    have isThere := operatesOther.mpr there
    refine ⟨isHere, isThere, ?_⟩
    unfold OperatesOn at isHere isThere
    rw [isHere, isThere]
    exact same.performOn

end Reached

/-! ## Two tenants with an object of one type -/

/-- Each of two tenants has published a set with an object of tasks, tenant 1 before tenant 2. -/
def twoTaskOwners : ScopeDb where
  tenants := [1, 2]
  tenantUsers := [7]
  templateSets := .ofRows
    [{ configTemplateSetId := 0, tenantId := some 1, status := .published },
      { configTemplateSetId := 0, tenantId := some 2, status := .published }]
  configObjects := .ofRows
    [{ configObjectId := 0, configTemplateSetId := 1, objectType := "task", status := .published },
      { configObjectId := 0, configTemplateSetId := 2, objectType := "task", status := .published }]
  views := .empty _
  auditLogs := []
  lifecycles := .empty _
  statusMappings := .empty _
  statusMappingLogs := []

/-- The database without the rows of a tenant, whose set and object have one id. -/
def withoutTenant (id : Nat) (db : ScopeDb) : ScopeDb :=
  { db with
    tenants := db.tenants.filter (· ≠ id)
    templateSets := db.templateSets.remove fun row => row.configTemplateSetId == id
    configObjects := db.configObjects.remove fun row => row.configObjectId == id }

/-- The set of a tenant. -/
def taskSet (tenantId : Nat) : ConfigTemplateSetEntity := ⟨tenantId, some tenantId, .published⟩

/-- The object of a tenant. -/
def taskObject (tenantId : Nat) : ConfigObjectEntity := ⟨tenantId, tenantId, "task", .published⟩

theorem tenant1_owns : Owns twoTaskOwners.toViewDb 1 "task" (taskSet 1) (taskObject 1) :=
  ⟨by decide, by decide, by decide, rfl⟩

theorem tenant2_owns : Owns twoTaskOwners.toViewDb 2 "task" (taskSet 2) (taskObject 2) :=
  ⟨by decide, by decide, by decide, rfl⟩

/-- A view that is to be created. -/
def taskBoard : CreateConfigViewParams where
  tenantId := none
  objectType := "task"
  createdBy := 7
  viewKey := "board"
  viewType := .list
  name := "Board"

/-- Tenant 1 creates a view of its object, whether tenant 2 is there or not. -/
theorem own_configuration_reached_taskBoard :
    OperatesOn twoTaskOwners 1 "task" (taskObject 1) (.createConfigView taskBoard) ∧
      OperatesOn (withoutTenant 2 twoTaskOwners) 1 "task" (taskObject 1)
        (.createConfigView taskBoard) ∧
      ((ScopeCall.createConfigView taskBoard).perform twoTaskOwners 1 "task").1.apartFromId =
        ((ScopeCall.createConfigView taskBoard).perform (withoutTenant 2 twoTaskOwners) 1
          "task").1.apartFromId :=
  (own_configuration_reached_iff tenant1_owns
    ⟨by decide, by decide, by decide, by decide,
      by decide, by decide, by decide⟩).mpr
        ⟨.inl (by decide), .inl (by decide)⟩

/-- Tenant 2 is refused its own views as long as tenant 1 is there. -/
theorem own_views_refused :
    Owns twoTaskOwners.toViewDb 2 "task" (taskSet 2) (taskObject 2) ∧
      SameOwnRows 2 (taskSet 2) (taskObject 2) .listConfigViews twoTaskOwners
        (withoutTenant 1 twoTaskOwners) ∧
      ¬(OperatesOn twoTaskOwners 2 "task" (taskObject 2) .listConfigViews ∧
        OperatesOn (withoutTenant 1 twoTaskOwners) 2 "task" (taskObject 2) .listConfigViews ∧
        (ScopeCall.listConfigViews.perform twoTaskOwners 2 "task").1.apartFromId =
          (ScopeCall.listConfigViews.perform (withoutTenant 1 twoTaskOwners) 2
            "task").1.apartFromId) := by
  refine ⟨tenant2_owns, ⟨by decide, by decide, by decide,
    by decide, by decide, by decide, by decide⟩, ?_⟩
  rintro ⟨operates, _⟩
  have isOwn := (operatesOn_iff tenant2_owns).mp operates
  rcases isOwn with isFirst | ⟨_, isCall, _⟩
  · exact absurd isFirst (by decide)
  · cases isCall

end CoreApi.ConfigObjects
