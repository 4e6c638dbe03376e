import CoreApi.ConfigObjects.ConfigLifecycleService

/-!
# Status rules and tenants

A status change is checked against the published config object of a type that the query
meets first, whoever it belongs to. So what other tenants configure decides, unless no
change is asked for.
-/

namespace CoreApi.ConfigObjects

open CoreApi.Foundation Automation ConfigLifecycleService

/-! ## What belongs to a tenant -/

/-- A template set of the tenant, or a global one. -/
def isOwnSet (tenantId : Nat) (templateSet : ConfigTemplateSetEntity) : Bool :=
  templateSet.tenantId == some tenantId || templateSet.tenantId == none

/-- A config object in a template set of the tenant or a global one. -/
def isOwn (db : LifecycleDb) (tenantId : Nat) (configObject : ConfigObjectEntity) : Bool :=
  db.templateSets.rows.any fun templateSet =>
    templateSet.configTemplateSetId == configObject.configTemplateSetId &&
      isOwnSet tenantId templateSet

/-- What is configured for a config object of the tenant or a global one. -/
def isOwnObject (db : LifecycleDb) (tenantId configObjectId : Nat) : Bool :=
  db.configObjects.rows.any fun configObject =>
    configObject.configObjectId == configObjectId && isOwn db tenantId configObject

/-- Two states that differ in the configuration of other tenants only. -/
structure AgreesFor (tenantId : Nat) (db db' : LifecycleDb) : Prop where
  templateSets : db'.templateSets.select (isOwnSet tenantId) =
    db.templateSets.select (isOwnSet tenantId)
  configObjects : db'.configObjects.select (isOwn db' tenantId) =
    db.configObjects.select (isOwn db tenantId)
  lifecycles : (db'.lifecycles.select fun row => isOwnObject db' tenantId row.configObjectId) =
    db.lifecycles.select fun row => isOwnObject db tenantId row.configObjectId
  transitions : (db'.transitions.select fun row => isOwnObject db' tenantId row.configObjectId) =
    db.transitions.select fun row => isOwnObject db tenantId row.configObjectId
  statusMappings : db'.statusMappings = db.statusMappings
  projects : db'.projects = db.projects
  tasks : db'.tasks = db.tasks

/-- The foreign keys of the configuration tables. -/
structure ForeignKeys (db : LifecycleDb) : Prop where
  configObjects : ∀ configObject ∈ db.configObjects.rows, ∃ templateSet ∈ db.templateSets.rows,
    templateSet.configTemplateSetId = configObject.configTemplateSetId
  lifecycles : ∀ lifecycle ∈ db.lifecycles.rows, ∃ configObject ∈ db.configObjects.rows,
    configObject.configObjectId = lifecycle.configObjectId
  transitions : ∀ transition ∈ db.transitions.rows, ∃ configObject ∈ db.configObjects.rows,
    configObject.configObjectId = transition.configObjectId

/-- The published config object that decides a type is the tenant's own or global. -/
def OwnFirst (tenantId : Nat) (db : LifecycleDb) (objectType : String) : Prop :=
  ∀ configObject, publishedConfigObject db objectType = some configObject →
    isOwn db tenantId configObject = true

section Own

variable {tenantId : Nat} {db db' : LifecycleDb} {objectType : String}

/-- Of the rows that are selected, a query meets the same first if it meets a selected one. -/
theorem find?_select {α : Type} [Keyed α] {table : Table α} {own p : α → Bool} {row : α}
    (found : table.rows.find? p = some row) (isOwnRow : own row = true) :
    (table.select own).find? p = some row := by
  unfold Table.select
  obtain ⟨holds, earlier, later, rows, notBefore⟩ := List.find?_eq_some_iff_append.mp found
  rw [rows, List.filter_append, List.filter_cons_of_pos isOwnRow, List.find?_append]
  have none : (earlier.filter own).find? p = none := by
    rw [List.find?_eq_none]
    intro other member
    simpa using notBefore other (List.mem_filter.mp member).1
  rw [none, List.find?_cons_of_pos holds]
  rfl

/-- A query for selected rows meets the selected rows only. -/
theorem find?_select_of_imp {α : Type} [Keyed α] {table : Table α} {own p : α → Bool}
    (onlyOwn : ∀ row ∈ table.rows, p row = true → own row = true) :
    (table.select own).find? p = table.rows.find? p := by
  rcases found : table.rows.find? p with _ | row
  · rw [List.find?_eq_none] at found ⊢
    exact fun row member => found row (List.mem_filter.mp member).1
  · exact find?_select found
      (onlyOwn row (List.mem_of_find?_eq_some found) (List.find?_some found))

theorem AgreesFor.symm (agrees : AgreesFor tenantId db db') : AgreesFor tenantId db' db :=
  ⟨agrees.templateSets.symm, agrees.configObjects.symm, agrees.lifecycles.symm,
    agrees.transitions.symm, agrees.statusMappings.symm, agrees.projects.symm, agrees.tasks.symm⟩

/-- An object of the tenant is there in both states. -/
theorem AgreesFor.own (agrees : AgreesFor tenantId db db') {configObject : ConfigObjectEntity}
    (member : configObject ∈ db.configObjects.rows) (own : isOwn db tenantId configObject = true) :
    configObject ∈ db'.configObjects.rows ∧ isOwn db' tenantId configObject = true := by
  have selected := Table.mem_select.mpr ⟨member, own⟩
  rw [← agrees.configObjects] at selected
  exact Table.mem_select.mp selected

theorem mem_of_published {configObject : ConfigObjectEntity}
    (found : publishedConfigObject db objectType = some configObject) :
    configObject ∈ db.configObjects.rows :=
  List.mem_of_find?_eq_some found

/-- Where both states decide a type by objects of the tenant, they do so by the same one. -/
theorem AgreesFor.publishedConfigObject (agrees : AgreesFor tenantId db db')
    (ownFirst : OwnFirst tenantId db objectType) (ownFirst' : OwnFirst tenantId db' objectType) :
    publishedConfigObject db' objectType = publishedConfigObject db objectType := by
  have carried {db db' : LifecycleDb} (agrees : AgreesFor tenantId db db')
      (ownFirst : OwnFirst tenantId db objectType) {configObject : ConfigObjectEntity}
      (found : ConfigLifecycleService.publishedConfigObject db objectType = some configObject) :
      (db'.configObjects.select (isOwn db' tenantId)).find? (fun configObject =>
        configObject.objectType == objectType && configObject.status == .published) =
        some configObject := by
    rw [agrees.configObjects]
    exact find?_select found (ownFirst configObject found)
  rcases found : ConfigLifecycleService.publishedConfigObject db objectType with _ | configObject
  · rcases found' : ConfigLifecycleService.publishedConfigObject db' objectType with _ | other
    · rfl
    · have here := List.mem_of_find?_eq_some (carried agrees.symm ownFirst' found')
      have isOther := List.find?_some found'
      exact absurd isOther (List.find?_eq_none.mp found other (Table.mem_select.mp here).1)
  · rcases found' : ConfigLifecycleService.publishedConfigObject db' objectType with _ | other
    · have here := List.mem_of_find?_eq_some (carried agrees ownFirst found)
      have isObject := List.find?_some found
      exact absurd isObject
        (List.find?_eq_none.mp found' configObject (Table.mem_select.mp here).1)
    · have same := find?_select found' (ownFirst' other found')
      rw [carried agrees ownFirst found] at same
      exact same.symm

theorem AgreesFor.findTransition (agrees : AgreesFor tenantId db db')
    {configObject : ConfigObjectEntity} (member : configObject ∈ db.configObjects.rows)
    (own : isOwn db tenantId configObject = true) (fromStateKey toStateKey : String) :
    findTransition db' configObject.configObjectId fromStateKey toStateKey =
      findTransition db configObject.configObjectId fromStateKey toStateKey := by
  have onlyOwn {db : LifecycleDb} (member : configObject ∈ db.configObjects.rows)
      (own : isOwn db tenantId configObject = true) :
      ((db.transitions.select fun row => isOwnObject db tenantId row.configObjectId).find?
        fun transition => transition.configObjectId == configObject.configObjectId &&
          transition.fromStateKey == fromStateKey && transition.toStateKey == toStateKey) =
        ConfigLifecycleService.findTransition db configObject.configObjectId fromStateKey
          toStateKey := by
    refine find?_select_of_imp fun transition _ isTransition => ?_
    have ofObject : transition.configObjectId = configObject.configObjectId := by
      simp only [Bool.and_eq_true, beq_iff_eq] at isTransition
      exact isTransition.1.1
    exact List.any_eq_true.mpr ⟨configObject, member, by simp [ofObject, own]⟩
  obtain ⟨member', own'⟩ := agrees.own member own
  rw [← onlyOwn member own, ← onlyOwn member' own', agrees.transitions]

theorem AgreesFor.stateKeyOf (agrees : AgreesFor tenantId db db') (projectId taskStatusId : Nat) :
    stateKeyOf db' projectId taskStatusId = stateKeyOf db projectId taskStatusId := by
  unfold ConfigLifecycleService.stateKeyOf
  rw [agrees.statusMappings]

/-- States that decide a type by objects of the tenant answer alike. -/
theorem AgreesFor.checkTransition (agrees : AgreesFor tenantId db db')
    (ownFirst : OwnFirst tenantId db objectType) (ownFirst' : OwnFirst tenantId db' objectType)
    (fromStateKey toStateKey : String) :
    checkTransition db' objectType fromStateKey toStateKey =
      checkTransition db objectType fromStateKey toStateKey := by
  unfold ConfigLifecycleService.checkTransition
  rw [agrees.publishedConfigObject ownFirst ownFirst']
  rcases found : ConfigLifecycleService.publishedConfigObject db objectType with _ | configObject
  · rfl
  · dsimp only
    rw [agrees.findTransition (mem_of_published found) (ownFirst configObject found)]

end Own

/-! ## Another tenant -/

/-- The state after another tenant published a config object of the type, which queries
meet first, and perhaps configured a transition for it. -/
def withForeign (db : LifecycleDb) (tenantId : Nat) (objectType : String)
    (rule : Option (String × String)) : LifecycleDb :=
  { db with
    tenants := (tenantId + 1) :: db.tenants
    templateSets := db.templateSets.insert
      { configTemplateSetId := 0, tenantId := some (tenantId + 1), status := .published }
    configObjects := db.configObjects.insertFirst
      { configObjectId := 0
        configTemplateSetId := db.templateSets.autoIncrement
        objectType := objectType
        status := .published }
    transitions :=
      match rule with
      | none => db.transitions
      | some (fromStateKey, toStateKey) => db.transitions.insert
          { configObjectLifecycleTransitionId := 0
            configObjectId := db.configObjects.autoIncrement
            fromStateKey := fromStateKey
            toStateKey := toStateKey
            rulesJson := none } }

section Foreign

variable (db : LifecycleDb) (tenantId : Nat) (objectType : String) (rule : Option (String × String))

theorem isOwn_withForeign (configObject : ConfigObjectEntity) :
    isOwn (withForeign db tenantId objectType rule) tenantId configObject =
      isOwn db tenantId configObject := by
  simp [isOwn, withForeign, isOwnSet, Keyed.withKey]

theorem isOwn_newSet {configObject : ConfigObjectEntity}
    (inNewSet : configObject.configTemplateSetId = db.templateSets.autoIncrement) :
    isOwn db tenantId configObject = false := by
  refine List.any_eq_false.mpr fun templateSet member => ?_
  have old : templateSet.configTemplateSetId < db.templateSets.autoIncrement :=
    (db.templateSets.bounded templateSet member).2
  simp [inNewSet, Nat.ne_of_lt old]

theorem isOwnObject_withForeign (configObjectId : Nat) :
    isOwnObject (withForeign db tenantId objectType rule) tenantId configObjectId =
      isOwnObject db tenantId configObjectId := by
  have foreign : ∀ configObjectId, isOwn db tenantId
      ⟨configObjectId, db.templateSets.autoIncrement, objectType, .published⟩ = false :=
    fun _ => isOwn_newSet db tenantId rfl
  unfold isOwnObject
  simp only [isOwn_withForeign]
  simp [withForeign, Keyed.withKey, foreign]

theorem isOwnObject_new : isOwnObject db tenantId db.configObjects.autoIncrement = false := by
  refine List.any_eq_false.mpr fun configObject member => ?_
  have old : configObject.configObjectId < db.configObjects.autoIncrement :=
    (db.configObjects.bounded configObject member).2
  simp [Nat.ne_of_lt old]

/-- What another tenant configures is none of the tenant's configuration. -/
theorem agreesFor_withForeign :
    AgreesFor tenantId db (withForeign db tenantId objectType rule) where
  templateSets := by
    simp [withForeign, Table.select, List.filter_append, isOwnSet, Keyed.withKey]
  configObjects := by
    have foreign : ∀ configObjectId, isOwn db tenantId
        ⟨configObjectId, db.templateSets.autoIncrement, objectType, .published⟩ = false :=
      fun _ => isOwn_newSet db tenantId rfl
    rw [funext (isOwn_withForeign db tenantId objectType rule)]
    simp [withForeign, Table.select, Keyed.withKey, foreign]
  lifecycles := by
    simp only [isOwnObject_withForeign]
    rfl
  transitions := by
    simp only [isOwnObject_withForeign]
    rcases rule with _ | ⟨fromStateKey, toStateKey⟩
    · rfl
    · simp [withForeign, Table.select, List.filter_append, Keyed.withKey, isOwnObject_new]
  statusMappings := rfl
  projects := rfl
  tasks := rfl

theorem foreignKeys_withForeign (keys : ForeignKeys db) :
    ForeignKeys (withForeign db tenantId objectType rule) where
  configObjects configObject member := by
    rcases List.mem_cons.mp member with rfl | old
    · exact ⟨_, List.mem_append_right _ (List.mem_singleton_self _), rfl⟩
    · obtain ⟨templateSet, known, same⟩ := keys.configObjects configObject old
      exact ⟨templateSet, List.mem_append_left _ known, same⟩
  lifecycles lifecycle member := by
    obtain ⟨configObject, known, same⟩ := keys.lifecycles lifecycle member
    exact ⟨configObject, List.mem_cons_of_mem _ known, same⟩
  transitions transition member := by
    have old (member : transition ∈ db.transitions.rows) :
        ∃ configObject ∈ (withForeign db tenantId objectType rule).configObjects.rows,
          configObject.configObjectId = transition.configObjectId := by
      obtain ⟨configObject, known, same⟩ := keys.transitions transition member
      exact ⟨configObject, List.mem_cons_of_mem _ known, same⟩
    rcases rule with _ | ⟨fromStateKey, toStateKey⟩
    · exact old member
    · rcases List.mem_append.mp member with known | new
      · exact old known
      · rw [List.mem_singleton.mp new]
        exact ⟨_, List.mem_cons_self, rfl⟩

theorem publishedConfigObject_withForeign :
    publishedConfigObject (withForeign db tenantId objectType rule) objectType =
      some ⟨db.configObjects.autoIncrement, db.templateSets.autoIncrement, objectType,
        .published⟩ := by
  unfold publishedConfigObject withForeign
  rw [Table.rows_insertFirst, List.find?_cons_of_pos]
  · rfl
  · simp [Keyed.withKey]

/-- The other tenant allows the change it configured. -/
theorem checkTransition_allowed (fromStateKey toStateKey : String) :
    checkTransition (withForeign db tenantId objectType (some (fromStateKey, toStateKey)))
      objectType fromStateKey toStateKey = .ok () := by
  unfold checkTransition
  rw [publishedConfigObject_withForeign]
  dsimp only
  rcases found : findTransition _ db.configObjects.autoIncrement fromStateKey toStateKey with _ | _
  · have isRule := List.find?_eq_none.mp found _
      (List.mem_append_right _ (List.mem_singleton_self _))
    simp [Keyed.withKey] at isRule
  · rfl

/-- Where it configured no transition it allows none. -/
theorem checkTransition_forbidden (keys : ForeignKeys db) (fromStateKey toStateKey : String) :
    checkTransition (withForeign db tenantId objectType none) objectType fromStateKey toStateKey ≠
      .ok () := by
  unfold checkTransition
  rw [publishedConfigObject_withForeign]
  dsimp only
  rcases found : findTransition _ db.configObjects.autoIncrement fromStateKey toStateKey with
    _ | transition
  · nofun
  · have isRule := List.find?_some found
    obtain ⟨configObject, known, same⟩ :=
      keys.transitions transition (List.mem_of_find?_eq_some found)
    have old : configObject.configObjectId < db.configObjects.autoIncrement :=
      (db.configObjects.bounded configObject known).2
    simp only [Bool.and_eq_true, beq_iff_eq] at isRule
    exact absurd (same.trans isRule.1.1) (Nat.ne_of_lt old)

end Foreign

/-- Whatever a check answers, another tenant can turn it. -/
theorem checkTransition_interferes {db : LifecycleDb} (keys : ForeignKeys db) (tenantId : Nat)
    (objectType fromStateKey toStateKey : String) :
    ∃ db', ForeignKeys db' ∧ AgreesFor tenantId db db' ∧
      checkTransition db' objectType fromStateKey toStateKey ≠
        checkTransition db objectType fromStateKey toStateKey := by
  rcases answer : checkTransition db objectType fromStateKey toStateKey with e | ok
  · refine ⟨withForeign db tenantId objectType (some (fromStateKey, toStateKey)),
      foreignKeys_withForeign _ _ _ _ keys, agreesFor_withForeign _ _ _ _, ?_⟩
    rw [checkTransition_allowed]
    nofun
  · exact ⟨withForeign db tenantId objectType none, foreignKeys_withForeign _ _ _ _ keys,
      agreesFor_withForeign _ _ _ _, checkTransition_forbidden _ _ _ keys _ _⟩

/-! ## The rules of a tenant -/

/-- No state that differs in the configuration of other tenants only gives another answer. -/
def Noninterfering (tenantId : Nat) (db : LifecycleDb)
    (answer : LifecycleDb → Except String Unit) : Prop :=
  ∀ db', ForeignKeys db' → AgreesFor tenantId db db' → answer db' = answer db

/-- The answer on a status change of a project or task of a tenant depends on the
configuration of the others, unless no change is asked for; between states that decide the
type by objects of the tenant it does not. -/
theorem statusRules_noninterfering (tenantId : Nat) {db : LifecycleDb} (keys : ForeignKeys db) :
    (∀ project nextStatus, project.tenantId = tenantId →
      (Noninterfering tenantId db (fun db => validateProjectStatusTransition db project nextStatus) ↔
        project.status = nextStatus)) ∧
    (∀ task nextStatusId, task.tenantId = tenantId →
      (Noninterfering tenantId db (fun db => validateTaskStatusTransition db task nextStatusId) ↔
        task.taskStatusId = nextStatusId)) ∧
    ∀ db', AgreesFor tenantId db db' →
      (OwnFirst tenantId db "project" → OwnFirst tenantId db' "project" →
        ∀ project nextStatus, validateProjectStatusTransition db' project nextStatus =
          validateProjectStatusTransition db project nextStatus) ∧
      (OwnFirst tenantId db "task" → OwnFirst tenantId db' "task" →
        ∀ task nextStatusId, validateTaskStatusTransition db' task nextStatusId =
          validateTaskStatusTransition db task nextStatusId) := by
  refine ⟨fun project nextStatus _ => ⟨fun same => ?_, fun unchanged db' _ _ => ?_⟩,
    fun task nextStatusId _ => ⟨fun same => ?_, fun unchanged db' _ _ => ?_⟩,
    fun db' agrees => ⟨fun own own' project nextStatus => ?_, fun own own' task nextStatusId => ?_⟩⟩
  · by_contra changed
    obtain ⟨db', keys', agrees, differs⟩ := checkTransition_interferes keys tenantId "project"
      (projectStatusText project.status) (projectStatusText nextStatus)
    have answer := same db' keys' agrees
    simp only [validateProjectStatusTransition, if_neg changed] at answer
    exact differs answer
  · simp only [validateProjectStatusTransition, if_pos unchanged]
  · by_contra changed
    obtain ⟨db', keys', agrees, differs⟩ := checkTransition_interferes keys tenantId "task"
      (stateKeyOf db task.projectId task.taskStatusId) (stateKeyOf db task.projectId nextStatusId)
    have answer := same db' keys' agrees
    simp only [validateTaskStatusTransition, if_neg changed, agrees.stateKeyOf] at answer
    exact differs answer
  · simp only [validateTaskStatusTransition, if_pos unchanged]
  · simp only [validateProjectStatusTransition, agrees.checkTransition own own']
  · simp only [validateTaskStatusTransition, agrees.stateKeyOf, agrees.checkTransition own own']

/-! ## A tenant next to another -/

/-- A tenant whose published lifecycle allows to complete an active project. -/
def oneTenant : LifecycleDb where
  tenants := [1]
  tenantUsers := [1]
  templateSets := Table.ofRows [⟨0, some 1, .published⟩]
  configObjects := Table.ofRows [⟨0, 1, "project", .published⟩]
  lifecycles := Table.ofRows
    [⟨0, 1, "active", "Active", none, 0⟩, ⟨0, 1, "completed", "Completed", none, 1⟩]
  transitions := Table.ofRows [⟨0, 1, "active", "completed", none⟩]
  statusMappings := .empty _
  projects := .empty _
  tasks := .empty _
  auditLogs := []

/-- A project of that tenant. -/
def activeProject : ProjectEntity := ⟨1, 1, .active⟩

instance (db : LifecycleDb) : Decidable (ForeignKeys db) :=
  decidable_of_iff
    ((∀ configObject ∈ db.configObjects.rows, ∃ templateSet ∈ db.templateSets.rows,
        templateSet.configTemplateSetId = configObject.configTemplateSetId) ∧
      (∀ lifecycle ∈ db.lifecycles.rows, ∃ configObject ∈ db.configObjects.rows,
        configObject.configObjectId = lifecycle.configObjectId) ∧
      ∀ transition ∈ db.transitions.rows, ∃ configObject ∈ db.configObjects.rows,
        configObject.configObjectId = transition.configObjectId)
    ⟨fun all => ⟨all.1, all.2.1, all.2.2⟩, fun keys => ⟨keys.1, keys.2, keys.3⟩⟩

/-- The rules for the project as long as nothing else is configured. -/
theorem statusRules_noninterfering_oneTenant :
    Noninterfering 1 oneTenant
      (fun db => validateProjectStatusTransition db activeProject .active) ∧
    ¬ Noninterfering 1 oneTenant
      (fun db => validateProjectStatusTransition db activeProject .completed) :=
  have rules := @statusRules_noninterfering 1 oneTenant (by decide)
  ⟨(rules.1 activeProject .active rfl).mpr rfl,
    fun same => nomatch (rules.1 activeProject .completed rfl).mp same⟩

/-- The project may be completed, until another tenant publishes a lifecycle. -/
theorem foreignLifecycle_decides : ForeignKeys oneTenant ∧
    ForeignKeys (withForeign oneTenant 1 "project" none) ∧
    AgreesFor 1 oneTenant (withForeign oneTenant 1 "project" none) ∧
    activeProject.tenantId = 1 ∧
    validateProjectStatusTransition oneTenant activeProject .completed = .ok () ∧
    validateProjectStatusTransition (withForeign oneTenant 1 "project" none) activeProject
      .completed ≠ .ok () :=
  ⟨by decide, by decide, agreesFor_withForeign _ _ _ _, rfl, by decide,
    by decide⟩

end CoreApi.ConfigObjects
