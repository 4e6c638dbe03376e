import CoreApi.Automation.InstalledTemplates
import CoreApi.ConfigObjects.ConfigLifecycleService

/-!
# Advertised and enforced task transitions

A project maps lifecycle states to task statuses, and several states may share a status.
What a task is told and what it may do are both read back through that map, each by the
mapping row its query meets first.
-/

namespace CoreApi.ConfigObjects

open CoreApi.Foundation Automation ConfigLifecycleService

/-- The listing offers the state to the task. -/
def Advertises (db : LifecycleDb) (task : Task) (state : StepStatus) : Prop :=
  ∃ listing, getInstanceLifecycleState db task.tenantId "task" task.taskId = .ok listing ∧
    ∃ allowed ∈ listing.allowedTransitions, allowed.toStateKey = state.text

/-- The task may be changed to the status. -/
def Accepts (db : LifecycleDb) (task : Task) (nextStatusId : Nat) : Prop :=
  validateTaskStatusTransition db task nextStatusId = .ok ()

instance (db : LifecycleDb) (task : Task) (state : StepStatus) :
    Decidable (Advertises db task state) :=
  decidable_of_iff
    (∃ listing ∈ (getInstanceLifecycleState db task.tenantId "task" task.taskId).toOption,
      ∃ allowed ∈ listing.allowedTransitions, allowed.toStateKey = state.text)
    (by
      unfold Advertises
      rcases getInstanceLifecycleState db task.tenantId "task" task.taskId with _ | listing <;>
        simp [Except.toOption])

instance (db : LifecycleDb) (task : Task) (nextStatusId : Nat) :
    Decidable (Accepts db task nextStatusId) :=
  inferInstanceAs (Decidable (_ = _))

/-- The same state, its mapping rows met in another order. -/
def meeting (db : LifecycleDb) (rows : List StepStatusMapping)
    (same : rows.Perm db.statusMappings.rows) : LifecycleDb :=
  { db with statusMappings := db.statusMappings.reordered rows same }

/-- Whatever mapping rows the two queries meet first, the listing offers the state exactly
when the task may be changed to the status. -/
def AdvertisesEnforced (db : LifecycleDb) (task : Task) (state : StepStatus)
    (nextStatusId : Nat) : Prop :=
  ∀ rows same rows' same', Advertises (meeting db rows same) task state ↔
    Accepts (meeting db rows' same') task nextStatusId

/-- The states that share a status of a project; without any, the status is its own state. -/
def stateKeys (db : LifecycleDb) (projectId taskStatusId : Nat) : List String :=
  match db.statusMappings.select (isMappingOf projectId taskStatusId) with
  | [] => [toString taskStatusId]
  | mappings => mappings.map fun mapping => mapping.stepEngineState.text

/-- A configured transition of a config object. -/
def Leads (db : LifecycleDb) (configObjectId : Nat) (fromStateKey toStateKey : String) : Prop :=
  ∃ transition ∈ db.transitions.rows, transition.configObjectId = configObjectId ∧
    transition.fromStateKey = fromStateKey ∧ transition.toStateKey = toStateKey

/-- A task lifecycle is published, and its transitions do not tell apart the states that
share the status of the task, nor the state asked for from those that share the next status. -/
def TreatsAlike (db : LifecycleDb) (task : Task) (state : StepStatus) (nextStatusId : Nat) : Prop :=
  ∃ configObject, publishedConfigObject db "task" = some configObject ∧
    ∀ fromStateKey ∈ stateKeys db task.projectId task.taskStatusId,
    ∀ fromStateKey' ∈ stateKeys db task.projectId task.taskStatusId,
    ∀ toStateKey ∈ stateKeys db task.projectId nextStatusId,
      (Leads db configObject.configObjectId fromStateKey state.text ↔
        Leads db configObject.configObjectId fromStateKey' toStateKey)

/-! ## Rows met first -/

/-- A row may be met before all others, with no other change of the order. -/
theorem exists_metFirst {α : Type} {rows : List α} {row : α} (member : row ∈ rows) :
    ∃ rows' : List α, rows'.Perm rows ∧ (∀ p : α → Bool, p row = true → rows'.find? p = some row) ∧
      ∀ p : α → Bool, p row = false → rows'.find? p = rows.find? p := by
  obtain ⟨earlier, later, rfl⟩ := List.append_of_mem member
  refine ⟨row :: (earlier ++ later), List.perm_middle.symm,
    fun p holds => List.find?_cons_of_pos holds, fun p fails => ?_⟩
  have notRow : ¬ p row = true := by simp [fails]
  rw [List.find?_cons_of_neg notRow, List.find?_append, List.find?_append,
    List.find?_cons_of_neg notRow]

/-- The state of a status is one of those that share it. -/
theorem stateKeyOf_mem (db : LifecycleDb) (projectId taskStatusId : Nat) :
    stateKeyOf db projectId taskStatusId ∈ stateKeys db projectId taskStatusId := by
  unfold stateKeyOf stateKeys Table.select
  rcases found : db.statusMappings.rows.find? (isMappingOf projectId taskStatusId) with _ | mapping
  · rw [List.filter_eq_nil_iff.mpr (List.find?_eq_none.mp found)]
    exact List.mem_singleton_self (toString taskStatusId)
  · have here : mapping ∈ db.statusMappings.rows.filter (isMappingOf projectId taskStatusId) :=
      List.mem_filter.mpr ⟨List.mem_of_find?_eq_some found, List.find?_some found⟩
    split
    · next none =>
        rw [none] at here
        cases here
    · exact List.mem_map_of_mem here

section Keys

variable {db : LifecycleDb} {projectId taskStatusId : Nat}

theorem mem_stateKeys_meeting {rows : List StepStatusMapping}
    (same : rows.Perm db.statusMappings.rows) {stateKey : String} :
    stateKey ∈ stateKeys (meeting db rows same) projectId taskStatusId ↔
      stateKey ∈ stateKeys db projectId taskStatusId := by
  have filtered := same.filter (isMappingOf projectId taskStatusId)
  unfold stateKeys Table.select meeting Table.reordered
  dsimp only
  split
  · next none =>
      rw [none] at filtered
      rw [List.nil_perm.mp filtered]
  · next some =>
      split
      · next none =>
          rw [none] at filtered
          exact absurd (List.perm_nil.mp filtered) some
      · exact (filtered.map _).mem_iff

/-- Any of the states that share a status may be met first, whatever the other statuses
stand for. -/
theorem exists_meeting {stateKey : String}
    (shared : stateKey ∈ stateKeys db projectId taskStatusId) :
    ∃ rows same, stateKeyOf (meeting db rows same) projectId taskStatusId = stateKey ∧
      ∀ other, other ≠ taskStatusId →
        stateKeyOf (meeting db rows same) projectId other = stateKeyOf db projectId other := by
  unfold stateKeys at shared
  split at shared
  · next none =>
      rw [List.mem_singleton.mp shared]
      refine ⟨_, .refl _, ?_, fun _ _ => rfl⟩
      have notMapped := List.find?_eq_none.mpr (List.filter_eq_nil_iff.mp none)
      unfold stateKeyOf meeting Table.reordered
      rw [notMapped]
  · obtain ⟨mapping, member, rfl⟩ := List.mem_map.mp shared
    obtain ⟨known, ofStatus⟩ := Table.mem_select.mp member
    obtain ⟨rows, same, first, others⟩ := exists_metFirst known
    refine ⟨rows, same, ?_, fun other different => ?_⟩
    · unfold stateKeyOf meeting Table.reordered
      rw [first _ ofStatus]
    · have notOther : isMappingOf projectId other mapping = false := by
        unfold isMappingOf at ofStatus ⊢
        simp only [Bool.and_eq_true, beq_iff_eq] at ofStatus
        simp [ofStatus.2, Ne.symm different]
      unfold stateKeyOf meeting Table.reordered
      rw [others _ notOther]

end Keys

/-! ## What is advertised and what is accepted -/

section Task

variable {db : LifecycleDb} {task : Task}

theorem advertises_iff (known : task ∈ db.tasks.rows) (state : StepStatus) :
    Advertises db task state ↔ ∃ configObject, publishedConfigObject db "task" = some configObject ∧
      Leads db configObject.configObjectId (stateKeyOf db task.projectId task.taskStatusId)
        state.text := by
  have found : db.tasks.find? task.taskId = some task := Table.find?_of_mem known
  have listing : getInstanceLifecycleState db task.tenantId "task" task.taskId =
      .ok ⟨"task", task.taskId, task.tenantId,
        some (stateKeyOf db task.projectId task.taskStatusId),
        getTransitionsForObjectTypeAndState db "task"
          (stateKeyOf db task.projectId task.taskStatusId)⟩ := by
    simp [getInstanceLifecycleState, found]
  unfold Advertises
  rw [listing]
  unfold getTransitionsForObjectTypeAndState
  rcases publishedConfigObject db "task" with _ | configObject
  · simp
  · simp [Leads, Table.mem_select, and_assoc]

theorem accepts_iff {nextStatusId : Nat} (changed : task.taskStatusId ≠ nextStatusId) :
    Accepts db task nextStatusId ↔ ∀ configObject,
      publishedConfigObject db "task" = some configObject →
        Leads db configObject.configObjectId (stateKeyOf db task.projectId task.taskStatusId)
          (stateKeyOf db task.projectId nextStatusId) := by
  unfold Accepts validateTaskStatusTransition checkTransition
  rw [if_neg changed]
  rcases publishedConfigObject db "task" with _ | configObject
  · simp
  · dsimp only
    rcases found : findTransition db configObject.configObjectId _ _ with _ | transition
    · have none := List.find?_eq_none.mp found
      refine iff_of_false nofun fun leads => ?_
      obtain ⟨transition, member, isTransition⟩ := leads configObject rfl
      exact none transition member (by simpa [and_assoc] using isTransition)
    · refine iff_of_true rfl fun other isOther => ?_
      obtain rfl := Option.some.inj isOther
      have isTransition := List.find?_some found
      simp only [Bool.and_eq_true, beq_iff_eq, and_assoc] at isTransition
      exact ⟨transition, List.mem_of_find?_eq_some found, isTransition⟩

variable {rows : List StepStatusMapping} (same : rows.Perm db.statusMappings.rows)

theorem advertises_meeting (known : task ∈ db.tasks.rows) (state : StepStatus) :
    Advertises (meeting db rows same) task state ↔
      ∃ configObject, publishedConfigObject db "task" = some configObject ∧
        Leads db configObject.configObjectId
          (stateKeyOf (meeting db rows same) task.projectId task.taskStatusId) state.text :=
  @advertises_iff (meeting db rows same) task known state

theorem accepts_meeting {nextStatusId : Nat} (changed : task.taskStatusId ≠ nextStatusId) :
    Accepts (meeting db rows same) task nextStatusId ↔ ∀ configObject,
      publishedConfigObject db "task" = some configObject →
        Leads db configObject.configObjectId
          (stateKeyOf (meeting db rows same) task.projectId task.taskStatusId)
          (stateKeyOf (meeting db rows same) task.projectId nextStatusId) :=
  @accepts_iff (meeting db rows same) task nextStatusId changed

end Task

/-- The mappings of a project whose process has started. -/
def seededMappings : Table StepStatusMapping :=
  (ProjectHost.onProcessStarted
    { tenantId := 1
      createdBy := 1
      processInstanceId := 1
      templateId := 1
      subjectType := .project
      subjectId := 1
      subjectMetadata := none
      correlationId := none
      context := none
      hostData := some ⟨1, [("To Do", 1), ("Ready", 2), ("In Progress", 3), ("Done", 4),
        ("Blocked", 5)]⟩
      advance := none }
    (Engine.installed ⟨[], [], [], [], []⟩).world).2.db.statusMappings

/-- A task in progress, and a lifecycle by which it may be canceled or blocked. -/
def cancelable : LifecycleDb where
  tenants := [1]
  tenantUsers := [1]
  templateSets := Table.ofRows [⟨0, some 1, .published⟩]
  configObjects := Table.ofRows [⟨0, 1, "task", .published⟩]
  lifecycles := Table.ofRows [⟨0, 1, "in_progress", "In Progress", none, 0⟩,
    ⟨0, 1, "canceled", "Canceled", none, 1⟩, ⟨0, 1, "blocked", "Blocked", none, 2⟩]
  transitions := Table.ofRows
    [⟨0, 1, "in_progress", "canceled", none⟩, ⟨0, 1, "in_progress", "blocked", none⟩]
  statusMappings := seededMappings
  projects := Table.ofRows [⟨0, 1, .active⟩]
  tasks := Table.ofRows
    [{ taskId := 0
       projectId := 1
       tenantId := 1
       stepInstanceId := some 1
       name := "review"
       taskStatusId := 3
       statusControl := .process }]
  auditLogs := []

/-- The task. -/
def inProgressTask : Task where
  taskId := 1
  projectId := 1
  tenantId := 1
  stepInstanceId := some 1
  name := "review"
  taskStatusId := 3
  statusControl := .process

theorem inProgressTask_mem : inProgressTask ∈ cancelable.tasks.rows :=
  List.mem_singleton_self inProgressTask

end CoreApi.ConfigObjects
