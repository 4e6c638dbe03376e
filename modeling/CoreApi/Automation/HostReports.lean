import CoreApi.Automation.InstantiationEffects
import CoreApi.Automation.StepOrchestrator

/-!
# What the hosts are told

A host learns of its process three times: when it starts, when a step changes
state and when it completes. The relations here say which of these calls lie
between two worlds; a world without one keeps the tables of the hosts.
-/

namespace CoreApi.Automation

open CoreApi.Foundation

/-! ## No call -/

/-- No host was called, and none of the tables written that mirror a process. -/
structure HostsKept (before after : World) : Prop where
  tasks : after.db.tasks = before.db.tasks
  statusMappings : after.db.statusMappings = before.db.statusMappings
  scheduledTasks : after.db.scheduledTasks = before.db.scheduledTasks
  hostCalls : after.hostCalls = before.hostCalls

theorem HostsKept.refl (w : World) : HostsKept w w := ⟨rfl, rfl, rfl, rfl⟩

/-! ## A step changes state -/

/-- The host of the process was told the state of a step. -/
def ToldHost (proc : ProcessInstance) (stepInstanceId : Nat) (state : StepStatus)
    (before after : World) : Prop :=
  ∃ adapter opts, ProcessHostRegistry.lookup proc.subjectType = some adapter ∧
    after = (adapter.onStepStateChanged (buildProcessHostContext proc opts) stepInstanceId
      state before).2

/-- The state of a step was reported to the host of its process, if the process is stored. -/
def Reported (processInstanceId stepInstanceId : Nat) (state : StepStatus)
    (before after : World) : Prop :=
  match before.db.instance? processInstanceId with
  | none => after = before
  | some proc => ToldHost proc stepInstanceId state before after

theorem Reported.told {processInstanceId stepInstanceId : Nat} {state : StepStatus}
    {before after : World} {proc : ProcessInstance}
    (report : Reported processInstanceId stepInstanceId state before after)
    (found : before.db.instance? processInstanceId = some proc) :
    ToldHost proc stepInstanceId state before after := by
  unfold Reported at report
  rwa [found] at report

/-- The call of `onStepStateChanged`, before the host does anything. -/
def calledStep (proc : ProcessInstance) (stepInstanceId : Nat) (state : StepStatus) (w : World) :
    World :=
  { w with hostCalls := w.hostCalls ++
      [.stepStateChanged proc.processInstanceId stepInstanceId state] }

/-- The task of a step moves to the column of its state, if the project maps it to one. -/
inductive TaskSynced (stepInstanceId : Nat) (state : StepStatus) (before after : World) : Prop
  | kept (silent : HostsKept before after)
      (still : ∀ task, (before.db.tasks.rows.find? fun t =>
          t.stepInstanceId == some stepInstanceId) = some task → task.statusControl ≠ .manual →
        ∀ mapping, ProjectHost.columnMapping before.db task.projectId stepInstanceId state =
          some mapping → mapping.taskStatusId = 0)
  | moved (task : Task) (mapping : StepStatusMapping)
      (found : (before.db.tasks.rows.find? fun t => t.stepInstanceId == some stepInstanceId) =
        some task)
      (mapped : ProjectHost.columnMapping before.db task.projectId stepInstanceId state =
        some mapping)
      (tasks : after.db.tasks = before.db.tasks.updateAt task.taskId
        (fun t => { t with taskStatusId := mapping.taskStatusId }) (fun _ => rfl))
      (statusMappings : after.db.statusMappings = before.db.statusMappings)
      (scheduledTasks : after.db.scheduledTasks = before.db.scheduledTasks)
      (hostCalls : after.hostCalls = before.hostCalls)

theorem syncTaskColumn_synced (stepInstanceId : Nat) (state : StepStatus) (actor : Option Nat)
    (w : World) :
    Program.wp (ProjectHost.syncTaskColumn stepInstanceId state actor)
      (fun _ w' => TaskSynced stepInstanceId state w w') (fun _ _ => False) w := by
  unfold ProjectHost.syncTaskColumn
  rw [Program.wp_bind, Program.wp_read]
  split
  · rename_i missing
    exact .kept (.refl w) fun task found => by rw [missing] at found; cases found
  rename_i task found
  have isTask : ∀ other, (w.db.tasks.rows.find? fun t => t.stepInstanceId == some stepInstanceId) =
      some other → other = task := by
    intro other isOther
    rw [found] at isOther
    exact (Option.some.inj isOther).symm
  rw [Program.wp_ite]
  refine ⟨fun manual => .kept (.refl w) fun other isOther control => ?_, fun _ => ?_⟩
  · rw [isTask other isOther] at control
    exact absurd manual control
  rw [Program.wp_bind, Program.wp_read]
  split
  · rename_i unmapped
    refine .kept (.refl w) fun other isOther _ mapping mapped => ?_
    rw [isTask other isOther, unmapped] at mapped
    cases mapped
  rename_i mapping mapped
  rw [Program.wp_ite]
  refine ⟨fun zero => .kept (.refl w) fun other isOther _ mapping' mapped' => ?_, fun _ => ?_⟩
  · rw [isTask other isOther, mapped] at mapped'
    cases mapped'
    exact zero
  · exact .moved task mapping found mapped rfl rfl rfl rfl

namespace ToldHost

variable {proc : ProcessInstance} {stepInstanceId : Nat} {state : StepStatus}
  {before after : World}

theorem project (told : ToldHost proc stepInstanceId state before after)
    (subject : proc.subjectType = .project) :
    TaskSynced stepInstanceId state (calledStep proc stepInstanceId state before) after := by
  obtain ⟨adapter, opts, registered, rfl⟩ := told
  rw [subject] at registered
  cases registered
  exact Program.wp_end _ (Program.wp_mono (syncTaskColumn_synced stepInstanceId state _ _)
    (fun _ _ synced => synced) (fun _ _ never => never.elim))

/-- A scheduled task takes the state over, as its own status. -/
theorem scheduledTask (told : ToldHost proc stepInstanceId state before after)
    (subject : proc.subjectType = .scheduledTask) :
    ∃ updatedBy, after = (ScheduledTaskHost.syncScheduledTaskStatus proc.subjectId proc.tenantId
      state updatedBy (calledStep proc stepInstanceId state before)).2 := by
  obtain ⟨adapter, opts, registered, rfl⟩ := told
  rw [subject] at registered
  cases registered
  exact ⟨_, rfl⟩

/-- The other hosts do nothing. -/
theorem others (told : ToldHost proc stepInstanceId state before after)
    (project : proc.subjectType ≠ .project) (scheduledTask : proc.subjectType ≠ .scheduledTask) :
    after = calledStep proc stepInstanceId state before := by
  obtain ⟨adapter, opts, registered, rfl⟩ := told
  cases subject : proc.subjectType with
  | project => exact absurd subject project
  | scheduledTask => exact absurd subject scheduledTask
  | configCustomObjectInstance =>
      rw [subject] at registered
      cases registered
      rfl
  | workflow =>
      rw [subject] at registered
      cases registered
      rfl
  | sorEntity =>
      rw [subject] at registered
      cases registered

/-- Only a project moves tasks. -/
theorem tasks (told : ToldHost proc stepInstanceId state before after)
    (project : proc.subjectType ≠ .project) :
    after.db.tasks = before.db.tasks ∧ after.db.statusMappings = before.db.statusMappings := by
  by_cases scheduledTask : proc.subjectType = .scheduledTask
  · obtain ⟨_, eq⟩ := told.scheduledTask scheduledTask
    rw [eq]
    exact ⟨rfl, rfl⟩
  · rw [told.others project scheduledTask]
    exact ⟨rfl, rfl⟩

/-- Every host is called once. -/
theorem hostCalls (told : ToldHost proc stepInstanceId state before after) :
    after.hostCalls = before.hostCalls ++
      [.stepStateChanged proc.processInstanceId stepInstanceId state] := by
  by_cases project : proc.subjectType = .project
  · cases told.project project with
    | kept silent => exact silent.hostCalls
    | moved _ _ _ _ _ _ _ hostCalls => exact hostCalls
  · by_cases scheduledTask : proc.subjectType = .scheduledTask
    · obtain ⟨_, eq⟩ := told.scheduledTask scheduledTask
      rw [eq]
      rfl
    · rw [told.others project scheduledTask]
      rfl

end ToldHost

/-! ## A process completes -/

/-- The host of the process was told that it completed. -/
def ToldCompletion (proc : ProcessInstance) (before after : World) : Prop :=
  ∃ adapter opts, ProcessHostRegistry.lookup proc.subjectType = some adapter ∧
    after = (adapter.onProcessCompleted (buildProcessHostContext proc opts) before).2

namespace ToldCompletion

variable {proc : ProcessInstance} {before after : World}

/-- One call; no task moves, and no mapping of a project. -/
theorem kept (told : ToldCompletion proc before after) :
    after.hostCalls = before.hostCalls ++ [.processCompleted proc.processInstanceId] ∧
      after.db.tasks = before.db.tasks ∧ after.db.statusMappings = before.db.statusMappings := by
  obtain ⟨adapter, opts, _, rfl⟩ := told
  refine Program.wp_end (fun w' : World => w'.hostCalls =
      before.hostCalls ++ [.processCompleted proc.processInstanceId] ∧
    w'.db.tasks = before.db.tasks ∧ w'.db.statusMappings = before.db.statusMappings) ?_
  unfold ProcessHostAdapter.onProcessCompleted
  rw [Program.wp_bind, wp_callHost]
  cases adapter with
  | project =>
      unfold ProjectHost.onProcessCompleted
      rw [Program.wp_bind, Program.wp_read]
      split
      · exact ⟨rfl, rfl, rfl⟩
      · rw [Program.wp_ite]
        exact ⟨fun _ => ⟨rfl, rfl, rfl⟩, fun _ => ⟨rfl, rfl, rfl⟩⟩
  | scheduledTask =>
      unfold ScheduledTaskHost.onProcessCompleted
      rw [Program.wp_bind, Program.wp_read]
      split
      · exact ⟨rfl, rfl, rfl⟩
      · rw [Program.wp_ite]
        exact ⟨fun _ => ⟨rfl, rfl, rfl⟩, fun _ => ⟨rfl, rfl, rfl⟩⟩
  | configurableInstance => exact ⟨rfl, rfl, rfl⟩
  | genericWorkflow => exact ⟨rfl, rfl, rfl⟩

end ToldCompletion

/-! ## A process starts -/

/-- The columns of a new process that name its subject; a workflow is its own. -/
structure SubjectOf (params : StartProcessParams) (subjectType : SubjectType)
    (row : ProcessInstance) : Prop where
  type : row.subjectType = subjectType
  id : subjectType ≠ .workflow → row.subjectId = params.subjectId
  tenant : row.tenantId = params.tenantId

/-- Every process that was added has the subject of the start. -/
def AddsSubject (params : StartProcessParams) (subjectType : SubjectType)
    (before after : Database) : Prop :=
  ∀ row ∈ after.processInstances.rows,
    row ∈ before.processInstances.rows ∨ SubjectOf params subjectType row

/-- A write of the added process that leaves its subject. -/
theorem AddsSubject.setInstance {params : StartProcessParams} {subjectType : SubjectType}
    {before after : Database} (adds : AddsSubject params subjectType before after)
    (set : ProcessInstance → ProcessInstance)
    (keeps : ∀ row, (set row).processInstanceId = row.processInstanceId)
    (subject : ∀ row, SubjectOf params subjectType row → SubjectOf params subjectType (set row)) :
    AddsSubject params subjectType before
      (after.setInstance before.processInstances.autoIncrement set keeps) := by
  intro row member
  rcases (mem_setInstance keeps).mp member with ⟨old, oldMember, key, rfl⟩ | ⟨untouched, _⟩
  · rcases adds old oldMember with known | isSubject
    · exact absurd key (Nat.ne_of_lt (before.processInstances.bounded old known).2)
    · exact .inr (subject old isSubject)
  · exact adds row untouched

/-- What the host of a started process was told: nothing, or that it started. -/
structure StartReported (deployment : Deployment) (params : StartProcessParams)
    (processInstanceId : Nat) (subjectType : SubjectType) (adapter : ProcessHostAdapter)
    (before after : World) : Prop where
  checked : ProcessLifecycle.checkSubject deployment params.subjectType =
    .ok (subjectType, adapter)
  registered : ProcessHostRegistry.lookup subjectType = some adapter
  adds : AddsSubject params subjectType before.db after.db
  skipped : params.skipHostOnStart = true → HostsKept before after
  told : params.skipHostOnStart = false → ∃ stored told, HostsKept before stored ∧
    adapter.onProcessStarted (ProcessLifecycle.hostContext params subjectType processInstanceId)
      stored = (.ok (), told) ∧
    HostsKept told after ∧ after.db.steps = stored.db.steps

namespace ProcessLifecycle

open ProcessInstantiation

variable {params : StartProcessParams} {subjectType : SubjectType}

/-- The text of an accepted subject. -/
theorem text_of_checkSubject {deployment : Deployment} {text : String}
    {adapter : ProcessHostAdapter}
    (checked : checkSubject deployment text = .ok (subjectType, adapter)) :
    text = subjectType.text := by
  unfold checkSubject at checked
  split at checked
  · cases checked
  · rename_i parsed isParsed
    split at checked
    · cases checked
    · split at checked
      · cases checked
      · cases checked
        have same : subjectType.text = text := by simpa using List.find?_some isParsed
        exact same.symm

theorem lookup_of_checkSubject {deployment : Deployment} {text : String}
    {adapter : ProcessHostAdapter}
    (checked : checkSubject deployment text = .ok (subjectType, adapter)) :
    ProcessHostRegistry.lookup subjectType = some adapter := by
  unfold checkSubject at checked
  split at checked
  · cases checked
  · split at checked
    · cases checked
    · rename_i registered
      split at checked
      · cases checked
      · cases checked
        exact registered

/-- A process is stored before any host is told. -/
private theorem instantiateProcessIn_reported (params : StartProcessParams)
    (subjectType : SubjectType) (w : World) :
    Program.wp (instantiateProcessIn params.templateId params.tenantId params.createdBy
        (instantiationOptions params subjectType))
      (fun processInstanceId w' => processInstanceId = w.db.processInstances.autoIncrement ∧
        HostsKept w w' ∧ AddsSubject params subjectType w.db w'.db)
      (fun _ _ => False) w := by
  have inserted : AddsSubject params subjectType w.db { w.db with
      processInstances := w.db.processInstances.insert (newProcessInstance params.templateId
        params.tenantId params.createdBy (instantiationOptions params subjectType) w.now) } := by
    intro row member
    rw [Table.rows_insert] at member
    rcases List.mem_append.mp member with old | new
    · exact .inl old
    · rw [List.mem_singleton.mp new]
      exact .inr ⟨rfl, fun _ => rfl, rfl⟩
  unfold instantiateProcessIn
  simp only [now, insertProcessInstance, insertSteps, insertStepRows, writeDb, Program.wp_bind,
    Program.wp_read, Program.wp_writeReturning, Program.wp_write, Program.wp_when,
    Program.wp_pure]
  refine ⟨fun needs => ⟨trivial, ⟨rfl, rfl, rfl, rfl⟩, ?_⟩,
    fun _ => ⟨trivial, ⟨rfl, rfl, rfl, rfl⟩, inserted⟩⟩
  have isWorkflow : subjectType = .workflow := by
    simp only [needsSelfSubject, instantiationOptions, Bool.and_eq_true, beq_iff_eq] at needs
    exact needs.1
  exact inserted.setInstance (fun row => { row with
    subjectId := w.db.processInstances.autoIncrement }) (fun _ => rfl)
    fun _ subject => ⟨subject.type, fun other => absurd isWorkflow other, subject.tenant⟩

/-- Telling a host that its process started writes no step, and of the processes
only the subject of a workflow. -/
private theorem onProcessStarted_reported {adapter : ProcessHostAdapter} {before w : World}
    (registered : ProcessHostRegistry.lookup subjectType = some adapter)
    (adds : AddsSubject params subjectType before.db w.db) :
    Program.wp (adapter.onProcessStarted (hostContext params subjectType
        before.db.processInstances.autoIncrement))
      (fun _ w' => w'.db.steps = w.db.steps ∧ AddsSubject params subjectType before.db w'.db)
      (fun _ _ => True) w := by
  have hosted : ∀ {w' : World}, Hosted { w with hostCalls := w.hostCalls ++
      [.processStarted before.db.processInstances.autoIncrement] } w' →
      w'.db.steps = w.db.steps ∧ AddsSubject params subjectType before.db w'.db := by
    intro w' host
    obtain ⟨_, _, _, _, tables⟩ := host.tables
    rw [tables]
    exact ⟨rfl, adds⟩
  unfold ProcessHostAdapter.onProcessStarted
  rw [Program.wp_bind, wp_callHost]
  cases adapter with
  | project =>
      exact Program.wp_mono (projectStarted_hosted _ _) (fun _ _ host => hosted host)
        (fun _ _ _ => trivial)
  | scheduledTask => exact hosted (.of_tables ⟨_, _, _, _, rfl⟩)
  | configurableInstance => exact hosted (.refl _)
  | genericWorkflow =>
      have isWorkflow : subjectType = .workflow := by
        cases subjectType <;> simp [ProcessHostRegistry.lookup] at registered ⊢
      rw [Program.wp_ite]
      refine ⟨fun _ => hosted (.refl _), fun _ => ⟨rfl, ?_⟩⟩
      exact adds.setInstance (fun row => { row with
        subjectId := before.db.processInstances.autoIncrement }) (fun _ => rfl)
        fun _ subject => ⟨subject.type, fun other => absurd isWorkflow other, subject.tenant⟩

/-- A start reports to the host of its subject, unless it skips it. -/
private theorem startProcessInTransaction_reported {deployment : Deployment}
    {adapter : ProcessHostAdapter} {params : StartProcessParams}
    (checked : checkSubject deployment params.subjectType = .ok (subjectType, adapter))
    (registered : ProcessHostRegistry.lookup subjectType = some adapter) (w : World) :
    Program.wp (startProcessInTransaction deployment params subjectType adapter)
      (fun result w' => StartReported deployment params result.processInstanceId subjectType
        adapter w w')
      (fun _ _ => True) w := by
  unfold startProcessInTransaction
  rw [Program.wp_bind]
  refine Program.wp_mono (instantiateProcessIn_reported params subjectType w) ?_
    (fun _ _ never => never.elim)
  rintro _ w₁ ⟨rfl, kept₁, adds₁⟩
  have correlated : Program.wp (Program.when (params.correlationId.getD "" ≠ "") <|
        writeDb fun db => db.setInstance w.db.processInstances.autoIncrement
          (fun row => { row with correlationId := params.correlationId }) (fun _ => rfl))
      (fun _ w' => HostsKept w w' ∧ AddsSubject params subjectType w.db w'.db)
      (fun _ _ => True) w₁ := by
    rw [Program.wp_when]
    exact ⟨fun _ => ⟨⟨kept₁.tasks, kept₁.statusMappings, kept₁.scheduledTasks, kept₁.hostCalls⟩,
      adds₁.setInstance (fun row => { row with correlationId := params.correlationId })
        (fun _ => rfl) fun _ subject => ⟨subject.type, subject.id, subject.tenant⟩⟩,
      fun _ => ⟨kept₁, adds₁⟩⟩
  rw [Program.wp_bind]
  refine Program.wp_mono correlated ?_ (fun _ _ _ => trivial)
  rintro _ w₂ ⟨kept₂, adds₂⟩
  -- What comes after the host call reads, and emits an event.
  suffices told : Program.wp (Program.when (params.skipHostOnStart = false) <|
        adapter.onProcessStarted (hostContext params subjectType
          w.db.processInstances.autoIncrement))
      (fun _ w' => StartReported deployment params w.db.processInstances.autoIncrement
        subjectType adapter w w')
      (fun _ _ => True) w₂ by
    rw [Program.wp_bind]
    refine Program.wp_mono told ?_ (fun _ _ _ => trivial)
    intro _ w₃ reported
    simp only [Program.wp_bind, Program.wp_read, Program.wp_when, wp_emit, Program.wp_pure]
    refine ⟨fun _ => ⟨checked, registered, reported.adds, fun skip => ?_, fun tells => ?_⟩,
      fun _ => reported⟩
    · obtain ⟨tasks, statusMappings, scheduledTasks, hostCalls⟩ := reported.skipped skip
      exact ⟨tasks, statusMappings, scheduledTasks, hostCalls⟩
    · obtain ⟨stored, told, kept, run, ⟨tasks, statusMappings, scheduledTasks, hostCalls⟩, steps⟩ :=
        reported.told tells
      exact ⟨stored, told, kept, run, ⟨tasks, statusMappings, scheduledTasks, hostCalls⟩, steps⟩
  rw [Program.wp_when]
  constructor
  · intro tells
    refine Program.wp_mono (Program.wp_and (onProcessStarted_reported registered adds₂)
      (Program.wp_run _)) ?_ (fun _ _ _ => trivial)
    rintro _ w₃ ⟨⟨steps, adds₃⟩, run⟩
    refine ⟨checked, registered, adds₃, fun skip => ?_,
      fun _ => ⟨w₂, w₃, kept₂, run, .refl _, steps⟩⟩
    rw [skip] at tells
    cases tells
  · intro skip
    exact ⟨checked, registered, adds₂, fun _ => kept₂, fun tells => absurd tells skip⟩

/-- What `startProcess` reports when it returns. -/
theorem startProcessIn_reported (deployment : Deployment) (params : StartProcessParams)
    (w : World) :
    Program.wp (startProcessIn deployment params)
      (fun result w' => ∃ subjectType adapter, StartReported deployment params
        result.processInstanceId subjectType adapter w w')
      (fun _ _ => True) w := by
  unfold startProcessIn
  cases checked : checkSubject deployment params.subjectType with
  | error message => trivial
  | ok accepted =>
      obtain ⟨subjectType, adapter⟩ := accepted
      exact Program.wp_mono (startProcessInTransaction_reported checked
        (lookup_of_checkSubject checked) w) (fun _ _ reported => ⟨_, _, reported⟩)
        (fun _ _ _ => trivial)

end ProcessLifecycle

end CoreApi.Automation
