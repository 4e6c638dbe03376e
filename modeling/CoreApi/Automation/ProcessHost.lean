import Mathlib.Data.List.Sort
import CoreApi.Automation.World
import CoreApi.Foundation.BulkInsert

/-!
# Process hosts

The adapters behind `ProcessHostRegistry`: what a project, a scheduled task, a
configurable instance or a plain workflow does when its process starts, moves a
step or completes.
-/

namespace CoreApi.Automation

open CoreApi.Foundation

/-- `ORDER BY column ASC`; equal values keep the order of the rows. -/
def orderBy {α : Type} (column : α → Int) (rows : List α) : List α :=
  rows.insertionSort fun a b => column a ≤ column b

@[simp] theorem mem_orderBy {α : Type} {column : α → Int} {rows : List α} {row : α} :
    row ∈ orderBy column rows ↔ row ∈ rows :=
  List.mem_insertionSort _

theorem orderBy_perm {α : Type} (column : α → Int) (rows : List α) :
    (orderBy column rows).Perm rows :=
  List.perm_insertionSort _ _

/-- `ProjectHostStartData`. -/
structure ProjectHostStartData where
  projectId : Nat
  statusIdByName : List (String × Nat)

/-- `ProcessHostContext`; `advance` is populated by the step orchestrator. -/
structure ProcessHostContext where
  tenantId : Nat
  createdBy : Nat
  processInstanceId : Nat
  templateId : Nat
  subjectType : SubjectType
  subjectId : Nat
  subjectMetadata : Option Record
  correlationId : Option String
  context : Option Record
  hostData : Option ProjectHostStartData
  advance : Option AdvanceOptions

/-- `buildProcessHostContext`. -/
def buildProcessHostContext (proc : ProcessInstance) (advance : AdvanceOptions) :
    ProcessHostContext where
  tenantId := proc.tenantId
  createdBy := proc.createdBy
  processInstanceId := proc.processInstanceId
  templateId := proc.processTemplateId
  subjectType := proc.subjectType
  subjectId := proc.subjectId
  subjectMetadata := proc.subjectMetadata
  correlationId := advance.correlationId <|> proc.correlationId
  context := proc.context
  hostData := none
  advance := some advance

/-- The acting tenant user of an orchestrator call. -/
def ProcessHostContext.actor (ctx : ProcessHostContext) : Option Nat :=
  ctx.advance.bind AdvanceOptions.actorTenantUserId

/-! ## Projects -/

namespace ProjectHost

/-- `defaultMap`: the kanban column of each engine state. -/
def defaultMap : List (StepStatus × String) :=
  [(.pending, "To Do"), (.ready, "Ready"), (.inProgress, "In Progress"),
    (.completed, "Done"), (.blocked, "Blocked"), (.canceled, "Done")]

/-- `statusIdByName[name]`, `none` where it is missing or 0. -/
def statusId (statusIdByName : List (String × Nat)) (name : String) : Option Nat :=
  match statusIdByName.lookup name with
  | some id => if id = 0 then none else some id
  | none => none

/-- Insert the project-wide column of one engine state. -/
def insertMapping (hostData : ProjectHostStartData) (entry : StepStatus × String) : Tx Unit :=
  match statusId hostData.statusIdByName entry.2 with
  | none => Program.raise ("Missing status id for " ++ entry.2)
  | some taskStatusId =>
      writeDb fun db => { db with
        statusMappings := db.statusMappings.insert
          { mappingId := 0, projectId := hostData.projectId, stepInstanceId := none,
            stepEngineState := entry.1, taskStatusId := taskStatusId } }

/-- `statusIdByEngineState.get(status)`; a later mapping row replaces an earlier one. -/
def statusIdByEngineState (db : Database) (projectId : Nat) (state : StepStatus) : Option Nat :=
  ((db.statusMappings.select fun m => m.projectId == projectId && m.stepInstanceId == none).reverse.find?
    fun m => m.stepEngineState == state).map StepStatusMapping.taskStatusId

/-- `toLowerCase` of a character, as far as it has Latin letters. -/
def toLowerCase (c : Char) : List Char :=
  if c = '\u212A' then ['k']
  else if c = '\u0130' then ['i', '\u0307']
  else [c.toLower]

/-- `replace(/[^a-z0-9]+/g, '-')`; `inRun` tells whether a hyphen was just put. -/
def hyphenate (inRun : Bool) : List Char → List Char
  | [] => []
  | c :: rest =>
      if c.isLower ∨ c.isDigit then c :: hyphenate false rest
      else if inRun then hyphenate true rest
      else '-' :: hyphenate true rest

/-- `generateTaskIdentifierFromName`; the suffix is the clock. -/
def generateTaskIdentifierFromName (name suffix : String) : String :=
  let hyphenated := hyphenate false (name.toList.flatMap toLowerCase)
  let trimmed := ((hyphenated.dropWhile (· == '-')).reverse.dropWhile (· == '-')).reverse
  let slug := String.ofList (trimmed.take 40)
  if slug = "" then "task-" ++ suffix else slug ++ "-" ++ suffix

/-- A value of an INSERT. -/
inductive SqlValue where
  | null | num (value : Nat) | str (value : String)
deriving DecidableEq

/-- The columns of the INSERT of the tasks. -/
def taskColumns : List String :=
  ["project_id", "tenant_id", "step_instance_id", "name", "task_indentifier", "description",
    "priority", "estimated_duration", "parent_task_id", "task_status_id", "status_control",
    "effort_hours", "scheduling_mode", "default_shift_hours", "primary_assignee_id", "team_id",
    "start_constraint_utc", "finish_constraint_utc", "created_by", "updated_by", "created_at"]

/-- The row of expressions pushed for each task. -/
def taskExpressions (time : String) : List (Expression SqlValue) :=
  [.placeholder, .placeholder, .placeholder, .placeholder, .placeholder, .placeholder,
    .placeholder, .placeholder, .placeholder, .placeholder, .placeholder, .placeholder,
    .literal (.str time)]

/-- The values pushed for the task of a step. -/
def taskValues (ctx : ProcessHostContext) (hostData : ProjectHostStartData) (identifier : String)
    (mappedStatusId : Nat) (step : StepInstance) : List SqlValue :=
  [.num hostData.projectId, .num ctx.tenantId, .num step.stepInstanceId, .str step.name,
    .str identifier, .null, .str "medium", .num 2, .null, .num mappedStatusId, .str "process",
    .null, .str "manual", .num 4, .null, .null, .null, .null, .num ctx.createdBy,
    .num ctx.createdBy]

/-- The identifier of the task of a step. -/
def taskIdentifier (projectId : Nat) (suffix : String) (step : StepInstance) : String :=
  if step.name = "" then "task-" ++ toString step.stepInstanceId ++ toString projectId
  else generateTaskIdentifierFromName step.name suffix

/-- The column that the state of a step is mapped to, 0 for none. -/
def mappedStatusId (hostData : ProjectHostStartData) (statusIdOf : StepStatus → Option Nat)
    (step : StepInstance) : Nat :=
  (statusIdOf step.status <|> hostData.statusIdByName.lookup "To Do").getD 0

@[simp] theorem taskColumns_length : taskColumns.length = 21 := rfl

@[simp] theorem taskExpressions_length (time : String) : (taskExpressions time).length = 13 := rfl

@[simp] theorem placeholders_taskExpressions (time : String) :
    BulkInsert.placeholders (taskExpressions time) = 12 := rfl

@[simp] theorem taskValues_length (ctx : ProcessHostContext) (hostData : ProjectHostStartData)
    (identifier : String) (mappedStatusId : Nat) (step : StepInstance) :
    (taskValues ctx hostData identifier mappedStatusId step).length = 20 := rfl

/-- What the loop pushes for one step. -/
def pushTask (ctx : ProcessHostContext) (hostData : ProjectHostStartData) (time : String)
    (statusIdOf : StepStatus → Option Nat) (step : StepInstance) :
    Except String (List (Expression SqlValue) × List SqlValue) :=
  if mappedStatusId hostData statusIdOf step = 0 then
    .error "Failed to resolve default task status id"
  else
    .ok (taskExpressions time,
      taskValues ctx hostData (taskIdentifier hostData.projectId time step)
        (mappedStatusId hostData statusIdOf step) step)

/-- The INSERT of the tasks of the steps. -/
def tasksInsert (ctx : ProcessHostContext) (hostData : ProjectHostStartData) (time : String)
    (statusIdOf : StepStatus → Option Nat) (steps : List StepInstance) :
    Except String (BulkInsert SqlValue) := do
  let pushes ← steps.mapM (pushTask ctx hostData time statusIdOf)
  .ok { columns := taskColumns, pushes := pushes }

/-- A number of a stored row. -/
def numberAt (cells : List (String × SqlValue)) (column : String) : Option Nat :=
  match cells.lookup column with
  | some (.num value) => some value
  | _ => none

/-- A text of a stored row. -/
def textAt (cells : List (String × SqlValue)) (column : String) : Option String :=
  match cells.lookup column with
  | some (.str value) => some value
  | _ => none

/-- The task of a stored row; `status_control` has its default where it is not written. -/
def taskOf (cells : List (String × SqlValue)) : Task where
  taskId := 0
  projectId := (numberAt cells "project_id").getD 0
  tenantId := (numberAt cells "tenant_id").getD 0
  stepInstanceId := numberAt cells "step_instance_id"
  name := (textAt cells "name").getD ""
  taskStatusId := (numberAt cells "task_status_id").getD 0
  statusControl :=
    if textAt cells "status_control" = some "process" then .process
    else if textAt cells "status_control" = some "hybrid" then .hybrid
    else .manual

/-- Insert the process-controlled tasks of the steps. -/
def insertTasks (ctx : ProcessHostContext) (hostData : ProjectHostStartData)
    (steps : List StepInstance) : Tx Unit := do
  let time ← now
  let built ← Program.read fun w =>
    tasksInsert ctx hostData time (statusIdByEngineState w.db hostData.projectId) steps
  let statement ← Program.lift built
  let rows ← Program.lift statement.execute
  writeDb fun db => { db with
    tasks := db.tasks.insertAll (rows.map fun row => taskOf (statement.columns.zip row)) }

theorem pushTask_eq_ok {ctx : ProcessHostContext} {hostData : ProjectHostStartData}
    {time : String} {statusIdOf : StepStatus → Option Nat} (step : StepInstance)
    (push : List (Expression SqlValue) × List SqlValue) :
    pushTask ctx hostData time statusIdOf step = .ok push ↔
      mappedStatusId hostData statusIdOf step ≠ 0 ∧
        push = (taskExpressions time,
          taskValues ctx hostData (taskIdentifier hostData.projectId time step)
            (mappedStatusId hostData statusIdOf step) step) := by
  unfold pushTask
  by_cases unmapped : mappedStatusId hostData statusIdOf step = 0
  · rw [if_pos unmapped]
    exact ⟨nofun, fun mapped => absurd unmapped mapped.1⟩
  · rw [if_neg unmapped, Except.ok.injEq, eq_comm]
    exact (and_iff_right unmapped).symm

theorem tasksInsert_eq_ok {ctx : ProcessHostContext} {hostData : ProjectHostStartData}
    {time : String} {statusIdOf : StepStatus → Option Nat} {steps : List StepInstance}
    {statement : BulkInsert SqlValue} :
    tasksInsert ctx hostData time statusIdOf steps = .ok statement ↔
      (∀ step ∈ steps, mappedStatusId hostData statusIdOf step ≠ 0) ∧
        statement = { columns := taskColumns
                      pushes := steps.map fun step => (taskExpressions time,
                        taskValues ctx hostData (taskIdentifier hostData.projectId time step)
                          (mappedStatusId hostData statusIdOf step) step) } := by
  unfold tasksInsert
  rw [bind_eq_ok]
  constructor
  · rintro ⟨pushes, arePushed, same⟩
    obtain ⟨mapped, rfl⟩ := (mapM_eq_ok pushTask_eq_ok).mp arePushed
    exact ⟨mapped, (Except.ok.inj same).symm⟩
  · rintro ⟨mapped, rfl⟩
    exact ⟨_, (mapM_eq_ok pushTask_eq_ok).mpr ⟨mapped, rfl⟩, rfl⟩

/-- Whatever the steps are, the server takes no task: each row has 13 expressions
for 21 columns. -/
theorem tasksInsert_refused {ctx : ProcessHostContext} {hostData : ProjectHostStartData}
    {time : String} {statusIdOf : StepStatus → Option Nat} {steps : List StepInstance}
    {statement : BulkInsert SqlValue}
    (built : tasksInsert ctx hostData time statusIdOf steps = .ok statement)
    (nonempty : steps ≠ []) : ∃ refusal, statement.execute = .error refusal := by
  obtain ⟨_, rfl⟩ := tasksInsert_eq_ok.mp built
  obtain ⟨step, member⟩ := List.exists_mem_of_ne_nil steps nonempty
  refine BulkInsert.execute_refused (List.mem_map.mpr ⟨step, member, rfl⟩) ?_
  show (taskExpressions time).length ≠ taskColumns.length
  rw [taskExpressions_length, taskColumns_length]
  decide

/-- The tasks are never inserted. -/
theorem insertTasks_refused {ctx : ProcessHostContext} {hostData : ProjectHostStartData}
    {steps : List StepInstance} (nonempty : steps ≠ []) (w : World) :
    Program.wp (insertTasks ctx hostData steps) (fun _ _ => False) (fun _ after => after = w) w := by
  unfold insertTasks
  rw [Program.wp_bind, now, Program.wp_read, Program.wp_bind, Program.wp_read, Program.wp_bind]
  rcases built : tasksInsert ctx hostData w.now (statusIdByEngineState w.db hostData.projectId)
    steps with message | statement
  · rw [Program.wp_lift_error]
  · rw [Program.wp_lift_ok, Program.wp_bind]
    obtain ⟨refusal, refused⟩ := tasksInsert_refused built nonempty
    rw [refused, Program.wp_lift_error]

/-- `ProjectHostAdapter.onProcessStarted`. -/
def onProcessStarted (ctx : ProcessHostContext) : Tx Unit :=
  match ctx.hostData with
  | none =>
      Program.raise "ProjectHostAdapter requires hostData.projectId and hostData.statusIdByName"
  | some hostData =>
      if hostData.projectId = 0 then
        Program.raise "ProjectHostAdapter requires hostData.projectId and hostData.statusIdByName"
      else do
        Program.forEach (insertMapping hostData) defaultMap
        let steps ← Program.read fun w =>
          orderBy StepInstance.stepOrder (w.db.stepsOf ctx.processInstanceId)
        Program.when (steps ≠ []) (insertTasks ctx hostData steps)

/-- The mapping row `syncTaskColumn` selects: one for the step before a project-wide one. -/
def columnMapping (db : Database) (projectId stepInstanceId : Nat) (state : StepStatus) :
    Option StepStatusMapping :=
  let rows := db.statusMappings.select fun m => m.projectId == projectId && m.stepEngineState == state
  (rows.find? fun m => m.stepInstanceId == some stepInstanceId) <|>
    (rows.find? fun m => m.stepInstanceId == none)

/-- `syncTaskColumn`. -/
def syncTaskColumn (stepInstanceId : Nat) (engineState : StepStatus)
    (actorTenantUserId : Option Nat) : Tx Unit := do
  let task ← Program.read fun w =>
    w.db.tasks.rows.find? fun t => t.stepInstanceId == some stepInstanceId
  match task with
  | none => pure ()
  | some task =>
      if task.statusControl = .manual then pure ()
      else do
        let mapping ← Program.read fun w =>
          columnMapping w.db task.projectId stepInstanceId engineState
        match mapping with
        | none => pure ()
        | some mapping =>
            if mapping.taskStatusId = 0 then pure ()
            else do
              writeDb fun db => { db with
                tasks := db.tasks.updateAt task.taskId
                  (fun t => { t with taskStatusId := mapping.taskStatusId }) (fun _ => rfl) }
              emit { eventName := "six1-event.notification.task_status_changed"
                     entity := some ⟨"Task", task.taskId⟩
                     data := .obj [("projectId", .num task.projectId),
                       ("stepInstanceId", .num stepInstanceId),
                       ("toStatusId", .num mapping.taskStatusId),
                       ("engineState", .str engineState.text),
                       ("userId", .num (actorTenantUserId.getD 1))]
                     correlationId := none
                     tenantId := none }

/-- The project a completed process belongs to: its subject, a project row that
names it, or the project of a task on one of its steps. -/
def resolveProjectId (db : Database) (ctx : ProcessHostContext) : Option Nat :=
  if ctx.subjectType = .project ∧ 0 < ctx.subjectId then some ctx.subjectId
  else
    ((db.projects.rows.find? fun p => p.processInstanceId == some ctx.processInstanceId).map
        Project.projectId) <|>
      ((db.tasks.rows.find? fun t =>
          match t.stepInstanceId with
          | some stepId => (db.stepsOf ctx.processInstanceId).any fun s => s.stepInstanceId == stepId
          | none => false).map Task.projectId)

/-- `ProjectHostAdapter.onProcessCompleted`. -/
def onProcessCompleted (ctx : ProcessHostContext) : Tx Unit := do
  let projectId ← Program.read fun w => resolveProjectId w.db ctx
  match projectId with
  | none => pure ()
  | some projectId =>
      if projectId = 0 then pure ()
      else do
        let time ← now
        writeDb fun db => { db with
          projects := db.projects.update
            (fun p => p.projectId == projectId && p.status != .completed)
            (fun p => { p with status := .completed, completedAt := p.completedAt <|> some time })
            (fun _ => rfl) }
        emit { eventName := "six1-event.notification.project_status_changed"
               entity := some ⟨"Project", projectId⟩
               data := .obj [("processInstanceId", .num ctx.processInstanceId)]
               correlationId := (ctx.advance.bind AdvanceOptions.correlationId) <|> ctx.correlationId
               tenantId := none }

end ProjectHost

/-! ## Scheduled tasks -/

/-- `mapEngineStateToScheduledTaskStatus`. -/
def mapEngineStateToScheduledTaskStatus : StepStatus → ScheduledTaskStatus
  | .pending => .scheduled
  | .ready => .queued
  | .inProgress => .running
  | .completed => .completed
  | .blocked => .paused
  | .canceled => .cancelled

namespace ScheduledTaskHost

/-- `UPDATE scheduled_tasks SET … WHERE scheduled_task_id = ? AND tenant_id = ?`. -/
def updateRow (scheduledTaskId tenantId : Nat) (set : ScheduledTask → ScheduledTask)
    (keeps : ∀ row, (set row).scheduledTaskId = row.scheduledTaskId) : Tx Unit :=
  writeDb fun db => { db with
    scheduledTasks := db.scheduledTasks.update
      (fun row => row.scheduledTaskId == scheduledTaskId && row.tenantId == tenantId) set keeps }

/-- `ScheduledTaskHostAdapter.onProcessStarted`. -/
def onProcessStarted (ctx : ProcessHostContext) : Tx Unit :=
  updateRow ctx.subjectId ctx.tenantId
    (fun row => { row with processInstanceId := some ctx.processInstanceId, status := .scheduled })
    (fun _ => rfl)

/-- `syncScheduledTaskStatus`. -/
def syncScheduledTaskStatus (scheduledTaskId tenantId : Nat) (engineState : StepStatus)
    (updatedBy : Option Nat) : Tx Unit := do
  let time ← now
  updateRow scheduledTaskId tenantId
    (fun row => { row with
      status := mapEngineStateToScheduledTaskStatus engineState
      actualStartUtc :=
        if engineState = .inProgress then row.actualStartUtc <|> some time else row.actualStartUtc
      updatedBy := updatedBy <|> row.updatedBy })
    (fun _ => rfl)

/-- `resolveScheduledTaskId`. -/
def resolveScheduledTaskId (db : Database) (ctx : ProcessHostContext) : Option Nat :=
  if ctx.subjectType = .scheduledTask ∧ 0 < ctx.subjectId then some ctx.subjectId
  else
    (db.scheduledTasks.rows.find? fun row =>
      row.processInstanceId == some ctx.processInstanceId && row.tenantId == ctx.tenantId).map
        ScheduledTask.scheduledTaskId

/-- `ScheduledTaskHostAdapter.onProcessCompleted`. -/
def onProcessCompleted (ctx : ProcessHostContext) : Tx Unit := do
  let scheduledTaskId ← Program.read fun w => resolveScheduledTaskId w.db ctx
  match scheduledTaskId with
  | none => pure ()
  | some scheduledTaskId =>
      if scheduledTaskId = 0 then pure ()
      else do
        let time ← now
        updateRow scheduledTaskId ctx.tenantId
          (fun row => { row with
            status := .completed
            actualEndUtc := row.actualEndUtc <|> some time
            isActive := false })
          (fun _ => rfl)

end ScheduledTaskHost

/-! ## The registry -/

/-- The registered adapters. -/
inductive ProcessHostAdapter where
  | project | scheduledTask | configurableInstance | genericWorkflow
deriving DecidableEq

namespace ProcessHostRegistry

/-- The adapter under a subject type, if one is registered. -/
def lookup : SubjectType → Option ProcessHostAdapter
  | .project => some .project
  | .scheduledTask => some .scheduledTask
  | .configCustomObjectInstance => some .configurableInstance
  | .workflow => some .genericWorkflow
  | .sorEntity => none

/-- `ProcessHostRegistry.has`. -/
def has (subjectType : SubjectType) : Bool := (lookup subjectType).isSome

/-- `ProcessHostRegistry.get`. -/
def get (subjectType : SubjectType) : Except String ProcessHostAdapter :=
  match lookup subjectType with
  | some adapter => .ok adapter
  | none => .error ("No process host adapter registered for subject_type=\"" ++
      subjectType.text ++ "\"")

end ProcessHostRegistry

namespace ProcessHostAdapter

/-- `onProcessStarted`; a configurable instance only logs, a workflow makes
itself its own subject. -/
def onProcessStarted (adapter : ProcessHostAdapter) (ctx : ProcessHostContext) : Tx Unit := do
  callHost (.processStarted ctx.processInstanceId)
  match adapter with
  | .project => ProjectHost.onProcessStarted ctx
  | .scheduledTask => ScheduledTaskHost.onProcessStarted ctx
  | .configurableInstance => pure ()
  | .genericWorkflow =>
      if ctx.subjectId = ctx.processInstanceId then pure ()
      else
        writeDb fun db => db.setInstance ctx.processInstanceId
          (fun row => { row with subjectId := ctx.processInstanceId }) (fun _ => rfl)

/-- `onStepStateChanged`. -/
def onStepStateChanged (adapter : ProcessHostAdapter) (ctx : ProcessHostContext)
    (stepInstanceId : Nat) (engineState : StepStatus) : Tx Unit := do
  callHost (.stepStateChanged ctx.processInstanceId stepInstanceId engineState)
  match adapter with
  | .project => ProjectHost.syncTaskColumn stepInstanceId engineState ctx.actor
  | .scheduledTask =>
      ScheduledTaskHost.syncScheduledTaskStatus ctx.subjectId ctx.tenantId engineState ctx.actor
  | .configurableInstance => pure ()
  | .genericWorkflow => pure ()

/-- `onProcessCompleted`. -/
def onProcessCompleted (adapter : ProcessHostAdapter) (ctx : ProcessHostContext) : Tx Unit := do
  callHost (.processCompleted ctx.processInstanceId)
  match adapter with
  | .project => ProjectHost.onProcessCompleted ctx
  | .scheduledTask => ScheduledTaskHost.onProcessCompleted ctx
  | .configurableInstance => pure ()
  | .genericWorkflow => pure ()

/-- `canCompleteJob`: all four adapters count the completed steps of the process. -/
def canCompleteJob (_adapter : ProcessHostAdapter) (db : Database) (ctx : ProcessHostContext) :
    Bool :=
  let steps := db.stepsOf ctx.processInstanceId
  steps.length != 0 && (steps.countP fun step => step.status == .completed) == steps.length

end ProcessHostAdapter

end CoreApi.Automation
