import CoreApi.Automation.HostReports

/-!
# What a project writes when its process starts

A project maps every engine state to one of its columns; the mappings of an
earlier process of the same project stay in front of the new ones. The tasks of
the steps are then put in one INSERT that no server takes, so that a project can
only start a process without steps.
-/

namespace CoreApi.Automation

open CoreApi.Foundation

namespace ProjectHost

/-- The column a started process maps an engine state to. -/
def initialColumn (hostData : ProjectHostStartData) (state : StepStatus) : Option Nat :=
  (defaultMap.lookup state).bind (statusId hostData.statusIdByName)

theorem initialColumn_of_mem {hostData : ProjectHostStartData} {entry : StepStatus × String}
    (member : entry ∈ defaultMap) :
    initialColumn hostData entry.1 = statusId hostData.statusIdByName entry.2 := by
  have found : ∀ entry ∈ defaultMap, defaultMap.lookup entry.1 = some entry.2 := by decide
  unfold initialColumn
  rw [found entry member]
  rfl

/-- Mapping rows behind those that were there: the column of every state. -/
def MapsStates (hostData : ProjectHostStartData) (added : List StepStatusMapping) : Prop :=
  (∀ mapping ∈ added, mapping.projectId = hostData.projectId ∧ mapping.stepInstanceId = none ∧
    initialColumn hostData mapping.stepEngineState = some mapping.taskStatusId) ∧
  ∀ state, ∃ mapping ∈ added, mapping.stepEngineState = state

/-- What `onProcessStarted` adds where it returns; the process has no steps then. -/
structure ProjectStarted (hostData : ProjectHostStartData) (steps : List StepInstance)
    (before after : World) : Prop where
  mappings : ∃ added, after.db.statusMappings.rows = before.db.statusMappings.rows ++ added ∧
    MapsStates hostData added
  stepless : steps = []
  tasks : after.db.tasks = before.db.tasks
  scheduledTasks : after.db.scheduledTasks = before.db.scheduledTasks
  hostCalls : after.hostCalls = before.hostCalls

/-! ## The tasks of the steps -/

/-- What a well-formed INSERT of the tasks does: its rows have an expression for each column
and a placeholder for each value pushed for the step, and the stored rows have the values of
their steps in the columns of their names. -/
structure SeedsTasks (ctx : ProcessHostContext) (hostData : ProjectHostStartData)
    (statusIdOf : StepStatus → Option Nat) (steps : List StepInstance)
    (statement : BulkInsert SqlValue) : Prop where
  aligned : statement.Aligned
  stored : ∃ rows, statement.execute = .ok rows ∧ List.Forall₂ (fun step row =>
    let cells := statement.columns.zip row
    cells.lookup "step_instance_id" = some (.num step.stepInstanceId) ∧
      cells.lookup "name" = some (.str step.name) ∧
      cells.lookup "task_status_id" = some (.num (mappedStatusId hostData statusIdOf step)) ∧
      cells.lookup "created_by" = some (.num ctx.createdBy) ∧
      cells.lookup "updated_by" = some (.num ctx.createdBy)) steps rows

/-- No row of the INSERT is well formed, whatever the steps are: each has 13 expressions for
21 columns, and 12 placeholders for 20 values. The server stores none of them. -/
theorem tasks_never_seeded {ctx : ProcessHostContext} {hostData : ProjectHostStartData}
    {time : String} {statusIdOf : StepStatus → Option Nat} {steps : List StepInstance}
    {statement : BulkInsert SqlValue}
    (built : tasksInsert ctx hostData time statusIdOf steps = .ok statement)
    (nonempty : steps ≠ []) :
    (∀ push ∈ statement.pushes, push.1.length ≠ statement.columns.length ∧
        BulkInsert.placeholders push.1 ≠ push.2.length) ∧
      ¬ SeedsTasks ctx hostData statusIdOf steps statement := by
  constructor
  · obtain ⟨_, rfl⟩ := tasksInsert_eq_ok.mp built
    intro push pushed
    obtain ⟨step, _, rfl⟩ := List.mem_map.mp pushed
    refine ⟨?_, ?_⟩
    · show (taskExpressions time).length ≠ taskColumns.length
      rw [taskExpressions_length, taskColumns_length]
      decide
    · rw [placeholders_taskExpressions, taskValues_length]
      decide
  · intro seeds
    obtain ⟨rows, stores, _⟩ := seeds.stored
    obtain ⟨refusal, refused⟩ := tasksInsert_refused built nonempty
    rw [stores] at refused
    cases refused

/-- Project 7 of tenant 1, by user 3. -/
def projectContext : ProcessHostContext where
  tenantId := 1
  createdBy := 3
  processInstanceId := 1
  templateId := 1
  subjectType := .project
  subjectId := 7
  subjectMetadata := none
  correlationId := none
  context := none
  hostData := none
  advance := none

/-- The columns of project 7. -/
def boardColumns : ProjectHostStartData where
  projectId := 7
  statusIdByName := [("To Do", 1), ("Ready", 2), ("In Progress", 3), ("Done", 4), ("Blocked", 5)]

/-- The first step of a process. -/
def reviewStep : StepInstance where
  stepInstanceId := 101
  processInstanceId := 1
  processTemplateStepId := 11
  name := "Review"
  taskType := .manual
  stepOrder := 1
  isOptional := false
  status := .ready
  blockedReason := ""
  readyAt := none
  startedAt := none
  completedAt := none
  canceledAt := none
  updatedAt := ""

/-- The INSERT of the task of the one step. -/
def reviewInsert : BulkInsert SqlValue where
  columns := taskColumns
  pushes := [(taskExpressions "", taskValues projectContext boardColumns "review-" 2 reviewStep)]

theorem reviewInsert_built :
    tasksInsert projectContext boardColumns "" (initialColumn boardColumns) [reviewStep] =
      .ok reviewInsert := by
  refine tasksInsert_eq_ok.mpr ⟨by decide, ?_⟩
  have isIdentifier : taskIdentifier 7 "" reviewStep = "review-" := by decide
  rw [List.map_cons, List.map_nil, show boardColumns.projectId = 7 from rfl, isIdentifier]
  rfl

theorem tasks_never_seeded_review :
    (∀ push ∈ reviewInsert.pushes, push.1.length ≠ reviewInsert.columns.length ∧
        BulkInsert.placeholders push.1 ≠ push.2.length) ∧
      ¬ SeedsTasks projectContext boardColumns (initialColumn boardColumns) [reviewStep]
        reviewInsert :=
  tasks_never_seeded reviewInsert_built (List.cons_ne_nil _ _)

/-- The INSERT of a single task already has too few expressions and placeholders. -/
theorem reviewTask_not_seeded :
    tasksInsert projectContext boardColumns "" (initialColumn boardColumns) [reviewStep] =
        .ok reviewInsert ∧
      ¬ SeedsTasks projectContext boardColumns (initialColumn boardColumns) [reviewStep]
        reviewInsert :=
  ⟨reviewInsert_built, fun seeds => absurd seeds.aligned (by decide)⟩

/-! ## A started project -/

private theorem insertMappings_added (hostData : ProjectHostStartData) (w : World) :
    Program.wp (Program.forEach (insertMapping hostData) defaultMap)
      (fun _ w' => (∃ added, w'.db.statusMappings.rows = w.db.statusMappings.rows ++ added ∧
        MapsStates hostData added) ∧ w'.db.tasks = w.db.tasks ∧ w'.db.steps = w.db.steps ∧
        w'.db.scheduledTasks = w.db.scheduledTasks ∧ w'.hostCalls = w.hostCalls)
      (fun _ _ => True) w := by
  let inv := fun (rest : List (StepStatus × String)) (t : World) =>
    (∃ done added, done ++ rest = defaultMap ∧
      t.db.statusMappings.rows = w.db.statusMappings.rows ++ added ∧
      (∀ mapping ∈ added, mapping.projectId = hostData.projectId ∧
        mapping.stepInstanceId = none ∧
        initialColumn hostData mapping.stepEngineState = some mapping.taskStatusId) ∧
      ∀ entry ∈ done, ∃ mapping ∈ added, mapping.stepEngineState = entry.1) ∧
    t.db.tasks = w.db.tasks ∧ t.db.steps = w.db.steps ∧
    t.db.scheduledTasks = w.db.scheduledTasks ∧ t.hostCalls = w.hostCalls
  refine Program.wp_mono (@Program.wp_forEach _ _ _ (fun _ _ => True) _ inv defaultMap w ?_ ?_)
    ?_ (fun _ _ _ => trivial)
  · exact ⟨⟨[], [], rfl, by simp, by simp, by simp⟩, rfl, rfl, rfl, rfl⟩
  · rintro entry rest t ⟨⟨done, added, split, rows, own, all⟩, tasks, steps, scheduled, calls⟩
    have member : entry ∈ defaultMap := by rw [← split]; simp
    unfold insertMapping
    cases column : statusId hostData.statusIdByName entry.2 with
    | none => trivial
    | some taskStatusId =>
        let row : StepStatusMapping :=
          { mappingId := t.db.statusMappings.autoIncrement, projectId := hostData.projectId,
            stepInstanceId := none, stepEngineState := entry.1, taskStatusId := taskStatusId }
        refine ⟨⟨done ++ [entry], added ++ [row], by simp [split], ?_, ?_, ?_⟩, tasks, steps,
          scheduled, calls⟩
        · rw [← List.append_assoc, ← rows]
          rfl
        · intro mapping inAdded
          rcases List.mem_append.mp inAdded with old | new
          · exact own mapping old
          · rw [List.mem_singleton.mp new]
            exact ⟨rfl, rfl, (initialColumn_of_mem member).trans column⟩
        · intro other otherMember
          rcases List.mem_append.mp otherMember with old | new
          · obtain ⟨mapping, inAdded, isState⟩ := all other old
            exact ⟨mapping, List.mem_append_left _ inAdded, isState⟩
          · rw [List.mem_singleton.mp new]
            exact ⟨_, List.mem_append_right _ (List.mem_singleton_self _), rfl⟩
  · rintro _ w' ⟨⟨done, added, split, rows, own, all⟩, kept⟩
    rw [List.append_nil] at split
    refine ⟨⟨added, rows, own, fun state => ?_⟩, kept⟩
    have listed : ∃ entry ∈ defaultMap, entry.1 = state := by cases state <;> decide
    obtain ⟨entry, member, isState⟩ := listed
    obtain ⟨mapping, inAdded, same⟩ := all entry (split ▸ member)
    exact ⟨mapping, inAdded, same.trans isState⟩

theorem onProcessStarted_added (ctx : ProcessHostContext) (w : World) :
    Program.wp (onProcessStarted ctx)
      (fun _ w' => ∃ hostData, ctx.hostData = some hostData ∧
        ProjectStarted hostData (w.db.stepsOf ctx.processInstanceId) w w')
      (fun _ _ => True) w := by
  unfold onProcessStarted
  cases ctx.hostData with
  | none => trivial
  | some hostData =>
      simp only
      rw [Program.wp_ite]
      refine ⟨fun _ => trivial, fun _ => ?_⟩
      rw [Program.wp_bind]
      refine Program.wp_mono (insertMappings_added hostData w) ?_ (fun _ _ _ => trivial)
      rintro _ w₁ ⟨⟨added, rows, maps⟩, tasks, steps, scheduled, calls⟩
      rw [Program.wp_bind, Program.wp_read, Program.wp_when]
      refine ⟨fun nonempty => ?_, fun empty => ?_⟩
      · exact Program.wp_mono (insertTasks_refused nonempty w₁) (fun _ _ => False.elim)
          fun _ _ _ => trivial
      · refine ⟨hostData, rfl, ⟨added, rows, maps⟩, ?_, tasks, scheduled, calls⟩
        have none : orderBy StepInstance.stepOrder (w₁.db.stepsOf ctx.processInstanceId) = [] :=
          not_not.mp empty
        rw [List.eq_nil_iff_forall_not_mem] at none ⊢
        intro step member
        refine none step (mem_orderBy.mpr ?_)
        rw [Database.stepsOf, steps]
        exact member

theorem columnMapping_added {hostData : ProjectHostStartData} {before after : Database}
    {added : List StepStatusMapping}
    (rows : after.statusMappings.rows = before.statusMappings.rows ++ added)
    (maps : MapsStates hostData added) {projectId stepInstanceId : Nat} {state : StepStatus}
    {mapping : StepStatusMapping}
    (found : columnMapping after projectId stepInstanceId state = some mapping) :
    columnMapping before projectId stepInstanceId state = some mapping ∨
      columnMapping before projectId stepInstanceId state = none := by
  have noOwn : (added.filter fun m => m.projectId == projectId && m.stepEngineState == state).find?
      (fun m => m.stepInstanceId == some stepInstanceId) = none := by
    rw [List.find?_eq_none]
    intro m member
    rw [(maps.1 m (List.mem_filter.mp member).1).2.1]
    simp
  unfold columnMapping Table.select at found ⊢
  simp only [rows, List.filter_append, List.find?_append, noOwn, Option.or_none] at found ⊢
  cases own : (before.statusMappings.rows.filter fun m =>
      m.projectId == projectId && m.stepEngineState == state).find?
        fun m => m.stepInstanceId == some stepInstanceId with
  | some first =>
      rw [own] at found
      exact .inl found
  | none =>
      rw [own] at found
      cases wide : (before.statusMappings.rows.filter fun m =>
          m.projectId == projectId && m.stepEngineState == state).find?
            fun m => m.stepInstanceId == none with
      | some first =>
          rw [wide] at found
          exact .inl found
      | none =>
          exact .inr rfl

/-- A project-wide mapping of the state is found, if no other is. -/
theorem columnMapping_ne_none {db : Database} {projectId : Nat} (stepInstanceId : Nat)
    {state : StepStatus} (mapped : ∃ mapping ∈ db.statusMappings.rows,
      mapping.projectId = projectId ∧ mapping.stepInstanceId = none ∧
      mapping.stepEngineState = state) :
    columnMapping db projectId stepInstanceId state ≠ none := by
  obtain ⟨mapping, member, project, wide, isState⟩ := mapped
  unfold columnMapping Table.select
  intro missing
  rw [Option.orElse_eq_none] at missing
  have notFound := List.find?_eq_none.mp missing.2 mapping
    (List.mem_filter.mpr ⟨member, by simp [project, isState]⟩)
  simp [wide] at notFound

end ProjectHost

/-! ## Starts -/

namespace StartReported

variable {deployment : Deployment} {params : StartProcessParams} {processInstanceId : Nat}
  {subjectType : SubjectType} {adapter : ProcessHostAdapter} {before after : World}

/-- A start moves and adds no task, and only that of a project adds mappings. -/
theorem hosts (reported : StartReported deployment params processInstanceId subjectType adapter
      before after) :
    (∃ calls, after.hostCalls = before.hostCalls ++ calls ∧
      ∀ process step state, .stepStateChanged process step state ∉ calls) ∧
    after.db.tasks = before.db.tasks ∧
    (after.db.statusMappings = before.db.statusMappings ∨
      ∃ hostData added, after.db.statusMappings.rows = before.db.statusMappings.rows ++ added ∧
        ProjectHost.MapsStates hostData added) := by
  cases skip : params.skipHostOnStart with
  | true =>
      have kept := reported.skipped skip
      exact ⟨⟨[], by rw [kept.hostCalls, List.append_nil], by simp⟩, kept.tasks,
        .inl kept.statusMappings⟩
  | false =>
      obtain ⟨stored, told, first, run, last, steps⟩ := reported.told skip
      have called : told.hostCalls = stored.hostCalls ++ [.processStarted processInstanceId] →
          ∃ calls, after.hostCalls = before.hostCalls ++ calls ∧
            ∀ process step state, .stepStateChanged process step state ∉ calls := by
        intro told
        exact ⟨[.processStarted processInstanceId],
          by rw [last.hostCalls, told, first.hostCalls], by simp⟩
      cases adapter with
      | project =>
          have started := Program.wp_ok (ProjectHost.onProcessStarted_added _ _) run
          obtain ⟨hostData, given, ⟨mappings, mappingRows, maps⟩, _, tasks, _, hostCalls⟩ := started
          refine ⟨called hostCalls, (last.tasks.trans tasks).trans first.tasks,
            .inr ⟨hostData, mappings, ?_, maps⟩⟩
          rw [last.statusMappings, mappingRows]
          exact congrArg (fun table => table.rows ++ mappings) first.statusMappings
      | scheduledTask =>
          cases run
          exact ⟨called rfl, last.tasks.trans first.tasks,
            .inl (last.statusMappings.trans first.statusMappings)⟩
      | configurableInstance =>
          cases run
          exact ⟨called rfl, last.tasks.trans first.tasks,
            .inl (last.statusMappings.trans first.statusMappings)⟩
      | genericWorkflow =>
          have kept : Program.wp (ProcessHostAdapter.genericWorkflow.onProcessStarted
                (ProcessLifecycle.hostContext params subjectType processInstanceId))
              (fun _ w' => w'.db.tasks = stored.db.tasks ∧
                w'.db.statusMappings = stored.db.statusMappings ∧
                w'.hostCalls = stored.hostCalls ++ [.processStarted processInstanceId])
              (fun _ _ => True) stored := by
            unfold ProcessHostAdapter.onProcessStarted
            rw [Program.wp_bind, wp_callHost, Program.wp_ite]
            exact ⟨fun _ => ⟨rfl, rfl, rfl⟩, fun _ => ⟨rfl, rfl, rfl⟩⟩
          obtain ⟨tasks, statusMappings, hostCalls⟩ := Program.wp_ok kept run
          exact ⟨called hostCalls, (last.tasks.trans tasks).trans first.tasks,
            .inl ((last.statusMappings.trans statusMappings).trans first.statusMappings)⟩

end StartReported

end CoreApi.Automation
