import CoreApi.Automation.LinkedState
import CoreApi.Automation.ProjectStart
import CoreApi.Automation.ReportedChanges

/-!
# The tasks of a project

A task of a project stands in the column the project maps the state of its step
to. A report moves the task of its step, a start puts new tasks where the steps
begin, and the other host calls move none.
-/

namespace CoreApi.Automation

open CoreApi.Foundation StepOrchestrator ChildProcessOrchestration

variable {deployment : Deployment}

/-! ## Tasks of a project -/

/-- The task stands in the column its project maps the state of the step to. -/
def InColumn (db : Database) (task : Task) (stepInstanceId : Nat) (state : StepStatus) : Prop :=
  ∀ mapping ∈ ProjectHost.columnMapping db task.projectId stepInstanceId state,
    mapping.taskStatusId ≠ 0 → task.taskStatusId = mapping.taskStatusId

instance (db : Database) (task : Task) (stepInstanceId : Nat) (state : StepStatus) :
    Decidable (InColumn db task stepInstanceId state) :=
  inferInstanceAs (Decidable (∀ mapping ∈
    ProjectHost.columnMapping db task.projectId stepInstanceId state, _ → _))

/-- Every process-controlled task of a step stands in the column of the step's state. -/
def TasksMirrored (db : Database) : Prop :=
  ∀ task ∈ db.tasks.rows, task.statusControl ≠ .manual → ∀ step ∈ db.steps.rows,
    task.stepInstanceId = some step.stepInstanceId →
      InColumn db task step.stepInstanceId step.status

instance (db : Database) : Decidable (TasksMirrored db) :=
  inferInstanceAs (Decidable (∀ task ∈ db.tasks.rows, _ → ∀ step ∈ db.steps.rows, _ → _))

/-- Whose the tasks of steps are: each step of a project has one at most, and the
project maps every state. -/
structure TasksOwned (db : Database) : Prop where
  owner : ∀ task ∈ db.tasks.rows, ∀ stepInstanceId, task.stepInstanceId = some stepInstanceId →
    ∃ step ∈ db.steps.rows, step.stepInstanceId = stepInstanceId ∧
      ∃ proc ∈ db.processInstances.rows, proc.processInstanceId = step.processInstanceId ∧
        proc.subjectType = .project
  single : ∀ task ∈ db.tasks.rows, ∀ other ∈ db.tasks.rows, ∀ stepInstanceId,
    task.stepInstanceId = some stepInstanceId → other.stepInstanceId = some stepInstanceId →
      task = other
  mapped : ∀ task ∈ db.tasks.rows, task.stepInstanceId ≠ none → ∀ state,
    ∃ mapping ∈ db.statusMappings.rows, mapping.projectId = task.projectId ∧
      mapping.stepInstanceId = none ∧ mapping.stepEngineState = state

/-- The tasks keep what they are attached to. -/
def KeepsTasks (before after : Database) : Prop :=
  ∀ task ∈ after.tasks.rows, ∃ old ∈ before.tasks.rows, old.taskId = task.taskId ∧
    old.stepInstanceId = task.stepInstanceId ∧ old.projectId = task.projectId

/-- The steps stay steps of their processes, and those of their subjects. -/
structure KeepsOwners (before after : Database) : Prop where
  steps : ∀ step ∈ before.steps.rows, ∃ row ∈ after.steps.rows,
    row.stepInstanceId = step.stepInstanceId ∧ row.processInstanceId = step.processInstanceId
  instances : ∀ proc ∈ before.processInstances.rows, ∃ row ∈ after.processInstances.rows,
    row.processInstanceId = proc.processInstanceId ∧ row.subjectType = proc.subjectType

theorem KeepsTasks.of_eq {before after : Database} (tasks : after.tasks = before.tasks) :
    KeepsTasks before after := by
  intro task member
  rw [tasks] at member
  exact ⟨task, member, rfl, rfl, rfl⟩

theorem TasksOwned.same {before after : Database} (owned : TasksOwned before)
    (tasks : KeepsTasks before after)
    (statusMappings : after.statusMappings = before.statusMappings)
    (owners : KeepsOwners before after) : TasksOwned after := by
  constructor
  · intro task member stepInstanceId ofStep
    obtain ⟨old, oldMember, _, attached, _⟩ := tasks task member
    obtain ⟨step, stepMember, isStep, proc, procMember, ofProcess, subject⟩ :=
      owned.owner old oldMember stepInstanceId (attached.trans ofStep)
    obtain ⟨row, rowMember, key, process⟩ := owners.steps step stepMember
    obtain ⟨row', rowMember', key', subject'⟩ := owners.instances proc procMember
    exact ⟨row, rowMember, key.trans isStep, row', rowMember',
      key'.trans (ofProcess.trans process.symm), subject'.trans subject⟩
  · intro task member other otherMember stepInstanceId ofStep otherOfStep
    obtain ⟨old, oldMember, key, attached, _⟩ := tasks task member
    obtain ⟨old', oldMember', key', attached', _⟩ := tasks other otherMember
    have same := owned.single old oldMember old' oldMember' stepInstanceId
      (attached.trans ofStep) (attached'.trans otherOfStep)
    exact Table.eq_of_key_eq member otherMember (key.symm.trans (same ▸ key'))
  · intro task member ofStep state
    obtain ⟨old, oldMember, _, attached, project⟩ := tasks task member
    rw [statusMappings, ← project]
    exact owned.mapped old oldMember (attached ▸ ofStep) state

/-- The tasks of the steps follow the reports, and no process has a parent. -/
structure Mirrored (db : Database) : Prop where
  childless : ∀ row ∈ db.processInstances.rows, row.parentStepId = none
  owned : TasksOwned db
  columns : TasksMirrored db

/-- The mapping of a column is read from the mappings alone. -/
theorem inColumn_of_mappings {before after : Database} {task : Task} {stepInstanceId : Nat}
    {state : StepStatus} (statusMappings : after.statusMappings = before.statusMappings)
    (stands : InColumn before task stepInstanceId state) :
    InColumn after task stepInstanceId state := by
  unfold InColumn ProjectHost.columnMapping at stands ⊢
  rw [statusMappings]
  exact stands

namespace Mirrored

/-- A write that leaves the tasks, the mappings and the states of the steps. -/
theorem same {before after : Database} (mirrored : Mirrored before)
    (tasks : after.tasks = before.tasks)
    (statusMappings : after.statusMappings = before.statusMappings)
    (steps : after.steps = before.steps)
    (preimage : ∀ row ∈ after.processInstances.rows, ∃ old ∈ before.processInstances.rows,
      row.parentStepId = old.parentStepId)
    (image : ∀ proc ∈ before.processInstances.rows, ∃ row ∈ after.processInstances.rows,
      row.processInstanceId = proc.processInstanceId ∧ row.subjectType = proc.subjectType) :
    Mirrored after := by
  refine ⟨fun row member => ?_, mirrored.owned.same (.of_eq tasks) statusMappings
    ⟨fun step member => ⟨step, steps ▸ member, rfl, rfl⟩, image⟩, ?_⟩
  · obtain ⟨old, oldMember, parent⟩ := preimage row member
    exact parent.trans (mirrored.childless old oldMember)
  · intro task member control step stepMember ofStep
    rw [tasks] at member
    rw [steps] at stepMember
    exact inColumn_of_mappings statusMappings
      (mirrored.columns task member control step stepMember ofStep)

/-- A step changes its state, and its task moves with it. -/
theorem changed {before after : World} {step row : StepInstance} {state : StepStatus}
    {proc : ProcessInstance} (mirrored : Mirrored before.db)
    (found : before.db.instance? step.processInstanceId = some proc)
    (member : row ∈ before.db.steps.rows) (key : row.stepInstanceId = step.stepInstanceId)
    (process : row.processInstanceId = step.processInstanceId)
    (changed : Changed step state before after) : Mirrored after.db := by
  obtain ⟨set, sets, told, host, report, rest, kept⟩ := changed
  obtain ⟨_, _, _, _, shape⟩ := host.tables.trans rest.tables
  have steps : after.db.steps = (before.db.setStep step.stepInstanceId set sets.key).steps := by
    rw [shape]
  have instances : after.db.processInstances = before.db.processInstances := by
    rw [shape]
    rfl
  have isTold : ToldHost proc step.stepInstanceId state { before with
      db := before.db.setStep step.stepInstanceId set sets.key } told := report.told found
  have owners : KeepsOwners before.db after.db := by
    refine ⟨fun other otherMember => ?_, fun proc member => ⟨proc, instances ▸ member, rfl, rfl⟩⟩
    rw [steps]
    by_cases same : other.stepInstanceId = step.stepInstanceId
    · exact ⟨set other, (mem_setStep sets.key).mpr (.inl ⟨other, otherMember, same, rfl⟩),
        sets.key other, sets.process other⟩
    · exact ⟨other, (mem_setStep sets.key).mpr (.inr ⟨otherMember, same⟩), rfl, rfl⟩
  have childless : ∀ row ∈ after.db.processInstances.rows, row.parentStepId = none := by
    rw [instances]
    exact mirrored.childless
  -- The steps that did not change, and the one that did.
  have column : ∀ task, (∀ other ∈ before.db.steps.rows,
        other.stepInstanceId ≠ step.stepInstanceId →
          task.stepInstanceId = some other.stepInstanceId →
            InColumn before.db task other.stepInstanceId other.status) →
      (task.stepInstanceId = some step.stepInstanceId →
        InColumn before.db task step.stepInstanceId state) →
      ∀ other ∈ after.db.steps.rows, task.stepInstanceId = some other.stepInstanceId →
        InColumn before.db task other.stepInstanceId other.status := by
    intro task elsewhere here other otherMember ofStep
    rw [steps] at otherMember
    rcases (mem_setStep sets.key).mp otherMember with ⟨old, _, same, rfl⟩ | ⟨untouched, different⟩
    · rw [sets.key, same] at ofStep ⊢
      rw [sets.status]
      exact here ofStep
    · exact elsewhere other untouched different ofStep
  by_cases project : proc.subjectType = .project
  · cases isTold.project project with
    | kept silent still =>
        have tasks := kept.tasks.trans silent.tasks
        have mappings := kept.statusMappings.trans silent.statusMappings
        refine ⟨childless, mirrored.owned.same (.of_eq tasks) mappings owners, ?_⟩
        intro task taskMember control other otherMember ofStep
        rw [tasks] at taskMember
        refine inColumn_of_mappings mappings (column task
          (fun old oldMember _ => mirrored.columns task taskMember control old oldMember)
          (fun ofStep mapping mapped nonzero => ?_) other otherMember ofStep)
        cases isTask : before.db.tasks.rows.find? fun t =>
            t.stepInstanceId == some step.stepInstanceId with
        | none =>
            have none := List.find?_eq_none.mp isTask task taskMember
            simp [ofStep] at none
        | some found =>
            have names : found.stepInstanceId = some step.stepInstanceId := by
              simpa using List.find?_some isTask
            have same := mirrored.owned.single found (List.mem_of_find?_eq_some isTask) task
              taskMember _ names ofStep
            subst same
            exact absurd (still found isTask control mapping mapped) nonzero
    | moved task mapping isTask mapped moved statusMappings scheduledTasks =>
        have tasks := kept.tasks.trans moved
        have mappings := kept.statusMappings.trans statusMappings
        have taskMember : task ∈ before.db.tasks.rows := List.mem_of_find?_eq_some isTask
        have names : task.stepInstanceId = some step.stepInstanceId := by
          simpa using List.find?_some isTask
        refine ⟨childless, mirrored.owned.same ?_ mappings owners, ?_⟩
        · intro written writtenMember
          rw [tasks] at writtenMember
          rcases Table.mem_updateAt.mp writtenMember with ⟨old, oldMember, _, rfl⟩ | ⟨untouched, _⟩
          · exact ⟨old, oldMember, rfl, rfl, rfl⟩
          · exact ⟨written, untouched, rfl, rfl, rfl⟩
        · intro written writtenMember control other otherMember ofStep
          rw [tasks] at writtenMember
          rcases Table.mem_updateAt.mp writtenMember with
            ⟨old, oldMember, same, rfl⟩ | ⟨untouched, different⟩
          · have isOld : old = task := Table.eq_of_key_eq oldMember taskMember same
            subst isOld
            refine inColumn_of_mappings mappings (column _ (fun other _ apart ofStep => ?_)
              (fun _ mapping' mapped' _ => ?_) other otherMember ofStep)
            · exact absurd (Option.some.inj (ofStep.symm.trans names)) apart
            · have isMapping : mapping' = mapping := Option.some.inj (mapped'.symm.trans mapped)
              rw [isMapping]
          · refine inColumn_of_mappings mappings (column written
              (fun old oldMember _ => mirrored.columns written untouched control old oldMember)
              (fun ofStep => ?_) other otherMember ofStep)
            have same := mirrored.owned.single written untouched task taskMember _ ofStep names
            exact absurd (congrArg Task.taskId same) different
  · obtain ⟨tasks, mappings⟩ := isTold.tasks project
    have tasks := kept.tasks.trans tasks
    have mappings := kept.statusMappings.trans mappings
    refine ⟨childless, mirrored.owned.same (.of_eq tasks) mappings owners, ?_⟩
    intro task taskMember control other otherMember ofStep
    rw [tasks] at taskMember
    refine inColumn_of_mappings mappings (column task
      (fun old oldMember _ => mirrored.columns task taskMember control old oldMember)
      (fun ofStep => ?_) other otherMember ofStep)
    -- A task of the step would make its process one of a project.
    obtain ⟨owner, ownerMember, isStep, host, hostMember, ofProcess, subject⟩ :=
      mirrored.owned.owner task taskMember _ ofStep
    have isRow : owner = row := Table.eq_of_key_eq ownerMember member (isStep.trans key.symm)
    have isProc : host = proc := Table.eq_of_key_eq hostMember (Table.mem_of_find? found)
      (ofProcess.trans ((isRow ▸ process).trans (Table.key_of_find? found).symm))
    exact absurd (isProc ▸ subject) project

/-- The host of a completed process is told, and moves no task. -/
theorem announced {before after : World} {proc : ProcessInstance} (mirrored : Mirrored before.db)
    (announced : Announced proc before after) :
    Mirrored after.db ∧ ChangesReported before after := by
  obtain ⟨told, completion, kept⟩ := announced.report
  obtain ⟨hostCalls, tasks, statusMappings⟩ := completion.kept
  obtain ⟨_, _, _, _, shape⟩ := announced.tables
  have sets := setsInstance_completed before.now
  have steps : after.db.steps = before.db.steps := by
    rw [shape]
    rfl
  have instances : after.db.processInstances = (before.db.setInstance proc.processInstanceId
      (completedInstance before.now) sets.key).processInstances := by
    rw [shape]
  refine ⟨mirrored.same (kept.tasks.trans tasks) (kept.statusMappings.trans statusMappings) steps
    ?_ ?_, .silent (kept.hostCalls.trans hostCalls) (by simp) fun step member => steps ▸ member⟩
  · intro row member
    rw [instances] at member
    rcases (mem_setInstance sets.key).mp member with ⟨old, oldMember, _, rfl⟩ | ⟨untouched, _⟩
    · exact ⟨old, oldMember, sets.parentStep old⟩
    · exact ⟨row, untouched, rfl⟩
  · intro row member
    rw [instances]
    by_cases same : row.processInstanceId = proc.processInstanceId
    · exact ⟨_, (mem_setInstance sets.key).mpr (.inl ⟨row, member, same, rfl⟩), sets.key row,
        sets.subject row⟩
    · exact ⟨row, (mem_setInstance sets.key).mpr (.inr ⟨member, same⟩), rfl, rfl⟩

/-- Settling a process tells its host once, where it completes. -/
theorem settlement {process : Nat} {result : Option Nat} {before after : World}
    (mirrored : Mirrored before.db)
    (settlement : Settlement deployment process before result after) :
    Mirrored after.db ∧ ChangesReported before after := by
  cases settlement with
  | idle => exact ⟨mirrored, .refl before⟩
  | child proc _ found parentStep =>
      exact absurd (mirrored.childless proc (Table.mem_of_find? found)) parentStep
  | announced _ _ _ _ _ announced => exact mirrored.announced announced

/-- A write that reaches no host and leaves the steps and the processes. -/
theorem silent {before after : World} (mirrored : Mirrored before.db)
    (kept : HostsKept before after) (steps : after.db.steps = before.db.steps)
    (instances : after.db.processInstances = before.db.processInstances) :
    Mirrored after.db ∧ ChangesReported before after :=
  ⟨mirrored.same kept.tasks kept.statusMappings steps
    (fun row member => ⟨row, instances ▸ member, rfl⟩)
    (fun row member => ⟨row, instances ▸ member, rfl, rfl⟩),
    .silent (kept.hostCalls.trans (List.append_nil _).symm) (by simp)
      fun step member => steps ▸ member⟩

end Mirrored

/-! ## New processes -/

theorem KeepsOwners.started {params : StartProcessParams} {row : ProcessInstance}
    {before after : World} (start : Started params row before after) :
    KeepsOwners before.db after.db := by
  constructor
  · exact fun step member => ⟨step, start.step_kept member, rfl, rfl⟩
  · intro proc member
    exact ⟨proc, by rw [start.instances]; exact List.mem_append_left _ member, rfl, rfl⟩

/-- A start leaves the tasks where they stand: the mappings it may add are behind those
their projects have. -/
theorem Mirrored.started {params : StartProcessParams} {row : ProcessInstance}
    {subjectType : SubjectType} {adapter : ProcessHostAdapter} {before after : World}
    (mirrored : Mirrored before.db) (root : params.parentStepId = none)
    (start : Started params row before after)
    (reported : StartReported deployment params row.processInstanceId subjectType adapter before
      after) :
    Mirrored after.db ∧ ChangesReported before after := by
  obtain ⟨⟨calls, hostCalls, none⟩, tasks, mappings⟩ := reported.hosts
  refine ⟨?_, .silent hostCalls none fun step member => start.step_kept member⟩
  have childless : ∀ other ∈ after.db.processInstances.rows, other.parentStepId = Option.none := by
    intro other member
    rw [start.instances] at member
    rcases List.mem_append.mp member with old | new
    · exact mirrored.childless other old
    · rw [List.mem_singleton.mp new]
      exact start.fresh.parentStep.trans root
  have stepOf : ∀ task ∈ before.db.tasks.rows, ∀ step ∈ after.db.steps.rows,
      task.stepInstanceId = some step.stepInstanceId → step ∈ before.db.steps.rows := by
    intro task member step stepMember ofStep
    obtain ⟨owner, ownerMember, isStep, _⟩ := mirrored.owned.owner task member _ ofStep
    have isOwner : owner = step :=
      Table.eq_of_key_eq (start.step_kept ownerMember) stepMember isStep
    exact isOwner ▸ ownerMember
  rcases mappings with same | ⟨hostData, added, rows, maps⟩
  · refine ⟨childless, mirrored.owned.same (.of_eq tasks) same (.started start),
      fun task member control step stepMember ofStep => ?_⟩
    rw [tasks] at member
    exact inColumn_of_mappings same
      (mirrored.columns task member control step (stepOf task member step stepMember ofStep) ofStep)
  · refine ⟨childless, ⟨?_, tasks ▸ mirrored.owned.single, ?_⟩,
      fun task member control step stepMember ofStep mapping mapped nonzero => ?_⟩
    · intro task member stepInstanceId ofStep
      rw [tasks] at member
      obtain ⟨step, stepMember, isStep, proc, procMember, rest⟩ :=
        mirrored.owned.owner task member _ ofStep
      refine ⟨step, start.step_kept stepMember, isStep, proc, ?_, rest⟩
      rw [start.instances]
      exact List.mem_append_left _ procMember
    · intro task member attached state
      rw [tasks] at member
      obtain ⟨mapping, mappingMember, rest⟩ := mirrored.owned.mapped task member attached state
      exact ⟨mapping, rows ▸ List.mem_append_left _ mappingMember, rest⟩
    · rw [tasks] at member
      rcases ProjectHost.columnMapping_added rows maps mapped with known | missing
      · exact mirrored.columns task member control step
          (stepOf task member step stepMember ofStep) ofStep mapping known nonzero
      · exact absurd missing (ProjectHost.columnMapping_ne_none _
          (mirrored.owned.mapped task member (by simp [ofStep]) step.status))

end CoreApi.Automation
