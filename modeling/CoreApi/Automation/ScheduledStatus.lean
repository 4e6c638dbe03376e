import CoreApi.Automation.LinkedState

/-!
# The status of a scheduled task

The host of a scheduled task copies the state of whichever step changed last into
one status column. `Follows` says what a write leaves of the rows: only the ones it
lists turn completed, and a completed step stays completed.
-/

namespace CoreApi.Automation

open CoreApi.Foundation StepOrchestrator ChildProcessOrchestration

variable {deployment : Deployment}

/-! ## Rows and their processes -/

/-- The process runs for the scheduled task, and the row is linked to it. -/
structure RunsFor (proc : ProcessInstance) (row : ScheduledTask) : Prop where
  subject : proc.subjectType = .scheduledTask
  id : row.scheduledTaskId = proc.subjectId
  tenant : row.tenantId = proc.tenantId
  linked : row.processInstanceId = some proc.processInstanceId

instance (proc : ProcessInstance) (row : ScheduledTask) : Decidable (RunsFor proc row) :=
  decidable_of_iff (proc.subjectType = .scheduledTask ∧ row.scheduledTaskId = proc.subjectId ∧
    row.tenantId = proc.tenantId ∧ row.processInstanceId = some proc.processInstanceId)
    ⟨fun ⟨subject, id, tenant, linked⟩ => ⟨subject, id, tenant, linked⟩,
      fun runs => ⟨runs.subject, runs.id, runs.tenant, runs.linked⟩⟩

/-- Every step of the process is completed. -/
def AllCompleted (db : Database) (processInstanceId : Nat) : Prop :=
  ∀ step ∈ db.steps.rows, step.processInstanceId = processInstanceId → step.status = .completed

instance (db : Database) (processInstanceId : Nat) :
    Decidable (AllCompleted db processInstanceId) :=
  inferInstanceAs (Decidable (∀ step ∈ db.steps.rows, _ → _))

/-- A scheduled task is completed only after the process that runs for it. -/
def NotAhead (db : Database) : Prop :=
  ∀ proc ∈ db.processInstances.rows, ∀ row ∈ db.scheduledTasks.rows, RunsFor proc row →
    row.status = .completed → AllCompleted db proc.processInstanceId

instance (db : Database) : Decidable (NotAhead db) :=
  inferInstanceAs (Decidable (∀ proc ∈ db.processInstances.rows,
    ∀ row ∈ db.scheduledTasks.rows, _ → _ → _))

/-- `NotAhead`, where each row that is linked at all is linked to a stored process. -/
structure Behind (db : Database) : Prop where
  notAhead : NotAhead db
  linked : ∀ row ∈ db.scheduledTasks.rows, ∀ processInstanceId,
    row.processInstanceId = some processInstanceId →
      ∃ proc ∈ db.processInstances.rows, proc.processInstanceId = processInstanceId

/-- The host of the process writes the status of the row: it is its subject, or the
process has none and the row is linked to it. -/
structure WrittenFor (proc : ProcessInstance) (row : ScheduledTask) : Prop where
  subject : proc.subjectType = .scheduledTask
  row : row.scheduledTaskId = proc.subjectId ∧ row.tenantId = proc.tenantId ∨
    row.processInstanceId = some proc.processInstanceId ∧ proc.subjectId = 0

/-- Two versions of one row. -/
structure SameTask (old row : ScheduledTask) : Prop where
  key : old.scheduledTaskId = row.scheduledTaskId
  tenant : old.tenantId = row.tenantId
  linked : old.processInstanceId = row.processInstanceId

theorem SameTask.refl (row : ScheduledTask) : SameTask row row := ⟨rfl, rfl, rfl⟩

theorem SameTask.symm {old row : ScheduledTask} (same : SameTask old row) : SameTask row old :=
  ⟨same.key.symm, same.tenant.symm, same.linked.symm⟩

theorem SameTask.trans {a b c : ScheduledTask} (first : SameTask a b) (second : SameTask b c) :
    SameTask a c :=
  ⟨first.key.trans second.key, first.tenant.trans second.tenant,
    first.linked.trans second.linked⟩

theorem WrittenFor.same {proc : ProcessInstance} {old row : ScheduledTask}
    (same : SameTask old row) (written : WrittenFor proc old) : WrittenFor proc row := by
  obtain ⟨subject, which⟩ := written
  rw [same.key, same.tenant, same.linked] at which
  exact ⟨subject, which⟩

theorem WrittenFor.runsFor {db : Database} {writer proc : ProcessInstance} {row : ScheduledTask}
    (written : WrittenFor writer row) (runs : RunsFor proc row)
    (writerMember : writer ∈ db.processInstances.rows)
    (member : proc ∈ db.processInstances.rows) (rowMember : row ∈ db.scheduledTasks.rows) :
    row.scheduledTaskId = writer.subjectId ∧ row.tenantId = writer.tenantId := by
  rcases written.row with ids | ⟨linked, none⟩
  · exact ids
  · have isWriter : proc = writer := Table.eq_of_key_eq member writerMember
      (Option.some.inj (runs.linked.symm.trans linked))
    have positive : 0 < row.scheduledTaskId := (db.scheduledTasks.bounded row rowMember).1
    rw [runs.id, isWriter, none] at positive
    exact absurd positive (Nat.lt_irrefl 0)

/-! ## Writes -/

/-- Only the rows listed by `turns` turn completed. -/
def RowsFollow (turns : ScheduledTask → Prop) (before after : Database) : Prop :=
  ∀ row ∈ after.scheduledTasks.rows, ∃ old ∈ before.scheduledTasks.rows, SameTask old row ∧
    (row.status = .completed → old.status = .completed ∨ turns row)

/-- A write after which the rows listed by `turns` may be completed that were not. -/
structure Follows (turns : ScheduledTask → Prop) (before after : Database) : Prop where
  rows : RowsFollow turns before after
  steps : ∀ step ∈ after.steps.rows,
    (∀ proc ∈ before.processInstances.rows,
      proc.processInstanceId ≠ step.processInstanceId) ∨
    ∃ old ∈ before.steps.rows, old.stepInstanceId = step.stepInstanceId ∧
      old.processInstanceId = step.processInstanceId ∧
      (old.status = .completed → step.status = .completed)
  procs : ∀ proc ∈ after.processInstances.rows,
    (∀ other ∈ before.processInstances.rows,
      other.processInstanceId ≠ proc.processInstanceId) ∨
    ∃ old ∈ before.processInstances.rows, old.processInstanceId = proc.processInstanceId ∧
      old.subjectType = proc.subjectType ∧ old.subjectId = proc.subjectId ∧
      old.tenantId = proc.tenantId
  kept : ∀ proc ∈ before.processInstances.rows, ∃ row ∈ after.processInstances.rows,
    row.processInstanceId = proc.processInstanceId

theorem RowsFollow.of_eq {turns : ScheduledTask → Prop} {before after : Database}
    (rows : after.scheduledTasks = before.scheduledTasks) : RowsFollow turns before after := by
  intro row member
  rw [rows] at member
  exact ⟨row, member, .refl row, .inl⟩

namespace Follows

variable {turns : ScheduledTask → Prop} {before middle after : Database}

/-- A write of rows alone. -/
theorem of_rows (rows : RowsFollow turns before after) (steps : after.steps = before.steps)
    (instances : after.processInstances = before.processInstances) :
    Follows turns before after := by
  refine ⟨rows, fun step member => .inr ⟨step, steps ▸ member, rfl, rfl, id⟩,
    fun proc member => .inr ⟨proc, instances ▸ member, rfl, rfl, rfl, rfl⟩,
    fun proc member => ⟨proc, instances ▸ member, rfl⟩⟩

theorem refl (db : Database) : Follows turns db db := of_rows (.of_eq rfl) rfl rfl

theorem mono {turns' : ScheduledTask → Prop} (weaker : ∀ row, turns row → turns' row)
    (follows : Follows turns before after) : Follows turns' before after := by
  refine ⟨fun row member => ?_, follows.steps, follows.procs, follows.kept⟩
  obtain ⟨old, oldMember, same, completed⟩ := follows.rows row member
  exact ⟨old, oldMember, same, fun done => (completed done).imp_right (weaker row)⟩

theorem trans (congr : ∀ old row, SameTask old row → turns old → turns row)
    (first : Follows turns before middle) (second : Follows turns middle after) :
    Follows turns before after := by
  refine ⟨fun row member => ?_, fun step member => ?_, fun proc member => ?_,
    fun proc member => ?_⟩
  · obtain ⟨mid, midMember, same, completed⟩ := second.rows row member
    obtain ⟨old, oldMember, same', completed'⟩ := first.rows mid midMember
    refine ⟨old, oldMember, same'.trans same, fun done => ?_⟩
    rcases completed done with midDone | turned
    · exact (completed' midDone).imp_right (congr mid row same)
    · exact .inr turned
  · rcases second.steps step member with new | ⟨mid, midMember, key, process, completed⟩
    · refine .inl fun proc procMember same => ?_
      obtain ⟨row, rowMember, key⟩ := first.kept proc procMember
      exact new row rowMember (key.trans same)
    · rcases first.steps mid midMember with new | ⟨old, oldMember, key', process', completed'⟩
      · exact .inl fun proc procMember => process ▸ new proc procMember
      · exact .inr ⟨old, oldMember, key'.trans key, process'.trans process,
          fun done => completed (completed' done)⟩
  · rcases second.procs proc member with new | ⟨mid, midMember, key, type, id, tenant⟩
    · refine .inl fun other otherMember same => ?_
      obtain ⟨row, rowMember, key⟩ := first.kept other otherMember
      exact new row rowMember (key.trans same)
    · rcases first.procs mid midMember with new | ⟨old, oldMember, key', type', id', tenant'⟩
      · exact .inl fun other otherMember => key ▸ new other otherMember
      · exact .inr ⟨old, oldMember, key'.trans key, type'.trans type, id'.trans id,
          tenant'.trans tenant⟩
  · obtain ⟨mid, midMember, key⟩ := first.kept proc member
    obtain ⟨row, rowMember, key'⟩ := second.kept mid midMember
    exact ⟨row, rowMember, key'.trans key⟩

theorem behind (follows : Follows turns before after) (behind : Behind before)
    (turned : ∀ proc ∈ before.processInstances.rows, ∀ old ∈ before.scheduledTasks.rows,
      RunsFor proc old → ∀ row ∈ after.scheduledTasks.rows, SameTask old row →
        row.status = .completed → turns row → AllCompleted after proc.processInstanceId) :
    Behind after := by
  constructor
  · intro proc member row rowMember runs completed
    obtain ⟨old, oldMember, same, done⟩ := follows.rows row rowMember
    obtain ⟨host, hostMember, hostKey⟩ :=
      behind.linked old oldMember _ (same.linked.trans runs.linked)
    rcases follows.procs proc member with new | ⟨oldProc, procMember, key, type, id, tenant⟩
    · exact absurd hostKey (new host hostMember)
    have oldRuns : RunsFor oldProc old :=
      ⟨type.trans runs.subject, same.key.trans (runs.id.trans id.symm),
        same.tenant.trans (runs.tenant.trans tenant.symm),
        same.linked.trans (runs.linked.trans (congrArg some key.symm))⟩
    rw [← key]
    rcases done completed with oldDone | turns
    · have all := behind.notAhead oldProc procMember old oldMember oldRuns oldDone
      intro step stepMember ofProcess
      rcases follows.steps step stepMember with new | ⟨oldStep, oldStepMember, _, process, keeps⟩
      · exact absurd ofProcess.symm (new oldProc procMember)
      · exact keeps (all oldStep oldStepMember (process.trans ofProcess))
    · exact turned oldProc procMember old oldMember oldRuns row rowMember same completed turns
  · intro row rowMember processInstanceId linked
    obtain ⟨old, oldMember, same, _⟩ := follows.rows row rowMember
    obtain ⟨proc, procMember, key⟩ :=
      behind.linked old oldMember _ (same.linked.trans linked)
    obtain ⟨proc', procMember', key'⟩ := follows.kept proc procMember
    exact ⟨proc', procMember', key'.trans key⟩

end Follows

/-- A write that turns no row completed. -/
abbrev Keeps : Database → Database → Prop := Follows fun _ => False

theorem Keeps.behind {before after : Database} (keeps : Keeps before after)
    (behind : Behind before) : Behind after :=
  Follows.behind keeps behind fun _ _ _ _ _ _ _ _ _ never => never.elim

theorem Keeps.trans {before middle after : Database} (first : Keeps before middle)
    (second : Keeps middle after) : Keeps before after :=
  Follows.trans (fun _ _ _ never => never) first second

theorem Keeps.turns {turns : ScheduledTask → Prop} {before after : Database}
    (keeps : Keeps before after) : Follows turns before after :=
  Follows.mono (fun _ never => never.elim) keeps

/-! ## Reports -/

/-- No row of the process's subject is completed. -/
def NoneCompleted (proc : ProcessInstance) (db : Database) : Prop :=
  ∀ row ∈ db.scheduledTasks.rows, row.scheduledTaskId = proc.subjectId →
    row.tenantId = proc.tenantId → row.status ≠ .completed

theorem Keeps.noneCompleted {proc : ProcessInstance} {before after : Database}
    (keeps : Keeps before after) (none : NoneCompleted proc before) :
    NoneCompleted proc after := by
  intro row member id tenant completed
  obtain ⟨old, oldMember, same, done⟩ := keeps.rows row member
  exact none old oldMember (same.key.trans id) (same.tenant.trans tenant)
    ((done completed).resolve_right fun never => never)

theorem mapEngineState_completed {state : StepStatus}
    (completed : mapEngineStateToScheduledTaskStatus state = .completed) : state = .completed := by
  cases state <;> cases completed
  rfl

namespace ToldHost

variable {proc : ProcessInstance} {stepInstanceId : Nat} {state : StepStatus}
  {before after : World}

theorem scheduledTasks_kept (told : ToldHost proc stepInstanceId state before after)
    (subject : proc.subjectType ≠ .scheduledTask) :
    after.db.scheduledTasks = before.db.scheduledTasks := by
  by_cases project : proc.subjectType = .project
  · cases told.project project with
    | kept silent => exact silent.scheduledTasks
    | moved _ _ _ _ _ _ scheduledTasks => exact scheduledTasks
  · rw [told.others project subject]
    rfl

/-- The rows after a report. -/
theorem mem_scheduledTasks (told : ToldHost proc stepInstanceId state before after)
    (subject : proc.subjectType = .scheduledTask) {row : ScheduledTask}
    (member : row ∈ after.db.scheduledTasks.rows) :
    ∃ old ∈ before.db.scheduledTasks.rows, SameTask old row ∧
      if old.scheduledTaskId = proc.subjectId ∧ old.tenantId = proc.tenantId then
        row.status = mapEngineStateToScheduledTaskStatus state
      else row = old := by
  obtain ⟨updatedBy, eq⟩ := told.scheduledTask subject
  rw [eq] at member
  obtain ⟨old, oldMember, rfl⟩ := List.mem_map.mp member
  refine ⟨old, oldMember, ?_⟩
  by_cases isRow : old.scheduledTaskId = proc.subjectId ∧ old.tenantId = proc.tenantId
  · rw [if_pos isRow, if_pos (by simpa using isRow)]
    exact ⟨⟨rfl, rfl, rfl⟩, rfl⟩
  · rw [if_neg isRow, if_neg (by simpa using isRow)]
    exact ⟨.refl old, rfl⟩

/-- Only a report of a completed step turns a row completed. -/
theorem rowsFollow (told : ToldHost proc stepInstanceId state before after) :
    RowsFollow (fun row => state = .completed ∧ WrittenFor proc row) before.db after.db := by
  by_cases subject : proc.subjectType = .scheduledTask
  · intro row member
    obtain ⟨old, oldMember, same, written⟩ := told.mem_scheduledTasks subject member
    refine ⟨old, oldMember, same, fun completed => ?_⟩
    split at written
    · rename_i isRow
      rw [written] at completed
      rw [same.key, same.tenant] at isRow
      exact .inr ⟨mapEngineState_completed completed, subject, .inl isRow⟩
    · exact .inl (written ▸ completed)
  · exact .of_eq (told.scheduledTasks_kept subject)

/-- A report of another state leaves no row of the subject completed. -/
theorem noneCompleted (told : ToldHost proc stepInstanceId state before after)
    (subject : proc.subjectType = .scheduledTask) (open' : state ≠ .completed) :
    NoneCompleted proc after.db := by
  intro row member id tenant completed
  obtain ⟨old, _, same, written⟩ := told.mem_scheduledTasks subject member
  rw [if_pos ⟨same.key.trans id, same.tenant.trans tenant⟩] at written
  rw [written] at completed
  exact open' (mapEngineState_completed completed)

end ToldHost

/-- A completed process turns the row of its subject completed. -/
theorem ToldCompletion.rowsFollow {proc : ProcessInstance} {before after : World}
    (told : ToldCompletion proc before after) :
    RowsFollow (WrittenFor proc) before.db after.db := by
  obtain ⟨adapter, opts, registered, rfl⟩ := told
  refine Program.wp_end (fun w' : World => RowsFollow (WrittenFor proc) before.db w'.db) ?_
  have kept : ∀ {w' : World}, w'.db.scheduledTasks = before.db.scheduledTasks →
      RowsFollow (WrittenFor proc) before.db w'.db := fun same => .of_eq same
  unfold ProcessHostAdapter.onProcessCompleted
  rw [Program.wp_bind, wp_callHost]
  cases adapter with
  | project =>
      unfold ProjectHost.onProcessCompleted
      rw [Program.wp_bind, Program.wp_read]
      split
      · exact kept rfl
      · rw [Program.wp_ite]
        exact ⟨fun _ => kept rfl, fun _ => kept rfl⟩
  | configurableInstance => exact kept rfl
  | genericWorkflow => exact kept rfl
  | scheduledTask =>
      have subject : proc.subjectType = .scheduledTask := by
        cases isType : proc.subjectType <;> rw [isType] at registered <;>
          simp [ProcessHostRegistry.lookup] at registered ⊢
      unfold ScheduledTaskHost.onProcessCompleted
      rw [Program.wp_bind, Program.wp_read]
      split
      · exact kept rfl
      rename_i scheduledTaskId resolved
      rw [Program.wp_ite]
      refine ⟨fun _ => kept rfl, fun nonzero => ?_⟩
      intro row member
      obtain ⟨old, oldMember, rfl⟩ := List.mem_map.mp member
      refine ⟨old, oldMember, ?_⟩
      by_cases isRow : old.scheduledTaskId = scheduledTaskId ∧ old.tenantId = proc.tenantId
      · rw [if_pos (by simpa [buildProcessHostContext] using isRow)]
        refine ⟨⟨rfl, rfl, rfl⟩, fun _ => .inr ⟨subject, ?_⟩⟩
        unfold ScheduledTaskHost.resolveScheduledTaskId at resolved
        split at resolved
        · exact .inl ⟨isRow.1.trans (Option.some.inj resolved).symm, isRow.2⟩
        · rename_i unnamed
          obtain ⟨found, isFound, rfl⟩ := Option.map_eq_some_iff.mp resolved
          have isOld : found = old := Table.eq_of_key_eq (List.mem_of_find?_eq_some isFound)
            oldMember isRow.1.symm
          have selected := List.find?_some isFound
          simp only [Bool.and_eq_true, beq_iff_eq] at selected
          refine .inr ⟨isOld ▸ selected.1, ?_⟩
          have none : ¬ 0 < proc.subjectId := fun positive => unnamed ⟨subject, positive⟩
          omega
      · rw [if_neg (by simpa [buildProcessHostContext] using isRow)]
        exact ⟨.refl old, .inl⟩

/-! ## The writes of the orchestrator -/

/-- A step is written that was not completed, or is completed now. -/
theorem Follows.setStep {turns : ScheduledTask → Prop} {db : Database} {step : StepInstance}
    {state : StepStatus} {set : StepInstance → StepInstance} (sets : SetsStatus state set)
    (forward : state = .completed ∨ ∀ row ∈ db.steps.rows,
      row.stepInstanceId = step.stepInstanceId → row.status ≠ .completed) :
    Follows turns db (db.setStep step.stepInstanceId set sets.key) := by
  refine ⟨.of_eq rfl, fun row member => .inr ?_,
    fun proc member => .inr ⟨proc, member, rfl, rfl, rfl, rfl⟩,
    fun proc member => ⟨proc, member, rfl⟩⟩
  rcases (mem_setStep sets.key).mp member with ⟨old, oldMember, same, rfl⟩ | ⟨untouched, _⟩
  · refine ⟨old, oldMember, (sets.key old).symm, (sets.process old).symm, fun completed => ?_⟩
    rcases forward with isCompleted | unfinished
    · exact (sets.status old).trans isCompleted
    · exact absurd completed (unfinished old oldMember same)
  · exact ⟨row, untouched, rfl, rfl, id⟩

/-- A process is written under the same subject. -/
theorem Follows.setInstance {turns : ScheduledTask → Prop} {db : Database}
    (processInstanceId : Nat) (set : ProcessInstance → ProcessInstance)
    (keeps : ∀ row, (set row).processInstanceId = row.processInstanceId)
    (type : ∀ row, (set row).subjectType = row.subjectType)
    (id : ∀ row, (set row).subjectId = row.subjectId)
    (tenant : ∀ row, (set row).tenantId = row.tenantId) :
    Follows turns db (db.setInstance processInstanceId set keeps) := by
  refine ⟨.of_eq rfl, fun row member => .inr ⟨row, member, rfl, rfl, fun done => done⟩,
    fun proc member => .inr ?_, fun proc member => ?_⟩
  · rcases (mem_setInstance keeps).mp member with ⟨old, oldMember, _, rfl⟩ | ⟨untouched, _⟩
    · exact ⟨old, oldMember, (keeps old).symm, (type old).symm, (id old).symm,
        (tenant old).symm⟩
    · exact ⟨proc, untouched, rfl, rfl, rfl, rfl⟩
  · by_cases same : proc.processInstanceId = processInstanceId
    · exact ⟨set proc, (mem_setInstance keeps).mpr (.inl ⟨proc, member, same, rfl⟩), keeps proc⟩
    · exact ⟨proc, (mem_setInstance keeps).mpr (.inr ⟨member, same⟩), rfl⟩

theorem Follows.completeInstance {turns : ScheduledTask → Prop} {db : Database}
    (processInstanceId : Nat) (time : String) :
    Follows turns db (db.setInstance processInstanceId (completedInstance time)
      (completedInstance_key time)) := by
  refine .setInstance processInstanceId _ _ ?_ ?_ ?_ <;> intro row <;>
    unfold completedInstance <;> split <;> rfl

end CoreApi.Automation
