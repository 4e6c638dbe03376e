import CoreApi.Automation.CallWrites
import CoreApi.Automation.CompletionCheck
import CoreApi.Automation.InstalledTemplates
import CoreApi.Automation.ProjectStart
import CoreApi.Automation.ScheduledStatus

/-!
# A scheduled task and its process

The row of a scheduled task turns completed with every step its process completes.
It is a report of the next step that takes this back: where the next step is not
unlocked at once, the row stays ahead of its process.
-/

namespace CoreApi.Automation

open CoreApi.Foundation StepOrchestrator ChildProcessOrchestration

variable {deployment : Deployment}

/-! ## Edits -/

/-- A written and reported state. -/
theorem Changed.follows {before after : World} {step : StepInstance} {state : StepStatus}
    {proc : ProcessInstance} (changed : Changed step state before after)
    (found : before.db.instance? step.processInstanceId = some proc)
    (forward : state = .completed ∨ ∀ row ∈ before.db.steps.rows,
      row.stepInstanceId = step.stepInstanceId → row.status ≠ .completed) :
    Follows (fun row => state = .completed ∧ WrittenFor proc row) before.db after.db := by
  obtain ⟨set, sets, told, host, report, rest, kept⟩ := changed
  have congr : ∀ old row, SameTask old row → state = .completed ∧ WrittenFor proc old →
      state = .completed ∧ WrittenFor proc row := fun _ _ same ⟨isCompleted, written⟩ =>
    ⟨isCompleted, written.same same⟩
  have reported : Follows (fun row => state = .completed ∧ WrittenFor proc row)
      (before.db.setStep step.stepInstanceId set sets.key) told.db := by
    obtain ⟨_, _, _, _, tables⟩ := host.tables
    exact .of_rows (report.told found).rowsFollow (by rw [tables]) (by rw [tables])
  have last : Follows (fun row => state = .completed ∧ WrittenFor proc row) told.db after.db := by
    obtain ⟨_, _, _, _, tables⟩ := rest.tables
    exact .of_rows (.of_eq kept.scheduledTasks) (by rw [tables]) (by rw [tables])
  exact ((Follows.setStep sets forward).trans congr reported).trans congr last

/-- A written and reported state that turns no row. -/
theorem Changed.keeps {before after : World} {step : StepInstance} {state : StepStatus}
    {proc : ProcessInstance} (changed : Changed step state before after)
    (found : before.db.instance? step.processInstanceId = some proc) (open' : state ≠ .completed)
    (member : step ∈ before.db.steps.rows) (unfinished : step.status ≠ .completed) :
    Keeps before.db after.db := by
  refine (changed.follows found (.inr fun row rowMember key => ?_)).mono
    fun _ turns => open' turns.1
  rw [Table.eq_of_key_eq rowMember member key]
  exact unfinished

/-- A start that reaches no host. -/
theorem Started.keeps {params : StartProcessParams} {row : ProcessInstance}
    {before after : World} (start : Started params row before after)
    (silent : HostsKept before after) : Keeps before.db after.db := by
  refine ⟨.of_eq silent.scheduledTasks, fun step member => ?_, fun proc member => ?_,
    fun proc member => ⟨proc, start.instance_kept member, rfl⟩⟩
  · rw [start.steps] at member
    rcases List.mem_append.mp member with old | new
    · exact .inr ⟨step, old, rfl, rfl, id⟩
    · refine .inl fun proc procMember => ?_
      rw [ProcessInstantiation.addedSteps_process new]
      exact start.key_ne procMember
  · rw [start.instances] at member
    rcases List.mem_append.mp member with old | new
    · exact .inr ⟨proc, old, rfl, rfl, rfl, rfl⟩
    · rw [List.mem_singleton.mp new]
      exact .inl fun other otherMember => start.key_ne otherMember

section Edits

variable {origin before after : World} {process target : Nat}

theorem Linked.instance_of_step {db : Database} (linked : Linked db) {step : StepInstance}
    (member : step ∈ db.steps.rows) : ∃ proc, db.instance? step.processInstanceId = some proc := by
  obtain ⟨proc, procMember, ofProcess⟩ := linked.stepProcess step member
  exact ⟨proc, Table.find?_eq_some.mpr ⟨procMember, ofProcess⟩⟩

/-- Edits turn no row completed. -/
theorem Edit.keeps (edit : Edit deployment origin process target before after)
    (linked : Linked before.db) : Keeps before.db after.db := by
  have pendingStep : ∀ {step : StepInstance}, step.status = .pending →
      step.status ≠ .completed := fun pending => by simp [pending]
  cases edit with
  | hosted host silent =>
      obtain ⟨_, _, _, _, tables⟩ := host.tables
      exact .of_rows (.of_eq silent.scheduledTasks) (by rw [tables]) (by rw [tables])
  | evaluated => exact .of_rows (.of_eq rfl) rfl rfl
  | provisioned _ _ _ _ _ _ _ _ writes =>
      obtain ⟨_, _, _, _, _, _, _, rfl⟩ := writes
      exact .of_rows (.of_eq rfl) rfl rfl
  | readied step set sets member _ pending _ host report =>
      obtain ⟨proc, found⟩ := linked.instance_of_step member
      have changed : Changed step .ready before after :=
        ⟨set, sets, after, host, report, .refl after, .refl after⟩
      exact changed.keeps found (by simp) member (pendingStep pending)
  | blocked step set sets member _ pending =>
      refine .setStep sets (.inr fun row rowMember key => ?_)
      rw [Table.eq_of_key_eq rowMember member key]
      exact pendingStep pending
  | spawned step set sets _ _ _ member _ pending _ _ _ start _ silent =>
      refine (start.keeps silent).trans (.setStep sets (.inr fun row rowMember key => ?_))
      rw [Table.eq_of_key_eq rowMember (start.step_kept member) key]
      exact pendingStep pending

theorem Edits.keeps (edits : Edits deployment origin process target before after)
    (linked : Linked before.db) : Keeps before.db after.db := by
  suffices all : Keeps before.db after.db ∧ Linked after.db from all.1
  induction edits with
  | refl => exact ⟨.refl _, linked⟩
  | tail _ edit ih =>
      obtain ⟨keeps, linked⟩ := ih
      exact ⟨keeps.trans (edit.keeps linked), linked.edit edit⟩

theorem Edit.queues {proc : ProcessInstance} {old row : StepInstance}
    (edit : Edit deployment origin process target before after)
    (found : before.db.instance? process = some proc)
    (subject : proc.subjectType = .scheduledTask) (member : old ∈ before.db.steps.rows)
    (pending : old.status = .pending) (rowMember : row ∈ after.db.steps.rows)
    (key : row.stepInstanceId = old.stepInstanceId) (ready : row.status = .ready) :
    NoneCompleted proc after.db := by
  have unchanged : row ∉ before.db.steps.rows := by
    intro known
    rw [Table.eq_of_key_eq known member key, pending] at ready
    cases ready
  have notBlocked : ∀ {db : Database} {step : StepInstance} {set : StepInstance → StepInstance}
      (sets : SetsStatus .blocked set),
      row ∈ (db.setStep step.stepInstanceId set sets.key).steps.rows → row ∈ db.steps.rows := by
    intro db step set sets written
    rcases (mem_setStep sets.key).mp written with ⟨other, _, _, rfl⟩ | ⟨untouched, _⟩
    · rw [sets.status] at ready
      cases ready
    · exact untouched
  cases edit with
  | hosted host =>
      obtain ⟨_, _, _, _, tables⟩ := host.tables
      rw [tables] at rowMember
      exact absurd rowMember unchanged
  | evaluated => exact absurd rowMember unchanged
  | provisioned _ _ _ _ _ _ _ _ writes =>
      obtain ⟨_, _, _, _, _, _, _, rfl⟩ := writes
      exact absurd rowMember unchanged
  | readied step set sets _ ofProcess _ _ host report =>
      exact (report.told (ofProcess ▸ found)).noneCompleted subject (by simp)
  | blocked _ _ sets => exact absurd (notBlocked sets rowMember) unchanged
  | spawned _ _ sets _ _ _ _ _ _ _ _ _ start =>
      have started := notBlocked sets rowMember
      rw [start.steps] at started
      rcases List.mem_append.mp started with known | added
      · exact absurd known unchanged
      · exact absurd key (start.added_ne ⟨old, member, rfl⟩ row added)

theorem Edits.queues {proc : ProcessInstance} {old row : StepInstance}
    (edits : Edits deployment origin process target before after) (linked : Linked before.db)
    (found : before.db.instance? process = some proc)
    (subject : proc.subjectType = .scheduledTask) (member : old ∈ before.db.steps.rows)
    (pending : old.status = .pending) (rowMember : row ∈ after.db.steps.rows)
    (key : row.stepInstanceId = old.stepInstanceId) (ready : row.status = .ready) :
    NoneCompleted proc after.db := by
  induction edits generalizing row with
  | refl =>
      rw [Table.eq_of_key_eq rowMember member key, pending] at ready
      cases ready
  | @tail middle after earlier edit ih =>
      have found' : middle.db.instance? process = some proc := by
        obtain ⟨procMember, procKey⟩ := Table.find?_eq_some.mp found
        exact Table.find?_eq_some.mpr ⟨Edits.instance_kept earlier procMember, procKey⟩
      rcases Edits.image earlier member with kept | ⟨moved, movedMember, isMoved⟩
      · exact edit.queues found' subject kept pending rowMember key ready
      · have same : moved.stepInstanceId = old.stepInstanceId := isMoved.same.key
        rcases edit.image movedMember with kept | ⟨_, _, again⟩
        · rw [Table.eq_of_key_eq rowMember kept (key.trans same.symm)] at ready
          exact (edit.keeps (linked.edits earlier)).noneCompleted
            (ih movedMember same ready)
        · have outcome := isMoved.status
          simp [again.pending] at outcome

end Edits

/-! ## Completed steps -/

theorem WrittenFor.congr (proc : ProcessInstance) (old row : ScheduledTask)
    (same : SameTask old row) (written : WrittenFor proc old) : WrittenFor proc row :=
  written.same same

/-- A completed step turns the rows of the subject of its process. -/
theorem StepCompleted.follows {before after : World} {step : StepInstance}
    {proc : ProcessInstance} (completes : StepCompleted step before after)
    (found : before.db.instance? step.processInstanceId = some proc)
    (member : step ∈ before.db.steps.rows) :
    Follows (WrittenFor proc) before.db after.db := by
  rcases completes.reports with completed | ⟨ready, middle, started, completed⟩
  · exact (completed.follows found (.inl rfl)).mono fun _ turns => turns.2
  · have found' : middle.db.instance? step.processInstanceId = some proc := by
      obtain ⟨_, _, _, host, _, rest, _⟩ := id started
      obtain ⟨_, _, _, _, tables⟩ := host.tables.trans rest.tables
      rw [tables]
      exact found
    have first := started.keeps found (by simp) member (by simp [ready])
    exact first.turns.trans (WrittenFor.congr proc)
      ((completed.follows found' (.inl rfl)).mono fun _ turns => turns.2)

/-- Settling a process turns the rows of its subject. -/
theorem Settlement.follows {process : Nat} {result : Option Nat} {before after : World}
    {proc : ProcessInstance} (settlement : Settlement deployment process before result after)
    (found : before.db.instance? process = some proc) :
    Follows (WrittenFor proc) before.db after.db := by
  cases settlement with
  | idle => exact .refl _
  | child => exact .completeInstance process before.now
  | announced other _ _ isOther _ announced =>
      rw [found] at isOther
      cases isOther
      obtain ⟨told, completion, kept⟩ := announced.report
      obtain ⟨_, _, _, _, tables⟩ := announced.tables
      refine (Follows.completeInstance proc.processInstanceId before.now).trans
        (WrittenFor.congr proc) (.of_rows (fun row member => ?_) (by rw [tables]) (by rw [tables]))
      rw [kept.scheduledTasks] at member
      exact completion.rowsFollow row member

/-- Nothing is settled while a step of the process is not completed. -/
theorem Settlement.idle_of_open {process : Nat} {result : Option Nat} {before after : World}
    (settlement : Settlement deployment process before result after) {step : StepInstance}
    (member : step ∈ before.db.steps.rows) (ofProcess : step.processInstanceId = process)
    (unfinished : step.status ≠ .completed) : after = before := by
  have notAll : ProcessCompletion.areAllStepsCompleted before.db process ≠ true := fun allDone =>
    unfinished ((areAllStepsCompleted_iff.mp allDone).2 step
      (Table.mem_select.mpr ⟨member, by simpa using ofProcess⟩))
  cases settlement with
  | idle => rfl
  | child _ allDone => exact absurd allDone notAll
  | announced _ allDone => exact absurd allDone notAll

/-- Every step of the process is completed, but for the one given. -/
def AllOthersCompleted (db : Database) (processInstanceId stepInstanceId : Nat) : Prop :=
  ∀ other ∈ db.steps.rows, other.processInstanceId = processInstanceId →
    other.stepInstanceId ≠ stepInstanceId → other.status = .completed

instance (db : Database) (processInstanceId stepInstanceId : Nat) :
    Decidable (AllOthersCompleted db processInstanceId stepInstanceId) :=
  inferInstanceAs (Decidable (∀ other ∈ db.steps.rows, _ → _ → _))

/-- Whoever runs for the subject of the step's process has completed all its steps,
but for this one. -/
def OthersCompleted (w : World) (step : StepInstance) : Prop :=
  ∀ writer ∈ w.db.instance? step.processInstanceId, writer.subjectType = .scheduledTask →
    ∀ proc ∈ w.db.processInstances.rows, ∀ row ∈ w.db.scheduledTasks.rows, RunsFor proc row →
      row.scheduledTaskId = writer.subjectId → row.tenantId = writer.tenantId →
        AllOthersCompleted w.db proc.processInstanceId step.stepInstanceId

/-- A step right behind the step is made ready when the step completes. -/
def Requeues (deployment : Deployment) (w : World) (step : StepInstance) : Prop :=
  ∃ next ∈ nextSteps w.db step.processInstanceId step.stepOrder,
    Eligible deployment w next ∧ ¬ Spawns deployment w next

instance (w : World) (step : StepInstance) : Decidable (OthersCompleted w step) :=
  inferInstanceAs (Decidable (∀ writer ∈ w.db.instance? step.processInstanceId, _ →
    ∀ proc ∈ w.db.processInstances.rows, ∀ row ∈ w.db.scheduledTasks.rows, _ → _ → _ → _))

instance (w : World) (step : StepInstance) : Decidable (Requeues deployment w step) :=
  inferInstanceAs (Decidable (∃ next ∈ nextSteps w.db step.processInstanceId step.stepOrder, _))

/-- The step behind a completed one, unlocked where it is eligible and spawns nothing,
leaves no row of the subject completed. -/
theorem Settles.requeues {origin completed after : World} {process target : Nat}
    {result : Option Nat} {proc : ProcessInstance} {row next : StepInstance}
    (settles : Settles deployment origin process target completed result after)
    (linked : Linked completed.db) (found : completed.db.instance? process = some proc)
    (subject : proc.subjectType = .scheduledTask) (rowMember : row ∈ completed.db.steps.rows)
    (isTarget : row.stepInstanceId = target) (ofProcess : row.processInstanceId = process)
    (done : row.status = .completed) (selected : next ∈ nextSteps completed.db process row.stepOrder)
    (eligible : Eligible deployment completed next) (stays : ¬ Spawns deployment completed next) :
    NoneCompleted proc after.db := by
  obtain ⟨middle, edits, settlement, unlocked⟩ := settles
  obtain ⟨nextMember, nextProcess, order, pending⟩ := mem_nextSteps.mp selected
  have succeeds : Succeeds completed.db target next :=
    ⟨row, rowMember, isTarget, ofProcess.trans nextProcess.symm, done, order.symm⟩
  rcases edits.image nextMember with kept | ⟨moved, movedMember, isMoved⟩
  · exact absurd eligible (unlocked next kept nextProcess pending succeeds)
  · have ready : moved.status = .ready :=
      isMoved.status.resolve_right fun blocked => stays (isMoved.spawns blocked)
    have none := edits.queues linked found subject nextMember pending movedMember
      isMoved.same.key ready
    rw [settlement.idle_of_open movedMember (isMoved.same.process.trans nextProcess)
      (by simp [ready])]
    exact none

theorem WrittenFor.subjectOf {db : Database} {writer proc : ProcessInstance}
    {old row : ScheduledTask} (written : WrittenFor writer row) (same : SameTask old row)
    (runs : RunsFor proc old) (writerMember : writer ∈ db.processInstances.rows)
    (member : proc ∈ db.processInstances.rows) (oldMember : old ∈ db.scheduledTasks.rows) :
    old.scheduledTaskId = writer.subjectId ∧ old.tenantId = writer.tenantId :=
  (written.same same.symm).runsFor runs writerMember member oldMember

/-- A step is completed and its process settled: the row is requeued, or the step was
the last one of every process that runs for it. -/
theorem Behind.completes {origin before completed after : World} {step fresh : StepInstance}
    {result : Option Nat} (behind : Behind origin.db) (linked : Linked origin.db)
    (member : step ∈ origin.db.steps.rows) (unfinished : step.status ≠ .completed)
    (edits : Edits deployment origin step.processInstanceId step.stepInstanceId origin before)
    (freshMember : fresh ∈ before.db.steps.rows) (same : SameStep step fresh)
    (completes : StepCompleted fresh before completed)
    (settles : Settles deployment origin step.processInstanceId step.stepInstanceId completed
      result after)
    (stays : Requeues deployment origin step ∨ OthersCompleted origin step) :
    Behind after.db := by
  obtain ⟨writer, found⟩ := linked.instance_of_step member
  have writerMember := Table.mem_of_find? found
  have found₁ : before.db.instance? step.processInstanceId = some writer :=
    Table.find?_eq_some.mpr ⟨edits.instance_kept writerMember, Table.key_of_find? found⟩
  have found₂ : completed.db.instance? step.processInstanceId = some writer := by
    obtain ⟨_, _, _, _, _, _, tables⟩ := completes.tables
    rw [tables]
    exact found₁
  have linked₁ := linked.edits edits
  have linked₂ := linked₁.stepCompleted completes
  obtain ⟨row, rowMember, key, process, order, done⟩ := completes.row freshMember
  have toCompleted : Follows (WrittenFor writer) origin.db completed.db :=
    (edits.keeps linked).turns.trans (WrittenFor.congr writer)
      (completes.follows (same.process ▸ found₁) freshMember)
  have fromCompleted : Follows (WrittenFor writer) completed.db after.db := by
    obtain ⟨middle, edits', settlement, _⟩ := id settles
    have found₃ : middle.db.instance? step.processInstanceId = some writer :=
      Table.find?_eq_some.mpr
        ⟨edits'.instance_kept (Table.mem_of_find? found₂), Table.key_of_find? found₂⟩
    exact (edits'.keeps linked₂).turns.trans (WrittenFor.congr writer) (settlement.follows found₃)
  refine (toCompleted.trans (WrittenFor.congr writer) fromCompleted).behind behind ?_
  intro proc procMember old oldMember runs task taskMember sameTask isCompleted written
  obtain ⟨id, tenant⟩ := written.subjectOf sameTask runs writerMember procMember oldMember
  rcases stays with ⟨next, selected, eligible, notSpawns⟩ | others
  · -- The next step was reported after this one, and the row is not completed.
    obtain ⟨nextMember, nextProcess, nextOrder, pending⟩ := mem_nextSteps.mp selected
    have kept : next ∈ before.db.steps.rows := by
      rcases edits.image nextMember with kept | ⟨_, _, moved⟩
      · exact kept
      · rcases moved.reason with isTarget | ⟨pred, predMember, isTarget, _, predDone, _⟩
        · rw [Table.eq_of_key_eq nextMember member isTarget] at nextOrder
          omega
        · rw [Table.eq_of_key_eq predMember member isTarget] at predDone
          exact absurd predDone unfinished
    have selected' : next ∈ nextSteps completed.db step.processInstanceId row.stepOrder := by
      rw [order, completes.nextSteps freshMember]
      exact mem_nextSteps.mpr ⟨kept, nextProcess, same.order ▸ nextOrder, pending⟩
    have inputs := (edits.sameInputs ⟨next, nextMember, rfl⟩ nextProcess).trans
      (completes.sameInputs deployment next)
    have none := settles.requeues linked₂ found₂ written.subject rowMember
      (key.trans same.key) (process.trans same.process) done selected'
      (inputs.eligible.mpr eligible) fun spawns => notSpawns (inputs.spawns.mp spawns)
    exact absurd isCompleted (none task taskMember (sameTask.key.symm.trans id)
      (sameTask.tenant.symm.trans tenant))
  · have all := others writer found written.subject proc procMember old oldMember runs id tenant
    intro later laterMember ofProcess
    rcases fromCompleted.steps later laterMember with new | ⟨mid, midMember, midKey, midProcess,
      midKeeps⟩
    · obtain ⟨kept, keptMember, keptKey⟩ := toCompleted.kept proc procMember
      exact absurd (keptKey.trans ofProcess.symm) (new kept keptMember)
    · by_cases isStep : mid.stepInstanceId = step.stepInstanceId
      · rw [Table.eq_of_key_eq midMember rowMember (isStep.trans (key.trans same.key).symm)]
          at midKeeps
        exact midKeeps done
      · rcases toCompleted.steps mid midMember with new | ⟨first, firstMember, firstKey,
          firstProcess, firstKeeps⟩
        · exact absurd (ofProcess.symm.trans midProcess.symm) (new proc procMember)
        · exact midKeeps (firstKeeps (all first firstMember
            (firstProcess.trans (midProcess.trans ofProcess)) (firstKey ▸ isStep)))

/-! ## New processes -/

/-- A start links rows to the new process, none of them completed, and leaves the others. -/
theorem StartReported.scheduledTasks {params : StartProcessParams} {processInstanceId : Nat}
    {subjectType : SubjectType} {adapter : ProcessHostAdapter} {before after : World}
    (reported : StartReported deployment params processInstanceId subjectType adapter before
      after) :
    ∀ row ∈ after.db.scheduledTasks.rows, row ∈ before.db.scheduledTasks.rows ∨
      row.processInstanceId = some processInstanceId ∧ row.status ≠ .completed := by
  intro row member
  cases skip : params.skipHostOnStart with
  | true =>
      rw [(reported.skipped skip).scheduledTasks] at member
      exact .inl member
  | false =>
      obtain ⟨stored, told, first, run, last, _⟩ := reported.told skip
      rw [last.scheduledTasks] at member
      rw [← first.scheduledTasks]
      cases adapter with
      | project =>
          obtain ⟨_, _, started⟩ := Program.wp_ok (ProjectHost.onProcessStarted_added _ _) run
          rw [started.scheduledTasks] at member
          exact .inl member
      | scheduledTask =>
          cases run
          obtain ⟨old, oldMember, rfl⟩ := List.mem_map.mp member
          by_cases isRow : (old.scheduledTaskId == (ProcessLifecycle.hostContext params subjectType
              processInstanceId).subjectId && old.tenantId == (ProcessLifecycle.hostContext params
                subjectType processInstanceId).tenantId) = true
          · rw [if_pos isRow]
            exact .inr ⟨rfl, by simp⟩
          · rw [if_neg isRow]
            exact .inl oldMember
      | configurableInstance =>
          cases run
          exact .inl member
      | genericWorkflow =>
          have kept : Program.wp (ProcessHostAdapter.genericWorkflow.onProcessStarted
                (ProcessLifecycle.hostContext params subjectType processInstanceId))
              (fun _ w' => w'.db.scheduledTasks = stored.db.scheduledTasks)
              (fun _ _ => True) stored := by
            unfold ProcessHostAdapter.onProcessStarted
            rw [Program.wp_bind, wp_callHost, Program.wp_ite]
            exact ⟨fun _ => rfl, fun _ => rfl⟩
          rw [Program.wp_ok kept run] at member
          exact .inl member

theorem Behind.started {params : StartProcessParams} {row : ProcessInstance}
    {subjectType : SubjectType} {adapter : ProcessHostAdapter} {before after : World}
    (behind : Behind before.db) (start : Started params row before after)
    (reported : StartReported deployment params row.processInstanceId subjectType adapter before
      after) : Behind after.db := by
  have known : ∀ task ∈ before.db.scheduledTasks.rows,
      task.processInstanceId ≠ some row.processInstanceId := by
    intro task member linked
    obtain ⟨proc, procMember, key⟩ := behind.linked task member _ linked
    exact start.key_ne procMember key
  constructor
  · intro proc member task taskMember runs completed
    rcases reported.scheduledTasks task taskMember with old | ⟨_, open'⟩
    · have other : proc.processInstanceId ≠ row.processInstanceId := fun same =>
        known task old (runs.linked.trans (congrArg some same))
      rw [start.instances] at member
      rcases List.mem_append.mp member with procOld | new
      · intro step stepMember ofProcess
        rw [start.steps] at stepMember
        rcases List.mem_append.mp stepMember with stepOld | added
        · exact behind.notAhead proc procOld task old runs completed step stepOld ofProcess
        · exact absurd (ofProcess.symm.trans (ProcessInstantiation.addedSteps_process added)) other
      · exact absurd (congrArg ProcessInstance.processInstanceId (List.mem_singleton.mp new)) other
    · exact absurd completed open'
  · intro task taskMember processInstanceId linked
    rcases reported.scheduledTasks task taskMember with old | ⟨isNew, _⟩
    · obtain ⟨proc, procMember, key⟩ := behind.linked task old _ linked
      exact ⟨proc, start.instance_kept procMember, key⟩
    · refine ⟨row, ?_, Option.some.inj (isNew.symm.trans linked)⟩
      rw [start.instances]
      exact List.mem_append_right _ (List.mem_singleton_self row)

/-! ## Ended children -/

theorem Behind.canceled {db : Database} {parent : ProcessInstance} {step : StepInstance}
    {state : StepStatus} {set : StepInstance → StepInstance} (behind : Behind db)
    (sets : SetsStatus state set) (member : step ∈ db.steps.rows)
    (ofProcess : step.processInstanceId = parent.processInstanceId)
    (open' : ∀ proc ∈ db.processInstances.rows,
      proc.processInstanceId = parent.processInstanceId →
        ∀ row ∈ db.scheduledTasks.rows, RunsFor proc row → row.status ≠ .completed) :
    Behind (db.setStep step.stepInstanceId set sets.key) := by
  refine ⟨fun proc procMember row rowMember runs completed => ?_, behind.linked⟩
  have other : proc.processInstanceId ≠ parent.processInstanceId := fun same =>
    open' proc procMember same row rowMember runs completed
  intro later laterMember laterProcess
  rcases (mem_setStep sets.key).mp laterMember with ⟨old, oldMember, same, rfl⟩ | ⟨untouched, _⟩
  · have isStep : old = step := Table.eq_of_key_eq oldMember member same
    rw [sets.process, isStep] at laterProcess
    exact absurd (laterProcess.symm.trans ofProcess) other
  · exact behind.notAhead proc procMember row rowMember runs completed later untouched laterProcess

theorem Behind.parentTold {before after : World} {childProcessInstanceId : Nat}
    {child parent : ProcessInstance} {parentStepId : Nat} {terminalStatus : TerminalStatus}
    (behind : Behind before.db) (linked : Linked before.db)
    (link : childLink before.db childProcessInstanceId = some (child, parent, parentStepId))
    (open' : terminalOutcome terminalStatus parent.onChildFailure = .fail →
      ∀ row ∈ before.db.scheduledTasks.rows, RunsFor parent row → row.status ≠ .completed)
    (told : ParentTold before child parent parentStepId terminalStatus after) :
    Behind after.db := by
  obtain ⟨isChild, parentStep, names, isParent⟩ := childLink_eq_some link
  obtain ⟨step, stepMember, stepKey, _, _, _, _, _, stepProcess, _⟩ :=
    linked.caller child (Table.mem_of_find? isChild) parentStepId parentStep
  have ofParent : step.processInstanceId = parent.processInstanceId :=
    Option.some.inj (stepProcess.symm.trans names)
  have merged : ∀ context : Option Record, Keeps before.db (before.db.setInstance
      parent.processInstanceId (fun row => { row with context := context }) fun _ => rfl) :=
    fun context => .setInstance _ _ _ (fun _ => rfl) (fun _ => rfl) fun _ => rfl
  cases told with
  | paused context => exact (merged context).behind behind
  | resumed context =>
      have sets := setsStatus_completedByChild before.now
      refine ((merged context).trans ?_).behind behind
      rw [← stepKey]
      exact .setStep sets (.inl rfl)
  | failed context opts outcome =>
      have sets := setsStatus_canceledByChild before.now
      have ended : Keeps before.db ((before.db.setInstance parent.processInstanceId
          (fun row => { row with context := context }) (fun _ => rfl)).setInstance
            parent.processInstanceId (canceledInstance before.now) fun _ => rfl) :=
        (merged context).trans
          (.setInstance _ _ _ (fun _ => rfl) (fun _ => rfl) fun _ => rfl)
      have canceled := (ended.behind behind).canceled sets stepMember ofParent ?_
      · rw [stepKey] at canceled
        exact canceled
      intro proc procMember same row rowMember runs
      rcases ended.procs proc procMember with new | ⟨old, oldMember, key, type, id, tenant⟩
      · exact absurd same.symm (new parent (Table.mem_of_find? isParent))
      · have isOld : old = parent := Table.eq_of_key_eq oldMember (Table.mem_of_find? isParent)
          (key.trans same)
        subst isOld
        exact open' outcome row rowMember ⟨type.trans runs.subject, runs.id.trans id.symm,
          runs.tenant.trans tenant.symm, runs.linked.trans (congrArg some key.symm)⟩

/-! ## Calls that leave no row ahead -/

namespace Engine

/-- A completed step is followed by a report of the next one, or was the last one, unless
unlocking the next steps fails. -/
def StaysBehind (deployment : Deployment) (w : World) (step : StepInstance) : Prop :=
  NextFails deployment w step.processInstanceId step.stepOrder ∨
    Requeues deployment w step ∨ OthersCompleted w step

instance (w : World) (step : StepInstance) : Decidable (StaysBehind deployment w step) :=
  inferInstanceAs (Decidable (_ ∨ _ ∨ _))

/-- The call turns no row of a scheduled task completed ahead of its process. -/
def KeepsBehind (deployment : Deployment) (w : World) : Call → Prop
  | .attemptAdvance target _ => ∀ step ∈ w.db.step? target, Runs deployment w step →
      StaysBehind deployment w step
  | .markCompleted target _ => ∀ step ∈ w.db.step? target,
      isCompletable deployment w.db step = true → StaysBehind deployment w step
  | .resumeParent target _ => ∀ step ∈ w.db.step? target, step.status = .completed →
      ProcessCompletion.areAllStepsCompleted w.db step.processInstanceId = true →
        OthersCompleted w step
  | .handleChildTerminal childProcessInstanceId terminalStatus _ =>
      ∀ link ∈ childLink w.db childProcessInstanceId,
        terminalOutcome terminalStatus link.2.1.onChildFailure = .fail →
          ∀ row ∈ w.db.scheduledTasks.rows, RunsFor link.2.1 row → row.status ≠ .completed
  | _ => True

instance (w : World) : ∀ call, Decidable (KeepsBehind deployment w call)
  | .attemptAdvance target _ => inferInstanceAs (Decidable (∀ step ∈ w.db.step? target, _ → _))
  | .markCompleted target _ => inferInstanceAs (Decidable (∀ step ∈ w.db.step? target, _ → _))
  | .resumeParent target _ =>
      inferInstanceAs (Decidable (∀ step ∈ w.db.step? target, _ → _ → _))
  | .handleChildTerminal childProcessInstanceId _ _ =>
      inferInstanceAs (Decidable (∀ link ∈ childLink w.db childProcessInstanceId, _ →
        ∀ row ∈ w.db.scheduledTasks.rows, _ → _))
  | .startProcess _ | .validateByCustomInstanceId _ _ _ | .createSubmission _ _ _
  | .updateRequirement _ _ | .markProcessCompletedIfEligible _ | .approveSubmission _
  | .writeSubmission _ _ | .updateCustomObjectInstance _ _ _ _ | .listener _ _ =>
      inferInstanceAs (Decidable True)

section Calls

variable {w after : World}

private theorem advanced_behind {target : Nat} {result : Option Nat} (behind : Behind w.db)
    (linked : Linked w.db) (advanced : Advanced deployment w target result after)
    (sound : ∀ step, w.db.step? target = some step → isFinished step.status = false →
      ¬ AdvanceFails deployment w step)
    (opts : AdvanceOptions)
    (guard : KeepsBehind deployment w (.attemptAdvance target opts)) : Behind after.db := by
  cases advanced with
  | refused => exact behind
  | waiting _ _ _ _ edits => exact (edits.keeps linked).behind behind
  | unlocked _ _ _ _ edits => exact (edits.keeps linked).behind behind
  | ran step fresh found begun eligible edits member same automated ready completes settles =>
      have key : step.stepInstanceId = target := Table.key_of_find? found
      have runs : Runs deployment w step := ⟨same.task ▸ automated, begun, eligible⟩
      have open' : isFinished step.status = false ∧ step.status ≠ .completed := by
        rcases begun with pending | ready
        · simp [isFinished, pending]
        · simp [isFinished, ready]
      have stays := (guard step found runs).resolve_left fun fails =>
        sound step found open'.1 (.inr (.inr ⟨runs, fails⟩))
      rw [← key] at edits settles
      exact behind.completes linked (Table.mem_of_find? found) open'.2 edits member same completes
        settles stays

private theorem marked_behind {target : Nat} {result : Option Nat} (behind : Behind w.db)
    (linked : Linked w.db) (marked : Marked deployment w target result after)
    (sound : ∀ step, w.db.step? target = some step → isCompletable deployment w.db step = true →
      ¬ NextFails deployment w step.processInstanceId step.stepOrder)
    (opts : AdvanceOptions)
    (guard : KeepsBehind deployment w (.markCompleted target opts)) : Behind after.db := by
  cases marked with
  | refused => exact behind
  | marked step found completable completes settles =>
      have key : step.stepInstanceId = target := Table.key_of_find? found
      have unfinished : step.status ≠ .completed := fun completed => by
        simp [isCompletable, completed] at completable
      have stays := (guard step found completable).resolve_left (sound step found completable)
      rw [← key] at settles
      exact behind.completes linked (Table.mem_of_find? found) unfinished .refl
        (Table.mem_of_find? found) ⟨rfl, rfl, rfl, rfl, rfl⟩ completes settles stays

private theorem resumed_behind {target : Nat} {result : Option Nat} (behind : Behind w.db)
    (linked : Linked w.db) (resumed : Resumed deployment w target result after)
    (opts : AdvanceOptions)
    (guard : KeepsBehind deployment w (.resumeParent target opts)) : Behind after.db := by
  cases resumed with
  | refused => exact behind
  | resumed step found completed settles =>
      have member := Table.mem_of_find? found
      obtain ⟨writer, isWriter⟩ := linked.instance_of_step member
      have writerMember := Table.mem_of_find? isWriter
      obtain ⟨middle, edits, settlement, _⟩ := settles
      have keeps := edits.keeps linked
      have isWriter' : middle.db.instance? step.processInstanceId = some writer :=
        Table.find?_eq_some.mpr ⟨edits.instance_kept writerMember, Table.key_of_find? isWriter⟩
      by_cases allDone : ProcessCompletion.areAllStepsCompleted w.db step.processInstanceId = true
      · have others := guard step found completed allDone
        have follows : Follows (WrittenFor writer) w.db after.db :=
          keeps.turns.trans (WrittenFor.congr writer) (settlement.follows isWriter')
        refine follows.behind behind ?_
        intro proc procMember old oldMember runs task _ same _ written later laterMember ofProcess
        obtain ⟨id, tenant⟩ := written.subjectOf same runs writerMember procMember oldMember
        have all := others writer isWriter written.subject proc procMember old oldMember runs id
          tenant
        rcases follows.steps later laterMember with new | ⟨first, firstMember, key, process, kept⟩
        · exact absurd ofProcess.symm (new proc procMember)
        · by_cases isStep : first.stepInstanceId = step.stepInstanceId
          · rw [Table.eq_of_key_eq firstMember member isStep] at kept
            exact kept completed
          · exact kept (all first firstMember (process.trans ofProcess) isStep)
      · -- A step of the process is open, before the edits and after them.
        have openStep : ∃ other ∈ middle.db.steps.rows,
            other.processInstanceId = step.processInstanceId ∧ other.status ≠ .completed := by
          by_contra none
          simp only [not_exists, not_and, not_not] at none
          refine allDone (areAllStepsCompleted_iff.mpr ⟨⟨step, Table.mem_select.mpr
            ⟨member, by simp⟩⟩, fun other selected => ?_⟩)
          obtain ⟨otherMember, ofProcess⟩ := Table.mem_select.mp selected
          have ofProcess : other.processInstanceId = step.processInstanceId := by
            simpa using ofProcess
          rcases edits.image otherMember with kept | ⟨moved, movedMember, isMoved⟩
          · exact none other kept ofProcess
          · have done := none moved movedMember (isMoved.same.process.trans ofProcess)
            have outcome := isMoved.status
            simp [done] at outcome
        obtain ⟨other, otherMember, ofProcess, unfinished⟩ := openStep
        rw [settlement.idle_of_open otherMember ofProcess unfinished]
        exact keeps.behind behind

/-- What a call without a transaction of its own does to the rows. -/
private theorem untransacted_behind {call : Call} (behind : Behind w.db) (linked : Linked w.db)
    (effect : Effect deployment w call after) (single : ¬ Transacts call)
    (guard : KeepsBehind deployment w call) : Behind after.db := by
  cases effect with
  | unchanged => exact behind
  | raised _ _ _ _ transacts => exact absurd transacts single
  | started => exact absurd trivial single
  | advanced => exact absurd trivial single
  | marked => exact absurd trivial single
  | resumed => exact absurd trivial single
  | childTerminal _ _ _ child parent parentStepId _ link told =>
      exact behind.parentTold linked link (fun outcome => guard _ link outcome) told
  | eligible processInstanceId =>
      exact Keeps.behind (.completeInstance processInstanceId w.now) behind
  | validated _ _ _ validated =>
      obtain ⟨_, _, _, _, _, _, _, rfl⟩ := validated
      refine Keeps.behind ?_ behind
      exact .of_rows (.of_eq rfl) rfl rfl
  | evidence _ only =>
      obtain ⟨_, _, _, _, _, rfl⟩ := only
      refine Keeps.behind ?_ behind
      exact .of_rows (.of_eq rfl) rfl rfl
  | triggersMarked event =>
      obtain ⟨_, shape⟩ := w.db.markTriggers_shape w.now
        (EventBridge.metTriggers deployment event none w)
      unfold EventBridge.marked
      rw [shape]
      refine Keeps.behind ?_ behind
      exact .of_rows (.of_eq rfl) rfl rfl

theorem perform_behind {call : Call} (behind : Behind w.db) (linked : Linked w.db)
    (guard : KeepsBehind deployment w call) :
    Program.wp (perform deployment call) (fun _ w' => Behind w'.db) (fun _ w' => Behind w'.db)
      w := by
  have rolledBack : ∀ later : World, Behind (w.rollback later).db := fun later =>
    ⟨behind.notAhead, behind.linked⟩
  by_cases transacts : Transacts call
  · cases call with
    | startProcess params =>
        unfold perform ProcessLifecycle.startProcess
        rw [Program.wp_bind, wp_transaction]
        refine Program.wp_mono (Program.wp_and
          (ProcessLifecycle.startProcessIn_started deployment _ w)
          (ProcessLifecycle.startProcessIn_reported deployment _ w)) ?_
          (fun _ later _ => rolledBack later)
        rintro _ w' ⟨⟨⟨row, start, key⟩, _⟩, _, _, reported⟩
        exact behind.started start (key ▸ reported)
    | attemptAdvance target opts =>
        unfold perform
        rw [Program.wp_bind, wp_transaction]
        exact Program.wp_mono (attemptAdvanceIn_advanced target opts w)
          (fun _ _ done => advanced_behind behind linked done.1 done.2 opts guard)
          (fun _ later _ => rolledBack later)
    | markCompleted target opts =>
        unfold perform
        rw [Program.wp_bind, wp_transaction]
        exact Program.wp_mono (markCompletedIn_marked target opts w)
          (fun _ _ done => marked_behind behind linked done.1 done.2 opts guard)
          (fun _ later _ => rolledBack later)
    | resumeParent target opts =>
        unfold perform
        rw [Program.wp_bind, wp_transaction]
        exact Program.wp_mono (resumeParentIn_resumed target opts w)
          (fun _ _ done => resumed_behind behind linked done.1 opts guard)
          (fun _ later _ => rolledBack later)
    | _ => exact transacts.elim
  · exact Program.wp_mono (perform_effect deployment call w)
      (fun _ _ effect => untransacted_behind behind linked effect transacts guard)
      (fun _ _ effect => untransacted_behind behind linked effect transacts guard)

end Calls

/-- Nothing was started, so no row names a process: `process_instance_id` is a foreign key. -/
def Unlinked (state : State) : Prop :=
  ∀ row ∈ state.world.db.scheduledTasks.rows, row.processInstanceId = none

/-- In a run whose calls leave no row ahead, a scheduled task is completed only when all
steps of its process are. -/
theorem scheduledTask_notAhead {start : State} (fresh : Fresh start) (unlinked : Unlinked start)
    {actions : List Action}
    (guarded : (system deployment).Guarded (Meets (KeepsBehind deployment)) start actions) :
    NotAhead ((system deployment).run start actions).world.db := by
  let inv := fun state : State => Linked state.world.db ∧ Behind state.world.db
  have initial : inv start := by
    refine ⟨fresh.linked, ?_, fun row member processInstanceId linked => ?_⟩
    · intro proc member
      rw [fresh.processInstances] at member
      cases member
    · simp [unlinked row member] at linked
  have kept : ∀ state action, inv state → Meets (KeepsBehind deployment) state action →
      inv ((system deployment).step state action) := by
    rintro state action ⟨linked, behind⟩ meets
    rw [← turn_db state action] at linked behind
    rcases step_world deployment state action with ⟨call, isCall, effect⟩ | ⟨_, world⟩
    · refine ⟨effect.linked linked, ?_⟩
      show Behind (step deployment state action).world.db
      rw [step_of_call isCall, execute_world]
      exact Program.wp_end (fun w' : World => Behind w'.db)
        (perform_behind behind linked (meets call isCall))
    · show Linked (step deployment state action).world.db ∧
        Behind (step deployment state action).world.db
      rw [world]
      exact ⟨linked, behind⟩
  exact (@StepSystem.run_guarded _ _ _ inv _ kept _ initial _ guarded).2.notAhead

/-- Templates and one scheduled task. -/
def booked (templates : Templates) : State :=
  { installed templates with
    world :=
      { (installed templates).world with
        db :=
          { templates.install with
            scheduledTasks := .ofRows [
              { scheduledTaskId := 0
                tenantId := 1
                processInstanceId := none
                status := .scheduled
                isActive := true
                actualStartUtc := none
                actualEndUtc := none
                updatedBy := none }] } } }

theorem fresh_booked (templates : Templates) : Fresh (booked templates) :=
  ⟨rfl, rfl, rfl, rfl, rfl, rfl, rfl, rfl, rfl, rfl⟩

theorem unlinked_booked (templates : Templates) : Unlinked (booked templates) := by
  intro row member
  rw [List.mem_singleton.mp member]
  rfl

/-- A process for the scheduled task. -/
def onScheduledTask (templateId : Nat) : StartProcessParams :=
  { StartProcessParams.workflow 1 templateId .ignore with
    subjectType := "scheduled_task"
    subjectId := 1 }

/-- Two manual steps, and a requirement of the second one if there is one. -/
def twoStages (requirements : List TemplateRequirement) : Templates where
  steps := [.row 1 .manual 1 none, .row 1 .manual 2 none]
  requirements := requirements
  triggers := []
  bindings := []
  configObjects := []

theorem scheduledTask_notAhead_twoStages :
    NotAhead ((system .allEnabled).run (booked (twoStages []))
      [.invoke (.startProcess (onScheduledTask 1)), .invoke (.markCompleted 1 .none),
        .invoke (.markCompleted 2 .none)]).world.db :=
  scheduledTask_notAhead (fresh_booked (twoStages [])) (unlinked_booked (twoStages []))
    (by decide)

/-- The second step waits for its requirement, and the scheduled task is completed. -/
theorem waiting_ahead : Fresh (booked (twoStages [.row 2])) ∧
    Unlinked (booked (twoStages [.row 2])) ∧
      ¬ NotAhead ((system .allEnabled).run (booked (twoStages [.row 2]))
        [.invoke (.startProcess (onScheduledTask 1)),
          .invoke (.markCompleted 1 .none)]).world.db :=
  ⟨fresh_booked (twoStages [.row 2]), unlinked_booked (twoStages [.row 2]), by decide⟩

end Engine

end CoreApi.Automation
