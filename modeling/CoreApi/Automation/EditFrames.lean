import CoreApi.Automation.StepEdits

/-!
# What edits leave

Edits move steps of one process from `pending` to `ready` or `blocked`, for a
reason that held before the first of them, and add processes. Everything that
decides about a step stays what it was.
-/

namespace CoreApi.Automation

open CoreApi.Foundation StepOrchestrator ChildProcessOrchestration

variable {deployment : Deployment} {origin : World} {processInstanceId target : Nat}

/-! ## Mandatory bindings -/

namespace ConfigObjectStepExecutor

theorem areMandatoryBindingsValid_iff {db : Database} {stepInstanceId : Nat} :
    areMandatoryBindingsValid deployment db stepInstanceId = true ↔
      deployment.flags.configObjectStepsEnabled = false ∨
        ∀ row ∈ db.objectInstances.rows, row.stepInstanceId = stepInstanceId →
          isBlocking db row = false := by
  unfold areMandatoryBindingsValid
  by_cases disabled : deployment.flags.configObjectStepsEnabled = false
  · simp [disabled]
  · simp [disabled, Database.objectInstancesOf, Table.mem_select, List.countP_eq_zero]

end ConfigObjectStepExecutor

/-- Provisioning a pending row leaves the gates on bindings: neither the row that
was pending nor the row it becomes is valid. -/
theorem Provisioned.bindings {row : StepObjectInstance} {before after : World}
    (writes : Provisioned row before after) (member : row ∈ before.db.objectInstances.rows)
    (pending : row.status = .pending) (stepInstanceId : Nat) :
    ConfigObjectStepExecutor.areMandatoryBindingsValid deployment after.db stepInstanceId =
      ConfigObjectStepExecutor.areMandatoryBindingsValid deployment before.db stepInstanceId := by
  obtain ⟨set, keeps, customInstances, events, sets, _, _, rfl⟩ := writes
  have blocking : ConfigObjectStepExecutor.isBlocking before.db (set row) =
      ConfigObjectStepExecutor.isBlocking before.db row := by
    unfold ConfigObjectStepExecutor.isBlocking Database.isMandatoryObject Database.bindingOf
    rw [sets.binding, pending]
    rcases sets.status row with failed | active
    · rw [failed]
      rfl
    · rw [active]
      rfl
  rw [Bool.eq_iff_iff, ConfigObjectStepExecutor.areMandatoryBindingsValid_iff,
    ConfigObjectStepExecutor.areMandatoryBindingsValid_iff]
  refine or_congr_right ⟨fun valid other otherMember ofStep => ?_,
    fun valid other otherMember ofStep => ?_⟩
  · by_cases same : other.stepObjectInstanceId = row.stepObjectInstanceId
    · rw [Table.eq_of_key_eq otherMember member same] at ofStep ⊢
      rw [← blocking]
      exact valid (set row) ((mem_setObjectInstance keeps).mpr (.inl ⟨row, member, rfl, rfl⟩))
        ((sets.step row).trans ofStep)
    · exact valid other ((mem_setObjectInstance keeps).mpr (.inr ⟨otherMember, same⟩)) ofStep
  · rcases (mem_setObjectInstance keeps).mp otherMember with
      ⟨old, oldMember, same, rfl⟩ | ⟨untouched, _⟩
    · have isRow : old = row := Table.eq_of_key_eq oldMember member same
      subst isRow
      exact blocking.trans (valid old oldMember ((sets.step old).symm.trans ofStep))
    · exact valid other untouched ofStep

/-- A world that differs in the object rows, the custom instances and the events
only, and in which the gates on bindings are what they were. -/
structure OnlyObjects (deployment : Deployment) (before after : World) : Prop where
  shape : ∃ objectInstances customInstances events,
    after = { before with
      db := { before.db with
        objectInstances := objectInstances, customInstances := customInstances }
      events := events }
  bindings : ∀ stepInstanceId,
    ConfigObjectStepExecutor.areMandatoryBindingsValid deployment after.db stepInstanceId =
      ConfigObjectStepExecutor.areMandatoryBindingsValid deployment before.db stepInstanceId

theorem OnlyObjects.refl (w : World) : OnlyObjects deployment w w :=
  ⟨⟨_, _, _, rfl⟩, fun _ => rfl⟩

theorem OnlyObjects.trans {a b c : World} (first : OnlyObjects deployment a b)
    (second : OnlyObjects deployment b c) : OnlyObjects deployment a c := by
  obtain ⟨⟨_, _, _, rfl⟩, bindings⟩ := first
  obtain ⟨⟨_, _, _, rfl⟩, bindings'⟩ := second
  exact ⟨⟨_, _, _, rfl⟩, fun x => (bindings' x).trans (bindings x)⟩

theorem OnlyObjects.sameInputs {before after : World} (only : OnlyObjects deployment before after)
    (step : StepInstance) : SameInputs deployment step before after := by
  obtain ⟨⟨_, _, _, rfl⟩, bindings⟩ := only
  exact ⟨rfl, rfl, bindings step.stepInstanceId, rfl, rfl, rfl⟩

theorem Provisioned.onlyObjects {row : StepObjectInstance} {before after : World}
    (writes : Provisioned row before after) (member : row ∈ before.db.objectInstances.rows)
    (pending : row.status = .pending) : OnlyObjects deployment before after := by
  refine ⟨?_, writes.bindings member pending⟩
  obtain ⟨_, _, _, _, _, _, _, rfl⟩ := writes
  exact ⟨_, _, _, rfl⟩

/-! ## Steps under edits -/

/-- Two rows of one step. -/
structure SameStep (old row : StepInstance) : Prop where
  key : row.stepInstanceId = old.stepInstanceId
  process : row.processInstanceId = old.processInstanceId
  template : row.processTemplateStepId = old.processTemplateStepId
  order : row.stepOrder = old.stepOrder
  task : row.taskType = old.taskType

theorem SetsStatus.sameStep {status : StepStatus} {set : StepInstance → StepInstance}
    (sets : SetsStatus status set) (old : StepInstance) : SameStep old (set old) :=
  ⟨sets.key old, sets.process old, sets.template old, sets.order old, sets.task old⟩

/-- `row` is what edits made of the pending step `old`. -/
structure Moved (deployment : Deployment) (processInstanceId target : Nat) (before : World)
    (old row : StepInstance) : Prop where
  same : SameStep old row
  ofProcess : old.processInstanceId = processInstanceId
  pending : old.status = .pending
  status : row.status = .ready ∨ row.status = .blocked
  eligible : Eligible deployment before old
  reason : old.stepInstanceId = target ∨ Succeeds before.db target old
  spawns : row.status = .blocked → Spawns deployment before old

/-- The step of a `MayUnlock` that was made ready. -/
theorem MayUnlock.readied {before : World} {step : StepInstance}
    {set : StepInstance → StepInstance} (may : MayUnlock deployment origin target before step)
    (sets : SetsStatus .ready set) (ofProcess : step.processInstanceId = processInstanceId)
    (pending : step.status = .pending) :
    Moved deployment processInstanceId target before step (set step) :=
  ⟨sets.sameStep step, ofProcess, pending, .inl (sets.status step), may.eligible,
    may.reason.imp_left And.left, fun blocked => by rw [sets.status] at blocked; cases blocked⟩

/-- The step of a `MayUnlock` that was blocked for its child. -/
theorem MayUnlock.blocked {before : World} {step : StepInstance}
    {set : StepInstance → StepInstance} (may : MayUnlock deployment origin target before step)
    (sets : SetsStatus .blocked set) (ofProcess : step.processInstanceId = processInstanceId)
    (pending : step.status = .pending) (calls : step.taskType = .callProcess)
    (enabled : isEnabled deployment = true) :
    Moved deployment processInstanceId target before step (set step) :=
  ⟨sets.sameStep step, ofProcess, pending, .inr (sets.status step), may.eligible,
    may.reason.imp_left And.left, fun _ => ⟨may.eligible, enabled, calls⟩⟩

theorem Edit.preimage {before after : World}
    (edit : Edit deployment origin processInstanceId target before after) {row : StepInstance}
    (member : row ∈ after.db.steps.rows) :
    row ∈ before.db.steps.rows ∨
      (∃ old ∈ before.db.steps.rows,
        Moved deployment processInstanceId target before old row) ∨
      ((row.processInstanceId ≠ processInstanceId ∧
        ∀ other ∈ before.db.processInstances.rows,
          other.processInstanceId ≠ row.processInstanceId) ∧
        (row.status = .pending ∨ row.status = .ready)) := by
  have ofSet : ∀ {db : Database} {step : StepInstance} {status : StepStatus}
      {set : StepInstance → StepInstance} (sets : SetsStatus status set),
      step ∈ db.steps.rows → row ∈ (db.setStep step.stepInstanceId set sets.key).steps.rows →
        row = set step ∨ row ∈ db.steps.rows := by
    intro db step status set sets stepMember rowMember
    rcases (mem_setStep sets.key).mp rowMember with ⟨old, oldMember, same, rfl⟩ | ⟨untouched, _⟩
    · rw [Table.eq_of_key_eq oldMember stepMember same]
      exact .inl rfl
    · exact .inr untouched
  cases edit with
  | hosted host =>
      obtain ⟨_, _, _, _, tables⟩ := host.tables
      rw [tables] at member
      exact .inl member
  | evaluated => exact .inl member
  | provisioned _ _ _ _ _ _ _ _ writes =>
      obtain ⟨_, _, _, _, _, _, _, rfl⟩ := writes
      exact .inl member
  | readied step set sets stepMember ofProcess pending may host =>
      obtain ⟨_, _, _, _, tables⟩ := host.tables
      rw [tables] at member
      rcases ofSet sets stepMember member with rfl | untouched
      · exact .inr (.inl ⟨step, stepMember, may.readied sets ofProcess pending⟩)
      · exact .inl untouched
  | blocked step set sets stepMember ofProcess pending calls _ may enabled =>
      rcases ofSet sets stepMember member with rfl | untouched
      · exact .inr (.inl ⟨step, stepMember, may.blocked sets ofProcess pending calls enabled⟩)
      · exact .inl untouched
  | spawned step set sets parent _ new stepMember ofProcess pending calls _ resolved start may _
      enabled =>
      rcases ofSet sets (start.step_kept stepMember) member with rfl | untouched
      · exact .inr (.inl ⟨step, stepMember, may.blocked sets ofProcess pending calls enabled⟩)
      · rw [start.steps] at untouched
        rcases List.mem_append.mp untouched with old | added
        · exact .inl old
        · have ofNew := ProcessInstantiation.addedSteps_process added
          refine .inr (.inr ⟨⟨?_, fun other otherMember => ?_⟩, ?_⟩)
          · obtain ⟨_, resolved⟩ := resolved
            have isParent := Table.find?_eq_some.mp (childOf_of_resolveChildStart resolved).isParent
            rw [ofNew, ← ofProcess, ← isParent.2]
            exact (start.key_ne isParent.1).symm
          · rw [ofNew]
            exact start.key_ne otherMember
          · rcases ProcessInstantiation.addedSteps_status added with ⟨ready, _⟩ | ⟨pending, _⟩
            · exact .inr ready
            · exact .inl pending

theorem Edit.image {before after : World}
    (edit : Edit deployment origin processInstanceId target before after) {old : StepInstance}
    (member : old ∈ before.db.steps.rows) :
    old ∈ after.db.steps.rows ∨ ∃ row ∈ after.db.steps.rows,
      Moved deployment processInstanceId target before old row := by
  have ofSet : ∀ {db : Database} {step : StepInstance} {status : StepStatus}
      {set : StepInstance → StepInstance} (sets : SetsStatus status set),
      step ∈ db.steps.rows → old ∈ db.steps.rows →
        old ∈ (db.setStep step.stepInstanceId set sets.key).steps.rows ∨
          old = step ∧ set step ∈ (db.setStep step.stepInstanceId set sets.key).steps.rows := by
    intro db step status set sets stepMember oldMember
    by_cases same : old.stepInstanceId = step.stepInstanceId
    · exact .inr ⟨Table.eq_of_key_eq oldMember stepMember same,
        (mem_setStep sets.key).mpr (.inl ⟨step, stepMember, rfl, rfl⟩)⟩
    · exact .inl ((mem_setStep sets.key).mpr (.inr ⟨oldMember, same⟩))
  cases edit with
  | hosted host =>
      obtain ⟨_, _, _, _, tables⟩ := host.tables
      rw [tables]
      exact .inl member
  | evaluated => exact .inl member
  | provisioned _ _ _ _ _ _ _ _ writes =>
      obtain ⟨_, _, _, _, _, _, _, rfl⟩ := writes
      exact .inl member
  | readied step set sets stepMember ofProcess pending may host =>
      obtain ⟨_, _, _, _, tables⟩ := host.tables
      rw [tables]
      rcases ofSet sets stepMember member with untouched | ⟨rfl, written⟩
      · exact .inl untouched
      · exact .inr ⟨_, written, may.readied sets ofProcess pending⟩
  | blocked step set sets stepMember ofProcess pending calls _ may enabled =>
      rcases ofSet sets stepMember member with untouched | ⟨rfl, written⟩
      · exact .inl untouched
      · exact .inr ⟨_, written, may.blocked sets ofProcess pending calls enabled⟩
  | spawned step set sets _ _ _ stepMember ofProcess pending calls _ _ start may _ enabled =>
      rcases ofSet sets (start.step_kept stepMember) (start.step_kept member) with
        untouched | ⟨rfl, written⟩
      · exact .inl untouched
      · exact .inr ⟨_, written, may.blocked sets ofProcess pending calls enabled⟩

/-- An edit keeps the processes and adds the children of eligible pending steps. -/
theorem Edit.instances {before after : World}
    (edit : Edit deployment origin processInstanceId target before after) :
    ∃ added, after.db.processInstances.rows = before.db.processInstances.rows ++ added ∧
      ∀ row ∈ added, row.status = .active ∧ ∃ step ∈ before.db.steps.rows,
        row.parentStepId = some step.stepInstanceId ∧
        row.parentInstanceId = some step.processInstanceId ∧
        step.processInstanceId = processInstanceId ∧ step.status = .pending ∧
        step.taskType = .callProcess := by
  cases edit with
  | hosted host =>
      obtain ⟨_, _, _, _, tables⟩ := host.tables
      exact ⟨[], by simp [tables], by simp⟩
  | evaluated => exact ⟨[], by simp [Database.setTrigger], by simp⟩
  | provisioned _ _ _ _ _ _ _ _ writes =>
      obtain ⟨_, _, _, _, _, _, _, rfl⟩ := writes
      exact ⟨[], by simp [Database.setObjectInstance], by simp⟩
  | readied _ _ _ _ _ _ _ host =>
      obtain ⟨_, _, _, _, tables⟩ := host.tables
      exact ⟨[], by simp [tables, Database.setStep], by simp⟩
  | blocked => exact ⟨[], by simp [Database.setStep], by simp⟩
  | spawned step _ _ _ _ new stepMember ofProcess pending calls _ resolved start =>
      obtain ⟨_, resolved⟩ := resolved
      have childOf := childOf_of_resolveChildStart resolved
      refine ⟨[new], start.instances, fun row member => ?_⟩
      rw [List.mem_singleton.mp member]
      exact ⟨start.fresh.active, step, stepMember, start.fresh.parentStep.trans childOf.parentStep,
        start.fresh.parentInstance.trans childOf.parentInstance, ofProcess, pending, calls⟩

/-- What decides about a known step of the process stays what it was. -/
theorem Edit.sameInputs {before after : World}
    (edit : Edit deployment origin processInstanceId target before after) {step : StepInstance}
    (known : ∃ other ∈ before.db.steps.rows, other.stepInstanceId = step.stepInstanceId)
    (ofProcess : step.processInstanceId = processInstanceId) :
    SameInputs deployment step before after := by
  cases edit with
  | hosted host => exact .of_hosted host
  | evaluated trigger _ met events jobs =>
      exact (OnlyTriggers.evaluated trigger met events jobs before).sameInputs deployment step
  | provisioned _ _ member pending _ _ _ _ writes =>
      exact (writes.onlyObjects member pending).sameInputs step
  | readied other set sets _ _ _ _ host =>
      have written : SameInputs deployment step before { before with
          db := before.db.setStep other.stepInstanceId set sets.key } :=
        ⟨rfl, rfl, rfl, rfl, rfl, rfl⟩
      exact written.trans (.of_hosted host)
  | blocked => exact ⟨rfl, rfl, rfl, rfl, rfl, rfl⟩
  | spawned parentStep _ _ parent _ _ _ parentProcess _ _ _ resolved start =>
      obtain ⟨_, resolved⟩ := resolved
      have isParent := (childOf_of_resolveChildStart resolved).isParent
      have found : before.db.instance? step.processInstanceId = some parent := by
        rw [ofProcess, ← parentProcess]
        exact isParent
      exact (SameInputs.of_started start known ⟨parent, found⟩).trans
        ⟨rfl, rfl, rfl, rfl, rfl, rfl⟩

theorem Edit.requirementsOf {before after : World}
    (edit : Edit deployment origin processInstanceId target before after) {stepInstanceId : Nat}
    (known : ∃ other ∈ before.db.steps.rows, other.stepInstanceId = stepInstanceId) :
    after.db.requirementsOf stepInstanceId = before.db.requirementsOf stepInstanceId := by
  cases edit with
  | hosted host =>
      obtain ⟨_, _, _, _, tables⟩ := host.tables
      rw [tables]
      rfl
  | evaluated => rfl
  | provisioned _ _ _ _ _ _ _ _ writes =>
      obtain ⟨_, _, _, _, _, _, _, rfl⟩ := writes
      rfl
  | readied _ _ _ _ _ _ _ host =>
      obtain ⟨_, _, _, _, tables⟩ := host.tables
      rw [tables]
      rfl
  | blocked => rfl
  | spawned _ _ _ _ _ _ _ _ _ _ _ _ start => exact start.requirementsOf known

/-- An edit leaves the gate on the bindings of a known step, with object steps
switched on or off. -/
theorem Edit.bindings {before after : World}
    (edit : Edit deployment origin processInstanceId target before after) (other : Deployment)
    {stepInstanceId : Nat}
    (known : ∃ other ∈ before.db.steps.rows, other.stepInstanceId = stepInstanceId) :
    ConfigObjectStepExecutor.areMandatoryBindingsValid other after.db stepInstanceId =
      ConfigObjectStepExecutor.areMandatoryBindingsValid other before.db stepInstanceId := by
  cases edit with
  | hosted host =>
      obtain ⟨_, _, _, _, tables⟩ := host.tables
      rw [tables]
      rfl
  | evaluated => rfl
  | provisioned _ _ member pending _ _ _ _ writes =>
      exact writes.bindings member pending stepInstanceId
  | readied _ _ _ _ _ _ _ host =>
      obtain ⟨_, _, _, _, tables⟩ := host.tables
      rw [tables]
      rfl
  | blocked => rfl
  | spawned _ _ _ _ _ _ _ _ _ _ _ _ start => exact start.bindings known

theorem Edit.findChild {before after : World}
    (edit : Edit deployment origin processInstanceId target before after) {step : StepInstance}
    (member : step ∈ after.db.steps.rows) (pending : step.status = .pending) :
    findChildProcessInstanceId after.db step.stepInstanceId =
      findChildProcessInstanceId before.db step.stepInstanceId := by
  cases edit with
  | hosted host =>
      obtain ⟨_, _, _, _, tables⟩ := host.tables
      rw [tables]
      rfl
  | evaluated => rfl
  | provisioned _ _ _ _ _ _ _ _ writes =>
      obtain ⟨_, _, _, _, _, _, _, rfl⟩ := writes
      rfl
  | readied _ _ _ _ _ _ _ host =>
      obtain ⟨_, _, _, _, tables⟩ := host.tables
      rw [tables]
      rfl
  | blocked => rfl
  | spawned parentStep set sets _ _ new _ _ _ _ _ resolved start =>
      obtain ⟨_, resolved⟩ := resolved
      have other : step.stepInstanceId ≠ parentStep.stepInstanceId := by
        intro same
        rcases (mem_setStep sets.key).mp member with ⟨old, _, _, rfl⟩ | ⟨_, different⟩
        · rw [sets.status] at pending
          cases pending
        · exact different same
      have parentStepId := start.fresh.parentStep.trans
        (childOf_of_resolveChildStart resolved).parentStep
      unfold findChildProcessInstanceId Database.setStep
      simp only [start.instances, List.find?_append]
      have notChild : ([new].find? fun row => row.parentStepId == some step.stepInstanceId) =
          none := by
        rw [List.find?_eq_none]
        intro row rowMember
        rw [List.mem_singleton.mp rowMember, parentStepId]
        simpa using Ne.symm other
      rw [notChild, Option.or_none]

theorem Edit.pending_kept {before after : World}
    (edit : Edit deployment origin processInstanceId target before after) {step : StepInstance}
    (member : step ∈ after.db.steps.rows) (pending : step.status = .pending)
    (known : ∃ other ∈ before.db.steps.rows, other.stepInstanceId = step.stepInstanceId) :
    step ∈ before.db.steps.rows := by
  obtain ⟨other, otherMember, key⟩ := known
  rcases edit.image otherMember with kept | ⟨row, rowMember, moved⟩
  · rw [Table.eq_of_key_eq member kept key.symm]
    exact otherMember
  · have isRow : step = row :=
      Table.eq_of_key_eq member rowMember (key.symm.trans moved.same.key.symm)
    have outcome := moved.status
    rw [← isRow, pending] at outcome
    simp at outcome

theorem Edit.completed_kept {before after : World}
    (edit : Edit deployment origin processInstanceId target before after) {step : StepInstance}
    (member : step ∈ after.db.steps.rows) (completed : step.status = .completed) :
    step ∈ before.db.steps.rows := by
  rcases edit.preimage member with kept | ⟨_, _, moved⟩ | ⟨_, status⟩
  · exact kept
  · have outcome := moved.status
    simp [completed] at outcome
  · simp [completed] at status

/-! ## Sequences of edits -/

namespace Edits

theorem known {before after : World}
    (edits : Edits deployment origin processInstanceId target before after) {key : Nat}
    (known : ∃ other ∈ before.db.steps.rows, other.stepInstanceId = key) :
    ∃ other ∈ after.db.steps.rows, other.stepInstanceId = key := by
  induction edits with
  | refl => exact known
  | tail _ edit ih =>
      obtain ⟨other, member, isKey⟩ := ih
      rcases edit.image member with kept | ⟨row, rowMember, moved⟩
      · exact ⟨other, kept, isKey⟩
      · exact ⟨row, rowMember, moved.same.key.trans isKey⟩

theorem sameInputs {before after : World}
    (edits : Edits deployment origin processInstanceId target before after) {step : StepInstance}
    (known : ∃ other ∈ before.db.steps.rows, other.stepInstanceId = step.stepInstanceId)
    (ofProcess : step.processInstanceId = processInstanceId) :
    SameInputs deployment step before after := by
  induction edits with
  | refl => exact .refl before
  | tail earlier edit ih =>
      exact ih.trans (edit.sameInputs (Edits.known earlier known) ofProcess)

theorem requirementsOf {before after : World}
    (edits : Edits deployment origin processInstanceId target before after) {stepInstanceId : Nat}
    (known : ∃ other ∈ before.db.steps.rows, other.stepInstanceId = stepInstanceId) :
    after.db.requirementsOf stepInstanceId = before.db.requirementsOf stepInstanceId := by
  induction edits with
  | refl => rfl
  | tail earlier edit ih =>
      exact (edit.requirementsOf (Edits.known earlier known)).trans ih

theorem bindings {before after : World}
    (edits : Edits deployment origin processInstanceId target before after) (other : Deployment)
    {stepInstanceId : Nat}
    (known : ∃ other ∈ before.db.steps.rows, other.stepInstanceId = stepInstanceId) :
    ConfigObjectStepExecutor.areMandatoryBindingsValid other after.db stepInstanceId =
      ConfigObjectStepExecutor.areMandatoryBindingsValid other before.db stepInstanceId := by
  induction edits with
  | refl => rfl
  | tail earlier edit ih =>
      exact (edit.bindings other (Edits.known earlier known)).trans ih

/-- The gates of an eligible step still hold after edits. -/
theorem gates {before after : World}
    (edits : Edits deployment origin processInstanceId target before after)
    {step row : StepInstance} (member : step ∈ before.db.steps.rows)
    (ofProcess : step.processInstanceId = processInstanceId) (same : SameStep step row)
    (eligible : Eligible deployment before step) :
    checkStepGates deployment after.db row.stepInstanceId = true := by
  rw [same.key, (Edits.sameInputs edits ⟨step, member, rfl⟩ ofProcess).gates]
  exact eligible.gates

theorem pending_kept {before after : World}
    (edits : Edits deployment origin processInstanceId target before after) {step : StepInstance}
    (member : step ∈ after.db.steps.rows) (pending : step.status = .pending)
    (known : ∃ other ∈ before.db.steps.rows, other.stepInstanceId = step.stepInstanceId) :
    step ∈ before.db.steps.rows := by
  induction edits with
  | refl => exact member
  | tail earlier edit ih =>
      exact ih (edit.pending_kept member pending (Edits.known earlier known))

theorem findChild {before after : World}
    (edits : Edits deployment origin processInstanceId target before after) {step : StepInstance}
    (member : step ∈ after.db.steps.rows) (pending : step.status = .pending)
    (known : ∃ other ∈ before.db.steps.rows, other.stepInstanceId = step.stepInstanceId) :
    findChildProcessInstanceId after.db step.stepInstanceId =
      findChildProcessInstanceId before.db step.stepInstanceId := by
  induction edits with
  | refl => rfl
  | tail earlier edit ih =>
      have kept := edit.pending_kept member pending (Edits.known earlier known)
      exact (edit.findChild member pending).trans (ih kept)

theorem instances {before after : World}
    (edits : Edits deployment origin processInstanceId target before after) :
    ∃ added, after.db.processInstances.rows = before.db.processInstances.rows ++ added := by
  induction edits with
  | refl => exact ⟨[], by simp⟩
  | tail _ edit ih =>
      obtain ⟨added, eq⟩ := ih
      obtain ⟨added', eq', _⟩ := edit.instances
      exact ⟨added ++ added', by rw [eq', eq, List.append_assoc]⟩

theorem instance_kept {before after : World}
    (edits : Edits deployment origin processInstanceId target before after)
    {row : ProcessInstance} (member : row ∈ before.db.processInstances.rows) :
    row ∈ after.db.processInstances.rows := by
  obtain ⟨added, eq⟩ := edits.instances
  rw [eq]
  exact List.mem_append_left _ member

theorem completed_kept {before after : World}
    (edits : Edits deployment origin processInstanceId target before after) {step : StepInstance}
    (member : step ∈ after.db.steps.rows) (completed : step.status = .completed) :
    step ∈ before.db.steps.rows := by
  induction edits with
  | refl => exact member
  | tail _ edit ih =>
      exact ih (edit.completed_kept member completed)

/-- The reason of a move held before the edits that led to it. -/
theorem moved {before middle : World}
    (earlier : Edits deployment origin processInstanceId target before middle)
    {old row : StepInstance} (member : old ∈ before.db.steps.rows)
    (moved : Moved deployment processInstanceId target middle old row) :
    Moved deployment processInstanceId target before old row := by
  have inputs := Edits.sameInputs earlier ⟨old, member, rfl⟩ moved.ofProcess
  refine ⟨moved.same, moved.ofProcess, moved.pending, moved.status,
    inputs.eligible.mp moved.eligible, moved.reason.imp_right ?_,
    fun blocked => inputs.spawns.mp (moved.spawns blocked)⟩
  rintro ⟨pred, predMember, isTarget, samePred, completed, order⟩
  exact ⟨pred, Edits.completed_kept earlier predMember completed, isTarget, samePred, completed,
    order⟩

/-- `Edit.preimage` for a sequence. -/
theorem preimage {before after : World}
    (edits : Edits deployment origin processInstanceId target before after) :
    ∀ {row : StepInstance}, row ∈ after.db.steps.rows →
      row ∈ before.db.steps.rows ∨
        (∃ old ∈ before.db.steps.rows,
          Moved deployment processInstanceId target before old row) ∨
        ((row.processInstanceId ≠ processInstanceId ∧
          ∀ other ∈ before.db.processInstances.rows,
            other.processInstanceId ≠ row.processInstanceId) ∧
          (row.status = .pending ∨ row.status = .ready)) := by
  induction edits with
  | refl => exact fun member => .inl member
  | tail earlier edit ih =>
      intro row member
      rcases edit.preimage member with kept | ⟨old, oldMember, moved⟩ | ⟨foreign, status⟩
      · exact ih kept
      · rcases ih oldMember with known | ⟨_, _, already⟩ | ⟨foreign, _⟩
        · exact .inr (.inl ⟨old, known, Edits.moved earlier known moved⟩)
        · have outcome := already.status
          simp [moved.pending] at outcome
        · exact absurd moved.ofProcess foreign.1
      · exact .inr (.inr ⟨⟨foreign.1, fun other otherMember =>
          foreign.2 other (Edits.instance_kept earlier otherMember)⟩, status⟩)

/-- `Edit.image` for a sequence. -/
theorem image {before after : World}
    (edits : Edits deployment origin processInstanceId target before after)
    {old : StepInstance} (member : old ∈ before.db.steps.rows) :
    old ∈ after.db.steps.rows ∨ ∃ row ∈ after.db.steps.rows,
      Moved deployment processInstanceId target before old row := by
  induction edits with
  | refl => exact .inl member
  | tail earlier edit ih =>
      rcases ih with kept | ⟨row, rowMember, moved⟩
      · rcases edit.image kept with kept' | ⟨row, rowMember, moved⟩
        · exact .inl kept'
        · exact .inr ⟨row, rowMember, Edits.moved earlier member moved⟩
      · rcases edit.image rowMember with kept | ⟨_, _, again⟩
        · exact .inr ⟨row, kept, moved⟩
        · have outcome := moved.status
          simp [again.pending] at outcome

end Edits

end CoreApi.Automation
