import CoreApi.Automation.InstantiationEffects
import CoreApi.Automation.StepOrchestrator

/-!
# What decides whether a step is unlocked

A step is `Eligible` when its gates and all its triggers hold, and `UnlockFails`
says when an attempt to unlock it raises. Both read a few rows of the step only:
`SameInputs` says that these rows are the same in two worlds.
-/

namespace CoreApi.Automation

open CoreApi.Foundation StepOrchestrator ChildProcessOrchestration

variable {deployment : Deployment}

/-! ## Verdicts on a step -/

/-- The envelopes of the triggers of a step. -/
def Database.schemasOf (db : Database) (stepInstanceId : Nat) : List TriggerEnvelope :=
  (db.triggersOf stepInstanceId).map StepTrigger.jsonSchema

/-- The verdict on a trigger of a step, in the context of the step. -/
def triggerVerdict (deployment : Deployment) (w : World) (step : StepInstance)
    (schema : TriggerEnvelope) : Except String Bool :=
  TriggerEngine.verdict deployment schema
    (buildContext w.db step.processInstanceId step.stepInstanceId w.now)

/-- Every trigger of the step is met. -/
def TriggersHold (deployment : Deployment) (w : World) (step : StepInstance) : Prop :=
  ∀ schema ∈ w.db.schemasOf step.stepInstanceId,
    triggerVerdict deployment w step schema = .ok true

/-- Some trigger of the step raises. -/
def TriggerFails (deployment : Deployment) (w : World) (step : StepInstance) : Prop :=
  ∃ schema ∈ w.db.schemasOf step.stepInstanceId, ∃ message,
    triggerVerdict deployment w step schema = .error message

/-- The gates and the triggers of the step hold. -/
structure Eligible (deployment : Deployment) (w : World) (step : StepInstance) : Prop where
  gates : checkStepGates deployment w.db step.stepInstanceId = true
  triggers : TriggersHold deployment w step

/-- The step has no child, and none can be started. -/
def SpawnFails (deployment : Deployment) (db : Database) (step : StepInstance) : Prop :=
  findChildProcessInstanceId db step.stepInstanceId = none ∧
    ∀ parent params, resolveChildStart db step .none = .ok (parent, params) →
      ∃ message, ProcessLifecycle.checkSubject deployment params.subjectType = .error message

/-- The step is eligible, and unlocking it spawns a child. -/
structure Spawns (deployment : Deployment) (w : World) (step : StepInstance) : Prop where
  eligible : Eligible deployment w step
  enabled : isEnabled deployment = true
  calls : step.taskType = .callProcess

/-- An attempt to unlock the step raises. -/
def UnlockFails (deployment : Deployment) (w : World) (step : StepInstance) : Prop :=
  TriggerFails deployment w step ∨
    Spawns deployment w step ∧ SpawnFails deployment w.db step

/-- The process of the step has a subject type without a host. -/
def HostMissing (db : Database) (processInstanceId : Nat) : Prop :=
  ∃ proc, db.instance? processInstanceId = some proc ∧
    ProcessHostRegistry.has proc.subjectType = false

section Decidable

instance decidableRaises {ε α : Type} (result : Except ε α) :
    Decidable (∃ message, result = .error message) :=
  match result with
  | .error message => isTrue ⟨message, rfl⟩
  | .ok _ => isFalse fun ⟨_, impossible⟩ => nomatch impossible

variable (deployment : Deployment) (w : World) (step : StepInstance)

instance : Decidable (TriggersHold deployment w step) :=
  inferInstanceAs (Decidable (∀ schema ∈ w.db.schemasOf step.stepInstanceId,
    triggerVerdict deployment w step schema = .ok true))

instance : Decidable (TriggerFails deployment w step) :=
  inferInstanceAs (Decidable (∃ schema ∈ w.db.schemasOf step.stepInstanceId, ∃ message,
    triggerVerdict deployment w step schema = .error message))

instance : Decidable (Eligible deployment w step) :=
  decidable_of_iff (checkStepGates deployment w.db step.stepInstanceId = true ∧
    TriggersHold deployment w step)
    ⟨fun ⟨gates, triggers⟩ => ⟨gates, triggers⟩,
      fun eligible => ⟨eligible.gates, eligible.triggers⟩⟩

instance (db : Database) : Decidable (SpawnFails deployment db step) :=
  have : Decidable (∀ parent params, resolveChildStart db step .none = .ok (parent, params) →
      ∃ message, ProcessLifecycle.checkSubject deployment params.subjectType = .error message) :=
    match resolveChildStart db step .none with
    | .error _ => isTrue fun _ _ impossible => nomatch impossible
    | .ok (_, params) =>
        decidable_of_iff
          (∃ message, ProcessLifecycle.checkSubject deployment params.subjectType = .error message)
          ⟨fun refused _ _ same => by cases same; exact refused, fun refused => refused _ _ rfl⟩
  inferInstanceAs (Decidable (_ ∧ _))

instance : Decidable (Spawns deployment w step) :=
  decidable_of_iff (Eligible deployment w step ∧ isEnabled deployment = true ∧
    step.taskType = .callProcess)
    ⟨fun ⟨eligible, enabled, calls⟩ => ⟨eligible, enabled, calls⟩,
      fun spawns => ⟨spawns.eligible, spawns.enabled, spawns.calls⟩⟩

instance : Decidable (UnlockFails deployment w step) :=
  inferInstanceAs (Decidable (_ ∨ _ ∧ _))

end Decidable

/-- What a start reads, apart from the options. -/
theorem resolveChildStart_subject {db : Database} {step : StepInstance} {opts : AdvanceOptions}
    {parent : ProcessInstance} {params : StartProcessParams}
    (resolved : resolveChildStart db step opts = .ok (parent, params)) :
    ∃ params', resolveChildStart db step .none = .ok (parent, params') ∧
      params'.subjectType = params.subjectType := by
  unfold resolveChildStart at resolved ⊢
  split at resolved
  · cases resolved
  · split at resolved
    · cases resolved
    · split at resolved
      · cases resolved
      · split at resolved
        · cases resolved
        · rename_i nonzero
          rw [if_neg nonzero]
          split at resolved
          · cases resolved
          · cases resolved
            exact ⟨_, rfl, rfl⟩

/-- Whether a start resolves does not depend on the options. -/
theorem resolveChildStart_error {db : Database} {step : StepInstance} {opts : AdvanceOptions}
    {message : String} (failed : resolveChildStart db step opts = .error message) :
    resolveChildStart db step .none = .error message := by
  unfold resolveChildStart at failed ⊢
  split at failed
  · exact failed
  · split at failed
    · exact failed
    · split at failed
      · exact failed
      · split at failed
        · rename_i zero
          rw [if_pos zero]
          exact failed
        · rename_i nonzero
          rw [if_neg nonzero]
          split at failed
          · exact failed
          · cases failed

/-- The rows that a start adds belong to steps with later keys. -/
theorem Started.added_ne {before after : World} {params : StartProcessParams}
    {row : ProcessInstance} {stepInstanceId : Nat} (_ : Started params row before after)
    (known : ∃ other ∈ before.db.steps.rows, other.stepInstanceId = stepInstanceId) :
    ∀ added ∈ ProcessInstantiation.addedSteps before params.templateId row.processInstanceId,
      added.stepInstanceId ≠ stepInstanceId := by
  obtain ⟨other, otherMember, isStep⟩ := known
  have old : stepInstanceId < before.db.steps.autoIncrement :=
    isStep ▸ (before.db.steps.bounded other otherMember).2
  intro added member
  have := ProcessInstantiation.addedSteps_key member
  omega

theorem Started.requirementsOf {before after : World} {params : StartProcessParams}
    {row : ProcessInstance} {stepInstanceId : Nat} (start : Started params row before after)
    (known : ∃ other ∈ before.db.steps.rows, other.stepInstanceId = stepInstanceId) :
    after.db.requirementsOf stepInstanceId = before.db.requirementsOf stepInstanceId := by
  unfold Database.requirementsOf Table.select
  rw [start.requirements, List.filter_append, List.append_right_eq_self,
    List.filter_eq_nil_iff]
  intro requirement member
  obtain ⟨stamped, stampedMember, _, _, _, rfl⟩ := Table.mem_stamp member
  obtain ⟨added, addedMember, ofStep⟩ := ProcessInstantiation.mem_newRequirements stampedMember
  rw [beq_iff_eq]
  exact fun same => start.added_ne known added addedMember (ofStep.trans same)

/-- A start leaves the gate on the bindings of a known step. -/
theorem Started.bindings {before after : World} {params : StartProcessParams}
    {row : ProcessInstance} {stepInstanceId : Nat} (start : Started params row before after)
    (known : ∃ other ∈ before.db.steps.rows, other.stepInstanceId = stepInstanceId) :
    ConfigObjectStepExecutor.areMandatoryBindingsValid deployment after.db stepInstanceId =
      ConfigObjectStepExecutor.areMandatoryBindingsValid deployment before.db stepInstanceId := by
  have templates : after.db.templateBindings = before.db.templateBindings := by
    obtain ⟨_, _, _, _, _, _, _, _, _, eq⟩ := start.rest
    rw [eq]
  have rows : after.db.objectInstancesOf stepInstanceId =
      before.db.objectInstancesOf stepInstanceId := by
    unfold Database.objectInstancesOf Table.select
    rw [start.objectInstances, List.filter_append, List.append_right_eq_self,
      List.filter_eq_nil_iff]
    intro object member
    obtain ⟨stamped, stampedMember, _, _, _, rfl⟩ := Table.mem_stamp member
    obtain ⟨_, _, added, addedMember, ofStep⟩ :=
      ProcessInstantiation.mem_newObjectInstances stampedMember
    rw [beq_iff_eq]
    exact fun same => start.added_ne known added addedMember (ofStep.trans same)
  unfold ConfigObjectStepExecutor.areMandatoryBindingsValid ConfigObjectStepExecutor.isBlocking
    Database.isMandatoryObject Database.bindingOf
  rw [rows, templates]

/-! ## Unchanged inputs -/

/-- Two worlds in which the same rows decide about the step. -/
structure SameInputs (deployment : Deployment) (step : StepInstance) (before after : World) :
    Prop where
  process : after.db.instance? step.processInstanceId =
    before.db.instance? step.processInstanceId
  requirements : after.db.requirementsOf step.stepInstanceId =
    before.db.requirementsOf step.stepInstanceId
  bindings : ConfigObjectStepExecutor.areMandatoryBindingsValid deployment after.db
      step.stepInstanceId =
    ConfigObjectStepExecutor.areMandatoryBindingsValid deployment before.db step.stepInstanceId
  schemas : after.db.schemasOf step.stepInstanceId = before.db.schemasOf step.stepInstanceId
  templates : after.db.templateSteps = before.db.templateSteps
  now : after.now = before.now

namespace SameInputs

variable {step : StepInstance} {before after : World}

theorem refl (w : World) : SameInputs deployment step w w := ⟨rfl, rfl, rfl, rfl, rfl, rfl⟩

theorem trans {middle : World} (first : SameInputs deployment step before middle)
    (second : SameInputs deployment step middle after) : SameInputs deployment step before after :=
  ⟨second.process.trans first.process, second.requirements.trans first.requirements,
    second.bindings.trans first.bindings, second.schemas.trans first.schemas,
    second.templates.trans first.templates, second.now.trans first.now⟩

theorem gates (same : SameInputs deployment step before after) :
    checkStepGates deployment after.db step.stepInstanceId =
      checkStepGates deployment before.db step.stepInstanceId := by
  unfold checkStepGates checkRequirementsOnly
  rw [same.requirements, same.bindings]

theorem verdict (same : SameInputs deployment step before after) (schema : TriggerEnvelope) :
    triggerVerdict deployment after step schema = triggerVerdict deployment before step schema := by
  unfold triggerVerdict buildContext checkRequirementsOnly
  rw [same.process, same.requirements, same.now]

theorem triggersHold (same : SameInputs deployment step before after) :
    TriggersHold deployment after step ↔ TriggersHold deployment before step := by
  simp only [TriggersHold, same.schemas, same.verdict]

theorem triggerFails (same : SameInputs deployment step before after) :
    TriggerFails deployment after step ↔ TriggerFails deployment before step := by
  simp only [TriggerFails, same.schemas, same.verdict]

theorem eligible (same : SameInputs deployment step before after) :
    Eligible deployment after step ↔ Eligible deployment before step := by
  constructor
  · rintro ⟨gates, triggers⟩
    exact ⟨same.gates ▸ gates, same.triggersHold.mp triggers⟩
  · rintro ⟨gates, triggers⟩
    exact ⟨same.gates ▸ gates, same.triggersHold.mpr triggers⟩

theorem spawns (same : SameInputs deployment step before after) :
    Spawns deployment after step ↔ Spawns deployment before step :=
  ⟨fun spawns => ⟨same.eligible.mp spawns.eligible, spawns.enabled, spawns.calls⟩,
    fun spawns => ⟨same.eligible.mpr spawns.eligible, spawns.enabled, spawns.calls⟩⟩

theorem hostMissing (same : SameInputs deployment step before after) :
    HostMissing after.db step.processInstanceId ↔ HostMissing before.db step.processInstanceId := by
  unfold HostMissing
  rw [same.process]

theorem unlockFails (same : SameInputs deployment step before after)
    (child : findChildProcessInstanceId after.db step.stepInstanceId =
      findChildProcessInstanceId before.db step.stepInstanceId) :
    UnlockFails deployment after step ↔ UnlockFails deployment before step := by
  have start : resolveChildStart after.db step .none = resolveChildStart before.db step .none := by
    unfold resolveChildStart
    rw [same.process, same.templates]
  unfold UnlockFails SpawnFails
  rw [same.triggerFails, same.spawns, start, child]

theorem of_hosted (host : Hosted before after) : SameInputs deployment step before after := by
  obtain ⟨⟨_, _, _, _, tables⟩, _, _, now⟩ := host
  constructor <;> simp only [tables, now] <;> rfl

theorem of_started {params : StartProcessParams} {row : ProcessInstance}
    (start : Started params row before after)
    (known : ∃ other ∈ before.db.steps.rows, other.stepInstanceId = step.stepInstanceId)
    (found : ∃ proc, before.db.instance? step.processInstanceId = some proc) :
    SameInputs deployment step before after := by
  have new := start.added_ne known
  have templates : after.db.templateSteps = before.db.templateSteps := by
    obtain ⟨_, _, _, _, _, _, _, _, _, eq⟩ := start.rest
    rw [eq]
  constructor
  · obtain ⟨proc, isProc⟩ := found
    rw [isProc]
    have stored := Table.find?_eq_some.mp isProc
    refine Table.find?_eq_some.mpr ⟨?_, stored.2⟩
    rw [start.instances]
    exact List.mem_append_left _ stored.1
  · exact start.requirementsOf known
  · exact start.bindings known
  · unfold Database.schemasOf Database.triggersOf Table.select
    rw [start.triggers, List.filter_append, List.append_right_eq_self.mpr]
    rw [List.filter_eq_nil_iff]
    intro trigger member
    obtain ⟨stamped, stampedMember, _, _, _, rfl⟩ := Table.mem_stamp member
    obtain ⟨_, added, addedMember, ofStep⟩ := ProcessInstantiation.mem_newTriggers stampedMember
    rw [beq_iff_eq]
    exact fun same => new added addedMember (ofStep.trans same)
  · exact templates
  · exact start.now

end SameInputs

end CoreApi.Automation
