import CoreApi.Automation.CallWrites
import CoreApi.Automation.CompletionGate

/-!
# The evidence of completed steps

A step completes when its mandatory requirements are approved and its mandatory
objects valid. Nothing later looks at the status of the step: a submission that
is not approved at once takes the approval back, a validation that fails turns an
object failed, and a child that ends completes its parent step whatever became of
the gates in between.
-/

namespace CoreApi.Automation

open CoreApi.Foundation StepOrchestrator ChildProcessOrchestration

variable {deployment : Deployment}

/-! ## Evidence -/

/-- The mandatory requirements of the step are approved, and its mandatory objects
valid or skipped. -/
structure HasEvidence (db : Database) (stepInstanceId : Nat) : Prop where
  requirements : ∀ requirement ∈ db.requirementsOf stepInstanceId,
    requirement.isMandatory = true → requirement.status = .approved
  objects : ∀ row ∈ db.objectInstancesOf stepInstanceId,
    db.isMandatoryObject row = true → row.status = .valid ∨ row.status = .skipped

theorem ConfigObjectStepExecutor.isBlocking_eq_false {db : Database} {row : StepObjectInstance} :
    isBlocking db row = false ↔
      (db.isMandatoryObject row = true → row.status = .valid ∨ row.status = .skipped) := by
  unfold isBlocking
  cases db.isMandatoryObject row <;> cases row.status <;> decide

theorem hasEvidence_iff {db : Database} {stepInstanceId : Nat}
    (enabled : deployment.flags.configObjectStepsEnabled = true) :
    HasEvidence db stepInstanceId ↔ checkStepGates deployment db stepInstanceId = true := by
  have requirements : checkRequirementsOnly db stepInstanceId = true ↔
      ∀ requirement ∈ db.requirementsOf stepInstanceId,
        requirement.isMandatory = true → requirement.status = .approved := by
    simp only [checkRequirementsOnly, List.all_eq_true, List.mem_filter, beq_iff_eq, and_imp]
  unfold checkStepGates
  rw [Bool.and_eq_true, requirements, ConfigObjectStepExecutor.areMandatoryBindingsValid_iff]
  simp only [enabled, Bool.true_eq_false, false_or,
    ConfigObjectStepExecutor.isBlocking_eq_false]
  constructor
  · rintro ⟨approved, valid⟩
    exact ⟨approved, fun row member ofStep => valid row (by
      simp [Database.objectInstancesOf, Table.mem_select, member, ofStep])⟩
  · rintro ⟨approved, valid⟩
    refine ⟨approved, fun row member => ?_⟩
    simp only [Database.objectInstancesOf, Table.mem_select, beq_iff_eq] at member
    exact valid row member.1 member.2

instance (db : Database) (stepInstanceId : Nat) : Decidable (HasEvidence db stepInstanceId) :=
  decidable_of_iff (checkStepGates .allEnabled db stepInstanceId = true)
    (hasEvidence_iff rfl).symm

namespace HasEvidence

variable {stepInstanceId : Nat}

/-- A write that keeps the requirements, the object rows and the bindings. -/
theorem same {before after : Database} (evidence : HasEvidence before stepInstanceId)
    (requirements : after.requirements.rows = before.requirements.rows)
    (objects : after.objectInstances.rows = before.objectInstances.rows)
    (bindings : after.templateBindings.rows = before.templateBindings.rows) :
    HasEvidence after stepInstanceId := by
  have found : after.templateBindings.find? = before.templateBindings.find? := by
    funext key
    unfold Table.find?
    rw [bindings]
  obtain ⟨approved, valid⟩ := evidence
  constructor
  · unfold Database.requirementsOf Table.select at approved ⊢
    rw [requirements]
    exact approved
  · unfold Database.isMandatoryObject Database.bindingOf Database.objectInstancesOf
      Table.select at valid ⊢
    rw [objects, found]
    exact valid

theorem started {before after : World} {params : StartProcessParams} {row : ProcessInstance}
    (evidence : HasEvidence before.db stepInstanceId) (start : Started params row before after)
    (known : ∃ other ∈ before.db.steps.rows, other.stepInstanceId = stepInstanceId) :
    HasEvidence after.db stepInstanceId := by
  rw [@hasEvidence_iff .allEnabled _ _ rfl] at evidence ⊢
  unfold checkStepGates checkRequirementsOnly at evidence ⊢
  rw [start.requirementsOf known, start.bindings known]
  exact evidence

theorem edits {origin before after : World} {process target : Nat}
    (evidence : HasEvidence before.db stepInstanceId)
    (edits : Edits deployment origin process target before after)
    (known : ∃ other ∈ before.db.steps.rows, other.stepInstanceId = stepInstanceId) :
    HasEvidence after.db stepInstanceId := by
  rw [@hasEvidence_iff .allEnabled _ _ rfl] at evidence ⊢
  unfold checkStepGates checkRequirementsOnly at evidence ⊢
  rw [edits.requirementsOf known, edits.bindings .allEnabled known]
  exact evidence

end HasEvidence

/-! ## Completed steps -/

/-- Every completed step has its evidence. -/
def CompletedProven (db : Database) : Prop :=
  ∀ step ∈ db.steps.rows, step.status = .completed → HasEvidence db step.stepInstanceId

namespace CompletedProven

theorem same {before after : Database} (proven : CompletedProven before)
    (steps : ∀ step ∈ after.steps.rows, step.status = .completed → step ∈ before.steps.rows)
    (requirements : after.requirements.rows = before.requirements.rows)
    (objects : after.objectInstances.rows = before.objectInstances.rows)
    (bindings : after.templateBindings.rows = before.templateBindings.rows) :
    CompletedProven after :=
  fun step member completed =>
    (proven step (steps step member completed) completed).same requirements objects bindings

theorem hostTables {before after : Database} (proven : CompletedProven before)
    (tables : HostTables before after) : CompletedProven after := by
  obtain ⟨_, _, _, _, rfl⟩ := tables
  exact proven.same (fun _ member _ => member) rfl rfl rfl

theorem setInstance {db : Database} (proven : CompletedProven db) (key : Nat)
    (set : ProcessInstance → ProcessInstance)
    (keeps : ∀ row, (set row).processInstanceId = row.processInstanceId) :
    CompletedProven (db.setInstance key set keeps) :=
  proven.same (fun _ member _ => member) rfl rfl rfl

theorem setStep {db : Database} (proven : CompletedProven db) {stepInstanceId : Nat}
    {status : StepStatus} {set : StepInstance → StepInstance} (sets : SetsStatus status set)
    (evidence : status = .completed → HasEvidence db stepInstanceId) :
    CompletedProven (db.setStep stepInstanceId set sets.key) := by
  intro step member completed
  rcases (mem_setStep sets.key).mp member with ⟨old, _, same, rfl⟩ | ⟨untouched, _⟩
  · rw [sets.status] at completed
    rw [sets.key, same]
    exact (evidence completed).same rfl rfl rfl
  · exact (proven step untouched completed).same rfl rfl rfl

theorem started {before after : World} {params : StartProcessParams} {row : ProcessInstance}
    (proven : CompletedProven before.db) (start : Started params row before after) :
    CompletedProven after.db := by
  intro step member completed
  rw [start.steps] at member
  rcases List.mem_append.mp member with old | added
  · exact (proven step old completed).started start ⟨step, old, rfl⟩
  · rcases ProcessInstantiation.addedSteps_status added with ⟨ready, _⟩ | ⟨pending, _⟩
    · rw [completed] at ready
      cases ready
    · rw [completed] at pending
      cases pending

theorem edit {origin before after : World} {process target : Nat}
    (proven : CompletedProven before.db)
    (edit : Edit deployment origin process target before after) : CompletedProven after.db := by
  intro step member completed
  have old := edit.completed_kept member completed
  exact (proven step old completed).edits (.single edit) ⟨step, old, rfl⟩

/-- A requirement row is written so that it stays approved where a completed step
needs it. -/
theorem setRequirement {before after : Database} {key : Nat}
    {set : StepRequirement → StepRequirement}
    {keeps : ∀ row, (set row).requirementInstanceId = row.requirementInstanceId}
    (proven : CompletedProven before)
    (requirements : after.requirements = before.requirements.updateAt key set keeps)
    (step : ∀ row, (set row).stepInstanceId = row.stepInstanceId)
    (mandatory : ∀ row, (set row).isMandatory = row.isMandatory)
    (approved : ∀ row, before.requirements.find? key = some row → row.isMandatory = true →
      StepIs before row.stepInstanceId .completed → (set row).status = .approved)
    (steps : after.steps.rows = before.steps.rows)
    (objects : after.objectInstances.rows = before.objectInstances.rows)
    (bindings : after.templateBindings.rows = before.templateBindings.rows) :
    CompletedProven after := by
  intro owner member completed
  rw [steps] at member
  have evidence := proven owner member completed
  have kept : HasEvidence { after with requirements := before.requirements }
    owner.stepInstanceId := evidence.same rfl objects bindings
  refine ⟨fun row rowMember isMandatory => ?_, kept.objects⟩
  simp only [Database.requirementsOf, Table.mem_select, beq_iff_eq, requirements] at rowMember
  obtain ⟨written, ofStep⟩ := rowMember
  rcases Table.mem_updateAt.mp written with ⟨old, oldMember, same, rfl⟩ | ⟨untouched, _⟩
  · refine approved old (Table.find?_eq_some.mpr ⟨oldMember, same⟩) ((mandatory old) ▸ isMandatory)
      ⟨owner, member, ?_, completed⟩
    rw [← ofStep, step]
  · exact evidence.requirements row (by
      simp [Database.requirementsOf, Table.mem_select, untouched, ofStep]) isMandatory

end CompletedProven

/-! ## Calls that respect completed steps -/

namespace Engine

open ConfigObjectStepExecutor

/-- A call that completes a step does so with its evidence, and a call that writes
evidence of a completed step leaves it complete. -/
def KeepsEvidence (deployment : Deployment) (w : World) : Call → Prop
  | .attemptAdvance target _ => deployment.flags.configObjectStepsEnabled = false →
      ∀ step ∈ w.db.step? target, Runs deployment w step → HasEvidence w.db target
  | .markCompleted target _ => deployment.flags.configObjectStepsEnabled = false →
      ∀ step ∈ w.db.step? target, isCompletable deployment w.db step = true →
        HasEvidence w.db target
  | .handleChildTerminal childProcessInstanceId terminalStatus _ =>
      ∀ link ∈ childLink w.db childProcessInstanceId,
        terminalOutcome terminalStatus link.2.1.onChildFailure = .resume →
          HasEvidence w.db link.2.2
  | .validateByCustomInstanceId configCustomObjectInstanceId _ _ =>
      ∀ link ∈ findLink w.db configCustomObjectInstanceId, link.step.status = .completed →
        w.db.isMandatoryObject link.row = true →
          ∀ row ∈ findCustomInstance w.db configCustomObjectInstanceId link.proc.tenantId,
            completionError w.db link row = none
  | .createSubmission _ requirementInstanceId submittedData =>
      ∀ requirement ∈ w.db.requirements.find? requirementInstanceId,
        requirement.isMandatory = true → StepIs w.db requirement.stepInstanceId .completed →
          (RequirementSubmissions.validateSubmission deployment requirement.jsonSchema
            submittedData).2 = true
  | .updateRequirement requirementInstanceId status =>
      ∀ requirement ∈ w.db.requirements.find? requirementInstanceId,
        requirement.isMandatory = true → StepIs w.db requirement.stepInstanceId .completed →
          status = .approved
  | _ => True

instance (w : World) : ∀ call, Decidable (KeepsEvidence deployment w call)
  | .attemptAdvance target _ => inferInstanceAs (Decidable (_ → ∀ step ∈ w.db.step? target, _ → _))
  | .markCompleted target _ => inferInstanceAs (Decidable (_ → ∀ step ∈ w.db.step? target, _ → _))
  | .handleChildTerminal childProcessInstanceId _ _ =>
      inferInstanceAs (Decidable (∀ link ∈ childLink w.db childProcessInstanceId, _ → _))
  | .validateByCustomInstanceId configCustomObjectInstanceId _ _ =>
      inferInstanceAs (Decidable (∀ link ∈ findLink w.db configCustomObjectInstanceId, _ → _ →
        ∀ row ∈ findCustomInstance w.db configCustomObjectInstanceId link.proc.tenantId, _))
  | .createSubmission _ requirementInstanceId _ =>
      inferInstanceAs (Decidable (∀ requirement ∈ w.db.requirements.find? requirementInstanceId,
        _ → _ → _))
  | .updateRequirement requirementInstanceId _ =>
      inferInstanceAs (Decidable (∀ requirement ∈ w.db.requirements.find? requirementInstanceId,
        _ → _ → _))
  | .startProcess _ | .resumeParent _ _ | .markProcessCompletedIfEligible _
  | .approveSubmission _ | .writeSubmission _ _ | .updateCustomObjectInstance _ _ _ _
  | .listener _ _ => inferInstanceAs (Decidable True)

theorem KeepsEvidence.completes {w : World} {call : Call} {stepInstanceId : Nat}
    (keeps : KeepsEvidence deployment w call)
    (disabled : deployment.flags.configObjectStepsEnabled = false)
    (completes : Completes deployment w call stepInstanceId) :
    (∃ step ∈ w.db.steps.rows, step.stepInstanceId = stepInstanceId) ∧
      HasEvidence w.db stepInstanceId := by
  cases call with
  | attemptAdvance target opts =>
      obtain ⟨rfl, step, found, runs⟩ := completes
      exact ⟨⟨step, Table.mem_of_find? found, Table.key_of_find? found⟩,
        keeps disabled step found runs⟩
  | markCompleted target opts =>
      obtain ⟨rfl, step, found, completable⟩ := completes
      exact ⟨⟨step, Table.mem_of_find? found, Table.key_of_find? found⟩,
        keeps disabled step found completable⟩
  | _ => exact completes.elim

theorem KeepsEvidence.evidence {before after : World} {call : Call}
    (keeps : KeepsEvidence deployment before call) (only : OnlyEvidence before after)
    (requirements : WritesRequirements deployment before call after.db.requirements)
    (proven : CompletedProven before.db) : CompletedProven after.db := by
  have untouched : after.db.requirements = before.db.requirements → CompletedProven after.db := by
    intro same
    obtain ⟨_, _, _, _, _, rfl⟩ := only
    exact proven.same (fun _ member _ => member) (by rw [same]) rfl rfl
  have steps : after.db.steps.rows = before.db.steps.rows := by
    obtain ⟨_, _, _, _, _, rfl⟩ := only
    rfl
  have objects : after.db.objectInstances.rows = before.db.objectInstances.rows := by
    obtain ⟨_, _, _, _, _, rfl⟩ := only
    rfl
  have bindings : after.db.templateBindings.rows = before.db.templateBindings.rows := by
    obtain ⟨_, _, _, _, _, rfl⟩ := only
    rfl
  cases call with
  | createSubmission userId requirementInstanceId submittedData =>
      obtain ⟨requirement, submissionId, time, found, written⟩ := requirements
      refine proven.setRequirement written (fun _ => rfl) (fun _ => rfl) ?_ steps objects bindings
      intro row isRow isMandatory completed
      rw [found] at isRow
      cases isRow
      simp only [RequirementSubmissions.submitted,
        keeps requirement found isMandatory completed, if_true]
  | approveSubmission requirementSubmissionId =>
      obtain ⟨requirementInstanceId, time, written⟩ := requirements
      exact proven.setRequirement written (fun _ => rfl) (fun _ => rfl) (fun _ _ _ _ => rfl)
        steps objects bindings
  | updateRequirement requirementInstanceId status =>
      exact proven.setRequirement requirements (fun _ => rfl) (fun _ => rfl)
        (fun row found isMandatory completed => keeps row found isMandatory completed)
        steps objects bindings
  | writeSubmission => exact untouched requirements
  | updateCustomObjectInstance => exact untouched requirements
  | _ => exact requirements.elim

/-- A validation that fails for no mandatory object of a completed step. -/
theorem KeepsEvidence.validated {before after : World} {configCustomObjectInstanceId : Nat}
    {correlationId : Option String} {advance : Option AdvanceOptions}
    (keeps : KeepsEvidence deployment before
      (.validateByCustomInstanceId configCustomObjectInstanceId correlationId advance))
    (validated : Validated configCustomObjectInstanceId before after)
    (proven : CompletedProven before.db) : CompletedProven after.db := by
  obtain ⟨link, error, payload, events, isLink, ⟨row, isRow, _, verdict⟩, _, rfl⟩ := validated
  obtain ⟨linkMember, isStep⟩ := findLink_eq_some isLink
  intro step member completed
  have evidence := proven step member completed
  refine ⟨evidence.requirements, fun other otherMember => ?_⟩
  simp only [Database.objectInstancesOf, Table.mem_select, beq_iff_eq] at otherMember
  obtain ⟨written, ofStep⟩ := otherMember
  rw [← isBlocking_eq_false]
  rcases (mem_setObjectInstance (recordVerdict_key error payload before.now)).mp written with
    ⟨old, oldMember, same, rfl⟩ | ⟨untouched, _⟩
  · have isRow' : old = link.row := Table.eq_of_key_eq oldMember linkMember same
    subst isRow'
    have sameStep : link.row.stepInstanceId = step.stepInstanceId := by
      rw [← ofStep]
      cases error <;> rfl
    have isLinked : link.step = step := Table.eq_of_key_eq (Table.mem_of_find? isStep) member
      ((Table.key_of_find? isStep).trans sameStep)
    show isBlocking before.db _ = false
    rw [isBlocking_recordVerdict, Bool.and_eq_false_imp]
    intro mandatory
    rw [verdict, keeps link isLink (isLinked ▸ completed) mandatory row isRow]
    rfl
  · exact isBlocking_eq_false.mpr (evidence.objects other (by
      simp [Database.objectInstancesOf, Table.mem_select, untouched, ofStep]))

/-- Every write of a guarded call leaves the completed steps their evidence. -/
theorem KeepsEvidence.keptByWrites {origin : World} {call : Call}
    (keeps : KeepsEvidence deployment origin call) :
    KeptByWrites deployment (fun w => CompletedProven w.db) origin call where
  rolledBack _ rolledBack _ proven := by
    simp only [rolledBack]
    exact proven.same (fun _ member _ => member) rfl rfl rfl
  started _ start _ proven := proven.started start
  edit edit proven := proven.edit edit
  completed {step _ _} isCompleted edits _ _ gates completes proven := by
    obtain ⟨_, sets, tables⟩ := completes.tables
    refine (CompletedProven.setStep proven sets fun _ => ?_).hostTables tables
    cases enabled : deployment.flags.configObjectStepsEnabled with
    | true => exact (hasEvidence_iff enabled).mpr gates
    | false =>
        obtain ⟨known, evidence⟩ := keeps.completes enabled isCompleted
        exact evidence.edits edits known
  settled settlement proven := by
    cases settlement with
    | idle => exact proven
    | child => exact CompletedProven.setInstance proven _ _ _
    | announced _ _ _ _ _ announced =>
        exact (CompletedProven.setInstance proven _ _ _).hostTables announced.tables
  told {_ terminalStatus _ child parent parentStepId _} isCall link told proven := by
    subst isCall
    cases told with
    | paused => exact CompletedProven.setInstance proven _ _ _
    | failed =>
        exact CompletedProven.setStep (CompletedProven.setInstance
          (CompletedProven.setInstance proven _ _ _) _ _ _)
            (setsStatus_canceledByChild origin.now) (fun impossible => by cases impossible)
    | resumed _ _ _ outcome =>
        refine CompletedProven.setStep (CompletedProven.setInstance proven _ _ _)
          (setsStatus_completedByChild origin.now) fun _ => ?_
        exact (keeps (child, parent, parentStepId) link outcome).same rfl rfl rfl
  eligible _ proven := CompletedProven.setInstance proven _ _ _
  validated isCall validated proven := by
    subst isCall
    exact keeps.validated validated proven
  evidence only requirements proven := keeps.evidence only requirements proven
  marked {event} _ proven := by
    obtain ⟨_, shape⟩ := origin.db.markTriggers_shape origin.now
      (EventBridge.metTriggers deployment event none origin)
    simp only [EventBridge.marked, shape]
    exact CompletedProven.same proven (fun _ member _ => member) rfl rfl rfl

/-- In a run whose calls respect the evidence of completed steps, every completed
step has its mandatory requirements approved and its mandatory objects valid or
skipped. -/
theorem completed_evidence {start : State} (fresh : Fresh start) {actions : List Action}
    (guarded : (system deployment).Guarded (Meets (KeepsEvidence deployment)) start actions) :
    ∀ step ∈ ((system deployment).run start actions).world.db.steps.rows,
      step.status = .completed →
        HasEvidence ((system deployment).run start actions).world.db step.stepInstanceId := by
  refine @run_database deployment CompletedProven _
    (fun w call _ effect keeps proven => effect.kept (KeepsEvidence.keptByWrites keeps) proven)
    start ?_ actions guarded
  intro step member
  rw [fresh.steps] at member
  cases member

/-- A service in which a submission is valid if it is true. -/
def acceptsTrue : Deployment :=
  { Deployment.allEnabled with ajvValidate := fun _ data => data == .bool true }

/-- A process with one step, which has one requirement and one object. -/
def oneForm : Templates where
  steps := [.row 1 .manual 1 none]
  requirements := [.row 1]
  triggers := []
  bindings := [.row 1 1]
  configObjects := [.row]

/-- The form is submitted, the object filled in, and the step completed. -/
def formApproved : List Action :=
  [.invoke (.startProcess (.workflow 1 1 .ignore)), .invoke (.createSubmission 1 1 (.bool true)),
    .invoke (.attemptAdvance 1 .none),
    .invoke (.updateCustomObjectInstance 1 1 (some [("field", .num 1)]) none),
    .invoke (.validateByCustomInstanceId 1 none none), .invoke (.markCompleted 1 .none)]

theorem completed_evidence_formApproved :
    StepIs ((system acceptsTrue).run (installed oneForm) formApproved).world.db 1 .completed ∧
      HasEvidence ((system acceptsTrue).run (installed oneForm) formApproved).world.db 1 := by
  have evidence := @completed_evidence acceptsTrue _ (fresh_installed oneForm) formApproved
    (by decide)
  have completed : StepIs ((system acceptsTrue).run (installed oneForm) formApproved).world.db 1
      .completed := by
    decide
  generalize ((system acceptsTrue).run (installed oneForm) formApproved).world.db = db
    at evidence completed ⊢
  refine ⟨completed, ?_⟩
  obtain ⟨step, member, key, isCompleted⟩ := completed
  exact key ▸ evidence step member isCompleted

/-- The form of the completed step is submitted again, with a value that is not valid. -/
def resubmitted : State :=
  (system acceptsTrue).run (installed oneForm)
    (formApproved ++ [.invoke (.createSubmission 1 1 (.bool false))])

/-- The step stays completed, and its requirement is pending. -/
theorem resubmitted_unproven : Reachable acceptsTrue resubmitted ∧
    ¬ ∀ step ∈ resubmitted.world.db.steps.rows, step.status = .completed →
      HasEvidence resubmitted.world.db step.stepInstanceId :=
  ⟨⟨installed oneForm, _, fresh_installed oneForm, rfl⟩, by decide⟩

end Engine

end CoreApi.Automation
