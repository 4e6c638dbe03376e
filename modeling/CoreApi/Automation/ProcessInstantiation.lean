import CoreApi.Automation.ProcessHost

/-!
# Starting a process

`instantiateProcessIn` copies a template into instance rows; `startProcess` is
the facade that checks the subject, instantiates and tells the host.
-/

namespace CoreApi.Automation

open CoreApi.Foundation

/-! ## Instantiation -/

/-- `ProcessInstanceSubjectInput`. -/
structure ProcessInstanceSubjectInput where
  subjectType : SubjectType
  subjectId : Nat
  subjectMetadata : Option Record

/-- `ProcessInstantiationOptions`. -/
structure ProcessInstantiationOptions where
  subject : Option ProcessInstanceSubjectInput
  parentInstanceId : Option Nat
  parentStepId : Option Nat
  onChildFailure : Option OnChildFailurePolicy
  context : Option Record

namespace ProcessInstantiation

/-- The `process_instances` row of a new process. -/
def newProcessInstance (templateId tenantId createdBy : Nat)
    (options : ProcessInstantiationOptions) (time : String) : ProcessInstance where
  processInstanceId := 0
  processTemplateId := templateId
  tenantId := tenantId
  status := .active
  createdBy := createdBy
  startedAt := time
  completedAt := none
  canceledAt := none
  updatedAt := none
  subjectType := (options.subject.map ProcessInstanceSubjectInput.subjectType).getD .workflow
  subjectId := (options.subject.map ProcessInstanceSubjectInput.subjectId).getD 0
  subjectMetadata := options.subject.bind ProcessInstanceSubjectInput.subjectMetadata
  parentInstanceId := options.parentInstanceId
  parentStepId := options.parentStepId
  onChildFailure := options.onChildFailure.getD .pauseParent
  correlationId := none
  context := options.context

/-- `needsSelfSubject`: no subject, or a workflow without an identifier. -/
def needsSelfSubject (options : ProcessInstantiationOptions) : Bool :=
  match options.subject with
  | none => true
  | some subject => subject.subjectType == .workflow && subject.subjectId == 0

/-- The steps of a template, in step order. -/
def templateStepsOf (db : Database) (templateId : Nat) : List TemplateStep :=
  orderBy TemplateStep.stepOrder
    (db.templateSteps.select fun step => step.processTemplateId == templateId)

/-- The instance row of a template step: the first step starts out ready. -/
def newStep (time : String) (processInstanceId : Nat) (step : TemplateStep) : StepInstance where
  stepInstanceId := 0
  processInstanceId := processInstanceId
  processTemplateStepId := step.processTemplateStepId
  name := step.name.getD ("Step " ++ toString step.stepOrder)
  taskType := step.taskType
  stepOrder := step.stepOrder
  isOptional := step.isOptional
  status := if step.stepOrder = 1 then .ready else .pending
  blockedReason := ""
  readyAt := if step.stepOrder = 1 then some time else none
  startedAt := none
  completedAt := none
  canceledAt := none
  updatedAt := time

/-- `tplToInst.get(process_template_step_id)`. -/
def stepInstanceIdFor (steps : List StepInstance) (processTemplateStepId : Nat) : Option Nat :=
  (steps.find? fun step => step.processTemplateStepId == processTemplateStepId).map
    StepInstance.stepInstanceId

/-- The requirement rows copied for the new steps. -/
def newRequirements (db : Database) (steps : List StepInstance) : List StepRequirement :=
  db.templateRequirements.rows.filterMap fun r =>
    (stepInstanceIdFor steps r.processTemplateStepId).map fun stepInstanceId =>
      { requirementInstanceId := 0
        stepInstanceId := stepInstanceId
        processTemplateStepRequirementId := r.processTemplateStepRequirementId
        requirementType := r.requirementType
        requirementKey := r.requirementKey
        jsonSchema := r.jsonSchema
        isMandatory := true
        status := .none
        lastSubmissionId := none
        approvedAt := none
        evaluatedAt := none }

/-- The trigger rows copied for the new steps. -/
def newTriggers (db : Database) (steps : List StepInstance) : List StepTrigger :=
  db.templateTriggers.rows.filterMap fun t =>
    (stepInstanceIdFor steps t.processTemplateStepId).map fun stepInstanceId =>
      { triggerInstanceId := 0
        stepInstanceId := stepInstanceId
        processTemplateStepTriggerConditionId := t.stepTriggerConditionId
        conditionType := t.conditionType
        conditionKey := t.conditionKey
        jsonSchema := t.jsonSchema
        status := .unmet
        metAt := none
        lastEvalAt := none }

/-- The object rows copied for the new steps, all pending. -/
def newObjectInstances (db : Database) (steps : List StepInstance) : List StepObjectInstance :=
  (orderBy TemplateBinding.orderIndex
    (orderBy (fun b => b.bindingId) db.templateBindings.rows)).filterMap fun b =>
    (stepInstanceIdFor steps b.processTemplateStepId).map fun stepInstanceId =>
      { stepObjectInstanceId := 0
        stepInstanceId := stepInstanceId
        bindingId := some b.bindingId
        configObjectId := b.configObjectId
        configCustomObjectInstanceId := none
        status := .pending
        lastError := none
        payloadSnapshot := none
        updatedAt := none }

/-- Insert the process row and return its identifier. -/
def insertProcessInstance (row : ProcessInstance) : Tx Nat :=
  Program.writeReturning fun w =>
    (w.db.processInstances.autoIncrement,
      { w with db := { w.db with processInstances := w.db.processInstances.insert row } })

/-- Insert the steps one by one and return them under their identifiers. -/
def insertSteps (rows : List StepInstance) : Tx (List StepInstance) :=
  Program.writeReturning fun w =>
    (Table.stamp w.db.steps.autoIncrement rows,
      { w with db := { w.db with steps := w.db.steps.insertAll rows } })

/-- Copy requirements, triggers and object bindings for the inserted steps. -/
def insertStepRows (db : Database) (steps : List StepInstance) : Database :=
  { db with
    requirements := db.requirements.insertAll (newRequirements db steps)
    triggers := db.triggers.insertAll (newTriggers db steps)
    objectInstances := db.objectInstances.insertAll (newObjectInstances db steps) }

/-- `instantiateProcessIn`. -/
def instantiateProcessIn (templateId tenantId createdBy : Nat)
    (options : ProcessInstantiationOptions) : Tx Nat := do
  let time ← now
  let processInstanceId ← insertProcessInstance
    (newProcessInstance templateId tenantId createdBy options time)
  Program.when (needsSelfSubject options = true) <|
    writeDb fun db => db.setInstance processInstanceId
      (fun row => { row with subjectId := processInstanceId }) (fun _ => rfl)
  let templates ← Program.read fun w => templateStepsOf w.db templateId
  let steps ← insertSteps (templates.map (newStep time processInstanceId))
  writeDb fun db => insertStepRows db steps
  pure processInstanceId

end ProcessInstantiation

/-! ## The lifecycle facade -/

/-- `StartProcessParams`, without the entity manager a caller may pass. -/
structure StartProcessParams where
  tenantId : Nat
  createdBy : Nat
  templateId : Nat
  subjectType : String
  subjectId : Nat
  subjectMetadata : Option Record
  correlationId : Option String
  context : Option Record
  hostData : Option ProjectHostStartData
  parentInstanceId : Option Nat
  parentStepId : Option Nat
  onChildFailure : Option OnChildFailurePolicy
  skipHostOnStart : Bool

/-- `StartProcessResult`. -/
structure StartProcessResult where
  processInstanceId : Nat
  firstStepInstanceId : Option Nat

namespace ProcessLifecycle

open ProcessInstantiation

variable (deployment : Deployment)

/-- `assertSubjectTierEnabled`. -/
def assertSubjectTierEnabled (subjectType : SubjectType) : Except String Unit :=
  if subjectType = .configCustomObjectInstance ∧
      deployment.flags.tier2InstanceSubjectEnabled = false then
    .error "Standalone instance process subjects are disabled (PROCESS_TIER2_INSTANCE_SUBJECT_ENABLED)"
  else if subjectType = .workflow ∧ deployment.flags.tier3WorkflowSubjectEnabled = false then
    .error "Workflow process subjects are disabled (PROCESS_TIER3_WORKFLOW_SUBJECT_ENABLED)"
  else if subjectType = .scheduledTask ∧ deployment.flags.tier1ScheduledTaskEnabled = false then
    .error "Scheduled task process subjects are disabled (PROCESS_TIER1_SCHEDULED_TASK_ENABLED)"
  else .ok ()

/-- The checks `startProcess` makes before it opens a transaction; they return
the subject type and its host. -/
def checkSubject (subjectType : String) : Except String (SubjectType × ProcessHostAdapter) :=
  match SubjectType.parse subjectType with
  | none => .error ("Unsupported subject_type: " ++ subjectType)
  | some parsed =>
      match ProcessHostRegistry.lookup parsed with
      | none => .error ("No host adapter for subject_type: " ++ subjectType)
      | some adapter =>
          match assertSubjectTierEnabled deployment parsed with
          | .error message => .error message
          | .ok () => .ok (parsed, adapter)

/-- The options `startProcessInTransaction` instantiates with. -/
def instantiationOptions (params : StartProcessParams) (subjectType : SubjectType) :
    ProcessInstantiationOptions where
  subject := some ⟨subjectType, params.subjectId, params.subjectMetadata⟩
  parentInstanceId := params.parentInstanceId
  parentStepId := params.parentStepId
  onChildFailure := some (params.onChildFailure.getD .pauseParent)
  context := params.context

/-- The subject identifier the host sees. -/
def hostSubjectId (params : StartProcessParams) (subjectType : SubjectType)
    (processInstanceId : Nat) : Nat :=
  if subjectType = .workflow then processInstanceId else params.subjectId

/-- The context of `onProcessStarted`. -/
def hostContext (params : StartProcessParams) (subjectType : SubjectType)
    (processInstanceId : Nat) : ProcessHostContext where
  tenantId := params.tenantId
  createdBy := params.createdBy
  processInstanceId := processInstanceId
  templateId := params.templateId
  subjectType := subjectType
  subjectId := hostSubjectId params subjectType processInstanceId
  subjectMetadata := params.subjectMetadata
  correlationId := params.correlationId
  context := params.context
  hostData := params.hostData
  advance := none

/-- `resolveFirstStepInstanceId`. -/
def resolveFirstStepInstanceId (db : Database) (processInstanceId : Nat) : Option Nat :=
  (orderBy StepInstance.stepOrder (db.stepsOf processInstanceId)).head?.map
    StepInstance.stepInstanceId

/-- The event that announces a started process. -/
def processStartedEvent (params : StartProcessParams) (subjectType : SubjectType)
    (processInstanceId : Nat) : DomainEvent where
  eventName := "six1-event.process_started"
  entity := some ⟨"ProcessInstance", processInstanceId⟩
  data := .obj [("processInstanceId", .num processInstanceId),
    ("subjectType", .str subjectType.text),
    ("subjectId", .num (hostSubjectId params subjectType processInstanceId)),
    ("templateId", .num params.templateId)]
  correlationId := none
  tenantId := some params.tenantId

/-- `startProcessInTransaction`. -/
def startProcessInTransaction (params : StartProcessParams) (subjectType : SubjectType)
    (adapter : ProcessHostAdapter) : Tx StartProcessResult := do
  let processInstanceId ← instantiateProcessIn params.templateId params.tenantId
    params.createdBy (instantiationOptions params subjectType)
  Program.when (params.correlationId.getD "" ≠ "") <|
    writeDb fun db => db.setInstance processInstanceId
      (fun row => { row with correlationId := params.correlationId }) (fun _ => rfl)
  Program.when (params.skipHostOnStart = false) <|
    adapter.onProcessStarted (hostContext params subjectType processInstanceId)
  let firstStepInstanceId ← Program.read fun w =>
    resolveFirstStepInstanceId w.db processInstanceId
  Program.when (deployment.flags.subjectModelEnabled = true) <|
    emit (processStartedEvent params subjectType processInstanceId)
  pure ⟨processInstanceId, firstStepInstanceId⟩

/-- `startProcess` inside the caller's transaction. -/
def startProcessIn (params : StartProcessParams) : Tx StartProcessResult :=
  match checkSubject deployment params.subjectType with
  | .error message => Program.raise message
  | .ok (subjectType, adapter) => startProcessInTransaction deployment params subjectType adapter

/-- `startProcess` in a transaction of its own. -/
def startProcess (params : StartProcessParams) : Tx StartProcessResult :=
  transaction (startProcessIn deployment params)

end ProcessLifecycle

end CoreApi.Automation
