import CoreApi.Foundation.Json
import CoreApi.Foundation.Table

/-!
# Rows of the process tables

One structure for each table the process engine reads or writes, with the
columns it uses. Enumerated columns are inductive types; JSON columns whose
shape the engine relies on are parsed into the types below.
-/

namespace CoreApi.Automation

open CoreApi.Foundation

/-! ## Enumerations -/

/-- `process_instance_steps.status`, the `ProcessEngineState` of a step. -/
inductive StepStatus where
  | pending | ready | inProgress | completed | blocked | canceled
deriving DecidableEq

/-- `process_instance_steps.task_type`. -/
inductive TaskType where
  | manual | automated | callProcess | configObject
deriving DecidableEq

/-- `process_instances.status`. -/
inductive InstanceStatus where
  | draft | active | completed | canceled
deriving DecidableEq

/-- `process_instances.on_child_failure`. -/
inductive OnChildFailurePolicy where
  | ignore | pauseParent | failParent
deriving DecidableEq

/-- `process_template_steps.child_subject_policy`. -/
inductive ChildSubjectPolicy where
  | inherit | workflow | configInstance
deriving DecidableEq

/-- The subject vocabulary of `process-subject.constants.ts`. -/
inductive SubjectType where
  | project | scheduledTask | configCustomObjectInstance | workflow | sorEntity
deriving DecidableEq

/-- `process_instance_step_requirements.status`, also that of a submission. -/
inductive RequirementStatus where
  | none | pending | approved | rejected
deriving DecidableEq

/-- `process_instance_step_triggers.status`. -/
inductive TriggerStatus where
  | unmet | met
deriving DecidableEq

/-- `process_template_step_object_bindings.binding_mode`. -/
inductive TemplateBindingMode where
  | createOnEnter | useExisting
deriving DecidableEq

/-- `process_instance_step_object_instances.status`. -/
inductive StepObjectStatus where
  | pending | active | valid | failed | skipped
deriving DecidableEq

/-- `config_objects.binding_mode`. -/
inductive ConfigBindingMode where
  | sorBound | standalone | systemTable
deriving DecidableEq

/-- `config_custom_object_instances.status`. -/
inductive CustomInstanceStatus where
  | draft | published | archived
deriving DecidableEq

/-- `tasks.status_control`. -/
inductive StatusControl where
  | manual | process | hybrid
deriving DecidableEq

/-- `scheduled_tasks.status`. -/
inductive ScheduledTaskStatus where
  | scheduled | queued | running | completed | failed | cancelled | paused | expired
deriving DecidableEq

/-- `projects.status`. -/
inductive ProjectStatus where
  | active | completed | canceled | onHold | archived
deriving DecidableEq

/-- The text of a subject type in `process_instances.subject_type`. -/
def SubjectType.text : SubjectType → String
  | .project => "project"
  | .scheduledTask => "scheduled_task"
  | .configCustomObjectInstance => "config_custom_object_instance"
  | .workflow => "workflow"
  | .sorEntity => "sor_entity"

/-- `isProcessSubjectType`, returning the member of the vocabulary it found. -/
def SubjectType.parse (value : String) : Option SubjectType :=
  [SubjectType.project, .scheduledTask, .configCustomObjectInstance, .workflow, .sorEntity].find?
    fun subjectType => subjectType.text == value

/-- A step engine state as the source spells it. -/
def StepStatus.text : StepStatus → String
  | .pending => "pending"
  | .ready => "ready"
  | .inProgress => "in_progress"
  | .completed => "completed"
  | .blocked => "blocked"
  | .canceled => "canceled"

/-- An instance status of `config_custom_object_instances` as the source spells it. -/
def CustomInstanceStatus.text : CustomInstanceStatus → String
  | .draft => "DRAFT"
  | .published => "PUBLISHED"
  | .archived => "ARCHIVED"

/-! ## Trigger envelopes -/

/-- A job an action puts on the automation queue. -/
structure EnqueueAction where
  queue : String
  job : String
  payload : Option Json
  delayMs : Option Int
deriving DecidableEq

/-- One entry of `actionsOnMet`. -/
structure TriggerAction where
  emit : Option String
  enqueue : Option EnqueueAction
deriving DecidableEq

/-- `TriggerEnvelope`; `unknown` is a `type` the engine has no case for. -/
inductive TriggerEnvelope where
  | jsonlogic (logic : Json) (actionsOnMet : List TriggerAction)
  | time (after : String) (actionsOnMet : List TriggerAction)
  | event (eventName : String) (whereRule : Json) (actionsOnMet : List TriggerAction)
  | unknown (type : String)
deriving DecidableEq

/-- `RequirementEnvelope`. -/
structure RequirementEnvelope where
  autoApproveOnValid : Bool
  schema : Json

/-! ## Instance tables -/

/-- `process_instances`. -/
structure ProcessInstance where
  processInstanceId : Nat
  processTemplateId : Nat
  tenantId : Nat
  status : InstanceStatus
  createdBy : Nat
  startedAt : String
  completedAt : Option String
  canceledAt : Option String
  updatedAt : Option String
  subjectType : SubjectType
  subjectId : Nat
  subjectMetadata : Option Record
  parentInstanceId : Option Nat
  parentStepId : Option Nat
  onChildFailure : OnChildFailurePolicy
  correlationId : Option String
  context : Option Record

/-- `process_instance_steps`. -/
structure StepInstance where
  stepInstanceId : Nat
  processInstanceId : Nat
  processTemplateStepId : Nat
  name : String
  taskType : TaskType
  stepOrder : Int
  isOptional : Bool
  status : StepStatus
  blockedReason : String
  readyAt : Option String
  startedAt : Option String
  completedAt : Option String
  canceledAt : Option String
  updatedAt : String

/-- `process_instance_step_requirements`. -/
structure StepRequirement where
  requirementInstanceId : Nat
  stepInstanceId : Nat
  processTemplateStepRequirementId : Nat
  requirementType : String
  requirementKey : String
  jsonSchema : RequirementEnvelope
  isMandatory : Bool
  status : RequirementStatus
  lastSubmissionId : Option Nat
  approvedAt : Option String
  evaluatedAt : Option String

/-- `process_instance_step_requirement_submissions`. -/
structure RequirementSubmission where
  requirementSubmissionId : Nat
  requirementInstanceId : Nat
  submittedData : Json
  isValid : Bool
  status : RequirementStatus
  createdBy : Nat

/-- `process_instance_step_triggers`. -/
structure StepTrigger where
  triggerInstanceId : Nat
  stepInstanceId : Nat
  processTemplateStepTriggerConditionId : Nat
  conditionType : String
  conditionKey : String
  jsonSchema : TriggerEnvelope
  status : TriggerStatus
  metAt : Option String
  lastEvalAt : Option String

/-- `process_instance_step_object_instances`. -/
structure StepObjectInstance where
  stepObjectInstanceId : Nat
  stepInstanceId : Nat
  bindingId : Option Nat
  configObjectId : Nat
  configCustomObjectInstanceId : Option Nat
  status : StepObjectStatus
  lastError : Option String
  payloadSnapshot : Option Record
  updatedAt : Option String

/-- `config_custom_object_instances`. -/
structure CustomObjectInstance where
  configCustomObjectInstanceId : Nat
  tenantId : Nat
  configObjectId : Nat
  payload : Option Record
  status : CustomInstanceStatus
  createdBy : Nat

/-! ## Template tables -/

/-- `process_template_steps`; `name` is what the correlated subquery over
`process_template_step_descriptions` selects. -/
structure TemplateStep where
  processTemplateStepId : Nat
  processTemplateId : Nat
  name : Option String
  taskType : TaskType
  stepOrder : Int
  isOptional : Bool
  childTemplateId : Option Nat
  childSubjectPolicy : ChildSubjectPolicy
  childContextPatch : Option Record

/-- `process_template_step_requirements`. -/
structure TemplateRequirement where
  processTemplateStepRequirementId : Nat
  processTemplateStepId : Nat
  requirementType : String
  requirementKey : String
  jsonSchema : RequirementEnvelope

/-- `process_template_step_trigger_conditions`. -/
structure TemplateTrigger where
  stepTriggerConditionId : Nat
  processTemplateStepId : Nat
  conditionType : String
  conditionKey : String
  jsonSchema : TriggerEnvelope

/-- `process_template_step_object_bindings`. -/
structure TemplateBinding where
  bindingId : Nat
  processTemplateStepId : Nat
  configObjectId : Nat
  bindingMode : TemplateBindingMode
  isMandatory : Bool
  completionRule : Record
  orderIndex : Int

/-- `config_objects`. -/
structure ConfigObject where
  configObjectId : Nat
  objectType : String
  bindingMode : ConfigBindingMode

/-! ## Host tables -/

/-- `projects`. -/
structure Project where
  projectId : Nat
  processInstanceId : Option Nat
  status : ProjectStatus
  completedAt : Option String

/-- `tasks`. -/
structure Task where
  taskId : Nat
  projectId : Nat
  tenantId : Nat
  stepInstanceId : Option Nat
  name : String
  taskStatusId : Nat
  statusControl : StatusControl

/-- `project_step_status_mappings`. -/
structure StepStatusMapping where
  mappingId : Nat
  projectId : Nat
  stepInstanceId : Option Nat
  stepEngineState : StepStatus
  taskStatusId : Nat

/-- `scheduled_tasks`, with the columns the process host writes. -/
structure ScheduledTask where
  scheduledTaskId : Nat
  tenantId : Nat
  processInstanceId : Option Nat
  status : ScheduledTaskStatus
  isActive : Bool
  actualStartUtc : Option String
  actualEndUtc : Option String
  updatedBy : Option Nat

/-! ## Primary keys -/

instance : Keyed ProcessInstance where
  key := ProcessInstance.processInstanceId
  withKey n row := { row with processInstanceId := n }
  key_withKey _ _ := rfl

instance : Keyed StepInstance where
  key := StepInstance.stepInstanceId
  withKey n row := { row with stepInstanceId := n }
  key_withKey _ _ := rfl

instance : Keyed StepRequirement where
  key := StepRequirement.requirementInstanceId
  withKey n row := { row with requirementInstanceId := n }
  key_withKey _ _ := rfl

instance : Keyed RequirementSubmission where
  key := RequirementSubmission.requirementSubmissionId
  withKey n row := { row with requirementSubmissionId := n }
  key_withKey _ _ := rfl

instance : Keyed StepTrigger where
  key := StepTrigger.triggerInstanceId
  withKey n row := { row with triggerInstanceId := n }
  key_withKey _ _ := rfl

instance : Keyed StepObjectInstance where
  key := StepObjectInstance.stepObjectInstanceId
  withKey n row := { row with stepObjectInstanceId := n }
  key_withKey _ _ := rfl

instance : Keyed CustomObjectInstance where
  key := CustomObjectInstance.configCustomObjectInstanceId
  withKey n row := { row with configCustomObjectInstanceId := n }
  key_withKey _ _ := rfl

instance : Keyed TemplateStep where
  key := TemplateStep.processTemplateStepId
  withKey n row := { row with processTemplateStepId := n }
  key_withKey _ _ := rfl

instance : Keyed TemplateRequirement where
  key := TemplateRequirement.processTemplateStepRequirementId
  withKey n row := { row with processTemplateStepRequirementId := n }
  key_withKey _ _ := rfl

instance : Keyed TemplateTrigger where
  key := TemplateTrigger.stepTriggerConditionId
  withKey n row := { row with stepTriggerConditionId := n }
  key_withKey _ _ := rfl

instance : Keyed TemplateBinding where
  key := TemplateBinding.bindingId
  withKey n row := { row with bindingId := n }
  key_withKey _ _ := rfl

instance : Keyed ConfigObject where
  key := ConfigObject.configObjectId
  withKey n row := { row with configObjectId := n }
  key_withKey _ _ := rfl

instance : Keyed Project where
  key := Project.projectId
  withKey n row := { row with projectId := n }
  key_withKey _ _ := rfl

instance : Keyed Task where
  key := Task.taskId
  withKey n row := { row with taskId := n }
  key_withKey _ _ := rfl

instance : Keyed StepStatusMapping where
  key := StepStatusMapping.mappingId
  withKey n row := { row with mappingId := n }
  key_withKey _ _ := rfl

instance : Keyed ScheduledTask where
  key := ScheduledTask.scheduledTaskId
  withKey n row := { row with scheduledTaskId := n }
  key_withKey _ _ := rfl

end CoreApi.Automation
