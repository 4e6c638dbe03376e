import CoreApi.Automation.Engine

/-!
# An engine before its first process

`installed` is the state in which templates are stored and nothing was started;
every run of the engine begins in such a state. Row functions for the template
tables fill in what a step, a trigger or a binding does not care about.
-/

namespace CoreApi.Automation

open CoreApi.Foundation

/-- What is stored before the first process starts. -/
structure Templates where
  steps : List TemplateStep
  requirements : List TemplateRequirement
  triggers : List TemplateTrigger
  bindings : List TemplateBinding
  configObjects : List ConfigObject

/-- A template step under an order; its key is its place in the list of steps. -/
def TemplateStep.row (processTemplateId : Nat) (taskType : TaskType) (stepOrder : Int)
    (childTemplateId : Option Nat) : TemplateStep where
  processTemplateStepId := 0
  processTemplateId := processTemplateId
  name := none
  taskType := taskType
  stepOrder := stepOrder
  isOptional := false
  childTemplateId := childTemplateId
  childSubjectPolicy := .workflow
  childContextPatch := none

/-- A requirement of a template step whose valid submissions are approved at once. -/
def TemplateRequirement.row (processTemplateStepId : Nat) : TemplateRequirement where
  processTemplateStepRequirementId := 0
  processTemplateStepId := processTemplateStepId
  requirementType := "form"
  requirementKey := ""
  jsonSchema := { autoApproveOnValid := true, schema := .obj [] }

/-- A trigger condition of a template step. -/
def TemplateTrigger.row (processTemplateStepId : Nat) (envelope : TriggerEnvelope) : TemplateTrigger where
  stepTriggerConditionId := 0
  processTemplateStepId := processTemplateStepId
  conditionType := "trigger"
  conditionKey := ""
  jsonSchema := envelope

/-- A mandatory `create_on_enter` binding of a template step. -/
def TemplateBinding.row (processTemplateStepId configObjectId : Nat) : TemplateBinding where
  bindingId := 0
  processTemplateStepId := processTemplateStepId
  configObjectId := configObjectId
  bindingMode := .createOnEnter
  isMandatory := true
  completionRule := []
  orderIndex := 0

/-- A config object that processes may create instances of. -/
def ConfigObject.row : ConfigObject where
  configObjectId := 0
  objectType := "record"
  bindingMode := .standalone

/-- The database in which the templates are stored. -/
def Templates.install (templates : Templates) : Database where
  processInstances := .empty _
  steps := .empty _
  requirements := .empty _
  submissions := .empty _
  triggers := .empty _
  objectInstances := .empty _
  customInstances := .empty _
  templateSteps := .ofRows templates.steps
  templateRequirements := .ofRows templates.requirements
  templateTriggers := .ofRows templates.triggers
  templateBindings := .ofRows templates.bindings
  configObjects := .ofRows templates.configObjects
  projects := .empty _
  tasks := .empty _
  statusMappings := .empty _
  scheduledTasks := .empty _

/-- A service with every feature switched on. Its rules are constants: a rule
that is not an object applies to itself. -/
def Deployment.allEnabled : Deployment where
  flags :=
    { subjectModelEnabled := true
      configObjectStepsEnabled := true
      callProcessEnabled := true
      tier2InstanceSubjectEnabled := true
      tier3WorkflowSubjectEnabled := true
      tier1ScheduledTaskEnabled := true }
  jsonLogicApply := fun rule _ => .ok rule
  ajvValidate := fun _ _ => true

/-- A workflow of a tenant under a template. -/
def StartProcessParams.workflow (tenantId templateId : Nat) (policy : OnChildFailurePolicy) :
    StartProcessParams where
  tenantId := tenantId
  createdBy := 1
  templateId := templateId
  subjectType := "workflow"
  subjectId := 0
  subjectMetadata := none
  correlationId := none
  context := none
  hostData := none
  parentInstanceId := none
  parentStepId := none
  onChildFailure := some policy
  skipHostOnStart := false

/-- A process that calls a process that calls a third one. -/
def nestedCalls : Templates where
  steps := [.row 1 .manual 1 none, .row 1 .callProcess 2 (some 2), .row 2 .manual 1 none,
    .row 2 .callProcess 2 (some 3), .row 3 .manual 1 none]
  requirements := []
  triggers := []
  bindings := []
  configObjects := []

namespace Engine

/-- The engine in which templates are stored and nothing was started. -/
def installed (templates : Templates) : State where
  world := { db := templates.install, events := [], queue := [], hostCalls := [], now := "" }
  tasks := []

theorem fresh_installed (templates : Templates) : Fresh (installed templates) :=
  ⟨rfl, rfl, rfl, rfl, rfl, rfl, rfl, rfl, rfl, rfl⟩

end Engine

end CoreApi.Automation
