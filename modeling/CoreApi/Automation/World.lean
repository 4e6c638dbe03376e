import CoreApi.Automation.Rows
import CoreApi.Foundation.Program

/-!
# The world a service call runs in

`World` is the database together with what a rollback cannot take back: the
domain events handed to the emitter, the jobs put on the automation queue and
the calls made into process hosts. `Tx` is a service call over it. The writes
the engine issues are the functions at the end, one for each table.
-/

namespace CoreApi.Automation

open CoreApi.Foundation

/-! ## State -/

/-- The tables of the process engine, its templates and its hosts. -/
structure Database where
  processInstances : Table ProcessInstance
  steps : Table StepInstance
  requirements : Table StepRequirement
  submissions : Table RequirementSubmission
  triggers : Table StepTrigger
  objectInstances : Table StepObjectInstance
  customInstances : Table CustomObjectInstance
  templateSteps : Table TemplateStep
  templateRequirements : Table TemplateRequirement
  templateTriggers : Table TemplateTrigger
  templateBindings : Table TemplateBinding
  configObjects : Table ConfigObject
  projects : Table Project
  tasks : Table Task
  statusMappings : Table StepStatusMapping
  scheduledTasks : Table ScheduledTask

/-- `normalizeEntityRef` of an event's entity. -/
structure EntityRef where
  entityType : String
  entityId : Nat
deriving DecidableEq

/-- `EventEnvelope`: a domain event as its listeners receive it. -/
structure DomainEvent where
  eventName : String
  entity : Option EntityRef
  data : Json
  correlationId : Option String
  tenantId : Option Nat
deriving DecidableEq

/-- The context `evaluateTriggers` builds for one step. -/
structure TriggerContext where
  tenantId : Option Nat
  processTemplateId : Option Nat
  processInstanceId : Nat
  stepId : Nat
  allRequiredSubmissionsApproved : Bool
  now : String
deriving DecidableEq

/-- A job on the automation queue; `action` is one an `enqueue` action named. -/
inductive Job where
  | timeTrigger (delayMs : Nat) (trigger : TriggerEnvelope) (context : TriggerContext)
  | action (delayMs : Nat) (name : String) (data : Json)
deriving DecidableEq

/-- A call into a process host adapter. -/
inductive HostCall where
  | processStarted (processInstanceId : Nat)
  | stepStateChanged (processInstanceId stepInstanceId : Nat) (engineState : StepStatus)
  | processCompleted (processInstanceId : Nat)
deriving DecidableEq

/-- The database, the effects a rollback does not undo, and the clock. -/
structure World where
  db : Database
  events : List DomainEvent
  queue : List Job
  hostCalls : List HostCall
  now : String

/-- A service call; what it raises is the message of the exception. -/
abbrev Tx (α : Type) := Program World String α

/-- Aborting a transaction restores the rows of every table. -/
def Database.rollback (before after : Database) : Database where
  processInstances := before.processInstances.rollback after.processInstances
  steps := before.steps.rollback after.steps
  requirements := before.requirements.rollback after.requirements
  submissions := before.submissions.rollback after.submissions
  triggers := before.triggers.rollback after.triggers
  objectInstances := before.objectInstances.rollback after.objectInstances
  customInstances := before.customInstances.rollback after.customInstances
  templateSteps := before.templateSteps.rollback after.templateSteps
  templateRequirements := before.templateRequirements.rollback after.templateRequirements
  templateTriggers := before.templateTriggers.rollback after.templateTriggers
  templateBindings := before.templateBindings.rollback after.templateBindings
  configObjects := before.configObjects.rollback after.configObjects
  projects := before.projects.rollback after.projects
  tasks := before.tasks.rollback after.tasks
  statusMappings := before.statusMappings.rollback after.statusMappings
  scheduledTasks := before.scheduledTasks.rollback after.scheduledTasks

/-- Aborting a transaction leaves events, jobs and host calls where they are. -/
def World.rollback (before after : World) : World :=
  { after with db := before.db.rollback after.db }

/-- One transaction: `startTransaction`, then commit, or roll back on a raise. -/
def transaction {α : Type} (body : Tx α) : Tx α := Program.atomically World.rollback body

/-! ## Deployment -/

/-- `ProcessFeatureFlags`. -/
structure ProcessFeatureFlags where
  subjectModelEnabled : Bool
  configObjectStepsEnabled : Bool
  callProcessEnabled : Bool
  tier2InstanceSubjectEnabled : Bool
  tier3WorkflowSubjectEnabled : Bool
  tier1ScheduledTaskEnabled : Bool

/-- The flags of a running service and the libraries it calls: `json-logic-js`
applied to a rule and a context, and an `ajv` schema applied to a document. -/
structure Deployment where
  flags : ProcessFeatureFlags
  jsonLogicApply : Json → Json → Except String Json
  ajvValidate : Json → Json → Bool

/-- `AdvanceOptions`. -/
structure AdvanceOptions where
  cause : Option String
  correlationId : Option String
  actorTenantUserId : Option Nat

/-- The default `opts = {}`. -/
def AdvanceOptions.none : AdvanceOptions where
  cause := Option.none
  correlationId := Option.none
  actorTenantUserId := Option.none

/-! ## Lookups -/

namespace Database

/-- `SELECT … FROM process_instances WHERE process_instance_id = ?`. -/
def instance? (db : Database) (processInstanceId : Nat) : Option ProcessInstance :=
  db.processInstances.find? processInstanceId

/-- `SELECT … FROM process_instance_steps WHERE step_instance_id = ?`. -/
def step? (db : Database) (stepInstanceId : Nat) : Option StepInstance :=
  db.steps.find? stepInstanceId

/-- The steps of a process instance. -/
def stepsOf (db : Database) (processInstanceId : Nat) : List StepInstance :=
  db.steps.select fun step => step.processInstanceId == processInstanceId

/-- The requirements of a step. -/
def requirementsOf (db : Database) (stepInstanceId : Nat) : List StepRequirement :=
  db.requirements.select fun requirement => requirement.stepInstanceId == stepInstanceId

/-- The triggers of a step. -/
def triggersOf (db : Database) (stepInstanceId : Nat) : List StepTrigger :=
  db.triggers.select fun trigger => trigger.stepInstanceId == stepInstanceId

/-- The object instances of a step. -/
def objectInstancesOf (db : Database) (stepInstanceId : Nat) : List StepObjectInstance :=
  db.objectInstances.select fun row => row.stepInstanceId == stepInstanceId

/-- `LEFT JOIN process_template_step_object_bindings b ON b.binding_id = oi.binding_id`. -/
def bindingOf (db : Database) (row : StepObjectInstance) : Option TemplateBinding :=
  row.bindingId.bind db.templateBindings.find?

/-- `COALESCE(b.is_mandatory, 1) = 1`. -/
def isMandatoryObject (db : Database) (row : StepObjectInstance) : Bool :=
  match db.bindingOf row with
  | some binding => binding.isMandatory
  | none => true

end Database

/-! ## Writes -/

/-- Change the database. -/
def writeDb (update : Database → Database) : Tx Unit :=
  Program.write fun w => { w with db := update w.db }

/-- `events.emit`, also `events.emitAsync`: the event reaches the emitter. -/
def emit (event : DomainEvent) : Tx Unit :=
  Program.write fun w => { w with events := w.events ++ [event] }

/-- `queue.add`: every call creates one job. -/
def enqueue (job : Job) : Tx Unit :=
  Program.write fun w => { w with queue := w.queue ++ [job] }

/-- Record a call into a process host. -/
def callHost (call : HostCall) : Tx Unit :=
  Program.write fun w => { w with hostCalls := w.hostCalls ++ [call] }

/-- The current time. -/
def now : Tx String := Program.read World.now

section Rules

variable {α : Type} {ok : Unit → World → Prop} {err : String → World → Prop} {w : World}

@[simp] theorem wp_writeDb (update : Database → Database) :
    Program.wp (writeDb update) ok err w ↔ ok () { w with db := update w.db } := Iff.rfl

@[simp] theorem wp_emit (event : DomainEvent) :
    Program.wp (emit event) ok err w ↔ ok () { w with events := w.events ++ [event] } := Iff.rfl

@[simp] theorem wp_callHost (call : HostCall) :
    Program.wp (callHost call) ok err w ↔
      ok () { w with hostCalls := w.hostCalls ++ [call] } := Iff.rfl

@[simp] theorem wp_now (ok : String → World → Prop) :
    Program.wp now ok err w ↔ ok w.now w := Iff.rfl

@[simp] theorem wp_transaction (body : Tx α) (ok : α → World → Prop) :
    Program.wp (transaction body) ok err w ↔
      Program.wp body ok (fun e after => err e (w.rollback after)) w :=
  Program.wp_atomically World.rollback body

end Rules

/-- `UPDATE process_instances SET … WHERE process_instance_id = ?`. -/
def Database.setInstance (db : Database) (processInstanceId : Nat)
    (set : ProcessInstance → ProcessInstance)
    (keeps : ∀ row, (set row).processInstanceId = row.processInstanceId) : Database :=
  { db with processInstances := db.processInstances.updateAt processInstanceId set keeps }

/-- `UPDATE process_instance_steps SET … WHERE step_instance_id = ?`. -/
def Database.setStep (db : Database) (stepInstanceId : Nat) (set : StepInstance → StepInstance)
    (keeps : ∀ row, (set row).stepInstanceId = row.stepInstanceId) : Database :=
  { db with steps := db.steps.updateAt stepInstanceId set keeps }

/-- `UPDATE process_instance_step_triggers SET … WHERE trigger_instance_id = ?`. -/
def Database.setTrigger (db : Database) (triggerInstanceId : Nat)
    (set : StepTrigger → StepTrigger)
    (keeps : ∀ row, (set row).triggerInstanceId = row.triggerInstanceId) : Database :=
  { db with triggers := db.triggers.updateAt triggerInstanceId set keeps }

/-- `UPDATE process_instance_step_object_instances SET …
WHERE step_object_instance_id = ?`. -/
def Database.setObjectInstance (db : Database) (stepObjectInstanceId : Nat)
    (set : StepObjectInstance → StepObjectInstance)
    (keeps : ∀ row, (set row).stepObjectInstanceId = row.stepObjectInstanceId) : Database :=
  { db with objectInstances := db.objectInstances.updateAt stepObjectInstanceId set keeps }

/-- `UPDATE process_instance_step_requirements SET …
WHERE requirement_instance_id = ?`. -/
def Database.setRequirement (db : Database) (requirementInstanceId : Nat)
    (set : StepRequirement → StepRequirement)
    (keeps : ∀ row, (set row).requirementInstanceId = row.requirementInstanceId) : Database :=
  { db with requirements := db.requirements.updateAt requirementInstanceId set keeps }

end CoreApi.Automation
