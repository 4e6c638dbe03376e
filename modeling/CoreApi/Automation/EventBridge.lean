import CoreApi.Automation.RequirementSubmissions

/-!
# The automation event bridge and the queue worker

What the listeners of `AutomationEventBridgeListener` do with a domain event,
and the worker with a job. `onAnyDomainEvent` takes the event name as a second
argument, which its caller may leave undefined.
-/

namespace CoreApi.Automation

open CoreApi.Foundation

namespace EventBridge

variable (deployment : Deployment)

/-! ## Targets of an event -/

/-- The options a listener hands to the orchestrator. -/
def listenerOptions (event : DomainEvent) (actor : Json) : AdvanceOptions where
  cause := some "event"
  correlationId := event.correlationId
  actorTenantUserId := if actor.truthy = true then actor.toId else none

/-- `payload?.entity?.entityId`. -/
def entityId (event : DomainEvent) : Json := .ofId (event.entity.map EntityRef.entityId)

/-- The parent step `onProcessChildCompleted` resumes. -/
def resumedStep (event : DomainEvent) : Option Nat :=
  if deployment.flags.callProcessEnabled = false then none
  else if (event.data.field "resumedParent").truthy = false then none
  else (event.data.field "parentStepInstanceId").toId

/-- The step `onProcessStepObjectValidated` advances. -/
def validatedStep (event : DomainEvent) : Option Nat :=
  if deployment.flags.configObjectStepsEnabled = false then none
  else ((event.data.field "stepInstanceId").orElse (event.data.field "step_instance_id")).toId

/-- The configurable instance `onConfigObjectInstanceUpdated` validates. -/
def updatedInstance (event : DomainEvent) : Option Nat :=
  if deployment.flags.configObjectStepsEnabled = false then none
  else (((event.data.field "configCustomObjectInstanceId").orElse
    (event.data.field "config_custom_object_instance_id")).orElse (entityId event)).toId

/-- The user `onConfigObjectInstanceUpdated` acts as. -/
def updatedBy (event : DomainEvent) : Json :=
  (((event.data.field "updatedBy").orElse (event.data.field "updated_by")).orElse
    (event.data.field "userId")).orElse (.num 1)

/-- The step `findStepIdByRequirement` finds for `onRequirementEvent`. -/
def requirementStep (db : Database) (event : DomainEvent) : Option Nat :=
  let requirementInstanceId := ((event.data.field "requirementInstanceId").orElse
    (event.data.field "requirement_instance_id")).orElse (entityId event)
  requirementInstanceId.toId.bind fun id =>
    (db.requirements.find? id).map StepRequirement.stepInstanceId

/-! ## Event triggers -/

/-- The process instance an event names. -/
def eventProcess (event : DomainEvent) : Json :=
  (event.data.field "processInstanceId").orElse (event.data.field "process_instance_id")

/-- The subquery on the process instance, where the event names one. -/
def inScope (db : Database) (event : DomainEvent) (trigger : StepTrigger) : Bool :=
  let processInstanceId := eventProcess event
  if processInstanceId.truthy = true then
    match db.step? trigger.stepInstanceId with
    | some step => processInstanceId.toNumber == some (step.processInstanceId : Int)
    | none => false
  else true

/-- An unmet event trigger that listens to the name; an undefined name is `NULL`
in the query, which equals nothing. -/
def listensTo (eventName : Option String) (trigger : StepTrigger) : Bool :=
  match trigger.jsonSchema with
  | .event listened _ _ => some listened == eventName && trigger.status == .unmet
  | _ => false

/-- The rows `onAnyDomainEvent` selects. -/
def candidates (db : Database) (event : DomainEvent) (eventName : Option String) :
    List StepTrigger :=
  db.triggers.select fun trigger => listensTo eventName trigger && inScope db event trigger

/-- The JSON of `payload?.entity ?? {}`. -/
def entityJson (event : DomainEvent) : Json :=
  match event.entity with
  | some entity => .obj [("entityType", .str entity.entityType),
      ("entityId", .num entity.entityId)]
  | none => .obj []

/-- The context a where-rule is applied to. -/
def eventContext (event : DomainEvent) (eventName : Option String) (time : String) : Json :=
  .obj [("eventName", (eventName.map Json.str).getD .null),
    ("tenantId", .ofId event.tenantId),
    ("payload", event.data.orElse (.obj [])),
    ("entity", entityJson event),
    ("processInstanceId", eventProcess event),
    ("now", .str time)]

/-- `where ? !!jsonLogic.apply(where, ctx) : true`. -/
def passes (event : DomainEvent) (eventName : Option String) (time : String)
    (trigger : StepTrigger) : Except String Bool :=
  match trigger.jsonSchema with
  | .event _ whereRule _ =>
      if whereRule.truthy = true then
        TriggerEngine.ruleHolds deployment whereRule (eventContext event eventName time)
      else .ok true
  | _ => .ok true

/-- Mark one selected row met when its where-rule passes; the result is the step
it adds to `metStepIds`. -/
def markMet (event : DomainEvent) (eventName : Option String) (trigger : StepTrigger) :
    Tx (List Nat) := do
  let time ← now
  let pass ← Program.lift (passes deployment event eventName time trigger)
  if pass = true then do
    writeDb fun db => db.setTrigger trigger.triggerInstanceId
      (StepOrchestrator.metTrigger time) (fun _ => rfl)
    pure [trigger.stepInstanceId]
  else pure []

/-- The loop over the selected rows. -/
def markAllMet (event : DomainEvent) (eventName : Option String) :
    List StepTrigger → Tx (List Nat)
  | [] => pure []
  | trigger :: rest => do
      let first ← markMet deployment event eventName trigger
      let others ← markAllMet event eventName rest
      pure (first ++ others)

/-- The first part of `onAnyDomainEvent`: the steps with a trigger it marked met. -/
def metStepIds (event : DomainEvent) (eventName : Option String) : Tx (List Nat) := do
  let rows ← Program.read fun w => candidates w.db event eventName
  let stepIds ← markAllMet deployment event eventName rows
  pure stepIds.eraseDups

/-- The options `onAnyDomainEvent` and `onRequirementEvent` advance with. -/
def eventOptions (event : DomainEvent) : AdvanceOptions :=
  { AdvanceOptions.none with cause := some "event", correlationId := event.correlationId }

/-! ## The listeners -/

/-- `onProcessChildCompleted`. -/
def onProcessChildCompleted (event : DomainEvent) : Tx Unit :=
  match resumedStep deployment event with
  | none => pure ()
  | some parentStepInstanceId =>
      StepOrchestrator.resumeParentAfterChildCallProcess deployment parentStepInstanceId
        (listenerOptions event (event.data.field "actorTenantUserId"))

/-- `onProcessStepObjectValidated`. -/
def onProcessStepObjectValidated (event : DomainEvent) : Tx Unit :=
  match validatedStep deployment event with
  | none => pure ()
  | some stepInstanceId =>
      StepOrchestrator.attemptAdvance deployment stepInstanceId
        (listenerOptions event (event.data.field "updatedBy"))

/-- The step to advance after a configurable instance was validated. -/
def advancedByValidation (result : ConfigObjectStepExecutor.ValidationResult) : Option Nat :=
  if result.valid = true then result.stepInstanceId else none

/-- `onConfigObjectInstanceUpdated`. -/
def onConfigObjectInstanceUpdated (event : DomainEvent) : Tx Unit :=
  match updatedInstance deployment event with
  | none => pure ()
  | some configCustomObjectInstanceId => do
      let result ← ConfigObjectStepExecutor.validateByCustomInstanceId deployment
        configCustomObjectInstanceId event.correlationId
      match advancedByValidation result with
      | none => pure ()
      | some stepInstanceId =>
          StepOrchestrator.attemptAdvance deployment stepInstanceId
            (listenerOptions event (updatedBy event))

/-- `onRequirementEvent`. -/
def onRequirementEvent (event : DomainEvent) : Tx Unit := do
  let stepId ← Program.read fun w => requirementStep w.db event
  match stepId with
  | none => pure ()
  | some stepInstanceId =>
      StepOrchestrator.attemptAdvance deployment stepInstanceId (eventOptions event)

/-- `onAnyDomainEvent`. -/
def onAnyDomainEvent (event : DomainEvent) (eventName : Option String) : Tx Unit := do
  let stepIds ← metStepIds deployment event eventName
  Program.forEach (fun stepId =>
    StepOrchestrator.attemptAdvance deployment stepId (eventOptions event)) stepIds

/-! ## The worker -/

/-- The step a job makes the worker advance; its context carries no correlation. -/
def jobStep : Job → Option Nat
  | .timeTrigger _ _ context => if context.stepId = 0 then none else some context.stepId
  | .action _ _ _ => none

/-- The options the worker advances with. -/
def workerOptions : AdvanceOptions := { AdvanceOptions.none with cause := some "timer" }

/-- The processor of `AutomationQueueWorker`. -/
def processJob (job : Job) : Tx Unit :=
  match jobStep job with
  | none => pure ()
  | some stepId => StepOrchestrator.attemptAdvance deployment stepId workerOptions

end EventBridge

end CoreApi.Automation
