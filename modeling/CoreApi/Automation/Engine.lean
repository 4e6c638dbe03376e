import CoreApi.Automation.EventBridge
import CoreApi.Foundation.StepSystem

/-!
# The engine as a transition system

The services above run concurrently: each as a sequence of transactions, with
anything in between. A `Call` is what one of them does up to its next commit;
`perform` runs it and returns the calls that follow in the same service call. A
`State` is the world and the service calls in flight, among them a listener call
for every event that was emitted and not yet handled. Transactions lock the rows
they read first, so they are taken as atomic.
-/

namespace CoreApi.Automation

open CoreApi.Foundation

namespace Engine

variable (deployment : Deployment)

/-! ## Calls -/

/-- The listeners of the event bridge. -/
inductive Listener where
  | childCompleted | objectValidated | instanceUpdated | requirement | anyDomainEvent
deriving DecidableEq

/-- The listeners in the order of the class. -/
def listeners : List Listener :=
  [.childCompleted, .objectValidated, .instanceUpdated, .requirement, .anyDomainEvent]

/-- The segments of an event name. -/
def segments (eventName : String) : List (List Char) := eventName.toList.splitOn '.'

/-- Whether the `@OnEvent` pattern of a listener matches an event name; `*` is
exactly one segment. -/
def Listener.matches (listener : Listener) (eventName : String) : Bool :=
  match listener with
  | .childCompleted => eventName == "six1-event.process_child_completed"
  | .objectValidated => eventName == "six1-event.process_step_object_validated"
  | .instanceUpdated => eventName == "six1-event.config_object_instance.updated"
  | .requirement =>
      match segments eventName with
      | [service, subject, _] =>
          service == "six1-event".toList && subject == "requirement".toList
      | _ => false
  | .anyDomainEvent =>
      match segments eventName with
      | [service, _] => service == "six1-event".toList
      | _ => false

/-- What a service call does up to its next commit. -/
inductive Call where
  | startProcess (params : StartProcessParams)
  | attemptAdvance (stepInstanceId : Nat) (opts : AdvanceOptions)
  | markCompleted (stepInstanceId : Nat) (opts : AdvanceOptions)
  | resumeParent (parentStepInstanceId : Nat) (opts : AdvanceOptions)
  | handleChildTerminal (childProcessInstanceId : Nat) (terminalStatus : TerminalStatus)
      (opts : AdvanceOptions)
  | markProcessCompletedIfEligible (processInstanceId : Nat)
  | validateByCustomInstanceId (configCustomObjectInstanceId : Nat)
      (correlationId : Option String) (advance : Option AdvanceOptions)
  | createSubmission (userId requirementInstanceId : Nat) (submittedData : Json)
  | approveSubmission (requirementSubmissionId : Nat)
  | writeSubmission (requirementSubmissionId : Nat) (status : RequirementStatus)
  | updateRequirement (requirementInstanceId : Nat) (status : RequirementStatus)
  | updateCustomObjectInstance (tenantId configCustomObjectInstanceId : Nat)
      (payload : Option Record) (status : Option CustomInstanceStatus)
  | listener (listener : Listener) (event : DomainEvent)

/-- The parameters a caller outside the engine starts a process with: only a
spawned child has a parent. -/
def rootParams (params : StartProcessParams) : StartProcessParams :=
  { params with parentInstanceId := none, parentStepId := none }

/-- `finalizeChildTerminalIfNeeded` as a call of its own. -/
def finalizeCalls (childTerminalId : Option Nat) (opts : AdvanceOptions) : List Call :=
  match childTerminalId with
  | some childProcessInstanceId => [.handleChildTerminal childProcessInstanceId .completed opts]
  | none => []

/-- What `onConfigObjectInstanceUpdated` does with the result of a validation. -/
def validationCalls (result : ConfigObjectStepExecutor.ValidationResult)
    (advance : Option AdvanceOptions) : List Call :=
  match EventBridge.advancedByValidation result, advance with
  | some stepInstanceId, some opts => [.attemptAdvance stepInstanceId opts]
  | _, _ => []

/-- `ConfigObjectsService.updateCustomObjectInstance`, on payload and status. -/
def updateCustomObjectInstance (tenantId configCustomObjectInstanceId : Nat)
    (payload : Option Record) (status : Option CustomInstanceStatus) : Tx Unit := do
  let found ← Program.read fun w =>
    ConfigObjectStepExecutor.findCustomInstance w.db configCustomObjectInstanceId tenantId
  match found with
  | none => Program.raise "Custom object instance not found."
  | some _ =>
      writeDb fun db => { db with
        customInstances := db.customInstances.updateAt configCustomObjectInstanceId
          (fun row => { row with
            payload := payload <|> row.payload
            status := status.getD row.status })
          (fun _ => rfl) }

/-- The calls a listener makes after its first reads and writes. -/
def listen (listener : Listener) (event : DomainEvent) : Tx (List Call) :=
  match listener with
  | .childCompleted =>
      match EventBridge.resumedStep deployment event with
      | none => pure []
      | some parentStepInstanceId =>
          pure [.resumeParent parentStepInstanceId
            (EventBridge.listenerOptions event (event.data.field "actorTenantUserId"))]
  | .objectValidated =>
      match EventBridge.validatedStep deployment event with
      | none => pure []
      | some stepInstanceId =>
          pure [.attemptAdvance stepInstanceId
            (EventBridge.listenerOptions event (event.data.field "updatedBy"))]
  | .instanceUpdated =>
      match EventBridge.updatedInstance deployment event with
      | none => pure []
      | some configCustomObjectInstanceId =>
          pure [.validateByCustomInstanceId configCustomObjectInstanceId event.correlationId
            (some (EventBridge.listenerOptions event (EventBridge.updatedBy event)))]
  | .requirement => do
      let stepId ← Program.read fun w => EventBridge.requirementStep w.db event
      match stepId with
      | none => pure []
      | some stepInstanceId =>
          pure [.attemptAdvance stepInstanceId (EventBridge.eventOptions event)]
  | .anyDomainEvent => do
      -- `emit` and `emitAsync` hand the envelope to the emitter and nothing else
      let stepIds ← EventBridge.metStepIds deployment event none
      pure (stepIds.map fun stepId => .attemptAdvance stepId (EventBridge.eventOptions event))

/-- Run a call up to its commit; the result is what the service call does next. -/
def perform : Call → Tx (List Call)
  | .startProcess params => do
      let _ ← ProcessLifecycle.startProcess deployment (rootParams params)
      pure []
  | .attemptAdvance stepInstanceId opts => do
      let childTerminalId ← transaction
        (StepOrchestrator.attemptAdvanceIn deployment stepInstanceId opts)
      pure (finalizeCalls childTerminalId opts)
  | .markCompleted stepInstanceId opts => do
      let childTerminalId ← transaction
        (StepOrchestrator.markCompletedIn deployment stepInstanceId opts)
      pure (finalizeCalls childTerminalId opts)
  | .resumeParent parentStepInstanceId opts => do
      let childTerminalId ← transaction
        (StepOrchestrator.resumeParentIn deployment parentStepInstanceId opts)
      pure (finalizeCalls childTerminalId opts)
  | .handleChildTerminal childProcessInstanceId terminalStatus opts => do
      ChildProcessOrchestration.handleChildTerminal deployment childProcessInstanceId
        terminalStatus opts
      pure []
  | .markProcessCompletedIfEligible processInstanceId => do
      ChildProcessOrchestration.markProcessCompletedIfEligible processInstanceId
      pure []
  | .validateByCustomInstanceId configCustomObjectInstanceId correlationId advance => do
      let result ← ConfigObjectStepExecutor.validateByCustomInstanceId deployment
        configCustomObjectInstanceId correlationId
      pure (validationCalls result advance)
  | .createSubmission userId requirementInstanceId submittedData => do
      let stepInstanceId ← RequirementSubmissions.createIn deployment userId
        requirementInstanceId submittedData
      pure [.attemptAdvance stepInstanceId RequirementSubmissions.submissionOptions]
  | .approveSubmission requirementSubmissionId => do
      let stepInstanceId ← RequirementSubmissions.approveIn requirementSubmissionId
      pure [.attemptAdvance stepInstanceId RequirementSubmissions.submissionOptions,
        .writeSubmission requirementSubmissionId .approved]
  | .writeSubmission requirementSubmissionId status => do
      RequirementSubmissions.writeStatus requirementSubmissionId status
      pure []
  | .updateRequirement requirementInstanceId status => do
      RequirementSubmissions.updateRequirement requirementInstanceId status
      pure []
  | .updateCustomObjectInstance tenantId configCustomObjectInstanceId payload status => do
      updateCustomObjectInstance tenantId configCustomObjectInstanceId payload status
      pure []
  | .listener listener event => listen deployment listener event

/-! ## States and actions -/

/-- The world and the service calls in flight, each with the calls it has left. -/
structure State where
  world : World
  tasks : List (List Call)

/-- What happens next; `publish` is an event that another part of the service emits. -/
inductive Action where
  | invoke (call : Call)
  | resume (task : Nat)
  | processJob (job : Nat)
  | publish (event : DomainEvent)
  | tick (now : String)

/-- The listener calls an event starts. -/
def listenerTasks (event : DomainEvent) : List (List Call) :=
  (listeners.filter fun listener => listener.matches event.eventName).map fun listener =>
    [.listener listener event]

/-- A service call in flight, unless nothing is left of it. -/
def pendingTask : List Call → List (List Call)
  | [] => []
  | calls => [calls]

/-- The world a call runs in, the call, what its service call does after it, and
the service calls it leaves in flight. -/
structure Turn where
  world : World
  call : Option Call
  rest : List Call
  others : List (List Call)

/-- What an action runs. -/
def turn (state : State) : Action → Turn
  | .invoke call => ⟨state.world, some call, [], state.tasks⟩
  | .resume task =>
      match state.tasks[task]? with
      | some (call :: rest) => ⟨state.world, some call, rest, state.tasks.eraseIdx task⟩
      | _ => ⟨state.world, none, [], state.tasks⟩
  | .processJob job =>
      match state.world.queue[job]? with
      | some next =>
          ⟨{ state.world with queue := state.world.queue.eraseIdx job },
            (EventBridge.jobStep next).map fun stepId =>
              .attemptAdvance stepId EventBridge.workerOptions,
            [], state.tasks⟩
      | none => ⟨state.world, none, [], state.tasks⟩
  | .publish event =>
      ⟨state.world, none, [], state.tasks ++ listenerTasks event⟩
  | .tick now => ⟨{ state.world with now := now }, none, [], state.tasks⟩

/-- The events emitted between two worlds. -/
def emitted (before after : World) : List DomainEvent := after.events.drop before.events.length

/-- The state after a call: its service call continues unless it raised, and
every event it emitted reaches its listeners. -/
def execute (world : World) (call : Call) (rest : List Call) (others : List (List Call)) :
    State :=
  match perform deployment call world with
  | (.ok next, after) =>
      { world := after
        tasks := others ++ pendingTask (next ++ rest) ++
          (emitted world after).flatMap listenerTasks }
  | (.error _, after) =>
      { world := after
        tasks := others ++ (emitted world after).flatMap listenerTasks }

/-- The state after an action. -/
def step (state : State) (action : Action) : State :=
  let next := turn state action
  match next.call with
  | some call => execute deployment next.world call next.rest next.others
  | none => { world := next.world, tasks := next.others }

/-- The engine under a deployment. -/
def system : StepSystem State Action where
  step := step deployment

/-- Nothing was started yet: the instance tables are empty, nothing was emitted,
queued or called, and nothing is in flight. -/
structure Fresh (state : State) : Prop where
  processInstances : state.world.db.processInstances.rows = []
  steps : state.world.db.steps.rows = []
  requirements : state.world.db.requirements.rows = []
  submissions : state.world.db.submissions.rows = []
  triggers : state.world.db.triggers.rows = []
  objectInstances : state.world.db.objectInstances.rows = []
  events : state.world.events = []
  queue : state.world.queue = []
  hostCalls : state.world.hostCalls = []
  tasks : state.tasks = []

/-- A state some run of the engine reaches from a fresh one. -/
def Reachable (state : State) : Prop := (system deployment).Reachable Fresh state

end Engine

end CoreApi.Automation
