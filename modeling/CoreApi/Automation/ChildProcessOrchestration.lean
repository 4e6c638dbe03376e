import CoreApi.Automation.ProcessInstantiation

/-!
# Child processes

Spawning the child of a `call_process` step, and what a child that reached a
terminal status does to its parent.
-/

namespace CoreApi.Automation

open CoreApi.Foundation

/-- The terminal statuses `handleChildTerminal` is invoked with. -/
inductive TerminalStatus where
  | completed | canceled
deriving DecidableEq

/-- A terminal status as the source spells it. -/
def TerminalStatus.text : TerminalStatus → String
  | .completed => "completed"
  | .canceled => "canceled"

namespace ChildProcessOrchestration

variable (deployment : Deployment)

/-- `isEnabled`. -/
def isEnabled : Bool := deployment.flags.callProcessEnabled

/-- `PROCESS_BLOCKED_REASON_WAITING_CHILD`. -/
def waitingChild : String := "waiting_child"

/-! ## Spawning -/

/-- `findChildProcessInstanceId`. -/
def findChildProcessInstanceId (db : Database) (parentStepInstanceId : Nat) : Option Nat :=
  (db.processInstances.rows.find? fun row => row.parentStepId == some parentStepInstanceId).map
    ProcessInstance.processInstanceId

/-- The row after `blockParentStep`. -/
def blocked (time : String) (step : StepInstance) : StepInstance :=
  { step with status := .blocked, blockedReason := waitingChild, updatedAt := time }

/-- `blockParentStep`. -/
def blockParentStep (stepInstanceId : Nat) : Tx Unit := do
  let time ← now
  writeDb fun db => db.setStep stepInstanceId (blocked time) (fun _ => rfl)

/-- `Number(value)` where it is neither NaN nor 0. -/
def truthyNumber (value : Option Json) : Option Int :=
  match value with
  | some json => (json.toNumber).filter fun n => n != 0
  | none => none

/-- The configurable instance a `config_instance` child is anchored on. -/
def configInstanceSubjectId (parent : ProcessInstance) : Option Int :=
  let context := parent.context.getD []
  truthyNumber (Record.get? context "configCustomObjectInstanceId") <|>
    truthyNumber (Record.get? context "config_custom_object_instance_id") <|>
    (if parent.subjectType = .configCustomObjectInstance ∧ parent.subjectId ≠ 0 then
      some (parent.subjectId : Int)
    else none)

/-- `resolveChildSubject`; a negative identifier does not fit the unsigned column. -/
def resolveChildSubject (parent : ProcessInstance) (template : TemplateStep) :
    Except String ProcessInstanceSubjectInput :=
  match template.childSubjectPolicy with
  | .inherit => .ok ⟨parent.subjectType, parent.subjectId, parent.subjectMetadata⟩
  | .configInstance =>
      match configInstanceSubjectId parent with
      | some (.ofNat subjectId) =>
          .ok ⟨.configCustomObjectInstance, subjectId, some (parent.subjectMetadata.getD [])⟩
      | some (.negSucc _) => .error "Out of range value for column 'subject_id'"
      | none =>
          .error "child_subject_policy=config_instance requires configCustomObjectInstanceId in parent context or subject"
  | .workflow => .ok ⟨.workflow, 0, none⟩

/-- `buildChildContext`. -/
def buildChildContext (parent : ProcessInstance) (template : TemplateStep) : Record :=
  ((Record.spread (parent.context.getD []) (template.childContextPatch.getD [])).set
    "parentProcessInstanceId" (.num parent.processInstanceId))

/-- The options a caller passes through the orchestrator. -/
def childStartParams (parent : ProcessInstance) (template : TemplateStep)
    (subject : ProcessInstanceSubjectInput) (childTemplateId stepInstanceId : Nat)
    (opts : AdvanceOptions) : StartProcessParams where
  tenantId := parent.tenantId
  createdBy := opts.actorTenantUserId.getD parent.createdBy
  templateId := childTemplateId
  subjectType := subject.subjectType.text
  subjectId := subject.subjectId
  subjectMetadata := subject.subjectMetadata
  correlationId := opts.correlationId <|> parent.correlationId
  context := some (buildChildContext parent template)
  hostData := none
  parentInstanceId := some parent.processInstanceId
  parentStepId := some stepInstanceId
  onChildFailure := some parent.onChildFailure
  skipHostOnStart := true

/-- The event that reports a spawned child. -/
def childStartedEvent (childProcessInstanceId parentProcessInstanceId stepInstanceId : Nat)
    (opts : AdvanceOptions) : DomainEvent where
  eventName := "six1-event.process_child_started"
  entity := some ⟨"ProcessInstance", childProcessInstanceId⟩
  data := .obj [("childProcessInstanceId", .num childProcessInstanceId),
    ("parentProcessInstanceId", .num parentProcessInstanceId),
    ("parentStepInstanceId", .num stepInstanceId)]
  correlationId := opts.correlationId
  tenantId := none

/-- What a spawn starts: the parameters of the child, or the exception that
stops it before anything is written. -/
def resolveChildStart (db : Database) (step : StepInstance) (opts : AdvanceOptions) :
    Except String (ProcessInstance × StartProcessParams) :=
  match db.instance? step.processInstanceId with
  | none => .error "Parent process instance not found"
  | some parent =>
      match db.templateSteps.find? step.processTemplateStepId with
      | none => .error "call_process step requires child_template_id on process_template_steps"
      | some template =>
          match template.childTemplateId with
          | none =>
              .error "call_process step requires child_template_id on process_template_steps"
          | some childTemplateId =>
              if childTemplateId = 0 then
                .error "call_process step requires child_template_id on process_template_steps"
              else
                match resolveChildSubject parent template with
                | .error message => .error message
                | .ok subject =>
                    .ok (parent, childStartParams parent template subject childTemplateId
                      step.stepInstanceId opts)

/-- `spawnChildAndBlockParent`. -/
def spawnChildAndBlockParent (step : StepInstance) (opts : AdvanceOptions) : Tx Bool :=
  if isEnabled deployment = false ∨ step.taskType ≠ .callProcess then pure false
  else do
    let existing ← Program.read fun w => findChildProcessInstanceId w.db step.stepInstanceId
    match existing with
    | some _ => do
        Program.when (step.status ≠ .blocked) <| blockParentStep step.stepInstanceId
        pure false
    | none => do
        let start ← Program.read fun w => resolveChildStart w.db step opts
        let (parent, params) ← Program.lift start
        let child ← ProcessLifecycle.startProcessIn deployment params
        blockParentStep step.stepInstanceId
        emit (childStartedEvent child.processInstanceId parent.processInstanceId
          step.stepInstanceId opts)
        pure true

/-! ## Completion of a child -/

/-- The `process_instances` row of a process that completes. -/
def completedInstance (time : String) (row : ProcessInstance) : ProcessInstance :=
  if row.status = .active then
    { row with status := .completed, completedAt := some time }
  else row

@[simp] theorem completedInstance_key (time : String) (row : ProcessInstance) :
    (completedInstance time row).processInstanceId = row.processInstanceId := by
  unfold completedInstance
  split <;> rfl

/-- `UPDATE process_instances SET status = 'completed' … AND status = 'active'`. -/
def completeInstance (processInstanceId : Nat) : Tx Unit := do
  let time ← now
  writeDb fun db => db.setInstance processInstanceId (completedInstance time)
    (completedInstance_key time)

/-- Whether the row names a parent step. -/
def hasParentStep (row : ProcessInstance) : Bool :=
  row.parentStepId.any fun parentStepId => parentStepId != 0

/-- Whether the instance has a parent step and only completed steps. -/
def isEligibleChild (db : Database) (processInstanceId : Nat) : Bool :=
  (db.instance? processInstanceId).any hasParentStep &&
    let steps := db.stepsOf processInstanceId
    (steps.countP fun step => step.status == .completed) == steps.length && steps.length != 0

/-- `markProcessCompletedIfEligible`. -/
def markProcessCompletedIfEligible (processInstanceId : Nat) : Tx Unit := do
  let eligible ← Program.read fun w => isEligibleChild w.db processInstanceId
  Program.when (eligible = true) <| completeInstance processInstanceId

/-! ## Terminal children -/

/-- `mergeChildContextIntoParent`, on the context column. -/
def mergedContext (parentContext childContext : Option Record) (time : String) : Record :=
  ((Record.spread (parentContext.getD []) (childContext.getD [])).set
    "childMergedAt" (.str time))

/-- `mergeChildContextIntoParent`. -/
def mergeChildContextIntoParent (parentProcessInstanceId : Nat)
    (childContext : Option Record) : Tx Unit := do
  let parent ← Program.read fun w => w.db.instance? parentProcessInstanceId
  match parent with
  | none => pure ()
  | some parent => do
      let time ← now
      writeDb fun db => db.setInstance parentProcessInstanceId
        (fun row => { row with context := some (mergedContext parent.context childContext time) })
        (fun _ => rfl)

/-- The event `emitChildTerminalEvent` builds. -/
def childTerminalEvent (child parent : ProcessInstance) (parentStepInstanceId : Nat)
    (terminalStatus : TerminalStatus) (opts : AdvanceOptions) (resumedParent : Bool) :
    DomainEvent where
  eventName := match terminalStatus with
    | .completed => "six1-event.process_child_completed"
    | .canceled => "six1-event.process_child_canceled"
  entity := some ⟨"ProcessInstance", child.processInstanceId⟩
  data := .obj [("childProcessInstanceId", .num child.processInstanceId),
    ("parentProcessInstanceId", .num parent.processInstanceId),
    ("parentStepInstanceId", .num parentStepInstanceId),
    ("terminalStatus", .str terminalStatus.text),
    ("resumedParent", .bool resumedParent)]
  correlationId := opts.correlationId
  tenantId := none

/-- The row after `completeParentCallProcessStep`. -/
def completedByChild (time : String) (step : StepInstance) : StepInstance :=
  { step with
    status := .completed
    blockedReason := ""
    completedAt := step.completedAt <|> some time
    updatedAt := time }

/-- The event a parent step completed by its child emits. -/
def parentStepCompletedEvent (step : StepInstance) (opts : AdvanceOptions) : DomainEvent where
  eventName := "six1-event.process_step_completed"
  entity := some ⟨"ProcessStep", step.stepInstanceId⟩
  data := .obj [("processInstanceId", .num step.processInstanceId),
    ("stepOrder", .num step.stepOrder),
    ("cause", .str "child_process")]
  correlationId := opts.correlationId
  tenantId := none

/-- `completeParentCallProcessStep`. -/
def completeParentCallProcessStep (parentStepInstanceId : Nat) (opts : AdvanceOptions) :
    Tx Unit := do
  let time ← now
  writeDb fun db => db.setStep parentStepInstanceId (completedByChild time) (fun _ => rfl)
  let step ← Program.read fun w => w.db.step? parentStepInstanceId
  match step with
  | none => pure ()
  | some step => emit (parentStepCompletedEvent step opts)

/-- The parent's row after `fail_parent`. -/
def canceledInstance (time : String) (row : ProcessInstance) : ProcessInstance :=
  { row with status := .canceled, canceledAt := some time, updatedAt := some time }

/-- The parent step's row after `fail_parent`. -/
def canceledByChild (time : String) (step : StepInstance) : StepInstance :=
  { step with
    status := .canceled
    blockedReason := "child_failed"
    canceledAt := some time
    updatedAt := time }

/-- The two updates of `fail_parent`. -/
def cancelParent (parentProcessInstanceId parentStepInstanceId : Nat) : Tx Unit := do
  let time ← now
  writeDb fun db => db.setInstance parentProcessInstanceId (canceledInstance time) (fun _ => rfl)
  writeDb fun db => db.setStep parentStepInstanceId (canceledByChild time) (fun _ => rfl)

/-- What a terminal child does to its parent. -/
inductive TerminalOutcome where
  | pause | fail | resume
deriving DecidableEq

/-- The branch `handleChildTerminal` takes for a status under a policy. -/
def terminalOutcome (terminalStatus : TerminalStatus) (policy : OnChildFailurePolicy) :
    TerminalOutcome :=
  match terminalStatus, policy with
  | .completed, _ => .resume
  | .canceled, .ignore => .resume
  | .canceled, .pauseParent => .pause
  | .canceled, .failParent => .fail

/-- The child, its parent and the parent's step, when the instance has them. -/
def childLink (db : Database) (childProcessInstanceId : Nat) :
    Option (ProcessInstance × ProcessInstance × Nat) :=
  match db.instance? childProcessInstanceId with
  | none => none
  | some child =>
      match child.parentStepId, child.parentInstanceId with
      | some parentStepId, some parentInstanceId =>
          if parentStepId = 0 ∨ parentInstanceId = 0 then none
          else
            match db.instance? parentInstanceId with
            | none => none
            | some parent => some (child, parent, parentStepId)
      | _, _ => none

/-- The body of the transaction of `handleChildTerminal`. -/
def handleChildTerminalIn (childProcessInstanceId : Nat) (terminalStatus : TerminalStatus)
    (opts : AdvanceOptions) : Tx Unit := do
  let link ← Program.read fun w => childLink w.db childProcessInstanceId
  match link with
  | none => pure ()
  | some (child, parent, parentStepId) => do
      mergeChildContextIntoParent parent.processInstanceId child.context
      match terminalOutcome terminalStatus parent.onChildFailure with
      | .pause => emit (childTerminalEvent child parent parentStepId terminalStatus opts false)
      | .fail => do
          cancelParent parent.processInstanceId parentStepId
          emit (childTerminalEvent child parent parentStepId terminalStatus opts false)
      | .resume => do
          completeParentCallProcessStep parentStepId opts
          emit (childTerminalEvent child parent parentStepId terminalStatus opts true)

/-- `handleChildTerminal`. -/
def handleChildTerminal (childProcessInstanceId : Nat) (terminalStatus : TerminalStatus)
    (opts : AdvanceOptions) : Tx Unit :=
  if isEnabled deployment = false then pure ()
  else transaction (handleChildTerminalIn childProcessInstanceId terminalStatus opts)

end ChildProcessOrchestration

end CoreApi.Automation
