import CoreApi.Automation.ChildProcessOrchestration
import CoreApi.Automation.ProcessCompletion
import CoreApi.Automation.TriggerEngine

/-!
# The step orchestrator

`attemptAdvance`, `markCompleted` and `resumeParentAfterChildCallProcess`. Each
has a first transaction, named with the suffix `In`, that returns the child
process it completed, and then reports that child to its parent in a second one.
-/

namespace CoreApi.Automation

open CoreApi.Foundation

namespace StepOrchestrator

variable (deployment : Deployment)

/-! ## Gates and triggers -/

/-- Whether every mandatory requirement of a step is approved. -/
def checkRequirementsOnly (db : Database) (stepInstanceId : Nat) : Bool :=
  ((db.requirementsOf stepInstanceId).filter StepRequirement.isMandatory).all fun requirement =>
    requirement.status == .approved

/-- `checkStepGates`. -/
def checkStepGates (db : Database) (stepInstanceId : Nat) : Bool :=
  checkRequirementsOnly db stepInstanceId &&
    ConfigObjectStepExecutor.areMandatoryBindingsValid deployment db stepInstanceId

/-- `buildContext`. -/
def buildContext (db : Database) (processInstanceId stepInstanceId : Nat) (time : String) :
    TriggerContext where
  tenantId := (db.instance? processInstanceId).map ProcessInstance.tenantId
  processTemplateId := (db.instance? processInstanceId).map ProcessInstance.processTemplateId
  processInstanceId := processInstanceId
  stepId := stepInstanceId
  allRequiredSubmissionsApproved := checkRequirementsOnly db stepInstanceId
  now := time

/-- The row of a trigger found met, here and in the event bridge. -/
def metTrigger (time : String) (row : StepTrigger) : StepTrigger :=
  { row with status := .met, metAt := some time, lastEvalAt := some time }

/-- The row of a trigger found unmet: a `met` status stays. -/
def unmetTrigger (time : String) (row : StepTrigger) : StepTrigger :=
  { row with lastEvalAt := some time }

/-- The update of a trigger after its evaluation. -/
def evaluatedTrigger (met : Bool) (time : String) (row : StepTrigger) : StepTrigger :=
  if met = true then metTrigger time row else unmetTrigger time row

@[simp] theorem evaluatedTrigger_key (met : Bool) (time : String) (row : StepTrigger) :
    (evaluatedTrigger met time row).triggerInstanceId = row.triggerInstanceId := by
  cases met <;> rfl

/-- One iteration of the loop of `evaluateTriggers`. -/
def evaluateTrigger (context : TriggerContext) (trigger : StepTrigger) : Tx Bool := do
  let met ← TriggerEngine.evaluate deployment trigger.jsonSchema context
  let time ← now
  writeDb fun db => db.setTrigger trigger.triggerInstanceId (evaluatedTrigger met time)
    (evaluatedTrigger_key met time)
  pure met

/-- The loop of `evaluateTriggers`: every trigger is evaluated, also after one
that is unmet. -/
def evaluateAll (context : TriggerContext) : List StepTrigger → Tx Bool
  | [] => pure true
  | trigger :: rest => do
      let met ← evaluateTrigger deployment context trigger
      let others ← evaluateAll context rest
      pure (met && others)

/-- `evaluateTriggers`. -/
def evaluateTriggers (processInstanceId stepInstanceId : Nat) : Tx Bool := do
  let context ← Program.read fun w =>
    buildContext w.db processInstanceId stepInstanceId w.now
  let triggers ← Program.read fun w => w.db.triggersOf stepInstanceId
  evaluateAll deployment context triggers

/-! ## State changes of a step -/

/-- The timestamps `setState` may set. -/
structure StateTimes where
  readyAt : Option String
  startedAt : Option String
  completedAt : Option String
  canceledAt : Option String

/-- The default `times = {}`. -/
def StateTimes.none : StateTimes where
  readyAt := Option.none
  startedAt := Option.none
  completedAt := Option.none
  canceledAt := Option.none

/-- The row after `setState`. -/
def stepInState (next : StepStatus) (times : StateTimes) (time : String) (step : StepInstance) :
    StepInstance :=
  { step with
    status := next
    readyAt := times.readyAt <|> step.readyAt
    startedAt := times.startedAt <|> step.startedAt
    completedAt := times.completedAt <|> step.completedAt
    canceledAt := times.canceledAt <|> step.canceledAt
    updatedAt := time }

/-- `setState`. -/
def setState (stepInstanceId : Nat) (next : StepStatus) (times : StateTimes) : Tx Unit := do
  let time ← now
  writeDb fun db => db.setStep stepInstanceId (stepInState next times time) (fun _ => rfl)

@[simp] theorem wp_setState {ok : Unit → World → Prop} {err : String → World → Prop} {w : World}
    (stepInstanceId : Nat) (next : StepStatus) (times : StateTimes) :
    Program.wp (setState stepInstanceId next times) ok err w ↔
      ok () { w with
        db := w.db.setStep stepInstanceId (stepInState next times w.now) (fun _ => rfl) } :=
  Iff.rfl

/-- `dispatchStepStateChanged`. -/
def dispatchStepStateChanged (step : StepInstance) (engineState : StepStatus)
    (opts : AdvanceOptions) : Tx Unit := do
  let proc ← Program.read fun w => w.db.instance? step.processInstanceId
  match proc with
  | none => pure ()
  | some proc => do
      let adapter ← Program.lift (ProcessHostRegistry.get proc.subjectType)
      adapter.onStepStateChanged (buildProcessHostContext proc opts) step.stepInstanceId
        engineState

/-- An event about a step, with the cause of the call or a default for it. -/
def stepEvent (eventName : String) (step : StepInstance) (cause : String)
    (opts : AdvanceOptions) : DomainEvent where
  eventName := eventName
  entity := some ⟨"ProcessStep", step.stepInstanceId⟩
  data := .obj [("processInstanceId", .num step.processInstanceId),
    ("stepOrder", .num step.stepOrder),
    ("cause", .str (opts.cause.getD cause))]
  correlationId := opts.correlationId
  tenantId := none

/-- Make an eligible step ready, provision its bindings and report it. -/
def makeReady (eventName : String) (step : StepInstance) (opts : AdvanceOptions) : Tx Unit := do
  let time ← now
  setState step.stepInstanceId .ready { StateTimes.none with readyAt := some time }
  dispatchStepStateChanged step .ready opts
  ConfigObjectStepExecutor.provisionBindingsOnStepReady deployment step.stepInstanceId
    opts.correlationId
  emit (stepEvent eventName step "event" opts)

/-- What `attemptAdvance` and `enableNextSteps` do with an eligible step: spawn
the child of a `call_process` step, make any other step ready. -/
def unlock (eventName : String) (step : StepInstance) (opts : AdvanceOptions) : Tx Unit :=
  if ChildProcessOrchestration.isEnabled deployment = true ∧ step.taskType = .callProcess then do
    let _ ← ChildProcessOrchestration.spawnChildAndBlockParent deployment step opts
    pure ()
  else makeReady deployment eventName step opts

/-- One iteration of the loop of `enableNextSteps`. -/
def enableNextStep (opts : AdvanceOptions) (step : StepInstance) : Tx Unit := do
  let okReq ← Program.read fun w => checkStepGates deployment w.db step.stepInstanceId
  let okTrig ← evaluateTriggers deployment step.processInstanceId step.stepInstanceId
  Program.when (okReq = true ∧ okTrig = true) <|
    unlock deployment "six1-event.process_step_task_created" step opts

/-- The pending steps one place after `currentOrder`. -/
def nextSteps (db : Database) (processInstanceId : Nat) (currentOrder : Int) :
    List StepInstance :=
  (db.stepsOf processInstanceId).filter fun step =>
    step.stepOrder == currentOrder + 1 && step.status == .pending

/-- `enableNextSteps`. -/
def enableNextSteps (processInstanceId : Nat) (currentOrder : Int) (opts : AdvanceOptions) :
    Tx Unit := do
  let nextRows ← Program.read fun w => nextSteps w.db processInstanceId currentOrder
  Program.forEach (enableNextStep deployment opts) nextRows

/-! ## Completion of a process -/

/-- The event that announces a completed process. -/
def processCompletedEvent (proc : ProcessInstance) (opts : AdvanceOptions) : DomainEvent where
  eventName := "six1-event.process_completed"
  entity := some ⟨"ProcessInstance", proc.processInstanceId⟩
  data := .obj [("processInstanceId", .num proc.processInstanceId),
    ("subjectType", .str proc.subjectType.text),
    ("subjectId", .num proc.subjectId)]
  correlationId := opts.correlationId
  tenantId := some proc.tenantId

/-- The tail of `maybeCompleteJob`, once the host agrees to complete. -/
def announceCompletion (proc : ProcessInstance) (adapter : ProcessHostAdapter) (allDone : Bool)
    (opts : AdvanceOptions) : Tx Unit := do
  Program.when (allDone = true) <|
    ChildProcessOrchestration.completeInstance proc.processInstanceId
  adapter.onProcessCompleted (buildProcessHostContext proc opts)
  emit (processCompletedEvent proc opts)

/-- A child process that all its steps completed. -/
def isCompletedChild (db : Database) (processInstanceId : Nat) : Bool :=
  match db.instance? processInstanceId with
  | some row => row.parentStepId.isSome && row.status == .completed
  | none => false

/-- The root path of `maybeCompleteJob`. -/
def completeRoot (processInstanceId : Nat) (allDone : Bool) (opts : AdvanceOptions) :
    Tx Unit := do
  let engineCanComplete ← Program.read fun w =>
    ProcessCompletion.canCompleteProcess deployment w.db processInstanceId
  if engineCanComplete = true then do
    let proc ← Program.read fun w => w.db.instance? processInstanceId
    match proc with
    | none => pure ()
    | some proc => do
        let adapter ← Program.lift (ProcessHostRegistry.get proc.subjectType)
        let hostCanComplete ← Program.read fun w =>
          adapter.canCompleteJob w.db (buildProcessHostContext proc opts)
        Program.when (hostCanComplete = true) <| announceCompletion proc adapter allDone opts

/-- `maybeCompleteJob` after a child process had its chance to complete. -/
def reportJob (processInstanceId : Nat) (allDone : Bool) (opts : AdvanceOptions) :
    Tx (Option Nat) := do
  let completedChild ← Program.read fun w => isCompletedChild w.db processInstanceId
  if allDone = true ∧ completedChild = true then pure (some processInstanceId)
  else do
    completeRoot deployment processInstanceId allDone opts
    pure none

/-- `maybeCompleteJob`; it returns the child process it found completed. -/
def maybeCompleteJob (processInstanceId : Nat) (opts : AdvanceOptions) : Tx (Option Nat) := do
  let allDone ← Program.read fun w =>
    ProcessCompletion.areAllStepsCompleted w.db processInstanceId
  Program.when (allDone = true) <|
    ChildProcessOrchestration.markProcessCompletedIfEligible processInstanceId
  reportJob deployment processInstanceId allDone opts

/-- What follows a completed step in all three operations. -/
def settleStep (processInstanceId : Nat) (stepOrder : Int) (opts : AdvanceOptions) :
    Tx (Option Nat) := do
  enableNextSteps deployment processInstanceId stepOrder opts
  maybeCompleteJob deployment processInstanceId opts

/-! ## The operations -/

/-- The statuses `attemptAdvance` returns at. -/
def isFinished (status : StepStatus) : Bool :=
  status == .completed || status == .canceled || status == .blocked

/-- Start and complete a ready automated step. -/
def runAutomated (step : StepInstance) (opts : AdvanceOptions) : Tx (Option Nat) := do
  let time ← now
  setState step.stepInstanceId .inProgress { StateTimes.none with startedAt := some time }
  dispatchStepStateChanged step .inProgress opts
  emit (stepEvent "six1-event.process_step_started" step "event" opts)
  setState step.stepInstanceId .completed { StateTimes.none with completedAt := some time }
  dispatchStepStateChanged step .completed opts
  emit (stepEvent "six1-event.process_step_completed" step "event" opts)
  settleStep deployment step.processInstanceId step.stepOrder opts

/-- Whether `attemptAdvance` runs the step it reloaded. -/
def isRunnable (step : StepInstance) : Bool :=
  step.taskType == .automated && step.status == .ready

/-- `attemptAdvance` on a step whose gates and triggers hold. -/
def advanceEligible (step : StepInstance) (opts : AdvanceOptions) : Tx (Option Nat) := do
  Program.when (step.status = .pending) <|
    unlock deployment "six1-event.process_step_ready" step opts
  let fresh ← Program.read fun w => w.db.step? step.stepInstanceId
  match fresh with
  | none => pure none
  | some fresh =>
      if isRunnable fresh = true then runAutomated deployment fresh opts else pure none

/-- `attemptAdvance` on a step that is not finished. -/
def advanceStep (step : StepInstance) (opts : AdvanceOptions) : Tx (Option Nat) := do
  Program.when (step.status = .ready) <|
    ConfigObjectStepExecutor.provisionBindingsOnStepReady deployment step.stepInstanceId
      opts.correlationId
  let allMandatoryApproved ← Program.read fun w =>
    checkStepGates deployment w.db step.stepInstanceId
  let triggersMet ← evaluateTriggers deployment step.processInstanceId step.stepInstanceId
  if allMandatoryApproved = true ∧ triggersMet = true then
    advanceEligible deployment step opts
  else pure none

/-- The first transaction of `attemptAdvance`. -/
def attemptAdvanceIn (stepInstanceId : Nat) (opts : AdvanceOptions) : Tx (Option Nat) := do
  let step ← Program.read fun w => w.db.step? stepInstanceId
  match step with
  | none => pure none
  | some step =>
      if isFinished step.status = true then pure none else advanceStep deployment step opts

/-- `markCompleted` on a step that may be completed. -/
def completeStep (step : StepInstance) (opts : AdvanceOptions) : Tx (Option Nat) := do
  let time ← now
  setState step.stepInstanceId .completed { StateTimes.none with completedAt := some time }
  dispatchStepStateChanged step .completed opts
  emit (stepEvent "six1-event.notification.process_step_completed" step "manual" opts)
  settleStep deployment step.processInstanceId step.stepOrder opts

/-- Whether `markCompleted` completes the step. -/
def isCompletable (db : Database) (step : StepInstance) : Bool :=
  (step.status == .ready || step.status == .inProgress) &&
    checkStepGates deployment db step.stepInstanceId

/-- The first transaction of `markCompleted`. -/
def markCompletedIn (stepInstanceId : Nat) (opts : AdvanceOptions) : Tx (Option Nat) := do
  let step ← Program.read fun w => w.db.step? stepInstanceId
  match step with
  | none => pure none
  | some step => do
      let completable ← Program.read fun w => isCompletable deployment w.db step
      if completable = true then completeStep deployment step opts else pure none

/-- The first transaction of `resumeParentAfterChildCallProcess`. -/
def resumeParentIn (parentStepInstanceId : Nat) (opts : AdvanceOptions) : Tx (Option Nat) := do
  let step ← Program.read fun w => w.db.step? parentStepInstanceId
  match step with
  | none => pure none
  | some step =>
      if step.status = .completed then
        settleStep deployment step.processInstanceId step.stepOrder opts
      else pure none

/-- `finalizeChildTerminalIfNeeded`, where there is a child to report. -/
def finalizeChildTerminalIfNeeded (childTerminalId : Option Nat) (opts : AdvanceOptions) :
    Tx Unit :=
  match childTerminalId with
  | none => pure ()
  | some childProcessInstanceId =>
      ChildProcessOrchestration.handleChildTerminal deployment childProcessInstanceId
        .completed opts

/-- `attemptAdvance`. -/
def attemptAdvance (stepInstanceId : Nat) (opts : AdvanceOptions) : Tx Unit := do
  let childTerminalId ← transaction (attemptAdvanceIn deployment stepInstanceId opts)
  finalizeChildTerminalIfNeeded deployment childTerminalId opts

/-- `markCompleted`. -/
def markCompleted (stepInstanceId : Nat) (opts : AdvanceOptions) : Tx Unit := do
  let childTerminalId ← transaction (markCompletedIn deployment stepInstanceId opts)
  finalizeChildTerminalIfNeeded deployment childTerminalId opts

/-- `resumeParentAfterChildCallProcess`. -/
def resumeParentAfterChildCallProcess (parentStepInstanceId : Nat) (opts : AdvanceOptions) :
    Tx Unit := do
  let childTerminalId ← transaction (resumeParentIn deployment parentStepInstanceId opts)
  finalizeChildTerminalIfNeeded deployment childTerminalId opts

end StepOrchestrator

end CoreApi.Automation
