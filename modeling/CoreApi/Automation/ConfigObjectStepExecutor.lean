import CoreApi.Automation.ProcessInstantiation

/-!
# Object bindings of a step

Provisioning of `create_on_enter` bindings when a step becomes ready, the check
that gates a step on them, and their validation against a completion rule.
-/

namespace CoreApi.Automation

open CoreApi.Foundation

/-! ## Completion rules -/

namespace CompletionRule

/-- `STATUS_RANK`. -/
def statusRank : CustomInstanceStatus → Nat
  | .draft => 1
  | .published => 2
  | .archived => 3

/-- `MIN_STATUS_ALIASES[minKey] ?? 'DRAFT'`. -/
def minStatusOf (minKey : String) : CustomInstanceStatus :=
  if minKey = "submitted" ∨ minKey = "published" ∨ minKey = "PUBLISHED" then .published
  else if minKey = "archived" ∨ minKey = "ARCHIVED" then .archived
  else .draft

/-- `meetsMinStatus`. -/
def meetsMinStatus (actual minStatus : CustomInstanceStatus) : Bool :=
  statusRank minStatus ≤ statusRank actual

/-- Whether one payload entry counts as content. -/
def hasContent : Json → Bool
  | .null => false
  | .str value => value.toList.any fun c => !Json.isSpace c
  | .arr items => !items.isEmpty
  | .obj fields => !fields.isEmpty
  | .bool _ => true
  | .num _ => true

/-- `payloadHasContent`. -/
def payloadHasContent (payload : Record) : Bool := payload.any fun entry => hasContent entry.2

/-- `evaluateCompletionRule`: `none` for a valid instance, or the error text. -/
def evaluate (rule : Option Record) (payload : Record) (status : CustomInstanceStatus) :
    Option String :=
  let fields := Json.obj (rule.getD [])
  let type := (Json.orElse (fields.field "type") (.str "payload_valid")).toText
  let minStatus := minStatusOf (Json.orElse (fields.field "minStatus") (.str "DRAFT")).toText
  if type ≠ "payload_valid" then some ("Unsupported completion rule type: " ++ type)
  else if meetsMinStatus status minStatus = false then
    some ("Instance status " ++ status.text ++ " does not meet minStatus " ++ minStatus.text)
  else if payloadHasContent payload = false then some "Instance payload is empty"
  else none

end CompletionRule

namespace ConfigObjectStepExecutor

variable (deployment : Deployment)

/-! ## The gate -/

/-- A mandatory object row that is neither valid nor skipped. -/
def isBlocking (db : Database) (row : StepObjectInstance) : Bool :=
  db.isMandatoryObject row && row.status != .valid && row.status != .skipped

/-- `areMandatoryBindingsValid`. -/
def areMandatoryBindingsValid (db : Database) (stepInstanceId : Nat) : Bool :=
  if deployment.flags.configObjectStepsEnabled = false then true
  else ((db.objectInstancesOf stepInstanceId).countP (isBlocking db)) == 0

/-! ## Provisioning -/

/-- A row of `loadBindingRows`: the object row, its binding and its config object. -/
structure StepObjectBindingRow where
  row : StepObjectInstance
  binding : Option TemplateBinding
  configObject : ConfigObject

/-- `ORDER BY b.order_index`: rows without a binding come first. -/
def bindingOrder (entry : StepObjectBindingRow) : Option Int :=
  entry.binding.map TemplateBinding.orderIndex

/-- `NULL` sorts before every value. -/
def orderIndexLe : Option Int → Option Int → Bool
  | none, _ => true
  | some _, none => false
  | some a, some b => a ≤ b

/-- `loadBindingRows`. -/
def loadBindingRows (db : Database) (stepInstanceId : Nat) : List StepObjectBindingRow :=
  (orderBy (fun entry => entry.row.stepObjectInstanceId)
    ((db.objectInstancesOf stepInstanceId).filterMap fun row =>
      (db.configObjects.find? row.configObjectId).map fun configObject =>
        { row := row, binding := db.bindingOf row, configObject := configObject })).insertionSort
    fun a b => orderIndexLe (bindingOrder a) (bindingOrder b) = true

/-- A pending row whose binding mode is `create_on_enter`, the default without a binding. -/
def isPendingCreateOnEnter (entry : StepObjectBindingRow) : Bool :=
  entry.row.status == .pending &&
    (entry.binding.map TemplateBinding.bindingMode).getD .createOnEnter == .createOnEnter

/-- `loadProcessContext`: the process a step belongs to. -/
def loadProcessContext (db : Database) (stepInstanceId : Nat) : Option ProcessInstance :=
  (db.step? stepInstanceId).bind fun step => db.instance? step.processInstanceId

/-- The row of an object that could not be provisioned. -/
def failedObject (message time : String) (row : StepObjectInstance) : StepObjectInstance :=
  { row with status := .failed, lastError := some message, updatedAt := some time }

/-- Mark an object row failed. -/
def failObject (stepObjectInstanceId : Nat) (message : String) : Tx Unit := do
  let time ← now
  writeDb fun db => db.setObjectInstance stepObjectInstanceId (failedObject message time)
    (fun _ => rfl)

/-- `createStandaloneInstanceInTransaction`. -/
def createStandaloneInstance (tenantId configObjectId createdBy : Nat) : Tx Nat := do
  let configObject ← Program.read fun w => w.db.configObjects.find? configObjectId
  match configObject with
  | none => Program.raise "Config object not found"
  | some configObject =>
      if configObject.bindingMode ≠ .standalone then
        Program.raise "Config object must use standalone binding mode"
      else
        Program.writeReturning fun w =>
          (w.db.customInstances.autoIncrement,
            { w with db := { w.db with
              customInstances := w.db.customInstances.insert
                { configCustomObjectInstanceId := 0, tenantId := tenantId,
                  configObjectId := configObjectId, payload := some [], status := .draft,
                  createdBy := createdBy } } })

/-- The event that reports a provisioned object. -/
def objectCreatedEvent (proc : ProcessInstance) (stepInstanceId : Nat)
    (row : StepObjectInstance) (instanceId : Nat) (correlationId : Option String) :
    DomainEvent where
  eventName := "six1-event.process_step_object_created"
  entity := some ⟨"ProcessStepObjectInstance", row.stepObjectInstanceId⟩
  data := .obj [("stepInstanceId", .num stepInstanceId),
    ("processInstanceId", .num proc.processInstanceId),
    ("stepObjectInstanceId", .num row.stepObjectInstanceId),
    ("configObjectId", .num row.configObjectId),
    ("configCustomObjectInstanceId", .num instanceId)]
  correlationId := correlationId
  tenantId := none

/-- The row of a provisioned object. -/
def activeObject (instanceId : Nat) (time : String) (row : StepObjectInstance) :
    StepObjectInstance :=
  { row with
    configCustomObjectInstanceId := some instanceId
    status := .active
    lastError := none
    updatedAt := some time }

/-- Create the instance of one pending row and activate the row. -/
def activateObject (proc : ProcessInstance) (stepInstanceId : Nat) (row : StepObjectInstance)
    (correlationId : Option String) : Tx Unit := do
  let instanceId ← createStandaloneInstance proc.tenantId row.configObjectId proc.createdBy
  let time ← now
  writeDb fun db => db.setObjectInstance row.stepObjectInstanceId (activeObject instanceId time)
    (fun _ => rfl)
  emit (objectCreatedEvent proc stepInstanceId row instanceId correlationId)

/-- One iteration of the provisioning loop. -/
def provisionRow (proc : ProcessInstance) (stepInstanceId : Nat)
    (correlationId : Option String) (entry : StepObjectBindingRow) : Tx Unit :=
  if entry.configObject.bindingMode ≠ .standalone then
    failObject entry.row.stepObjectInstanceId
      "Only standalone config objects are supported in Phase 5"
  else
    Program.attempt (activateObject proc stepInstanceId entry.row correlationId)
      fun message => failObject entry.row.stepObjectInstanceId
        (String.ofList (message.toList.take 2000))

/-- `provisionBindingsOnStepReady`. -/
def provisionBindingsOnStepReady (stepInstanceId : Nat) (correlationId : Option String) :
    Tx Unit :=
  if deployment.flags.configObjectStepsEnabled = false then pure ()
  else do
    let proc ← Program.read fun w => loadProcessContext w.db stepInstanceId
    match proc with
    | none => pure ()
    | some proc => do
        let pending ← Program.read fun w =>
          (loadBindingRows w.db stepInstanceId).filter isPendingCreateOnEnter
        Program.forEach (provisionRow proc stepInstanceId correlationId) pending

/-! ## Validation -/

/-- What `validateByCustomInstanceId` returns. -/
structure ValidationResult where
  stepInstanceId : Option Nat
  valid : Bool

/-- The joined row that links a custom instance to a step. -/
structure ValidationLink where
  row : StepObjectInstance
  step : StepInstance
  proc : ProcessInstance
  configObject : ConfigObject

/-- The link `validateByCustomInstanceId` selects for one object row. -/
def linkOf (db : Database) (row : StepObjectInstance) : Option ValidationLink :=
  (db.step? row.stepInstanceId).bind fun step =>
    (db.instance? step.processInstanceId).bind fun proc =>
      (db.configObjects.find? row.configObjectId).map fun configObject =>
        { row := row, step := step, proc := proc, configObject := configObject }

/-- The link of a custom instance. -/
def findLink (db : Database) (configCustomObjectInstanceId : Nat) : Option ValidationLink :=
  (db.objectInstances.select fun row =>
    row.configCustomObjectInstanceId == some configCustomObjectInstanceId).findSome? (linkOf db)

/-- The instance row, when it belongs to the tenant of the process. -/
def findCustomInstance (db : Database) (configCustomObjectInstanceId tenantId : Nat) :
    Option CustomObjectInstance :=
  (db.customInstances.find? configCustomObjectInstanceId).filter fun row =>
    row.tenantId == tenantId

/-- The verdict of a binding's completion rule on an instance. -/
def completionError (db : Database) (link : ValidationLink) (row : CustomObjectInstance) :
    Option String :=
  CompletionRule.evaluate ((db.bindingOf link.row).map TemplateBinding.completionRule)
    (row.payload.getD []) row.status

/-- The event that reports a validated object. -/
def objectValidatedEvent (link : ValidationLink) (configCustomObjectInstanceId : Nat)
    (correlationId : Option String) : DomainEvent where
  eventName := "six1-event.process_step_object_validated"
  entity := some ⟨"ProcessStepObjectInstance", link.row.stepObjectInstanceId⟩
  data := .obj [("stepInstanceId", .num link.row.stepInstanceId),
    ("processInstanceId", .num link.proc.processInstanceId),
    ("stepObjectInstanceId", .num link.row.stepObjectInstanceId),
    ("configCustomObjectInstanceId", .num configCustomObjectInstanceId),
    ("configObjectId", .num link.row.configObjectId),
    ("objectType", .str link.configObject.objectType)]
  correlationId := correlationId
  tenantId := none

/-- The columns validation writes. -/
def recordVerdict (error : Option String) (payload : Record) (time : String)
    (row : StepObjectInstance) : StepObjectInstance :=
  match error with
  | none => { row with
      status := .valid, lastError := none, payloadSnapshot := some payload,
      updatedAt := some time }
  | some message => { row with
      status := .failed, lastError := some message, payloadSnapshot := none,
      updatedAt := some time }

@[simp] theorem recordVerdict_key (error : Option String) (payload : Record) (time : String)
    (row : StepObjectInstance) :
    (recordVerdict error payload time row).stepObjectInstanceId = row.stepObjectInstanceId := by
  cases error <;> rfl

/-- The body of the transaction of `validateByCustomInstanceId`. -/
def validateInTransaction (configCustomObjectInstanceId : Nat) (correlationId : Option String) :
    Tx ValidationResult := do
  let link ← Program.read fun w => findLink w.db configCustomObjectInstanceId
  match link with
  | none => pure ⟨none, false⟩
  | some link => do
      let found ← Program.read fun w =>
        findCustomInstance w.db configCustomObjectInstanceId link.proc.tenantId
      match found with
      | none => pure ⟨some link.row.stepInstanceId, false⟩
      | some row => do
          let error ← Program.read fun w => completionError w.db link row
          let time ← now
          writeDb fun db => db.setObjectInstance link.row.stepObjectInstanceId
            (recordVerdict error (row.payload.getD []) time) (recordVerdict_key _ _ _)
          Program.when (error = none) <|
            emit (objectValidatedEvent link configCustomObjectInstanceId correlationId)
          pure ⟨some link.row.stepInstanceId, error.isNone⟩

/-- `validateByCustomInstanceId`. -/
def validateByCustomInstanceId (configCustomObjectInstanceId : Nat)
    (correlationId : Option String) : Tx ValidationResult :=
  if deployment.flags.configObjectStepsEnabled = false then pure ⟨none, false⟩
  else transaction (validateInTransaction configCustomObjectInstanceId correlationId)

end ConfigObjectStepExecutor

end CoreApi.Automation
