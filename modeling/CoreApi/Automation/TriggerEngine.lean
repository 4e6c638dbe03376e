import CoreApi.Automation.World

/-!
# Trigger evaluation

`TriggerEngineService.evaluate` on one trigger envelope. A jsonlogic trigger
runs its actions when it is met; a time trigger puts a delayed job on the queue
and an event trigger does nothing, and both report false.
-/

namespace CoreApi.Automation

open CoreApi.Foundation

namespace TriggerEngine

/-! ## ISO durations -/

/-- The group `(?:(\d+)U)?` of the duration pattern: a number followed by its
unit letter, or nothing at all. -/
def takeUnit (unit : Char) (text : List Char) : Nat × List Char :=
  match text.takeWhile Char.isDigit, text.dropWhile Char.isDigit with
  | digit :: digits, c :: rest =>
      if c = unit then (Json.digitsValue (digit :: digits), rest) else (0, text)
  | _, _ => (0, text)

/-- `isoDurationToMs`; 0 for a text that is not of the form `PTnHnMnS`. -/
def isoDurationToMs (duration : String) : Nat :=
  match duration.toList with
  | 'P' :: 'T' :: text =>
      let hours := takeUnit 'H' text
      let minutes := takeUnit 'M' hours.2
      let seconds := takeUnit 'S' minutes.2
      if seconds.2 = [] then
        ((hours.1 * 60 + minutes.1) * 60 + seconds.1) * 1000
      else 0
  | _ => 0

/-! ## Evaluation -/

variable (deployment : Deployment)

/-- The JSON a trigger context is for `json-logic-js` and for action payloads. -/
def contextJson (context : TriggerContext) : Json :=
  .obj [("tenantId", .ofId context.tenantId),
    ("processTemplateId", .ofId context.processTemplateId),
    ("processInstanceId", .num context.processInstanceId),
    ("step", .obj [("id", .num context.stepId),
      ("allRequiredSubmissionsApproved", .bool context.allRequiredSubmissionsApproved)]),
    ("now", .str context.now)]

/-- `!!jsonLogic.apply(logic, context)`. -/
def ruleHolds (logic context : Json) : Except String Bool :=
  match deployment.jsonLogicApply logic context with
  | .ok value => .ok value.truthy
  | .error message => .error message

/-- What `evaluate` returns: whether the trigger is met under the context. -/
def verdict (trigger : TriggerEnvelope) (context : TriggerContext) : Except String Bool :=
  match trigger with
  | .jsonlogic logic _ => ruleHolds deployment logic (contextJson context)
  | .time _ _ => .ok false
  | .event _ _ _ => .ok false
  | .unknown _ => .ok false

/-- The event an `emit` action emits. -/
def actionEvent (context : TriggerContext) (eventName : String) : DomainEvent where
  eventName := eventName
  entity := some ⟨"Process", context.processInstanceId⟩
  data := contextJson context
  correlationId := none
  tenantId := none

/-- The job an `enqueue` action puts on the queue. -/
def actionJob (context : TriggerContext) (request : EnqueueAction) : Job :=
  .action ((request.delayMs.getD 0).toNat) (request.queue ++ ":" ++ request.job)
    (request.payload.getD (contextJson context))

/-- `if ('emit' in a)`. -/
def execEmit (context : TriggerContext) : Option String → Tx Unit
  | some eventName => emit (actionEvent context eventName)
  | none => pure ()

/-- `if ('enqueue' in a)`. -/
def execEnqueue (context : TriggerContext) : Option EnqueueAction → Tx Unit
  | some request => enqueue (actionJob context request)
  | none => pure ()

/-- One entry of `actionsOnMet`. -/
def execAction (context : TriggerContext) (action : TriggerAction) : Tx Unit := do
  execEmit context action.emit
  execEnqueue context action.enqueue

/-- `execActions`. -/
def execActions (actions : List TriggerAction) (context : TriggerContext) : Tx Unit :=
  Program.forEach (execAction context) actions

/-- `TriggerEngineService.evaluate`. -/
def evaluate (trigger : TriggerEnvelope) (context : TriggerContext) : Tx Bool :=
  match trigger with
  | .jsonlogic logic actionsOnMet => do
      let met ← Program.lift (ruleHolds deployment logic (contextJson context))
      Program.when (met = true) <| execActions actionsOnMet context
      pure met
  | .time after _ => do
      let delayMs := isoDurationToMs after
      Program.when (delayMs ≠ 0) <| enqueue (.timeTrigger delayMs trigger context)
      pure false
  | .event _ _ _ => pure false
  | .unknown _ => pure false

end TriggerEngine

end CoreApi.Automation
