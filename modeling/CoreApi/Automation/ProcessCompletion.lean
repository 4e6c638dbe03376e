import CoreApi.Automation.ConfigObjectStepExecutor

/-!
# The completion check

`ProcessCompletionService.evaluate`: what keeps a process instance from
completing, as the list of reasons the service reports.
-/

namespace CoreApi.Automation

open CoreApi.Foundation

namespace ProcessCompletion

variable (deployment : Deployment)

/-- A completed or canceled step. -/
def isTerminalStep (step : StepInstance) : Bool :=
  step.status == .completed || step.status == .canceled

/-- A child process that has neither completed nor been canceled. -/
def isActiveChild (processInstanceId : Nat) (row : ProcessInstance) : Bool :=
  row.parentInstanceId == some processInstanceId &&
    row.status != .completed && row.status != .canceled

/-- The reasons the step counts give. -/
def stepReasons (db : Database) (processInstanceId : Nat) : List String :=
  let steps := db.stepsOf processInstanceId
  if steps.length = 0 then ["no_steps"]
  else if steps.countP isTerminalStep ≠ steps.length then ["mandatory_steps_not_terminal"]
  else []

/-- The reason an active child gives. -/
def childReasons (db : Database) (processInstanceId : Nat) : List String :=
  if 0 < db.processInstances.rows.countP (isActiveChild processInstanceId) then
    ["active_child_process"]
  else []

/-- The reason the first step with invalid bindings gives. -/
def bindingReasons (db : Database) (processInstanceId : Nat) : List String :=
  match (db.stepsOf processInstanceId).find? fun step =>
      !ConfigObjectStepExecutor.areMandatoryBindingsValid deployment db step.stepInstanceId with
  | some step => ["object_bindings_invalid:step=" ++ toString step.stepInstanceId]
  | none => []

/-- `ProcessCompletionCheck`. -/
structure ProcessCompletionCheck where
  canComplete : Bool
  reasons : List String

/-- `evaluateInTransaction`. -/
def evaluate (db : Database) (processInstanceId : Nat) : ProcessCompletionCheck :=
  let reasons := stepReasons db processInstanceId ++ childReasons db processInstanceId ++
    bindingReasons deployment db processInstanceId
  { canComplete := reasons.length == 0, reasons := reasons }

/-- `canCompleteProcess`. -/
def canCompleteProcess (db : Database) (processInstanceId : Nat) : Bool :=
  (evaluate deployment db processInstanceId).canComplete

/-- `areAllStepsCompleted`. -/
def areAllStepsCompleted (db : Database) (processInstanceId : Nat) : Bool :=
  let steps := db.stepsOf processInstanceId
  (steps.countP fun step => step.status == .completed) == steps.length && steps.length != 0

end ProcessCompletion

end CoreApi.Automation
