import CoreApi.Automation.StepOrchestrator

/-!
# Requirement submissions

The writes of the submission and requirement services, with the events they
emit. A submission that is created or approved also tries to advance its step.
-/

namespace CoreApi.Automation

open CoreApi.Foundation

namespace RequirementSubmissions

variable (deployment : Deployment)

/-- `validateSubmission`, reduced to its verdict: valid, and approved at once. -/
def validateSubmission (envelope : RequirementEnvelope) (submittedData : Json) : Bool × Bool :=
  let valid := deployment.ajvValidate envelope.schema submittedData
  (valid, envelope.autoApproveOnValid && valid)

/-- An event about a requirement and the submission behind it. -/
def requirementEvent (eventName : String) (requirement : StepRequirement) (submissionId : Nat) :
    DomainEvent where
  eventName := eventName
  entity := some ⟨"Requirement", requirement.requirementInstanceId⟩
  data := .obj [("requirementInstanceId", .num requirement.requirementInstanceId),
    ("submissionId", .num submissionId),
    ("stepInstanceId", .num requirement.stepInstanceId)]
  correlationId := none
  tenantId := none

/-- `submissionRepository.save` of a new row. -/
def saveSubmission (row : RequirementSubmission) : Tx Nat :=
  Program.writeReturning fun w =>
    (w.db.submissions.autoIncrement,
      { w with db := { w.db with submissions := w.db.submissions.insert row } })

/-- The requirement row after a submission. -/
def submitted (submissionId : Nat) (autoApprove : Bool) (time : String)
    (row : StepRequirement) : StepRequirement :=
  { row with
    lastSubmissionId := some submissionId
    status := if autoApprove = true then .approved else .pending
    approvedAt := if autoApprove = true then some time else row.approvedAt
    evaluatedAt := some time }

theorem submitted_key (submissionId : Nat) (autoApprove : Bool) (time : String)
    (row : StepRequirement) :
    (submitted submissionId autoApprove time row).requirementInstanceId =
      row.requirementInstanceId := rfl

/-- `create`, up to the call of the orchestrator; it returns the step to advance. -/
def createIn (userId requirementInstanceId : Nat) (submittedData : Json) : Tx Nat := do
  let found ← Program.read fun w => w.db.requirements.find? requirementInstanceId
  match found with
  | none => Program.raise "No ProcessInstanceStepRequirement found"
  | some requirement => do
      let verdict := validateSubmission deployment requirement.jsonSchema submittedData
      let submissionId ← saveSubmission
        { requirementSubmissionId := 0
          requirementInstanceId := requirementInstanceId
          submittedData := submittedData
          isValid := verdict.1
          status := if verdict.2 = true then .approved else .pending
          createdBy := userId }
      let time ← now
      writeDb fun db => db.setRequirement requirementInstanceId
        (submitted submissionId verdict.2 time) (fun _ => rfl)
      emit (requirementEvent "six1-event.requirement.process_requirement_submitted" requirement
        submissionId)
      Program.when (verdict.2 = true) <|
        emit (requirementEvent "six1-event.requirement.process_requirement_approved" requirement
          submissionId)
      pure requirement.stepInstanceId

/-- The cause every submission advances its step with. -/
def submissionOptions : AdvanceOptions := { AdvanceOptions.none with cause := some "event" }

/-- `create`. -/
def create (userId requirementInstanceId : Nat) (submittedData : Json) : Tx Unit := do
  let stepInstanceId ← createIn deployment userId requirementInstanceId submittedData
  StepOrchestrator.attemptAdvance deployment stepInstanceId submissionOptions

/-- The requirement row after its submission was approved. -/
def approved (time : String) (row : StepRequirement) : StepRequirement :=
  { row with status := .approved, approvedAt := some time, evaluatedAt := some time }

theorem approved_key (time : String) (row : StepRequirement) :
    (approved time row).requirementInstanceId = row.requirementInstanceId := rfl

/-- `update` to `approved`, up to the call of the orchestrator; it returns the
step to advance. -/
def approveIn (requirementSubmissionId : Nat) : Tx Nat := do
  let found ← Program.read fun w => w.db.submissions.find? requirementSubmissionId
  match found with
  | none => Program.raise "No ProcessInstanceStepRequirementSubmissionEntity found"
  | some submission => do
      let parent ← Program.read fun w =>
        w.db.requirements.find? submission.requirementInstanceId
      match parent with
      | none => Program.raise "No ProcessInstanceStepRequirement found"
      | some requirement => do
          let time ← now
          writeDb fun db => db.setRequirement requirement.requirementInstanceId (approved time)
            (fun _ => rfl)
          emit (requirementEvent "six1-event.requirement.process_requirement_approved"
            requirement requirementSubmissionId)
          pure requirement.stepInstanceId

/-- The last write of `update`: the status of the submission row. -/
def writeStatus (requirementSubmissionId : Nat) (status : RequirementStatus) : Tx Unit :=
  writeDb fun db => { db with
    submissions := db.submissions.updateAt requirementSubmissionId
      (fun row => { row with status := status }) (fun _ => rfl) }

/-- `update`, on the status field. -/
def update (requirementSubmissionId : Nat) (status : RequirementStatus) : Tx Unit := do
  let found ← Program.read fun w => w.db.submissions.find? requirementSubmissionId
  Program.when (found = none) <|
    Program.raise "No ProcessInstanceStepRequirementSubmissionEntity found"
  Program.when (status = .approved) do
    let stepInstanceId ← approveIn requirementSubmissionId
    StepOrchestrator.attemptAdvance deployment stepInstanceId submissionOptions
  writeStatus requirementSubmissionId status

/-- `ProcessInstanceStepRequirementsService.update`, on the status field. -/
def updateRequirement (requirementInstanceId : Nat) (status : RequirementStatus) : Tx Unit := do
  let found ← Program.read fun w => w.db.requirements.find? requirementInstanceId
  match found with
  | none => Program.raise "No ProcessInstanceStepRequirementEntity found"
  | some _ =>
      writeDb fun db => db.setRequirement requirementInstanceId
        (fun row => { row with status := status }) (fun _ => rfl)

end RequirementSubmissions

end CoreApi.Automation
