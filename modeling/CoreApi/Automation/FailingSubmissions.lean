import CoreApi.Automation.CallWrites

/-!
# Submission calls that fail

`create` and `update` of the submission service are no transactions: each of their
operations commits on its own, and one that fails leaves what came before it. The
calls here are the services' with the operation that fails as an argument; without
one they are `RequirementSubmissions.create` and `update`.
-/

namespace CoreApi.Automation

open CoreApi.Foundation StepOrchestrator

/-! ## What advancing a step leaves -/

/-- The stored requirements and the submissions are kept; an added requirement was
never submitted to. -/
structure SubmissionsKept (before after : Database) : Prop where
  requirements : ∀ row ∈ before.requirements.rows, row ∈ after.requirements.rows
  added : ∀ row ∈ after.requirements.rows, row ∈ before.requirements.rows ∨ row.status = .none
  submissions : after.submissions.rows = before.submissions.rows

namespace SubmissionsKept

/-- Neither table is written. -/
theorem of_eq {before after : Database} (requirements : after.requirements = before.requirements)
    (submissions : after.submissions = before.submissions) : SubmissionsKept before after :=
  ⟨fun _ member => requirements ▸ member, fun _ member => .inl (requirements ▸ member),
    congrArg Table.rows submissions⟩

theorem refl (db : Database) : SubmissionsKept db db := of_eq rfl rfl

theorem trans {a b c : Database} (first : SubmissionsKept a b) (second : SubmissionsKept b c) :
    SubmissionsKept a c where
  requirements row member := second.requirements row (first.requirements row member)
  added row member := by
    rcases second.added row member with known | fresh
    · exact first.added row known
    · exact .inr fresh
  submissions := second.submissions.trans first.submissions

theorem of_tables {before after : Database} (tables : HostTables before after) :
    SubmissionsKept before after := by
  obtain ⟨_, _, _, _, rfl⟩ := tables
  exact of_eq rfl rfl

/-- A start adds requirements that nothing was submitted to. -/
theorem of_started {params : StartProcessParams} {row : ProcessInstance} {before after : World}
    (started : Started params row before after) : SubmissionsKept before.db after.db where
  requirements other member := by
    rw [started.requirements]
    exact List.mem_append_left _ member
  added other member := by
    rw [started.requirements] at member
    rcases List.mem_append.mp member with known | fresh
    · exact .inl known
    · obtain ⟨old, isNew, _, _, _, rfl⟩ := Table.mem_stamp fresh
      obtain ⟨template, _, eq⟩ := List.mem_filterMap.mp isNew
      obtain ⟨stepInstanceId, _, rfl⟩ := Option.map_eq_some_iff.mp eq
      exact .inr rfl
  submissions := by
    obtain ⟨_, _, _, _, _, tables⟩ := started.rest
    exact (of_tables tables).submissions

variable {deployment : Deployment}

theorem of_edit {origin before after : World} {process target : Nat}
    (edit : Edit deployment origin process target before after) :
    SubmissionsKept before.db after.db := by
  cases edit with
  | hosted host => exact of_tables host.tables
  | evaluated => exact of_eq rfl rfl
  | provisioned _ _ _ _ _ _ _ _ writes =>
      obtain ⟨_, _, _, _, _, _, _, rfl⟩ := writes
      exact of_eq rfl rfl
  | readied _ _ _ _ _ _ _ host =>
      have hosted := of_tables host.tables
      exact ⟨hosted.requirements, hosted.added, hosted.submissions⟩
  | blocked => exact of_eq rfl rfl
  | spawned _ _ _ _ _ _ _ _ _ _ _ _ started =>
      exact trans (of_started started) (of_eq rfl rfl)

end SubmissionsKept

namespace Engine

variable {deployment : Deployment}

/-- The calls that advance a step and report a finished child. -/
def Call.advances : Call → Bool
  | .attemptAdvance _ _ | .handleChildTerminal _ _ _ => true
  | _ => false

theorem submissionsKept_keptByWrites {origin : World} {call : Call}
    (advances : call.advances = true) :
    KeptByWrites deployment (fun w => SubmissionsKept origin.db w.db) origin call where
  rolledBack later rolledBack _ _ := by
    rw [rolledBack]
    exact ⟨fun _ member => member, fun _ member => .inl member, rfl⟩
  started isCall := by
    subst isCall
    cases advances
  edit edit kept := kept.trans (.of_edit edit)
  completed _ _ _ _ _ completes kept := by
    obtain ⟨_, _, tables⟩ := completes.tables
    have hosted := SubmissionsKept.of_tables tables
    exact kept.trans ⟨hosted.requirements, hosted.added, hosted.submissions⟩
  settled settlement kept := by
    cases settlement with
    | idle => exact kept
    | child => exact kept.trans (.of_eq rfl rfl)
    | announced _ _ _ _ _ announced =>
        have hosted := SubmissionsKept.of_tables announced.tables
        exact kept.trans ⟨hosted.requirements, hosted.added, hosted.submissions⟩
  told _ _ told kept := by
    cases told <;> exact kept.trans (.of_eq rfl rfl)
  eligible _ kept := kept.trans (.of_eq rfl rfl)
  validated isCall := by
    subst isCall
    cases advances
  evidence _ requirements := by
    cases call <;> first | exact requirements.elim | cases advances
  marked isCall := by
    subst isCall
    cases advances

/-- Advancing a step and reporting a child leave what was submitted. -/
theorem perform_submissionsKept {call : Call} (advances : call.advances = true) (w : World) :
    Program.wp (perform deployment call) (fun _ w' => SubmissionsKept w.db w'.db)
      (fun _ w' => SubmissionsKept w.db w'.db) w :=
  Program.wp_mono (perform_effect deployment call w)
    (fun _ _ effect => effect.kept (submissionsKept_keptByWrites advances) (.refl w.db))
    (fun _ _ effect => effect.kept (submissionsKept_keptByWrites advances) (.refl w.db))

end Engine

/-! ## Calls with an operation that fails -/

namespace RequirementSubmissions

/-- The operations of `create` and `update`, each with a commit of its own. -/
inductive Operation where
  | saveSubmission | updateRequirement | emitSubmitted | emitApproved | attemptAdvance
  | finalizeChild | updateSubmission
deriving DecidableEq

/-- An operation, unless it is the one that fails: then it does nothing and raises. -/
def reaching {α : Type} (fails : Option Operation) (operation : Operation) (body : Tx α) : Tx α :=
  if fails = some operation then Program.raise "operation failed" else body

variable (deployment : Deployment) (fails : Option Operation)

/-- `attemptAdvance`, of which either transaction may fail. -/
def attemptAdvanceFailing (stepInstanceId : Nat) (opts : AdvanceOptions) : Tx Unit := do
  let childTerminalId ← reaching fails .attemptAdvance <|
    transaction (attemptAdvanceIn deployment stepInstanceId opts)
  reaching fails .finalizeChild <|
    finalizeChildTerminalIfNeeded deployment childTerminalId opts

/-- `create`, up to the call of the orchestrator; it returns the step to advance. -/
def createInFailing (userId requirementInstanceId : Nat) (submittedData : Json) : Tx Nat := do
  let found ← Program.read fun w => w.db.requirements.find? requirementInstanceId
  match found with
  | none => Program.raise "No ProcessInstanceStepRequirement found"
  | some requirement => do
      let verdict := validateSubmission deployment requirement.jsonSchema submittedData
      let submissionId ← reaching fails .saveSubmission <| saveSubmission
        { requirementSubmissionId := 0
          requirementInstanceId := requirementInstanceId
          submittedData := submittedData
          isValid := verdict.1
          status := if verdict.2 = true then .approved else .pending
          createdBy := userId }
      let time ← now
      reaching fails .updateRequirement <| writeDb fun db => db.setRequirement
        requirementInstanceId (submitted submissionId verdict.2 time)
        (submitted_key submissionId verdict.2 time)
      reaching fails .emitSubmitted <| emit (requirementEvent
        "six1-event.requirement.process_requirement_submitted" requirement submissionId)
      Program.when (verdict.2 = true) <| reaching fails .emitApproved <| emit (requirementEvent
        "six1-event.requirement.process_requirement_approved" requirement submissionId)
      pure requirement.stepInstanceId

/-- `create`. -/
def createFailing (userId requirementInstanceId : Nat) (submittedData : Json) : Tx Unit := do
  let stepInstanceId ← createInFailing deployment fails userId requirementInstanceId submittedData
  attemptAdvanceFailing deployment fails stepInstanceId submissionOptions

/-- `update` to `approved`, up to the call of the orchestrator; it returns the
step to advance. -/
def approveInFailing (requirementSubmissionId : Nat) : Tx Nat := do
  let found ← Program.read fun w => w.db.submissions.find? requirementSubmissionId
  match found with
  | none => Program.raise "No ProcessInstanceStepRequirementSubmissionEntity found"
  | some submission => do
      let parent ← Program.read fun w =>
        w.db.requirements.find? submission.requirementInstanceId
      match parent with
      | none => Program.raise "No ProcessInstanceStepRequirement found"
      | some requirement => do
          let time ← now
          reaching fails .updateRequirement <| writeDb fun db => db.setRequirement
            requirement.requirementInstanceId (approved time) (approved_key time)
          reaching fails .emitApproved <| emit (requirementEvent
            "six1-event.requirement.process_requirement_approved" requirement
            requirementSubmissionId)
          pure requirement.stepInstanceId

/-- `UpdateProcessInstanceStepRequirementSubmissionDto`, on the columns of the row. -/
structure UpdateSubmissionDto where
  requirementInstanceId : Option Nat
  submittedData : Option Json
  isValid : Option Bool
  status : Option RequirementStatus
  createdBy : Option Nat

/-- The row with the fields of the DTO that are given. -/
def UpdateSubmissionDto.apply (dto : UpdateSubmissionDto) (row : RequirementSubmission) :
    RequirementSubmission :=
  { row with
    requirementInstanceId := dto.requirementInstanceId.getD row.requirementInstanceId
    submittedData := dto.submittedData.getD row.submittedData
    isValid := dto.isValid.getD row.isValid
    status := dto.status.getD row.status
    createdBy := dto.createdBy.getD row.createdBy }

theorem UpdateSubmissionDto.apply_key (dto : UpdateSubmissionDto) (row : RequirementSubmission) :
    (dto.apply row).requirementSubmissionId = row.requirementSubmissionId := rfl

/-- A DTO that names a status alone. -/
def UpdateSubmissionDto.ofStatus (status : RequirementStatus) : UpdateSubmissionDto :=
  ⟨none, none, none, some status, none⟩

/-- The last write of `update`. -/
def writeSubmissionDto (requirementSubmissionId : Nat) (dto : UpdateSubmissionDto) : Tx Unit :=
  writeDb fun db => { db with
    submissions := db.submissions.updateAt requirementSubmissionId dto.apply dto.apply_key }

/-- `update`. -/
def updateFailing (requirementSubmissionId : Nat) (dto : UpdateSubmissionDto) : Tx Unit := do
  let found ← Program.read fun w => w.db.submissions.find? requirementSubmissionId
  Program.when (found = none) <|
    Program.raise "No ProcessInstanceStepRequirementSubmissionEntity found"
  Program.when (dto.status = some .approved) do
    let stepInstanceId ← approveInFailing fails requirementSubmissionId
    attemptAdvanceFailing deployment fails stepInstanceId submissionOptions
  reaching fails .updateSubmission <| writeSubmissionDto requirementSubmissionId dto

@[simp] theorem reaching_none {α : Type} (operation : Operation) (body : Tx α) :
    reaching none operation body = body := rfl

/-- Nothing fails in the calls of the service. -/
theorem createFailing_none :
    createFailing deployment none = create deployment := by
  funext userId requirementInstanceId submittedData
  rfl

theorem updateFailing_none (requirementSubmissionId : Nat) (status : RequirementStatus) :
    updateFailing deployment none requirementSubmissionId (.ofStatus status) =
      update deployment requirementSubmissionId status := by
  simp only [updateFailing, update, approveInFailing, approveIn, attemptAdvanceFailing,
    StepOrchestrator.attemptAdvance, reaching_none]
  cases status <;> rfl

section Rules

variable {deployment fails}

/-- An operation that is reached raises without effect, or runs. -/
theorem wp_reaching {α : Type} {operation : Operation} {body : Tx α} {ok : α → World → Prop}
    {err : String → World → Prop} {w : World} :
    Program.wp (reaching fails operation body) ok err w ↔
      (fails = some operation → err "operation failed" w) ∧
        (fails ≠ some operation → Program.wp body ok err w) := by
  unfold reaching
  split
  · rename_i failed
    exact ⟨fun raised => ⟨fun _ => raised, fun other => absurd failed other⟩,
      fun both => both.1 failed⟩
  · rename_i reached
    exact ⟨fun ran => ⟨fun failed => absurd failed reached, fun _ => ran⟩,
      fun both => both.2 reached⟩

/-- Advancing the step leaves what was submitted, whichever part fails. -/
theorem attemptAdvanceFailing_kept (stepInstanceId : Nat) (opts : AdvanceOptions) (w : World) :
    Program.wp (attemptAdvanceFailing deployment fails stepInstanceId opts)
      (fun _ w' => SubmissionsKept w.db w'.db) (fun _ w' => SubmissionsKept w.db w'.db) w := by
  have advanced := @Engine.perform_submissionsKept deployment
    (.attemptAdvance stepInstanceId opts) rfl w
  unfold Engine.perform at advanced
  rw [Program.wp_bind] at advanced
  unfold attemptAdvanceFailing
  rw [Program.wp_bind, wp_reaching]
  refine ⟨fun _ => .refl w.db, fun _ => Program.wp_mono advanced ?_ (fun _ _ kept => kept)⟩
  intro childTerminalId w₁ kept
  rw [wp_reaching]
  refine ⟨fun _ => kept, fun _ => ?_⟩
  cases childTerminalId with
  | none => exact kept
  | some childProcessInstanceId =>
      have reported := @Engine.perform_submissionsKept deployment
        (.handleChildTerminal childProcessInstanceId .completed opts) rfl w₁
      unfold Engine.perform at reported
      rw [Program.wp_bind] at reported
      exact Program.wp_mono reported (fun _ _ later => kept.trans later)
        (fun _ _ later => kept.trans later)

end Rules

end RequirementSubmissions

end CoreApi.Automation
