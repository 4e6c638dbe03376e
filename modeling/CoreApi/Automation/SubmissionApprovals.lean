import CoreApi.Automation.CompletedEvidence
import CoreApi.Automation.FailingSubmissions

/-!
# Approved requirements and their last submission

A requirement is approved for a submission, and records the last one it got. An
approval writes the requirement first, whichever submission it is of and whatever
its validation said, and the submission only after the step has advanced. The
condition here is exact: a call meets it if and only if it leaves every approved
requirement with an approved last submission, approves no requirement for an
older or an invalid one, and leaves the two statuses agreeing where it fails.
-/

namespace CoreApi.Automation

open CoreApi.Foundation StepOrchestrator

namespace RequirementSubmissions

/-! ## The property -/

/-- The submission recorded as the last one of the requirement is approved. -/
def LastApproved (submissions : List RequirementSubmission) (requirement : StepRequirement) :
    Prop :=
  ∃ submission ∈ submissions,
    requirement.lastSubmissionId = some submission.requirementSubmissionId ∧
      submission.status = .approved

instance (submissions : List RequirementSubmission) (requirement : StepRequirement) :
    Decidable (LastApproved submissions requirement) :=
  inferInstanceAs (Decidable (∃ submission ∈ submissions, _ ∧ _))

/-- Every approved requirement has an approved last submission. -/
def ApprovedByLast (db : Database) : Prop :=
  ∀ requirement ∈ db.requirements.rows, requirement.status = .approved →
    LastApproved db.submissions.rows requirement

instance (db : Database) : Decidable (ApprovedByLast db) :=
  inferInstanceAs (Decidable (∀ requirement ∈ db.requirements.rows, _ → _))

/-- The requirement and the submission, where both are stored, are both approved or
neither is. -/
def StatusesAgree (db : Database) (requirementInstanceId requirementSubmissionId : Nat) : Prop :=
  ∀ requirement ∈ db.requirements.find? requirementInstanceId,
    ∀ submission ∈ db.submissions.find? requirementSubmissionId,
      (requirement.status = .approved ↔ submission.status = .approved)

/-- A call of the submission service, with the operation of it that fails, if any. -/
inductive SubmissionCall where
  | create (userId requirementInstanceId : Nat) (submittedData : Json)
      (fails : Option Operation)
  | update (requirementSubmissionId : Nat) (dto : UpdateSubmissionDto)
      (fails : Option Operation)

namespace SubmissionCall

/-- What the call does. -/
def perform (deployment : Deployment) : SubmissionCall → Tx Unit
  | .create userId requirementInstanceId submittedData fails =>
      createFailing deployment fails userId requirementInstanceId submittedData
  | .update requirementSubmissionId dto fails =>
      updateFailing deployment fails requirementSubmissionId dto

/-- The requirement and the submission that the call is about. -/
def subject (db : Database) : SubmissionCall → Option (Nat × Nat)
  | .create _ requirementInstanceId _ _ =>
      some (requirementInstanceId, db.submissions.autoIncrement)
  | .update requirementSubmissionId _ _ =>
      (db.submissions.find? requirementSubmissionId).map fun submission =>
        (submission.requirementInstanceId, requirementSubmissionId)

/-- The submission that the call approves. -/
def approves : SubmissionCall → Option Nat
  | .create _ _ _ _ => none
  | .update requirementSubmissionId dto _ =>
      if dto.status = some .approved then some requirementSubmissionId else none

end SubmissionCall

/-- The calls of the submission service, one after the other. -/
def submissionCalls (deployment : Deployment) : StepSystem World SubmissionCall where
  step w call := (call.perform deployment w).2

/-- Approving an older or an invalid submission approves no requirement. -/
def Spares (before : Database) (call : SubmissionCall) (after : Database) : Prop :=
  ∀ submission ∈ before.submissions.rows,
    call.approves = some submission.requirementSubmissionId →
      ∀ requirement ∈ before.requirements.find? submission.requirementInstanceId,
        requirement.lastSubmissionId ≠ some submission.requirementSubmissionId ∨
            submission.isValid = false →
          requirement.status ≠ .approved →
            ∀ later ∈ after.requirements.find? submission.requirementInstanceId,
              later.status ≠ .approved

/-- What a call leaves: the approved requirements with an approved last submission,
no requirement approved for an older or an invalid one, and, where the call failed,
two statuses that agree if they did. -/
structure Reflects (before : Database) (call : SubmissionCall) (failed : Prop)
    (after : Database) : Prop where
  latest : ApprovedByLast after
  spares : Spares before call after
  agreed : failed → ∀ requirementInstanceId requirementSubmissionId,
    call.subject before = some (requirementInstanceId, requirementSubmissionId) →
      StatusesAgree before requirementInstanceId requirementSubmissionId →
        StatusesAgree after requirementInstanceId requirementSubmissionId

/-- What the call leaves under a deployment. -/
def Reflected (deployment : Deployment) (w : World) (call : SubmissionCall) : Prop :=
  Reflects w.db call (∃ message, (call.perform deployment w).1 = .error message)
    (call.perform deployment w).2.db

/-! ## The condition -/

/-- The world in which an approval advances the step. -/
def approvedWorld (w : World) (requirement : StepRequirement) (requirementSubmissionId : Nat) :
    World :=
  { w with
    db := w.db.setRequirement requirement.requirementInstanceId (approved w.now)
      (approved_key w.now)
    events := w.events ++ [requirementEvent "six1-event.requirement.process_requirement_approved"
      requirement requirementSubmissionId] }

/-- Nothing fails in an approval after the write of the requirement. -/
def Completes (deployment : Deployment) (fails : Option Operation) (w : World)
    (requirement : StepRequirement) (requirementSubmissionId : Nat) : Prop :=
  fails ≠ some .emitApproved ∧
    (attemptAdvanceFailing deployment fails requirement.stepInstanceId submissionOptions).Returns
      (approvedWorld w requirement requirementSubmissionId) ∧
    fails ≠ some .updateSubmission

/-- A submission is not saved under a requirement that cannot be written, unless their
statuses agree as it is. A requirement that is not approved yet is written for its
last and valid submission only, and nothing fails after that, unless the submission
is approved as it is. The approval of a last submission is not taken back. -/
def Sound (deployment : Deployment) (w : World) : SubmissionCall → Prop
  | .create _ requirementInstanceId submittedData fails =>
      fails = some .updateRequirement →
        ∀ requirement ∈ w.db.requirements.find? requirementInstanceId,
          ((validateSubmission deployment requirement.jsonSchema submittedData).2 = true ↔
            requirement.status = .approved)
  | .update requirementSubmissionId dto fails =>
      ∀ submission ∈ w.db.submissions.find? requirementSubmissionId,
        (dto.status = some .approved → fails ≠ some .updateRequirement →
          ∀ requirement ∈ w.db.requirements.find? submission.requirementInstanceId,
            requirement.status ≠ .approved →
              (requirement.lastSubmissionId = some requirementSubmissionId ∧
                submission.isValid = true) ∧
                (submission.status = .approved ∨
                  Completes deployment fails w requirement requirementSubmissionId)) ∧
        ∀ status ∈ dto.status, status ≠ .approved → fails ≠ some .updateSubmission →
          ∀ requirement ∈ w.db.requirements.rows, requirement.status = .approved →
            requirement.lastSubmissionId ≠ some requirementSubmissionId

/-! ## The last submission through the writes -/

theorem LastApproved.mono {submissions later : List RequirementSubmission}
    {requirement : StepRequirement} (approved : LastApproved submissions requirement)
    (kept : ∀ submission ∈ submissions, submission ∈ later) : LastApproved later requirement := by
  obtain ⟨submission, member, isLast, status⟩ := approved
  exact ⟨submission, kept submission member, isLast, status⟩

/-- A submission that is updated stays approved, if it is not given another status. -/
theorem LastApproved.updateAt {submissions : Table RequirementSubmission}
    {requirement : StepRequirement} {requirementSubmissionId : Nat} {dto : UpdateSubmissionDto}
    (approved : LastApproved submissions.rows requirement)
    (keeps : requirement.lastSubmissionId = some requirementSubmissionId →
      ∀ status ∈ dto.status, status = .approved) :
    LastApproved (submissions.updateAt requirementSubmissionId dto.apply (fun _ => rfl)).rows
      requirement := by
  obtain ⟨submission, member, isLast, status⟩ := approved
  by_cases same : submission.requirementSubmissionId = requirementSubmissionId
  · refine ⟨dto.apply submission,
      Table.mem_updateAt.mpr (.inl ⟨submission, member, same, rfl⟩), isLast, ?_⟩
    show dto.status.getD submission.status = .approved
    rcases given : dto.status with _ | status'
    · exact status
    · exact keeps (same ▸ isLast) status' given
  · exact ⟨submission, Table.mem_updateAt.mpr (.inr ⟨member, same⟩), isLast, status⟩


end RequirementSubmissions

namespace SubmissionsKept

variable {before after : Database}

theorem find?_requirement (kept : SubmissionsKept before after) {requirementInstanceId : Nat}
    {requirement : StepRequirement}
    (found : before.requirements.find? requirementInstanceId = some requirement) :
    after.requirements.find? requirementInstanceId = some requirement := by
  obtain ⟨member, key⟩ := Table.find?_eq_some.mp found
  exact Table.find?_eq_some.mpr ⟨kept.requirements requirement member, key⟩

theorem find?_submission (kept : SubmissionsKept before after) (requirementSubmissionId : Nat) :
    after.submissions.find? requirementSubmissionId =
      before.submissions.find? requirementSubmissionId := by
  unfold Table.find?
  rw [kept.submissions]

theorem approvedByLast (kept : SubmissionsKept before after)
    (approved : RequirementSubmissions.ApprovedByLast before) :
    RequirementSubmissions.ApprovedByLast after := by
  intro requirement member isApproved
  rw [kept.submissions]
  rcases kept.added requirement member with known | fresh
  · exact approved requirement known isApproved
  · rw [fresh] at isApproved
    cases isApproved

end SubmissionsKept

namespace RequirementSubmissions

variable {deployment : Deployment} {fails : Option Operation} {w : World}

/-- The rows of the requirements table after an update of one requirement. -/
theorem mem_setRequirement {db : Database} {requirementInstanceId : Nat}
    {set : StepRequirement → StepRequirement}
    (keeps : ∀ row, (set row).requirementInstanceId = row.requirementInstanceId)
    {row : StepRequirement} :
    row ∈ (db.setRequirement requirementInstanceId set keeps).requirements.rows ↔
      (∃ old ∈ db.requirements.rows, old.requirementInstanceId = requirementInstanceId ∧
        row = set old) ∨
        (row ∈ db.requirements.rows ∧ row.requirementInstanceId ≠ requirementInstanceId) :=
  @Table.mem_updateAt _ _ _ _ _ set keeps

/-- The row of an updated requirement. -/
theorem find?_setRequirement {db : Database} {requirementInstanceId : Nat}
    {requirement : StepRequirement} (set : StepRequirement → StepRequirement)
    (keeps : ∀ row, (set row).requirementInstanceId = row.requirementInstanceId)
    (found : db.requirements.find? requirementInstanceId = some requirement) :
    (db.setRequirement requirementInstanceId set keeps).requirements.find? requirementInstanceId =
      some (set requirement) := by
  have updated := @Table.find?_updateAt_self _ _ db.requirements requirementInstanceId set keeps
  rwa [found] at updated

/-! ## Creating a submission -/

/-- The row `create` saves. -/
def createdRow (deployment : Deployment) (userId requirementInstanceId : Nat)
    (submittedData : Json) (requirement : StepRequirement) : RequirementSubmission where
  requirementSubmissionId := 0
  requirementInstanceId := requirementInstanceId
  submittedData := submittedData
  isValid := (validateSubmission deployment requirement.jsonSchema submittedData).1
  status :=
    if (validateSubmission deployment requirement.jsonSchema submittedData).2 = true then
      .approved
    else .pending
  createdBy := userId

/-- The database in which the submission is saved. -/
def savedDb (db : Database) (row : RequirementSubmission) : Database :=
  { db with submissions := db.submissions.insert row }

/-- The database in which the requirement records it, too. -/
def recordedDb (deployment : Deployment) (w : World) (userId requirementInstanceId : Nat)
    (submittedData : Json) (requirement : StepRequirement) : Database :=
  (savedDb w.db (createdRow deployment userId requirementInstanceId submittedData
    requirement)).setRequirement requirementInstanceId
      (submitted w.db.submissions.autoIncrement
        (validateSubmission deployment requirement.jsonSchema submittedData).2 w.now)
      (fun _ => rfl)

/-- What `create` leaves. -/
inductive Created (deployment : Deployment) (fails : Option Operation) (w : World)
    (userId requirementInstanceId : Nat) (submittedData : Json) : Database → Prop
  | nothing
      (reason : w.db.requirements.find? requirementInstanceId = none ∨
        fails = some .saveSubmission) :
      Created deployment fails w userId requirementInstanceId submittedData w.db
  | saved (requirement : StepRequirement)
      (found : w.db.requirements.find? requirementInstanceId = some requirement)
      (failed : fails = some .updateRequirement) :
      Created deployment fails w userId requirementInstanceId submittedData
        (savedDb w.db (createdRow deployment userId requirementInstanceId submittedData
          requirement))
  | recorded {after : Database} (requirement : StepRequirement)
      (found : w.db.requirements.find? requirementInstanceId = some requirement)
      (recorded : fails ≠ some .updateRequirement)
      (kept : SubmissionsKept (recordedDb deployment w userId requirementInstanceId submittedData
        requirement) after) :
      Created deployment fails w userId requirementInstanceId submittedData after

/-- A `create` that returns wrote the requirement. -/
theorem createFailing_created (userId requirementInstanceId : Nat) (submittedData : Json)
    (w : World) :
    Program.wp (createFailing deployment fails userId requirementInstanceId submittedData)
      (fun _ w' => Created deployment fails w userId requirementInstanceId submittedData w'.db ∧
        fails ≠ some .updateRequirement)
      (fun _ w' => Created deployment fails w userId requirementInstanceId submittedData w'.db)
      w := by
  unfold createFailing createInFailing
  rw [Program.wp_bind, Program.wp_bind, Program.wp_read]
  rcases found : w.db.requirements.find? requirementInstanceId with _ | requirement
  · exact .nothing (.inl found)
  simp only [Program.wp_bind, wp_reaching, saveSubmission, Program.wp_writeReturning, wp_now,
    wp_writeDb, wp_emit, Program.wp_when, Program.wp_pure]
  refine ⟨fun failed => .nothing (.inr failed), fun _ => ?_⟩
  refine ⟨fun failed => .saved requirement found failed, fun recorded => ?_⟩
  have isRecorded : Created deployment fails w userId requirementInstanceId submittedData
      (recordedDb deployment w userId requirementInstanceId submittedData requirement) :=
    .recorded requirement found recorded (.refl _)
  have advanced : ∀ w' : World, w'.db = recordedDb deployment w userId requirementInstanceId
      submittedData requirement →
      Program.wp (attemptAdvanceFailing deployment fails requirement.stepInstanceId
          submissionOptions)
        (fun _ w'' => Created deployment fails w userId requirementInstanceId submittedData
          w''.db ∧ fails ≠ some .updateRequirement)
        (fun _ w'' => Created deployment fails w userId requirementInstanceId submittedData
          w''.db) w' := by
    intro w' same
    refine Program.wp_mono (attemptAdvanceFailing_kept requirement.stepInstanceId
      submissionOptions w') (fun _ w'' kept => ⟨?_, recorded⟩) (fun _ w'' kept => ?_)
    · exact .recorded requirement found recorded (same ▸ kept)
    · exact .recorded requirement found recorded (same ▸ kept)
  refine ⟨fun _ => isRecorded, fun _ => ⟨fun _ => ?_, fun _ => advanced _ rfl⟩⟩
  exact ⟨fun _ => isRecorded, fun _ => advanced _ rfl⟩

namespace Created

variable {userId requirementInstanceId : Nat} {submittedData : Json} {after : Database}

/-- A submission that is created takes no approval away from a requirement that is not
written, and a requirement that is written takes the status of its new last submission. -/
theorem latest
    (created : Created deployment fails w userId requirementInstanceId submittedData after)
    (approved : ApprovedByLast w.db) : ApprovedByLast after := by
  have kept : ∀ row : RequirementSubmission, ∀ submission ∈ w.db.submissions.rows,
      submission ∈ (w.db.submissions.insert row).rows := by
    intro row submission member
    rw [Table.rows_insert]
    exact List.mem_append_left _ member
  cases created with
  | nothing => exact approved
  | saved requirement =>
      intro other member isApproved
      exact (approved other member isApproved).mono (kept _)
  | recorded requirement found _ keeps =>
      refine keeps.approvedByLast fun other member isApproved => ?_
      rcases (mem_setRequirement _).mp member with ⟨old, _, _, rfl⟩ | ⟨untouched, _⟩
      · refine ⟨_, Table.mem_of_find? Table.find?_insert_self, rfl, ?_⟩
        show (createdRow deployment userId requirementInstanceId submittedData
          requirement).status = .approved
        by_cases verdict : (validateSubmission deployment requirement.jsonSchema
            submittedData).2 = true
        · exact if_pos verdict
        · simp only [submitted, if_neg verdict] at isApproved
          cases isApproved
      · exact (approved other untouched isApproved).mono (kept _)

/-- The requirement and the created submission agree, unless the submission alone was
saved and has another status. -/
theorem agree_iff
    (created : Created deployment fails w userId requirementInstanceId submittedData after) :
    StatusesAgree after requirementInstanceId w.db.submissions.autoIncrement ↔
      Sound deployment w (.create userId requirementInstanceId submittedData fails) := by
  have status : ∀ requirement, (createdRow deployment userId requirementInstanceId submittedData
      requirement).status = .approved ↔
        (validateSubmission deployment requirement.jsonSchema submittedData).2 = true := by
    intro requirement
    unfold createdRow
    split <;> simp_all
  cases created with
  | nothing reason =>
      refine iff_of_true (fun _ _ submission found => ?_) fun failed requirement found => ?_
      · rw [Table.find?_autoIncrement] at found
        cases found
      · rcases reason with missing | unsaved
        · rw [missing] at found
          cases found
        · rw [unsaved] at failed
          cases failed
  | saved requirement found failed =>
      constructor
      · intro agree _ other isOther
        rw [found] at isOther
        cases isOther
        rw [← status requirement]
        exact (agree requirement found _ Table.find?_insert_self).symm
      · intro sound other isOther submission isSubmission
        rw [show (savedDb w.db _).requirements.find? requirementInstanceId = some requirement
          from found] at isOther
        cases isOther
        rw [savedDb, Table.find?_insert_self] at isSubmission
        cases isSubmission
        exact (sound failed requirement found).symm.trans (status requirement).symm
  | recorded requirement found reached kept =>
      refine iff_of_true (fun other isOther submission isSubmission => ?_)
        fun failed => absurd failed reached
      have isRequirement : (recordedDb deployment w userId requirementInstanceId submittedData
          requirement).requirements.find? requirementInstanceId = some (submitted
            w.db.submissions.autoIncrement
            (validateSubmission deployment requirement.jsonSchema submittedData).2 w.now
            requirement) :=
        find?_setRequirement (submitted w.db.submissions.autoIncrement
          (validateSubmission deployment requirement.jsonSchema submittedData).2 w.now)
          (fun _ => rfl) found
      rw [kept.find?_requirement isRequirement] at isOther
      cases isOther
      have isCreated := (kept.find?_submission w.db.submissions.autoIncrement).trans
        Table.find?_insert_self
      rw [isCreated] at isSubmission
      cases isSubmission
      refine Iff.trans ?_ (status requirement).symm
      unfold submitted
      split <;> simp_all

end Created

/-- What is left by a call that raised. -/
theorem reflected_iff_of_raised {call : SubmissionCall} {message : String} {after : World}
    (run : call.perform deployment w = (.error message, after)) :
    Reflected deployment w call ↔ Reflects w.db call True after.db := by
  have raised : (∃ message', (call.perform deployment w).1 = .error message') = True := by
    rw [run]
    exact eq_true ⟨message, rfl⟩
  rw [Reflected, raised, run]

/-- What is left by a call that returned. -/
theorem reflected_iff_of_returned {call : SubmissionCall} {after : World}
    (run : call.perform deployment w = (.ok (), after)) :
    Reflected deployment w call ↔ Reflects w.db call False after.db := by
  have returned : (∃ message, (call.perform deployment w).1 = .error message) = False := by
    rw [run]
    exact eq_false nofun
  rw [Reflected, returned, run]

/-- A `create` reflects the last submission if and only if it is sound. -/
theorem reflected_create_iff (approved : ApprovedByLast w.db)
    {userId requirementInstanceId : Nat} {submittedData : Json} :
    Reflected deployment w (.create userId requirementInstanceId submittedData fails) ↔
      Sound deployment w (.create userId requirementInstanceId submittedData fails) := by
  have ends := @createFailing_created deployment fails userId requirementInstanceId submittedData w
  have unsaved : StatusesAgree w.db requirementInstanceId w.db.submissions.autoIncrement := by
    intro _ _ submission found
    rw [Table.find?_autoIncrement] at found
    cases found
  rcases run : SubmissionCall.perform deployment
    (.create userId requirementInstanceId submittedData fails) w with ⟨message | value, after⟩
  · rw [reflected_iff_of_raised run]
    have created := Program.wp_error ends run
    constructor
    · intro reflects
      exact created.agree_iff.mp (reflects.agreed trivial _ _ rfl unsaved)
    · intro sound
      refine ⟨created.latest approved, fun _ _ approves => (by cases approves), ?_⟩
      rintro _ _ _ isSubject _
      cases isSubject
      exact created.agree_iff.mpr sound
  · rw [reflected_iff_of_returned run]
    obtain ⟨created, reached⟩ := Program.wp_ok ends run
    exact iff_of_true ⟨created.latest approved, fun _ _ approves => (by cases approves),
      False.elim⟩ fun failed => absurd failed reached

/-! ## Updating a submission -/

/-- The database in which a submission is updated. -/
def writtenDb (db : Database) (requirementSubmissionId : Nat) (dto : UpdateSubmissionDto) :
    Database :=
  { db with
    submissions := db.submissions.updateAt requirementSubmissionId dto.apply dto.apply_key }

/-- What `update` leaves, and whether it raised. -/
inductive Updated (deployment : Deployment) (fails : Option Operation) (w : World)
    (requirementSubmissionId : Nat) (dto : UpdateSubmissionDto) : Prop → Database → Prop
  | nothing
      (reason : ∀ submission ∈ w.db.submissions.find? requirementSubmissionId,
        if dto.status = some .approved then
          fails = some .updateRequirement ∨
            w.db.requirements.find? submission.requirementInstanceId = none
        else fails = some .updateSubmission) :
      Updated deployment fails w requirementSubmissionId dto True w.db
  | written (submission : RequirementSubmission)
      (found : w.db.submissions.find? requirementSubmissionId = some submission)
      (other : dto.status ≠ some .approved) (reached : fails ≠ some .updateSubmission) :
      Updated deployment fails w requirementSubmissionId dto False
        (writtenDb w.db requirementSubmissionId dto)
  | interrupted {after : Database} (submission : RequirementSubmission)
      (requirement : StepRequirement)
      (found : w.db.submissions.find? requirementSubmissionId = some submission)
      (parent : w.db.requirements.find? submission.requirementInstanceId = some requirement)
      (approving : dto.status = some .approved) (reached : fails ≠ some .updateRequirement)
      (incomplete : ¬ Completes deployment fails w requirement requirementSubmissionId)
      (kept : SubmissionsKept (approvedWorld w requirement requirementSubmissionId).db after) :
      Updated deployment fails w requirementSubmissionId dto True after
  | completed {advanced : Database} (submission : RequirementSubmission)
      (requirement : StepRequirement)
      (found : w.db.submissions.find? requirementSubmissionId = some submission)
      (parent : w.db.requirements.find? submission.requirementInstanceId = some requirement)
      (approving : dto.status = some .approved) (reached : fails ≠ some .updateRequirement)
      (completes : Completes deployment fails w requirement requirementSubmissionId)
      (kept : SubmissionsKept (approvedWorld w requirement requirementSubmissionId).db advanced) :
      Updated deployment fails w requirementSubmissionId dto False
        (writtenDb advanced requirementSubmissionId dto)

private theorem approving_updated {requirementSubmissionId : Nat} {dto : UpdateSubmissionDto}
    {submission : RequirementSubmission}
    (found : w.db.submissions.find? requirementSubmissionId = some submission)
    (approving : dto.status = some .approved) :
    Program.wp (do
        let stepInstanceId ← approveInFailing fails requirementSubmissionId
        attemptAdvanceFailing deployment fails stepInstanceId submissionOptions)
      (fun _ advanced => Program.wp
        (reaching fails .updateSubmission (writeSubmissionDto requirementSubmissionId dto))
        (fun _ w' => Updated deployment fails w requirementSubmissionId dto False w'.db)
        (fun _ w' => Updated deployment fails w requirementSubmissionId dto True w'.db) advanced)
      (fun _ w' => Updated deployment fails w requirementSubmissionId dto True w'.db) w := by
  unfold approveInFailing writeSubmissionDto
  rw [Program.wp_bind, Program.wp_bind, Program.wp_read, found]
  simp only [Program.wp_bind, Program.wp_read]
  rcases parent : w.db.requirements.find? submission.requirementInstanceId with _ | requirement
  · refine .nothing fun other isOther => ?_
    rw [Option.mem_def, found] at isOther
    cases isOther
    rw [if_pos approving]
    exact .inr parent
  simp only [Program.wp_bind, wp_now, wp_reaching, wp_writeDb, wp_emit, Program.wp_pure]
  refine ⟨fun failed => .nothing fun other isOther => ?_, fun reached => ?_⟩
  · rw [if_pos approving]
    exact .inl failed
  have keptAs : ∀ {after : Database}, SubmissionsKept
      (w.db.setRequirement requirement.requirementInstanceId (approved w.now) (fun _ => rfl))
      after → SubmissionsKept (approvedWorld w requirement requirementSubmissionId).db after :=
    fun kept => kept
  refine ⟨fun failed => ?_, fun emitted => ?_⟩
  · exact .interrupted submission requirement found parent approving reached
      (fun completes => completes.1 failed) (keptAs (.refl _))
  refine Program.wp_mono (Program.wp_and (attemptAdvanceFailing_kept
    requirement.stepInstanceId submissionOptions _) (Program.wp_run _)) ?_ ?_
  · rintro value advanced ⟨kept, run⟩
    have returns : (attemptAdvanceFailing deployment fails requirement.stepInstanceId
        submissionOptions).Returns (approvedWorld w requirement requirementSubmissionId) :=
      ⟨value, congrArg Prod.fst run⟩
    exact ⟨fun failed => .interrupted submission requirement found parent approving reached
        (fun completes => completes.2.2 failed) (keptAs kept),
      fun wrote => .completed submission requirement found parent approving reached
        ⟨emitted, returns, wrote⟩ (keptAs kept)⟩
  · rintro message after ⟨kept, run⟩
    refine .interrupted submission requirement found parent approving reached
      (fun completes => ?_) (keptAs kept)
    obtain ⟨value, returned⟩ := completes.2.1
    have raised : (attemptAdvanceFailing deployment fails requirement.stepInstanceId
        submissionOptions (approvedWorld w requirement requirementSubmissionId)).1 =
          .error message := congrArg Prod.fst run
    rw [raised] at returned
    cases returned

theorem updateFailing_updated (requirementSubmissionId : Nat) (dto : UpdateSubmissionDto)
    (w : World) :
    Program.wp (updateFailing deployment fails requirementSubmissionId dto)
      (fun _ w' => Updated deployment fails w requirementSubmissionId dto False w'.db)
      (fun _ w' => Updated deployment fails w requirementSubmissionId dto True w'.db) w := by
  unfold updateFailing
  rw [Program.wp_bind, Program.wp_read]
  rcases found : w.db.submissions.find? requirementSubmissionId with _ | submission
  · refine .nothing fun submission isFound => ?_
    rw [found] at isFound
    cases isFound
  rw [Program.wp_bind, Program.wp_when]
  refine ⟨fun missing => (by cases missing), fun _ => ?_⟩
  rw [Program.wp_bind, Program.wp_when]
  refine ⟨fun approving => approving_updated found approving, fun other => ?_⟩
  rw [wp_reaching]
  refine ⟨fun failed => .nothing fun _ _ => ?_, fun reached => ?_⟩
  · rw [if_neg other]
    exact failed
  · exact .written submission found other reached

namespace Updated

variable {requirementSubmissionId : Nat} {dto : UpdateSubmissionDto} {failed : Prop}
  {after : Database}

/-- Where nothing is written, nothing changes. -/
theorem reflects_nothing {call : SubmissionCall} (approved : ApprovedByLast w.db) :
    Reflects w.db call True w.db := by
  refine ⟨approved, ?_, fun _ _ _ _ agree => agree⟩
  intro submission _ _ requirement found _ unapproved later isLater
  rw [Option.mem_def.mp found] at isLater
  cases isLater
  exact unapproved

/-- A status of a submission alone: it must not be taken from the last submission of an
approved requirement. -/
theorem latest_written_iff (approved : ApprovedByLast w.db) {submission : RequirementSubmission}
    (found : w.db.submissions.find? requirementSubmissionId = some submission)
    (other : dto.status ≠ some .approved) :
    ApprovedByLast (writtenDb w.db requirementSubmissionId dto) ↔
      ∀ status ∈ dto.status, ∀ requirement ∈ w.db.requirements.rows,
        requirement.status = .approved →
          requirement.lastSubmissionId ≠ some requirementSubmissionId := by
  constructor
  · intro latest status given requirement member isApproved isLast
    obtain ⟨last, lastMember, isLast', lastApproved⟩ := latest requirement member isApproved
    rw [isLast] at isLast'
    have written := @Table.find?_updateAt_self _ _ w.db.submissions requirementSubmissionId
      dto.apply (fun _ => rfl)
    rw [found] at written
    have same : last = dto.apply submission :=
      Table.eq_of_key_eq lastMember (Table.mem_of_find? written)
        ((Option.some.inj isLast').symm.trans (Table.key_of_find? written).symm)
    rw [same] at lastApproved
    have isGiven : dto.status.getD submission.status = status := by
      rw [Option.mem_def.mp given]
      rfl
    refine other ?_
    rw [Option.mem_def.mp given, ← isGiven]
    exact congrArg some lastApproved
  · intro untouched requirement member isApproved
    refine (approved requirement member isApproved).updateAt fun isLast status given => ?_
    exact absurd isLast (untouched status given requirement member isApproved)

section Approving

variable {submission : RequirementSubmission} {requirement : StepRequirement}

theorem spares_iff
    (found : w.db.submissions.find? requirementSubmissionId = some submission)
    (parent : w.db.requirements.find? submission.requirementInstanceId = some requirement)
    (approving : dto.status = some .approved) {later : StepRequirement}
    (isLater : after.requirements.find? submission.requirementInstanceId = some later)
    (isApproved : later.status = .approved) :
    Spares w.db (.update requirementSubmissionId dto fails) after ↔
      (requirement.status ≠ .approved →
        requirement.lastSubmissionId = some requirementSubmissionId ∧
          submission.isValid = true) := by
  have key : submission.requirementSubmissionId = requirementSubmissionId :=
    Table.key_of_find? found
  have approves : SubmissionCall.approves (.update requirementSubmissionId dto fails) =
      some requirementSubmissionId := if_pos approving
  constructor
  · intro spares unapproved
    by_contra refused
    refine spares submission (Table.mem_of_find? found) (key.symm ▸ approves) requirement parent ?_
      unapproved later isLater isApproved
    rw [key]
    by_cases last : requirement.lastSubmissionId = some requirementSubmissionId
    · exact .inr (Bool.eq_false_of_not_eq_true fun valid => refused ⟨last, valid⟩)
    · exact .inl last
  · intro spared other otherMember isApproving other' isOther' unfit unapproved
    rw [approves, Option.some.injEq] at isApproving
    have same : other = submission :=
      Table.eq_of_key_eq otherMember (Table.mem_of_find? found) (isApproving.symm.trans key.symm)
    rw [same] at isOther' unfit
    rw [Option.mem_def, parent] at isOther'
    cases isOther'
    obtain ⟨last, valid⟩ := spared unapproved
    rw [key] at unfit
    rcases unfit with older | invalid
    · exact absurd last older
    · rw [valid] at invalid
      cases invalid

theorem lastOf_approvedWorld (Last : StepRequirement → Prop)
    (parent : w.db.requirements.find? submission.requirementInstanceId = some requirement)
    (others : ∀ other ∈ w.db.requirements.rows, other.status = .approved → Last other)
    (own : Last (approved w.now requirement)) {row : StepRequirement}
    (member : row ∈ (approvedWorld w requirement requirementSubmissionId).db.requirements.rows)
    (isApproved : row.status = .approved) : Last row := by
  rcases (mem_setRequirement _).mp member with ⟨old, oldMember, key, rfl⟩ | ⟨untouched, _⟩
  · have same : old = requirement :=
      Table.eq_of_key_eq oldMember (Table.mem_of_find? parent) key
    rw [same]
    exact own
  · exact others row untouched isApproved

/-- What an approval leaves that fails after the write of the requirement. -/
theorem reflects_interrupted_iff (holds : ApprovedByLast w.db)
    (found : w.db.submissions.find? requirementSubmissionId = some submission)
    (parent : w.db.requirements.find? submission.requirementInstanceId = some requirement)
    (approving : dto.status = some .approved)
    (kept : SubmissionsKept (approvedWorld w requirement requirementSubmissionId).db after) :
    Reflects w.db (.update requirementSubmissionId dto fails) True after ↔
      (requirement.status ≠ .approved →
        (requirement.lastSubmissionId = some requirementSubmissionId ∧
          submission.isValid = true) ∧ submission.status = .approved) := by
  have key : requirement.requirementInstanceId = submission.requirementInstanceId :=
    Table.key_of_find? parent
  have isLater : after.requirements.find? submission.requirementInstanceId =
      some (approved w.now requirement) := by
    refine kept.find?_requirement ?_
    rw [← key] at parent ⊢
    exact find?_setRequirement (approved w.now) (fun _ => rfl) parent
  have isSubmission : after.submissions.find? requirementSubmissionId = some submission :=
    (kept.find?_submission requirementSubmissionId).trans found
  have isSubject : SubmissionCall.subject w.db (.update requirementSubmissionId dto fails) =
      some (submission.requirementInstanceId, requirementSubmissionId) := by
    rw [SubmissionCall.subject, found]
    rfl
  constructor
  · intro reflects unapproved
    refine ⟨(spares_iff found parent approving isLater rfl).mp reflects.spares unapproved, ?_⟩
    by_contra pending
    have before : StatusesAgree w.db submission.requirementInstanceId
        requirementSubmissionId := by
      intro other isOther other' isOther'
      rw [Option.mem_def, parent] at isOther
      rw [Option.mem_def, found] at isOther'
      cases isOther
      cases isOther'
      exact iff_of_false unapproved pending
    exact pending ((reflects.agreed trivial _ _ isSubject before _ isLater _ isSubmission).mp rfl)
  · intro sound
    refine ⟨kept.approvedByLast fun row member isApproved => ?_,
      (spares_iff found parent approving isLater rfl).mpr fun unapproved =>
        (sound unapproved).1, ?_⟩
    · refine lastOf_approvedWorld (LastApproved w.db.submissions.rows) parent holds ?_ member
        isApproved
      by_cases was : requirement.status = .approved
      · exact holds requirement (Table.mem_of_find? parent) was
      · obtain ⟨⟨last, _⟩, status⟩ := sound was
        exact ⟨submission, Table.mem_of_find? found,
          last.trans (congrArg some (Table.key_of_find? found).symm), status⟩
    · intro _ _ _ isSubject' before
      rw [isSubject] at isSubject'
      cases isSubject'
      intro other isOther other' isOther'
      rw [Option.mem_def, isLater] at isOther
      rw [Option.mem_def, isSubmission] at isOther'
      cases isOther
      cases isOther'
      refine iff_of_true rfl ?_
      by_cases was : requirement.status = .approved
      · exact (before requirement parent submission found).mp was
      · exact (sound was).2

/-- What an approval leaves that writes both rows. -/
theorem reflects_completed_iff (holds : ApprovedByLast w.db)
    (found : w.db.submissions.find? requirementSubmissionId = some submission)
    (parent : w.db.requirements.find? submission.requirementInstanceId = some requirement)
    (approving : dto.status = some .approved)
    (kept : SubmissionsKept (approvedWorld w requirement requirementSubmissionId).db after) :
    Reflects w.db (.update requirementSubmissionId dto fails) False
        (writtenDb after requirementSubmissionId dto) ↔
      (requirement.status ≠ .approved →
        requirement.lastSubmissionId = some requirementSubmissionId ∧
          submission.isValid = true) := by
  have key : requirement.requirementInstanceId = submission.requirementInstanceId :=
    Table.key_of_find? parent
  have isLater : (writtenDb after requirementSubmissionId dto).requirements.find?
      submission.requirementInstanceId = some (approved w.now requirement) := by
    refine kept.find?_requirement ?_
    rw [← key] at parent ⊢
    exact find?_setRequirement (approved w.now) (fun _ => rfl) parent
  have spares := @spares_iff fails w requirementSubmissionId dto _ submission requirement found
    parent approving _ isLater rfl
  refine ⟨fun reflects => spares.mp reflects.spares, fun sound => ⟨?_, spares.mpr sound,
    False.elim⟩⟩
  -- The submission is written as approved, so it is for the requirements it is the last of.
  have isWritten : ∀ row : StepRequirement, LastApproved w.db.submissions.rows row ∨
      row.lastSubmissionId = some requirementSubmissionId →
      LastApproved (writtenDb after requirementSubmissionId dto).submissions.rows row := by
    rintro row (already | isLast)
    · rw [← show after.submissions.rows = w.db.submissions.rows from kept.submissions] at already
      refine already.updateAt fun _ status given => ?_
      rw [Option.mem_def, approving] at given
      exact (Option.some.inj given).symm
    · have written := @Table.find?_updateAt_self _ _ after.submissions requirementSubmissionId
        dto.apply (fun _ => rfl)
      rw [(kept.find?_submission requirementSubmissionId).trans found] at written
      refine ⟨dto.apply submission, Table.mem_of_find? written,
        isLast.trans (congrArg some (Table.key_of_find? written).symm), ?_⟩
      show dto.status.getD submission.status = .approved
      rw [approving]
      rfl
  intro row member isApproved
  rcases kept.added row member with known | fresh
  · refine lastOf_approvedWorld (LastApproved (writtenDb after requirementSubmissionId
      dto).submissions.rows) parent ?_ ?_ known isApproved
    · exact fun other otherMember was => isWritten other (.inl (holds other otherMember was))
    · refine isWritten _ ?_
      by_cases was : requirement.status = .approved
      · exact .inl (holds requirement (Table.mem_of_find? parent) was)
      · exact .inr (sound was).1
  · rw [fresh] at isApproved
    cases isApproved

/-- What the condition asks of an approval that writes the requirement. -/
theorem sound_approving_iff
    (found : w.db.submissions.find? requirementSubmissionId = some submission)
    (parent : w.db.requirements.find? submission.requirementInstanceId = some requirement)
    (approving : dto.status = some .approved) (reached : fails ≠ some .updateRequirement) :
    Sound deployment w (.update requirementSubmissionId dto fails) ↔
      (requirement.status ≠ .approved →
        (requirement.lastSubmissionId = some requirementSubmissionId ∧
          submission.isValid = true) ∧
          (submission.status = .approved ∨
            Completes deployment fails w requirement requirementSubmissionId)) := by
  constructor
  · intro sound unapproved
    exact (sound submission found).1 approving reached requirement parent unapproved
  · intro sound submission' found'
    rw [Option.mem_def, found] at found'
    cases found'
    refine ⟨fun _ _ requirement' parent' unapproved => ?_, fun status given other => ?_⟩
    · rw [Option.mem_def, parent] at parent'
      cases parent'
      exact sound unapproved
    · exact absurd (Option.some.inj ((Option.mem_def.mp given).symm.trans approving)) other

end Approving

theorem reflects_iff (holds : ApprovedByLast w.db)
    (updated : Updated deployment fails w requirementSubmissionId dto failed after) :
    Reflects w.db (.update requirementSubmissionId dto fails) failed after ↔
      Sound deployment w (.update requirementSubmissionId dto fails) := by
  cases updated with
  | nothing reason =>
      refine iff_of_true (reflects_nothing holds) fun submission found => ⟨?_, ?_⟩
      · intro approving reached requirement parent
        have stopped := reason submission found
        rw [if_pos approving] at stopped
        rcases stopped with failed | missing
        · exact absurd failed reached
        · rw [Option.mem_def, missing] at parent
          cases parent
      · intro status given other reached
        have stopped := reason submission found
        rw [if_neg fun approving => other (Option.some.inj ((Option.mem_def.mp given).symm.trans
          approving))] at stopped
        exact absurd stopped reached
  | written submission found other reached =>
      have latest := latest_written_iff holds found other
      have approves : SubmissionCall.approves (.update requirementSubmissionId dto fails) = none :=
        if_neg other
      constructor
      · intro reflects submission' _
        exact ⟨fun approving => absurd approving other, fun status given _ _ =>
          latest.mp reflects.latest status given⟩
      · intro sound
        refine ⟨latest.mpr fun status given => ?_, ?_, False.elim⟩
        · refine (sound submission found).2 status given (fun approving => other ?_) reached
          rw [Option.mem_def.mp given, approving]
        · intro _ _ isApproving
          rw [approves] at isApproving
          cases isApproving
  | interrupted submission requirement found parent approving reached incomplete kept =>
      rw [reflects_interrupted_iff holds found parent approving kept,
        sound_approving_iff found parent approving reached]
      simp only [incomplete, or_false]
  | completed submission requirement found parent approving reached completes kept =>
      rw [reflects_completed_iff holds found parent approving kept,
        sound_approving_iff found parent approving reached]
      simp only [completes, or_true, and_true]

end Updated

/-- An `update` reflects the last submission if and only if it is sound. -/
theorem reflected_update_iff (holds : ApprovedByLast w.db) {requirementSubmissionId : Nat}
    {dto : UpdateSubmissionDto} :
    Reflected deployment w (.update requirementSubmissionId dto fails) ↔
      Sound deployment w (.update requirementSubmissionId dto fails) := by
  have ends := @updateFailing_updated deployment fails requirementSubmissionId dto w
  rcases run : SubmissionCall.perform deployment (.update requirementSubmissionId dto fails) w with
    ⟨message | value, after⟩
  · rw [reflected_iff_of_raised run]
    exact (Program.wp_error ends run).reflects_iff holds
  · rw [reflected_iff_of_returned run]
    exact (Program.wp_ok ends run).reflects_iff holds

theorem reflected_iff (holds : ApprovedByLast w.db) (call : SubmissionCall) :
    Reflected deployment w call ↔ Sound deployment w call := by
  cases call with
  | create userId requirementInstanceId submittedData fails => exact reflected_create_iff holds
  | update requirementSubmissionId dto fails => exact reflected_update_iff holds

/-! ## Runs -/

/-- Every call of a run reflects the last submission if and only if every call of it
is sound. -/
theorem run_reflected_iff {start : World} (holds : ApprovedByLast start.db)
    (calls : List SubmissionCall) :
    (submissionCalls deployment).Guarded (Reflected deployment) start calls ↔
      (submissionCalls deployment).Guarded (Sound deployment) start calls := by
  constructor
  · intro reflected
    exact @StepSystem.Guarded.strengthen _ _ (submissionCalls deployment)
      (fun w => ApprovedByLast w.db) _ _ (fun _ _ _ reflects => reflects.latest)
      (fun _ call before reflects => (reflected_iff before call).mp reflects) _ holds _ reflected
  · intro sound
    exact @StepSystem.Guarded.strengthen _ _ (submissionCalls deployment)
      (fun w => ApprovedByLast w.db) _ _
      (fun _ call before isSound => ((reflected_iff before call).mpr isSound).latest)
      (fun _ call before isSound => (reflected_iff before call).mpr isSound) _ holds _ sound

/-- A process with a form that is submitted to. -/
def formStarted : World :=
  ((Engine.system Engine.acceptsTrue).run (Engine.installed Engine.oneForm)
    [.invoke (.startProcess (.workflow 1 1 .ignore))]).world

/-- An invalid submission, a valid one, and the rejection of the first. -/
theorem run_reflected_formStarted :
    (submissionCalls Engine.acceptsTrue).Guarded (Reflected Engine.acceptsTrue) formStarted
      [.create 1 1 (.bool false) none, .create 1 1 (.bool true) none,
        .update 1 (.ofStatus .rejected) none] := by
  refine (run_reflected_iff (by decide) _).mpr ⟨nofun, nofun, fun submission _ => ?_,
    trivial⟩
  refine ⟨fun approving => (by cases approving), fun _ _ _ _ => ?_⟩
  decide +kernel

/-- Of two invalid submissions the first is approved: the requirement is approved, and its
last submission pending. -/
theorem run_approves_older :
    ApprovedByLast formStarted.db ∧
      ¬ ApprovedByLast ((submissionCalls Engine.acceptsTrue).run formStarted
        [.create 1 1 (.bool false) none, .create 1 1 (.bool false) none,
          .update 1 (.ofStatus .approved) none]).db := by
  decide +kernel

end RequirementSubmissions

end CoreApi.Automation
