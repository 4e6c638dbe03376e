import CoreApi.Automation.RequirementSubmissions
import CoreApi.Foundation.KeyText
import CoreApi.Foundation.StepSystem

/-!
# Compiled validators of requirements

The validation service keeps the validator it compiled for a requirement under the
requirement and the time of its last evaluation, or the clock where it has none. The
schema is not part of the key: a requirement that gets another schema is judged by the
old one for as long as it has an evaluation time under which that was compiled.
-/

namespace CoreApi.Automation

open CoreApi.Foundation

/-! ## The service -/

/-- A compiled schema: whether a value is valid, and its errors. -/
abbrev Validator : Type := Json → Bool × Option (List Json)

/-- What the validation relies on: the schema compiler, the milliseconds of a date, and
what a DATETIME column keeps of one. -/
structure ValidationServices where
  ajvCompile : Json → Except String Validator
  getTime : String → Int
  datetime : String → String

/-- The requirements, the compiled validators and the clock. -/
structure ValidationState where
  requirements : Table StepRequirement
  cache : List (String × Validator)
  now : String

/-- A call of a service under a clock. -/
abbrev ValidationTx (α : Type) : Type := Program ValidationState String α

namespace RequirementValidation

/-- What `validateSubmission` returns. -/
structure SubmissionVerdict where
  valid : Bool
  errors : List Json
  autoApprove : Bool

variable (services : ValidationServices)

/-- The key of `validateSubmission`. -/
def cacheKey (requirementInstanceId : Nat) (updatedAt : String) : String :=
  Nat.repr requirementInstanceId ++ ":" ++ toString (services.getTime updatedAt)

/-- `getValidator`. -/
def getValidator (cacheKey : String) (env : RequirementEnvelope) : ValidationTx Validator := do
  let cached ← Program.read fun s => s.cache.lookup cacheKey
  match cached with
  | some validate => pure validate
  | none => do
      let validate ← Program.lift (services.ajvCompile env.schema)
      Program.write fun s => { s with cache := (cacheKey, validate) :: s.cache }
      pure validate

/-- What a validator makes of the data. -/
def judgement (env : RequirementEnvelope) (validate : Validator) (submittedData : Json) :
    SubmissionVerdict where
  valid := (validate submittedData).1
  errors := if (validate submittedData).1 = true then [] else (validate submittedData).2.getD []
  autoApprove := env.autoApproveOnValid && (validate submittedData).1

/-- `validateSubmission`. -/
def validateSubmission (requirementInstanceId : Nat) (updatedAt : String)
    (env : RequirementEnvelope) (submittedData : Json) : ValidationTx SubmissionVerdict := do
  let validate ← getValidator services (cacheKey services requirementInstanceId updatedAt) env
  pure (judgement env validate submittedData)

/-- `create`, as far as it reads and writes the requirement; `recorded` is the key of the
saved submission and the time at which the requirement is written, if both writes succeed. -/
def create (requirementInstanceId : Nat) (submittedData : Json)
    (recorded : Option (Nat × String)) : ValidationTx SubmissionVerdict := do
  let found ← Program.read fun s => s.requirements.find? requirementInstanceId
  match found with
  | none => Program.raise "No ProcessInstanceStepRequirement found"
  | some requirement => do
      let time ← Program.read ValidationState.now
      let result ← validateSubmission services requirement.requirementInstanceId
        (requirement.evaluatedAt.getD time) requirement.jsonSchema submittedData
      match recorded with
      | none => Program.raise "operation failed"
      | some (submissionId, time) => do
          Program.write fun s => { s with
            requirements := s.requirements.updateAt requirement.requirementInstanceId
              (RequirementSubmissions.submitted submissionId result.autoApprove
                (services.datetime time)) (fun _ => rfl) }
          pure result

/-- What the approval of a submission writes to its requirement. -/
def approve (requirementInstanceId : Nat) : ValidationTx Unit := do
  let found ← Program.read fun s => s.requirements.find? requirementInstanceId
  match found with
  | none => Program.raise "No ProcessInstanceStepRequirement found"
  | some requirement => do
      let time ← Program.read ValidationState.now
      Program.write fun s => { s with
        requirements := s.requirements.updateAt requirement.requirementInstanceId
          (RequirementSubmissions.approved (services.datetime time)) (fun _ => rfl) }

/-- `UpdateProcessInstanceStepRequirementDto`; a column that may be empty can be emptied. -/
structure UpdateRequirementDto where
  stepInstanceId : Option Nat
  processTemplateStepRequirementId : Option Nat
  requirementType : Option String
  requirementKey : Option String
  jsonSchema : Option RequirementEnvelope
  isMandatory : Option Bool
  status : Option RequirementStatus
  lastSubmissionId : Option (Option Nat)
  approvedAt : Option (Option String)
  evaluatedAt : Option (Option String)

/-- The row with the fields of the DTO that are given. -/
def UpdateRequirementDto.apply (dto : UpdateRequirementDto) (row : StepRequirement) :
    StepRequirement :=
  { row with
    stepInstanceId := dto.stepInstanceId.getD row.stepInstanceId
    processTemplateStepRequirementId :=
      dto.processTemplateStepRequirementId.getD row.processTemplateStepRequirementId
    requirementType := dto.requirementType.getD row.requirementType
    requirementKey := dto.requirementKey.getD row.requirementKey
    jsonSchema := dto.jsonSchema.getD row.jsonSchema
    isMandatory := dto.isMandatory.getD row.isMandatory
    status := dto.status.getD row.status
    lastSubmissionId := dto.lastSubmissionId.getD row.lastSubmissionId
    approvedAt := (dto.approvedAt.map (Option.map services.datetime)).getD row.approvedAt
    evaluatedAt := (dto.evaluatedAt.map (Option.map services.datetime)).getD row.evaluatedAt }

/-- `ProcessInstanceStepRequirementsService.update`. -/
def updateRequirement (requirementInstanceId : Nat) (dto : UpdateRequirementDto) :
    ValidationTx Unit := do
  let found ← Program.read fun s => s.requirements.find? requirementInstanceId
  match found with
  | none => Program.raise "No ProcessInstanceStepRequirementEntity found"
  | some _ =>
      Program.write fun s => { s with
        requirements := s.requirements.updateAt requirementInstanceId (dto.apply services)
          (fun _ => rfl) }

/-! ## The property -/

/-- What happens to the requirements, the validators and the clock. -/
inductive Action where
  | updateRequirement (requirementInstanceId : Nat) (dto : UpdateRequirementDto)
  | create (requirementInstanceId : Nat) (submittedData : Json)
      (recorded : Option (Nat × String))
  | approve (requirementInstanceId : Nat)
  | tick (now : String)

/-- The state after an action. -/
def step (s : ValidationState) : Action → ValidationState
  | .updateRequirement requirementInstanceId dto =>
      (updateRequirement services requirementInstanceId dto s).2
  | .create requirementInstanceId submittedData recorded =>
      (create services requirementInstanceId submittedData recorded s).2
  | .approve requirementInstanceId => (approve services requirementInstanceId s).2
  | .tick now => { s with now := now }

/-- Updates and submissions, one after the other. -/
def system : StepSystem ValidationState Action where
  step := step services

/-- The data are valid against the schema: it compiles, and its validator takes them. -/
def IsValid (schema data : Json) : Prop :=
  ∃ validate, services.ajvCompile schema = .ok validate ∧ (validate data).1 = true

/-- The service accepts data that are submitted to the requirement now. -/
def Accepts (s : ValidationState) (requirement : StepRequirement) (data : Json) : Prop :=
  ∃ result, (validateSubmission services requirement.requirementInstanceId
      (requirement.evaluatedAt.getD s.now) requirement.jsonSchema data s).1 = .ok result ∧
    result.valid = true

/-- Whatever is submitted now is accepted if and only if it is valid against the schema
that its requirement has now. -/
def JudgesRight (s : ValidationState) : Prop :=
  ∀ requirement ∈ s.requirements.rows, ∀ data,
    Accepts services s requirement data ↔ IsValid services requirement.jsonSchema.schema data

/-! ## The condition -/

/-- A validator under the key, if there is one, takes what the schema takes. -/
def Fresh (cache : List (String × Validator)) (key : String) (schema : Json) : Prop :=
  ∀ validate ∈ cache.lookup key, ∀ data, (validate data).1 = true ↔ IsValid services schema data

/-- The key under which the requirement is validated. -/
def keyAt (requirement : StepRequirement) (now : String) : String :=
  cacheKey services requirement.requirementInstanceId (requirement.evaluatedAt.getD now)

/-- A requirement gets no schema and no evaluation time, be it from the clock, under which a
validator is kept that takes other data. -/
def Sound (s : ValidationState) : Action → Prop
  | .updateRequirement requirementInstanceId dto =>
      ∀ requirement ∈ s.requirements.find? requirementInstanceId,
        Fresh services s.cache (keyAt services (dto.apply services requirement) s.now)
          (dto.apply services requirement).jsonSchema.schema
  | .create requirementInstanceId _ recorded =>
      ∀ requirement ∈ s.requirements.find? requirementInstanceId, ∀ entry ∈ recorded,
        (s.cache.lookup (keyAt services requirement s.now) = none →
          ∃ validate, services.ajvCompile requirement.jsonSchema.schema = .ok validate) →
          Fresh services s.cache
            (cacheKey services requirement.requirementInstanceId (services.datetime entry.2))
            requirement.jsonSchema.schema
  | .approve requirementInstanceId =>
      ∀ requirement ∈ s.requirements.find? requirementInstanceId,
        Fresh services s.cache
          (cacheKey services requirement.requirementInstanceId (services.datetime s.now))
          requirement.jsonSchema.schema
  | .tick now =>
      ∀ requirement ∈ s.requirements.rows, requirement.evaluatedAt = none →
        Fresh services s.cache (cacheKey services requirement.requirementInstanceId now)
          requirement.jsonSchema.schema

variable {services}

/-! ## Judgements -/

/-- Keys of different requirements differ. -/
theorem cacheKey_inj {requirementInstanceId other : Nat} {time time' : String}
    (same : cacheKey services requirementInstanceId time = cacheKey services other time') :
    requirementInstanceId = other := by
  have letters := congrArg String.toList same
  simp only [cacheKey, String.toList_append, List.append_assoc] at letters
  have sameDigits := (eq_of_colon (repr_noColon requirementInstanceId) (repr_noColon other)
    letters).1
  exact repr_injective (String.toList_injective sameDigits)

/-- What `validateSubmission` returns and keeps: the validator under the key, or else the
one it compiles. -/
theorem validateSubmission_wp {requirementInstanceId : Nat} {updatedAt : String}
    {env : RequirementEnvelope} {data : Json} {s : ValidationState}
    {ok : SubmissionVerdict → ValidationState → Prop} {err : String → ValidationState → Prop} :
    Program.wp (validateSubmission services requirementInstanceId updatedAt env data) ok err s ↔
      match s.cache.lookup (cacheKey services requirementInstanceId updatedAt) with
      | some validate => ok (judgement env validate data) s
      | none =>
          match services.ajvCompile env.schema with
          | .ok validate => ok (judgement env validate data) { s with
              cache := (cacheKey services requirementInstanceId updatedAt, validate) :: s.cache }
          | .error message => err message s := by
  unfold validateSubmission getValidator
  rw [Program.wp_bind, Program.wp_bind, Program.wp_read]
  rcases s.cache.lookup (cacheKey services requirementInstanceId updatedAt) with _ | validate
  · simp only [Program.wp_bind]
    rcases services.ajvCompile env.schema with message | validate
    · exact Iff.rfl
    · exact Iff.rfl
  · exact Iff.rfl

theorem accepts_iff {s : ValidationState} {requirement : StepRequirement} {data : Json} :
    Accepts services s requirement data ↔
      match s.cache.lookup (keyAt services requirement s.now) with
      | some validate => (validate data).1 = true
      | none => IsValid services requirement.jsonSchema.schema data := by
  have run := @validateSubmission_wp services requirement.requirementInstanceId
    (requirement.evaluatedAt.getD s.now) requirement.jsonSchema data s
    (fun result _ => result.valid = true) (fun _ _ => False)
  have accepts : Accepts services s requirement data ↔ Program.wp (validateSubmission services
      requirement.requirementInstanceId (requirement.evaluatedAt.getD s.now)
      requirement.jsonSchema data) (fun result _ => result.valid = true) (fun _ _ => False) s := by
    unfold Accepts Program.wp
    rcases validateSubmission services requirement.requirementInstanceId
      (requirement.evaluatedAt.getD s.now) requirement.jsonSchema data s with
      ⟨message | result, after⟩
    · exact iff_of_false nofun id
    · exact ⟨fun ⟨_, same, valid⟩ => (Except.ok.inj same) ▸ valid, fun valid => ⟨result, rfl, valid⟩⟩
  rw [accepts, run, keyAt]
  rcases s.cache.lookup (cacheKey services requirement.requirementInstanceId
    (requirement.evaluatedAt.getD s.now)) with _ | validate
  · unfold IsValid
    rcases services.ajvCompile requirement.jsonSchema.schema with message | validate
    · exact iff_of_false id nofun
    · exact ⟨fun valid => ⟨validate, rfl, valid⟩, fun ⟨_, same, valid⟩ =>
        (Except.ok.inj same) ▸ valid⟩
  · exact Iff.rfl

theorem judgesRight_iff {s : ValidationState} :
    JudgesRight services s ↔ ∀ requirement ∈ s.requirements.rows,
      Fresh services s.cache (keyAt services requirement s.now)
        requirement.jsonSchema.schema := by
  have each : ∀ requirement : StepRequirement, (∀ data, Accepts services s requirement data ↔
      IsValid services requirement.jsonSchema.schema data) ↔
        Fresh services s.cache (keyAt services requirement s.now)
          requirement.jsonSchema.schema := by
    intro requirement
    simp only [accepts_iff, Fresh]
    rcases s.cache.lookup (keyAt services requirement s.now) with _ | validate
    · exact iff_of_true (fun _ => Iff.rfl) nofun
    · exact ⟨fun judges other same => Option.some.inj same ▸ judges,
        fun fresh => fresh validate rfl⟩
  exact forall₂_congr fun requirement _ => each requirement

/-- A service that has compiled nothing judges right. -/
theorem judgesRight_of_empty {s : ValidationState} (empty : s.cache = []) :
    JudgesRight services s := by
  rw [judgesRight_iff, empty]
  exact fun _ _ => nofun

/-! ## Steps -/

/-- A requirement is written: its schema and its key are left to judge. -/
theorem judgesRight_updateAt_iff {s : ValidationState} (right : JudgesRight services s)
    {requirement : StepRequirement} {requirementInstanceId : Nat}
    (found : s.requirements.find? requirementInstanceId = some requirement)
    (set : StepRequirement → StepRequirement)
    (keeps : ∀ row, (set row).requirementInstanceId = row.requirementInstanceId) :
    JudgesRight services { s with
        requirements := s.requirements.updateAt requirementInstanceId set keeps } ↔
      Fresh services s.cache (keyAt services (set requirement) s.now)
        (set requirement).jsonSchema.schema := by
  rw [judgesRight_iff] at right ⊢
  constructor
  · intro fresh
    have member : set requirement ∈
        (s.requirements.updateAt requirementInstanceId set keeps).rows :=
      Table.mem_updateAt.mpr (.inl ⟨requirement, Table.mem_of_find? found,
        Table.key_of_find? found, rfl⟩)
    exact fresh (set requirement) member
  · intro fresh row member
    rcases (@Table.mem_updateAt _ _ _ _ _ set keeps).mp member with
      ⟨old, oldMember, key, rfl⟩ | ⟨untouched, _⟩
    · have same : old = requirement := Table.eq_of_key_eq oldMember (Table.mem_of_find? found)
        (key.trans (Table.key_of_find? found).symm)
      rw [same]
      exact fresh
    · exact right row untouched

/-- A validator that is added under a key is found there. -/
theorem fresh_cons_self {cache : List (String × Validator)} {key : String} {schema : Json}
    {validate : Validator} (takes : ∀ data, (validate data).1 = true ↔ IsValid services schema data) :
    Fresh services ((key, validate) :: cache) key schema := by
  intro other found
  rw [List.lookup_cons_self] at found
  cases found
  exact takes

theorem fresh_cons_of_ne {cache : List (String × Validator)} {key other : String} {schema : Json}
    {validate : Validator} (differs : other ≠ key) :
    Fresh services ((key, validate) :: cache) other schema ↔ Fresh services cache other schema := by
  unfold Fresh
  rw [List.lookup_cons, beq_false_of_ne differs]

theorem fresh_of_missed {cache : List (String × Validator)} {key : String} {schema : Json}
    (missed : (cache.lookup key).isNone = true) : Fresh services cache key schema := by
  intro validate found
  rw [Option.mem_def.mp found] at missed
  cases missed

theorem takes_of_compiled {schema : Json} {validate : Validator}
    (compiled : services.ajvCompile schema = .ok validate) (data : Json) :
    (validate data).1 = true ↔ IsValid services schema data := by
  refine ⟨fun valid => ⟨validate, compiled, valid⟩, ?_⟩
  rintro ⟨other, same, valid⟩
  rw [compiled] at same
  cases same
  exact valid

/-- The cache after a validation of the requirement. -/
inductive Validated (services : ValidationServices) (s : ValidationState)
    (requirement : StepRequirement) : List (String × Validator) → Prop
  | known (validate : Validator)
      (found : s.cache.lookup (keyAt services requirement s.now) = some validate) :
      Validated services s requirement s.cache
  | compiled (validate : Validator)
      (missed : s.cache.lookup (keyAt services requirement s.now) = none)
      (compiled : services.ajvCompile requirement.jsonSchema.schema = .ok validate) :
      Validated services s requirement
        ((keyAt services requirement s.now, validate) :: s.cache)

namespace Validated

variable {s : ValidationState} {requirement : StepRequirement} {cache : List (String × Validator)}

/-- A validation leaves the judgements as they are. -/
theorem judgesRight (validated : Validated services s requirement cache)
    (member : requirement ∈ s.requirements.rows) (right : JudgesRight services s) :
    JudgesRight services { s with cache := cache } := by
  cases validated with
  | known => exact right
  | compiled validate _ compiled =>
      rw [judgesRight_iff] at right ⊢
      intro other otherMember
      show Fresh services _ (keyAt services other s.now) _
      by_cases same : keyAt services other s.now = keyAt services requirement s.now
      · have isOther : other = requirement :=
          Table.eq_of_key_eq otherMember member (cacheKey_inj same)
        rw [isOther]
        exact fresh_cons_self (takes_of_compiled compiled)
      · exact (fresh_cons_of_ne same).mpr (right other otherMember)

theorem fresh_iff (validated : Validated services s requirement cache)
    (member : requirement ∈ s.requirements.rows) (right : JudgesRight services s) (key : String) :
    Fresh services cache key requirement.jsonSchema.schema ↔
      Fresh services s.cache key requirement.jsonSchema.schema := by
  cases validated with
  | known => exact Iff.rfl
  | compiled validate _ compiled =>
      by_cases same : key = keyAt services requirement s.now
      · rw [same]
        exact iff_of_true (fresh_cons_self (takes_of_compiled compiled))
          (judgesRight_iff.mp right requirement member)
      · exact fresh_cons_of_ne same

end Validated

/-- What `create` leaves: nothing where the schema does not compile, or the validator and,
where the submission is recorded, the time of it. -/
inductive Created (services : ValidationServices) (s : ValidationState)
    (requirement : StepRequirement) (recorded : Option (Nat × String)) : ValidationState → Prop
  | refused
      (missed : s.cache.lookup (keyAt services requirement s.now) = none)
      (refused : ¬ ∃ validate, services.ajvCompile requirement.jsonSchema.schema = .ok validate) :
      Created services s requirement recorded s
  | interrupted {cache : List (String × Validator)} (lost : recorded = none)
      (validated : Validated services s requirement cache) :
      Created services s requirement recorded { s with cache := cache }
  | recorded {cache : List (String × Validator)} (submissionId : Nat) (time : String)
      (autoApprove : Bool) (isRecorded : recorded = some (submissionId, time))
      (validated : Validated services s requirement cache) :
      Created services s requirement recorded { s with
        cache := cache
        requirements := s.requirements.updateAt requirement.requirementInstanceId
          (RequirementSubmissions.submitted submissionId autoApprove (services.datetime time))
          (fun _ => rfl) }

theorem create_created {s : ValidationState} {requirementInstanceId : Nat} {data : Json}
    {recorded : Option (Nat × String)} {requirement : StepRequirement}
    (found : s.requirements.find? requirementInstanceId = some requirement) :
    Created services s requirement recorded
      (create services requirementInstanceId data recorded s).2 := by
  refine Program.wp_end (Created services s requirement recorded) ?_
  unfold create
  rw [Program.wp_bind, Program.wp_read, found]
  simp only [Program.wp_bind, Program.wp_read, validateSubmission_wp]
  have ends : ∀ (cache : List (String × Validator)) (result : SubmissionVerdict),
      Validated services s requirement cache →
      Program.wp (match recorded with
        | none => Program.raise "operation failed"
        | some (submissionId, time) => do
            Program.write fun s => { s with
              requirements := s.requirements.updateAt requirement.requirementInstanceId
                (RequirementSubmissions.submitted submissionId result.autoApprove
                  (services.datetime time)) (fun _ => rfl) }
            pure result : ValidationTx SubmissionVerdict)
        (fun _ after => Created services s requirement recorded after)
        (fun _ after => Created services s requirement recorded after)
        { s with cache := cache } := by
    intro cache result validated
    rcases isRecorded : recorded with _ | ⟨submissionId, time⟩
    · exact .interrupted rfl validated
    · exact .recorded submissionId time result.autoApprove rfl validated
  split
  · rename_i validate known
    exact ends s.cache _ (.known validate known)
  · rename_i missed
    split
    · rename_i validate compiled
      exact ends _ _ (.compiled validate missed compiled)
    · rename_i message refused
      refine .refused missed ?_
      rintro ⟨validate, compiled⟩
      rw [refused] at compiled
      cases compiled

/-- An action on a requirement that is not stored does nothing. -/
theorem step_of_missing {s : ValidationState} {requirementInstanceId : Nat}
    (missing : s.requirements.find? requirementInstanceId = none) :
    (∀ dto, step services s (.updateRequirement requirementInstanceId dto) = s) ∧
      (∀ data recorded, step services s (.create requirementInstanceId data recorded) = s) ∧
        step services s (.approve requirementInstanceId) = s := by
  refine ⟨fun dto => ?_, fun data recorded => ?_, ?_⟩
  · refine Program.wp_end (fun t => t = s) ?_
    rw [updateRequirement, Program.wp_bind, Program.wp_read, missing]
    rfl
  · refine Program.wp_end (fun t => t = s) ?_
    rw [create, Program.wp_bind, Program.wp_read, missing]
    rfl
  · refine Program.wp_end (fun t => t = s) ?_
    rw [approve, Program.wp_bind, Program.wp_read, missing]
    rfl

/-- What an update writes. -/
theorem step_updateRequirement {s : ValidationState} {requirementInstanceId : Nat}
    {requirement : StepRequirement} (dto : UpdateRequirementDto)
    (found : s.requirements.find? requirementInstanceId = some requirement) :
    step services s (.updateRequirement requirementInstanceId dto) = { s with
      requirements := s.requirements.updateAt requirementInstanceId (dto.apply services)
        (fun _ => rfl) } := by
  refine Program.wp_end (fun t => t = _) ?_
  rw [updateRequirement, Program.wp_bind, Program.wp_read, found]
  rfl

/-- What an approval writes. -/
theorem step_approve {s : ValidationState} {requirementInstanceId : Nat}
    {requirement : StepRequirement}
    (found : s.requirements.find? requirementInstanceId = some requirement) :
    step services s (.approve requirementInstanceId) = { s with
      requirements := s.requirements.updateAt requirementInstanceId
        (RequirementSubmissions.approved (services.datetime s.now)) (fun _ => rfl) } := by
  refine Program.wp_end (fun t => t = _) ?_
  rw [approve, Program.wp_bind, Program.wp_read, found]
  show { s with requirements := s.requirements.updateAt requirement.requirementInstanceId _ _ } = _
  rw [show requirement.requirementInstanceId = requirementInstanceId from Table.key_of_find? found]

/-- What has to be fresh for one stored requirement. -/
theorem forall_find?_iff {s : ValidationState} {requirementInstanceId : Nat}
    {requirement : StepRequirement}
    (found : s.requirements.find? requirementInstanceId = some requirement)
    (holds : StepRequirement → Prop) :
    (∀ row ∈ s.requirements.find? requirementInstanceId, holds row) ↔ holds requirement := by
  rw [found]
  exact ⟨fun each => each requirement rfl, fun own row same => Option.some.inj same ▸ own⟩

/-- A `create` is sound if its requirement is. -/
theorem judgesRight_created_iff {s after : ValidationState} {requirementInstanceId : Nat}
    {requirement : StepRequirement} {recorded : Option (Nat × String)}
    (right : JudgesRight services s)
    (found : s.requirements.find? requirementInstanceId = some requirement)
    (created : Created services s requirement recorded after) :
    JudgesRight services after ↔ ∀ entry ∈ recorded,
      (s.cache.lookup (keyAt services requirement s.now) = none →
        ∃ validate, services.ajvCompile requirement.jsonSchema.schema = .ok validate) →
        Fresh services s.cache
          (cacheKey services requirement.requirementInstanceId (services.datetime entry.2))
          requirement.jsonSchema.schema := by
  have member : requirement ∈ s.requirements.rows := Table.mem_of_find? found
  cases created with
  | refused missed refused =>
      exact iff_of_true right fun _ _ compiles => absurd (compiles missed) refused
  | interrupted lost validated =>
      subst lost
      exact iff_of_true (validated.judgesRight member right) nofun
  | recorded submissionId time autoApprove isRecorded validated =>
      subst isRecorded
      have compiles : s.cache.lookup (keyAt services requirement s.now) = none →
          ∃ validate, services.ajvCompile requirement.jsonSchema.schema = .ok validate := by
        intro missed
        cases validated with
        | known validate known =>
            rw [known] at missed
            cases missed
        | compiled validate _ compiled => exact ⟨validate, compiled⟩
      have key : requirement.requirementInstanceId = requirementInstanceId :=
        Table.key_of_find? found
      rw [← key] at found
      have written := judgesRight_updateAt_iff (validated.judgesRight member right) found
        (RequirementSubmissions.submitted submissionId autoApprove (services.datetime time))
        (fun _ => rfl)
      refine written.trans ((validated.fresh_iff member right _).trans ?_)
      refine ⟨fun fresh entry same _ => ?_, fun each => each _ rfl compiles⟩
      cases same
      exact fresh

theorem judgesRight_step_iff {s : ValidationState} (right : JudgesRight services s)
    (action : Action) :
    JudgesRight services (step services s action) ↔ Sound services s action := by
  cases action with
  | updateRequirement requirementInstanceId dto =>
      rcases found : s.requirements.find? requirementInstanceId with _ | requirement
      · rw [(step_of_missing found).1, Sound, found]
        exact iff_of_true right nofun
      · rw [step_updateRequirement dto found, Sound, forall_find?_iff found]
        exact judgesRight_updateAt_iff right found (dto.apply services) (fun _ => rfl)
  | create requirementInstanceId data recorded =>
      rcases found : s.requirements.find? requirementInstanceId with _ | requirement
      · rw [(step_of_missing found).2.1, Sound, found]
        exact iff_of_true right nofun
      · rw [Sound, forall_find?_iff found]
        exact judgesRight_created_iff right found (create_created found)
  | approve requirementInstanceId =>
      rcases found : s.requirements.find? requirementInstanceId with _ | requirement
      · rw [(step_of_missing found).2.2, Sound, found]
        exact iff_of_true right nofun
      · rw [step_approve found, Sound, forall_find?_iff found]
        exact judgesRight_updateAt_iff right found
          (RequirementSubmissions.approved (services.datetime s.now)) (fun _ => rfl)
  | tick now =>
      rw [judgesRight_iff] at right ⊢
      constructor
      · intro fresh requirement member unevaluated
        have fresh := fresh requirement member
        rw [keyAt, unevaluated] at fresh
        exact fresh
      · intro sound requirement member
        rcases evaluated : requirement.evaluatedAt with _ | time
        · show Fresh services s.cache (keyAt services requirement now) _
          rw [keyAt, evaluated]
          exact sound requirement member evaluated
        · have fresh := right requirement member
          show Fresh services s.cache (keyAt services requirement now) _
          rw [keyAt, evaluated] at fresh ⊢
          exact fresh

/-- In a run, the service judges right after every step if and only if every step is
sound. -/
theorem run_judgesRight_iff {start : ValidationState} (right : JudgesRight services start)
    (actions : List Action) :
    (system services).Guarded (fun s action => JudgesRight services (step services s action))
        start actions ↔
      (system services).Guarded (Sound services) start actions := by
  constructor
  · intro judges
    exact @StepSystem.Guarded.strengthen _ _ (system services) (JudgesRight services) _ _
      (fun _ _ _ after => after)
      (fun _ action before after => (judgesRight_step_iff before action).mp after) _ right _ judges
  · intro sound
    exact @StepSystem.Guarded.strengthen _ _ (system services) (JudgesRight services) _ _
      (fun _ action before isSound => (judgesRight_step_iff before action).mpr isSound)
      (fun _ action before isSound => (judgesRight_step_iff before action).mpr isSound) _ right _
      sound

/-! ## A form with two schemas -/

/-- A schema takes the value that it is; a date is its text. -/
def constantSchemas : ValidationServices where
  ajvCompile schema := .ok fun data => (data == schema, none)
  getTime text := text.length
  datetime text := text

/-- One requirement that was never evaluated, and a service that has compiled nothing. -/
def oneRequirement : ValidationState where
  requirements := .ofRows
    [{ requirementInstanceId := 0
       stepInstanceId := 1
       processTemplateStepRequirementId := 1
       requirementType := "form"
       requirementKey := ""
       jsonSchema := { autoApproveOnValid := true, schema := .bool true }
       isMandatory := true
       status := .none
       lastSubmissionId := none
       approvedAt := none
       evaluatedAt := none }]
  cache := []
  now := "."

/-- A schema, and the time of an evaluation that comes with it. -/
def UpdateRequirementDto.ofSchema (schema : Json) (evaluatedAt : Option (Option String)) :
    UpdateRequirementDto :=
  ⟨none, none, none, none, some { autoApproveOnValid := true, schema := schema }, none, none, none,
    none, evaluatedAt⟩

/-- The schema changes between two submissions, and the evaluation time with it. -/
theorem run_judgesRight_oneRequirement :
    (system constantSchemas).Guarded
      (fun s action => JudgesRight constantSchemas (step constantSchemas s action)) oneRequirement
      [.create 1 (.bool true) (some (1, "..")),
        .updateRequirement 1 (.ofSchema (.bool false) (some (some "..."))),
        .create 1 (.bool false) (some (2, "...."))] := by
  refine (run_judgesRight_iff (judgesRight_of_empty rfl) _).mpr ⟨?_, ?_, ?_, trivial⟩
  · exact fun _ _ _ _ _ => nofun
  · intro requirement found
    have key : requirement.requirementInstanceId = 1 := Table.key_of_find? found
    show Fresh constantSchemas _ (cacheKey constantSchemas requirement.requirementInstanceId "...") _
    rw [key]
    exact fresh_of_missed (by decide)
  · rintro requirement found _ ⟨⟩ _
    rw [show requirement.requirementInstanceId = 1 from Table.key_of_find? found]
    exact fresh_of_missed (by decide)

/-- The schema changes after a submission in the same millisecond, and the evaluation time
does not: what the old schema took is still accepted. -/
theorem run_judgesStale :
    JudgesRight constantSchemas oneRequirement ∧
      ¬ JudgesRight constantSchemas ((system constantSchemas).run oneRequirement
        [.create 1 (.bool true) (some (1, ".")),
          .updateRequirement 1 (.ofSchema (.bool false) none)]) := by
  refine ⟨judgesRight_of_empty rfl, fun right => ?_⟩
  generalize stale : (system constantSchemas).run oneRequirement
    [.create 1 (.bool true) (some (1, ".")),
      .updateRequirement 1 (.ofSchema (.bool false) none)] = s at right
  have judged : ∃ requirement ∈ s.requirements.rows, requirement.jsonSchema.schema = .bool false ∧
      (s.cache.lookup (keyAt constantSchemas requirement s.now)).map
        (fun validate => (validate (.bool true)).1) = some true := by
    rw [← stale]
    decide
  obtain ⟨requirement, member, schema, taken⟩ := judged
  obtain ⟨validate, found, takes⟩ := Option.map_eq_some_iff.mp taken
  obtain ⟨compiled, isCompiled, valid⟩ :=
    (judgesRight_iff.mp right requirement member validate found (.bool true)).mp takes
  rw [schema] at isCompiled
  cases isCompiled
  exact absurd valid (by decide)

end RequirementValidation

end CoreApi.Automation
