import CoreApi.Automation.InstantiationEffects

/-!
# How a template is copied

The rows of a new process as the statements store them: each step is inserted on its
own and its identifier pushed on `stepInstanceIds`, a map leads from the steps of the
template to these identifiers, and the requirements, triggers and bindings are copied
by one INSERT each, of which the values are pushed into one list. The statements store
what `instantiateProcessIn` inserts, and every row of the template arrives once, at
the copy of its own step.
-/

namespace CoreApi.Automation

open CoreApi.Foundation

namespace ProcessInstantiation

/-! ## The statements -/

/-- A value of the statements; a stringified schema stands for what is parsed from it. -/
inductive CopyValue where
  | null
  | num (value : Nat)
  | str (value : String)
  | requirementSchema (value : RequirementEnvelope)
  | triggerSchema (value : TriggerEnvelope)

/-- Insert the steps one by one, and push the identifier of each. -/
def insertEachStep (time : String) (processInstanceId : Nat) :
    List TemplateStep → List Nat → Tx (List Nat)
  | [], stepInstanceIds => pure stepInstanceIds
  | s :: steps, stepInstanceIds => do
      let insertId ← Program.writeReturning fun w =>
        (w.db.steps.autoIncrement,
          { w with db := { w.db with
              steps := w.db.steps.insert (newStep time processInstanceId s) } })
      insertEachStep time processInstanceId steps (stepInstanceIds ++ [insertId])

/-- `tplToInst.get`: what was set last for the step of the template. -/
def tplToInst (steps : List TemplateStep) (stepInstanceIds : List Nat) (templateStepId : Nat) :
    Option Nat :=
  ((steps.zip stepInstanceIds).reverse.find? fun entry =>
    entry.1.processTemplateStepId == templateStepId).map Prod.snd

/-- The loop of a copy: a row of which the step is mapped pushes the expressions and its
values. -/
def pushCopies {ρ : Type} (columns : List String) (expressions : List (Expression CopyValue))
    (templateStepOf : ρ → Nat) (valuesOf : ρ → Nat → List CopyValue)
    (instanceStepOf : Nat → Option Nat) (rows : List ρ) : BulkInsert CopyValue where
  columns := columns
  pushes := rows.filterMap fun row =>
    ((instanceStepOf (templateStepOf row)).filter (· ≠ 0)).map fun stepInstanceId =>
      (expressions, valuesOf row stepInstanceId)

/-- The INSERT of the requirements. -/
def requirementsInsert : (Nat → Option Nat) → List TemplateRequirement → BulkInsert CopyValue :=
  pushCopies
    ["step_instance_id", "process_template_step_requirement_id", "requirement_type",
      "requirement_key", "json_schema", "is_mandatory", "status"]
    [.placeholder, .placeholder, .placeholder, .placeholder, .placeholder, .placeholder,
      .literal (.str "none")]
    TemplateRequirement.processTemplateStepId
    fun r stepInstanceId =>
      [.num stepInstanceId, .num r.processTemplateStepRequirementId, .str r.requirementType,
        .str r.requirementKey, .requirementSchema r.jsonSchema, .num 1]

/-- The INSERT of the triggers. -/
def triggersInsert : (Nat → Option Nat) → List TemplateTrigger → BulkInsert CopyValue :=
  pushCopies
    ["step_instance_id", "process_template_step_trigger_condition_id", "condition_type",
      "condition_key", "json_schema", "status"]
    [.placeholder, .placeholder, .placeholder, .placeholder, .placeholder,
      .literal (.str "unmet")]
    TemplateTrigger.processTemplateStepId
    fun t stepInstanceId =>
      [.num stepInstanceId, .num t.stepTriggerConditionId, .str t.conditionType,
        .str t.conditionKey, .triggerSchema t.jsonSchema]

/-- The INSERT of the object rows. -/
def bindingsInsert : (Nat → Option Nat) → List TemplateBinding → BulkInsert CopyValue :=
  pushCopies
    ["step_instance_id", "binding_id", "config_object_id", "config_custom_object_instance_id",
      "status"]
    [.placeholder, .placeholder, .placeholder, .placeholder, .literal (.str "pending")]
    TemplateBinding.processTemplateStepId
    fun b stepInstanceId =>
      [.num stepInstanceId, .num b.bindingId, .num b.configObjectId, .null]

/-! ## What the tables store -/

/-- A number of a stored row, none where it is NULL. -/
def storedNumber (cells : List (String × CopyValue)) (column : String) : Option Nat :=
  match cells.lookup column with
  | some (.num value) => some value
  | _ => none

/-- A text of a stored row. -/
def storedText (cells : List (String × CopyValue)) (column : String) : String :=
  match cells.lookup column with
  | some (.str value) => value
  | _ => ""

/-- The requirement of a stored row. -/
def requirementOf (cells : List (String × CopyValue)) : StepRequirement where
  requirementInstanceId := 0
  stepInstanceId := (storedNumber cells "step_instance_id").getD 0
  processTemplateStepRequirementId :=
    (storedNumber cells "process_template_step_requirement_id").getD 0
  requirementType := storedText cells "requirement_type"
  requirementKey := storedText cells "requirement_key"
  jsonSchema :=
    match cells.lookup "json_schema" with
    | some (.requirementSchema value) => value
    | _ => ⟨false, .null⟩
  isMandatory := storedNumber cells "is_mandatory" != some 0
  status :=
    match storedText cells "status" with
    | "pending" => .pending
    | "approved" => .approved
    | "rejected" => .rejected
    | _ => .none
  lastSubmissionId := none
  approvedAt := none
  evaluatedAt := none

/-- The trigger of a stored row. -/
def triggerOf (cells : List (String × CopyValue)) : StepTrigger where
  triggerInstanceId := 0
  stepInstanceId := (storedNumber cells "step_instance_id").getD 0
  processTemplateStepTriggerConditionId :=
    (storedNumber cells "process_template_step_trigger_condition_id").getD 0
  conditionType := storedText cells "condition_type"
  conditionKey := storedText cells "condition_key"
  jsonSchema :=
    match cells.lookup "json_schema" with
    | some (.triggerSchema value) => value
    | _ => .unknown ""
  status := if storedText cells "status" = "met" then .met else .unmet
  metAt := none
  lastEvalAt := none

/-- The object row of a stored row. -/
def objectInstanceOf (cells : List (String × CopyValue)) : StepObjectInstance where
  stepObjectInstanceId := 0
  stepInstanceId := (storedNumber cells "step_instance_id").getD 0
  bindingId := storedNumber cells "binding_id"
  configObjectId := (storedNumber cells "config_object_id").getD 0
  configCustomObjectInstanceId := storedNumber cells "config_custom_object_instance_id"
  status :=
    match storedText cells "status" with
    | "active" => .active
    | "valid" => .valid
    | "failed" => .failed
    | "skipped" => .skipped
    | _ => .pending
  lastError := none
  payloadSnapshot := none
  updatedAt := none

/-- Run a copy: without pushes there is no query. -/
def runCopy (statement : BulkInsert CopyValue)
    (store : List (List (String × CopyValue)) → Database → Database) : Tx Unit :=
  Program.when (statement.pushes.isEmpty = false) do
    let rows ← Program.lift statement.execute
    writeDb (store (rows.map fun row => statement.columns.zip row))

/-- Copy the requirements, the triggers and the bindings of the steps. -/
def copyStepRows (steps : List TemplateStep) (stepInstanceIds : List Nat) : Tx Unit := do
  let tplIds := steps.map TemplateStep.processTemplateStepId
  let instanceStepOf := tplToInst steps stepInstanceIds
  let reqs ← Program.read fun w =>
    w.db.templateRequirements.select fun r => tplIds.contains r.processTemplateStepId
  runCopy (requirementsInsert instanceStepOf reqs) fun rows db =>
    { db with requirements := db.requirements.insertAll (rows.map requirementOf) }
  let trigs ← Program.read fun w =>
    w.db.templateTriggers.select fun t => tplIds.contains t.processTemplateStepId
  runCopy (triggersInsert instanceStepOf trigs) fun rows db =>
    { db with triggers := db.triggers.insertAll (rows.map triggerOf) }
  let bindings ← Program.read fun w =>
    (orderBy TemplateBinding.orderIndex (orderBy (fun b => b.bindingId)
      w.db.templateBindings.rows)).filter fun b => tplIds.contains b.processTemplateStepId
  runCopy (bindingsInsert instanceStepOf bindings) fun rows db =>
    { db with objectInstances := db.objectInstances.insertAll (rows.map objectInstanceOf) }

theorem key_selfSubject (processInstanceId : Nat) (row : ProcessInstance) :
    Keyed.key { row with subjectId := processInstanceId } = Keyed.key row := rfl

/-- `instantiateProcessIn`, statement by statement. -/
def instantiateByStatements (templateId tenantId createdBy : Nat)
    (options : ProcessInstantiationOptions) : Tx Nat := do
  let time ← now
  let processInstanceId ← insertProcessInstance
    (newProcessInstance templateId tenantId createdBy options time)
  Program.when (needsSelfSubject options = true) <|
    writeDb fun db => db.setInstance processInstanceId
      (fun row => { row with subjectId := processInstanceId }) (key_selfSubject processInstanceId)
  let steps ← Program.read fun w => templateStepsOf w.db templateId
  let stepInstanceIds ← insertEachStep time processInstanceId steps []
  Program.when (steps.isEmpty = false) (copyStepRows steps stepInstanceIds)
  pure processInstanceId

/-! ## What the statements store -/

theorem insertEachStep_run (time : String) (processInstanceId : Nat) (steps : List TemplateStep)
    (stepInstanceIds : List Nat) (w : World) :
    insertEachStep time processInstanceId steps stepInstanceIds w =
      (.ok (stepInstanceIds ++ (Table.stamp w.db.steps.autoIncrement
          (steps.map (newStep time processInstanceId))).map StepInstance.stepInstanceId),
        { w with db := { w.db with
            steps := w.db.steps.insertAll (steps.map (newStep time processInstanceId)) } }) := by
  induction steps generalizing stepInstanceIds w with
  | nil =>
      rw [List.map_nil, Table.stamp, List.map_nil, List.append_nil]
      rfl
  | cons s steps ih =>
      rw [List.map_cons, Table.stamp, List.map_cons, List.append_cons]
      exact ih _ _

/-- Of rows that differ in what is looked for, the last one is found as the first one is. -/
private theorem find?_reverse_of_distinct {α : Type} {key : α → Nat} {rows : List α}
    (distinct : (rows.map key).Nodup) (k : Nat) :
    (rows.reverse.find? fun row => key row == k) = rows.find? fun row => key row == k := by
  induction rows with
  | nil => rfl
  | cons row rows ih =>
      rw [List.map_cons, List.nodup_cons] at distinct
      rw [List.reverse_cons, List.find?_append, ih distinct.2, List.find?_cons]
      by_cases isKey : key row = k
      · have none : rows.find? (fun row => key row == k) = none := by
          rw [List.find?_eq_none]
          intro other member same
          rw [isKey, ← (beq_iff_eq.mp same)] at distinct
          exact distinct.1 (List.mem_map.mpr ⟨other, member, rfl⟩)
        simp [none, isKey]
      · have other : (key row == k) = false := by simpa using isKey
        simp [other]

/-- The map leads from a step of the template to its copy. -/
theorem tplToInst_eq {steps : List TemplateStep}
    (distinct : (steps.map TemplateStep.processTemplateStepId).Nodup) (time : String)
    (processInstanceId n templateStepId : Nat) :
    tplToInst steps ((Table.stamp n (steps.map (newStep time processInstanceId))).map
        StepInstance.stepInstanceId) templateStepId =
      stepInstanceIdFor (Table.stamp n (steps.map (newStep time processInstanceId)))
        templateStepId := by
  have keys : (steps.zip ((Table.stamp n (steps.map (newStep time processInstanceId))).map
      StepInstance.stepInstanceId)).map (fun entry => entry.1.processTemplateStepId) =
        steps.map TemplateStep.processTemplateStepId := by
    clear distinct
    induction steps generalizing n with
    | nil => rfl
    | cons s steps ih =>
        rw [List.map_cons, Table.stamp, List.map_cons, List.zip_cons_cons, List.map_cons,
          ih (n + 1), List.map_cons]
  unfold tplToInst
  rw [@find?_reverse_of_distinct (TemplateStep × Nat) (fun entry => entry.1.processTemplateStepId)
    _ (keys ▸ distinct) templateStepId]
  clear distinct keys
  induction steps generalizing n with
  | nil => rfl
  | cons s steps ih =>
      unfold stepInstanceIdFor at ih ⊢
      rw [List.map_cons, Table.stamp, List.map_cons, List.zip_cons_cons, List.find?_cons,
        List.find?_cons]
      by_cases isStep : s.processTemplateStepId = templateStepId
      · have isCopy : ((Keyed.withKey n (newStep time processInstanceId s)).processTemplateStepId
            == templateStepId) = true := beq_iff_eq.mpr isStep
        rw [beq_iff_eq.mpr isStep, isCopy]
        rfl
      · have notCopy : ((Keyed.withKey n (newStep time processInstanceId s)).processTemplateStepId
            == templateStepId) = false := beq_eq_false_iff_ne.mpr isStep
        rw [beq_eq_false_iff_ne.mpr isStep, notCopy]
        exact ih (n + 1)

theorem runCopy_pushCopies {ρ : Type} {columns : List String}
    {expressions : List (Expression CopyValue)} {templateStepOf : ρ → Nat}
    {valuesOf : ρ → Nat → List CopyValue} (instanceStepOf : Nat → Option Nat) (rows : List ρ)
    {store : List (List (String × CopyValue)) → Database → Database}
    (width : expressions.length = columns.length)
    (values : ∀ row stepInstanceId,
      BulkInsert.placeholders expressions = (valuesOf row stepInstanceId).length)
    (nothing : ∀ db, store [] db = db) (w : World) :
    runCopy (pushCopies columns expressions templateStepOf valuesOf instanceStepOf rows) store w =
      (.ok (), { w with db := store (rows.filterMap fun row =>
        ((instanceStepOf (templateStepOf row)).filter (· ≠ 0)).map fun stepInstanceId =>
          columns.zip (BulkInsert.filled (expressions, valuesOf row stepInstanceId))) w.db }) := by
  have aligned : (pushCopies columns expressions templateStepOf valuesOf instanceStepOf
      rows).Aligned := by
    intro push pushed
    obtain ⟨row, _, made⟩ := List.mem_filterMap.mp pushed
    obtain ⟨stepInstanceId, _, rfl⟩ := Option.map_eq_some_iff.mp made
    exact ⟨width, values row stepInstanceId⟩
  have stored : ((pushCopies columns expressions templateStepOf valuesOf instanceStepOf
      rows).pushes.map BulkInsert.filled).map (fun row => columns.zip row) =
        rows.filterMap fun row =>
          ((instanceStepOf (templateStepOf row)).filter (· ≠ 0)).map fun stepInstanceId =>
            columns.zip (BulkInsert.filled (expressions, valuesOf row stepInstanceId)) := by
    unfold pushCopies
    rw [List.map_filterMap, List.map_filterMap]
    refine congrArg (fun f => List.filterMap f rows) (funext fun row => ?_)
    rw [Option.map_map, Option.map_map]
    rfl
  rw [← stored]
  unfold runCopy
  rcases pushes : (pushCopies columns expressions templateStepOf valuesOf instanceStepOf
    rows).pushes with _ | ⟨push, pushes⟩
  · rw [List.map_nil, List.map_nil, nothing]
    rfl
  · rw [← pushes, BulkInsert.execute_of_aligned aligned, pushes]
    rfl

/-- A mapped step is one of the template's, and its copy has an identifier. -/
private theorem stepInstanceIdFor_mapped {steps : List TemplateStep} {time : String}
    {processInstanceId n templateStepId stepInstanceId : Nat} (positive : 0 < n)
    (mapped : stepInstanceIdFor (Table.stamp n (steps.map (newStep time processInstanceId)))
      templateStepId = some stepInstanceId) :
    stepInstanceId ≠ 0 ∧ templateStepId ∈ steps.map TemplateStep.processTemplateStepId := by
  obtain ⟨copy, member, rfl, rfl⟩ := mem_of_stepInstanceIdFor mapped
  obtain ⟨old, oldMember, m, lower, _, rfl⟩ := Table.mem_stamp member
  obtain ⟨s, stepMember, rfl⟩ := List.mem_map.mp oldMember
  exact ⟨Nat.ne_of_gt (Nat.lt_of_lt_of_le positive lower), List.mem_map.mpr ⟨s, stepMember, rfl⟩⟩

/-- The tests of the query and of the loop leave out no row of which the step is mapped. -/
private theorem filterMap_mapped {ρ β : Type} {tplIds : List Nat} {templateStepOf : ρ → Nat}
    {instanceStepOf : Nat → Option Nat} (make : ρ → Nat → β)
    (mapped : ∀ templateStepId stepInstanceId,
      instanceStepOf templateStepId = some stepInstanceId →
        stepInstanceId ≠ 0 ∧ templateStepId ∈ tplIds) (rows : List ρ) :
    ((rows.filter fun row => tplIds.contains (templateStepOf row)).filterMap fun row =>
        ((instanceStepOf (templateStepOf row)).filter (· ≠ 0)).map (make row)) =
      rows.filterMap fun row => (instanceStepOf (templateStepOf row)).map (make row) := by
  rw [List.filterMap_filter]
  refine congrArg (fun f => List.filterMap f rows) (funext fun row => ?_)
  rcases isMapped : instanceStepOf (templateStepOf row) with _ | stepInstanceId
  · rw [Option.filter_none, Option.map_none, ite_self]
  · obtain ⟨nonzero, member⟩ := mapped _ _ isMapped
    rw [if_pos (by simpa using member), Option.filter_some, if_pos (by simpa using nonzero)]

/-- Without steps there is nothing to copy. -/
private theorem insertStepRows_nil (db : Database) : insertStepRows db [] = db := by
  simp [insertStepRows, newRequirements, newTriggers, newObjectInstances, stepInstanceIdFor,
    Table.insertAll]

/-- The copies of the rows of a template are those that belong to the added steps. -/
theorem copyStepRows_run {steps : List TemplateStep}
    (distinct : (steps.map TemplateStep.processTemplateStepId).Nodup) (time : String)
    (processInstanceId : Nat) {n : Nat} (positive : 0 < n) (w : World) :
    copyStepRows steps ((Table.stamp n (steps.map (newStep time processInstanceId))).map
        StepInstance.stepInstanceId) w =
      (.ok (), { w with
        db := insertStepRows w.db (Table.stamp n (steps.map (newStep time processInstanceId))) }) := by
  have isMap : tplToInst steps ((Table.stamp n (steps.map (newStep time processInstanceId))).map
      StepInstance.stepInstanceId) = stepInstanceIdFor (Table.stamp n
        (steps.map (newStep time processInstanceId))) :=
    funext fun templateStepId => tplToInst_eq distinct time processInstanceId n templateStepId
  have mapped : ∀ templateStepId stepInstanceId,
      stepInstanceIdFor (Table.stamp n (steps.map (newStep time processInstanceId)))
          templateStepId = some stepInstanceId →
        stepInstanceId ≠ 0 ∧ templateStepId ∈ steps.map TemplateStep.processTemplateStepId :=
    fun _ _ => stepInstanceIdFor_mapped positive
  unfold copyStepRows
  simp only [bind, Program.andThen, Program.read]
  rw [isMap, requirementsInsert,
    runCopy_pushCopies _ _ rfl (fun _ _ => rfl) (fun _ => rfl) w]
  dsimp only
  rw [triggersInsert, runCopy_pushCopies _ _ rfl (fun _ _ => rfl) (fun _ => rfl)]
  dsimp only
  rw [bindingsInsert, runCopy_pushCopies _ _ rfl (fun _ _ => rfl) (fun _ => rfl)]
  simp only [Table.select, List.map_filterMap, Option.map_map]
  rw [filterMap_mapped _ mapped, filterMap_mapped _ mapped, filterMap_mapped _ mapped]
  rfl

/-- The statements store what `instantiateProcessIn` inserts. -/
theorem instantiateByStatements_eq (templateId tenantId createdBy : Nat)
    (options : ProcessInstantiationOptions) :
    instantiateByStatements templateId tenantId createdBy options =
      instantiateProcessIn templateId tenantId createdBy options := by
  unfold instantiateByStatements instantiateProcessIn
  refine congrArg (now >>= ·) (funext fun time => ?_)
  refine congrArg (insertProcessInstance _ >>= ·) (funext fun processInstanceId => ?_)
  refine congrArg (Program.when _ _ >>= ·) (funext fun _ => funext fun w => ?_)
  have distinct : ((templateStepsOf w.db templateId).map
      TemplateStep.processTemplateStepId).Nodup :=
    (((orderBy_perm _ _).map _).nodup_iff).mpr
      (w.db.templateSteps.distinct.sublist (List.filter_sublist.map _))
  simp only [bind, Program.andThen, Program.read]
  rw [insertEachStep_run, List.nil_append]
  dsimp only
  rcases steps : templateStepsOf w.db templateId with _ | ⟨s, rest⟩
  · show _ = (Except.ok processInstanceId, { w with
      db := insertStepRows { w.db with steps := w.db.steps.insertAll [] } [] })
    rw [insertStepRows_nil]
    rfl
  · rw [steps] at distinct
    have run := copyStepRows_run distinct time processInstanceId w.db.steps.positive
      { w with db := { w.db with
          steps := w.db.steps.insertAll ((s :: rest).map (newStep time processInstanceId)) } }
    rw [List.isEmpty_cons, Program.when, if_pos rfl, run]
    rfl

/-! ## Faithful copies -/

/-- One copy for each row: taken in some order, the rows and their copies stand side by
side. -/
def Copies {ρ β : Type} (copyOf : ρ → β → Prop) (rows : List ρ) (copies : List β) : Prop :=
  ∃ ordered : List ρ, ordered.Perm rows ∧ List.Forall₂ copyOf ordered copies

/-- The row belongs to a step of the template. -/
def OfTemplate (db : Database) (templateId templateStepId : Nat) : Bool :=
  db.templateSteps.rows.any fun s =>
    s.processTemplateId == templateId && s.processTemplateStepId == templateStepId

/-- The identifier is that of the copy of a step of the template. -/
def CopiedTo (added : List StepInstance) (templateStepId stepInstanceId : Nat) : Prop :=
  ∃ step ∈ added, step.stepInstanceId = stepInstanceId ∧
    step.processTemplateStepId = templateStepId

/-- A process that is a copy of its template: `added` are its steps, one for each step of the
template, and the rows of a step of the template are copied once, to the copy of that step. -/
structure FaithfulCopy (templateId processInstanceId : Nat) (added : List StepInstance)
    (before after : Database) : Prop where
  instance' : ∃ row, after.processInstances.rows = before.processInstances.rows ++ [row] ∧
    row.processInstanceId = processInstanceId ∧ row.processTemplateId = templateId
  stepRows : after.steps.rows = before.steps.rows ++ added
  steps : Copies (fun s step => step.processTemplateStepId = s.processTemplateStepId ∧
      step.processInstanceId = processInstanceId ∧ step.stepOrder = s.stepOrder ∧
      step.taskType = s.taskType)
    (before.templateSteps.select fun s => s.processTemplateId == templateId) added
  single : (added.map StepInstance.processTemplateStepId).Nodup
  requirements : ∃ copies, after.requirements.rows = before.requirements.rows ++ copies ∧
    Copies (fun r copy => copy.processTemplateStepRequirementId = r.processTemplateStepRequirementId ∧
        copy.requirementType = r.requirementType ∧ copy.requirementKey = r.requirementKey ∧
        copy.jsonSchema = r.jsonSchema ∧
        CopiedTo added r.processTemplateStepId copy.stepInstanceId)
      (before.templateRequirements.select fun r =>
        OfTemplate before templateId r.processTemplateStepId) copies
  triggers : ∃ copies, after.triggers.rows = before.triggers.rows ++ copies ∧
    Copies (fun t copy => copy.processTemplateStepTriggerConditionId = t.stepTriggerConditionId ∧
        copy.conditionType = t.conditionType ∧ copy.conditionKey = t.conditionKey ∧
        copy.jsonSchema = t.jsonSchema ∧
        CopiedTo added t.processTemplateStepId copy.stepInstanceId)
      (before.templateTriggers.select fun t =>
        OfTemplate before templateId t.processTemplateStepId) copies
  bindings : ∃ copies, after.objectInstances.rows = before.objectInstances.rows ++ copies ∧
    Copies (fun b copy => copy.bindingId = some b.bindingId ∧
        copy.configObjectId = b.configObjectId ∧
        CopiedTo added b.processTemplateStepId copy.stepInstanceId)
      (before.templateBindings.select fun b =>
        OfTemplate before templateId b.processTemplateStepId) copies

namespace Copies

variable {ρ β : Type} {copyOf : ρ → β → Prop}

theorem stamp [Keyed β] {rows : List ρ} {copies : List β} (n : Nat)
    (same : ∀ m row copy, copyOf row copy → copyOf row (Keyed.withKey m copy))
    (areCopies : Copies copyOf rows copies) : Copies copyOf rows (Table.stamp n copies) := by
  obtain ⟨ordered, perm, sideBySide⟩ := areCopies
  refine ⟨ordered, perm, ?_⟩
  clear perm
  induction sideBySide generalizing n with
  | nil => exact .nil
  | cons isCopy _ ih =>
      exact .cons (same n _ _ isCopy) (ih (n + 1))

theorem filterMap {idFor : ρ → Option Nat} {make : ρ → Nat → β} {selects : ρ → Bool}
    {ordered rows : List ρ} (perm : ordered.Perm rows)
    (mapped : ∀ row, selects row = (idFor row).isSome)
    (made : ∀ row stepInstanceId, idFor row = some stepInstanceId →
      copyOf row (make row stepInstanceId)) :
    Copies copyOf (rows.filter selects) (ordered.filterMap fun row =>
      (idFor row).map (make row)) := by
  refine ⟨ordered.filter selects, perm.filter _, ?_⟩
  clear perm
  induction ordered with
  | nil => exact .nil
  | cons row ordered ih =>
      rcases isMapped : idFor row with _ | stepInstanceId
      · rw [List.filter_cons_of_neg (by simp [mapped, isMapped]),
          List.filterMap_cons_none (by simp [isMapped])]
        exact ih
      · rw [List.filter_cons_of_pos (by simp [mapped, isMapped]),
          List.filterMap_cons_some (by rw [isMapped]; rfl)]
        exact .cons (made row stepInstanceId isMapped) ih

end Copies

/-- A step of the template is mapped to its copy, and no other step is mapped. -/
private theorem stepInstanceIdFor_addedSteps (w : World) (templateId processInstanceId : Nat)
    (templateStepId : Nat) :
    OfTemplate w.db templateId templateStepId =
      (stepInstanceIdFor (addedSteps w templateId processInstanceId) templateStepId).isSome := by
  rw [Bool.eq_iff_iff, OfTemplate, List.any_eq_true, stepInstanceIdFor, Option.isSome_map,
    List.find?_isSome]
  constructor
  · rintro ⟨s, member, isStep⟩
    obtain ⟨ofTemplate, isKey⟩ := (Bool.and_eq_true_iff.mp isStep).imp beq_iff_eq.mp beq_iff_eq.mp
    obtain ⟨m, added⟩ := @Table.exists_mem_stamp _ _ (newStep w.now processInstanceId s)
      w.db.steps.autoIncrement ((templateStepsOf w.db templateId).map
        (newStep w.now processInstanceId)) (List.mem_map.mpr ⟨s, mem_orderBy.mpr
          (Table.mem_select.mpr ⟨member, beq_iff_eq.mpr ofTemplate⟩), rfl⟩)
    exact ⟨_, added, beq_iff_eq.mpr isKey⟩
  · rintro ⟨step, member, isKey⟩
    obtain ⟨s, stepMember, ofTemplate, isCopy⟩ := mem_addedSteps member
    refine ⟨s, stepMember, ?_⟩
    rw [isCopy] at isKey
    rw [ofTemplate, beq_self_eq_true, Bool.true_and]
    exact isKey

private theorem insertStepRows_faithful (w : World) {templateId : Nat} {row : ProcessInstance}
    {instances : Table ProcessInstance} (ofTemplate : row.processTemplateId = templateId)
    (rows : instances.rows = w.db.processInstances.rows ++ [row]) :
    FaithfulCopy templateId row.processInstanceId
      (addedSteps w templateId row.processInstanceId) w.db
      (insertStepRows
        { w.db with
          processInstances := instances
          steps := w.db.steps.insertAll
            ((templateStepsOf w.db templateId).map (newStep w.now row.processInstanceId)) }
        (addedSteps w templateId row.processInstanceId)) where
  instance' := ⟨row, rows, rfl, ofTemplate⟩
  stepRows := Table.rows_insertAll _
  steps := by
    refine .stamp _ (fun _ _ _ isCopy => isCopy) ⟨templateStepsOf w.db templateId, orderBy_perm _ _, ?_⟩
    rw [List.forall₂_map_right_iff]
    exact List.forall₂_same.mpr fun _ _ => ⟨rfl, rfl, rfl, rfl⟩
  single := by
    unfold addedSteps
    rw [Table.map_stamp (fun _ _ => rfl), List.map_map]
    exact (((orderBy_perm _ _).map _).nodup_iff).mpr
      (w.db.templateSteps.distinct.sublist (List.filter_sublist.map _))
  requirements := ⟨_, Table.rows_insertAll _, .stamp _ (fun _ _ _ isCopy => isCopy)
    (.filterMap (.refl _)
      (fun r => stepInstanceIdFor_addedSteps w templateId _ r.processTemplateStepId)
      fun _ _ mapped => ⟨rfl, rfl, rfl, rfl, mem_of_stepInstanceIdFor mapped⟩)⟩
  triggers := ⟨_, Table.rows_insertAll _, .stamp _ (fun _ _ _ isCopy => isCopy)
    (.filterMap (.refl _)
      (fun t => stepInstanceIdFor_addedSteps w templateId _ t.processTemplateStepId)
      fun _ _ mapped => ⟨rfl, rfl, rfl, rfl, mem_of_stepInstanceIdFor mapped⟩)⟩
  bindings := ⟨_, Table.rows_insertAll _, .stamp _ (fun _ _ _ isCopy => isCopy)
    (.filterMap ((orderBy_perm _ _).trans (orderBy_perm _ _))
      (fun b => stepInstanceIdFor_addedSteps w templateId _ b.processTemplateStepId)
      fun _ _ mapped => ⟨rfl, rfl, mem_of_stepInstanceIdFor mapped⟩)⟩

/-- Every instantiation copies its template faithfully. -/
theorem instantiated_faithfully (templateId tenantId createdBy : Nat)
    (options : ProcessInstantiationOptions) (w : World) :
    Program.wp (instantiateByStatements templateId tenantId createdBy options)
      (fun processInstanceId after => ∃ added,
        FaithfulCopy templateId processInstanceId added w.db after.db)
      (fun _ _ => False) w := by
  have rows := @Table.rows_insert _ _ w.db.processInstances
    (newProcessInstance templateId tenantId createdBy options w.now)
  rw [instantiateByStatements_eq]
  unfold instantiateProcessIn
  simp only [now, insertProcessInstance, writeDb, Program.wp_bind, Program.wp_read,
    Program.wp_writeReturning, Program.wp_write, Program.wp_when, Program.wp_pure]
  constructor
  · intro _
    have self := Table.rows_updateAt_last
      (fun row => { row with subjectId := w.db.processInstances.autoIncrement }) (fun _ => rfl) rows
    exact ⟨_, insertStepRows_faithful w rfl self⟩
  · intro _
    exact ⟨_, insertStepRows_faithful w rfl rows⟩

end ProcessInstantiation

end CoreApi.Automation
