import CoreApi.Automation.CallEffects

/-!
# Rows that belong together

`Linked` holds in every reachable state: steps belong to instances, triggers to
steps, and a child process to the one `call_process` step that spawned it, which
is then neither pending nor open for completion by hand.
-/

namespace CoreApi.Automation

open CoreApi.Foundation StepOrchestrator ChildProcessOrchestration

variable {deployment : Deployment}

theorem mem_stepsOf {db : Database} {processInstanceId : Nat} {step : StepInstance} :
    step ∈ db.stepsOf processInstanceId ↔
      step ∈ db.steps.rows ∧ step.processInstanceId = processInstanceId := by
  simp [Database.stepsOf, Table.mem_select]

/-- A status that a step leaves only by `handleChildTerminal`. -/
def IsSettled (status : StepStatus) : Prop :=
  status = .blocked ∨ status = .completed ∨ status = .canceled

/-- The child belongs to a `call_process` step of its parent, which is settled
unless it is the step `exempt`. -/
def HasCaller (exempt : Option Nat) (db : Database) (child : ProcessInstance)
    (parentStepId : Nat) : Prop :=
  ∃ step ∈ db.steps.rows, step.stepInstanceId = parentStepId ∧ step.taskType = .callProcess ∧
    (IsSettled step.status ∨ exempt = some parentStepId) ∧
    ∃ parent ∈ db.processInstances.rows, parent.processInstanceId = step.processInstanceId ∧
      child.parentInstanceId = some step.processInstanceId ∧ child.tenantId = parent.tenantId

/-- What the rows of the engine say about each other; between the start of a
child and the update of its parent's step, that step is exempt. -/
structure LinkedUpTo (exempt : Option Nat) (db : Database) : Prop where
  stepProcess : ∀ step ∈ db.steps.rows, ∃ row ∈ db.processInstances.rows,
    row.processInstanceId = step.processInstanceId
  triggerStep : ∀ trigger ∈ db.triggers.rows, ∃ step ∈ db.steps.rows,
    step.stepInstanceId = trigger.stepInstanceId
  hosted : ∀ row ∈ db.processInstances.rows, ProcessHostRegistry.has row.subjectType = true
  caller : ∀ child ∈ db.processInstances.rows, ∀ parentStepId,
    child.parentStepId = some parentStepId → HasCaller exempt db child parentStepId
  root : ∀ row ∈ db.processInstances.rows, row.parentStepId = none → row.parentInstanceId = none
  onlyChild : ∀ first ∈ db.processInstances.rows, ∀ second ∈ db.processInstances.rows,
    ∀ parentStepId, first.parentStepId = some parentStepId →
      second.parentStepId = some parentStepId →
        first.processInstanceId = second.processInstanceId
  orders : ∀ row ∈ db.processInstances.rows,
    (db.stepsOf row.processInstanceId).map StepInstance.stepOrder =
      (ProcessInstantiation.templateStepsOf db row.processTemplateId).map TemplateStep.stepOrder

/-- What the rows of the engine say about each other between two calls. -/
abbrev Linked (db : Database) : Prop := LinkedUpTo none db

namespace Linked

/-- The rows that `Linked` reads, up to the triggers of a step. -/
structure SameLinks (before after : Database) : Prop where
  instances : after.processInstances.rows = before.processInstances.rows
  steps : after.steps.rows = before.steps.rows
  triggers : ∀ trigger ∈ after.triggers.rows, ∃ old ∈ before.triggers.rows,
    old.stepInstanceId = trigger.stepInstanceId
  templates : after.templateSteps.rows = before.templateSteps.rows

theorem SameLinks.of_eq {before after : Database}
    (instances : after.processInstances = before.processInstances)
    (steps : after.steps = before.steps) (triggers : after.triggers = before.triggers)
    (templates : after.templateSteps = before.templateSteps) : SameLinks before after :=
  ⟨by rw [instances], by rw [steps], fun trigger member => ⟨trigger, triggers ▸ member, rfl⟩,
    by rw [templates]⟩

theorem same {before after : Database} (linked : Linked before)
    (links : SameLinks before after) : Linked after := by
  obtain ⟨instances, steps, triggers, templates⟩ := links
  constructor
  · rw [steps, instances]
    exact linked.stepProcess
  · intro trigger member
    obtain ⟨old, oldMember, ofStep⟩ := triggers trigger member
    rw [steps, ← ofStep]
    exact linked.triggerStep old oldMember
  · rw [instances]
    exact linked.hosted
  · intro child member parentStepId isChild
    unfold HasCaller
    rw [steps, instances]
    exact linked.caller child (instances ▸ member) parentStepId isChild
  · rw [instances]
    exact linked.root
  · rw [instances]
    exact linked.onlyChild
  · unfold Database.stepsOf ProcessInstantiation.templateStepsOf Table.select
    rw [instances, steps, templates]
    exact linked.orders

/-- An update of a step that leaves a column leaves the column of every process. -/
theorem map_stepsOf_setStep {β : Type} {db : Database} {column : StepInstance → β}
    {stepInstanceId : Nat} {status : StepStatus} {set : StepInstance → StepInstance}
    (sets : SetsStatus status set) (keeps : ∀ step, column (set step) = column step)
    (processInstanceId : Nat) :
    ((db.setStep stepInstanceId set sets.key).stepsOf processInstanceId).map column =
      (db.stepsOf processInstanceId).map column := by
  unfold Database.stepsOf Table.select Database.setStep
  rw [Table.rows_updateAt, List.filter_map, List.map_map]
  have selects : ((fun step : StepInstance => step.processInstanceId == processInstanceId) ∘
      fun step => if Keyed.key step = stepInstanceId then set step else step) =
        fun step => step.processInstanceId == processInstanceId := by
    funext step
    simp only [Function.comp_apply]
    split
    · rw [sets.process]
    · rfl
  rw [selects]
  apply List.map_congr_left
  intro step _
  simp only [Function.comp_apply]
  split
  · exact keeps step
  · rfl

/-- A step without children may change to any status, another one to a settled
status; after that it needs no exemption. -/
theorem setStep {db : Database} {exempt : Option Nat} (linked : LinkedUpTo exempt db)
    {stepInstanceId : Nat} {status : StepStatus} {set : StepInstance → StepInstance}
    (sets : SetsStatus status set) (only : exempt = none ∨ exempt = some stepInstanceId)
    (allowed : IsSettled status ∨
      ∀ child ∈ db.processInstances.rows, child.parentStepId ≠ some stepInstanceId) :
    Linked (db.setStep stepInstanceId set sets.key) := by
  have image : ∀ step ∈ db.steps.rows, ∃ row ∈ (db.setStep stepInstanceId set sets.key).steps.rows,
      row.stepInstanceId = step.stepInstanceId ∧ row.taskType = step.taskType ∧
      row.processInstanceId = step.processInstanceId ∧
      (row.status = status ∧ step.stepInstanceId = stepInstanceId ∨
        row.status = step.status ∧ step.stepInstanceId ≠ stepInstanceId) := by
    intro step member
    by_cases same : step.stepInstanceId = stepInstanceId
    · exact ⟨set step, (mem_setStep sets.key).mpr (.inl ⟨step, member, same, rfl⟩),
        sets.key step, sets.task step, sets.process step, .inl ⟨sets.status step, same⟩⟩
    · exact ⟨step, (mem_setStep sets.key).mpr (.inr ⟨member, same⟩), rfl, rfl, rfl,
        .inr ⟨rfl, same⟩⟩
  constructor
  · intro step member
    rcases (mem_setStep sets.key).mp member with ⟨old, oldMember, _, rfl⟩ | ⟨untouched, _⟩
    · rw [sets.process]
      exact linked.stepProcess old oldMember
    · exact linked.stepProcess step untouched
  · intro trigger member
    obtain ⟨step, stepMember, ofStep⟩ := linked.triggerStep trigger member
    obtain ⟨row, rowMember, key, _⟩ := image step stepMember
    exact ⟨row, rowMember, key.trans ofStep⟩
  · exact linked.hosted
  · intro child member parentStepId isChild
    obtain ⟨step, stepMember, key, calls, settled, parent⟩ :=
      linked.caller child member parentStepId isChild
    obtain ⟨row, rowMember, rowKey, task, process, outcome⟩ := image step stepMember
    refine ⟨row, rowMember, rowKey.trans key, task.trans calls, ?_, process.symm ▸ parent⟩
    rcases outcome with ⟨written, isStep⟩ | ⟨kept, notStep⟩
    · rcases allowed with settles | childless
      · rw [written]
        exact .inl settles
      · exact absurd (isStep ▸ key ▸ isChild) (childless child member)
    · rw [kept]
      refine settled.imp_right fun isExempt => ?_
      rcases only with none | exemptStep
      · rw [none] at isExempt
        cases isExempt
      · rw [exemptStep] at isExempt
        exact absurd (key.trans (Option.some.inj isExempt).symm) notStep
  · exact linked.root
  · exact linked.onlyChild
  · intro row member
    refine Eq.trans ?_ (linked.orders row member)
    exact map_stepsOf_setStep sets sets.order row.processInstanceId

/-- An update that leaves the links of an instance. -/
theorem setInstance {db : Database} (linked : Linked db) {processInstanceId : Nat}
    {next : InstanceStatus → InstanceStatus} {set : ProcessInstance → ProcessInstance}
    (sets : SetsInstance next set) :
    Linked (db.setInstance processInstanceId set sets.key) := by
  have image : ∀ old ∈ db.processInstances.rows,
      ∃ row ∈ (db.setInstance processInstanceId set sets.key).processInstances.rows,
        row.processInstanceId = old.processInstanceId ∧ row.tenantId = old.tenantId := by
    intro old member
    by_cases same : old.processInstanceId = processInstanceId
    · exact ⟨set old, (mem_setInstance sets.key).mpr (.inl ⟨old, member, same, rfl⟩),
        sets.key old, sets.tenant old⟩
    · exact ⟨old, (mem_setInstance sets.key).mpr (.inr ⟨member, same⟩), rfl, rfl⟩
  have preimage : ∀ row ∈ (db.setInstance processInstanceId set sets.key).processInstances.rows,
      ∃ old ∈ db.processInstances.rows, row.processInstanceId = old.processInstanceId ∧
        row.tenantId = old.tenantId ∧ row.subjectType = old.subjectType ∧
        row.parentInstanceId = old.parentInstanceId ∧ row.parentStepId = old.parentStepId := by
    intro row member
    rcases (mem_setInstance sets.key).mp member with ⟨old, oldMember, _, rfl⟩ | ⟨untouched, _⟩
    · exact ⟨old, oldMember, sets.key old, sets.tenant old, sets.subject old,
        sets.parentInstance old, sets.parentStep old⟩
    · exact ⟨row, untouched, rfl, rfl, rfl, rfl, rfl⟩
  constructor
  · intro step member
    obtain ⟨old, oldMember, ofProcess⟩ := linked.stepProcess step member
    obtain ⟨row, rowMember, key, _⟩ := image old oldMember
    exact ⟨row, rowMember, key.trans ofProcess⟩
  · exact linked.triggerStep
  · intro row member
    obtain ⟨old, oldMember, _, _, subject, _⟩ := preimage row member
    rw [subject]
    exact linked.hosted old oldMember
  · intro child member parentStepId isChild
    obtain ⟨old, oldMember, _, tenant, _, parentInstance, parentStep⟩ := preimage child member
    obtain ⟨step, stepMember, key, calls, settled, parent, parentMember, ofProcess, names, same⟩ :=
      linked.caller old oldMember parentStepId (parentStep ▸ isChild)
    obtain ⟨row, rowMember, rowKey, rowTenant⟩ := image parent parentMember
    exact ⟨step, stepMember, key, calls, settled, row, rowMember, rowKey.trans ofProcess,
      parentInstance.trans names, tenant.trans (same.trans rowTenant.symm)⟩
  · intro row member isRoot
    obtain ⟨old, oldMember, _, _, _, parentInstance, parentStep⟩ := preimage row member
    rw [parentInstance]
    exact linked.root old oldMember (parentStep ▸ isRoot)
  · intro first firstMember second secondMember parentStepId firstChild secondChild
    obtain ⟨old, oldMember, key, _, _, _, parentStep⟩ := preimage first firstMember
    obtain ⟨old', oldMember', key', _, _, _, parentStep'⟩ := preimage second secondMember
    rw [key, key']
    exact linked.onlyChild old oldMember old' oldMember' parentStepId (parentStep ▸ firstChild)
      (parentStep' ▸ secondChild)
  · intro row member
    rcases (mem_setInstance sets.key).mp member with ⟨old, oldMember, _, rfl⟩ | ⟨untouched, _⟩
    · rw [sets.key, sets.template]
      exact linked.orders old oldMember
    · exact linked.orders row untouched

/-! ## New processes -/

theorem started {before after : World} {params : StartProcessParams} {row : ProcessInstance}
    (linked : Linked before.db) (start : Started params row before after)
    (root : params.parentStepId = none → params.parentInstanceId = none)
    (first : ∀ parentStepId, params.parentStepId = some parentStepId →
      ∀ child ∈ before.db.processInstances.rows, child.parentStepId ≠ some parentStepId)
    (caller : ∀ parentStepId, params.parentStepId = some parentStepId →
      ∃ step ∈ before.db.steps.rows, step.stepInstanceId = parentStepId ∧
        step.taskType = .callProcess ∧ ∃ parent ∈ before.db.processInstances.rows,
          parent.processInstanceId = step.processInstanceId ∧
          params.parentInstanceId = some step.processInstanceId ∧
          params.tenantId = parent.tenantId) :
    LinkedUpTo params.parentStepId after.db := by
  have fresh := start.fresh
  constructor
  · rw [start.steps, start.instances]
    intro step member
    rcases List.mem_append.mp member with old | new
    · obtain ⟨parent, parentMember, ofProcess⟩ := linked.stepProcess step old
      exact ⟨parent, List.mem_append_left _ parentMember, ofProcess⟩
    · exact ⟨row, by simp, (ProcessInstantiation.addedSteps_process new).symm⟩
  · rw [start.triggers, start.steps]
    intro trigger member
    rcases List.mem_append.mp member with old | new
    · obtain ⟨step, stepMember, ofStep⟩ := linked.triggerStep trigger old
      exact ⟨step, List.mem_append_left _ stepMember, ofStep⟩
    · obtain ⟨stamped, stampedMember, _, _, _, rfl⟩ := Table.mem_stamp new
      obtain ⟨_, step, stepMember, ofStep⟩ := ProcessInstantiation.mem_newTriggers stampedMember
      exact ⟨step, List.mem_append_right _ stepMember, ofStep⟩
  · rw [start.instances]
    intro other member
    rcases List.mem_append.mp member with old | new
    · exact linked.hosted other old
    · rw [List.mem_singleton.mp new]
      exact fresh.hosted
  · intro child member parentStepId isChild
    unfold HasCaller
    rw [start.steps, start.instances]
    rw [start.instances] at member
    rcases List.mem_append.mp member with old | new
    · obtain ⟨step, stepMember, key, calls, settled, parent, parentMember, rest⟩ :=
        linked.caller child old parentStepId isChild
      exact ⟨step, List.mem_append_left _ stepMember, key, calls,
        .inl (settled.resolve_right (by simp)), parent, List.mem_append_left _ parentMember, rest⟩
    · rw [List.mem_singleton.mp new] at isChild ⊢
      rw [fresh.parentStep] at isChild
      obtain ⟨step, stepMember, key, calls, parent, parentMember, ofProcess, names, tenant⟩ :=
        caller parentStepId isChild
      exact ⟨step, List.mem_append_left _ stepMember, key, calls, .inr isChild, parent,
        List.mem_append_left _ parentMember, ofProcess, fresh.parentInstance.trans names,
        fresh.tenant.trans tenant⟩
  · rw [start.instances]
    intro other member isRoot
    rcases List.mem_append.mp member with old | new
    · exact linked.root other old isRoot
    · rw [List.mem_singleton.mp new] at isRoot ⊢
      rw [fresh.parentStep] at isRoot
      rw [fresh.parentInstance]
      exact root isRoot
  · rw [start.instances]
    intro one oneMember two twoMember parentStepId oneChild twoChild
    rcases List.mem_append.mp oneMember with oneOld | oneNew <;>
      rcases List.mem_append.mp twoMember with twoOld | twoNew
    · exact linked.onlyChild one oneOld two twoOld parentStepId oneChild twoChild
    · rw [List.mem_singleton.mp twoNew, fresh.parentStep] at twoChild
      exact absurd oneChild (first parentStepId twoChild one oneOld)
    · rw [List.mem_singleton.mp oneNew, fresh.parentStep] at oneChild
      exact absurd twoChild (first parentStepId oneChild two twoOld)
    · rw [List.mem_singleton.mp oneNew, List.mem_singleton.mp twoNew]
  · rw [start.instances]
    intro other member
    have templates : ProcessInstantiation.templateStepsOf after.db other.processTemplateId =
        ProcessInstantiation.templateStepsOf before.db other.processTemplateId := by
      obtain ⟨_, _, _, _, _, _, _, _, _, eq⟩ := start.rest
      rw [eq]
      rfl
    rw [templates]
    rcases List.mem_append.mp member with old | new
    · rw [start.stepsOf_other (start.key_ne old)]
      exact linked.orders other old
    · rw [List.mem_singleton.mp new, start.stepsOf_new linked.stepProcess, fresh.template]
      exact ProcessInstantiation.addedSteps_orders before params.templateId row.processInstanceId

/-! ## The writes of the orchestrator -/

theorem childless {db : Database} (linked : Linked db) {step : StepInstance}
    (member : step ∈ db.steps.rows) (open' : ¬ IsSettled step.status) :
    ∀ child ∈ db.processInstances.rows, child.parentStepId ≠ some step.stepInstanceId := by
  intro child childMember isChild
  obtain ⟨caller, callerMember, key, _, settled, _⟩ :=
    linked.caller child childMember step.stepInstanceId isChild
  have same : caller = step := Table.eq_of_key_eq callerMember member key
  rcases settled with settled | exempt
  · exact open' (same ▸ settled)
  · cases exempt

/-- Where no child is found, there is none. -/
theorem findChild_eq_none {db : Database} {stepInstanceId : Nat} :
    findChildProcessInstanceId db stepInstanceId = none ↔
      ∀ child ∈ db.processInstances.rows, child.parentStepId ≠ some stepInstanceId := by
  simp [findChildProcessInstanceId, List.find?_eq_none]

theorem findChild_of_unsettled {db : Database} (linked : Linked db) {step : StepInstance}
    (member : step ∈ db.steps.rows) (open' : ¬ IsSettled step.status) :
    findChildProcessInstanceId db step.stepInstanceId = none :=
  findChild_eq_none.mpr (linked.childless member open')

theorem edit {origin before after : World} {processInstanceId target : Nat}
    (linked : Linked before.db)
    (edit : Edit deployment origin processInstanceId target before after) : Linked after.db := by
  cases edit with
  | hosted host =>
      obtain ⟨_, _, _, _, tables⟩ := host.tables
      exact linked.same (.of_eq (by rw [tables]) (by rw [tables]) (by rw [tables])
        (by rw [tables]))
  | evaluated trigger _ met =>
      refine linked.same ⟨rfl, rfl, fun row member => ?_, rfl⟩
      rcases (mem_setTrigger (evaluatedTrigger_key met before.now)).mp member with
        ⟨old, oldMember, _, rfl⟩ | ⟨untouched, _⟩
      · exact ⟨old, oldMember, by cases met <;> rfl⟩
      · exact ⟨row, untouched, rfl⟩
  | provisioned _ _ _ _ _ _ _ _ writes =>
      obtain ⟨_, _, _, _, _, _, _, rfl⟩ := writes
      exact linked.same (.of_eq rfl rfl rfl rfl)
  | readied step set sets member _ pending _ host =>
      obtain ⟨_, _, _, _, tables⟩ := host.tables
      rw [tables]
      refine same (setStep linked sets (.inl rfl)
        (.inr (linked.childless member (by simp [pending, IsSettled])))) (.of_eq rfl rfl rfl rfl)
  | blocked step set sets =>
      exact setStep linked sets (.inl rfl) (.inl (.inl rfl))
  | spawned step set sets parent params row member _ pending calls childless resolved start =>
      obtain ⟨opts, resolved⟩ := resolved
      have childOf := childOf_of_resolveChildStart resolved
      have isChild : params.parentStepId = some step.stepInstanceId := childOf.parentStep
      have isParent := Table.find?_eq_some.mp childOf.isParent
      have linked' := linked.started start (by simp [isChild])
        (fun parentStepId same => by
          rw [isChild] at same
          cases same
          exact findChild_eq_none.mp childless)
        (fun parentStepId same => by
          rw [isChild] at same
          cases same
          exact ⟨step, member, rfl, calls, parent, isParent.1, isParent.2,
            childOf.parentInstance, childOf.tenant⟩)
      exact setStep linked' sets (.inr isChild) (.inl (.inl rfl))

theorem edits {origin before after : World} {processInstanceId target : Nat}
    (linked : Linked before.db)
    (edits : Edits deployment origin processInstanceId target before after) :
    Linked after.db := by
  induction edits with
  | refl => exact linked
  | tail _ last ih => exact ih.edit last

theorem hostTables {before after : Database} (linked : Linked before)
    (tables : HostTables before after) : Linked after := by
  obtain ⟨_, _, _, _, rfl⟩ := tables
  exact linked.same (.of_eq rfl rfl rfl rfl)

theorem stepCompleted {step : StepInstance} {before after : World} (linked : Linked before.db)
    (completes : StepCompleted step before after) : Linked after.db := by
  obtain ⟨_, sets, tables⟩ := completes.tables
  exact (setStep linked sets (.inl rfl) (.inl (.inr (.inl rfl)))).hostTables tables

theorem settlement {processInstanceId : Nat} {before after : World} {result : Option Nat}
    (linked : Linked before.db)
    (settlement : Settlement deployment processInstanceId before result after) :
    Linked after.db := by
  cases settlement with
  | idle => exact linked
  | child => exact linked.setInstance (setsInstance_completed before.now)
  | announced _ _ _ _ _ announced =>
      exact (linked.setInstance (setsInstance_completed before.now)).hostTables announced.tables

theorem settles {origin before after : World} {processInstanceId target : Nat}
    {result : Option Nat} (linked : Linked before.db)
    (settles : Settles deployment origin processInstanceId target before result after) :
    Linked after.db := by
  obtain ⟨_, edits, settlement, _⟩ := settles
  exact (linked.edits edits).settlement settlement

theorem callerOf {db : Database} (linked : Linked db) {childProcessInstanceId : Nat}
    {child parent : ProcessInstance} {parentStepId : Nat}
    (link : childLink db childProcessInstanceId = some (child, parent, parentStepId)) :
    ∃ caller ∈ db.stepsOf parent.processInstanceId,
      caller.stepInstanceId = parentStepId ∧ IsSettled caller.status := by
  obtain ⟨found, isChild, ofParent, _⟩ := childLink_eq_some link
  obtain ⟨caller, member, key, _, settled, _, _, _, names, _⟩ :=
    linked.caller child (Table.mem_of_find? found) parentStepId isChild
  rw [ofParent] at names
  exact ⟨caller, mem_stepsOf.mpr ⟨member, (Option.some.inj names).symm⟩, key,
    settled.resolve_right (by simp)⟩

theorem parentTold {before after : World} {child parent : ProcessInstance} {parentStepId : Nat}
    {terminalStatus : TerminalStatus} (linked : Linked before.db)
    (told : ParentTold before child parent parentStepId terminalStatus after) :
    Linked after.db := by
  cases told with
  | paused context => exact linked.setInstance (setsInstance_context context)
  | failed context =>
      exact setStep ((linked.setInstance (setsInstance_context context)).setInstance
        (setsInstance_canceled before.now)) (setsStatus_canceledByChild before.now) (.inl rfl)
          (.inl (.inr (.inr rfl)))
  | resumed context =>
      exact setStep (linked.setInstance (setsInstance_context context))
        (setsStatus_completedByChild before.now) (.inl rfl) (.inl (.inr (.inl rfl)))

end Linked

/-! ## Reachable states -/

namespace Engine

theorem Effect.linked {before after : World} {call : Call}
    (effect : Effect deployment before call after) (linked : Linked before.db) :
    Linked after.db := by
  cases effect with
  | unchanged => exact linked
  | raised _ _ rolledBack =>
      rw [rolledBack]
      exact linked.same ⟨rfl, rfl, fun trigger member => ⟨trigger, member, rfl⟩, rfl⟩
  | started params row start =>
      exact linked.started start (fun _ => rfl) (fun _ impossible => by cases impossible)
        (fun _ impossible => by cases impossible)
  | advanced _ _ _ outcome =>
      cases outcome with
      | refused => exact linked
      | waiting _ _ _ _ edits => exact linked.edits edits
      | unlocked _ _ _ _ edits => exact linked.edits edits
      | ran _ _ _ _ _ edits _ _ _ _ completes settles =>
          exact ((linked.edits edits).stepCompleted completes).settles settles
  | marked _ _ _ outcome =>
      cases outcome with
      | refused => exact linked
      | marked _ _ _ completes settles => exact (linked.stepCompleted completes).settles settles
  | resumed _ _ _ outcome =>
      cases outcome with
      | refused => exact linked
      | resumed _ _ _ settles => exact linked.settles settles
  | childTerminal _ _ _ _ _ _ _ _ told => exact linked.parentTold told
  | eligible => exact linked.setInstance (setsInstance_completed before.now)
  | validated _ _ _ validated =>
      obtain ⟨_, _, _, _, _, _, _, rfl⟩ := validated
      exact linked.same (.of_eq rfl rfl rfl rfl)
  | evidence _ only =>
      obtain ⟨_, _, _, _, _, rfl⟩ := only
      exact linked.same (.of_eq rfl rfl rfl rfl)
  | triggersMarked event =>
      obtain ⟨_, shape⟩ := before.db.markTriggers_shape before.now
        (EventBridge.metTriggers deployment event none before)
      refine linked.same ⟨by rw [EventBridge.marked, shape], by rw [EventBridge.marked, shape],
        fun row member => ?_, by rw [EventBridge.marked, shape]⟩
      obtain ⟨old, oldMember, rfl⟩ := (Database.mem_markTriggers _ _).mp member
      refine ⟨old, oldMember, ?_⟩
      split <;> rfl

theorem Fresh.linked {state : State} (fresh : Fresh state) : Linked state.world.db := by
  constructor <;> simp [fresh.steps, fresh.triggers, fresh.processInstances]

/-- The rows of every reachable state belong together. -/
theorem reachable_linked {state : State} (reachable : Reachable deployment state) :
    Linked state.world.db :=
  reachable_database (fun _ fresh => fresh.linked)
    (fun _ _ _ effect linked => effect.linked linked) reachable

end Engine

end CoreApi.Automation
