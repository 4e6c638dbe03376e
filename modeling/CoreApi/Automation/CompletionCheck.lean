import CoreApi.Automation.LinkedState

/-!
# The completion check over edits

What `evaluate` asks of a process, as statements about its rows, and the
processes that are over: no edit changes the verdict on such a process.
-/

namespace CoreApi.Automation

open CoreApi.Foundation StepOrchestrator ChildProcessOrchestration ProcessCompletion

variable {deployment : Deployment} {processInstanceId : Nat}

/-! ## The check, row by row -/

/-- No child of the process is active. -/
def NoActiveChild (db : Database) (processInstanceId : Nat) : Prop :=
  ∀ child ∈ db.processInstances.rows, child.parentInstanceId = some processInstanceId →
    IsTerminal child.status

/-- The mandatory bindings of every step of the process are valid. -/
def BindingsHold (deployment : Deployment) (db : Database) (processInstanceId : Nat) : Prop :=
  ∀ step ∈ db.stepsOf processInstanceId,
    ConfigObjectStepExecutor.areMandatoryBindingsValid deployment db step.stepInstanceId = true

/-- The step is completed or canceled. -/
def IsOverStep (step : StepInstance) : Prop :=
  step.status = .completed ∨ step.status = .canceled

theorem areAllStepsCompleted_iff {db : Database} :
    areAllStepsCompleted db processInstanceId = true ↔
      (∃ step, step ∈ db.stepsOf processInstanceId) ∧
        ∀ step ∈ db.stepsOf processInstanceId, step.status = .completed := by
  unfold areAllStepsCompleted
  simp only [Bool.and_eq_true, beq_iff_eq, bne_iff_ne, List.countP_eq_length, ne_eq,
    List.length_eq_zero_iff, List.eq_nil_iff_forall_not_mem, not_forall, not_not]
  exact And.comm

private theorem stepReasons_eq_nil {db : Database} :
    stepReasons db processInstanceId = [] ↔
      (∃ step, step ∈ db.stepsOf processInstanceId) ∧
        ∀ step ∈ db.stepsOf processInstanceId, IsOverStep step := by
  have counts : (db.stepsOf processInstanceId).countP isTerminalStep =
      (db.stepsOf processInstanceId).length ↔
        ∀ step ∈ db.stepsOf processInstanceId, IsOverStep step := by
    simp [List.countP_eq_length, isTerminalStep, IsOverStep]
  unfold stepReasons
  by_cases empty : db.stepsOf processInstanceId = []
  · simp [empty]
  · have nonempty : ∃ step, step ∈ db.stepsOf processInstanceId :=
      List.exists_mem_of_ne_nil _ empty
    by_cases past : (db.stepsOf processInstanceId).countP isTerminalStep =
        (db.stepsOf processInstanceId).length
    · have all := counts.mp past
      simpa [empty, past, nonempty] using all
    · simp only [List.length_eq_zero_iff, empty, ne_eq, past, not_false_eq_true, if_true,
        if_false, nonempty, true_and, ← counts, iff_false]
      simp

private theorem childReasons_eq_nil {db : Database} :
    childReasons db processInstanceId = [] ↔ NoActiveChild db processInstanceId := by
  have active : 0 < db.processInstances.rows.countP (isActiveChild processInstanceId) ↔
      ¬ NoActiveChild db processInstanceId := by
    simp [List.countP_pos_iff, isActiveChild, NoActiveChild, IsTerminal, not_or, and_assoc]
  unfold childReasons
  by_cases idle : NoActiveChild db processInstanceId
  · rw [if_neg fun positive => active.mp positive idle]
    simp [idle]
  · rw [if_pos (active.mpr idle)]
    simp [idle]

private theorem bindingReasons_eq_nil {db : Database} :
    bindingReasons deployment db processInstanceId = [] ↔
      BindingsHold deployment db processInstanceId := by
  unfold bindingReasons BindingsHold
  split
  · rename_i step found
    have failing := List.find?_some found
    refine ⟨fun impossible => by simp at impossible, fun hold => ?_⟩
    rw [hold step (List.mem_of_find?_eq_some found)] at failing
    cases failing
  · rename_i absent
    simpa [List.find?_eq_none] using absent

/-- The verdict of the completion check. -/
theorem canCompleteProcess_iff {db : Database} :
    canCompleteProcess deployment db processInstanceId = true ↔
      ((∃ step, step ∈ db.stepsOf processInstanceId) ∧
        ∀ step ∈ db.stepsOf processInstanceId, IsOverStep step) ∧
      NoActiveChild db processInstanceId ∧
      BindingsHold deployment db processInstanceId := by
  unfold canCompleteProcess evaluate
  simp only [beq_iff_eq, List.length_eq_zero_iff, List.append_eq_nil_iff, stepReasons_eq_nil,
    childReasons_eq_nil, bindingReasons_eq_nil, and_assoc]

/-! ## Processes the check reads alike -/

/-- Two databases in which the check reads the same of the process. -/
structure SameCheck (deployment : Deployment) (processInstanceId : Nat)
    (before after : Database) : Prop where
  steps : ∀ step, step ∈ after.stepsOf processInstanceId ↔ step ∈ before.stepsOf processInstanceId
  children : NoActiveChild after processInstanceId ↔ NoActiveChild before processInstanceId
  bindings : ∀ step ∈ before.stepsOf processInstanceId,
    ConfigObjectStepExecutor.areMandatoryBindingsValid deployment after step.stepInstanceId =
      ConfigObjectStepExecutor.areMandatoryBindingsValid deployment before step.stepInstanceId

namespace SameCheck

theorem refl (db : Database) : SameCheck deployment processInstanceId db db :=
  ⟨fun _ => Iff.rfl, Iff.rfl, fun _ _ => rfl⟩

theorem trans {a b c : Database} (first : SameCheck deployment processInstanceId a b)
    (second : SameCheck deployment processInstanceId b c) :
    SameCheck deployment processInstanceId a c :=
  ⟨fun step => (second.steps step).trans (first.steps step),
    second.children.trans first.children,
    fun step member => (second.bindings step ((first.steps step).mpr member)).trans
      (first.bindings step member)⟩

theorem allDone {before after : Database}
    (same : SameCheck deployment processInstanceId before after) :
    areAllStepsCompleted after processInstanceId =
      areAllStepsCompleted before processInstanceId := by
  rw [Bool.eq_iff_iff, areAllStepsCompleted_iff, areAllStepsCompleted_iff]
  simp only [same.steps]

theorem bindingsHold {before after : Database}
    (same : SameCheck deployment processInstanceId before after) :
    BindingsHold deployment after processInstanceId ↔
      BindingsHold deployment before processInstanceId := by
  constructor
  · intro hold step member
    rw [← same.bindings step member]
    exact hold step ((same.steps step).mpr member)
  · intro hold step member
    have old := (same.steps step).mp member
    rw [same.bindings step old]
    exact hold step old

theorem canComplete {before after : Database}
    (same : SameCheck deployment processInstanceId before after) :
    canCompleteProcess deployment after processInstanceId =
      canCompleteProcess deployment before processInstanceId := by
  rw [Bool.eq_iff_iff, canCompleteProcess_iff, canCompleteProcess_iff, same.bindingsHold,
    same.children]
  simp only [same.steps]

theorem hostTables {before after : Database} (tables : HostTables before after) :
    SameCheck deployment processInstanceId before after := by
  obtain ⟨_, _, _, _, rfl⟩ := tables
  exact ⟨fun _ => Iff.rfl, Iff.rfl, fun _ _ => rfl⟩

end SameCheck

theorem NoActiveChild.completed {db : Database} (none' : NoActiveChild db processInstanceId)
    (key : Nat) (time : String) :
    NoActiveChild (db.setInstance key (completedInstance time) (completedInstance_key time))
      processInstanceId := by
  have sets := setsInstance_completed time
  intro child member isChild
  rcases (mem_setInstance sets.key).mp member with ⟨old, oldMember, _, rfl⟩ | ⟨untouched, _⟩
  · have terminal := none' old oldMember (sets.parentInstance old ▸ isChild)
    rw [sets.status, completeActive_of_terminal terminal]
    exact terminal
  · exact none' child untouched isChild

/-! ## Processes that are over -/

/-- Every step of the process is completed or canceled. -/
structure IsOver (db : Database) (processInstanceId : Nat) : Prop where
  known : ∃ row ∈ db.processInstances.rows, row.processInstanceId = processInstanceId
  steps : ∀ step ∈ db.stepsOf processInstanceId, IsOverStep step

namespace IsOver

theorem of_allDone {db : Database} (linked : Linked db)
    (allDone : areAllStepsCompleted db processInstanceId = true) :
    IsOver db processInstanceId := by
  obtain ⟨⟨step, member⟩, completed⟩ := areAllStepsCompleted_iff.mp allDone
  obtain ⟨stepMember, ofProcess⟩ := mem_stepsOf.mp member
  obtain ⟨row, rowMember, key⟩ := linked.stepProcess step stepMember
  exact ⟨⟨row, rowMember, key.trans ofProcess⟩, fun step member => .inl (completed step member)⟩

theorem not_pending {db : Database} (past : IsOver db processInstanceId) {step : StepInstance}
    (member : step ∈ db.steps.rows) (pending : step.status = .pending) :
    step.processInstanceId ≠ processInstanceId := by
  intro ofProcess
  have ended := past.steps step (mem_stepsOf.mpr ⟨member, ofProcess⟩)
  simp [IsOverStep, pending] at ended

/-- Writing a step of another process leaves the steps of this one. -/
private theorem mem_stepsOf_setStep {db : Database} {old : StepInstance}
    (member : old ∈ db.steps.rows) (other : old.processInstanceId ≠ processInstanceId)
    {status : StepStatus} {set : StepInstance → StepInstance} (sets : SetsStatus status set)
    (step : StepInstance) :
    step ∈ (db.setStep old.stepInstanceId set sets.key).stepsOf processInstanceId ↔
      step ∈ db.stepsOf processInstanceId := by
  rw [mem_stepsOf, mem_stepsOf, mem_setStep sets.key]
  constructor
  · rintro ⟨⟨row, rowMember, same, rfl⟩ | ⟨untouched, _⟩, ofProcess⟩
    · have isOld : row = old := Table.eq_of_key_eq rowMember member same
      rw [sets.process, isOld] at ofProcess
      exact absurd ofProcess other
    · exact ⟨untouched, ofProcess⟩
  · rintro ⟨stepMember, ofProcess⟩
    refine ⟨.inr ⟨stepMember, fun same => ?_⟩, ofProcess⟩
    rw [Table.eq_of_key_eq stepMember member same] at ofProcess
    exact other ofProcess

/-- No edit changes what the check reads of a process that is over. -/
theorem sameCheck_edit {origin before after : World} {process target : Nat}
    (past : IsOver before.db processInstanceId)
    (edit : Edit deployment origin process target before after) :
    SameCheck deployment processInstanceId before.db after.db := by
  cases edit with
  | hosted host => exact .hostTables host.tables
  | evaluated => exact ⟨fun _ => Iff.rfl, Iff.rfl, fun _ _ => rfl⟩
  | provisioned _ _ member pending _ _ _ _ writes =>
      have only : OnlyObjects deployment before after := writes.onlyObjects member pending
      obtain ⟨_, _, _, _, _, _, _, rfl⟩ := writes
      exact ⟨fun _ => Iff.rfl, Iff.rfl, fun step _ => only.bindings step.stepInstanceId⟩
  | readied step set sets member _ pending _ host =>
      have written : SameCheck deployment processInstanceId before.db
          (before.db.setStep step.stepInstanceId set sets.key) :=
        ⟨mem_stepsOf_setStep member (past.not_pending member pending) sets, Iff.rfl,
          fun _ _ => rfl⟩
      exact written.trans (.hostTables host.tables)
  | blocked step set sets member _ pending =>
      exact ⟨mem_stepsOf_setStep member (past.not_pending member pending) sets, Iff.rfl,
        fun _ _ => rfl⟩
  | spawned caller set sets parent params row member _ pending _ _ resolved start =>
      obtain ⟨_, resolved⟩ := resolved
      have childOf := childOf_of_resolveChildStart resolved
      have other := past.not_pending member pending
      obtain ⟨known, knownMember, isKnown⟩ := past.known
      refine ⟨fun step => ?_, ?_, fun step stepMember => ?_⟩
      · rw [mem_stepsOf_setStep (start.step_kept member) other sets,
          start.stepsOf_other (isKnown ▸ start.key_ne knownMember)]
      · unfold NoActiveChild Database.setStep
        simp only [start.instances]
        have notChild : row.parentInstanceId ≠ some processInstanceId := by
          rw [start.fresh.parentInstance, childOf.parentInstance]
          exact fun same => other (Option.some.inj same)
        constructor
        · exact fun idle child childMember => idle child (List.mem_append_left _ childMember)
        · intro idle child childMember isChild
          rcases List.mem_append.mp childMember with old | new
          · exact idle child old isChild
          · rw [List.mem_singleton.mp new] at isChild
            exact absurd isChild notChild
      · exact start.bindings ⟨step, (mem_stepsOf.mp stepMember).1, rfl⟩

theorem edit {origin before after : World} {process target : Nat}
    (past : IsOver before.db processInstanceId)
    (edit : Edit deployment origin process target before after) :
    IsOver after.db processInstanceId := by
  have same := past.sameCheck_edit edit
  obtain ⟨known, member, isKnown⟩ := past.known
  obtain ⟨added, instances, _⟩ := edit.instances
  refine ⟨⟨known, ?_, isKnown⟩, fun step stepMember => past.steps step ((same.steps step).mp stepMember)⟩
  rw [instances]
  exact List.mem_append_left _ member

theorem sameCheck {origin before after : World} {process target : Nat}
    (past : IsOver before.db processInstanceId)
    (edits : Edits deployment origin process target before after) :
    SameCheck deployment processInstanceId before.db after.db ∧
      IsOver after.db processInstanceId := by
  induction edits with
  | refl => exact ⟨.refl _, past⟩
  | tail _ last ih =>
      obtain ⟨same, overThen⟩ := ih
      exact ⟨same.trans (overThen.sameCheck_edit last), overThen.edit last⟩

/-- A write that keeps the processes and the steps. -/
theorem same {before after : Database} (past : IsOver before processInstanceId)
    (instances : after.processInstances.rows = before.processInstances.rows)
    (steps : after.steps.rows = before.steps.rows) : IsOver after processInstanceId := by
  refine ⟨instances ▸ past.known, fun step member => past.steps step ?_⟩
  rw [mem_stepsOf, ← steps]
  exact mem_stepsOf.mp member

theorem hostTables {before after : Database} (past : IsOver before processInstanceId)
    (tables : HostTables before after) : IsOver after processInstanceId := by
  obtain ⟨_, _, _, _, rfl⟩ := tables
  exact past.same rfl rfl

theorem setStep {db : Database} (past : IsOver db processInstanceId) {stepInstanceId : Nat}
    {status : StepStatus} {set : StepInstance → StepInstance} (sets : SetsStatus status set)
    (ends : status = .completed ∨ status = .canceled) :
    IsOver (db.setStep stepInstanceId set sets.key) processInstanceId := by
  refine ⟨past.known, fun step member => ?_⟩
  obtain ⟨stepMember, ofProcess⟩ := mem_stepsOf.mp member
  rcases (mem_setStep sets.key).mp stepMember with ⟨old, _, _, rfl⟩ | ⟨untouched, _⟩
  · unfold IsOverStep
    rw [sets.status]
    exact ends
  · exact past.steps step (mem_stepsOf.mpr ⟨untouched, ofProcess⟩)

theorem setInstance {db : Database} (past : IsOver db processInstanceId) {key : Nat}
    {next : InstanceStatus → InstanceStatus} {set : ProcessInstance → ProcessInstance}
    (sets : SetsInstance next set) :
    IsOver (db.setInstance key set sets.key) processInstanceId := by
  obtain ⟨row, member, isRow⟩ := past.known
  refine ⟨?_, past.steps⟩
  by_cases isKey : row.processInstanceId = key
  · exact ⟨set row, (mem_setInstance sets.key).mpr (.inl ⟨row, member, isKey, rfl⟩),
      (sets.key row).trans isRow⟩
  · exact ⟨row, (mem_setInstance sets.key).mpr (.inr ⟨member, isKey⟩), isRow⟩

theorem started {before after : World} {params : StartProcessParams} {row : ProcessInstance}
    (past : IsOver before.db processInstanceId) (start : Started params row before after) :
    IsOver after.db processInstanceId := by
  obtain ⟨known, member, isKnown⟩ := past.known
  refine ⟨⟨known, start.instance_kept member, isKnown⟩, fun step stepMember => ?_⟩
  rw [start.stepsOf_other (isKnown ▸ start.key_ne member)] at stepMember
  exact past.steps step stepMember

theorem stepCompleted {step : StepInstance} {before after : World}
    (past : IsOver before.db processInstanceId) (completes : StepCompleted step before after) :
    IsOver after.db processInstanceId := by
  obtain ⟨_, sets, tables⟩ := completes.tables
  exact (past.setStep sets (.inl rfl)).hostTables tables

theorem settlement {process : Nat} {before after : World} {result : Option Nat}
    (past : IsOver before.db processInstanceId)
    (settlement : Settlement deployment process before result after) :
    IsOver after.db processInstanceId := by
  cases settlement with
  | idle => exact past
  | child => exact past.setInstance (setsInstance_completed before.now)
  | announced _ _ _ _ _ announced =>
      exact (past.setInstance (setsInstance_completed before.now)).hostTables announced.tables

theorem parentTold {before after : World} {child parent : ProcessInstance} {parentStepId : Nat}
    {terminalStatus : TerminalStatus} (past : IsOver before.db processInstanceId)
    (told : ParentTold before child parent parentStepId terminalStatus after) :
    IsOver after.db processInstanceId := by
  cases told with
  | paused context => exact past.setInstance (setsInstance_context context)
  | failed context =>
      exact ((past.setInstance (setsInstance_context context)).setInstance
        (setsInstance_canceled before.now)).setStep (setsStatus_canceledByChild before.now)
          (.inr rfl)
  | resumed context =>
      exact (past.setInstance (setsInstance_context context)).setStep
        (setsStatus_completedByChild before.now) (.inl rfl)

end IsOver

end CoreApi.Automation
