import CoreApi.Automation.InstalledTemplates
import CoreApi.Automation.LinkedState

/-!
# The order of the steps of a process

`enableNextSteps` unlocks a step after its predecessor, but `attemptAdvance`
unlocks any pending step it is called for. The steps of a process begin in order
in every run in which `attemptAdvance` is not called out of turn.
-/

namespace CoreApi.Automation

open CoreApi.Foundation StepOrchestrator ChildProcessOrchestration

variable {deployment : Deployment}

/-! ## Orders -/

/-- The orders are 1, …, n, each once. -/
def IsNumbered (orders : List Int) : Prop :=
  orders.Nodup ∧ ∀ order ∈ orders, 1 ≤ order ∧ order ≤ orders.length

instance (orders : List Int) : Decidable (IsNumbered orders) :=
  inferInstanceAs (Decidable (_ ∧ _))

/-- The orders of the steps of a template. -/
def templateOrders (db : Database) (processTemplateId : Nat) : List Int :=
  (ProcessInstantiation.templateStepsOf db processTemplateId).map TemplateStep.stepOrder

/-- The orders of the steps of a process. -/
def stepOrders (db : Database) (processInstanceId : Nat) : List Int :=
  (db.stepsOf processInstanceId).map StepInstance.stepOrder

/-- Every earlier step of the process is completed. -/
def EarlierCompleted (db : Database) (processInstanceId : Nat) (stepOrder : Int) : Prop :=
  ∀ earlier ∈ db.stepsOf processInstanceId, earlier.stepOrder < stepOrder →
    earlier.status = .completed

instance (db : Database) (processInstanceId : Nat) (stepOrder : Int) :
    Decidable (EarlierCompleted db processInstanceId stepOrder) :=
  inferInstanceAs (Decidable (∀ earlier ∈ db.stepsOf processInstanceId, _ → _))

/-- A step of the process that is ready, in progress, blocked or completed comes
after completed steps only. -/
def InOrder (db : Database) (processInstanceId : Nat) : Prop :=
  ∀ step ∈ db.stepsOf processInstanceId,
    step.status = .ready ∨ step.status = .inProgress ∨ step.status = .blocked ∨
      step.status = .completed → EarlierCompleted db processInstanceId step.stepOrder

instance (db : Database) (processInstanceId : Nat) : Decidable (InOrder db processInstanceId) :=
  inferInstanceAs (Decidable (∀ step ∈ db.stepsOf processInstanceId, _ → _))

/-- A step of the process that has left `pending` comes after completed steps only. -/
def Sequenced (db : Database) (processInstanceId : Nat) : Prop :=
  ∀ step ∈ db.stepsOf processInstanceId, step.status ≠ .pending →
    EarlierCompleted db processInstanceId step.stepOrder

theorem Sequenced.inOrder {db : Database} {processInstanceId : Nat}
    (sequenced : Sequenced db processInstanceId) : InOrder db processInstanceId := by
  intro step member begun
  refine sequenced step member fun pending => ?_
  rw [pending] at begun
  simp at begun

/-! ## Calls in turn -/

/-- The call unlocks no step of the process out of turn: `attemptAdvance` is not
called for an eligible pending step behind a step that is not completed; and no
child fails the process. -/
def InTurn (deployment : Deployment) (processInstanceId : Nat) (w : World) : Engine.Call → Prop
  | .attemptAdvance stepInstanceId _ =>
      ∀ step ∈ w.db.stepsOf processInstanceId, step.stepInstanceId = stepInstanceId →
        step.status = .pending → Eligible deployment w step →
          EarlierCompleted w.db processInstanceId step.stepOrder
  | .handleChildTerminal childProcessInstanceId terminalStatus _ =>
      ∀ child parent parentStepId,
        childLink w.db childProcessInstanceId = some (child, parent, parentStepId) →
          terminalOutcome terminalStatus parent.onChildFailure = .fail →
            parent.processInstanceId ≠ processInstanceId
  | _ => True

/-! ## Writes in turn -/

namespace Sequenced

variable {processInstanceId : Nat}

theorem of_steps {before after : Database} (sequenced : Sequenced before processInstanceId)
    (steps : after.steps.rows = before.steps.rows) : Sequenced after processInstanceId := by
  have same : after.stepsOf processInstanceId = before.stepsOf processInstanceId := by
    unfold Database.stepsOf Table.select
    rw [steps]
  unfold Sequenced EarlierCompleted
  rw [same]
  exact sequenced

/-- A step that leaves `pending` may do so behind completed steps only, and a
completed step stays completed. -/
theorem setStep {db : Database} (sequenced : Sequenced db processInstanceId)
    {stepInstanceId : Nat} {status : StepStatus} {set : StepInstance → StepInstance}
    (sets : SetsStatus status set)
    (inTurn : ∀ step ∈ db.stepsOf processInstanceId, step.stepInstanceId = stepInstanceId →
      step.status = .pending → EarlierCompleted db processInstanceId step.stepOrder)
    (stays : ∀ step ∈ db.stepsOf processInstanceId, step.stepInstanceId = stepInstanceId →
      step.status = .completed → status = .completed) :
    Sequenced (db.setStep stepInstanceId set sets.key) processInstanceId := by
  -- Every row of the process is a row it had, under its order.
  have origin : ∀ row ∈ (db.setStep stepInstanceId set sets.key).stepsOf processInstanceId,
      ∃ old ∈ db.stepsOf processInstanceId, old.stepOrder = row.stepOrder ∧
        (old = row ∨ old.stepInstanceId = stepInstanceId ∧ row.status = status) := by
    intro row member
    obtain ⟨rowMember, ofProcess⟩ := mem_stepsOf.mp member
    rcases (mem_setStep sets.key).mp rowMember with ⟨old, oldMember, same, rfl⟩ | ⟨untouched, _⟩
    · exact ⟨old, mem_stepsOf.mpr ⟨oldMember, (sets.process old).symm.trans ofProcess⟩,
        (sets.order old).symm, .inr ⟨same, sets.status old⟩⟩
    · exact ⟨row, mem_stepsOf.mpr ⟨untouched, ofProcess⟩, rfl, .inl rfl⟩
  intro step member begun earlier earlierMember before
  obtain ⟨old, oldMember, order, outcome⟩ := origin step member
  obtain ⟨old', oldMember', order', outcome'⟩ := origin earlier earlierMember
  have done : old'.status = .completed := by
    have behind : EarlierCompleted db processInstanceId old.stepOrder := by
      rcases outcome with rfl | ⟨isStep, _⟩
      · exact sequenced old oldMember begun
      · by_cases pending : old.status = .pending
        · exact inTurn old oldMember isStep pending
        · exact sequenced old oldMember pending
    exact behind old' oldMember' (by rw [order, order']; exact before)
  rcases outcome' with rfl | ⟨isStep, written⟩
  · exact done
  · rw [written]
    exact stays old' oldMember' isStep done

/-- A new process has one ready step at most, the first one. -/
theorem started {params : StartProcessParams} {row : ProcessInstance} {before after : World}
    (sequenced : Sequenced before.db processInstanceId)
    (linked : Linked before.db) (start : Started params row before after)
    (numbered : IsNumbered (stepOrders after.db processInstanceId)) :
    Sequenced after.db processInstanceId := by
  by_cases isNew : processInstanceId = row.processInstanceId
  · intro step member begun earlier earlierMember behind
    have positive := (numbered.2 earlier.stepOrder (List.mem_map_of_mem earlierMember)).1
    rw [isNew, start.stepsOf_new linked.stepProcess] at member
    rcases ProcessInstantiation.addedSteps_status member with ⟨_, first⟩ | ⟨pending, _⟩
    · omega
    · exact absurd pending begun
  · have same := start.stepsOf_other isNew
    unfold Sequenced EarlierCompleted
    rw [same]
    exact sequenced

/-- Behind the predecessor of a step all earlier steps are completed. -/
theorem earlier_of_succeeds {db : Database} {target : Nat} (sequenced : Sequenced db processInstanceId)
    (distinct : (stepOrders db processInstanceId).Nodup) {step : StepInstance}
    (ofProcess : step.processInstanceId = processInstanceId) (succeeds : Succeeds db target step) :
    EarlierCompleted db processInstanceId step.stepOrder := by
  obtain ⟨pred, predMember, _, same, completed, order⟩ := succeeds
  have predOf : pred ∈ db.stepsOf processInstanceId :=
    mem_stepsOf.mpr ⟨predMember, same.trans ofProcess⟩
  intro earlier member before
  by_cases last : earlier.stepOrder = pred.stepOrder
  · rw [List.inj_on_of_nodup_map distinct member predOf last]
    exact completed
  · exact sequenced pred predOf (by simp [completed]) earlier member (by omega)

end Sequenced

/-! ## Calls -/

/-- A numbered process is sequenced. -/
def SequencedIfNumbered (db : Database) (processInstanceId : Nat) : Prop :=
  IsNumbered (stepOrders db processInstanceId) → Sequenced db processInstanceId

namespace SequencedIfNumbered

variable {processInstanceId : Nat}

theorem of_steps {before after : Database}
    (sequenced : SequencedIfNumbered before processInstanceId)
    (steps : after.steps.rows = before.steps.rows) :
    SequencedIfNumbered after processInstanceId := by
  intro numbered
  refine (sequenced ?_).of_steps steps
  unfold stepOrders Database.stepsOf Table.select at numbered ⊢
  rwa [steps] at numbered

theorem hostTables {before after : Database}
    (sequenced : SequencedIfNumbered before processInstanceId)
    (tables : HostTables before after) : SequencedIfNumbered after processInstanceId := by
  obtain ⟨_, _, _, _, rfl⟩ := tables
  exact sequenced.of_steps rfl

theorem setStep {db : Database} (sequenced : SequencedIfNumbered db processInstanceId)
    {stepInstanceId : Nat} {status : StepStatus} {set : StepInstance → StepInstance}
    (sets : SetsStatus status set)
    (inTurn : IsNumbered (stepOrders db processInstanceId) → Sequenced db processInstanceId →
      ∀ step ∈ db.stepsOf processInstanceId, step.stepInstanceId = stepInstanceId →
        step.status = .pending → EarlierCompleted db processInstanceId step.stepOrder)
    (stays : ∀ step ∈ db.stepsOf processInstanceId, step.stepInstanceId = stepInstanceId →
      step.status = .completed → status = .completed) :
    SequencedIfNumbered (db.setStep stepInstanceId set sets.key) processInstanceId := by
  intro numbered
  unfold stepOrders at numbered
  rw [Linked.map_stepsOf_setStep sets sets.order] at numbered
  exact (sequenced numbered).setStep sets (inTurn numbered (sequenced numbered)) stays

theorem started {params : StartProcessParams} {row : ProcessInstance} {before after : World}
    (sequenced : SequencedIfNumbered before.db processInstanceId)
    (linked : Linked before.db) (start : Started params row before after) :
    SequencedIfNumbered after.db processInstanceId := by
  intro numbered
  by_cases isNew : processInstanceId = row.processInstanceId
  · have none : Sequenced before.db processInstanceId := by
      intro step member
      obtain ⟨stepMember, ofProcess⟩ := mem_stepsOf.mp member
      obtain ⟨other, otherMember, same⟩ := linked.stepProcess step stepMember
      exact absurd (same.trans (ofProcess.trans isNew)) (start.key_ne otherMember)
    exact none.started linked start numbered
  · refine (sequenced ?_).started linked start numbered
    unfold stepOrders at numbered ⊢
    rwa [start.stepsOf_other isNew] at numbered

/-- The calls whose edits may unlock `target` of the process directly do so in turn. -/
def TargetInTurn (deployment : Deployment) (processInstanceId : Nat) (origin : World)
    (target : Nat) : Prop :=
  ∀ step ∈ origin.db.stepsOf processInstanceId, step.stepInstanceId = target →
    step.status = .pending → Eligible deployment origin step →
      EarlierCompleted origin.db processInstanceId step.stepOrder

private theorem unlocked_inTurn {origin before : World} {target : Nat} {step : StepInstance}
    (inTurn : TargetInTurn deployment processInstanceId origin target)
    (member : step ∈ before.db.stepsOf processInstanceId) (pending : step.status = .pending)
    (may : MayUnlock deployment origin target before step)
    (numbered : IsNumbered (stepOrders before.db processInstanceId))
    (sequenced : Sequenced before.db processInstanceId) :
    EarlierCompleted before.db processInstanceId step.stepOrder := by
  rcases may.reason with ⟨key, only⟩ | succeeds
  · have steps : origin.db.stepsOf processInstanceId = before.db.stepsOf processInstanceId := by
      unfold Database.stepsOf
      rw [only.steps]
    have behind := inTurn step (steps ▸ member) key pending
      ((only.sameInputs deployment step).eligible.mp may.eligible)
    unfold EarlierCompleted at behind ⊢
    rwa [steps] at behind
  · exact sequenced.earlier_of_succeeds numbered.1 (mem_stepsOf.mp member).2 succeeds

theorem edit {origin before after : World} {process target : Nat}
    (sequenced : SequencedIfNumbered before.db processInstanceId) (linked : Linked before.db)
    (inTurn : TargetInTurn deployment processInstanceId origin target)
    (edit : Edit deployment origin process target before after) :
    SequencedIfNumbered after.db processInstanceId := by
  cases edit with
  | hosted host => exact sequenced.hostTables host.tables
  | evaluated => exact sequenced.of_steps rfl
  | provisioned _ _ _ _ _ _ _ _ writes =>
      obtain ⟨_, _, _, _, _, _, _, rfl⟩ := writes
      exact sequenced.of_steps rfl
  | readied step set sets member _ pending may host =>
      refine hostTables ?_ host.tables
      have isStep : ∀ row ∈ before.db.stepsOf processInstanceId,
          row.stepInstanceId = step.stepInstanceId → row = step :=
        fun row rowOf same => Table.eq_of_key_eq (mem_stepsOf.mp rowOf).1 member same
      refine sequenced.setStep sets (fun numbered sequenced row rowOf same _ => ?_) ?_
      · cases isStep row rowOf same
        exact unlocked_inTurn inTurn rowOf pending may numbered sequenced
      · intro row rowOf same completed
        rw [isStep row rowOf same, pending] at completed
        cases completed
  | blocked step _ _ member _ pending _ child =>
      exact absurd (linked.findChild_of_unsettled member (by simp [pending, IsSettled])) child
  | @spawned started step set sets _ params new member _ pending _ _ _ start may =>
      -- The process of the step is not the one that was just started.
      have isStep : ∀ row ∈ started.db.stepsOf processInstanceId,
          row.stepInstanceId = step.stepInstanceId →
            row = step ∧ processInstanceId ≠ new.processInstanceId := by
        intro row rowOf same
        obtain ⟨rowMember, ofProcess⟩ := mem_stepsOf.mp rowOf
        have isRow : row = step :=
          Table.eq_of_key_eq rowMember (start.step_kept member) same
        obtain ⟨parent, parentMember, isParent⟩ := linked.stepProcess step member
        rw [← ofProcess, isRow, ← isParent]
        exact ⟨rfl, start.key_ne parentMember⟩
      refine (sequenced.started linked start).setStep sets
        (fun numbered _ row rowOf same _ => ?_) ?_
      · obtain ⟨rfl, isOld⟩ := isStep row rowOf same
        have steps := start.stepsOf_other isOld
        unfold stepOrders at numbered
        rw [steps] at numbered rowOf
        unfold EarlierCompleted
        rw [steps]
        exact unlocked_inTurn inTurn rowOf pending may numbered (sequenced numbered)
      · intro row rowOf same completed
        rw [(isStep row rowOf same).1, pending] at completed
        cases completed

theorem edits {origin before after : World} {process target : Nat}
    (sequenced : SequencedIfNumbered before.db processInstanceId) (linked : Linked before.db)
    (inTurn : TargetInTurn deployment processInstanceId origin target)
    (edits : Edits deployment origin process target before after) :
    SequencedIfNumbered after.db processInstanceId := by
  have both : SequencedIfNumbered after.db processInstanceId ∧ Linked after.db := by
    induction edits with
    | refl => exact ⟨sequenced, linked⟩
    | tail _ last ih =>
        exact ⟨ih.1.edit ih.2 inTurn last,
          ih.2.edit last⟩
  exact both.1

theorem stepCompleted {step : StepInstance} {before after : World}
    (sequenced : SequencedIfNumbered before.db processInstanceId)
    (member : step ∈ before.db.steps.rows) (begun : step.status ≠ .pending)
    (completes : StepCompleted step before after) :
    SequencedIfNumbered after.db processInstanceId := by
  obtain ⟨_, sets, tables⟩ := completes.tables
  refine (sequenced.setStep sets (fun _ _ row rowOf same pending => ?_)
    fun _ _ _ _ => rfl).hostTables tables
  rw [Table.eq_of_key_eq (mem_stepsOf.mp rowOf).1 member same] at pending
  exact absurd pending begun

theorem settlement {process : Nat} {before after : World} {result : Option Nat}
    (sequenced : SequencedIfNumbered before.db processInstanceId)
    (settlement : Settlement deployment process before result after) :
    SequencedIfNumbered after.db processInstanceId := by
  cases settlement with
  | idle => exact sequenced
  | child => exact sequenced.of_steps rfl
  | announced proc _ _ _ _ announced =>
      have written : SequencedIfNumbered (before.db.setInstance proc.processInstanceId
          (completedInstance before.now) (completedInstance_key before.now)) processInstanceId :=
        sequenced.of_steps rfl
      exact written.hostTables announced.tables

theorem settles {origin before after : World} {process target : Nat} {result : Option Nat}
    (sequenced : SequencedIfNumbered before.db processInstanceId) (linked : Linked before.db)
    (inTurn : TargetInTurn deployment processInstanceId origin target)
    (settles : Settles deployment origin process target before result after) :
    SequencedIfNumbered after.db processInstanceId := by
  obtain ⟨_, edits, settlement, _⟩ := settles
  exact (sequenced.edits linked inTurn edits).settlement settlement

/-- A call for a step that is not pending unlocks nothing directly. -/
theorem targetInTurn_of_begun {origin : World} {step : StepInstance} {target : Nat}
    (found : origin.db.step? target = some step) (begun : step.status ≠ .pending) :
    TargetInTurn deployment processInstanceId origin target := by
  intro row rowOf isTarget pending
  have same : row = step := Table.eq_of_key_eq (mem_stepsOf.mp rowOf).1
    (Table.mem_of_find? found) (isTarget.trans (Table.key_of_find? found).symm)
  exact absurd (same ▸ pending) begun

/-- A child that does not fail its parent completes a step that has begun. -/
theorem parentTold {before after : World} {child parent : ProcessInstance} {parentStepId : Nat}
    {terminalStatus : TerminalStatus} {childProcessInstanceId : Nat}
    (sequenced : SequencedIfNumbered before.db processInstanceId) (linked : Linked before.db)
    (link : childLink before.db childProcessInstanceId = some (child, parent, parentStepId))
    (inTurn : terminalOutcome terminalStatus parent.onChildFailure = .fail →
      parent.processInstanceId ≠ processInstanceId)
    (told : ParentTold before child parent parentStepId terminalStatus after) :
    SequencedIfNumbered after.db processInstanceId := by
  obtain ⟨step, stepOf, key, settled⟩ := linked.callerOf link
  obtain ⟨member, ofParent⟩ := mem_stepsOf.mp stepOf
  have isStep : ∀ row ∈ before.db.stepsOf processInstanceId,
      row.stepInstanceId = parentStepId → row = step := fun row rowOf same =>
    Table.eq_of_key_eq (mem_stepsOf.mp rowOf).1 member (same.trans key.symm)
  have begun : ∀ row ∈ before.db.stepsOf processInstanceId,
      row.stepInstanceId = parentStepId → row.status ≠ .pending := by
    intro row rowOf same pending
    rw [isStep row rowOf same] at pending
    rw [pending] at settled
    simp [IsSettled] at settled
  cases told with
  | paused => exact sequenced.of_steps rfl
  | failed _ _ outcome =>
      refine (sequenced.of_steps rfl).setStep (setsStatus_canceledByChild before.now)
        (fun _ _ row rowOf same pending => absurd pending (begun row rowOf same))
        fun row rowOf same _ => ?_
      have ofProcess := (mem_stepsOf.mp rowOf).2
      rw [isStep row rowOf same] at ofProcess
      exact absurd (ofParent.symm.trans ofProcess) (inTurn outcome)
  | resumed =>
      exact (sequenced.of_steps rfl).setStep (setsStatus_completedByChild before.now)
        (fun _ _ row rowOf same pending => absurd pending (begun row rowOf same))
        fun _ _ _ _ => rfl

theorem effect {before after : World} {call : Engine.Call}
    (sequenced : SequencedIfNumbered before.db processInstanceId) (linked : Linked before.db)
    (inTurn : InTurn deployment processInstanceId before call)
    (effect : Engine.Effect deployment before call after) :
    SequencedIfNumbered after.db processInstanceId := by
  cases effect with
  | unchanged => exact sequenced
  | raised _ _ rolledBack =>
      rw [rolledBack]
      exact sequenced.of_steps rfl
  | started _ _ start => exact sequenced.started linked start
  | advanced _ _ _ outcome =>
      cases outcome with
      | refused => exact sequenced
      | waiting _ _ _ _ _ steps => exact sequenced.of_steps (by rw [steps])
      | unlocked _ _ _ _ edits => exact sequenced.edits linked inTurn edits
      | ran _ _ _ _ _ edits member _ _ ready completes settles =>
          have linked' := linked.edits edits
          exact ((sequenced.edits linked inTurn edits).stepCompleted member (by simp [ready])
            completes).settles (linked'.stepCompleted completes) inTurn settles
  | marked _ _ _ outcome =>
      cases outcome with
      | refused => exact sequenced
      | marked step found completable completes settles =>
          have begun : step.status ≠ .pending := by
            intro pending
            simp [isCompletable, pending] at completable
          exact (sequenced.stepCompleted (Table.mem_of_find? found) begun completes).settles
            (linked.stepCompleted completes) (targetInTurn_of_begun found begun) settles
  | resumed _ _ _ outcome =>
      cases outcome with
      | refused => exact sequenced
      | resumed step found completed settles =>
          exact sequenced.settles linked
            (targetInTurn_of_begun found (by simp [completed])) settles
  | childTerminal _ _ _ child parent parentStepId _ link told =>
      exact sequenced.parentTold linked link (inTurn child parent parentStepId link) told
  | eligible => exact sequenced.of_steps rfl
  | validated _ _ _ validated =>
      obtain ⟨_, _, _, _, _, _, _, rfl⟩ := validated
      exact sequenced.of_steps rfl
  | evidence _ only =>
      obtain ⟨_, _, _, _, _, rfl⟩ := only
      exact sequenced.of_steps rfl
  | triggersMarked event =>
      obtain ⟨_, shape⟩ := before.db.markTriggers_shape before.now
        (EventBridge.metTriggers deployment event none before)
      rw [EventBridge.marked, shape]
      exact sequenced.of_steps rfl

end SequencedIfNumbered

namespace Engine

/-- The steps of a process under a numbered template begin in order in every run
whose calls are in turn for it. -/
theorem steps_inOrder {start : State} (fresh : Fresh start) {actions : List Action}
    (processInstanceId : Nat)
    (inTurn : (system deployment).Guarded (Meets (InTurn deployment processInstanceId)) start
      actions)
    {row : ProcessInstance}
    (found : ((system deployment).run start actions).world.db.instance? processInstanceId =
      some row)
    (numbered : IsNumbered (templateOrders ((system deployment).run start actions).world.db
      row.processTemplateId)) :
    InOrder ((system deployment).run start actions).world.db processInstanceId := by
  have initial : Linked start.world.db ∧
      SequencedIfNumbered start.world.db processInstanceId :=
    ⟨fresh.linked, fun _ step member => by
      simp [Database.stepsOf, Table.select, fresh.steps] at member⟩
  have holds : Linked ((system deployment).run start actions).world.db ∧
      SequencedIfNumbered ((system deployment).run start actions).world.db processInstanceId :=
    @run_database deployment
      (fun db => Linked db ∧ SequencedIfNumbered db processInstanceId) _
      (fun _ _ _ effect inTurn inv => ⟨effect.linked inv.1, inv.2.effect inv.1 inTurn effect⟩)
      _ initial _ inTurn
  refine (holds.2 ?_).inOrder
  have key : row.processInstanceId = processInstanceId := Table.key_of_find? found
  have orders := holds.1.orders row (Table.mem_of_find? found)
  rw [key] at orders
  unfold stepOrders
  rw [orders]
  exact numbered

/-- Three steps, the last with a requirement. -/
def lastRequired : Templates where
  steps := [.row 1 .manual 1 none, .row 1 .manual 2 none, .row 1 .manual 3 none]
  requirements := [.row 3]
  triggers := []
  bindings := []
  configObjects := []

/-- A process in turn: its first step is completed and its second one advanced. -/
def inTurnRun : List Action :=
  [.invoke (.startProcess (.workflow 1 1 .pauseParent)), .invoke (.markCompleted 1 .none),
    .invoke (.attemptAdvance 2 .none)]

theorem steps_inOrder_inTurnRun :
    InOrder ((system .allEnabled).run (installed lastRequired) inTurnRun).world.db 1 := by
  have guarded : (system .allEnabled).Guarded (Meets (InTurn .allEnabled 1))
      (installed lastRequired) inTurnRun := by
    refine ⟨?_, ?_, ?_, trivial⟩ <;> rintro _ ⟨⟩
    · exact trivial
    · exact trivial
    · intro step member isTarget pending
      have begun : ∀ step ∈ ((system .allEnabled).run (installed lastRequired)
          (inTurnRun.take 2)).world.db.stepsOf 1,
          step.stepInstanceId = 2 → step.status ≠ .pending := by decide
      exact absurd pending (begun step member isTarget)
  obtain ⟨row, found, template⟩ : ∃ row,
      ((system .allEnabled).run (installed lastRequired) inTurnRun).world.db.instance? 1 =
        some row ∧ row.processTemplateId = 1 := ⟨_, rfl, rfl⟩
  exact steps_inOrder (fresh_installed lastRequired) 1 guarded found
    (by rw [template]; decide)

/-- A submission for the last requirement of a started process, and what it does next. -/
def outOfTurnRun : List Action :=
  [.invoke (.startProcess (.workflow 1 1 .pauseParent)), .invoke (.createSubmission 1 1 .null),
    .resume 1]

/-- The submission makes the third step ready while the first one is open. -/
theorem submission_unlocks_outOfOrder :
    IsNumbered (templateOrders
      ((system .allEnabled).run (installed lastRequired) outOfTurnRun).world.db 1) ∧
    ¬ InOrder ((system .allEnabled).run (installed lastRequired) outOfTurnRun).world.db 1 := by
  constructor <;> decide

end Engine

end CoreApi.Automation
