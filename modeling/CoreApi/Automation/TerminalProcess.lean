import CoreApi.Automation.InstalledTemplates
import CoreApi.Automation.LinkedState

/-!
# Processes that reached a terminal status

No operation asks whether the process it works on is still active. A completed
or canceled process keeps its status, and its steps keep theirs, in every run
whose calls would not touch it anyway.
-/

namespace CoreApi.Automation

open CoreApi.Foundation StepOrchestrator ChildProcessOrchestration

variable {deployment : Deployment} {processInstanceId : Nat}

/-! ## Frozen processes -/

/-- The process, if it is terminal, keeps its status, and its steps keep theirs. -/
structure Kept (processInstanceId : Nat) (before after : Database) : Prop where
  status : ∀ row ∈ before.processInstances.rows, row.processInstanceId = processInstanceId →
    IsTerminal row.status → ∃ row' ∈ after.processInstances.rows,
      row'.processInstanceId = processInstanceId ∧ row'.status = row.status
  steps : ∀ step ∈ before.stepsOf processInstanceId, ∃ step' ∈ after.stepsOf processInstanceId,
    step'.stepInstanceId = step.stepInstanceId ∧ step'.status = step.status

/-- The process is completed or canceled. -/
def HasEnded (db : Database) (processInstanceId : Nat) : Prop :=
  ∃ row ∈ db.processInstances.rows, row.processInstanceId = processInstanceId ∧
    IsTerminal row.status

instance (db : Database) (processInstanceId : Nat) :
    Decidable (HasEnded db processInstanceId) :=
  inferInstanceAs (Decidable (∃ row ∈ db.processInstances.rows, _ ∧ _))

instance (before after : Database) : Decidable (Kept processInstanceId before after) :=
  decidable_of_iff
    ((∀ row ∈ before.processInstances.rows, row.processInstanceId = processInstanceId →
      IsTerminal row.status → ∃ row' ∈ after.processInstances.rows,
        row'.processInstanceId = processInstanceId ∧ row'.status = row.status) ∧
    ∀ step ∈ before.stepsOf processInstanceId, ∃ step' ∈ after.stepsOf processInstanceId,
      step'.stepInstanceId = step.stepInstanceId ∧ step'.status = step.status)
    ⟨fun ⟨status, steps⟩ => ⟨status, steps⟩, fun kept => ⟨kept.status, kept.steps⟩⟩

namespace Kept

theorem refl (db : Database) : Kept processInstanceId db db :=
  ⟨fun row member same _ => ⟨row, member, same, rfl⟩,
    fun step member => ⟨step, member, rfl, rfl⟩⟩

theorem trans {a b c : Database} (first : Kept processInstanceId a b)
    (second : Kept processInstanceId b c) : Kept processInstanceId a c := by
  constructor
  · intro row member same terminal
    obtain ⟨row', member', same', status⟩ := first.status row member same terminal
    obtain ⟨row'', member'', same'', status'⟩ :=
      second.status row' member' same' (status ▸ terminal)
    exact ⟨row'', member'', same'', status'.trans status⟩
  · intro step member
    obtain ⟨step', member', same, status⟩ := first.steps step member
    obtain ⟨step'', member'', same', status'⟩ := second.steps step' member'
    exact ⟨step'', member'', same'.trans same, status'.trans status⟩

theorem ended {before after : Database} (kept : Kept processInstanceId before after)
    (ended : HasEnded before processInstanceId) : HasEnded after processInstanceId := by
  obtain ⟨row, member, same, terminal⟩ := ended
  obtain ⟨row', member', same', status⟩ := kept.status row member same terminal
  exact ⟨row', member', same', status ▸ terminal⟩

/-- Writes to other tables. -/
theorem same {before after : Database}
    (instances : after.processInstances.rows = before.processInstances.rows)
    (steps : after.steps.rows = before.steps.rows) : Kept processInstanceId before after := by
  constructor
  · intro row member ofKey _
    exact ⟨row, instances ▸ member, ofKey, rfl⟩
  · intro step member
    exact ⟨step, mem_stepsOf.mpr ⟨steps ▸ (mem_stepsOf.mp member).1, (mem_stepsOf.mp member).2⟩,
      rfl, rfl⟩

theorem hostTables {before after : Database} (tables : HostTables before after) :
    Kept processInstanceId before after := by
  obtain ⟨_, _, _, _, rfl⟩ := tables
  exact .same rfl rfl

/-- A step of the process may be written the status it has. -/
theorem setStep {db : Database} {stepInstanceId : Nat} {status : StepStatus}
    {set : StepInstance → StepInstance} (sets : SetsStatus status set)
    (already : ∀ step ∈ db.stepsOf processInstanceId, step.stepInstanceId = stepInstanceId →
      step.status = status) :
    Kept processInstanceId db (db.setStep stepInstanceId set sets.key) := by
  refine ⟨fun row member same _ => ⟨row, member, same, rfl⟩, fun step member => ?_⟩
  obtain ⟨stepMember, ofProcess⟩ := mem_stepsOf.mp member
  by_cases isStep : step.stepInstanceId = stepInstanceId
  · refine ⟨set step, mem_stepsOf.mpr ⟨(mem_setStep sets.key).mpr
      (.inl ⟨step, stepMember, isStep, rfl⟩), (sets.process step).trans ofProcess⟩,
      sets.key step, ?_⟩
    rw [sets.status, already step member isStep]
  · exact ⟨step, mem_stepsOf.mpr ⟨(mem_setStep sets.key).mpr (.inr ⟨stepMember, isStep⟩),
      ofProcess⟩, rfl, rfl⟩

/-- The process may be written the status it has. -/
theorem setInstance {db : Database} {key : Nat} {next : InstanceStatus → InstanceStatus}
    {set : ProcessInstance → ProcessInstance} (sets : SetsInstance next set)
    (already : key = processInstanceId → ∀ row ∈ db.processInstances.rows,
      row.processInstanceId = processInstanceId → IsTerminal row.status →
        next row.status = row.status) :
    Kept processInstanceId db (db.setInstance key set sets.key) := by
  refine ⟨fun row member same terminal => ?_, fun step member => ⟨step, member, rfl, rfl⟩⟩
  by_cases isKey : row.processInstanceId = key
  · refine ⟨set row, (mem_setInstance sets.key).mpr (.inl ⟨row, member, isKey, rfl⟩),
      (sets.key row).trans same, ?_⟩
    rw [sets.status, already (isKey.symm.trans same) row member same terminal]
  · exact ⟨row, (mem_setInstance sets.key).mpr (.inr ⟨member, isKey⟩), same, rfl⟩

theorem completed (db : Database) (key : Nat) (time : String) :
    Kept processInstanceId db
      (db.setInstance key (completedInstance time) (completedInstance_key time)) :=
  .setInstance (setsInstance_completed time) fun _ _ _ _ terminal =>
    completeActive_of_terminal terminal

theorem started {params : StartProcessParams} {row : ProcessInstance} {before after : World}
    (start : Started params row before after) : Kept processInstanceId before.db after.db :=
  ⟨fun row member same _ => ⟨row, start.instance_kept member, same, rfl⟩,
    fun step member => ⟨step, mem_stepsOf.mpr ⟨start.step_kept (mem_stepsOf.mp member).1,
      (mem_stepsOf.mp member).2⟩, rfl, rfl⟩⟩

theorem edits {origin before after : World} {process target : Nat}
    (edits : Edits deployment origin process target before after)
    (unmoved : ∀ old ∈ before.db.stepsOf processInstanceId, ∀ row,
      ¬ Moved deployment process target before old row) :
    Kept processInstanceId before.db after.db := by
  constructor
  · intro row member same _
    exact ⟨row, edits.instance_kept member, same, rfl⟩
  · intro step member
    obtain ⟨stepMember, ofProcess⟩ := mem_stepsOf.mp member
    rcases edits.image stepMember with kept | ⟨row, _, moved⟩
    · exact ⟨step, mem_stepsOf.mpr ⟨kept, ofProcess⟩, rfl, rfl⟩
    · exact absurd moved (unmoved step member row)

end Kept

/-! ## Calls that spare the process -/

/-- The call leaves the steps and the status of the process: it advances no
eligible step of it that is pending, or ready and automated; completes no step of
it; resumes it behind no eligible step; and reports no child that would write a
status that is not there already. -/
def Spares (deployment : Deployment) (processInstanceId : Nat) (w : World) :
    Engine.Call → Prop
  | .attemptAdvance stepInstanceId _ =>
      ∀ step ∈ w.db.stepsOf processInstanceId, step.stepInstanceId = stepInstanceId →
        step.status = .pending ∨ step.status = .ready ∧ step.taskType = .automated →
          ¬ Eligible deployment w step
  | .markCompleted stepInstanceId _ =>
      ∀ step ∈ w.db.stepsOf processInstanceId, step.stepInstanceId = stepInstanceId →
        isCompletable deployment w.db step = false
  | .resumeParent stepInstanceId _ =>
      ∀ step ∈ w.db.stepsOf processInstanceId, step.stepInstanceId = stepInstanceId →
        step.status = .completed →
          ∀ next ∈ nextSteps w.db processInstanceId step.stepOrder, ¬ Eligible deployment w next
  | .handleChildTerminal childProcessInstanceId terminalStatus _ =>
      ∀ child parent parentStepId,
        childLink w.db childProcessInstanceId = some (child, parent, parentStepId) →
          parent.processInstanceId = processInstanceId →
            match terminalOutcome terminalStatus parent.onChildFailure with
            | .pause => True
            | .fail => parent.status = .canceled ∧
                ∀ step ∈ w.db.stepsOf processInstanceId, step.stepInstanceId = parentStepId →
                  step.status = .canceled
            | .resume =>
                ∀ step ∈ w.db.stepsOf processInstanceId, step.stepInstanceId = parentStepId →
                  step.status = .completed
  | _ => True

/-- The call spares the process once it is terminal. -/
def SparesEnded (deployment : Deployment) (processInstanceId : Nat) (w : World)
    (call : Engine.Call) : Prop :=
  HasEnded w.db processInstanceId → Spares deployment processInstanceId w call

namespace Kept

/-- Settling a process moves no step behind one that has no eligible successor. -/
theorem settles {origin before after : World} {process target : Nat} {result : Option Nat}
    (settles : Settles deployment origin process target before result after)
    (unmoved : ∀ old ∈ before.db.stepsOf processInstanceId, ∀ row,
      ¬ Moved deployment process target before old row) :
    Kept processInstanceId before.db after.db := by
  obtain ⟨middle, edits, settlement, _⟩ := settles
  refine (Kept.edits edits unmoved).trans ?_
  cases settlement with
  | idle => exact .refl _
  | child => exact .completed _ _ _
  | announced _ _ _ _ _ announced =>
      exact (Kept.completed _ _ _).trans (.hostTables announced.tables)

theorem stepCompleted {step : StepInstance} {before after : World}
    (completes : StepCompleted step before after)
    (other : step.processInstanceId ≠ processInstanceId) (member : step ∈ before.db.steps.rows) :
    Kept processInstanceId before.db after.db := by
  obtain ⟨_, sets, tables⟩ := completes.tables
  refine (Kept.setStep sets fun row rowOf same => ?_).trans (.hostTables tables)
  have isStep : row = step := Table.eq_of_key_eq (mem_stepsOf.mp rowOf).1 member same
  exact absurd (isStep ▸ (mem_stepsOf.mp rowOf).2) other

/-- Edits of another process. -/
theorem unmoved_other {before : World} {process target : Nat}
    (other : process ≠ processInstanceId) : ∀ old ∈ before.db.stepsOf processInstanceId, ∀ row,
      ¬ Moved deployment process target before old row := by
  intro old member row moved
  exact other (moved.ofProcess.symm.trans (mem_stepsOf.mp member).2)

/-- A child that writes nothing to the process. -/
theorem parentTold {before after : World} {child parent : ProcessInstance} {parentStepId : Nat}
    {terminalStatus : TerminalStatus} {childProcessInstanceId : Nat} {opts : AdvanceOptions}
    (linked : Linked before.db)
    (link : childLink before.db childProcessInstanceId = some (child, parent, parentStepId))
    (spares : Spares deployment processInstanceId before
      (.handleChildTerminal childProcessInstanceId terminalStatus opts))
    (told : ParentTold before child parent parentStepId terminalStatus after) :
    Kept processInstanceId before.db after.db := by
  obtain ⟨_, _, _, isParent⟩ := childLink_eq_some link
  obtain ⟨step, stepOf, key, _⟩ := linked.callerOf link
  obtain ⟨member, ofParent⟩ := mem_stepsOf.mp stepOf
  -- The step of the child is a step of the parent.
  have parentOf : ∀ row ∈ before.db.stepsOf processInstanceId,
      row.stepInstanceId = parentStepId → parent.processInstanceId = processInstanceId := by
    intro row rowOf same
    have isStep : row = step :=
      Table.eq_of_key_eq (mem_stepsOf.mp rowOf).1 member (same.trans key.symm)
    rw [← ofParent, ← isStep]
    exact (mem_stepsOf.mp rowOf).2
  have told' : ∀ context, Kept processInstanceId before.db
      (before.db.setInstance parent.processInstanceId
        (fun row => { row with context := context }) (fun _ => rfl)) := fun context =>
    .setInstance (setsInstance_context context) fun _ _ _ _ _ => rfl
  have sparesParent := spares child parent parentStepId link
  cases told with
  | paused context => exact told' context
  | failed context _ outcome =>
      rw [outcome] at sparesParent
      refine ((told' context).trans (.setInstance (setsInstance_canceled before.now) ?_)).trans
        (.setStep (setsStatus_canceledByChild before.now) ?_)
      · intro isProcess row rowMember same _
        rcases (mem_setInstance (setsInstance_context context).key).mp rowMember with
          ⟨old, oldMember, oldKey, rfl⟩ | ⟨_, different⟩
        · have isRow : old = parent := Table.eq_of_key_eq oldMember (Table.mem_of_find? isParent)
            oldKey
          rw [isRow]
          exact (sparesParent isProcess).1.symm
        · exact absurd (same.trans isProcess.symm) different
      · intro row rowOf same
        exact (sparesParent (parentOf row rowOf same)).2 row rowOf same
  | resumed context _ _ outcome =>
      rw [outcome] at sparesParent
      refine (told' context).trans (.setStep (setsStatus_completedByChild before.now) ?_)
      intro row rowOf same
      exact sparesParent (parentOf row rowOf same) row rowOf same

theorem effect {before after : World} {call : Engine.Call} (linked : Linked before.db)
    (spares : Spares deployment processInstanceId before call)
    (effect : Engine.Effect deployment before call after) :
    Kept processInstanceId before.db after.db := by
  cases effect with
  | unchanged => exact .refl _
  | raised _ _ rolledBack =>
      rw [rolledBack]
      exact .same rfl rfl
  | started _ _ start => exact .started start
  | advanced stepInstanceId _ _ outcome =>
      have isKey : ∀ step, before.db.step? stepInstanceId = some step →
          step.stepInstanceId = stepInstanceId := fun _ found => Table.key_of_find? found
      have isOf : ∀ step, before.db.step? stepInstanceId = some step →
          step.processInstanceId = processInstanceId →
            step ∈ before.db.stepsOf processInstanceId :=
        fun _ found ofProcess => mem_stepsOf.mpr ⟨Table.mem_of_find? found, ofProcess⟩
      cases outcome with
      | refused => exact .refl _
      | waiting step _ _ _ edits steps =>
          refine ⟨fun row member same _ => ⟨row, edits.instance_kept member, same, rfl⟩,
            fun step member => ⟨step, ?_, rfl, rfl⟩⟩
          rw [mem_stepsOf, steps]
          exact mem_stepsOf.mp member
      | unlocked step found pending eligible edits =>
          by_cases ofProcess : step.processInstanceId = processInstanceId
          · exact absurd eligible
              (spares step (isOf step found ofProcess) (isKey step found) (.inl pending))
          · exact .edits edits (unmoved_other ofProcess)
      | ran step fresh found begun eligible edits member same automated _ completes settles =>
          by_cases ofProcess : step.processInstanceId = processInstanceId
          · exact absurd eligible (spares step (isOf step found ofProcess) (isKey step found)
              (begun.imp_right fun ready => ⟨ready, same.task ▸ automated⟩))
          · exact ((Kept.edits edits (unmoved_other ofProcess)).trans
              (.stepCompleted completes (same.process ▸ ofProcess) member)).trans
                (.settles settles (unmoved_other ofProcess))
  | marked stepInstanceId _ _ outcome =>
      cases outcome with
      | refused => exact .refl _
      | marked step found completable completes settles =>
          by_cases ofProcess : step.processInstanceId = processInstanceId
          · have incompletable := spares step
              (mem_stepsOf.mpr ⟨Table.mem_of_find? found, ofProcess⟩) (Table.key_of_find? found)
            rw [incompletable] at completable
            cases completable
          · exact (Kept.stepCompleted completes ofProcess (Table.mem_of_find? found)).trans
              (.settles settles (unmoved_other ofProcess))
  | resumed stepInstanceId _ _ outcome =>
      cases outcome with
      | refused => exact .refl _
      | resumed step found completed settles =>
          refine .settles settles fun old oldOf row moved => ?_
          obtain ⟨oldMember, ofProcess⟩ := mem_stepsOf.mp oldOf
          have isStep : ∀ other ∈ before.db.steps.rows, other.stepInstanceId = stepInstanceId →
              other = step := fun other otherMember same =>
            Table.eq_of_key_eq otherMember (Table.mem_of_find? found)
              (same.trans (Table.key_of_find? found).symm)
          rcases moved.reason with isTarget | ⟨pred, predMember, isTarget, samePred, _, order⟩
          · have pending := moved.pending
            rw [isStep old oldMember isTarget, completed] at pending
            cases pending
          · have isPred := isStep pred predMember isTarget
            subst isPred
            have ofPred := samePred.trans ofProcess
            refine spares pred (mem_stepsOf.mpr ⟨predMember, ofPred⟩) isTarget completed old ?_
              moved.eligible
            exact mem_nextSteps.mpr ⟨oldMember, ofProcess, order.symm, moved.pending⟩
  | childTerminal _ _ _ child parent parentStepId _ link told =>
      exact .parentTold linked link spares told
  | eligible => exact .completed _ _ _
  | validated _ _ _ validated =>
      obtain ⟨_, _, _, _, _, _, _, rfl⟩ := validated
      exact .same rfl rfl
  | evidence _ only =>
      obtain ⟨_, _, _, _, _, rfl⟩ := only
      exact .same rfl rfl
  | triggersMarked event =>
      obtain ⟨_, shape⟩ := before.db.markTriggers_shape before.now
        (EventBridge.metTriggers deployment event none before)
      rw [EventBridge.marked, shape]
      exact .same rfl rfl

end Kept

namespace Engine

/-- A terminal process keeps its status, and its steps theirs, over every run
from a reachable state whose calls spare it. -/
theorem terminal_frozen {state : State} (reachable : Reachable deployment state)
    (ended : HasEnded state.world.db processInstanceId) {actions : List Action}
    (spares : (system deployment).Guarded
      (Meets (SparesEnded deployment processInstanceId)) state actions) :
    Kept processInstanceId state.world.db
      ((system deployment).run state actions).world.db := by
  let frozen : State → State → Prop := fun first last =>
    HasEnded first.world.db processInstanceId →
      Kept processInstanceId first.world.db last.world.db
  have related : frozen state ((system deployment).run state actions) := by
    refine @StepSystem.run_relation _ _ (system deployment)
      (fun state => Linked state.world.db) (Meets (SparesEnded deployment processInstanceId))
      frozen (fun _ _ => .refl _) ?_ ?_ ?_ _ (reachable_linked reachable) _ spares
    · intro a b c first second ended
      have kept := first ended
      exact kept.trans (second (kept.ended ended))
    · intro state action linked
      rcases step_world deployment state action with ⟨call, _, effect⟩ | ⟨_, world⟩
      · exact effect.linked (turn_db state action ▸ linked)
      · show Linked (step deployment state action).world.db
        rw [world, turn_db]
        exact linked
    · intro state action linked meets ended
      have same := turn_db state action
      rcases step_world deployment state action with ⟨call, isCall, effect⟩ | ⟨_, world⟩
      · have kept := Kept.effect (same ▸ linked) (meets call isCall (same ▸ ended)) effect
        rwa [same] at kept
      · show Kept _ _ (step deployment state action).world.db
        rw [world, same]
        exact .refl _
  exact related ended

/-- A process that waits for a child and has one more step behind it. -/
def callThenManual : Templates where
  steps := [.row 1 .manual 1 none, .row 1 .callProcess 2 (some 2), .row 1 .manual 3 none,
    .row 2 .manual 1 none]
  requirements := []
  triggers := []
  bindings := []
  configObjects := []

/-- The child is canceled, and with it the process that waits for it. -/
def canceledParent : State :=
  (system .allEnabled).run (installed callThenManual)
    [.invoke (.startProcess (.workflow 1 1 .failParent)), .invoke (.markCompleted 1 .none),
      .invoke (.handleChildTerminal 2 .canceled .none)]

theorem canceledParent_reachable : Reachable .allEnabled canceledParent :=
  ⟨_, _, fresh_installed callThenManual, rfl⟩

/-- The canceled process stays as it is when its child completes nevertheless. -/
theorem terminal_frozen_canceledParent :
    Kept 1 canceledParent.world.db
      ((system .allEnabled).run canceledParent [.invoke (.markCompleted 4 .none)]).world.db := by
  refine terminal_frozen canceledParent_reachable (by decide) ⟨?_, trivial⟩
  rintro _ ⟨⟩ _ step member key
  have notOf : ∀ step ∈ canceledParent.world.db.stepsOf 1, step.stepInstanceId ≠ 4 := by
    decide
  exact absurd key (notOf step member)

/-- A trigger of its last step makes a step of the canceled process ready. -/
theorem canceledParent_not_frozen :
    HasEnded canceledParent.world.db 1 ∧
      ¬ Kept 1 canceledParent.world.db ((system .allEnabled).run canceledParent
        [.invoke (.attemptAdvance 3 .none)]).world.db := by
  decide

end Engine

end CoreApi.Automation
