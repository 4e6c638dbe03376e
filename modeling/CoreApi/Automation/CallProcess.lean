import CoreApi.Automation.InstalledTemplates
import CoreApi.Automation.LinkedState

/-!
# Steps that call a process

A `call_process` step is completed by the end of its child, except that
`markCompleted` also completes one that is ready, which the first step of a
process is from the start, and that `handleChildTerminal` does not look at the
status of the child.
-/

namespace CoreApi.Automation

open CoreApi.Foundation StepOrchestrator ChildProcessOrchestration

variable {deployment : Deployment}

/-- The step has a child that completed or was canceled. -/
def HasFinishedChild (db : Database) (stepInstanceId : Nat) : Prop :=
  ∃ child ∈ db.processInstances.rows, child.parentStepId = some stepInstanceId ∧
    IsTerminal child.status

instance (db : Database) (stepInstanceId : Nat) :
    Decidable (HasFinishedChild db stepInstanceId) :=
  inferInstanceAs (Decidable (∃ child ∈ db.processInstances.rows, _ ∧ _))

theorem HasFinishedChild.setInstance {db : Database} {stepInstanceId processInstanceId : Nat}
    (finished : HasFinishedChild db stepInstanceId) {next : InstanceStatus → InstanceStatus}
    {set : ProcessInstance → ProcessInstance} (sets : SetsInstance next set)
    (stays : ∀ status, IsTerminal status → IsTerminal (next status)) :
    HasFinishedChild (db.setInstance processInstanceId set sets.key) stepInstanceId := by
  obtain ⟨child, member, isChild, terminal⟩ := finished
  by_cases same : child.processInstanceId = processInstanceId
  · refine ⟨set child, (mem_setInstance sets.key).mpr (.inl ⟨child, member, same, rfl⟩), ?_, ?_⟩
    · rw [sets.parentStep]
      exact isChild
    · rw [sets.status]
      exact stays _ terminal
  · exact ⟨child, (mem_setInstance sets.key).mpr (.inr ⟨member, same⟩), isChild, terminal⟩

/-- Every completed `call_process` step has a child that completed or was canceled. -/
def CallsFinished (db : Database) : Prop :=
  ∀ step ∈ db.steps.rows, step.taskType = .callProcess → step.status = .completed →
    HasFinishedChild db step.stepInstanceId

instance (db : Database) : Decidable (CallsFinished db) :=
  inferInstanceAs (Decidable (∀ step ∈ db.steps.rows, _ → _ → _))

/-- The call completes no `call_process` step ahead of its child: `markCompleted`
is not called for one it would complete, and `handleChildTerminal` resumes a
parent only for a child that completed or was canceled. -/
def AwaitsChild (deployment : Deployment) (w : World) : Engine.Call → Prop
  | .markCompleted stepInstanceId _ =>
      ∀ step, w.db.step? stepInstanceId = some step → step.taskType = .callProcess →
        isCompletable deployment w.db step = false
  | .handleChildTerminal childProcessInstanceId terminalStatus _ =>
      ∀ child parent parentStepId,
        childLink w.db childProcessInstanceId = some (child, parent, parentStepId) →
          terminalOutcome terminalStatus parent.onChildFailure = .resume →
            IsTerminal child.status
  | _ => True

namespace CallsFinished

theorem of_steps {before after : Database} (finished : CallsFinished before)
    (steps : ∀ step ∈ after.steps.rows, step.taskType = .callProcess →
      step.status = .completed → step ∈ before.steps.rows)
    (children : ∀ stepInstanceId, HasFinishedChild before stepInstanceId →
      HasFinishedChild after stepInstanceId) : CallsFinished after :=
  fun step member calls completed =>
    children _ (finished step (steps step member calls completed) calls completed)

theorem same {before after : Database} (finished : CallsFinished before)
    (steps : after.steps.rows = before.steps.rows)
    (instances : after.processInstances.rows = before.processInstances.rows) :
    CallsFinished after := by
  refine finished.of_steps (fun step member _ _ => steps ▸ member) fun stepInstanceId child => ?_
  unfold HasFinishedChild
  rw [instances]
  exact child

theorem hostTables {before after : Database} (finished : CallsFinished before)
    (tables : HostTables before after) : CallsFinished after := by
  obtain ⟨_, _, _, _, rfl⟩ := tables
  exact finished.same rfl rfl

theorem setStep {db : Database} (finished : CallsFinished db) {stepInstanceId : Nat}
    {status : StepStatus} {set : StepInstance → StepInstance} (sets : SetsStatus status set)
    (awaits : ∀ step ∈ db.steps.rows, step.stepInstanceId = stepInstanceId →
      step.taskType = .callProcess → status = .completed → HasFinishedChild db stepInstanceId) :
    CallsFinished (db.setStep stepInstanceId set sets.key) := by
  intro step member calls completed
  rcases (mem_setStep sets.key).mp member with ⟨old, oldMember, same, rfl⟩ | ⟨untouched, _⟩
  · rw [sets.key, same]
    exact awaits old oldMember same ((sets.task old).symm.trans calls)
      ((sets.status old).symm.trans completed)
  · exact finished step untouched calls completed

theorem setInstance {db : Database} (finished : CallsFinished db) {processInstanceId : Nat}
    {next : InstanceStatus → InstanceStatus} {set : ProcessInstance → ProcessInstance}
    (sets : SetsInstance next set) (stays : ∀ status, IsTerminal status → IsTerminal (next status)) :
    CallsFinished (db.setInstance processInstanceId set sets.key) :=
  finished.of_steps (fun _ member _ _ => member) fun _ child => child.setInstance sets stays

theorem started {params : StartProcessParams} {row : ProcessInstance} {before after : World}
    (finished : CallsFinished before.db) (start : Started params row before after) :
    CallsFinished after.db := by
  refine finished.of_steps (fun step member _ completed => ?_) fun stepInstanceId => ?_
  · rw [start.steps] at member
    rcases List.mem_append.mp member with old | new
    · exact old
    · rcases ProcessInstantiation.addedSteps_status new with ⟨ready, _⟩ | ⟨pending, _⟩ <;>
        simp_all
  · rintro ⟨child, member, rest⟩
    refine ⟨child, ?_, rest⟩
    rw [start.instances]
    exact List.mem_append_left _ member

theorem edit {origin before after : World} {processInstanceId target : Nat}
    (finished : CallsFinished before.db)
    (edit : Edit deployment origin processInstanceId target before after) :
    CallsFinished after.db := by
  cases edit with
  | hosted host => exact finished.hostTables host.tables
  | evaluated => exact finished.same rfl rfl
  | provisioned _ _ _ _ _ _ _ _ writes =>
      obtain ⟨_, _, _, _, _, _, _, rfl⟩ := writes
      exact finished.same rfl rfl
  | readied _ _ sets _ _ _ _ host =>
      exact (finished.setStep sets fun _ _ _ _ impossible => by cases impossible).hostTables
        host.tables
  | blocked _ _ sets => exact finished.setStep sets fun _ _ _ _ impossible => by cases impossible
  | spawned _ _ sets _ _ _ _ _ _ _ _ _ start =>
      exact (finished.started start).setStep sets fun _ _ _ _ impossible => by cases impossible

theorem edits {origin before after : World} {processInstanceId target : Nat}
    (finished : CallsFinished before.db)
    (edits : Edits deployment origin processInstanceId target before after) :
    CallsFinished after.db := by
  induction edits with
  | refl => exact finished
  | tail _ last ih => exact ih.edit last

theorem stepCompleted {step : StepInstance} {before after : World}
    (finished : CallsFinished before.db) (member : step ∈ before.db.steps.rows)
    (callsNone : step.taskType ≠ .callProcess) (completes : StepCompleted step before after) :
    CallsFinished after.db := by
  obtain ⟨_, sets, tables⟩ := completes.tables
  refine (finished.setStep sets fun row rowMember same calls _ => ?_).hostTables tables
  rw [Table.eq_of_key_eq rowMember member same] at calls
  exact absurd calls callsNone

theorem completeInstance {db : Database} (finished : CallsFinished db) (processInstanceId : Nat)
    (time : String) : CallsFinished (db.setInstance processInstanceId (completedInstance time)
      (completedInstance_key time)) :=
  finished.setInstance (setsInstance_completed time) fun status terminal => by
    rw [completeActive_of_terminal terminal]
    exact terminal

theorem settles {origin before after : World} {processInstanceId target : Nat}
    {result : Option Nat} (finished : CallsFinished before.db)
    (settles : Settles deployment origin processInstanceId target before result after) :
    CallsFinished after.db := by
  obtain ⟨middle, edits, settlement, _⟩ := settles
  have finished' := finished.edits edits
  cases settlement with
  | idle => exact finished'
  | child => exact finished'.completeInstance _ _
  | announced _ _ _ _ _ announced =>
      exact (finished'.completeInstance _ _).hostTables announced.tables

theorem parentTold {before after : World} {child parent : ProcessInstance} {parentStepId : Nat}
    {terminalStatus : TerminalStatus} {childProcessInstanceId : Nat}
    (finished : CallsFinished before.db)
    (link : childLink before.db childProcessInstanceId = some (child, parent, parentStepId))
    (awaits : terminalOutcome terminalStatus parent.onChildFailure = .resume →
      IsTerminal child.status)
    (told : ParentTold before child parent parentStepId terminalStatus after) :
    CallsFinished after.db := by
  have told' : ∀ context, CallsFinished (before.db.setInstance parent.processInstanceId
      (fun row => { row with context := context }) (fun _ => rfl)) := fun context =>
    finished.setInstance (setsInstance_context context) fun _ terminal => terminal
  cases told with
  | paused context => exact told' context
  | failed context =>
      exact ((told' context).setInstance (setsInstance_canceled before.now)
        fun _ _ => .inr rfl).setStep (setsStatus_canceledByChild before.now)
          fun _ _ _ _ impossible => by cases impossible
  | resumed context _ _ outcome =>
      obtain ⟨found, isChild, _⟩ := childLink_eq_some link
      refine (told' context).setStep (setsStatus_completedByChild before.now) fun _ _ _ _ _ => ?_
      have finishedChild : HasFinishedChild before.db parentStepId :=
        ⟨child, Table.mem_of_find? found, isChild, awaits outcome⟩
      exact finishedChild.setInstance (setsInstance_context context) fun _ terminal => terminal

/-- A call that awaits the child keeps the invariant. -/
theorem effect {before after : World} {call : Engine.Call} (finished : CallsFinished before.db)
    (awaits : AwaitsChild deployment before call)
    (effect : Engine.Effect deployment before call after) : CallsFinished after.db := by
  cases effect with
  | unchanged => exact finished
  | raised _ _ rolledBack =>
      rw [rolledBack]
      exact finished.same rfl rfl
  | started _ _ start => exact finished.started start
  | advanced _ _ _ outcome =>
      cases outcome with
      | refused => exact finished
      | waiting _ _ _ _ edits => exact finished.edits edits
      | unlocked _ _ _ _ edits => exact finished.edits edits
      | ran _ _ _ _ _ edits member _ automated _ completes settles =>
          exact ((finished.edits edits).stepCompleted member (by simp [automated])
            completes).settles settles
  | marked _ _ _ outcome =>
      cases outcome with
      | refused => exact finished
      | marked step found completable completes settles =>
          have callsNone : step.taskType ≠ .callProcess := by
            intro calls
            rw [awaits step found calls] at completable
            cases completable
          exact (finished.stepCompleted (Table.mem_of_find? found) callsNone completes).settles
            settles
  | resumed _ _ _ outcome =>
      cases outcome with
      | refused => exact finished
      | resumed _ _ _ settles => exact finished.settles settles
  | childTerminal _ _ _ child parent parentStepId _ link told =>
      exact finished.parentTold link (awaits child parent parentStepId link) told
  | eligible => exact finished.completeInstance _ _
  | validated _ _ _ validated =>
      obtain ⟨_, _, _, _, _, _, _, rfl⟩ := validated
      exact finished.same rfl rfl
  | evidence _ only =>
      obtain ⟨_, _, _, _, _, rfl⟩ := only
      exact finished.same rfl rfl
  | triggersMarked event =>
      obtain ⟨_, shape⟩ := before.db.markTriggers_shape before.now
        (EventBridge.metTriggers deployment event none before)
      rw [EventBridge.marked, shape]
      exact finished.same rfl rfl

end CallsFinished

namespace Engine

/-- In every run whose calls await the children, every completed `call_process`
step has a finished child. -/
theorem calls_finished {start : State} (fresh : Fresh start) {actions : List Action}
    (awaits : (system deployment).Guarded (Meets (AwaitsChild deployment)) start actions) :
    CallsFinished ((system deployment).run start actions).world.db :=
  run_database (fun _ _ _ effect awaits finished => finished.effect awaits effect)
    (fun step member => by simp [fresh.steps] at member) awaits

/-- A process whose second step calls a process with one automated step. -/
def callSecond : Templates where
  steps := [.row 1 .manual 1 none, .row 1 .callProcess 2 (some 2), .row 2 .automated 1 none]
  requirements := []
  triggers := []
  bindings := []
  configObjects := []

/-- The child is spawned, runs, and completes the step of its parent. -/
def childRun : List Action :=
  [.invoke (.startProcess (.workflow 1 1 .pauseParent)), .invoke (.markCompleted 1 .none),
    .invoke (.attemptAdvance 3 .none), .resume 3]

theorem calls_finished_childRun :
    CallsFinished ((system .allEnabled).run (installed callSecond) childRun).world.db := by
  refine calls_finished (fresh_installed callSecond) ⟨?_, ?_, ?_, ?_, trivial⟩ <;> rintro _ ⟨⟩
  · exact trivial
  · intro step found calls
    have manual : (((system .allEnabled).run (installed callSecond)
        (childRun.take 1)).world.db.step? 1).all (fun step => step.taskType != .callProcess) =
          true := by decide
    have notCall := (Option.all_eq_true _ _).mp manual step found
    simp [calls] at notCall
  · exact trivial
  · intro child parent parentStepId link _
    have ended : (childLink ((system .allEnabled).run (installed callSecond)
        (childRun.take 3)).world.db 2).all (fun link => decide (IsTerminal link.1.status)) =
          true := by decide
    exact of_decide_eq_true ((Option.all_eq_true _ _).mp ended _ link)

/-- A process whose first step calls a process with one automated step. -/
def callFirst : Templates where
  steps := [.row 1 .callProcess 1 (some 2), .row 1 .callProcess 2 (some 2),
    .row 2 .automated 1 none]
  requirements := []
  triggers := []
  bindings := []
  configObjects := []

/-- The first step is ready without a child, and `markCompleted` completes it. -/
theorem markCompleted_without_child :
    ¬ CallsFinished ((system .allEnabled).run (installed callFirst)
      [.invoke (.startProcess (.workflow 1 1 .pauseParent)),
        .invoke (.markCompleted 1 .none)]).world.db := by
  decide

end Engine

end CoreApi.Automation
