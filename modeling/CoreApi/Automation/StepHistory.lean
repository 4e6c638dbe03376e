import CoreApi.Automation.CompletedSteps
import CoreApi.Automation.InstalledTemplates

/-!
# Steps and processes only move on

No run removes a step or a process or changes what identifies it. A step goes
from `pending` to `ready` and to `completed`; only a step that calls a process is
blocked, canceled, or moved again once it is over. A process is active until it
is completed or canceled, and stays canceled.
-/

namespace CoreApi.Automation

open CoreApi.Foundation StepOrchestrator ChildProcessOrchestration

variable {deployment : Deployment}

/-! ## Statuses -/

/-- A step with the task has or will have the status `new` once it had `old`. -/
def Advances (task : TaskType) (old new : StepStatus) : Prop :=
  new = old ∨ (old = .pending ∧ new = .ready) ∨
    (new = .completed ∧ (old = .pending ∨ old = .ready ∨ old = .inProgress)) ∨
      task = .callProcess ∧ ((old = .pending ∧ new = .blocked) ∨ IsOverStatus new)

instance (task : TaskType) (old new : StepStatus) : Decidable (Advances task old new) :=
  inferInstanceAs (Decidable (_ ∨ (_ ∧ _) ∨ (_ ∧ (_ ∨ _ ∨ _)) ∨ _ ∧ ((_ ∧ _) ∨ _)))

theorem Advances.refl (task : TaskType) (status : StepStatus) : Advances task status status :=
  .inl rfl

theorem Advances.trans {task : TaskType} {a b c : StepStatus} (first : Advances task a b)
    (second : Advances task b c) : Advances task a c := by
  unfold Advances IsOverStatus at *
  grind

theorem Advances.isOver {task : TaskType} {old new : StepStatus}
    (advances : Advances task old new) (wasOver : IsOverStatus old) : IsOverStatus new := by
  unfold Advances IsOverStatus at *
  grind

/-- A process that had the status `old` has or will have the status `new`. -/
def InstanceAdvances (old new : InstanceStatus) : Prop :=
  new = old ∨ (old = .active ∧ new = .completed) ∨ new = .canceled

instance (old new : InstanceStatus) : Decidable (InstanceAdvances old new) :=
  inferInstanceAs (Decidable (_ ∨ (_ ∧ _) ∨ _))

theorem InstanceAdvances.trans {a b c : InstanceStatus} (first : InstanceAdvances a b)
    (second : InstanceAdvances b c) : InstanceAdvances a c := by
  unfold InstanceAdvances at *
  grind

theorem instanceAdvances_completeActive (status : InstanceStatus) :
    InstanceAdvances status (completeActive status) := by
  cases status <;> decide

/-! ## Rows that move on -/

/-- Two rows of one process. -/
structure SameProcess (old row : ProcessInstance) : Prop where
  key : row.processInstanceId = old.processInstanceId
  template : row.processTemplateId = old.processTemplateId
  tenant : row.tenantId = old.tenantId
  subject : row.subjectType = old.subjectType
  parentInstance : row.parentInstanceId = old.parentInstanceId
  parentStep : row.parentStepId = old.parentStepId
  policy : row.onChildFailure = old.onChildFailure

/-- Every step and every process is still there and moved on, and no step joined a
process that was there. -/
structure Evolves (before after : Database) : Prop where
  steps : ∀ step ∈ before.steps.rows, ∃ row ∈ after.steps.rows,
    SameStep step row ∧ Advances step.taskType step.status row.status
  processes : ∀ process ∈ before.processInstances.rows, ∃ row ∈ after.processInstances.rows,
    SameProcess process row ∧ InstanceAdvances process.status row.status
  joined : ∀ row ∈ after.steps.rows, ∀ process ∈ before.processInstances.rows,
    process.processInstanceId = row.processInstanceId →
      ∃ step ∈ before.steps.rows, step.stepInstanceId = row.stepInstanceId

namespace Evolves

/-- No row is touched, though rows may be added. -/
theorem of_rows {before after : Database}
    (steps : ∀ step ∈ before.steps.rows, step ∈ after.steps.rows)
    (processes : ∀ row ∈ before.processInstances.rows, row ∈ after.processInstances.rows)
    (joined : ∀ row ∈ after.steps.rows, ∀ process ∈ before.processInstances.rows,
      process.processInstanceId = row.processInstanceId → row ∈ before.steps.rows) :
    Evolves before after where
  steps step member :=
    ⟨step, steps step member, ⟨rfl, rfl, rfl, rfl, rfl⟩, .refl _ _⟩
  processes row member :=
    ⟨row, processes row member, ⟨rfl, rfl, rfl, rfl, rfl, rfl, rfl⟩, .inl rfl⟩
  joined row member process isProcess ofProcess :=
    ⟨row, joined row member process isProcess ofProcess, rfl⟩

theorem same {before after : Database}
    (steps : after.steps.rows = before.steps.rows)
    (instances : after.processInstances.rows = before.processInstances.rows) :
    Evolves before after :=
  of_rows (fun _ member => steps ▸ member) (fun _ member => instances ▸ member)
    fun _ member _ _ _ => steps ▸ member

theorem refl (db : Database) : Evolves db db := same rfl rfl

theorem trans {a b c : Database} (first : Evolves a b) (second : Evolves b c) : Evolves a c := by
  constructor
  · intro step member
    obtain ⟨step', member', is, advances⟩ := first.steps step member
    obtain ⟨step'', member'', is', advances'⟩ := second.steps step' member'
    rw [is.task] at advances'
    exact ⟨step'', member'', ⟨is'.key.trans is.key, is'.process.trans is.process,
      is'.template.trans is.template, is'.order.trans is.order, is'.task.trans is.task⟩,
      advances.trans advances'⟩
  · intro row member
    obtain ⟨row', member', is, advances⟩ := first.processes row member
    obtain ⟨row'', member'', is', advances'⟩ := second.processes row' member'
    exact ⟨row'', member'', ⟨is'.key.trans is.key, is'.template.trans is.template,
      is'.tenant.trans is.tenant, is'.subject.trans is.subject,
      is'.parentInstance.trans is.parentInstance, is'.parentStep.trans is.parentStep,
      is'.policy.trans is.policy⟩, advances.trans advances'⟩
  · intro row member process isProcess ofProcess
    obtain ⟨process', member', is, _⟩ := first.processes process isProcess
    obtain ⟨middle, middleMember, key⟩ :=
      second.joined row member process' member' (is.key.trans ofProcess)
    obtain ⟨row', rowMember, same, _⟩ := second.steps middle middleMember
    have isRow : row' = row := Table.eq_of_key_eq rowMember member (same.key.trans key)
    have ofMiddle : process.processInstanceId = middle.processInstanceId := by
      rw [ofProcess, ← isRow, same.process]
    obtain ⟨step, stepMember, isStep⟩ := first.joined middle middleMember process isProcess ofMiddle
    exact ⟨step, stepMember, isStep.trans key⟩

theorem hostTables {before after : Database} (tables : HostTables before after) :
    Evolves before after := by
  obtain ⟨_, _, _, _, rfl⟩ := tables
  exact same rfl rfl

/-- A step is written a status it may move on to. -/
theorem setStep {db : Database} {stepInstanceId : Nat} {status : StepStatus}
    {set : StepInstance → StepInstance} (sets : SetsStatus status set)
    (moves : ∀ step ∈ db.steps.rows, step.stepInstanceId = stepInstanceId →
      Advances step.taskType step.status status) :
    Evolves db (db.setStep stepInstanceId set sets.key) where
  steps step member := by
    by_cases isStep : step.stepInstanceId = stepInstanceId
    · refine ⟨set step, (mem_setStep sets.key).mpr (.inl ⟨step, member, isStep, rfl⟩),
        sets.sameStep step, ?_⟩
      rw [sets.status]
      exact moves step member isStep
    · exact ⟨step, (mem_setStep sets.key).mpr (.inr ⟨member, isStep⟩),
        ⟨rfl, rfl, rfl, rfl, rfl⟩, .refl _ _⟩
  processes row member :=
    ⟨row, member, ⟨rfl, rfl, rfl, rfl, rfl, rfl, rfl⟩, .inl rfl⟩
  joined row member _ _ _ := by
    rcases (mem_setStep sets.key).mp member with ⟨old, oldMember, _, rfl⟩ | ⟨untouched, _⟩
    · exact ⟨old, oldMember, (sets.key old).symm⟩
    · exact ⟨row, untouched, rfl⟩

/-- The only row under the key is `step`. -/
theorem setStep_of_mem {db : Database} {step : StepInstance} {status : StepStatus}
    {set : StepInstance → StepInstance} (sets : SetsStatus status set)
    (member : step ∈ db.steps.rows) (moves : Advances step.taskType step.status status) :
    Evolves db (db.setStep step.stepInstanceId set sets.key) := by
  apply setStep sets
  intro other otherMember key
  obtain rfl : other = step := Table.eq_of_key_eq otherMember member key
  exact moves

theorem setInstance {db : Database} (processInstanceId : Nat)
    {next : InstanceStatus → InstanceStatus} {set : ProcessInstance → ProcessInstance}
    (sets : SetsInstance next set) (moves : ∀ status, InstanceAdvances status (next status)) :
    Evolves db (db.setInstance processInstanceId set sets.key) where
  steps step member := ⟨step, member, ⟨rfl, rfl, rfl, rfl, rfl⟩, .refl _ _⟩
  processes row member := by
    by_cases isRow : row.processInstanceId = processInstanceId
    · refine ⟨set row, (mem_setInstance sets.key).mpr (.inl ⟨row, member, isRow, rfl⟩),
        ⟨sets.key row, sets.template row, sets.tenant row, sets.subject row,
          sets.parentInstance row, sets.parentStep row, sets.policy row⟩, ?_⟩
      rw [sets.status]
      exact moves row.status
    · exact ⟨row, (mem_setInstance sets.key).mpr (.inr ⟨member, isRow⟩),
        ⟨rfl, rfl, rfl, rfl, rfl, rfl, rfl⟩, .inl rfl⟩
  joined row member _ _ _ := ⟨row, member, rfl⟩

theorem started {params : StartProcessParams} {row : ProcessInstance} {before after : World}
    (start : Started params row before after) : Evolves before.db after.db := by
  refine of_rows (fun _ member => start.step_kept member)
    (fun _ member => start.instance_kept member) fun step member process isProcess ofProcess => ?_
  rw [start.steps] at member
  rcases List.mem_append.mp member with old | added
  · exact old
  · -- the new steps belong to the new process
    have isNew := ProcessInstantiation.addedSteps_process added
    rw [start.fresh.key] at isNew
    have bound := (before.db.processInstances.bounded process isProcess).2
    exact absurd (ofProcess.trans isNew) (Nat.ne_of_lt bound)

theorem edit {origin before after : World} {process target : Nat}
    (edit : Edit deployment origin process target before after) :
    Evolves before.db after.db := by
  cases edit with
  | hosted host => exact hostTables host.tables
  | evaluated => exact same rfl rfl
  | provisioned _ _ _ _ _ _ _ _ writes =>
      obtain ⟨_, _, _, _, _, _, _, rfl⟩ := writes
      exact same rfl rfl
  | readied step _ sets member _ pending _ host =>
      have moves : Advances step.taskType step.status .ready := .inr (.inl ⟨pending, rfl⟩)
      exact (setStep_of_mem sets member moves).trans (hostTables host.tables)
  | blocked step _ sets member _ pending calls =>
      exact setStep_of_mem sets member (.inr (.inr (.inr ⟨calls, .inl ⟨pending, rfl⟩⟩)))
  | spawned step _ sets _ _ _ member _ pending calls _ _ start =>
      have moves : Advances step.taskType step.status .blocked :=
        .inr (.inr (.inr ⟨calls, .inl ⟨pending, rfl⟩⟩))
      exact (started start).trans (setStep_of_mem sets (start.step_kept member) moves)

theorem settlement {process : Nat} {result : Option Nat} {before after : World}
    (settlement : Settlement deployment process before result after) :
    Evolves before.db after.db := by
  have completes := fun key => @setInstance before.db key _ _
    (setsInstance_completed before.now) instanceAdvances_completeActive
  cases settlement with
  | idle => exact refl _
  | child => exact completes _
  | announced _ _ _ _ _ announced => exact (completes _).trans (hostTables announced.tables)

/-- A child that ended moves the step that called it, which was settled before. -/
theorem parentTold {before after : World} {child parent : ProcessInstance} {parentStepId : Nat}
    {terminalStatus : TerminalStatus} {childProcessInstanceId : Nat} (linked : Linked before.db)
    (link : childLink before.db childProcessInstanceId = some (child, parent, parentStepId))
    (told : ParentTold before child parent parentStepId terminalStatus after) :
    Evolves before.db after.db := by
  obtain ⟨found, isChild, _, _⟩ := childLink_eq_some link
  obtain ⟨caller, member, key, calls, _⟩ :=
    linked.caller child (Table.mem_of_find? found) parentStepId isChild
  have moves : ∀ status, IsOverStatus status → ∀ step ∈ before.db.steps.rows,
      step.stepInstanceId = parentStepId → Advances step.taskType step.status status := by
    intro status isOver step stepMember isStep
    obtain rfl : step = caller := Table.eq_of_key_eq stepMember member (isStep.trans key.symm)
    exact .inr (.inr (.inr ⟨calls, .inr isOver⟩))
  have setContext : ∀ context, Evolves before.db (before.db.setInstance
      parent.processInstanceId (fun row => { row with context := context })
        (setsInstance_context context).key) :=
    fun context => setInstance _ (setsInstance_context context) fun _ => .inl rfl
  cases told with
  | paused context => exact setContext context
  | failed context =>
      refine ((setContext context).trans (setInstance parent.processInstanceId
        (setsInstance_canceled before.now) fun _ => .inr (.inr rfl))).trans ?_
      exact setStep (setsStatus_canceledByChild before.now) (moves .canceled (.inr rfl))
  | resumed context =>
      refine (setContext context).trans ?_
      exact setStep (setsStatus_completedByChild before.now) (moves .completed (.inl rfl))

theorem keptByWrites (origin : World) (call : Engine.Call) (linked : Linked origin.db) :
    Engine.KeptByWrites deployment (fun w => Evolves origin.db w.db) origin call where
  rolledBack _ rolledBack _ _ := by
    simp only [rolledBack]
    exact same rfl rfl
  started _ start _ _ := started start
  edit isEdit evolved := evolved.trans (edit isEdit)
  completed {step _ _} _ _ member begun _ completes evolved := by
    obtain ⟨_, sets, tables⟩ := completes.tables
    have moves : Advances step.taskType step.status .completed :=
      .inr (.inr (.inl ⟨rfl, .inr begun⟩))
    exact (evolved.trans (setStep_of_mem sets member moves)).trans (hostTables tables)
  settled isSettlement evolved := evolved.trans (settlement isSettlement)
  told _ link isTold _ := parentTold linked link isTold
  eligible _ _ := setInstance _ (setsInstance_completed origin.now)
    instanceAdvances_completeActive
  validated _ validated _ := by
    obtain ⟨_, _, _, _, _, _, _, rfl⟩ := validated
    exact same rfl rfl
  evidence only _ _ := by
    obtain ⟨_, _, _, _, _, rfl⟩ := only
    exact same rfl rfl
  marked {event} _ _ := by
    obtain ⟨_, shape⟩ := origin.db.markTriggers_shape origin.now
      (EventBridge.metTriggers deployment event none origin)
    simp only [EventBridge.marked, shape]
    exact same rfl rfl

theorem effect {before after : World} {call : Engine.Call} (linked : Linked before.db)
    (effect : Engine.Effect deployment before call after) : Evolves before.db after.db :=
  effect.kept (keptByWrites before call linked) (refl _)

end Evolves

namespace Engine

theorem step_linked {state : State} (linked : Linked state.world.db) (action : Action) :
    Linked (step deployment state action).world.db := by
  rcases step_world deployment state action with ⟨call, _, effect⟩ | ⟨_, world⟩
  · exact effect.linked (turn_db state action ▸ linked)
  · rw [world, turn_db]
    exact linked

theorem step_evolves {state : State} (linked : Linked state.world.db) (action : Action) :
    Evolves state.world.db (step deployment state action).world.db := by
  have same := turn_db state action
  rcases step_world deployment state action with ⟨call, _, effect⟩ | ⟨_, world⟩
  · have evolves := Evolves.effect (same ▸ linked) effect
    rwa [same] at evolves
  · rw [world, same]
    exact .refl _

theorem run_evolves {state : State} (linked : Linked state.world.db) (actions : List Action) :
    Evolves state.world.db ((system deployment).run state actions).world.db := by
  refine @StepSystem.run_relation _ _ (system deployment) (fun state => Linked state.world.db)
    (fun _ _ => True) (fun first last => Evolves first.world.db last.world.db)
    (fun _ => .refl _) .trans ?_ ?_ _ linked _ (.all _ (fun _ _ => trivial) _ _)
  · exact fun _ action linked => step_linked linked action
  · exact fun _ action linked _ => step_evolves linked action

/-- Over every run from a reachable state, every step and every process stays stored
under what identifies it, its status only moves on, and no step joins a process. -/
theorem runs_onlyMoveOn {state : State} (reachable : Reachable deployment state)
    (actions : List Action) :
    Evolves state.world.db ((system deployment).run state actions).world.db :=
  run_evolves (reachable_linked reachable) actions

/-- The process of a waiting child is completed, canceled by its child, and asked for
more. -/
def movedOn : List Action :=
  [.invoke (.markCompleted 1 .none), .invoke (.handleChildTerminal 2 .completed .none),
    .invoke (.handleChildTerminal 2 .canceled .none), .invoke (.attemptAdvance 2 .none)]

theorem runs_onlyMoveOn_nestedCalls :
    ∃ step ∈ ((system .allEnabled).run ((system .allEnabled).run (installed nestedCalls)
      [.invoke (.startProcess (.workflow 1 1 .failParent))]) movedOn).world.db.steps.rows,
        step.stepInstanceId = 2 ∧ Advances .callProcess .pending step.status := by
  obtain ⟨old, stored, key, task, pending⟩ : ∃ step ∈ ((system .allEnabled).run
      (installed nestedCalls) [.invoke (.startProcess (.workflow 1 1
        .failParent))]).world.db.steps.rows, step.stepInstanceId = 2 ∧
          step.taskType = .callProcess ∧ step.status = .pending := by
    decide
  obtain ⟨row, member, same, advances⟩ := (@runs_onlyMoveOn .allEnabled _
    ⟨installed nestedCalls, _, fresh_installed nestedCalls, rfl⟩ movedOn).steps old stored
  exact ⟨row, member, same.key.trans key, task ▸ pending ▸ advances⟩

/-- Once a process is completed, its steps are over in that state and in every later one,
whatever becomes of the process. -/
theorem completed_staysOver {state : State} (reachable : Reachable deployment state)
    {row : ProcessInstance} (stored : row ∈ state.world.db.processInstances.rows)
    (completed : row.status = .completed) (actions : List Action) :
    ∀ step ∈ ((system deployment).run state actions).world.db.stepsOf row.processInstanceId,
      IsOverStatus step.status := by
  have evolves := @run_evolves deployment _ (reachable_linked reachable) actions
  intro step member
  obtain ⟨stepMember, ofProcess⟩ := mem_stepsOf.mp member
  obtain ⟨old, oldMember, key⟩ := evolves.joined step stepMember row stored ofProcess.symm
  obtain ⟨step', member', same, advances⟩ := evolves.steps old oldMember
  obtain rfl : step' = step := Table.eq_of_key_eq member' stepMember (same.key.trans key)
  have wasOver := reachable_stepsOver reachable row stored completed old oldMember
    (same.process.symm.trans ofProcess)
  exact advances.isOver wasOver

/-- A process with one step, which is completed. -/
def oneStepDone : State :=
  (system .allEnabled).run (installed nestedCalls)
    [.invoke (.startProcess (.workflow 1 3 .ignore)), .invoke (.markCompleted 1 .none)]

theorem completed_staysOver_oneStep :
    ∃ step ∈ ((system .allEnabled).run oneStepDone
      [.invoke (.attemptAdvance 1 .none)]).world.db.stepsOf 1, IsOverStatus step.status := by
  obtain ⟨row, stored, key, completed⟩ : ∃ row ∈ oneStepDone.world.db.processInstances.rows,
      row.processInstanceId = 1 ∧ row.status = .completed := by
    decide
  obtain ⟨step, member, _⟩ : ∃ step ∈ ((system .allEnabled).run oneStepDone
      [.invoke (.attemptAdvance 1 .none)]).world.db.stepsOf 1, step.stepInstanceId = 1 := by
    decide
  have ended := @completed_staysOver .allEnabled oneStepDone
    ⟨_, _, fresh_installed nestedCalls, rfl⟩ row stored completed
    [.invoke (.attemptAdvance 1 .none)]
  rw [key] at ended
  exact ⟨step, member, ended step member⟩

end Engine

end CoreApi.Automation
