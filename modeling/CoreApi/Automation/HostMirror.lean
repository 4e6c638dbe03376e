import CoreApi.Automation.CallWrites
import CoreApi.Automation.InstalledTemplates
import CoreApi.Automation.TaskMirror

/-!
# The mirror of a process at its host

Every change of a step that the orchestrator makes itself is reported to the host
of the process, in order and once, and the tasks of a project follow. The steps
that a child process blocks, completes or cancels are written behind the host's
back.
-/

namespace CoreApi.Automation

open CoreApi.Foundation StepOrchestrator ChildProcessOrchestration

variable {deployment : Deployment}

/-! ## The writes of the orchestrator -/

/-- No step that a call may unlock calls a process: neither its own, nor one behind it. -/
def SpawnsNothing (deployment : Deployment) (processInstanceId target : Nat) (w : World) : Prop :=
  ∀ step ∈ w.db.steps.rows, step.processInstanceId = processInstanceId → step.status = .pending →
    step.stepInstanceId = target ∨ Succeeds w.db target step → ¬ Spawns deployment w step

section Edits

variable {origin before after : World} {process target : Nat}

theorem SpawnsNothing.edit (nothing : SpawnsNothing deployment process target before)
    (edit : Edit deployment origin process target before after) :
    SpawnsNothing deployment process target after := by
  intro step member ofProcess pending reason spawns
  rcases edit.preimage member with old | ⟨_, _, moved⟩ | ⟨foreign, _⟩
  · refine nothing step old ofProcess pending (reason.imp_right ?_)
      ((edit.sameInputs ⟨step, old, rfl⟩ ofProcess).spawns.mp spawns)
    rintro ⟨pred, predMember, isTarget, samePred, completed, order⟩
    exact ⟨pred, edit.completed_kept predMember completed, isTarget, samePred, completed, order⟩
  · have outcome := moved.status
    simp [pending] at outcome
  · exact absurd ofProcess foreign.1

/-- The step of a write that needs a call process. -/
theorem SpawnsNothing.unlocks (nothing : SpawnsNothing deployment process target before)
    {step : StepInstance} (member : step ∈ before.db.steps.rows)
    (ofProcess : step.processInstanceId = process) (pending : step.status = .pending)
    (may : MayUnlock deployment origin target before step)
    (enabled : isEnabled deployment = true) (calls : step.taskType = .callProcess) : False :=
  nothing step member ofProcess pending (may.reason.imp_left And.left)
    ⟨may.eligible, enabled, calls⟩

/-- An edit that spawns nothing makes a step ready, and reports it, or changes no step. -/
theorem Mirrored.edit (mirrored : Mirrored before.db) (linked : Linked before.db)
    (nothing : SpawnsNothing deployment process target before)
    (edit : Edit deployment origin process target before after) :
    Mirrored after.db ∧ ChangesReported before after := by
  cases edit with
  | hosted host silent =>
      obtain ⟨_, _, _, _, tables⟩ := host.tables
      exact mirrored.silent silent (by rw [tables]) (by rw [tables])
  | evaluated => exact mirrored.silent ⟨rfl, rfl, rfl, rfl⟩ rfl rfl
  | provisioned _ _ _ _ _ _ _ _ writes =>
      obtain ⟨_, _, _, _, _, _, _, rfl⟩ := writes
      exact mirrored.silent ⟨rfl, rfl, rfl, rfl⟩ rfl rfl
  | readied step set sets member _ pending _ host report =>
      obtain ⟨proc, procMember, ofProcess⟩ := linked.stepProcess step member
      have found : before.db.instance? step.processInstanceId = some proc :=
        Table.find?_eq_some.mpr ⟨procMember, ofProcess⟩
      have changed : Changed step .ready before after :=
        ⟨set, sets, after, host, report, .refl after, .refl after⟩
      exact ⟨mirrored.changed found member rfl rfl changed,
        changed.reported found member rfl rfl (by simp [pending])⟩
  | blocked step _ _ member ofProcess pending calls _ may enabled =>
      exact (nothing.unlocks member ofProcess pending may enabled calls).elim
  | spawned step _ _ _ _ _ member ofProcess pending calls _ _ _ may _ enabled =>
      exact (nothing.unlocks member ofProcess pending may enabled calls).elim

theorem Mirrored.edits (mirrored : Mirrored before.db) (linked : Linked before.db)
    (nothing : SpawnsNothing deployment process target before)
    (edits : Edits deployment origin process target before after) :
    Mirrored after.db ∧ ChangesReported before after := by
  suffices all : (Mirrored after.db ∧ ChangesReported before after) ∧ Linked after.db ∧
      SpawnsNothing deployment process target after from all.1
  induction edits with
  | refl => exact ⟨⟨mirrored, .refl before⟩, linked, nothing⟩
  | tail _ edit ih =>
      obtain ⟨⟨mirrored, first⟩, linked, nothing⟩ := ih
      obtain ⟨mirrored', last⟩ := mirrored.edit linked nothing edit
      exact ⟨⟨mirrored', first.trans last⟩, linked.edit edit, nothing.edit edit⟩

/-- Edits leave what the steps behind a step call. -/
theorem Edits.nextSpawns {before after : World} {step fresh : StepInstance} {target : Nat}
    (edits : Edits deployment before step.processInstanceId target before after)
    (same : SameStep step fresh)
    (next : ∀ next ∈ StepOrchestrator.nextSteps before.db step.processInstanceId step.stepOrder,
      ¬ Spawns deployment before next) :
    ∀ next ∈ StepOrchestrator.nextSteps after.db fresh.processInstanceId fresh.stepOrder,
      ¬ Spawns deployment after next := by
  intro other selected spawns
  rw [same.process, same.order] at selected
  have selectedBefore := Edits.nextSteps edits selected
  obtain ⟨member, ofProcess, _, _⟩ := mem_nextSteps.mp selectedBefore
  exact next other selectedBefore
    ((Edits.sameInputs edits ⟨other, member, rfl⟩ ofProcess).spawns.mp spawns)

end Edits

/-- Behind a step that is not pending only the next steps are unlocked. -/
theorem SpawnsNothing.of_next {w : World} {row : StepInstance} (member : row ∈ w.db.steps.rows)
    (begun : row.status ≠ .pending)
    (next : ∀ step ∈ nextSteps w.db row.processInstanceId row.stepOrder,
      ¬ Spawns deployment w step) :
    SpawnsNothing deployment row.processInstanceId row.stepInstanceId w := by
  rintro step stepMember ofProcess pending (isTarget | ⟨pred, predMember, isTarget, _, _, order⟩)
  · rw [Table.eq_of_key_eq stepMember member isTarget] at pending
    exact absurd pending begun
  · rw [Table.eq_of_key_eq predMember member isTarget] at order
    exact next step (mem_nextSteps.mpr ⟨stepMember, ofProcess, order.symm, pending⟩)

/-- `SpawnsNothing.of_next` for a step that was just completed. -/
theorem StepWritten.spawnsNothing {step : StepInstance} {before completed : World}
    (written : StepWritten step before completed) (member : step ∈ before.db.steps.rows)
    (next : ∀ next ∈ StepOrchestrator.nextSteps before.db step.processInstanceId step.stepOrder,
      ¬ Spawns deployment before next) :
    SpawnsNothing deployment step.processInstanceId step.stepInstanceId completed := by
  obtain ⟨row, rowMember, key, process, order, status⟩ := written.row member
  rw [← key, ← process]
  refine .of_next rowMember (by simp [status]) fun other selected spawns => ?_
  rw [process, order, written.nextSteps member] at selected
  exact next other selected ((written.sameInputs deployment other).spawns.mp spawns)

theorem Mirrored.stepCompleted {step : StepInstance} {before after : World}
    (mirrored : Mirrored before.db) (linked : Linked before.db)
    (member : step ∈ before.db.steps.rows) (unfinished : step.status ≠ .completed)
    (completes : StepCompleted step before after) :
    Mirrored after.db ∧ ChangesReported before after := by
  obtain ⟨proc, procMember, ofProcess⟩ := linked.stepProcess step member
  have found : before.db.instance? step.processInstanceId = some proc :=
    Table.find?_eq_some.mpr ⟨procMember, ofProcess⟩
  rcases completes.reports with completed | ⟨ready, middle, started, completed⟩
  · exact ⟨mirrored.changed found member rfl rfl completed,
      completed.reported found member rfl rfl (Ne.symm unfinished)⟩
  · obtain ⟨set, sets, told, host, _, rest, _⟩ := id started
    obtain ⟨_, _, _, _, shape⟩ := host.tables.trans rest.tables
    have written : set step ∈ middle.db.steps.rows := by
      rw [shape]
      exact (mem_setStep sets.key).mpr (.inl ⟨step, member, rfl, rfl⟩)
    have found' : middle.db.instance? step.processInstanceId = some proc := by
      rw [shape]
      exact found
    have mirrored' := mirrored.changed found member rfl rfl started
    exact ⟨mirrored'.changed found' written (sets.key step) (sets.process step) completed,
      (started.reported found member rfl rfl (by simp [ready])).trans
        (completed.reported found' written (sets.key step) (sets.process step)
          (by simp [sets.status]))⟩

theorem Mirrored.settles {origin before after : World} {process target : Nat}
    {result : Option Nat} (mirrored : Mirrored before.db) (linked : Linked before.db)
    (nothing : SpawnsNothing deployment process target before)
    (settles : Settles deployment origin process target before result after) :
    Mirrored after.db ∧ ChangesReported before after := by
  obtain ⟨middle, edits, settlement, _⟩ := settles
  obtain ⟨mirrored', first⟩ := mirrored.edits linked nothing edits
  obtain ⟨mirrored'', last⟩ := mirrored'.settlement settlement
  exact ⟨mirrored'', first.trans last⟩

theorem Mirrored.completes {origin before completed after : World} {step : StepInstance}
    {target : Nat} {result : Option Nat} (mirrored : Mirrored before.db)
    (linked : Linked before.db) (member : step ∈ before.db.steps.rows)
    (isTarget : step.stepInstanceId = target) (unfinished : step.status ≠ .completed)
    (next : ∀ next ∈ nextSteps before.db step.processInstanceId step.stepOrder,
      ¬ Spawns deployment before next)
    (completes : StepCompleted step before completed)
    (settles : Settles deployment origin step.processInstanceId target completed result after) :
    Mirrored after.db ∧ ChangesReported before after := by
  obtain ⟨mirrored', first⟩ := mirrored.stepCompleted linked member unfinished completes
  have nothing := completes.spawnsNothing member next
  rw [isTarget] at nothing
  obtain ⟨mirrored'', last⟩ :=
    mirrored'.settles (linked.stepCompleted completes) nothing settles
  exact ⟨mirrored'', first.trans last⟩

/-! ## Calls that spawn nothing -/

namespace Engine

/-- No step behind the step is eligible and calls a process, unless unlocking the next
steps fails. -/
def NextSpawnsNothing (deployment : Deployment) (w : World) (step : StepInstance) : Prop :=
  NextFails deployment w step.processInstanceId step.stepOrder ∨
    ∀ next ∈ nextSteps w.db step.processInstanceId step.stepOrder, ¬ Spawns deployment w next

instance (w : World) (step : StepInstance) : Decidable (NextSpawnsNothing deployment w step) :=
  inferInstanceAs (Decidable (_ ∨ ∀ next ∈ nextSteps w.db step.processInstanceId step.stepOrder,
    _))

/-- The call blocks no step for a child process. -/
def ReportsChanges (deployment : Deployment) (w : World) : Call → Prop
  | .attemptAdvance target _ => ∀ step ∈ w.db.step? target, isFinished step.status = false →
      AdvanceFails deployment w step ∨
        (step.status = .pending → ¬ Spawns deployment w step) ∧
          (Runs deployment w step → NextSpawnsNothing deployment w step)
  | .markCompleted target _ => ∀ step ∈ w.db.step? target,
      isCompletable deployment w.db step = true → NextSpawnsNothing deployment w step
  | .resumeParent target _ => ∀ step ∈ w.db.step? target, step.status = .completed →
      NextSpawnsNothing deployment w step
  | _ => True

instance (w : World) : ∀ call, Decidable (ReportsChanges deployment w call)
  | .attemptAdvance target _ =>
      inferInstanceAs (Decidable (∀ step ∈ w.db.step? target, _ → _ ∨ (_ → ¬ _) ∧ (_ → _)))
  | .markCompleted target _ => inferInstanceAs (Decidable (∀ step ∈ w.db.step? target, _ → _))
  | .resumeParent target _ => inferInstanceAs (Decidable (∀ step ∈ w.db.step? target, _ → _))
  | .startProcess _ | .handleChildTerminal _ _ _ | .validateByCustomInstanceId _ _ _
  | .createSubmission _ _ _ | .updateRequirement _ _ | .markProcessCompletedIfEligible _
  | .approveSubmission _ | .writeSubmission _ _ | .updateCustomObjectInstance _ _ _ _
  | .listener _ _ =>
      inferInstanceAs (Decidable True)

section Calls

variable {w after : World}

/-- `attemptAdvance` spawns nothing where its step does not, nor one behind it. -/
private theorem advanced_mirrored {target : Nat} {result : Option Nat} (mirrored : Mirrored w.db)
    (linked : Linked w.db) (advanced : Advanced deployment w target result after)
    (sound : ∀ step, w.db.step? target = some step → isFinished step.status = false →
      ¬ AdvanceFails deployment w step)
    (opts : AdvanceOptions)
    (guard : ReportsChanges deployment w (.attemptAdvance target opts)) :
    Mirrored after.db ∧ ChangesReported w after := by
  have nothing : ∀ step, w.db.step? target = some step → isFinished step.status = false →
      SpawnsNothing deployment step.processInstanceId target w := by
    rintro step found unfinished other member ofProcess pending
      (isTarget | ⟨pred, predMember, isTarget, _, completed, _⟩)
    · have isStep : other = step := Table.eq_of_key_eq member (Table.mem_of_find? found)
        (isTarget.trans (Table.key_of_find? found).symm)
      subst isStep
      exact ((guard other found unfinished).resolve_left (sound other found unfinished)).1 pending
    · have isStep : pred = step := Table.eq_of_key_eq predMember (Table.mem_of_find? found)
        (isTarget.trans (Table.key_of_find? found).symm)
      rw [isStep] at completed
      simp [isFinished, completed] at unfinished
  cases advanced with
  | refused => exact ⟨mirrored, .refl w⟩
  | waiting step found unfinished _ edits =>
      exact mirrored.edits linked (nothing step found unfinished) edits
  | unlocked step found pending _ edits =>
      exact mirrored.edits linked (nothing step found (by simp [isFinished, pending])) edits
  | ran step fresh found begun eligible edits member same automated ready completes settles =>
      have unfinished : isFinished step.status = false := by
        rcases begun with pending | ready
        · simp [isFinished, pending]
        · simp [isFinished, ready]
      have runs : Runs deployment w step := ⟨same.task ▸ automated, begun, eligible⟩
      have key : step.stepInstanceId = target := Table.key_of_find? found
      obtain ⟨mirrored', first⟩ :=
        mirrored.edits linked (nothing step found unfinished) edits
      have sound := sound step found unfinished
      have next := (((guard step found unfinished).resolve_left sound).2 runs).resolve_left
        fun fails => sound (.inr (.inr ⟨runs, fails⟩))
      rw [← same.process] at settles
      obtain ⟨mirrored'', last⟩ := mirrored'.completes (linked.edits edits) member
        (same.key.trans key) (by simp [ready]) (edits.nextSpawns same next) completes settles
      exact ⟨mirrored'', first.trans last⟩

private theorem marked_mirrored {target : Nat} {result : Option Nat} (mirrored : Mirrored w.db)
    (linked : Linked w.db) (marked : Marked deployment w target result after)
    (sound : ∀ step, w.db.step? target = some step → isCompletable deployment w.db step = true →
      ¬ NextFails deployment w step.processInstanceId step.stepOrder)
    (opts : AdvanceOptions)
    (guard : ReportsChanges deployment w (.markCompleted target opts)) :
    Mirrored after.db ∧ ChangesReported w after := by
  cases marked with
  | refused => exact ⟨mirrored, .refl w⟩
  | marked step found completable completes settles =>
      have unfinished : step.status ≠ .completed := fun completed => by
        simp [isCompletable, completed] at completable
      exact mirrored.completes linked (Table.mem_of_find? found) (Table.key_of_find? found)
        unfinished ((guard step found completable).resolve_left (sound step found completable))
        completes settles

private theorem resumed_mirrored {target : Nat} {result : Option Nat} (mirrored : Mirrored w.db)
    (linked : Linked w.db) (resumed : Resumed deployment w target result after)
    (sound : ∀ step, w.db.step? target = some step → step.status = .completed →
      ¬ NextFails deployment w step.processInstanceId step.stepOrder)
    (opts : AdvanceOptions)
    (guard : ReportsChanges deployment w (.resumeParent target opts)) :
    Mirrored after.db ∧ ChangesReported w after := by
  cases resumed with
  | refused => exact ⟨mirrored, .refl w⟩
  | resumed step found completed settles =>
      have key : step.stepInstanceId = target := Table.key_of_find? found
      have nothing : SpawnsNothing deployment step.processInstanceId step.stepInstanceId w :=
        .of_next (Table.mem_of_find? found) (by simp [completed])
          ((guard step found completed).resolve_left (sound step found completed))
      rw [key] at nothing
      exact mirrored.settles linked nothing settles

/-- A call that opens no transaction reaches no host and writes no step. -/
private theorem untransacted_mirrored {call : Call} (mirrored : Mirrored w.db)
    (effect : Effect deployment w call after) (single : ¬ Transacts call) :
    Mirrored after.db ∧ ChangesReported w after := by
  cases effect with
  | unchanged => exact ⟨mirrored, .refl w⟩
  | raised _ _ _ _ transacts => exact absurd transacts single
  | started => exact absurd trivial single
  | advanced => exact absurd trivial single
  | marked => exact absurd trivial single
  | resumed => exact absurd trivial single
  | childTerminal _ _ _ child _ _ _ link =>
      obtain ⟨isChild, parentStep, _, _⟩ := childLink_eq_some link
      rw [mirrored.childless child (Table.mem_of_find? isChild)] at parentStep
      cases parentStep
  | eligible processInstanceId eligible =>
      unfold isEligibleChild at eligible
      obtain ⟨⟨proc, found, parent⟩, _⟩ :=
        (Bool.and_eq_true_iff.mp eligible).imp_left (Option.any_eq_true _ _).mp
      obtain ⟨_, isChild, _⟩ := hasParentStep_iff.mp parent
      rw [mirrored.childless proc (Table.mem_of_find? found)] at isChild
      cases isChild
  | validated _ _ _ validated =>
      obtain ⟨_, _, _, _, _, _, _, rfl⟩ := validated
      exact mirrored.silent ⟨rfl, rfl, rfl, rfl⟩ rfl rfl
  | evidence _ only =>
      obtain ⟨_, _, _, _, _, rfl⟩ := only
      exact mirrored.silent ⟨rfl, rfl, rfl, rfl⟩ rfl rfl
  | triggersMarked event =>
      obtain ⟨_, shape⟩ := w.db.markTriggers_shape w.now
        (EventBridge.metTriggers deployment event none w)
      unfold EventBridge.marked
      rw [shape]
      exact mirrored.silent ⟨rfl, rfl, rfl, rfl⟩ rfl rfl

theorem perform_mirrored {call : Call} (mirrored : Mirrored w.db) (linked : Linked w.db)
    (guard : ReportsChanges deployment w call) :
    Program.wp (perform deployment call)
      (fun _ w' => Mirrored w'.db ∧ ChangesReported w w') (fun _ w' => Mirrored w'.db) w := by
  have rolledBack : ∀ later : World, Mirrored (w.rollback later).db := fun later =>
    ⟨mirrored.childless, ⟨mirrored.owned.owner, mirrored.owned.single, mirrored.owned.mapped⟩,
      mirrored.columns⟩
  by_cases transacts : Transacts call
  · cases call with
    | startProcess params =>
        unfold perform ProcessLifecycle.startProcess
        rw [Program.wp_bind, wp_transaction]
        refine Program.wp_mono (Program.wp_and
          (ProcessLifecycle.startProcessIn_started deployment _ w)
          (ProcessLifecycle.startProcessIn_reported deployment _ w)) ?_
          (fun _ later _ => rolledBack later)
        rintro _ w' ⟨⟨⟨row, start, key⟩, _⟩, _, _, reported⟩
        exact mirrored.started rfl start (key ▸ reported)
    | attemptAdvance target opts =>
        unfold perform
        rw [Program.wp_bind, wp_transaction]
        exact Program.wp_mono (attemptAdvanceIn_advanced target opts w)
          (fun _ _ done => advanced_mirrored mirrored linked done.1 done.2 opts guard)
          (fun _ later _ => rolledBack later)
    | markCompleted target opts =>
        unfold perform
        rw [Program.wp_bind, wp_transaction]
        exact Program.wp_mono (markCompletedIn_marked target opts w)
          (fun _ _ done => marked_mirrored mirrored linked done.1 done.2 opts guard)
          (fun _ later _ => rolledBack later)
    | resumeParent target opts =>
        unfold perform
        rw [Program.wp_bind, wp_transaction]
        exact Program.wp_mono (resumeParentIn_resumed target opts w)
          (fun _ _ done => resumed_mirrored mirrored linked done.1 done.2 opts guard)
          (fun _ later _ => rolledBack later)
    | _ => exact transacts.elim
  · exact Program.wp_mono (perform_effect deployment call w)
      (fun _ _ effect => untransacted_mirrored mirrored effect transacts)
      (fun _ _ effect => (untransacted_mirrored mirrored effect transacts).1)

end Calls

/-- A call that commits has reported every change of a step it made. -/
def CommitReports (deployment : Deployment) (state : State) (action : Action) : Prop :=
  ∀ call, (turn state action).call = some call → ∀ next after,
    perform deployment call (turn state action).world = (.ok next, after) →
      ChangesReported (turn state action).world after

/-- In a run that blocks no step for a child process, every committed call reports the
changes of the steps, in order and once; and the process-controlled tasks stand in the
columns of their steps, as they did before the run. -/
theorem changes_mirrored {start : State} (linked : Linked start.world.db)
    (mirrored : Mirrored start.world.db) {actions : List Action}
    (guarded : (system deployment).Guarded (Meets (ReportsChanges deployment)) start actions) :
    (system deployment).Guarded (CommitReports deployment) start actions ∧
      TasksMirrored ((system deployment).run start actions).world.db := by
  let inv := fun state : State => Linked state.world.db ∧ Mirrored state.world.db
  have initial : inv start := ⟨linked, mirrored⟩
  have kept : ∀ state action, inv state → Meets (ReportsChanges deployment) state action →
      inv ((system deployment).step state action) := by
    rintro state action ⟨linked, mirrored⟩ meets
    rw [← turn_db state action] at linked mirrored
    rcases step_world deployment state action with ⟨call, isCall, effect⟩ | ⟨_, world⟩
    · refine ⟨effect.linked linked, ?_⟩
      show Mirrored (step deployment state action).world.db
      rw [step_of_call isCall, execute_world]
      exact Program.wp_end (fun w' : World => Mirrored w'.db)
        (Program.wp_mono (perform_mirrored mirrored linked (meets call isCall))
          (fun _ _ done => done.1) (fun _ _ raised => raised))
    · show Linked (step deployment state action).world.db ∧
        Mirrored (step deployment state action).world.db
      rw [world]
      exact ⟨linked, mirrored⟩
  constructor
  · refine @StepSystem.Guarded.strengthen _ _ _ inv _ _ kept ?_ _ initial _ guarded
    rintro state action ⟨linked, mirrored⟩ meets call isCall next after committed
    rw [← turn_db state action] at linked mirrored
    exact (Program.wp_ok (perform_mirrored mirrored linked (meets call isCall)) committed).2
  · exact (@StepSystem.run_guarded _ _ _ inv _ kept _ initial _ guarded).2.columns

/-- Two manual steps in front of one that calls a process. -/
def callsLast : Templates where
  steps := [.row 1 .manual 1 none, .row 1 .manual 2 none, .row 1 .callProcess 3 (some 2),
    .row 2 .manual 1 none]
  requirements := []
  triggers := []
  bindings := []
  configObjects := []

/-- A process in which nothing was done yet. -/
def untouched : State :=
  (system .allEnabled).step (installed callsLast) (.invoke (.startProcess (.workflow 1 1 .ignore)))

/-- A task of project 7 that the process controls. -/
def controlledTask (stepInstanceId taskStatusId : Nat) : Task where
  taskId := 0
  projectId := 7
  tenantId := 1
  stepInstanceId := some stepInstanceId
  name := "task"
  taskStatusId := taskStatusId
  statusControl := .process

/-- The process with project 7 as its subject: each state has a column, and each step a
task in the column of its state. -/
def hostedByProject : State where
  world := { untouched.world with
    db := { untouched.world.db with
      processInstances := untouched.world.db.processInstances.update (fun _ => true)
        (fun row => { row with subjectType := .project, subjectId := 7 }) (fun _ => rfl)
      tasks := .ofRows [controlledTask 1 2, controlledTask 2 1, controlledTask 3 1]
      statusMappings := .ofRows
        [⟨0, 7, none, .pending, 1⟩, ⟨0, 7, none, .ready, 2⟩, ⟨0, 7, none, .inProgress, 3⟩,
          ⟨0, 7, none, .completed, 4⟩, ⟨0, 7, none, .blocked, 5⟩, ⟨0, 7, none, .canceled, 4⟩] } }
  tasks := []

theorem childless_hostedByProject :
    ∀ row ∈ hostedByProject.world.db.processInstances.rows, row.parentStepId = none := by
  decide

theorem linked_hostedByProject : Linked hostedByProject.world.db where
  stepProcess := by decide
  triggerStep := by decide
  hosted := by decide
  caller child member parentStepId isChild := by
    rw [childless_hostedByProject child member] at isChild
    cases isChild
  root := by decide
  onlyChild first member _ _ parentStepId isChild _ := by
    rw [childless_hostedByProject first member] at isChild
    cases isChild
  orders := by decide

theorem mirrored_hostedByProject : Mirrored hostedByProject.world.db where
  childless := childless_hostedByProject
  owned :=
    { owner := by
        show ∀ task ∈ hostedByProject.world.db.tasks.rows,
          ∀ stepInstanceId ∈ task.stepInstanceId, _
        decide
      single := by
        have distinct : ∀ task ∈ hostedByProject.world.db.tasks.rows,
            ∀ other ∈ hostedByProject.world.db.tasks.rows,
              task.stepInstanceId = other.stepInstanceId → task.taskId = other.taskId := by
          decide
        intro task member other otherMember stepInstanceId ofStep otherOfStep
        exact Table.eq_of_key_eq member otherMember
          (distinct task member other otherMember (ofStep.trans otherOfStep.symm))
      mapped := by
        intro task member _ state
        have project : ∀ task ∈ hostedByProject.world.db.tasks.rows, task.projectId = 7 := by
          decide
        rw [project task member]
        cases state <;> decide }
  columns := by decide

/-- The second step becomes ready, and its task follows. -/
theorem changes_mirrored_hostedByProject :
    (system .allEnabled).Guarded (CommitReports .allEnabled) hostedByProject
        [.invoke (.markCompleted 1 .none)] ∧
      TasksMirrored ((system .allEnabled).run hostedByProject
        [.invoke (.markCompleted 1 .none)]).world.db :=
  changes_mirrored linked_hostedByProject mirrored_hostedByProject (by decide)

/-- The first step is completed. -/
def secondReady : State :=
  (system .allEnabled).step hostedByProject (.invoke (.markCompleted 1 .none))

/-- What completing the second step leaves. -/
def thirdBlocked : Except String (List Call) × World :=
  perform .allEnabled (.markCompleted 2 .none) secondReady.world

/-- The last step is blocked, its host is not told, and its task stays where it was. -/
theorem block_unreported :
    Linked hostedByProject.world.db ∧ Mirrored hostedByProject.world.db ∧
    ¬ (system .allEnabled).Guarded (CommitReports .allEnabled) hostedByProject
        [.invoke (.markCompleted 1 .none), .invoke (.markCompleted 2 .none)] ∧
      ¬ TasksMirrored ((system .allEnabled).run hostedByProject
        [.invoke (.markCompleted 1 .none), .invoke (.markCompleted 2 .none)]).world.db := by
  refine ⟨linked_hostedByProject, mirrored_hostedByProject, ?_, by decide +kernel⟩
  rintro ⟨_, reports, _⟩
  have commits : thirdBlocked.1.isOk = true := by decide +kernel
  have silent : ¬ ∀ step ∈ secondReady.world.db.steps.rows,
      ∀ row ∈ thirdBlocked.2.db.steps.rows, row.stepInstanceId = step.stepInstanceId →
        ChangesTo step.status (reportedStates step.stepInstanceId
          (thirdBlocked.2.hostCalls.drop secondReady.world.hostCalls.length)) row.status := by
    decide +kernel
  rcases run : thirdBlocked with ⟨_ | next, after⟩
  · rw [run] at commits
    cases commits
  · rw [run] at silent
    exact silent (reports (.markCompleted 2 .none) rfl next after run).states

end Engine

end CoreApi.Automation
