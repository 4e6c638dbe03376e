import CoreApi.Automation.CallWrites

/-!
# Steps of completed processes

An instance is completed only where all its steps are, and a step that is over is
written only by a child that ended: a completed process has no open step.
-/

namespace CoreApi.Automation

open CoreApi.Foundation StepOrchestrator ChildProcessOrchestration

variable {deployment : Deployment}

/-- The step is over: `completed` or `canceled`. -/
def IsOverStatus (status : StepStatus) : Prop := status = .completed ∨ status = .canceled

instance (status : StepStatus) : Decidable (IsOverStatus status) :=
  inferInstanceAs (Decidable (_ ∨ _))

/-- The steps of a completed process are over. -/
def StepsOver (db : Database) : Prop :=
  ∀ row ∈ db.processInstances.rows, row.status = .completed →
    ∀ step ∈ db.steps.rows, step.processInstanceId = row.processInstanceId → IsOverStatus step.status

namespace StepsOver

theorem same {before after : Database} (ended : StepsOver before)
    (instances : after.processInstances.rows = before.processInstances.rows)
    (steps : after.steps.rows = before.steps.rows) : StepsOver after := by
  unfold StepsOver
  rw [instances, steps]
  exact ended

theorem hostTables {before after : Database} (ended : StepsOver before)
    (tables : HostTables before after) : StepsOver after := by
  obtain ⟨_, _, _, _, rfl⟩ := tables
  exact ended.same rfl rfl

/-- A step ends, or was pending and so belongs to no completed process. -/
theorem setStep {db : Database} (ended : StepsOver db) {stepInstanceId : Nat}
    {status : StepStatus} {set : StepInstance → StepInstance} (sets : SetsStatus status set)
    (allowed : IsOverStatus status ∨
      ∃ step ∈ db.steps.rows, step.stepInstanceId = stepInstanceId ∧ step.status = .pending) :
    StepsOver (db.setStep stepInstanceId set sets.key) := by
  intro row member completed step stepMember ofProcess
  rcases (mem_setStep sets.key).mp stepMember with ⟨old, oldMember, same, rfl⟩ | ⟨untouched, _⟩
  · rw [sets.status]
    rcases allowed with ends | ⟨pendingStep, pendingMember, key, pending⟩
    · exact ends
    · obtain rfl : pendingStep = old :=
        Table.eq_of_key_eq pendingMember oldMember (key.trans same.symm)
      have isOver := ended row member completed pendingStep pendingMember
        ((sets.process pendingStep).symm.trans ofProcess)
      rw [pending] at isOver
      rcases isOver with impossible | impossible <;> cases impossible
  · exact ended row member completed step untouched ofProcess

/-- A process is not written `completed`, or its steps are over. -/
theorem setInstance {db : Database} (ended : StepsOver db) {processInstanceId : Nat}
    {next : InstanceStatus → InstanceStatus} {set : ProcessInstance → ProcessInstance}
    (sets : SetsInstance next set)
    (allowed : (∀ status, next status = .completed → status = .completed) ∨
      ∀ step ∈ db.stepsOf processInstanceId, step.status = .completed) :
    StepsOver (db.setInstance processInstanceId set sets.key) := by
  intro row member completed step stepMember ofProcess
  rcases (mem_setInstance sets.key).mp member with ⟨old, oldMember, same, rfl⟩ | ⟨untouched, _⟩
  · rw [sets.key] at ofProcess
    rcases allowed with keeps | done
    · rw [sets.status] at completed
      exact ended old oldMember (keeps _ completed) step stepMember ofProcess
    · exact .inl (done step (mem_stepsOf.mpr ⟨stepMember, ofProcess.trans same⟩))
  · exact ended row untouched completed step stepMember ofProcess

theorem setContext {db : Database} (ended : StepsOver db) (processInstanceId : Nat)
    (context : Option Record) :
    StepsOver (db.setInstance processInstanceId (fun row => { row with context := context })
      (setsInstance_context context).key) :=
  ended.setInstance (setsInstance_context context) (.inl fun _ completed => completed)

theorem completeInstance {db : Database} (ended : StepsOver db) {processInstanceId : Nat}
    (time : String)
    (allDone : ProcessCompletion.areAllStepsCompleted db processInstanceId = true) :
    StepsOver (db.setInstance processInstanceId (completedInstance time)
      (completedInstance_key time)) := by
  refine ended.setInstance (setsInstance_completed time) (.inr fun step member => ?_)
  simp only [ProcessCompletion.areAllStepsCompleted, Bool.and_eq_true, beq_iff_eq,
    List.countP_eq_length] at allDone
  exact allDone.1 step member

theorem started {before after : World} {params : StartProcessParams} {row : ProcessInstance}
    (ended : StepsOver before.db) (start : Started params row before after) :
    StepsOver after.db := by
  intro other member completed step stepMember ofProcess
  rw [start.instances] at member
  rw [start.steps] at stepMember
  rcases List.mem_append.mp member with old | new
  · rcases List.mem_append.mp stepMember with oldStep | added
    · exact ended other old completed step oldStep ofProcess
    · -- the new steps belong to the new process
      have isNew := ProcessInstantiation.addedSteps_process added
      rw [start.fresh.key] at isNew
      have bound := (before.db.processInstances.bounded other old).2
      exact absurd (ofProcess.symm.trans isNew) (Nat.ne_of_lt bound)
  · rw [List.mem_singleton.mp new, start.fresh.active] at completed
    cases completed

theorem edit {origin before after : World} {process target : Nat}
    (ended : StepsOver before.db)
    (edit : Edit deployment origin process target before after) : StepsOver after.db := by
  cases edit with
  | hosted host => exact ended.hostTables host.tables
  | evaluated => exact ended.same rfl rfl
  | provisioned _ _ _ _ _ _ _ _ writes =>
      obtain ⟨_, _, _, _, _, _, _, rfl⟩ := writes
      exact ended.same rfl rfl
  | readied step _ sets member _ pending _ host =>
      exact (ended.setStep sets (.inr ⟨step, member, rfl, pending⟩)).hostTables host.tables
  | blocked step _ sets member _ pending =>
      exact ended.setStep sets (.inr ⟨step, member, rfl, pending⟩)
  | spawned step _ sets _ _ _ member _ pending _ _ _ start =>
      exact (ended.started start).setStep sets
        (.inr ⟨step, start.step_kept member, rfl, pending⟩)

theorem keptByWrites (origin : World) (call : Engine.Call) :
    Engine.KeptByWrites deployment (fun w => StepsOver w.db) origin call where
  rolledBack _ rolledBack _ ended := by
    simp only [rolledBack]
    exact ended.same rfl rfl
  started _ start _ ended := ended.started start
  edit edit ended := ended.edit edit
  completed _ _ _ _ _ completes ended := by
    obtain ⟨_, sets, tables⟩ := completes.tables
    exact (setStep ended sets (.inl (.inl rfl))).hostTables tables
  settled settlement ended := by
    cases settlement with
    | idle => exact ended
    | child _ allDone => exact completeInstance ended _ allDone
    | announced proc allDone _ found _ announced =>
        rw [← Table.key_of_find? found] at allDone
        exact (completeInstance ended _ allDone).hostTables announced.tables
  told _ _ told ended := by
    cases told with
    | paused context => exact setContext ended _ context
    | failed context =>
        exact setStep (setInstance (setContext ended _ context) (setsInstance_canceled origin.now)
          (.inl fun _ impossible => by cases impossible))
          (setsStatus_canceledByChild origin.now) (.inl (.inr rfl))
    | resumed context =>
        exact setStep (setContext ended _ context) (setsStatus_completedByChild origin.now)
          (.inl (.inl rfl))
  eligible eligible ended := by
    simp only [isEligibleChild, Bool.and_eq_true] at eligible
    refine completeInstance ended _ ?_
    simp only [ProcessCompletion.areAllStepsCompleted, Bool.and_eq_true]
    exact eligible.2
  validated _ validated ended := by
    obtain ⟨_, _, _, _, _, _, _, rfl⟩ := validated
    exact same ended rfl rfl
  evidence only _ ended := by
    obtain ⟨_, _, _, _, _, rfl⟩ := only
    exact same ended rfl rfl
  marked {event} _ ended := by
    obtain ⟨_, shape⟩ := origin.db.markTriggers_shape origin.now
      (EventBridge.metTriggers deployment event none origin)
    simp only [EventBridge.marked, shape]
    exact same ended rfl rfl

end StepsOver

/-! ## Reachable states -/

namespace Engine

theorem reachable_stepsOver {state : State} (reachable : Reachable deployment state) :
    StepsOver state.world.db := by
  refine reachable_database ?_ (fun w call _ effect ended =>
    effect.kept (StepsOver.keptByWrites w call) ended) reachable
  intro state fresh row member
  rw [fresh.processInstances] at member
  cases member

end Engine

end CoreApi.Automation
