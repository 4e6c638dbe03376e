import CoreApi.Automation.CallWrites
import CoreApi.Automation.LostCompletion
import CoreApi.Automation.ParentResumption

/-!
# Completions that are reported

The call that lets a root process complete completes it, or leaves a resumption in
flight that does. The exceptions wake nobody: a validation behind the last step, and a
child that did not complete.
-/

namespace CoreApi.Automation

open CoreApi.Foundation StepOrchestrator ChildProcessOrchestration ProcessCompletion

variable {deployment : Deployment} {processInstanceId : Nat}

/-! ## Steps of a process -/

/-- The step is stored as a step of the process. -/
def OwnsStep (processInstanceId stepInstanceId : Nat) (db : Database) : Prop :=
  ∃ step ∈ db.stepsOf processInstanceId, step.stepInstanceId = stepInstanceId

namespace OwnsStep

variable {stepInstanceId : Nat}

theorem same {before after : Database} (owns : OwnsStep processInstanceId stepInstanceId before)
    (steps : after.steps.rows = before.steps.rows) :
    OwnsStep processInstanceId stepInstanceId after := by
  obtain ⟨step, member, key⟩ := owns
  exact ⟨step, mem_stepsOf.mpr (steps ▸ mem_stepsOf.mp member), key⟩

theorem setStep {db : Database} (owns : OwnsStep processInstanceId stepInstanceId db) {key : Nat}
    {status : StepStatus} {set : StepInstance → StepInstance} (sets : SetsStatus status set) :
    OwnsStep processInstanceId stepInstanceId (db.setStep key set sets.key) := by
  obtain ⟨step, member, isStep⟩ := owns
  obtain ⟨stepMember, ofProcess⟩ := mem_stepsOf.mp member
  by_cases isKey : step.stepInstanceId = key
  · exact ⟨set step, mem_stepsOf.mpr ⟨(mem_setStep sets.key).mpr
      (.inl ⟨step, stepMember, isKey, rfl⟩), (sets.process step).trans ofProcess⟩,
      (sets.key step).trans isStep⟩
  · exact ⟨step, mem_stepsOf.mpr ⟨(mem_setStep sets.key).mpr (.inr ⟨stepMember, isKey⟩),
      ofProcess⟩, isStep⟩

/-- No call removes a step or gives it to another process. -/
theorem keptByWrites (origin : World) (call : Engine.Call) :
    Engine.KeptByWrites deployment (fun w => OwnsStep processInstanceId stepInstanceId w.db)
      origin call where
  rolledBack _ rolledBack _ owns := by
    simp only [rolledBack]
    exact owns.same rfl
  started _ start _ owns := by
    obtain ⟨step, member, key⟩ := owns
    obtain ⟨stepMember, ofProcess⟩ := mem_stepsOf.mp member
    exact ⟨step, mem_stepsOf.mpr ⟨start.step_kept stepMember, ofProcess⟩, key⟩
  edit edit owns := by
    obtain ⟨step, member, key⟩ := owns
    obtain ⟨stepMember, ofProcess⟩ := mem_stepsOf.mp member
    rcases edit.image stepMember with kept | ⟨image, imageMember, moved⟩
    · exact ⟨step, mem_stepsOf.mpr ⟨kept, ofProcess⟩, key⟩
    · exact ⟨image, mem_stepsOf.mpr ⟨imageMember, moved.same.process.trans ofProcess⟩,
        moved.same.key.trans key⟩
  completed _ _ _ _ _ completes owns := by
    obtain ⟨_, sets, _, _, _, _, tables⟩ := completes.tables
    rw [tables]
    exact (setStep owns sets).same rfl
  settled settlement owns := same owns (by rw [settlement.steps])
  told _ _ told owns := by
    cases told with
    | paused => exact same owns rfl
    | failed => exact setStep (same owns rfl) (setsStatus_canceledByChild origin.now)
    | resumed => exact setStep (same owns rfl) (setsStatus_completedByChild origin.now)
  eligible _ owns := same owns rfl
  validated _ validated owns := by
    obtain ⟨_, _, _, _, _, _, _, rfl⟩ := validated
    exact same owns rfl
  evidence only _ owns := by
    obtain ⟨_, _, _, _, _, rfl⟩ := only
    exact same owns rfl
  marked {event} _ owns := by
    obtain ⟨_, shape⟩ := origin.db.markTriggers_shape origin.now
      (EventBridge.metTriggers deployment event none origin)
    simp only [EventBridge.marked, shape]
    exact same owns rfl

end OwnsStep

/-! ## Calls that wake nobody -/

instance (db : Database) : Decidable (IsRoot db processInstanceId) :=
  inferInstanceAs (Decidable (∃ row ∈ db.processInstances.rows, _ ∧ _))

/-- A root process whose steps are completed waits for one object at most. -/
def AwaitsObject (db : Database) (processInstanceId : Nat) (row : StepObjectInstance) : Prop :=
  IsRoot db processInstanceId ∧ ¬ StatusIs db processInstanceId .completed ∧
    areAllStepsCompleted db processInstanceId = true ∧
    ∀ step ∈ db.stepsOf processInstanceId, ∀ other ∈ db.objectInstances.rows,
      other.stepInstanceId = step.stepInstanceId →
        ConfigObjectStepExecutor.isBlocking db other = true →
          other.stepObjectInstanceId = row.stepObjectInstanceId

instance (db : Database) (row : StepObjectInstance) :
    Decidable (AwaitsObject db processInstanceId row) :=
  inferInstanceAs (Decidable (_ ∧ ¬ _ ∧ _ ∧ ∀ step ∈ db.stepsOf processInstanceId,
    ∀ other ∈ db.objectInstances.rows, _ → _ → _))

/-- A root process whose bindings hold waits for one step at most. -/
def AwaitsStep (deployment : Deployment) (db : Database) (processInstanceId : Nat)
    (stepInstanceId : Nat) : Prop :=
  IsRoot db processInstanceId ∧ ¬ StatusIs db processInstanceId .completed ∧
    (∀ step ∈ db.stepsOf processInstanceId, step.stepInstanceId ≠ stepInstanceId →
      step.status = .completed) ∧
    BindingsHold deployment db processInstanceId

instance (db : Database) (stepInstanceId : Nat) :
    Decidable (AwaitsStep deployment db processInstanceId stepInstanceId) :=
  inferInstanceAs (Decidable (_ ∧ ¬ _ ∧ (∀ step ∈ db.stepsOf processInstanceId, _ → _) ∧
    ∀ step ∈ db.stepsOf processInstanceId, _))

open ConfigObjectStepExecutor in
/-- The call does the last thing a process waits for and wakes nobody: it validates
the last object, or it completes the last step for a child that did not complete. -/
def Strands (deployment : Deployment) (processInstanceId : Nat) (w : World) : Engine.Call → Prop
  | .validateByCustomInstanceId configCustomObjectInstanceId _ _ =>
      ∃ link ∈ findLink w.db configCustomObjectInstanceId,
        AwaitsObject w.db processInstanceId link.row ∧
          ∃ row ∈ findCustomInstance w.db configCustomObjectInstanceId link.proc.tenantId,
            completionError w.db link row = none
  | .handleChildTerminal childProcessInstanceId terminalStatus _ =>
      ∃ link ∈ childLink w.db childProcessInstanceId,
        link.2.1.processInstanceId = processInstanceId ∧
          terminalOutcome terminalStatus link.2.1.onChildFailure = .resume ∧
            terminalStatus ≠ .completed ∧
              AwaitsStep deployment w.db processInstanceId link.2.2
  | _ => False

open ConfigObjectStepExecutor in
instance (w : World) : ∀ call, Decidable (Strands deployment processInstanceId w call)
  | .validateByCustomInstanceId configCustomObjectInstanceId _ _ =>
      inferInstanceAs (Decidable (∃ link ∈ findLink w.db configCustomObjectInstanceId,
        _ ∧ ∃ row ∈ findCustomInstance w.db configCustomObjectInstanceId link.proc.tenantId, _))
  | .handleChildTerminal childProcessInstanceId _ _ =>
      inferInstanceAs (Decidable (∃ link ∈ childLink w.db childProcessInstanceId, _ ∧ _ ∧ ¬ _ ∧ _))
  | .startProcess _ | .attemptAdvance _ _ | .markCompleted _ _ | .resumeParent _ _
  | .markProcessCompletedIfEligible _ | .createSubmission _ _ _ | .approveSubmission _
  | .writeSubmission _ _ | .updateRequirement _ _ | .updateCustomObjectInstance _ _ _ _
  | .listener _ _ => inferInstanceAs (Decidable False)

/-- The call reports a completed child of the process. -/
def ReportsChild (deployment : Deployment) (processInstanceId : Nat) (w : World) :
    Engine.Call → Prop
  | .handleChildTerminal childProcessInstanceId terminalStatus _ =>
      isEnabled deployment = true ∧ terminalStatus = .completed ∧
        ∃ link ∈ childLink w.db childProcessInstanceId,
          link.2.1.processInstanceId = processInstanceId
  | _ => False

/-! ## What a call leaves unreported -/

namespace Unreported

/-- A write that keeps the processes, the steps and what the bindings of a step read. -/
theorem of_rows {before after : Database}
    (unreported : Unreported deployment after processInstanceId)
    (instances : after.processInstances.rows = before.processInstances.rows)
    (steps : after.steps.rows = before.steps.rows)
    (bindings : ∀ stepInstanceId,
      ConfigObjectStepExecutor.areMandatoryBindingsValid deployment after stepInstanceId =
        ConfigObjectStepExecutor.areMandatoryBindingsValid deployment before stepInstanceId) :
    Unreported deployment before processInstanceId := by
  refine SameProgress.unreported ⟨?_, ?_, ?_, fun step _ => bindings step.stepInstanceId⟩ unreported
  · unfold IsRoot
    rw [instances]
    exact id
  · unfold StatusIs
    rw [instances]
    exact id
  · intro step
    rw [mem_stepsOf, mem_stepsOf, steps]

/-- A process that starts has steps to do. -/
theorem started {before after : World} {params : StartProcessParams} {row : ProcessInstance}
    (unreported : Unreported deployment after.db processInstanceId) (linked : Linked before.db)
    (start : Started params row before after) :
    Unreported deployment before.db processInstanceId := by
  obtain ⟨⟨step, member⟩, completed⟩ := areAllStepsCompleted_iff.mp unreported.allDone
  obtain ⟨other, otherMember, key, _⟩ := unreported.root
  rw [start.instances] at otherMember
  rcases List.mem_append.mp otherMember with old | new
  · have others := start.stepsOf_other (key ▸ start.key_ne old)
    refine (SameProgress.of_known ⟨other, old, key⟩ (fun _ kept => start.instance_kept kept)
      (fun step => by rw [others]) fun step known => ?_).unreported unreported
    exact start.bindings ⟨step, (mem_stepsOf.mp known).1, rfl⟩
  · obtain ⟨stepMember, ofProcess⟩ := mem_stepsOf.mp member
    have isNew : processInstanceId = row.processInstanceId := by
      rw [← key, List.mem_singleton.mp new]
    have done := completed step member
    rw [start.steps] at stepMember
    rcases List.mem_append.mp stepMember with old | added
    · obtain ⟨known, knownMember, isKnown⟩ := linked.stepProcess step old
      exact absurd (isKnown.trans (ofProcess.trans isNew)) (start.key_ne knownMember)
    · rcases ProcessInstantiation.addedSteps_status added with ⟨ready, _⟩ | ⟨pending, _⟩
      · rw [ready] at done
        cases done
      · rw [pending] at done
        cases done

open ConfigObjectStepExecutor in
/-- A validation leaves a process to report that waited for its object. -/
theorem validated {configCustomObjectInstanceId : Nat} {before after : World}
    (unreported : Unreported deployment after.db processInstanceId)
    (validated : Validated configCustomObjectInstanceId before after)
    (correlationId : Option String) (advance : Option AdvanceOptions) :
    Unreported deployment before.db processInstanceId ∨
      Strands deployment processInstanceId before
        (.validateByCustomInstanceId configCustomObjectInstanceId correlationId advance) := by
  obtain ⟨link, error, payload, events, isLink, ⟨row, isRow, _, verdict⟩, _, rfl⟩ := validated
  obtain ⟨linkMember, isStep⟩ := findLink_eq_some isLink
  by_cases holds : BindingsHold deployment before.db processInstanceId
  · exact .inl ⟨unreported.root, unreported.uncompleted, unreported.allDone, holds⟩
  have sets := recordVerdict_key error payload before.now
  -- Behind the validation no row of the process blocks.
  have opened : ∀ step ∈ before.db.stepsOf processInstanceId,
      ∀ other ∈ (before.db.setObjectInstance link.row.stepObjectInstanceId
        (recordVerdict error payload before.now) sets).objectInstances.rows,
        other.stepInstanceId = step.stepInstanceId → isBlocking before.db other = false := by
    intro step member
    have valid := unreported.bindings step member
    rw [areMandatoryBindingsValid_iff] at valid
    refine valid.resolve_left fun disabled => holds fun _ _ => ?_
    rw [areMandatoryBindingsValid_iff]
    exact .inl disabled
  have others : ∀ step ∈ before.db.stepsOf processInstanceId,
      ∀ other ∈ before.db.objectInstances.rows, other.stepInstanceId = step.stepInstanceId →
        isBlocking before.db other = true →
          other.stepObjectInstanceId = link.row.stepObjectInstanceId := by
    intro step member other otherMember ofStep blocking
    by_contra different
    have untouched := (mem_setObjectInstance sets).mpr (.inr ⟨otherMember, different⟩)
    rw [opened step member other untouched ofStep] at blocking
    cases blocking
  refine .inr ⟨link, isLink, ⟨unreported.root, unreported.uncompleted, unreported.allDone,
    others⟩, row, isRow, ?_⟩
  -- Some row blocked before: that of the link, which is mandatory and was valid then.
  obtain ⟨step, member, other, otherMember, ofStep, blocking⟩ :
      ∃ step ∈ before.db.stepsOf processInstanceId, ∃ other ∈ before.db.objectInstances.rows,
        other.stepInstanceId = step.stepInstanceId ∧ isBlocking before.db other = true := by
    by_contra none
    refine holds fun step member => areMandatoryBindingsValid_iff.mpr (.inr ?_)
    intro other otherMember ofStep
    by_contra blocking
    exact none ⟨step, member, other, otherMember, ofStep, Bool.eq_true_of_not_eq_false blocking⟩
  obtain rfl : other = link.row := Table.eq_of_key_eq otherMember linkMember
    (others step member other otherMember ofStep blocking)
  have written := opened step member _ ((mem_setObjectInstance sets).mpr
    (.inl ⟨link.row, linkMember, rfl, rfl⟩)) (by rw [← ofStep]; cases error <;> rfl)
  have mandatory : before.db.isMandatoryObject link.row = true := by
    unfold isBlocking at blocking
    simp only [Bool.and_eq_true] at blocking
    exact blocking.1.1
  rw [isBlocking_recordVerdict, mandatory, Bool.true_and, Option.isSome_eq_false_iff,
    Option.isNone_iff_eq_none] at written
  rw [← verdict, written]

theorem toldOther {child parent : ProcessInstance} {parentStepId : Nat}
    {terminalStatus : TerminalStatus} {childProcessInstanceId : Nat} {before after : World}
    (unreported : Unreported deployment after.db processInstanceId) (linked : Linked before.db)
    (link : childLink before.db childProcessInstanceId = some (child, parent, parentStepId))
    (other : parent.processInstanceId ≠ processInstanceId)
    (told : ParentTold before child parent parentStepId terminalStatus after) :
    Unreported deployment before.db processInstanceId := by
  obtain ⟨caller, stepOf, key, _⟩ := linked.callerOf link
  obtain ⟨member, callerOf⟩ := mem_stepsOf.mp stepOf
  have apart : ∀ step ∈ before.db.stepsOf processInstanceId,
      step.stepInstanceId ≠ parentStepId := by
    intro step stepOf same
    obtain ⟨stepMember, ofProcess⟩ := mem_stepsOf.mp stepOf
    have isCaller : step = caller := Table.eq_of_key_eq stepMember member (same.trans key.symm)
    exact other (callerOf.symm.trans (isCaller ▸ ofProcess))
  have merged : ∀ context, SameProgress deployment processInstanceId before.db _ := fun context =>
    @SameProgress.setInstance _ _ before.db parent.processInstanceId _ _
      (setsInstance_context context) fun _ => rfl
  cases told with
  | paused context => exact (merged context).unreported unreported
  | failed context =>
      refine SameProgress.unreported (((merged context).trans (SameProgress.setInstance
        (setsInstance_canceled before.now) fun same => absurd same other)).trans
          (SameProgress.setStep (setsStatus_canceledByChild before.now) apart)) unreported
  | resumed context =>
      exact SameProgress.unreported ((merged context).trans
        (SameProgress.setStep (setsStatus_completedByChild before.now) apart)) unreported

/-- A child that is told to the process: it paused it, or completed its last step. -/
theorem told {child parent : ProcessInstance} {parentStepId : Nat}
    {terminalStatus : TerminalStatus} {childProcessInstanceId : Nat} {before after : World}
    (unreported : Unreported deployment after.db processInstanceId) (linked : Linked before.db)
    (enabled : isEnabled deployment = true)
    (link : childLink before.db childProcessInstanceId = some (child, parent, parentStepId))
    (told : ParentTold before child parent parentStepId terminalStatus after)
    (opts : AdvanceOptions) :
    Unreported deployment before.db processInstanceId ∨
      ReportsChild deployment processInstanceId before
        (.handleChildTerminal childProcessInstanceId terminalStatus opts) ∨
      Strands deployment processInstanceId before
        (.handleChildTerminal childProcessInstanceId terminalStatus opts) := by
  by_cases other : parent.processInstanceId = processInstanceId
  case neg => exact .inl (unreported.toldOther linked link other told)
  obtain ⟨caller, stepOf, key, _⟩ := linked.callerOf link
  obtain ⟨member, callerOf⟩ := mem_stepsOf.mp stepOf
  have merged : ∀ context, SameProgress deployment processInstanceId before.db _ := fun context =>
    @SameProgress.setInstance _ _ before.db parent.processInstanceId _ _
      (setsInstance_context context) fun _ => rfl
  cases told with
  | paused context => exact .inl ((merged context).unreported unreported)
  | failed context =>
      -- The step that called is canceled, so not all steps are completed.
      have sets := setsStatus_canceledByChild before.now
      have done := (areAllStepsCompleted_iff.mp unreported.allDone).2
        (canceledByChild before.now caller) (mem_stepsOf.mpr ⟨(mem_setStep sets.key).mpr
          (.inl ⟨caller, member, key, rfl⟩), callerOf.trans other⟩)
      cases done
  | resumed context _ _ outcome =>
      by_cases completed : terminalStatus = .completed
      · exact .inr (.inl ⟨enabled, completed, _, link, other⟩)
      have sets := setsStatus_completedByChild before.now
      refine .inr (.inr ⟨_, link, other, outcome, completed, (merged context).root unreported.root,
        fun done => unreported.uncompleted ((merged context).completed done),
        fun step stepOf apart => ?_, fun step stepOf => ?_⟩)
      · obtain ⟨stepMember, ofProcess⟩ := mem_stepsOf.mp stepOf
        exact (areAllStepsCompleted_iff.mp unreported.allDone).2 step (mem_stepsOf.mpr
          ⟨(mem_setStep sets.key).mpr (.inr ⟨stepMember, apart⟩), ofProcess⟩)
      · obtain ⟨image, imageOf, sameKey⟩ := OwnsStep.setStep ⟨step, stepOf, rfl⟩ sets
        rw [← sameKey]
        exact unreported.bindings image imageOf

end Unreported

theorem Engine.Effect.unreported {before after : World} {call : Engine.Call}
    (effect : Engine.Effect deployment before call after) (linked : Linked before.db)
    (ended : ChildrenEnded before.db processInstanceId) (live : Live before.db processInstanceId)
    (unreported : Unreported deployment after.db processInstanceId) :
    Unreported deployment before.db processInstanceId ∨
      ReportsChild deployment processInstanceId before call ∨
      Strands deployment processInstanceId before call := by
  cases effect with
  | unchanged => exact .inl unreported
  | raised _ _ rolledBack =>
      rw [rolledBack] at unreported
      exact .inl (unreported.of_rows rfl rfl fun _ => rfl)
  | started _ _ start => exact .inl (unreported.started linked start)
  | advanced _ _ _ outcome =>
      cases outcome with
      | refused => exact .inl unreported
      | waiting _ _ _ _ edits => exact .inl (unreported.edits linked edits)
      | unlocked _ _ _ _ edits => exact .inl (unreported.edits linked edits)
      | ran step fresh found _ _ edits member same _ ready completes settles =>
          have open' : ¬ IsSettled fresh.status := by simp [ready, IsSettled]
          have linkedEdits := linked.edits edits
          obtain ⟨other, completed⟩ := unreported.settles (linkedEdits.stepCompleted completes)
            ((ended.edits edits).stepCompleted linkedEdits member open' completes)
            ((live.edits edits).stepCompleted member open' completes) settles
          rw [← same.process] at other
          exact .inl ((completed.stepCompleted member other completes).edits linked edits)
  | marked _ _ _ outcome =>
      cases outcome with
      | refused => exact .inl unreported
      | marked step found completable completes settles =>
          have member := Table.mem_of_find? found
          have open' : ¬ IsSettled step.status := by
            simp only [isCompletable, Bool.and_eq_true, Bool.or_eq_true, beq_iff_eq]
              at completable
            rcases completable.1 with begun | begun <;> simp [begun, IsSettled]
          obtain ⟨other, completed⟩ := unreported.settles (linked.stepCompleted completes)
            (ended.stepCompleted linked member open' completes)
            (live.stepCompleted member open' completes) settles
          exact .inl (completed.stepCompleted member other completes)
  | resumed _ _ _ outcome =>
      cases outcome with
      | refused => exact .inl unreported
      | resumed _ _ _ settles => exact .inl (unreported.settles linked ended live settles).2
  | childTerminal _ _ opts _ _ _ enabled link told =>
      exact unreported.told linked enabled link told opts
  | eligible => exact .inl ((SameProgress.completedInstance _ _ _).unreported unreported)
  | validated _ correlationId advance validated =>
      exact (unreported.validated validated correlationId advance).imp_right .inr
  | evidence _ only =>
      obtain ⟨_, _, _, _, _, rfl⟩ := only
      exact .inl (unreported.of_rows rfl rfl fun _ => rfl)
  | triggersMarked event =>
      obtain ⟨_, shape⟩ := before.db.markTriggers_shape before.now
        (EventBridge.metTriggers deployment event none before)
      rw [EventBridge.marked, shape] at unreported
      exact .inl (unreported.of_rows rfl rfl fun _ => rfl)

/-- Resuming a completed step of a process reports it, and never raises where all its steps
are completed. -/
theorem resumeParentIn_reports {step : StepInstance} (opts : AdvanceOptions) {w : World}
    (linked : Linked w.db) (ended : ChildrenEnded w.db processInstanceId)
    (live : Live w.db processInstanceId)
    (unreported : Unreported deployment w.db processInstanceId)
    (member : step ∈ w.db.stepsOf processInstanceId) :
    Program.wp (resumeParentIn deployment step.stepInstanceId opts)
      (fun _ w' => ¬ Unreported deployment w'.db processInstanceId) (fun _ _ => False) w := by
  obtain ⟨stepMember, ofProcess⟩ := mem_stepsOf.mp member
  have completed := (areAllStepsCompleted_iff.mp unreported.allDone).2
  have found : w.db.step? step.stepInstanceId = some step :=
    Table.find?_eq_some.mpr ⟨stepMember, rfl⟩
  unfold resumeParentIn
  rw [Program.wp_bind, Program.wp_read, found]
  simp only [if_pos (completed step member)]
  refine Program.wp_mono (settleStep_settles deployment w step.stepInstanceId opts stepMember rfl
    (completed step member)) ?_ ?_
  · rintro _ after ⟨settles, _⟩ still
    exact (still.settles linked ended live settles).1 ofProcess
  · rintro _ _ ⟨_, ⟨proc, isProc, missing⟩ | ⟨next, selected, _⟩⟩
    · rw [linked.hosted proc (Table.mem_of_find? isProc)] at missing
      cases missing
    · -- No step is pending.
      obtain ⟨nextOf, isNext⟩ := List.mem_filter.mp selected
      simp only [Bool.and_eq_true, beq_iff_eq] at isNext
      rw [ofProcess] at nextOf
      rw [completed next nextOf] at isNext
      cases isNext.2

/-! ## Runs -/

namespace Engine

variable (deployment processInstanceId) in
/-- A resumption of a step of the process is in flight. -/
def ResumptionDue (state : State) : Prop :=
  ∃ stepInstanceId, OwnsStep processInstanceId stepInstanceId state.world.db ∧
    ResumeInFlight deployment stepInstanceId state.tasks

variable (deployment processInstanceId) in
/-- A call that strands the process finds a resumption in flight. -/
def Wakes (state : State) (action : Action) : Prop :=
  ∀ call, (turn state action).call = some call →
    Strands deployment processInstanceId (turn state action).world call →
      ResumptionDue deployment processInstanceId state

variable (deployment processInstanceId) in
/-- The call of the action strands no process unless a resumption is in flight, reports
ended children only, and spares canceled processes. -/
def KeepsReporting (state : State) (action : Action) : Prop :=
  Wakes deployment processInstanceId state action ∧
    Meets (ReportsEnded processInstanceId) state action ∧
    Meets (SparesCanceled processInstanceId) state action

variable (deployment processInstanceId) in
/-- A process that is to be reported has a resumption in flight. -/
structure Reporting (state : State) : Prop where
  linked : Linked state.world.db
  ended : ChildrenEnded state.world.db processInstanceId
  live : Live state.world.db processInstanceId
  due : Unreported deployment state.world.db processInstanceId →
    ResumptionDue deployment processInstanceId state

theorem Fresh.reporting {state : State} (fresh : Fresh state) :
    Reporting deployment processInstanceId state where
  linked := fresh.linked
  ended child member := by simp [fresh.processInstances] at member
  live row member := by simp [fresh.processInstances] at member
  due unreported := by
    obtain ⟨row, member, _⟩ := unreported.root
    simp [fresh.processInstances] at member

/-- A resumption that is due stays so until it runs. -/
theorem resumptionDue_step {state : State}
    (due : ResumptionDue deployment processInstanceId state) (action : Action) :
    ResumptionDue deployment processInstanceId (step deployment state action) ∨
      ∃ stepInstanceId opts, OwnsStep processInstanceId stepInstanceId state.world.db ∧
        (turn state action).call = some (.resumeParent stepInstanceId opts) := by
  obtain ⟨stepInstanceId, owns, inFlight⟩ := due
  rcases resumeInFlight_step inFlight action with still | ⟨opts, isCall⟩
  · refine .inl ⟨stepInstanceId, ?_, still⟩
    rw [← turn_db state action] at owns
    rcases step_world deployment state action with ⟨call, _, effect⟩ | ⟨_, world⟩
    · exact effect.kept (OwnsStep.keptByWrites _ call) owns
    · rw [world]
      exact owns
  · exact .inr ⟨stepInstanceId, opts, owns, isCall⟩

theorem perform_resumeParent_reports {step : StepInstance} (opts : AdvanceOptions) {w : World}
    (linked : Linked w.db) (ended : ChildrenEnded w.db processInstanceId)
    (live : Live w.db processInstanceId)
    (unreported : Unreported deployment w.db processInstanceId)
    (member : step ∈ w.db.stepsOf processInstanceId) :
    ¬ Unreported deployment (perform deployment (.resumeParent step.stepInstanceId opts) w).2.db
      processInstanceId := by
  refine Program.wp_end (fun after : World =>
    ¬ Unreported deployment after.db processInstanceId) ?_
  unfold perform
  rw [Program.wp_bind, wp_transaction]
  exact Program.wp_mono (resumeParentIn_reports opts linked ended live unreported member)
    (fun _ _ reports => reports) (fun _ _ never => never.elim)

/-- A completed child that is reported to the process puts a resumption in flight. -/
theorem reportsChild_due {state : State} {action : Action} {call : Call}
    (linked : Linked (turn state action).world.db) (isCall : (turn state action).call = some call)
    (report : ReportsChild deployment processInstanceId (turn state action).world call) :
    ResumptionDue deployment processInstanceId (step deployment state action) := by
  cases call with
  | handleChildTerminal childProcessInstanceId terminalStatus opts =>
      obtain ⟨enabled, rfl, ⟨child, parent, parentStepId⟩, link, isProcess⟩ := report
      obtain ⟨caller, callerOf, key, _⟩ := linked.callerOf link
      rw [show parent.processInstanceId = processInstanceId from isProcess] at callerOf
      refine ⟨parentStepId, ?_, ?_⟩
      · have owns : OwnsStep processInstanceId parentStepId (turn state action).world.db :=
          ⟨caller, callerOf, key⟩
        rw [step_of_call isCall, execute_world]
        exact Effect.kept (Program.wp_end _ (perform_effect deployment _ _))
          (OwnsStep.keptByWrites _ _) owns
      · rw [step_of_call isCall]
        exact resumeInFlight_childTerminal enabled link opts _ _
  | _ => exact absurd report id

/-- A step whose call keeps the reporting leaves a process that is to be reported with a
resumption in flight. -/
theorem reporting_step {state : State} {action : Action}
    (reporting : Reporting deployment processInstanceId state)
    (keeps : KeepsReporting deployment processInstanceId state action) :
    Reporting deployment processInstanceId (step deployment state action) := by
  obtain ⟨linked, ended, live, due⟩ := reporting
  obtain ⟨wakes, reports, spares⟩ := keeps
  have same := turn_db state action
  rcases step_world deployment state action with ⟨call, isCall, effect⟩ | ⟨idle, world⟩
  · rw [← same] at linked ended live due
    refine ⟨effect.linked linked, ended.effect linked (reports call isCall) effect,
      live.effect linked (spares call isCall) effect, fun unreported => ?_⟩
    rcases effect.unreported linked ended live unreported with before | report | strands
    · rcases resumptionDue_step (due before) action with still | ⟨_, opts, owns, isResumption⟩
      · exact still
      · obtain ⟨step, member, rfl⟩ := owns
        rw [step_of_call isResumption, execute_world] at unreported
        refine absurd unreported ?_
        exact perform_resumeParent_reports opts linked ended live before (same ▸ member)
    · exact reportsChild_due linked isCall report
    · rcases resumptionDue_step (wakes call isCall strands) action with
        still | ⟨_, opts, _, isResumption⟩
      · exact still
      · rw [isCall] at isResumption
        cases isResumption
        exact absurd strands id
  · have kept : (step deployment state action).world.db = state.world.db := by
      rw [world, same]
    refine ⟨kept ▸ linked, kept ▸ ended, kept ▸ live, fun unreported => ?_⟩
    rcases resumptionDue_step (due (kept ▸ unreported)) action with still | ⟨_, _, _, isResumption⟩
    · exact still
    · rw [idle] at isResumption
      cases isResumption

/-- In every run whose calls keep the reporting, a root process that passes the check with
all its steps completed is completed, once every event has been handled. -/
theorem completions_reported {start : State} (fresh : Fresh start) {actions : List Action}
    (keeps : (system deployment).Guarded (KeepsReporting deployment processInstanceId) start
      actions)
    (handled : Handled ((system deployment).run start actions).tasks)
    (root : IsRoot ((system deployment).run start actions).world.db processInstanceId)
    (canComplete : canCompleteProcess deployment
      ((system deployment).run start actions).world.db processInstanceId = true)
    (allDone : areAllStepsCompleted ((system deployment).run start actions).world.db
      processInstanceId = true) :
    StatusIs ((system deployment).run start actions).world.db processInstanceId .completed := by
  have reporting : Reporting deployment processInstanceId ((system deployment).run start actions) :=
    @StepSystem.run_guarded _ _ _ (Reporting deployment processInstanceId) _
      (fun _ _ before keeps => reporting_step before keeps) _ fresh.reporting _ keeps
  by_contra uncompleted
  obtain ⟨_, _, bindings⟩ := canCompleteProcess_iff.mp canComplete
  obtain ⟨_, _, call, rest, member, resumes⟩ :=
    reporting.due ⟨root, uncompleted, allDone, bindings⟩
  have done := handled _ member call List.mem_cons_self
  cases call <;> first | exact absurd resumes id | cases done

/-- A process that binds an object to the first of its two steps. -/
def boundFirst : Templates where
  steps := [.row 1 .manual 1 none, .row 1 .manual 2 none]
  requirements := []
  triggers := []
  bindings := [.row 1 1]
  configObjects := [.row]

/-- The first step is completed with a valid object. -/
def firstBound : List Action :=
  [.invoke (.startProcess (.workflow 1 1 .ignore)), .invoke (.attemptAdvance 1 .none),
    .invoke (.updateCustomObjectInstance 1 1 (some [("title", .str "x")]) none),
    .invoke (.validateByCustomInstanceId 1 none (some .none)), .invoke (.markCompleted 1 .none)]

/-- The second step is completed, and every event is handled. -/
def secondCompleted : List Action :=
  .invoke (.markCompleted 2 .none) :: List.replicate 9 (.resume 0)

theorem completions_reported_boundFirst :
    StatusIs ((system .allEnabled).run (installed boundFirst)
      (firstBound ++ secondCompleted)).world.db 1 .completed := by
  refine completions_reported (fresh_installed boundFirst) ?_ (by decide +kernel)
    (by decide +kernel) (by decide +kernel) (by decide +kernel)
  -- No call of the run strands the process.
  exact StepSystem.Guarded.mono (fun _ _ meets =>
      ⟨fun call isCall strands => absurd strands (meets call isCall).1,
        fun call isCall => (meets call isCall).2.1, fun call isCall => (meets call isCall).2.2⟩)
    (show (system .allEnabled).Guarded (Meets fun w call => ¬ Strands .allEnabled 1 w call ∧
      ReportsEnded 1 w call ∧ SparesCanceled 1 w call) _ _ by decide +kernel)

/-- The object failed when the second step was completed, and is valid again: every event is
handled and the process stays active. -/
theorem objectRestored_notCompleted :
    let state := (system .allEnabled).run (installed boundFirst)
      (firstBound ++ objectCleared ++ [.invoke (.markCompleted 2 .none),
        .invoke (.updateCustomObjectInstance 1 1 (some [("title", .str "y")]) none),
        .invoke (.validateByCustomInstanceId 1 none (some .none))] ++
        List.replicate 12 (.resume 0))
    Handled state.tasks ∧ IsRoot state.world.db 1 ∧
      canCompleteProcess .allEnabled state.world.db 1 = true ∧
      areAllStepsCompleted state.world.db 1 = true ∧ StatusIs state.world.db 1 .active := by
  decide +kernel

end Engine

end CoreApi.Automation
