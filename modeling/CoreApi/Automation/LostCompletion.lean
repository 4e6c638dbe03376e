import CoreApi.Automation.CompletionGate
import CoreApi.Automation.Resumption

/-!
# Completions that are lost

`maybeCompleteJob` runs behind a completed step and behind a resumed one. A root
process that becomes completable otherwise stays active: a binding that turns
valid, or a canceled child that is ignored, wakes nobody.
-/

namespace CoreApi.Automation

open CoreApi.Foundation StepOrchestrator ChildProcessOrchestration ProcessCompletion

variable {deployment : Deployment} {processInstanceId : Nat}

/-! ## Statuses and canceled steps -/

/-- A stored process is active or completed, or canceled together with one of its steps. -/
def Live (db : Database) (processInstanceId : Nat) : Prop :=
  ∀ row ∈ db.processInstances.rows, row.processInstanceId = processInstanceId →
    row.status = .active ∨ row.status = .completed ∨
      row.status = .canceled ∧ ∃ step ∈ db.stepsOf processInstanceId, step.status = .canceled

/-- No child completes the only step that a canceled process has canceled. -/
def SparesCanceled (processInstanceId : Nat) (w : World) : Engine.Call → Prop
  | .handleChildTerminal childProcessInstanceId terminalStatus _ =>
      ∀ link ∈ childLink w.db childProcessInstanceId,
        link.2.1.processInstanceId = processInstanceId →
          terminalOutcome terminalStatus link.2.1.onChildFailure = .resume →
            link.2.1.status = .canceled → ∃ step ∈ w.db.stepsOf processInstanceId,
              step.stepInstanceId ≠ link.2.2 ∧ step.status = .canceled
  | _ => True

instance (w : World) : ∀ call, Decidable (SparesCanceled processInstanceId w call)
  | .handleChildTerminal childProcessInstanceId _ _ =>
      inferInstanceAs (Decidable (∀ link ∈ childLink w.db childProcessInstanceId, _ → _ → _ →
        ∃ step ∈ w.db.stepsOf processInstanceId, _))
  | .startProcess _ | .attemptAdvance _ _ | .markCompleted _ _ | .resumeParent _ _
  | .markProcessCompletedIfEligible _ | .validateByCustomInstanceId _ _ _
  | .createSubmission _ _ _ | .approveSubmission _ | .writeSubmission _ _
  | .updateRequirement _ _ | .updateCustomObjectInstance _ _ _ _ | .listener _ _ =>
      inferInstanceAs (Decidable True)

namespace Live

/-- Updates under which canceled steps of the process stay canceled. -/
theorem of_rows {before after : Database} (live : Live before processInstanceId)
    (instances : after.processInstances.rows = before.processInstances.rows)
    (steps : ∀ step ∈ before.stepsOf processInstanceId, step.status = .canceled →
      ∃ row ∈ after.stepsOf processInstanceId, row.status = .canceled) :
    Live after processInstanceId := by
  intro row member key
  rw [instances] at member
  rcases live row member key with active | completed | ⟨canceled, step, stepMember, isCanceled⟩
  · exact .inl active
  · exact .inr (.inl completed)
  · exact .inr (.inr ⟨canceled, steps step stepMember isCanceled⟩)

theorem same {before after : Database} (live : Live before processInstanceId)
    (instances : after.processInstances.rows = before.processInstances.rows)
    (steps : after.steps.rows = before.steps.rows) : Live after processInstanceId := by
  refine live.of_rows instances fun step member canceled => ⟨step, ?_, canceled⟩
  rw [mem_stepsOf, steps]
  exact mem_stepsOf.mp member

theorem hostTables {before after : Database} (live : Live before processInstanceId)
    (tables : HostTables before after) : Live after processInstanceId := by
  obtain ⟨_, _, _, _, rfl⟩ := tables
  exact live.same rfl rfl

/-- An update of a status that completes active processes at most. -/
theorem completed {db : Database} (live : Live db processInstanceId) (key : Nat)
    (time : String) :
    Live (db.setInstance key (completedInstance time) (completedInstance_key time))
      processInstanceId := by
  have sets := setsInstance_completed time
  intro row member isProcess
  rcases (mem_setInstance sets.key).mp member with ⟨old, oldMember, _, rfl⟩ | ⟨untouched, _⟩
  · rw [sets.status]
    rcases live old oldMember ((sets.key old).symm.trans isProcess) with
      active | completed | ⟨canceled, others⟩
    · rw [active]
      exact .inr (.inl rfl)
    · rw [completed]
      exact .inr (.inl rfl)
    · rw [canceled]
      exact .inr (.inr ⟨rfl, others⟩)
  · exact live row untouched isProcess

theorem setContext {db : Database} (live : Live db processInstanceId) (key : Nat)
    (context : Option Record) :
    Live (db.setInstance key (fun row => { row with context := context }) (fun _ => rfl))
      processInstanceId := by
  intro row member isProcess
  rcases (mem_setInstance (setsInstance_context context).key).mp member with
    ⟨old, oldMember, _, rfl⟩ | ⟨untouched, _⟩
  · exact live old oldMember isProcess
  · exact live row untouched isProcess

/-- A step that was not canceled may be written. -/
theorem setStep {db : Database} (live : Live db processInstanceId) {stepInstanceId : Nat}
    {status : StepStatus} {set : StepInstance → StepInstance} (sets : SetsStatus status set)
    (allowed : ∀ step ∈ db.stepsOf processInstanceId, step.stepInstanceId = stepInstanceId →
      step.status ≠ .canceled) :
    Live (db.setStep stepInstanceId set sets.key) processInstanceId := by
  refine live.of_rows rfl fun step member canceled => ⟨step, ?_, canceled⟩
  obtain ⟨stepMember, ofProcess⟩ := mem_stepsOf.mp member
  exact mem_stepsOf.mpr ⟨(mem_setStep sets.key).mpr
    (.inr ⟨stepMember, fun isStep => allowed step member isStep canceled⟩), ofProcess⟩

theorem started {before after : World} {params : StartProcessParams} {row : ProcessInstance}
    (live : Live before.db processInstanceId) (start : Started params row before after) :
    Live after.db processInstanceId := by
  intro other member key
  rw [start.instances] at member
  rcases List.mem_append.mp member with old | new
  · rw [start.stepsOf_other (key ▸ start.key_ne old)]
    exact live other old key
  · rw [List.mem_singleton.mp new]
    exact .inl start.fresh.active

theorem edits {origin before after : World} {process target : Nat}
    (live : Live before.db processInstanceId)
    (edits : Edits deployment origin process target before after) :
    Live after.db processInstanceId := by
  induction edits with
  | refl => exact live
  | tail _ edit ih =>
      intro row member key
      obtain ⟨added, instances, active⟩ := edit.instances
      rw [instances] at member
      rcases List.mem_append.mp member with old | new
      · rcases ih row old key with isActive | completed | ⟨canceled, step, stepMember, isCanceled⟩
        · exact .inl isActive
        · exact .inr (.inl completed)
        · obtain ⟨stepRow, ofProcess⟩ := mem_stepsOf.mp stepMember
          rcases edit.image stepRow with kept | ⟨_, _, moved⟩
          · exact .inr (.inr ⟨canceled, step, mem_stepsOf.mpr ⟨kept, ofProcess⟩, isCanceled⟩)
          · have pending := moved.pending
            rw [isCanceled] at pending
            cases pending
      · exact .inl (active row new).1

theorem stepCompleted {step : StepInstance} {before after : World}
    (live : Live before.db processInstanceId) (member : step ∈ before.db.steps.rows)
    (open' : ¬ IsSettled step.status) (completes : StepCompleted step before after) :
    Live after.db processInstanceId := by
  obtain ⟨_, sets, tables⟩ := completes.tables
  refine (live.setStep sets fun row rowOf same canceled => ?_).hostTables tables
  have isStep : row = step := Table.eq_of_key_eq (mem_stepsOf.mp rowOf).1 member same
  exact open' (.inr (.inr (isStep ▸ canceled)))

theorem settlement {process : Nat} {before after : World} {result : Option Nat}
    (live : Live before.db processInstanceId)
    (settlement : Settlement deployment process before result after) :
    Live after.db processInstanceId := by
  cases settlement with
  | idle => exact live
  | child => exact live.completed _ _
  | announced _ _ _ _ _ announced => exact (live.completed _ _).hostTables announced.tables

theorem settles {origin before after : World} {process target : Nat} {result : Option Nat}
    (live : Live before.db processInstanceId)
    (settles : Settles deployment origin process target before result after) :
    Live after.db processInstanceId := by
  obtain ⟨_, edits, settlement, _⟩ := settles
  exact (live.edits edits).settlement settlement

theorem parentTold {before after : World} {child parent : ProcessInstance} {parentStepId : Nat}
    {terminalStatus : TerminalStatus} {childProcessInstanceId : Nat} {opts : AdvanceOptions}
    (live : Live before.db processInstanceId) (linked : Linked before.db)
    (link : childLink before.db childProcessInstanceId = some (child, parent, parentStepId))
    (spares : SparesCanceled processInstanceId before
      (.handleChildTerminal childProcessInstanceId terminalStatus opts))
    (told : ParentTold before child parent parentStepId terminalStatus after) :
    Live after.db processInstanceId := by
  obtain ⟨_, _, _, isParent⟩ := childLink_eq_some link
  obtain ⟨caller, stepOf, key, _⟩ := linked.callerOf link
  obtain ⟨member, callerOf⟩ := mem_stepsOf.mp stepOf
  cases told with
  | paused context => exact live.setContext _ context
  | failed context =>
      have canceled := setsStatus_canceledByChild before.now
      have sets := setsInstance_canceled before.now
      intro row rowMember isProcess
      have isRow := (mem_setInstance sets.key).mp rowMember
      rcases isRow with ⟨old, _, oldKey, rfl⟩ | ⟨untouched, other⟩
      · refine .inr (.inr ⟨sets.status old, canceledByChild before.now caller,
          mem_stepsOf.mpr ⟨(mem_setStep canceled.key).mpr (.inl ⟨caller, member, key, rfl⟩), ?_⟩,
          rfl⟩)
        rw [canceled.process, callerOf, ← oldKey]
        exact (sets.key old).symm.trans isProcess
      · rcases live.setContext parent.processInstanceId context row untouched isProcess with
          active | completed | ⟨isCanceled, step, stepMember, stepCanceled⟩
        · exact .inl active
        · exact .inr (.inl completed)
        · obtain ⟨stepRow, ofProcess⟩ := mem_stepsOf.mp stepMember
          refine .inr (.inr ⟨isCanceled, step, mem_stepsOf.mpr
            ⟨(mem_setStep canceled.key).mpr (.inr ⟨stepRow, fun same => ?_⟩), ofProcess⟩,
            stepCanceled⟩)
          have isCaller : step = caller :=
            Table.eq_of_key_eq stepRow member (same.trans key.symm)
          exact other (isProcess.trans (ofProcess.symm.trans (isCaller ▸ callerOf)))
  | resumed context _ _ outcome =>
      intro row rowMember isProcess
      rcases live.setContext parent.processInstanceId context row rowMember isProcess with
        active | completed | ⟨isCanceled, step, stepMember, stepCanceled⟩
      · exact .inl active
      · exact .inr (.inl completed)
      · have sets := setsStatus_completedByChild before.now
        -- Another step stays canceled.
        obtain ⟨other, otherMember, apart, otherCanceled⟩ : ∃ other ∈
            before.db.stepsOf processInstanceId,
            other.stepInstanceId ≠ parentStepId ∧ other.status = .canceled := by
          by_cases same : step.stepInstanceId = parentStepId
          · obtain ⟨stepRow, ofProcess⟩ := mem_stepsOf.mp stepMember
            have isCaller : step = caller :=
              Table.eq_of_key_eq stepRow member (same.trans key.symm)
            have ofParent : parent.processInstanceId = processInstanceId :=
              callerOf.symm.trans (isCaller ▸ ofProcess)
            -- The canceled parent is the row itself, up to its context.
            refine spares _ link ofParent outcome ?_
            rcases (mem_setInstance (setsInstance_context context).key).mp rowMember with
              ⟨old, oldMember, oldKey, rfl⟩ | ⟨_, other⟩
            · rw [← Table.eq_of_key_eq oldMember (Table.mem_of_find? isParent) oldKey]
              exact isCanceled
            · exact absurd (isProcess.trans ofParent.symm) other
          · exact ⟨step, stepMember, same, stepCanceled⟩
        obtain ⟨otherRow, otherOf⟩ := mem_stepsOf.mp otherMember
        exact .inr (.inr ⟨isCanceled, other, mem_stepsOf.mpr
          ⟨(mem_setStep sets.key).mpr (.inr ⟨otherRow, apart⟩), otherOf⟩, otherCanceled⟩)

theorem effect {before after : World} {call : Engine.Call}
    (live : Live before.db processInstanceId) (linked : Linked before.db)
    (spares : SparesCanceled processInstanceId before call)
    (effect : Engine.Effect deployment before call after) :
    Live after.db processInstanceId := by
  cases effect with
  | unchanged => exact live
  | raised _ _ rolledBack =>
      rw [rolledBack]
      exact live.same rfl rfl
  | started _ _ start => exact live.started start
  | advanced _ _ _ outcome =>
      cases outcome with
      | refused => exact live
      | waiting _ _ _ _ edits => exact live.edits edits
      | unlocked _ _ _ _ edits => exact live.edits edits
      | ran _ _ _ _ _ edits member _ _ ready completes settles =>
          exact ((live.edits edits).stepCompleted member (by simp [ready, IsSettled])
            completes).settles settles
  | marked _ _ _ outcome =>
      cases outcome with
      | refused => exact live
      | marked step found completable completes settles =>
          refine (live.stepCompleted (Table.mem_of_find? found) (fun settled => ?_)
            completes).settles settles
          rcases settled with settled | settled | settled <;>
            simp [isCompletable, settled] at completable
  | resumed _ _ _ outcome =>
      cases outcome with
      | refused => exact live
      | resumed _ _ _ settles => exact live.settles settles
  | childTerminal _ _ _ _ _ _ _ link told => exact live.parentTold linked link spares told
  | eligible => exact live.completed _ _
  | validated _ _ _ validated =>
      obtain ⟨_, _, _, _, _, _, _, rfl⟩ := validated
      exact live.same rfl rfl
  | evidence _ only =>
      obtain ⟨_, _, _, _, _, rfl⟩ := only
      exact live.same rfl rfl
  | triggersMarked event =>
      obtain ⟨_, shape⟩ := before.db.markTriggers_shape before.now
        (EventBridge.metTriggers deployment event none before)
      rw [EventBridge.marked, shape]
      exact live.same rfl rfl

end Live

/-! ## Completions that were not reported -/

/-- The process is stored, and no step called it. -/
def IsRoot (db : Database) (processInstanceId : Nat) : Prop :=
  ∃ row ∈ db.processInstances.rows, row.processInstanceId = processInstanceId ∧
    row.parentStepId = none

/-- A root process that is not completed although its steps are and its bindings hold. -/
structure Unreported (deployment : Deployment) (db : Database) (processInstanceId : Nat) :
    Prop where
  root : IsRoot db processInstanceId
  uncompleted : ¬ StatusIs db processInstanceId .completed
  allDone : areAllStepsCompleted db processInstanceId = true
  bindings : BindingsHold deployment db processInstanceId

/-- What a write tells about the process: its root and its completion stay, and its
steps and their bindings are the same. -/
structure SameProgress (deployment : Deployment) (processInstanceId : Nat)
    (before after : Database) : Prop where
  root : IsRoot after processInstanceId → IsRoot before processInstanceId
  completed : StatusIs before processInstanceId .completed →
    StatusIs after processInstanceId .completed
  steps : ∀ step, step ∈ after.stepsOf processInstanceId ↔ step ∈ before.stepsOf processInstanceId
  bindings : ∀ step ∈ before.stepsOf processInstanceId,
    ConfigObjectStepExecutor.areMandatoryBindingsValid deployment after step.stepInstanceId =
      ConfigObjectStepExecutor.areMandatoryBindingsValid deployment before step.stepInstanceId

namespace SameProgress

theorem unreported {before after : Database}
    (same : SameProgress deployment processInstanceId before after)
    (unreported : Unreported deployment after processInstanceId) :
    Unreported deployment before processInstanceId := by
  refine ⟨same.root unreported.root, fun done => unreported.uncompleted (same.completed done),
    ?_, fun step member => ?_⟩
  · have allDone := areAllStepsCompleted_iff.mp unreported.allDone
    simp only [same.steps] at allDone
    exact areAllStepsCompleted_iff.mpr allDone
  · rw [← same.bindings step member]
    exact unreported.bindings step ((same.steps step).mpr member)

theorem hostTables {before after : Database} (tables : HostTables before after) :
    SameProgress deployment processInstanceId before after := by
  obtain ⟨_, _, _, _, rfl⟩ := tables
  exact ⟨id, id, fun _ => Iff.rfl, fun _ _ => rfl⟩

theorem trans {a b c : Database} (first : SameProgress deployment processInstanceId a b)
    (second : SameProgress deployment processInstanceId b c) :
    SameProgress deployment processInstanceId a c :=
  ⟨fun root => first.root (second.root root), fun done => second.completed (first.completed done),
    fun step => (second.steps step).trans (first.steps step),
    fun step member => (second.bindings step ((first.steps step).mpr member)).trans
      (first.bindings step member)⟩

/-- An update of a process after which a completed one is still completed. -/
theorem setInstance {db : Database} {key : Nat} {next : InstanceStatus → InstanceStatus}
    {set : ProcessInstance → ProcessInstance} (sets : SetsInstance next set)
    (keeps : key = processInstanceId → next .completed = .completed) :
    SameProgress deployment processInstanceId db (db.setInstance key set sets.key) := by
  refine ⟨?_, fun done => ?_, fun _ => Iff.rfl, fun _ _ => rfl⟩
  · rintro ⟨row, member, isProcess, root⟩
    rcases (mem_setInstance sets.key).mp member with ⟨old, oldMember, _, rfl⟩ | ⟨untouched, _⟩
    · exact ⟨old, oldMember, (sets.key old).symm.trans isProcess,
        (sets.parentStep old).symm.trans root⟩
    · exact ⟨row, untouched, isProcess, root⟩
  · have still := done.setInstance key sets
    split at still
    · rename_i isKey
      rwa [keeps isKey.symm] at still
    · exact still

theorem completedInstance (db : Database) (key : Nat) (time : String) :
    SameProgress deployment processInstanceId db
      (db.setInstance key (completedInstance time) (completedInstance_key time)) :=
  .setInstance (setsInstance_completed time) fun _ => rfl

/-- A write of a step of another process. -/
theorem setStep {db : Database} {stepInstanceId : Nat} {status : StepStatus}
    {set : StepInstance → StepInstance} (sets : SetsStatus status set)
    (other : ∀ step ∈ db.stepsOf processInstanceId, step.stepInstanceId ≠ stepInstanceId) :
    SameProgress deployment processInstanceId db (db.setStep stepInstanceId set sets.key) := by
  refine ⟨id, id, fun step => ?_, fun _ _ => rfl⟩
  rw [mem_stepsOf, mem_stepsOf, mem_setStep sets.key]
  constructor
  · rintro ⟨⟨old, oldMember, isStep, rfl⟩ | ⟨untouched, _⟩, ofProcess⟩
    · rw [sets.process] at ofProcess
      exact absurd isStep (other old (mem_stepsOf.mpr ⟨oldMember, ofProcess⟩))
    · exact ⟨untouched, ofProcess⟩
  · rintro ⟨member, ofProcess⟩
    exact ⟨.inr ⟨member, other step (mem_stepsOf.mpr ⟨member, ofProcess⟩)⟩, ofProcess⟩

/-- Rows that are kept beside a stored process. -/
theorem of_known {before after : Database}
    (known : ∃ row ∈ before.processInstances.rows, row.processInstanceId = processInstanceId)
    (rows : ∀ row ∈ before.processInstances.rows, row ∈ after.processInstances.rows)
    (steps : ∀ step, step ∈ after.stepsOf processInstanceId ↔
      step ∈ before.stepsOf processInstanceId)
    (bindings : ∀ step ∈ before.stepsOf processInstanceId,
      ConfigObjectStepExecutor.areMandatoryBindingsValid deployment after step.stepInstanceId =
        ConfigObjectStepExecutor.areMandatoryBindingsValid deployment before
          step.stepInstanceId) :
    SameProgress deployment processInstanceId before after := by
  refine ⟨?_, fun done => done.kept rows, steps, bindings⟩
  rintro ⟨row, member, key, root⟩
  obtain ⟨old, oldMember, oldKey⟩ := known
  have same : old = row := Table.eq_of_key_eq (rows old oldMember) member (oldKey.trans key.symm)
  exact ⟨old, oldMember, oldKey, same ▸ root⟩

end SameProgress

namespace Unreported

/-- Edits complete no step: a process that is done behind them was over before. -/
theorem over_of_edits {origin before after : World} {process target : Nat}
    (unreported : Unreported deployment after.db processInstanceId) (linked : Linked before.db)
    (edits : Edits deployment origin process target before after) :
    IsOver before.db processInstanceId := by
  obtain ⟨⟨step, member⟩, completed⟩ := areAllStepsCompleted_iff.mp unreported.allDone
  obtain ⟨stepMember, ofProcess⟩ := mem_stepsOf.mp member
  have old := edits.completed_kept stepMember (completed step member)
  obtain ⟨row, rowMember, key⟩ := linked.stepProcess step old
  refine ⟨⟨row, rowMember, key.trans ofProcess⟩, fun other otherMember => .inl ?_⟩
  obtain ⟨otherRow, otherOf⟩ := mem_stepsOf.mp otherMember
  rcases edits.image otherRow with kept | ⟨image, imageMember, moved⟩
  · exact completed other (mem_stepsOf.mpr ⟨kept, otherOf⟩)
  · have done := completed image
      (mem_stepsOf.mpr ⟨imageMember, moved.same.process.trans otherOf⟩)
    have outcome := moved.status
    simp [done] at outcome

theorem edits {origin before after : World} {process target : Nat}
    (unreported : Unreported deployment after.db processInstanceId) (linked : Linked before.db)
    (edits : Edits deployment origin process target before after) :
    Unreported deployment before.db processInstanceId := by
  have past := unreported.over_of_edits linked edits
  have same := (past.sameCheck edits).1
  exact (SameProgress.of_known past.known (fun _ member => edits.instance_kept member) same.steps
    same.bindings).unreported unreported

theorem stepCompleted {step : StepInstance} {before after : World}
    (unreported : Unreported deployment after.db processInstanceId)
    (member : step ∈ before.db.steps.rows) (other : step.processInstanceId ≠ processInstanceId)
    (completes : StepCompleted step before after) :
    Unreported deployment before.db processInstanceId := by
  obtain ⟨_, sets, tables⟩ := completes.tables
  have apart : ∀ row ∈ before.db.stepsOf processInstanceId,
      row.stepInstanceId ≠ step.stepInstanceId := by
    intro row rowOf same
    obtain ⟨rowMember, ofProcess⟩ := mem_stepsOf.mp rowOf
    exact other (Table.eq_of_key_eq rowMember member same ▸ ofProcess)
  exact ((SameProgress.setStep sets apart).trans (.hostTables tables)).unreported unreported

theorem settlement {process : Nat} {before after : World} {result : Option Nat}
    (unreported : Unreported deployment after.db processInstanceId) (linked : Linked before.db)
    (ended : ChildrenEnded before.db processInstanceId) (live : Live before.db processInstanceId)
    (settlement : Settlement deployment process before result after) :
    process ≠ processInstanceId ∧ Unreported deployment before.db processInstanceId := by
  have sets := setsInstance_completed before.now
  cases settlement with
  | idle stuck =>
      refine ⟨?_, unreported⟩
      rintro rfl
      obtain ⟨row, member, key, _⟩ := unreported.root
      obtain ⟨_, refused⟩ := stuck unreported.allDone row (Table.find?_eq_some.mpr ⟨member, key⟩)
      obtain ⟨nonempty, completed⟩ := areAllStepsCompleted_iff.mp unreported.allDone
      have passes : canCompleteProcess deployment before.db process = true :=
        canCompleteProcess_iff.mpr ⟨⟨nonempty, fun step of => .inl (completed step of)⟩,
          ended.noActiveChild linked completed, unreported.bindings⟩
      rw [passes] at refused
      cases refused
  | child proc _ found parentStep =>
      have earlier := (SameProgress.completedInstance _ _ _).unreported unreported
      refine ⟨?_, earlier⟩
      rintro rfl
      obtain ⟨row, member, key, root⟩ := earlier.root
      have isProc : row = proc := Table.eq_of_key_eq member (Table.mem_of_find? found)
        (key.trans (Table.key_of_find? found).symm)
      exact parentStep (isProc ▸ root)
  | announced proc allDone _ found _ announced =>
      have tables := announced.tables
      rw [show proc.processInstanceId = process from Table.key_of_find? found] at tables
      have same : SameProgress deployment processInstanceId before.db after.db :=
        (SameProgress.completedInstance _ _ _).trans (.hostTables tables)
      refine ⟨?_, same.unreported unreported⟩
      rintro rfl
      have member := Table.mem_of_find? found
      have key : proc.processInstanceId = process := Table.key_of_find? found
      rcases live proc member key with active | completed | ⟨_, step, stepOf, canceled⟩
      · have is : StatusIs before.db process .active := ⟨proc, member, key, active⟩
        have done := is.setInstance process sets
        rw [if_pos rfl] at done
        obtain ⟨_, _, _, _, shape⟩ := tables
        exact unreported.uncompleted (by rw [shape]; exact done)
      · exact unreported.uncompleted (same.completed ⟨proc, member, key, completed⟩)
      · rw [(areAllStepsCompleted_iff.mp allDone).2 step stepOf] at canceled
        cases canceled

theorem settles {origin before after : World} {process target : Nat} {result : Option Nat}
    (unreported : Unreported deployment after.db processInstanceId) (linked : Linked before.db)
    (ended : ChildrenEnded before.db processInstanceId) (live : Live before.db processInstanceId)
    (settles : Settles deployment origin process target before result after) :
    process ≠ processInstanceId ∧ Unreported deployment before.db processInstanceId := by
  obtain ⟨middle, edits, settlement, _⟩ := settles
  obtain ⟨other, inMiddle⟩ := unreported.settlement (linked.edits edits) (ended.edits edits)
    (live.edits edits) settlement
  exact ⟨other, inMiddle.edits linked edits⟩

end Unreported

end CoreApi.Automation
