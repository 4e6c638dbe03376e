import CoreApi.Automation.CompletionCheck

/-!
# Children of completed steps

A process whose steps are all completed has no active child, unless a child was
reported before it ended: `handleChildTerminal` does not look at its status.
-/

namespace CoreApi.Automation

open CoreApi.Foundation StepOrchestrator ChildProcessOrchestration ProcessCompletion

variable {deployment : Deployment} {processInstanceId : Nat}

/-- Every child that a completed step of the process called has ended. -/
def ChildrenEnded (db : Database) (processInstanceId : Nat) : Prop :=
  ∀ child ∈ db.processInstances.rows, ∀ step ∈ db.stepsOf processInstanceId,
    child.parentStepId = some step.stepInstanceId → step.status = .completed →
      IsTerminal child.status

/-- A child that resumes the process ended before it is reported. -/
def ReportsEnded (processInstanceId : Nat) (w : World) : Engine.Call → Prop
  | .handleChildTerminal childProcessInstanceId terminalStatus _ =>
      ∀ link ∈ childLink w.db childProcessInstanceId,
        link.2.1.processInstanceId = processInstanceId →
          terminalOutcome terminalStatus link.2.1.onChildFailure = .resume →
            IsTerminal link.1.status
  | _ => True

instance (w : World) : ∀ call, Decidable (ReportsEnded processInstanceId w call)
  | .handleChildTerminal childProcessInstanceId _ _ =>
      inferInstanceAs (Decidable (∀ link ∈ childLink w.db childProcessInstanceId, _ → _ → _))
  | .startProcess _ | .attemptAdvance _ _ | .markCompleted _ _ | .resumeParent _ _
  | .markProcessCompletedIfEligible _ | .validateByCustomInstanceId _ _ _
  | .createSubmission _ _ _ | .approveSubmission _ | .writeSubmission _ _
  | .updateRequirement _ _ | .updateCustomObjectInstance _ _ _ _ | .listener _ _ =>
      inferInstanceAs (Decidable True)

namespace ChildrenEnded

theorem noActiveChild {db : Database} (ended : ChildrenEnded db processInstanceId)
    (linked : Linked db)
    (completed : ∀ step ∈ db.stepsOf processInstanceId, step.status = .completed) :
    NoActiveChild db processInstanceId := by
  intro child member isChild
  cases isCalled : child.parentStepId with
  | none =>
      rw [linked.root child member isCalled] at isChild
      cases isChild
  | some parentStepId =>
      obtain ⟨step, stepMember, key, _, _, parent, _, _, names, _⟩ :=
        linked.caller child member parentStepId isCalled
      rw [names] at isChild
      have ofProcess := mem_stepsOf.mpr ⟨stepMember, Option.some.inj isChild⟩
      exact ended child member step ofProcess (key ▸ isCalled) (completed step ofProcess)

/-- A write that keeps the processes and the steps. -/
theorem same {before after : Database} (ended : ChildrenEnded before processInstanceId)
    (instances : after.processInstances.rows = before.processInstances.rows)
    (steps : after.steps.rows = before.steps.rows) : ChildrenEnded after processInstanceId := by
  unfold ChildrenEnded Database.stepsOf Table.select at ended ⊢
  rw [instances, steps]
  exact ended

theorem hostTables {before after : Database} (ended : ChildrenEnded before processInstanceId)
    (tables : HostTables before after) : ChildrenEnded after processInstanceId := by
  obtain ⟨_, _, _, _, rfl⟩ := tables
  exact ended.same rfl rfl

theorem setStep {db : Database} (ended : ChildrenEnded db processInstanceId)
    {stepInstanceId : Nat} {status : StepStatus} {set : StepInstance → StepInstance}
    (sets : SetsStatus status set)
    (allowed : status = .completed → ∀ child ∈ db.processInstances.rows,
      child.parentStepId = some stepInstanceId → IsTerminal child.status) :
    ChildrenEnded (db.setStep stepInstanceId set sets.key) processInstanceId := by
  intro child childMember step member calls completed
  obtain ⟨stepMember, ofProcess⟩ := mem_stepsOf.mp member
  rcases (mem_setStep sets.key).mp stepMember with ⟨old, _, same, rfl⟩ | ⟨untouched, _⟩
  · rw [sets.status] at completed
    rw [sets.key, same] at calls
    exact allowed completed child childMember calls
  · exact ended child childMember step (mem_stepsOf.mpr ⟨untouched, ofProcess⟩) calls completed

/-- An update after which an ended child has still ended. -/
theorem setInstance {db : Database} (ended : ChildrenEnded db processInstanceId) {key : Nat}
    {next : InstanceStatus → InstanceStatus} {set : ProcessInstance → ProcessInstance}
    (sets : SetsInstance next set) (keeps : ∀ status, IsTerminal status → IsTerminal (next status)) :
    ChildrenEnded (db.setInstance key set sets.key) processInstanceId := by
  intro child member step stepMember calls completed
  rcases (mem_setInstance sets.key).mp member with ⟨old, oldMember, _, rfl⟩ | ⟨untouched, _⟩
  · rw [sets.status]
    rw [sets.parentStep] at calls
    exact keeps _ (ended old oldMember step stepMember calls completed)
  · exact ended child untouched step stepMember calls completed

theorem completed {db : Database} (ended : ChildrenEnded db processInstanceId) (key : Nat)
    (time : String) :
    ChildrenEnded (db.setInstance key (completedInstance time) (completedInstance_key time))
      processInstanceId :=
  ended.setInstance (setsInstance_completed time) fun _ terminal => by
    rwa [completeActive_of_terminal terminal]

theorem started {before after : World} {params : StartProcessParams} {row : ProcessInstance}
    (ended : ChildrenEnded before.db processInstanceId) (start : Started params row before after)
    (root : params.parentStepId = none) : ChildrenEnded after.db processInstanceId := by
  intro child member step stepMember calls completed
  obtain ⟨stepMember, ofProcess⟩ := mem_stepsOf.mp stepMember
  rw [start.steps] at stepMember
  rw [start.instances] at member
  rcases List.mem_append.mp stepMember with oldStep | newStep
  · rcases List.mem_append.mp member with oldChild | newChild
    · exact ended child oldChild step (mem_stepsOf.mpr ⟨oldStep, ofProcess⟩) calls completed
    · rw [List.mem_singleton.mp newChild, start.fresh.parentStep, root] at calls
      cases calls
  · rcases ProcessInstantiation.addedSteps_status newStep with ⟨ready, _⟩ | ⟨pending, _⟩
    · rw [ready] at completed
      cases completed
    · rw [pending] at completed
      cases completed

theorem edits {origin before after : World} {process target : Nat}
    (ended : ChildrenEnded before.db processInstanceId)
    (edits : Edits deployment origin process target before after) :
    ChildrenEnded after.db processInstanceId := by
  induction edits with
  | refl => exact ended
  | tail _ edit ih =>
      intro child member step stepMember calls completed
      obtain ⟨stepMember, ofProcess⟩ := mem_stepsOf.mp stepMember
      have known := edit.completed_kept stepMember completed
      obtain ⟨added, instances, spawned⟩ := edit.instances
      rw [instances] at member
      rcases List.mem_append.mp member with old | new
      · exact ih child old step (mem_stepsOf.mpr ⟨known, ofProcess⟩) calls
          completed
      · obtain ⟨_, caller, callerMember, isCaller, _, _, pending, _⟩ := spawned child new
        rw [calls] at isCaller
        rw [Table.eq_of_key_eq known callerMember (Option.some.inj isCaller), pending] at completed
        cases completed

/-- A step without children may be completed. -/
theorem stepCompleted {step : StepInstance} {before after : World}
    (ended : ChildrenEnded before.db processInstanceId) (linked : Linked before.db)
    (member : step ∈ before.db.steps.rows) (open' : ¬ IsSettled step.status)
    (completes : StepCompleted step before after) : ChildrenEnded after.db processInstanceId := by
  obtain ⟨_, sets, tables⟩ := completes.tables
  refine (ended.setStep sets fun _ child childMember calls => ?_).hostTables tables
  exact absurd calls (linked.childless member open' child childMember)

theorem settlement {process : Nat} {before after : World} {result : Option Nat}
    (ended : ChildrenEnded before.db processInstanceId)
    (settlement : Settlement deployment process before result after) :
    ChildrenEnded after.db processInstanceId := by
  cases settlement with
  | idle => exact ended
  | child => exact ended.completed _ _
  | announced _ _ _ _ _ announced => exact (ended.completed _ _).hostTables announced.tables

theorem settles {origin before after : World} {process target : Nat} {result : Option Nat}
    (ended : ChildrenEnded before.db processInstanceId)
    (settles : Settles deployment origin process target before result after) :
    ChildrenEnded after.db processInstanceId := by
  obtain ⟨_, edits, settlement, _⟩ := settles
  exact (ended.edits edits).settlement settlement

theorem parentTold {before after : World} {child parent : ProcessInstance} {parentStepId : Nat}
    {terminalStatus : TerminalStatus} {childProcessInstanceId : Nat} {opts : AdvanceOptions}
    (ended : ChildrenEnded before.db processInstanceId) (linked : Linked before.db)
    (link : childLink before.db childProcessInstanceId = some (child, parent, parentStepId))
    (reports : ReportsEnded processInstanceId before
      (.handleChildTerminal childProcessInstanceId terminalStatus opts))
    (told : ParentTold before child parent parentStepId terminalStatus after) :
    ChildrenEnded after.db processInstanceId := by
  have told' : ∀ context, ChildrenEnded (before.db.setInstance parent.processInstanceId
      (fun row => { row with context := context }) (fun _ => rfl)) processInstanceId :=
    fun context => ended.setInstance (setsInstance_context context) fun _ terminal => terminal
  cases told with
  | paused context => exact told' context
  | failed context =>
      exact ((told' context).setInstance (setsInstance_canceled before.now)
        fun _ _ => .inr rfl).setStep (setsStatus_canceledByChild before.now)
          fun impossible => by cases impossible
  | resumed context _ _ outcome =>
      obtain ⟨found, isChild, _⟩ := childLink_eq_some link
      have childMember := Table.mem_of_find? found
      obtain ⟨caller, stepOf, key, _⟩ := linked.callerOf link
      obtain ⟨callerMember, callerOf⟩ := mem_stepsOf.mp stepOf
      intro other otherMember step stepMember calls completed
      obtain ⟨stepRow, ofProcess⟩ := mem_stepsOf.mp stepMember
      have sets := setsInstance_context context
      -- The context of the parent changes no status.
      obtain ⟨old, oldMember, oldCalls, oldStatus⟩ : ∃ old ∈ before.db.processInstances.rows,
          old.parentStepId = other.parentStepId ∧ old.status = other.status := by
        rcases (mem_setInstance sets.key).mp otherMember with
          ⟨old, oldMember, _, rfl⟩ | ⟨untouched, _⟩
        · exact ⟨old, oldMember, rfl, rfl⟩
        · exact ⟨other, untouched, rfl, rfl⟩
      rw [← oldStatus]
      rw [← oldCalls] at calls
      rcases (mem_setStep (setsStatus_completedByChild before.now).key).mp stepRow with
        ⟨target, targetMember, isTarget, rfl⟩ | ⟨untouched, _⟩
      · have isCaller : target = caller :=
          Table.eq_of_key_eq targetMember callerMember (isTarget.trans key.symm)
        have ofParent : parent.processInstanceId = processInstanceId := by
          rw [← callerOf, ← isCaller]
          exact ofProcess
        have onlyChild := linked.onlyChild old oldMember child childMember parentStepId
          (calls.trans (congrArg some isTarget)) isChild
        rw [Table.eq_of_key_eq oldMember childMember onlyChild]
        exact reports (child, parent, parentStepId) link ofParent outcome
      · exact ended old oldMember step (mem_stepsOf.mpr ⟨untouched, ofProcess⟩) calls completed

/-- A call that reports ended children keeps the invariant. -/
theorem effect {before after : World} {call : Engine.Call}
    (ended : ChildrenEnded before.db processInstanceId) (linked : Linked before.db)
    (reports : ReportsEnded processInstanceId before call)
    (effect : Engine.Effect deployment before call after) :
    ChildrenEnded after.db processInstanceId := by
  cases effect with
  | unchanged => exact ended
  | raised _ _ rolledBack =>
      rw [rolledBack]
      exact ended.same rfl rfl
  | started _ _ start => exact ended.started start rfl
  | advanced _ _ _ outcome =>
      cases outcome with
      | refused => exact ended
      | waiting _ _ _ _ edits => exact ended.edits edits
      | unlocked _ _ _ _ edits => exact ended.edits edits
      | ran _ _ _ _ _ edits member _ _ ready completes settles =>
          exact ((ended.edits edits).stepCompleted (linked.edits edits) member
            (by simp [ready, IsSettled]) completes).settles settles
  | marked _ _ _ outcome =>
      cases outcome with
      | refused => exact ended
      | marked step found completable completes settles =>
          refine (ended.stepCompleted linked (Table.mem_of_find? found) (fun settled => ?_)
            completes).settles settles
          rcases settled with settled | settled | settled <;>
            simp [isCompletable, settled] at completable
  | resumed _ _ _ outcome =>
      cases outcome with
      | refused => exact ended
      | resumed _ _ _ settles => exact ended.settles settles
  | childTerminal _ _ _ _ _ _ _ link told => exact ended.parentTold linked link reports told
  | eligible => exact ended.completed _ _
  | validated _ _ _ validated =>
      obtain ⟨_, _, _, _, _, _, _, rfl⟩ := validated
      exact ended.same rfl rfl
  | evidence _ only =>
      obtain ⟨_, _, _, _, _, rfl⟩ := only
      exact ended.same rfl rfl
  | triggersMarked event =>
      obtain ⟨_, shape⟩ := before.db.markTriggers_shape before.now
        (EventBridge.metTriggers deployment event none before)
      rw [EventBridge.marked, shape]
      exact ended.same rfl rfl

end ChildrenEnded

end CoreApi.Automation
