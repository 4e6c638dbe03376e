import CoreApi.Automation.CompletionCheck
import CoreApi.Automation.InstalledTemplates

/-!
# Announcements of a completed process

`maybeCompleteJob` announces a process whenever it finds all steps completed and
the check satisfied, whatever the status of the process. Two notifications of
completed children may both find that.
-/

namespace CoreApi.Automation

open CoreApi.Foundation StepOrchestrator ChildProcessOrchestration ProcessCompletion

variable {deployment : Deployment} {processInstanceId : Nat}

/-! ## Announcements in the logs -/

/-- How often the host of the process was told that it completed. -/
def World.hostAnnouncements (w : World) (processInstanceId : Nat) : Nat :=
  w.hostCalls.countP fun call => call.announces processInstanceId

/-- How often an event said that the process completed. -/
def World.eventAnnouncements (w : World) (processInstanceId : Nat) : Nat :=
  w.events.countP fun event => event.announces processInstanceId

/-- The host and the listeners learned at most once that the process completed. -/
structure AnnouncedOnce (processInstanceId : Nat) (w : World) : Prop where
  host : w.hostAnnouncements processInstanceId ≤ 1
  event : w.eventAnnouncements processInstanceId ≤ 1

instance (processInstanceId : Nat) (w : World) : Decidable (AnnouncedOnce processInstanceId w) :=
  decidable_of_iff
    (w.hostAnnouncements processInstanceId ≤ 1 ∧ w.eventAnnouncements processInstanceId ≤ 1)
    ⟨fun ⟨host, event⟩ => ⟨host, event⟩, fun once => ⟨once.host, once.event⟩⟩

theorem QuietLog.announcements {before after : World} (quiet : QuietLog before after) :
    after.hostAnnouncements processInstanceId = before.hostAnnouncements processInstanceId ∧
      after.eventAnnouncements processInstanceId = before.eventAnnouncements processInstanceId := by
  obtain ⟨⟨events, eventsEq, quietEvents⟩, ⟨calls, callsEq, quietCalls⟩⟩ := quiet
  unfold World.hostAnnouncements World.eventAnnouncements
  constructor
  · have none' : calls.countP (fun call => call.announces processInstanceId) = 0 := by
      simp only [List.countP_eq_zero, Bool.not_eq_true]
      exact fun call member => quietCalls call member processInstanceId
    rw [callsEq, List.countP_append, none', Nat.add_zero]
  · have none' : events.countP (fun event => event.announces processInstanceId) = 0 := by
      simp only [List.countP_eq_zero, Bool.not_eq_true]
      exact fun event member => quietEvents event member processInstanceId
    rw [eventsEq, List.countP_append, none', Nat.add_zero]

/-- An announcement counts for the process it is about. -/
theorem Announced.announcements {proc : ProcessInstance} {before after : World}
    (announced : Announced proc before after) :
    after.hostAnnouncements processInstanceId = before.hostAnnouncements processInstanceId +
        (if proc.processInstanceId = processInstanceId then 1 else 0) ∧
      after.eventAnnouncements processInstanceId = before.eventAnnouncements processInstanceId +
        (if proc.processInstanceId = processInstanceId then 1 else 0) := by
  obtain ⟨calls, callsEq, quietCalls⟩ := announced.hostCalls
  obtain ⟨quiet, last, eventsEq, quietEvents, name, entity⟩ := announced.events
  unfold World.hostAnnouncements World.eventAnnouncements
  constructor
  · have none' : calls.countP (fun call => call.announces processInstanceId) = 0 := by
      simp only [List.countP_eq_zero, Bool.not_eq_true]
      exact fun call member => quietCalls call member processInstanceId
    rw [callsEq, List.countP_append, List.countP_append, none', List.countP_singleton]
    simp [HostCall.announces]
  · have none' : quiet.countP (fun event => event.announces processInstanceId) = 0 := by
      simp only [List.countP_eq_zero, Bool.not_eq_true]
      exact fun event member => quietEvents event member processInstanceId
    rw [eventsEq, List.countP_append, List.countP_append, none', List.countP_singleton]
    simp [DomainEvent.announces, name, entity]

theorem ParentTold.log {before after : World} {child parent : ProcessInstance}
    {parentStepId : Nat} {terminalStatus : TerminalStatus}
    (told : ParentTold before child parent parentStepId terminalStatus after) :
    QuietLog before after := by
  have quiet : ∀ opts resumed processInstanceId,
      (childTerminalEvent child parent parentStepId terminalStatus opts resumed).announces
        processInstanceId = false := by
    intro opts resumed processInstanceId
    cases terminalStatus <;> simp [DomainEvent.announces, childTerminalEvent]
  cases told with
  | paused context opts => exact .of_event rfl rfl (quiet opts false)
  | failed context opts => exact .of_event rfl rfl (quiet opts false)
  | resumed context opts events _ quietEvents =>
      refine ⟨⟨events ++ [_], List.append_assoc _ _ _, fun event member => ?_⟩, ⟨[], by simp⟩⟩
      rcases List.mem_append.mp member with earlier | last
      · exact quietEvents event earlier
      · rw [List.mem_singleton.mp last]
        exact quiet opts true

/-! ## The invariant -/

/-- The call would not announce the process again: it does not resume a completed
step of a process that was announced, is done, and passes the check. -/
def AnnouncesFirst (deployment : Deployment) (processInstanceId : Nat) (w : World) :
    Engine.Call → Prop
  | .resumeParent stepInstanceId _ =>
      ∀ step, w.db.step? stepInstanceId = some step →
        step.processInstanceId = processInstanceId → step.status = .completed →
          0 < w.hostAnnouncements processInstanceId →
            ¬ (areAllStepsCompleted w.db processInstanceId = true ∧
              canCompleteProcess deployment w.db processInstanceId = true)
  | _ => True

instance (w : World) : ∀ call, Decidable (AnnouncesFirst deployment processInstanceId w call)
  | .resumeParent stepInstanceId _ =>
      inferInstanceAs (Decidable (∀ step ∈ w.db.step? stepInstanceId, _ → _ → _ → ¬ (_ ∧ _)))
  | .startProcess _ | .attemptAdvance _ _ | .markCompleted _ _ | .handleChildTerminal _ _ _
  | .markProcessCompletedIfEligible _ | .validateByCustomInstanceId _ _ _
  | .createSubmission _ _ _ | .approveSubmission _ | .writeSubmission _ _
  | .updateRequirement _ _ | .updateCustomObjectInstance _ _ _ _ | .listener _ _ =>
      inferInstanceAs (Decidable True)

/-- A process that was announced is over, and host and listeners learned of it
together. -/
structure Announcing (processInstanceId : Nat) (w : World) : Prop where
  linked : Linked w.db
  once : w.hostAnnouncements processInstanceId ≤ 1
  together : w.eventAnnouncements processInstanceId = w.hostAnnouncements processInstanceId
  past : 0 < w.hostAnnouncements processInstanceId → IsOver w.db processInstanceId

namespace Announcing

/-- A quiet change that keeps what is over. -/
theorem quiet {before after : World} (announcing : Announcing processInstanceId before)
    (linked : Linked after.db) (log : QuietLog before after)
    (past : IsOver before.db processInstanceId → IsOver after.db processInstanceId) :
    Announcing processInstanceId after := by
  obtain ⟨host, event⟩ := @log.announcements processInstanceId
  refine ⟨linked, ?_, ?_, ?_⟩
  · rw [host]
    exact announcing.once
  · rw [host, event]
    exact announcing.together
  · rw [host]
    exact fun before => past (announcing.past before)

/-- Settling a process that was not announced, or is not done yet. -/
theorem settles {origin before after : World} {process target : Nat} {result : Option Nat}
    (announcing : Announcing processInstanceId before)
    (first : process = processInstanceId → 0 < before.hostAnnouncements processInstanceId →
      ¬ (areAllStepsCompleted before.db processInstanceId = true ∧
        canCompleteProcess deployment before.db processInstanceId = true))
    (settles : Settles deployment origin process target before result after) :
    Announcing processInstanceId after := by
  have linked := announcing.linked.settles settles
  obtain ⟨middle, edits, settlement, _⟩ := settles
  have overAfter : IsOver middle.db processInstanceId → IsOver after.db processInstanceId :=
    fun past => past.settlement settlement
  have inMiddle : Announcing processInstanceId middle :=
    announcing.quiet (announcing.linked.edits edits) edits.log fun past => (past.sameCheck edits).2
  cases settlement with
  | idle => exact inMiddle
  | child => exact inMiddle.quiet linked (.of_eq rfl rfl) overAfter
  | announced proc allDone canComplete found _ announced =>
      have key : proc.processInstanceId = process := Table.key_of_find? found
      obtain ⟨host, event⟩ := @announced.announcements processInstanceId
      rw [key] at host event
      by_cases isProcess : process = processInstanceId
      · rw [if_pos isProcess] at host event
        subst isProcess
        -- A process that was announced before would have been done before.
        have unannounced : middle.hostAnnouncements process = 0 := by
          by_contra positive
          have counted := Nat.pos_of_ne_zero positive
          rw [edits.log.announcements.1] at counted
          have same := ((announcing.past counted).sameCheck edits).1
          exact first rfl counted ⟨same.allDone ▸ allDone, same.canComplete ▸ canComplete⟩
        have together := inMiddle.together
        refine ⟨linked, ?_, ?_, fun _ => ?_⟩
        · omega
        · omega
        · exact overAfter (.of_allDone inMiddle.linked allDone)
      · rw [if_neg isProcess, Nat.add_zero] at host event
        refine ⟨linked, ?_, ?_, ?_⟩
        · rw [host]
          exact inMiddle.once
        · rw [host, event]
          exact inMiddle.together
        · rw [host]
          exact fun before => overAfter (inMiddle.past before)

theorem completed {origin before middle after : World} {step : StepInstance} {target : Nat}
    {result : Option Nat} (announcing : Announcing processInstanceId before)
    (member : step ∈ before.db.steps.rows) (open' : ¬ IsOverStep step)
    (completes : StepCompleted step before middle)
    (settles : Settles deployment origin step.processInstanceId target middle result after) :
    Announcing processInstanceId after := by
  have inMiddle : Announcing processInstanceId middle :=
    announcing.quiet (announcing.linked.stepCompleted completes) completes.log
      fun past => past.stepCompleted completes
  refine inMiddle.settles (fun ofProcess counted => ?_) settles
  rw [completes.log.announcements.1] at counted
  exact absurd ((announcing.past counted).steps step (mem_stepsOf.mpr ⟨member, ofProcess⟩)) open'

/-- A call that announces for the first time keeps the invariant. -/
theorem effect {before after : World} {call : Engine.Call}
    (announcing : Announcing processInstanceId before)
    (first : AnnouncesFirst deployment processInstanceId before call)
    (effect : Engine.Effect deployment before call after) :
    Announcing processInstanceId after := by
  have linked := effect.linked announcing.linked
  cases effect with
  | unchanged => exact announcing
  | raised _ _ rolledBack log =>
      refine announcing.quiet linked log fun past => ?_
      rw [rolledBack]
      exact past.same rfl rfl
  | started _ _ start => exact announcing.quiet linked start.log fun past => past.started start
  | advanced _ _ _ outcome =>
      cases outcome with
      | refused => exact announcing
      | waiting _ _ _ _ edits =>
          exact announcing.quiet linked edits.log fun past => (past.sameCheck edits).2
      | unlocked _ _ _ _ edits =>
          exact announcing.quiet linked edits.log fun past => (past.sameCheck edits).2
      | ran _ _ _ _ _ edits member same _ ready completes settles =>
          have edited := announcing.quiet (announcing.linked.edits edits) edits.log
            fun past => (past.sameCheck edits).2
          exact edited.completed member (by simp [IsOverStep, ready]) completes
            (same.process ▸ settles)
  | marked _ _ _ outcome =>
      cases outcome with
      | refused => exact announcing
      | marked step found completable completes settles =>
          refine announcing.completed (Table.mem_of_find? found) (fun past => ?_) completes settles
          rcases past with past | past <;> simp [isCompletable, past] at completable
  | resumed _ _ _ outcome =>
      cases outcome with
      | refused => exact announcing
      | resumed step found completed settles =>
          refine announcing.settles (fun ofProcess counted => ?_) settles
          exact first step found ofProcess completed counted
  | childTerminal _ _ _ _ _ _ _ _ told =>
      exact announcing.quiet linked told.log fun past => past.parentTold told
  | eligible =>
      exact announcing.quiet linked (.of_eq rfl rfl) fun past =>
        past.setInstance (setsInstance_completed before.now)
  | validated _ _ _ validated =>
      obtain ⟨_, _, _, events, _, _, quiet, rfl⟩ := validated
      exact announcing.quiet linked ⟨⟨events, rfl, quiet⟩, ⟨[], by simp⟩⟩
        fun past => past.same rfl rfl
  | evidence _ only =>
      obtain ⟨_, _, _, events, quiet, rfl⟩ := only
      exact announcing.quiet linked ⟨⟨events, rfl, quiet⟩, ⟨[], by simp⟩⟩
        fun past => past.same rfl rfl
  | triggersMarked event =>
      refine announcing.quiet linked (.of_eq rfl rfl) fun past => ?_
      obtain ⟨_, shape⟩ := before.db.markTriggers_shape before.now
        (EventBridge.metTriggers deployment event none before)
      rw [EventBridge.marked, shape]
      exact past.same rfl rfl

end Announcing

namespace Engine

/-- In every run that resumes no process that was announced and is done, the
process is announced at most once. -/
theorem completion_announcedOnce {start : State} (fresh : Fresh start) {actions : List Action}
    (first : (system deployment).Guarded
      (Meets (AnnouncesFirst deployment processInstanceId)) start actions) :
    AnnouncedOnce processInstanceId ((system deployment).run start actions).world := by
  have initial : Announcing processInstanceId start.world := by
    refine ⟨fresh.linked, ?_, ?_, ?_⟩ <;>
      simp [World.hostAnnouncements, World.eventAnnouncements, fresh.hostCalls, fresh.events]
  have announcing := run_world (Announcing processInstanceId)
    (fun _ _ _ before => ⟨before.linked, before.once, before.together, before.past⟩)
    (fun _ _ _ effect first before => before.effect first effect) initial first
  exact ⟨announcing.once, announcing.together ▸ announcing.once⟩

/-- A process with two steps of one order that call a process each. -/
def twoCalls : Templates where
  steps := [.row 1 .manual 1 none, .row 1 .callProcess 2 (some 2),
    .row 1 .callProcess 2 (some 2), .row 2 .automated 1 none]
  requirements := []
  triggers := []
  bindings := []
  configObjects := []

/-- Both children complete and are reported, then the listener resumes the first
step of the process. -/
def firstResumed : List Action :=
  [.invoke (.startProcess (.workflow 1 1 .pauseParent)), .invoke (.markCompleted 1 .none),
    .invoke (.attemptAdvance 4 .none), .invoke (.attemptAdvance 5 .none), .resume 5, .resume 7,
    .resume 10, .resume 12, .resume 13]

theorem completion_announcedOnce_firstResumed :
    AnnouncedOnce 1 ((system .allEnabled).run (installed twoCalls) firstResumed).world :=
  completion_announcedOnce (fresh_installed twoCalls) (by decide +kernel)

/-- Resuming the second step announces the process again. -/
theorem secondResumed_announcesAgain :
    ¬ AnnouncedOnce 1 ((system .allEnabled).run (installed twoCalls)
      (firstResumed ++ [.resume 13])).world := by
  decide +kernel

end Engine

end CoreApi.Automation
