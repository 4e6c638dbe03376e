import CoreApi.Automation.InstalledTemplates
import CoreApi.Automation.Resumption

/-!
# Parents that are resumed

A child that completes its parent's step is announced under two names, and the
listener knows one of them. A parent is resumed for certain only behind a child
that completed.
-/

namespace CoreApi.Automation

open CoreApi.Foundation StepOrchestrator ChildProcessOrchestration

variable {deployment : Deployment} {stepInstanceId : Nat}

/-! ## Completed steps -/

/-- The step is completed. -/
def IsCompletedStep (db : Database) (stepInstanceId : Nat) : Prop :=
  ∃ step ∈ db.steps.rows, step.stepInstanceId = stepInstanceId ∧ step.status = .completed

namespace IsCompletedStep

theorem found {db : Database} (is : IsCompletedStep db stepInstanceId) {step : StepInstance}
    (found : db.step? stepInstanceId = some step) : step.status = .completed := by
  obtain ⟨row, member, key, completed⟩ := is
  have same : row = step := Table.eq_of_key_eq member (Table.mem_of_find? found)
    (key.trans (Table.key_of_find? found).symm)
  exact same ▸ completed

/-- A write that keeps the steps. -/
theorem same {before after : Database} (is : IsCompletedStep before stepInstanceId)
    (steps : after.steps.rows = before.steps.rows) : IsCompletedStep after stepInstanceId := by
  unfold IsCompletedStep
  rw [steps]
  exact is

theorem setStep {db : Database} (is : IsCompletedStep db stepInstanceId) {key : Nat}
    {status : StepStatus} {set : StepInstance → StepInstance} (sets : SetsStatus status set)
    (keeps : key = stepInstanceId → status = .completed) :
    IsCompletedStep (db.setStep key set sets.key) stepInstanceId := by
  obtain ⟨step, member, isStep, completed⟩ := is
  by_cases isKey : step.stepInstanceId = key
  · refine ⟨set step, (mem_setStep sets.key).mpr (.inl ⟨step, member, isKey, rfl⟩),
      (sets.key step).trans isStep, ?_⟩
    rw [sets.status]
    exact keeps (isKey.symm.trans isStep)
  · exact ⟨step, (mem_setStep sets.key).mpr (.inr ⟨member, isKey⟩), isStep, completed⟩

theorem edits {origin before after : World} {process target : Nat}
    (is : IsCompletedStep before.db stepInstanceId)
    (edits : Edits deployment origin process target before after) :
    IsCompletedStep after.db stepInstanceId := by
  obtain ⟨step, member, isStep, completed⟩ := is
  rcases edits.image member with kept | ⟨_, _, moved⟩
  · exact ⟨step, kept, isStep, completed⟩
  · have pending := moved.pending
    rw [completed] at pending
    cases pending

theorem stepCompleted {step : StepInstance} {before after : World}
    (is : IsCompletedStep before.db stepInstanceId) (completes : StepCompleted step before after) :
    IsCompletedStep after.db stepInstanceId := by
  obtain ⟨_, sets, _, _, _, _, tables⟩ := completes.tables
  rw [tables]
  exact (is.setStep sets fun _ => rfl).same rfl

theorem settles {origin before after : World} {process target : Nat} {result : Option Nat}
    (is : IsCompletedStep before.db stepInstanceId)
    (settles : Settles deployment origin process target before result after) :
    IsCompletedStep after.db stepInstanceId := by
  obtain ⟨_, edits, settlement, _⟩ := settles
  exact (is.edits edits).same (by rw [settlement.steps])

end IsCompletedStep

/-! ## Calls that let a parent resume -/

/-- A child resumes its parent only by completing, fails no completed step of it,
and a parent is resumed where the steps behind can be unlocked. -/
def LetsResume (deployment : Deployment) (w : World) : Engine.Call → Prop
  | .handleChildTerminal childProcessInstanceId terminalStatus _ =>
      ∀ link ∈ childLink w.db childProcessInstanceId,
        match terminalOutcome terminalStatus link.2.1.onChildFailure with
        | .resume => terminalStatus = .completed
        | .fail => ∀ step ∈ w.db.step? link.2.2, step.status ≠ .completed
        | .pause => True
  | .resumeParent stepInstanceId _ =>
      ∀ step ∈ w.db.step? stepInstanceId, step.status = .completed →
        ¬ NextFails deployment w step.processInstanceId step.stepOrder
  | _ => True

instance (w : World) : ∀ call, Decidable (LetsResume deployment w call)
  | .handleChildTerminal childProcessInstanceId terminalStatus _ =>
      have decideLink : ∀ link : ProcessInstance × ProcessInstance × Nat,
          Decidable (match terminalOutcome terminalStatus link.2.1.onChildFailure with
            | .resume => terminalStatus = .completed
            | .fail => ∀ step ∈ w.db.step? link.2.2, step.status ≠ .completed
            | .pause => True) := fun link =>
        match terminalOutcome terminalStatus link.2.1.onChildFailure with
        | .resume => inferInstanceAs (Decidable (terminalStatus = .completed))
        | .fail => inferInstanceAs (Decidable (∀ step ∈ w.db.step? link.2.2, _))
        | .pause => inferInstanceAs (Decidable True)
      inferInstanceAs (Decidable (∀ link ∈ childLink w.db childProcessInstanceId, _))
  | .resumeParent stepInstanceId _ =>
      inferInstanceAs (Decidable (∀ step ∈ w.db.step? stepInstanceId, _ → ¬ _))
  | .startProcess _ | .attemptAdvance _ _ | .markCompleted _ _
  | .markProcessCompletedIfEligible _ | .validateByCustomInstanceId _ _ _
  | .createSubmission _ _ _ | .approveSubmission _ | .writeSubmission _ _
  | .updateRequirement _ _ | .updateCustomObjectInstance _ _ _ _ | .listener _ _ =>
      inferInstanceAs (Decidable True)

theorem IsCompletedStep.effect {before after : World} {call : Engine.Call}
    (is : IsCompletedStep before.db stepInstanceId) (lets : LetsResume deployment before call)
    (effect : Engine.Effect deployment before call after) :
    IsCompletedStep after.db stepInstanceId := by
  cases effect with
  | unchanged => exact is
  | raised _ _ rolledBack => exact is.same (by rw [rolledBack]; rfl)
  | started _ _ start =>
      obtain ⟨step, member, isStep, completed⟩ := is
      exact ⟨step, start.step_kept member, isStep, completed⟩
  | advanced _ _ _ outcome =>
      cases outcome with
      | refused => exact is
      | waiting _ _ _ _ edits => exact is.edits edits
      | unlocked _ _ _ _ edits => exact is.edits edits
      | ran _ _ _ _ _ edits _ _ _ _ completes settles =>
          exact ((is.edits edits).stepCompleted completes).settles settles
  | marked _ _ _ outcome =>
      cases outcome with
      | refused => exact is
      | marked _ _ _ completes settles => exact (is.stepCompleted completes).settles settles
  | resumed _ _ _ outcome =>
      cases outcome with
      | refused => exact is
      | resumed _ _ _ settles => exact is.settles settles
  | childTerminal _ _ _ child parent parentStepId _ link told =>
      have letsParent := lets _ link
      cases told with
      | paused => exact is.same rfl
      | failed context _ outcome =>
          simp only [outcome] at letsParent
          refine setStep (is.same rfl) (setsStatus_canceledByChild before.now) fun isStep => ?_
          obtain ⟨step, member, key, completed⟩ := is
          have found : before.db.step? parentStepId = some step :=
            Table.find?_eq_some.mpr ⟨member, key.trans isStep.symm⟩
          exact absurd completed (letsParent step found)
      | resumed context =>
          exact setStep (is.same rfl) (setsStatus_completedByChild before.now) fun _ => rfl
  | eligible => exact is.same rfl
  | validated _ _ _ validated =>
      obtain ⟨_, _, _, _, _, _, _, rfl⟩ := validated
      exact is.same rfl
  | evidence _ only =>
      obtain ⟨_, _, _, _, _, rfl⟩ := only
      exact is.same rfl
  | triggersMarked event =>
      obtain ⟨_, shape⟩ := before.db.markTriggers_shape before.now
        (EventBridge.metTriggers deployment event none before)
      rw [EventBridge.marked, shape]
      exact is.same rfl

/-! ## Delivery -/

namespace Engine

/-- The call completes the step that called a process. -/
def CompletesCaller (deployment : Deployment) (w : World) (stepInstanceId : Nat) : Call → Prop
  | .handleChildTerminal childProcessInstanceId terminalStatus _ =>
      isEnabled deployment = true ∧ ∃ link ∈ childLink w.db childProcessInstanceId,
        link.2.2 = stepInstanceId ∧
          terminalOutcome terminalStatus link.2.1.onChildFailure = .resume
  | _ => False

/-- The call handles a domain event, or continues a listener that does. -/
def Call.handles : Call → Bool
  | .listener _ _ => true
  | .resumeParent _ _ => true
  | _ => false

/-- The call resumes the parent of a completed child. -/
def Call.isResumption : Call → Bool
  | .resumeParent _ _ => true
  | _ => false

/-- Every event that was emitted has been handled. -/
def Handled (tasks : List (List Call)) : Prop :=
  ∀ task ∈ tasks, ∀ call ∈ task, call.handles = false

/-- The action runs `resumeParentAfterChildCallProcess` for the step, and leaves
no step behind it pending that was eligible. -/
def ResumesAt (deployment : Deployment) (stepInstanceId : Nat) (state : State)
    (action : Action) : Prop :=
  (∃ opts, (turn state action).call = some (.resumeParent stepInstanceId opts)) ∧
    ∀ caller ∈ state.world.db.step? stepInstanceId,
      ∀ next ∈ nextSteps (step deployment state action).world.db caller.processInstanceId
        caller.stepOrder, ¬ Eligible deployment (turn state action).world next

/-- Every step that a child completed in the run was resumed in it, if every event
of the run has been handled at its end. -/
def Delivered (deployment : Deployment) (start : State) (actions : List Action) : Prop :=
  ∀ stepInstanceId before action after, actions = before ++ action :: after →
    (∃ call ∈ (turn ((system deployment).run start before) action).call,
      CompletesCaller deployment (turn ((system deployment).run start before) action).world
        stepInstanceId call) →
    Handled ((system deployment).run start actions).tasks →
    ∃ between resume rest, after = between ++ resume :: rest ∧
      ResumesAt deployment stepInstanceId
        ((system deployment).run start (before ++ action :: between)) resume

/-- Resuming a completed step leaves no eligible step behind it. -/
theorem resumesAt {state : State} {action : Action} {opts : AdvanceOptions}
    (linked : Linked state.world.db) (is : IsCompletedStep state.world.db stepInstanceId)
    (isCall : (turn state action).call = some (.resumeParent stepInstanceId opts))
    (lets : Meets (LetsResume deployment) state action) :
    ResumesAt deployment stepInstanceId state action := by
  refine ⟨⟨opts, isCall⟩, fun caller found => ?_⟩
  have completed := is.found found
  have key : caller.stepInstanceId = stepInstanceId := Table.key_of_find? found
  have same := turn_db state action
  have sound := lets _ isCall caller (same ▸ found) completed
  rw [step_of_call isCall, execute_world]
  generalize (turn state action).world = w at same sound ⊢
  subst key
  refine Program.wp_end (fun after : World => ∀ next ∈ nextSteps after.db caller.processInstanceId
    caller.stepOrder, ¬ Eligible deployment w next) ?_
  unfold perform
  rw [Program.wp_bind, wp_transaction]
  refine Program.wp_mono (resumeParentIn_unlocks opts (same ▸ found) completed)
    (fun _ _ leaves => leaves) ?_
  rintro _ _ (⟨proc, isProc, missing⟩ | failing)
  · rw [same] at isProc
    rw [linked.hosted proc (Table.mem_of_find? isProc)] at missing
    cases missing
  · exact absurd failing sound

/-- A resumption in flight runs before every event of the run is handled. -/
theorem resumption_delivered {state : State} (linked : Linked state.world.db)
    (is : IsCompletedStep state.world.db stepInstanceId)
    (inFlight : ResumeInFlight deployment stepInstanceId state.tasks) {actions : List Action}
    (lets : (system deployment).Guarded (Meets (LetsResume deployment)) state actions)
    (handled : Handled ((system deployment).run state actions).tasks) :
    ∃ between resume rest, actions = between ++ resume :: rest ∧
      ResumesAt deployment stepInstanceId ((system deployment).run state between) resume := by
  induction actions generalizing state with
  | nil =>
      obtain ⟨call, rest, member, resumes⟩ := inFlight
      have done := handled _ member call List.mem_cons_self
      cases call <;> first | exact absurd resumes id | cases done
  | cons action rest ih =>
      rcases resumeInFlight_step inFlight action with still | ⟨opts, isCall⟩
      · have same := turn_db state action
        have kept : Linked (step deployment state action).world.db ∧
            IsCompletedStep (step deployment state action).world.db stepInstanceId := by
          rcases step_world deployment state action with ⟨call, isCall, effect⟩ | ⟨_, world⟩
          · exact ⟨effect.linked (same ▸ linked),
              IsCompletedStep.effect (same ▸ is) (lets.1 call isCall) effect⟩
          · rw [world, same]
            exact ⟨linked, is⟩
        obtain ⟨between, resume, others, rfl, resumes⟩ :=
          ih kept.1 kept.2 still lets.2 handled
        exact ⟨action :: between, resume, others, rfl, resumes⟩
      · exact ⟨[], action, rest, rfl, resumesAt linked is isCall lets.1⟩

/-- A child that completes the step of its parent puts the resumption in flight. -/
theorem completesCaller_inFlight {state : State} {action : Action} {call : Call}
    (linked : Linked state.world.db) (isCall : (turn state action).call = some call)
    (completes : CompletesCaller deployment (turn state action).world stepInstanceId call)
    (lets : LetsResume deployment (turn state action).world call) :
    IsCompletedStep (step deployment state action).world.db stepInstanceId ∧
      ResumeInFlight deployment stepInstanceId (step deployment state action).tasks := by
  rw [← turn_db state action] at linked
  rw [step_of_call isCall, execute_world]
  generalize (turn state action).world = w at linked completes lets ⊢
  cases call with
  | handleChildTerminal childProcessInstanceId terminalStatus opts =>
      obtain ⟨enabled, ⟨child, parent, parentStepId⟩, link, rfl, outcome⟩ := completes
      have completed := lets _ link
      simp only [outcome] at completed
      subst completed
      refine ⟨?_, resumeInFlight_childTerminal enabled link opts _ _⟩
      obtain ⟨caller, callerOf, key, _⟩ := linked.callerOf link
      obtain ⟨member, _⟩ := mem_stepsOf.mp callerOf
      have told := perform_childTerminal enabled link .completed opts
      generalize (perform deployment _ w).2 = after at told ⊢
      cases told with
      | paused _ _ outcome => cases outcome
      | failed _ _ outcome => cases outcome
      | resumed context =>
          have sets := setsStatus_completedByChild w.now
          exact ⟨completedByChild w.now caller,
            (mem_setStep sets.key).mpr (.inl ⟨caller, member, key, rfl⟩), key, rfl⟩
  | _ => exact absurd completes id

/-- In every run whose calls let parents resume, every step that a child completed
is resumed. -/
theorem resumptions_delivered {start : State} (fresh : Fresh start) {actions : List Action}
    (lets : (system deployment).Guarded (Meets (LetsResume deployment)) start actions) :
    Delivered deployment start actions := by
  rintro stepInstanceId before action after rfl ⟨call, isCall, completes⟩ handled
  rw [StepSystem.guarded_append] at lets
  rw [StepSystem.run_append] at handled
  obtain ⟨_, letsCall, letsAfter⟩ := lets
  have reachable : Reachable deployment ((system deployment).run start before) :=
    ⟨start, before, fresh, rfl⟩
  obtain ⟨is, inFlight⟩ :=
    completesCaller_inFlight (reachable_linked reachable) isCall completes (letsCall call isCall)
  obtain ⟨between, resume, rest, rfl, resumes⟩ :=
    resumption_delivered (reachable_linked (reachable.run [action])) is inFlight letsAfter handled
  refine ⟨between, resume, rest, rfl, ?_⟩
  rw [StepSystem.run_append]
  exact resumes

instance (tasks : List (List Call)) : Decidable (Handled tasks) :=
  inferInstanceAs (Decidable (∀ task ∈ tasks, ∀ call ∈ task, _))

/-- A process that calls another one and goes on behind it. -/
def callThenGo : Templates where
  steps := [.row 1 .manual 1 none, .row 1 .callProcess 2 (some 2), .row 1 .manual 3 none,
    .row 2 .manual 1 none]
  requirements := []
  triggers := []
  bindings := []
  configObjects := []

/-- The process waits for its child. -/
def childCalled : List Action :=
  [.invoke (.startProcess (.workflow 1 1 .ignore)), .invoke (.markCompleted 1 .none)]

theorem resumptions_delivered_childCompleted :
    Delivered .allEnabled (installed callThenGo)
      (childCalled ++ .invoke (.handleChildTerminal 2 .completed .none) ::
        List.replicate 8 (.resume 0)) :=
  resumptions_delivered (fresh_installed callThenGo) (by decide +kernel)

/-- Behind a canceled child that is ignored, every event is handled and the next
step is never unlocked. -/
theorem childIgnored_notDelivered :
    ¬ Delivered .allEnabled (installed callThenGo)
      (childCalled ++ .invoke (.handleChildTerminal 2 .canceled .none) ::
        List.replicate 5 (.resume 0)) := by
  intro delivered
  obtain ⟨between, resume, rest, isAfter, ⟨opts, isCall⟩, _⟩ := delivered 2 childCalled
    (.invoke (.handleChildTerminal 2 .canceled .none)) _ rfl ⟨_, rfl, rfl, _, rfl, rfl, rfl⟩
    (by decide +kernel)
  -- Each of the five calls is the listener of another event.
  have calls : ∀ count < 5, ((turn ((system .allEnabled).run (installed callThenGo)
      (childCalled ++ .invoke (.handleChildTerminal 2 .canceled .none) ::
        List.replicate count (.resume 0))) (.resume 0)).call.any Call.isResumption) = false := by
    decide +kernel
  obtain ⟨length, isBetween, isRest⟩ := List.append_eq_replicate_iff.mp isAfter.symm
  have isResume : resume = .resume 0 :=
    List.eq_of_mem_replicate (isRest ▸ List.mem_cons_self)
  have short : between.length < 5 := by
    rw [← length]
    simp
  have notResumed := calls between.length short
  rw [← isBetween, ← isResume, isCall] at notResumed
  cases notResumed

end Engine

end CoreApi.Automation
