import CoreApi.Automation.CompletionCheck

/-!
# Resuming a parent

`handleChildTerminal` completes the step of the parent and emits an event; the
listener of that event resumes the parent. A notification that was emitted stays
in flight until `resumeParentAfterChildCallProcess` has run for the step.
-/

namespace CoreApi.Automation

open CoreApi.Foundation StepOrchestrator ChildProcessOrchestration

variable {deployment : Deployment}

/-! ## Unlocking behind a completed step -/

theorem Settlement.steps {process : Nat} {before after : World} {result : Option Nat}
    (settlement : Settlement deployment process before result after) :
    after.db.steps = before.db.steps := by
  cases settlement with
  | idle => rfl
  | child => rfl
  | announced _ _ _ _ _ announced =>
      obtain ⟨_, _, _, _, tables⟩ := announced.tables
      rw [tables]
      rfl

/-- `resumeParentAfterChildCallProcess` on a completed step leaves no eligible
step behind it pending, and raises where one of them cannot be unlocked. -/
theorem resumeParentIn_unlocks {step : StepInstance} (opts : AdvanceOptions) {w : World}
    (found : w.db.step? step.stepInstanceId = some step) (completed : step.status = .completed) :
    Program.wp (resumeParentIn deployment step.stepInstanceId opts)
      (fun _ w' => ∀ next ∈ nextSteps w'.db step.processInstanceId step.stepOrder,
        ¬ Eligible deployment w next)
      (fun _ _ => HostMissing w.db step.processInstanceId ∨
        NextFails deployment w step.processInstanceId step.stepOrder) w := by
  have member := Table.mem_of_find? found
  unfold resumeParentIn
  rw [Program.wp_bind, Program.wp_read, found]
  simp only [if_pos completed, settleStep]
  rw [Program.wp_bind]
  refine Program.wp_mono (enableNextSteps_edits w step.stepInstanceId opts member rfl rfl
    completed) ?_ (fun _ _ raised => raised.2)
  rintro _ middle ⟨edits, leaves, _⟩
  refine Program.wp_mono (maybeCompleteJob_settles step.processInstanceId opts middle) ?_ ?_
  · intro _ after settlement next selected
    unfold nextSteps Database.stepsOf at selected
    rw [settlement.steps] at selected
    exact leaves next selected
  · rintro _ _ ⟨rfl, missing⟩
    exact .inl ((edits.sameInputs ⟨step, member, rfl⟩ rfl).hostMissing.mp missing)

/-! ## Calls in flight -/

namespace Engine

/-- The service calls that wait stay in flight while another call runs. -/
theorem mem_execute_others {world : World} {call : Call} {rest : List Call}
    {others : List (List Call)} {task : List Call} (member : task ∈ others) :
    task ∈ (execute deployment world call rest others).tasks := by
  unfold execute
  split <;> exact List.mem_append_left _ (by first | exact List.mem_append_left _ member | exact member)

/-- A call that returns leaves its service call in flight, unless it is done. -/
theorem mem_execute_next {world after : World} {call first : Call} {next rest : List Call}
    {others : List (List Call)}
    (performed : perform deployment call world = (.ok (first :: next), after)) :
    first :: (next ++ rest) ∈ (execute deployment world call rest others).tasks := by
  unfold execute
  rw [performed]
  simp [pendingTask]

theorem mem_execute_emitted {world : World} {call : Call} {rest : List Call}
    {others : List (List Call)} {event : DomainEvent} {task : List Call}
    (member : event ∈ emitted world (perform deployment call world).2)
    (listens : task ∈ listenerTasks event) :
    task ∈ (execute deployment world call rest others).tasks := by
  have reached : task ∈ (emitted world (perform deployment call world).2).flatMap listenerTasks :=
    List.mem_flatMap.mpr ⟨event, member, listens⟩
  unfold execute
  split <;> rename_i performed <;> rw [performed] at reached <;>
    exact List.mem_append_right _ reached

theorem perform_childTerminal {world : World} {childProcessInstanceId parentStepId : Nat}
    {child parent : ProcessInstance} (enabled : isEnabled deployment = true)
    (link : childLink world.db childProcessInstanceId = some (child, parent, parentStepId))
    (terminalStatus : TerminalStatus) (opts : AdvanceOptions) :
    ParentTold world child parent parentStepId terminalStatus
      (perform deployment (.handleChildTerminal childProcessInstanceId terminalStatus opts)
        world).2 := by
  refine Program.wp_end
    (fun after => ParentTold world child parent parentStepId terminalStatus after) ?_
  unfold perform handleChildTerminal
  rw [Program.wp_bind, Program.wp_ite]
  refine ⟨fun disabled => ?_, fun _ => ?_⟩
  · rw [enabled] at disabled
    cases disabled
  · rw [wp_transaction]
    refine Program.wp_mono (handleChildTerminalIn_effect childProcessInstanceId terminalStatus
      opts world) ?_ (fun _ _ never => never.elim)
    rintro _ w' (⟨_, unlinked⟩ | ⟨_, _, _, link', told⟩)
    · rw [unlinked] at link
      cases link
    · rw [link'] at link
      cases link
      exact told

theorem childLink_ne_zero {db : Database} {childProcessInstanceId parentStepId : Nat}
    {child parent : ProcessInstance}
    (link : childLink db childProcessInstanceId = some (child, parent, parentStepId)) :
    parentStepId ≠ 0 := by
  unfold childLink at link
  split at link
  · cases link
  · split at link
    · split at link
      · cases link
      · rename_i nonzero
        split at link
        · cases link
        · cases link
          exact fun zero => nonzero (.inl zero)
    · cases link

theorem resumedStep_childTerminalEvent {child parent : ProcessInstance} {parentStepId : Nat}
    (enabled : isEnabled deployment = true) (nonzero : parentStepId ≠ 0)
    (opts : AdvanceOptions) :
    EventBridge.resumedStep deployment
      (childTerminalEvent child parent parentStepId .completed opts true) = some parentStepId := by
  have flag : deployment.flags.callProcessEnabled = true := enabled
  simp [EventBridge.resumedStep, childTerminalEvent, flag, Json.field, List.lookup_cons, Json.truthy,
    Json.toId, Json.toNumber, nonzero]

variable (deployment) in
/-- The next call of the service call resumes the step: it is the listener of a
completed child, or the call this listener makes. -/
def Resumes (stepInstanceId : Nat) : Call → Prop
  | .resumeParent parentStepInstanceId _ => parentStepInstanceId = stepInstanceId
  | .listener .childCompleted event =>
      EventBridge.resumedStep deployment event = some stepInstanceId
  | _ => False

variable (deployment) in
/-- A service call in flight resumes the step next. -/
def ResumeInFlight (stepInstanceId : Nat) (tasks : List (List Call)) : Prop :=
  ∃ call rest, call :: rest ∈ tasks ∧ Resumes deployment stepInstanceId call

private theorem resumeInFlight_listener {world : World} {event : DomainEvent}
    {rest : List Call} {others : List (List Call)} {stepInstanceId : Nat}
    (resumed : EventBridge.resumedStep deployment event = some stepInstanceId) :
    ResumeInFlight deployment stepInstanceId
      (execute deployment world (.listener .childCompleted event) rest others).tasks := by
  have performed : perform deployment (.listener .childCompleted event) world =
      (.ok [.resumeParent stepInstanceId
        (EventBridge.listenerOptions event (event.data.field "actorTenantUserId"))], world) := by
    unfold perform listen
    simp only [resumed]
    rfl
  exact ⟨_, _, mem_execute_next performed, rfl⟩

theorem resumeInFlight_childTerminal {world : World}
    {childProcessInstanceId parentStepId : Nat} {child parent : ProcessInstance}
    (enabled : isEnabled deployment = true)
    (link : childLink world.db childProcessInstanceId = some (child, parent, parentStepId))
    (opts : AdvanceOptions) (rest : List Call) (others : List (List Call)) :
    ResumeInFlight deployment parentStepId
      (execute deployment world (.handleChildTerminal childProcessInstanceId .completed opts)
        rest others).tasks := by
  have told := perform_childTerminal enabled link .completed opts
  generalize isAfter : (perform deployment
    (.handleChildTerminal childProcessInstanceId .completed opts) world).2 = after at told
  obtain ⟨opts', member⟩ : ∃ opts',
      childTerminalEvent child parent parentStepId .completed opts' true ∈ emitted world after := by
    cases told with
    | paused _ _ outcome => cases outcome
    | failed _ _ outcome => cases outcome
    | resumed _ opts' => exact ⟨opts', by simp [emitted, List.append_assoc]⟩
  have listens : [Call.listener .childCompleted
      (childTerminalEvent child parent parentStepId .completed opts' true)] ∈
        listenerTasks (childTerminalEvent child parent parentStepId .completed opts' true) := by
    refine List.mem_map.mpr ⟨.childCompleted, List.mem_filter.mpr ⟨?_, ?_⟩, rfl⟩
    · simp [listeners]
    · simp [Listener.matches, childTerminalEvent]
  exact ⟨_, [], mem_execute_emitted (isAfter ▸ member) listens,
    resumedStep_childTerminalEvent enabled (childLink_ne_zero link) opts'⟩

/-- A resumption stays in flight until it runs. -/
theorem resumeInFlight_step {stepInstanceId : Nat} {state : State}
    (inFlight : ResumeInFlight deployment stepInstanceId state.tasks) (action : Action) :
    ResumeInFlight deployment stepInstanceId (step deployment state action).tasks ∨
      ∃ opts, (turn state action).call = some (.resumeParent stepInstanceId opts) := by
  obtain ⟨call, rest, member, resumes⟩ := inFlight
  -- A task that is left among the others stays in flight.
  have kept : call :: rest ∈ (turn state action).others →
      ResumeInFlight deployment stepInstanceId (step deployment state action).tasks := by
    intro waits
    refine ⟨call, rest, ?_, resumes⟩
    cases isCall : (turn state action).call with
    | none =>
        rw [step_of_idle isCall]
        exact waits
    | some next =>
        rw [step_of_call isCall]
        exact mem_execute_others waits
  cases action with
  | invoke next => exact .inl (kept member)
  | processJob job =>
      refine .inl (kept ?_)
      simp only [turn]
      split <;> exact member
  | publish event => exact .inl (kept (List.mem_append_left _ member))
  | tick now => exact .inl (kept member)
  | resume task =>
      obtain ⟨index, isAt⟩ := List.mem_iff_getElem?.mp member
      by_cases same : index = task
      · subst same
        have turned : turn state (.resume index) =
            ⟨state.world, some call, rest, state.tasks.eraseIdx index⟩ := by
          simp only [turn, isAt]
        cases call with
        | resumeParent parentStepInstanceId opts =>
            have isStep : parentStepInstanceId = stepInstanceId := resumes
            exact .inr ⟨opts, by rw [turned, isStep]⟩
        | listener listener event =>
            cases listener with
            | childCompleted =>
                refine .inl ?_
                rw [step_of_call (by rw [turned])]
                exact resumeInFlight_listener resumes
            | _ => exact absurd resumes id
        | _ => exact absurd resumes id
      · refine .inl (kept ?_)
        simp only [turn]
        split
        · exact List.mem_eraseIdx_iff_getElem?.mpr ⟨index, same, isAt⟩
        · exact member

end Engine

end CoreApi.Automation
