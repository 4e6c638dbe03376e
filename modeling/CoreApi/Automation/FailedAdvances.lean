import CoreApi.Automation.CompletionCheck
import CoreApi.Automation.TimerJobs

/-!
# What a failed advance leaves behind

The three operations of the orchestrator emit events and enqueue jobs in the
middle of their transactions, and a rollback restores rows only. A failed call is
invisible where nothing was sent before it failed; `FailsAudibly` says from the
state before the call when something is.
-/

namespace CoreApi.Automation

open CoreApi.Foundation StepOrchestrator ChildProcessOrchestration

variable {deployment : Deployment}

/-! ## Sent events and jobs -/

/-- Events and jobs were added between two worlds, and some exactly if `sent`. -/
def Sends (sent : Prop) (before after : World) : Prop :=
  ∃ events jobs, after.events = before.events ++ events ∧ after.queue = before.queue ++ jobs ∧
    (sent ↔ events ≠ [] ∨ jobs ≠ [])

namespace Sends

variable {sent more : Prop} {before middle after : World}

theorem nothing (events : after.events = before.events) (queue : after.queue = before.queue) :
    Sends False before after :=
  ⟨[], [], by rw [events, List.append_nil], by rw [queue, List.append_nil], by simp⟩

theorem refl (w : World) : Sends False w w := nothing rfl rfl

theorem congr (sends : Sends sent before after) (same : sent ↔ more) : Sends more before after := by
  obtain ⟨events, jobs, eventsEq, queueEq, iff⟩ := sends
  exact ⟨events, jobs, eventsEq, queueEq, same.symm.trans iff⟩

theorem trans (first : Sends sent before middle) (second : Sends more middle after) :
    Sends (sent ∨ more) before after := by
  obtain ⟨events, jobs, eventsEq, queueEq, iff⟩ := first
  obtain ⟨events', jobs', eventsEq', queueEq', iff'⟩ := second
  refine ⟨events ++ events', jobs ++ jobs', ?_, ?_, ?_⟩
  · rw [eventsEq', eventsEq, List.append_assoc]
  · rw [queueEq', queueEq, List.append_assoc]
  · simp only [iff, iff', ne_eq, List.append_eq_nil_iff]
    tauto

/-- Something was sent already. -/
theorem then_more (first : Sends True before middle) (second : Sends more middle after) :
    Sends True before after :=
  (first.trans second).congr (by simp)

/-- An event after a quiet part. -/
theorem of_event {event : DomainEvent} (log : QuietLog before middle)
    (events : after.events = middle.events ++ [event]) (queue : after.queue = before.queue) :
    Sends True before after := by
  obtain ⟨quiet, eventsEq, _⟩ := log.events
  refine ⟨quiet ++ [event], [], ?_, ?_, ?_⟩
  · rw [events, eventsEq, List.append_assoc]
  · rw [queue, List.append_nil]
  · simp

theorem silent_iff (sends : Sends sent before after) :
    after.events = before.events ∧ after.queue = before.queue ↔ ¬sent := by
  obtain ⟨events, jobs, eventsEq, queueEq, iff⟩ := sends
  rw [eventsEq, queueEq, iff]
  simp

end Sends

/-! ## Triggers -/

namespace TriggerEngine

/-- Whether `evaluate` sends anything under the context, if it does not raise. -/
def sends (deployment : Deployment) (context : TriggerContext) : TriggerEnvelope → Bool
  | .jsonlogic logic actionsOnMet =>
      match ruleHolds deployment logic (contextJson context) with
      | .ok true => actionsOnMet.any fun action => action.emit.isSome || action.enqueue.isSome
      | _ => false
  | .time after _ => isoDurationToMs after != 0
  | .event _ _ _ => false
  | .unknown _ => false

private theorem execAction_sends (context : TriggerContext) (action : TriggerAction) (w : World) :
    Program.wp (execAction context action)
      (fun _ w' => Sends ((action.emit.isSome || action.enqueue.isSome) = true) w w')
      (fun _ _ => False) w := by
  unfold execAction
  rw [Program.wp_bind]
  cases named : action.emit with
  | none =>
      cases action.enqueue with
      | none => exact (Sends.refl w).congr (by simp)
      | some request => exact ⟨[], [_], by simp, rfl, by simp⟩
  | some eventName =>
      cases action.enqueue with
      | none => exact ⟨[_], [], rfl, by simp, by simp⟩
      | some request => exact ⟨[_], [_], rfl, rfl, by simp⟩

private theorem execActions_sends (context : TriggerContext) (actions : List TriggerAction) :
    ∀ w : World, Program.wp (execActions actions context)
      (fun _ w' => Sends
        ((actions.any fun action => action.emit.isSome || action.enqueue.isSome) = true) w w')
      (fun _ _ => False) w := by
  unfold execActions
  induction actions with
  | nil => exact fun w => (Sends.refl w).congr (by simp)
  | cons action rest ih =>
      intro w
      rw [Program.forEach, Program.wp_andThen]
      refine Program.wp_mono (execAction_sends context action w) ?_ (fun _ _ never => never)
      intro _ w₁ first
      refine Program.wp_mono (ih w₁) ?_ (fun _ _ never => never)
      intro _ w₂ others
      refine (first.trans others).congr ?_
      rw [List.any_cons, Bool.or_eq_true (_ || _)]

theorem evaluate_sends (trigger : TriggerEnvelope) (context : TriggerContext) (w : World) :
    Program.wp (evaluate deployment trigger context)
      (fun _ w' => Sends (sends deployment context trigger = true) w w')
      (fun _ _ => True) w := by
  cases trigger with
  | jsonlogic logic actionsOnMet =>
      unfold evaluate
      rw [Program.wp_bind]
      rcases holds : ruleHolds deployment logic (contextJson context) with message | met
      · trivial
      · rw [Program.wp_lift_ok, Program.wp_bind, Program.wp_when]
        cases met with
        | false => exact ⟨nofun, fun _ => (Sends.refl w).congr (by simp [sends, holds])⟩
        | true =>
            refine ⟨fun _ => ?_, fun unmet => absurd rfl unmet⟩
            refine Program.wp_mono (execActions_sends context actionsOnMet w) ?_
              (fun _ _ never => never.elim)
            intro _ w' sent
            exact sent.congr (by simp only [sends, holds])
  | time after actionsOnMet =>
      unfold evaluate sends
      rw [Program.wp_bind, Program.wp_when]
      constructor
      · intro delayed
        exact ⟨[], [_], by simp, rfl, by simpa using delayed⟩
      · intro immediate
        exact (Sends.refl w).congr (by simpa using immediate)
  | event eventName whereRule actionsOnMet => exact (Sends.refl w).congr (by simp [sends])
  | unknown type => exact (Sends.refl w).congr (by simp [sends])

end TriggerEngine

/-- Whether `evaluateTriggers` sends anything: it evaluates the triggers of the step up to the
first that raises. -/
def triggersSend (deployment : Deployment) (w : World) (step : StepInstance) : Bool :=
  ((w.db.schemasOf step.stepInstanceId).takeWhile fun schema =>
    (triggerVerdict deployment w step schema).isOk).any
      (TriggerEngine.sends deployment
        (buildContext w.db step.processInstanceId step.stepInstanceId w.now))

private theorem evaluateAll_sends (context : TriggerContext) (triggers : List StepTrigger) :
    ∀ w : World, Program.wp (evaluateAll deployment context triggers)
      (fun _ w' => Sends ((((triggers.map StepTrigger.jsonSchema).takeWhile fun schema =>
        (TriggerEngine.verdict deployment schema context).isOk).any
          (TriggerEngine.sends deployment context)) = true) w w')
      (fun _ w' => Sends ((((triggers.map StepTrigger.jsonSchema).takeWhile fun schema =>
        (TriggerEngine.verdict deployment schema context).isOk).any
          (TriggerEngine.sends deployment context)) = true) w w') w := by
  induction triggers with
  | nil => exact fun w => (Sends.refl w).congr (by simp)
  | cons trigger rest ih =>
      intro w
      unfold evaluateAll evaluateTrigger
      rw [Program.wp_bind, Program.wp_bind]
      refine Program.wp_mono (Program.wp_and
        (TriggerEngine.evaluate_effect deployment trigger.jsonSchema context w)
        (TriggerEngine.evaluate_sends trigger.jsonSchema context w)) ?_ ?_
      · rintro met w₁ ⟨⟨verdict, _⟩, first⟩
        simp only [Program.wp_bind, wp_now, wp_writeDb, Program.wp_pure]
        have all : ∀ {others : List TriggerEnvelope},
            ((trigger.jsonSchema :: others).takeWhile fun schema =>
              (TriggerEngine.verdict deployment schema context).isOk) =
              trigger.jsonSchema :: others.takeWhile fun schema =>
                (TriggerEngine.verdict deployment schema context).isOk := by
          intro others
          rw [List.takeWhile_cons, verdict]
          rfl
        rw [List.map_cons, all, List.any_cons]
        have written : ∀ {sent : Prop} {w' : World}, Sends sent { w₁ with
            db := w₁.db.setTrigger trigger.triggerInstanceId (evaluatedTrigger met w₁.now)
              (evaluatedTrigger_key met w₁.now) } w' → Sends sent w₁ w' :=
          fun sent => sent
        refine Program.wp_mono (ih _) ?_ ?_
        · intro _ _ others
          exact (first.trans (written others)).congr (by rw [Bool.or_eq_true])
        · intro _ _ others
          exact (first.trans (written others)).congr (by rw [Bool.or_eq_true])
      · rintro message _ ⟨⟨verdict, rfl⟩, _⟩
        rw [List.map_cons, List.takeWhile_cons, verdict]
        exact (Sends.refl _).congr (by simp [Except.isOk, Except.toBool])

theorem evaluateTriggers_sends (step : StepInstance) (w : World) :
    Program.wp (evaluateTriggers deployment step.processInstanceId step.stepInstanceId)
      (fun _ w' => Sends (triggersSend deployment w step = true) w w')
      (fun _ w' => Sends (triggersSend deployment w step = true) w w') w := by
  unfold evaluateTriggers
  rw [Program.wp_bind, Program.wp_read, Program.wp_bind, Program.wp_read]
  exact evaluateAll_sends _ _ w

/-! ## Provisioning -/

namespace ConfigObjectStepExecutor

/-- Whether provisioning the step sends anything: the creation of an object does. -/
def provisionSends (deployment : Deployment) (db : Database) (stepInstanceId : Nat) : Bool :=
  deployment.flags.configObjectStepsEnabled && (loadProcessContext db stepInstanceId).isSome &&
    ((loadBindingRows db stepInstanceId).filter isPendingCreateOnEnter).any fun entry =>
      entry.configObject.bindingMode == .standalone

private theorem activateObject_sends {proc : ProcessInstance} {stepInstanceId : Nat}
    {row : StepObjectInstance} {correlationId : Option String} {configObject : ConfigObject}
    {w : World} (found : w.db.configObjects.find? row.configObjectId = some configObject)
    (standalone : configObject.bindingMode = .standalone) :
    Program.wp (activateObject proc stepInstanceId row correlationId)
      (fun _ w' => Sends True w w' ∧ w'.db.configObjects = w.db.configObjects)
      (fun _ _ => False) w := by
  unfold activateObject createStandaloneInstance
  rw [Program.wp_bind, Program.wp_bind, Program.wp_read, found, Program.wp_ite]
  refine ⟨fun other => absurd standalone other, fun _ => ?_⟩
  exact ⟨⟨[_], [], rfl, by simp, by simp⟩, rfl⟩

private theorem provisionRow_sends {proc : ProcessInstance} {stepInstanceId : Nat}
    {correlationId : Option String} {entry : StepObjectBindingRow} {w : World}
    (found : w.db.configObjects.find? entry.row.configObjectId = some entry.configObject) :
    Program.wp (provisionRow proc stepInstanceId correlationId entry)
      (fun _ w' => Sends ((entry.configObject.bindingMode == .standalone) = true) w w' ∧
        w'.db.configObjects = w.db.configObjects)
      (fun _ _ => False) w := by
  unfold provisionRow
  rw [Program.wp_ite]
  constructor
  · intro other
    exact ⟨(Sends.nothing rfl rfl).congr (by simpa using other), rfl⟩
  · intro standalone
    have standalone : entry.configObject.bindingMode = .standalone := by simpa using standalone
    rw [Program.wp_attempt]
    refine Program.wp_mono (activateObject_sends found standalone) ?_
      (fun _ _ never => never.elim)
    rintro _ w' ⟨sent, same⟩
    exact ⟨sent.congr (by simp [standalone]), same⟩

theorem configObject_of_mem_loadBindingRows {db : Database} {stepInstanceId : Nat}
    {entry : StepObjectBindingRow} (member : entry ∈ loadBindingRows db stepInstanceId) :
    db.configObjects.find? entry.row.configObjectId = some entry.configObject := by
  rw [loadBindingRows, List.mem_insertionSort, mem_orderBy] at member
  obtain ⟨row, _, isEntry⟩ := List.mem_filterMap.mp member
  obtain ⟨configObject, found, rfl⟩ := Option.map_eq_some_iff.mp isEntry
  exact found

private theorem provisionRows_sends (proc : ProcessInstance) (stepInstanceId : Nat)
    (correlationId : Option String) (entries : List StepObjectBindingRow) :
    ∀ w : World, (∀ entry ∈ entries,
      w.db.configObjects.find? entry.row.configObjectId = some entry.configObject) →
    Program.wp (Program.forEach (provisionRow proc stepInstanceId correlationId) entries)
      (fun _ w' => Sends
        ((entries.any fun entry => entry.configObject.bindingMode == .standalone) = true) w w')
      (fun _ _ => False) w := by
  induction entries with
  | nil => exact fun w _ => (Sends.refl w).congr (by simp)
  | cons entry rest ih =>
      intro w found
      obtain ⟨first, others⟩ := List.forall_mem_cons.mp found
      rw [Program.forEach, Program.wp_andThen]
      refine Program.wp_mono (provisionRow_sends first) ?_ (fun _ _ never => never)
      rintro _ w₁ ⟨sent, same⟩
      refine Program.wp_mono (ih w₁ fun other member => ?_) ?_
        (fun _ _ never => never)
      · rw [same]
        exact others other member
      · intro _ w₂ more
        exact (sent.trans more).congr (by rw [List.any_cons, Bool.or_eq_true])

theorem provisionBindings_sends (stepInstanceId : Nat) (correlationId : Option String)
    (w : World) :
    Program.wp (provisionBindingsOnStepReady deployment stepInstanceId correlationId)
      (fun _ w' => Sends (provisionSends deployment w.db stepInstanceId = true) w w')
      (fun _ _ => False) w := by
  unfold provisionBindingsOnStepReady provisionSends
  rw [Program.wp_ite]
  constructor
  · intro disabled
    exact (Sends.refl w).congr (by simp [disabled])
  · intro enabled
    have enabled : deployment.flags.configObjectStepsEnabled = true := by simpa using enabled
    rw [Program.wp_bind, Program.wp_read]
    cases loadProcessContext w.db stepInstanceId with
    | none => exact (Sends.refl w).congr (by simp)
    | some proc =>
        rw [Program.wp_bind, Program.wp_read]
        refine Program.wp_mono (provisionRows_sends proc stepInstanceId correlationId _ w
          fun entry member => ?_) ?_ (fun _ _ never => never)
        · exact configObject_of_mem_loadBindingRows (List.mem_filter.mp member).1
        · intro _ w' sent
          exact sent.congr (by simp [enabled])

end ConfigObjectStepExecutor

/-! ## Unlocking a step -/

/-- Unlocking the eligible step raises: its child cannot be started, or its process has no
host. -/
def Refuses (deployment : Deployment) (db : Database) (step : StepInstance) : Prop :=
  if isEnabled deployment = true ∧ step.taskType = .callProcess then SpawnFails deployment db step
  else HostMissing db step.processInstanceId

/-- The step is blocked for a child it has already, which is not reported. -/
def IsReblocked (deployment : Deployment) (db : Database) (step : StepInstance) : Prop :=
  (isEnabled deployment = true ∧ step.taskType = .callProcess) ∧
    findChildProcessInstanceId db step.stepInstanceId ≠ none

private theorem makeReady_sends {step : StepInstance} (eventName : String)
    (opts : AdvanceOptions) (w : World) :
    Program.wp (makeReady deployment eventName step opts)
      (fun _ w' => Sends True w w' ∧ ¬HostMissing w.db step.processInstanceId)
      (fun _ w' => Sends False w w' ∧ HostMissing w.db step.processInstanceId) w := by
  unfold makeReady
  rw [Program.wp_bind, wp_now, Program.wp_bind, wp_setState, Program.wp_bind]
  refine Program.wp_mono (dispatchStepStateChanged_hosted step .ready opts _) ?_ ?_
  · rintro _ w₁ ⟨host, report⟩
    rw [Program.wp_bind]
    refine Program.wp_mono (ConfigObjectStepExecutor.provisionBindings_sends _ _ w₁) ?_
      (fun _ _ never => never.elim)
    intro _ w₂ sent
    rw [wp_emit]
    obtain ⟨quiet, eventsEq, _⟩ := host.log.events
    obtain ⟨events, jobs, eventsEq', queueEq, _⟩ := sent
    refine ⟨⟨quiet ++ events ++ [stepEvent eventName step "event" opts], jobs, ?_, ?_, ?_⟩,
      report.not_hostMissing⟩
    · simp only [eventsEq', eventsEq, List.append_assoc]
    · rw [queueEq, host.queue]
    · simp
  · rintro _ _ ⟨rfl, missing⟩
    exact ⟨.nothing rfl rfl, missing⟩

/-- A start that does not tell its host raises before it writes anything. -/
theorem startProcessIn_untouched {params : StartProcessParams}
    (skips : params.skipHostOnStart = true) (w : World) :
    Program.wp (ProcessLifecycle.startProcessIn deployment params)
      (fun _ _ => True) (fun _ w' => w' = w) w := by
  cases checked : ProcessLifecycle.checkSubject deployment params.subjectType with
  | error message =>
      unfold ProcessLifecycle.startProcessIn
      rw [checked]
      rfl
  | ok accepted =>
      refine Program.wp_mono (ProcessLifecycle.startProcessIn_started deployment params w)
        (fun _ _ _ => trivial) ?_
      rintro _ w' ⟨_, tells | ⟨message, refused⟩⟩
      · rw [skips] at tells
        cases tells
      · rw [checked] at refused
        cases refused

private theorem spawnChild_sends {step : StepInstance} (opts : AdvanceOptions) (w : World)
    (calls : isEnabled deployment = true ∧ step.taskType = .callProcess) :
    Program.wp (spawnChildAndBlockParent deployment step opts)
      (fun _ w' => Sends (¬IsReblocked deployment w.db step) w w')
      (fun _ w' => Sends False w w') w := by
  unfold spawnChildAndBlockParent
  rw [if_neg (by simp [calls]), Program.wp_bind, Program.wp_read]
  cases found : findChildProcessInstanceId w.db step.stepInstanceId with
  | some child =>
      have silent : False ↔ ¬IsReblocked deployment w.db step := by
        simp [IsReblocked, calls, found]
      rw [Program.wp_bind, Program.wp_when]
      exact ⟨fun _ => (Sends.nothing rfl rfl).congr silent, fun _ => (Sends.refl w).congr silent⟩
  | none =>
      rw [Program.wp_bind, Program.wp_read, Program.wp_bind]
      cases resolved : resolveChildStart w.db step opts with
      | error message => exact .refl w
      | ok start =>
          obtain ⟨parent, params⟩ := start
          rw [Program.wp_lift_ok, Program.wp_bind]
          refine Program.wp_mono (Program.wp_and
            (ProcessLifecycle.startProcessIn_started deployment params w)
            (startProcessIn_untouched (childOf_of_resolveChildStart resolved).skipHost w)) ?_ ?_
          · rintro child w₁ ⟨⟨⟨row, started, _⟩, _⟩, _⟩
            have sent : Sends True w { w₁ with
                db := w₁.db.setStep step.stepInstanceId (blocked w₁.now) (fun _ => rfl)
                events := w₁.events ++ [childStartedEvent child.processInstanceId
                  parent.processInstanceId step.stepInstanceId opts] } :=
              .of_event started.log rfl started.queue
            exact sent.congr (by simp [IsReblocked, found])
          · rintro _ _ ⟨_, rfl⟩
            exact .refl _

section Unlocking

variable {origin : World} {processInstanceId target : Nat}

private theorem unlock_sends {step : StepInstance} (eventName : String) (opts : AdvanceOptions)
    {w : World} (member : step ∈ w.db.steps.rows) (pending : step.status = .pending)
    (may : MayUnlock deployment origin target w step) :
    Program.wp (unlock deployment eventName step opts)
      (fun _ w' => Sends (¬IsReblocked deployment w.db step) w w' ∧
        ¬Refuses deployment w.db step)
      (fun _ w' => Sends False w w' ∧ Refuses deployment w.db step) w := by
  unfold unlock Refuses
  rw [Program.wp_ite]
  constructor
  · intro calls
    rw [Program.wp_bind, if_pos calls]
    refine Program.wp_mono (Program.wp_and
      (spawnChild_edits opts member rfl pending may calls.1 calls.2)
      (spawnChild_sends opts w calls)) ?_ ?_
    · rintro _ w' ⟨⟨_, _, startable⟩, sent⟩
      exact ⟨sent, startable⟩
    · rintro _ w' ⟨⟨_, fails⟩, sent⟩
      exact ⟨sent, fails⟩
  · intro others
    rw [if_neg others]
    refine Program.wp_mono (makeReady_sends eventName opts w) ?_ (fun _ _ raised => raised)
    rintro _ w' ⟨sent, hosted⟩
    exact ⟨sent.congr (by simp [IsReblocked, others]), hosted⟩

/-- An iteration of `enableNextSteps` raises on the step. -/
def UnlockRaises (deployment : Deployment) (w : World) (step : StepInstance) : Prop :=
  TriggerFails deployment w step ∨ Eligible deployment w step ∧ Refuses deployment w.db step

/-- An iteration of `enableNextSteps` sends something for the step. -/
def UnlockSends (deployment : Deployment) (w : World) (step : StepInstance) : Prop :=
  triggersSend deployment w step = true ∨
    Eligible deployment w step ∧ ¬Refuses deployment w.db step ∧
      ¬IsReblocked deployment w.db step

/-- A step whose triggers all hold has none that raises. -/
theorem TriggerFails.not_eligible {w : World} {step : StepInstance}
    (fails : TriggerFails deployment w step) : ¬Eligible deployment w step := by
  obtain ⟨schema, member, message, raises⟩ := fails
  intro eligible
  rw [eligible.triggers schema member] at raises
  cases raises

private theorem enableNextStep_sends {step : StepInstance} (opts : AdvanceOptions) {w : World}
    (member : step ∈ w.db.steps.rows) (pending : step.status = .pending)
    (succeeds : Succeeds w.db target step) :
    Program.wp (enableNextStep deployment opts step)
      (fun _ w' => Sends (UnlockSends deployment w step) w w' ∧ ¬UnlockRaises deployment w step)
      (fun _ w' => Sends (UnlockSends deployment w step) w w' ∧ UnlockRaises deployment w step)
      w := by
  unfold enableNextStep
  rw [Program.wp_bind, Program.wp_read, Program.wp_bind]
  refine Program.wp_mono (Program.wp_and (evaluateTriggers_edits w target member rfl)
    (evaluateTriggers_sends step w)) ?_ ?_
  · rintro okTrig w₁ ⟨⟨_, only, holds, sound⟩, evaluated⟩
    have inputs := only.sameInputs deployment step
    have refuses : Refuses deployment w₁.db step ↔ Refuses deployment w.db step := by
      obtain ⟨_, _, _, rfl⟩ := only.shape
      rfl
    have reblocked : IsReblocked deployment w₁.db step ↔ IsReblocked deployment w.db step := by
      obtain ⟨_, _, _, rfl⟩ := only.shape
      rfl
    have steps := only.steps
    rw [Program.wp_when]
    constructor
    · rintro ⟨gates, met⟩
      have eligible : Eligible deployment w step := ⟨gates, holds.mp met⟩
      have may : MayUnlock deployment w target w₁ step :=
        ⟨inputs.eligible.mpr eligible, .inr (by rw [Succeeds, steps]; exact succeeds)⟩
      refine Program.wp_mono (unlock_sends _ opts (steps ▸ member) pending may) ?_ ?_
      · rintro _ w₂ ⟨sent, accepts⟩
        rw [refuses] at accepts
        refine ⟨(evaluated.trans sent).congr ?_, ?_⟩
        · simp only [UnlockSends, eligible, accepts, reblocked, not_false_eq_true, true_and]
        · simp only [UnlockRaises, sound, accepts, and_false, or_self, not_false_eq_true]
      · rintro _ w₂ ⟨sent, raised⟩
        rw [refuses] at raised
        refine ⟨(evaluated.trans sent).congr ?_, .inr ⟨eligible, raised⟩⟩
        simp only [UnlockSends, raised, not_true_eq_false, false_and, and_false]
    · intro ineligible
      have ineligible : ¬Eligible deployment w step := fun eligible =>
        ineligible ⟨eligible.gates, holds.mpr eligible.triggers⟩
      refine ⟨evaluated.congr ?_, ?_⟩
      · simp only [UnlockSends, ineligible, false_and, or_false]
      · simp only [UnlockRaises, sound, ineligible, false_and, or_self, not_false_eq_true]
  · rintro _ w₁ ⟨⟨_, fails⟩, evaluated⟩
    refine ⟨evaluated.congr ?_, .inl fails⟩
    simp only [UnlockSends, fails.not_eligible, false_and, or_false]

end Unlocking

/-! ## The next steps -/

/-- Unlocking the steps in order, until one raises, sends something. -/
def AnyUnlockSends (deployment : Deployment) (w : World) : List StepInstance → Prop
  | [] => False
  | step :: rest =>
      UnlockSends deployment w step ∨
        ¬UnlockRaises deployment w step ∧ AnyUnlockSends deployment w rest

/-- `enableNextSteps` raises. -/
def NextRaises (deployment : Deployment) (w : World) (processInstanceId : Nat)
    (currentOrder : Int) : Prop :=
  ∃ next ∈ nextSteps w.db processInstanceId currentOrder, UnlockRaises deployment w next

/-- `enableNextSteps` sends something before it ends. -/
def NextSends (deployment : Deployment) (w : World) (processInstanceId : Nat)
    (currentOrder : Int) : Prop :=
  AnyUnlockSends deployment w (nextSteps w.db processInstanceId currentOrder)

theorem SameInputs.buildContext {step : StepInstance} {before after : World}
    (same : SameInputs deployment step before after) :
    buildContext after.db step.processInstanceId step.stepInstanceId after.now =
      buildContext before.db step.processInstanceId step.stepInstanceId before.now := by
  unfold StepOrchestrator.buildContext checkRequirementsOnly
  rw [same.process, same.requirements, same.now]

theorem SameInputs.triggersSend {step : StepInstance} {before after : World}
    (same : SameInputs deployment step before after) :
    triggersSend deployment after step = triggersSend deployment before step := by
  unfold Automation.triggersSend
  rw [same.schemas, same.buildContext]
  simp only [same.verdict]

namespace UnlocksAlike

variable {before after : World} {step : StepInstance}

theorem refuses (alike : UnlocksAlike deployment before after step) :
    Refuses deployment after.db step ↔ Refuses deployment before.db step := by
  have start : resolveChildStart after.db step .none = resolveChildStart before.db step .none := by
    unfold resolveChildStart
    rw [alike.inputs.process, alike.inputs.templates]
  unfold Refuses SpawnFails
  rw [alike.child, start, alike.inputs.hostMissing]

theorem raises (alike : UnlocksAlike deployment before after step) :
    UnlockRaises deployment after step ↔ UnlockRaises deployment before step := by
  unfold UnlockRaises
  rw [alike.inputs.triggerFails, alike.inputs.eligible, alike.refuses]

theorem sends (alike : UnlocksAlike deployment before after step) :
    UnlockSends deployment after step ↔ UnlockSends deployment before step := by
  unfold UnlockSends IsReblocked
  rw [alike.inputs.triggersSend, alike.inputs.eligible, alike.refuses, alike.child]

end UnlocksAlike

section NextSteps

variable {before after : World} {processInstanceId : Nat} {currentOrder : Int}

theorem nextRaises_eq
    (same : nextSteps after.db processInstanceId currentOrder =
      nextSteps before.db processInstanceId currentOrder)
    (alike : ∀ next ∈ nextSteps before.db processInstanceId currentOrder,
      UnlocksAlike deployment before after next) :
    NextRaises deployment after processInstanceId currentOrder ↔
      NextRaises deployment before processInstanceId currentOrder := by
  unfold NextRaises
  rw [same]
  exact exists_congr fun next => and_congr_right fun selected => (alike next selected).raises

end NextSteps

private theorem enableNextSteps_sends {pred : StepInstance} (opts : AdvanceOptions) {w : World}
    (member : pred ∈ w.db.steps.rows) (completed : pred.status = .completed) :
    Program.wp (enableNextSteps deployment pred.processInstanceId pred.stepOrder opts)
      (fun _ w' => Edits deployment w pred.processInstanceId pred.stepInstanceId w w' ∧
        Sends (NextSends deployment w pred.processInstanceId pred.stepOrder) w w' ∧
        ¬NextRaises deployment w pred.processInstanceId pred.stepOrder)
      (fun _ w' => Sends (NextSends deployment w pred.processInstanceId pred.stepOrder) w w' ∧
        NextRaises deployment w pred.processInstanceId pred.stepOrder) w := by
  -- What was sent so far, and what the steps still to come decide.
  let inv := fun (rest : List StepInstance) (t : World) =>
    (∃ sent, Sends sent w t ∧ (NextSends deployment w pred.processInstanceId pred.stepOrder ↔
      sent ∨ AnyUnlockSends deployment w rest)) ∧
    (NextRaises deployment w pred.processInstanceId pred.stepOrder ↔
      ∃ next ∈ rest, UnlockRaises deployment w next)
  refine Program.wp_mono (enableNextSteps_rule opts member completed inv ?_ ?_) ?_
    (fun _ _ raised => raised)
  · exact ⟨⟨False, .refl w, by rw [false_or]; rfl⟩, Iff.rfl⟩
  · rintro step rest t selected stepMember alike succeeds ⟨⟨sent, sends, all⟩, raises⟩
    have pending := (mem_nextSteps.mp selected).2.2.2
    refine Program.wp_mono (enableNextStep_sends opts stepMember pending succeeds) ?_ ?_
    · rintro _ u ⟨more, sound⟩
      rw [alike.raises] at sound
      refine ⟨⟨_, sends.trans more, ?_⟩, ?_⟩
      · rw [all, AnyUnlockSends, alike.sends, or_assoc]
        simp only [sound, not_false_eq_true, true_and]
      · rw [raises, List.exists_mem_cons_iff, or_iff_right sound]
    · rintro _ u ⟨more, raised⟩
      rw [alike.raises] at raised
      refine ⟨(sends.trans more).congr ?_, raises.mpr ⟨step, List.mem_cons_self, raised⟩⟩
      rw [all, AnyUnlockSends, alike.sends]
      simp only [raised, not_true_eq_false, false_and, or_false]
  · rintro _ w' ⟨edits, ⟨sent, sends, all⟩, raises⟩
    refine ⟨edits, sends.congr ?_, ?_⟩
    · rw [all, AnyUnlockSends, or_false]
    · rw [raises]
      simp

/-! ## Settling a process -/

/-- A process with a step that has not ended is left alone. -/
private theorem maybeCompleteJob_unended {processInstanceId : Nat} {row : StepInstance}
    (opts : AdvanceOptions) {w : World} (member : row ∈ w.db.steps.rows)
    (ofProcess : row.processInstanceId = processInstanceId) (unended : ¬IsOverStep row) :
    Program.wp (maybeCompleteJob deployment processInstanceId opts)
      (fun _ w' => w' = w) (fun _ _ => False) w := by
  have stepMember : row ∈ w.db.stepsOf processInstanceId :=
    Table.mem_select.mpr ⟨member, by simpa using ofProcess⟩
  have notDone : ProcessCompletion.areAllStepsCompleted w.db processInstanceId = false := by
    apply Bool.eq_false_iff.mpr
    intro allDone
    exact unended (.inl ((areAllStepsCompleted_iff.mp allDone).2 row stepMember))
  have cannot : ProcessCompletion.canCompleteProcess deployment w.db processInstanceId = false := by
    apply Bool.eq_false_iff.mpr
    intro canComplete
    exact unended ((canCompleteProcess_iff.mp canComplete).1.2 row stepMember)
  unfold maybeCompleteJob reportJob completeRoot
  rw [Program.wp_bind, Program.wp_read, notDone, Program.wp_bind, Program.wp_when]
  refine ⟨nofun, fun _ => ?_⟩
  rw [Program.wp_bind, Program.wp_read, Program.wp_ite]
  refine ⟨fun impossible => by simp at impossible, fun _ => ?_⟩
  rw [Program.wp_bind, Program.wp_bind, Program.wp_read, cannot]
  exact rfl

private theorem settleStep_sends {pred : StepInstance} (opts : AdvanceOptions) {w : World}
    (member : pred ∈ w.db.steps.rows) (completed : pred.status = .completed) :
    Program.wp (settleStep deployment pred.processInstanceId pred.stepOrder opts)
      (fun _ _ => ¬NextRaises deployment w pred.processInstanceId pred.stepOrder)
      (fun _ w' => Sends (NextSends deployment w pred.processInstanceId pred.stepOrder) w w' ∧
        (NextRaises deployment w pred.processInstanceId pred.stepOrder ∨
          nextSteps w.db pred.processInstanceId pred.stepOrder = [] ∧
            HostMissing w.db pred.processInstanceId)) w := by
  unfold settleStep
  rw [Program.wp_bind]
  refine Program.wp_mono (enableNextSteps_sends opts member completed) ?_
    (fun _ _ ⟨sends, raised⟩ => ⟨sends, .inl raised⟩)
  rintro _ w₁ ⟨edits, sends, sound⟩
  cases next : nextSteps w.db pred.processInstanceId pred.stepOrder with
  | nil =>
      refine Program.wp_mono (maybeCompleteJob_settles pred.processInstanceId opts w₁)
        (fun _ _ _ => sound) ?_
      rintro _ _ ⟨rfl, missing⟩
      have inputs := edits.sameInputs ⟨pred, member, rfl⟩ rfl
      exact ⟨sends, .inr ⟨rfl, inputs.hostMissing.mp missing⟩⟩
  | cons step rest =>
      -- Unlocked or not, the first of them has not ended.
      have selected : step ∈ nextSteps w.db pred.processInstanceId pred.stepOrder := by
        rw [next]
        exact List.mem_cons_self
      obtain ⟨stepMember, ofProcess, _, pending⟩ := mem_nextSteps.mp selected
      have unended : ∃ row ∈ w₁.db.steps.rows,
          row.processInstanceId = pred.processInstanceId ∧ ¬IsOverStep row := by
        rcases edits.image stepMember with kept | ⟨row, rowMember, moved⟩
        · exact ⟨step, kept, ofProcess, by simp [IsOverStep, pending]⟩
        · refine ⟨row, rowMember, moved.same.process.trans ofProcess, ?_⟩
          rcases moved.status with ready | blocked
          · simp [IsOverStep, ready]
          · simp [IsOverStep, blocked]
      obtain ⟨row, rowMember, rowProcess, notOver⟩ := unended
      exact Program.wp_mono (maybeCompleteJob_unended opts rowMember rowProcess notOver)
        (fun _ _ _ => sound) (fun _ _ never => never.elim)

private theorem StepCompleted.settles_sends {step : StepInstance} {w done : World}
    (completes : StepCompleted step w done) (member : step ∈ w.db.steps.rows)
    (heard : done.events ≠ w.events) (hosted : ¬HostMissing w.db step.processInstanceId)
    (opts : AdvanceOptions) :
    Program.wp (settleStep deployment step.processInstanceId step.stepOrder opts)
      (fun _ _ => ¬NextRaises deployment w step.processInstanceId step.stepOrder)
      (fun _ w' => Sends True w w' ∧
        NextRaises deployment w step.processInstanceId step.stepOrder) done := by
  obtain ⟨row, rowMember, key, process, order, status⟩ := completes.row member
  have inputs := completes.sameInputs deployment step
  obtain ⟨set, sets, _, _, _, _, tables⟩ := completes.tables
  have raises : NextRaises deployment done step.processInstanceId step.stepOrder ↔
      NextRaises deployment w step.processInstanceId step.stepOrder := by
    refine nextRaises_eq (nextSteps_setStep sets (by rw [tables]) member _) fun next _ => ?_
    exact ⟨completes.sameInputs deployment next, by rw [tables]; rfl⟩
  have sent : Sends True w done := by
    obtain ⟨events, eventsEq, _⟩ := completes.log.events
    refine ⟨events, [], eventsEq, by rw [completes.queue, List.append_nil], ?_⟩
    rw [eventsEq] at heard
    simpa using heard
  have settle := @settleStep_sends deployment row opts done rowMember status
  rw [process, order, raises] at settle
  refine Program.wp_mono settle (fun _ _ sound => sound) ?_
  rintro _ w' ⟨more, raised | ⟨_, missing⟩⟩
  · exact ⟨sent.then_more more, raised⟩
  · exact absurd (inputs.hostMissing.mp missing) hosted

/-! ## The operations -/

/-- Completing the step raises: its process has no host, or a step behind it is not unlocked. -/
def CompletionRaises (deployment : Deployment) (w : World) (step : StepInstance) : Prop :=
  HostMissing w.db step.processInstanceId ∨
    NextRaises deployment w step.processInstanceId step.stepOrder

/-- `attemptAdvance` raises on a step that is not finished. -/
def AdvanceRaises (deployment : Deployment) (w : World) (step : StepInstance) : Prop :=
  TriggerFails deployment w step ∨
    Eligible deployment w step ∧ (step.status = .pending ∧ Refuses deployment w.db step ∨
      Runs deployment w step ∧ CompletionRaises deployment w step)

/-- `attemptAdvance` sends something for a step that is not finished, before it raises. -/
def AdvanceSends (deployment : Deployment) (w : World) (step : StepInstance) : Prop :=
  step.status = .ready ∧
      ConfigObjectStepExecutor.provisionSends deployment w.db step.stepInstanceId = true ∨
    triggersSend deployment w step = true ∨
    Runs deployment w step ∧ ¬HostMissing w.db step.processInstanceId

/-- The completion of a step is heard of before it raises, where there is a host. -/
def CompletionEnds (deployment : Deployment) (w : World) (step : StepInstance)
    (program : Tx (Option Nat)) : Prop :=
  Program.wp program (fun _ _ => ¬CompletionRaises deployment w step)
    (fun _ w' => CompletionRaises deployment w step ∧
      Sends (¬HostMissing w.db step.processInstanceId) w w') w

private theorem completionEnds_missing {step : StepInstance} {w w' : World}
    (events : w'.events = w.events) (queue : w'.queue = w.queue)
    (missing : HostMissing w.db step.processInstanceId) :
    CompletionRaises deployment w step ∧
      Sends (¬HostMissing w.db step.processInstanceId) w w' :=
  ⟨.inl missing, (Sends.nothing events queue).congr (by simp [missing])⟩

private theorem completionEnds_settles {step : StepInstance} {w done : World}
    (member : step ∈ w.db.steps.rows) (completes : StepCompleted step w done)
    (heard : done.events ≠ w.events) (hosted : ¬HostMissing w.db step.processInstanceId)
    (opts : AdvanceOptions) :
    Program.wp (settleStep deployment step.processInstanceId step.stepOrder opts)
      (fun _ _ => ¬CompletionRaises deployment w step)
      (fun _ w' => CompletionRaises deployment w step ∧
        Sends (¬HostMissing w.db step.processInstanceId) w w') done := by
  refine Program.wp_mono (completes.settles_sends member heard hosted opts) ?_ ?_
  · intro _ _ sound
    exact not_or.mpr ⟨hosted, sound⟩
  · rintro _ w' ⟨sent, raised⟩
    exact ⟨.inr raised, sent.congr (by simp [hosted])⟩

private theorem completeStep_sends {step : StepInstance} (opts : AdvanceOptions) {w : World}
    (member : step ∈ w.db.steps.rows) :
    CompletionEnds deployment w step (completeStep deployment step opts) :=
  completeStep_rule opts
    (fun _ _ events _ queue missing => completionEnds_missing events queue missing)
    fun _ completes heard hosted => completionEnds_settles member completes heard hosted opts

private theorem runAutomated_sends {step : StepInstance} (opts : AdvanceOptions) {w : World}
    (member : step ∈ w.db.steps.rows) (ready : step.status = .ready) :
    CompletionEnds deployment w step (runAutomated deployment step opts) :=
  runAutomated_rule ready opts
    (fun _ _ events _ queue missing => completionEnds_missing events queue missing)
    fun _ completes heard hosted => completionEnds_settles member completes heard hosted opts

/-- `attemptAdvance` on a step whose gates and triggers hold. -/
private theorem advanceEligible_sends {step : StepInstance} (opts : AdvanceOptions)
    {w w₁ : World} (member : step ∈ w.db.steps.rows)
    (edits : Edits deployment w step.processInstanceId step.stepInstanceId w w₁)
    (steps : w₁.db.steps = w.db.steps) (eligible : Eligible deployment w step)
    (only : step.status = .pending → OnlyTriggers w w₁) :
    Program.wp (advanceEligible deployment step opts)
      (fun _ _ => ¬AdvanceRaises deployment w step)
      (fun _ w' => AdvanceRaises deployment w step ∧
        Sends (Runs deployment w step ∧ ¬HostMissing w.db step.processInstanceId) w₁ w') w₁ := by
  have member₁ : step ∈ w₁.db.steps.rows := steps ▸ member
  have known : ∃ other ∈ w.db.steps.rows, other.stepInstanceId = step.stepInstanceId :=
    ⟨step, member, rfl⟩
  have sound : ¬TriggerFails deployment w step := fun fails => fails.not_eligible eligible
  -- The step runs if it is automated and ready now; the steps behind it are what they were.
  have run : ∀ w₂ row, Edits deployment w step.processInstanceId step.stepInstanceId w w₂ →
      row ∈ w₂.db.steps.rows → SameStep step row → row.status = .ready →
      nextSteps w₂.db step.processInstanceId step.stepOrder =
        nextSteps w.db step.processInstanceId step.stepOrder →
      Program.wp (runAutomated deployment row opts)
        (fun _ _ => ¬CompletionRaises deployment w step)
        (fun _ w' => CompletionRaises deployment w step ∧
          Sends (¬HostMissing w.db step.processInstanceId) w₂ w') w₂ := by
    intro w₂ row edits₂ rowMember same ready sameNext
    have missing := (edits₂.sameInputs known rfl).hostMissing
    have raises : NextRaises deployment w₂ step.processInstanceId step.stepOrder ↔
        NextRaises deployment w step.processInstanceId step.stepOrder := by
      refine nextRaises_eq sameNext fun next selected => ?_
      obtain ⟨nextMember, ofProcess, _, pending⟩ := mem_nextSteps.mp selected
      have knownNext : ∃ other ∈ w.db.steps.rows, other.stepInstanceId = next.stepInstanceId :=
        ⟨next, nextMember, rfl⟩
      have nextMember₂ := (mem_nextSteps.mp (sameNext ▸ selected)).1
      exact ⟨edits₂.sameInputs knownNext ofProcess,
        edits₂.findChild nextMember₂ pending knownNext⟩
    have ends := @runAutomated_sends deployment row opts w₂ rowMember ready
    unfold CompletionEnds CompletionRaises at ends
    rwa [same.process, same.order, missing, raises] at ends
  unfold advanceEligible
  rw [Program.wp_bind, Program.wp_when]
  constructor
  · intro pending
    have inputs := (only pending).sameInputs deployment step
    have may : MayUnlock deployment w step.stepInstanceId w₁ step :=
      ⟨inputs.eligible.mpr eligible, .inl ⟨rfl, only pending⟩⟩
    have refuses : Refuses deployment w₁.db step ↔ Refuses deployment w.db step :=
      UnlocksAlike.refuses ⟨inputs, edits.findChild member₁ pending known⟩
    refine Program.wp_mono (Program.wp_and
      (Program.wp_and (unlock_edits _ opts member₁ rfl pending may)
        (unlock_queue _ opts member₁))
      (unlock_sends _ opts member₁ pending may)) ?_ ?_
    · rintro _ w₂ ⟨⟨⟨unlocked, kept, _⟩, _, setReady⟩, sent, accepts⟩
      rw [refuses] at accepts
      obtain ⟨row, rowMember, same, outcome⟩ := kept.self
      have reload : w₂.db.step? step.stepInstanceId = some row :=
        Table.find?_eq_some.mpr ⟨rowMember, same.key⟩
      rw [Program.wp_bind, Program.wp_read, reload, Program.wp_ite]
      constructor
      · intro runnable
        simp only [isRunnable, Bool.and_eq_true, beq_iff_eq] at runnable
        have automated : step.taskType = .automated := same.task ▸ runnable.1
        have runs : Runs deployment w step := ⟨automated, .inl pending, eligible⟩
        have hosted : ¬HostMissing w.db step.processInstanceId := by
          unfold Refuses at accepts
          rwa [if_neg (by simp [automated])] at accepts
        obtain ⟨set, sets, written⟩ := setReady (by simp [automated])
        have sameNext := nextSteps_setStep sets written member₁ step.processInstanceId
        rw [nextSteps_of_steps steps] at sameNext
        refine Program.wp_mono (run w₂ row (edits.trans unlocked) rowMember same runnable.2
          sameNext) ?_ ?_
        · rintro _ _ completes (fails | ⟨_, ⟨_, raised⟩ | ⟨_, raised⟩⟩)
          · exact sound fails
          · exact accepts raised
          · exact completes raised
        · rintro _ w' ⟨raised, more⟩
          exact ⟨.inr ⟨eligible, .inr ⟨runs, raised⟩⟩,
            (sent.trans more).congr (by simp [runs, hosted])⟩
      · rintro notRunnable (fails | ⟨_, ⟨_, raised⟩ | ⟨runs, _⟩⟩)
        · exact sound fails
        · exact accepts raised
        · rcases outcome with ready | ⟨_, calls⟩
          · exact notRunnable (by simp [isRunnable, ready, same.task, runs.automated])
          · rw [runs.automated] at calls
            cases calls
    · rintro _ w₂ ⟨_, silent, raised⟩
      rw [refuses] at raised
      refine ⟨.inr ⟨eligible, .inl ⟨pending, raised⟩⟩, silent.congr ?_⟩
      refine ⟨False.elim, ?_⟩
      rintro ⟨runs, hosted⟩
      apply hosted
      unfold Refuses at raised
      rwa [if_neg (by simp [runs.automated])] at raised
  · intro notPending
    have reload : w₁.db.step? step.stepInstanceId = some step :=
      Table.find?_eq_some.mpr ⟨member₁, rfl⟩
    rw [Program.wp_bind, Program.wp_read, reload, Program.wp_ite]
    constructor
    · intro runnable
      simp only [isRunnable, Bool.and_eq_true, beq_iff_eq] at runnable
      have runs : Runs deployment w step := ⟨runnable.1, .inr runnable.2, eligible⟩
      refine Program.wp_mono (run w₁ step edits member₁ ⟨rfl, rfl, rfl, rfl, rfl⟩ runnable.2
        (nextSteps_of_steps steps _ _)) ?_ ?_
      · rintro _ _ completes (fails | ⟨_, ⟨pending, _⟩ | ⟨_, raised⟩⟩)
        · exact sound fails
        · exact notPending pending
        · exact completes raised
      · rintro _ w' ⟨raised, more⟩
        exact ⟨.inr ⟨eligible, .inr ⟨runs, raised⟩⟩, more.congr (by simp [runs])⟩
    · rintro notRunnable (fails | ⟨_, ⟨pending, _⟩ | ⟨runs, _⟩⟩)
      · exact sound fails
      · exact notPending pending
      · exact notRunnable (by
          simp [isRunnable, runs.automated, runs.begun.resolve_left notPending])

/-- `attemptAdvance` on a step that is not finished. -/
private theorem advanceStep_sends {step : StepInstance} (opts : AdvanceOptions) {w : World}
    (member : step ∈ w.db.steps.rows) :
    Program.wp (advanceStep deployment step opts)
      (fun _ _ => ¬AdvanceRaises deployment w step)
      (fun _ w' => AdvanceRaises deployment w step ∧ Sends (AdvanceSends deployment w step) w w')
      w := by
  have provision : Program.wp (Program.when (step.status = .ready) <|
      ConfigObjectStepExecutor.provisionBindingsOnStepReady deployment step.stepInstanceId
        opts.correlationId)
      (fun _ w' => Sends (step.status = .ready ∧
        ConfigObjectStepExecutor.provisionSends deployment w.db step.stepInstanceId = true) w w')
      (fun _ _ => False) w := by
    rw [Program.wp_when]
    constructor
    · intro ready
      refine Program.wp_mono (ConfigObjectStepExecutor.provisionBindings_sends _ _ w) ?_
        (fun _ _ never => never)
      intro _ _ sent
      exact sent.congr (by simp [ready])
    · intro other
      exact (Sends.refl w).congr (by simp [other])
  unfold advanceStep AdvanceSends
  rw [Program.wp_bind]
  refine Program.wp_mono (Program.wp_and
    (provisionReady_edits step.stepInstanceId step opts.correlationId member) provision) ?_
    (fun _ _ never => never.1.elim)
  rintro _ w₁ ⟨⟨provisioned, objects, untouched⟩, created⟩
  have inputs := objects.sameInputs step
  have steps₁ : w₁.db.steps = w.db.steps := by
    obtain ⟨_, _, _, rfl⟩ := objects.shape
    rfl
  have triggers : triggersSend deployment w₁ step = triggersSend deployment w step :=
    inputs.triggersSend
  rw [Program.wp_bind, Program.wp_read, Program.wp_bind]
  refine Program.wp_mono (Program.wp_and
    (evaluateTriggers_edits w step.stepInstanceId (steps₁ ▸ member) rfl)
    (evaluateTriggers_sends step w₁)) ?_ ?_
  · rintro triggersMet w₂ ⟨⟨evaluated, only, verdict, sound⟩, evaluation⟩
    rw [triggers] at evaluation
    rw [inputs.triggerFails] at sound
    rw [Program.wp_ite]
    constructor
    · rintro ⟨gates, met⟩
      refine Program.wp_mono (advanceEligible_sends opts member (provisioned.trans evaluated)
        (only.steps.trans steps₁) (inputs.eligible.mp ⟨gates, verdict.mp met⟩) fun pending => ?_)
        (fun _ _ holds => holds) ?_
      · rw [untouched pending] at only
        exact only
      · rintro _ w' ⟨raised, more⟩
        exact ⟨raised, ((created.trans evaluation).trans more).congr or_assoc⟩
    · rintro ineligible (fails | ⟨eligible, _⟩)
      · exact sound fails
      · have eligible₁ := inputs.eligible.mpr eligible
        exact ineligible ⟨eligible₁.gates, verdict.mpr eligible₁.triggers⟩
  · rintro _ w₂ ⟨⟨_, fails⟩, evaluation⟩
    rw [triggers] at evaluation
    rw [inputs.triggerFails] at fails
    refine ⟨.inl fails, (created.trans evaluation).congr (or_congr_right ?_)⟩
    exact ⟨.inl, fun sent => sent.resolve_right fun ⟨runs, _⟩ =>
      fails.not_eligible runs.eligible⟩

/-- An operation of the orchestrator on a step. -/
inductive Operation where
  | attemptAdvance | markCompleted | resumeParentAfterChildCallProcess

namespace Operation

/-- The call of the operation. -/
def call (deployment : Deployment) : Operation → Nat → AdvanceOptions → Tx Unit
  | .attemptAdvance => StepOrchestrator.attemptAdvance deployment
  | .markCompleted => StepOrchestrator.markCompleted deployment
  | .resumeParentAfterChildCallProcess =>
      StepOrchestrator.resumeParentAfterChildCallProcess deployment

/-- The body of its first transaction. -/
def body (deployment : Deployment) : Operation → Nat → AdvanceOptions → Tx (Option Nat)
  | .attemptAdvance => attemptAdvanceIn deployment
  | .markCompleted => markCompletedIn deployment
  | .resumeParentAfterChildCallProcess => resumeParentIn deployment

/-- The operation on the step raises after it has sent something. -/
def FailsAudibly (deployment : Deployment) (w : World) (step : StepInstance) : Operation → Prop
  | .attemptAdvance =>
      isFinished step.status = false ∧ AdvanceRaises deployment w step ∧
        AdvanceSends deployment w step
  | .markCompleted =>
      isCompletable deployment w.db step = true ∧ ¬HostMissing w.db step.processInstanceId ∧
        NextRaises deployment w step.processInstanceId step.stepOrder
  | .resumeParentAfterChildCallProcess =>
      step.status = .completed ∧
        NextRaises deployment w step.processInstanceId step.stepOrder ∧
        NextSends deployment w step.processInstanceId step.stepOrder

variable (operation : Operation) (stepInstanceId : Nat) (opts : AdvanceOptions) (w : World)

/-- The first transaction returns where the operation does not fail audibly, and one that raises
has sent something exactly where it does. -/
theorem body_sends :
    Program.wp (operation.body deployment stepInstanceId opts)
      (fun _ _ => ∀ step, w.db.step? stepInstanceId = some step →
        ¬operation.FailsAudibly deployment w step)
      (fun _ w' => Sends (∃ step, w.db.step? stepInstanceId = some step ∧
        operation.FailsAudibly deployment w step) w w') w := by
  have single : ∀ {step : StepInstance} {holds : StepInstance → Prop},
      w.db.step? stepInstanceId = some step →
      ((∃ other, w.db.step? stepInstanceId = some other ∧ holds other) ↔ holds step) := by
    intro step holds found
    rw [found]
    simp
  cases operation with
  | attemptAdvance =>
      unfold body attemptAdvanceIn
      rw [Program.wp_bind, Program.wp_read]
      split
      · rename_i missing
        intro step found
        rw [missing] at found
        cases found
      · rename_i step found
        rw [Program.wp_ite]
        constructor
        · intro finished other isOther
          obtain rfl : step = other := Option.some.inj (found.symm.trans isOther)
          simp [FailsAudibly, finished]
        · intro unfinished
          have unfinished : isFinished step.status = false := by simpa using unfinished
          refine Program.wp_mono (advanceStep_sends opts (Table.mem_of_find? found)) ?_ ?_
          · intro _ _ sound other isOther
            obtain rfl : step = other := Option.some.inj (found.symm.trans isOther)
            exact fun fails => sound fails.2.1
          · rintro _ w' ⟨raised, sent⟩
            exact sent.congr (by rw [single found]; simp [FailsAudibly, unfinished, raised])
  | markCompleted =>
      unfold body markCompletedIn
      rw [Program.wp_bind, Program.wp_read]
      split
      · rename_i missing
        intro step found
        rw [missing] at found
        cases found
      · rename_i step found
        rw [Program.wp_bind, Program.wp_read, Program.wp_ite]
        constructor
        · intro completable
          refine Program.wp_mono (completeStep_sends opts (Table.mem_of_find? found)) ?_ ?_
          · intro _ _ sound other isOther
            obtain rfl : step = other := Option.some.inj (found.symm.trans isOther)
            exact fun fails => sound (.inr fails.2.2)
          · rintro _ w' ⟨raised, sent⟩
            refine sent.congr ?_
            rw [single found]
            unfold CompletionRaises at raised
            simp only [FailsAudibly, completable, true_and]
            exact ⟨fun hosted => ⟨hosted, raised.resolve_left hosted⟩, fun fails => fails.1⟩
        · intro incompletable other isOther
          obtain rfl : step = other := Option.some.inj (found.symm.trans isOther)
          exact fun fails => incompletable fails.1
  | resumeParentAfterChildCallProcess =>
      unfold body resumeParentIn
      rw [Program.wp_bind, Program.wp_read]
      split
      · rename_i missing
        intro step found
        rw [missing] at found
        cases found
      · rename_i step found
        rw [Program.wp_ite]
        constructor
        · intro completed
          refine Program.wp_mono (settleStep_sends opts (Table.mem_of_find? found) completed)
            ?_ ?_
          · intro _ _ sound other isOther
            obtain rfl : step = other := Option.some.inj (found.symm.trans isOther)
            exact fun fails => sound fails.2.1
          · rintro _ w' ⟨sent, raised⟩
            refine sent.congr ?_
            rw [single found]
            simp only [FailsAudibly, completed, true_and]
            rcases raised with raised | ⟨noNext, _⟩
            · exact (and_iff_right raised).symm
            · simp [NextSends, noNext, AnyUnlockSends]
        · intro incomplete other isOther
          obtain rfl : step = other := Option.some.inj (found.symm.trans isOther)
          exact fun fails => incomplete fails.1

end Operation

/-! ## Failed calls -/

/-- The same rows in every table. -/
structure SameRows (before after : Database) : Prop where
  processInstances : after.processInstances.rows = before.processInstances.rows
  steps : after.steps.rows = before.steps.rows
  requirements : after.requirements.rows = before.requirements.rows
  submissions : after.submissions.rows = before.submissions.rows
  triggers : after.triggers.rows = before.triggers.rows
  objectInstances : after.objectInstances.rows = before.objectInstances.rows
  customInstances : after.customInstances.rows = before.customInstances.rows
  templateSteps : after.templateSteps.rows = before.templateSteps.rows
  templateRequirements : after.templateRequirements.rows = before.templateRequirements.rows
  templateTriggers : after.templateTriggers.rows = before.templateTriggers.rows
  templateBindings : after.templateBindings.rows = before.templateBindings.rows
  configObjects : after.configObjects.rows = before.configObjects.rows
  projects : after.projects.rows = before.projects.rows
  tasks : after.tasks.rows = before.tasks.rows
  statusMappings : after.statusMappings.rows = before.statusMappings.rows
  scheduledTasks : after.scheduledTasks.rows = before.scheduledTasks.rows

theorem Database.rollback_sameRows (before after : Database) :
    SameRows before (before.rollback after) := by
  constructor <;> rfl

/-- A call that raises leaves the rows as they were, and has sent nothing. -/
def FailsInvisibly (program : Tx Unit) (w : World) : Prop :=
  ∀ message after, program w = (.error message, after) →
    SameRows w.db after.db ∧ after.events = w.events ∧ after.queue = w.queue

/-- Reporting a completed child to its parent never raises. -/
theorem finalizeChildTerminalIfNeeded_returns (childTerminalId : Option Nat)
    (opts : AdvanceOptions) (w : World) :
    Program.wp (finalizeChildTerminalIfNeeded deployment childTerminalId opts)
      (fun _ _ => True) (fun _ _ => False) w := by
  cases childTerminalId with
  | none => trivial
  | some childProcessInstanceId =>
      unfold finalizeChildTerminalIfNeeded handleChildTerminal
      rw [Program.wp_ite]
      refine ⟨fun _ => trivial, fun _ => ?_⟩
      rw [wp_transaction]
      exact Program.wp_mono (handleChildTerminalIn_effect childProcessInstanceId .completed opts w)
        (fun _ _ _ => trivial) (fun _ _ never => never)

namespace Operation

variable (operation : Operation) (stepInstanceId : Nat) (opts : AdvanceOptions) (w : World)

/-- A call is its first transaction and the report of the child it completed. -/
theorem call_eq :
    operation.call deployment stepInstanceId opts =
      (transaction (operation.body deployment stepInstanceId opts) >>= fun childTerminalId =>
        finalizeChildTerminalIfNeeded deployment childTerminalId opts) := by
  cases operation <;> rfl

/-- A call that raises raised in its first transaction. -/
theorem call_sends :
    Program.wp (operation.call deployment stepInstanceId opts)
      (fun _ _ => ∀ step, w.db.step? stepInstanceId = some step →
        ¬operation.FailsAudibly deployment w step)
      (fun _ w' => SameRows w.db w'.db ∧
        Sends (∃ step, w.db.step? stepInstanceId = some step ∧
          operation.FailsAudibly deployment w step) w w') w := by
  rw [call_eq, Program.wp_bind, wp_transaction]
  refine Program.wp_mono (operation.body_sends stepInstanceId opts w) ?_ ?_
  · intro childTerminalId w₁ sound
    exact Program.wp_mono (finalizeChildTerminalIfNeeded_returns childTerminalId opts w₁)
      (fun _ _ _ => sound) (fun _ _ never => never.elim)
  · intro _ w₁ sent
    exact ⟨w.db.rollback_sameRows w₁.db, sent⟩

/-- A failed call is invisible where the operation on the step does not raise after it has sent
something. -/
theorem failsInvisibly_iff :
    FailsInvisibly (operation.call deployment stepInstanceId opts) w ↔
      ∀ step, w.db.step? stepInstanceId = some step →
        ¬operation.FailsAudibly deployment w step := by
  have ends := @call_sends deployment operation stepInstanceId opts w
  constructor
  · intro invisible step found audible
    rcases run : operation.call deployment stepInstanceId opts w with ⟨message | value, after⟩
    · obtain ⟨_, sent⟩ := Program.wp_error ends run
      obtain ⟨_, events, queue⟩ := invisible message after run
      exact sent.silent_iff.mp ⟨events, queue⟩ ⟨step, found, audible⟩
    · exact Program.wp_ok ends run step found audible
  · intro silent message after run
    obtain ⟨rows, sent⟩ := Program.wp_error ends run
    have quiet := sent.silent_iff.mpr fun ⟨step, found, audible⟩ => silent step found audible
    exact ⟨rows, quiet⟩

end Operation

/-! ## A step that calls no process -/

/-- A manual step in front of a `call_process` step without a child template. -/
def missingChild : Templates where
  steps := [.row 1 .manual 1 none, .row 1 .callProcess 2 none]
  requirements := []
  triggers := []
  bindings := []
  configObjects := []

/-- The process started, with its first step ready. -/
def missingChildStarted : World :=
  ((Engine.system .allEnabled).run (Engine.installed missingChild)
    [.invoke (.startProcess (.workflow 1 1 .ignore))]).world

/-- The first step is reported completed by a call that raises, and stays ready. -/
theorem failed_completion_audible :
    ¬FailsInvisibly (Operation.markCompleted.call .allEnabled 1 .none) missingChildStarted := by
  intro invisible
  have raised : (Operation.markCompleted.call .allEnabled 1 .none missingChildStarted).1 =
      .error "call_process step requires child_template_id on process_template_steps" := by
    decide
  have heard : (Operation.markCompleted.call .allEnabled 1 .none missingChildStarted).2.events ≠
      missingChildStarted.events := by
    decide
  exact heard (invisible _ _ (Prod.ext raised rfl)).2.1

end CoreApi.Automation
