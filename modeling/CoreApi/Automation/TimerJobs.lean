import CoreApi.Automation.CallWrites
import CoreApi.Automation.SatisfiedTriggers
import Mathlib.Data.List.Count

/-!
# Delayed jobs of time triggers

Evaluating a time trigger puts a delayed job on the queue, whether or not one is
there already. `evaluatedTimers` are the triggers a call evaluates; the call puts
at most one job for each of them on the queue. In a run whose calls evaluate no
trigger with a job in flight, no trigger ever has more than one.
-/

namespace CoreApi.Automation

open CoreApi.Foundation StepOrchestrator ChildProcessOrchestration

variable {deployment : Deployment}

/-! ## The triggers a call evaluates -/

/-- The triggers of the step up to the first that raises, under the step. -/
def stepTimers (deployment : Deployment) (w : World) (step : StepInstance) :
    List (Nat × TriggerEnvelope) :=
  ((w.db.schemasOf step.stepInstanceId).takeWhile fun schema =>
    (triggerVerdict deployment w step schema).isOk).map (Prod.mk step.stepInstanceId)

/-- The steps of a list up to the first that fails to unlock. -/
def reachedSteps (deployment : Deployment) (w : World) : List StepInstance → List StepInstance
  | [] => []
  | step :: rest =>
      step :: if UnlockFails deployment w step then [] else reachedSteps deployment w rest

/-- The triggers `enableNextSteps` evaluates. -/
def nextTimers (deployment : Deployment) (w : World) (processInstanceId : Nat)
    (currentOrder : Int) : List (Nat × TriggerEnvelope) :=
  (reachedSteps deployment w (nextSteps w.db processInstanceId currentOrder)).flatMap
    (stepTimers deployment w)

/-- The triggers `attemptAdvance` evaluates on a step that is not finished. -/
def advanceTimers (deployment : Deployment) (w : World) (step : StepInstance) :
    List (Nat × TriggerEnvelope) :=
  stepTimers deployment w step ++
    if Runs deployment w step then
      nextTimers deployment w step.processInstanceId step.stepOrder
    else []

/-! ## Queues -/

/-- A queue that grew by jobs with at most one timer for each entry of the list. -/
def Enqueues (timers : List (Nat × TriggerEnvelope)) (before after : World) : Prop :=
  ∃ jobs, after.queue = before.queue ++ jobs ∧ ∀ stepInstanceId schema,
    jobs.countP (Engine.isTimerOf stepInstanceId schema) ≤ timers.count (stepInstanceId, schema)

namespace Enqueues

variable {timers more : List (Nat × TriggerEnvelope)} {before after : World}

theorem of_queue (same : after.queue = before.queue) : Enqueues timers before after :=
  ⟨[], by rw [same, List.append_nil], fun _ _ => Nat.zero_le _⟩

theorem trans {middle : World} (first : Enqueues timers before middle)
    (second : Enqueues more middle after) : Enqueues (timers ++ more) before after := by
  obtain ⟨jobs, queue, bound⟩ := first
  obtain ⟨jobs', queue', bound'⟩ := second
  refine ⟨jobs ++ jobs', by rw [queue', queue, List.append_assoc], fun stepInstanceId schema => ?_⟩
  rw [List.countP_append, List.count_append]
  exact Nat.add_le_add (bound stepInstanceId schema) (bound' stepInstanceId schema)

theorem mono (enqueues : Enqueues timers before after) (sublist : timers.Sublist more) :
    Enqueues more before after := by
  obtain ⟨jobs, queue, bound⟩ := enqueues
  exact ⟨jobs, queue, fun stepInstanceId schema =>
    (bound stepInstanceId schema).trans (sublist.count_le _)⟩

/-- Writes after which the queue is what it was. -/
theorem then_keeps {middle : World} (enqueues : Enqueues timers before middle)
    (same : after.queue = middle.queue) : Enqueues timers before after := by
  obtain ⟨jobs, queue, bound⟩ := enqueues
  exact ⟨jobs, same.trans queue, bound⟩

theorem after_keeps {middle : World} (same : middle.queue = before.queue)
    (enqueues : Enqueues timers middle after) : Enqueues timers before after := by
  obtain ⟨jobs, queue, bound⟩ := enqueues
  exact ⟨jobs, by rw [queue, same], bound⟩

end Enqueues

/-! ## Evaluations -/

/-- The evaluation of a trigger puts at most one timer on the queue, and one of its own. -/
theorem triggerJobs_count {trigger : TriggerEnvelope} {context : TriggerContext} {jobs : List Job}
    (own : TriggerJobs trigger context jobs) (stepInstanceId : Nat) (schema : TriggerEnvelope) :
    jobs.countP (Engine.isTimerOf stepInstanceId schema) ≤
      [(context.stepId, trigger)].count (stepInstanceId, schema) := by
  rcases own with rfl | ⟨delayMs, rfl⟩ | actions
  · exact Nat.zero_le _
  · simp only [List.countP_singleton, List.count_singleton, Engine.isTimerOf, Bool.and_eq_true,
      beq_iff_eq, Prod.mk.injEq]
    split
    · next same => rw [if_pos ⟨same.2, same.1⟩]
    · exact Nat.zero_le _
  · rw [List.countP_eq_zero.mpr]
    · exact Nat.zero_le _
    · intro job member
      obtain ⟨delayMs, name, data, rfl⟩ := actions job member
      exact Bool.false_ne_true

/-- The loop of `evaluateTriggers`, up to the first trigger that raises. -/
theorem evaluateAll_enqueues (context : TriggerContext) (triggers : List StepTrigger) :
    ∀ w : World, Program.wp (evaluateAll deployment context triggers)
      (fun _ w' => Enqueues (((triggers.map StepTrigger.jsonSchema).takeWhile fun schema =>
        (TriggerEngine.verdict deployment schema context).isOk).map (Prod.mk context.stepId)) w w')
      (fun _ w' => Enqueues (((triggers.map StepTrigger.jsonSchema).takeWhile fun schema =>
        (TriggerEngine.verdict deployment schema context).isOk).map (Prod.mk context.stepId)) w w')
      w := by
  induction triggers with
  | nil => exact fun w => .of_queue rfl
  | cons trigger rest ih =>
      intro w
      unfold evaluateAll
      rw [Program.wp_bind]
      unfold evaluateTrigger
      rw [Program.wp_bind]
      refine Program.wp_mono (TriggerEngine.evaluate_effect deployment trigger.jsonSchema
        context w) ?_ ?_
      · rintro met _ ⟨verdict, events, jobs, rfl, _, own⟩
        have first : Enqueues [(context.stepId, trigger.jsonSchema)] w
            { w with events := w.events ++ events, queue := w.queue ++ jobs } :=
          ⟨jobs, rfl, triggerJobs_count own⟩
        rw [List.map_cons, List.takeWhile_cons_of_pos (by rw [verdict]; rfl), List.map_cons]
        simp only [now, writeDb, Program.wp_bind, Program.wp_read, Program.wp_write,
          Program.wp_pure]
        refine Program.wp_mono (ih _) ?_ ?_
        · intro _ _ others
          exact first.trans (.after_keeps rfl others)
        · intro _ _ others
          exact first.trans (.after_keeps rfl others)
      · rintro message _ ⟨_, rfl⟩
        exact .of_queue rfl

theorem evaluateTriggers_enqueues (step : StepInstance) (w : World) :
    Program.wp (evaluateTriggers deployment step.processInstanceId step.stepInstanceId)
      (fun _ w' => Enqueues (stepTimers deployment w step) w w')
      (fun _ w' => Enqueues (stepTimers deployment w step) w w') w := by
  unfold evaluateTriggers
  rw [Program.wp_bind, Program.wp_read, Program.wp_bind, Program.wp_read]
  exact evaluateAll_enqueues _ _ w

/-! ## Unlocking -/

/-- Making a step ready and provisioning it puts no job on the queue. -/
theorem makeReady_queue {step : StepInstance} (eventName : String) (opts : AdvanceOptions)
    {w : World} (member : step ∈ w.db.steps.rows) :
    Program.wp (makeReady deployment eventName step opts)
      (fun _ w' => w'.queue = w.queue ∧ ∃ (set : StepInstance → StepInstance)
        (sets : SetsStatus .ready set),
        w'.db.steps = (w.db.setStep step.stepInstanceId set sets.key).steps)
      (fun _ w' => w'.queue = w.queue) w := by
  unfold makeReady
  rw [Program.wp_bind, wp_now, Program.wp_bind, wp_setState, Program.wp_bind]
  have sets := setsStatus_stepInState .ready
    { StateTimes.none with readyAt := some w.now } w.now
  refine Program.wp_mono (dispatchStepStateChanged_hosted step .ready opts _) ?_ ?_
  · rintro _ w₁ ⟨host, _⟩
    have queue := host.queue
    obtain ⟨_, _, _, _, tables⟩ := host.tables
    have steps : w₁.db.steps = (w.db.setStep step.stepInstanceId _ sets.key).steps := by
      rw [tables]
    have readyRow : stepInState .ready { StateTimes.none with readyAt := some w.now } w.now step ∈
        w₁.db.steps.rows := by
      rw [steps]
      exact (mem_setStep sets.key).mpr (.inl ⟨step, member, rfl, rfl⟩)
    rw [Program.wp_bind]
    refine Program.wp_mono (provisionBindings_edits w₁ step.stepInstanceId (stepInState .ready
      { StateTimes.none with readyAt := some w.now } w.now step) opts.correlationId readyRow rfl
      rfl) ?_ (fun _ _ never => never.elim)
    rintro _ w₂ ⟨_, only⟩
    obtain ⟨_, _, _, rfl⟩ := only.shape
    exact ⟨queue, _, sets, steps⟩
  · rintro _ _ ⟨rfl, _⟩
    rfl

/-- Spawning a child puts no job on the queue. -/
theorem spawnChild_queue (step : StepInstance) (opts : AdvanceOptions) (w : World) :
    Program.wp (spawnChildAndBlockParent deployment step opts)
      (fun _ w' => w'.queue = w.queue) (fun _ w' => w'.queue = w.queue) w := by
  unfold spawnChildAndBlockParent
  rw [Program.wp_ite]
  refine ⟨fun _ => rfl, fun _ => ?_⟩
  rw [Program.wp_bind, Program.wp_read]
  split
  · rw [Program.wp_bind, Program.wp_when]
    exact ⟨fun _ => rfl, fun _ => rfl⟩
  · rw [Program.wp_bind, Program.wp_read, Program.wp_bind]
    cases resolveChildStart w.db step opts with
    | error message => exact rfl
    | ok start =>
        rw [Program.wp_lift_ok, Program.wp_bind]
        refine Program.wp_mono (ProcessLifecycle.startProcessIn_started deployment start.2 w) ?_ ?_
        · rintro _ w₁ ⟨⟨_, started, _⟩, _⟩
          exact started.queue
        · rintro _ _ ⟨⟨_, queue⟩, _⟩
          exact queue

theorem unlock_queue {step : StepInstance} (eventName : String) (opts : AdvanceOptions)
    {w : World} (member : step ∈ w.db.steps.rows) :
    Program.wp (unlock deployment eventName step opts)
      (fun _ w' => w'.queue = w.queue ∧ (step.taskType ≠ .callProcess →
        ∃ (set : StepInstance → StepInstance) (sets : SetsStatus .ready set),
          w'.db.steps = (w.db.setStep step.stepInstanceId set sets.key).steps))
      (fun _ w' => w'.queue = w.queue) w := by
  unfold unlock
  rw [Program.wp_ite]
  constructor
  · rintro ⟨_, calls⟩
    rw [Program.wp_bind]
    refine Program.wp_mono (spawnChild_queue step opts w) ?_ (fun _ _ queue => queue)
    exact fun _ _ queue => ⟨queue, fun other => absurd calls other⟩
  · intro _
    refine Program.wp_mono (makeReady_queue eventName opts member) ?_ (fun _ _ queue => queue)
    rintro _ _ ⟨queue, steps⟩
    exact ⟨queue, fun _ => steps⟩

theorem enableNextStep_enqueues {step : StepInstance} (opts : AdvanceOptions) {w : World}
    (member : step ∈ w.db.steps.rows) :
    Program.wp (enableNextStep deployment opts step)
      (fun _ w' => Enqueues (stepTimers deployment w step) w w')
      (fun _ w' => Enqueues (stepTimers deployment w step) w w') w := by
  unfold enableNextStep
  rw [Program.wp_bind, Program.wp_read, Program.wp_bind]
  refine Program.wp_mono (Program.wp_and (evaluateTriggers_edits w step.stepInstanceId member rfl)
    (evaluateTriggers_enqueues step w)) ?_ (fun _ _ raised => raised.2)
  rintro _ w₁ ⟨⟨_, only, _⟩, enqueues⟩
  rw [Program.wp_when]
  refine ⟨fun _ => ?_, fun _ => enqueues⟩
  refine Program.wp_mono (unlock_queue _ opts (only.steps ▸ member)) ?_ ?_
  · exact fun _ _ unlocked => enqueues.then_keeps unlocked.1
  · exact fun _ _ queue => enqueues.then_keeps queue

/-! ## The next steps -/

theorem stepTimers_eq {step : StepInstance} {before after : World}
    (same : SameInputs deployment step before after) :
    stepTimers deployment after step = stepTimers deployment before step := by
  unfold stepTimers
  rw [same.schemas]
  simp only [same.verdict]

/-- What decides about unlocking the step is the same in both worlds. -/
structure UnlocksAlike (deployment : Deployment) (before after : World) (step : StepInstance) :
    Prop where
  inputs : SameInputs deployment step before after
  child : findChildProcessInstanceId after.db step.stepInstanceId =
    findChildProcessInstanceId before.db step.stepInstanceId

/-- The steps are reached alike, and their triggers are evaluated alike. -/
theorem reachedTimers_eq {before after : World} {steps : List StepInstance}
    (alike : ∀ step ∈ steps, UnlocksAlike deployment before after step) :
    (reachedSteps deployment after steps).flatMap (stepTimers deployment after) =
      (reachedSteps deployment before steps).flatMap (stepTimers deployment before) := by
  induction steps with
  | nil => rfl
  | cons step rest ih =>
      obtain ⟨first, others⟩ := List.forall_mem_cons.mp alike
      have fails := first.inputs.unlockFails first.child
      unfold reachedSteps
      rw [List.flatMap_cons, List.flatMap_cons, stepTimers_eq first.inputs]
      by_cases failing : UnlockFails deployment before step
      · rw [if_pos failing, if_pos (fails.mpr failing)]
        rfl
      · rw [if_neg failing, if_neg (mt fails.mp failing), ih others]

theorem nextTimers_eq {before after : World} {processInstanceId : Nat} {currentOrder : Int}
    (same : nextSteps after.db processInstanceId currentOrder =
      nextSteps before.db processInstanceId currentOrder)
    (alike : ∀ next ∈ nextSteps before.db processInstanceId currentOrder,
      UnlocksAlike deployment before after next) :
    nextTimers deployment after processInstanceId currentOrder =
      nextTimers deployment before processInstanceId currentOrder := by
  unfold nextTimers
  rw [same]
  exact reachedTimers_eq alike

theorem nextSteps_of_steps {before after : Database} (same : after.steps = before.steps)
    (processInstanceId : Nat) (currentOrder : Int) :
    nextSteps after processInstanceId currentOrder =
      nextSteps before processInstanceId currentOrder := by
  unfold nextSteps Database.stepsOf
  rw [same]

/-- Writing the status of a step leaves the steps behind it. -/
theorem nextSteps_setStep {step : StepInstance} {status : StepStatus}
    {set : StepInstance → StepInstance} (sets : SetsStatus status set) {before after : Database}
    (steps : after.steps = (before.setStep step.stepInstanceId set sets.key).steps)
    (member : step ∈ before.steps.rows) (processInstanceId : Nat) :
    nextSteps after processInstanceId step.stepOrder =
      nextSteps before processInstanceId step.stepOrder := by
  unfold nextSteps Database.stepsOf
  rw [steps]
  unfold Database.setStep
  simp only [Table.select, List.filter_filter]
  refine Table.select_updateAt_of_unselected fun row rowMember same => ?_
  have later : step.stepOrder ≠ step.stepOrder + 1 := by omega
  rw [Table.eq_of_key_eq rowMember member same]
  simp [sets.order, later]

/-- The rule of the loop of `enableNextSteps` after the completed step `pred`: each step still to
come is the row it was, and is unlocked as it would have been first. -/
theorem enableNextSteps_rule {pred : StepInstance} (opts : AdvanceOptions) {w : World}
    (member : pred ∈ w.db.steps.rows) (completed : pred.status = .completed)
    (inv : List StepInstance → World → Prop) {err : String → World → Prop}
    (start : inv (nextSteps w.db pred.processInstanceId pred.stepOrder) w)
    (each : ∀ step rest t,
      step ∈ nextSteps w.db pred.processInstanceId pred.stepOrder → step ∈ t.db.steps.rows →
      UnlocksAlike deployment w t step → Succeeds t.db pred.stepInstanceId step →
      inv (step :: rest) t →
      Program.wp (enableNextStep deployment opts step) (fun _ u => inv rest u) err t) :
    Program.wp (enableNextSteps deployment pred.processInstanceId pred.stepOrder opts)
      (fun _ u => Edits deployment w pred.processInstanceId pred.stepInstanceId w u ∧ inv [] u)
      err w := by
  unfold enableNextSteps
  rw [Program.wp_bind, Program.wp_read]
  have fresh : (nextSteps w.db pred.processInstanceId pred.stepOrder).Pairwise fun a b =>
      a.stepInstanceId ≠ b.stepInstanceId :=
    ((List.pairwise_map.mp w.db.steps.distinct).filter _).filter _
  let going := fun (rest : List StepInstance) (t : World) =>
    Edits deployment w pred.processInstanceId pred.stepInstanceId w t ∧
      pred ∈ t.db.steps.rows ∧
      (∀ step ∈ rest, step ∈ nextSteps w.db pred.processInstanceId pred.stepOrder ∧
        step ∈ t.db.steps.rows) ∧
      (rest.Pairwise fun a b => a.stepInstanceId ≠ b.stepInstanceId) ∧ inv rest t
  refine Program.wp_mono (Program.wp_forEach going _ w ?_ ?_)
    (fun _ _ ⟨edits, _, _, _, holds⟩ => ⟨edits, holds⟩) (fun _ _ raised => raised)
  · exact ⟨.refl, member, fun step selected => ⟨selected, (mem_nextSteps.mp selected).1⟩, fresh,
      start⟩
  · rintro step rest t ⟨edits, predMember, rows, distinct, holds⟩
    obtain ⟨selected, stepMember⟩ := rows step List.mem_cons_self
    obtain ⟨origMember, same, order, pending⟩ := mem_nextSteps.mp selected
    obtain ⟨others, distinctRest⟩ := List.pairwise_cons.mp distinct
    have known : ∃ other ∈ w.db.steps.rows, other.stepInstanceId = step.stepInstanceId :=
      ⟨step, origMember, rfl⟩
    have alike : UnlocksAlike deployment w t step :=
      ⟨edits.sameInputs known same, edits.findChild stepMember pending known⟩
    have succeeds : Succeeds t.db pred.stepInstanceId step :=
      ⟨pred, predMember, rfl, same.symm, completed, order.symm⟩
    have different : pred.stepInstanceId ≠ step.stepInstanceId := by
      intro sameKey
      have sameRow : pred = step := Table.eq_of_key_eq predMember stepMember sameKey
      rw [sameRow, pending] at completed
      cases completed
    refine Program.wp_mono (Program.wp_and (enableNextStep_edits w pred.stepInstanceId opts
      stepMember same pending succeeds) (each step rest t selected stepMember alike succeeds
      holds)) ?_ (fun _ _ raised => raised.2)
    rintro _ u ⟨⟨unlocked, kept, _⟩, holdsAfter⟩
    refine ⟨edits.trans unlocked, kept pred predMember different, ?_, distinctRest, holdsAfter⟩
    intro other otherMember
    obtain ⟨otherSelected, otherRow⟩ := rows other (List.mem_cons_of_mem _ otherMember)
    exact ⟨otherSelected, kept other otherRow (others other otherMember).symm⟩

/-- `enableNextSteps` after the completed step `pred`. -/
theorem enableNextSteps_enqueues {pred : StepInstance} (opts : AdvanceOptions) {w : World}
    (member : pred ∈ w.db.steps.rows) (completed : pred.status = .completed) :
    Program.wp (enableNextSteps deployment pred.processInstanceId pred.stepOrder opts)
      (fun _ w' => Enqueues (nextTimers deployment w pred.processInstanceId pred.stepOrder) w w')
      (fun _ w' => Enqueues (nextTimers deployment w pred.processInstanceId pred.stepOrder) w w')
      w := by
  -- What was enqueued, together with what the steps still to come may enqueue.
  let inv := fun (rest : List StepInstance) (t : World) => ∀ u,
    Enqueues ((reachedSteps deployment w rest).flatMap (stepTimers deployment w)) t u →
      Enqueues (nextTimers deployment w pred.processInstanceId pred.stepOrder) w u
  refine Program.wp_mono (enableNextSteps_rule opts member completed inv (fun _ all => all) ?_)
    (fun _ w' ⟨_, all⟩ => all w' (.of_queue rfl)) (fun _ _ raised => raised)
  intro step rest t selected stepMember alike succeeds all
  obtain ⟨_, same, _, pending⟩ := mem_nextSteps.mp selected
  have fails := alike.inputs.unlockFails alike.child
  have enqueues := @enableNextStep_enqueues deployment _ opts _ stepMember
  rw [stepTimers_eq alike.inputs] at enqueues
  refine Program.wp_mono (Program.wp_and (enableNextStep_edits w pred.stepInstanceId opts
    stepMember same pending succeeds) enqueues) ?_ ?_
  · rintro _ u ⟨⟨_, _, _, startable⟩, first⟩ v more
    refine all v ?_
    unfold reachedSteps
    rw [List.flatMap_cons, if_neg (mt fails.mpr startable)]
    exact first.trans more
  · rintro _ u ⟨_, first⟩
    refine all u (first.mono ?_)
    unfold reachedSteps
    rw [List.flatMap_cons]
    exact List.sublist_append_left _ _

/-! ## The operations -/

/-- Settling a process puts no job on the queue. -/
theorem Settlement.queue {processInstanceId : Nat} {before after : World} {result : Option Nat}
    (settlement : Settlement deployment processInstanceId before result after) :
    after.queue = before.queue := by
  cases settlement with
  | idle => rfl
  | child => rfl
  | announced _ _ _ _ _ announced => exact announced.queue

theorem settleStep_enqueues {pred : StepInstance} (opts : AdvanceOptions) {w : World}
    (member : pred ∈ w.db.steps.rows) (completed : pred.status = .completed) :
    Program.wp (settleStep deployment pred.processInstanceId pred.stepOrder opts)
      (fun _ w' => Enqueues (nextTimers deployment w pred.processInstanceId pred.stepOrder) w w')
      (fun _ w' => Enqueues (nextTimers deployment w pred.processInstanceId pred.stepOrder) w w')
      w := by
  unfold settleStep
  rw [Program.wp_bind]
  refine Program.wp_mono (enableNextSteps_enqueues opts member completed) ?_
    (fun _ _ raised => raised)
  intro _ w₁ enqueues
  refine Program.wp_mono (maybeCompleteJob_settles pred.processInstanceId opts w₁) ?_ ?_
  · exact fun _ _ settlement => enqueues.then_keeps settlement.queue
  · rintro _ _ ⟨rfl, _⟩
    exact enqueues

/-- `settleStep` right after the step was completed. -/
theorem StepCompleted.enqueues {step : StepInstance} {w completed : World}
    (completes : StepCompleted step w completed) (member : step ∈ w.db.steps.rows)
    (opts : AdvanceOptions) :
    Program.wp (settleStep deployment step.processInstanceId step.stepOrder opts)
      (fun _ w' => Enqueues (nextTimers deployment w step.processInstanceId step.stepOrder) w w')
      (fun _ w' => Enqueues (nextTimers deployment w step.processInstanceId step.stepOrder) w w')
      completed := by
  obtain ⟨row, rowMember, key, process, order, status⟩ := completes.row member
  obtain ⟨set, sets, _, _, _, _, tables⟩ := completes.tables
  have settle := @settleStep_enqueues deployment _ opts _ rowMember status
  have same : nextTimers deployment completed step.processInstanceId step.stepOrder =
      nextTimers deployment w step.processInstanceId step.stepOrder := by
    refine nextTimers_eq (nextSteps_setStep sets (by rw [tables]) member _) fun next _ => ?_
    exact ⟨completes.sameInputs deployment next, by rw [tables]; rfl⟩
  rw [process, order, same] at settle
  exact Program.wp_mono settle (fun _ _ more => .after_keeps completes.queue more)
    (fun _ _ more => .after_keeps completes.queue more)

theorem completeStep_enqueues {step : StepInstance} {w : World} (member : step ∈ w.db.steps.rows)
    (opts : AdvanceOptions) :
    Program.wp (completeStep deployment step opts)
      (fun _ w' => Enqueues (nextTimers deployment w step.processInstanceId step.stepOrder) w w')
      (fun _ w' => Enqueues (nextTimers deployment w step.processInstanceId step.stepOrder) w w')
      w :=
  completeStep_rule opts (fun _ _ _ _ queue _ => .of_queue queue)
    fun _ completes _ _ => completes.enqueues member opts

theorem runAutomated_enqueues {step : StepInstance} {w : World} (member : step ∈ w.db.steps.rows)
    (ready : step.status = .ready) (opts : AdvanceOptions) :
    Program.wp (runAutomated deployment step opts)
      (fun _ w' => Enqueues (nextTimers deployment w step.processInstanceId step.stepOrder) w w')
      (fun _ w' => Enqueues (nextTimers deployment w step.processInstanceId step.stepOrder) w w')
      w :=
  runAutomated_rule ready opts (fun _ _ _ _ queue _ => .of_queue queue)
    fun _ completes _ _ => completes.enqueues member opts

/-- `attemptAdvance` on an eligible step: the next steps follow where the step runs. -/
theorem advanceEligible_enqueues {step : StepInstance} (opts : AdvanceOptions) {w w₁ : World}
    (member : step ∈ w.db.steps.rows)
    (edits : Edits deployment w step.processInstanceId step.stepInstanceId w w₁)
    (steps : w₁.db.steps = w.db.steps) (eligible : Eligible deployment w step)
    (only : step.status = .pending → OnlyTriggers w w₁) :
    Program.wp (advanceEligible deployment step opts)
      (fun _ w' => Enqueues (if Runs deployment w step then
        nextTimers deployment w step.processInstanceId step.stepOrder else []) w₁ w')
      (fun _ w' => Enqueues (if Runs deployment w step then
        nextTimers deployment w step.processInstanceId step.stepOrder else []) w₁ w') w₁ := by
  have member₁ : step ∈ w₁.db.steps.rows := steps ▸ member
  -- The step runs if it is automated and ready now; the steps behind it are what they were.
  have run : ∀ w₂ row, Edits deployment w step.processInstanceId step.stepInstanceId w w₂ →
      row ∈ w₂.db.steps.rows → SameStep step row → row.status = .ready →
      row.taskType = .automated → step.status = .pending ∨ step.status = .ready →
      nextSteps w₂.db step.processInstanceId step.stepOrder =
        nextSteps w.db step.processInstanceId step.stepOrder →
      Program.wp (runAutomated deployment row opts)
        (fun _ w' => Enqueues (if Runs deployment w step then
          nextTimers deployment w step.processInstanceId step.stepOrder else []) w₂ w')
        (fun _ w' => Enqueues (if Runs deployment w step then
          nextTimers deployment w step.processInstanceId step.stepOrder else []) w₂ w') w₂ := by
    intro w₂ row edits₂ rowMember same ready automated begun sameNext
    have runs : Runs deployment w step := ⟨same.task ▸ automated, begun, eligible⟩
    have timers : nextTimers deployment w₂ step.processInstanceId step.stepOrder =
        nextTimers deployment w step.processInstanceId step.stepOrder := by
      refine nextTimers_eq sameNext fun next selected => ?_
      obtain ⟨nextMember, ofProcess, _, pending⟩ := mem_nextSteps.mp selected
      have known : ∃ other ∈ w.db.steps.rows, other.stepInstanceId = next.stepInstanceId :=
        ⟨next, nextMember, rfl⟩
      have nextMember₂ := (mem_nextSteps.mp (sameNext ▸ selected)).1
      exact ⟨edits₂.sameInputs known ofProcess, edits₂.findChild nextMember₂ pending known⟩
    have enqueues := @runAutomated_enqueues deployment _ _ rowMember ready opts
    rw [same.process, same.order, timers] at enqueues
    rwa [if_pos runs]
  unfold advanceEligible
  rw [Program.wp_bind, Program.wp_when]
  constructor
  · intro pending
    have may : MayUnlock deployment w step.stepInstanceId w₁ step :=
      ⟨((only pending).sameInputs deployment step).eligible.mpr eligible, .inl ⟨rfl, only pending⟩⟩
    refine Program.wp_mono (Program.wp_and (unlock_edits _ opts member₁ rfl pending may)
      (unlock_queue _ opts member₁)) ?_ (fun _ _ raised => .of_queue raised.2)
    rintro _ w₂ ⟨⟨unlocked, kept, _⟩, queue, setReady⟩
    obtain ⟨row, rowMember, same, _⟩ := kept.self
    have reload : w₂.db.step? step.stepInstanceId = some row :=
      Table.find?_eq_some.mpr ⟨rowMember, same.key⟩
    rw [Program.wp_bind, Program.wp_read, reload, Program.wp_ite]
    constructor
    · intro runnable
      simp only [isRunnable, Bool.and_eq_true, beq_iff_eq] at runnable
      obtain ⟨set, sets, written⟩ := setReady (by rw [← same.task, runnable.1]; decide)
      have sameNext := nextSteps_setStep sets written member₁ step.processInstanceId
      rw [nextSteps_of_steps steps] at sameNext
      exact Program.wp_mono (run w₂ row (edits.trans unlocked) rowMember same runnable.2
        runnable.1 (.inl pending) sameNext) (fun _ _ more => .after_keeps queue more)
        (fun _ _ more => .after_keeps queue more)
    · exact fun _ => .of_queue queue
  · intro notPending
    have reload : w₁.db.step? step.stepInstanceId = some step :=
      Table.find?_eq_some.mpr ⟨member₁, rfl⟩
    rw [Program.wp_bind, Program.wp_read, reload, Program.wp_ite]
    constructor
    · intro runnable
      simp only [isRunnable, Bool.and_eq_true, beq_iff_eq] at runnable
      exact run w₁ step edits member₁ ⟨rfl, rfl, rfl, rfl, rfl⟩ runnable.2 runnable.1
        (.inr runnable.2) (nextSteps_of_steps steps _ _)
    · exact fun _ => .of_queue rfl

/-- `attemptAdvance` on a step that is not finished. -/
theorem advanceStep_enqueues {step : StepInstance} (opts : AdvanceOptions) {w : World}
    (member : step ∈ w.db.steps.rows) :
    Program.wp (advanceStep deployment step opts)
      (fun _ w' => Enqueues (advanceTimers deployment w step) w w')
      (fun _ w' => Enqueues (advanceTimers deployment w step) w w') w := by
  unfold advanceStep advanceTimers
  rw [Program.wp_bind]
  refine Program.wp_mono (provisionReady_edits step.stepInstanceId step opts.correlationId member) ?_
    (fun _ _ never => never.elim)
  rintro _ w₁ ⟨provisioned, objects, untouched⟩
  have inputs := objects.sameInputs step
  have steps₁ : w₁.db.steps = w.db.steps := by
    obtain ⟨_, _, _, rfl⟩ := objects.shape
    rfl
  have queue₁ : w₁.queue = w.queue := by
    obtain ⟨_, _, _, rfl⟩ := objects.shape
    rfl
  have evaluates := Program.wp_and
    (evaluateTriggers_edits w step.stepInstanceId (steps₁ ▸ member) rfl)
    (@evaluateTriggers_enqueues deployment step w₁)
  rw [stepTimers_eq inputs] at evaluates
  rw [Program.wp_bind, Program.wp_read, Program.wp_bind]
  refine Program.wp_mono evaluates ?_ ?_
  · rintro triggersMet w₂ ⟨⟨evaluated, only, verdict, _⟩, more⟩
    have first := Enqueues.after_keeps queue₁ more
    rw [Program.wp_ite]
    constructor
    · rintro ⟨gates, met⟩
      refine Program.wp_mono (advanceEligible_enqueues opts member (provisioned.trans evaluated)
        (only.steps.trans steps₁) (inputs.eligible.mp ⟨gates, verdict.mp met⟩) fun pending => ?_)
        (fun _ _ rest => first.trans rest) (fun _ _ rest => first.trans rest)
      rw [untouched pending] at only
      exact only
    · exact fun _ => first.mono (List.sublist_append_left _ _)
  · rintro _ w₂ ⟨_, more⟩
    exact (Enqueues.after_keeps queue₁ more).mono (List.sublist_append_left _ _)

namespace Engine

/-! ## Calls -/

/-- The triggers a call evaluates, each under its step. -/
def evaluatedTimers (deployment : Deployment) (w : World) : Call → List (Nat × TriggerEnvelope)
  | .attemptAdvance stepInstanceId _ =>
      match w.db.step? stepInstanceId with
      | some step =>
          if isFinished step.status = true then [] else advanceTimers deployment w step
      | none => []
  | .markCompleted stepInstanceId _ =>
      match w.db.step? stepInstanceId with
      | some step =>
          if isCompletable deployment w.db step = true then
            nextTimers deployment w step.processInstanceId step.stepOrder
          else []
      | none => []
  | .resumeParent stepInstanceId _ =>
      match w.db.step? stepInstanceId with
      | some step =>
          if step.status = .completed then
            nextTimers deployment w step.processInstanceId step.stepOrder
          else []
      | none => []
  | _ => []

/-- A call that writes nothing before it can raise puts no job on the queue. -/
theorem Effect.queue {before after : World} {call : Call}
    (effect : Effect deployment before call after) (single : ¬Transacts call) :
    after.queue = before.queue := by
  cases effect with
  | unchanged => rfl
  | raised _ _ _ _ transacts => exact absurd transacts single
  | started => exact absurd trivial single
  | advanced => exact absurd trivial single
  | marked => exact absurd trivial single
  | resumed => exact absurd trivial single
  | childTerminal _ _ _ _ _ _ _ _ told => cases told <;> rfl
  | eligible => rfl
  | validated _ _ _ validated =>
      obtain ⟨_, _, _, _, _, _, _, rfl⟩ := validated
      rfl
  | evidence _ only =>
      obtain ⟨_, _, _, _, _, rfl⟩ := only
      rfl
  | triggersMarked => rfl

variable (deployment) in
/-- A call puts at most one timer on the queue for each trigger it evaluates. -/
theorem perform_enqueues (call : Call) (w : World) :
    Enqueues (evaluatedTimers deployment w call) w (perform deployment call w).2 := by
  by_cases single : ¬Transacts call
  · exact .of_queue (Effect.queue (Program.wp_end _ (perform_effect deployment call w)) single)
  refine Program.wp_end (fun after : World => Enqueues (evaluatedTimers deployment w call) w after) ?_
  cases call with
  | startProcess params =>
      unfold perform ProcessLifecycle.startProcess
      rw [Program.wp_bind, wp_transaction]
      refine Program.wp_mono (ProcessLifecycle.startProcessIn_started deployment
        (rootParams params) w) ?_ ?_
      · rintro _ _ ⟨⟨_, started, _⟩, _⟩
        exact .of_queue started.queue
      · rintro _ _ ⟨⟨_, queue⟩, _⟩
        exact .of_queue queue
  | attemptAdvance stepInstanceId opts =>
      unfold perform attemptAdvanceIn
      rw [Program.wp_bind, wp_transaction, Program.wp_bind, Program.wp_read]
      rcases found : w.db.step? stepInstanceId with _ | step
      · exact .of_queue rfl
      · simp only [evaluatedTimers, found]
        rw [Program.wp_ite]
        refine ⟨fun finished => .of_queue rfl, fun unfinished => ?_⟩
        rw [if_neg unfinished]
        exact Program.wp_mono (advanceStep_enqueues opts (Table.mem_of_find? found))
          (fun _ _ enqueues => enqueues) (fun _ _ enqueues => enqueues)
  | markCompleted stepInstanceId opts =>
      unfold perform markCompletedIn
      rw [Program.wp_bind, wp_transaction, Program.wp_bind, Program.wp_read]
      rcases found : w.db.step? stepInstanceId with _ | step
      · exact .of_queue rfl
      · simp only [evaluatedTimers, found]
        rw [Program.wp_bind, Program.wp_read, Program.wp_ite]
        refine ⟨fun completable => ?_, fun _ => .of_queue rfl⟩
        rw [if_pos completable]
        exact Program.wp_mono (completeStep_enqueues (Table.mem_of_find? found) opts)
          (fun _ _ enqueues => enqueues) (fun _ _ enqueues => enqueues)
  | resumeParent stepInstanceId opts =>
      unfold perform resumeParentIn
      rw [Program.wp_bind, wp_transaction, Program.wp_bind, Program.wp_read]
      rcases found : w.db.step? stepInstanceId with _ | step
      · exact .of_queue rfl
      · simp only [evaluatedTimers, found]
        rw [Program.wp_ite]
        refine ⟨fun completed => ?_, fun _ => .of_queue rfl⟩
        rw [if_pos completed]
        exact Program.wp_mono (settleStep_enqueues opts (Table.mem_of_find? found) completed)
          (fun _ _ enqueues => enqueues) (fun _ _ enqueues => enqueues)
  | _ => exact absurd id single

/-! ## Counts -/

/-- The triggers of a step are evaluated at most once. -/
theorem count_stepTimers (w : World) (step : StepInstance) (schema : TriggerEnvelope) :
    (stepTimers deployment w step).count (step.stepInstanceId, schema) ≤
      (w.db.schemasOf step.stepInstanceId).count schema := by
  unfold stepTimers
  rw [List.count_map_of_injective _ _ (Prod.mk_right_injective _)]
  exact (List.takeWhile_sublist _).count_le _

theorem count_stepTimers_other {w : World} {step : StepInstance} {stepInstanceId : Nat}
    (other : step.stepInstanceId ≠ stepInstanceId) (schema : TriggerEnvelope) :
    (stepTimers deployment w step).count (stepInstanceId, schema) = 0 := by
  rw [List.count_eq_zero]
  intro member
  obtain ⟨_, _, same⟩ := List.mem_map.mp member
  exact other (Prod.mk.inj same).1

/-- The triggers of distinct steps are evaluated at most once. -/
theorem count_timers {w : World} {steps : List StepInstance}
    (distinct : steps.Pairwise fun a b => a.stepInstanceId ≠ b.stepInstanceId)
    (stepInstanceId : Nat) (schema : TriggerEnvelope) :
    (steps.flatMap (stepTimers deployment w)).count (stepInstanceId, schema) ≤
      (w.db.schemasOf stepInstanceId).count schema := by
  induction steps with
  | nil => exact Nat.zero_le _
  | cons step rest ih =>
      obtain ⟨others, distinctRest⟩ := List.pairwise_cons.mp distinct
      rw [List.flatMap_cons, List.count_append]
      by_cases same : step.stepInstanceId = stepInstanceId
      · subst same
        have none : (rest.flatMap (stepTimers deployment w)).count
            (step.stepInstanceId, schema) = 0 := by
          rw [List.count_eq_zero]
          intro member
          obtain ⟨other, otherMember, inOther⟩ := List.mem_flatMap.mp member
          obtain ⟨_, _, isEntry⟩ := List.mem_map.mp inOther
          exact others other otherMember (Prod.mk.inj isEntry).1.symm
        rw [none, Nat.add_zero]
        exact count_stepTimers w step schema
      · rw [count_stepTimers_other same, Nat.zero_add]
        exact ih distinctRest

theorem reachedSteps_sublist (w : World) (steps : List StepInstance) :
    (reachedSteps deployment w steps).Sublist steps := by
  induction steps with
  | nil => exact .refl _
  | cons step rest ih =>
      unfold reachedSteps
      split
      · exact (List.nil_sublist rest).cons_cons step
      · exact ih.cons_cons step

theorem reachedSteps_distinct (w : World) (processInstanceId : Nat) (currentOrder : Int) :
    (reachedSteps deployment w (nextSteps w.db processInstanceId currentOrder)).Pairwise
      fun a b => a.stepInstanceId ≠ b.stepInstanceId :=
  (((List.pairwise_map.mp w.db.steps.distinct).filter _).filter _).sublist
    (reachedSteps_sublist w _)

/-- A call evaluates every trigger at most once. -/
theorem count_evaluatedTimers (w : World) (call : Call) (stepInstanceId : Nat)
    (schema : TriggerEnvelope) :
    (evaluatedTimers deployment w call).count (stepInstanceId, schema) ≤
      (w.db.schemasOf stepInstanceId).count schema := by
  have next : ∀ step : StepInstance,
      (nextTimers deployment w step.processInstanceId step.stepOrder).count
        (stepInstanceId, schema) ≤ (w.db.schemasOf stepInstanceId).count schema :=
    fun step => count_timers (reachedSteps_distinct w _ _) stepInstanceId schema
  cases call with
  | attemptAdvance target opts =>
      rcases found : w.db.step? target with _ | step
      · simp [evaluatedTimers, found]
      simp only [evaluatedTimers, found]
      split
      · exact Nat.zero_le _
      unfold advanceTimers
      split
      · have distinct : (step :: reachedSteps deployment w
            (nextSteps w.db step.processInstanceId step.stepOrder)).Pairwise
              fun a b => a.stepInstanceId ≠ b.stepInstanceId := by
          refine List.pairwise_cons.mpr ⟨fun other reached same => ?_,
            reachedSteps_distinct w _ _⟩
          obtain ⟨otherMember, _, order, _⟩ :=
            mem_nextSteps.mp ((reachedSteps_sublist w _).subset reached)
          rw [← Table.eq_of_key_eq (Table.mem_of_find? found) otherMember same] at order
          omega
        exact count_timers distinct stepInstanceId schema
      · have alone := @count_timers deployment w _ (List.pairwise_singleton _ step)
          stepInstanceId schema
        rwa [List.flatMap_singleton, ← List.append_nil (stepTimers deployment w step)] at alone
  | markCompleted target opts =>
      rcases found : w.db.step? target with _ | step
      · simp [evaluatedTimers, found]
      simp only [evaluatedTimers, found]
      split
      · exact next step
      · exact Nat.zero_le _
  | resumeParent target opts =>
      rcases found : w.db.step? target with _ | step
      · simp [evaluatedTimers, found]
      simp only [evaluatedTimers, found]
      split
      · exact next step
      · exact Nat.zero_le _
  | _ => exact Nat.zero_le _

/-! ## Trigger rows -/

/-- The triggers of every step stay, under their envelopes. -/
def TriggersStay (before after : Database) : Prop :=
  (before.triggers.rows.map triggerSchema).Sublist (after.triggers.rows.map triggerSchema)

namespace TriggersStay

variable {before after : Database}

theorem of_schemas
    (same : after.triggers.rows.map triggerSchema = before.triggers.rows.map triggerSchema) :
    TriggersStay before after := by
  unfold TriggersStay
  rw [same]

theorem of_triggers (same : after.triggers = before.triggers) : TriggersStay before after :=
  .of_schemas (by rw [same])

theorem trans {middle : Database} (first : TriggersStay before middle)
    (second : TriggersStay middle after) : TriggersStay before after :=
  List.Sublist.trans first second

theorem count_le (stay : TriggersStay before after) (stepInstanceId : Nat)
    (schema : TriggerEnvelope) :
    (before.schemasOf stepInstanceId).count schema ≤
      (after.schemasOf stepInstanceId).count schema := by
  rw [schemasOf_eq, schemasOf_eq]
  exact ((List.Sublist.filter _ stay).map Prod.snd).count_le schema

theorem started {params : StartProcessParams} {row : ProcessInstance} {w w' : World}
    (started : Started params row w w') : TriggersStay w.db w'.db := by
  unfold TriggersStay
  rw [started.triggers, List.map_append]
  exact List.sublist_append_left _ _

theorem edit {origin w w' : World} {processInstanceId target : Nat}
    (edit : Edit deployment origin processInstanceId target w w') : TriggersStay w.db w'.db := by
  cases edit with
  | hosted host =>
      obtain ⟨_, _, _, _, tables⟩ := host.tables
      exact .of_triggers (by rw [tables])
  | evaluated trigger _ met events jobs =>
      exact .of_schemas (OnlyTriggers.evaluated trigger met events jobs w).schemas
  | provisioned _ _ _ _ _ _ _ _ writes =>
      obtain ⟨_, _, _, _, _, _, _, rfl⟩ := writes
      exact .of_triggers rfl
  | readied _ _ _ _ _ _ _ host =>
      obtain ⟨_, _, _, _, tables⟩ := host.tables
      exact .of_triggers (by rw [tables]; rfl)
  | blocked => exact .of_triggers rfl
  | spawned _ _ _ _ _ _ _ _ _ _ _ _ start => exact (started start).trans (.of_triggers rfl)

theorem settled {w w' : World} {processInstanceId : Nat} {result : Option Nat}
    (settlement : Settlement deployment processInstanceId w result w') :
    TriggersStay w.db w'.db := by
  cases settlement with
  | idle => exact .of_triggers rfl
  | child => exact .of_triggers rfl
  | announced _ _ _ _ _ announced =>
      obtain ⟨_, _, _, _, tables⟩ := announced.tables
      exact .of_triggers (by rw [tables]; rfl)

theorem marked (time : String) (triggers : List StepTrigger) :
    ∀ db : Database, TriggersStay db (db.markTriggers time triggers) := by
  induction triggers with
  | nil => exact fun db => .of_triggers rfl
  | cons trigger rest ih =>
      intro db
      refine TriggersStay.trans (.of_schemas ?_) (ih _)
      unfold Database.setTrigger
      rw [Table.rows_updateAt, List.map_map]
      apply List.map_congr_left
      intro row _
      rw [Function.comp_apply]
      split <;> rfl

end TriggersStay

/-- A call deletes no trigger. -/
theorem Effect.triggersStay {before after : World} {call : Call}
    (effect : Effect deployment before call after) : TriggersStay before.db after.db := by
  refine @Effect.kept _ (fun w => TriggersStay before.db w.db) _ _ _ effect ?_ (.of_triggers rfl)
  exact {
    rolledBack := fun later rolledBack _ _ => .of_schemas (by rw [rolledBack]; rfl)
    started := fun _ start _ _ => .started start
    edit := fun edit holds => holds.trans (.edit edit)
    completed := fun _ _ _ _ _ completes holds => by
      obtain ⟨_, _, _, _, _, _, tables⟩ := completes.tables
      exact holds.trans (.of_triggers (by rw [tables]; rfl))
    settled := fun settlement holds => holds.trans (.settled settlement)
    told := fun _ _ told _ => by cases told <;> exact .of_triggers rfl
    eligible := fun _ _ => .of_triggers rfl
    validated := fun _ validated _ => by
      obtain ⟨_, _, _, _, _, _, _, rfl⟩ := validated
      exact .of_triggers rfl
    evidence := fun only _ _ => by
      obtain ⟨_, _, _, _, _, rfl⟩ := only
      exact .of_triggers rfl
    marked := fun _ _ => .marked _ _ _ }

/-! ## Runs -/

/-- No trigger that the call of the turn evaluates has a job in flight when the turn begins. -/
def TimersIdle (deployment : Deployment) (state : State) (action : Action) : Prop :=
  ∀ call ∈ (turn state action).call,
    ∀ timer ∈ evaluatedTimers deployment (turn state action).world call,
      ∀ job ∈ state.world.queue, isTimerOf timer.1 timer.2 job = false

instance (state : State) (action : Action) : Decidable (TimersIdle deployment state action) :=
  inferInstanceAs (Decidable (∀ call ∈ (turn state action).call, _))

/-- A trigger has at most as many delayed jobs in flight as its step has triggers with its
envelope, which is all that a job tells of its trigger. -/
def TimersBounded (w : World) : Prop :=
  ∀ stepInstanceId schema, w.queue.countP (isTimerOf stepInstanceId schema) ≤
    (w.db.schemasOf stepInstanceId).count schema

/-- The jobs an action puts on the queue. -/
def enqueuedBy (deployment : Deployment) (state : State) (action : Action) : List Job :=
  (step deployment state action).world.queue.drop (turn state action).world.queue.length

theorem turn_queue (state : State) (action : Action) :
    (turn state action).world.queue.Sublist state.world.queue := by
  unfold turn
  split
  · exact .refl _
  · split <;> exact .refl _
  · split
    · exact List.eraseIdx_sublist _ _
    · exact .refl _
  · exact .refl _
  · exact .refl _

theorem enqueuedBy_count (state : State) (action : Action) :
    (step deployment state action).world.queue =
        (turn state action).world.queue ++ enqueuedBy deployment state action ∧
      ∀ stepInstanceId schema,
        (enqueuedBy deployment state action).countP (isTimerOf stepInstanceId schema) ≤
          ((turn state action).call.elim [] (evaluatedTimers deployment
            (turn state action).world)).count (stepInstanceId, schema) := by
  have grown : Enqueues ((turn state action).call.elim [] (evaluatedTimers deployment
      (turn state action).world)) (turn state action).world
      (step deployment state action).world := by
    rcases @step_performs deployment state action with
      ⟨call, isCall, world⟩ | ⟨isIdle, world⟩
    · rw [isCall, world]
      exact perform_enqueues deployment call _
    · rw [isIdle, world]
      exact .of_queue rfl
  obtain ⟨jobs, queue, bound⟩ := grown
  have isJobs : enqueuedBy deployment state action = jobs := by
    unfold enqueuedBy
    rw [queue, List.drop_left]
  rw [isJobs]
  exact ⟨queue, bound⟩

/-- What a turn puts on the queue in front of idle triggers. -/
theorem TimersIdle.enqueued {state : State} {action : Action}
    (idle : TimersIdle deployment state action) {stepInstanceId : Nat} {schema : TriggerEnvelope}
    (inFlight : 0 < state.world.queue.countP (isTimerOf stepInstanceId schema)) :
    (enqueuedBy deployment state action).countP (isTimerOf stepInstanceId schema) = 0 := by
  obtain ⟨job, member, isTimer⟩ := List.countP_pos_iff.mp inFlight
  refine Nat.le_zero.mp (((enqueuedBy_count state action).2 stepInstanceId schema).trans ?_)
  rcases isCall : (turn state action).call with _ | call
  · exact Nat.le_refl _
  · refine Nat.le_of_eq (List.count_eq_zero.mpr fun evaluated => ?_)
    have noTimer := idle call isCall (stepInstanceId, schema) evaluated job member
    rw [isTimer] at noTimer
    cases noTimer

/-- A turn in front of idle triggers keeps the bound. -/
theorem TimersBounded.next {state : State} {action : Action} (bounded : TimersBounded state.world)
    (idle : TimersIdle deployment state action) :
    TimersBounded (step deployment state action).world := by
  have stay : TriggersStay state.world.db (step deployment state action).world.db := by
    rw [← turn_db state action]
    rcases step_world deployment state action with ⟨call, _, effect⟩ | ⟨_, world⟩
    · exact effect.triggersStay
    · exact .of_triggers (by rw [world])
  intro stepInstanceId schema
  obtain ⟨queue, bound⟩ := @enqueuedBy_count deployment state action
  have removed : (turn state action).world.queue.countP (isTimerOf stepInstanceId schema) ≤
      state.world.queue.countP (isTimerOf stepInstanceId schema) :=
    (turn_queue state action).countP_le
  have before := bounded stepInstanceId schema
  refine Nat.le_trans ?_ (stay.count_le stepInstanceId schema)
  rw [queue, List.countP_append]
  rcases Nat.eq_zero_or_pos (state.world.queue.countP (isTimerOf stepInstanceId schema)) with
    none | some
  · have evaluated : ((turn state action).call.elim [] (evaluatedTimers deployment
        (turn state action).world)).count (stepInstanceId, schema) ≤
          (state.world.db.schemasOf stepInstanceId).count schema := by
      rcases (turn state action).call with _ | call
      · exact Nat.zero_le _
      · rw [← turn_db state action]
        exact count_evaluatedTimers _ call stepInstanceId schema
    have added := bound stepInstanceId schema
    omega
  · rw [idle.enqueued some]
    omega

/-- In a run whose turns evaluate no trigger with a job in flight, the delayed jobs of a trigger
never outnumber it, and delivering one of them puts no other on the queue. -/
theorem timers_never_multiply {start : State} (fresh : Fresh start) {actions : List Action}
    (idle : (system deployment).Guarded (TimersIdle deployment) start actions) :
    TimersBounded ((system deployment).run start actions).world ∧
      ∀ before job rest, actions = before ++ .processJob job :: rest →
        ∀ delivered ∈ ((system deployment).run start before).world.queue[job]?,
          ∀ stepInstanceId schema, isTimerOf stepInstanceId schema delivered = true →
            (enqueuedBy deployment ((system deployment).run start before)
              (.processJob job)).countP (isTimerOf stepInstanceId schema) = 0 := by
  constructor
  · refine @StepSystem.run_guarded _ _ _ (fun state => TimersBounded state.world) _
      (fun _ _ bounded idle => bounded.next idle) _ (fun _ _ => ?_) _ idle
    rw [fresh.queue]
    exact Nat.zero_le _
  · rintro before job rest rfl delivered found stepInstanceId schema isTimer
    have guarded := ((system deployment).guarded_append _ _ _ _).mp idle
    have member := List.mem_of_getElem? (Option.mem_def.mp found)
    exact guarded.2.1.enqueued (List.countP_pos_iff.mpr ⟨delivered, member, isTimer⟩)

/-! ## Two steps with a timer -/

/-- The trigger of a second. -/
def oneSecond : TriggerEnvelope := .time "PT1S" []

/-- Two steps that wait for a second each. -/
def timedSteps : Templates where
  steps := [.row 1 .manual 1 none, .row 1 .manual 2 none]
  requirements := []
  triggers := [.row 1 oneSecond, .row 2 oneSecond]
  bindings := []
  configObjects := []

/-- The first step is advanced and completed before its job is delivered. -/
def deliveredLate : List Action :=
  [.invoke (.startProcess (.workflow 1 1 .ignore)), .invoke (.attemptAdvance 1 .none),
    .invoke (.markCompleted 1 .none), .processJob 0]

theorem timers_never_multiply_deliveredLate :
    TimersBounded ((system .allEnabled).run (installed timedSteps) deliveredLate).world ∧
      (enqueuedBy .allEnabled ((system .allEnabled).run (installed timedSteps)
        (deliveredLate.take 3)) (.processJob 0)).countP (isTimerOf 1 oneSecond) = 0 := by
  have idle : (system .allEnabled).Guarded (TimersIdle .allEnabled) (installed timedSteps)
      deliveredLate := by decide
  obtain ⟨delivered, found, isTimer⟩ : ∃ delivered ∈ ((system .allEnabled).run
      (installed timedSteps) (deliveredLate.take 3)).world.queue[0]?,
        isTimerOf 1 oneSecond delivered = true := by decide
  have single := timers_never_multiply (fresh_installed timedSteps) idle
  exact ⟨single.1, single.2 (deliveredLate.take 3) 0 [] rfl delivered found 1 oneSecond isTimer⟩

/-- The second step is reached, which puts its job on the queue. -/
def secondReached : List Action :=
  [.invoke (.startProcess (.workflow 1 1 .ignore)), .invoke (.markCompleted 1 .none)]

/-- An attempt to advance a pending step puts a second job of its only trigger on the queue, and
so does the delivery of the first. -/
theorem timers_multiply :
    (∃ step ∈ ((system .allEnabled).run (installed timedSteps)
        (secondReached ++ [advanceSecond])).world.db.steps.rows,
      step.stepInstanceId = 2 ∧ step.status = .pending ∧
        (((system .allEnabled).run (installed timedSteps)
          (secondReached ++ [advanceSecond])).world.db.schemasOf 2).count oneSecond = 1 ∧
        ((system .allEnabled).run (installed timedSteps)
          (secondReached ++ [advanceSecond])).world.queue.countP (isTimerOf 2 oneSecond) = 2) ∧
      (∃ delivered ∈ ((system .allEnabled).run (installed timedSteps)
          secondReached).world.queue[0]?, isTimerOf 2 oneSecond delivered = true) ∧
      (enqueuedBy .allEnabled ((system .allEnabled).run (installed timedSteps) secondReached)
        timerFires).countP (isTimerOf 2 oneSecond) = 1 := by
  decide

end Engine

end CoreApi.Automation
