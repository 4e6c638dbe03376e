import CoreApi.Automation.InstalledTemplates
import CoreApi.Automation.LinkedState
import CoreApi.Automation.Resumption

/-!
# Satisfied triggers

`onAnyDomainEvent` marks the trigger of an event met where it is told its name, and
the worker processes the delayed job of a time trigger. The call either of them makes
then evaluates every trigger anew, and the evaluation answers false for these two
kinds whatever happened before: only a step whose triggers are all rules leaves
pending.
-/

namespace CoreApi.Automation

open CoreApi.Foundation StepOrchestrator

/-- A trigger of type jsonlogic. -/
def TriggerEnvelope.isRule : TriggerEnvelope → Bool
  | .jsonlogic _ _ => true
  | _ => false

/-- The step has left pending. -/
def LeftPending (db : Database) (stepInstanceId : Nat) : Prop :=
  ∀ row ∈ db.steps.rows, row.stepInstanceId = stepInstanceId → row.status ≠ .pending

instance (db : Database) (stepInstanceId : Nat) : Decidable (LeftPending db stepInstanceId) :=
  inferInstanceAs (Decidable (∀ row ∈ db.steps.rows, _ → _))

theorem not_leftPending {db : Database} {step : StepInstance} (member : step ∈ db.steps.rows)
    (pending : step.status = .pending) : ¬LeftPending db step.stepInstanceId :=
  fun left => left step member rfl pending

theorem leftPending_of_row {db : Database} {row : StepInstance} {stepInstanceId : Nat}
    (member : row ∈ db.steps.rows) (key : row.stepInstanceId = stepInstanceId)
    (moved : row.status ≠ .pending) : LeftPending db stepInstanceId := by
  intro other otherMember otherKey
  rw [Table.eq_of_key_eq otherMember member (otherKey.trans key.symm)]
  exact moved

namespace Engine

variable {deployment : Deployment}

/-! ## What the call does to a pending step -/

/-- No edit makes a completed step pending. -/
theorem leftPending_settles {origin before after : World} {processInstanceId target : Nat}
    {result : Option Nat} {row : StepInstance}
    (settles : Settles deployment origin processInstanceId target before result after)
    (member : row ∈ before.db.steps.rows) (moved : row.status ≠ .pending) :
    LeftPending after.db row.stepInstanceId := by
  obtain ⟨middle, edits, settlement, _⟩ := settles
  intro other otherMember key pending
  rw [settlement.steps] at otherMember
  have old := edits.pending_kept otherMember pending ⟨row, member, key.symm⟩
  rw [Table.eq_of_key_eq old member key] at pending
  exact moved pending

variable (deployment) in
/-- A pending step leaves pending when it is eligible and the attempt does not raise. -/
theorem attemptAdvance_leftPending {w : World} {step : StepInstance}
    (member : step ∈ w.db.steps.rows) (pending : step.status = .pending)
    (hosted : ¬HostMissing w.db step.processInstanceId) (opts : AdvanceOptions) :
    LeftPending (perform deployment (.attemptAdvance step.stepInstanceId opts) w).2.db
        step.stepInstanceId ↔
      Eligible deployment w step ∧ ¬AdvanceFails deployment w step := by
  have found : w.db.step? step.stepInstanceId = some step := Table.find?_of_mem member
  have isStep : ∀ other, w.db.step? step.stepInstanceId = some other → other = step :=
    fun other isOther => (Option.some.inj (found.symm.trans isOther)).symm
  have unfinished : isFinished step.status = false := by
    rw [pending]
    rfl
  refine Program.wp_end (fun after : World => LeftPending after.db step.stepInstanceId ↔ _) ?_
  unfold perform
  rw [Program.wp_bind, wp_transaction]
  refine Program.wp_mono (attemptAdvanceIn_advanced step.stepInstanceId opts w) ?_ ?_
  · rintro result after ⟨advanced, sound⟩
    have notFails := sound step found unfinished
    show LeftPending after.db step.stepInstanceId ↔ _
    cases advanced with
    | refused finished =>
        rw [finished step found] at unfinished
        cases unfinished
    | waiting step' found' _ still _ steps =>
        obtain rfl := isStep step' found'
        refine iff_of_false (not_leftPending (steps ▸ member) pending) ?_
        exact fun both => still both.1 pending
    | unlocked step' found' _ eligible _ unlocks =>
        obtain rfl := isStep step' found'
        obtain ⟨row, rowMember, same, status⟩ := unlocks.self
        refine iff_of_true (leftPending_of_row rowMember same.key ?_) ⟨eligible, notFails⟩
        rcases status with ready | ⟨blocked, _⟩
        · rw [ready]
          decide
        · rw [blocked]
          decide
    | ran step' fresh found' _ eligible _ freshMember same _ _ completes settles =>
        obtain rfl := isStep step' found'
        obtain ⟨row, rowMember, key, _, _, completed⟩ := completes.row freshMember
        refine iff_of_true ?_ ⟨eligible, notFails⟩
        rw [← same.key, ← key]
        refine leftPending_settles settles rowMember ?_
        rw [completed]
        decide
  · rintro message after ⟨_, other, isOther, reason⟩
    obtain rfl := isStep other isOther
    refine iff_of_false (not_leftPending member pending) ?_
    exact fun both => reason.elim hosted both.2

/-! ## Triggers satisfied in a run -/

/-- A delayed job of the trigger of the step. -/
def isTimerOf (stepInstanceId : Nat) (schema : TriggerEnvelope) : Job → Bool
  | .timeTrigger _ trigger context => trigger == schema && context.stepId == stepInstanceId
  | .action _ _ _ => false

/-- The worker processes a delayed job of the trigger somewhere in the run. -/
def TimerProcessed (deployment : Deployment) (start : State) (actions : List Action)
    (stepInstanceId : Nat) (schema : TriggerEnvelope) : Prop :=
  ∃ before job rest, actions = before ++ .processJob job :: rest ∧
    ∃ queued ∈ ((system deployment).run start before).world.queue[job]?,
      isTimerOf stepInstanceId schema queued = true

theorem call_processJob {state : State} {job stepInstanceId : Nat}
    (delivers : (state.world.queue[job]?).bind EventBridge.jobStep = some stepInstanceId) :
    (turn state (.processJob job)).call =
      some (.attemptAdvance stepInstanceId EventBridge.workerOptions) := by
  unfold turn
  rcases queued : state.world.queue[job]? with _ | next
  · rw [queued] at delivers
    cases delivers
  · rw [queued] at delivers
    rw [Option.bind_some] at delivers
    simp only [queued, delivers, Option.map_some]

/-- What it takes to satisfy a trigger of the step, after its type, when the last action of the
run is to advance the step. -/
def IsSatisfied (deployment : Deployment) (start : State) (actions : List Action) (w : World)
    (step : StepInstance) (trigger : StepTrigger) : Prop :=
  match trigger.jsonSchema with
  | .jsonlogic _ _ => triggerVerdict deployment w step trigger.jsonSchema = .ok true
  | .event _ _ _ => trigger.status = .met
  | .time _ _ =>
      TimerProcessed deployment start actions step.stepInstanceId trigger.jsonSchema
  | .unknown _ => False

/-- A pending step with its gates open and all its triggers satisfied, in the world `w` in which
the last action of the run advances it. -/
structure AllSatisfied (deployment : Deployment) (start : State) (actions : List Action)
    (w : World) (step : StepInstance) : Prop where
  member : step ∈ w.db.steps.rows
  pending : step.status = .pending
  gates : checkStepGates deployment w.db step.stepInstanceId = true
  triggers : ∀ trigger ∈ w.db.triggersOf step.stepInstanceId,
    IsSatisfied deployment start actions w step trigger

/-- Only rules hold when they are evaluated. -/
theorem verdict_of_not_rule {schema : TriggerEnvelope} (other : schema.isRule = false)
    (context : TriggerContext) : TriggerEngine.verdict deployment schema context = .ok false := by
  cases schema with
  | jsonlogic logic actionsOnMet => cases other
  | time after actionsOnMet => rfl
  | event eventName whereRule actionsOnMet => rfl
  | unknown type => rfl

theorem eligible_iff_rules {start : State} {actions : List Action} {w : World}
    {step : StepInstance} (satisfied : AllSatisfied deployment start actions w step) :
    Eligible deployment w step ↔
      ∀ schema ∈ w.db.schemasOf step.stepInstanceId, schema.isRule = true := by
  constructor
  · rintro ⟨_, hold⟩ schema member
    by_contra other
    have verdict := hold schema member
    unfold triggerVerdict at verdict
    rw [verdict_of_not_rule (Bool.eq_false_iff.mpr other)] at verdict
    cases verdict
  · intro rules
    refine ⟨satisfied.gates, fun schema member => ?_⟩
    obtain ⟨trigger, triggerMember, rfl⟩ := List.mem_map.mp member
    have isSatisfied := satisfied.triggers trigger triggerMember
    have isRule := rules trigger.jsonSchema member
    unfold IsSatisfied at isSatisfied
    split at isSatisfied
    · exact isSatisfied
    · next event => cases event ▸ isRule
    · next time => cases time ▸ isRule
    · exact isSatisfied.elim

theorem not_hostMissing {db : Database} (linked : Linked db) (processInstanceId : Nat) :
    ¬HostMissing db processInstanceId := by
  rintro ⟨proc, found, missing⟩
  rw [linked.hosted proc (Table.mem_of_find? found)] at missing
  cases missing

/-- A step whose triggers are all satisfied leaves pending when it is advanced exactly when the
triggers are rules and the attempt does not raise. -/
theorem satisfied_leftPending_iff {start : State} (fresh : Fresh start) {actions : List Action}
    {action : Action} {step : StepInstance} {opts : AdvanceOptions}
    (isCall : (turn ((system deployment).run start actions) action).call =
      some (.attemptAdvance step.stepInstanceId opts))
    (satisfied : AllSatisfied deployment start (actions ++ [action])
      (turn ((system deployment).run start actions) action).world step) :
    LeftPending ((system deployment).run start (actions ++ [action])).world.db
        step.stepInstanceId ↔
      (∀ schema ∈ ((system deployment).run start actions).world.db.schemasOf step.stepInstanceId,
          schema.isRule = true) ∧
        ¬AdvanceFails deployment (turn ((system deployment).run start actions) action).world
          step := by
  have linked : Linked ((system deployment).run start actions).world.db :=
    reachable_linked ⟨start, actions, fresh, rfl⟩
  have sameDb := turn_db ((system deployment).run start actions) action
  have hosted : ¬HostMissing (turn ((system deployment).run start actions) action).world.db
      step.processInstanceId := by
    rw [sameDb]
    exact not_hostMissing linked step.processInstanceId
  have left := attemptAdvance_leftPending deployment satisfied.member satisfied.pending hosted opts
  have ends : ((system deployment).run start (actions ++ [action])).world =
      (perform deployment (.attemptAdvance step.stepInstanceId opts)
        (turn ((system deployment).run start actions) action).world).2 := by
    rw [StepSystem.run_append, StepSystem.run_cons, StepSystem.run_nil]
    show (Engine.step deployment _ action).world = _
    rw [step_of_call isCall, execute_world]
  rw [ends, left, eligible_iff_rules satisfied, sameDb]

/-! ## A rule and a timer -/

/-- A step that waits for a requirement and a rule. -/
def ruleBehind : Templates where
  steps := [.row 1 .manual 1 none, .row 1 .manual 2 none]
  requirements := [.row 2]
  triggers := [.row 2 (.jsonlogic (.bool true) [])]
  bindings := []
  configObjects := []

/-- The step before it is completed and its requirement approved. -/
def ruleApproved : List Action :=
  [.invoke (.startProcess (.workflow 1 1 .ignore)), .invoke (.markCompleted 1 .none),
    .invoke (.updateRequirement 1 .approved)]

/-- A step that waits for a second. -/
def timerBehind : Templates where
  steps := [.row 1 .manual 1 none, .row 1 .manual 2 none]
  requirements := []
  triggers := [.row 2 (.time "PT1S" [])]
  bindings := []
  configObjects := []

/-- The step before it is completed, which puts the job of the trigger on the queue. -/
def timerScheduled : List Action :=
  [.invoke (.startProcess (.workflow 1 1 .ignore)), .invoke (.markCompleted 1 .none)]

/-- The call that advances the step. -/
def advanceSecond : Action := .invoke (.attemptAdvance 2 .none)

/-- The world in which the last action of a run makes its call. -/
def worldOf (start : State) (actions : List Action) (action : Action) : World :=
  (turn ((system .allEnabled).run start actions) action).world

theorem isSatisfied_of_rule {start : State} {actions : List Action} {w : World}
    {step : StepInstance} {trigger : StepTrigger} (rule : trigger.jsonSchema.isRule = true)
    (holds : triggerVerdict deployment w step trigger.jsonSchema = .ok true) :
    IsSatisfied deployment start actions w step trigger := by
  unfold IsSatisfied
  split
  · exact holds
  · next event => cases event ▸ rule
  · next time => cases time ▸ rule
  · next unknown => cases unknown ▸ rule

theorem ruleApproved_facts : ∀ step ∈ (worldOf (installed ruleBehind) ruleApproved
      advanceSecond).db.steps.rows, step.stepInstanceId = 2 →
    step.status = .pending ∧
      checkStepGates .allEnabled (worldOf (installed ruleBehind) ruleApproved advanceSecond).db
        step.stepInstanceId = true ∧
      (∀ trigger ∈ (worldOf (installed ruleBehind) ruleApproved
        advanceSecond).db.triggersOf step.stepInstanceId, trigger.jsonSchema.isRule = true ∧
          triggerVerdict .allEnabled (worldOf (installed ruleBehind) ruleApproved advanceSecond)
            step trigger.jsonSchema = .ok true) ∧
      ¬AdvanceFails .allEnabled (worldOf (installed ruleBehind) ruleApproved advanceSecond)
        step := by
  decide

theorem satisfied_leftPending_ruleApproved : ∃ step : StepInstance, step.stepInstanceId = 2 ∧
    LeftPending ((system .allEnabled).run (installed ruleBehind)
      (ruleApproved ++ [advanceSecond])).world.db step.stepInstanceId := by
  obtain ⟨step, member, key⟩ : ∃ step ∈ (worldOf (installed ruleBehind) ruleApproved
    advanceSecond).db.steps.rows, step.stepInstanceId = 2 := by decide
  obtain ⟨pending, gates, triggers, sound⟩ := ruleApproved_facts step member key
  have isCall : (turn ((system .allEnabled).run (installed ruleBehind) ruleApproved)
      advanceSecond).call = some (.attemptAdvance step.stepInstanceId .none) := by
    rw [key]
    rfl
  have satisfied : AllSatisfied .allEnabled (installed ruleBehind)
      (ruleApproved ++ [advanceSecond])
      (worldOf (installed ruleBehind) ruleApproved advanceSecond) step :=
    ⟨member, pending, gates, fun trigger triggerMember =>
      isSatisfied_of_rule (triggers trigger triggerMember).1 (triggers trigger triggerMember).2⟩
  refine ⟨step, key, (satisfied_leftPending_iff (fresh_installed ruleBehind) isCall
    satisfied).mpr ⟨fun schema isOne => ?_, sound⟩⟩
  obtain ⟨trigger, triggerMember, rfl⟩ := List.mem_map.mp isOne
  exact (triggers trigger triggerMember).1

/-- The worker delivers the first job. -/
def timerFires : Action := .processJob 0

theorem timerScheduled_facts : ∀ step ∈ (worldOf (installed timerBehind) timerScheduled
      timerFires).db.steps.rows, step.stepInstanceId = 2 →
    step.status = .pending ∧
      checkStepGates .allEnabled (worldOf (installed timerBehind) timerScheduled timerFires).db
        step.stepInstanceId = true ∧
      (∀ trigger ∈ (worldOf (installed timerBehind) timerScheduled
        timerFires).db.triggersOf step.stepInstanceId,
          trigger.jsonSchema = .time "PT1S" []) ∧
      ¬LeftPending ((system .allEnabled).run (installed timerBehind)
        (timerScheduled ++ [timerFires])).world.db step.stepInstanceId := by
  decide

/-- A step whose timer fires stays pending. -/
theorem timerBehind_stays : ∃ step opts,
    (turn ((system .allEnabled).run (installed timerBehind) timerScheduled) timerFires).call =
        some (.attemptAdvance step.stepInstanceId opts) ∧
      AllSatisfied .allEnabled (installed timerBehind) (timerScheduled ++ [timerFires])
        (worldOf (installed timerBehind) timerScheduled timerFires) step ∧
      ¬LeftPending ((system .allEnabled).run (installed timerBehind)
        (timerScheduled ++ [timerFires])).world.db step.stepInstanceId := by
  obtain ⟨step, member, key⟩ : ∃ step ∈ (worldOf (installed timerBehind) timerScheduled
    timerFires).db.steps.rows, step.stepInstanceId = 2 := by decide
  obtain ⟨pending, gates, triggers, stays⟩ := timerScheduled_facts step member key
  have fires : TimerProcessed .allEnabled (installed timerBehind)
      (timerScheduled ++ [timerFires]) 2 (.time "PT1S" []) :=
    ⟨timerScheduled, 0, [], rfl, by decide⟩
  refine ⟨step, EventBridge.workerOptions, ?_, ⟨member, pending, gates, ?_⟩, stays⟩
  · rw [key]
    exact call_processJob (by decide)
  · intro trigger triggerMember
    unfold IsSatisfied
    rw [triggers trigger triggerMember, key]
    exact fires

end Engine

end CoreApi.Automation
