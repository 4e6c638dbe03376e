import CoreApi.Automation.LinkedState

/-!
# The writes of a call

A call is a rolled back attempt, a single write of its own, or a sequence of
edits, completed steps and settlements. A property of the world that each of
these keeps is kept by the call, and holds in every reachable state.
-/

namespace CoreApi.Automation

open CoreApi.Foundation StepOrchestrator ChildProcessOrchestration

variable {deployment : Deployment}

namespace Engine

/-- The call runs or completes the step of its argument. -/
def Completes (deployment : Deployment) (origin : World) : Call → Nat → Prop
  | .attemptAdvance target _, stepInstanceId => target = stepInstanceId ∧
      ∃ step ∈ origin.db.step? target, Runs deployment origin step
  | .markCompleted target _, stepInstanceId => target = stepInstanceId ∧
      ∃ step ∈ origin.db.step? target, isCompletable deployment origin.db step = true
  | _, _ => False

/-- Every write of a call that starts in `origin` keeps the property. -/
structure KeptByWrites (deployment : Deployment) (inv : World → Prop) (origin : World)
    (call : Call) : Prop where
  rolledBack : ∀ {after : World} (later : Database), after.db = origin.db.rollback later →
    QuietLog origin after → inv origin → inv after
  started : ∀ {params : StartProcessParams} {row : ProcessInstance} {after : World},
    call = .startProcess params → Started (rootParams params) row origin after →
      (∃ subjectType adapter, StartReported deployment (rootParams params) row.processInstanceId
        subjectType adapter origin after) → inv origin → inv after
  edit : ∀ {process target : Nat} {before after : World},
    Edit deployment origin process target before after → inv before → inv after
  completed : ∀ {step : StepInstance} {before after : World},
    Completes deployment origin call step.stepInstanceId →
      Edits deployment origin step.processInstanceId step.stepInstanceId origin before →
        step ∈ before.db.steps.rows → step.status = .ready ∨ step.status = .inProgress →
          checkStepGates deployment before.db step.stepInstanceId = true →
            StepCompleted step before after → inv before → inv after
  settled : ∀ {process : Nat} {result : Option Nat} {before after : World},
    Settlement deployment process before result after → inv before → inv after
  told : ∀ {childProcessInstanceId : Nat} {terminalStatus : TerminalStatus}
    {opts : AdvanceOptions} {child parent : ProcessInstance} {parentStepId : Nat} {after : World},
    call = .handleChildTerminal childProcessInstanceId terminalStatus opts →
      childLink origin.db childProcessInstanceId = some (child, parent, parentStepId) →
        ParentTold origin child parent parentStepId terminalStatus after → inv origin → inv after
  eligible : ∀ {processInstanceId : Nat},
    isEligibleChild origin.db processInstanceId = true → inv origin → inv { origin with
      db := origin.db.setInstance processInstanceId (completedInstance origin.now)
        (completedInstance_key origin.now) }
  validated : ∀ {configCustomObjectInstanceId : Nat} {correlationId : Option String}
    {advance : Option AdvanceOptions} {after : World},
    call = .validateByCustomInstanceId configCustomObjectInstanceId correlationId advance →
      Validated configCustomObjectInstanceId origin after → inv origin → inv after
  evidence : ∀ {after : World}, OnlyEvidence origin after →
    WritesRequirements deployment origin call after.db.requirements → inv origin → inv after
  marked : ∀ {event : DomainEvent}, call = .listener .anyDomainEvent event →
    inv origin → inv (EventBridge.marked deployment event none origin)

variable {inv : World → Prop} {origin : World} {call : Call}

theorem KeptByWrites.edits (writes : KeptByWrites deployment inv origin call)
    {process target : Nat} {before after : World}
    (edits : Edits deployment origin process target before after) (holds : inv before) :
    inv after := by
  induction edits with
  | refl => exact holds
  | tail _ edit ih => exact writes.edit edit ih

theorem KeptByWrites.settles (writes : KeptByWrites deployment inv origin call)
    {process target : Nat} {result : Option Nat} {before after : World}
    (settles : Settles deployment origin process target before result after)
    (holds : inv before) : inv after := by
  obtain ⟨_, edits, settlement, _⟩ := settles
  exact writes.settled settlement (writes.edits edits holds)

/-- A call keeps what all its writes keep. -/
theorem Effect.kept {after : World} (effect : Effect deployment origin call after)
    (writes : KeptByWrites deployment inv origin call) (holds : inv origin) : inv after := by
  cases effect with
  | unchanged => exact holds
  | raised _ later rolledBack log => exact writes.rolledBack later rolledBack log holds
  | started params row start reported => exact writes.started rfl start reported holds
  | advanced _ _ _ outcome =>
      cases outcome with
      | refused => exact holds
      | waiting _ _ _ _ edits => exact writes.edits edits holds
      | unlocked _ _ _ _ edits => exact writes.edits edits holds
      | ran step fresh found begun eligible edits member same automated ready completes settles =>
          have runs : Runs deployment origin step := ⟨same.task ▸ automated, begun, eligible⟩
          have gates := edits.gates (Table.mem_of_find? found) rfl same eligible
          have key : fresh.stepInstanceId = _ := same.key.trans (Table.key_of_find? found)
          rw [← key, ← same.process] at edits
          exact writes.settles settles (writes.completed ⟨key.symm, step, found, runs⟩ edits
            member (.inl ready) gates completes (writes.edits edits holds))
  | marked _ _ _ outcome =>
      cases outcome with
      | refused => exact holds
      | marked step found isCompletable completes settles =>
          have completable := isCompletable
          simp only [StepOrchestrator.isCompletable, Bool.and_eq_true, Bool.or_eq_true, beq_iff_eq] at completable
          have key : step.stepInstanceId = _ := Table.key_of_find? found
          exact writes.settles settles (writes.completed ⟨key.symm, step, found, isCompletable⟩
            .refl (Table.mem_of_find? found) completable.1 completable.2 completes holds)
  | resumed _ _ _ outcome =>
      cases outcome with
      | refused => exact holds
      | resumed _ _ _ settles => exact writes.settles settles holds
  | childTerminal _ _ _ _ _ _ _ link told => exact writes.told rfl link told holds
  | eligible _ eligible => exact writes.eligible eligible holds
  | validated _ _ _ validated => exact writes.validated rfl validated holds
  | evidence _ only requirements => exact writes.evidence only requirements holds
  | triggersMarked => exact writes.marked rfl holds

/-- What a step of the engine does to the world: it runs one call, or none. -/
theorem step_performs (state : State) (action : Action) :
    (∃ call, (turn state action).call = some call ∧
      (step deployment state action).world =
        (perform deployment call (turn state action).world).2) ∨
    ((turn state action).call = none ∧
      (step deployment state action).world = (turn state action).world) := by
  cases isCall : (turn state action).call with
  | none => exact .inr ⟨rfl, by rw [step_of_idle isCall]⟩
  | some call => exact .inl ⟨call, rfl, by rw [step_of_call isCall, execute_world]⟩

variable (inv) in
/-- A property of the world that running any guarded call keeps, and that does not
depend on the queue and the clock, holds after every run whose calls meet the guard. -/
theorem run_performed {guard : World → Call → Prop}
    (turned : ∀ (w : World) queue now, inv w → inv { w with queue := queue, now := now })
    (kept : ∀ w call, guard w call → inv w → inv (perform deployment call w).2)
    {start : State} (holds : inv start.world) {actions : List Action}
    (guarded : (system deployment).Guarded (Meets guard) start actions) :
    inv ((system deployment).run start actions).world := by
  refine @StepSystem.run_guarded _ _ _ (fun state => inv state.world) _ ?_ _ holds _ guarded
  intro state action before meets
  have inTurn : inv (turn state action).world := by
    obtain ⟨queue, now, same⟩ := turn_world state action
    rw [same]
    exact turned _ _ _ before
  rcases step_performs state action with ⟨call, isCall, world⟩ | ⟨_, world⟩
  · show inv (step deployment state action).world
    rw [world]
    exact kept _ call (meets call isCall) inTurn
  · show inv (step deployment state action).world
    rw [world]
    exact inTurn

end Engine

end CoreApi.Automation
