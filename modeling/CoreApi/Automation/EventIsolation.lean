import CoreApi.Automation.SatisfiedTriggers

/-!
# Events and the processes of other tenants

`onAnyDomainEvent` selects the triggers that listen to an event by its name, and
by the process where the event names one; the tenant of the event is passed to
the where-rules only. A trigger that it marks met stays met. The calls that
follow advance the steps of these triggers, and as none of them is a rule no step
moves.
-/

namespace CoreApi.Automation

open CoreApi.Foundation StepOrchestrator

variable {deployment : Deployment}

/-- The trigger belongs to a step of the process. -/
def BelongsTo (db : Database) (processInstanceId : Nat) (trigger : StepTrigger) : Prop :=
  ∃ step ∈ db.steps.rows, step.stepInstanceId = trigger.stepInstanceId ∧
    step.processInstanceId = processInstanceId

instance (db : Database) (processInstanceId : Nat) (trigger : StepTrigger) :
    Decidable (BelongsTo db processInstanceId trigger) :=
  inferInstanceAs (Decidable (∃ step ∈ db.steps.rows, _))

/-- The steps of the process and their triggers are as they were. -/
structure Unaffected (processInstanceId : Nat) (before after : Database) : Prop where
  steps : ∀ step ∈ before.steps.rows, step.processInstanceId = processInstanceId →
    step ∈ after.steps.rows
  triggers : ∀ trigger ∈ before.triggers.rows, BelongsTo before processInstanceId trigger →
    trigger ∈ after.triggers.rows

/-! ## What advancing the step of a met trigger touches -/

/-- No step moves, the triggers of steps out of the list stay as they are, and triggers that are
met stay met. -/
structure TouchesOnly (stepIds : List Nat) (before after : Database) : Prop where
  steps : after.steps.rows = before.steps.rows
  schemas : after.triggers.rows.map triggerSchema = before.triggers.rows.map triggerSchema
  others : ∀ trigger ∈ before.triggers.rows, trigger.stepInstanceId ∉ stepIds →
    trigger ∈ after.triggers.rows
  met : ∀ trigger ∈ before.triggers.rows, trigger.status = .met →
    ∃ row ∈ after.triggers.rows, row.triggerInstanceId = trigger.triggerInstanceId ∧
      row.status = .met

namespace TouchesOnly

variable {stepIds : List Nat} {before middle after : Database}

theorem of_eq (steps : after.steps.rows = before.steps.rows)
    (triggers : after.triggers.rows = before.triggers.rows) :
    TouchesOnly stepIds before after :=
  ⟨steps, by rw [triggers], fun _ member _ => triggers ▸ member,
    fun trigger member met => ⟨trigger, triggers ▸ member, rfl, met⟩⟩

theorem refl (stepIds : List Nat) (db : Database) : TouchesOnly stepIds db db := of_eq rfl rfl

theorem trans (first : TouchesOnly stepIds before middle)
    (second : TouchesOnly stepIds middle after) : TouchesOnly stepIds before after := by
  refine ⟨second.steps.trans first.steps, second.schemas.trans first.schemas, ?_, ?_⟩
  · intro trigger member elsewhere
    exact second.others trigger (first.others trigger member elsewhere) elsewhere
  · intro trigger member met
    obtain ⟨row, rowMember, key, isMet⟩ := first.met trigger member met
    obtain ⟨last, lastMember, lastKey, lastMet⟩ := second.met row rowMember isMet
    exact ⟨last, lastMember, lastKey.trans key, lastMet⟩

theorem mono {stepIds' : List Nat} (touches : TouchesOnly stepIds before after)
    (fewer : ∀ stepId ∈ stepIds, stepId ∈ stepIds') : TouchesOnly stepIds' before after :=
  ⟨touches.steps, touches.schemas, fun trigger member elsewhere =>
    touches.others trigger member fun here => elsewhere (fewer _ here), touches.met⟩

/-- The write after a trigger was evaluated. -/
theorem evaluated {w : World} {trigger : StepTrigger} (member : trigger ∈ w.db.triggers.rows)
    (met : Bool) (time : String) :
    TouchesOnly [trigger.stepInstanceId] w.db (w.db.setTrigger trigger.triggerInstanceId
      (evaluatedTrigger met time) (evaluatedTrigger_key met time)) := by
  have same : ∀ row ∈ w.db.triggers.rows,
      row.triggerInstanceId = trigger.triggerInstanceId → row = trigger :=
    fun row rowMember key => Table.eq_of_key_eq rowMember member key
  refine ⟨rfl, ?_, ?_, ?_⟩
  · exact (OnlyTriggers.evaluated trigger met [] [] { w with now := time }).schemas
  · intro row rowMember elsewhere
    refine (mem_setTrigger (evaluatedTrigger_key met time)).mpr (.inr ⟨rowMember, fun key => ?_⟩)
    rw [same row rowMember key] at elsewhere
    exact elsewhere List.mem_cons_self
  · intro row rowMember isMet
    by_cases key : row.triggerInstanceId = trigger.triggerInstanceId
    · refine ⟨evaluatedTrigger met time row, (mem_setTrigger (evaluatedTrigger_key met time)).mpr
        (.inl ⟨row, rowMember, key, rfl⟩), evaluatedTrigger_key met time row, ?_⟩
      cases met
      · exact isMet
      · rfl
    · exact ⟨row, (mem_setTrigger (evaluatedTrigger_key met time)).mpr (.inr ⟨rowMember, key⟩),
        rfl, isMet⟩

end TouchesOnly

private theorem evaluateAll_touches (context : TriggerContext) (stepInstanceId : Nat)
    (triggers : List StepTrigger) :
    ∀ w : World, (∀ trigger ∈ triggers, trigger ∈ w.db.triggers.rows ∧
        trigger.stepInstanceId = stepInstanceId) →
      (triggers.Pairwise fun a b => a.triggerInstanceId ≠ b.triggerInstanceId) →
      Program.wp (evaluateAll deployment context triggers)
        (fun _ t => TouchesOnly [stepInstanceId] w.db t.db) (fun _ _ => True) w := by
  induction triggers with
  | nil => exact fun w _ _ => .refl _ w.db
  | cons trigger rest ih =>
      intro w rows distinct
      obtain ⟨member, ofStep⟩ := rows trigger List.mem_cons_self
      obtain ⟨others, distinctRest⟩ := List.pairwise_cons.mp distinct
      unfold evaluateAll evaluateTrigger
      rw [Program.wp_bind, Program.wp_bind]
      refine Program.wp_mono (TriggerEngine.evaluate_effect deployment trigger.jsonSchema
        context w) ?_ fun _ _ _ => trivial
      rintro met _ ⟨_, events, jobs, rfl, _⟩
      simp only [now, writeDb, Program.wp_bind, Program.wp_read, Program.wp_write,
        Program.wp_pure]
      have touches := TouchesOnly.evaluated member met w.now
      rw [ofStep] at touches
      refine Program.wp_mono (ih _ ?_ distinctRest) ?_ fun _ _ _ => trivial
      · intro other otherMember
        obtain ⟨otherRow, otherStep⟩ := rows other (List.mem_cons_of_mem _ otherMember)
        exact ⟨(mem_setTrigger (evaluatedTrigger_key met w.now)).mpr
          (.inr ⟨otherRow, (others other otherMember).symm⟩), otherStep⟩
      · exact fun _ t touchesRest => touches.trans touchesRest

/-- `evaluateTriggers` touches the triggers of the step only, and answers false where one of them
is no rule. -/
theorem evaluateTriggers_touches {w : World} {step : StepInstance}
    (member : step ∈ w.db.steps.rows)
    (waits : ∃ schema ∈ w.db.schemasOf step.stepInstanceId, schema.isRule = false) :
    Program.wp (evaluateTriggers deployment step.processInstanceId step.stepInstanceId)
      (fun met t => met = false ∧ TouchesOnly [step.stepInstanceId] w.db t.db)
      (fun _ _ => True) w := by
  have touches : Program.wp
      (evaluateTriggers deployment step.processInstanceId step.stepInstanceId)
      (fun _ t => TouchesOnly [step.stepInstanceId] w.db t.db) (fun _ _ => True) w := by
    unfold evaluateTriggers
    rw [Program.wp_bind, Program.wp_read, Program.wp_bind, Program.wp_read]
    refine evaluateAll_touches _ step.stepInstanceId _ w ?_ ?_
    · intro trigger triggerMember
      have selected := Table.mem_select.mp triggerMember
      exact ⟨selected.1, by simpa using selected.2⟩
    · exact (List.pairwise_map.mp w.db.triggers.distinct).filter _
  refine Program.wp_mono (Program.wp_and touches
    (evaluateTriggers_edits w step.stepInstanceId member rfl)) ?_ fun _ _ _ => trivial
  rintro met t ⟨touched, _, _, holds, _⟩
  refine ⟨Bool.eq_false_iff.mpr fun isMet => ?_, touched⟩
  obtain ⟨schema, schemaMember, other⟩ := waits
  have verdict := holds.mp isMet schema schemaMember
  unfold triggerVerdict at verdict
  rw [Engine.verdict_of_not_rule other] at verdict
  cases verdict

theorem OnlyObjects.touches {before after : World} (only : OnlyObjects deployment before after)
    (stepIds : List Nat) : TouchesOnly stepIds before.db after.db := by
  obtain ⟨_, _, _, rfl⟩ := only.shape
  exact .of_eq rfl rfl

theorem schemasOf_touched {stepIds : List Nat} {before after : Database}
    (touches : TouchesOnly stepIds before after) (stepInstanceId : Nat) :
    after.schemasOf stepInstanceId = before.schemasOf stepInstanceId := by
  rw [schemasOf_eq, schemasOf_eq, touches.schemas]

/-- The first transaction of `attemptAdvance` on a step with a trigger that is no rule. -/
theorem attemptAdvanceIn_touches {w : World} {stepInstanceId : Nat}
    (waits : ∃ schema ∈ w.db.schemasOf stepInstanceId, schema.isRule = false)
    (opts : AdvanceOptions) :
    Program.wp (attemptAdvanceIn deployment stepInstanceId opts)
      (fun result t => result = none ∧ TouchesOnly [stepInstanceId] w.db t.db)
      (fun _ _ => True) w := by
  unfold attemptAdvanceIn
  rw [Program.wp_bind, Program.wp_read]
  split
  · exact ⟨rfl, .refl _ w.db⟩
  · next step found =>
      have member : step ∈ w.db.steps.rows := Table.mem_of_find? found
      obtain rfl : step.stepInstanceId = stepInstanceId := Table.key_of_find? found
      rw [Program.wp_ite]
      refine ⟨fun _ => ⟨rfl, .refl _ w.db⟩, fun _ => ?_⟩
      -- The evaluation, in the world that the provisioning left.
      have evaluation : ∀ t, OnlyObjects deployment w t →
          Program.wp (evaluateTriggers deployment step.processInstanceId step.stepInstanceId)
            (fun met u => met = false ∧ TouchesOnly [step.stepInstanceId] w.db u.db)
            (fun _ _ => True) t := by
        intro t only
        have touched := only.touches [step.stepInstanceId]
        refine Program.wp_mono (evaluateTriggers_touches (touched.steps ▸ member)
          (schemasOf_touched touched step.stepInstanceId ▸ waits)) ?_ fun _ _ _ => trivial
        exact fun met u after => ⟨after.1, touched.trans after.2⟩
      have rest : ∀ t, OnlyObjects deployment w t → Program.wp (do
          let allMandatoryApproved ← Program.read fun w =>
            checkStepGates deployment w.db step.stepInstanceId
          let triggersMet ← evaluateTriggers deployment step.processInstanceId step.stepInstanceId
          if allMandatoryApproved = true ∧ triggersMet = true then
            advanceEligible deployment step opts
          else pure none)
          (fun result u => result = none ∧ TouchesOnly [step.stepInstanceId] w.db u.db)
          (fun _ _ => True) t := by
        intro t only
        rw [Program.wp_bind, Program.wp_read, Program.wp_bind]
        refine Program.wp_mono (evaluation t only) ?_ fun _ _ _ => trivial
        rintro met u ⟨rfl, touched⟩
        rw [if_neg fun both => Bool.false_ne_true both.2]
        exact ⟨rfl, touched⟩
      unfold advanceStep
      rw [Program.wp_bind, Program.wp_when]
      refine ⟨fun ready => ?_, fun _ => rest w (.refl w)⟩
      refine Program.wp_mono (provisionBindings_edits w step.stepInstanceId step
        opts.correlationId member rfl ready) ?_ fun _ _ never => never.elim
      exact fun _ t provisioned => rest t provisioned.2

/-- `attemptAdvance` on a step with a trigger that is no rule moves no step. -/
theorem attemptAdvance_touches {w : World} {stepInstanceId : Nat}
    (waits : ∃ schema ∈ w.db.schemasOf stepInstanceId, schema.isRule = false)
    (opts : AdvanceOptions) :
    Program.wp (attemptAdvance deployment stepInstanceId opts)
      (fun _ t => TouchesOnly [stepInstanceId] w.db t.db)
      (fun _ t => TouchesOnly [stepInstanceId] w.db t.db) w := by
  unfold attemptAdvance
  rw [Program.wp_bind, wp_transaction]
  refine Program.wp_mono (attemptAdvanceIn_touches waits opts) ?_ ?_
  · rintro result t ⟨rfl, touched⟩
    exact touched
  · exact fun _ t _ => .of_eq rfl rfl

/-! ## Handling an event -/

theorem Database.markTriggers_touches (time : String) (marked : List StepTrigger) :
    ∀ w : World, (∀ trigger ∈ marked, ∃ row ∈ w.db.triggers.rows,
        row.triggerInstanceId = trigger.triggerInstanceId ∧
          row.stepInstanceId = trigger.stepInstanceId) →
      TouchesOnly (marked.map StepTrigger.stepInstanceId) w.db (w.db.markTriggers time marked) := by
  induction marked with
  | nil => exact fun w _ => .refl _ w.db
  | cons trigger rest ih =>
      intro w stored
      obtain ⟨row, member, key, ofStep⟩ := stored trigger List.mem_cons_self
      have first := TouchesOnly.evaluated member true time
      rw [key, ofStep] at first
      let once : World :=
        { w with
          db := w.db.setTrigger trigger.triggerInstanceId (metTrigger time) (metTrigger_key time) }
      refine (first.mono (by simp)).trans
        ((ih once ?_).mono fun _ => List.mem_cons_of_mem _)
      intro other otherMember
      obtain ⟨old, oldMember, oldKey, oldStep⟩ := stored other (List.mem_cons_of_mem _ otherMember)
      by_cases same : old.triggerInstanceId = trigger.triggerInstanceId
      · exact ⟨metTrigger time old, (mem_setTrigger (metTrigger_key time)).mpr
          (.inl ⟨old, oldMember, same, rfl⟩), oldKey, oldStep⟩
      · exact ⟨old, (mem_setTrigger (metTrigger_key time)).mpr (.inr ⟨oldMember, same⟩), oldKey,
          oldStep⟩

namespace EventBridge

theorem mem_of_metAmong {event : DomainEvent} {eventName : Option String} {time : String} {trigger : StepTrigger} :
    ∀ {triggers : List StepTrigger}, trigger ∈ metAmong deployment event eventName time triggers →
      trigger ∈ triggers := by
  intro triggers
  induction triggers with
  | nil => exact fun member => member
  | cons first rest ih =>
      intro member
      unfold metAmong at member
      split at member
      · cases member
      · rcases List.mem_cons.mp member with rfl | isRest
        · exact List.mem_cons_self
        · exact List.mem_cons_of_mem _ (ih isRest)
      · exact List.mem_cons_of_mem _ (ih member)

theorem stored_of_met {event : DomainEvent} {eventName : Option String} {w : World} {trigger : StepTrigger}
    (met : trigger ∈ metTriggers deployment event eventName w) :
    trigger ∈ w.db.triggers.rows ∧ trigger.status = .unmet ∧
      trigger.jsonSchema.isRule = false := by
  obtain ⟨member, selected⟩ := Table.mem_select.mp (mem_of_metAmong met)
  have listens : listensTo eventName trigger = true := (Bool.and_eq_true_iff.mp selected).1
  unfold listensTo at listens
  split at listens
  · next isEvent =>
      refine ⟨member, by simpa using (Bool.and_eq_true_iff.mp listens).2, ?_⟩
      rw [isEvent]
      rfl
  · cases listens

theorem marked_touches (event : DomainEvent) (eventName : Option String) (w : World) :
    TouchesOnly ((metTriggers deployment event eventName w).map StepTrigger.stepInstanceId) w.db
      (marked deployment event eventName w).db :=
  Database.markTriggers_touches w.now _ w fun trigger met =>
    ⟨trigger, (stored_of_met met).1, rfl, rfl⟩

theorem met_of_marked {event : DomainEvent} {eventName : Option String} {w : World} {trigger : StepTrigger}
    (met : trigger ∈ metTriggers deployment event eventName w) :
    metTrigger w.now trigger ∈ (marked deployment event eventName w).db.triggers.rows := by
  refine (Database.mem_markTriggers _ w.db).mpr ⟨trigger, (stored_of_met met).1, ?_⟩
  rw [if_pos ⟨trigger, met, rfl⟩]

theorem waits_of_met {event : DomainEvent} {eventName : Option String} {w : World} {stepIds : List Nat} {db : Database}
    (touches : TouchesOnly stepIds w.db db) {stepInstanceId : Nat}
    (met : stepInstanceId ∈ (metTriggers deployment event eventName w).map StepTrigger.stepInstanceId) :
    ∃ schema ∈ db.schemasOf stepInstanceId, schema.isRule = false := by
  obtain ⟨trigger, isMet, rfl⟩ := List.mem_map.mp met
  obtain ⟨member, _, other⟩ := stored_of_met isMet
  refine ⟨trigger.jsonSchema, ?_, other⟩
  rw [schemasOf_touched touches]
  exact List.mem_map_of_mem (Table.mem_select.mpr ⟨member, by simp⟩)

variable (deployment) in
/-- Behind the marking, `onAnyDomainEvent` touches triggers of the marked steps only. -/
theorem onAnyDomainEvent_touches (event : DomainEvent) (eventName : Option String) (w : World) :
    TouchesOnly ((metTriggers deployment event eventName w).map StepTrigger.stepInstanceId)
      (marked deployment event eventName w).db (onAnyDomainEvent deployment event eventName w).2.db := by
  let stepIds := (metTriggers deployment event eventName w).map StepTrigger.stepInstanceId
  refine Program.wp_end (fun t : World => TouchesOnly stepIds (marked deployment event eventName w).db t.db)
    ?_
  unfold onAnyDomainEvent
  rw [Program.wp_bind]
  refine Program.wp_mono (Engine.metStepIds_marks event eventName w) ?_ ?_
  · rintro _ _ ⟨rfl, rfl⟩
    let inv := fun (rest : List Nat) (t : World) => (∀ stepId ∈ rest, stepId ∈ stepIds) ∧
      TouchesOnly stepIds (marked deployment event eventName w).db t.db
    refine Program.wp_mono (Program.wp_forEach inv _ _ ?_ ?_) (fun _ t done => done.2)
      fun _ t raised => raised
    · exact ⟨fun stepId member => List.mem_eraseDups.mp member, .refl _ _⟩
    · rintro stepId rest t ⟨inside, touches⟩
      have isMet := inside stepId List.mem_cons_self
      have own : ∀ other ∈ [stepId], other ∈ stepIds := by
        intro other member
        rw [List.mem_singleton.mp member]
        exact isMet
      have waits := waits_of_met ((marked_touches event eventName w).trans touches) isMet
      refine Program.wp_mono (attemptAdvance_touches waits (eventOptions event)) ?_ ?_
      · exact fun _ u touched => ⟨fun other member => inside other (List.mem_cons_of_mem _ member),
          touches.trans (touched.mono own)⟩
      · exact fun _ u touched => touches.trans (touched.mono own)
  · rintro _ _ rfl
    exact .refl _ _

/-- An event leaves a process as it is when it marks none of its triggers met. -/
theorem unaffected_iff (event : DomainEvent) (eventName : Option String) (w : World) (processInstanceId : Nat) :
    Unaffected processInstanceId w.db (onAnyDomainEvent deployment event eventName w).2.db ↔
      ∀ trigger ∈ metTriggers deployment event eventName w, ¬BelongsTo w.db processInstanceId trigger := by
  have touches := onAnyDomainEvent_touches deployment event eventName w
  have all := (marked_touches event eventName w).trans touches
  constructor
  · intro unaffected trigger met belongs
    obtain ⟨member, unmet, _⟩ := stored_of_met met
    obtain ⟨row, rowMember, key, isMet⟩ := touches.met _ (met_of_marked met) rfl
    have same : row = trigger :=
      Table.eq_of_key_eq rowMember (unaffected.triggers trigger member belongs) key
    rw [same, unmet] at isMet
    cases isMet
  · intro none
    refine ⟨fun step member _ => all.steps ▸ member, fun trigger member belongs => ?_⟩
    refine all.others trigger member fun touched => ?_
    obtain ⟨met, isMet, sameStep⟩ := List.mem_map.mp touched
    obtain ⟨step, stepMember, key, ofProcess⟩ := belongs
    exact none met isMet ⟨step, stepMember, key.trans sameStep.symm, ofProcess⟩

/-- The event leaves the processes of other tenants as they are. -/
def Isolates (deployment : Deployment) (event : DomainEvent) (eventName : Option String) (w : World) : Prop :=
  ∀ row ∈ w.db.processInstances.rows, event.tenantId ≠ some row.tenantId →
    Unaffected row.processInstanceId w.db (onAnyDomainEvent deployment event eventName w).2.db

end EventBridge

/-! ## Two tenants -/

/-- A step that waits for an event and a second. -/
def Engine.eventAndTimer : Templates where
  steps := [.row 1 .manual 1 none, .row 1 .manual 2 none]
  requirements := []
  triggers := [.row 2 (.event "six1-event.go" .null []), .row 2 (.time "PT1S" [])]
  bindings := []
  configObjects := []

/-- The event that the step waits for. -/
def Engine.goEvent : DomainEvent where
  eventName := "six1-event.go"
  entity := none
  data := .obj []
  correlationId := none
  tenantId := some 1

/-- A process of each of two tenants waits for one event. -/
def twoTenants : World :=
  ((Engine.system .allEnabled).run (Engine.installed Engine.eventAndTimer)
    [.invoke (.startProcess (.workflow 1 1 .ignore)), .invoke (.markCompleted 1 .none),
      .invoke (.startProcess (.workflow 2 1 .ignore)), .invoke (.markCompleted 3 .none)]).world

end CoreApi.Automation
