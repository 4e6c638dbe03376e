import CoreApi.Automation.CallWrites
import CoreApi.Automation.EventIsolation

/-!
# Delivery of events to triggers

`EventsService.emit` and `emitAsync` hand the emitter an event name and an
envelope, and the emitter calls a listener with the envelope alone. The second
parameter of `onAnyDomainEvent` stays undefined, its query compares with `NULL`
and selects no row. Nothing else marks a trigger of type event met, as its
evaluation answers false: a trigger that waits for an event waits forever.
-/

namespace CoreApi.Automation

open CoreApi.Foundation StepOrchestrator

variable {deployment : Deployment}

/-! ## Triggers that wait for an event -/

/-- A trigger of type event. -/
def TriggerEnvelope.isEvent : TriggerEnvelope → Bool
  | .event _ _ _ => true
  | _ => false

/-- The triggers of type event that are unmet stay unmet. -/
def EventTriggersWait (before after : Database) : Prop :=
  ∀ trigger ∈ before.triggers.rows, trigger.jsonSchema.isEvent = true →
    trigger.status = .unmet →
      ∃ row ∈ after.triggers.rows, row.triggerInstanceId = trigger.triggerInstanceId ∧
        row.jsonSchema = trigger.jsonSchema ∧ row.status = .unmet

namespace EventTriggersWait

variable {before middle after : Database}

theorem of_kept (kept : ∀ trigger ∈ before.triggers.rows, trigger ∈ after.triggers.rows) :
    EventTriggersWait before after :=
  fun trigger member _ unmet => ⟨trigger, kept trigger member, rfl, rfl, unmet⟩

theorem of_triggers (same : after.triggers = before.triggers) : EventTriggersWait before after :=
  of_kept fun _ member => same ▸ member

theorem refl (db : Database) : EventTriggersWait db db := of_triggers rfl

theorem trans (first : EventTriggersWait before middle)
    (second : EventTriggersWait middle after) : EventTriggersWait before after := by
  intro trigger member isEvent unmet
  obtain ⟨row, rowMember, key, schema, rowUnmet⟩ := first trigger member isEvent unmet
  obtain ⟨last, lastMember, lastKey, lastSchema, lastUnmet⟩ :=
    second row rowMember (schema ▸ isEvent) rowUnmet
  exact ⟨last, lastMember, lastKey.trans key, lastSchema.trans schema, lastUnmet⟩

theorem started {params : StartProcessParams} {row : ProcessInstance} {w w' : World}
    (started : Started params row w w') : EventTriggersWait w.db w'.db :=
  of_kept fun _ member => started.triggers ▸ List.mem_append_left _ member

/-- An evaluation finds no trigger of type event met. -/
theorem evaluated {trigger : StepTrigger} {met : Bool} {w : World}
    (member : trigger ∈ w.db.triggers.rows)
    (judged : ∃ context, TriggerEngine.verdict deployment trigger.jsonSchema context =
      .ok met) :
    EventTriggersWait w.db (w.db.setTrigger trigger.triggerInstanceId
      (evaluatedTrigger met w.now) (evaluatedTrigger_key met w.now)) := by
  intro row rowMember isEvent unmet
  by_cases same : row.triggerInstanceId = trigger.triggerInstanceId
  · obtain rfl := Table.eq_of_key_eq rowMember member same
    obtain ⟨context, verdict⟩ := judged
    have isUnmet : met = false := by
      rcases schema : row.jsonSchema with _ | _ | _ | _
      all_goals rw [schema] at isEvent verdict
      all_goals first
        | exact (Except.ok.inj verdict).symm
        | cases isEvent
    refine ⟨evaluatedTrigger met w.now row, (mem_setTrigger (evaluatedTrigger_key met w.now)).mpr
      (.inl ⟨row, rowMember, rfl, rfl⟩), evaluatedTrigger_key met w.now row, ?_, ?_⟩
    · rw [isUnmet]
      rfl
    · rw [isUnmet]
      exact unmet
  · exact ⟨row, (mem_setTrigger (evaluatedTrigger_key met w.now)).mpr (.inr ⟨rowMember, same⟩),
      rfl, rfl, unmet⟩

theorem edit {origin w w' : World} {processInstanceId target : Nat}
    (edit : Edit deployment origin processInstanceId target w w') :
    EventTriggersWait w.db w'.db := by
  cases edit with
  | hosted host =>
      obtain ⟨_, _, _, _, tables⟩ := host.tables
      exact of_triggers (by rw [tables])
  | evaluated _ _ _ _ _ member _ _ _ _ _ judged => exact evaluated member judged
  | provisioned _ _ _ _ _ _ _ _ writes =>
      obtain ⟨_, _, _, _, _, _, _, rfl⟩ := writes
      exact of_triggers rfl
  | readied _ _ _ _ _ _ _ host =>
      obtain ⟨_, _, _, _, tables⟩ := host.tables
      exact of_triggers (by rw [tables]; rfl)
  | blocked => exact of_triggers rfl
  | spawned _ _ _ _ _ _ _ _ _ _ _ _ start => exact (started start).trans (of_triggers rfl)

theorem settled {w w' : World} {processInstanceId : Nat} {result : Option Nat}
    (settlement : Settlement deployment processInstanceId w result w') :
    EventTriggersWait w.db w'.db := by
  cases settlement with
  | idle => exact of_triggers rfl
  | child => exact of_triggers rfl
  | announced _ _ _ _ _ announced =>
      obtain ⟨_, _, _, _, tables⟩ := announced.tables
      exact of_triggers (by rw [tables]; rfl)

end EventTriggersWait

/-! ## The listeners of an emitted event -/

namespace EventBridge

/-- Without its second argument, `onAnyDomainEvent` selects no trigger. -/
theorem candidates_undefined (db : Database) (event : DomainEvent) :
    candidates db event none = [] := by
  unfold candidates Table.select
  refine List.filter_eq_nil_iff.mpr fun trigger _ => ?_
  unfold listensTo
  split <;> simp

theorem marked_undefined (event : DomainEvent) (w : World) :
    marked deployment event none w = w := by
  unfold marked metTriggers
  rw [candidates_undefined]
  rfl

variable (deployment) in
theorem metStepIds_undefined (event : DomainEvent) (w : World) :
    metStepIds deployment event none w = (.ok [], w) := by
  unfold metStepIds
  show (markAllMet deployment event none (candidates w.db event none) >>= fun stepIds =>
    pure stepIds.eraseDups) w = _
  rw [candidates_undefined]
  rfl

end EventBridge

namespace Engine

theorem Effect.eventTriggersWait {before after : World} {call : Call}
    (effect : Effect deployment before call after) : EventTriggersWait before.db after.db := by
  refine @Effect.kept _ (fun w => EventTriggersWait before.db w.db) _ _ _ effect ?_ (.refl _)
  exact {
    rolledBack := fun later rolledBack _ _ => .of_kept fun _ member => by
      rw [rolledBack]
      exact member
    started := fun _ start _ _ => .started start
    edit := fun edit holds => holds.trans (.edit edit)
    completed := fun _ _ _ _ _ completes holds => by
      obtain ⟨_, _, _, _, _, _, tables⟩ := completes.tables
      exact holds.trans (.of_triggers (by rw [tables]; rfl))
    settled := fun settlement holds => holds.trans (.settled settlement)
    told := fun _ _ told _ => by cases told <;> exact .of_triggers rfl
    eligible := fun _ _ => .of_triggers rfl
    validated := fun _ validated _ => by
      obtain ⟨_, _, _, _, _, _, _, rfl⟩ := validated
      exact .of_triggers rfl
    evidence := fun only _ _ => by
      obtain ⟨_, _, _, _, _, rfl⟩ := only
      exact .of_triggers rfl
    marked := fun _ _ => by
      rw [EventBridge.marked_undefined]
      exact .refl _ }

variable (deployment) in
/-- In every run, the triggers that wait for an event go on waiting. -/
theorem eventTriggers_wait (start : State) (actions : List Action) :
    EventTriggersWait start.world.db ((system deployment).run start actions).world.db := by
  refine @run_performed deployment (fun w => EventTriggersWait start.world.db w.db)
    (fun _ _ => True) (fun _ _ _ holds => holds) (fun w call _ holds => ?_) start (.refl _)
    actions (.all _ (fun _ _ _ _ => trivial) start actions)
  exact holds.trans (Program.wp_end (fun after => EventTriggersWait w.db after.db)
    (Program.wp_mono (perform_effect deployment call w)
      (fun _ _ effect => effect.eventTriggersWait) fun _ _ effect => effect.eventTriggersWait))

/-- The row, step or instance that a listener with a pattern of its own acts on. -/
def ownTarget (deployment : Deployment) (db : Database) (event : DomainEvent) :
    Listener → Option Nat
  | .childCompleted => EventBridge.resumedStep deployment event
  | .objectValidated => EventBridge.validatedStep deployment event
  | .instanceUpdated => EventBridge.updatedInstance deployment event
  | .requirement => EventBridge.requirementStep db event
  | .anyDomainEvent => none

/-- No listener of the event finds anything to act on. -/
def ActsOnNothing (deployment : Deployment) (event : DomainEvent) (db : Database) : Prop :=
  ∀ listener ∈ listeners, listener.matches event.eventName = true →
    ownTarget deployment db event listener = none

instance (event : DomainEvent) (db : Database) :
    Decidable (ActsOnNothing deployment event db) :=
  inferInstanceAs (Decidable (∀ listener ∈ listeners, _ → _))

/-- A listener without a target returns at once. -/
theorem listen_idle {listener : Listener} {event : DomainEvent} {w : World}
    (idle : ownTarget deployment w.db event listener = none) :
    listen deployment listener event w = (.ok [], w) := by
  cases listener with
  | childCompleted =>
      simp only [ownTarget] at idle
      simp only [listen, idle]
      rfl
  | objectValidated =>
      simp only [ownTarget] at idle
      simp only [listen, idle]
      rfl
  | instanceUpdated =>
      simp only [ownTarget] at idle
      simp only [listen, idle]
      rfl
  | requirement =>
      simp only [ownTarget] at idle
      simp only [listen]
      simp only [bind, Program.andThen, Program.read, idle]
      rfl
  | anyDomainEvent =>
      simp only [listen, bind, Program.andThen, EventBridge.metStepIds_undefined]
      rfl

/-! ## Emitting an event -/

/-- Service calls in flight go on, and time passes. -/
def isDelivery : Action → Bool
  | .resume _ => true
  | .tick _ => true
  | _ => false

/-- What is in flight are listener calls for the event, none of which has anything to do. -/
def OnlyIdle (deployment : Deployment) (event : DomainEvent) (db : Database)
    (tasks : List (List Call)) : Prop :=
  ∀ task ∈ tasks, ∃ listener, task = [.listener listener event] ∧
    ownTarget deployment db event listener = none

/-- Nothing was written, and what is left to handle has nothing to do. -/
structure Idle (deployment : Deployment) (event : DomainEvent) (db : Database) (state : State) :
    Prop where
  unchanged : state.world.db = db
  tasks : OnlyIdle deployment event db state.tasks

theorem onlyIdle_listenerTasks {event : DomainEvent} {db : Database}
    (idle : ActsOnNothing deployment event db) :
    OnlyIdle deployment event db (listenerTasks event) := by
  intro task member
  obtain ⟨listener, isListener, rfl⟩ := List.mem_map.mp member
  obtain ⟨known, matching⟩ := List.mem_filter.mp isListener
  exact ⟨listener, rfl, idle listener known matching⟩

theorem execute_idle {event : DomainEvent} {w : World} {listener : Listener}
    {others : List (List Call)} (none : ownTarget deployment w.db event listener = none) :
    execute deployment w (.listener listener event) [] others = { world := w, tasks := others } := by
  have performs : perform deployment (.listener listener event) w = (.ok [], w) :=
    listen_idle none
  unfold execute
  rw [performs]
  simp [pendingTask, emitted]

/-- Handling a call that has nothing to do leaves the database as it is. -/
theorem Idle.step {event : DomainEvent} {db : Database} {state : State}
    (idle : Idle deployment event db state) {action : Action}
    (delivery : isDelivery action = true) :
    Idle deployment event db (step deployment state action) := by
  cases action with
  | tick now => exact ⟨idle.unchanged, idle.tasks⟩
  | resume task =>
      rcases isTask : state.tasks[task]? with _ | calls
      · have none : (turn state (.resume task)).call = none := by simp only [turn, isTask]
        rw [step_of_idle none]
        simp only [turn, isTask]
        exact idle
      · obtain ⟨listener, rfl, target⟩ := idle.tasks calls (List.mem_of_getElem? isTask)
        have isCall : (turn state (.resume task)).call = some (.listener listener event) := by
          simp only [turn, isTask]
        rw [step_of_call isCall]
        simp only [turn, isTask]
        rw [execute_idle (by rw [idle.unchanged]; exact target)]
        exact ⟨idle.unchanged, fun other member => idle.tasks other (List.mem_of_mem_eraseIdx member)⟩
  | _ => cases delivery

theorem Idle.run {event : DomainEvent} {db : Database} {actions : List Action} :
    ∀ {state : State}, Idle deployment event db state →
      (∀ action ∈ actions, isDelivery action = true) →
        Idle deployment event db ((system deployment).run state actions) := by
  induction actions with
  | nil => exact fun idle _ => idle
  | cons action rest ih =>
      intro state idle deliveries
      obtain ⟨first, others⟩ := List.forall_mem_cons.mp deliveries
      exact ih (idle.step first) others

/-- An unmet trigger of type event that listens to the emitted name, belongs to the process
that the payload names, and whose where-rule holds on the context of the event. -/
def Qualifies (deployment : Deployment) (event : DomainEvent) (w : World)
    (trigger : StepTrigger) : Prop :=
  trigger ∈ EventBridge.candidates w.db event (some event.eventName) ∧
    EventBridge.passes deployment event (some event.eventName) w.now trigger = .ok true

/-- The triggers that qualified are met, and no other trigger has changed. -/
structure EventSatisfies (deployment : Deployment) (event : DomainEvent) (before after : World) :
    Prop where
  met : ∀ trigger, Qualifies deployment event before trigger →
    ∃ row ∈ after.db.triggers.rows, row.triggerInstanceId = trigger.triggerInstanceId ∧
      row.status = .met
  others : ∀ trigger ∈ before.db.triggers.rows, ¬Qualifies deployment event before trigger →
    trigger ∈ after.db.triggers.rows

theorem Qualifies.waits {event : DomainEvent} {w : World} {trigger : StepTrigger}
    (qualifies : Qualifies deployment event w trigger) :
    trigger ∈ w.db.triggers.rows ∧ trigger.jsonSchema.isEvent = true ∧
      trigger.status = .unmet := by
  obtain ⟨member, selected⟩ := Table.mem_select.mp qualifies.1
  have listens : EventBridge.listensTo (some event.eventName) trigger = true :=
    (Bool.and_eq_true_iff.mp selected).1
  unfold EventBridge.listensTo at listens
  split at listens
  · next schema =>
      rw [schema]
      exact ⟨member, rfl, by simpa using (Bool.and_eq_true_iff.mp listens).2⟩
  · cases listens

/-- After an event was emitted and its listeners have run, the triggers that it satisfies are met
only where there is none; and where none of its listeners has anything else to act on, the
other triggers are then as they were. -/
theorem emitted_satisfies (event : DomainEvent) (w : World) (actions : List Action) :
    (EventSatisfies deployment event w
        ((system deployment).run ⟨w, []⟩ (.publish event :: actions)).world →
      ∀ trigger, ¬Qualifies deployment event w trigger) ∧
    (ActsOnNothing deployment event w.db →
      (∀ action ∈ actions, isDelivery action = true) →
        ((∀ trigger, ¬Qualifies deployment event w trigger) ↔
          EventSatisfies deployment event w
            ((system deployment).run ⟨w, []⟩ (.publish event :: actions)).world)) := by
  have waits := eventTriggers_wait deployment ⟨w, []⟩ (.publish event :: actions)
  have needed : EventSatisfies deployment event w
      ((system deployment).run ⟨w, []⟩ (.publish event :: actions)).world →
        ∀ trigger, ¬Qualifies deployment event w trigger := by
    intro satisfies trigger qualifies
    obtain ⟨member, isEvent, unmet⟩ := qualifies.waits
    obtain ⟨row, rowMember, key, _, stillUnmet⟩ := waits trigger member isEvent unmet
    obtain ⟨met, metMember, metKey, isMet⟩ := satisfies.met trigger qualifies
    rw [Table.eq_of_key_eq metMember rowMember (metKey.trans key.symm), stillUnmet] at isMet
    cases isMet
  refine ⟨needed, fun idle deliveries => ⟨fun none => ?_, needed⟩⟩
  have published : Idle deployment event w.db
      (step deployment ⟨w, []⟩ (.publish event)) :=
    ⟨rfl, onlyIdle_listenerTasks idle⟩
  have ends := (published.run deliveries).unchanged
  exact ⟨fun trigger qualifies => absurd qualifies (none trigger), fun trigger member _ => by
    rw [StepSystem.run_cons, show (system deployment).step = step deployment from rfl, ends]
    exact member⟩

/-- An event that nobody waits for. -/
def stopEvent : DomainEvent := { goEvent with eventName := "six1-event.stop" }

/-- Emit the event and run its listener. -/
def emission (event : DomainEvent) : List Action := [.publish event, .resume 0]

/-- An event that no trigger listens to satisfies its triggers. -/
theorem emitted_satisfies_stopEvent :
    ((system .allEnabled).run ⟨twoTenants, []⟩ (emission stopEvent)).tasks = [] ∧
      EventSatisfies .allEnabled stopEvent twoTenants
        ((system .allEnabled).run ⟨twoTenants, []⟩ (emission stopEvent)).world := by
  refine ⟨by decide, ((emitted_satisfies stopEvent twoTenants [.resume 0]).2
    (by decide) (by decide)).mp ?_⟩
  have noneListens : EventBridge.candidates twoTenants.db stopEvent (some stopEvent.eventName) =
      [] := by decide
  rintro trigger ⟨candidate, _⟩
  rw [noneListens] at candidate
  cases candidate

/-- The trigger that waits for an event is unmet when its listeners have run. -/
theorem goEvent_marks_nothing :
    ((system .allEnabled).run ⟨twoTenants, []⟩ (emission goEvent)).tasks = [] ∧
      ¬EventSatisfies .allEnabled goEvent twoTenants
        ((system .allEnabled).run ⟨twoTenants, []⟩ (emission goEvent)).world := by
  refine ⟨by decide, fun satisfies => ?_⟩
  obtain ⟨trigger, candidate, passes, stays⟩ : ∃ trigger ∈ EventBridge.candidates twoTenants.db
      goEvent (some goEvent.eventName),
      EventBridge.passes .allEnabled goEvent (some goEvent.eventName) twoTenants.now trigger =
          .ok true ∧
        ∀ row ∈ ((system .allEnabled).run ⟨twoTenants, []⟩
          (emission goEvent)).world.db.triggers.rows,
            row.triggerInstanceId = trigger.triggerInstanceId → row.status ≠ .met := by
    decide
  obtain ⟨row, member, key, isMet⟩ := satisfies.met trigger ⟨candidate, passes⟩
  exact stays row member key isMet

end Engine

end CoreApi.Automation
