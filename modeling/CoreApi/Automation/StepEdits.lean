import CoreApi.Automation.HostReports
import CoreApi.Automation.StepInputs
import Mathlib.Logic.Relation

/-!
# What the orchestrator can write

`Edit` lists the writes by which the orchestrator unlocks steps, each with the
facts that held when it was made, and `Edits` is a sequence of them. The
lemmas at the end say that every part of `attemptAdvance` and `enableNextSteps`
is such a sequence, whether it returns or raises; nothing else about these
functions is needed by the invariants.
-/

namespace CoreApi.Automation

open CoreApi.Foundation

/-! ## Updates of a step -/

/-- `set` writes the status `status` and leaves what identifies the step. -/
structure SetsStatus (status : StepStatus) (set : StepInstance → StepInstance) : Prop where
  key : ∀ row, (set row).stepInstanceId = row.stepInstanceId
  process : ∀ row, (set row).processInstanceId = row.processInstanceId
  template : ∀ row, (set row).processTemplateStepId = row.processTemplateStepId
  order : ∀ row, (set row).stepOrder = row.stepOrder
  task : ∀ row, (set row).taskType = row.taskType
  status : ∀ row, (set row).status = status

theorem setsStatus_stepInState (status : StepStatus) (times : StepOrchestrator.StateTimes)
    (time : String) : SetsStatus status (StepOrchestrator.stepInState status times time) :=
  ⟨fun _ => rfl, fun _ => rfl, fun _ => rfl, fun _ => rfl, fun _ => rfl, fun _ => rfl⟩

theorem setsStatus_blocked (time : String) :
    SetsStatus .blocked (ChildProcessOrchestration.blocked time) :=
  ⟨fun _ => rfl, fun _ => rfl, fun _ => rfl, fun _ => rfl, fun _ => rfl, fun _ => rfl⟩

theorem setsStatus_completedByChild (time : String) :
    SetsStatus .completed (ChildProcessOrchestration.completedByChild time) :=
  ⟨fun _ => rfl, fun _ => rfl, fun _ => rfl, fun _ => rfl, fun _ => rfl, fun _ => rfl⟩

theorem setsStatus_canceledByChild (time : String) :
    SetsStatus .canceled (ChildProcessOrchestration.canceledByChild time) :=
  ⟨fun _ => rfl, fun _ => rfl, fun _ => rfl, fun _ => rfl, fun _ => rfl, fun _ => rfl⟩

theorem SetsStatus.comp {status first : StepStatus} {set inner : StepInstance → StepInstance}
    (outer : SetsStatus status set) (before : SetsStatus first inner) :
    SetsStatus status (fun row => set (inner row)) :=
  ⟨fun row => (outer.key _).trans (before.key row),
    fun row => (outer.process _).trans (before.process row),
    fun row => (outer.template _).trans (before.template row),
    fun row => (outer.order _).trans (before.order row),
    fun row => (outer.task _).trans (before.task row),
    fun _ => outer.status _⟩

/-! ## Evaluated triggers -/

/-- The step a trigger belongs to, and its envelope. -/
def triggerSchema (trigger : StepTrigger) : Nat × TriggerEnvelope :=
  (trigger.stepInstanceId, trigger.jsonSchema)

/-- A world that differs in the statuses of triggers, the events and the queue only. -/
structure OnlyTriggers (before after : World) : Prop where
  shape : ∃ triggers events queue,
    after = { before with
      db := { before.db with triggers := triggers }, events := events, queue := queue }
  schemas : after.db.triggers.rows.map triggerSchema = before.db.triggers.rows.map triggerSchema

theorem OnlyTriggers.refl (w : World) : OnlyTriggers w w := ⟨⟨_, _, _, rfl⟩, rfl⟩

theorem OnlyTriggers.trans {a b c : World} (first : OnlyTriggers a b) (second : OnlyTriggers b c) :
    OnlyTriggers a c := by
  obtain ⟨⟨_, _, _, rfl⟩, schemas⟩ := first
  obtain ⟨⟨_, _, _, rfl⟩, schemas'⟩ := second
  exact ⟨⟨_, _, _, rfl⟩, schemas'.trans schemas⟩

theorem OnlyTriggers.steps {before after : World} (only : OnlyTriggers before after) :
    after.db.steps = before.db.steps := by
  obtain ⟨_, _, _, rfl⟩ := only.shape
  rfl

/-- The envelopes of the triggers of a step. -/
theorem schemasOf_eq (db : Database) (stepInstanceId : Nat) :
    db.schemasOf stepInstanceId =
      ((db.triggers.rows.map triggerSchema).filter fun entry => entry.1 == stepInstanceId).map
        Prod.snd := by
  unfold Database.schemasOf Database.triggersOf Table.select
  rw [List.filter_map, List.map_map]
  rfl

theorem OnlyTriggers.sameInputs (deployment : Deployment) {before after : World}
    (only : OnlyTriggers before after) (step : StepInstance) :
    SameInputs deployment step before after := by
  have schemas : after.db.schemasOf step.stepInstanceId =
      before.db.schemasOf step.stepInstanceId := by
    rw [schemasOf_eq, schemasOf_eq, only.schemas]
  obtain ⟨_, _, _, rfl⟩ := only.shape
  exact ⟨rfl, rfl, rfl, schemas, rfl, rfl⟩

/-- The write after an evaluation. -/
theorem OnlyTriggers.evaluated (trigger : StepTrigger) (met : Bool) (events : List DomainEvent)
    (jobs : List Job) (w : World) :
    OnlyTriggers w { w with
      db := w.db.setTrigger trigger.triggerInstanceId
        (StepOrchestrator.evaluatedTrigger met w.now)
        (StepOrchestrator.evaluatedTrigger_key met w.now)
      events := w.events ++ events
      queue := w.queue ++ jobs } := by
  refine ⟨⟨_, _, _, rfl⟩, ?_⟩
  unfold Database.setTrigger
  rw [Table.rows_updateAt, List.map_map]
  apply List.map_congr_left
  intro row _
  simp only [Function.comp_apply]
  split
  · cases met <;> rfl
  · rfl

/-- No event of the list announces a completed process. -/
def QuietEvents (events : List DomainEvent) : Prop :=
  ∀ event ∈ events, ∀ processInstanceId, event.announces processInstanceId = false

/-- The jobs the evaluation of a trigger puts on the queue: one timer of its own
for a time trigger, and jobs the worker ignores for a jsonlogic trigger. -/
def TriggerJobs (trigger : TriggerEnvelope) (context : TriggerContext) (jobs : List Job) : Prop :=
  jobs = [] ∨ (∃ delayMs, jobs = [.timeTrigger delayMs trigger context]) ∨
    ∀ job ∈ jobs, ∃ delayMs name data, job = .action delayMs name data

namespace TriggerEngine

private theorem execEmit_log (context : TriggerContext) (name : Option String) (w : World) :
    Program.wp (execEmit context name)
      (fun _ w' => ∃ events, w' = { w with events := w.events ++ events } ∧ QuietEvents events)
      (fun _ _ => False) w := by
  cases name with
  | none => exact ⟨[], by simp, by simp [QuietEvents]⟩
  | some name =>
      refine ⟨[actionEvent context name], rfl, ?_⟩
      intro event member processInstanceId
      rw [List.mem_singleton.mp member]
      simp [DomainEvent.announces, actionEvent]

private theorem execEnqueue_queue (context : TriggerContext) (request : Option EnqueueAction)
    (w : World) :
    Program.wp (execEnqueue context request)
      (fun _ w' => ∃ jobs, w' = { w with queue := w.queue ++ jobs } ∧
        ∀ job ∈ jobs, ∃ delayMs name data, job = .action delayMs name data)
      (fun _ _ => False) w := by
  cases request with
  | none => exact ⟨[], by simp, by simp⟩
  | some request => exact ⟨[actionJob context request], rfl, by simp [actionJob]⟩

/-- The actions of a met trigger emit quiet events and enqueue jobs of their own. -/
theorem execActions_effect (context : TriggerContext) (actions : List TriggerAction) (w : World) :
    Program.wp (execActions actions context)
      (fun _ w' => ∃ events jobs,
        w' = { w with events := w.events ++ events, queue := w.queue ++ jobs } ∧
        QuietEvents events ∧ ∀ job ∈ jobs, ∃ delayMs name data, job = .action delayMs name data)
      (fun _ _ => False) w := by
  refine Program.wp_forEach (fun _ w' => ∃ events jobs,
    w' = { w with events := w.events ++ events, queue := w.queue ++ jobs } ∧
    QuietEvents events ∧ ∀ job ∈ jobs, ∃ delayMs name data, job = .action delayMs name data)
    actions w ⟨[], [], by simp, by simp [QuietEvents], by simp⟩ ?_
  rintro action _ _ ⟨events, jobs, rfl, quiet, own⟩
  unfold execAction
  rw [Program.wp_bind]
  refine Program.wp_mono (execEmit_log context action.emit _) ?_ (fun _ _ never => never)
  rintro _ _ ⟨events', rfl, quiet'⟩
  refine Program.wp_mono (execEnqueue_queue context action.enqueue _) ?_ (fun _ _ never => never)
  rintro _ _ ⟨jobs', rfl, own'⟩
  refine ⟨events ++ events', jobs ++ jobs', by simp [List.append_assoc], ?_, ?_⟩
  · intro event member
    exact (List.mem_append.mp member).elim (quiet event) (quiet' event)
  · intro job member
    exact (List.mem_append.mp member).elim (own job) (own' job)

/-- An evaluation returns its verdict and writes no table; one that raises writes
nothing. -/
theorem evaluate_effect (deployment : Deployment) (trigger : TriggerEnvelope)
    (context : TriggerContext) (w : World) :
    Program.wp (evaluate deployment trigger context)
      (fun met w' => verdict deployment trigger context = .ok met ∧ ∃ events jobs,
        w' = { w with events := w.events ++ events, queue := w.queue ++ jobs } ∧
        QuietEvents events ∧ TriggerJobs trigger context jobs)
      (fun message w' => verdict deployment trigger context = .error message ∧ w' = w) w := by
  have nothing : ∃ events jobs,
      w = { w with events := w.events ++ events, queue := w.queue ++ jobs } ∧
      QuietEvents events ∧ TriggerJobs trigger context jobs :=
    ⟨[], [], by simp, by simp [QuietEvents], .inl rfl⟩
  cases trigger with
  | jsonlogic logic actionsOnMet =>
      unfold evaluate
      rw [Program.wp_bind]
      cases holds : ruleHolds deployment logic (contextJson context) with
      | error message => exact ⟨holds, rfl⟩
      | ok met =>
          simp only [Program.wp_lift_ok, Program.wp_bind, Program.wp_when, Program.wp_pure]
          refine ⟨fun _ => ?_, fun _ => ⟨holds, nothing⟩⟩
          refine Program.wp_mono (execActions_effect context actionsOnMet w) ?_
            (fun _ _ never => never.elim)
          rintro _ _ ⟨events, jobs, rfl, quiet, own⟩
          exact ⟨holds, events, jobs, rfl, quiet, .inr (.inr own)⟩
  | time after actionsOnMet =>
      unfold evaluate
      simp only [Program.wp_bind, Program.wp_when, Program.wp_pure, enqueue, Program.wp_write]
      refine ⟨fun _ => ⟨rfl, ?_⟩, fun _ => ⟨rfl, nothing⟩⟩
      exact ⟨[], [.timeTrigger (isoDurationToMs after) (.time after actionsOnMet) context],
        by simp, by simp [QuietEvents], .inr (.inl ⟨_, rfl⟩)⟩
  | event eventName whereRule actionsOnMet => exact ⟨rfl, nothing⟩
  | unknown type => exact ⟨rfl, nothing⟩

end TriggerEngine

/-! ## Edits -/

open StepOrchestrator

/-- The step `target` is completed, and right before `step`. -/
def Succeeds (db : Database) (target : Nat) (step : StepInstance) : Prop :=
  ∃ pred ∈ db.steps.rows, pred.stepInstanceId = target ∧
    pred.processInstanceId = step.processInstanceId ∧ pred.status = .completed ∧
    pred.stepOrder + 1 = step.stepOrder

/-- Why a call that started in `origin` may unlock the step: it is eligible, and
either the step the call was made for, and only triggers were written since, or
right behind that step, which is completed now. -/
structure MayUnlock (deployment : Deployment) (origin : World) (target : Nat) (w : World)
    (step : StepInstance) : Prop where
  eligible : Eligible deployment w step
  reason : step.stepInstanceId = target ∧ OnlyTriggers origin w ∨ Succeeds w.db target step

/-- The columns of an object row that provisioning leaves, and the statuses it sets. -/
structure Provisions (set : StepObjectInstance → StepObjectInstance) : Prop where
  key : ∀ row, (set row).stepObjectInstanceId = row.stepObjectInstanceId
  step : ∀ row, (set row).stepInstanceId = row.stepInstanceId
  binding : ∀ row, (set row).bindingId = row.bindingId
  configObject : ∀ row, (set row).configObjectId = row.configObjectId
  status : ∀ row, (set row).status = .failed ∨ (set row).status = .active

/-- A world in which one pending object row of a ready step was provisioned. -/
def Provisioned (row : StepObjectInstance) (before after : World) : Prop :=
  ∃ set keeps customInstances events, Provisions set ∧ QuietEvents events ∧
    (customInstances = before.db.customInstances ∨
      ∃ instanceRow, customInstances = before.db.customInstances.insert instanceRow) ∧
    after = { before with
      db := { (before.db.setObjectInstance row.stepObjectInstanceId set keeps) with
        customInstances := customInstances }
      events := before.events ++ events }

/-- One write by which a call that started in `origin` unlocks steps of the
process instance `processInstanceId`. The step `target` is the one the call was
made for: it alone is unlocked without its predecessor. -/
inductive Edit (deployment : Deployment) (origin : World) (processInstanceId target : Nat) :
    World → World → Prop
  | hosted {before after : World} (host : Hosted before after)
      (silent : HostsKept before after) :
      Edit deployment origin processInstanceId target before after
  | evaluated {before : World} (trigger : StepTrigger) (step : StepInstance) (met : Bool)
      (events : List DomainEvent) (jobs : List Job)
      (member : trigger ∈ before.db.triggers.rows)
      (owner : step ∈ before.db.steps.rows)
      (ofStep : trigger.stepInstanceId = step.stepInstanceId)
      (ofProcess : step.processInstanceId = processInstanceId)
      (quiet : QuietEvents events)
      (own : ∃ context, TriggerJobs trigger.jsonSchema context jobs)
      (judged : ∃ context, TriggerEngine.verdict deployment trigger.jsonSchema context =
        .ok met) :
      Edit deployment origin processInstanceId target before
        { before with
          db := before.db.setTrigger trigger.triggerInstanceId (evaluatedTrigger met before.now)
            (evaluatedTrigger_key met before.now)
          events := before.events ++ events
          queue := before.queue ++ jobs }
  | provisioned {before after : World} (row : StepObjectInstance) (step : StepInstance)
      (member : row ∈ before.db.objectInstances.rows)
      (pending : row.status = .pending)
      (owner : step ∈ before.db.steps.rows)
      (ofStep : row.stepInstanceId = step.stepInstanceId)
      (ofProcess : step.processInstanceId = processInstanceId)
      (ready : step.status = .ready)
      (writes : Provisioned row before after) :
      Edit deployment origin processInstanceId target before after
  | readied {before after : World} (step : StepInstance) (set : StepInstance → StepInstance)
      (sets : SetsStatus .ready set)
      (member : step ∈ before.db.steps.rows)
      (ofProcess : step.processInstanceId = processInstanceId)
      (pending : step.status = .pending)
      (reason : MayUnlock deployment origin target before step)
      (host : Hosted
        { before with db := before.db.setStep step.stepInstanceId set sets.key } after)
      (report : Reported step.processInstanceId step.stepInstanceId .ready
        { before with db := before.db.setStep step.stepInstanceId set sets.key } after) :
      Edit deployment origin processInstanceId target before after
  | blocked {before : World} (step : StepInstance) (set : StepInstance → StepInstance)
      (sets : SetsStatus .blocked set)
      (member : step ∈ before.db.steps.rows)
      (ofProcess : step.processInstanceId = processInstanceId)
      (pending : step.status = .pending)
      (calls : step.taskType = .callProcess)
      (child : ChildProcessOrchestration.findChildProcessInstanceId before.db
        step.stepInstanceId ≠ none)
      (reason : MayUnlock deployment origin target before step)
      (enabled : ChildProcessOrchestration.isEnabled deployment = true) :
      Edit deployment origin processInstanceId target before
        { before with db := before.db.setStep step.stepInstanceId set sets.key }
  | spawned {before started : World} (step : StepInstance) (set : StepInstance → StepInstance)
      (sets : SetsStatus .blocked set) (parent : ProcessInstance) (params : StartProcessParams)
      (row : ProcessInstance)
      (member : step ∈ before.db.steps.rows)
      (ofProcess : step.processInstanceId = processInstanceId)
      (pending : step.status = .pending)
      (calls : step.taskType = .callProcess)
      (childless : ChildProcessOrchestration.findChildProcessInstanceId before.db
        step.stepInstanceId = none)
      (resolved : ∃ opts, ChildProcessOrchestration.resolveChildStart before.db step opts =
        .ok (parent, params))
      (start : Started params row before started)
      (reason : MayUnlock deployment origin target before step)
      (silent : HostsKept before started)
      (enabled : ChildProcessOrchestration.isEnabled deployment = true) :
      Edit deployment origin processInstanceId target before
        { started with db := started.db.setStep step.stepInstanceId set sets.key }

/-- A sequence of edits. -/
def Edits (deployment : Deployment) (origin : World) (processInstanceId target : Nat) :
    World → World → Prop :=
  Relation.ReflTransGen (Edit deployment origin processInstanceId target)

/-- An edit announces no completion. -/
theorem Edit.log {deployment : Deployment} {origin : World} {processInstanceId target : Nat}
    {before after : World} (edit : Edit deployment origin processInstanceId target before after) :
    QuietLog before after := by
  cases edit with
  | hosted host => exact host.log
  | evaluated _ _ _ events _ _ _ _ _ quiet _ _ =>
      exact ⟨⟨events, rfl, quiet⟩, ⟨[], by simp⟩⟩
  | provisioned _ _ _ _ _ _ _ _ writes =>
      obtain ⟨_, _, _, events, _, quiet, _, rfl⟩ := writes
      exact ⟨⟨events, rfl, quiet⟩, ⟨[], by simp⟩⟩
  | readied _ _ _ _ _ _ _ host =>
      exact ⟨host.log.events, host.log.hostCalls⟩
  | blocked => exact .of_eq rfl rfl
  | spawned _ _ _ _ _ _ _ _ _ _ _ _ start => exact start.log.trans (.of_eq rfl rfl)

theorem Edits.log {deployment : Deployment} {origin : World} {processInstanceId target : Nat}
    {before after : World}
    (edits : Edits deployment origin processInstanceId target before after) :
    QuietLog before after := by
  induction edits with
  | refl => exact .refl before
  | tail _ edit ih => exact ih.trans edit.log

namespace ChildProcessOrchestration

/-- What the parameters of a spawned child take from its parent and the step. -/
structure ChildOf (db : Database) (step : StepInstance) (parent : ProcessInstance)
    (params : StartProcessParams) : Prop where
  isParent : db.instance? step.processInstanceId = some parent
  tenant : params.tenantId = parent.tenantId
  parentInstance : params.parentInstanceId = some step.processInstanceId
  parentStep : params.parentStepId = some step.stepInstanceId
  policy : params.onChildFailure = some parent.onChildFailure
  skipHost : params.skipHostOnStart = true

theorem childOf_of_resolveChildStart {db : Database} {step : StepInstance}
    {opts : AdvanceOptions} {parent : ProcessInstance} {params : StartProcessParams}
    (resolved : resolveChildStart db step opts = .ok (parent, params)) :
    ChildOf db step parent params := by
  unfold resolveChildStart at resolved
  split at resolved
  · cases resolved
  · rename_i found isFound
    split at resolved
    · cases resolved
    · split at resolved
      · cases resolved
      · split at resolved
        · cases resolved
        · split at resolved
          · cases resolved
          · cases resolved
            have same : parent.processInstanceId = step.processInstanceId :=
              Table.key_of_find? isFound
            exact ⟨isFound, rfl, by rw [← same]; rfl, rfl, rfl, rfl⟩

end ChildProcessOrchestration

/-! ## Host calls -/

section Hosts

/-- An event about a step announces no completed process. -/
theorem stepEvent_quiet (eventName : String) (step : StepInstance) (cause : String)
    (opts : AdvanceOptions) (processInstanceId : Nat) :
    (stepEvent eventName step cause opts).announces processInstanceId = false := by
  simp [DomainEvent.announces, stepEvent]

private theorem syncTaskColumn_hosted (stepInstanceId : Nat) (state : StepStatus)
    (actor : Option Nat) (w : World) :
    Program.wp (ProjectHost.syncTaskColumn stepInstanceId state actor)
      (fun _ w' => Hosted w w') (fun _ _ => False) w := by
  unfold ProjectHost.syncTaskColumn
  rw [Program.wp_bind, Program.wp_read]
  split
  · exact .refl w
  · rw [Program.wp_ite]
    refine ⟨fun _ => .refl w, fun _ => ?_⟩
    rw [Program.wp_bind, Program.wp_read]
    split
    · exact .refl w
    · rw [Program.wp_ite]
      refine ⟨fun _ => .refl w, fun _ => ?_⟩
      exact ⟨⟨_, _, _, _, rfl⟩, .of_event rfl rfl (fun _ => rfl), rfl, rfl⟩

theorem onStepStateChanged_hosted (adapter : ProcessHostAdapter) (ctx : ProcessHostContext)
    (stepInstanceId : Nat) (state : StepStatus) (w : World) :
    Program.wp (adapter.onStepStateChanged ctx stepInstanceId state)
      (fun _ w' => Hosted w w') (fun _ _ => False) w := by
  have called : Hosted w { w with
      hostCalls := w.hostCalls ++
        [.stepStateChanged ctx.processInstanceId stepInstanceId state] } :=
    ⟨.refl _, .of_call rfl rfl (fun _ => rfl), rfl, rfl⟩
  unfold ProcessHostAdapter.onStepStateChanged callHost
  rw [Program.wp_bind, Program.wp_write]
  cases adapter with
  | project =>
      exact Program.wp_mono (syncTaskColumn_hosted _ _ _ _) (fun _ _ host => called.trans host)
        (fun _ _ never => never)
  | scheduledTask => exact called.trans (.of_tables ⟨_, _, _, _, rfl⟩)
  | configurableInstance => exact called
  | genericWorkflow => exact called

/-- The registry raises for a subject type without a host. -/
theorem has_eq_false_of_get {subjectType : SubjectType} {message : String}
    (missing : ProcessHostRegistry.get subjectType = .error message) :
    ProcessHostRegistry.has subjectType = false := by
  unfold ProcessHostRegistry.get at missing
  unfold ProcessHostRegistry.has
  split at missing
  · cases missing
  · rename_i absent
    rw [absent]
    rfl

theorem lookup_of_get {subjectType : SubjectType} {adapter : ProcessHostAdapter}
    (found : ProcessHostRegistry.get subjectType = .ok adapter) :
    ProcessHostRegistry.lookup subjectType = some adapter := by
  unfold ProcessHostRegistry.get at found
  split at found
  · cases found
    assumption
  · cases found

/-- `dispatchStepStateChanged` raises where the process has no host, before it does
anything. -/
theorem dispatchStepStateChanged_hosted (step : StepInstance) (state : StepStatus)
    (opts : AdvanceOptions) (w : World) :
    Program.wp (dispatchStepStateChanged step state opts)
      (fun _ w' => Hosted w w' ∧ Reported step.processInstanceId step.stepInstanceId state w w')
      (fun _ w' => w' = w ∧ HostMissing w.db step.processInstanceId) w := by
  unfold dispatchStepStateChanged Reported
  rw [Program.wp_bind, Program.wp_read]
  cases found : w.db.instance? step.processInstanceId with
  | none => exact ⟨.refl w, rfl⟩
  | some proc =>
      dsimp only
      rw [Program.wp_bind]
      cases host : ProcessHostRegistry.get proc.subjectType with
      | error message => exact ⟨rfl, proc, found, has_eq_false_of_get host⟩
      | ok adapter =>
          rw [Program.wp_lift_ok]
          refine Program.wp_mono (Program.wp_and (onStepStateChanged_hosted adapter _ _ _ w)
            (Program.wp_run _)) ?_ (fun _ _ never => never.1.elim)
          rintro _ w' ⟨hosted, run⟩
          exact ⟨hosted, adapter, opts, lookup_of_get host, by rw [run]⟩

end Hosts

end CoreApi.Automation
