import CoreApi.Automation.ProcessInstantiation

/-!
# What starting a process adds

`Started` lists the rows a successful `startProcess` appends, and what it leaves
alone: the rows that were there, the queue, and every announcement of a
completed process.
-/

namespace CoreApi.Automation

open CoreApi.Foundation

/-! ## Updated rows -/

/-- The rows of the steps table after an update of one step. -/
theorem mem_setStep {db : Database} {stepInstanceId : Nat} {set : StepInstance → StepInstance}
    (keeps : ∀ row, (set row).stepInstanceId = row.stepInstanceId) {row : StepInstance} :
    row ∈ (db.setStep stepInstanceId set keeps).steps.rows ↔
      (∃ old ∈ db.steps.rows, old.stepInstanceId = stepInstanceId ∧ row = set old) ∨
        (row ∈ db.steps.rows ∧ row.stepInstanceId ≠ stepInstanceId) :=
  @Table.mem_updateAt _ _ _ _ _ set keeps

/-- The rows of the instances table after an update of one instance. -/
theorem mem_setInstance {db : Database} {processInstanceId : Nat}
    {set : ProcessInstance → ProcessInstance}
    (keeps : ∀ row, (set row).processInstanceId = row.processInstanceId) {row : ProcessInstance} :
    row ∈ (db.setInstance processInstanceId set keeps).processInstances.rows ↔
      (∃ old ∈ db.processInstances.rows, old.processInstanceId = processInstanceId ∧
        row = set old) ∨
        (row ∈ db.processInstances.rows ∧ row.processInstanceId ≠ processInstanceId) :=
  @Table.mem_updateAt _ _ _ _ _ set keeps

/-- The rows of the object table after an update of one row. -/
theorem mem_setObjectInstance {db : Database} {stepObjectInstanceId : Nat}
    {set : StepObjectInstance → StepObjectInstance}
    (keeps : ∀ row, (set row).stepObjectInstanceId = row.stepObjectInstanceId)
    {row : StepObjectInstance} :
    row ∈ (db.setObjectInstance stepObjectInstanceId set keeps).objectInstances.rows ↔
      (∃ old ∈ db.objectInstances.rows, old.stepObjectInstanceId = stepObjectInstanceId ∧
        row = set old) ∨
        (row ∈ db.objectInstances.rows ∧ row.stepObjectInstanceId ≠ stepObjectInstanceId) :=
  @Table.mem_updateAt _ _ _ _ _ set keeps

/-- The rows of the triggers table after an update of one trigger. -/
theorem mem_setTrigger {db : Database} {triggerInstanceId : Nat}
    {set : StepTrigger → StepTrigger}
    (keeps : ∀ row, (set row).triggerInstanceId = row.triggerInstanceId) {row : StepTrigger} :
    row ∈ (db.setTrigger triggerInstanceId set keeps).triggers.rows ↔
      (∃ old ∈ db.triggers.rows, old.triggerInstanceId = triggerInstanceId ∧ row = set old) ∨
        (row ∈ db.triggers.rows ∧ row.triggerInstanceId ≠ triggerInstanceId) :=
  @Table.mem_updateAt _ _ _ _ _ set keeps

/-! ## Announcements -/

/-- The event announces that the process instance completed. -/
def DomainEvent.announces (event : DomainEvent) (processInstanceId : Nat) : Bool :=
  event.eventName == "six1-event.process_completed" &&
    event.entity == some ⟨"ProcessInstance", processInstanceId⟩

/-- The host call announces that the process instance completed. -/
def HostCall.announces (call : HostCall) (processInstanceId : Nat) : Bool :=
  call == .processCompleted processInstanceId

/-- `after` has more events and host calls than `before`, none an announcement. -/
structure QuietLog (before after : World) : Prop where
  events : ∃ events, after.events = before.events ++ events ∧
    ∀ event ∈ events, ∀ processInstanceId, event.announces processInstanceId = false
  hostCalls : ∃ calls, after.hostCalls = before.hostCalls ++ calls ∧
    ∀ call ∈ calls, ∀ processInstanceId, call.announces processInstanceId = false

theorem QuietLog.refl (w : World) : QuietLog w w :=
  ⟨⟨[], by simp⟩, ⟨[], by simp⟩⟩

theorem QuietLog.trans {a b c : World} (first : QuietLog a b) (second : QuietLog b c) :
    QuietLog a c := by
  obtain ⟨⟨es, eventsEq, quietEvents⟩, ⟨hs, callsEq, quietCalls⟩⟩ := first
  obtain ⟨⟨es', eventsEq', quietEvents'⟩, ⟨hs', callsEq', quietCalls'⟩⟩ := second
  refine ⟨⟨es ++ es', ?_, ?_⟩, ⟨hs ++ hs', ?_, ?_⟩⟩
  · rw [eventsEq', eventsEq, List.append_assoc]
  · intro event member
    rcases List.mem_append.mp member with member | member
    · exact quietEvents event member
    · exact quietEvents' event member
  · rw [callsEq', callsEq, List.append_assoc]
  · intro call member
    rcases List.mem_append.mp member with member | member
    · exact quietCalls call member
    · exact quietCalls' call member

/-- Logs that did not change are quiet. -/
theorem QuietLog.of_eq {before after : World} (events : after.events = before.events)
    (hostCalls : after.hostCalls = before.hostCalls) : QuietLog before after :=
  ⟨⟨[], by simp [events]⟩, ⟨[], by simp [hostCalls]⟩⟩

/-- One event that announces nothing. -/
theorem QuietLog.of_event {before after : World} {event : DomainEvent}
    (events : after.events = before.events ++ [event])
    (hostCalls : after.hostCalls = before.hostCalls)
    (quiet : ∀ processInstanceId, event.announces processInstanceId = false) :
    QuietLog before after :=
  ⟨⟨[event], events, by simpa using quiet⟩, ⟨[], by simp [hostCalls]⟩⟩

theorem QuietLog.of_call {before after : World} {call : HostCall}
    (events : after.events = before.events)
    (hostCalls : after.hostCalls = before.hostCalls ++ [call])
    (quiet : ∀ processInstanceId, call.announces processInstanceId = false) :
    QuietLog before after :=
  ⟨⟨[], by simp [events]⟩, ⟨[call], hostCalls, by simpa using quiet⟩⟩

/-! ## Hosts that start -/

/-- A database that differs in the tables of the hosts only. -/
def HostTables (before after : Database) : Prop :=
  ∃ projects tasks statusMappings scheduledTasks,
    after = { before with
      projects := projects, tasks := tasks, statusMappings := statusMappings,
      scheduledTasks := scheduledTasks }

theorem HostTables.refl (db : Database) : HostTables db db := ⟨_, _, _, _, rfl⟩

theorem HostTables.trans {a b c : Database} (first : HostTables a b) (second : HostTables b c) :
    HostTables a c := by
  obtain ⟨_, _, _, _, rfl⟩ := first
  obtain ⟨_, _, _, _, rfl⟩ := second
  exact ⟨_, _, _, _, rfl⟩

/-- A host call: it writes the host's own tables and announces no completion. -/
structure Hosted (before after : World) : Prop where
  tables : HostTables before.db after.db
  log : QuietLog before after
  queue : after.queue = before.queue
  now : after.now = before.now

theorem Hosted.refl (w : World) : Hosted w w := ⟨.refl _, .refl _, rfl, rfl⟩

theorem Hosted.trans {a b c : World} (first : Hosted a b) (second : Hosted b c) : Hosted a c :=
  ⟨first.tables.trans second.tables, first.log.trans second.log,
    second.queue.trans first.queue, second.now.trans first.now⟩

/-- A write to the host tables alone. -/
theorem Hosted.of_tables {w : World} {db : Database} (tables : HostTables w.db db) :
    Hosted w { w with db := db } := ⟨tables, .of_eq rfl rfl, rfl, rfl⟩

/-- An event that announces nothing. -/
theorem Hosted.of_event {w : World} {event : DomainEvent}
    (quiet : ∀ processInstanceId, event.announces processInstanceId = false) :
    Hosted w { w with events := w.events ++ [event] } :=
  ⟨.refl _, .of_event rfl rfl quiet, rfl, rfl⟩

private theorem insertMapping_hosted (hostData : ProjectHostStartData)
    (entry : StepStatus × String) (w : World) :
    Program.wp (ProjectHost.insertMapping hostData entry) (fun _ w' => Hosted w w')
      (fun _ w' => Hosted w w') w := by
  unfold ProjectHost.insertMapping
  cases ProjectHost.statusId hostData.statusIdByName entry.2 with
  | none => exact .refl w
  | some taskStatusId => exact .of_tables ⟨_, _, _, _, rfl⟩

/-- A loop of host calls is a host call. -/
theorem forEach_hosted {β : Type} {body : β → Tx Unit}
    (each : ∀ x w, Program.wp (body x) (fun _ w' => Hosted w w') (fun _ w' => Hosted w w') w)
    (xs : List β) (w : World) :
    Program.wp (Program.forEach body xs) (fun _ w' => Hosted w w') (fun _ w' => Hosted w w') w := by
  refine Program.wp_forEach (fun _ w' => Hosted w w') xs w (.refl w) ?_
  intro x _ t start
  exact Program.wp_mono (each x t) (fun _ _ next => start.trans next)
    (fun _ _ next => start.trans next)

/-- Starting a project host writes its mappings. -/
theorem projectStarted_hosted (ctx : ProcessHostContext) (w : World) :
    Program.wp (ProjectHost.onProcessStarted ctx) (fun _ w' => Hosted w w')
      (fun _ w' => Hosted w w') w := by
  unfold ProjectHost.onProcessStarted
  cases ctx.hostData with
  | none => exact .refl w
  | some hostData =>
      simp only
      rw [Program.wp_ite]
      refine ⟨fun _ => .refl w, fun _ => ?_⟩
      rw [Program.wp_bind]
      refine Program.wp_mono (forEach_hosted (insertMapping_hosted hostData) _ w) ?_
        (fun _ _ raised => raised)
      intro _ w' mapped
      rw [Program.wp_bind, Program.wp_read]
      rw [Program.wp_when]
      refine ⟨fun steps => ?_, fun _ => mapped⟩
      exact Program.wp_mono (ProjectHost.insertTasks_refused steps w') (fun _ _ => False.elim)
        (fun _ _ same => same ▸ mapped)

/-! ## New rows -/

namespace ProcessInstantiation

/-- The steps a template adds for a new process instance. -/
def addedSteps (w : World) (templateId processInstanceId : Nat) : List StepInstance :=
  Table.stamp w.db.steps.autoIncrement
    ((templateStepsOf w.db templateId).map (newStep w.now processInstanceId))

theorem mem_addedSteps {w : World} {templateId processInstanceId : Nat} {step : StepInstance}
    (member : step ∈ addedSteps w templateId processInstanceId) :
    ∃ template ∈ w.db.templateSteps.rows, template.processTemplateId = templateId ∧
      step = { newStep w.now processInstanceId template with
        stepInstanceId := step.stepInstanceId } := by
  obtain ⟨old, oldMember, m, _, _, rfl⟩ := Table.mem_stamp member
  obtain ⟨template, templateMember, rfl⟩ := List.mem_map.mp oldMember
  rw [templateStepsOf, mem_orderBy, Table.mem_select] at templateMember
  exact ⟨template, templateMember.1, by simpa using templateMember.2, rfl⟩

/-- A new step belongs to the new instance and is ready or pending. -/
theorem addedSteps_process {w : World} {templateId processInstanceId : Nat}
    {step : StepInstance} (member : step ∈ addedSteps w templateId processInstanceId) :
    step.processInstanceId = processInstanceId := by
  obtain ⟨_, _, _, eq⟩ := mem_addedSteps member
  rw [eq]
  rfl

theorem addedSteps_status {w : World} {templateId processInstanceId : Nat}
    {step : StepInstance} (member : step ∈ addedSteps w templateId processInstanceId) :
    step.status = .ready ∧ step.stepOrder = 1 ∨ step.status = .pending ∧ step.stepOrder ≠ 1 := by
  obtain ⟨template, _, _, eq⟩ := mem_addedSteps member
  have status : step.status = if step.stepOrder = 1 then .ready else .pending := by rw [eq]; rfl
  rw [status]
  by_cases first : step.stepOrder = 1
  · exact .inl ⟨by rw [if_pos first], first⟩
  · exact .inr ⟨by rw [if_neg first], first⟩

/-- A new step takes a key no step had. -/
theorem addedSteps_key {w : World} {templateId processInstanceId : Nat} {step : StepInstance}
    (member : step ∈ addedSteps w templateId processInstanceId) :
    w.db.steps.autoIncrement ≤ step.stepInstanceId := by
  obtain ⟨_, _, m, lower, _, rfl⟩ := Table.mem_stamp member
  exact lower

theorem addedSteps_orders (w : World) (templateId processInstanceId : Nat) :
    (addedSteps w templateId processInstanceId).map StepInstance.stepOrder =
      (templateStepsOf w.db templateId).map TemplateStep.stepOrder := by
  unfold addedSteps
  rw [Table.map_stamp (fun _ _ => rfl), List.map_map]
  rfl

/-- The identifier a template step is mapped to is that of a new step. -/
theorem mem_of_stepInstanceIdFor {steps : List StepInstance} {templateStepId stepInstanceId : Nat}
    (found : stepInstanceIdFor steps templateStepId = some stepInstanceId) :
    ∃ step ∈ steps, step.stepInstanceId = stepInstanceId ∧
      step.processTemplateStepId = templateStepId := by
  obtain ⟨step, isFound, rfl⟩ := Option.map_eq_some_iff.mp found
  exact ⟨step, List.mem_of_find?_eq_some isFound, rfl,
    by simpa using List.find?_some isFound⟩

theorem mem_newTriggers {db : Database} {steps : List StepInstance} {trigger : StepTrigger}
    (member : trigger ∈ newTriggers db steps) :
    trigger.status = .unmet ∧ ∃ step ∈ steps, step.stepInstanceId = trigger.stepInstanceId := by
  obtain ⟨template, _, eq⟩ := List.mem_filterMap.mp member
  obtain ⟨stepInstanceId, found, rfl⟩ := Option.map_eq_some_iff.mp eq
  obtain ⟨step, stepMember, same, _⟩ := mem_of_stepInstanceIdFor found
  exact ⟨rfl, step, stepMember, same⟩

theorem mem_newObjectInstances {db : Database} {steps : List StepInstance}
    {row : StepObjectInstance} (member : row ∈ newObjectInstances db steps) :
    row.status = .pending ∧ row.configCustomObjectInstanceId = none ∧
      ∃ step ∈ steps, step.stepInstanceId = row.stepInstanceId := by
  obtain ⟨binding, _, eq⟩ := List.mem_filterMap.mp member
  obtain ⟨stepInstanceId, found, rfl⟩ := Option.map_eq_some_iff.mp eq
  obtain ⟨step, stepMember, same, _⟩ := mem_of_stepInstanceIdFor found
  exact ⟨rfl, rfl, step, stepMember, same⟩

theorem mem_newRequirements {db : Database} {steps : List StepInstance}
    {requirement : StepRequirement} (member : requirement ∈ newRequirements db steps) :
    ∃ step ∈ steps, step.stepInstanceId = requirement.stepInstanceId := by
  obtain ⟨template, _, eq⟩ := List.mem_filterMap.mp member
  obtain ⟨stepInstanceId, found, rfl⟩ := Option.map_eq_some_iff.mp eq
  obtain ⟨step, stepMember, same, _⟩ := mem_of_stepInstanceIdFor found
  exact ⟨step, stepMember, same⟩

end ProcessInstantiation

/-- What the engine relies on in the row of a process started with `params`. -/
structure NewRow (params : StartProcessParams) (w : World) (row : ProcessInstance) : Prop where
  key : row.processInstanceId = w.db.processInstances.autoIncrement
  active : row.status = .active
  tenant : row.tenantId = params.tenantId
  template : row.processTemplateId = params.templateId
  parentInstance : row.parentInstanceId = params.parentInstanceId
  parentStep : row.parentStepId = params.parentStepId
  policy : row.onChildFailure = params.onChildFailure.getD .pauseParent
  context : row.context = params.context
  hosted : ProcessHostRegistry.has row.subjectType = true

/-- A successful `startProcess`: the rows it appends under the tables it leaves. -/
structure Started (params : StartProcessParams) (row : ProcessInstance) (before after : World) :
    Prop where
  fresh : NewRow params before row
  instances : after.db.processInstances.rows = before.db.processInstances.rows ++ [row]
  steps : after.db.steps.rows = before.db.steps.rows ++
    ProcessInstantiation.addedSteps before params.templateId row.processInstanceId
  requirements : after.db.requirements.rows = before.db.requirements.rows ++
    Table.stamp before.db.requirements.autoIncrement (ProcessInstantiation.newRequirements before.db
      (ProcessInstantiation.addedSteps before params.templateId row.processInstanceId))
  triggers : after.db.triggers.rows = before.db.triggers.rows ++
    Table.stamp before.db.triggers.autoIncrement (ProcessInstantiation.newTriggers before.db
      (ProcessInstantiation.addedSteps before params.templateId row.processInstanceId))
  objectInstances : after.db.objectInstances.rows = before.db.objectInstances.rows ++
    Table.stamp before.db.objectInstances.autoIncrement
      (ProcessInstantiation.newObjectInstances before.db
        (ProcessInstantiation.addedSteps before params.templateId row.processInstanceId))
  rest : ∃ instances steps requirements triggers objectInstances,
    HostTables { before.db with
      processInstances := instances, steps := steps, requirements := requirements,
      triggers := triggers, objectInstances := objectInstances } after.db
  log : QuietLog before after
  queue : after.queue = before.queue
  now : after.now = before.now

namespace Started

variable {params : StartProcessParams} {row : ProcessInstance} {before after : World}

theorem step_kept (started : Started params row before after) {step : StepInstance}
    (member : step ∈ before.db.steps.rows) : step ∈ after.db.steps.rows := by
  rw [started.steps]
  exact List.mem_append_left _ member

theorem instance_kept (started : Started params row before after) {other : ProcessInstance}
    (member : other ∈ before.db.processInstances.rows) :
    other ∈ after.db.processInstances.rows := by
  rw [started.instances]
  exact List.mem_append_left _ member

/-- The steps of a process other than the new one. -/
theorem stepsOf_other (started : Started params row before after) {processInstanceId : Nat}
    (other : processInstanceId ≠ row.processInstanceId) :
    after.db.stepsOf processInstanceId = before.db.stepsOf processInstanceId := by
  unfold Database.stepsOf Table.select
  rw [started.steps, List.filter_append, List.append_right_eq_self, List.filter_eq_nil_iff]
  intro step member
  rw [ProcessInstantiation.addedSteps_process member, beq_iff_eq]
  exact Ne.symm other

theorem key_ne (started : Started params row before after) {other : ProcessInstance}
    (member : other ∈ before.db.processInstances.rows) :
    other.processInstanceId ≠ row.processInstanceId := by
  rw [started.fresh.key]
  exact Nat.ne_of_lt (before.db.processInstances.bounded other member).2

theorem stepsOf_new (started : Started params row before after)
    (owned : ∀ step ∈ before.db.steps.rows, ∃ other ∈ before.db.processInstances.rows,
      other.processInstanceId = step.processInstanceId) :
    after.db.stepsOf row.processInstanceId =
      ProcessInstantiation.addedSteps before params.templateId row.processInstanceId := by
  unfold Database.stepsOf Table.select
  have none : before.db.steps.rows.filter
      (fun step => step.processInstanceId == row.processInstanceId) = [] := by
    rw [List.filter_eq_nil_iff]
    intro step member
    obtain ⟨other, otherMember, ofProcess⟩ := owned step member
    rw [← ofProcess, beq_iff_eq]
    exact started.key_ne otherMember
  rw [started.steps, List.filter_append, none, List.nil_append, List.filter_eq_self]
  intro step member
  simp [ProcessInstantiation.addedSteps_process member]

/-- Rewriting columns of the new row that `NewRow` does not mention. -/
theorem touch (started : Started params row before after)
    (set : ProcessInstance → ProcessInstance)
    (keeps : ∀ row, (set row).processInstanceId = row.processInstanceId)
    (fresh : NewRow params before (set row)) :
    Started params (set row) before
      { after with db := after.db.setInstance row.processInstanceId set keeps } := by
  obtain ⟨_, instances, steps, requirements, triggers, objectInstances, rest, log, queue, now⟩ :=
    started
  refine ⟨fresh, Table.rows_updateAt_last set keeps instances, ?_, ?_, ?_, ?_, ?_,
    log.trans (.of_eq rfl rfl), queue, now⟩
  · rw [keeps]; exact steps
  · rw [keeps]; exact requirements
  · rw [keeps]; exact triggers
  · rw [keeps]; exact objectInstances
  · obtain ⟨_, _, _, _, _, _, _, _, _, eq⟩ := rest
    exact ⟨_, _, _, _, _, _, _, _, _, by rw [Database.setInstance, eq]⟩

/-- A host call after the start. -/
theorem hosted (started : Started params row before after) {later : World}
    (host : Hosted after later) : Started params row before later := by
  obtain ⟨fresh, instances, steps, requirements, triggers, objectInstances, rest, log, queue, now⟩ :=
    started
  obtain ⟨⟨projects, tasks, statusMappings, scheduledTasks, eq⟩, hostLog, hostQueue, hostNow⟩ :=
    host
  refine ⟨fresh, ?_, ?_, ?_, ?_, ?_, ?_, log.trans hostLog, hostQueue.trans queue,
    hostNow.trans now⟩
  · rw [eq]; exact instances
  · rw [eq]; exact steps
  · rw [eq]; exact requirements
  · rw [eq]; exact triggers
  · rw [eq]; exact objectInstances
  · obtain ⟨i, s, r, t, o, rest⟩ := rest
    exact ⟨i, s, r, t, o, rest.trans ⟨projects, tasks, statusMappings, scheduledTasks, eq⟩⟩

end Started

namespace ProcessInstantiation

/-- The world after the steps and their rows were inserted. -/
private def withSteps (w : World) (templateId processInstanceId : Nat) : World :=
  let steps := w.db.steps.insertAll
    ((templateStepsOf w.db templateId).map (newStep w.now processInstanceId))
  { w with
    db := insertStepRows { w.db with steps := steps } (addedSteps w templateId processInstanceId) }

private theorem withSteps_started {params : StartProcessParams} {row : ProcessInstance}
    {w : World} {instances : Table ProcessInstance} (fresh : NewRow params w row)
    (rows : instances.rows = w.db.processInstances.rows ++ [row]) :
    Started params row w
      (withSteps { w with db := { w.db with processInstances := instances } } params.templateId
        row.processInstanceId) where
  fresh := fresh
  instances := rows
  steps := Table.rows_insertAll _
  requirements := Table.rows_insertAll _
  triggers := Table.rows_insertAll _
  objectInstances := Table.rows_insertAll _
  rest := ⟨_, _, _, _, _, .refl _⟩
  log := .of_eq rfl rfl
  queue := rfl
  now := rfl

/-- The row `insertProcessInstance` stores satisfies what the engine relies on. -/
private theorem newRow_inserted (params : StartProcessParams) (subjectType : SubjectType)
    (hosted : ProcessHostRegistry.has subjectType = true) (w : World) :
    NewRow params w (Keyed.withKey w.db.processInstances.autoIncrement
      (newProcessInstance params.templateId params.tenantId params.createdBy
        (ProcessLifecycle.instantiationOptions params subjectType) w.now)) :=
  ⟨rfl, rfl, rfl, rfl, rfl, rfl, rfl, rfl, hosted⟩

/-- Instantiation appends the rows of the template's steps. -/
theorem instantiateProcessIn_started (params : StartProcessParams) (subjectType : SubjectType)
    (hosted : ProcessHostRegistry.has subjectType = true) (w : World) :
    Program.wp (instantiateProcessIn params.templateId params.tenantId params.createdBy
        (ProcessLifecycle.instantiationOptions params subjectType))
      (fun processInstanceId w' => ∃ row, Started params row w w' ∧
        processInstanceId = row.processInstanceId)
      (fun _ _ => False) w := by
  have fresh := newRow_inserted params subjectType hosted w
  have rows := @Table.rows_insert _ _ w.db.processInstances
    (newProcessInstance params.templateId params.tenantId params.createdBy
      (ProcessLifecycle.instantiationOptions params subjectType) w.now)
  unfold instantiateProcessIn
  simp only [now, insertProcessInstance, writeDb, Program.wp_bind, Program.wp_read,
    Program.wp_writeReturning, Program.wp_write, Program.wp_when, Program.wp_pure]
  constructor
  · intro _
    have self := Table.rows_updateAt_last
      (fun row => { row with subjectId := w.db.processInstances.autoIncrement }) (fun _ => rfl) rows
    refine ⟨_, withSteps_started ?_ self, rfl⟩
    exact ⟨rfl, rfl, rfl, rfl, rfl, rfl, rfl, rfl, fresh.hosted⟩
  · intro _
    exact ⟨_, withSteps_started fresh rows, rfl⟩

end ProcessInstantiation

namespace ProcessLifecycle

open ProcessInstantiation

theorem onProcessStarted_started (adapter : ProcessHostAdapter) (ctx : ProcessHostContext)
    {params : StartProcessParams} {row : ProcessInstance} {before w : World}
    (started : Started params row before w) (same : ctx.processInstanceId = row.processInstanceId) :
    Program.wp (adapter.onProcessStarted ctx)
      (fun _ w' => ∃ row', Started params row' before w' ∧
        row'.processInstanceId = row.processInstanceId)
      (fun _ w' => QuietLog before w' ∧ w'.queue = before.queue) w := by
  unfold ProcessHostAdapter.onProcessStarted callHost
  rw [Program.wp_bind, Program.wp_write]
  have called : Started params row before
      { w with hostCalls := w.hostCalls ++ [.processStarted ctx.processInstanceId] } :=
    started.hosted ⟨.refl _, .of_call rfl rfl (fun _ => rfl), rfl, rfl⟩
  cases adapter with
  | project =>
      refine Program.wp_mono (projectStarted_hosted ctx _) ?_ ?_
      · intro _ _ host
        exact ⟨row, called.hosted host, rfl⟩
      · intro _ _ host
        exact ⟨called.log.trans host.log, host.queue.trans called.queue⟩
  | scheduledTask =>
      exact ⟨row, called.hosted (.of_tables ⟨_, _, _, _, rfl⟩), rfl⟩
  | configurableInstance => exact ⟨row, called, rfl⟩
  | genericWorkflow =>
      simp only [Program.wp_ite, Program.wp_pure, writeDb, Program.wp_write]
      refine ⟨fun _ => ⟨row, called, rfl⟩, fun _ => ?_⟩
      rw [same] at called ⊢
      obtain ⟨key, active, tenant, template, parentInstance, parentStep, policy, context, hosted⟩ :=
        called.fresh
      refine ⟨_, called.touch (fun old => { old with subjectId := row.processInstanceId })
        (fun _ => rfl)
        ⟨key, active, tenant, template, parentInstance, parentStep, policy, context, hosted⟩, ?_⟩
      rfl

private theorem startProcessInTransaction_started (deployment : Deployment)
    (params : StartProcessParams) (subjectType : SubjectType) (adapter : ProcessHostAdapter)
    (hosted : ProcessHostRegistry.has subjectType = true) (w : World) :
    Program.wp (startProcessInTransaction deployment params subjectType adapter)
      (fun result w' => ∃ row, Started params row w w' ∧
        result.processInstanceId = row.processInstanceId)
      (fun _ w' => (QuietLog w w' ∧ w'.queue = w.queue) ∧ params.skipHostOnStart = false) w := by
  unfold startProcessInTransaction
  rw [Program.wp_bind]
  refine Program.wp_mono (instantiateProcessIn_started params subjectType hosted w) ?_
    (fun _ _ never => never.elim)
  rintro _ w₁ ⟨row, started, rfl⟩
  rw [Program.wp_bind]
  have correlated : Program.wp (Program.when (params.correlationId.getD "" ≠ "") <|
        writeDb fun db => db.setInstance row.processInstanceId
          (fun row => { row with correlationId := params.correlationId }) (fun _ => rfl))
      (fun _ w' => ∃ row', Started params row' w w' ∧
        row'.processInstanceId = row.processInstanceId)
      (fun _ _ => False) w₁ := by
    rw [Program.wp_when]
    obtain ⟨key, active, tenant, template, parentInstance, parentStep, policy, context, host⟩ :=
      started.fresh
    refine ⟨fun _ => ⟨_, started.touch
      (fun row => { row with correlationId := params.correlationId }) (fun _ => rfl)
      ⟨key, active, tenant, template, parentInstance, parentStep, policy, context, host⟩, ?_⟩,
      fun _ => ⟨row, started, rfl⟩⟩
    rfl
  refine Program.wp_mono correlated ?_ (fun _ _ never => never.elim)
  rintro _ w₂ ⟨row₂, started₂, same₂⟩
  rw [Program.wp_bind]
  have told : Program.wp (Program.when (params.skipHostOnStart = false) <|
        adapter.onProcessStarted (hostContext params subjectType row.processInstanceId))
      (fun _ w' => ∃ row', Started params row' w w' ∧
        row'.processInstanceId = row.processInstanceId)
      (fun _ w' => (QuietLog w w' ∧ w'.queue = w.queue) ∧ params.skipHostOnStart = false) w₂ := by
    rw [Program.wp_when]
    refine ⟨fun tells => ?_, fun _ => ⟨row₂, started₂, same₂⟩⟩
    refine Program.wp_mono (onProcessStarted_started adapter _ started₂ same₂.symm) ?_
      (fun _ _ raised => ⟨raised, tells⟩)
    rintro _ w' ⟨row', started', same'⟩
    exact ⟨row', started', same'.trans same₂⟩
  refine Program.wp_mono told ?_ (fun _ _ raised => raised)
  rintro _ w₃ ⟨row₃, started₃, same₃⟩
  simp only [Program.wp_bind, Program.wp_read, Program.wp_when, emit, Program.wp_write,
    Program.wp_pure]
  refine ⟨fun _ => ⟨row₃, ?_, same₃.symm⟩, fun _ => ⟨row₃, started₃, same₃.symm⟩⟩
  exact started₃.hosted ⟨.refl _, .of_event rfl rfl (fun _ => rfl), rfl, rfl⟩

theorem hosted_of_checkSubject {deployment : Deployment} {text : String}
    {subjectType : SubjectType} {adapter : ProcessHostAdapter}
    (checked : checkSubject deployment text = .ok (subjectType, adapter)) :
    ProcessHostRegistry.has subjectType = true := by
  unfold checkSubject at checked
  split at checked
  · cases checked
  · split at checked
    · cases checked
    · rename_i registered
      split at checked
      · cases checked
      · cases checked
        simp [ProcessHostRegistry.has, registered]

/-- `startProcess` returns with the rows of a new process, or raises without an
announcement or a job: for a subject it does not accept, or in its host. -/
theorem startProcessIn_started (deployment : Deployment) (params : StartProcessParams)
    (w : World) :
    Program.wp (startProcessIn deployment params)
      (fun result w' => (∃ row, Started params row w w' ∧
        result.processInstanceId = row.processInstanceId) ∧
        ∃ accepted, checkSubject deployment params.subjectType = .ok accepted)
      (fun _ w' => (QuietLog w w' ∧ w'.queue = w.queue) ∧
        (params.skipHostOnStart = false ∨
          ∃ message, checkSubject deployment params.subjectType = .error message)) w := by
  unfold startProcessIn
  cases checked : checkSubject deployment params.subjectType with
  | error message => exact ⟨⟨.refl w, rfl⟩, .inr ⟨message, rfl⟩⟩
  | ok accepted =>
      obtain ⟨subjectType, adapter⟩ := accepted
      refine Program.wp_mono (startProcessInTransaction_started deployment params subjectType
        adapter (hosted_of_checkSubject checked) w) ?_ ?_
      · intro _ _ started
        exact ⟨started, _, rfl⟩
      · rintro _ _ ⟨quiet, tells⟩
        exact ⟨quiet, .inl tells⟩

end ProcessLifecycle

end CoreApi.Automation
