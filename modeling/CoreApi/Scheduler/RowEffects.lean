import CoreApi.Scheduler.TaskProcessor

/-!
# What an action does

One relation for all actions of the scheduler: which rows are written, and to what,
which jobs come and go. The invariants of a run are read off it, with no look at the
services again.
-/

namespace CoreApi.Scheduler

open CoreApi.Foundation Automation SchedulerService

variable {env : Environment}

/-- No job came or went, time stands, and events were only added. -/
structure Framed (before after : World) : Prop where
  queue : after.queue = before.queue
  now : after.now = before.now
  tokens : before.nextUuid ≤ after.nextUuid
  events : before.events <+: after.events

/-- Neither a row nor a job was written. -/
structure Idle (before after : World) : Prop extends Framed before after where
  rows : after.scheduledTasks = before.scheduledTasks

theorem Framed.refl (w : World) : Framed w w := ⟨rfl, rfl, le_rfl, List.prefix_rfl⟩

theorem Idle.refl (w : World) : Idle w w := ⟨.refl w, rfl⟩

/-! ## Shifts -/

/-- A created row after it was marked queued. -/
def queuedRow (id : Nat) (row : ScheduledTaskEntity) : ScheduledTaskEntity :=
  { row with
    scheduledTaskId := id
    isActive := true
    status := .queued
    version := row.version + 1
    startJobId := row.startJobToken
    endJobId := row.endJobToken }

/-- The row a shift leaves, under the next two tokens. -/
def shiftRow (env : Environment) (input : ScheduleFromShiftsInput) (ctx : TaskContext)
    (s : ShiftInput) (window : Window) (w : World) : ScheduledTaskEntity :=
  queuedRow w.scheduledTasks.autoIncrement
    (childRow env input ctx s window w.nextUuid (w.nextUuid + 1))

/-- A shift was given a window, its row stored behind the others and its jobs queued. -/
structure ShiftPlaced (env : Environment) (input : ScheduleFromShiftsInput) (ctx : TaskContext)
    (prevChildEndUtc : Option Int) (s : ShiftInput) (before : World) (created : CreatedShift)
    (after : World) (window : Window) : Prop where
  fitted : placeShift (env.calendarOf ctx.tenantId (some s.tenantUserId)) input.taskId s
    (serialStart prevChildEndUtc s) before.scheduledTasks = .ok window
  planned : s.plannedStartUtc ≤ s.plannedEndUtc
  rows : after.scheduledTasks.rows =
    before.scheduledTasks.rows ++ [shiftRow env input ctx s window before]
  stop : created.effectiveEndUtc = window.stop
  queue : after.queue =
    ((before.enqueued (jobOf .taskStart (shiftRow env input ctx s window before) before.nextUuid
      before.now window.start)).enqueued
        (jobOf .taskEnd (shiftRow env input ctx s window before) (before.nextUuid + 1)
          before.now window.stop)).queue
  now : after.now = before.now
  tokens : after.nextUuid = before.nextUuid + 2
  events : before.events <+: after.events

theorem checkWindows_ok {row : ScheduledTaskEntity}
    (requested : row.requestedStartUtc ≤ row.requestedEndUtc)
    (effective : row.effectiveStartUtc ≤ row.effectiveEndUtc) : checkWindows row = .ok () := by
  unfold checkWindows
  rw [if_neg (not_lt.mpr requested), if_neg (not_lt.mpr effective)]

theorem checkWindows_error {row : ScheduledTaskEntity}
    (requested : row.requestedEndUtc < row.requestedStartUtc) :
    checkWindows row = .error "Check constraint 'chk_requested_window' is violated." := by
  unfold checkWindows
  rw [if_pos requested]

section Services

variable {w : World} {err : String → World → Prop}

theorem wp_createActive (row : ScheduledTaskEntity)
    (ordered : row.effectiveStartUtc ≤ row.effectiveEndUtc) (ok : ScheduledTaskEntity → World → Prop) :
    Program.wp (ScheduledTasksService.createActive row) ok err w ↔
      (row.requestedStartUtc ≤ row.requestedEndUtc →
        ok (Keyed.withKey w.scheduledTasks.autoIncrement (ScheduledTasksService.activeRow row))
          { w with
            scheduledTasks := w.scheduledTasks.insert (ScheduledTasksService.activeRow row) }) ∧
      (row.requestedEndUtc < row.requestedStartUtc →
        err "Check constraint 'chk_requested_window' is violated." w) := by
  unfold ScheduledTasksService.createActive
  rw [Program.wp_bind]
  by_cases requested : row.requestedEndUtc < row.requestedStartUtc
  · rw [checkWindows_error (by exact requested), Program.wp_lift_error]
    exact ⟨fun raised => ⟨fun valid => absurd requested (not_lt.mpr valid), fun _ => raised⟩,
      fun both => both.2 requested⟩
  · rw [checkWindows_ok (by exact not_lt.mp requested) (by exact ordered), Program.wp_lift_ok,
      Program.wp_writeReturning]
    exact ⟨fun stored => ⟨fun _ => stored, fun invalid => absurd invalid requested⟩,
      fun both => both.1 (not_lt.mp requested)⟩

theorem wp_getTaskContext (taskId : Nat) (ok : TaskContext → World → Prop) :
    Program.wp (getTaskContext env taskId) ok err w ↔
      (∀ ctx, env.taskContext taskId = some ctx → ok ctx w) ∧
      (env.taskContext taskId = none → err ("Task " ++ toString taskId ++ " not found") w) := by
  unfold getTaskContext
  rcases env.taskContext taskId with _ | ctx <;> simp

theorem wp_findRow (scheduledTaskId : Nat) (ok : ScheduledTaskEntity → World → Prop) :
    Program.wp (findRow scheduledTaskId) ok err w ↔
      (∀ row, w.scheduledTasks.find? scheduledTaskId = some row → ok row w) ∧
      (w.scheduledTasks.find? scheduledTaskId = none → err "Scheduled task not found" w) := by
  unfold findRow
  rw [Program.wp_bind, Program.wp_read]
  rcases w.scheduledTasks.find? scheduledTaskId with _ | row <;> simp

end Services

/-- An iteration of the loop places its shift or leaves rows and jobs alone. -/
theorem scheduleShift_placed (input : ScheduleFromShiftsInput) (ctx : TaskContext)
    (prevChildEndUtc : Option Int) (s : ShiftInput) (w : World) :
    Program.wp (scheduleShift env input ctx prevChildEndUtc s)
      (fun created w' => ∃ window,
        ShiftPlaced env input ctx prevChildEndUtc s w created w' window)
      (fun _ w' => Idle w w') w := by
  unfold scheduleShift
  simp only [Program.wp_bind, Program.wp_writeReturning, Program.wp_read]
  rcases placed : placeShift (env.calendarOf ctx.tenantId (some s.tenantUserId)) input.taskId s
    (serialStart prevChildEndUtc s) w.scheduledTasks with e | window
  · exact ⟨⟨rfl, rfl, le_rfl, List.prefix_rfl⟩, rfl⟩
  · simp only [Program.wp_lift_ok, wp_randomUuid]
    rw [wp_createActive _ (by exact window.ordered)]
    refine ⟨fun planned => ⟨window, placed, planned, ?_, rfl, rfl, rfl, rfl, ?_⟩,
      fun _ => ⟨⟨rfl, rfl, Nat.le_add_right _ 2, List.prefix_rfl⟩, rfl⟩⟩
    · exact @Table.rows_updateAt_last _ _
        (w.scheduledTasks.insert (ScheduledTasksService.activeRow
          (childRow env input ctx s window w.nextUuid (w.nextUuid + 1)))) _ _
        (fun row => { row with
          status := .queued
          startJobId := some w.nextUuid
          endJobId := some (w.nextUuid + 1) }) (fun _ => rfl) rfl
    · exact (List.prefix_append _ _).trans (List.prefix_append _ _)

/-- The shifts of a call, placed one after the other; one that raises ends the call. -/
inductive Placed (env : Environment) (input : ScheduleFromShiftsInput) (ctx : TaskContext) :
    Option Int → List ShiftInput → World → World → Prop where
  | done {prevChildEndUtc : Option Int} {w : World} : Placed env input ctx prevChildEndUtc [] w w
  | raised {prevChildEndUtc : Option Int} {s : ShiftInput} {rest : List ShiftInput}
      {before after : World} {e : String}
      (run : scheduleShift env input ctx prevChildEndUtc s before = (.error e, after))
      (idle : Idle before after) :
      Placed env input ctx prevChildEndUtc (s :: rest) before after
  | place {prevChildEndUtc : Option Int} {s : ShiftInput} {rest : List ShiftInput}
      {before between after : World} {created : CreatedShift} {window : Window}
      (run : scheduleShift env input ctx prevChildEndUtc s before = (.ok created, between))
      (placed : ShiftPlaced env input ctx prevChildEndUtc s before created between window)
      (others : Placed env input ctx (some created.effectiveEndUtc) rest between after) :
      Placed env input ctx prevChildEndUtc (s :: rest) before after

theorem scheduleShifts_placed (input : ScheduleFromShiftsInput) (ctx : TaskContext)
    (shifts : List ShiftInput) (prevChildEndUtc : Option Int) (w : World) :
    Program.wp (scheduleShifts env input ctx prevChildEndUtc shifts)
      (fun _ w' => Placed env input ctx prevChildEndUtc shifts w w')
      (fun _ w' => Placed env input ctx prevChildEndUtc shifts w w') w := by
  induction shifts generalizing prevChildEndUtc w with
  | nil => exact .done
  | cons s rest ih =>
      rw [scheduleShifts, Program.wp_bind]
      refine Program.wp_mono (Program.wp_and (Program.wp_run _)
        (scheduleShift_placed input ctx prevChildEndUtc s w)) ?_
        (fun e w' ⟨run, idle⟩ => .raised run idle)
      rintro created between ⟨run, window, placed⟩
      rw [Program.wp_bind]
      exact Program.wp_mono (ih (some created.effectiveEndUtc) between)
        (fun _ _ others => .place run placed others) (fun _ _ others => .place run placed others)

/-! ## Jobs -/

open Runs

/-- The token a row has for a job. -/
def tokenOf (name : JobName) (row : ScheduledTaskEntity) : Option Nat :=
  match name with
  | .taskStart => row.startJobToken
  | .taskEnd => row.endJobToken

/-- The job is one the row waits for. -/
structure Awaits (w : World) (job : Job) (row : ScheduledTaskEntity) : Prop where
  found : w.scheduledTasks.find? job.scheduledTaskId = some row
  active : row.isActive = true
  token : tokenOf job.name row = some job.token

instance (w : World) (job : Job) (row : ScheduledTaskEntity) : Decidable (Awaits w job row) :=
  decidable_of_iff (w.scheduledTasks.find? job.scheduledTaskId = some row ∧ row.isActive = true ∧
      tokenOf job.name row = some job.token)
    ⟨fun both => ⟨both.1, both.2.1, both.2.2⟩, fun awaits => ⟨awaits.1, awaits.2, awaits.3⟩⟩

/-- A row that is checked against its calendar is within its working hours now. -/
def WithinHours (env : Environment) (w : World) (row : ScheduledTaskEntity) : Prop :=
  ∀ tenantUserId, row.tenantUserId = some tenantUserId → tenantUserId ≠ 0 →
    isWithinAnyInterval w.now ((TaskProcessor.calendarOfRow env row).intervalsOn w.now) = true

/-- What the worker does with a job. -/
inductive Processed (env : Environment) (w : World) (job : Job) : World → Prop where
  | ignored {after : World} (noOne : ∀ row, ¬ Awaits w job row) (idle : Idle w after) :
      Processed env w job after
  | started {after : World} (row : ScheduledTaskEntity) (awaits : Awaits w job row)
      (isStart : job.name = .taskStart) (within : WithinHours env w row) (framed : Framed w after)
      (logged : ∃ event ∈ after.events, event.kind = .runStart ∧
        event.scheduledTaskId = row.scheduledTaskId ∧ event.whenUtc = w.now)
      (rows : after.scheduledTasks = w.scheduledTasks.updateAt row.scheduledTaskId
        (fun old => { old with actualStartUtc := some w.now, status := .running }) fun _ => rfl) :
      Processed env w job after
  | deferred {after : World} (row : ScheduledTaskEntity) (awaits : Awaits w job row)
      (isStart : job.name = .taskStart) (outside : ¬ WithinHours env w row) (nextUtc : Int)
      (framed : Framed (w.enqueued (TaskProcessor.deferredJob job w.now nextUtc)) after)
      (rows : after.scheduledTasks = w.scheduledTasks.updateAt row.scheduledTaskId
        (fun old => { old with
          blockedUntilUtc := some nextUtc, blockReason := .calendar, status := .paused })
        fun _ => rfl)
      (logged : ∃ event ∈ after.events, event.kind = .deferred ∧
        event.scheduledTaskId = row.scheduledTaskId) :
      Processed env w job after
  | ended {after : World} (row : ScheduledTaskEntity) (awaits : Awaits w job row)
      (isEnd : job.name = .taskEnd) (framed : Framed w after)
      (rows : after.scheduledTasks = w.scheduledTasks.updateAt row.scheduledTaskId
        (fun old => { old with
          actualEndUtc := some w.now, status := .completed, isActive := false })
        fun _ => rfl) :
      Processed env w job after

section Jobs

variable {w : World} {job : Job} {row : ScheduledTaskEntity}

theorem Awaits.id (awaits : Awaits w job row) : row.scheduledTaskId = job.scheduledTaskId :=
  Table.key_of_find? awaits.found

/-- A start never raises. -/
theorem startRow_processed (awaits : Awaits w job row) (isStart : job.name = .taskStart) :
    Program.wp (TaskProcessor.startRow env job row) (fun _ w' => Processed env w job w')
      (fun _ _ => False) w := by
  have runs (within : WithinHours env w row) : Program.wp (do
      ScheduledTasksService.markRunning row.scheduledTaskId w.now
      emit row.scheduledTaskId .runStart (.obj [("jobId", .num job.jobId)]) none)
      (fun _ w' => Processed env w job w') (fun _ _ => False) w :=
    .started row awaits isStart within ⟨rfl, rfl, le_rfl, List.prefix_append _ _⟩
      ⟨_, List.mem_append_right _ (List.mem_singleton_self _), rfl, rfl, rfl⟩ rfl
  unfold TaskProcessor.startRow
  rw [Program.wp_bind, wp_now]
  rcases user : row.tenantUserId with _ | _ | tenantUserId
  · exact runs fun id same => by simp [user] at same
  · refine runs fun id same positive => ?_
    rw [user] at same
    exact absurd (Option.some.inj same).symm positive
  · refine (Program.wp_ite _ _ _).mpr ⟨fun inside => runs fun _ _ _ => inside, fun closed => ?_⟩
    exact .deferred row awaits isStart
      (fun within => closed (within _ user (Nat.succ_ne_zero tenantUserId))) _
      ⟨rfl, rfl, le_rfl, List.prefix_append _ _⟩ rfl
      ⟨_, List.mem_append_right _ (List.mem_singleton_self _), rfl, rfl⟩

/-- The worker never raises. -/
theorem process_processed (w : World) (job : Job) :
    Program.wp (TaskProcessor.process env job) (fun _ w' => Processed env w job w')
      (fun _ _ => False) w := by
  unfold TaskProcessor.process
  rcases found : w.scheduledTasks.find? job.scheduledTaskId with _ | row
  · have noOne : ∀ row, ¬ Awaits w job row := fun row awaits => by simp [awaits.found] at found
    rcases name : job.name
    · unfold TaskProcessor.handleStart
      rw [Program.wp_bind, Program.wp_read, found]
      exact .ignored noOne (.refl w)
    · unfold TaskProcessor.handleEnd
      rw [Program.wp_bind, Program.wp_read, found]
      exact .ignored noOne (.refl w)
  · have onlyRow : ∀ other, Awaits w job other → other = row := fun other awaits =>
      Option.some.inj (awaits.found.symm.trans found)
    rcases name : job.name
    · unfold TaskProcessor.handleStart
      rw [Program.wp_bind, Program.wp_read, found, Program.wp_when]
      refine ⟨fun ready => startRow_processed ⟨found, ready.1, by rw [name]; exact ready.2⟩ name,
        fun notReady => .ignored (fun other awaits => ?_) (.refl w)⟩
      have token := awaits.token
      rw [name, onlyRow other awaits] at token
      exact notReady ⟨onlyRow other awaits ▸ awaits.active, token⟩
    · unfold TaskProcessor.handleEnd
      rw [Program.wp_bind, Program.wp_read, found, Program.wp_when]
      refine ⟨fun ready => .ended row ⟨found, ready.1, by rw [name]; exact ready.2⟩ name
          ⟨rfl, rfl, le_rfl, List.prefix_append _ _⟩ rfl,
        fun notReady => .ignored (fun other awaits => ?_) (.refl w)⟩
      have token := awaits.token
      rw [name, onlyRow other awaits] at token
      exact notReady ⟨onlyRow other awaits ▸ awaits.active, token⟩

end Jobs

/-! ## All actions -/

/-- What an action may leave. -/
inductive Effect (env : Environment) (w : World) : Action → World → Prop where
  | kept {action : Action} {after : World} (notDelivery : ∀ jobId, action ≠ .deliver jobId)
      (idle : Idle w after) : Effect env w action after
  | passed (millis : Nat) {after : World} (rows : after.scheduledTasks = w.scheduledTasks)
      (queue : after.queue = w.queue) (tokens : after.nextUuid = w.nextUuid)
      (events : after.events = w.events) (now : after.now = w.now + millis) :
      Effect env w (.pass millis) after
  | windowed (input : ScheduleTaskWindowInput) {after : World} (row : ScheduledTaskEntity)
      (unassigned : row.tenantUserId = none) (active : row.isActive = true)
      (scheduled : row.status = .scheduled) (notStarted : row.actualStartUtc = none)
      (token : row.startJobToken = some w.nextUuid) (notBlocked : row.blockedUntilUtc = none)
      (framed : Framed w after) (drawn : after.nextUuid = w.nextUuid + 2)
      (rows : after.scheduledTasks.rows = w.scheduledTasks.rows ++ [row])
      (endToken : row.endJobToken = some (w.nextUuid + 1)) :
      Effect env w (.scheduleTaskWindow input) after
  | shifted (input : ScheduleFromShiftsInput) {after : World} (ctx : TaskContext)
      (known : env.taskContext input.taskId = some ctx)
      (placed : Placed env input ctx none (serializePlan input.shifts) w after) :
      Effect env w (.scheduleFromShifts input) after
  | rescheduled (scheduledTaskId : Nat) (requestedStartUtc requestedEndUtc : Int)
      {after : World} (row : ScheduledTaskEntity)
      (found : w.scheduledTasks.find? scheduledTaskId = some row)
      (requested : requestedStartUtc ≤ requestedEndUtc) (framed : Framed w after)
      (rows : after.scheduledTasks = w.scheduledTasks.updateAt scheduledTaskId
        (fun old => { old with
          requestedStartUtc := requestedStartUtc
          requestedEndUtc := requestedEndUtc
          effectiveStartUtc := (rescheduledWindow env row requestedStartUtc requestedEndUtc).start
          effectiveEndUtc := (rescheduledWindow env row requestedStartUtc requestedEndUtc).stop })
        fun _ => rfl) :
      Effect env w (.reschedule scheduledTaskId requestedStartUtc requestedEndUtc) after
  | paused (scheduledTaskId : Nat) (pausedUntilUtc : Int) {after : World} (framed : Framed w after)
      (rows : after.scheduledTasks = w.scheduledTasks.updateAt scheduledTaskId
        (fun old => { old with
          blockedUntilUtc := some pausedUntilUtc, blockReason := .calendar, status := .paused })
        fun _ => rfl) :
      Effect env w (.pause scheduledTaskId pausedUntilUtc) after
  | resumed (scheduledTaskId : Nat) {after : World} (framed : Framed w after)
      (rows : after.scheduledTasks = w.scheduledTasks.updateAt scheduledTaskId
        (fun old => { old with
          blockedUntilUtc := none, blockReason := .none, status := .scheduled })
        fun _ => rfl) :
      Effect env w (.resume scheduledTaskId) after
  | cancelled (scheduledTaskId : Nat) {after : World} (framed : Framed w after)
      (rows : after.scheduledTasks = w.scheduledTasks.updateAt scheduledTaskId
        (fun old => { old with status := .cancelled, isActive := false }) fun _ => rfl) :
      Effect env w (.cancel scheduledTaskId) after
  | undelivered (jobId : Nat) (none : ∀ job ∈ w.queue, job.jobId = jobId → ¬ job.dueAt ≤ w.now) :
      Effect env w (.deliver jobId) w
  | delivered (jobId : Nat) (job : Job) (onQueue : job ∈ w.queue) (isJob : job.jobId = jobId)
      (due : job.dueAt ≤ w.now) {between : World} (processed : Processed env w job between) :
      Effect env w (.deliver jobId) { between with queue := doneQueue job between.queue }
  | failed (scheduledTaskId : Nat) (name : JobName) (message : Option String) {after : World}
      (framed : Framed w after)
      (rows : after.scheduledTasks = w.scheduledTasks.updateAt scheduledTaskId
        (fun old => { old with lastError := some (message.getD "failed"), status := .failed })
        fun _ => rfl) :
      Effect env w (.failed (some scheduledTaskId) name message) after
  | linked (ctx : ProcessHostContext) {after : World} (framed : Framed w after)
      (rows : after.scheduledTasks = w.scheduledTasks.update
        (ScheduledTaskHostAdapter.isRow ctx.subjectId ctx.tenantId)
        (fun old => { old with
          processInstanceId := some ctx.processInstanceId, status := .scheduled })
        fun _ => rfl) :
      Effect env w (.processStarted ctx) after
  | synced (ctx : ProcessHostContext) (engineState : StepStatus) {after : World}
      (framed : Framed w after)
      (rows : after.scheduledTasks = w.scheduledTasks.update
        (ScheduledTaskHostAdapter.isRow ctx.subjectId ctx.tenantId)
        (fun old => { old with
          status := mapEngineStateToScheduledTaskStatus engineState
          actualStartUtc :=
            if engineState = .inProgress then old.actualStartUtc <|> some w.now
            else old.actualStartUtc
          updatedBy := ctx.actor <|> old.updatedBy })
        fun _ => rfl) :
      Effect env w (.stepStateChanged ctx engineState) after
  | finished (ctx : ProcessHostContext) {after : World} (scheduledTaskId : Nat)
      (resolved : ScheduledTaskHostAdapter.resolveScheduledTaskId w.scheduledTasks ctx =
        some scheduledTaskId)
      (framed : Framed w after)
      (rows : after.scheduledTasks = w.scheduledTasks.update
        (ScheduledTaskHostAdapter.isRow scheduledTaskId ctx.tenantId)
        (fun old => { old with
          status := .completed
          actualEndUtc := old.actualEndUtc <|> some w.now
          isActive := false })
        fun _ => rfl) :
      Effect env w (.processCompleted ctx) after

section Actions

variable {w : World} {α : Type}

/-- Both ends of a run leave what `Effect` says of the action. -/
abbrev Meets (env : Environment) (w : World) (action : Action) (body : Tx α) : Prop :=
  Program.wp body (fun _ w' => Effect env w action w') (fun _ w' => Effect env w action w') w

theorem scheduleTaskWindow_effect (input : ScheduleTaskWindowInput) :
    Meets env w (.scheduleTaskWindow input) (scheduleTaskWindow env input) := by
  unfold Meets scheduleTaskWindow
  rw [Program.wp_bind, wp_getTaskContext]
  refine ⟨fun ctx _ => ?_, fun _ => .kept nofun (.refl w)⟩
  simp only [Program.wp_bind, Program.wp_read, wp_randomUuid]
  generalize constrained ctx _ _ = requested
  generalize (env.calendarOf ctx.tenantId none).workWindow _ _ = window
  rw [wp_createActive _ (by exact window.ordered)]
  refine ⟨fun _ => ?_,
    fun _ => .kept nofun ⟨⟨rfl, rfl, Nat.le_add_right _ 2, List.prefix_rfl⟩, rfl⟩⟩
  rw [wp_snapshot]
  unfold attachProcess
  have framed : ∀ {after : World}, after.queue = w.queue → after.now = w.now →
      after.nextUuid = w.nextUuid + 2 → after.events = w.events → Framed w after :=
    fun queue now drawn events =>
      ⟨queue, now, drawn ▸ Nat.le_add_right _ 2, events ▸ List.prefix_rfl⟩
  rcases input.processTemplateId with _ | processTemplateId <;>
    rcases input.createdBy with _ | createdBy
  · exact .windowed input _ rfl rfl rfl rfl rfl rfl (framed rfl rfl rfl rfl) rfl rfl rfl
  · exact .windowed input _ rfl rfl rfl rfl rfl rfl (framed rfl rfl rfl rfl) rfl rfl rfl
  · exact .windowed input _ rfl rfl rfl rfl rfl rfl (framed rfl rfl rfl rfl) rfl rfl rfl
  · rw [Program.wp_when]
    exact ⟨fun _ => .windowed input _ rfl rfl rfl rfl rfl rfl (framed rfl rfl rfl rfl) rfl rfl rfl,
      fun _ => .windowed input _ rfl rfl rfl rfl rfl rfl (framed rfl rfl rfl rfl) rfl rfl rfl⟩

theorem scheduleFromShifts_effect (input : ScheduleFromShiftsInput) :
    Meets env w (.scheduleFromShifts input) (scheduleFromShifts env input) := by
  unfold Meets scheduleFromShifts validateExistence
  simp only [Program.wp_bind, Program.wp_when, Program.wp_raise, Program.wp_read,
    wp_getTaskContext]
  have ignored : Effect env w (.scheduleFromShifts input) w := by
    refine .kept ?_ (.refl w)
    intro jobId isDelivery
    cases isDelivery
  refine ⟨fun _ => ignored, fun _ => ⟨fun _ => ignored, fun _ => ⟨fun ctx known => ?_,
    fun _ => ignored⟩⟩⟩
  exact Program.wp_mono (scheduleShifts_placed input ctx (serializePlan input.shifts) none w)
    (fun _ _ placed => .shifted input ctx known placed)
    (fun _ _ placed => .shifted input ctx known placed)

theorem reschedule_effect (scheduledTaskId : Nat) (start stop : Int) :
    Meets env w (.reschedule scheduledTaskId start stop)
      (reschedule env scheduledTaskId start stop) := by
  unfold Meets reschedule
  rw [Program.wp_bind, wp_findRow]
  refine ⟨fun row found => ?_, fun _ => .kept nofun (.refl w)⟩
  rw [Program.wp_bind]
  by_cases requested : stop < start
  · rw [checkWindows_error (by exact requested)]
    exact .kept nofun (.refl w)
  · rw [checkWindows_ok (by exact not_lt.mp requested)
      (by exact (rescheduledWindow env row start stop).ordered)]
    refine .rescheduled scheduledTaskId start stop row found (not_lt.mp requested)
      ⟨rfl, rfl, le_rfl, List.prefix_rfl⟩ ?_
    rw [← Table.key_of_find? found]
    rfl

theorem pause_effect (scheduledTaskId : Nat) (pausedUntilUtc : Int) :
    Meets env w (.pause scheduledTaskId pausedUntilUtc) (pause scheduledTaskId pausedUntilUtc) := by
  unfold Meets pause
  rw [Program.wp_bind, wp_findRow]
  refine ⟨fun row found => .paused scheduledTaskId pausedUntilUtc
    ⟨rfl, rfl, le_rfl, List.prefix_rfl⟩ ?_, fun _ => .kept nofun (.refl w)⟩
  rw [← Table.key_of_find? found]
  rfl

theorem resume_effect (scheduledTaskId : Nat) :
    Meets env w (.resume scheduledTaskId) (resume scheduledTaskId) := by
  unfold Meets resume
  rw [Program.wp_bind, wp_findRow]
  refine ⟨fun row found => .resumed scheduledTaskId ⟨rfl, rfl, le_rfl, List.prefix_rfl⟩ ?_,
    fun _ => .kept nofun (.refl w)⟩
  rw [← Table.key_of_find? found]
  rfl

theorem cancel_effect (scheduledTaskId : Nat) :
    Meets env w (.cancel scheduledTaskId) (cancel scheduledTaskId) := by
  unfold Meets cancel
  rw [Program.wp_bind, wp_findRow]
  refine ⟨fun row found => .cancelled scheduledTaskId ⟨rfl, rfl, le_rfl, List.prefix_rfl⟩ ?_,
    fun _ => .kept nofun (.refl w)⟩
  rw [← Table.key_of_find? found]
  rfl

theorem deliver_effect (jobId : Nat) : Meets env w (.deliver jobId) (deliver env jobId) := by
  unfold Meets deliver
  rw [Program.wp_bind, Program.wp_read]
  split
  · next found =>
      refine .undelivered jobId fun job onQueue isJob due => ?_
      simpa [isJob, due] using List.find?_eq_none.mp found job onQueue
  · next job found =>
      have isDue : job.jobId = jobId ∧ job.dueAt ≤ w.now := by
        simpa using List.find?_some found
      rw [Program.wp_bind]
      exact Program.wp_mono (process_processed w job)
        (fun _ _ processed =>
          .delivered jobId job (List.mem_of_find?_eq_some found) isDue.1 isDue.2 processed)
        (fun _ _ raised => raised.elim)

theorem onFailed_effect (scheduledTaskId : Option Nat) (name : JobName)
    (message : Option String) :
    Meets env w (.failed scheduledTaskId name message)
      (TaskProcessor.onFailed scheduledTaskId name message) := by
  unfold Meets TaskProcessor.onFailed
  split
  · exact .kept nofun (.refl w)
  · exact .kept nofun (.refl w)
  · exact .failed _ name message ⟨rfl, rfl, le_rfl, List.prefix_append _ _⟩ rfl

theorem onProcessCompleted_effect (ctx : ProcessHostContext) :
    Meets env w (.processCompleted ctx) (ScheduledTaskHostAdapter.onProcessCompleted ctx) := by
  unfold Meets ScheduledTaskHostAdapter.onProcessCompleted
  rw [Program.wp_bind, Program.wp_read]
  rcases resolved : ScheduledTaskHostAdapter.resolveScheduledTaskId w.scheduledTasks ctx with
    _ | _ | scheduledTaskId
  · exact .kept nofun (.refl w)
  · exact .kept nofun (.refl w)
  · exact .finished ctx (scheduledTaskId + 1) resolved ⟨rfl, rfl, le_rfl, List.prefix_rfl⟩ rfl

/-- Every action leaves what `Effect` says. -/
theorem perform_effect (w : World) (action : Action) :
    Meets env w action (perform env action) := by
  cases action with
  | scheduleTaskWindow input => exact (Program.wp_bind _ _ _).mpr (scheduleTaskWindow_effect input)
  | scheduleFromShifts input => exact (Program.wp_bind _ _ _).mpr (scheduleFromShifts_effect input)
  | reschedule scheduledTaskId start stop =>
      exact (Program.wp_bind _ _ _).mpr (reschedule_effect scheduledTaskId start stop)
  | pause scheduledTaskId pausedUntilUtc => exact pause_effect scheduledTaskId pausedUntilUtc
  | resume scheduledTaskId => exact resume_effect scheduledTaskId
  | cancel scheduledTaskId => exact cancel_effect scheduledTaskId
  | deliver jobId => exact deliver_effect jobId
  | failed scheduledTaskId name message => exact onFailed_effect scheduledTaskId name message
  | processStarted ctx => exact .linked ctx ⟨rfl, rfl, le_rfl, List.prefix_rfl⟩ rfl
  | stepStateChanged ctx engineState =>
      exact .synced ctx engineState ⟨rfl, rfl, le_rfl, List.prefix_rfl⟩ rfl
  | processCompleted ctx => exact onProcessCompleted_effect ctx
  | pass millis => exact .passed millis rfl rfl rfl rfl rfl

/-- What a step of a run does. -/
theorem step_effect (w : World) (action : Action) :
    Effect env w action ((system env).step w action) :=
  Program.wp_end (fun w' => Effect env w action w') (perform_effect w action)

end Actions

end CoreApi.Scheduler
