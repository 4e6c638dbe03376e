import CoreApi.Foundation.StepSystem
import CoreApi.Scheduler.SchedulerService

/-!
# Jobs, process hosts and runs of the scheduler

The worker that starts and ends a scheduled task, the adapter through which a process
writes its row, and the scheduler as a step system: service calls, deliveries of jobs
that are due and writes of the adapter follow each other in any order.
-/

namespace CoreApi.Scheduler

open CoreApi.Foundation Automation

variable (env : Environment)

/-! ## The worker -/

namespace TaskProcessor

/-- The start job a deferral adds: `jobId: token`. -/
def deferredJob (job : Job) (time nextUtc : Int) : Job where
  jobId := job.token
  name := .taskStart
  scheduledTaskId := job.scheduledTaskId
  taskId := none
  token := job.token
  dueAt := time + msUntil time nextUtc
  priority := 0
  removeOnComplete := true

/-- The calendar a start is checked against: the one of the row's user, in the timezone
the row was scheduled in. -/
def calendarOfRow (row : ScheduledTaskEntity) : CalendarOf where
  calendar := env.calendar
  zone := env.zone (if row.tzUsed = "" then "UTC" else row.tzUsed)
  tenantId := row.tenantId
  tenantUserId := row.tenantUserId

/-- `handleStart`, from the calendar on: where it is closed now, the start is deferred. -/
def startRow (job : Job) (row : ScheduledTaskEntity) : Tx Unit := do
  let time ← now
  let run : Tx Unit := do
    ScheduledTasksService.markRunning row.scheduledTaskId time
    emit row.scheduledTaskId .runStart (.obj [("jobId", .num job.jobId)]) none
  match row.tenantUserId with
  | none | some 0 => run
  | some _ =>
      let of := calendarOfRow env row
      let intervals := of.intervalsOn time
      if isWithinAnyInterval time intervals then run
      else do
        let nextUtc := (nextStartAfter time intervals).getD
          (of.zone.startOfDay (of.zone.plusDay time))
        ScheduledTasksService.pauseUntil row.scheduledTaskId nextUtc .calendar
        emit row.scheduledTaskId .deferred
          (.obj [("reason", .str "calendar"), ("nextUtc", .num nextUtc)]) none
        enqueue (deferredJob job time nextUtc)

/-- `handleStart`. -/
def handleStart (job : Job) : Tx Unit := do
  let found ← Program.read fun w => w.scheduledTasks.find? job.scheduledTaskId
  match found with
  | none => pure ()
  | some row =>
      Program.when (row.isActive = true ∧ row.startJobToken = some job.token)
        (startRow env job row)

/-- `handleEnd`. -/
def handleEnd (job : Job) : Tx Unit := do
  let found ← Program.read fun w => w.scheduledTasks.find? job.scheduledTaskId
  match found with
  | none => pure ()
  | some row =>
      Program.when (row.isActive = true ∧ row.endJobToken = some job.token) do
        let time ← now
        ScheduledTasksService.markCompleted row.scheduledTaskId time
        emit row.scheduledTaskId .runEnd (.obj [("jobId", .num job.jobId)]) none

/-- `process`. -/
def process (job : Job) : Tx Unit :=
  match job.name with
  | .taskStart => handleStart env job
  | .taskEnd => handleEnd job

/-- `onFailed`, for the row the job names, if it names one. -/
def onFailed (scheduledTaskId : Option Nat) (name : JobName) (message : Option String) : Tx Unit :=
  match scheduledTaskId with
  | none | some 0 => pure ()
  | some id => do
      updateRow id
        (fun row => { row with lastError := some (message.getD "failed"), status := .failed })
        (fun _ => rfl)
      emit id .failed
        (.obj ((match message with | some text => [("reason", .str text)] | none => []) ++
          [("name", .str name.text)])) none

end TaskProcessor

/-! ## The process host -/

namespace ScheduledTaskHostAdapter

/-- `WHERE scheduled_task_id = ? AND tenant_id = ?`. -/
def isRow (scheduledTaskId tenantId : Nat) (row : ScheduledTaskEntity) : Bool :=
  row.scheduledTaskId == scheduledTaskId && row.tenantId == tenantId

/-- `onProcessStarted`. -/
def onProcessStarted (ctx : ProcessHostContext) : Tx Unit :=
  updateRows (isRow ctx.subjectId ctx.tenantId)
    (fun row => { row with processInstanceId := some ctx.processInstanceId, status := .scheduled })
    (fun _ => rfl)

/-- `syncScheduledTaskStatus`. -/
def syncScheduledTaskStatus (scheduledTaskId tenantId : Nat) (engineState : StepStatus)
    (updatedBy : Option Nat) : Tx Unit := do
  let time ← now
  updateRows (isRow scheduledTaskId tenantId)
    (fun row => { row with
      status := mapEngineStateToScheduledTaskStatus engineState
      actualStartUtc :=
        if engineState = .inProgress then row.actualStartUtc <|> some time else row.actualStartUtc
      updatedBy := updatedBy <|> row.updatedBy })
    (fun _ => rfl)

/-- `onStepStateChanged`. -/
def onStepStateChanged (ctx : ProcessHostContext) (engineState : StepStatus) : Tx Unit :=
  syncScheduledTaskStatus ctx.subjectId ctx.tenantId engineState ctx.actor

/-- `resolveScheduledTaskId`. -/
def resolveScheduledTaskId (rows : Table ScheduledTaskEntity) (ctx : ProcessHostContext) :
    Option Nat :=
  if ctx.subjectType = .scheduledTask ∧ 0 < ctx.subjectId then some ctx.subjectId
  else
    (rows.rows.find? fun row =>
      row.processInstanceId == some ctx.processInstanceId && row.tenantId == ctx.tenantId).map
        ScheduledTaskEntity.scheduledTaskId

/-- `onProcessCompleted`. -/
def onProcessCompleted (ctx : ProcessHostContext) : Tx Unit := do
  let resolved ← Program.read fun w => resolveScheduledTaskId w.scheduledTasks ctx
  match resolved with
  | none | some 0 => pure ()
  | some scheduledTaskId => do
      let time ← now
      updateRows (isRow scheduledTaskId ctx.tenantId)
        (fun row => { row with
          status := .completed
          actualEndUtc := row.actualEndUtc <|> some time
          isActive := false })
        (fun _ => rfl)

end ScheduledTaskHostAdapter

/-! ## Runs -/

namespace Runs

/-- What happens next: a service call, the delivery of a job, a failed-job event, a write
of the process host, or time that passes. -/
inductive Action where
  | scheduleTaskWindow (input : SchedulerService.ScheduleTaskWindowInput)
  | scheduleFromShifts (input : SchedulerService.ScheduleFromShiftsInput)
  | reschedule (scheduledTaskId : Nat) (requestedStartUtc requestedEndUtc : Int)
  | pause (scheduledTaskId : Nat) (pausedUntilUtc : Int)
  | resume (scheduledTaskId : Nat)
  | cancel (scheduledTaskId : Nat)
  | deliver (jobId : Nat)
  | failed (scheduledTaskId : Option Nat) (name : JobName) (message : Option String)
  | processStarted (ctx : ProcessHostContext)
  | stepStateChanged (ctx : ProcessHostContext) (engineState : StepStatus)
  | processCompleted (ctx : ProcessHostContext)
  | pass (millis : Nat)

/-- The queue after a job is done. -/
def doneQueue (job : Job) (queue : List Job) : List Job :=
  if job.removeOnComplete then queue.filter fun other => other.jobId != job.jobId else queue

/-- A job that is done leaves the queue. -/
def removeJob (job : Job) : Tx Unit :=
  Program.write fun w => { w with queue := doneQueue job w.queue }

/-- The queue hands over a job that is due; it stays on the queue while it runs. -/
def deliver (jobId : Nat) : Tx Unit := do
  let found ← Program.read fun w =>
    w.queue.find? fun job => job.jobId == jobId && decide (job.dueAt ≤ w.now)
  match found with
  | none => pure ()
  | some job => do
      TaskProcessor.process env job
      removeJob job

/-- Run an action. -/
def perform : Action → Tx Unit
  | .scheduleTaskWindow input => do
      let _ ← SchedulerService.scheduleTaskWindow env input
  | .scheduleFromShifts input => do
      let _ ← SchedulerService.scheduleFromShifts env input
  | .reschedule scheduledTaskId requestedStartUtc requestedEndUtc => do
      let _ ← SchedulerService.reschedule env scheduledTaskId requestedStartUtc requestedEndUtc
  | .pause scheduledTaskId pausedUntilUtc => SchedulerService.pause scheduledTaskId pausedUntilUtc
  | .resume scheduledTaskId => SchedulerService.resume scheduledTaskId
  | .cancel scheduledTaskId => SchedulerService.cancel scheduledTaskId
  | .deliver jobId => deliver env jobId
  | .failed scheduledTaskId name message => TaskProcessor.onFailed scheduledTaskId name message
  | .processStarted ctx => ScheduledTaskHostAdapter.onProcessStarted ctx
  | .stepStateChanged ctx engineState =>
      ScheduledTaskHostAdapter.onStepStateChanged ctx engineState
  | .processCompleted ctx => ScheduledTaskHostAdapter.onProcessCompleted ctx
  | .pass millis => Program.write fun w => { w with now := w.now + millis }

/-- The scheduler: what an action wrote before it raised stays. -/
def system : StepSystem World Action where
  step w action := (perform env action w).2

/-- Nothing was scheduled yet. -/
structure Fresh (w : World) : Prop where
  scheduledTasks : w.scheduledTasks.rows = []
  shifts : w.shifts.rows = []
  queue : w.queue = []

/-! ## Before the first schedule -/

/-- Every day is worked from midnight to 23:59, in UTC, and every task is known. -/
def everyDay : Environment where
  calendar :=
    { getTimezone := fun _ _ => "UTC"
      isOffDateLocal := fun _ _ _ => false
      getWorkingIntervalsLocal := fun _ _ _ _ => [⟨⟨0, 0, 0⟩, ⟨23, 59, 0⟩⟩]
      named := by simp }
  taskContext := fun _ => some
    { tenantId := 1
      taskStatusId := 1
      startConstraintType := none
      startConstraintUtc := none
      finishConstraintUtc := none }
  zone := fun _ => .fixedOffset 0

/-- A scheduler with one resource assignment and nothing scheduled. -/
def unscheduled : World where
  scheduledTasks := .empty _
  shifts := .empty _
  resourceAssignments := [1]
  taskDependencies := []
  history := []
  events := []
  queue := []
  attachRequests := []
  nextUuid := 1
  now := 0

theorem fresh_unscheduled : Fresh unscheduled := ⟨rfl, rfl, rfl⟩

/-- A shift of user 5 on a task, between two minutes of the first day. -/
def shiftOf (taskId : Nat) (fromMinute toMinute : Int) : Action :=
  .scheduleFromShifts
    { taskId := taskId
      priority := none
      parentScheduledTaskId := none
      shifts := [
        { resourceAssignmentId := 1
          tenantUserId := 5
          plannedStartUtc := fromMinute * oneMinute
          plannedEndUtc := toMinute * oneMinute
          sequenceNo := none }] }

end Runs

end CoreApi.Scheduler
