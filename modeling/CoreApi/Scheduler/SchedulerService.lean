import CoreApi.Automation.ProcessHost
import CoreApi.Scheduler.ScheduledTasks

/-!
# The scheduler service

Windows for tasks, serial shifts for their assignees, and the calls that move,
pause, resume and cancel a row. A call that raises keeps what it wrote before.
-/

namespace CoreApi.Scheduler

open CoreApi.Foundation Automation

/-! ## Providers -/

/-- `startConstraintType`. -/
inductive StartConstraintType where
  | asap | noEarlierThan | on | noLaterThan | mustStartOn | mustFinishOn
deriving DecidableEq

/-- What `TaskContextProvider.getTaskContext` returns. -/
structure TaskContext where
  tenantId : Nat
  taskStatusId : Nat
  startConstraintType : Option StartConstraintType
  startConstraintUtc : Option Int
  finishConstraintUtc : Option Int

/-- The providers the service is injected with, and the timezones `luxon` knows. -/
structure Environment where
  calendar : CalendarProvider
  taskContext : Nat → Option TaskContext
  zone : String → Zone

/-- The calendar of a tenant or one of its users, read in its timezone. -/
def Environment.calendarOf (env : Environment) (tenantId : Nat) (tenantUserId : Option Nat) :
    CalendarOf where
  calendar := env.calendar
  zone := env.zone (env.calendar.getTimezone tenantId tenantUserId)
  tenantId := tenantId
  tenantUserId := tenantUserId

/-- An effective window: `DateTime.max` keeps its end from lying before its start. -/
structure Window where
  start : Int
  stop : Int
  ordered : start ≤ stop

/-- A window up to a candidate for its end. -/
def Window.upTo (start endCandidate : Int) : Window :=
  ⟨start, max start endCandidate, le_max_left _ _⟩

/-- The window in which work of some duration is done from an instant on. -/
def CalendarOf.workWindow (of : CalendarOf) (fromUtc : Int) (durationMs : Int) : Window :=
  let effStart := of.nextAllowedUtc fromUtc
  .upTo effStart (of.addDurationWithinWorkingHours effStart durationMs)

/-- `diff(…)`, at least 0. -/
def durationMs (fromUtc toUtc : Int) : Int := max 0 (toUtc - fromUtc)

/-! ## Dependencies -/

namespace DependencyResolver

/-- The start and the finish of a predecessor. -/
structure Bounds where
  start : Int
  stop : Int
deriving DecidableEq

/-- Reduce the rows of a predecessor to one start and one finish. -/
def widen (current : Option Bounds) (row : ScheduledTaskEntity) : Option Bounds :=
  let start := row.actualStartUtc.getD row.effectiveStartUtc
  let stop := row.actualEndUtc.getD row.effectiveEndUtc
  match current with
  | none => some ⟨start, stop⟩
  | some current => some
      ⟨if current.start < start then current.start else start,
        if stop < current.stop then current.stop else stop⟩

/-- `byTask.get(taskId)`, over the active rows. -/
def byTask (rows : Table ScheduledTaskEntity) (taskId : Nat) : Option Bounds :=
  (rows.select fun row => row.taskId == taskId && row.isActive).foldl widen none

/-- The bound of one dependency. -/
def gateOf (dependencyType : DependencyType) (predecessor : Bounds) : Int :=
  match dependencyType with
  | .ss => predecessor.start
  | .fs | .ff | .sf => predecessor.stop

/-- `earliestGateUtc`. -/
def earliestGateUtc (w : World) (taskId : Nat) : Option Int :=
  (w.taskDependencies.filter fun dependency => dependency.taskId == taskId).foldl
    (fun gate dependency =>
      match byTask w.scheduledTasks dependency.dependsOnTaskId with
      | none => gate
      | some predecessor =>
          let thisGate := gateOf dependency.dependencyType predecessor
          some (match gate with | none => thisGate | some gate => max gate thisGate))
    none

end DependencyResolver

namespace SchedulerService

variable (env : Environment)

/-- `taskCtx.getTaskContext`. -/
def getTaskContext (taskId : Nat) : Tx TaskContext :=
  match env.taskContext taskId with
  | some ctx => pure ctx
  | none => Program.raise ("Task " ++ toString taskId ++ " not found")

/-! ## Parent windows -/

structure ScheduleTaskWindowInput where
  taskId : Nat
  requestedStartUtc : Int
  requestedEndUtc : Int
  priority : Option Nat
  parentScheduledTaskId : Option Nat
  processTemplateId : Option Nat
  createdBy : Option Nat

/-- The requested start and end behind the dependency gate. -/
def gated (depGate : Option Int) (reqStart reqEnd : Int) : Int × Int :=
  match depGate with
  | none => (reqStart, reqEnd)
  | some gate =>
      let reqStart := if reqStart < gate then gate else reqStart
      (reqStart, if reqEnd < reqStart then reqStart + oneMinute else reqEnd)

/-- The requested start and end under the constraint of the task. -/
def constrained (ctx : TaskContext) (reqStart reqEnd : Int) : Int × Int :=
  match ctx.startConstraintType, ctx.startConstraintUtc with
  | some type, some constraint =>
      match type with
      | .noEarlierThan => (if reqStart < constraint then constraint else reqStart, reqEnd)
      | .on => (constraint, reqEnd)
      | .mustStartOn => (constraint, reqEnd)
      | .noLaterThan => (reqStart, reqEnd)
      | .mustFinishOn =>
          let reqEnd := ctx.finishConstraintUtc.getD reqEnd
          (if reqEnd < reqStart then reqEnd - oneMinute else reqStart, reqEnd)
      | .asap => (reqStart, reqEnd)
  | _, _ => (reqStart, reqEnd)

/-- `attachProcessIfEnabled` is asked for where a template and a creator are given. -/
def attachProcess (input : ScheduleTaskWindowInput) (tenantId scheduledTaskId : Nat) : Tx Unit :=
  match input.processTemplateId, input.createdBy with
  | some processTemplateId, some createdBy =>
      Program.when (processTemplateId ≠ 0 ∧ createdBy ≠ 0)
        (Program.write fun w => { w with
          attachRequests := w.attachRequests ++
            [{ tenantId := tenantId
               createdBy := createdBy
               scheduledTaskId := scheduledTaskId
               processTemplateId := processTemplateId
               taskId := input.taskId }] })
  | _, _ => pure ()

/-- The row of a window: no assignee. -/
def parentRow (input : ScheduleTaskWindowInput) (ctx : TaskContext) (depGate : Option Int)
    (reqStart reqEnd : Int) (window : Window) (startJobToken endJobToken : Nat) :
    ScheduledTaskEntity where
  scheduledTaskId := 0
  parentScheduledTaskId := input.parentScheduledTaskId
  tenantId := ctx.tenantId
  tenantUserId := none
  taskId := input.taskId
  processInstanceId := none
  taskStatusId := ctx.taskStatusId
  requestedStartUtc := reqStart
  requestedEndUtc := reqEnd
  effectiveStartUtc := window.start
  effectiveEndUtc := window.stop
  actualStartUtc := none
  actualEndUtc := none
  tzUsed := env.calendar.getTimezone ctx.tenantId none
  dependencyGateUtc := depGate
  blockedUntilUtc := none
  blockReason := .none
  startJobToken := some startJobToken
  endJobToken := some endJobToken
  startJobId := none
  endJobId := none
  lastError := none
  status := .scheduled
  priority := input.priority.getD 0
  isActive := true
  version := 0
  updatedBy := none

/-- `scheduleTaskWindow`; the process it asks for is attached by the engine. -/
def scheduleTaskWindow (input : ScheduleTaskWindowInput) : Tx ScheduledTaskEntity := do
  let ctx ← getTaskContext env input.taskId
  let depGate ← Program.read fun w => DependencyResolver.earliestGateUtc w input.taskId
  let afterGate := gated depGate input.requestedStartUtc input.requestedEndUtc
  let requested := constrained ctx afterGate.1 afterGate.2
  let window := (env.calendarOf ctx.tenantId none).workWindow requested.1
    (durationMs requested.1 requested.2)
  let startJobToken ← randomUuid
  let endJobToken ← randomUuid
  let row ← ScheduledTasksService.createActive
    (parentRow env input ctx depGate requested.1 requested.2 window startJobToken endJobToken)
  snapshot row
  attachProcess input ctx.tenantId row.scheduledTaskId
  pure row

/-! ## Shifts -/

structure ShiftInput where
  resourceAssignmentId : Nat
  tenantUserId : Nat
  plannedStartUtc : Int
  plannedEndUtc : Int
  sequenceNo : Option Int
deriving DecidableEq

structure ScheduleFromShiftsInput where
  taskId : Nat
  priority : Option Nat
  parentScheduledTaskId : Option Nat
  shifts : List ShiftInput
deriving DecidableEq

/-- An element of `created`. -/
structure CreatedShift where
  shiftId : Nat
  scheduledTaskId : Nat
  effectiveStartUtc : Int
  effectiveEndUtc : Int
deriving DecidableEq

/-- `ResourceAssignmentsService.validateExistence`; `findByIds` finds each row once. -/
def validateExistence (ids : List Nat) : Tx Unit := do
  let found ← Program.read fun w => w.resourceAssignments.filter fun id => ids.contains id
  Program.when (found.length ≠ ids.length)
    (Program.raise ("Resource assignments not found: " ++
      ", ".intercalate ((ids.filter fun id => !found.contains id).map toString)))

/-- Move a shift behind the end of the one before it in the plan. -/
def behind (prevEnd : Int) (s : ShiftInput) : ShiftInput :=
  if s.plannedStartUtc < prevEnd then
    { s with
      plannedStartUtc := prevEnd
      plannedEndUtc := if s.plannedEndUtc < prevEnd then prevEnd + oneMinute else s.plannedEndUtc }
  else s

/-- Serialize the plan from its second shift on. -/
def serializeAfter : Int → List ShiftInput → List ShiftInput
  | _, [] => []
  | prevEnd, s :: rest => behind prevEnd s :: serializeAfter (behind prevEnd s).plannedEndUtc rest

/-- The shifts in the order of their numbers, none planned before the one before it ends. -/
def serializePlan (shifts : List ShiftInput) : List ShiftInput :=
  match orderBy (fun s => s.sequenceNo.getD 1) shifts with
  | [] => []
  | s :: rest => s :: serializeAfter s.plannedEndUtc rest

/-- `serialStart`. -/
def serialStart (prevChildEndUtc : Option Int) (s : ShiftInput) : Int :=
  match prevChildEndUtc with
  | some prevEnd => if s.plannedStartUtc < prevEnd then prevEnd else s.plannedStartUtc
  | none => s.plannedStartUtc

/-- `conflicts.reduce(…)`: the latest end of the conflicts. -/
def latestEnd (conflicts : List ScheduledTaskEntity) (effStart : Int) : Int :=
  conflicts.foldl (fun m r => if m < r.effectiveEndUtc then r.effectiveEndUtc else m) effStart

/-- The effective window of a shift: fitted to the calendar, and pushed once behind the
schedules of the user it conflicts with. -/
def placeShift (of : CalendarOf) (taskId : Nat) (s : ShiftInput) (serialStart : Int)
    (rows : Table ScheduledTaskEntity) : Except String Window :=
  let plannedDurationMs := durationMs s.plannedStartUtc s.plannedEndUtc
  let window := of.workWindow serialStart plannedDurationMs
  let conflicts :=
    ScheduledTasksService.findUserOverlaps rows s.tenantUserId window.start window.stop
  if conflicts.length = 0 then .ok window
  else
    let pushedStart := latestEnd conflicts window.start + oneMinute
    let pushed := of.workWindow pushedStart plannedDurationMs
    if (ScheduledTasksService.findTaskChildOverlaps rows taskId pushed.start pushed.stop).length = 0
    then .ok pushed
    else .error "Same-task child overlap after push; adjust shifts or durations."

/-- The row of a shift: the assignee is set. -/
def childRow (input : ScheduleFromShiftsInput) (ctx : TaskContext) (s : ShiftInput)
    (window : Window) (startJobToken endJobToken : Nat) : ScheduledTaskEntity where
  scheduledTaskId := 0
  parentScheduledTaskId := input.parentScheduledTaskId
  tenantId := ctx.tenantId
  tenantUserId := some s.tenantUserId
  taskId := input.taskId
  processInstanceId := none
  taskStatusId := ctx.taskStatusId
  requestedStartUtc := s.plannedStartUtc
  requestedEndUtc := s.plannedEndUtc
  effectiveStartUtc := window.start
  effectiveEndUtc := window.stop
  actualStartUtc := none
  actualEndUtc := none
  tzUsed := env.calendar.getTimezone ctx.tenantId (some s.tenantUserId)
  dependencyGateUtc := none
  blockedUntilUtc := none
  blockReason := .none
  startJobToken := some startJobToken
  endJobToken := some endJobToken
  startJobId := none
  endJobId := none
  lastError := none
  status := .scheduled
  priority := input.priority.getD 0
  isActive := true
  version := 0
  updatedBy := none

/-- A job of a created row, to be run at an instant. -/
def jobOf (name : JobName) (row : ScheduledTaskEntity) (token : Nat) (time runAt : Int) : Job where
  jobId := token
  name := name
  scheduledTaskId := row.scheduledTaskId
  taskId := some row.taskId
  token := token
  dueAt := time + msUntil time runAt
  priority := row.priority
  removeOnComplete := true

/-- `queue.add('task.start', …)` and `queue.add('task.end', …)`. -/
def enqueueJob (name : JobName) (row : ScheduledTaskEntity) (token : Nat) (runAt : Int) :
    Tx Unit := do
  let time ← now
  enqueue (jobOf name row token time runAt)

/-- One iteration of `scheduleFromShifts`. -/
def scheduleShift (input : ScheduleFromShiftsInput) (ctx : TaskContext)
    (prevChildEndUtc : Option Int) (s : ShiftInput) : Tx CreatedShift := do
  let shiftId ← Program.writeReturning fun w =>
    (w.shifts.autoIncrement, { w with
      shifts := w.shifts.insert
        { shiftId := 0
          resourceAssignmentId := s.resourceAssignmentId
          tenantUserId := s.tenantUserId
          sequenceNo := s.sequenceNo.getD 1
          plannedStartUtc := s.plannedStartUtc
          plannedEndUtc := s.plannedEndUtc
          scheduledTaskId := none } })
  let rows ← Program.read World.scheduledTasks
  let window ← Program.lift (placeShift (env.calendarOf ctx.tenantId (some s.tenantUserId))
    input.taskId s (serialStart prevChildEndUtc s) rows)
  let startJobToken ← randomUuid
  let endJobToken ← randomUuid
  let row ← ScheduledTasksService.createActive
    (childRow env input ctx s window startJobToken endJobToken)
  Program.write fun w => { w with
    shifts := w.shifts.updateAt shiftId
      (fun shift => { shift with scheduledTaskId := some row.scheduledTaskId }) (fun _ => rfl) }
  snapshot row
  enqueueJob .taskStart row startJobToken row.effectiveStartUtc
  enqueueJob .taskEnd row endJobToken row.effectiveEndUtc
  ScheduledTasksService.markQueued row.scheduledTaskId (some startJobToken) (some endJobToken)
  emit row.scheduledTaskId .enqueuedStart (.obj [("at", .num row.effectiveStartUtc)])
    (some startJobToken)
  emit row.scheduledTaskId .enqueuedEnd (.obj [("at", .num row.effectiveEndUtc)])
    (some endJobToken)
  pure
    { shiftId := shiftId
      scheduledTaskId := row.scheduledTaskId
      effectiveStartUtc := row.effectiveStartUtc
      effectiveEndUtc := row.effectiveEndUtc }

/-- The loop of `scheduleFromShifts`. -/
def scheduleShifts (input : ScheduleFromShiftsInput) (ctx : TaskContext) :
    Option Int → List ShiftInput → Tx (List CreatedShift)
  | _, [] => pure []
  | prevChildEndUtc, s :: rest => do
      let created ← scheduleShift env input ctx prevChildEndUtc s
      let others ← scheduleShifts input ctx (some created.effectiveEndUtc) rest
      pure (created :: others)

/-- `scheduleFromShifts`. -/
def scheduleFromShifts (input : ScheduleFromShiftsInput) : Tx (List CreatedShift) := do
  Program.when (input.shifts.length = 0) (Program.raise "No shifts provided")
  validateExistence (input.shifts.map ShiftInput.resourceAssignmentId)
  let ctx ← getTaskContext env input.taskId
  scheduleShifts env input ctx none (serializePlan input.shifts)

/-! ## Changing a row -/

/-- `schedRepo.findOne`. -/
def findRow (scheduledTaskId : Nat) : Tx ScheduledTaskEntity := do
  let found ← Program.read fun w => w.scheduledTasks.find? scheduledTaskId
  match found with
  | some row => pure row
  | none => Program.raise "Scheduled task not found"

/-- The window a row is moved to: each end is fitted on its own. -/
def rescheduledWindow (row : ScheduledTaskEntity) (requestedStartUtc requestedEndUtc : Int) :
    Window :=
  let of := env.calendarOf row.tenantId row.tenantUserId
  .upTo (of.nextAllowedUtc requestedStartUtc) (of.nextAllowedUtc requestedEndUtc)

/-- `reschedule`. -/
def reschedule (scheduledTaskId : Nat) (requestedStartUtc requestedEndUtc : Int) :
    Tx ScheduledTaskEntity := do
  let row ← findRow scheduledTaskId
  let window := rescheduledWindow env row requestedStartUtc requestedEndUtc
  let set := fun (row : ScheduledTaskEntity) => { row with
    requestedStartUtc := requestedStartUtc
    requestedEndUtc := requestedEndUtc
    effectiveStartUtc := window.start
    effectiveEndUtc := window.stop }
  Program.lift (checkWindows (set row))
  updateRow row.scheduledTaskId set (fun _ => rfl)
  snapshot (set row)
  pure (set row)

/-- `pause`. -/
def pause (scheduledTaskId : Nat) (pausedUntilUtc : Int) : Tx Unit := do
  let row ← findRow scheduledTaskId
  ScheduledTasksService.pauseUntil row.scheduledTaskId pausedUntilUtc .calendar

/-- `resume`. -/
def resume (scheduledTaskId : Nat) : Tx Unit := do
  let row ← findRow scheduledTaskId
  ScheduledTasksService.resume row.scheduledTaskId

/-- `cancel`. -/
def cancel (scheduledTaskId : Nat) : Tx Unit := do
  let row ← findRow scheduledTaskId
  let set := fun (row : ScheduledTaskEntity) =>
    { row with status := ScheduledTaskStatus.cancelled, isActive := false }
  updateRow row.scheduledTaskId set (fun _ => rfl)
  snapshot (set row)

end SchedulerService

end CoreApi.Scheduler
