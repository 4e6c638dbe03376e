import CoreApi.Automation.Rows
import CoreApi.Foundation.Program
import CoreApi.Scheduler.Calendar

/-!
# Scheduled tasks

The rows the scheduler stores, the queue its jobs wait on, and the helpers of
`ScheduledTasksService`. Nothing here runs in a transaction: every write is
committed when it is made.
-/

namespace CoreApi.Scheduler

open CoreApi.Foundation Automation

/-! ## Rows -/

/-- `BlockReason`. -/
inductive BlockReason where
  | none | calendar | dependency
deriving DecidableEq

/-- `scheduled_tasks`. -/
structure ScheduledTaskEntity where
  scheduledTaskId : Nat
  parentScheduledTaskId : Option Nat
  tenantId : Nat
  tenantUserId : Option Nat
  taskId : Nat
  processInstanceId : Option Nat
  taskStatusId : Nat
  requestedStartUtc : Int
  requestedEndUtc : Int
  effectiveStartUtc : Int
  effectiveEndUtc : Int
  actualStartUtc : Option Int
  actualEndUtc : Option Int
  tzUsed : String
  dependencyGateUtc : Option Int
  blockedUntilUtc : Option Int
  blockReason : BlockReason
  startJobToken : Option Nat
  endJobToken : Option Nat
  startJobId : Option Nat
  endJobId : Option Nat
  lastError : Option String
  status : ScheduledTaskStatus
  priority : Nat
  isActive : Bool
  version : Nat
  updatedBy : Option Nat
deriving DecidableEq

/-- `scheduled_task_history`: the columns `HistoryService.snapshot` copies. -/
structure ScheduledTaskHistory where
  scheduledTaskId : Nat
  version : Nat
  tenantId : Nat
  tenantUserId : Option Nat
  taskId : Nat
  taskStatusId : Nat
  requestedStartUtc : Int
  requestedEndUtc : Int
  effectiveStartUtc : Int
  effectiveEndUtc : Int
  tzUsed : String
  dependencyGateUtc : Option Int
  blockedUntilUtc : Option Int
  blockReason : BlockReason
  status : ScheduledTaskStatus
  priority : Nat
deriving DecidableEq

/-- The kinds of `scheduled_task_events` the scheduler emits. -/
inductive EventKind where
  | enqueuedStart | enqueuedEnd | runStart | runEnd | deferred | failed
deriving DecidableEq

/-- `scheduled_task_events`. -/
structure ScheduledTaskEvent where
  scheduledTaskId : Nat
  kind : EventKind
  whenUtc : Int
  details : Json
  jobId : Option Nat
deriving DecidableEq

/-- `resource_assignment_shifts`. -/
structure ResourceAssignmentShift where
  shiftId : Nat
  resourceAssignmentId : Nat
  tenantUserId : Nat
  sequenceNo : Int
  plannedStartUtc : Int
  plannedEndUtc : Int
  scheduledTaskId : Option Nat
deriving DecidableEq

/-- `DependencyType`. -/
inductive DependencyType where
  | fs | ss | ff | sf
deriving DecidableEq

/-- `task_dependencies`. -/
structure TaskDependency where
  taskId : Nat
  dependsOnTaskId : Nat
  dependencyType : DependencyType
deriving DecidableEq

instance : Keyed ScheduledTaskEntity where
  key := ScheduledTaskEntity.scheduledTaskId
  withKey n row := { row with scheduledTaskId := n }
  key_withKey _ _ := rfl

instance : Keyed ResourceAssignmentShift where
  key := ResourceAssignmentShift.shiftId
  withKey n row := { row with shiftId := n }
  key_withKey _ _ := rfl

/-! ## State -/

/-- The two jobs of a schedule. -/
inductive JobName where
  | taskStart | taskEnd
deriving DecidableEq

/-- `task.start`, `task.end`. -/
def JobName.text : JobName → String
  | .taskStart => "task.start"
  | .taskEnd => "task.end"

/-- A job on the queue `task-scheduler`; `dueAt` is when its delay is over. -/
structure Job where
  jobId : Nat
  name : JobName
  scheduledTaskId : Nat
  taskId : Option Nat
  token : Nat
  dueAt : Int
  priority : Nat
  removeOnComplete : Bool
deriving DecidableEq

/-- A request to the process engine: `AttachProcessToScheduledTaskParams`. -/
structure AttachProcessParams where
  tenantId : Nat
  createdBy : Nat
  scheduledTaskId : Nat
  processTemplateId : Nat
  taskId : Nat
deriving DecidableEq

/-- The tables of the scheduler, its queue, the processes it asked the engine for,
the tokens drawn so far and the clock. -/
structure World where
  scheduledTasks : Table ScheduledTaskEntity
  shifts : Table ResourceAssignmentShift
  resourceAssignments : List Nat
  taskDependencies : List TaskDependency
  history : List ScheduledTaskHistory
  events : List ScheduledTaskEvent
  queue : List Job
  attachRequests : List AttachProcessParams
  nextUuid : Nat
  now : Int

/-- A service call; what it raises is the message of the exception. -/
abbrev Tx (α : Type) := Program World String α

/-- `new Date()`. -/
def now : Tx Int := Program.read World.now

/-- `randomUUID()`: a token is the number of its draw. -/
def randomUuid : Tx Nat :=
  Program.writeReturning fun w => (w.nextUuid, { w with nextUuid := w.nextUuid + 1 })

/-- The world in which a job was added: one whose id is on the queue is not added again. -/
def World.enqueued (w : World) (job : Job) : World :=
  { w with
    queue :=
      if w.queue.any fun other => other.jobId == job.jobId then w.queue else w.queue ++ [job] }

/-- `queue.add`. -/
def enqueue (job : Job) : Tx Unit := Program.write fun w => w.enqueued job

/-- `msUntil`. -/
def msUntil (now instant : Int) : Int := max 0 (instant - now)

/-- The world in which a row was copied to the history. -/
def World.withSnapshot (w : World) (row : ScheduledTaskEntity) : World :=
  { w with
    history := w.history ++
      [{ scheduledTaskId := row.scheduledTaskId
         version := row.version
         tenantId := row.tenantId
         tenantUserId := row.tenantUserId
         taskId := row.taskId
         taskStatusId := row.taskStatusId
         requestedStartUtc := row.requestedStartUtc
         requestedEndUtc := row.requestedEndUtc
         effectiveStartUtc := row.effectiveStartUtc
         effectiveEndUtc := row.effectiveEndUtc
         tzUsed := row.tzUsed
         dependencyGateUtc := row.dependencyGateUtc
         blockedUntilUtc := row.blockedUntilUtc
         blockReason := row.blockReason
         status := row.status
         priority := row.priority }] }

/-- `HistoryService.snapshot`. -/
def snapshot (row : ScheduledTaskEntity) : Tx Unit := Program.write fun w => w.withSnapshot row

/-- The world in which an event was stored. -/
def World.withEvent (w : World) (scheduledTaskId : Nat) (kind : EventKind) (details : Json)
    (jobId : Option Nat) : World :=
  { w with
    events := w.events ++
      [{ scheduledTaskId := scheduledTaskId
         kind := kind
         whenUtc := w.now
         details := details
         jobId := jobId }] }

/-- `EventsService.emit`. -/
def emit (scheduledTaskId : Nat) (kind : EventKind) (details : Json) (jobId : Option Nat) :
    Tx Unit :=
  Program.write fun w => w.withEvent scheduledTaskId kind details jobId

/-! ## Writing rows -/

/-- `UPDATE scheduled_tasks SET … WHERE p`. -/
def updateRows (p : ScheduledTaskEntity → Bool) (set : ScheduledTaskEntity → ScheduledTaskEntity)
    (keeps : ∀ row, (set row).scheduledTaskId = row.scheduledTaskId) : Tx Unit :=
  Program.write fun w => { w with scheduledTasks := w.scheduledTasks.update p set keeps }

/-- `UPDATE scheduled_tasks SET … WHERE scheduled_task_id = ?`. -/
def updateRow (scheduledTaskId : Nat) (set : ScheduledTaskEntity → ScheduledTaskEntity)
    (keeps : ∀ row, (set row).scheduledTaskId = row.scheduledTaskId) : Tx Unit :=
  updateRows (fun row => row.scheduledTaskId == scheduledTaskId) set keeps

section Rules

variable {ok : Unit → World → Prop} {err : String → World → Prop} {w : World}

@[simp] theorem wp_now (ok : Int → World → Prop) :
    Program.wp now ok err w ↔ ok w.now w := Iff.rfl

@[simp] theorem wp_randomUuid (ok : Nat → World → Prop) :
    Program.wp randomUuid ok err w ↔ ok w.nextUuid { w with nextUuid := w.nextUuid + 1 } := Iff.rfl

@[simp] theorem wp_enqueue (job : Job) :
    Program.wp (enqueue job) ok err w ↔ ok () (w.enqueued job) := Iff.rfl

@[simp] theorem wp_snapshot (row : ScheduledTaskEntity) :
    Program.wp (snapshot row) ok err w ↔ ok () (w.withSnapshot row) := Iff.rfl

@[simp] theorem wp_emit (scheduledTaskId : Nat) (kind : EventKind) (details : Json)
    (jobId : Option Nat) :
    Program.wp (emit scheduledTaskId kind details jobId) ok err w ↔
      ok () (w.withEvent scheduledTaskId kind details jobId) := Iff.rfl

@[simp] theorem World.enqueued_scheduledTasks (job : Job) :
    (w.enqueued job).scheduledTasks = w.scheduledTasks := rfl

@[simp] theorem World.withSnapshot_scheduledTasks (row : ScheduledTaskEntity) :
    (w.withSnapshot row).scheduledTasks = w.scheduledTasks := rfl

@[simp] theorem World.withEvent_scheduledTasks (scheduledTaskId : Nat) (kind : EventKind)
    (details : Json) (jobId : Option Nat) :
    (w.withEvent scheduledTaskId kind details jobId).scheduledTasks = w.scheduledTasks := rfl

@[simp] theorem wp_updateRows (p : ScheduledTaskEntity → Bool)
    (set : ScheduledTaskEntity → ScheduledTaskEntity)
    (keeps : ∀ row, (set row).scheduledTaskId = row.scheduledTaskId) :
    Program.wp (updateRows p set keeps) ok err w ↔
      ok () { w with scheduledTasks := w.scheduledTasks.update p set keeps } := Iff.rfl

@[simp] theorem wp_updateRow (scheduledTaskId : Nat)
    (set : ScheduledTaskEntity → ScheduledTaskEntity)
    (keeps : ∀ row, (set row).scheduledTaskId = row.scheduledTaskId) :
    Program.wp (updateRow scheduledTaskId set keeps) ok err w ↔
      ok () { w with scheduledTasks := w.scheduledTasks.updateAt scheduledTaskId set keeps } :=
  Iff.rfl

end Rules

/-- The check constraints of the table, in the order of their declaration. -/
def checkWindows (row : ScheduledTaskEntity) : Except String Unit :=
  if row.requestedEndUtc < row.requestedStartUtc then
    .error "Check constraint 'chk_requested_window' is violated."
  else if row.effectiveEndUtc < row.effectiveStartUtc then
    .error "Check constraint 'chk_effective_window' is violated."
  else .ok ()

namespace ScheduledTasksService

/-- The row `createActive` makes of a partial one, whose version is 0 where it has none. -/
def activeRow (partialRow : ScheduledTaskEntity) : ScheduledTaskEntity :=
  { partialRow with
    isActive := true
    status := .scheduled
    version := partialRow.version + 1 }

/-- `createActive`. -/
def createActive (partialRow : ScheduledTaskEntity) : Tx ScheduledTaskEntity := do
  Program.lift (checkWindows (activeRow partialRow))
  Program.writeReturning fun w =>
    (Keyed.withKey w.scheduledTasks.autoIncrement (activeRow partialRow),
      { w with scheduledTasks := w.scheduledTasks.insert (activeRow partialRow) })

/-- `markQueued`. -/
def markQueued (id : Nat) (startJobId endJobId : Option Nat) : Tx Unit :=
  updateRow id
    (fun row => { row with status := .queued, startJobId := startJobId, endJobId := endJobId })
    (fun _ => rfl)

/-- `markRunning`. -/
def markRunning (id : Nat) (time : Int) : Tx Unit :=
  updateRow id (fun row => { row with actualStartUtc := some time, status := .running })
    (fun _ => rfl)

/-- `markCompleted`. -/
def markCompleted (id : Nat) (time : Int) : Tx Unit :=
  updateRow id
    (fun row => { row with actualEndUtc := some time, status := .completed, isActive := false })
    (fun _ => rfl)

/-- `pauseUntil`. -/
def pauseUntil (id : Nat) (untilUtc : Int) (reason : BlockReason) : Tx Unit :=
  updateRow id
    (fun row => { row with
      blockedUntilUtc := some untilUtc, blockReason := reason, status := .paused })
    (fun _ => rfl)

/-- `resume`. -/
def resume (id : Nat) : Tx Unit :=
  updateRow id
    (fun row => { row with blockedUntilUtc := none, blockReason := .none, status := .scheduled })
    (fun _ => rfl)

/-- `(s.effective_start_utc < :to) AND (s.effective_end_utc > :from)`. -/
def overlaps (row : ScheduledTaskEntity) (fromUtc toUtc : Int) : Bool :=
  decide (row.effectiveStartUtc < toUtc) && decide (fromUtc < row.effectiveEndUtc)

/-- `findUserOverlaps`. -/
def findUserOverlaps (rows : Table ScheduledTaskEntity) (tenantUserId : Nat)
    (fromUtc toUtc : Int) : List ScheduledTaskEntity :=
  rows.select fun row =>
    row.tenantUserId == some tenantUserId && row.isActive && overlaps row fromUtc toUtc

/-- `findTaskChildOverlaps`. -/
def findTaskChildOverlaps (rows : Table ScheduledTaskEntity) (taskId : Nat)
    (fromUtc toUtc : Int) : List ScheduledTaskEntity :=
  rows.select fun row =>
    row.taskId == taskId && row.tenantUserId.isSome && row.isActive && overlaps row fromUtc toUtc

end ScheduledTasksService

end CoreApi.Scheduler
