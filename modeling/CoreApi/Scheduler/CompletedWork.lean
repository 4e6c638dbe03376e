import CoreApi.Scheduler.JobQueue

/-!
# Completed work

A start job and an end job of one row are delivered each on its own. What keeps the end
from completing a row that never ran is the order of the two, and that the start was
not deferred.
-/

namespace CoreApi.Scheduler

open CoreApi.Foundation Automation SchedulerService Runs

variable {env : Environment}

/-- A start of the row at an instant was logged. -/
def WasStarted (w : World) (row : ScheduledTaskEntity) (startedAt : Int) : Prop :=
  ∃ event ∈ w.events, event.kind = .runStart ∧ event.scheduledTaskId = row.scheduledTaskId ∧
    event.whenUtc = startedAt

/-- A deferred start of the row was logged. -/
def WasDeferred (w : World) (row : ScheduledTaskEntity) : Prop :=
  ∃ event ∈ w.events, event.kind = .deferred ∧ event.scheduledTaskId = row.scheduledTaskId

/-- A job of the row is on the queue. -/
def Pending (w : World) (name : JobName) (row : ScheduledTaskEntity) : Prop :=
  ∃ job ∈ w.queue, job.name = name ∧ job.scheduledTaskId = row.scheduledTaskId ∧
    tokenOf name row = some job.token

/-- The row ran from an earlier start on. -/
def Ran (w : World) (row : ScheduledTaskEntity) : Prop :=
  ∃ startedAt endedAt, row.actualStartUtc = some startedAt ∧ row.actualEndUtc = some endedAt ∧
    startedAt ≤ endedAt ∧ WasStarted w row startedAt

/-- Only work that ran is completed. -/
def CompletedRan (w : World) : Prop :=
  ∀ row ∈ w.scheduledTasks.rows, row.status = .completed → Ran w row

/-- An end job is delivered to its row when no start job of the row is on the queue any
more and no start of it was deferred. -/
def EndsLast (w : World) : Action → Prop
  | .deliver jobId => ∀ job ∈ w.queue, job.jobId = jobId → job.dueAt ≤ w.now →
      job.name = .taskEnd → ∀ row ∈ w.scheduledTasks.rows, Awaits w job row →
        ¬ Pending w .taskStart row ∧ ¬ WasDeferred w row
  | _ => True

/-- A write of the process host. -/
def IsHostWrite : Action → Prop
  | .processStarted _ | .stepStateChanged _ _ | .processCompleted _ => True
  | _ => False

instance (w : World) (row : ScheduledTaskEntity) (startedAt : Int) :
    Decidable (WasStarted w row startedAt) :=
  inferInstanceAs (Decidable (∃ event ∈ w.events, _))

instance (w : World) (row : ScheduledTaskEntity) : Decidable (WasDeferred w row) :=
  inferInstanceAs (Decidable (∃ event ∈ w.events, _))

instance (w : World) (name : JobName) (row : ScheduledTaskEntity) :
    Decidable (Pending w name row) :=
  inferInstanceAs (Decidable (∃ job ∈ w.queue, _))

instance (w : World) (row : ScheduledTaskEntity) : Decidable (Ran w row) :=
  decidable_of_iff (∃ startedAt ∈ row.actualStartUtc, ∃ endedAt ∈ row.actualEndUtc,
      startedAt ≤ endedAt ∧ WasStarted w row startedAt)
    ⟨fun ⟨startedAt, start, endedAt, stop, both⟩ => ⟨startedAt, endedAt, start, stop, both⟩,
      fun ⟨startedAt, endedAt, start, stop, both⟩ => ⟨startedAt, start, endedAt, stop, both⟩⟩

instance (w : World) : Decidable (CompletedRan w) :=
  inferInstanceAs (Decidable (∀ row ∈ w.scheduledTasks.rows, _ → _))

instance (w : World) : ∀ action, Decidable (EndsLast w action)
  | .deliver _ =>
      inferInstanceAs (Decidable (∀ job ∈ w.queue, _ → _ → _ → ∀ row ∈ w.scheduledTasks.rows,
        _ → _))
  | .scheduleTaskWindow _ | .scheduleFromShifts _ | .reschedule _ _ _ | .pause _ _ | .resume _
  | .cancel _ | .failed _ _ _ | .processStarted _ | .stepStateChanged _ _ | .processCompleted _
  | .pass _ => inferInstanceAs (Decidable True)

/-! ## What a row is owed -/

/-- Rows that wait for their end are yet to start, were deferred or have started. -/
structure Accounted (w : World) : Prop where
  started : ∀ row ∈ w.scheduledTasks.rows, ∀ startedAt, row.actualStartUtc = some startedAt →
    startedAt ≤ w.now ∧ WasStarted w row startedAt
  owed : ∀ row ∈ w.scheduledTasks.rows, row.isActive = true → Pending w .taskEnd row →
    Pending w .taskStart row ∨ WasDeferred w row ∨ row.actualStartUtc.isSome = true
  completed : ∀ row ∈ w.scheduledTasks.rows, row.status = .completed →
    ∃ startedAt endedAt, row.actualStartUtc = some startedAt ∧ row.actualEndUtc = some endedAt ∧
      startedAt ≤ endedAt

theorem Accounted.ran {w : World} (accounted : Accounted w) : CompletedRan w := by
  intro row member completed
  obtain ⟨startedAt, endedAt, start, stop, ordered⟩ := accounted.completed row member completed
  exact ⟨startedAt, endedAt, start, stop, ordered, (accounted.started row member _ start).2⟩

/-- What an action made of a row. -/
structure Followed (w after : World) (old row : ScheduledTaskEntity) : Prop where
  started : row.actualStartUtc = old.actualStartUtc ∨
    row.actualStartUtc = some w.now ∧ WasStarted after row w.now
  owed : row.isActive = true → Pending after .taskEnd row → old.isActive = true ∧
    Pending w .taskEnd old ∧ (Pending w .taskStart old →
      Pending after .taskStart row ∨ WasDeferred after row ∨ row.actualStartUtc.isSome = true)
  completed : row.status = .completed →
    (old.status = .completed ∧ row.actualStartUtc = old.actualStartUtc ∧
      row.actualEndUtc = old.actualEndUtc) ∨
    (row.actualEndUtc = some w.now ∧ row.actualStartUtc.isSome = true ∧
      row.actualStartUtc = old.actualStartUtc)

section Effects

variable {w after : World}

theorem WasStarted.later {old row : ScheduledTaskEntity} {startedAt : Int}
    (was : WasStarted w old startedAt) (events : w.events <+: after.events)
    (same : old.scheduledTaskId = row.scheduledTaskId) : WasStarted after row startedAt := by
  obtain ⟨event, member, kind, ofRow, time⟩ := was
  exact ⟨event, events.subset member, kind, ofRow.trans same, time⟩

theorem WasDeferred.later {old row : ScheduledTaskEntity} (was : WasDeferred w old)
    (events : w.events <+: after.events) (same : old.scheduledTaskId = row.scheduledTaskId) :
    WasDeferred after row := by
  obtain ⟨event, member, kind, ofRow⟩ := was
  exact ⟨event, events.subset member, kind, ofRow.trans same⟩

/-- Rows that are followed stay accounted for. -/
theorem Accounted.images (accounted : Accounted w) (now : w.now ≤ after.now)
    (events : w.events <+: after.events)
    (images : w.scheduledTasks.Images (Followed w after) after.scheduledTasks) :
    Accounted after := by
  constructor
  · intro row member startedAt start
    obtain ⟨old, oldMember, same, followed⟩ := images row member
    rcases followed.started with kept | ⟨isNow, was⟩
    · obtain ⟨earlier, was⟩ := accounted.started old oldMember startedAt (kept ▸ start)
      exact ⟨earlier.trans now, was.later events same⟩
    · obtain rfl := Option.some.inj (isNow.symm.trans start)
      exact ⟨now, was⟩
  · intro row member active isPending
    obtain ⟨old, oldMember, same, followed⟩ := images row member
    obtain ⟨wasActive, wasPending, start⟩ := followed.owed active isPending
    rcases accounted.owed old oldMember wasActive wasPending with waits | was | ran
    · exact start waits
    · exact .inr (.inl (was.later events same))
    · refine .inr (.inr ?_)
      rcases followed.started with kept | ⟨isNow, _⟩
      · rw [kept]
        exact ran
      · rw [isNow]
        rfl
  · intro row member completed
    obtain ⟨old, oldMember, same, followed⟩ := images row member
    rcases followed.completed completed with ⟨was, start, stop⟩ | ⟨stop, ran, start⟩
    · rw [start, stop]
      exact accounted.completed old oldMember was
    · obtain ⟨startedAt, isStart⟩ := Option.isSome_iff_exists.mp ran
      have earlier := (accounted.started old oldMember startedAt (start ▸ isStart)).1
      exact ⟨startedAt, w.now, isStart, stop, earlier⟩

/-- A row that keeps its tokens and its actual times, and is not completed anew. -/
structure Untouched (old row : ScheduledTaskEntity) : Prop where
  startJobToken : row.startJobToken = old.startJobToken
  endJobToken : row.endJobToken = old.endJobToken
  actualStartUtc : row.actualStartUtc = old.actualStartUtc
  actualEndUtc : row.actualEndUtc = old.actualEndUtc
  active : row.isActive = true → old.isActive = true
  completed : row.status = .completed → old.status = .completed

theorem Untouched.refl (row : ScheduledTaskEntity) : Untouched row row :=
  ⟨rfl, rfl, rfl, rfl, id, id⟩

/-- Jobs of a row stay where the queue does and the row keeps its tokens. -/
theorem Pending.moved {name : JobName} {old row : ScheduledTaskEntity}
    (queue : ∀ job ∈ w.queue, job.name = name → job.scheduledTaskId = old.scheduledTaskId →
      tokenOf name old = some job.token → job ∈ after.queue)
    (same : old.scheduledTaskId = row.scheduledTaskId) (token : tokenOf name row = tokenOf name old)
    (isPending : Pending w name old) : Pending after name row := by
  obtain ⟨job, onQueue, isName, ofRow, isToken⟩ := isPending
  exact ⟨job, queue job onQueue isName ofRow isToken, isName, ofRow.trans same,
    token.trans isToken⟩

theorem Untouched.followed {old row : ScheduledTaskEntity} (untouched : Untouched old row)
    (same : old.scheduledTaskId = row.scheduledTaskId) (queue : after.queue = w.queue) :
    Followed w after old row where
  started := .inl untouched.actualStartUtc
  owed active isPending :=
    ⟨untouched.active active,
      isPending.moved (fun _ onQueue _ _ _ => queue ▸ onQueue) same.symm untouched.endJobToken.symm,
      fun waits => .inl
        (waits.moved (fun _ onQueue _ _ _ => queue ▸ onQueue) same untouched.startJobToken)⟩
  completed completed :=
    .inl ⟨untouched.completed completed, untouched.actualStartUtc, untouched.actualEndUtc⟩

/-- An update that touches no row, on a queue that stays. -/
theorem Accounted.update {p : ScheduledTaskEntity → Bool}
    {set : ScheduledTaskEntity → ScheduledTaskEntity}
    {keeps : ∀ row, Keyed.key (set row) = Keyed.key row} (accounted : Accounted w)
    (framed : Framed w after) (rows : after.scheduledTasks = w.scheduledTasks.update p set keeps)
    (untouched : ∀ row, Untouched row (set row)) : Accounted after := by
  refine accounted.images framed.now.ge framed.events ?_
  rw [rows]
  exact fun row member =>
    have ⟨old, oldMember, same, kept⟩ :=
      Table.images_update Untouched.refl (fun row _ _ => untouched row) row member
    ⟨old, oldMember, same, kept.followed same framed.queue⟩

theorem Accounted.same (accounted : Accounted w)
    (rows : after.scheduledTasks = w.scheduledTasks) (queue : after.queue = w.queue)
    (now : w.now ≤ after.now) (events : w.events <+: after.events) : Accounted after := by
  refine accounted.images now events fun row member => ⟨row, rows ▸ member, rfl, ?_⟩
  exact (Untouched.refl row).followed rfl queue

theorem Accounted.append {row : ScheduledTaskEntity} (accounted : Accounted w)
    (rows : after.scheduledTasks.rows = w.scheduledTasks.rows ++ [row])
    (now : after.now = w.now) (events : w.events <+: after.events)
    (queue : ∀ job ∈ w.queue, job ∈ after.queue)
    (others : ∀ other ∈ w.scheduledTasks.rows, Pending after .taskEnd other →
      Pending w .taskEnd other)
    (notStarted : row.actualStartUtc = none) (notCompleted : row.status ≠ .completed)
    (owed : Pending after .taskEnd row → Pending after .taskStart row) : Accounted after := by
  have cases : ∀ other ∈ after.scheduledTasks.rows,
      other ∈ w.scheduledTasks.rows ∨ other = row := fun other member =>
    (List.mem_append.mp (rows ▸ member)).imp_right List.mem_singleton.mp
  constructor
  · intro other member startedAt start
    rcases cases other member with known | rfl
    · obtain ⟨earlier, was⟩ := accounted.started other known startedAt start
      exact ⟨now ▸ earlier, was.later events rfl⟩
    · rw [notStarted] at start
      cases start
  · intro other member active isPending
    rcases cases other member with known | rfl
    · rcases accounted.owed other known active (others other known isPending) with waits | was | ran
      · exact .inl (waits.moved (fun job onQueue _ _ _ => queue job onQueue) rfl rfl)
      · exact .inr (.inl (was.later events rfl))
      · exact .inr (.inr ran)
    · exact .inl (owed isPending)
  · intro other member completed
    rcases cases other member with known | rfl
    · exact accounted.completed other known completed
    · exact absurd completed notCompleted

/-- A shift is owed its start. -/
theorem ShiftPlaced.accounted {input : ScheduleFromShiftsInput} {ctx : TaskContext}
    {prevChildEndUtc : Option Int} {s : ShiftInput} {created : CreatedShift} {window : Window}
    (placed : ShiftPlaced env input ctx prevChildEndUtc s w created after window)
    (sound : QueueSound w) (accounted : Accounted w) : Accounted after := by
  have jobs := placed.jobs sound
  refine accounted.append placed.rows placed.now placed.events
    (fun job onQueue => jobs ▸ List.mem_append_left _ onQueue) ?_ rfl (by nofun) ?_
  · rintro other known ⟨job, onQueue, isEnd, ofRow, token⟩
    rw [jobs] at onQueue
    rcases List.mem_append.mp onQueue with earlier | new
    · exact ⟨job, earlier, isEnd, ofRow, token⟩
    · have isNew : job.scheduledTaskId = w.scheduledTasks.autoIncrement := by
        rcases List.mem_pair.mp new with rfl | rfl <;> rfl
      have old : other.scheduledTaskId < w.scheduledTasks.autoIncrement :=
        (w.scheduledTasks.bounded other known).2
      exact absurd (isNew.symm.trans ofRow) (Nat.ne_of_gt old)
  · refine fun _ => ⟨jobOf .taskStart (shiftRow env input ctx s window w) w.nextUuid w.now
      window.start, ?_, rfl, rfl, rfl⟩
    rw [jobs]
    exact List.mem_append_right _ List.mem_cons_self

theorem Placed.accounted {input : ScheduleFromShiftsInput} {ctx : TaskContext}
    {prevChildEndUtc : Option Int} {shifts : List ShiftInput}
    (placed : Placed env input ctx prevChildEndUtc shifts w after) (sound : QueueSound w)
    (accounted : Accounted w) : Accounted after := by
  induction placed with
  | done => exact accounted
  | raised _ idle => exact accounted.same idle.rows idle.queue idle.now.ge idle.events
  | place _ placed _ ih =>
      exact ih (placed.queueSound sound) (placed.accounted sound accounted)

/-! ## Deliveries -/

section Deliveries

variable {job : Job}

theorem Untouched.delivered {old row : ScheduledTaskEntity} (untouched : Untouched old row)
    (sound : QueueSound w) (onQueue : job ∈ w.queue) (queue : after.queue = doneQueue job w.queue)
    (same : old.scheduledTaskId = row.scheduledTaskId)
    (start : job.name = .taskStart → old.scheduledTaskId = job.scheduledTaskId →
      old.isActive = true → old.startJobToken = some job.token →
        WasDeferred after row ∨ row.actualStartUtc.isSome = true) : Followed w after old row where
  started := .inl untouched.actualStartUtc
  owed active isPending := by
    have removed := sound.removed job onQueue
    refine ⟨untouched.active active, isPending.moved (fun other isOther _ _ _ => ?_) same.symm
      untouched.endJobToken.symm, fun waits => ?_⟩
    · rw [queue] at isOther
      exact ((mem_doneQueue removed).mp isOther).1
    · obtain ⟨other, otherOnQueue, isStart, ofRow, token⟩ := waits
      by_cases isJob : other.jobId = job.jobId
      · obtain rfl := sound.eq_of_jobId otherOnQueue onQueue isJob
        exact .inr (start isStart ofRow.symm (untouched.active active) token)
      · refine .inl ⟨other, ?_, isStart, ofRow.trans same, untouched.startJobToken.trans token⟩
        rw [queue]
        exact (mem_doneQueue removed).mpr ⟨otherOnQueue, isJob⟩
  completed completed :=
    .inl ⟨untouched.completed completed, untouched.actualStartUtc, untouched.actualEndUtc⟩

theorem followed_other {row : ScheduledTaskEntity} (sound : QueueSound w) (onQueue : job ∈ w.queue)
    (queue : after.queue = doneQueue job w.queue)
    (different : row.scheduledTaskId ≠ job.scheduledTaskId) : Followed w after row row :=
  (Untouched.refl row).delivered sound onQueue queue rfl fun _ same => absurd same different

/-- A job that is due, an end job only when nothing is owed to its row any more, leaves all
rows accounted for. -/
theorem Processed.accounted {between : World} (processed : Processed env w job between)
    (sound : QueueSound w) (accounted : Accounted w) (onQueue : job ∈ w.queue)
    (due : job.dueAt ≤ w.now) (last : EndsLast w (.deliver job.jobId)) :
    Accounted { between with queue := doneQueue job between.queue } := by
  obtain ⟨same, now, _, events⟩ := processed.queue sound onQueue
  have queue : doneQueue job between.queue = doneQueue job w.queue := congrArg (doneQueue job) same
  refine accounted.images now.ge events ?_
  cases processed with
  | ignored noOne idle =>
      intro row member
      have known : row ∈ w.scheduledTasks.rows := idle.rows ▸ member
      refine ⟨row, known, rfl, (Untouched.refl row).delivered sound onQueue queue rfl ?_⟩
      intro isStart ofJob active token
      refine absurd ⟨Table.find?_eq_some.mpr ⟨known, ofJob⟩, active, ?_⟩ (noOne row)
      rw [isStart]
      exact token
  | started row awaits isStart _ _ logged rows =>
      intro other member
      rcases Table.mem_updateAt.mp (rows ▸ member) with ⟨old, known, isRow, rfl⟩ | ⟨known, notRow⟩
      · obtain rfl := Table.eq_of_key_eq known (Table.mem_of_find? awaits.found) isRow
        refine ⟨old, known, rfl, .inr ⟨rfl, logged⟩, fun _ isPending => ⟨awaits.active, ?_,
          fun _ => .inr (.inr rfl)⟩, nofun⟩
        refine isPending.moved (fun _ isOther _ _ _ => ?_) rfl rfl
        rw [queue] at isOther
        exact ((mem_doneQueue (sound.removed job onQueue)).mp isOther).1
      · exact ⟨other, known, rfl, followed_other sound onQueue queue (awaits.id ▸ notRow)⟩
  | deferred row awaits _ _ nextUtc _ rows logged =>
      intro other member
      rcases Table.mem_updateAt.mp (rows ▸ member) with ⟨old, known, isRow, rfl⟩ | ⟨known, notRow⟩
      · obtain rfl := Table.eq_of_key_eq known (Table.mem_of_find? awaits.found) isRow
        refine ⟨old, known, rfl, Untouched.delivered ⟨rfl, rfl, rfl, rfl, id, nofun⟩ sound onQueue
          queue rfl fun _ _ _ _ => .inl logged⟩
      · exact ⟨other, known, rfl, followed_other sound onQueue queue (awaits.id ▸ notRow)⟩
  | ended row awaits isEnd _ rows =>
      intro other member
      rcases Table.mem_updateAt.mp (rows ▸ member) with ⟨old, known, isRow, rfl⟩ | ⟨known, notRow⟩
      · obtain rfl := Table.eq_of_key_eq known (Table.mem_of_find? awaits.found) isRow
        have token : tokenOf .taskEnd old = some job.token := isEnd ▸ awaits.token
        have owed := accounted.owed old known awaits.active
          ⟨job, onQueue, isEnd, awaits.id.symm, token⟩
        obtain ⟨notWaiting, notDeferred⟩ := last job onQueue rfl due isEnd old known awaits
        have ran := (owed.resolve_left notWaiting).resolve_left notDeferred
        exact ⟨old, known, rfl, .inl rfl, nofun, fun _ => .inr ⟨rfl, ran, rfl⟩⟩
      · exact ⟨other, known, rfl, followed_other sound onQueue queue (awaits.id ▸ notRow)⟩

end Deliveries

theorem Effect.accounted {action : Action} (effect : Effect env w action after)
    (sound : QueueSound w) (accounted : Accounted w) (unhosted : ¬ IsHostWrite action)
    (last : EndsLast w action) : Accounted after := by
  cases effect with
  | kept _ idle => exact accounted.same idle.rows idle.queue idle.now.ge idle.events
  | passed millis rows queue _ events now =>
      exact accounted.same rows queue (now ▸ Int.le_add_of_nonneg_right (Int.natCast_nonneg millis))
        (events ▸ List.prefix_rfl)
  | windowed _ row _ _ scheduled notStarted _ _ framed _ rows endToken =>
      refine accounted.append rows framed.now framed.events
        (fun job onQueue => framed.queue ▸ onQueue)
        (fun other _ isPending =>
          isPending.moved (fun _ onQueue _ _ _ => framed.queue ▸ onQueue) rfl rfl)
        notStarted (by rw [scheduled]; nofun) ?_
      rintro ⟨job, onQueue, _, _, token⟩
      have drawn := sound.drawn job (framed.queue ▸ onQueue)
      have new : w.nextUuid + 1 = job.token := Option.some.inj (endToken.symm.trans token)
      omega
  | shifted _ _ _ placed => exact placed.accounted sound accounted
  | rescheduled _ _ _ _ _ _ framed rows =>
      exact accounted.update framed rows fun _ => ⟨rfl, rfl, rfl, rfl, id, id⟩
  | paused _ _ framed rows =>
      exact accounted.update framed rows fun _ => ⟨rfl, rfl, rfl, rfl, id, nofun⟩
  | resumed _ framed rows =>
      exact accounted.update framed rows fun _ => ⟨rfl, rfl, rfl, rfl, id, nofun⟩
  | cancelled _ framed rows =>
      exact accounted.update framed rows fun _ => ⟨rfl, rfl, rfl, rfl, nofun, nofun⟩
  | undelivered => exact accounted
  | delivered _ job onQueue isJob due processed =>
      exact processed.accounted sound accounted onQueue due (isJob ▸ last)
  | failed _ _ _ framed rows =>
      exact accounted.update framed rows fun _ => ⟨rfl, rfl, rfl, rfl, id, nofun⟩
  | linked | synced | finished => exact absurd trivial unhosted

theorem Runs.Fresh.accounted (fresh : Fresh w) : Accounted w := by
  constructor <;> simp [fresh.scheduledTasks]

end Effects

/-- In a run of the scheduler whose end jobs are delivered last, only work that ran is
completed. -/
theorem completed_ran {start : World} (fresh : Fresh start) {actions : List Action}
    (unhosted : ∀ action ∈ actions, ¬ IsHostWrite action)
    (last : (system env).Guarded EndsLast start actions) :
    CompletedRan ((system env).run start actions) := by
  have kept : ∀ w action, QueueSound w ∧ Accounted w → EndsLast w action ∧ ¬ IsHostWrite action →
      QueueSound ((system env).step w action) ∧ Accounted ((system env).step w action) :=
    fun w action ⟨sound, accounted⟩ ⟨endsLast, isCall⟩ =>
      ⟨(step_effect w action).queueSound sound,
        (step_effect w action).accounted sound accounted isCall endsLast⟩
  exact (StepSystem.run_guarded kept ⟨fresh.queueSound, fresh.accounted⟩
    (last.and_actions unhosted)).2.ran

/-- A shift is started by its start job and completed by its end job. -/
theorem completed_ran_inOrder : CompletedRan
    ((system everyDay).run unscheduled [shiftOf 1 0 10, .deliver 1, .pass 600000, .deliver 2]) :=
  completed_ran fresh_unscheduled (by simp [IsHostWrite, shiftOf]) (by decide)

/-- A minute before midnight the start of a shift is deferred, and its end completes it. -/
theorem deferred_completed : Fresh unscheduled ∧
    (∀ action ∈ [shiftOf 1 0 10, .pass 86370000, .deliver 1, .deliver 2], ¬ IsHostWrite action) ∧
    ¬ CompletedRan ((system everyDay).run unscheduled
      [shiftOf 1 0 10, .pass 86370000, .deliver 1, .deliver 2]) :=
  ⟨fresh_unscheduled, by simp [IsHostWrite, shiftOf], by decide⟩

end CoreApi.Scheduler
