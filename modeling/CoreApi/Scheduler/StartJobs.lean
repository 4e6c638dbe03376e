import CoreApi.Scheduler.JobQueue

/-!
# Start jobs

A start that is deferred is lost with its job. A start that runs is checked against the
calendar of the user, and against the schedule of the row only so far as the job was
queued for it: what moves a row leaves its job where it is.
-/

namespace CoreApi.Scheduler

open CoreApi.Foundation Automation SchedulerService Runs

variable {env : Environment}

/-! ## Deferred starts -/

/-- The start jobs on the queue under a token. -/
def pendingStarts (w : World) (token : Nat) : Nat :=
  w.queue.countP fun job => job.name == .taskStart && job.token == token

instance (w : World) (row : ScheduledTaskEntity) : Decidable (WithinHours env w row) :=
  decidable_of_iff (∀ tenantUserId ∈ row.tenantUserId, tenantUserId ≠ 0 →
      isWithinAnyInterval w.now ((TaskProcessor.calendarOfRow env row).intervalsOn w.now) = true)
    Iff.rfl

section Deliveries

variable {w after : World} {job : Job}

theorem Effect.delivers (effect : Effect env w (.deliver job.jobId) after) (sound : QueueSound w)
    (onQueue : job ∈ w.queue) (due : job.dueAt ≤ w.now) :
    ∃ between, Processed env w job between ∧
      after = { between with queue := doneQueue job between.queue } := by
  cases effect with
  | kept notDelivery => exact absurd rfl (notDelivery job.jobId)
  | undelivered _ none => exact absurd due (none job onQueue rfl)
  | delivered _ other otherOnQueue same _ processed =>
      obtain rfl := sound.eq_of_jobId otherOnQueue onQueue same
      exact ⟨_, processed, rfl⟩

theorem Effect.drops (effect : Effect env w (.deliver job.jobId) after) (sound : QueueSound w)
    (onQueue : job ∈ w.queue) (due : job.dueAt ≤ w.now) : pendingStarts after job.token = 0 := by
  obtain ⟨between, processed, rfl⟩ := effect.delivers sound onQueue due
  have queue := (processed.queue sound onQueue).1
  refine List.countP_eq_zero.mpr fun other member => ?_
  obtain ⟨known, different⟩ := (mem_doneQueue (sound.removed job onQueue)).mp member
  rw [queue] at known
  rw [sound.jobId other known, sound.jobId job onQueue] at different
  simp [different]

/-- The row is paused, to start later. -/
def IsDeferred (w : World) (scheduledTaskId : Nat) : Prop :=
  ∃ row ∈ w.scheduledTasks.rows, row.scheduledTaskId = scheduledTaskId ∧ row.isActive = true ∧
    row.status = .paused ∧ row.blockReason = .calendar

/-- Outside the working hours of its user a start is deferred. -/
theorem Effect.defers (effect : Effect env w (.deliver job.jobId) after) (sound : QueueSound w)
    (onQueue : job ∈ w.queue) (due : job.dueAt ≤ w.now) {row : ScheduledTaskEntity}
    (awaits : Awaits w job row) (isStart : job.name = .taskStart)
    (outside : ¬ WithinHours env w row) : IsDeferred after row.scheduledTaskId := by
  obtain ⟨between, processed, rfl⟩ := effect.delivers sound onQueue due
  have onlyRow : ∀ other, Awaits w job other → other = row := fun other isOther =>
    Option.some.inj (isOther.found.symm.trans awaits.found)
  cases processed with
  | ignored noOne => exact absurd awaits (noOne row)
  | started other isOther _ within => exact absurd (onlyRow other isOther ▸ within) outside
  | deferred other isOther _ _ nextUtc _ rows =>
      obtain rfl := onlyRow other isOther
      refine ⟨{ other with
        blockedUntilUtc := some nextUtc, blockReason := .calendar, status := .paused }, ?_,
        rfl, awaits.active, rfl, rfl⟩
      rw [rows]
      exact Table.mem_updateAt.mpr (.inl ⟨other, Table.mem_of_find? awaits.found, rfl, rfl⟩)
  | ended _ _ isEnd =>
      rw [isStart] at isEnd
      cases isEnd

end Deliveries

/-- In every state of every run, a start job that is delivered outside the working hours
of the user of its active row is deferred, and no start job is left to start the row. -/
theorem deferredStart_lost {start : World} (fresh : Fresh start) (actions : List Action)
    {w : World} (reached : (system env).run start actions = w) {job : Job}
    (onQueue : job ∈ w.queue) (due : job.dueAt ≤ w.now) {row : ScheduledTaskEntity}
    (awaits : Awaits w job row) (isStart : job.name = .taskStart)
    (outside : ¬ WithinHours env w row) :
    IsDeferred ((system env).step w (.deliver job.jobId)) row.scheduledTaskId ∧
      pendingStarts ((system env).step w (.deliver job.jobId)) job.token ≠ 1 := by
  have sound : QueueSound w := reached ▸ run_queueSound fresh actions
  have effect : Effect env w (.deliver job.jobId) _ := step_effect w (.deliver job.jobId)
  have none := effect.drops sound onQueue due
  exact ⟨effect.defers sound onQueue due awaits isStart outside, by simp [none]⟩

/-- A minute before midnight the shift of the first day is still to start. -/
def afterHours : World := (system everyDay).run unscheduled [shiftOf 1 0 10, .pass 86370000]

/-- Its start job. -/
def firstStart : Job where
  jobId := 1
  name := .taskStart
  scheduledTaskId := 1
  taskId := some 1
  token := 1
  dueAt := 0
  priority := 0
  removeOnComplete := true

theorem deferredStart_lost_afterHours :
    IsDeferred ((system everyDay).step afterHours (.deliver 1)) 1 ∧
      pendingStarts ((system everyDay).step afterHours (.deliver 1)) 1 ≠ 1 := by
  have closed : ∃ row ∈ afterHours.scheduledTasks.rows,
      Awaits afterHours firstStart row ∧ ¬ WithinHours everyDay afterHours row := by decide
  obtain ⟨row, _, awaits, outside⟩ := closed
  have onQueue : firstStart ∈ afterHours.queue := by decide
  have due : firstStart.dueAt ≤ afterHours.now := by decide
  have isFirst : row.scheduledTaskId = 1 := awaits.id
  have lost := deferredStart_lost (w := afterHours) fresh_unscheduled _ rfl onQueue due awaits rfl
    outside
  rw [isFirst] at lost
  exact lost

/-- The shift waits for its start, the start is deferred, and no start job is left. -/
theorem afterHours_lost : Fresh unscheduled ∧ firstStart ∈ afterHours.queue ∧
    (∃ row ∈ afterHours.scheduledTasks.rows,
      Awaits afterHours firstStart row ∧ ¬ WithinHours everyDay afterHours row) ∧
      pendingStarts ((system everyDay).step afterHours (.deliver 1)) 1 = 0 :=
  ⟨fresh_unscheduled, by decide, by decide, by decide⟩

/-! ## Starts that run -/

/-- What every row keeps. -/
structure SameSchedule (old row : ScheduledTaskEntity) : Prop where
  tenantId : row.tenantId = old.tenantId
  tenantUserId : row.tenantUserId = old.tenantUserId
  tzUsed : row.tzUsed = old.tzUsed
  startJobToken : row.startJobToken = old.startJobToken
  endJobToken : row.endJobToken = old.endJobToken

theorem SameSchedule.refl (row : ScheduledTaskEntity) : SameSchedule row row :=
  ⟨rfl, rfl, rfl, rfl, rfl⟩

/-- The row was stored by a shift of the action. -/
def StoredBy (env : Environment) (action : Action) (row : ScheduledTaskEntity) : Prop :=
  ∃ input ctx s window w, action = .scheduleFromShifts input ∧
    s ∈ serializePlan input.shifts ∧ row = shiftRow env input ctx s window w

section Rows

variable {w after : World}

theorem Placed.rowsFrom {input : ScheduleFromShiftsInput} {ctx : TaskContext}
    {prevChildEndUtc : Option Int} {shifts : List ShiftInput}
    (placed : Placed env input ctx prevChildEndUtc shifts w after) :
    ∀ row ∈ after.scheduledTasks.rows, row ∈ w.scheduledTasks.rows ∨
      ∃ s ∈ shifts, ∃ window between, row = shiftRow env input ctx s window between := by
  induction placed with
  | done => exact fun row member => .inl member
  | raised _ idle => exact fun row member => .inl (idle.rows ▸ member)
  | @place _ s rest before between after created window run placed _ ih =>
      intro row member
      rcases ih row member with known | ⟨other, otherMember, from'⟩
      · rw [placed.rows] at known
        rcases List.mem_append.mp known with old | new
        · exact .inl old
        · exact .inr ⟨s, List.mem_cons_self, window, before, List.mem_singleton.mp new⟩
      · exact .inr ⟨other, List.mem_cons_of_mem s otherMember, from'⟩

/-- Every row is what became of an old one, or new: without a user, or of a shift. -/
theorem Effect.rowsFrom {action : Action} (effect : Effect env w action after) :
    ∀ row ∈ after.scheduledTasks.rows,
      (∃ old ∈ w.scheduledTasks.rows, old.scheduledTaskId = row.scheduledTaskId ∧
        SameSchedule old row) ∨ row.tenantUserId = none ∨ StoredBy env action row := by
  have old {action : Action} {p : ScheduledTaskEntity → Bool}
      {set : ScheduledTaskEntity → ScheduledTaskEntity}
      {keeps : ∀ row, Keyed.key (set row) = Keyed.key row} {after : World}
      (rows : after.scheduledTasks = w.scheduledTasks.update p set keeps)
      (same : ∀ row, SameSchedule row (set row)) : ∀ row ∈ after.scheduledTasks.rows,
      (∃ old ∈ w.scheduledTasks.rows, old.scheduledTaskId = row.scheduledTaskId ∧
        SameSchedule old row) ∨ row.tenantUserId = none ∨ StoredBy env action row := by
    rw [rows]
    exact fun row member =>
      .inl (Table.images_update SameSchedule.refl (fun row _ _ => same row) row member)
  have kept {action : Action} {after : World} (same : after.scheduledTasks = w.scheduledTasks) :
      ∀ row ∈ after.scheduledTasks.rows,
      (∃ old ∈ w.scheduledTasks.rows, old.scheduledTaskId = row.scheduledTaskId ∧
        SameSchedule old row) ∨ row.tenantUserId = none ∨ StoredBy env action row := by
    rw [same]
    exact fun row member => .inl ⟨row, member, rfl, .refl row⟩
  cases effect with
  | kept _ idle => exact kept idle.rows
  | passed _ rows => exact kept rows
  | windowed _ row unassigned _ _ _ _ _ _ _ rows =>
      intro other member
      rw [rows] at member
      rcases List.mem_append.mp member with known | new
      · exact .inl ⟨other, known, rfl, .refl other⟩
      · exact .inr (.inl (List.mem_singleton.mp new ▸ unassigned))
  | shifted input ctx _ placed =>
      intro row member
      rcases placed.rowsFrom row member with known | ⟨s, shift, window, between, isShift⟩
      · exact .inl ⟨row, known, rfl, .refl row⟩
      · exact .inr (.inr ⟨input, ctx, s, window, between, rfl, shift, isShift⟩)
  | rescheduled _ _ _ _ _ _ _ rows => exact old rows fun _ => ⟨rfl, rfl, rfl, rfl, rfl⟩
  | paused _ _ _ rows => exact old rows fun _ => ⟨rfl, rfl, rfl, rfl, rfl⟩
  | resumed _ _ rows => exact old rows fun _ => ⟨rfl, rfl, rfl, rfl, rfl⟩
  | cancelled _ _ rows => exact old rows fun _ => ⟨rfl, rfl, rfl, rfl, rfl⟩
  | undelivered => exact kept rfl
  | delivered _ _ _ _ _ processed =>
      cases processed with
      | ignored _ idle => exact kept idle.rows
      | started _ _ _ _ _ _ rows => exact old rows fun _ => ⟨rfl, rfl, rfl, rfl, rfl⟩
      | deferred _ _ _ _ _ _ rows => exact old rows fun _ => ⟨rfl, rfl, rfl, rfl, rfl⟩
      | ended _ _ _ _ rows => exact old rows fun _ => ⟨rfl, rfl, rfl, rfl, rfl⟩
  | failed _ _ _ _ rows => exact old rows fun _ => ⟨rfl, rfl, rfl, rfl, rfl⟩
  | linked _ _ rows => exact old rows fun _ => ⟨rfl, rfl, rfl, rfl, rfl⟩
  | synced _ _ _ rows => exact old rows fun _ => ⟨rfl, rfl, rfl, rfl, rfl⟩
  | finished _ _ _ _ rows => exact old rows fun _ => ⟨rfl, rfl, rfl, rfl, rfl⟩

end Rows

/-- The row is of a user; the id 0 is never drawn for one. -/
def OfUser (row : ScheduledTaskEntity) : Prop :=
  ∃ tenantUserId, row.tenantUserId = some tenantUserId ∧ tenantUserId ≠ 0

/-- The row may run at an instant: its start is reached, no pause of it goes on, and its
user works. -/
structure InSchedule (env : Environment) (time : Int) (row : ScheduledTaskEntity) : Prop where
  reached : row.effectiveStartUtc ≤ time
  released : ∀ blockedUntilUtc, row.blockedUntilUtc = some blockedUntilUtc → blockedUntilUtc ≤ time
  worked : isWithinAnyInterval time
    ((env.calendarOf row.tenantId row.tenantUserId).intervalsOn time) = true

/-- The rows of users that turn running between two states are in schedule. -/
def StartsInSchedule (env : Environment) (w after : World) : Prop :=
  ∀ row ∈ after.scheduledTasks.rows, row.status = .running → OfUser row →
    (∀ old ∈ w.scheduledTasks.rows, old.scheduledTaskId = row.scheduledTaskId →
      old.status ≠ .running) → InSchedule env w.now row

/-- The start of the row is not behind the present, and neither is the end of its pause. -/
def NotAhead (w : World) (row : ScheduledTaskEntity) : Prop :=
  row.effectiveStartUtc ≤ w.now ∧
    ∀ blockedUntilUtc, row.blockedUntilUtc = some blockedUntilUtc → blockedUntilUtc ≤ w.now

/-- A start job is not delivered, in working hours, while the row that awaits it was moved
or paused beyond the delivery. -/
def NotOvertaken (env : Environment) (w : World) : Action → Prop
  | .deliver jobId => ∀ job ∈ w.queue, job.jobId = jobId → job.dueAt ≤ w.now →
      job.name = .taskStart → ∀ row ∈ w.scheduledTasks.rows, Awaits w job row → OfUser row →
        row.status ≠ .running → WithinHours env w row → NotAhead w row
  | _ => True

instance (row : ScheduledTaskEntity) : Decidable (OfUser row) :=
  decidable_of_iff (∃ tenantUserId ∈ row.tenantUserId, tenantUserId ≠ 0) Iff.rfl

instance (time : Int) (row : ScheduledTaskEntity) : Decidable (InSchedule env time row) :=
  decidable_of_iff (row.effectiveStartUtc ≤ time ∧
      (∀ blockedUntilUtc ∈ row.blockedUntilUtc, blockedUntilUtc ≤ time) ∧
      isWithinAnyInterval time
        ((env.calendarOf row.tenantId row.tenantUserId).intervalsOn time) = true)
    ⟨fun all => ⟨all.1, all.2.1, all.2.2⟩, fun inside => ⟨inside.1, inside.2, inside.3⟩⟩

instance (w after : World) : Decidable (StartsInSchedule env w after) :=
  inferInstanceAs (Decidable (∀ row ∈ after.scheduledTasks.rows, _ → _ →
    (∀ old ∈ w.scheduledTasks.rows, _ → _) → _))

instance (w : World) (row : ScheduledTaskEntity) : Decidable (NotAhead w row) :=
  inferInstanceAs (Decidable (_ ∧ ∀ blockedUntilUtc ∈ row.blockedUntilUtc, _))

instance (w : World) : ∀ action, Decidable (NotOvertaken env w action)
  | .deliver _ =>
      inferInstanceAs (Decidable (∀ job ∈ w.queue, _ → _ → _ → ∀ row ∈ w.scheduledTasks.rows,
        _ → _ → _ → _ → _))
  | .scheduleTaskWindow _ | .scheduleFromShifts _ | .reschedule _ _ _ | .pause _ _ | .resume _
  | .cancel _ | .failed _ _ _ | .processStarted _ | .stepStateChanged _ _ | .processCompleted _
  | .pass _ => inferInstanceAs (Decidable True)

/-- A host that reports a step in progress writes the row running, with no job. -/
def ReportsStart (action : Action) : Prop := ∃ ctx, action = .stepStateChanged ctx .inProgress

section Starts

variable {w after : World}

/-- The timezone of a row of a user is the one of its user. -/
def Zoned (env : Environment) (w : World) : Prop :=
  ∀ row ∈ w.scheduledTasks.rows, ∀ tenantUserId, row.tenantUserId = some tenantUserId →
    row.tzUsed = env.calendar.getTimezone row.tenantId (some tenantUserId)

theorem Effect.zoned {action : Action} (effect : Effect env w action after)
    (zoned : Zoned env w) : Zoned env after := by
  intro row member tenantUserId isUser
  rcases effect.rowsFrom row member with ⟨old, oldMember, _, same⟩ | unassigned | stored
  · rw [same.tzUsed, same.tenantId]
    exact zoned old oldMember tenantUserId (same.tenantUserId ▸ isUser)
  · rw [unassigned] at isUser
    cases isUser
  · obtain ⟨_, ctx, s, _, _, _, _, rfl⟩ := stored
    obtain rfl : s.tenantUserId = tenantUserId := Option.some.inj isUser
    rfl

theorem Runs.Fresh.zoned (fresh : Fresh w) : Zoned env w := by
  intro row member
  rw [fresh.scheduledTasks] at member
  cases member

/-- The worker checks a start against the calendar of its user. -/
theorem Zoned.calendarOfRow (zoned : Zoned env w) {row : ScheduledTaskEntity}
    (member : row ∈ w.scheduledTasks.rows) (ofUser : OfUser row) :
    TaskProcessor.calendarOfRow env row = env.calendarOf row.tenantId row.tenantUserId := by
  obtain ⟨tenantUserId, isUser, _⟩ := ofUser
  unfold TaskProcessor.calendarOfRow Environment.calendarOf
  rw [zoned row member tenantUserId isUser, isUser, if_neg (env.calendar.named _ _)]

/-- The start job by which a row turned running, and the row it found. -/
structure StartedBy (env : Environment) (w : World) (action : Action) (row : ScheduledTaskEntity)
    (job : Job) (old : ScheduledTaskEntity) : Prop where
  delivery : action = .deliver job.jobId
  onQueue : job ∈ w.queue
  due : job.dueAt ≤ w.now
  isStart : job.name = .taskStart
  awaits : Awaits w job old
  within : WithinHours env w old
  row : row = { old with actualStartUtc := some w.now, status := .running }

/-- What becomes of a row that does not turn running. -/
def StaysIdle (old row : ScheduledTaskEntity) : Prop := row.status = .running → old.status = .running

theorem Effect.turnsRunning {action : Action} (effect : Effect env w action after)
    (unreported : ¬ ReportsStart action) {row : ScheduledTaskEntity}
    (member : row ∈ after.scheduledTasks.rows) (running : row.status = .running)
    (notYet : ∀ old ∈ w.scheduledTasks.rows, old.scheduledTaskId = row.scheduledTaskId →
      old.status ≠ .running) : ∃ job old, StartedBy env w action row job old := by
  have known (images : w.scheduledTasks.Images StaysIdle after.scheduledTasks) : False := by
    obtain ⟨old, oldMember, same, stays⟩ := images row member
    exact notYet old oldMember same (stays running)
  have kept (same : after.scheduledTasks = w.scheduledTasks) : False :=
    known (same ▸ fun row member => ⟨row, member, rfl, id⟩)
  have updated {p : ScheduledTaskEntity → Bool} {set : ScheduledTaskEntity → ScheduledTaskEntity}
      {keeps : ∀ row, Keyed.key (set row) = Keyed.key row}
      (rows : after.scheduledTasks = w.scheduledTasks.update p set keeps)
      (idle : ∀ row, StaysIdle row (set row)) : False :=
    known (rows ▸ Table.images_update (fun _ => id) fun row _ _ => idle row)
  cases effect with
  | kept _ idle => exact (kept idle.rows).elim
  | passed _ rows => exact (kept rows).elim
  | windowed _ new _ _ scheduled _ _ _ _ _ rows =>
      rw [rows] at member
      rcases List.mem_append.mp member with old | isNew
      · exact absurd running (notYet row old rfl)
      · rw [List.mem_singleton.mp isNew, scheduled] at running
        cases running
  | shifted _ _ _ placed =>
      rcases placed.rowsFrom row member with old | ⟨s, _, window, between, isShift⟩
      · exact absurd running (notYet row old rfl)
      · rw [isShift] at running
        cases running
  | rescheduled _ _ _ _ _ _ _ rows => exact (updated rows fun _ => id).elim
  | paused _ _ _ rows => exact (updated rows fun _ => nofun).elim
  | resumed _ _ rows => exact (updated rows fun _ => nofun).elim
  | cancelled _ _ rows => exact (updated rows fun _ => nofun).elim
  | undelivered => exact (kept rfl).elim
  | delivered _ job onQueue isJob due processed =>
      cases processed with
      | ignored _ idle => exact (kept idle.rows).elim
      | started old awaits isStart within _ _ rows =>
          refine ⟨job, old, isJob ▸ rfl, onQueue, due, isStart, awaits, within, ?_⟩
          rw [rows] at member
          rcases Table.mem_updateAt.mp member with ⟨other, otherMember, isRow, rfl⟩ | ⟨other, _⟩
          · rw [Table.eq_of_key_eq otherMember (Table.mem_of_find? awaits.found) isRow]
          · exact absurd running (notYet row other rfl)
      | deferred _ _ _ _ _ _ rows => exact (updated rows fun _ => nofun).elim
      | ended _ _ _ _ rows => exact (updated rows fun _ => nofun).elim
  | failed _ _ _ _ rows => exact (updated rows fun _ => nofun).elim
  | linked _ _ rows => exact (updated rows fun _ => nofun).elim
  | synced ctx engineState _ rows =>
      refine (updated rows fun old starts => ?_).elim
      cases engineState <;> first | exact absurd ⟨ctx, rfl⟩ unreported | cases starts
  | finished _ _ _ _ rows => exact (updated rows fun _ => nofun).elim

/-- A start job that is not overtaken starts its row in schedule. -/
theorem Effect.startsInSchedule {action : Action} (effect : Effect env w action after)
    (zoned : Zoned env w) (unreported : ¬ ReportsStart action)
    (notOvertaken : NotOvertaken env w action) : StartsInSchedule env w after := by
  intro row member running ofUser notYet
  obtain ⟨job, old, started⟩ := effect.turnsRunning unreported member running notYet
  obtain ⟨rfl, onQueue, due, isStart, awaits, within, rfl⟩ := started
  have oldMember := Table.mem_of_find? awaits.found
  obtain ⟨reached, released⟩ := notOvertaken job onQueue rfl due isStart old oldMember awaits ofUser
    (notYet old oldMember rfl) within
  refine ⟨reached, released, ?_⟩
  obtain ⟨tenantUserId, isUser, positive⟩ := ofUser
  have worked := within tenantUserId isUser positive
  rw [zoned.calendarOfRow oldMember ⟨tenantUserId, isUser, positive⟩] at worked
  exact worked

/-- A start job that is overtaken starts its row out of schedule. -/
theorem Effect.notOvertaken {action : Action} (effect : Effect env w action after)
    (sound : QueueSound w) (starts : StartsInSchedule env w after) :
    NotOvertaken env w action := by
  cases action with
  | deliver jobId =>
      rintro job onQueue rfl due isStart row member awaits ofUser notRunning within
      obtain ⟨between, processed, rfl⟩ := effect.delivers sound onQueue due
      have onlyRow : ∀ other, Awaits w job other → other = row := fun other isOther =>
        Option.some.inj (isOther.found.symm.trans awaits.found)
      cases processed with
      | ignored noOne => exact absurd awaits (noOne row)
      | started other isOther _ _ _ _ rows =>
          obtain rfl := onlyRow other isOther
          have written : { other with actualStartUtc := some w.now, status := .running } ∈
              between.scheduledTasks.rows := by
            rw [rows]
            exact Table.mem_updateAt.mpr (.inl ⟨other, member, rfl, rfl⟩)
          obtain ⟨reached, released, _⟩ := starts _ written rfl ofUser fun old oldMember same =>
            Table.eq_of_key_eq oldMember member same ▸ notRunning
          exact ⟨reached, released⟩
      | deferred other isOther _ outside =>
          exact absurd (onlyRow other isOther ▸ within) outside
      | ended _ _ isEnd =>
          rw [isStart] at isEnd
          cases isEnd
  | _ => trivial

end Starts

/-- In a run in which no host reports a step started, every row of a user starts in
schedule exactly when no start job is overtaken. -/
theorem starts_inSchedule {start : World} (fresh : Fresh start) {actions : List Action}
    (unreported : ∀ action ∈ actions, ¬ ReportsStart action) :
    (system env).Guarded (fun w action => StartsInSchedule env w ((system env).step w action))
        start actions ↔ (system env).Guarded (NotOvertaken env) start actions := by
  have kept : ∀ w action, QueueSound w ∧ Zoned env w → QueueSound ((system env).step w action) ∧
      Zoned env ((system env).step w action) := fun w action both =>
    ⟨(step_effect w action).queueSound both.1, (step_effect w action).zoned both.2⟩
  have initial : QueueSound start ∧ Zoned env start := ⟨fresh.queueSound, fresh.zoned⟩
  constructor
  · intro starts
    exact StepSystem.Guarded.strengthen (fun w action both _ => kept w action both)
      (fun w action both starts => (step_effect w action).notOvertaken both.1 starts) initial starts
  · intro notOvertaken
    have calls := notOvertaken.and_actions unreported
    exact StepSystem.Guarded.strengthen (fun w action both _ => kept w action both)
      (fun w action both guard =>
        (step_effect w action).startsInSchedule both.2 guard.2 guard.1) initial calls

/-- A shift is paused and resumed, moved ahead of its start job, and starts when it is due. -/
theorem starts_inSchedule_moved :
    (system everyDay).Guarded
      (fun w action => StartsInSchedule everyDay w ((system everyDay).step w action)) unscheduled
      [shiftOf 1 10 20, .pause 1 0, .resume 1, .reschedule 1 (5 * oneMinute) (15 * oneMinute),
        .pass 600000, .deliver 1] :=
  (starts_inSchedule fresh_unscheduled (by simp [ReportsStart, shiftOf])).mpr (by decide)

/-- A shift is moved to the next hour, and its start job, due at once, starts it. -/
theorem moved_startedEarly : Fresh unscheduled ∧
    (∀ action ∈ [shiftOf 1 0 10, .reschedule 1 (60 * oneMinute) (70 * oneMinute), .deliver 1],
      ¬ ReportsStart action) ∧
    ¬ (system everyDay).Guarded
      (fun w action => StartsInSchedule everyDay w ((system everyDay).step w action)) unscheduled
      [shiftOf 1 0 10, .reschedule 1 (60 * oneMinute) (70 * oneMinute), .deliver 1] :=
  ⟨fresh_unscheduled, by simp [ReportsStart, shiftOf], by decide⟩

end CoreApi.Scheduler
