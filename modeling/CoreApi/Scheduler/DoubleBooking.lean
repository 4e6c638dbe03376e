import Mathlib
import CoreApi.Foundation.TableChanges
import CoreApi.Scheduler.RowEffects

/-!
# Double bookings

Two active schedules of one user should not overlap. A shift is checked against the
schedules of its user once, before it is pushed behind them, and a row that is
rescheduled is not checked: the windows that are written unchecked decide.
-/

namespace CoreApi.Scheduler

open CoreApi.Foundation Automation SchedulerService Runs

variable {env : Environment}

/-- The instants a schedule takes from its user. -/
def occupied (row : ScheduledTaskEntity) : Set Int :=
  Set.Ico row.effectiveStartUtc row.effectiveEndUtc

/-- Two active schedules of one user take no instant twice. -/
def Compatible (row other : ScheduledTaskEntity) : Prop :=
  row.isActive = true → other.isActive = true → row.tenantUserId.isSome = true →
    row.tenantUserId = other.tenantUserId → Disjoint (occupied row) (occupied other)

/-- No user is booked twice. -/
def NoDoubleBooking (w : World) : Prop := w.scheduledTasks.Pairwise Compatible

instance (row other : ScheduledTaskEntity) : Decidable (Disjoint (occupied row) (occupied other)) :=
  decidable_of_iff _ Set.Ico_disjoint_Ico.symm

instance (row other : ScheduledTaskEntity) : Decidable (Compatible row other) :=
  inferInstanceAs (Decidable (_ → _ → _ → _ → _))

instance (w : World) : Decidable (NoDoubleBooking w) :=
  inferInstanceAs (Decidable (∀ row ∈ w.scheduledTasks.rows, ∀ other ∈ w.scheduledTasks.rows,
    _ → _))

theorem Compatible.symm {row other : ScheduledTaskEntity} (compatible : Compatible row other) :
    Compatible other row := fun otherActive active assigned same =>
  (compatible active otherActive (same ▸ assigned) same.symm).symm

/-! ## Windows that are written unchecked -/

/-- The window takes no instant from an active schedule of the user but the row `except`. -/
def IsFree (w : World) (tenantUserId : Option Nat) (window : Window) (except : Nat) : Prop :=
  ∀ row ∈ w.scheduledTasks.rows, row.scheduledTaskId ≠ except → row.isActive = true →
    row.tenantUserId = tenantUserId →
      Disjoint (Set.Ico window.start window.stop) (occupied row)

/-- A shift that conflicts with schedules of its user is pushed to where the user is free. -/
def PushIsFree (env : Environment) (input : ScheduleFromShiftsInput) (ctx : TaskContext)
    (prevChildEndUtc : Option Int) (s : ShiftInput) (w : World) : Prop :=
  let of := env.calendarOf ctx.tenantId (some s.tenantUserId)
  let plannedDurationMs := durationMs s.plannedStartUtc s.plannedEndUtc
  let window := of.workWindow (serialStart prevChildEndUtc s) plannedDurationMs
  let conflicts :=
    ScheduledTasksService.findUserOverlaps w.scheduledTasks s.tenantUserId window.start window.stop
  let pushed := of.workWindow (latestEnd conflicts window.start + oneMinute) plannedDurationMs
  conflicts.length ≠ 0 →
    (ScheduledTasksService.findTaskChildOverlaps w.scheduledTasks input.taskId pushed.start
      pushed.stop).length = 0 →
      IsFree w (some s.tenantUserId) pushed w.scheduledTasks.autoIncrement

/-- Every shift, when its turn comes, is pushed to where its user is free. -/
def PushesAreFree (env : Environment) (input : ScheduleFromShiftsInput) (ctx : TaskContext) :
    Option Int → List ShiftInput → World → Prop
  | _, [], _ => True
  | prevChildEndUtc, s :: rest, w =>
      PushIsFree env input ctx prevChildEndUtc s w ∧
        match scheduleShift env input ctx prevChildEndUtc s w with
        | (.ok created, after) => PushesAreFree env input ctx (some created.effectiveEndUtc) rest after
        | (.error _, _) => True

/-- The action writes no window unchecked where the user has another schedule. -/
def WritesFree (env : Environment) (w : World) : Action → Prop
  | .scheduleFromShifts input => ∀ ctx ∈ env.taskContext input.taskId,
      PushesAreFree env input ctx none (serializePlan input.shifts) w
  | .reschedule scheduledTaskId requestedStartUtc requestedEndUtc =>
      requestedStartUtc ≤ requestedEndUtc →
        ∀ row ∈ w.scheduledTasks.find? scheduledTaskId, row.isActive = true →
          row.tenantUserId.isSome = true →
            IsFree w row.tenantUserId
              (rescheduledWindow env row requestedStartUtc requestedEndUtc) scheduledTaskId
  | _ => True

instance (w : World) (tenantUserId : Option Nat) (window : Window) (except : Nat) :
    Decidable (IsFree w tenantUserId window except) :=
  have : ∀ row, Decidable (Disjoint (Set.Ico window.start window.stop) (occupied row)) :=
    fun _ => decidable_of_iff _ Set.Ico_disjoint_Ico.symm
  inferInstanceAs (Decidable (∀ row ∈ w.scheduledTasks.rows, _ → _ → _ → _))

instance (input : ScheduleFromShiftsInput) (ctx : TaskContext) (prevChildEndUtc : Option Int)
    (s : ShiftInput) (w : World) : Decidable (PushIsFree env input ctx prevChildEndUtc s w) :=
  inferInstanceAs (Decidable (_ → _ → IsFree w _ _ _))

instance decidablePushesAreFree (input : ScheduleFromShiftsInput) (ctx : TaskContext) :
    ∀ (prevChildEndUtc : Option Int) (shifts : List ShiftInput) (w : World),
      Decidable (PushesAreFree env input ctx prevChildEndUtc shifts w)
  | _, [], _ => inferInstanceAs (Decidable True)
  | prevChildEndUtc, s :: rest, w =>
      have : Decidable (match scheduleShift env input ctx prevChildEndUtc s w with
          | (.ok created, after) =>
              PushesAreFree env input ctx (some created.effectiveEndUtc) rest after
          | (.error _, _) => True) :=
        match scheduleShift env input ctx prevChildEndUtc s w with
        | (.ok created, after) =>
            decidablePushesAreFree input ctx (some created.effectiveEndUtc) rest after
        | (.error _, _) => inferInstanceAs (Decidable True)
      inferInstanceAs (Decidable (_ ∧ _))

instance (w : World) : ∀ action, Decidable (WritesFree env w action)
  | .scheduleFromShifts input =>
      inferInstanceAs (Decidable (∀ ctx ∈ env.taskContext input.taskId, _))
  | .reschedule scheduledTaskId _ _ =>
      inferInstanceAs (Decidable (_ → ∀ row ∈ w.scheduledTasks.find? scheduledTaskId, _ → _ → _))
  | .scheduleTaskWindow _ | .pause _ _ | .resume _ | .cancel _ | .deliver _ | .failed _ _ _
  | .processStarted _ | .stepStateChanged _ _ | .processCompleted _ | .pass _ =>
      inferInstanceAs (Decidable True)

/-! ## Bookings that stay apart -/

/-- The row takes no more from its user than before. -/
structure Quiet (old row : ScheduledTaskEntity) : Prop where
  tenantUserId : row.tenantUserId = old.tenantUserId
  start : row.effectiveStartUtc = old.effectiveStartUtc
  stop : row.effectiveEndUtc = old.effectiveEndUtc
  active : row.isActive = true → old.isActive = true

theorem Quiet.refl (row : ScheduledTaskEntity) : Quiet row row := ⟨rfl, rfl, rfl, id⟩

theorem Quiet.occupied {old row : ScheduledTaskEntity} (quiet : Quiet old row) :
    occupied row = occupied old := by
  unfold Scheduler.occupied
  rw [quiet.start, quiet.stop]

theorem Compatible.quiet {old other row row' : ScheduledTaskEntity} (first : Quiet old row)
    (second : Quiet other row') (compatible : Compatible old other) : Compatible row row' := by
  intro active active' assigned same
  rw [first.occupied, second.occupied]
  rw [first.tenantUserId] at assigned same
  exact compatible (first.active active) (second.active active') assigned
    (same.trans second.tenantUserId)

section Runs

variable {w after : World}

theorem NoDoubleBooking.same (apart : NoDoubleBooking w)
    (same : after.scheduledTasks = w.scheduledTasks) : NoDoubleBooking after := by
  unfold NoDoubleBooking
  rw [same]
  exact apart

/-- An update that takes nothing more from a user. -/
theorem NoDoubleBooking.update {p : ScheduledTaskEntity → Bool}
    {set : ScheduledTaskEntity → ScheduledTaskEntity}
    {keeps : ∀ row, Keyed.key (set row) = Keyed.key row} (apart : NoDoubleBooking w)
    (rows : after.scheduledTasks = w.scheduledTasks.update p set keeps)
    (quiet : ∀ row, Quiet row (set row)) : NoDoubleBooking after := by
  unfold NoDoubleBooking
  rw [rows]
  exact Table.Pairwise.images apart (Table.images_update Quiet.refl fun row _ _ => quiet row)
    Compatible.quiet

theorem apart_of_noConflict {rows : Table ScheduledTaskEntity} {tenantUserId : Nat}
    {fromUtc toUtc : Int} {row : ScheduledTaskEntity}
    (noConflict :
      (ScheduledTasksService.findUserOverlaps rows tenantUserId fromUtc toUtc).length = 0)
    (member : row ∈ rows.rows) (active : row.isActive = true)
    (ofUser : row.tenantUserId = some tenantUserId) :
    toUtc ≤ row.effectiveStartUtc ∨ row.effectiveEndUtc ≤ fromUtc := by
  have notFound : row ∉ ScheduledTasksService.findUserOverlaps rows tenantUserId fromUtc toUtc := by
    rw [List.length_eq_zero_iff.mp noConflict]
    exact List.not_mem_nil
  unfold ScheduledTasksService.findUserOverlaps at notFound
  rw [Table.mem_select] at notFound
  simp only [member, true_and, active, ofUser, ScheduledTasksService.overlaps, Bool.and_eq_true,
    beq_self_eq_true, decide_eq_true_eq] at notFound
  omega

/-- The window of a shift takes nothing from another schedule of its user. -/
theorem placeShift_isFree {input : ScheduleFromShiftsInput} {ctx : TaskContext}
    {prevChildEndUtc : Option Int} {s : ShiftInput} {window : Window}
    (fitted : placeShift (env.calendarOf ctx.tenantId (some s.tenantUserId)) input.taskId s
      (serialStart prevChildEndUtc s) w.scheduledTasks = .ok window)
    (free : PushIsFree env input ctx prevChildEndUtc s w) :
    IsFree w (some s.tenantUserId) window w.scheduledTasks.autoIncrement := by
  unfold placeShift at fitted
  dsimp only at fitted
  split at fitted
  · next noConflict =>
      obtain rfl := Except.ok.inj fitted
      intro row member _ active ofUser
      have apart := apart_of_noConflict noConflict member active ofUser
      exact Set.Ico_disjoint_Ico.mpr (by omega)
  · next conflicts =>
      split at fitted
      · next noOverlap =>
          obtain rfl := Except.ok.inj fitted
          exact free conflicts noOverlap
      · cases fitted

/-- A placed shift stays apart from the schedules of its user. -/
theorem ShiftPlaced.apart {input : ScheduleFromShiftsInput} {ctx : TaskContext}
    {prevChildEndUtc : Option Int} {s : ShiftInput} {created : CreatedShift} {window : Window}
    (placed : ShiftPlaced env input ctx prevChildEndUtc s w created after window)
    (apart : NoDoubleBooking w) (free : PushIsFree env input ctx prevChildEndUtc s w) :
    NoDoubleBooking after := by
  refine Table.Pairwise.append apart Compatible.symm placed.rows ?_
  intro other member
  refine Compatible.symm fun _ active _ same => ?_
  have known : other.scheduledTaskId ≠ w.scheduledTasks.autoIncrement :=
    Nat.ne_of_lt (w.scheduledTasks.bounded other member).2
  exact placeShift_isFree placed.fitted free other member known active same.symm

theorem Placed.apart {input : ScheduleFromShiftsInput} {ctx : TaskContext}
    {prevChildEndUtc : Option Int} {shifts : List ShiftInput}
    (placed : Placed env input ctx prevChildEndUtc shifts w after) (apart : NoDoubleBooking w)
    (free : PushesAreFree env input ctx prevChildEndUtc shifts w) : NoDoubleBooking after := by
  induction placed with
  | done => exact apart
  | raised run idle => exact apart.same idle.rows
  | place run placed others ih =>
      obtain ⟨pushFree, othersFree⟩ := free
      rw [run] at othersFree
      exact ih (placed.apart apart pushFree) othersFree

/-- What the worker does with a job takes nothing more from a user. -/
theorem Processed.apart {job : Job} (processed : Processed env w job after)
    (apart : NoDoubleBooking w) : NoDoubleBooking after := by
  cases processed with
  | ignored _ idle => exact apart.same idle.rows
  | started _ _ _ _ _ _ rows => exact apart.update rows fun _ => ⟨rfl, rfl, rfl, id⟩
  | deferred _ _ _ _ _ _ rows => exact apart.update rows fun _ => ⟨rfl, rfl, rfl, id⟩
  | ended _ _ _ _ rows =>
      exact apart.update rows fun _ => ⟨rfl, rfl, rfl, fun active => nomatch active⟩

/-- An action that writes no window where the user has another schedule. -/
theorem Effect.apart {action : Action} (effect : Effect env w action after)
    (apart : NoDoubleBooking w) (free : WritesFree env w action) : NoDoubleBooking after := by
  cases effect with
  | kept _ idle => exact apart.same idle.rows
  | passed _ rows => exact apart.same rows
  | windowed _ row unassigned _ _ _ _ _ _ _ rows =>
      refine Table.Pairwise.append apart Compatible.symm rows fun other _ => ?_
      intro _ _ assigned same
      rw [same, unassigned] at assigned
      cases assigned
  | shifted _ ctx known placed => exact placed.apart apart (free ctx known)
  | rescheduled scheduledTaskId start stop row found requested _ rows =>
      unfold NoDoubleBooking
      rw [rows]
      refine Table.Pairwise.updateAt apart Compatible.symm ?_
      intro old member isKey other otherMember different active otherActive assigned same
      obtain rfl : old = row := Table.eq_of_key_eq member (Table.mem_of_find? found)
        (isKey.trans (Table.key_of_find? found).symm)
      exact free requested old found active assigned other otherMember different otherActive
        same.symm
  | paused _ _ _ rows => exact apart.update rows fun _ => ⟨rfl, rfl, rfl, id⟩
  | resumed _ _ rows => exact apart.update rows fun _ => ⟨rfl, rfl, rfl, id⟩
  | cancelled _ _ rows =>
      exact apart.update rows fun _ => ⟨rfl, rfl, rfl, fun active => nomatch active⟩
  | undelivered => exact apart
  | delivered _ _ _ _ _ processed => exact processed.apart apart
  | failed _ _ _ _ rows => exact apart.update rows fun _ => ⟨rfl, rfl, rfl, id⟩
  | linked _ _ rows => exact apart.update rows fun _ => ⟨rfl, rfl, rfl, id⟩
  | synced _ _ _ rows => exact apart.update rows fun _ => ⟨rfl, rfl, rfl, id⟩
  | finished _ _ _ _ rows =>
      exact apart.update rows fun _ => ⟨rfl, rfl, rfl, fun active => nomatch active⟩

end Runs

/-- In a run that writes no window unchecked where the user has another schedule, no user
is booked twice. -/
theorem noDoubleBooking {start : World} (fresh : Fresh start) {actions : List Action}
    (guarded : (system env).Guarded (WritesFree env) start actions) :
    NoDoubleBooking ((system env).run start actions) := by
  have initial : NoDoubleBooking start := by
    intro row member
    rw [fresh.scheduledTasks] at member
    cases member
  exact StepSystem.run_guarded (fun w action apart free => (step_effect w action).apart apart free)
    initial guarded

/-! ## Overlapping pushes -/

/-- A shift is pushed behind another one, and a third is moved behind both. -/
theorem noDoubleBooking_pushed :
    NoDoubleBooking ((system everyDay).run unscheduled
      [shiftOf 1 0 10, shiftOf 2 15 25, shiftOf 3 20 28,
        .reschedule 1 (40 * oneMinute) (50 * oneMinute)]) :=
  noDoubleBooking fresh_unscheduled (by decide)

/-- Between two shifts of a user there is a gap, into which a third one is pushed that
does not fit. -/
theorem pushed_doubleBooked : Fresh unscheduled ∧
    ¬ NoDoubleBooking ((system everyDay).run unscheduled
      [shiftOf 1 0 10, shiftOf 2 15 25, shiftOf 3 5 12]) :=
  ⟨fresh_unscheduled, by decide⟩

end CoreApi.Scheduler
