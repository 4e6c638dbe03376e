import CoreApi.Foundation.TableChanges
import CoreApi.Scheduler.RowEffects

/-!
# The lifecycle of a row

A schedule is settled when it is completed or cancelled; it should be active until then
and stay as it is from then on. Most writers of a row do not look at its status: what
they are called for decides.
-/

namespace CoreApi.Scheduler

open CoreApi.Foundation Automation SchedulerService Runs

variable {env : Environment}

/-- The schedule is completed or cancelled. -/
def IsSettled (row : ScheduledTaskEntity) : Prop :=
  row.status = .completed ∨ row.status = .cancelled

instance (row : ScheduledTaskEntity) : Decidable (IsSettled row) :=
  inferInstanceAs (Decidable (_ ∨ _))

/-- The schedule is inactive exactly when it is settled. -/
def ActiveUntilSettled (row : ScheduledTaskEntity) : Prop := row.isActive = false ↔ IsSettled row

instance (row : ScheduledTaskEntity) : Decidable (ActiveUntilSettled row) :=
  inferInstanceAs (Decidable (_ ↔ _))

/-- Once settled, the row keeps its status and its effective window. -/
def StaysSettled (old row : ScheduledTaskEntity) : Prop :=
  IsSettled old → row.status = old.status ∧ row.effectiveStartUtc = old.effectiveStartUtc ∧
    row.effectiveEndUtc = old.effectiveEndUtc

instance (old row : ScheduledTaskEntity) : Decidable (StaysSettled old row) :=
  inferInstanceAs (Decidable (_ → _))

/-- Every row is active until it is settled. -/
def Sound (w : World) : Prop := ∀ row ∈ w.scheduledTasks.rows, ActiveUntilSettled row

instance (w : World) : Decidable (Sound w) :=
  inferInstanceAs (Decidable (∀ row ∈ w.scheduledTasks.rows, _))

/-- The settled rows of one world are as settled in another. -/
def SettledStay (before after : World) : Prop :=
  before.scheduledTasks.Keeps StaysSettled after.scheduledTasks

/-! ## Writes of settled rows -/

/-- What a host that reports the state of a step writes suits the row. -/
def SuitsRow (engineState : StepStatus) (row : ScheduledTaskEntity) : Prop :=
  if IsSettled row then mapEngineStateToScheduledTaskStatus engineState = row.status
  else engineState ≠ .completed ∧ engineState ≠ .canceled

/-- The action rewrites no settled row and settles no row that it leaves active. -/
def SparesSettled (env : Environment) (w : World) : Action → Prop
  | .reschedule scheduledTaskId requestedStartUtc requestedEndUtc =>
      requestedStartUtc ≤ requestedEndUtc →
        ∀ row ∈ w.scheduledTasks.find? scheduledTaskId, IsSettled row →
          row.effectiveStartUtc =
              (rescheduledWindow env row requestedStartUtc requestedEndUtc).start ∧
            row.effectiveEndUtc =
              (rescheduledWindow env row requestedStartUtc requestedEndUtc).stop
  | .pause scheduledTaskId _ | .resume scheduledTaskId =>
      ∀ row ∈ w.scheduledTasks.find? scheduledTaskId, ¬ IsSettled row
  | .cancel scheduledTaskId =>
      ∀ row ∈ w.scheduledTasks.find? scheduledTaskId, row.status ≠ .completed
  | .failed scheduledTaskId _ _ => ∀ id ∈ scheduledTaskId,
      ∀ row ∈ w.scheduledTasks.find? id, ¬ IsSettled row
  | .processStarted ctx => ∀ row ∈ w.scheduledTasks.rows,
      ScheduledTaskHostAdapter.isRow ctx.subjectId ctx.tenantId row = true → ¬ IsSettled row
  | .stepStateChanged ctx engineState => ∀ row ∈ w.scheduledTasks.rows,
      ScheduledTaskHostAdapter.isRow ctx.subjectId ctx.tenantId row = true →
        SuitsRow engineState row
  | .processCompleted ctx =>
      ∀ id ∈ ScheduledTaskHostAdapter.resolveScheduledTaskId w.scheduledTasks ctx,
        ∀ row ∈ w.scheduledTasks.rows,
          ScheduledTaskHostAdapter.isRow id ctx.tenantId row = true → row.status ≠ .cancelled
  | _ => True

instance (engineState : StepStatus) (row : ScheduledTaskEntity) :
    Decidable (SuitsRow engineState row) :=
  inferInstanceAs (Decidable (if IsSettled row then _ else _))

instance (w : World) : ∀ action, Decidable (SparesSettled env w action)
  | .reschedule scheduledTaskId _ _ =>
      inferInstanceAs (Decidable (_ → ∀ row ∈ w.scheduledTasks.find? scheduledTaskId, _ → _))
  | .pause scheduledTaskId _ | .resume scheduledTaskId | .cancel scheduledTaskId =>
      inferInstanceAs (Decidable (∀ row ∈ w.scheduledTasks.find? scheduledTaskId, _))
  | .failed scheduledTaskId _ _ =>
      inferInstanceAs (Decidable (∀ id ∈ scheduledTaskId,
        ∀ row ∈ w.scheduledTasks.find? id, ¬ IsSettled row))
  | .processStarted _ | .stepStateChanged _ _ =>
      inferInstanceAs (Decidable (∀ row ∈ w.scheduledTasks.rows, _ → _))
  | .processCompleted ctx =>
      inferInstanceAs (Decidable
        (∀ id ∈ ScheduledTaskHostAdapter.resolveScheduledTaskId w.scheduledTasks ctx,
          ∀ row ∈ w.scheduledTasks.rows, _ → _))
  | .scheduleTaskWindow _ | .scheduleFromShifts _ | .deliver _ | .pass _ =>
      inferInstanceAs (Decidable True)

/-! ## Rows that are spared -/

/-- What becomes of a sound row: it is sound, and settled rows stay as they are. -/
def Spares (old row : ScheduledTaskEntity) : Prop :=
  ActiveUntilSettled old → ActiveUntilSettled row ∧ StaysSettled old row

theorem Spares.refl (row : ScheduledTaskEntity) : Spares row row :=
  fun sound => ⟨sound, fun _ => ⟨rfl, rfl, rfl⟩⟩

/-- A row that is not settled may take any status that settles it only if it turns
inactive. -/
theorem Spares.of_open {old row : ScheduledTaskEntity} (unsettled : ¬ IsSettled old)
    (sound : ActiveUntilSettled old → ActiveUntilSettled row) : Spares old row :=
  fun before => ⟨sound before, fun settled => absurd settled unsettled⟩

theorem StaysSettled.trans {first second third : ScheduledTaskEntity}
    (earlier : StaysSettled first second) (later : StaysSettled second third) :
    StaysSettled first third := by
  intro settled
  obtain ⟨status, start, stop⟩ := earlier settled
  have settled' : IsSettled second := by
    unfold IsSettled
    rw [status]
    exact settled
  obtain ⟨status', start', stop'⟩ := later settled'
  exact ⟨status'.trans status, start'.trans start, stop'.trans stop⟩

theorem ActiveUntilSettled.unsettled {row : ScheduledTaskEntity} (sound : ActiveUntilSettled row)
    (active : row.isActive = true) : ¬ IsSettled row := fun settled => by
  rw [sound.mpr settled] at active
  cases active

section Effects

variable {w after : World}

/-- Both halves of the claim after an action. -/
def Carries (w after : World) : Prop := Sound after ∧ SettledStay w after

/-- An update that spares every row it writes. -/
theorem Sound.update {p : ScheduledTaskEntity → Bool}
    {set : ScheduledTaskEntity → ScheduledTaskEntity}
    {keeps : ∀ row, Keyed.key (set row) = Keyed.key row} (sound : Sound w)
    (rows : after.scheduledTasks = w.scheduledTasks.update p set keeps)
    (spares : ∀ row ∈ w.scheduledTasks.rows, p row = true → Spares row (set row)) :
    Carries w after := by
  unfold Carries Sound SettledStay
  rw [rows]
  constructor
  · intro row member
    obtain ⟨old, oldMember, _, spared⟩ := Table.images_update Spares.refl spares row member
    exact (spared (sound old oldMember)).1
  · intro old oldMember
    obtain ⟨row, member, same, spared⟩ := Table.keeps_update Spares.refl spares old oldMember
    exact ⟨row, member, same, (spared (sound old oldMember)).2⟩

/-- The same, where one row is written. -/
theorem Sound.updateAt {id : Nat} {set : ScheduledTaskEntity → ScheduledTaskEntity}
    {keeps : ∀ row, Keyed.key (set row) = Keyed.key row} (sound : Sound w)
    (rows : after.scheduledTasks = w.scheduledTasks.updateAt id set keeps)
    (spares : ∀ row, w.scheduledTasks.find? id = some row → Spares row (set row)) :
    Carries w after :=
  sound.update rows fun row member isRow =>
    spares row (Table.find?_eq_some.mpr ⟨member, by simpa using isRow⟩)

theorem Sound.append {added : ScheduledTaskEntity} (sound : Sound w)
    (rows : after.scheduledTasks.rows = w.scheduledTasks.rows ++ [added])
    (new : ActiveUntilSettled added) : Carries w after := by
  refine ⟨fun row member => ?_, Table.Keeps.append (fun _ _ => ⟨rfl, rfl, rfl⟩) rows⟩
  rw [rows] at member
  rcases List.mem_append.mp member with old | isNew
  · exact sound row old
  · rw [List.mem_singleton.mp isNew]
    exact new

theorem Sound.same (sound : Sound w) (same : after.scheduledTasks = w.scheduledTasks) :
    Carries w after := by
  unfold Carries Sound SettledStay
  rw [same]
  exact ⟨sound, Table.Keeps.refl (fun _ _ => ⟨rfl, rfl, rfl⟩) _⟩

theorem Carries.trans {between : World} (first : Carries w between)
    (second : Carries between after) : Carries w after :=
  ⟨second.1, Table.Keeps.trans StaysSettled.trans first.2 second.2⟩

theorem Placed.carries {input : ScheduleFromShiftsInput} {ctx : TaskContext}
    {prevChildEndUtc : Option Int} {shifts : List ShiftInput}
    (placed : Placed env input ctx prevChildEndUtc shifts w after) (sound : Sound w) :
    Carries w after := by
  induction placed with
  | done => exact sound.same rfl
  | raised _ idle => exact sound.same idle.rows
  | place _ placed _ ih =>
      have first := sound.append placed.rows
        (by simp [ActiveUntilSettled, IsSettled, shiftRow, queuedRow])
      exact first.trans (ih first.1)

/-- An open row that is written an open status. -/
theorem Spares.reopened {old row : ScheduledTaskEntity} (unsettled : ¬ IsSettled old)
    (active : row.isActive = old.isActive) (open' : ¬ IsSettled row) : Spares old row := by
  refine .of_open unsettled fun sound => ?_
  unfold ActiveUntilSettled at sound ⊢
  rw [active, sound]
  exact iff_of_false unsettled open'

/-- What the worker does with a job spares settled rows: it looks at `is_active`. -/
theorem Processed.carries {job : Job} (processed : Processed env w job after) (sound : Sound w) :
    Carries w after := by
  have isOpen : ∀ row, Awaits w job row → ¬ IsSettled row := fun row awaits =>
    (sound row (Table.mem_of_find? awaits.found)).unsettled awaits.active
  have isRow : ∀ {row old}, Awaits w job row →
      w.scheduledTasks.find? row.scheduledTaskId = some old → old = row :=
    fun awaits found => Option.some.inj (found.symm.trans (awaits.id ▸ awaits.found))
  cases processed with
  | ignored _ idle => exact sound.same idle.rows
  | started row awaits _ _ _ _ rows =>
      refine sound.updateAt rows fun old found => ?_
      obtain rfl := isRow awaits found
      exact .reopened (isOpen old awaits) rfl (by simp [IsSettled])
  | deferred row awaits _ _ _ _ rows =>
      refine sound.updateAt rows fun old found => ?_
      obtain rfl := isRow awaits found
      exact .reopened (isOpen old awaits) rfl (by simp [IsSettled])
  | ended row awaits _ _ rows =>
      refine sound.updateAt rows fun old found => ?_
      obtain rfl := isRow awaits found
      exact .of_open (isOpen old awaits) fun _ => by simp [ActiveUntilSettled, IsSettled]

theorem Effect.carries {action : Action} (effect : Effect env w action after) (sound : Sound w)
    (spares : SparesSettled env w action) : Carries w after := by
  cases effect with
  | kept _ idle => exact sound.same idle.rows
  | passed _ rows => exact sound.same rows
  | windowed _ row _ active scheduled _ _ _ _ _ rows =>
      exact sound.append rows (by simp [ActiveUntilSettled, IsSettled, active, scheduled])
  | shifted _ _ _ placed => exact placed.carries sound
  | rescheduled scheduledTaskId start stop row found requested _ rows =>
      refine sound.updateAt rows fun old isRow before => ⟨before, fun settled => ?_⟩
      obtain rfl := Option.some.inj (isRow.symm.trans found)
      obtain ⟨sameStart, sameStop⟩ := spares requested old found settled
      exact ⟨rfl, sameStart.symm, sameStop.symm⟩
  | paused _ _ _ rows =>
      exact sound.updateAt rows fun old isRow =>
        .reopened (spares old isRow) rfl (by simp [IsSettled])
  | resumed _ _ rows =>
      exact sound.updateAt rows fun old isRow =>
        .reopened (spares old isRow) rfl (by simp [IsSettled])
  | cancelled _ _ rows =>
      refine sound.updateAt rows fun old isRow _ => ⟨by simp [ActiveUntilSettled, IsSettled], ?_⟩
      intro settled
      exact ⟨(settled.resolve_left (spares old isRow)).symm, rfl, rfl⟩
  | undelivered => exact sound.same rfl
  | delivered _ _ _ _ _ processed => exact processed.carries sound
  | failed id _ _ _ rows =>
      exact sound.updateAt rows fun old isRow =>
        .reopened (spares id rfl old isRow) rfl (by simp [IsSettled])
  | linked _ _ rows =>
      exact sound.update rows fun old member isRow =>
        .reopened (spares old member isRow) rfl (by simp [IsSettled])
  | synced _ engineState _ rows =>
      refine sound.update rows fun old member isRow before => ?_
      have suits := spares old member isRow
      unfold SuitsRow at suits
      split at suits
      · next settled =>
          refine ⟨?_, fun _ => ⟨suits, rfl, rfl⟩⟩
          unfold ActiveUntilSettled IsSettled at before ⊢
          rw [suits]
          exact before
      · next unsettled =>
          refine Spares.reopened unsettled rfl ?_ before
          cases engineState <;> simp [IsSettled, mapEngineStateToScheduledTaskStatus] at suits ⊢
  | finished _ id resolved _ rows =>
      refine sound.update rows fun old member isRow _ =>
        ⟨by simp [ActiveUntilSettled, IsSettled], fun settled => ?_⟩
      exact ⟨(settled.resolve_right (spares id resolved old member isRow)).symm, rfl, rfl⟩

end Effects

/-! ## Runs -/

theorem run_carries {w : World} (sound : Sound w) {actions : List Action}
    (guarded : (system env).Guarded (SparesSettled env) w actions) :
    Carries w ((system env).run w actions) := by
  induction actions generalizing w with
  | nil => exact sound.same rfl
  | cons action rest ih =>
      have first := (step_effect w action).carries sound guarded.1
      exact first.trans (ih first.1 guarded.2)

/-- In a run whose actions spare settled rows, a row is inactive exactly when it is
settled, and what is settled at some point has the same status and window at the end. -/
theorem schedule_lifecycle {start : World} (fresh : Fresh start) {first rest : List Action}
    (guarded : (system env).Guarded (SparesSettled env) start (first ++ rest)) :
    Sound ((system env).run start first) ∧
      SettledStay ((system env).run start first) ((system env).run start (first ++ rest)) := by
  have initial : Sound start := by
    intro row member
    rw [fresh.scheduledTasks] at member
    cases member
  rw [StepSystem.guarded_append] at guarded
  have sound := (run_carries initial guarded.1).1
  rw [StepSystem.run_append]
  exact ⟨sound, (run_carries sound guarded.2).2⟩

/-- A shift is paused, resumed and completed by its end job, another one cancelled. -/
theorem schedule_lifecycle_settled :
    Sound ((system everyDay).run unscheduled
        [shiftOf 1 0 10, .pause 1 0, .resume 1, .pass 600000, .deliver 2]) ∧
      SettledStay
        ((system everyDay).run unscheduled
          [shiftOf 1 0 10, .pause 1 0, .resume 1, .pass 600000, .deliver 2])
        ((system everyDay).run unscheduled
          ([shiftOf 1 0 10, .pause 1 0, .resume 1, .pass 600000, .deliver 2] ++
            [shiftOf 2 20 30, .cancel 2])) :=
  schedule_lifecycle fresh_unscheduled (by decide)

/-- A cancelled shift that is resumed is scheduled again and stays inactive. -/
theorem resumed_unsound : Fresh unscheduled ∧
    ¬ Sound ((system everyDay).run unscheduled [shiftOf 1 0 10, .cancel 1, .resume 1]) :=
  ⟨fresh_unscheduled, by decide⟩

end CoreApi.Scheduler
