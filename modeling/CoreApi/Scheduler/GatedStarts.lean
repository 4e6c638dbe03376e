import CoreApi.Scheduler.DependencyGates

/-!
# Gated starts

`scheduleTaskWindow` moves a request behind the gate of its task and then applies the
constraint of the task, which sets the start anew where it names a date to start on or to
finish by. What fits the start to the calendar moves it later only.
-/

namespace CoreApi.Scheduler

open CoreApi.Foundation SchedulerService

/-! ## The days that are looked at -/

namespace CalendarOf

variable {of : CalendarOf}

variable (of) in
/-- When the day of an instant opens, from the instant on: at once within working hours,
else with the next slot. -/
def opening (instant : Int) : Option Int :=
  if isWithinAnyInterval instant (of.intervalsOn instant) then some instant
  else nextStartAfter instant (of.intervalsOn instant)

variable (of) in
/-- Where the search of a later day begins. -/
def dayAfter (instant : Int) (days : Nat) : Int :=
  (fun cursor => of.zone.startOfDay (of.zone.plusDay cursor))^[days] instant

variable (of) in
/-- Of the days of the next year the first one that opens does not open before the gate. -/
def ShutUntil (gate instant : Int) : Prop :=
  ∃ days < 366, (∃ opens ∈ of.opening (of.dayAfter instant days), gate ≤ opens) ∧
    ∀ earlier < days, of.opening (of.dayAfter instant earlier) = none

theorem searchDays_succ (requestedUtc : Int) (days : Nat) (cursor : Int) :
    of.searchDays requestedUtc (days + 1) cursor =
      (of.opening cursor).getD (of.searchDays requestedUtc days (of.dayAfter cursor 1)) := by
  rw [searchDays, opening]
  split
  · rfl
  · cases nextStartAfter cursor (of.intervalsOn cursor) <;> rfl

theorem le_searchDays_iff {gate requestedUtc : Int} (days : Nat) {cursor : Int} :
    gate ≤ of.searchDays requestedUtc days cursor ↔
      (∃ day < days, (∃ opens ∈ of.opening (of.dayAfter cursor day), gate ≤ opens) ∧
        ∀ earlier < day, of.opening (of.dayAfter cursor earlier) = none) ∨
      ((∀ day < days, of.opening (of.dayAfter cursor day) = none) ∧ gate ≤ requestedUtc) := by
  induction days generalizing cursor with
  | zero => simp [searchDays]
  | succ days ih =>
      have next : ∀ day, of.dayAfter (of.dayAfter cursor 1) day = of.dayAfter cursor (day + 1) :=
        fun day => (Function.iterate_succ_apply _ day cursor).symm
      rw [searchDays_succ]
      cases opened : of.opening cursor with
      | some opens =>
          rw [Option.getD_some]
          constructor
          · intro behind
            exact .inl ⟨0, by omega, ⟨opens, opened, behind⟩, by simp⟩
          · rintro (⟨day, _, ⟨other, isOther, behind⟩, shut⟩ | ⟨shut, _⟩)
            · rcases Nat.eq_zero_or_pos day with rfl | later
              · cases opened.symm.trans isOther
                exact behind
              · exact absurd (opened.symm.trans (shut 0 later)) nofun
            · exact absurd (opened.symm.trans (shut 0 (by omega))) nofun
      | none =>
          rw [Option.getD_none, ih]
          simp only [next]
          have shutFrom : ∀ last, (∀ day < last + 1, of.opening (of.dayAfter cursor day) = none) ↔
              ∀ day < last, of.opening (of.dayAfter cursor (day + 1)) = none := by
            intro last
            rw [Nat.forall_lt_succ_left]
            exact and_iff_right opened
          rw [shutFrom, Nat.exists_lt_succ_left]
          simp only [shutFrom]
          have unopened : ¬∃ opens ∈ of.opening (of.dayAfter cursor 0), gate ≤ opens := by
            rintro ⟨opens, isOpening, _⟩
            exact absurd (opened.symm.trans isOpening) nofun
          simp only [unopened, false_and, false_or]

/-- A request is fitted behind the gate where it is not before it, or nothing opens before. -/
theorem le_nextAllowedUtc_iff (movesOn : of.zone.MovesOn) {gate requestedUtc : Int} :
    gate ≤ of.nextAllowedUtc requestedUtc ↔
      gate ≤ requestedUtc ∨ of.ShutUntil gate requestedUtc := by
  constructor
  · intro behind
    rcases (le_searchDays_iff 366).mp behind with shut | ⟨_, behind⟩
    · exact .inr shut
    · exact .inl behind
  · rintro (behind | shut)
    · exact behind.trans (le_nextAllowedUtc movesOn)
    · exact (le_searchDays_iff 366).mpr (.inl shut)

end CalendarOf

/-! ## The constraint on the start -/

namespace SchedulerService

variable {env : Environment} {w w' : World} {input : ScheduleTaskWindowInput} {ctx : TaskContext}
  {row : ScheduledTaskEntity}

/-- The start that a constraint sets in place of the one behind the gate. -/
def overridingStart (ctx : TaskContext) (start : Int) : Option Int :=
  match ctx.startConstraintType, ctx.startConstraintUtc with
  | some .on, some constraint | some .mustStartOn, some constraint => some constraint
  | some .mustFinishOn, some _ =>
      (ctx.finishConstraintUtc.filter fun finish => finish < start).map (· - oneMinute)
  | _, _ => none

/-- A start that a constraint sets before the gate falls in a time in which no day opens
before the gate. -/
def StartsBehindGate (env : Environment) (input : ScheduleTaskWindowInput) (w : World) : Prop :=
  ∀ ctx ∈ env.taskContext input.taskId,
    ∀ gate ∈ DependencyResolver.earliestGateUtc w input.taskId,
      ∀ start ∈ overridingStart ctx (max input.requestedStartUtc gate),
        gate ≤ start ∨ (env.calendarOf ctx.tenantId none).ShutUntil gate start

/-- Behind the gate a request does not end before it starts. -/
theorem gated_some (gate start stop : Int) :
    ∃ finish, gated (some gate) start stop = (max start gate, finish) ∧ max start gate ≤ finish := by
  refine ⟨_, Prod.ext ?_ rfl, ?_⟩
  · simp only [gated]
    split <;> omega
  · simp only [gated, oneMinute]
    split <;> split <;> omega

/-- Behind the gate the start is the one a constraint sets, or still behind the gate. -/
theorem constrained_start {gate start stop : Int} :
    (∀ instant ∈ overridingStart ctx (max start gate), (constrained ctx
        (gated (some gate) start stop).1 (gated (some gate) start stop).2).1 = instant) ∧
      (overridingStart ctx (max start gate) = none → gate ≤ (constrained ctx
        (gated (some gate) start stop).1 (gated (some gate) start stop).2).1) := by
  obtain ⟨finish, isGated, ordered⟩ := gated_some gate start stop
  rw [isGated]
  unfold overridingStart constrained
  cases ctx.startConstraintType with
  | none => exact ⟨nofun, fun _ => le_max_right _ _⟩
  | some type =>
      cases ctx.startConstraintUtc with
      | none =>
          refine ⟨?_, fun _ => le_max_right _ _⟩
          cases type <;> exact nofun
      | some constraint =>
          cases type with
          | on | mustStartOn => exact ⟨fun instant isSet => Option.some.inj isSet, nofun⟩
          | noEarlierThan =>
              refine ⟨nofun, fun _ => ?_⟩
              dsimp only
              split <;> omega
          | noLaterThan | asap => exact ⟨nofun, fun _ => le_max_right _ _⟩
          | mustFinishOn =>
              cases ctx.finishConstraintUtc with
              | none =>
                  refine ⟨nofun, fun _ => ?_⟩
                  simp only [Option.getD_none, if_neg (not_lt.mpr ordered)]
                  exact le_max_right _ _
              | some finish =>
                  simp only [Option.getD_some]
                  by_cases early : finish < max start gate
                  · simp only [Option.filter, decide_eq_true_eq, if_pos early]
                    exact ⟨fun instant isSet => Option.some.inj isSet, nofun⟩
                  · simp only [Option.filter, decide_eq_true_eq, if_neg early]
                    exact ⟨nofun, fun _ => le_max_right _ _⟩

/-- Asking for a process stores no row. -/
theorem attachProcess_rows (tenantId scheduledTaskId : Nat) :
    Program.wp (attachProcess input tenantId scheduledTaskId)
      (fun _ w' => w'.scheduledTasks = w.scheduledTasks) (fun _ _ => False) w := by
  unfold attachProcess
  split
  · rw [Program.wp_when]
    exact ⟨fun _ => rfl, fun _ => rfl⟩
  · rfl

/-- What a run that returns stored. -/
theorem scheduleTaskWindow_stored (known : env.taskContext input.taskId = some ctx) :
    Program.wp (scheduleTaskWindow env input)
      (fun row w' => row ∈ w'.scheduledTasks.rows ∧
        row.effectiveStartUtc ≤ row.effectiveEndUtc ∧
        row.effectiveStartUtc = (env.calendarOf ctx.tenantId none).nextAllowedUtc (constrained ctx
          (gated (DependencyResolver.earliestGateUtc w input.taskId) input.requestedStartUtc
            input.requestedEndUtc).1
          (gated (DependencyResolver.earliestGateUtc w input.taskId) input.requestedStartUtc
            input.requestedEndUtc).2).1)
      (fun _ _ => True) w := by
  unfold scheduleTaskWindow
  rw [Program.wp_bind, wp_getTaskContext]
  refine ⟨fun ctx' known' => ?_, fun _ => trivial⟩
  cases known.symm.trans known'
  simp only [Program.wp_bind, Program.wp_read, wp_randomUuid]
  rw [wp_createActive _ (by exact Window.ordered _)]
  refine ⟨fun _ => ?_, fun _ => trivial⟩
  rw [wp_snapshot]
  refine Program.wp_mono (attachProcess_rows _ _) (fun _ w' kept => ?_) fun _ _ _ => trivial
  rw [Program.wp_pure, kept]
  exact ⟨by simp, Window.ordered _, rfl⟩

theorem scheduleTaskWindow_known (run : scheduleTaskWindow env input w = (.ok row, w')) :
    ∃ ctx, env.taskContext input.taskId = some ctx := by
  have raises : Program.wp (scheduleTaskWindow env input)
      (fun _ _ => ∃ ctx, env.taskContext input.taskId = some ctx) (fun _ _ => True) w := by
    unfold scheduleTaskWindow
    rw [Program.wp_bind, wp_getTaskContext]
    exact ⟨fun ctx known => Program.wp_mono (Program.wp_trivial _)
      (fun _ _ _ => ⟨ctx, known⟩) fun _ _ _ => trivial, fun _ => trivial⟩
  exact Program.wp_ok raises run

/-- **A row starts behind the gate** exactly where no constraint sets its start before the
gate while a day is open. -/
theorem starts_behind_gate_iff (movesOn : ∀ timezone, (env.zone timezone).MovesOn)
    (run : scheduleTaskWindow env input w = (.ok row, w')) :
    (row ∈ w'.scheduledTasks.rows ∧
      (∀ gate ∈ DependencyResolver.earliestGateUtc w input.taskId, gate ≤ row.effectiveStartUtc) ∧
      row.effectiveStartUtc ≤ row.effectiveEndUtc) ↔ StartsBehindGate env input w := by
  obtain ⟨ctx, known⟩ := scheduleTaskWindow_known run
  obtain ⟨stored, ordered, start⟩ := Program.wp_ok (scheduleTaskWindow_stored known) run
  have moves : (env.calendarOf ctx.tenantId none).zone.MovesOn := movesOn _
  rw [and_iff_right stored, and_iff_left ordered, start]
  simp only [StartsBehindGate, known, Option.mem_def, Option.some.injEq, forall_eq']
  refine forall₂_congr fun gate isGate => ?_
  rw [isGate]
  obtain ⟨sets, keeps⟩ :=
    @constrained_start ctx gate input.requestedStartUtc input.requestedEndUtc
  cases overriding : overridingStart ctx (max input.requestedStartUtc gate) with
  | none =>
      refine iff_of_true ?_ nofun
      exact (keeps overriding).trans (CalendarOf.le_nextAllowedUtc moves)
  | some instant =>
      rw [sets instant overriding, CalendarOf.le_nextAllowedUtc_iff moves]
      simp

open DependencyResolver

theorem starts_behind_gate_everyDay :
    ∃ row w', scheduleTaskWindow Runs.everyDay (firstTenMinutes 2) firstScheduled =
        (.ok row, w') ∧
      row ∈ w'.scheduledTasks.rows ∧
      (∀ gate ∈ earliestGateUtc firstScheduled 2, gate ≤ row.effectiveStartUtc) ∧
      row.effectiveStartUtc ≤ row.effectiveEndUtc := by
  have returned : ∃ row, (scheduleTaskWindow Runs.everyDay (firstTenMinutes 2)
      firstScheduled).1 = .ok row := ⟨_, rfl⟩
  have unconstrained : StartsBehindGate Runs.everyDay (firstTenMinutes 2) firstScheduled := by
    intro ctx known gate _ start isSet
    cases known
    simp [overridingStart] at isSet
  obtain ⟨row, returned⟩ := returned
  exact ⟨row, _, Prod.ext returned rfl, (starts_behind_gate_iff everyDay_movesOn
    (Prod.ext returned rfl)).mpr unconstrained⟩

/-- Every day is worked, and task 2 must start at midnight. -/
def startsAtMidnight : Environment where
  calendar := Runs.everyDay.calendar
  taskContext := fun taskId => some
    { tenantId := 1
      taskStatusId := 1
      startConstraintType := if taskId = 2 then some .mustStartOn else none
      startConstraintUtc := some 0
      finishConstraintUtc := none }
  zone := Runs.everyDay.zone

/-- Task 2 is scheduled from midnight on, while task 1 runs until the tenth minute. -/
theorem mustStartOn_before_gate :
    ∃ row w', scheduleTaskWindow startsAtMidnight (firstTenMinutes 2) firstScheduled =
        (.ok row, w') ∧
      earliestGateUtc firstScheduled 2 = some (10 * oneMinute) ∧ row.effectiveStartUtc = 0 ∧
      ¬∀ gate ∈ earliestGateUtc firstScheduled 2, gate ≤ row.effectiveStartUtc := by
  have gate : earliestGateUtc firstScheduled 2 = some (10 * oneMinute) := by decide
  refine ⟨_, _, rfl, gate, by decide, fun behind => ?_⟩
  exact absurd (behind _ gate) (by decide)

end SchedulerService

end CoreApi.Scheduler
