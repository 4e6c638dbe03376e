import CoreApi.Scheduler.WorkAccounting
import CoreApi.Scheduler.RowEffects
import CoreApi.Scheduler.TaskProcessor

/-!
# Rescheduled windows

`scheduleTaskWindow` fits the start of a request to the calendar and works off its length
from there; `reschedule` fits both ends. The two windows are one, and as long in working
time as the request, where the request is worked throughout and its end is allowed.
-/

namespace CoreApi.Scheduler

open CoreApi.Foundation

namespace CalendarOf

variable {of : CalendarOf} {requestedStartUtc requestedEndUtc : Int}

variable (of) in
/-- The request is worked throughout, and its end is not moved. -/
def FitsExactly (requestedStartUtc requestedEndUtc : Int) : Prop :=
  (∀ instant, requestedStartUtc ≤ instant → instant < requestedEndUtc → of.IsWorking instant) ∧
    (of.IsWorking requestedEndUtc ∨ ¬of.WorksWithin 366 requestedEndUtc)

section Fit

/-- The days from the instant on that a request is fitted to. -/
theorem KeepsTime.fitted (proper : of.HasProperSlots)
    (keeps : of.KeepsTime (of.zone.dateOf requestedStartUtc)
      (of.zone.dateOf requestedStartUtc + 732)) :
    of.KeepsTime (of.zone.dateOf (of.nextAllowedUtc requestedStartUtc))
      (of.zone.dateOf (of.nextAllowedUtc requestedStartUtc) + 366) := by
  have year : of.KeepsTime (of.zone.dateOf requestedStartUtc)
      (of.zone.dateOf requestedStartUtc + 366) := keeps.mono le_rfl (by omega)
  obtain ⟨next, fallback⟩ := year.nextAllowedUtc proper
  by_cases works : of.WorksWithin 366 requestedStartUtc
  · have early := year.nextWorking_early works (next works)
    have late := year.date_le le_rfl (by omega) (next works).1.1
    exact keeps.mono late (by omega)
  · rw [fallback works]
    exact year

variable (proper : of.HasProperSlots) (slots : of.SlotsInOrder)
  (keepsStart : of.KeepsTime (of.zone.dateOf requestedStartUtc)
    (of.zone.dateOf requestedStartUtc + 732))
  (keepsEnd : of.KeepsTime (of.zone.dateOf requestedEndUtc)
    (of.zone.dateOf requestedEndUtc + 366))

include keepsEnd proper in
theorem KeepsTime.idle_before_fitted
    (moved : requestedEndUtc < of.nextAllowedUtc requestedEndUtc) :
    ¬of.IsWorking (of.nextAllowedUtc requestedEndUtc - 1) := by
  obtain ⟨next, fallback⟩ := keepsEnd.nextAllowedUtc proper
  intro working
  by_cases works : of.WorksWithin 366 requestedEndUtc
  · have least := (next works).2 ⟨(by omega : requestedEndUtc ≤ _), working⟩
    omega
  · have := fallback works
    omega

include keepsEnd proper in
/-- The end of a request is not moved where it is worked, or nothing is from it on. -/
theorem KeepsTime.nextAllowedUtc_eq_iff :
    of.nextAllowedUtc requestedEndUtc = requestedEndUtc ↔
      of.IsWorking requestedEndUtc ∨ ¬of.WorksWithin 366 requestedEndUtc := by
  obtain ⟨next, fallback⟩ := keepsEnd.nextAllowedUtc proper
  constructor
  · intro same
    by_cases works : of.WorksWithin 366 requestedEndUtc
    · have working := (next works).1.2
      rw [same] at working
      exact .inl working
    · exact .inr works
  · rintro (working | idle)
    · exact keepsEnd.nextAllowedUtc_of_working proper working
    · exact fallback idle

include slots in
/-- The instant before some work ends is worked, where the wall-clock time is not taken. -/
theorem KeepsTime.worked_before_end {start durationMs : Int}
    (keeps : of.KeepsTime (of.zone.dateOf start) (of.zone.dateOf start + 366))
    (positive : 0 < durationMs)
    (worked : of.workingTime start (of.addDurationWithinWorkingHours start durationMs) =
      durationMs) :
    of.IsWorking (of.addDurationWithinWorkingHours start durationMs - 1) := by
  obtain ⟨finishes, falls⟩ := keeps.addDuration slots positive
  rcases le_or_gt durationMs (of.workingTime start (of.horizon 366 start)) with enough | short
  · exact (finishes enough).worked_last positive
  · have fallback := falls short
    rw [fallback] at worked ⊢
    have full : work of.IsWorking start (start + durationMs) = start + durationMs - start := by
      rw [add_sub_cancel_left]
      exact worked
    exact worked_of_work full _ (by omega) (by omega)

include slots in
/-- In a span that is worked throughout, work ends when its duration is over. -/
theorem KeepsTime.addDuration_full {start durationMs : Int}
    (keeps : of.KeepsTime (of.zone.dateOf start) (of.zone.dateOf start + 366))
    (positive : 0 < durationMs)
    (full : ∀ instant, start ≤ instant → instant < start + durationMs → of.IsWorking instant) :
    of.addDurationWithinWorkingHours start durationMs = start + durationMs := by
  obtain ⟨finishes, falls⟩ := keeps.addDuration slots positive
  rcases le_or_gt durationMs (of.workingTime start (of.horizon 366 start)) with enough | short
  · exact (finishes enough).unique (IsFinish.full positive.le full)
  · exact falls short

include proper slots keepsStart keepsEnd in
theorem KeepsTime.ends_eq_iff (less : requestedStartUtc < requestedEndUtc) :
    (of.nextAllowedUtc requestedEndUtc = of.addDurationWithinWorkingHours
          (of.nextAllowedUtc requestedStartUtc) (requestedEndUtc - requestedStartUtc) ∧
        of.workingTime (of.nextAllowedUtc requestedStartUtc) (of.nextAllowedUtc requestedEndUtc) =
          requestedEndUtc - requestedStartUtc) ↔
      of.FitsExactly requestedStartUtc requestedEndUtc := by
  have year : of.KeepsTime (of.zone.dateOf requestedStartUtc)
      (of.zone.dateOf requestedStartUtc + 366) := keepsStart.mono le_rfl (by omega)
  have keeps := keepsStart.fitted proper
  have positive : 0 < requestedEndUtc - requestedStartUtc := by omega
  constructor
  · rintro ⟨same, worked⟩
    have last : of.IsWorking (of.nextAllowedUtc requestedEndUtc - 1) := by
      rw [same] at worked ⊢
      exact keeps.worked_before_end slots positive worked
    have started := year.le_nextAllowedUtc proper
    have ended := keepsEnd.le_nextAllowedUtc proper
    have isEnd : of.nextAllowedUtc requestedEndUtc = requestedEndUtc := by
      by_contra moved
      exact keepsEnd.idle_before_fitted proper (by omega) last
    have wallClock := @KeepsTime.start_add_le of _ (requestedEndUtc - requestedStartUtc) slots keeps
    rw [← same, isEnd] at wallClock
    rw [isEnd, show of.nextAllowedUtc requestedStartUtc = requestedStartUtc by omega] at worked
    exact ⟨worked_of_work worked, (keepsEnd.nextAllowedUtc_eq_iff proper).mp isEnd⟩
  · rintro ⟨full, allowed⟩
    have isEnd := (keepsEnd.nextAllowedUtc_eq_iff proper).mpr allowed
    have isStart := year.nextAllowedUtc_of_working proper (full _ le_rfl less)
    rw [isStart] at keeps ⊢
    have wallClock := keeps.addDuration_full slots positive fun instant later before =>
      full instant later (by omega)
    rw [isEnd, wallClock]
    exact ⟨by omega, work_full less.le full⟩

include proper slots keepsStart keepsEnd in
theorem KeepsTime.windows_eq_iff (ordered : requestedStartUtc ≤ requestedEndUtc) :
    (Window.upTo (of.nextAllowedUtc requestedStartUtc) (of.nextAllowedUtc requestedEndUtc) =
        of.workWindow requestedStartUtc (requestedEndUtc - requestedStartUtc) ∧
      of.workingTime (of.nextAllowedUtc requestedStartUtc)
          (max (of.nextAllowedUtc requestedStartUtc) (of.nextAllowedUtc requestedEndUtc)) =
        requestedEndUtc - requestedStartUtc) ↔
      requestedStartUtc = requestedEndUtc ∨ of.FitsExactly requestedStartUtc requestedEndUtc := by
  have year : of.KeepsTime (of.zone.dateOf requestedStartUtc)
      (of.zone.dateOf requestedStartUtc + 366) := keepsStart.mono le_rfl (by omega)
  rcases ordered.eq_or_lt with rfl | less
  · refine iff_of_true ⟨?_, ?_⟩ (.inl rfl)
    · simp [Window.upTo, workWindow, addDuration_of_nonpos]
    · rw [max_self, sub_self]
      exact work_self _
  · have after := year.nextAllowedUtc_mono proper keepsEnd ordered
    have wallClock := @KeepsTime.start_add_le of _ (requestedEndUtc - requestedStartUtc) slots
      (keepsStart.fitted proper)
    rw [max_eq_right after, or_iff_right less.ne,
      ← KeepsTime.ends_eq_iff proper slots keepsStart keepsEnd less]
    refine and_congr_left fun _ => ?_
    simp only [Window.upTo, workWindow, Window.mk.injEq, true_and, max_eq_right after]
    rw [max_eq_right (by omega)]

end Fit

end CalendarOf

/-! ## The two entry points -/

namespace SchedulerService

variable {env : Environment} {w : World} {scheduledTaskId : Nat} {row : ScheduledTaskEntity}
  {input : ScheduleTaskWindowInput} {ctx : TaskContext}

/-- The effective window of a row. -/
def HasWindow (window : Window) (row : ScheduledTaskEntity) : Prop :=
  row.effectiveStartUtc = window.start ∧ row.effectiveEndUtc = window.stop

theorem reschedule_window (found : w.scheduledTasks.find? scheduledTaskId = some row)
    {requestedStartUtc requestedEndUtc : Int} (ordered : requestedStartUtc ≤ requestedEndUtc) :
    Program.wp (reschedule env scheduledTaskId requestedStartUtc requestedEndUtc)
      (fun moved _ => HasWindow (rescheduledWindow env row requestedStartUtc requestedEndUtc) moved)
      (fun _ _ => False) w := by
  unfold reschedule
  rw [Program.wp_bind, wp_findRow]
  refine ⟨fun row' found' => ?_, fun absent => ?_⟩
  · cases found.symm.trans found'
    rw [Program.wp_bind, checkWindows_ok (by exact ordered)
      (by exact (rescheduledWindow env row requestedStartUtc requestedEndUtc).ordered)]
    exact ⟨rfl, rfl⟩
  · rw [found] at absent
    cases absent

/-- The task starts when it is asked to: nothing is to be waited for, and no constraint is
set. -/
structure StartsAsAsked (w : World) (ctx : TaskContext) (taskId : Nat) : Prop where
  independent : ∀ dependency ∈ w.taskDependencies, dependency.taskId ≠ taskId
  unconstrained : ctx.startConstraintType = none ∨ ctx.startConstraintUtc = none

theorem StartsAsAsked.gate {taskId : Nat} (asAsked : StartsAsAsked w ctx taskId) :
    DependencyResolver.earliestGateUtc w taskId = none := by
  have none' : (w.taskDependencies.filter fun dependency => dependency.taskId == taskId) = [] :=
    List.filter_eq_nil_iff.mpr fun dependency member => by
      simpa using asAsked.independent dependency member
  unfold DependencyResolver.earliestGateUtc
  rw [none']
  rfl

theorem StartsAsAsked.constrained {taskId : Nat} (asAsked : StartsAsAsked w ctx taskId)
    (reqStart reqEnd : Int) :
    SchedulerService.constrained ctx reqStart reqEnd = (reqStart, reqEnd) := by
  unfold SchedulerService.constrained
  rcases asAsked.unconstrained with absent | absent
  · rw [absent]
  · rw [absent]
    rcases ctx.startConstraintType with _ | _ <;> rfl

theorem scheduleTaskWindow_window (known : env.taskContext input.taskId = some ctx)
    (asAsked : StartsAsAsked w ctx input.taskId)
    (ordered : input.requestedStartUtc ≤ input.requestedEndUtc) :
    Program.wp (scheduleTaskWindow env input)
      (fun placed _ => HasWindow ((env.calendarOf ctx.tenantId none).workWindow
        input.requestedStartUtc (input.requestedEndUtc - input.requestedStartUtc)) placed)
      (fun _ _ => False) w := by
  unfold scheduleTaskWindow
  rw [Program.wp_bind, wp_getTaskContext]
  refine ⟨fun ctx' known' => ?_, fun absent => ?_⟩
  · cases known.symm.trans known'
    simp only [Program.wp_bind, Program.wp_read, wp_randomUuid, asAsked.gate, gated,
      asAsked.constrained]
    rw [show durationMs input.requestedStartUtc input.requestedEndUtc =
      input.requestedEndUtc - input.requestedStartUtc from max_eq_right (by omega)]
    generalize (env.calendarOf ctx.tenantId none).workWindow _ _ = window
    rw [wp_createActive _ (by exact window.ordered)]
    refine ⟨fun _ => ?_, fun reversed => absurd (by exact reversed) (not_lt.mpr ordered)⟩
    rw [wp_snapshot]
    unfold attachProcess
    rcases input.processTemplateId with _ | processTemplateId <;>
      rcases input.createdBy with _ | createdBy
    · exact ⟨rfl, rfl⟩
    · exact ⟨rfl, rfl⟩
    · exact ⟨rfl, rfl⟩
    · rw [Program.wp_when]
      exact ⟨fun _ => ⟨rfl, rfl⟩, fun _ => ⟨rfl, rfl⟩⟩
  · rw [known] at absent
    cases absent

/-- What a run that cannot raise returns. -/
theorem returned_of_wp {α : Type} {body : Tx α} {holds : α → World → Prop}
    (meets : Program.wp body holds (fun _ _ => False) w) :
    ∃ value, (body w).1 = .ok value ∧ holds value (body w).2 := by
  obtain ⟨value, returned⟩ := Program.returns_iff.mpr
    (Program.wp_mono meets (fun _ _ _ => trivial) fun _ _ failed => failed)
  exact ⟨value, returned, Program.wp_ok meets (Prod.ext returned rfl)⟩

/-- Both entry points return, with one window, as long in working time as the request. -/
def FitsAlike (env : Environment) (w : World) (row : ScheduledTaskEntity)
    (input : ScheduleTaskWindowInput) : Prop :=
  ∃ moved placed,
    (reschedule env row.scheduledTaskId input.requestedStartUtc input.requestedEndUtc w).1 =
      .ok moved ∧
    (scheduleTaskWindow env input w).1 = .ok placed ∧
    moved.effectiveStartUtc = placed.effectiveStartUtc ∧
    moved.effectiveEndUtc = placed.effectiveEndUtc ∧
    (env.calendarOf row.tenantId none).workingTime moved.effectiveStartUtc
      moved.effectiveEndUtc = input.requestedEndUtc - input.requestedStartUtc

end SchedulerService

/-! ## A Monday morning -/

section Monday

open Runs SchedulerService

/-- The days of an office. -/
def officeDays : Environment :=
  { everyDay with
    calendar := CalendarAdapter.officeHours.provider
    zone := fun _ => CalendarAdapter.twoHoursAhead }

/-- Work between two hours of the second Monday of 1970. -/
def mondayWork (fromHour toHour : Int) : ScheduleTaskWindowInput where
  taskId := 7
  requestedStartUtc := 11 * millisPerDay + (fromHour - 2) * 3600000
  requestedEndUtc := 11 * millisPerDay + (toHour - 2) * 3600000
  priority := none
  parentScheduledTaskId := none
  processTemplateId := none
  createdBy := none

/-- The row of a task that is scheduled from nine to ten. -/
def mondayRow : ScheduledTaskEntity :=
  { parentRow officeDays (mondayWork 9 10)
      { tenantId := 1
        taskStatusId := 1
        startConstraintType := none
        startConstraintUtc := none
        finishConstraintUtc := none }
      none 975600000 979200000 ⟨975600000, 979200000, by decide⟩ 1 2 with
    scheduledTaskId := 1
    version := 1 }

def mondayWorld : World := (scheduleTaskWindow officeDays (mondayWork 9 10) unscheduled).2

end Monday

end CoreApi.Scheduler
