import CoreApi.Scheduler.RowEffects
import CoreApi.Scheduler.WorkingDays
import Mathlib.Data.List.Chain
import Mathlib.Data.List.Forall2
import Mathlib.Data.Finset.Card

/-!
# Serial shifts

`scheduleFromShifts` stores a shift and a row for every shift of the request, in the order
of their numbers, and none starts before the one before it ends. It does so where
`validateExistence`, which counts the assignments that are found, lets the request pass.
-/

namespace CoreApi.Scheduler

open CoreApi.Foundation Automation SchedulerService

/-! ## Fitted starts -/

/-- The day after an instant begins no earlier. -/
def Zone.MovesOn (zone : Zone) : Prop :=
  ∀ instant, instant ≤ zone.startOfDay (zone.plusDay instant)

theorem Zone.movesOn_fixedOffset (offset : Int) : (Zone.fixedOffset offset).MovesOn := by
  intro instant
  simp only [Zone.fixedOffset, Zone.startOfDay, Zone.plusDay, millisPerDay]
  omega

namespace CalendarOf

variable {of : CalendarOf} {requestedUtc : Int}

theorem le_searchDays (movesOn : of.zone.MovesOn) (days : Nat) :
    ∀ {cursor : Int}, requestedUtc ≤ cursor →
      requestedUtc ≤ of.searchDays requestedUtc days cursor := by
  induction days with
  | zero => exact fun _ => le_rfl
  | succ days ih =>
      intro cursor later
      unfold searchDays
      dsimp only
      split
      · exact later
      · split
        · next next found => exact later.trans (nextStartAfter_eq_some found).1.le
        · exact ih (later.trans (movesOn cursor))

/-- A request is not fitted to an earlier instant. -/
theorem le_nextAllowedUtc (movesOn : of.zone.MovesOn) :
    requestedUtc ≤ of.nextAllowedUtc requestedUtc :=
  le_searchDays movesOn 366 le_rfl

end CalendarOf

theorem le_latestEnd (conflicts : List ScheduledTaskEntity) (effStart : Int) :
    effStart ≤ latestEnd conflicts effStart := by
  induction conflicts generalizing effStart with
  | nil => exact le_rfl
  | cons row rest ih =>
      unfold latestEnd
      rw [List.foldl_cons]
      refine le_trans ?_ (ih _)
      split <;> omega

theorem le_serialStart (prevEnd : Int) (s : ShiftInput) : prevEnd ≤ serialStart (some prevEnd) s := by
  simp only [serialStart]
  split <;> omega

/-- A shift is not placed before its serial start, also where it is pushed. -/
theorem le_placeShift {of : CalendarOf} (movesOn : of.zone.MovesOn) {taskId : Nat}
    {s : ShiftInput} {start : Int} {rows : Table ScheduledTaskEntity} {window : Window}
    (placed : placeShift of taskId s start rows = .ok window) : start ≤ window.start := by
  have fitted : ∀ instant, instant ≤ (of.workWindow instant
      (durationMs s.plannedStartUtc s.plannedEndUtc)).start := fun _ =>
    CalendarOf.le_nextAllowedUtc movesOn
  unfold placeShift at placed
  dsimp only at placed
  split at placed
  · cases placed
    exact fitted start
  · split at placed
    · cases placed
      calc start ≤ _ := fitted start
        _ ≤ latestEnd _ _ := le_latestEnd _ _
        _ ≤ latestEnd _ _ + oneMinute := Int.le_add_of_nonneg_right (by decide)
        _ ≤ _ := fitted _
    · cases placed

/-! ## Stored shifts -/

/-- What an iteration stores and reports. -/
structure StoredShift where
  created : CreatedShift
  shift : ResourceAssignmentShift
  row : ScheduledTaskEntity

namespace StoredShift

/-- The shift and the row are those of an element of the request, and linked. -/
structure Belongs (stored : StoredShift) (s : ShiftInput) : Prop where
  assignment : stored.shift.resourceAssignmentId = s.resourceAssignmentId
  shiftUser : stored.shift.tenantUserId = s.tenantUserId
  sequence : stored.shift.sequenceNo = s.sequenceNo.getD 1
  rowUser : stored.row.tenantUserId = some s.tenantUserId
  linked : stored.shift.scheduledTaskId = some stored.row.scheduledTaskId
  reported : stored.created =
    { shiftId := stored.shift.shiftId
      scheduledTaskId := stored.row.scheduledTaskId
      effectiveStartUtc := stored.row.effectiveStartUtc
      effectiveEndUtc := stored.row.effectiveEndUtc }

/-- The second starts no earlier than the first ends. -/
def Before (first second : StoredShift) : Prop :=
  first.row.effectiveEndUtc ≤ second.row.effectiveStartUtc

end StoredShift

/-- The tables behind the ones before, with what was stored. -/
structure StoredBehind (stored : List StoredShift) (before after : World) : Prop where
  shifts : after.shifts.rows = before.shifts.rows ++ stored.map StoredShift.shift
  rows : after.scheduledTasks.rows = before.scheduledTasks.rows ++ stored.map StoredShift.row

theorem StoredBehind.nil (w : World) : StoredBehind [] w w :=
  ⟨(List.append_nil _).symm, (List.append_nil _).symm⟩

theorem StoredBehind.trans {first second : List StoredShift} {before between after : World}
    (behind : StoredBehind first before between) (behind' : StoredBehind second between after) :
    StoredBehind (first ++ second) before after where
  shifts := by rw [behind'.shifts, behind.shifts, List.map_append, List.append_assoc]
  rows := by rw [behind'.rows, behind.rows, List.map_append, List.append_assoc]

variable {env : Environment}

/-- The message of a shift that overlaps another one of its task. -/
def sameTaskOverlap : String := "Same-task child overlap after push; adjust shifts or durations."

theorem placeShift_error {of : CalendarOf} {taskId : Nat} {s : ShiftInput} {start : Int}
    {rows : Table ScheduledTaskEntity} {e : String}
    (raised : placeShift of taskId s start rows = .error e) : e = sameTaskOverlap := by
  unfold placeShift at raised
  dsimp only at raised
  split at raised
  · cases raised
  · split at raised
    · cases raised
    · cases raised
      rfl

theorem scheduleShift_stored (moves : ∀ timezone, (env.zone timezone).MovesOn)
    (input : ScheduleFromShiftsInput) (ctx : TaskContext) (prevChildEndUtc : Option Int)
    (s : ShiftInput) (w : World) :
    Program.wp (scheduleShift env input ctx prevChildEndUtc s)
      (fun created w' => s.plannedStartUtc ≤ s.plannedEndUtc ∧ ∃ stored : StoredShift,
        stored.created = created ∧ stored.Belongs s ∧ StoredBehind [stored] w w' ∧
        serialStart prevChildEndUtc s ≤ stored.row.effectiveStartUtc)
      (fun e _ => e = sameTaskOverlap ∨ s.plannedEndUtc < s.plannedStartUtc) w := by
  unfold scheduleShift
  simp only [Program.wp_bind, Program.wp_writeReturning, Program.wp_read]
  rcases placed : placeShift (env.calendarOf ctx.tenantId (some s.tenantUserId)) input.taskId s
    (serialStart prevChildEndUtc s) w.scheduledTasks with e | window
  · exact .inl (placeShift_error placed)
  · simp only [Program.wp_lift_ok, wp_randomUuid]
    rw [wp_createActive _ (by exact window.ordered)]
    refine ⟨fun planned => ⟨planned, ?_⟩, .inr⟩
    refine ⟨⟨⟨w.shifts.autoIncrement, w.scheduledTasks.autoIncrement, window.start, window.stop⟩,
      { shiftId := w.shifts.autoIncrement
        resourceAssignmentId := s.resourceAssignmentId
        tenantUserId := s.tenantUserId
        sequenceNo := s.sequenceNo.getD 1
        plannedStartUtc := s.plannedStartUtc
        plannedEndUtc := s.plannedEndUtc
        scheduledTaskId := some w.scheduledTasks.autoIncrement },
      shiftRow env input ctx s window w⟩, rfl, ⟨rfl, rfl, rfl, rfl, rfl, rfl⟩, ⟨?_, ?_⟩,
      le_placeShift (moves _) placed⟩
    · exact @Table.rows_updateAt_last _ _
        (w.shifts.insert
          { shiftId := 0
            resourceAssignmentId := s.resourceAssignmentId
            tenantUserId := s.tenantUserId
            sequenceNo := s.sequenceNo.getD 1
            plannedStartUtc := s.plannedStartUtc
            plannedEndUtc := s.plannedEndUtc
            scheduledTaskId := none }) _ _
        (fun shift => { shift with scheduledTaskId := some w.scheduledTasks.autoIncrement })
        (fun _ => rfl) rfl
    · exact @Table.rows_updateAt_last _ _
        (w.scheduledTasks.insert (ScheduledTasksService.activeRow
          (childRow env input ctx s window w.nextUuid (w.nextUuid + 1)))) _ _
        (fun row => { row with
          status := .queued
          startJobId := some w.nextUuid
          endJobId := some (w.nextUuid + 1) }) (fun _ => rfl) rfl

/-- The loop stores the shifts of a plan in its order, none of them starting before the one
before it ends. -/
theorem scheduleShifts_stored (moves : ∀ timezone, (env.zone timezone).MovesOn)
    (input : ScheduleFromShiftsInput) (ctx : TaskContext) (plan : List ShiftInput) :
    ∀ (prevChildEndUtc : Option Int) (w : World),
    Program.wp (scheduleShifts env input ctx prevChildEndUtc plan)
      (fun created w' => (∀ s ∈ plan, s.plannedStartUtc ≤ s.plannedEndUtc) ∧
        ∃ stored : List StoredShift, stored.map StoredShift.created = created ∧
          List.Forall₂ StoredShift.Belongs stored plan ∧ StoredBehind stored w w' ∧
          stored.IsChain StoredShift.Before ∧
          ∀ prevEnd ∈ prevChildEndUtc, ∀ first ∈ stored.head?,
            prevEnd ≤ first.row.effectiveStartUtc)
      (fun e _ => e = sameTaskOverlap ∨ ∃ s ∈ plan, s.plannedEndUtc < s.plannedStartUtc) w := by
  induction plan with
  | nil =>
      intro prevChildEndUtc w
      rw [scheduleShifts, Program.wp_pure]
      refine ⟨fun _ member => absurd member List.not_mem_nil, [], rfl, .nil, .nil w, .nil, ?_⟩
      intro prevEnd _ first isFirst
      cases isFirst
  | cons s rest ih =>
      intro prevChildEndUtc w
      rw [scheduleShifts, Program.wp_bind]
      refine Program.wp_mono (scheduleShift_stored moves input ctx prevChildEndUtc s w) ?_ ?_
      · rintro created between ⟨planned, first, rfl, belongs, behind, serial⟩
        rw [Program.wp_bind]
        refine Program.wp_mono
          (ih (some first.created.effectiveEndUtc) between) ?_ ?_
        · rintro _ after ⟨othersPlanned, others, rfl, othersBelong, othersBehind, chain, next⟩
          refine ⟨List.forall_mem_cons.mpr ⟨planned, othersPlanned⟩, first :: others, rfl,
            .cons belongs othersBelong, behind.trans othersBehind, ?_, ?_⟩
          · rw [List.isChain_cons]
            refine ⟨fun second isSecond => ?_, chain⟩
            have ends := next _ rfl second isSecond
            rw [belongs.reported] at ends
            exact ends
          · intro prevEnd isPrev second isFirst
            obtain rfl : first = second := Option.some.inj isFirst
            rw [Option.mem_def.mp isPrev] at serial
            exact (le_serialStart prevEnd s).trans serial
        · rintro e _ (overlap | ⟨other, member, reversed⟩)
          · exact .inl overlap
          · exact .inr ⟨other, List.mem_cons_of_mem _ member, reversed⟩
      · rintro e _ (overlap | reversed)
        · exact .inl overlap
        · exact .inr ⟨s, List.mem_cons_self, reversed⟩

/-! ## Plans -/

/-- Two shifts are one but for the times they are planned at. -/
def SameShift (s original : ShiftInput) : Prop :=
  s.resourceAssignmentId = original.resourceAssignmentId ∧
    s.tenantUserId = original.tenantUserId ∧ s.sequenceNo = original.sequenceNo

theorem behind_sameShift (prevEnd : Int) (s : ShiftInput) : SameShift (behind prevEnd s) s := by
  unfold behind
  split <;> exact ⟨rfl, rfl, rfl⟩

theorem serializeAfter_sameShift (prevEnd : Int) (shifts : List ShiftInput) :
    List.Forall₂ SameShift (serializeAfter prevEnd shifts) shifts := by
  induction shifts generalizing prevEnd with
  | nil => exact .nil
  | cons s rest ih =>
      exact .cons (behind_sameShift prevEnd s) (ih _)

/-- A plan holds the shifts of the request in the order of their numbers. -/
theorem serializePlan_sameShift (shifts : List ShiftInput) :
    List.Forall₂ SameShift (serializePlan shifts)
      (orderBy (fun s => s.sequenceNo.getD 1) shifts) := by
  unfold serializePlan
  cases orderBy (fun s => s.sequenceNo.getD 1) shifts with
  | nil => exact .nil
  | cons s rest => exact .cons ⟨rfl, rfl, rfl⟩ (serializeAfter_sameShift s.plannedEndUtc rest)

theorem StoredShift.Belongs.congr {stored : StoredShift} {s original : ShiftInput}
    (belongs : stored.Belongs s) (same : SameShift s original) : stored.Belongs original where
  assignment := belongs.assignment.trans same.1
  shiftUser := belongs.shiftUser.trans same.2.1
  sequence := belongs.sequence.trans (by rw [same.2.2])
  rowUser := belongs.rowUser.trans (by rw [same.2.1])
  linked := belongs.linked
  reported := belongs.reported

theorem belong_of_plan {stored : List StoredShift} {plan : List ShiftInput}
    (belong : List.Forall₂ StoredShift.Belongs stored plan) :
    ∀ {ordered : List ShiftInput}, List.Forall₂ SameShift plan ordered →
      List.Forall₂ StoredShift.Belongs stored ordered := by
  induction belong with
  | nil => exact fun | .nil => .nil
  | cons belongs _ ih =>
      exact fun | .cons same others => .cons (belongs.congr same) (ih others)

/-! ## Requests -/

/-- The assignments that are found are as many as are asked for where none is asked for
twice. -/
theorem found_length_iff {assignments ids : List Nat} (distinct : assignments.Nodup)
    (known : ∀ id ∈ ids, id ∈ assignments) :
    (assignments.filter fun id => ids.contains id).length = ids.length ↔ ids.Nodup := by
  have isSet : (assignments.filter fun id => ids.contains id).toFinset = ids.toFinset := by
    ext id
    simp only [List.mem_toFinset, List.mem_filter, List.contains_iff_mem]
    exact ⟨And.right, fun member => ⟨known id member, member⟩⟩
  rw [← List.toFinset_card_of_nodup (distinct.filter _), isSet]
  exact Multiset.toFinset_card_eq_card_iff_nodup

/-- The call returned one shift and one row for every shift of the request, linked, in the
order of their numbers, and none starts before the one before it ends. -/
def ScheduledSerially (env : Environment) (input : ScheduleFromShiftsInput) (w : World) : Prop :=
  ∃ stored : List StoredShift,
    (scheduleFromShifts env input w).1 = .ok (stored.map StoredShift.created) ∧
    List.Forall₂ StoredShift.Belongs stored
      (orderBy (fun s => s.sequenceNo.getD 1) input.shifts) ∧
    StoredBehind stored w (scheduleFromShifts env input w).2 ∧
    stored.IsChain StoredShift.Before

section Requests

variable {input : ScheduleFromShiftsInput} {w : World}

/-- What a call needs: no assignment twice, a task, and a plan whose shifts do not end
before they start. -/
structure IsSchedulable (env : Environment) (input : ScheduleFromShiftsInput) : Prop where
  distinct : (input.shifts.map ShiftInput.resourceAssignmentId).Nodup
  known : ∃ ctx, env.taskContext input.taskId = some ctx
  planned : ∀ s ∈ serializePlan input.shifts, s.plannedStartUtc ≤ s.plannedEndUtc

/-- A call whose assignments are stored returns with what it stored, or one of its tasks
overlaps, where it is schedulable; otherwise it raises. -/
theorem scheduleFromShifts_stored (moves : ∀ timezone, (env.zone timezone).MovesOn)
    (nonempty : input.shifts ≠ []) (distinct : w.resourceAssignments.Nodup)
    (stored : ∀ s ∈ input.shifts, s.resourceAssignmentId ∈ w.resourceAssignments) :
    Program.wp (scheduleFromShifts env input)
      (fun created w' => IsSchedulable env input ∧
        ∃ stored : List StoredShift, stored.map StoredShift.created = created ∧
          List.Forall₂ StoredShift.Belongs stored
            (orderBy (fun s => s.sequenceNo.getD 1) input.shifts) ∧
          StoredBehind stored w w' ∧ stored.IsChain StoredShift.Before)
      (fun e _ => e = sameTaskOverlap ∨ ¬IsSchedulable env input) w := by
  have found := @found_length_iff w.resourceAssignments
    (input.shifts.map ShiftInput.resourceAssignmentId) distinct (by
      simpa using stored)
  unfold scheduleFromShifts validateExistence
  simp only [Program.wp_bind, Program.wp_when, Program.wp_raise, Program.wp_read,
    wp_getTaskContext]
  refine ⟨fun empty => absurd (List.length_eq_zero_iff.mp empty) nonempty, fun _ =>
    ⟨fun missing => .inr fun schedulable => missing (found.mpr schedulable.distinct),
      fun present => ⟨fun ctx known => ?_, fun unknown => .inr fun schedulable => ?_⟩⟩⟩
  · refine Program.wp_mono
      (scheduleShifts_stored moves input ctx (serializePlan input.shifts) none w) ?_ ?_
    · rintro created after ⟨planned, stored', reported, belongs, behind, chain, _⟩
      exact ⟨⟨found.mp (not_not.mp present), ⟨ctx, known⟩, planned⟩, stored', reported,
        belong_of_plan belongs (serializePlan_sameShift input.shifts), behind, chain⟩
    · rintro e _ (overlap | ⟨s, member, reversed⟩)
      · exact .inl overlap
      · exact .inr fun schedulable => absurd (schedulable.planned s member) (not_le.mpr reversed)
  · obtain ⟨ctx, known⟩ := schedulable.known
    rw [unknown] at known
    cases known

end Requests

/-! ## Two shifts -/

section TwoShifts

open Runs

/-- Two shifts of user 5 on task 7, the second planned into the first. -/
def twoShifts (first second : Nat) : ScheduleFromShiftsInput where
  taskId := 7
  priority := none
  parentScheduledTaskId := none
  shifts := [
    { resourceAssignmentId := first
      tenantUserId := 5
      plannedStartUtc := 0
      plannedEndUtc := 60 * oneMinute
      sequenceNo := some 1 },
    { resourceAssignmentId := second
      tenantUserId := 5
      plannedStartUtc := 30 * oneMinute
      plannedEndUtc := 90 * oneMinute
      sequenceNo := some 2 }]

def twoAssignments : World := { unscheduled with resourceAssignments := [1, 2] }

theorem everyDay_movesOn (timezone : String) : (everyDay.zone timezone).MovesOn :=
  Zone.movesOn_fixedOffset 0

end TwoShifts

end CoreApi.Scheduler
