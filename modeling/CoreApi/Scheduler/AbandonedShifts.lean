import CoreApi.Scheduler.RowEffects

/-!
# Abandoned shifts

The writes of `scheduleFromShifts` are made one by one, outside of a transaction. What a
call has stored when it throws stays, and that is nothing only where it throws in its
checks or at its first write.
-/

namespace CoreApi.Scheduler

open CoreApi.Foundation Automation SchedulerService

variable {env : Environment} {input : ScheduleFromShiftsInput} {ctx : TaskContext}

/-! ## The writes of an iteration -/

/-- The shift is stored, without its row. -/
def World.withShift (w : World) (s : ShiftInput) : World :=
  { w with
    shifts := w.shifts.insert
      { shiftId := 0
        resourceAssignmentId := s.resourceAssignmentId
        tenantUserId := s.tenantUserId
        sequenceNo := s.sequenceNo.getD 1
        plannedStartUtc := s.plannedStartUtc
        plannedEndUtc := s.plannedEndUtc
        scheduledTaskId := none } }

/-- The row `createActive` returns, under the next two tokens. -/
def createdRow (env : Environment) (input : ScheduleFromShiftsInput) (ctx : TaskContext)
    (s : ShiftInput) (window : Window) (w : World) : ScheduledTaskEntity :=
  Keyed.withKey w.scheduledTasks.autoIncrement (ScheduledTasksService.activeRow
    (childRow env input ctx s window w.nextUuid (w.nextUuid + 1)))

/-- The writes behind the one of the shift, in their order. -/
def laterWrites (env : Environment) (input : ScheduleFromShiftsInput) (ctx : TaskContext)
    (s : ShiftInput) (window : Window) (w : World) : List (World → World) :=
  let row := createdRow env input ctx s window w
  [fun u => { u with
      nextUuid := w.nextUuid + 2
      scheduledTasks := u.scheduledTasks.insert (ScheduledTasksService.activeRow
        (childRow env input ctx s window w.nextUuid (w.nextUuid + 1))) },
    fun u => { u with
      shifts := u.shifts.updateAt w.shifts.autoIncrement
        (fun shift => { shift with scheduledTaskId := some row.scheduledTaskId }) (fun _ => rfl) },
    fun u => u.withSnapshot row,
    fun u => u.enqueued (jobOf .taskStart row w.nextUuid w.now row.effectiveStartUtc),
    fun u => u.enqueued (jobOf .taskEnd row (w.nextUuid + 1) w.now row.effectiveEndUtc),
    fun u => { u with
      scheduledTasks := u.scheduledTasks.update
        (fun other => other.scheduledTaskId == row.scheduledTaskId)
        (fun other => { other with
          status := .queued, startJobId := some w.nextUuid, endJobId := some (w.nextUuid + 1) })
        (fun _ => rfl) },
    fun u => u.withEvent row.scheduledTaskId .enqueuedStart
      (.obj [("at", .num row.effectiveStartUtc)]) (some w.nextUuid),
    fun u => u.withEvent row.scheduledTaskId .enqueuedEnd
      (.obj [("at", .num row.effectiveEndUtc)]) (some (w.nextUuid + 1))]

/-- Make writes, the first one first. -/
def applyWrites (writes : List (World → World)) (w : World) : World :=
  writes.foldl (fun u write => write u) w

/-- An iteration that returns has made all its writes. -/
theorem scheduleShift_writes {prevChildEndUtc : Option Int} {s : ShiftInput} {w : World}
    {window : Window} (planned : s.plannedStartUtc ≤ s.plannedEndUtc)
    (placed : placeShift (env.calendarOf ctx.tenantId (some s.tenantUserId)) input.taskId s
      (serialStart prevChildEndUtc s) w.scheduledTasks = .ok window) :
    Program.wp (scheduleShift env input ctx prevChildEndUtc s)
      (fun _ w' => w' = applyWrites (laterWrites env input ctx s window w) (w.withShift s))
      (fun _ _ => False) w := by
  unfold scheduleShift
  simp only [Program.wp_bind, Program.wp_writeReturning, Program.wp_read, placed,
    Program.wp_lift_ok, wp_randomUuid]
  rw [wp_createActive _ (by exact window.ordered)]
  exact ⟨fun _ => rfl, fun reversed => absurd (by exact reversed) (not_lt.mpr planned)⟩

/-! ## A write that fails -/

/-- What the server answers to a write that fails. -/
def writeFailed : String := "write failed"

/-- An iteration of which the write with some number, counted from 0, fails, unless the
iteration raises before it. -/
def scheduleShiftFailing (env : Environment) (input : ScheduleFromShiftsInput)
    (ctx : TaskContext) (prevChildEndUtc : Option Int) (s : ShiftInput) :
    (number : Nat) → Tx (List CreatedShift)
  | 0 => Program.raise writeFailed
  | number + 1 => fun w =>
      match placeShift (env.calendarOf ctx.tenantId (some s.tenantUserId)) input.taskId s
        (serialStart prevChildEndUtc s) w.scheduledTasks with
      | .error e => (.error e, w.withShift s)
      | .ok window =>
          if s.plannedEndUtc < s.plannedStartUtc then
            (.error "Check constraint 'chk_requested_window' is violated.", w.withShift s)
          else
            (.error writeFailed,
              applyWrites ((laterWrites env input ctx s window w).take number) (w.withShift s))

/-- The writes of an iteration: the shift, and the later ones. -/
def writesPerShift : Nat := 9

/-- The loop, of which the write with some number fails, if any. -/
def scheduleShiftsFailing (env : Environment) (input : ScheduleFromShiftsInput)
    (ctx : TaskContext) :
    (failing : Option Nat) → Option Int → List ShiftInput → Tx (List CreatedShift)
  | none, prevChildEndUtc, plan => scheduleShifts env input ctx prevChildEndUtc plan
  | some _, _, [] => pure []
  | some number, prevChildEndUtc, s :: rest =>
      if number < writesPerShift then
        scheduleShiftFailing env input ctx prevChildEndUtc s number
      else do
        let created ← scheduleShift env input ctx prevChildEndUtc s
        let others ← scheduleShiftsFailing env input ctx (some (number - writesPerShift))
          (some created.effectiveEndUtc) rest
        pure (created :: others)

/-- `scheduleFromShifts`, of which the write with some number fails, if any. -/
def scheduleFromShiftsFailing (env : Environment) (failing : Option Nat)
    (input : ScheduleFromShiftsInput) : Tx (List CreatedShift) := do
  Program.when (input.shifts.length = 0) (Program.raise "No shifts provided")
  validateExistence (input.shifts.map ShiftInput.resourceAssignmentId)
  let ctx ← getTaskContext env input.taskId
  scheduleShiftsFailing env input ctx failing none (serializePlan input.shifts)

/-! ## What remains -/

/-- Nothing of the call is stored or queued. -/
structure NothingRemains (before after : World) : Prop where
  shifts : after.shifts.rows = before.shifts.rows
  scheduledTasks : after.scheduledTasks.rows = before.scheduledTasks.rows
  history : after.history = before.history
  events : after.events = before.events
  queue : after.queue = before.queue

theorem NothingRemains.refl (w : World) : NothingRemains w w := ⟨rfl, rfl, rfl, rfl, rfl⟩

/-- How many shifts are stored. -/
def World.shiftCount (w : World) : Nat := w.shifts.rows.length

theorem shiftCount_withShift (w : World) (s : ShiftInput) :
    (w.withShift s).shiftCount = w.shiftCount + 1 := by
  unfold World.shiftCount World.withShift
  rw [Table.rows_insert, List.length_append]
  rfl

/-- The later writes of an iteration store no shift and delete none. -/
theorem shiftCount_laterWrites {s : ShiftInput} {window : Window} {w : World}
    {write : World → World} (member : write ∈ laterWrites env input ctx s window w) (u : World) :
    (write u).shiftCount = u.shiftCount := by
  simp only [laterWrites, List.mem_cons, List.not_mem_nil, or_false] at member
  rcases member with rfl | rfl | rfl | rfl | rfl | rfl | rfl | rfl
  · rfl
  · simp [World.shiftCount, Table.rows_updateAt]
  all_goals rfl

theorem shiftCount_applyWrites {writes : List (World → World)}
    (keep : ∀ write ∈ writes, ∀ u, (write u).shiftCount = u.shiftCount) (w : World) :
    (applyWrites writes w).shiftCount = w.shiftCount := by
  induction writes generalizing w with
  | nil => rfl
  | cons write rest ih =>
      calc (applyWrites (write :: rest) w).shiftCount
          = (applyWrites rest (write w)).shiftCount := rfl
        _ = (write w).shiftCount :=
          ih (fun other member => keep other (List.mem_cons_of_mem _ member)) _
        _ = w.shiftCount := keep write List.mem_cons_self w

/-- An iteration stores its shift, also where it raises. -/
theorem scheduleShift_counts (prevChildEndUtc : Option Int) (s : ShiftInput) (w : World) :
    Program.wp (scheduleShift env input ctx prevChildEndUtc s)
      (fun _ w' => w'.shiftCount = w.shiftCount + 1)
      (fun _ w' => w'.shiftCount = w.shiftCount + 1) w := by
  have stored := shiftCount_withShift w s
  rcases placed : placeShift (env.calendarOf ctx.tenantId (some s.tenantUserId)) input.taskId s
    (serialStart prevChildEndUtc s) w.scheduledTasks with e | window
  · unfold scheduleShift
    simp only [Program.wp_bind, Program.wp_writeReturning, Program.wp_read, placed]
    exact stored
  · rcases le_or_gt s.plannedStartUtc s.plannedEndUtc with planned | reversed
    · refine Program.wp_mono (scheduleShift_writes planned placed) ?_ fun _ _ => False.elim
      rintro _ _ rfl
      rw [shiftCount_applyWrites (fun _ member => shiftCount_laterWrites member), stored]
    · unfold scheduleShift
      simp only [Program.wp_bind, Program.wp_writeReturning, Program.wp_read, placed,
        Program.wp_lift_ok, wp_randomUuid]
      rw [wp_createActive _ (by exact window.ordered)]
      exact ⟨fun planned => absurd (by exact planned) (not_le.mpr reversed), fun _ => stored⟩

/-- A loop stores a shift in its first iteration, if it comes to that. -/
def CountsUp (failing : Option Nat) (plan : List ShiftInput) (before after : World) : Prop :=
  before.shiftCount ≤ after.shiftCount ∧
    (failing ≠ some 0 → plan ≠ [] → before.shiftCount < after.shiftCount)

theorem CountsUp.refl {failing : Option Nat} (w : World) : CountsUp failing [] w w :=
  ⟨le_rfl, fun _ nonempty => absurd rfl nonempty⟩

theorem CountsUp.of_lt {failing : Option Nat} {plan : List ShiftInput} {before after : World}
    (less : before.shiftCount < after.shiftCount) : CountsUp failing plan before after :=
  ⟨less.le, fun _ _ => less⟩

/-- An iteration and the rest of the loop. -/
theorem scheduleShift_countsUp {failing failing' : Option Nat} {prevChildEndUtc : Option Int}
    {s : ShiftInput} {rest : List ShiftInput} {w : World}
    {others : CreatedShift → Tx (List CreatedShift)}
    (countUp : ∀ created between, Program.wp (others created)
      (fun _ w' => CountsUp failing' rest between w') (fun _ w' => CountsUp failing' rest between w')
      between) :
    Program.wp (do
        let created ← scheduleShift env input ctx prevChildEndUtc s
        let rest ← others created
        pure (created :: rest))
      (fun _ w' => CountsUp failing (s :: rest) w w')
      (fun _ w' => CountsUp failing (s :: rest) w w') w := by
  rw [Program.wp_bind]
  refine Program.wp_mono (scheduleShift_counts prevChildEndUtc s w) ?_
    fun _ _ counts => .of_lt (by omega)
  intro created between counts
  rw [Program.wp_bind]
  exact Program.wp_mono (countUp created between)
    (fun _ _ more => CountsUp.of_lt (by have := more.1; omega))
    (fun _ _ more => CountsUp.of_lt (by have := more.1; omega))

theorem scheduleShifts_countsUp (plan : List ShiftInput) :
    ∀ (prevChildEndUtc : Option Int) (w : World),
      Program.wp (scheduleShifts env input ctx prevChildEndUtc plan)
        (fun _ w' => CountsUp none plan w w') (fun _ w' => CountsUp none plan w w') w := by
  induction plan with
  | nil => exact fun _ w => CountsUp.refl w
  | cons s rest ih =>
      intro prevChildEndUtc w
      exact scheduleShift_countsUp fun created between => ih _ between

/-- An iteration that fails behind its first write has stored its shift. -/
theorem scheduleShiftFailing_counts (prevChildEndUtc : Option Int) (s : ShiftInput) (number : Nat)
    (w : World) :
    (scheduleShiftFailing env input ctx prevChildEndUtc s (number + 1) w).2.shiftCount =
      w.shiftCount + 1 := by
  have stored := shiftCount_withShift w s
  unfold scheduleShiftFailing
  dsimp only
  split
  · exact stored
  · split
    · exact stored
    · dsimp only
      rw [shiftCount_applyWrites fun _ member => shiftCount_laterWrites (List.mem_of_mem_take member),
        stored]

theorem scheduleShiftsFailing_countsUp (plan : List ShiftInput) :
    ∀ (failing : Option Nat) (prevChildEndUtc : Option Int) (w : World),
      Program.wp (scheduleShiftsFailing env input ctx failing prevChildEndUtc plan)
        (fun _ w' => CountsUp failing plan w w') (fun _ w' => CountsUp failing plan w w') w := by
  induction plan with
  | nil =>
      intro failing _ w
      cases failing with
      | none => exact CountsUp.refl w
      | some number => exact CountsUp.refl w
  | cons s rest ih =>
      intro failing prevChildEndUtc w
      cases failing with
      | none =>
          rw [scheduleShiftsFailing]
          exact scheduleShifts_countsUp (s :: rest) prevChildEndUtc w
      | some number =>
          rw [scheduleShiftsFailing]
          split
          · cases number with
            | zero => exact ⟨le_rfl, fun later => absurd rfl later⟩
            | succ number =>
                have counts := @scheduleShiftFailing_counts env input ctx prevChildEndUtc s number w
                unfold Program.wp
                rcases run : scheduleShiftFailing env input ctx prevChildEndUtc s (number + 1) w with
                  ⟨_ | _, after⟩ <;>
                · rw [run] at counts
                  exact .of_lt (by dsimp only at counts; omega)
          · exact scheduleShift_countsUp fun created between => ih _ _ between

/-! ## Calls -/

/-- The call comes to its loop: there are shifts, as many assignments are found as are
asked for, and the task is known. -/
structure PassesChecks (env : Environment) (input : ScheduleFromShiftsInput) (w : World) :
    Prop where
  nonempty : input.shifts ≠ []
  found : (w.resourceAssignments.filter fun id =>
    (input.shifts.map ShiftInput.resourceAssignmentId).contains id).length = input.shifts.length
  known : ∃ ctx, env.taskContext input.taskId = some ctx

theorem serializePlan_ne_nil {shifts : List ShiftInput} (nonempty : shifts ≠ []) :
    serializePlan shifts ≠ [] := by
  unfold serializePlan
  have length := (orderBy_perm (fun s : ShiftInput => s.sequenceNo.getD 1) shifts).length_eq
  cases ordered : orderBy (fun s : ShiftInput => s.sequenceNo.getD 1) shifts with
  | nil =>
      rw [ordered] at length
      exact absurd (List.length_eq_zero_iff.mp length.symm) nonempty
  | cons s rest => exact List.cons_ne_nil _ _

/-- A call leaves the world alone where it does not come to its loop, and stores a shift
where it makes its first write. -/
theorem scheduleFromShiftsFailing_meets (failing : Option Nat) (w : World) :
    Program.wp (scheduleFromShiftsFailing env failing input)
      (fun _ w' => PassesChecks env input w ∧ (failing ≠ some 0 → w.shiftCount < w'.shiftCount))
      (fun _ w' => (¬PassesChecks env input w ∧ w' = w) ∨
        (PassesChecks env input w ∧ failing = some 0 ∧ w' = w) ∨
        (PassesChecks env input w ∧ failing ≠ some 0 ∧ w.shiftCount < w'.shiftCount)) w := by
  unfold scheduleFromShiftsFailing validateExistence
  simp only [Program.wp_bind, Program.wp_when, Program.wp_raise, Program.wp_read,
    wp_getTaskContext, List.length_map]
  refine ⟨fun empty => .inl ⟨fun passes => passes.nonempty (List.length_eq_zero_iff.mp empty), trivial⟩,
    fun nonempty => ⟨fun missing => .inl ⟨fun passes => missing passes.found, trivial⟩,
      fun present => ⟨fun ctx known => ?_, fun unknown => .inl ⟨fun passes => ?_, trivial⟩⟩⟩⟩
  · have passes : PassesChecks env input w :=
      ⟨fun empty => nonempty (List.length_eq_zero_iff.mpr empty), not_not.mp present, ctx, known⟩
    have isPlan := serializePlan_ne_nil passes.nonempty
    by_cases atFirst : failing = some 0
    · subst atFirst
      cases plan : serializePlan input.shifts with
      | nil => exact absurd plan isPlan
      | cons s rest => exact .inr (.inl ⟨passes, rfl, rfl⟩)
    · exact Program.wp_mono (scheduleShiftsFailing_countsUp (serializePlan input.shifts) failing none w)
        (fun _ _ counts => ⟨passes, fun later => counts.2 later isPlan⟩)
        (fun _ _ counts => .inr (.inr ⟨passes, atFirst, counts.2 atFirst isPlan⟩))
  · obtain ⟨ctx, known⟩ := passes.known
    rw [unknown] at known
    cases known

/-- Of a call that throws nothing remains where it does not come to its loop, or its first
write is the one that fails. -/
theorem nothingRemains_iff (failing : Option Nat) {w : World} {e : String}
    (threw : (scheduleFromShiftsFailing env failing input w).1 = .error e) :
    NothingRemains w (scheduleFromShiftsFailing env failing input w).2 ↔
      ¬PassesChecks env input w ∨ failing = some 0 := by
  have meets := @scheduleFromShiftsFailing_meets env input failing w
  rcases run : scheduleFromShiftsFailing env failing input w with ⟨result, after⟩
  rw [run] at threw
  cases threw
  rcases Program.wp_error meets run with ⟨refused, rfl⟩ | ⟨_, atFirst, rfl⟩ | ⟨passes, later, counts⟩
  · exact iff_of_true (.refl _) (.inl refused)
  · exact iff_of_true (.refl _) (.inr atFirst)
  · refine iff_of_false (fun nothing => ?_) (fun either => either.elim (absurd passes) later)
    unfold World.shiftCount at counts
    rw [nothing.shifts] at counts
    exact absurd counts (lt_irrefl _)

/-! ## Two shifts of which the second overlaps -/

section Overlap

open Runs

/-- Task 8 and task 7 are scheduled from minute 15 to 30 and from 33 to 40. -/
def bookedWorld : World :=
  ((system everyDay).run { unscheduled with resourceAssignments := [1, 2] }
    [shiftOf 8 15 30, shiftOf 7 33 40])

/-- Two shifts of task 7, of which the second is pushed behind task 8. -/
def pushedSecond : ScheduleFromShiftsInput where
  taskId := 7
  priority := none
  parentScheduledTaskId := none
  shifts := [
    { resourceAssignmentId := 1
      tenantUserId := 5
      plannedStartUtc := 0
      plannedEndUtc := 10 * oneMinute
      sequenceNo := some 1 },
    { resourceAssignmentId := 2
      tenantUserId := 5
      plannedStartUtc := 20 * oneMinute
      plannedEndUtc := 24 * oneMinute
      sequenceNo := some 2 }]

/-- Nothing remains where the first write fails. -/
theorem nothingRemains_firstWrite :
    NothingRemains bookedWorld
      (scheduleFromShiftsFailing everyDay (some 0) pushedSecond bookedWorld).2 := by
  have threw : (scheduleFromShiftsFailing everyDay (some 0) pushedSecond bookedWorld).1 =
      .error writeFailed := by decide
  exact (nothingRemains_iff (some 0) threw).mpr (.inr rfl)

/-- The second shift overlaps its own task after the push. Both shifts remain, with the row
and the two jobs of the first one. -/
theorem pushedSecond_remains :
    (scheduleFromShifts everyDay pushedSecond bookedWorld).1 =
        .error "Same-task child overlap after push; adjust shifts or durations." ∧
      ((scheduleFromShifts everyDay pushedSecond bookedWorld).2.shifts.rows.length = 4 ∧
        (scheduleFromShifts everyDay pushedSecond bookedWorld).2.scheduledTasks.rows.length = 3 ∧
        (scheduleFromShifts everyDay pushedSecond bookedWorld).2.queue.length = 6) ∧
      ¬NothingRemains bookedWorld (scheduleFromShifts everyDay pushedSecond bookedWorld).2 := by
  refine ⟨by decide, by decide, fun nothing => ?_⟩
  have stored : (scheduleFromShifts everyDay pushedSecond bookedWorld).2.shifts.rows.length ≠
      bookedWorld.shifts.rows.length := by decide
  exact stored (congrArg List.length nothing.shifts)

end Overlap

end CoreApi.Scheduler
