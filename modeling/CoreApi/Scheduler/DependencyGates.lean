import CoreApi.Foundation.Extremes
import CoreApi.Scheduler.SerialShifts

/-!
# Dependency gates

`earliestGateUtc` is the latest of the bounds that the dependencies of a task set, as far
as the active rows of the predecessors tell. A row that has run to completion is active
no longer, and a constraint on the start of the task is applied behind the gate.
-/

namespace CoreApi.Scheduler

open CoreApi.Foundation SchedulerService

namespace DependencyResolver

/-! ## Bounds -/

/-- When a row started, or is to start. -/
def startOf (row : ScheduledTaskEntity) : Int := row.actualStartUtc.getD row.effectiveStartUtc

/-- When a row ended, or is to end. -/
def stopOf (row : ScheduledTaskEntity) : Int := row.actualEndUtc.getD row.effectiveEndUtc

/-- The rows of a predecessor. -/
def rowsOf (rows : List ScheduledTaskEntity) (dependency : TaskDependency) :
    List ScheduledTaskEntity :=
  rows.filter fun row => row.taskId == dependency.dependsOnTaskId

/-- The bound of a dependency: the earliest start of the predecessor, or its latest end. -/
def IsBound (rows : List ScheduledTaskEntity) (dependency : TaskDependency) (bound : Int) : Prop :=
  match dependency.dependencyType with
  | .ss => IsLeast {start | ∃ row ∈ rowsOf rows dependency, startOf row = start} bound
  | .fs | .ff | .sf => IsGreatest {stop | ∃ row ∈ rowsOf rows dependency, stopOf row = stop} bound

/-- The dependencies of a task. -/
def dependenciesOf (w : World) (taskId : Nat) : List TaskDependency :=
  w.taskDependencies.filter fun dependency => dependency.taskId == taskId

/-- The gate is the latest of the bounds over the rows; none where there is no bound. -/
def IsGate (rows : List ScheduledTaskEntity) (dependencies : List TaskDependency)
    (gate : Option Int) : Prop :=
  IsLatest {bound | ∃ dependency ∈ dependencies, IsBound rows dependency bound} gate

/-- The active rows. -/
def activeRows (w : World) : List ScheduledTaskEntity :=
  w.scheduledTasks.select ScheduledTaskEntity.isActive

/-- The rows that are active or have run to completion. -/
def standingRows (w : World) : List ScheduledTaskEntity :=
  w.scheduledTasks.select fun row => row.isActive || row.status == .completed

/-! ## What `earliestGateUtc` finds -/

/-- The earliest start and the latest end of the rows; none where there is no row. -/
def IsBounds (rows : List ScheduledTaskEntity) : Option Bounds → Prop
  | none => rows = []
  | some bounds => IsLeast {start | ∃ row ∈ rows, startOf row = start} bounds.start ∧
      IsGreatest {stop | ∃ row ∈ rows, stopOf row = stop} bounds.stop

theorem IsBounds.widen {rows : List ScheduledTaskEntity} {bounds : Option Bounds}
    (isBounds : IsBounds rows bounds) (row : ScheduledTaskEntity) :
    IsBounds (rows ++ [row]) (DependencyResolver.widen bounds row) := by
  have extended : ∀ time : ScheduledTaskEntity → Int,
      {value | ∃ other ∈ rows ++ [row], time other = value} =
        insert (time row) {value | ∃ other ∈ rows, time other = value} := by
    intro time
    ext value
    simp [or_and_right, exists_or, or_comm, eq_comm]
  cases bounds with
  | none =>
      rw [show rows = [] from isBounds] at extended ⊢
      simp only [DependencyResolver.widen, IsBounds, extended, List.not_mem_nil, false_and,
        exists_false, Set.ofPred_false, insert_empty_eq]
      exact ⟨isLeast_singleton, isGreatest_singleton⟩
  | some bounds =>
      obtain ⟨starts, stops⟩ := isBounds
      simp only [DependencyResolver.widen, IsBounds, extended]
      have start : (if bounds.start < startOf row then bounds.start else startOf row) =
          min (startOf row) bounds.start := by
        split <;> omega
      have stop : (if stopOf row < bounds.stop then bounds.stop else stopOf row) =
          max (stopOf row) bounds.stop := by
        split <;> omega
      exact ⟨start ▸ starts.insert (startOf row), stop ▸ stops.insert (stopOf row)⟩

theorem isBounds_foldl (rows : List ScheduledTaskEntity) :
    IsBounds rows (rows.foldl DependencyResolver.widen none) := by
  induction rows using List.reverseRecOn with
  | nil => rfl
  | append_singleton rows row ih =>
      rw [List.foldl_append]
      exact ih.widen row

/-- What a predecessor is summed up by tells the bound of the dependency. -/
theorem isBound_iff {rows : List ScheduledTaskEntity} {dependency : TaskDependency}
    {bounds : Option Bounds} (isBounds : IsBounds (rowsOf rows dependency) bounds) {bound : Int} :
    IsBound rows dependency bound ↔
      bounds.map (gateOf dependency.dependencyType) = some bound := by
  unfold IsBound gateOf
  cases bounds with
  | none =>
      rw [show rowsOf rows dependency = [] from isBounds]
      cases dependency.dependencyType <;> simp [IsLeast, IsGreatest]
  | some bounds =>
      obtain ⟨starts, stops⟩ := isBounds
      simp only [Option.map_some, Option.some.injEq]
      cases dependency.dependencyType
      case ss => exact ⟨fun isBound => starts.unique isBound, fun same => same ▸ starts⟩
      all_goals exact ⟨fun isBound => stops.unique isBound, fun same => same ▸ stops⟩

/-- What is found over some rows: the latest of the bounds that the dependencies have. -/
def gateOver (rows : List ScheduledTaskEntity) (dependencies : List TaskDependency) : Option Int :=
  dependencies.foldl (laterOf fun dependency =>
    ((rowsOf rows dependency).foldl DependencyResolver.widen none).map
      (gateOf dependency.dependencyType)) none

theorem gateOver_isGate (rows : List ScheduledTaskEntity) (dependencies : List TaskDependency) :
    IsGate rows dependencies (gateOver rows dependencies) := by
  unfold IsGate
  simp only [isBound_iff (isBounds_foldl _)]
  exact isLatest_foldl _ dependencies

/-- `earliestGateUtc` goes by the active rows. -/
theorem earliestGateUtc_eq (w : World) (taskId : Nat) :
    earliestGateUtc w taskId = gateOver (activeRows w) (dependenciesOf w taskId) := by
  unfold earliestGateUtc gateOver
  congr 1
  funext gate dependency
  have same : byTask w.scheduledTasks dependency.dependsOnTaskId =
      (rowsOf (activeRows w) dependency).foldl DependencyResolver.widen none := by
    simp [byTask, rowsOf, activeRows, Table.select, List.filter_filter]
  rw [same, laterOf]
  cases (rowsOf (activeRows w) dependency).foldl DependencyResolver.widen none with
  | none => rfl
  | some bounds => cases gate <;> rfl

theorem earliestGateUtc_isGate (w : World) (taskId : Nat) :
    IsGate (activeRows w) (dependenciesOf w taskId) (earliestGateUtc w taskId) := by
  rw [earliestGateUtc_eq]
  exact gateOver_isGate _ _

theorem IsGate.congr {rows rows' : List ScheduledTaskEntity}
    {dependencies dependencies' : List TaskDependency} {gate : Option Int}
    (isGate : IsGate rows dependencies gate) (sameRows : ∀ row, row ∈ rows' ↔ row ∈ rows)
    (sameDependencies : ∀ dependency, dependency ∈ dependencies' ↔ dependency ∈ dependencies) :
    IsGate rows' dependencies' gate := by
  have bounds : ∀ dependency bound,
      IsBound rows' dependency bound ↔ IsBound rows dependency bound := by
    intro dependency bound
    simp only [IsBound, rowsOf, List.mem_filter, sameRows]
  unfold IsGate
  simp only [bounds, sameDependencies]
  exact isGate

/-- The order of the rows and of the dependencies does not matter. -/
theorem earliestGateUtc_perm {w w' : World} (rows : w'.scheduledTasks.rows.Perm w.scheduledTasks.rows)
    (dependencies : w'.taskDependencies.Perm w.taskDependencies) (taskId : Nat) :
    earliestGateUtc w' taskId = earliestGateUtc w taskId :=
  IsLatest.unique (earliestGateUtc_isGate w' taskId)
    ((earliestGateUtc_isGate w taskId).congr
      (fun _ => (rows.filter ScheduledTaskEntity.isActive).mem_iff)
      (fun _ => (dependencies.filter fun dependency => dependency.taskId == taskId).mem_iff))

/-! ## How long a task waits -/

/-- The dependency makes its task wait until the instant, or longer. -/
def Awaits (rows : List ScheduledTaskEntity) (dependency : TaskDependency) (instant : Int) : Prop :=
  match dependency.dependencyType with
  | .ss => rowsOf rows dependency ≠ [] ∧ ∀ row ∈ rowsOf rows dependency, instant ≤ startOf row
  | .fs | .ff | .sf => ∃ row ∈ rowsOf rows dependency, instant ≤ stopOf row

/-- Some dependency makes the task wait until the instant, or longer. -/
def WaitsUntil (rows : List ScheduledTaskEntity) (dependencies : List TaskDependency)
    (instant : Int) : Prop :=
  ∃ dependency ∈ dependencies, Awaits rows dependency instant

theorem awaits_iff {rows : List ScheduledTaskEntity} {dependency : TaskDependency}
    {instant : Int} :
    Awaits rows dependency instant ↔ ∃ bound, IsBound rows dependency bound ∧ instant ≤ bound := by
  have isBounds := isBounds_foldl (rowsOf rows dependency)
  simp only [isBound_iff isBounds]
  cases folded : (rowsOf rows dependency).foldl DependencyResolver.widen none with
  | none =>
      rw [folded] at isBounds
      have none_left : rowsOf rows dependency = [] := isBounds
      unfold Awaits
      cases dependency.dependencyType <;> simp [none_left]
  | some bounds =>
      rw [folded] at isBounds
      obtain ⟨⟨⟨first, firstMem, firstStart⟩, starts⟩, ⟨last, lastMem, lastStop⟩, stops⟩ := isBounds
      simp only [Option.map_some, Option.some.injEq, exists_eq_left', Awaits, gateOf]
      have starting : (rowsOf rows dependency ≠ [] ∧
          ∀ row ∈ rowsOf rows dependency, instant ≤ startOf row) ↔ instant ≤ bounds.start := by
        constructor
        · rintro ⟨_, before⟩
          exact firstStart ▸ before first firstMem
        · intro before
          exact ⟨List.ne_nil_of_mem firstMem,
            fun row member => before.trans (starts ⟨row, member, rfl⟩)⟩
      have stopping : (∃ row ∈ rowsOf rows dependency, instant ≤ stopOf row) ↔
          instant ≤ bounds.stop := by
        constructor
        · rintro ⟨row, member, before⟩
          exact before.trans (stops ⟨row, member, rfl⟩)
        · intro before
          exact ⟨last, lastMem, lastStop ▸ before⟩
      cases dependency.dependencyType
      case ss => exact starting
      all_goals exact stopping

theorem IsGate.exists_le_iff {rows : List ScheduledTaskEntity}
    {dependencies : List TaskDependency} {gate : Option Int}
    (isGate : IsGate rows dependencies gate) {instant : Int} :
    (∃ bound ∈ gate, instant ≤ bound) ↔ WaitsUntil rows dependencies instant := by
  rw [IsLatest.exists_le_iff isGate]
  simp only [WaitsUntil, awaits_iff]
  constructor
  · rintro ⟨bound, ⟨dependency, member, isBound⟩, before⟩
    exact ⟨dependency, member, bound, isBound, before⟩
  · rintro ⟨dependency, member, bound, isBound, before⟩
    exact ⟨bound, ⟨dependency, member, isBound⟩, before⟩

theorem WaitsUntil.of_le {rows : List ScheduledTaskEntity} {dependencies : List TaskDependency}
    {instant earlier : Int} (waits : WaitsUntil rows dependencies instant)
    (before : earlier ≤ instant) : WaitsUntil rows dependencies earlier := by
  rw [← (gateOver_isGate rows dependencies).exists_le_iff] at waits ⊢
  obtain ⟨bound, isBound, le⟩ := waits
  exact ⟨bound, isBound, before.trans le⟩

/-- The gates over two sets of rows agree where they make the task wait equally long. -/
theorem IsGate.iff_waits {rows rows' : List ScheduledTaskEntity}
    {dependencies : List TaskDependency} {gate : Option Int}
    (isGate : IsGate rows dependencies gate) :
    IsGate rows' dependencies gate ↔
      ∀ instant, WaitsUntil rows dependencies instant ↔ WaitsUntil rows' dependencies instant := by
  constructor
  · intro isGate' instant
    rw [← isGate.exists_le_iff, ← isGate'.exists_le_iff]
  · intro same
    have isGate' := gateOver_isGate rows' dependencies
    simp only [← isGate.exists_le_iff, ← isGate'.exists_le_iff] at same
    rw [eq_of_exists_le_iff same]
    exact isGate'

/-! ## Rows that have run to completion -/

/-- The rows that have run to completion. -/
def completedRows (w : World) : List ScheduledTaskEntity :=
  w.scheduledTasks.select fun row => !row.isActive && row.status == .completed

/-- The gate is the latest bound over the rows that stand, in whatever order the store
lists them, and a task waits for the recorded end of a predecessor it is to follow. -/
structure GateDescribed (w : World) (taskId : Nat) : Prop where
  greatest : IsGate (standingRows w) (dependenciesOf w taskId) (earliestGateUtc w taskId)
  unordered : ∀ w' : World, w'.scheduledTasks.rows.Perm w.scheduledTasks.rows →
    w'.taskDependencies.Perm w.taskDependencies →
    earliestGateUtc w' taskId = earliestGateUtc w taskId
  recorded : ∀ (before : World) (row : ScheduledTaskEntity) (time : Int),
    (ScheduledTasksService.markCompleted row.scheduledTaskId time before).2 = w →
    row ∈ before.scheduledTasks.rows →
    ∀ dependency ∈ dependenciesOf w taskId, dependency.dependsOnTaskId = row.taskId →
      dependency.dependencyType ≠ .ss → ∃ gate ∈ earliestGateUtc w taskId, time ≤ gate

/-- The active rows make the task wait as long as the completed ones would: until each
recorded end it is to follow, and until some recorded start where no active row is left.
A start that is recorded before those of the active rows is outlasted by another wait. -/
def CompletedCovered (w : World) (taskId : Nat) : Prop :=
  ∀ dependency ∈ dependenciesOf w taskId, rowsOf (completedRows w) dependency ≠ [] →
    match dependency.dependencyType with
    | .ss =>
        if rowsOf (activeRows w) dependency = [] then
          ∃ row ∈ rowsOf (completedRows w) dependency,
            WaitsUntil (activeRows w) (dependenciesOf w taskId) (startOf row)
        else
          ∃ row ∈ rowsOf (activeRows w) dependency,
            WaitsUntil (standingRows w) (dependenciesOf w taskId) (startOf row)
    | .fs | .ff | .sf => ∀ row ∈ rowsOf (completedRows w) dependency,
        WaitsUntil (activeRows w) (dependenciesOf w taskId) (stopOf row)

theorem mem_standing {w : World} {dependency : TaskDependency} {row : ScheduledTaskEntity} :
    row ∈ rowsOf (standingRows w) dependency ↔
      row ∈ rowsOf (activeRows w) dependency ∨ row ∈ rowsOf (completedRows w) dependency := by
  simp only [rowsOf, standingRows, activeRows, completedRows, Table.select, List.mem_filter]
  cases row.isActive <;> simp

theorem exists_first {rows : List ScheduledTaskEntity} (nonempty : rows ≠ []) :
    ∃ row ∈ rows, ∀ other ∈ rows, startOf row ≤ startOf other := by
  have isBounds := isBounds_foldl rows
  cases folded : rows.foldl DependencyResolver.widen none with
  | none =>
      rw [folded] at isBounds
      exact absurd isBounds nonempty
  | some bounds =>
      rw [folded] at isBounds
      obtain ⟨⟨⟨row, member, start⟩, starts⟩, _⟩ := isBounds
      exact ⟨row, member, fun other otherMem => start ▸ starts ⟨other, otherMem, rfl⟩⟩

/-- Where the gate counts the completed rows, they are covered. -/
theorem completedCovered_of_same {w : World} {taskId : Nat}
    (same : ∀ instant, WaitsUntil (activeRows w) (dependenciesOf w taskId) instant ↔
      WaitsUntil (standingRows w) (dependenciesOf w taskId) instant) :
    CompletedCovered w taskId := by
  intro dependency member completed
  cases kind : dependency.dependencyType
  case ss =>
    simp only
    split
    · rename_i inactive
      have nonempty : rowsOf (standingRows w) dependency ≠ [] := by
        obtain ⟨row, isRow⟩ := List.exists_mem_of_ne_nil _ completed
        exact List.ne_nil_of_mem (mem_standing.mpr (.inr isRow))
      obtain ⟨row, isRow, first⟩ := exists_first nonempty
      have isCompleted : row ∈ rowsOf (completedRows w) dependency := by
        simpa [inactive] using mem_standing.mp isRow
      have awaits : Awaits (standingRows w) dependency (startOf row) := by
        simp only [Awaits, kind]
        exact ⟨nonempty, first⟩
      exact ⟨row, isCompleted, (same _).mpr ⟨dependency, member, awaits⟩⟩
    · rename_i active
      obtain ⟨row, isRow, first⟩ := exists_first active
      have awaits : Awaits (activeRows w) dependency (startOf row) := by
        simp only [Awaits, kind]
        exact ⟨active, first⟩
      exact ⟨row, isRow, (same _).mp ⟨dependency, member, awaits⟩⟩
  all_goals
    intro row isRow
    refine (same _).mpr ⟨dependency, member, ?_⟩
    simp only [Awaits, kind]
    exact ⟨row, mem_standing.mpr (.inr isRow), le_rfl⟩

/-- The active rows alone make the task wait no longer than all that stand. -/
theorem CompletedCovered.waits_standing {w : World} {taskId : Nat}
    (covered : CompletedCovered w taskId) {instant : Int}
    (waits : WaitsUntil (activeRows w) (dependenciesOf w taskId) instant) :
    WaitsUntil (standingRows w) (dependenciesOf w taskId) instant := by
  obtain ⟨dependency, member, awaits⟩ := waits
  have covers := covered dependency member
  cases kind : dependency.dependencyType
  case ss =>
    simp only [Awaits, kind] at awaits covers
    obtain ⟨active, first⟩ := awaits
    by_cases completed : rowsOf (completedRows w) dependency = []
    · refine ⟨dependency, member, ?_⟩
      simp only [Awaits, kind]
      obtain ⟨row, isRow⟩ := List.exists_mem_of_ne_nil _ active
      refine ⟨List.ne_nil_of_mem (mem_standing.mpr (.inl isRow)), fun row isRow => first row ?_⟩
      simpa [completed] using mem_standing.mp isRow
    · obtain ⟨row, isRow, outlasted⟩ := (if_neg active).mp (covers completed)
      exact outlasted.of_le (first row isRow)
  all_goals
    simp only [Awaits, kind] at awaits
    obtain ⟨row, isRow, before⟩ := awaits
    refine ⟨dependency, member, ?_⟩
    simp only [Awaits, kind]
    exact ⟨row, mem_standing.mpr (.inl isRow), before⟩

/-- The completed rows make the task wait no longer than the active ones. -/
theorem CompletedCovered.waits_active {w : World} {taskId : Nat}
    (covered : CompletedCovered w taskId) {instant : Int}
    (waits : WaitsUntil (standingRows w) (dependenciesOf w taskId) instant) :
    WaitsUntil (activeRows w) (dependenciesOf w taskId) instant := by
  obtain ⟨dependency, member, awaits⟩ := waits
  have covers := covered dependency member
  cases kind : dependency.dependencyType
  case ss =>
    simp only [Awaits, kind] at awaits covers
    obtain ⟨standing, first⟩ := awaits
    by_cases inactive : rowsOf (activeRows w) dependency = []
    · obtain ⟨row, isRow⟩ := List.exists_mem_of_ne_nil _ standing
      have completed : row ∈ rowsOf (completedRows w) dependency := by
        simpa [inactive] using mem_standing.mp isRow
      obtain ⟨other, isOther, waits⟩ := (if_pos inactive).mp (covers (List.ne_nil_of_mem completed))
      exact waits.of_le (first other (mem_standing.mpr (.inr isOther)))
    · refine ⟨dependency, member, ?_⟩
      simp only [Awaits, kind]
      exact ⟨inactive, fun row isRow => first row (mem_standing.mpr (.inl isRow))⟩
  all_goals
    simp only [Awaits, kind] at awaits covers
    obtain ⟨row, isRow, before⟩ := awaits
    rcases mem_standing.mp isRow with active | completed
    · refine ⟨dependency, member, ?_⟩
      simp only [Awaits, kind]
      exact ⟨row, active, before⟩
    · exact (covers (List.ne_nil_of_mem completed) row completed).of_le before

theorem markCompleted_standing {before w : World} {row : ScheduledTaskEntity} {time : Int}
    (recorded : (ScheduledTasksService.markCompleted row.scheduledTaskId time before).2 = w)
    (member : row ∈ before.scheduledTasks.rows) :
    ∃ completed ∈ standingRows w, completed.taskId = row.taskId ∧ stopOf completed = time := by
  let completed : ScheduledTaskEntity :=
    { row with actualEndUtc := some time, status := .completed, isActive := false }
  have stored : completed ∈ w.scheduledTasks.rows := by
    subst recorded
    exact List.mem_map.mpr ⟨row, member, by simp [completed]⟩
  exact ⟨completed, List.mem_filter.mpr ⟨stored, rfl⟩, rfl, rfl⟩

/-- **The gate counts completed rows** exactly where the active rows make the task wait
as long. -/
theorem gate_described (w : World) (taskId : Nat) :
    GateDescribed w taskId ↔ CompletedCovered w taskId := by
  constructor
  · intro described
    exact completedCovered_of_same
      ((earliestGateUtc_isGate w taskId).iff_waits.mp described.greatest)
  · intro covered
    have greatest := (earliestGateUtc_isGate w taskId).iff_waits.mpr
      fun instant => ⟨covered.waits_standing, covered.waits_active⟩
    refine ⟨greatest, fun w' rows dependencies => earliestGateUtc_perm rows dependencies taskId, ?_⟩
    intro before row time recorded member dependency isDependency follows finishes
    obtain ⟨completed, stands, sameTask, stop⟩ := markCompleted_standing recorded member
    refine greatest.exists_le_iff.mpr ⟨dependency, isDependency, ?_⟩
    have isRow : completed ∈ rowsOf (standingRows w) dependency :=
      List.mem_filter.mpr ⟨stands, by simp [sameTask, follows]⟩
    unfold Awaits
    cases kind : dependency.dependencyType
    case ss => exact absurd kind finishes
    all_goals exact ⟨completed, isRow, stop.ge⟩

/-- Ask for the first ten minutes of the day. -/
def firstTenMinutes (taskId : Nat) : ScheduleTaskWindowInput where
  taskId := taskId
  requestedStartUtc := 0
  requestedEndUtc := 10 * oneMinute
  priority := none
  parentScheduledTaskId := none
  processTemplateId := none
  createdBy := none

/-- Task 2 follows task 1, which is scheduled for ten minutes. -/
def firstScheduled : World :=
  (scheduleTaskWindow Runs.everyDay (firstTenMinutes 1)
    { Runs.unscheduled with
      taskDependencies := [{ taskId := 2, dependsOnTaskId := 1, dependencyType := .fs }] }).2

/-- Task 1 has run. -/
def firstCompleted : World :=
  (ScheduledTasksService.markCompleted 1 (10 * oneMinute) firstScheduled).2

/-- Once the completion of task 1 is recorded, nothing is left for task 2 to wait for. -/
theorem completedPredecessor_ungated :
    earliestGateUtc firstScheduled 2 = some (10 * oneMinute) ∧
    earliestGateUtc firstCompleted 2 = none ∧ ¬GateDescribed firstCompleted 2 := by
  have ungated : earliestGateUtc firstCompleted 2 = none := by decide
  refine ⟨by decide, ungated, fun described => ?_⟩
  have stored : ∃ row ∈ firstScheduled.scheduledTasks.rows,
      row.scheduledTaskId = 1 ∧ row.taskId = 1 := by decide
  obtain ⟨row, member, isFirst, task⟩ := stored
  obtain ⟨gate, isGate, _⟩ := described.recorded firstScheduled row (10 * oneMinute)
    (by rw [isFirst]; rfl) member { taskId := 2, dependsOnTaskId := 1, dependencyType := .fs }
    (by decide) task.symm (by decide)
  rw [ungated] at isGate
  cases isGate

end DependencyResolver

end CoreApi.Scheduler
