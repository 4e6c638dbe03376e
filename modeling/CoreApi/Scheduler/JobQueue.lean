import CoreApi.Foundation.TableChanges
import CoreApi.Scheduler.RowEffects

/-!
# The job queue

A job is queued under its token, and no two jobs share one. So the start job that a
deferral adds, under the id of the job that is being processed, is not added; and the
job itself leaves the queue when it is done.
-/

namespace CoreApi.Scheduler

open CoreApi.Foundation Automation SchedulerService Runs

variable {env : Environment}

/-- The queue holds each job once, under a token that was drawn. -/
structure QueueSound (w : World) : Prop where
  jobId : ∀ job ∈ w.queue, job.jobId = job.token
  drawn : ∀ job ∈ w.queue, job.token < w.nextUuid
  removed : ∀ job ∈ w.queue, job.removeOnComplete = true
  distinct : (w.queue.map Job.jobId).Nodup

section Queue

variable {w after : World} {job other : Job}

theorem QueueSound.eq_of_jobId (sound : QueueSound w) (member : job ∈ w.queue)
    (otherMember : other ∈ w.queue) (same : job.jobId = other.jobId) : job = other :=
  List.inj_on_of_nodup_map sound.distinct member otherMember same

/-- The same jobs, and no fewer tokens. -/
theorem QueueSound.same (sound : QueueSound w) (queue : after.queue = w.queue)
    (tokens : w.nextUuid ≤ after.nextUuid) : QueueSound after where
  jobId := queue ▸ sound.jobId
  drawn job member := Nat.lt_of_lt_of_le (sound.drawn job (queue ▸ member)) tokens
  removed := queue ▸ sound.removed
  distinct := queue ▸ sound.distinct

/-- A job whose id is on the queue is not added. -/
theorem World.enqueued_of_mem (member : other ∈ w.queue) (same : other.jobId = job.jobId) :
    w.enqueued job = w := by
  have known : (w.queue.any fun other => other.jobId == job.jobId) = true :=
    List.any_eq_true.mpr ⟨other, member, by simpa using same⟩
  unfold World.enqueued
  rw [if_pos known]

/-- A job under a new id is added behind the others. -/
theorem World.queue_enqueued (new : ∀ other ∈ w.queue, other.jobId ≠ job.jobId) :
    (w.enqueued job).queue = w.queue ++ [job] := by
  have unknown : ¬ (w.queue.any fun other => other.jobId == job.jobId) = true := by
    rw [List.any_eq_true]
    rintro ⟨other, member, same⟩
    exact new other member (by simpa using same)
  unfold World.enqueued
  rw [if_neg unknown]

theorem mem_doneQueue (removed : job.removeOnComplete = true) {queue : List Job} :
    other ∈ doneQueue job queue ↔ other ∈ queue ∧ other.jobId ≠ job.jobId := by
  unfold doneQueue
  rw [if_pos removed, List.mem_filter]
  simp

theorem QueueSound.done (sound : QueueSound w) (removed : job.removeOnComplete = true)
    (queue : after.queue = doneQueue job w.queue) (tokens : w.nextUuid ≤ after.nextUuid) :
    QueueSound after where
  jobId other member := by
    rw [queue] at member
    exact sound.jobId other ((mem_doneQueue removed).mp member).1
  drawn other member := by
    rw [queue] at member
    exact Nat.lt_of_lt_of_le (sound.drawn other ((mem_doneQueue removed).mp member).1) tokens
  removed other member := by
    rw [queue] at member
    exact sound.removed other ((mem_doneQueue removed).mp member).1
  distinct := by
    rw [queue]
    unfold doneQueue
    rw [if_pos removed]
    exact sound.distinct.sublist (List.filter_sublist.map _)

/-- The two jobs of a shift are added under the next two tokens. -/
theorem ShiftPlaced.jobs {input : ScheduleFromShiftsInput} {ctx : TaskContext}
    {prevChildEndUtc : Option Int} {s : ShiftInput} {created : CreatedShift} {window : Window}
    (placed : ShiftPlaced env input ctx prevChildEndUtc s w created after window)
    (sound : QueueSound w) :
    after.queue = w.queue ++
      [jobOf .taskStart (shiftRow env input ctx s window w) w.nextUuid w.now window.start,
        jobOf .taskEnd (shiftRow env input ctx s window w) (w.nextUuid + 1) w.now window.stop] := by
  have known : ∀ other ∈ w.queue, other.jobId < w.nextUuid := fun other member =>
    (sound.jobId other member).symm ▸ sound.drawn other member
  have first := @World.queue_enqueued w (jobOf .taskStart
    (shiftRow env input ctx s window w) w.nextUuid w.now window.start)
      fun other member => Nat.ne_of_lt (known other member)
  rw [placed.queue, World.queue_enqueued, first, List.append_assoc]
  · rfl
  · intro other member
    rw [first] at member
    rcases List.mem_append.mp member with old | isStart
    · exact Nat.ne_of_lt (Nat.lt_succ_of_lt (known other old))
    · rw [List.mem_singleton.mp isStart]
      exact Nat.ne_of_lt (Nat.lt_succ_self w.nextUuid)

theorem ShiftPlaced.queueSound {input : ScheduleFromShiftsInput} {ctx : TaskContext}
    {prevChildEndUtc : Option Int} {s : ShiftInput} {created : CreatedShift} {window : Window}
    (placed : ShiftPlaced env input ctx prevChildEndUtc s w created after window)
    (sound : QueueSound w) : QueueSound after := by
  have known : ∀ other ∈ w.queue, other.jobId < w.nextUuid := fun other member =>
    (sound.jobId other member).symm ▸ sound.drawn other member
  have jobs := placed.jobs sound
  have tokens := placed.tokens
  constructor
  · intro other member
    rw [jobs] at member
    rcases List.mem_append.mp member with old | new
    · exact sound.jobId other old
    · rcases List.mem_pair.mp new with rfl | rfl <;> rfl
  · intro other member
    rw [jobs] at member
    rw [tokens]
    rcases List.mem_append.mp member with old | new
    · exact Nat.lt_of_lt_of_le (sound.drawn other old) (Nat.le_add_right _ 2)
    · rcases List.mem_pair.mp new with rfl | rfl <;> simp [jobOf]
  · intro other member
    rw [jobs] at member
    rcases List.mem_append.mp member with old | new
    · exact sound.removed other old
    · rcases List.mem_pair.mp new with rfl | rfl <;> rfl
  · rw [jobs, List.map_append]
    refine sound.distinct.append (by simp [jobOf]) ?_
    intro id oldId newId
    obtain ⟨old, member, rfl⟩ := List.mem_map.mp oldId
    have less := known old member
    simp only [List.map_cons, List.map_nil, List.mem_pair, jobOf] at newId
    omega

theorem Placed.queueSound {input : ScheduleFromShiftsInput} {ctx : TaskContext}
    {prevChildEndUtc : Option Int} {shifts : List ShiftInput}
    (placed : Placed env input ctx prevChildEndUtc shifts w after) (sound : QueueSound w) :
    QueueSound after := by
  induction placed with
  | done => exact sound
  | raised _ idle => exact sound.same idle.queue idle.tokens
  | place _ placed _ ih => exact ih (placed.queueSound sound)

/-- The worker leaves the queue as it is: a deferral adds no job, as its id is that of
the job being processed. -/
theorem Processed.queue (processed : Processed env w job after) (sound : QueueSound w)
    (onQueue : job ∈ w.queue) :
    after.queue = w.queue ∧ after.now = w.now ∧ w.nextUuid ≤ after.nextUuid ∧
      w.events <+: after.events := by
  cases processed with
  | ignored _ idle => exact ⟨idle.queue, idle.now, idle.tokens, idle.events⟩
  | started _ _ _ _ framed => exact ⟨framed.queue, framed.now, framed.tokens, framed.events⟩
  | deferred _ _ _ _ nextUtc framed =>
      have known : w.enqueued (TaskProcessor.deferredJob job w.now nextUtc) = w :=
        World.enqueued_of_mem onQueue (sound.jobId job onQueue)
      rw [known] at framed
      exact ⟨framed.queue, framed.now, framed.tokens, framed.events⟩
  | ended _ _ _ framed => exact ⟨framed.queue, framed.now, framed.tokens, framed.events⟩

/-- Every action keeps the queue sound. -/
theorem Effect.queueSound {action : Action} (effect : Effect env w action after)
    (sound : QueueSound w) : QueueSound after := by
  cases effect with
  | kept _ idle => exact sound.same idle.queue idle.tokens
  | passed _ _ queue tokens => exact sound.same queue tokens.ge
  | windowed _ _ _ _ _ _ _ _ framed => exact sound.same framed.queue framed.tokens
  | shifted _ _ _ placed => exact placed.queueSound sound
  | rescheduled _ _ _ _ _ _ framed => exact sound.same framed.queue framed.tokens
  | paused _ _ framed => exact sound.same framed.queue framed.tokens
  | resumed _ framed => exact sound.same framed.queue framed.tokens
  | cancelled _ framed => exact sound.same framed.queue framed.tokens
  | undelivered => exact sound
  | delivered _ job onQueue _ _ processed =>
      obtain ⟨queue, _, tokens, _⟩ := processed.queue sound onQueue
      exact sound.done (sound.removed job onQueue) (congrArg (doneQueue job) queue) tokens
  | failed _ _ _ framed => exact sound.same framed.queue framed.tokens
  | linked _ framed => exact sound.same framed.queue framed.tokens
  | synced _ _ framed => exact sound.same framed.queue framed.tokens
  | finished _ _ _ framed => exact sound.same framed.queue framed.tokens

theorem Runs.Fresh.queueSound (fresh : Fresh w) : QueueSound w := by
  constructor <;> simp [fresh.queue]

theorem run_queueSound {start : World} (fresh : Fresh start) (actions : List Action) :
    QueueSound ((system env).run start actions) :=
  StepSystem.run_invariant (fun w action sound => (step_effect w action).queueSound sound)
    fresh.queueSound actions

end Queue

end CoreApi.Scheduler
