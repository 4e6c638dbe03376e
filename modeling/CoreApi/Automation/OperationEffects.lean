import CoreApi.Automation.UnlockingSteps

/-!
# What the operations of the orchestrator do

`Settlement` lists the outcomes of `maybeCompleteJob`, and `Advanced`,
`Completed` and `Resumed` those of the three operations: a sequence of edits, a
completed step where there is one, more edits, and a settlement.
-/

namespace CoreApi.Automation

open CoreApi.Foundation StepOrchestrator ChildProcessOrchestration

variable {deployment : Deployment} {origin : World} {processInstanceId target : Nat}

/-! ## Settling a process -/

/-- The completion of `proc`, as its host and its listeners learn of it. -/
structure Announced (proc : ProcessInstance) (before after : World) : Prop where
  tables : HostTables (before.db.setInstance proc.processInstanceId
    (completedInstance before.now) (completedInstance_key before.now)) after.db
  hostCalls : ∃ calls, after.hostCalls =
      before.hostCalls ++ [.processCompleted proc.processInstanceId] ++ calls ∧
    ∀ call ∈ calls, ∀ processInstanceId, call.announces processInstanceId = false
  events : ∃ quiet last, after.events = before.events ++ quiet ++ [last] ∧ QuietEvents quiet ∧
    last.eventName = "six1-event.process_completed" ∧
    last.entity = some ⟨"ProcessInstance", proc.processInstanceId⟩
  queue : after.queue = before.queue
  now : after.now = before.now
  report : ∃ told, ToldCompletion proc { before with
      db := before.db.setInstance proc.processInstanceId (completedInstance before.now)
        (completedInstance_key before.now) } told ∧ HostsKept told after

/-- The outcomes of `maybeCompleteJob` on the process instance. -/
inductive Settlement (deployment : Deployment) (processInstanceId : Nat) (before : World) :
    Option Nat → World → Prop
  | idle
      (stuck : ProcessCompletion.areAllStepsCompleted before.db processInstanceId = true →
        ∀ proc, before.db.instance? processInstanceId = some proc →
          (hasParentStep proc = true → proc.status ≠ .active) ∧
          ProcessCompletion.canCompleteProcess deployment before.db processInstanceId = false) :
      Settlement deployment processInstanceId before none before
  | child (proc : ProcessInstance)
      (allDone : ProcessCompletion.areAllStepsCompleted before.db processInstanceId = true)
      (found : before.db.instance? processInstanceId = some proc)
      (parentStep : proc.parentStepId ≠ none)
      (status : proc.status = .completed ∨ proc.status = .active ∧ hasParentStep proc = true) :
      Settlement deployment processInstanceId before (some processInstanceId)
        { before with
          db := before.db.setInstance processInstanceId (completedInstance before.now)
            (completedInstance_key before.now) }
  | announced {after : World} (proc : ProcessInstance)
      (allDone : ProcessCompletion.areAllStepsCompleted before.db processInstanceId = true)
      (canComplete :
        ProcessCompletion.canCompleteProcess deployment before.db processInstanceId = true)
      (found : before.db.instance? processInstanceId = some proc)
      (root : hasParentStep proc = true → proc.status ≠ .active)
      (announced : Announced proc before after) :
      Settlement deployment processInstanceId before none after

private theorem projectCompleted_hosted (ctx : ProcessHostContext) (w : World) :
    Program.wp (ProjectHost.onProcessCompleted ctx) (fun _ w' => Hosted w w')
      (fun _ _ => False) w := by
  unfold ProjectHost.onProcessCompleted
  rw [Program.wp_bind, Program.wp_read]
  split
  · exact .refl w
  · rw [Program.wp_ite]
    refine ⟨fun _ => .refl w, fun _ => ?_⟩
    exact ⟨⟨_, _, _, _, rfl⟩, .of_event rfl rfl (fun _ => rfl), rfl, rfl⟩

private theorem scheduledTaskCompleted_hosted (ctx : ProcessHostContext) (w : World) :
    Program.wp (ScheduledTaskHost.onProcessCompleted ctx) (fun _ w' => Hosted w w')
      (fun _ _ => False) w := by
  unfold ScheduledTaskHost.onProcessCompleted
  rw [Program.wp_bind, Program.wp_read]
  split
  · exact .refl w
  · rw [Program.wp_ite]
    exact ⟨fun _ => .refl w, fun _ => .of_tables ⟨_, _, _, _, rfl⟩⟩

/-- A host that is told of a completed process: one call, and its own tables. -/
theorem onProcessCompleted_hosted (adapter : ProcessHostAdapter) (ctx : ProcessHostContext)
    (w : World) :
    Program.wp (adapter.onProcessCompleted ctx)
      (fun _ w' => Hosted { w with
        hostCalls := w.hostCalls ++ [.processCompleted ctx.processInstanceId] } w')
      (fun _ _ => False) w := by
  unfold ProcessHostAdapter.onProcessCompleted callHost
  rw [Program.wp_bind, Program.wp_write]
  cases adapter with
  | project => exact projectCompleted_hosted ctx _
  | scheduledTask => exact scheduledTaskCompleted_hosted ctx _
  | configurableInstance => exact .refl _
  | genericWorkflow => exact .refl _

/-- The tail of a completion announces the process once. -/
theorem announceCompletion_announced {proc : ProcessInstance} {adapter : ProcessHostAdapter}
    (registered : ProcessHostRegistry.lookup proc.subjectType = some adapter)
    (opts : AdvanceOptions) (w : World) :
    Program.wp (announceCompletion proc adapter true opts)
      (fun _ w' => Announced proc w w') (fun _ _ => False) w := by
  unfold announceCompletion completeInstance
  simp only [Program.wp_bind, Program.wp_when, now, writeDb, emit, Program.wp_read,
    Program.wp_write]
  refine ⟨fun _ => ?_, fun not => absurd trivial not⟩
  refine Program.wp_mono (Program.wp_and
    (onProcessCompleted_hosted adapter (buildProcessHostContext proc opts) _)
    (Program.wp_run _)) ?_ (fun _ _ never => never.1)
  rintro _ w' ⟨host, run⟩
  obtain ⟨events, eventsEq, quiet⟩ := host.log.events
  obtain ⟨calls, callsEq, quietCalls⟩ := host.log.hostCalls
  exact ⟨host.tables, ⟨calls, callsEq, quietCalls⟩,
    ⟨events, processCompletedEvent proc opts, by rw [eventsEq], quiet, rfl, rfl⟩,
    host.queue, host.now, w', ⟨adapter, opts, registered, by rw [run]⟩, ⟨rfl, rfl, rfl, rfl⟩⟩

/-- All four hosts agree to complete once every step is completed. -/
theorem canCompleteJob_iff (adapter : ProcessHostAdapter) (proc : ProcessInstance)
    (opts : AdvanceOptions) (db : Database) :
    adapter.canCompleteJob db (buildProcessHostContext proc opts) =
      ProcessCompletion.areAllStepsCompleted db proc.processInstanceId := by
  simp [ProcessHostAdapter.canCompleteJob, ProcessCompletion.areAllStepsCompleted,
    buildProcessHostContext, Bool.and_comm]

/-- The root path of `maybeCompleteJob` completes a process whose steps are all
completed and that the engine lets complete, and does nothing to another. -/
private theorem completeRoot_settles (opts : AdvanceOptions) (w : World)
    (root : ProcessCompletion.areAllStepsCompleted w.db processInstanceId = true →
      ∀ proc, w.db.instance? processInstanceId = some proc → hasParentStep proc = true →
        proc.status ≠ .active) :
    Program.wp (completeRoot deployment processInstanceId
        (ProcessCompletion.areAllStepsCompleted w.db processInstanceId) opts)
      (fun _ w' => Settlement deployment processInstanceId w none w')
      (fun _ w' => w' = w ∧ HostMissing w.db processInstanceId) w := by
  unfold completeRoot
  rw [Program.wp_bind, Program.wp_read, Program.wp_ite]
  constructor
  · intro canComplete
    rw [Program.wp_bind, Program.wp_read]
    split
    · rename_i missing
      exact .idle fun _ proc found => by rw [missing] at found; cases found
    · rename_i proc found
      have same : proc.processInstanceId = processInstanceId := Table.key_of_find? found
      rw [Program.wp_bind]
      cases host : ProcessHostRegistry.get proc.subjectType with
      | error message => exact ⟨rfl, proc, found, has_eq_false_of_get host⟩
      | ok adapter =>
          rw [Program.wp_lift_ok, Program.wp_bind, Program.wp_read, Program.wp_when,
            canCompleteJob_iff, same]
          constructor
          · intro allDone
            rw [allDone]
            refine Program.wp_mono (announceCompletion_announced (lookup_of_get host) opts w) ?_
              (fun _ _ never => never.elim)
            intro _ w' announced
            exact .announced proc allDone canComplete found (root allDone proc found) announced
          · intro notDone
            exact .idle fun allDone => absurd allDone notDone
  · intro cannot
    exact .idle fun allDone proc found =>
      ⟨root allDone proc found, by simpa using cannot⟩

/-- Completing an instance that is not active writes nothing. -/
theorem setInstance_completed_of_not_active {db : Database} {proc : ProcessInstance}
    (found : db.instance? processInstanceId = some proc) (inactive : proc.status ≠ .active)
    (time : String) :
    db.setInstance processInstanceId (completedInstance time) (completedInstance_key time) =
      db := by
  unfold Database.setInstance
  rw [Table.updateAt_eq_self]
  intro row member isKey
  have isProc : row = proc :=
    Table.eq_of_key_eq member (Table.mem_of_find? found) (isKey.trans (Table.key_of_find? found).symm)
  rw [isProc, completedInstance, if_neg inactive]

/-- `markProcessCompletedIfEligible` completes an eligible instance and no other. -/
theorem markProcessCompletedIfEligible_effect (processInstanceId : Nat) (w : World) :
    Program.wp (markProcessCompletedIfEligible processInstanceId)
      (fun _ w' => w' = if isEligibleChild w.db processInstanceId = true then
          { w with
            db := w.db.setInstance processInstanceId (completedInstance w.now)
              (completedInstance_key w.now) }
        else w)
      (fun _ _ => False) w := by
  unfold markProcessCompletedIfEligible completeInstance
  simp only [Program.wp_bind, Program.wp_read, Program.wp_when, now, writeDb, Program.wp_write]
  constructor
  · intro eligible
    rw [if_pos eligible]
  · intro ineligible
    rw [if_neg ineligible]

theorem isEligibleChild_eq {db : Database}
    (allDone : ProcessCompletion.areAllStepsCompleted db processInstanceId = true) :
    isEligibleChild db processInstanceId =
      (db.instance? processInstanceId).any hasParentStep := by
  unfold ProcessCompletion.areAllStepsCompleted at allDone
  unfold isEligibleChild
  rw [allDone, Bool.and_true]

theorem hasParentStep_iff {proc : ProcessInstance} :
    hasParentStep proc = true ↔ ∃ n, proc.parentStepId = some n ∧ n ≠ 0 := by
  unfold hasParentStep
  cases proc.parentStepId with
  | none => simp
  | some n => simp

/-- `reportJob` where no child process was completed in the same call. -/
private theorem reportJob_settles (opts : AdvanceOptions) (w : World)
    (root : ProcessCompletion.areAllStepsCompleted w.db processInstanceId = true →
      ∀ proc, w.db.instance? processInstanceId = some proc → hasParentStep proc = true →
        proc.status ≠ .active) :
    Program.wp (reportJob deployment processInstanceId
        (ProcessCompletion.areAllStepsCompleted w.db processInstanceId) opts)
      (fun result w' => Settlement deployment processInstanceId w result w')
      (fun _ w' => w' = w ∧ HostMissing w.db processInstanceId) w := by
  unfold reportJob
  rw [Program.wp_bind, Program.wp_read, Program.wp_ite]
  constructor
  · rintro ⟨allDone, completed⟩
    cases found : w.db.instance? processInstanceId with
    | none => simp [isCompletedChild, found] at completed
    | some proc =>
        simp only [isCompletedChild, found, Bool.and_eq_true, beq_iff_eq,
          Option.isSome_iff_ne_none] at completed
        have child : Settlement deployment processInstanceId w _ _ :=
          .child proc allDone found completed.1 (.inl completed.2)
        rwa [setInstance_completed_of_not_active found (by simp [completed.2])] at child
  · intro _
    rw [Program.wp_bind]
    exact Program.wp_mono (completeRoot_settles opts w root) (fun _ _ done => done)
      (fun _ _ raised => raised)

/-- `maybeCompleteJob` settles the process, or raises before it writes anything:
where the process has no host. -/
theorem maybeCompleteJob_settles (processInstanceId : Nat) (opts : AdvanceOptions) (w : World) :
    Program.wp (maybeCompleteJob deployment processInstanceId opts)
      (fun result w' => Settlement deployment processInstanceId w result w')
      (fun _ w' => w' = w ∧ HostMissing w.db processInstanceId) w := by
  unfold maybeCompleteJob
  rw [Program.wp_bind, Program.wp_read, Program.wp_bind, Program.wp_when]
  constructor
  · intro allDone
    refine Program.wp_mono (markProcessCompletedIfEligible_effect processInstanceId w) ?_
      (fun _ _ never => never.elim)
    rintro _ _ rfl
    rw [isEligibleChild_eq allDone]
    cases found : w.db.instance? processInstanceId with
    | none =>
        rw [Option.any_none, if_neg Bool.false_ne_true]
        refine reportJob_settles opts w fun _ proc isProc => ?_
        rw [found] at isProc
        cases isProc
    | some proc =>
        have rootIn : (hasParentStep proc = true → proc.status ≠ .active) →
            ProcessCompletion.areAllStepsCompleted w.db processInstanceId = true →
            ∀ other, w.db.instance? processInstanceId = some other →
              hasParentStep other = true → other.status ≠ .active := by
          intro root _ other isOther
          rw [found] at isOther
          cases isOther
          exact root
        rw [Option.any_some]
        by_cases parent : hasParentStep proc = true
        · rw [if_pos parent]
          by_cases active : proc.status = .active
          · obtain ⟨parentStepId, parentStep, _⟩ := hasParentStep_iff.mp parent
            have row : (w.db.setInstance processInstanceId (completedInstance w.now)
                (completedInstance_key w.now)).instance? processInstanceId =
                  some (completedInstance w.now proc) := by
              rw [Database.instance?, Database.setInstance, Table.find?_updateAt_self]
              exact congrArg _ found
            have completed : isCompletedChild (w.db.setInstance processInstanceId
                (completedInstance w.now) (completedInstance_key w.now)) processInstanceId =
                  true := by
              simp [isCompletedChild, row, completedInstance, active, parentStep]
            unfold reportJob
            rw [Program.wp_bind, Program.wp_read, if_pos ⟨allDone, completed⟩]
            exact .child proc allDone found (by simp [parentStep]) (.inr ⟨active, parent⟩)
          · rw [setInstance_completed_of_not_active found active]
            exact reportJob_settles opts w (rootIn fun _ => active)
        · rw [if_neg parent]
          exact reportJob_settles opts w (rootIn fun isParent => absurd isParent parent)
  · intro notDone
    exact reportJob_settles opts w fun allDone => absurd allDone notDone

/-! ## Completing a step -/

/-- The step `step` of `before` is written as completed in `after`, and hosts were called. -/
structure StepWritten (step : StepInstance) (before after : World) : Prop where
  tables : ∃ (set : StepInstance → StepInstance) (sets : SetsStatus .completed set),
    HostTables (before.db.setStep step.stepInstanceId set sets.key) after.db
  log : QuietLog before after
  queue : after.queue = before.queue
  now : after.now = before.now

/-- A host call does not see an update of a step. -/
theorem HostTables.setStep {before after : Database} (tables : HostTables before after)
    (stepInstanceId : Nat) (set : StepInstance → StepInstance)
    (keeps : ∀ row, (set row).stepInstanceId = row.stepInstanceId) :
    HostTables (before.setStep stepInstanceId set keeps)
      (after.setStep stepInstanceId set keeps) := by
  obtain ⟨_, _, _, _, rfl⟩ := tables
  exact ⟨_, _, _, _, rfl⟩

theorem StepWritten.of_set {step : StepInstance} {before middle : World} {status : StepStatus}
    {inner set : StepInstance → StepInstance} (sets : SetsStatus .completed set)
    (first : SetsStatus status inner)
    (host : Hosted { before with
      db := before.db.setStep step.stepInstanceId inner first.key } middle) :
    StepWritten step before
      { middle with db := middle.db.setStep step.stepInstanceId set sets.key } := by
  refine ⟨⟨_, sets.comp first, ?_⟩, ⟨host.log.events, host.log.hostCalls⟩, host.queue,
    host.now⟩
  have both := host.tables.setStep step.stepInstanceId set sets.key
  unfold Database.setStep at both ⊢
  rwa [Table.updateAt_updateAt (sets.comp first).key] at both

theorem StepWritten.hosted {step : StepInstance} {before middle after : World}
    (completed : StepWritten step before middle) (host : Hosted middle after) :
    StepWritten step before after := by
  obtain ⟨set, sets, tables⟩ := completed.tables
  exact ⟨⟨set, sets, tables.trans host.tables⟩, completed.log.trans host.log,
    host.queue.trans completed.queue, host.now.trans completed.now⟩

theorem StepWritten.row {step : StepInstance} {before after : World}
    (completed : StepWritten step before after) (member : step ∈ before.db.steps.rows) :
    ∃ row ∈ after.db.steps.rows, row.stepInstanceId = step.stepInstanceId ∧
      row.processInstanceId = step.processInstanceId ∧ row.stepOrder = step.stepOrder ∧
      row.status = .completed := by
  obtain ⟨set, sets, _, _, _, _, tables⟩ := completed.tables
  refine ⟨set step, ?_, sets.key step, sets.process step, sets.order step, sets.status step⟩
  rw [tables]
  exact (mem_setStep sets.key).mpr (.inl ⟨step, member, rfl, rfl⟩)

variable (deployment) in
/-- What decides about the steps, before and after one was completed. -/
theorem StepWritten.sameInputs {step : StepInstance} {before after : World}
    (completed : StepWritten step before after) (other : StepInstance) :
    SameInputs deployment other before after := by
  obtain ⟨set, sets, _, _, _, _, tables⟩ := completed.tables
  constructor <;> simp only [tables, completed.now] <;> rfl

/-- Completing a step leaves the steps behind it. -/
theorem StepWritten.nextSteps {step : StepInstance} {before after : World}
    (completed : StepWritten step before after) (member : step ∈ before.db.steps.rows)
    {next : StepInstance} :
    next ∈ nextSteps after.db processInstanceId step.stepOrder ↔
      next ∈ nextSteps before.db processInstanceId step.stepOrder := by
  obtain ⟨set, sets, _, _, _, _, tables⟩ := completed.tables
  rw [mem_nextSteps, mem_nextSteps, tables]
  constructor
  · rintro ⟨nextMember, ofProcess, order, pending⟩
    rcases (mem_setStep sets.key).mp nextMember with ⟨_, _, _, rfl⟩ | ⟨untouched, _⟩
    · rw [sets.status] at pending
      cases pending
    · exact ⟨untouched, ofProcess, order, pending⟩
  · rintro ⟨nextMember, ofProcess, order, pending⟩
    refine ⟨(mem_setStep sets.key).mpr (.inr ⟨nextMember, fun same => ?_⟩), ofProcess, order,
      pending⟩
    have isStep : next = step := Table.eq_of_key_eq nextMember member same
    rw [isStep] at order
    omega

theorem StepWritten.nextFails {step : StepInstance} {before after : World}
    (completed : StepWritten step before after) (member : step ∈ before.db.steps.rows) :
    NextFails deployment after processInstanceId step.stepOrder ↔
      NextFails deployment before processInstanceId step.stepOrder := by
  have fails : ∀ next, UnlockFails deployment after next ↔ UnlockFails deployment before next := by
    intro next
    obtain ⟨_, _, _, _, _, _, tables⟩ := completed.tables
    exact (completed.sameInputs deployment next).unlockFails (by rw [tables]; rfl)
  simp only [NextFails, completed.nextSteps member, fails]

/-- The status of a step was written, and reported to the host of its process. -/
def Changed (step : StepInstance) (state : StepStatus) (before after : World) : Prop :=
  ∃ (set : StepInstance → StepInstance) (sets : SetsStatus state set) (told : World),
    Hosted { before with db := before.db.setStep step.stepInstanceId set sets.key } told ∧
    Reported step.processInstanceId step.stepInstanceId state
      { before with db := before.db.setStep step.stepInstanceId set sets.key } told ∧
    Hosted told after ∧ HostsKept told after

/-- The step `step` of `before` is completed in `after`, and each status it took
reported to its host. -/
structure StepCompleted (step : StepInstance) (before after : World) : Prop
    extends StepWritten step before after where
  reports : Changed step .completed before after ∨
    step.status = .ready ∧ ∃ started, Changed step .inProgress before started ∧
      Changed step .completed started after

/-- No eligible step right behind the step `target` stayed pending. -/
def NextUnlocked (deployment : Deployment) (processInstanceId target : Nat)
    (before after : World) : Prop :=
  ∀ step ∈ after.db.steps.rows, step.processInstanceId = processInstanceId →
    step.status = .pending → Succeeds before.db target step → ¬ Eligible deployment before step

/-- What follows a completed step: the next steps are unlocked, then the process
is settled. -/
def Settles (deployment : Deployment) (origin : World) (processInstanceId target : Nat)
    (before : World) (result : Option Nat) (after : World) : Prop :=
  ∃ middle, Edits deployment origin processInstanceId target before middle ∧
    Settlement deployment processInstanceId middle result after ∧
    NextUnlocked deployment processInstanceId target before middle

variable (deployment origin target) in
/-- `enableNextSteps` and `maybeCompleteJob` after the completed step `pred`. -/
theorem settleStep_settles {pred : StepInstance} (opts : AdvanceOptions) {w : World}
    (member : pred ∈ w.db.steps.rows) (isTarget : pred.stepInstanceId = target)
    (completed : pred.status = .completed) :
    Program.wp (settleStep deployment pred.processInstanceId pred.stepOrder opts)
      (fun result w' => Settles deployment origin pred.processInstanceId target w result w' ∧
        ¬ NextFails deployment w pred.processInstanceId pred.stepOrder)
      (fun _ w' => QuietLog w w' ∧ (HostMissing w.db pred.processInstanceId ∨
        NextFails deployment w pred.processInstanceId pred.stepOrder)) w := by
  unfold settleStep
  rw [Program.wp_bind]
  refine Program.wp_mono (enableNextSteps_edits origin target opts member isTarget rfl
    completed) ?_
    (fun _ _ raised => raised)
  rintro _ w₁ ⟨edits, leaves, sound⟩
  have unlocked : NextUnlocked deployment pred.processInstanceId target w w₁ := by
    rintro step stepMember ofProcess pending ⟨other, otherMember, isTargetToo, _, _, order⟩
    rw [Table.eq_of_key_eq otherMember member (isTargetToo.trans isTarget.symm)] at order
    exact leaves step (mem_nextSteps.mpr ⟨stepMember, ofProcess, order.symm, pending⟩)
  refine Program.wp_mono (maybeCompleteJob_settles pred.processInstanceId opts w₁) ?_ ?_
  · intro result w' settlement
    exact ⟨⟨w₁, edits, settlement, unlocked⟩, sound⟩
  · rintro _ _ ⟨rfl, missing⟩
    exact ⟨edits.log, .inl ((edits.sameInputs ⟨pred, member, rfl⟩ rfl).hostMissing.mp missing)⟩

variable (origin target) in
/-- `settleStep` right after the step was completed. -/
theorem StepCompleted.settles {step : StepInstance} {w completed : World}
    (completes : StepCompleted step w completed) (member : step ∈ w.db.steps.rows)
    (isTarget : step.stepInstanceId = target) (opts : AdvanceOptions) :
    Program.wp (settleStep deployment step.processInstanceId step.stepOrder opts)
      (fun result w' => (StepCompleted step w completed ∧
        Settles deployment origin step.processInstanceId target completed result w') ∧
        ¬ NextFails deployment w step.processInstanceId step.stepOrder)
      (fun _ w' => QuietLog w w' ∧ (HostMissing w.db step.processInstanceId ∨
        NextFails deployment w step.processInstanceId step.stepOrder)) completed := by
  obtain ⟨row, rowMember, key, process, order, status⟩ := completes.row member
  have settle := settleStep_settles deployment origin target opts rowMember (key.trans isTarget)
    status
  rw [process, order] at settle
  refine Program.wp_mono settle ?_ ?_
  · rintro result w' ⟨settles, sound⟩
    exact ⟨⟨completes, settles⟩, fun failing => sound ((completes.nextFails member).mpr failing)⟩
  · rintro _ w' ⟨raised, reason⟩
    exact ⟨completes.log.trans raised,
      reason.imp (completes.sameInputs deployment step).hostMissing.mp
        (completes.nextFails member).mp⟩

section Rules

variable {ok : Option Nat → World → Prop} {err : String → World → Prop} {step : StepInstance}
  {w : World}

theorem QuietLog.events_ne {before middle after : World} {event : DomainEvent}
    (log : QuietLog before middle) (events : after.events = middle.events ++ [event]) :
    after.events ≠ before.events := by
  obtain ⟨quiet, eventsEq, _⟩ := log.events
  rw [events, eventsEq, List.append_assoc]
  simp

theorem Reported.not_hostMissing {state : StepStatus} {w' : World}
    (report : Reported step.processInstanceId step.stepInstanceId state w w') :
    ¬HostMissing w.db step.processInstanceId := by
  rintro ⟨proc, found, missing⟩
  obtain ⟨adapter, _, registered, _⟩ := report.told found
  simp [ProcessHostRegistry.has, registered] at missing

/-- `markCompleted` on a completable step is heard and ends as settling the completed step does,
or raises where the process has no host, before it is heard. -/
theorem completeStep_rule (opts : AdvanceOptions)
    (raises : ∀ message w', w'.events = w.events → w'.hostCalls = w.hostCalls →
      w'.queue = w.queue → HostMissing w.db step.processInstanceId → err message w')
    (settles : ∀ completed, StepCompleted step w completed → completed.events ≠ w.events →
      ¬HostMissing w.db step.processInstanceId →
      Program.wp (settleStep deployment step.processInstanceId step.stepOrder opts) ok err
        completed) :
    Program.wp (completeStep deployment step opts) ok err w := by
  unfold completeStep
  rw [Program.wp_bind, wp_now, Program.wp_bind, wp_setState, Program.wp_bind]
  have sets := setsStatus_stepInState .completed
    { StateTimes.none with completedAt := some w.now } w.now
  have written : StepWritten step w
      { w with db := w.db.setStep step.stepInstanceId _ sets.key } :=
    ⟨⟨_, sets, .refl _⟩, .of_eq rfl rfl, rfl, rfl⟩
  refine Program.wp_mono (dispatchStepStateChanged_hosted step .completed opts _) ?_ ?_
  · rintro _ w₁ ⟨host, report⟩
    rw [Program.wp_bind, wp_emit]
    have noted := Hosted.of_event (w := w₁)
      (stepEvent_quiet "six1-event.notification.process_step_completed" step "manual" opts)
    exact settles _ ⟨(written.hosted host).hosted noted,
      .inl ⟨_, sets, w₁, host, report, noted, ⟨rfl, rfl, rfl, rfl⟩⟩⟩
      (QuietLog.events_ne (written.log.trans host.log) rfl) report.not_hostMissing
  · rintro message _ ⟨rfl, missing⟩
    exact raises message _ rfl rfl rfl missing

/-- An automated step that runs is heard and ends as settling the completed step does, or raises
where the process has no host, before it is heard. -/
theorem runAutomated_rule (ready : step.status = .ready) (opts : AdvanceOptions)
    (raises : ∀ message w', w'.events = w.events → w'.hostCalls = w.hostCalls →
      w'.queue = w.queue → HostMissing w.db step.processInstanceId → err message w')
    (settles : ∀ completed, StepCompleted step w completed → completed.events ≠ w.events →
      ¬HostMissing w.db step.processInstanceId →
      Program.wp (settleStep deployment step.processInstanceId step.stepOrder opts) ok err
        completed) :
    Program.wp (runAutomated deployment step opts) ok err w := by
  unfold runAutomated
  rw [Program.wp_bind, wp_now, Program.wp_bind, wp_setState, Program.wp_bind]
  have first := setsStatus_stepInState .inProgress
    { StateTimes.none with startedAt := some w.now } w.now
  refine Program.wp_mono (dispatchStepStateChanged_hosted step .inProgress opts _) ?_ ?_
  · rintro _ w₁ ⟨host₁, report₁⟩
    rw [Program.wp_bind, wp_emit, Program.wp_bind, wp_setState, Program.wp_bind]
    have hosted : ¬HostMissing w.db step.processInstanceId := report₁.not_hostMissing
    have noted₁ := Hosted.of_event (w := w₁)
      (stepEvent_quiet "six1-event.process_step_started" step "event" opts)
    have started := host₁.trans noted₁
    have sets := setsStatus_stepInState .completed
      { StateTimes.none with completedAt := some w.now } w₁.now
    have written : StepWritten step w _ := .of_set sets first started
    refine Program.wp_mono (dispatchStepStateChanged_hosted step .completed opts _) ?_ ?_
    · rintro _ w₂ ⟨host₂, report₂⟩
      rw [Program.wp_bind, wp_emit]
      have noted₂ := Hosted.of_event (w := w₂)
        (stepEvent_quiet "six1-event.process_step_completed" step "event" opts)
      exact settles _ ⟨(written.hosted host₂).hosted noted₂, .inr ⟨ready, _,
        ⟨_, first, w₁, host₁, report₁, noted₁, ⟨rfl, rfl, rfl, rfl⟩⟩,
        ⟨_, sets, w₂, host₂, report₂, noted₂, ⟨rfl, rfl, rfl, rfl⟩⟩⟩⟩
        (QuietLog.events_ne (written.log.trans host₂.log) rfl) hosted
    · rintro message _ ⟨rfl, missing⟩
      exact absurd ((written.sameInputs deployment step).hostMissing.mp missing) hosted
  · rintro message _ ⟨rfl, missing⟩
    exact raises message _ rfl rfl rfl missing

end Rules

variable (origin target) in
/-- `markCompleted` on a completable step: it is completed, and settled. -/
theorem completeStep_settles {step : StepInstance} {w : World} (member : step ∈ w.db.steps.rows)
    (isTarget : step.stepInstanceId = target) (opts : AdvanceOptions) :
    Program.wp (completeStep deployment step opts)
      (fun result w' => (∃ completed, StepCompleted step w completed ∧
        Settles deployment origin step.processInstanceId target completed result w') ∧
        ¬ NextFails deployment w step.processInstanceId step.stepOrder)
      (fun _ w' => QuietLog w w' ∧ (HostMissing w.db step.processInstanceId ∨
        NextFails deployment w step.processInstanceId step.stepOrder)) w := by
  refine completeStep_rule opts
    (fun _ _ events calls _ missing => ⟨.of_eq events calls, .inl missing⟩) ?_
  intro completed completes _ _
  refine Program.wp_mono (completes.settles origin target member isTarget opts) ?_
    (fun _ _ raised => raised)
  rintro _ _ ⟨settles, sound⟩
  exact ⟨⟨completed, settles⟩, sound⟩

variable (deployment origin target) in
/-- An automated step runs: it is started, completed, and settled. -/
theorem runAutomated_settles {step : StepInstance} {w : World} (member : step ∈ w.db.steps.rows)
    (isTarget : step.stepInstanceId = target) (ready : step.status = .ready)
    (opts : AdvanceOptions) :
    Program.wp (runAutomated deployment step opts)
      (fun result w' => (∃ completed, StepCompleted step w completed ∧
        Settles deployment origin step.processInstanceId target completed result w') ∧
        ¬ NextFails deployment w step.processInstanceId step.stepOrder)
      (fun _ w' => QuietLog w w' ∧ (HostMissing w.db step.processInstanceId ∨
        NextFails deployment w step.processInstanceId step.stepOrder)) w := by
  refine runAutomated_rule ready opts
    (fun _ _ events calls _ missing => ⟨.of_eq events calls, .inl missing⟩) ?_
  intro completed completes _ _
  refine Program.wp_mono (completes.settles origin target member isTarget opts) ?_
    (fun _ _ raised => raised)
  rintro _ _ ⟨settles, sound⟩
  exact ⟨⟨completed, settles⟩, sound⟩

/-! ## The operations -/

/-- The outcomes of the first transaction of `attemptAdvance` on the step. -/
inductive Advanced (deployment : Deployment) (origin : World) (stepInstanceId : Nat) :
    Option Nat → World → Prop
  | refused
      (finished : ∀ step, origin.db.step? stepInstanceId = some step →
        isFinished step.status = true) :
      Advanced deployment origin stepInstanceId none origin
  | waiting {after : World} (step : StepInstance)
      (found : origin.db.step? stepInstanceId = some step)
      (unfinished : isFinished step.status = false)
      (still : Eligible deployment origin step → step.status ≠ .pending)
      (edits : Edits deployment origin step.processInstanceId stepInstanceId origin after)
      (steps : after.db.steps = origin.db.steps) :
      Advanced deployment origin stepInstanceId none after
  | unlocked {after : World} (step : StepInstance)
      (found : origin.db.step? stepInstanceId = some step)
      (pending : step.status = .pending)
      (eligible : Eligible deployment origin step)
      (edits : Edits deployment origin step.processInstanceId stepInstanceId origin after)
      (unlocks : Unlocked step origin.db after.db) :
      Advanced deployment origin stepInstanceId none after
  | ran {before completed after : World} {result : Option Nat} (step fresh : StepInstance)
      (found : origin.db.step? stepInstanceId = some step)
      (begun : step.status = .pending ∨ step.status = .ready)
      (eligible : Eligible deployment origin step)
      (edits : Edits deployment origin step.processInstanceId stepInstanceId origin before)
      (member : fresh ∈ before.db.steps.rows)
      (same : SameStep step fresh)
      (automated : fresh.taskType = .automated)
      (ready : fresh.status = .ready)
      (completes : StepCompleted fresh before completed)
      (settles : Settles deployment origin step.processInstanceId stepInstanceId completed
        result after) :
      Advanced deployment origin stepInstanceId result after

/-- The outcomes of the first transaction of `markCompleted` on the step. -/
inductive Marked (deployment : Deployment) (origin : World) (stepInstanceId : Nat) :
    Option Nat → World → Prop
  | refused
      (incompletable : ∀ step, origin.db.step? stepInstanceId = some step →
        isCompletable deployment origin.db step = false) :
      Marked deployment origin stepInstanceId none origin
  | marked {completed after : World} {result : Option Nat} (step : StepInstance)
      (found : origin.db.step? stepInstanceId = some step)
      (completable : isCompletable deployment origin.db step = true)
      (completes : StepCompleted step origin completed)
      (settles : Settles deployment origin step.processInstanceId stepInstanceId completed
        result after) :
      Marked deployment origin stepInstanceId result after

/-- The outcomes of the first transaction of `resumeParentAfterChildCallProcess`. -/
inductive Resumed (deployment : Deployment) (origin : World) (stepInstanceId : Nat) :
    Option Nat → World → Prop
  | refused
      (incomplete : ∀ step, origin.db.step? stepInstanceId = some step →
        step.status ≠ .completed) :
      Resumed deployment origin stepInstanceId none origin
  | resumed {after : World} {result : Option Nat} (step : StepInstance)
      (found : origin.db.step? stepInstanceId = some step)
      (completed : step.status = .completed)
      (settles : Settles deployment origin step.processInstanceId stepInstanceId origin
        result after) :
      Resumed deployment origin stepInstanceId result after

/-- `resumeParentAfterChildCallProcess`, up to its first commit. -/
theorem resumeParentIn_resumed (stepInstanceId : Nat) (opts : AdvanceOptions) (w : World) :
    Program.wp (resumeParentIn deployment stepInstanceId opts)
      (fun result w' => Resumed deployment w stepInstanceId result w' ∧
        ∀ step, w.db.step? stepInstanceId = some step → step.status = .completed →
          ¬ NextFails deployment w step.processInstanceId step.stepOrder)
      (fun _ w' => QuietLog w w') w := by
  unfold resumeParentIn
  rw [Program.wp_bind, Program.wp_read]
  split
  · rename_i missing
    refine ⟨.refused fun step found => ?_, fun step found => ?_⟩ <;>
      rw [missing] at found <;> cases found
  · rename_i step found
    have isStep : ∀ other, w.db.step? stepInstanceId = some other → other = step := by
      intro other isOther
      rw [found] at isOther
      exact (Option.some.inj isOther).symm
    rw [Program.wp_ite]
    constructor
    · intro completed
      refine Program.wp_mono (settleStep_settles deployment w stepInstanceId opts
        (Table.mem_of_find? found) (Table.key_of_find? found) completed) ?_
        (fun _ _ raised => raised.1)
      rintro _ w' ⟨settles, sound⟩
      exact ⟨.resumed step found completed settles, fun other isOther _ =>
        isStep other isOther ▸ sound⟩
    · intro incomplete
      exact ⟨.refused fun other isOther => isStep other isOther ▸ incomplete,
        fun other isOther completed => absurd (isStep other isOther ▸ completed) incomplete⟩

/-- `markCompleted`, up to its first commit. -/
theorem markCompletedIn_marked (stepInstanceId : Nat) (opts : AdvanceOptions) (w : World) :
    Program.wp (markCompletedIn deployment stepInstanceId opts)
      (fun result w' => Marked deployment w stepInstanceId result w' ∧
        ∀ step, w.db.step? stepInstanceId = some step →
          isCompletable deployment w.db step = true →
            ¬ NextFails deployment w step.processInstanceId step.stepOrder)
      (fun _ w' => QuietLog w w') w := by
  unfold markCompletedIn
  rw [Program.wp_bind, Program.wp_read]
  split
  · rename_i missing
    refine ⟨.refused fun step found => ?_, fun step found => ?_⟩ <;>
      rw [missing] at found <;> cases found
  · rename_i step found
    have isStep : ∀ other, w.db.step? stepInstanceId = some other → other = step := by
      intro other isOther
      rw [found] at isOther
      exact (Option.some.inj isOther).symm
    rw [Program.wp_bind, Program.wp_read, Program.wp_ite]
    constructor
    · intro completable
      refine Program.wp_mono (completeStep_settles w stepInstanceId
        (Table.mem_of_find? found) (Table.key_of_find? found) opts) ?_ (fun _ _ raised => raised.1)
      rintro _ w' ⟨⟨_, completes, settles⟩, sound⟩
      exact ⟨.marked step found completable completes settles,
        fun other isOther _ => isStep other isOther ▸ sound⟩
    · intro incompletable
      refine ⟨.refused fun other isOther => ?_, fun other isOther completable => ?_⟩
      · rw [isStep other isOther]
        simpa using incompletable
      · exact absurd (isStep other isOther ▸ completable) incompletable

/-- `attemptAdvance` runs the step: it is automated, eligible, and pending or ready. -/
structure Runs (deployment : Deployment) (w : World) (step : StepInstance) : Prop where
  automated : step.taskType = .automated
  begun : step.status = .pending ∨ step.status = .ready
  eligible : Eligible deployment w step

instance (deployment : Deployment) (w : World) (step : StepInstance) :
    Decidable (Runs deployment w step) :=
  decidable_of_iff (step.taskType = .automated ∧
    (step.status = .pending ∨ step.status = .ready) ∧ Eligible deployment w step)
    ⟨fun ⟨automated, begun, eligible⟩ => ⟨automated, begun, eligible⟩,
      fun runs => ⟨runs.automated, runs.begun, runs.eligible⟩⟩

/-- `attemptAdvance` on the step raises: a trigger does, its child cannot be
started, or unlocking a step behind it fails. -/
def AdvanceFails (deployment : Deployment) (w : World) (step : StepInstance) : Prop :=
  TriggerFails deployment w step ∨
    step.status = .pending ∧ Spawns deployment w step ∧ SpawnFails deployment w.db step ∨
    Runs deployment w step ∧
      NextFails deployment w step.processInstanceId step.stepOrder

instance (deployment : Deployment) (w : World) (step : StepInstance) :
    Decidable (AdvanceFails deployment w step) :=
  inferInstanceAs (Decidable (_ ∨ _ ∧ _ ∨ _ ∧ _))

/-- `attemptAdvance` on a step whose gates and triggers hold. -/
private theorem advanceEligible_advanced {step : StepInstance} (opts : AdvanceOptions)
    {w w₁ : World} (found : w.db.step? target = some step)
    (unfinished : isFinished step.status = false)
    (edits : Edits deployment w step.processInstanceId target w w₁)
    (steps : w₁.db.steps = w.db.steps)
    (eligible : Eligible deployment w step)
    (only : step.status = .pending → OnlyTriggers w w₁)
    (sound : ¬ TriggerFails deployment w step) :
    Program.wp (advanceEligible deployment step opts)
      (fun result w' => Advanced deployment w target result w' ∧
        ¬ AdvanceFails deployment w step)
      (fun _ w' => QuietLog w w' ∧
        (HostMissing w.db step.processInstanceId ∨ AdvanceFails deployment w step)) w₁ := by
  have key : step.stepInstanceId = target := Table.key_of_find? found
  have origMember : step ∈ w.db.steps.rows := Table.mem_of_find? found
  have member : step ∈ w₁.db.steps.rows := by
    rw [steps]
    exact origMember
  have known : ∃ other ∈ w.db.steps.rows, other.stepInstanceId = step.stepInstanceId :=
    ⟨step, origMember, rfl⟩
  -- The step runs if it is automated and ready now; the steps behind it are what they were.
  have run : ∀ w₂ row, Edits deployment w step.processInstanceId target w w₂ →
      row ∈ w₂.db.steps.rows → SameStep step row → row.status = .ready →
      row.taskType = .automated → step.status = .pending ∨ step.status = .ready →
      (∀ other ∈ w.db.steps.rows, other.stepInstanceId ≠ step.stepInstanceId →
        other ∈ w₂.db.steps.rows) →
      Program.wp (runAutomated deployment row opts)
        (fun result w' => Advanced deployment w target result w' ∧
          ¬ AdvanceFails deployment w step)
        (fun _ w' => QuietLog w w' ∧
          (HostMissing w.db step.processInstanceId ∨ AdvanceFails deployment w step)) w₂ := by
    intro w₂ row edits₂ rowMember same ready automated begun others
    have next : NextFails deployment w₂ step.processInstanceId step.stepOrder ↔
        NextFails deployment w step.processInstanceId step.stepOrder := by
      have fails : ∀ next, next ∈ nextSteps w₂.db step.processInstanceId step.stepOrder →
          next ∈ nextSteps w.db step.processInstanceId step.stepOrder →
            (UnlockFails deployment w₂ next ↔ UnlockFails deployment w next) := by
        intro next selected₂ selected
        obtain ⟨member₂, ofProcess, _, pending⟩ := mem_nextSteps.mp selected₂
        have knownNext : ∃ other ∈ w.db.steps.rows,
            other.stepInstanceId = next.stepInstanceId :=
          ⟨next, (mem_nextSteps.mp selected).1, rfl⟩
        exact (edits₂.sameInputs knownNext ofProcess).unlockFails
          (edits₂.findChild member₂ pending knownNext)
      constructor
      · rintro ⟨next, selected₂, failing⟩
        have selected := edits₂.nextSteps selected₂
        exact ⟨next, selected, (fails next selected₂ selected).mp failing⟩
      · rintro ⟨next, selected, failing⟩
        obtain ⟨nextMember, ofProcess, order, pending⟩ := mem_nextSteps.mp selected
        have selected₂ : next ∈ nextSteps w₂.db step.processInstanceId step.stepOrder := by
          refine mem_nextSteps.mpr ⟨others next nextMember fun sameKey => ?_, ofProcess, order,
            pending⟩
          rw [Table.eq_of_key_eq nextMember origMember sameKey] at order
          omega
        exact ⟨next, selected₂, (fails next selected₂ selected).mpr failing⟩
    have settle := runAutomated_settles deployment w target rowMember
      (same.key.trans key) ready opts
    rw [same.process, same.order, next] at settle
    have runs : Runs deployment w step := ⟨same.task ▸ automated, begun, eligible⟩
    have hostMissing := (edits₂.sameInputs known rfl).hostMissing
    refine Program.wp_mono settle ?_ ?_
    · rintro _ w' ⟨⟨completed, completes, settles⟩, soundNext⟩
      refine ⟨.ran step row found begun eligible edits₂ rowMember same automated ready completes
        settles, ?_⟩
      rintro (trigger | ⟨_, spawns, _⟩ | ⟨_, failing⟩)
      · exact sound trigger
      · have calls := spawns.calls
        rw [runs.automated] at calls
        cases calls
      · exact soundNext failing
    · rintro _ w' ⟨raised, reason⟩
      exact ⟨edits₂.log.trans raised,
        reason.imp hostMissing.mp fun failing => .inr (.inr ⟨runs, failing⟩)⟩
  unfold advanceEligible
  rw [Program.wp_bind, Program.wp_when]
  constructor
  · intro pending
    have inputs := (only pending).sameInputs deployment step
    have may : MayUnlock deployment w target w₁ step :=
      ⟨inputs.eligible.mpr eligible, .inl ⟨key, only pending⟩⟩
    have child : findChildProcessInstanceId w₁.db step.stepInstanceId =
        findChildProcessInstanceId w.db step.stepInstanceId :=
      edits.findChild member pending known
    have spawnFails : Spawns deployment w₁ step ∧ SpawnFails deployment w₁.db step ↔
        Spawns deployment w step ∧ SpawnFails deployment w.db step := by
      have fails := inputs.unlockFails child
      unfold UnlockFails at fails
      rw [inputs.triggerFails, or_iff_right sound, or_iff_right sound] at fails
      exact fails
    refine Program.wp_mono (unlock_edits _ opts member rfl pending may) ?_ ?_
    · rintro _ w₂ ⟨unlocked, kept, startable⟩
      obtain ⟨row, rowMember, same, outcome⟩ := kept.self
      have reload : w₂.db.step? step.stepInstanceId = some row :=
        Table.find?_eq_some.mpr ⟨rowMember, same.key⟩
      have unlocks : Unlocked step w.db w₂.db :=
        ⟨fun other otherMember => kept.others other (steps ▸ otherMember), kept.self⟩
      rw [Program.wp_bind, Program.wp_read, reload, Program.wp_ite]
      constructor
      · intro runnable
        simp only [isRunnable, Bool.and_eq_true, beq_iff_eq] at runnable
        exact run w₂ row (edits.trans unlocked) rowMember same runnable.2 runnable.1
          (.inl pending) unlocks.others
      · intro notRunnable
        refine ⟨.unlocked step found pending eligible (edits.trans unlocked) unlocks, ?_⟩
        rintro (trigger | ⟨_, failing⟩ | ⟨runs, _⟩)
        · exact sound trigger
        · exact startable (spawnFails.mpr failing)
        · rcases outcome with ready | ⟨_, calls⟩
          · exact notRunnable (by simp [isRunnable, ready, same.task, runs.automated])
          · rw [runs.automated] at calls
            cases calls
    · rintro _ w₂ ⟨raised, reason⟩
      refine ⟨edits.log.trans raised, reason.imp inputs.hostMissing.mp fun failing => ?_⟩
      exact .inr (.inl ⟨pending, spawnFails.mp failing⟩)
  · intro notPending
    have reload : w₁.db.step? step.stepInstanceId = some step :=
      Table.find?_eq_some.mpr ⟨member, rfl⟩
    rw [Program.wp_bind, Program.wp_read, reload, Program.wp_ite]
    constructor
    · intro runnable
      simp only [isRunnable, Bool.and_eq_true, beq_iff_eq] at runnable
      exact run w₁ step edits member ⟨rfl, rfl, rfl, rfl, rfl⟩ runnable.2 runnable.1
        (.inr runnable.2) fun other otherMember _ => steps ▸ otherMember
    · intro notRunnable
      refine ⟨.waiting step found unfinished (fun _ => notPending) edits steps, ?_⟩
      rintro (trigger | ⟨pending, _⟩ | ⟨runs, _⟩)
      · exact sound trigger
      · exact notPending pending
      · exact notRunnable (by
          simp [isRunnable, runs.automated, runs.begun.resolve_left notPending])

/-- `attemptAdvance`, up to its first commit; it raises where `AdvanceFails`. -/
theorem attemptAdvanceIn_advanced (stepInstanceId : Nat) (opts : AdvanceOptions) (w : World) :
    Program.wp (attemptAdvanceIn deployment stepInstanceId opts)
      (fun result w' => Advanced deployment w stepInstanceId result w' ∧
        ∀ step, w.db.step? stepInstanceId = some step → isFinished step.status = false →
          ¬ AdvanceFails deployment w step)
      (fun _ w' => QuietLog w w' ∧ ∃ step, w.db.step? stepInstanceId = some step ∧
        (HostMissing w.db step.processInstanceId ∨ AdvanceFails deployment w step)) w := by
  unfold attemptAdvanceIn
  rw [Program.wp_bind, Program.wp_read]
  split
  · rename_i missing
    refine ⟨.refused fun step found => ?_, fun step found => ?_⟩ <;>
      rw [missing] at found <;> cases found
  rename_i step found
  have member := Table.mem_of_find? found
  have isStep : ∀ other, w.db.step? stepInstanceId = some other → other = step := by
    intro other isOther
    rw [found] at isOther
    exact (Option.some.inj isOther).symm
  rw [Program.wp_ite]
  constructor
  · intro finished
    refine ⟨.refused fun other isOther => isStep other isOther ▸ finished,
      fun other isOther unfinished => ?_⟩
    rw [isStep other isOther, finished] at unfinished
    cases unfinished
  intro unfinished
  have unfinished : isFinished step.status = false := by simpa using unfinished
  suffices advances : Program.wp (advanceStep deployment step opts)
      (fun result w' => Advanced deployment w stepInstanceId result w' ∧
        ¬ AdvanceFails deployment w step)
      (fun _ w' => QuietLog w w' ∧
        (HostMissing w.db step.processInstanceId ∨ AdvanceFails deployment w step)) w by
    refine Program.wp_mono advances ?_ ?_
    · rintro _ w' ⟨advanced, sound⟩
      exact ⟨advanced, fun other isOther _ => isStep other isOther ▸ sound⟩
    · rintro _ w' ⟨raised, reason⟩
      exact ⟨raised, step, found, reason⟩
  unfold advanceStep
  rw [Program.wp_bind]
  refine Program.wp_mono (provisionReady_edits stepInstanceId step opts.correlationId member) ?_
    (fun _ _ never => never.elim)
  rintro _ w₁ ⟨provisioned, objects, untouched⟩
  have inputs := objects.sameInputs step
  have steps₁ : w₁.db.steps = w.db.steps := by
    obtain ⟨_, _, _, rfl⟩ := objects.shape
    rfl
  rw [Program.wp_bind, Program.wp_read, Program.wp_bind]
  refine Program.wp_mono (evaluateTriggers_edits w stepInstanceId (steps₁ ▸ member) rfl) ?_ ?_
  · rintro triggersMet w₂ ⟨evaluated, only, verdict, soundTriggers⟩
    have sound : ¬ TriggerFails deployment w step :=
      fun failing => soundTriggers (inputs.triggerFails.mpr failing)
    rw [Program.wp_ite]
    constructor
    · rintro ⟨gates, met⟩
      have eligible : Eligible deployment w step :=
        inputs.eligible.mp ⟨gates, verdict.mp met⟩
      refine advanceEligible_advanced opts found unfinished (provisioned.trans evaluated)
        (only.steps.trans steps₁) eligible (fun pending => ?_) sound
      rw [untouched pending] at only
      exact only
    · intro ineligible
      have notEligible : ¬ Eligible deployment w step := by
        intro eligible
        have eligible₁ := inputs.eligible.mpr eligible
        exact ineligible ⟨eligible₁.gates, verdict.mpr eligible₁.triggers⟩
      refine ⟨.waiting step found unfinished (fun eligible => absurd eligible notEligible)
        (provisioned.trans evaluated) (only.steps.trans steps₁), ?_⟩
      rintro (trigger | ⟨_, spawns, _⟩ | ⟨runs, _⟩)
      · exact sound trigger
      · exact notEligible spawns.eligible
      · exact notEligible runs.eligible
  · rintro _ w₂ ⟨raised, failing⟩
    exact ⟨provisioned.log.trans raised, .inr (.inl (inputs.triggerFails.mp failing))⟩

end CoreApi.Automation
