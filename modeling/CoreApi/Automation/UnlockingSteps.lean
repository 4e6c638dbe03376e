import CoreApi.Automation.EditFrames

/-!
# Unlocking steps is a sequence of edits

Every function that `attemptAdvance` and `enableNextSteps` use to unlock a step,
from provisioning to the loop over the next steps, as `Edits`.
-/

namespace CoreApi.Automation

open CoreApi.Foundation StepOrchestrator ChildProcessOrchestration

variable {deployment : Deployment} {origin : World} {processInstanceId target : Nat}

/-! ## Provisioning -/

namespace ConfigObjectStepExecutor

private theorem failObject_provisioned (row : StepObjectInstance) (message : String) (w : World) :
    Program.wp (failObject row.stepObjectInstanceId message)
      (fun _ w' => Provisioned row w w') (fun _ _ => False) w :=
  ⟨failedObject message w.now, fun _ => rfl, w.db.customInstances, [],
    ⟨fun _ => rfl, fun _ => rfl, fun _ => rfl, fun _ => rfl, fun _ => .inl rfl⟩,
    by simp [QuietEvents], .inl rfl, by rw [List.append_nil]; rfl⟩

private theorem activateObject_provisioned (proc : ProcessInstance) (stepInstanceId : Nat)
    (row : StepObjectInstance) (correlationId : Option String) (w : World) :
    Program.wp (activateObject proc stepInstanceId row correlationId)
      (fun _ w' => Provisioned row w w') (fun _ w' => w' = w) w := by
  unfold activateObject createStandaloneInstance
  rw [Program.wp_bind, Program.wp_bind, Program.wp_read]
  split
  · rfl
  · rw [Program.wp_ite]
    refine ⟨fun _ => rfl, fun _ => ?_⟩
    refine ⟨activeObject w.db.customInstances.autoIncrement w.now, fun _ => rfl, _,
      [objectCreatedEvent proc stepInstanceId row w.db.customInstances.autoIncrement
        correlationId],
      ⟨fun _ => rfl, fun _ => rfl, fun _ => rfl, fun _ => rfl, fun _ => .inr rfl⟩,
      ?_, .inr ⟨_, rfl⟩, rfl⟩
    intro event member processInstanceId
    rw [List.mem_singleton.mp member]
    simp [DomainEvent.announces, objectCreatedEvent]

/-- One iteration of the loop provisions its row, one way or the other. -/
theorem provisionRow_provisioned (proc : ProcessInstance) (stepInstanceId : Nat)
    (correlationId : Option String) (entry : StepObjectBindingRow) (w : World) :
    Program.wp (provisionRow proc stepInstanceId correlationId entry)
      (fun _ w' => Provisioned entry.row w w') (fun _ _ => False) w := by
  unfold provisionRow
  rw [Program.wp_ite]
  constructor
  · intro _
    exact failObject_provisioned entry.row _ w
  · intro _
    rw [Program.wp_attempt]
    refine Program.wp_mono (activateObject_provisioned proc stepInstanceId entry.row
      correlationId w) (fun _ _ done => done) ?_
    rintro message _ rfl
    exact failObject_provisioned entry.row _ _

theorem mem_loadBindingRows {db : Database} {stepInstanceId : Nat} {entry : StepObjectBindingRow}
    (member : entry ∈ loadBindingRows db stepInstanceId) :
    entry.row ∈ db.objectInstances.rows ∧ entry.row.stepInstanceId = stepInstanceId := by
  rw [loadBindingRows, List.mem_insertionSort, mem_orderBy] at member
  obtain ⟨row, rowMember, eq⟩ := List.mem_filterMap.mp member
  obtain ⟨_, _, rfl⟩ := Option.map_eq_some_iff.mp eq
  have selected := Table.mem_select.mp rowMember
  exact ⟨selected.1, by simpa using selected.2⟩

theorem loadBindingRows_distinct (db : Database) (stepInstanceId : Nat) :
    (loadBindingRows db stepInstanceId).Pairwise fun a b =>
      a.row.stepObjectInstanceId ≠ b.row.stepObjectInstanceId := by
  have symmetric : ∀ {a b : StepObjectBindingRow},
      a.row.stepObjectInstanceId ≠ b.row.stepObjectInstanceId →
        b.row.stepObjectInstanceId ≠ a.row.stepObjectInstanceId := fun h => h.symm
  unfold loadBindingRows orderBy
  refine List.Perm.pairwise ((List.perm_insertionSort _ _).trans (List.perm_insertionSort _ _)).symm
    ?_ symmetric
  refine List.Pairwise.filterMap _ ?_
    ((List.pairwise_map.mp db.objectInstances.distinct).filter _)
  intro a a' different b eq b' eq'
  obtain ⟨_, _, rfl⟩ := Option.map_eq_some_iff.mp eq
  obtain ⟨_, _, rfl⟩ := Option.map_eq_some_iff.mp eq'
  exact different

end ConfigObjectStepExecutor

theorem Provisioned.others {row other : StepObjectInstance} {before after : World}
    (writes : Provisioned row before after) (member : other ∈ before.db.objectInstances.rows)
    (different : other.stepObjectInstanceId ≠ row.stepObjectInstanceId) :
    other ∈ after.db.objectInstances.rows := by
  obtain ⟨set, keeps, _, _, _, _, _, rfl⟩ := writes
  exact (mem_setObjectInstance keeps).mpr (.inr ⟨member, different⟩)

variable (origin target) in
/-- Provisioning the bindings of a ready step never raises. -/
theorem provisionBindings_edits (step : StepInstance) (correlationId : Option String) {w : World}
    (member : step ∈ w.db.steps.rows) (ofProcess : step.processInstanceId = processInstanceId)
    (ready : step.status = .ready) :
    Program.wp (ConfigObjectStepExecutor.provisionBindingsOnStepReady deployment
        step.stepInstanceId correlationId)
      (fun _ w' => Edits deployment origin processInstanceId target w w' ∧
        OnlyObjects deployment w w')
      (fun _ _ => False) w := by
  unfold ConfigObjectStepExecutor.provisionBindingsOnStepReady
  rw [Program.wp_ite]
  refine ⟨fun _ => ⟨.refl, .refl w⟩, fun _ => ?_⟩
  rw [Program.wp_bind, Program.wp_read]
  split
  · exact ⟨.refl, .refl w⟩
  rename_i proc _
  rw [Program.wp_bind, Program.wp_read]
  -- Each row still to come is the pending row it was when the list was read.
  let inv := fun (rest : List ConfigObjectStepExecutor.StepObjectBindingRow) (t : World) =>
    Edits deployment origin processInstanceId target w t ∧ OnlyObjects deployment w t ∧
      (∀ entry ∈ rest, entry.row ∈ t.db.objectInstances.rows ∧
        entry.row.stepInstanceId = step.stepInstanceId ∧ entry.row.status = .pending) ∧
      rest.Pairwise fun a b => a.row.stepObjectInstanceId ≠ b.row.stepObjectInstanceId
  refine Program.wp_mono (Program.wp_forEach inv _ w ?_ ?_) (fun _ _ done => ⟨done.1, done.2.1⟩)
    (fun _ _ never => never)
  · refine ⟨.refl, .refl w, ?_, ?_⟩
    · intro entry entryMember
      obtain ⟨loaded, pending⟩ := List.mem_filter.mp entryMember
      obtain ⟨rowMember, ofStep⟩ := ConfigObjectStepExecutor.mem_loadBindingRows loaded
      refine ⟨rowMember, ofStep, ?_⟩
      simp only [ConfigObjectStepExecutor.isPendingCreateOnEnter, Bool.and_eq_true, beq_iff_eq]
        at pending
      exact pending.1
    · exact (ConfigObjectStepExecutor.loadBindingRows_distinct w.db step.stepInstanceId).filter _
  · rintro entry rest t ⟨edits, only, rows, distinct⟩
    obtain ⟨rowMember, ofStep, pending⟩ := rows entry List.mem_cons_self
    refine Program.wp_mono (ConfigObjectStepExecutor.provisionRow_provisioned proc
      step.stepInstanceId correlationId entry t) ?_ (fun _ _ never => never)
    intro _ u writes
    have stepMember : step ∈ t.db.steps.rows := by
      obtain ⟨_, _, _, rfl⟩ := only.shape
      exact member
    refine ⟨edits.tail (.provisioned entry.row step rowMember pending stepMember ofStep ofProcess
      ready writes), only.trans (writes.onlyObjects rowMember pending), ?_,
      (List.pairwise_cons.mp distinct).2⟩
    intro other otherMember
    obtain ⟨otherRow, otherStep, otherPending⟩ := rows other (List.mem_cons_of_mem _ otherMember)
    have different := (List.pairwise_cons.mp distinct).1 other otherMember
    exact ⟨writes.others otherRow (Ne.symm different), otherStep, otherPending⟩

variable (target) in
/-- `attemptAdvance` provisions a ready step, and no other, before it evaluates anything. -/
theorem provisionReady_edits (step : StepInstance) (correlationId : Option String) {w : World}
    (member : step ∈ w.db.steps.rows) :
    Program.wp (Program.when (step.status = .ready) <|
      ConfigObjectStepExecutor.provisionBindingsOnStepReady deployment step.stepInstanceId
        correlationId)
      (fun _ w' => Edits deployment w step.processInstanceId target w w' ∧
        OnlyObjects deployment w w' ∧ (step.status = .pending → w' = w))
      (fun _ _ => False) w := by
  rw [Program.wp_when]
  refine ⟨fun ready => ?_, fun _ => ⟨.refl, .refl w, fun _ => rfl⟩⟩
  refine Program.wp_mono (provisionBindings_edits w target step correlationId member rfl ready) ?_
    (fun _ _ never => never)
  rintro _ w' ⟨edits, objects⟩
  refine ⟨edits, objects, fun pending => ?_⟩
  rw [ready] at pending
  cases pending

/-! ## Triggers -/

variable (deployment origin target) in
/-- The evaluation of the triggers of a step, one after the other. -/
private theorem evaluateAll_edits {step : StepInstance} (context : TriggerContext)
    (triggers : List StepTrigger) :
    ∀ w : World, step ∈ w.db.steps.rows → step.processInstanceId = processInstanceId →
      (∀ trigger ∈ triggers, trigger ∈ w.db.triggers.rows ∧
        trigger.stepInstanceId = step.stepInstanceId) →
      (triggers.Pairwise fun a b => a.triggerInstanceId ≠ b.triggerInstanceId) →
      Program.wp (evaluateAll deployment context triggers)
        (fun met w' => Edits deployment origin processInstanceId target w w' ∧
          OnlyTriggers w w' ∧
          (met = true ↔ ∀ trigger ∈ triggers,
            TriggerEngine.verdict deployment trigger.jsonSchema context = .ok true) ∧
          ∀ trigger ∈ triggers, ∀ message,
            TriggerEngine.verdict deployment trigger.jsonSchema context ≠ .error message)
        (fun _ w' => QuietLog w w' ∧ ∃ trigger ∈ triggers, ∃ message,
          TriggerEngine.verdict deployment trigger.jsonSchema context = .error message) w := by
  induction triggers with
  | nil => exact fun w _ _ _ _ => ⟨.refl, .refl w, by simp, by simp⟩
  | cons trigger rest ih =>
      intro w member ofProcess rows distinct
      obtain ⟨triggerMember, ofStep⟩ := rows trigger List.mem_cons_self
      obtain ⟨others, distinctRest⟩ := List.pairwise_cons.mp distinct
      unfold evaluateAll
      rw [Program.wp_bind]
      unfold evaluateTrigger
      rw [Program.wp_bind]
      refine Program.wp_mono (TriggerEngine.evaluate_effect deployment trigger.jsonSchema
        context w) ?_ ?_
      · rintro met _ ⟨verdict, events, jobs, rfl, quiet, own⟩
        simp only [now, writeDb, Program.wp_bind, Program.wp_read, Program.wp_write,
          Program.wp_pure]
        have edit : Edit deployment origin processInstanceId target w _ :=
          .evaluated trigger step met events jobs triggerMember member ofStep ofProcess quiet
            ⟨context, own⟩ ⟨context, verdict⟩
        refine Program.wp_mono (ih _ member ofProcess ?_ distinctRest) ?_ ?_
        · intro other otherMember
          obtain ⟨otherRow, otherStep⟩ := rows other (List.mem_cons_of_mem _ otherMember)
          exact ⟨(mem_setTrigger (evaluatedTrigger_key met w.now)).mpr
            (.inr ⟨otherRow, (others other otherMember).symm⟩), otherStep⟩
        · rintro others w' ⟨edits, only, met, sound⟩
          refine ⟨.head edit edits, (OnlyTriggers.evaluated trigger _ events jobs w).trans only,
            ?_, ?_⟩
          · rw [Bool.and_eq_true, met, List.forall_mem_cons, verdict, Except.ok.injEq]
          · rw [List.forall_mem_cons]
            exact ⟨fun message => by simp [verdict], sound⟩
        · rintro _ w' ⟨raised, failing, failingMember, failure⟩
          exact ⟨edit.log.trans raised, failing, List.mem_cons_of_mem _ failingMember, failure⟩
      · rintro message _ ⟨verdict, rfl⟩
        exact ⟨.refl _, trigger, List.mem_cons_self, message, verdict⟩

variable (origin target) in
/-- `evaluateTriggers` writes triggers, events and jobs only, and returns whether
every verdict is met. -/
theorem evaluateTriggers_edits {step : StepInstance} {w : World}
    (member : step ∈ w.db.steps.rows) (ofProcess : step.processInstanceId = processInstanceId) :
    Program.wp (evaluateTriggers deployment step.processInstanceId step.stepInstanceId)
      (fun met w' => Edits deployment origin processInstanceId target w w' ∧ OnlyTriggers w w' ∧
        (met = true ↔ TriggersHold deployment w step) ∧ ¬ TriggerFails deployment w step)
      (fun _ w' => QuietLog w w' ∧ TriggerFails deployment w step) w := by
  unfold evaluateTriggers
  rw [Program.wp_bind, Program.wp_read, Program.wp_bind, Program.wp_read]
  have all := evaluateAll_edits deployment origin target
    (buildContext w.db step.processInstanceId step.stepInstanceId w.now)
    (w.db.triggersOf step.stepInstanceId) w member ofProcess ?_ ?_
  · refine Program.wp_mono all ?_ ?_
    · rintro met w' ⟨edits, only, holds, sound⟩
      refine ⟨edits, only, holds.trans ?_, ?_⟩
      · simp [TriggersHold, Database.schemasOf, triggerVerdict]
      · rintro ⟨schema, schemaMember, message, failure⟩
        obtain ⟨trigger, triggerMember, rfl⟩ := List.mem_map.mp schemaMember
        exact sound trigger triggerMember message failure
    · rintro _ w' ⟨raised, trigger, triggerMember, message, failure⟩
      exact ⟨raised, trigger.jsonSchema, List.mem_map_of_mem triggerMember, message, failure⟩
  · intro trigger triggerMember
    have selected := Table.mem_select.mp triggerMember
    exact ⟨selected.1, by simpa using selected.2⟩
  · exact (List.pairwise_map.mp w.db.triggers.distinct).filter _

/-! ## Unlocking one step -/

/-- What unlocking a step leaves: the other steps, and the step under a new status. -/
structure Unlocked (step : StepInstance) (before after : Database) : Prop where
  others : ∀ row ∈ before.steps.rows, row.stepInstanceId ≠ step.stepInstanceId →
    row ∈ after.steps.rows
  self : ∃ row ∈ after.steps.rows, SameStep step row ∧
    (row.status = .ready ∨ row.status = .blocked ∧ step.taskType = .callProcess)

theorem unlocked_setStep {step : StepInstance} {status : StepStatus}
    {set : StepInstance → StepInstance} (sets : SetsStatus status set) {before after : Database}
    (steps : after.steps = (before.setStep step.stepInstanceId set sets.key).steps)
    (member : step ∈ before.steps.rows)
    (outcome : status = .ready ∨ status = .blocked ∧ step.taskType = .callProcess) :
    Unlocked step before after := by
  constructor
  · intro row rowMember different
    rw [steps]
    exact (mem_setStep sets.key).mpr (.inr ⟨rowMember, different⟩)
  · refine ⟨set step, ?_, sets.sameStep step, ?_⟩
    · rw [steps]
      exact (mem_setStep sets.key).mpr (.inl ⟨step, member, rfl, rfl⟩)
    · rw [sets.status]
      exact outcome

theorem makeReady_edits {step : StepInstance} (eventName : String) (opts : AdvanceOptions)
    {w : World} (member : step ∈ w.db.steps.rows)
    (ofProcess : step.processInstanceId = processInstanceId) (pending : step.status = .pending)
    (may : MayUnlock deployment origin target w step) :
    Program.wp (makeReady deployment eventName step opts)
      (fun _ w' => Edits deployment origin processInstanceId target w w' ∧
        Unlocked step w.db w'.db)
      (fun _ w' => QuietLog w w' ∧ HostMissing w.db step.processInstanceId) w := by
  unfold makeReady setState
  simp only [now, writeDb, Program.wp_bind, Program.wp_read, Program.wp_write]
  have sets := setsStatus_stepInState .ready
    { StateTimes.none with readyAt := some w.now } w.now
  have readyRow : stepInState .ready { StateTimes.none with readyAt := some w.now } w.now step ∈
      (w.db.setStep step.stepInstanceId
        (stepInState .ready { StateTimes.none with readyAt := some w.now } w.now)
        sets.key).steps.rows :=
    (mem_setStep sets.key).mpr (.inl ⟨step, member, rfl, rfl⟩)
  refine Program.wp_mono (dispatchStepStateChanged_hosted step .ready opts _) ?_ ?_
  · rintro _ w₁ ⟨host, report⟩
    have readied : Edit deployment origin processInstanceId target w w₁ :=
      .readied step _ sets member ofProcess pending may host report
    obtain ⟨_, _, _, _, tables⟩ := host.tables
    have provision : Program.wp
        (ConfigObjectStepExecutor.provisionBindingsOnStepReady deployment step.stepInstanceId
          opts.correlationId)
        (fun _ w' => Edits deployment origin processInstanceId target w₁ w' ∧
          OnlyObjects deployment w₁ w')
        (fun _ _ => False) w₁ := by
      refine provisionBindings_edits origin target (stepInState .ready
        { StateTimes.none with readyAt := some w.now } w.now step) opts.correlationId ?_
        ofProcess rfl
      rw [tables]
      exact readyRow
    refine Program.wp_mono provision ?_ (fun _ _ never => never.elim)
    rintro _ w₂ ⟨provisioned, only⟩
    have announced := Hosted.of_event (w := w₂) (stepEvent_quiet eventName step "event" opts)
    refine ⟨(Relation.ReflTransGen.single readied).trans
      (provisioned.tail (.hosted announced ⟨rfl, rfl, rfl, rfl⟩)), ?_⟩
    obtain ⟨_, _, _, rfl⟩ := only.shape
    refine unlocked_setStep sets ?_ member (.inl rfl)
    simp [tables]
  · rintro _ _ ⟨rfl, missing⟩
    exact ⟨.of_eq rfl rfl, missing⟩

/-- Spawning the child of a pending `call_process` step; it raises where `SpawnFails`. -/
theorem spawnChild_edits {step : StepInstance} (opts : AdvanceOptions) {w : World}
    (member : step ∈ w.db.steps.rows) (ofProcess : step.processInstanceId = processInstanceId)
    (pending : step.status = .pending) (may : MayUnlock deployment origin target w step)
    (enabled : isEnabled deployment = true)
    (calls : step.taskType = .callProcess) :
    Program.wp (spawnChildAndBlockParent deployment step opts)
      (fun _ w' => Edits deployment origin processInstanceId target w w' ∧
        Unlocked step w.db w'.db ∧ ¬ SpawnFails deployment w.db step)
      (fun _ w' => QuietLog w w' ∧ SpawnFails deployment w.db step) w := by
  unfold spawnChildAndBlockParent
  rw [if_neg (by simp [enabled, calls]), Program.wp_bind, Program.wp_read]
  split
  · rename_i existing found
    have sets := setsStatus_blocked w.now
    have blocked : Edit deployment origin processInstanceId target w _ :=
      .blocked step _ sets member ofProcess pending calls (by simp [found]) may
        enabled
    have hasChild : ¬ SpawnFails deployment w.db step := by
      rintro ⟨childless, _⟩
      rw [found] at childless
      cases childless
    simp only [Program.wp_bind, Program.wp_when, blockParentStep, now,
      writeDb, Program.wp_read, Program.wp_write, Program.wp_pure]
    refine ⟨fun _ => ⟨.single blocked, unlocked_setStep sets rfl member (.inr ⟨rfl, calls⟩), hasChild⟩, ?_⟩
    intro alreadyBlocked
    simp [pending] at alreadyBlocked
  · rename_i childless
    rw [Program.wp_bind, Program.wp_read, Program.wp_bind]
    cases resolved : resolveChildStart w.db step opts with
    | error message =>
        refine ⟨.refl w, childless, fun parent params resolved' => ?_⟩
        rw [resolveChildStart_error resolved] at resolved'
        cases resolved'
    | ok start =>
        obtain ⟨parent, params⟩ := start
        obtain ⟨params', resolved', sameSubject⟩ := resolveChildStart_subject resolved
        rw [Program.wp_lift_ok, Program.wp_bind]
        refine Program.wp_mono (Program.wp_and
          (ProcessLifecycle.startProcessIn_started deployment params w)
          (ProcessLifecycle.startProcessIn_reported deployment params w)) ?_ ?_
        · rintro child w₁ ⟨⟨⟨row, started, _⟩, accepted, isAccepted⟩, _, _, reported⟩
          have silent := reported.skipped (childOf_of_resolveChildStart resolved).skipHost
          have sets := setsStatus_blocked w₁.now
          have spawned : Edit deployment origin processInstanceId target w _ :=
            .spawned step _ sets parent params row member ofProcess pending calls childless
              ⟨opts, resolved⟩ started may silent enabled
          have unlocked : Unlocked step w₁.db
              (w₁.db.setStep step.stepInstanceId (blocked w₁.now)
                sets.key) :=
            unlocked_setStep sets rfl (started.step_kept member) (.inr ⟨rfl, calls⟩)
          have startable : ¬ SpawnFails deployment w.db step := by
            rintro ⟨_, refused⟩
            obtain ⟨message, isError⟩ := refused parent params' resolved'
            rw [sameSubject, isAccepted] at isError
            cases isError
          simp only [Program.wp_bind, blockParentStep, now, writeDb,
            emit, Program.wp_read, Program.wp_write, Program.wp_pure]
          refine ⟨(Relation.ReflTransGen.single spawned).tail (.hosted (.of_event fun _ => by
            simp [DomainEvent.announces, childStartedEvent]) ⟨rfl, rfl, rfl, rfl⟩), ?_,
            startable⟩
          exact ⟨fun other otherMember => unlocked.others other (started.step_kept otherMember),
            unlocked.self⟩
        · rintro _ w' ⟨⟨⟨quiet, _⟩, tells | ⟨message, isError⟩⟩, _⟩
          · rw [(childOf_of_resolveChildStart resolved).skipHost] at tells
            cases tells
          · refine ⟨quiet, childless, fun parent' params'' resolved'' => ⟨message, ?_⟩⟩
            rw [resolved'] at resolved''
            cases resolved''
            rw [sameSubject]
            exact isError

/-- What `attemptAdvance` and `enableNextSteps` do with an eligible pending step. -/
theorem unlock_edits {step : StepInstance} (eventName : String) (opts : AdvanceOptions)
    {w : World} (member : step ∈ w.db.steps.rows)
    (ofProcess : step.processInstanceId = processInstanceId) (pending : step.status = .pending)
    (may : MayUnlock deployment origin target w step) :
    Program.wp (unlock deployment eventName step opts)
      (fun _ w' => Edits deployment origin processInstanceId target w w' ∧
        Unlocked step w.db w'.db ∧
        ¬ (Spawns deployment w step ∧ SpawnFails deployment w.db step))
      (fun _ w' => QuietLog w w' ∧ (HostMissing w.db step.processInstanceId ∨
        Spawns deployment w step ∧ SpawnFails deployment w.db step)) w := by
  unfold unlock
  rw [Program.wp_ite]
  constructor
  · rintro ⟨enabled, calls⟩
    rw [Program.wp_bind]
    refine Program.wp_mono (spawnChild_edits opts member ofProcess pending may enabled calls) ?_ ?_
    · rintro _ _ ⟨edits, unlocked, startable⟩
      exact ⟨edits, unlocked, fun fails => startable fails.2⟩
    · rintro _ _ ⟨quiet, fails⟩
      exact ⟨quiet, .inr ⟨⟨may.eligible, enabled, calls⟩, fails⟩⟩
  · intro notCalls
    refine Program.wp_mono (makeReady_edits eventName opts member ofProcess pending may) ?_ ?_
    · rintro _ _ ⟨edits, unlocked⟩
      exact ⟨edits, unlocked, fun fails => notCalls ⟨fails.1.enabled, fails.1.calls⟩⟩
    · rintro _ _ ⟨quiet, missing⟩
      exact ⟨quiet, .inl missing⟩

/-! ## The next steps -/

variable (origin target) in
/-- One iteration of `enableNextSteps` unlocks its step where it is eligible,
touches no other, and raises where an attempt to unlock it fails. -/
theorem enableNextStep_edits {step : StepInstance} (opts : AdvanceOptions) {w : World}
    (member : step ∈ w.db.steps.rows) (ofProcess : step.processInstanceId = processInstanceId)
    (pending : step.status = .pending) (succeeds : Succeeds w.db target step) :
    Program.wp (enableNextStep deployment opts step)
      (fun _ w' => Edits deployment origin processInstanceId target w w' ∧
        (∀ row ∈ w.db.steps.rows, row.stepInstanceId ≠ step.stepInstanceId →
          row ∈ w'.db.steps.rows) ∧
        (Eligible deployment w step → ∃ row ∈ w'.db.steps.rows,
          row.stepInstanceId = step.stepInstanceId ∧ row.status ≠ .pending) ∧
        ¬ UnlockFails deployment w step)
      (fun _ w' => QuietLog w w' ∧
        (HostMissing w.db step.processInstanceId ∨ UnlockFails deployment w step)) w := by
  unfold enableNextStep
  rw [Program.wp_bind, Program.wp_read, Program.wp_bind]
  refine Program.wp_mono (evaluateTriggers_edits origin target member ofProcess) ?_ ?_
  · rintro okTrig w₁ ⟨evaluated, only, holds, sound⟩
    have inputs := only.sameInputs deployment step
    have child : findChildProcessInstanceId w₁.db step.stepInstanceId =
        findChildProcessInstanceId w.db step.stepInstanceId := by
      obtain ⟨_, _, _, rfl⟩ := only.shape
      rfl
    have steps := only.steps
    rw [Program.wp_when]
    constructor
    · rintro ⟨gates, met⟩
      have eligible : Eligible deployment w step := ⟨gates, holds.mp met⟩
      have may : MayUnlock deployment origin target w₁ step :=
        ⟨inputs.eligible.mpr eligible, .inr (by rw [Succeeds, steps]; exact succeeds)⟩
      have fails : UnlockFails deployment w step ↔ Spawns deployment w₁ step ∧
          SpawnFails deployment w₁.db step := by
        rw [← inputs.unlockFails child]
        exact or_iff_right fun triggerFails => sound (inputs.triggerFails.mp triggerFails)
      refine Program.wp_mono (unlock_edits _ opts (steps ▸ member) ofProcess pending may) ?_ ?_
      · rintro _ w₂ ⟨unlocked, kept, startable⟩
        refine ⟨evaluated.trans unlocked,
          fun row rowMember => kept.others row (steps ▸ rowMember), fun _ => ?_,
          fun failing => startable (fails.mp failing)⟩
        obtain ⟨row, rowMember, same, outcome⟩ := kept.self
        refine ⟨row, rowMember, same.key, ?_⟩
        rcases outcome with ready | ⟨blocked, _⟩
        · simp [ready]
        · simp [blocked]
      · rintro _ w₂ ⟨raised, reason⟩
        exact ⟨evaluated.log.trans raised, reason.imp inputs.hostMissing.mp fails.mpr⟩
    · intro ineligible
      refine ⟨evaluated, fun row rowMember _ => steps ▸ rowMember,
        fun eligible => absurd ⟨eligible.gates, holds.mpr eligible.triggers⟩ ineligible, ?_⟩
      rintro (triggerFails | ⟨spawns, _⟩)
      · exact sound triggerFails
      · exact ineligible ⟨spawns.eligible.gates, holds.mpr spawns.eligible.triggers⟩
  · rintro _ _ ⟨quiet, triggerFails⟩
    exact ⟨quiet, .inr (.inl triggerFails)⟩

/-- The rows `enableNextSteps` selects. -/
theorem mem_nextSteps {db : Database} {process : Nat} {currentOrder : Int} {step : StepInstance} :
    step ∈ nextSteps db process currentOrder ↔ step ∈ db.steps.rows ∧
      step.processInstanceId = process ∧ step.stepOrder = currentOrder + 1 ∧
      step.status = .pending := by
  simp [nextSteps, Database.stepsOf, Table.mem_select, and_assoc]

theorem Edits.nextSteps {before after : World}
    (edits : Edits deployment origin processInstanceId target before after) {currentOrder : Int}
    {step : StepInstance} (selected : step ∈ nextSteps after.db processInstanceId currentOrder) :
    step ∈ nextSteps before.db processInstanceId currentOrder := by
  obtain ⟨member, ofProcess, order, pending⟩ := mem_nextSteps.mp selected
  rcases edits.preimage member with kept | ⟨_, _, moved⟩ | ⟨foreign, _⟩
  · exact mem_nextSteps.mpr ⟨kept, ofProcess, order, pending⟩
  · have outcome := moved.status
    simp [pending] at outcome
  · exact absurd ofProcess foreign.1

/-- Unlocking one of the next steps raises. -/
def NextFails (deployment : Deployment) (w : World) (processInstanceId : Nat)
    (currentOrder : Int) : Prop :=
  ∃ next ∈ nextSteps w.db processInstanceId currentOrder, UnlockFails deployment w next

instance (deployment : Deployment) (w : World) (processInstanceId : Nat) (currentOrder : Int) :
    Decidable (NextFails deployment w processInstanceId currentOrder) :=
  inferInstanceAs (Decidable (∃ next ∈ nextSteps w.db processInstanceId currentOrder, _))

variable (origin target) in
/-- `enableNextSteps` after a completed step leaves no eligible next step, and
raises where an attempt to unlock one of them fails. -/
theorem enableNextSteps_edits {pred : StepInstance} (opts : AdvanceOptions) {w : World}
    (member : pred ∈ w.db.steps.rows) (isTarget : pred.stepInstanceId = target)
    (ofProcess : pred.processInstanceId = processInstanceId)
    (completed : pred.status = .completed) :
    Program.wp (enableNextSteps deployment pred.processInstanceId pred.stepOrder opts)
      (fun _ w' => Edits deployment origin processInstanceId target w w' ∧
        (∀ next ∈ nextSteps w'.db pred.processInstanceId pred.stepOrder,
          ¬ Eligible deployment w next) ∧
        ¬ NextFails deployment w pred.processInstanceId pred.stepOrder)
      (fun _ w' => QuietLog w w' ∧ (HostMissing w.db pred.processInstanceId ∨
        NextFails deployment w pred.processInstanceId pred.stepOrder)) w := by
  unfold enableNextSteps
  rw [Program.wp_bind, Program.wp_read]
  have fresh : (nextSteps w.db pred.processInstanceId pred.stepOrder).Pairwise fun a b =>
      a.stepInstanceId ≠ b.stepInstanceId :=
    ((List.pairwise_map.mp w.db.steps.distinct).filter _).filter _
  -- Each iteration leaves the rows of the other steps, so what it unlocked stays
  -- unlocked, and each step still to come stays the row it was.
  have loop : ∀ (rest : List StepInstance) (t : World),
      Edits deployment origin processInstanceId target w t → pred ∈ t.db.steps.rows →
      (∀ step ∈ rest, step ∈ nextSteps w.db pred.processInstanceId pred.stepOrder ∧
        step ∈ t.db.steps.rows) →
      (rest.Pairwise fun a b => a.stepInstanceId ≠ b.stepInstanceId) →
      Program.wp (Program.forEach (enableNextStep deployment opts) rest)
        (fun _ u => Edits deployment origin processInstanceId target w u ∧
          (∀ row ∈ t.db.steps.rows, (∀ next ∈ rest, row.stepInstanceId ≠ next.stepInstanceId) →
            row ∈ u.db.steps.rows) ∧
          (∀ next ∈ rest, Eligible deployment w next → next ∉ u.db.steps.rows) ∧
          ∀ next ∈ rest, ¬ UnlockFails deployment w next)
        (fun _ u => QuietLog w u ∧ (HostMissing w.db pred.processInstanceId ∨
          ∃ next ∈ rest, UnlockFails deployment w next)) t := by
    intro rest
    induction rest with
    | nil => exact fun t edits _ _ _ => ⟨edits, fun _ member _ => member, by simp, by simp⟩
    | cons step rest ih =>
        intro t edits predMember rows distinct
        obtain ⟨selected, stepMember⟩ := rows step List.mem_cons_self
        obtain ⟨origMember, same, order, pending⟩ := mem_nextSteps.mp selected
        obtain ⟨others, distinctRest⟩ := List.pairwise_cons.mp distinct
        have inputs := edits.sameInputs ⟨step, origMember, rfl⟩ (same.trans ofProcess)
        have fails := inputs.unlockFails
          (edits.findChild stepMember pending ⟨step, origMember, rfl⟩)
        have succeeds : Succeeds t.db target step :=
          ⟨pred, predMember, isTarget, same.symm, completed, order.symm⟩
        rw [Program.forEach, Program.wp_andThen]
        refine Program.wp_mono (enableNextStep_edits origin target opts stepMember
          (same.trans ofProcess) pending succeeds) ?_ ?_
        · rintro _ u ⟨unlocked, kept, leaves, startable⟩
          have different : pred.stepInstanceId ≠ step.stepInstanceId := by
            intro sameKey
            have sameRow : pred = step := Table.eq_of_key_eq predMember stepMember sameKey
            rw [sameRow, pending] at completed
            cases completed
          have restRows : ∀ other ∈ rest,
              other ∈ nextSteps w.db pred.processInstanceId pred.stepOrder ∧
                other ∈ u.db.steps.rows := by
            intro other otherMember
            obtain ⟨otherSelected, otherRow⟩ := rows other (List.mem_cons_of_mem _ otherMember)
            exact ⟨otherSelected, kept other otherRow (others other otherMember).symm⟩
          refine Program.wp_mono (ih u (edits.trans unlocked)
            (kept pred predMember different) restRows distinctRest) ?_ ?_
          · rintro _ v ⟨edits', keptRest, leavesRest, sound⟩
            refine ⟨edits', fun row rowMember apart => ?_,
              List.forall_mem_cons.mpr ⟨fun eligible stays => ?_, leavesRest⟩,
              List.forall_mem_cons.mpr ⟨fun failing => startable (fails.mpr failing), sound⟩⟩
            · obtain ⟨apartStep, apartRest⟩ := List.forall_mem_cons.mp apart
              exact keptRest row (kept row rowMember apartStep) apartRest
            · obtain ⟨row, rowMember, key, notPending⟩ := leaves (inputs.eligible.mpr eligible)
              have inEnd := keptRest row rowMember fun next nextMember => by
                rw [key]
                exact others next nextMember
              exact notPending (Table.eq_of_key_eq inEnd stays key ▸ pending)
          · rintro _ v ⟨quiet, reason⟩
            refine ⟨quiet, reason.imp_right ?_⟩
            rintro ⟨next, nextMember, failing⟩
            exact ⟨next, List.mem_cons_of_mem _ nextMember, failing⟩
        · rintro _ u ⟨quiet, reason⟩
          refine ⟨edits.log.trans quiet, reason.imp ?_ ?_⟩
          · rw [← same]
            exact inputs.hostMissing.mp
          · exact fun failing => ⟨step, List.mem_cons_self, fails.mp failing⟩
  refine Program.wp_mono (loop _ w .refl member
    (fun step selected => ⟨selected, (mem_nextSteps.mp selected).1⟩) fresh) ?_
    (fun _ _ raised => raised)
  rintro _ w' ⟨edits, _, leaves, sound⟩
  refine ⟨edits, fun next selected eligible => ?_, ?_⟩
  · have selectedBefore := Edits.nextSteps (ofProcess ▸ edits) selected
    exact leaves next selectedBefore eligible (mem_nextSteps.mp selected).1
  · rintro ⟨next, selected, failing⟩
    exact sound next selected failing

end CoreApi.Automation
