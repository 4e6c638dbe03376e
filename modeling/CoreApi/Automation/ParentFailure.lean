import CoreApi.Automation.CallWrites
import CoreApi.Automation.CompletionGate
import CoreApi.Automation.Resumption

/-!
# The failure of a nested process

Under the policy `fail_parent` a canceled child cancels its parent and the step
that waits for it. That the parent was canceled is reported to nobody: the next
level up keeps waiting.
-/

namespace CoreApi.Automation

open CoreApi.Foundation StepOrchestrator ChildProcessOrchestration

variable {deployment : Deployment}

/-! ## Older parents -/

/-- Every process was started after its parent. -/
def ParentsOlder (db : Database) : Prop :=
  ∀ row ∈ db.processInstances.rows, ∀ parentInstanceId,
    row.parentInstanceId = some parentInstanceId → parentInstanceId < row.processInstanceId

namespace ParentsOlder

theorem same {before after : Database} (older : ParentsOlder before)
    (instances : after.processInstances.rows = before.processInstances.rows) :
    ParentsOlder after := by
  intro row member
  rw [instances] at member
  exact older row member

theorem hostTables {before after : Database} (older : ParentsOlder before)
    (tables : HostTables before after) : ParentsOlder after := by
  obtain ⟨_, _, _, _, rfl⟩ := tables
  exact older.same rfl

theorem setInstance {db : Database} (older : ParentsOlder db) (processInstanceId : Nat)
    {next : InstanceStatus → InstanceStatus} {set : ProcessInstance → ProcessInstance}
    (sets : SetsInstance next set) :
    ParentsOlder (db.setInstance processInstanceId set sets.key) := by
  intro row member parentInstanceId isParent
  rcases (mem_setInstance sets.key).mp member with ⟨old, oldMember, _, rfl⟩ | ⟨untouched, _⟩
  · rw [sets.key]
    exact older old oldMember parentInstanceId ((sets.parentInstance old).symm.trans isParent)
  · exact older row untouched parentInstanceId isParent

theorem started {before after : World} {params : StartProcessParams} {row : ProcessInstance}
    (older : ParentsOlder before.db) (start : Started params row before after)
    (stored : ∀ parentInstanceId, params.parentInstanceId = some parentInstanceId →
      ∃ parent ∈ before.db.processInstances.rows,
        parent.processInstanceId = parentInstanceId) : ParentsOlder after.db := by
  intro other member parentInstanceId isParent
  rw [start.instances] at member
  rcases List.mem_append.mp member with old | new
  · exact older other old parentInstanceId isParent
  · rw [List.mem_singleton.mp new] at isParent ⊢
    obtain ⟨parent, parentMember, rfl⟩ :=
      stored parentInstanceId (start.fresh.parentInstance.symm.trans isParent)
    rw [start.fresh.key]
    exact (before.db.processInstances.bounded parent parentMember).2

theorem edit {origin before after : World} {process target : Nat}
    (older : ParentsOlder before.db)
    (edit : Edit deployment origin process target before after) : ParentsOlder after.db := by
  cases edit with
  | hosted host => exact older.hostTables host.tables
  | evaluated => exact older.same rfl
  | provisioned _ _ _ _ _ _ _ _ writes =>
      obtain ⟨_, _, _, _, _, _, _, rfl⟩ := writes
      exact older.same rfl
  | readied _ _ _ _ _ _ _ host =>
      refine hostTables (same older ?_) host.tables
      rfl
  | blocked => exact older.same rfl
  | spawned step _ _ parent _ _ _ _ _ _ _ resolved start =>
      obtain ⟨_, resolved⟩ := resolved
      have childOf := childOf_of_resolveChildStart resolved
      refine (older.started start fun parentInstanceId isParent => ?_).same rfl
      rw [childOf.parentInstance] at isParent
      cases isParent
      exact ⟨parent, Table.mem_of_find? childOf.isParent, Table.key_of_find? childOf.isParent⟩

theorem keptByWrites (origin : World) (call : Engine.Call) :
    Engine.KeptByWrites deployment (fun w => ParentsOlder w.db) origin call where
  rolledBack _ rolledBack _ older := by
    simp only [rolledBack]
    exact older.same rfl
  started _ start _ older := older.started start fun _ impossible => by cases impossible
  edit edit older := older.edit edit
  completed _ _ _ _ _ completes older := by
    obtain ⟨_, _, tables⟩ := completes.tables
    refine hostTables ?_ tables
    exact same older rfl
  settled settlement older := by
    have sets := setsInstance_completed
    cases settlement with
    | idle => exact older
    | child => exact setInstance older _ (sets _)
    | announced _ _ _ _ _ announced =>
        exact (setInstance older _ (sets _)).hostTables announced.tables
  told _ _ told older := by
    cases told with
    | paused context => exact setInstance older _ (setsInstance_context context)
    | failed context =>
        exact (setInstance (setInstance older _ (setsInstance_context context)) _
          (setsInstance_canceled origin.now)).same rfl
    | resumed context => exact (setInstance older _ (setsInstance_context context)).same rfl
  eligible _ older := setInstance older _ (setsInstance_completed origin.now)
  validated _ validated older := by
    obtain ⟨_, _, _, _, _, _, _, rfl⟩ := validated
    exact same older rfl
  evidence only _ older := by
    obtain ⟨_, _, _, _, _, rfl⟩ := only
    exact same older rfl
  marked {event} _ older := by
    obtain ⟨_, shape⟩ := origin.db.markTriggers_shape origin.now
      (EventBridge.metTriggers deployment event none origin)
    simp only [EventBridge.marked, shape]
    exact same older rfl

end ParentsOlder

theorem Engine.reachable_parentsOlder {state : Engine.State}
    (reachable : Engine.Reachable deployment state) : ParentsOlder state.world.db := by
  refine Engine.reachable_database ?_ (fun w call _ effect older =>
    effect.kept (ParentsOlder.keptByWrites w call) older) reachable
  intro state fresh row member
  rw [fresh.processInstances] at member
  cases member

/-! ## Canceled processes and steps -/

/-- The same processes and the same steps are canceled. -/
structure SameCanceled (before after : Database) : Prop where
  instances : ∀ processInstanceId,
    StatusIs after processInstanceId .canceled ↔ StatusIs before processInstanceId .canceled
  steps : ∀ stepInstanceId,
    StepIs after stepInstanceId .canceled ↔ StepIs before stepInstanceId .canceled

namespace SameCanceled

theorem of_rows {before after : Database}
    (instances : after.processInstances.rows = before.processInstances.rows)
    (steps : after.steps.rows = before.steps.rows) : SameCanceled before after := by
  constructor
  · intro _
    rw [StatusIs, instances, StatusIs]
  · intro _
    rw [StepIs, steps, StepIs]

theorem of_hosts {before after : Database} (tables : HostTables before after) :
    SameCanceled before after := by
  obtain ⟨_, _, _, _, rfl⟩ := tables
  exact .of_rows rfl rfl

theorem trans {a b c : Database} (first : SameCanceled a b) (second : SameCanceled b c) :
    SameCanceled a c :=
  ⟨fun key => (second.instances key).trans (first.instances key),
    fun key => (second.steps key).trans (first.steps key)⟩

/-- An update of a process under which a canceled one stays canceled, and no other
is canceled. -/
theorem setInstance (db : Database) (key : Nat) {next : InstanceStatus → InstanceStatus}
    {set : ProcessInstance → ProcessInstance} (sets : SetsInstance next set)
    (keeps : ∀ status, next status = .canceled ↔ status = .canceled) :
    SameCanceled db (db.setInstance key set sets.key) := by
  refine ⟨fun processInstanceId => ⟨?_, fun is => ?_⟩, fun _ => Iff.rfl⟩
  · rintro ⟨row, member, isKey, canceled⟩
    rcases (mem_setInstance sets.key).mp member with ⟨old, oldMember, _, rfl⟩ | ⟨untouched, _⟩
    · exact ⟨old, oldMember, (sets.key old).symm.trans isKey,
        (keeps _).mp ((sets.status old).symm.trans canceled)⟩
    · exact ⟨row, untouched, isKey, canceled⟩
  · have still := is.setInstance key sets
    rwa [(keeps _).mpr rfl, ite_self] at still

theorem completed (db : Database) (key : Nat) (time : String) :
    SameCanceled db (db.setInstance key (completedInstance time) (completedInstance_key time)) :=
  .setInstance db key (setsInstance_completed time) fun status => by cases status <;> decide

/-- A write of another status to a step that is not canceled. -/
theorem setStep {db : Database} {key : Nat} {status : StepStatus}
    {set : StepInstance → StepInstance} (sets : SetsStatus status set)
    (open' : ¬ StepIs db key .canceled) (other : status ≠ .canceled) :
    SameCanceled db (db.setStep key set sets.key) := by
  refine ⟨fun _ => Iff.rfl, fun stepInstanceId => ⟨?_, ?_⟩⟩
  · rintro ⟨step, member, isStep, canceled⟩
    rcases (mem_setStep sets.key).mp member with ⟨old, _, _, rfl⟩ | ⟨untouched, _⟩
    · exact absurd ((sets.status old).symm.trans canceled) other
    · exact ⟨step, untouched, isStep, canceled⟩
  · rintro ⟨step, member, isStep, canceled⟩
    refine ⟨step, (mem_setStep sets.key).mpr (.inr ⟨member, fun same => ?_⟩), isStep, canceled⟩
    exact open' ⟨step, member, same, canceled⟩

theorem started {before after : World} {params : StartProcessParams} {row : ProcessInstance}
    (start : Started params row before after) : SameCanceled before.db after.db := by
  refine ⟨fun _ => ⟨?_, fun is => is.kept fun _ member => start.instance_kept member⟩,
    fun _ => ⟨?_, ?_⟩⟩
  · rintro ⟨other, member, key, canceled⟩
    rw [start.instances] at member
    rcases List.mem_append.mp member with old | new
    · exact ⟨other, old, key, canceled⟩
    · rw [List.mem_singleton.mp new, start.fresh.active] at canceled
      cases canceled
  · rintro ⟨step, member, key, canceled⟩
    rw [start.steps] at member
    rcases List.mem_append.mp member with old | new
    · exact ⟨step, old, key, canceled⟩
    · rcases ProcessInstantiation.addedSteps_status new with ⟨status, _⟩ | ⟨status, _⟩ <;>
        rw [canceled] at status <;> cases status
  · rintro ⟨step, member, key, canceled⟩
    exact ⟨step, start.step_kept member, key, canceled⟩

theorem edit {origin before after : World} {process target : Nat}
    (edit : Edit deployment origin process target before after) :
    SameCanceled before.db after.db := by
  obtain ⟨added, instances, active⟩ := edit.instances
  refine ⟨fun _ => ⟨?_, fun is => is.kept fun row member => ?_⟩, fun _ => ⟨?_, ?_⟩⟩
  · rintro ⟨row, member, key, canceled⟩
    rw [instances] at member
    rcases List.mem_append.mp member with old | new
    · exact ⟨row, old, key, canceled⟩
    · rw [(active row new).1] at canceled
      cases canceled
  · rw [instances]
    exact List.mem_append_left _ member
  · rintro ⟨step, member, key, canceled⟩
    rcases edit.preimage member with kept | ⟨_, _, moved⟩ | ⟨_, status⟩
    · exact ⟨step, kept, key, canceled⟩
    · have status := moved.status
      simp [canceled] at status
    · simp [canceled] at status
  · rintro ⟨step, member, key, canceled⟩
    rcases edit.image member with kept | ⟨_, _, moved⟩
    · exact ⟨step, kept, key, canceled⟩
    · have pending := moved.pending
      rw [canceled] at pending
      cases pending

/-- Every call but the report of a child cancels nothing. -/
theorem keptByWrites {origin : World} {call : Engine.Call}
    (other : ∀ childProcessInstanceId terminalStatus opts,
      call ≠ .handleChildTerminal childProcessInstanceId terminalStatus opts) :
    Engine.KeptByWrites deployment (fun w => SameCanceled origin.db w.db) origin call where
  rolledBack _ rolledBack _ _ := by
    simp only [rolledBack]
    exact .of_rows rfl rfl
  started _ start _ _ := .started start
  edit edit same := same.trans (.edit edit)
  completed {step _ _} _ _ member begun _ completes same := by
    obtain ⟨_, sets, tables⟩ := completes.tables
    refine same.trans (SameCanceled.trans (.setStep sets ?_ (by decide)) (.of_hosts tables))
    rintro ⟨row, rowMember, key, canceled⟩
    rw [Table.eq_of_key_eq rowMember member key] at canceled
    simp [canceled] at begun
  settled settlement same := by
    cases settlement with
    | idle => exact same
    | child => exact same.trans (.completed _ _ _)
    | announced _ _ _ _ _ announced =>
        exact same.trans ((SameCanceled.completed _ _ _).trans (.of_hosts announced.tables))
  told isCall _ _ _ := absurd isCall (other _ _ _)
  eligible _ _ := .completed _ _ _
  validated _ validated _ := by
    obtain ⟨_, _, _, _, _, _, _, rfl⟩ := validated
    exact .of_rows rfl rfl
  evidence only _ _ := by
    obtain ⟨_, _, _, _, _, rfl⟩ := only
    exact .of_rows rfl rfl
  marked {event} _ _ := by
    obtain ⟨_, shape⟩ := origin.db.markTriggers_shape origin.now
      (EventBridge.metTriggers deployment event none origin)
    simp only [EventBridge.marked, shape]
    exact .of_rows rfl rfl

end SameCanceled

/-! ## Reports -/

theorem stepIs_setStep {db : Database} {key stepInstanceId : Nat} {status next : StepStatus}
    {set : StepInstance → StepInstance} (sets : SetsStatus next set)
    (stored : ∃ step ∈ db.steps.rows, step.stepInstanceId = key) :
    StepIs (db.setStep key set sets.key) stepInstanceId status ↔
      if stepInstanceId = key then next = status else StepIs db stepInstanceId status := by
  constructor
  · rintro ⟨step, member, isStep, is⟩
    rcases (mem_setStep sets.key).mp member with ⟨old, _, oldKey, rfl⟩ | ⟨untouched, different⟩
    · rw [if_pos (isStep.symm.trans ((sets.key old).trans oldKey))]
      exact (sets.status old).symm.trans is
    · rw [if_neg (isStep ▸ different)]
      exact ⟨step, untouched, isStep, is⟩
  · intro is
    split at is
    · rename_i same
      obtain ⟨step, member, isKey⟩ := stored
      exact ⟨set step, (mem_setStep sets.key).mpr (.inl ⟨step, member, isKey, rfl⟩),
        (sets.key step).trans (isKey.trans same.symm), (sets.status step).trans is⟩
    · rename_i different
      obtain ⟨step, member, isStep, is⟩ := is
      exact ⟨step, (mem_setStep sets.key).mpr (.inr ⟨member, isStep ▸ different⟩), isStep, is⟩

theorem statusIs_canceled {db : Database} {key processInstanceId : Nat} (time : String)
    (stored : ∃ row ∈ db.processInstances.rows, row.processInstanceId = key) :
    StatusIs (db.setInstance key (canceledInstance time) (fun _ => rfl)) processInstanceId
        .canceled ↔
      processInstanceId = key ∨ StatusIs db processInstanceId .canceled := by
  have sets := setsInstance_canceled time
  constructor
  · rintro ⟨row, member, isRow, is⟩
    rcases (mem_setInstance sets.key).mp member with ⟨old, _, oldKey, rfl⟩ | ⟨untouched, _⟩
    · exact .inl (isRow.symm.trans ((sets.key old).trans oldKey))
    · exact .inr ⟨row, untouched, isRow, is⟩
  · rintro (rfl | is)
    · obtain ⟨row, member, isKey⟩ := stored
      exact ⟨canceledInstance time row,
        (mem_setInstance sets.key).mpr (.inl ⟨row, member, isKey, rfl⟩), isKey, rfl⟩
    · have still := is.setInstance key sets
      rwa [ite_self] at still

section Told

variable {before after : World} {child parent : ProcessInstance} {parentStepId : Nat}
  {terminalStatus : TerminalStatus}

theorem ParentTold.instances
    (told : ParentTold before child parent parentStepId terminalStatus after)
    (stored : parent ∈ before.db.processInstances.rows) (processInstanceId : Nat) :
    StatusIs after.db processInstanceId .canceled ↔
      terminalOutcome terminalStatus parent.onChildFailure = .fail ∧
          processInstanceId = parent.processInstanceId ∨
        StatusIs before.db processInstanceId .canceled := by
  have merges := fun context => (SameCanceled.setInstance before.db parent.processInstanceId
    (setsInstance_context context) (fun _ => Iff.rfl)).instances processInstanceId
  cases told with
  | paused context _ outcome =>
      simp only [outcome, reduceCtorEq, false_and, false_or]
      exact merges context
  | failed context _ outcome =>
      simp only [outcome, true_and]
      refine (statusIs_canceled before.now ?_).trans (or_congr_right (merges context))
      exact ⟨_, (mem_setInstance (setsInstance_context context).key).mpr
        (.inl ⟨parent, stored, rfl, rfl⟩), rfl⟩
  | resumed context _ _ outcome =>
      simp only [outcome, reduceCtorEq, false_and, false_or]
      exact merges context

/-- A report cancels the step of the parent where it fails it, completes it where it
resumes it, and writes no other step. -/
theorem ParentTold.steps
    (told : ParentTold before child parent parentStepId terminalStatus after)
    (stored : ∃ step ∈ before.db.steps.rows, step.stepInstanceId = parentStepId)
    (stepInstanceId : Nat) :
    StepIs after.db stepInstanceId .canceled ↔
      if stepInstanceId = parentStepId then
        terminalOutcome terminalStatus parent.onChildFailure = .fail ∨
          terminalOutcome terminalStatus parent.onChildFailure = .pause ∧
            StepIs before.db stepInstanceId .canceled
      else StepIs before.db stepInstanceId .canceled := by
  cases told with
  | paused _ _ outcome => simp only [outcome, reduceCtorEq, true_and, false_or, ite_self]; rfl
  | failed _ _ outcome =>
      simp only [outcome, true_or]
      refine (stepIs_setStep (setsStatus_canceledByChild before.now) stored).trans ?_
      simp only [StepIs]
  | resumed _ _ _ outcome =>
      simp only [outcome, reduceCtorEq, false_and, or_self]
      refine (stepIs_setStep (setsStatus_completedByChild before.now) stored).trans ?_
      simp only [reduceCtorEq, StepIs]

end Told

/-! ## Chains of calls -/

/-- The process `child` was called by the step of `parent`, under `fail_parent`. -/
def FailsParent (db : Database) (parentInstanceId parentStepId childInstanceId : Nat) : Prop :=
  ∃ link ∈ childLink db childInstanceId, link.2.1.processInstanceId = parentInstanceId ∧
    link.2.2 = parentStepId ∧ link.2.1.onChildFailure = .failParent

instance (db : Database) (parentInstanceId parentStepId childInstanceId : Nat) :
    Decidable (FailsParent db parentInstanceId parentStepId childInstanceId) :=
  match isLink : childLink db childInstanceId with
  | none => isFalse fun ⟨_, link, _⟩ => by
      rw [isLink] at link
      cases link
  | some link =>
      decidable_of_iff (link.2.1.processInstanceId = parentInstanceId ∧
          link.2.2 = parentStepId ∧ link.2.1.onChildFailure = .failParent)
        ⟨fun fails => ⟨link, isLink, fails⟩, fun ⟨other, isOther, fails⟩ => by
          rw [isLink] at isOther
          cases isOther
          exact fails⟩

/-- A chain of nested processes from `root` to `last`: the processes above `last`,
outermost first, each with the step that called the next one. -/
inductive Nested (db : Database) (root : Nat) : List (Nat × Nat) → Nat → Prop
  | root : Nested db root [] root
  | call {path : List (Nat × Nat)} {parent parentStep child : Nat}
      (above : Nested db root path parent) (fails : FailsParent db parent parentStep child) :
      Nested db root (path ++ [(parent, parentStep)]) child

theorem FailsParent.stored {db : Database} {parent parentStep child : Nat}
    (fails : FailsParent db parent parentStep child) (linked : Linked db)
    (older : ParentsOlder db) :
    parent < child ∧ ∃ step ∈ db.stepsOf parent, step.stepInstanceId = parentStep := by
  obtain ⟨⟨row, parentRow, _⟩, link, rfl, rfl, _⟩ := fails
  obtain ⟨found, _, ofParent, _⟩ := childLink_eq_some link
  have key : row.processInstanceId = child := Table.key_of_find? found
  obtain ⟨caller, callerOf, callerKey, _⟩ := linked.callerOf link
  exact ⟨key ▸ older row (Table.mem_of_find? found) _ ofParent, caller, callerOf, callerKey⟩

/-- The processes of a chain are older than its last one, and own their steps. -/
theorem Nested.stored {db : Database} {root last : Nat} {path : List (Nat × Nat)}
    (nested : Nested db root path last) (linked : Linked db) (older : ParentsOlder db) :
    ∀ link ∈ path, link.1 < last ∧ ∃ step ∈ db.stepsOf link.1, step.stepInstanceId = link.2 := by
  induction nested with
  | root => simp
  | call above fails ih =>
      obtain ⟨younger, step⟩ := fails.stored linked older
      intro link member
      rcases List.mem_append.mp member with earlier | isLast
      · obtain ⟨before, owned⟩ := ih link earlier
        exact ⟨before.trans younger, owned⟩
      · rw [List.mem_singleton.mp isLast]
        exact ⟨younger, step⟩

/-- Every process of the path is canceled, and so is every step of it that waited. -/
def PathFailed (before after : Database) (path : List (Nat × Nat)) : Prop :=
  ∀ link ∈ path, StatusIs after link.1 .canceled ∧
    (StepIs before link.2 .blocked → StepIs after link.2 .canceled)

instance (before after : Database) (path : List (Nat × Nat)) :
    Decidable (PathFailed before after path) :=
  inferInstanceAs (Decidable (∀ link ∈ path, _ ∧ (_ → _)))

/-- The processes are canceled already, and none of their steps waits. -/
def AlreadyFailed (db : Database) (path : List (Nat × Nat)) : Prop :=
  ∀ link ∈ path, StatusIs db link.1 .canceled ∧ ¬ StepIs db link.2 .blocked

/-- No child resumes a step of the path. -/
def SparesPath (path : List (Nat × Nat)) (w : World) : Engine.Call → Prop
  | .handleChildTerminal childProcessInstanceId terminalStatus _ =>
      ∀ link ∈ childLink w.db childProcessInstanceId,
        terminalOutcome terminalStatus link.2.1.onChildFailure = .resume →
          link.2.2 ∉ path.map Prod.snd
  | _ => True

instance (path : List (Nat × Nat)) (w : World) : ∀ call, Decidable (SparesPath path w call)
  | .handleChildTerminal childProcessInstanceId _ _ =>
      inferInstanceAs (Decidable (∀ link ∈ childLink w.db childProcessInstanceId, _ → _))
  | .startProcess _ | .attemptAdvance _ _ | .markCompleted _ _ | .resumeParent _ _
  | .markProcessCompletedIfEligible _ | .validateByCustomInstanceId _ _ _
  | .createSubmission _ _ _ | .approveSubmission _ | .writeSubmission _ _
  | .updateRequirement _ _ | .updateCustomObjectInstance _ _ _ _ | .listener _ _ =>
      inferInstanceAs (Decidable True)

/-! ## Handling events -/

namespace Engine

/-- The call reports no canceled child. -/
def CancelsNone : Call → Prop
  | .handleChildTerminal _ terminalStatus _ => terminalStatus = .completed
  | _ => True

theorem stored_of_link {db : Database} (linked : Linked db) {childProcessInstanceId : Nat}
    {child parent : ProcessInstance} {parentStepId : Nat}
    (link : childLink db childProcessInstanceId = some (child, parent, parentStepId)) :
    parent ∈ db.processInstances.rows ∧
      ∃ step ∈ db.steps.rows, step.stepInstanceId = parentStepId := by
  obtain ⟨_, _, _, isParent⟩ := childLink_eq_some link
  obtain ⟨caller, callerOf, key, _⟩ := linked.callerOf link
  exact ⟨Table.mem_of_find? isParent, caller, (mem_stepsOf.mp callerOf).1, key⟩

/-- A report of a child, or a call that cancels nothing. -/
theorem Effect.sameCanceled {before after : World} {call : Call}
    (effect : Effect deployment before call after) :
    SameCanceled before.db after.db ∨
      ∃ childProcessInstanceId terminalStatus opts child parent parentStepId,
        call = .handleChildTerminal childProcessInstanceId terminalStatus opts ∧
        childLink before.db childProcessInstanceId = some (child, parent, parentStepId) ∧
        ParentTold before child parent parentStepId terminalStatus after := by
  by_cases reports : ∃ childProcessInstanceId terminalStatus opts,
      call = .handleChildTerminal childProcessInstanceId terminalStatus opts
  · obtain ⟨childProcessInstanceId, terminalStatus, opts, rfl⟩ := reports
    cases effect with
    | unchanged => exact .inl (.of_rows rfl rfl)
    | raised _ _ rolledBack =>
        rw [rolledBack]
        exact .inl (.of_rows rfl rfl)
    | evidence _ only =>
        obtain ⟨_, _, _, _, _, rfl⟩ := only
        exact .inl (.of_rows rfl rfl)
    | childTerminal _ _ _ child parent parentStepId _ link told =>
        exact .inr ⟨_, _, _, child, parent, parentStepId, rfl, link, told⟩
  · exact .inl (effect.kept (SameCanceled.keptByWrites
      fun child status opts isCall => reports ⟨child, status, opts, isCall⟩) (.of_rows rfl rfl))

theorem Effect.canceled_instance {before after : World} {call : Call}
    (effect : Effect deployment before call after) (linked : Linked before.db)
    {processInstanceId : Nat} (canceled : StatusIs before.db processInstanceId .canceled) :
    StatusIs after.db processInstanceId .canceled := by
  rcases effect.sameCanceled with same | ⟨_, _, _, _, _, _, _, link, told⟩
  · exact (same.instances processInstanceId).mpr canceled
  · exact (told.instances (stored_of_link linked link).1 processInstanceId).mpr (.inr canceled)

theorem Effect.canceled_step {before after : World} {call : Call} {path : List (Nat × Nat)}
    (effect : Effect deployment before call after) (linked : Linked before.db)
    (spares : SparesPath path before call) {stepInstanceId : Nat}
    (onPath : stepInstanceId ∈ path.map Prod.snd)
    (canceled : StepIs before.db stepInstanceId .canceled) :
    StepIs after.db stepInstanceId .canceled := by
  rcases effect.sameCanceled with same | ⟨_, terminalStatus, _, child, parent, _, rfl, link, told⟩
  · exact (same.steps stepInstanceId).mpr canceled
  · refine (told.steps (stored_of_link linked link).2 stepInstanceId).mpr ?_
    split
    · rename_i isStep
      cases outcome : terminalOutcome terminalStatus parent.onChildFailure with
      | pause => exact .inr ⟨rfl, canceled⟩
      | fail => exact .inl rfl
      | resume => exact absurd (isStep ▸ onPath) (spares _ link outcome)
    · exact canceled

/-- A call that reports no canceled child cancels nothing. -/
theorem Effect.uncanceled {before after : World} {call : Call}
    (effect : Effect deployment before call after) (linked : Linked before.db)
    (none : CancelsNone call) :
    (∀ processInstanceId, StatusIs after.db processInstanceId .canceled →
      StatusIs before.db processInstanceId .canceled) ∧
    ∀ stepInstanceId, StepIs after.db stepInstanceId .canceled →
      StepIs before.db stepInstanceId .canceled := by
  rcases effect.sameCanceled with same | ⟨_, _, _, _, _, _, rfl, link, told⟩
  · exact ⟨fun key => (same.instances key).mp, fun key => (same.steps key).mp⟩
  · obtain ⟨isParent, isStep⟩ := stored_of_link linked link
    cases (none : _ = TerminalStatus.completed)
    constructor
    · intro key canceled
      rcases (told.instances isParent key).mp canceled with ⟨outcome, _⟩ | canceled
      · cases outcome
      · exact canceled
    · intro key canceled
      have is := (told.steps isStep key).mp canceled
      split at is
      · rcases is with outcome | ⟨outcome, _⟩ <;> cases outcome
      · exact is

/-- No service call in flight reports a canceled child. -/
def QuietTasks (tasks : List (List Call)) : Prop :=
  ∀ task ∈ tasks, ∀ call ∈ task, CancelsNone call

theorem listen_cancelsNone (listener : Listener) (event : DomainEvent) (w : World) :
    Program.wp (listen deployment listener event) (fun next _ => ∀ call ∈ next, CancelsNone call)
      (fun _ _ => True) w := by
  cases listener with
  | anyDomainEvent => exact Program.wp_returns (by simp [CancelsNone])
  | requirement =>
      simp only [listen]
      rw [Program.wp_bind, Program.wp_read]
      split <;> simp [CancelsNone]
  | childCompleted =>
      simp only [listen]
      split <;> simp [CancelsNone]
  | objectValidated =>
      simp only [listen]
      split <;> simp [CancelsNone]
  | instanceUpdated =>
      simp only [listen]
      split <;> simp [CancelsNone]

/-- A call goes on with no report of a canceled child. -/
theorem perform_cancelsNone (call : Call) (w : World) :
    Program.wp (perform deployment call) (fun next _ => ∀ call ∈ next, CancelsNone call)
      (fun _ _ => True) w := by
  have finalized : ∀ (childTerminalId : Option Nat) (opts : AdvanceOptions),
      ∀ call ∈ finalizeCalls childTerminalId opts, CancelsNone call := by
    intro childTerminalId opts
    cases childTerminalId <;> simp [finalizeCalls, CancelsNone]
  cases call with
  | attemptAdvance _ opts => exact Program.wp_returns fun result => finalized result opts
  | markCompleted _ opts => exact Program.wp_returns fun result => finalized result opts
  | resumeParent _ opts => exact Program.wp_returns fun result => finalized result opts
  | validateByCustomInstanceId _ _ advance =>
      refine Program.wp_returns fun result => ?_
      unfold validationCalls
      split <;> simp [CancelsNone]
  | createSubmission => exact Program.wp_returns (by simp [CancelsNone])
  | approveSubmission => exact Program.wp_returns (by simp [CancelsNone])
  | listener listener event => exact listen_cancelsNone listener event w
  | _ => exact Program.wp_returns (by simp)

theorem quiet_listenerTasks (event : DomainEvent) : QuietTasks (listenerTasks event) := by
  intro task member call isCall
  obtain ⟨listener, _, rfl⟩ := List.mem_map.mp member
  rw [List.mem_singleton.mp isCall]
  trivial

theorem quiet_execute {w : World} {call : Call} {rest : List Call} {others : List (List Call)}
    (quietRest : ∀ call ∈ rest, CancelsNone call) (quietOthers : QuietTasks others) :
    QuietTasks (execute deployment w call rest others).tasks := by
  have emits : ∀ events : List DomainEvent, QuietTasks (events.flatMap listenerTasks) := by
    intro events task member
    obtain ⟨event, _, isTask⟩ := List.mem_flatMap.mp member
    exact quiet_listenerTasks event task isTask
  have performs := @perform_cancelsNone deployment call w
  unfold execute
  split
  · rename_i calls after performed
    have quietNext := Program.wp_ok performs performed
    intro task member
    simp only [List.mem_append] at member
    rcases member with (other | next) | emitted
    · exact quietOthers task other
    · intro later isLater
      have isNext : later ∈ calls ++ rest := by
        unfold pendingTask at next
        split at next
        · cases next
        · rw [List.mem_singleton.mp next] at isLater
          exact isLater
      exact (List.mem_append.mp isNext).elim (quietNext later) (quietRest later)
    · exact emits _ task emitted
  · exact fun task member => (List.mem_append.mp member).elim (quietOthers task) (emits _ task)

theorem quiet_step {state : State} (quiet : QuietTasks state.tasks) (action : Action) :
    QuietTasks (step deployment state action).tasks := by
  have quietTurn : (∀ call ∈ (turn state action).rest, CancelsNone call) ∧
      QuietTasks (turn state action).others := by
    cases action with
    | invoke => exact ⟨by simp [turn], quiet⟩
    | tick => exact ⟨by simp [turn], quiet⟩
    | publish event =>
        refine ⟨by simp [turn], fun task member => ?_⟩
        exact (List.mem_append.mp member).elim (quiet task) (quiet_listenerTasks event task)
    | processJob =>
        simp only [turn]
        split <;> exact ⟨by simp, quiet⟩
    | resume task =>
        simp only [turn]
        split
        · rename_i call rest isTask
          exact ⟨fun later member => quiet _ (List.mem_of_getElem? isTask) later
              (List.mem_cons_of_mem call member),
            fun other member => quiet other (List.mem_of_mem_eraseIdx member)⟩
        · exact ⟨by simp, quiet⟩
  cases isCall : (turn state action).call with
  | none =>
      rw [step_of_idle isCall]
      exact quietTurn.2
  | some call =>
      rw [step_of_call isCall]
      exact quiet_execute quietTurn.1 quietTurn.2

theorem reachable_quiet {state : State} (reachable : Reachable deployment state) :
    QuietTasks state.tasks := by
  refine @StepSystem.Reachable.invariant _ _ (system deployment) Fresh
    (fun state => QuietTasks state.tasks) (fun start fresh => ?_)
    (fun _ action quiet => quiet_step quiet action) _ reachable
  intro task member
  rw [fresh.tasks] at member
  cases member

/-- Handling the events in flight cancels nothing. -/
theorem handling_uncanceled {state : State} (linked : Linked state.world.db)
    (quiet : QuietTasks state.tasks) {handling : List Action}
    (resumes : ∀ action ∈ handling, ∃ task, action = .resume task) :
    (∀ processInstanceId,
      StatusIs ((system deployment).run state handling).world.db processInstanceId .canceled →
        StatusIs state.world.db processInstanceId .canceled) ∧
    ∀ stepInstanceId,
      StepIs ((system deployment).run state handling).world.db stepInstanceId .canceled →
        StepIs state.world.db stepInstanceId .canceled := by
  induction handling generalizing state with
  | nil => exact ⟨fun _ => id, fun _ => id⟩
  | cons action rest ih =>
      obtain ⟨task, rfl⟩ := resumes action List.mem_cons_self
      have inTurn : Linked (turn state (.resume task)).world.db :=
        turn_db state _ ▸ linked
      have later := @ih (step deployment state (.resume task))
      rcases step_world deployment state (.resume task) with ⟨call, isCall, effect⟩ | ⟨_, same⟩
      · have none : CancelsNone call := by
          simp only [turn] at isCall
          split at isCall
          · rename_i isTask
            cases isCall
            exact quiet _ (List.mem_of_getElem? isTask) _ List.mem_cons_self
          · cases isCall
        obtain ⟨instances, steps⟩ := effect.uncanceled inTurn none
        rw [turn_db] at instances steps
        obtain ⟨first, second⟩ := later (effect.linked inTurn) (quiet_step quiet _)
          fun other member => resumes other (List.mem_cons_of_mem _ member)
        exact ⟨fun key is => instances key (first key is), fun key is => steps key (second key is)⟩
      · rw [same, turn_db] at later
        exact later linked (quiet_step quiet _)
          fun other member => resumes other (List.mem_cons_of_mem _ member)

/-- A canceled process is canceled at the end of every run. -/
theorem canceled_run {state : State} (reachable : Reachable deployment state)
    {processInstanceId : Nat} (canceled : StatusIs state.world.db processInstanceId .canceled)
    (actions : List Action) :
    StatusIs ((system deployment).run state actions).world.db processInstanceId .canceled := by
  exact (@run_database deployment
    (fun db => Linked db ∧ StatusIs db processInstanceId .canceled) _
    (fun _ _ _ effect _ ⟨linked, is⟩ =>
      ⟨effect.linked linked, effect.canceled_instance linked is⟩)
    _ ⟨reachable_linked reachable, canceled⟩ _ (unguarded state actions)).2

theorem canceledStep_run {state : State} (linked : Linked state.world.db)
    {path : List (Nat × Nat)} {stepInstanceId : Nat}
    (onPath : stepInstanceId ∈ path.map Prod.snd)
    (canceled : StepIs state.world.db stepInstanceId .canceled) {actions : List Action}
    (spares : (system deployment).Guarded (Meets (SparesPath path)) state actions) :
    StepIs ((system deployment).run state actions).world.db stepInstanceId .canceled := by
  exact (@run_database deployment (fun db => Linked db ∧ StepIs db stepInstanceId .canceled) _
    (fun _ _ _ effect spares ⟨linked, is⟩ =>
      ⟨effect.linked linked, effect.canceled_step linked spares onPath is⟩)
    _ ⟨linked, canceled⟩ _ spares).2

/-- The report that the last process of a chain was canceled cancels its parent and
the step of the parent, and nothing else. -/
theorem report_canceled {state : State} (linked : Linked state.world.db)
    (enabled : isEnabled deployment = true) {parent parentStep child : Nat}
    (fails : FailsParent state.world.db parent parentStep child) (opts : AdvanceOptions) :
    (∀ processInstanceId,
      StatusIs (step deployment state (.invoke (.handleChildTerminal child .canceled opts))).world.db
          processInstanceId .canceled ↔
        processInstanceId = parent ∨ StatusIs state.world.db processInstanceId .canceled) ∧
    ∀ stepInstanceId,
      StepIs (step deployment state (.invoke (.handleChildTerminal child .canceled opts))).world.db
          stepInstanceId .canceled ↔
        stepInstanceId = parentStep ∨ StepIs state.world.db stepInstanceId .canceled := by
  obtain ⟨⟨row, parentRow, stepId⟩, link, rfl, rfl, policy⟩ := fails
  obtain ⟨isParent, isStep⟩ := stored_of_link linked link
  have told := perform_childTerminal enabled link .canceled opts
  have outcome : terminalOutcome .canceled parentRow.onChildFailure = .fail := by
    rw [policy]
    rfl
  have isCall : (turn state (.invoke (.handleChildTerminal child .canceled opts))).call =
      some (.handleChildTerminal child .canceled opts) := rfl
  rw [step_of_call isCall, execute_world]
  constructor
  · intro key
    refine (told.instances isParent key).trans ?_
    simp [outcome, turn]
  · intro key
    refine (told.steps isStep key).trans ?_
    by_cases same : key = stepId <;> simp [outcome, same]

/-- The failure of the last process of a chain reaches, once its events are handled,
exactly the processes that are canceled without it, and the one above the last. -/
theorem failure_reaches {state : State} (reachable : Reachable deployment state)
    (enabled : isEnabled deployment = true) {root last : Nat} {path : List (Nat × Nat)}
    (nested : Nested state.world.db root path last) (opts : AdvanceOptions)
    {handling : List Action} (resumes : ∀ action ∈ handling, ∃ task, action = .resume task)
    (spares : (system deployment).Guarded (Meets (SparesPath path))
      (step deployment state (.invoke (.handleChildTerminal last .canceled opts))) handling) :
    PathFailed state.world.db ((system deployment).run state
        (.invoke (.handleChildTerminal last .canceled opts) :: handling)).world.db path ↔
      AlreadyFailed state.world.db path.dropLast := by
  have linked := reachable_linked reachable
  have older := reachable_parentsOlder reachable
  have owned := nested.stored linked older
  cases nested with
  | root => simp [PathFailed, AlreadyFailed]
  | call above fails =>
      rename_i path parent parentStep
      obtain ⟨instances, steps⟩ := report_canceled linked enabled fails opts
      have earlier := above.stored linked older
      have reported : Reachable deployment
          (step deployment state (.invoke (.handleChildTerminal last .canceled opts))) :=
        reachable.run [.invoke (.handleChildTerminal last .canceled opts)]
      obtain ⟨fewerInstances, fewerSteps⟩ := @handling_uncanceled deployment _
        (reachable_linked reported) (reachable_quiet reported) _ resumes
      rw [List.dropLast_concat, StepSystem.run_cons]
      constructor
      · intro failed link member
        obtain ⟨younger, owner, ownerMember, ownerKey⟩ := earlier link member
        obtain ⟨canceled, waits⟩ := failed link (List.mem_append_left _ member)
        refine ⟨?_, fun blocked => ?_⟩
        · rcases (instances link.1).mp (fewerInstances link.1 canceled) with same | already
          · omega
          · exact already
        · rcases (steps link.2).mp (fewerSteps link.2 (waits blocked)) with same | already
          · obtain ⟨_, caller, callerMember, callerKey⟩ := fails.stored linked older
            obtain ⟨ownerRow, ofOwner⟩ := mem_stepsOf.mp ownerMember
            obtain ⟨callerRow, ofCaller⟩ := mem_stepsOf.mp callerMember
            have isCaller : owner = caller :=
              Table.eq_of_key_eq ownerRow callerRow ((ownerKey.trans same).trans callerKey.symm)
            rw [isCaller] at ofOwner
            omega
          · cases blocked.unique already
      · intro already link member
        rcases List.mem_append.mp member with isEarlier | isLast
        · obtain ⟨canceled, idle⟩ := already link isEarlier
          exact ⟨canceled_run reported ((instances link.1).mpr (.inr canceled)) handling,
            fun blocked => absurd blocked idle⟩
        · rw [List.mem_singleton.mp isLast]
          exact ⟨canceled_run reported ((instances parent).mpr (.inl rfl)) handling, fun _ =>
            canceledStep_run (reachable_linked reported)
              (List.mem_map_of_mem (f := Prod.snd) (List.mem_append_right _ List.mem_cons_self))
              ((steps parentStep).mpr (.inl rfl)) spares⟩

/-- From the state, the failure of the last process of every chain reaches all
processes of the chain once every event is handled. -/
def FailurePropagates (deployment : Deployment) (state : State) : Prop :=
  ∀ root last path, Nested state.world.db root path last → ∀ opts handling,
    (∀ action ∈ handling, ∃ task, action = .resume task) →
      ((system deployment).run state
        (.invoke (.handleChildTerminal last .canceled opts) :: handling)).tasks = [] →
        PathFailed state.world.db ((system deployment).run state
          (.invoke (.handleChildTerminal last .canceled opts) :: handling)).world.db path

/-- A process waits for its child. -/
def childWaits : State :=
  (system .allEnabled).run (installed nestedCalls)
    [.invoke (.startProcess (.workflow 1 1 .failParent)), .invoke (.markCompleted 1 .none)]

/-- The child waits for a child of its own. -/
def grandchildWaits : State :=
  (system .allEnabled).run childWaits [.invoke (.markCompleted 3 .none)]

theorem childWaits_reachable : Reachable .allEnabled childWaits :=
  ⟨_, _, fresh_installed nestedCalls, rfl⟩

private theorem resumes_replicate (count : Nat) :
    ∀ action ∈ List.replicate count (Action.resume 0), ∃ task, action = .resume task :=
  fun _ member => ⟨0, List.eq_of_mem_replicate member⟩

/-- A root fails with its child. -/
theorem failure_reaches_root :
    PathFailed childWaits.world.db ((system .allEnabled).run childWaits
      (.invoke (.handleChildTerminal 2 .canceled .none) :: List.replicate 5 (.resume 0))).world.db
      [(1, 2)] := by
  have nested : Nested childWaits.world.db 1 [(1, 2)] 2 :=
    @Nested.call _ _ [] _ _ _ .root (by decide)
  exact (failure_reaches childWaits_reachable rfl nested .none (resumes_replicate 5)
    (by decide)).mpr (by simp [AlreadyFailed])

/-- The root above a canceled child of a canceled child still waits. -/
theorem grandchildFailed_notPropagated : ¬ FailurePropagates .allEnabled grandchildWaits := by
  intro propagates
  have nested : Nested grandchildWaits.world.db 1 [(1, 2), (2, 4)] 3 :=
    @Nested.call _ _ [(1, 2)] _ _ _
      (@Nested.call _ _ [] _ _ _ .root (by decide +kernel)) (by decide +kernel)
  have failed := propagates 1 3 _ nested .none (List.replicate 6 (.resume 0))
    (resumes_replicate 6) (by decide +kernel)
  revert failed
  decide +kernel

end Engine

end CoreApi.Automation
