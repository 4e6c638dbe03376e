import CoreApi.Automation.ChildrenEnded
import CoreApi.Automation.InstalledTemplates

/-!
# The gates a process completes through

The root path of `maybeCompleteJob` asks `evaluate`; the path of a child process
counts completed steps only. The two agree as long as nothing that a completed
step was gated on is withdrawn.
-/

namespace CoreApi.Automation

open CoreApi.Foundation StepOrchestrator ChildProcessOrchestration ProcessCompletion

variable {deployment : Deployment} {processInstanceId : Nat}

/-! ## Statuses of a process -/

/-- The process is stored under the status. -/
def StatusIs (db : Database) (processInstanceId : Nat) (status : InstanceStatus) : Prop :=
  ∃ row ∈ db.processInstances.rows, row.processInstanceId = processInstanceId ∧
    row.status = status

instance (db : Database) (processInstanceId : Nat) (status : InstanceStatus) :
    Decidable (StatusIs db processInstanceId status) :=
  inferInstanceAs (Decidable (∃ row ∈ db.processInstances.rows, _ ∧ _))

/-- The step is stored under the status. -/
def StepIs (db : Database) (stepInstanceId : Nat) (status : StepStatus) : Prop :=
  ∃ step ∈ db.steps.rows, step.stepInstanceId = stepInstanceId ∧ step.status = status

instance (db : Database) (stepInstanceId : Nat) (status : StepStatus) :
    Decidable (StepIs db stepInstanceId status) :=
  inferInstanceAs (Decidable (∃ step ∈ db.steps.rows, _ ∧ _))

theorem StepIs.unique {db : Database} {stepInstanceId : Nat} {first second : StepStatus}
    (one : StepIs db stepInstanceId first) (two : StepIs db stepInstanceId second) :
    first = second := by
  obtain ⟨step, member, key, rfl⟩ := one
  obtain ⟨step', member', key', rfl⟩ := two
  rw [Table.eq_of_key_eq member member' (key.trans key'.symm)]

/-- Some step called the process. -/
def IsChild (db : Database) (processInstanceId : Nat) : Prop :=
  ∃ row ∈ db.processInstances.rows, row.processInstanceId = processInstanceId ∧
    row.parentStepId ≠ none

namespace StatusIs

theorem unique {db : Database} {first second : InstanceStatus}
    (one : StatusIs db processInstanceId first) (two : StatusIs db processInstanceId second) :
    first = second := by
  obtain ⟨row, member, key, rfl⟩ := one
  obtain ⟨row', member', key', rfl⟩ := two
  rw [Table.eq_of_key_eq member member' (key.trans key'.symm)]

theorem setInstance {db : Database} {status : InstanceStatus}
    (is : StatusIs db processInstanceId status) (key : Nat)
    {next : InstanceStatus → InstanceStatus} {set : ProcessInstance → ProcessInstance}
    (sets : SetsInstance next set) :
    StatusIs (db.setInstance key set sets.key) processInstanceId
      (if processInstanceId = key then next status else status) := by
  obtain ⟨row, member, same, rfl⟩ := is
  split
  · rename_i isKey
    exact ⟨set row, (mem_setInstance sets.key).mpr (.inl ⟨row, member, same.trans isKey, rfl⟩),
      (sets.key row).trans same, sets.status row⟩
  · rename_i other
    exact ⟨row, (mem_setInstance sets.key).mpr (.inr ⟨member, same ▸ other⟩), same, rfl⟩

/-- The status does not depend on the context. -/
theorem setContext {db : Database} {status : InstanceStatus}
    (is : StatusIs db processInstanceId status) (key : Nat) (context : Option Record) :
    StatusIs (db.setInstance key (fun row => { row with context := context }) (fun _ => rfl))
      processInstanceId status := by
  have still := is.setInstance key (setsInstance_context context)
  rwa [id, ite_self] at still

theorem kept {before after : Database} {status : InstanceStatus}
    (is : StatusIs before processInstanceId status)
    (rows : ∀ row ∈ before.processInstances.rows, row ∈ after.processInstances.rows) :
    StatusIs after processInstanceId status := by
  obtain ⟨row, member, key, same⟩ := is
  exact ⟨row, rows row member, key, same⟩

/-- A stored process was called by a step if it is now. -/
theorem isChild {before after : Database} {status : InstanceStatus}
    (is : StatusIs before processInstanceId status)
    (rows : ∀ row ∈ before.processInstances.rows, row ∈ after.processInstances.rows)
    (child : IsChild after processInstanceId) : IsChild before processInstanceId := by
  obtain ⟨row, member, key, _⟩ := is
  obtain ⟨row', member', key', called⟩ := child
  have same : row = row' := Table.eq_of_key_eq (rows row member) member' (key.trans key'.symm)
  exact ⟨row, member, key, same ▸ called⟩

end StatusIs

/-! ## Bindings of settled steps -/

/-- The mandatory bindings of every settled step of the process are valid. -/
def BindingsKept (deployment : Deployment) (db : Database) (processInstanceId : Nat) : Prop :=
  ∀ step ∈ db.stepsOf processInstanceId, IsSettled step.status →
    ConfigObjectStepExecutor.areMandatoryBindingsValid deployment db step.stepInstanceId = true

instance (status : StepStatus) : Decidable (IsSettled status) :=
  inferInstanceAs (Decidable (_ ∨ _ ∨ _))

open ConfigObjectStepExecutor in
/-- No validation fails for a mandatory object of a settled step of the process. -/
def KeepsValid (processInstanceId : Nat) (w : World) : Engine.Call → Prop
  | .validateByCustomInstanceId configCustomObjectInstanceId _ _ =>
      ∀ link ∈ findLink w.db configCustomObjectInstanceId,
        link.step.processInstanceId = processInstanceId → IsSettled link.step.status →
          w.db.isMandatoryObject link.row = true →
            ∀ row ∈ findCustomInstance w.db configCustomObjectInstanceId link.proc.tenantId,
              completionError w.db link row = none
  | _ => True

open ConfigObjectStepExecutor in
instance (w : World) : ∀ call, Decidable (KeepsValid processInstanceId w call)
  | .validateByCustomInstanceId configCustomObjectInstanceId _ _ =>
      inferInstanceAs (Decidable (∀ link ∈ findLink w.db configCustomObjectInstanceId, _ → _ → _ →
        ∀ row ∈ findCustomInstance w.db configCustomObjectInstanceId link.proc.tenantId, _))
  | .startProcess _ | .attemptAdvance _ _ | .markCompleted _ _ | .resumeParent _ _
  | .markProcessCompletedIfEligible _ | .handleChildTerminal _ _ _
  | .createSubmission _ _ _ | .approveSubmission _ | .writeSubmission _ _
  | .updateRequirement _ _ | .updateCustomObjectInstance _ _ _ _ | .listener _ _ =>
      inferInstanceAs (Decidable True)

/-- A validated row blocks its step if it is mandatory and the validation failed. -/
theorem ConfigObjectStepExecutor.isBlocking_recordVerdict (db : Database) (error : Option String)
    (payload : Record) (time : String) (row : StepObjectInstance) :
    isBlocking db (recordVerdict error payload time row) =
      (db.isMandatoryObject row && error.isSome) := by
  have mandatory : db.isMandatoryObject (recordVerdict error payload time row) =
      db.isMandatoryObject row := by
    cases error <;> rfl
  unfold isBlocking
  rw [mandatory]
  cases error <;> cases db.isMandatoryObject row <;> rfl

theorem bindings_of_gates {db : Database} {stepInstanceId : Nat}
    (gates : checkStepGates deployment db stepInstanceId = true) :
    ConfigObjectStepExecutor.areMandatoryBindingsValid deployment db stepInstanceId = true := by
  unfold checkStepGates at gates
  simp only [Bool.and_eq_true] at gates
  exact gates.2

/-- The link of a validation consists of stored rows. -/
theorem findLink_eq_some {db : Database} {configCustomObjectInstanceId : Nat}
    {link : ConfigObjectStepExecutor.ValidationLink}
    (found : ConfigObjectStepExecutor.findLink db configCustomObjectInstanceId = some link) :
    link.row ∈ db.objectInstances.rows ∧ db.step? link.row.stepInstanceId = some link.step := by
  obtain ⟨row, member, isLink⟩ := List.exists_of_findSome?_eq_some found
  unfold ConfigObjectStepExecutor.linkOf at isLink
  simp only [Option.bind_eq_some_iff, Option.map_eq_some_iff] at isLink
  obtain ⟨step, isStep, _, _, _, _, rfl⟩ := isLink
  exact ⟨(Table.mem_select.mp member).1, isStep⟩

namespace BindingsKept

/-- A write that keeps the steps, the object rows and the bindings. -/
theorem same {before after : Database} (kept : BindingsKept deployment before processInstanceId)
    (steps : after.steps.rows = before.steps.rows)
    (objects : after.objectInstances.rows = before.objectInstances.rows)
    (bindings : after.templateBindings.rows = before.templateBindings.rows) :
    BindingsKept deployment after processInstanceId := by
  intro step member settled
  have found : after.templateBindings.find? = before.templateBindings.find? := by
    funext key
    unfold Table.find?
    rw [bindings]
  have valid := kept step (by rwa [mem_stepsOf, ← steps, ← mem_stepsOf]) settled
  unfold ConfigObjectStepExecutor.areMandatoryBindingsValid ConfigObjectStepExecutor.isBlocking
    Database.isMandatoryObject Database.bindingOf Database.objectInstancesOf Table.select at valid ⊢
  rw [objects, found]
  exact valid

theorem hostTables {before after : Database} (kept : BindingsKept deployment before processInstanceId)
    (tables : HostTables before after) : BindingsKept deployment after processInstanceId := by
  obtain ⟨_, _, _, _, rfl⟩ := tables
  exact kept.same rfl rfl rfl

theorem setInstance {db : Database} (kept : BindingsKept deployment db processInstanceId)
    (key : Nat) (set : ProcessInstance → ProcessInstance)
    (keeps : ∀ row, (set row).processInstanceId = row.processInstanceId) :
    BindingsKept deployment (db.setInstance key set keeps) processInstanceId :=
  kept.same rfl rfl rfl

/-- A step with valid bindings may be settled. -/
theorem setStep {db : Database} (kept : BindingsKept deployment db processInstanceId)
    {stepInstanceId : Nat} {status : StepStatus} {set : StepInstance → StepInstance}
    (sets : SetsStatus status set)
    (allowed : ∀ step ∈ db.stepsOf processInstanceId, step.stepInstanceId = stepInstanceId →
      ConfigObjectStepExecutor.areMandatoryBindingsValid deployment db stepInstanceId = true) :
    BindingsKept deployment (db.setStep stepInstanceId set sets.key) processInstanceId := by
  intro step member settled
  obtain ⟨stepMember, ofProcess⟩ := mem_stepsOf.mp member
  rcases (mem_setStep sets.key).mp stepMember with ⟨old, oldMember, same, rfl⟩ | ⟨untouched, _⟩
  · rw [sets.process] at ofProcess
    rw [sets.key, same]
    exact allowed old (mem_stepsOf.mpr ⟨oldMember, ofProcess⟩) same
  · exact kept step (mem_stepsOf.mpr ⟨untouched, ofProcess⟩) settled

/-- A process that starts has no settled step. -/
theorem started {before after : World} {params : StartProcessParams} {row : ProcessInstance}
    (kept : BindingsKept deployment before.db processInstanceId)
    (start : Started params row before after) :
    BindingsKept deployment after.db processInstanceId := by
  intro step member settled
  obtain ⟨stepMember, ofProcess⟩ := mem_stepsOf.mp member
  rw [start.steps] at stepMember
  rcases List.mem_append.mp stepMember with old | new
  · rw [start.bindings ⟨step, old, rfl⟩]
    exact kept step (mem_stepsOf.mpr ⟨old, ofProcess⟩) settled
  · rcases ProcessInstantiation.addedSteps_status new with ⟨ready, _⟩ | ⟨pending, _⟩
    · simp [ready, IsSettled] at settled
    · simp [pending, IsSettled] at settled

/-- Edits settle eligible steps. -/
theorem edits {origin before after : World} {process target : Nat}
    (kept : BindingsKept deployment before.db processInstanceId)
    (edits : Edits deployment origin process target before after) :
    BindingsKept deployment after.db processInstanceId := by
  intro step member settled
  obtain ⟨stepMember, ofProcess⟩ := mem_stepsOf.mp member
  rcases edits.preimage stepMember with old | ⟨old, oldMember, moved⟩ | ⟨_, pending | ready⟩
  · rw [edits.bindings deployment ⟨step, old, rfl⟩]
    exact kept step (mem_stepsOf.mpr ⟨old, ofProcess⟩) settled
  · rw [moved.same.key, edits.bindings deployment ⟨old, oldMember, rfl⟩]
    exact bindings_of_gates moved.eligible.gates
  · simp [pending, IsSettled] at settled
  · simp [ready, IsSettled] at settled

theorem stepCompleted {step : StepInstance} {before after : World}
    (kept : BindingsKept deployment before.db processInstanceId)
    (gates : checkStepGates deployment before.db step.stepInstanceId = true)
    (completes : StepCompleted step before after) :
    BindingsKept deployment after.db processInstanceId := by
  obtain ⟨_, sets, tables⟩ := completes.tables
  exact (kept.setStep sets fun _ _ _ => bindings_of_gates gates).hostTables tables

theorem settlement {process : Nat} {before after : World} {result : Option Nat}
    (kept : BindingsKept deployment before.db processInstanceId)
    (settlement : Settlement deployment process before result after) :
    BindingsKept deployment after.db processInstanceId := by
  cases settlement with
  | idle => exact kept
  | child => exact kept.setInstance _ _ _
  | announced _ _ _ _ _ announced => exact (kept.setInstance _ _ _).hostTables announced.tables

theorem settles {origin before after : World} {process target : Nat} {result : Option Nat}
    (kept : BindingsKept deployment before.db processInstanceId)
    (settles : Settles deployment origin process target before result after) :
    BindingsKept deployment after.db processInstanceId := by
  obtain ⟨_, edits, settlement, _⟩ := settles
  exact (kept.edits edits).settlement settlement

/-- The step of a child is settled before the child is reported. -/
theorem parentTold {before after : World} {child parent : ProcessInstance} {parentStepId : Nat}
    {terminalStatus : TerminalStatus} {childProcessInstanceId : Nat}
    (kept : BindingsKept deployment before.db processInstanceId) (linked : Linked before.db)
    (link : childLink before.db childProcessInstanceId = some (child, parent, parentStepId))
    (told : ParentTold before child parent parentStepId terminalStatus after) :
    BindingsKept deployment after.db processInstanceId := by
  obtain ⟨caller, callerOf, key, settled⟩ := linked.callerOf link
  have valid : ∀ step ∈ before.db.stepsOf processInstanceId, step.stepInstanceId = parentStepId →
      ConfigObjectStepExecutor.areMandatoryBindingsValid deployment before.db parentStepId =
        true := by
    intro step member same
    have isCaller : step = caller :=
      Table.eq_of_key_eq (mem_stepsOf.mp member).1 (mem_stepsOf.mp callerOf).1
        (same.trans key.symm)
    rw [← same]
    exact kept step member (isCaller ▸ settled)
  cases told with
  | paused => exact kept.setInstance _ _ _
  | failed =>
      exact BindingsKept.setStep ((kept.setInstance _ _ _).setInstance _ _ _)
        (setsStatus_canceledByChild before.now) valid
  | resumed =>
      exact BindingsKept.setStep (kept.setInstance _ _ _) (setsStatus_completedByChild before.now)
        valid

/-- A validation that fails for no settled step. -/
theorem validated {configCustomObjectInstanceId : Nat} {before after : World}
    {correlationId : Option String} {advance : Option AdvanceOptions}
    (kept : BindingsKept deployment before.db processInstanceId)
    (keeps : KeepsValid processInstanceId before
      (.validateByCustomInstanceId configCustomObjectInstanceId correlationId advance))
    (validated : Validated configCustomObjectInstanceId before after) :
    BindingsKept deployment after.db processInstanceId := by
  obtain ⟨link, error, payload, events, isLink, ⟨row, isRow, _, verdict⟩, _, rfl⟩ := validated
  obtain ⟨linkMember, isStep⟩ := findLink_eq_some isLink
  intro step member settled
  have valid := kept step member settled
  rw [ConfigObjectStepExecutor.areMandatoryBindingsValid_iff] at valid ⊢
  refine valid.imp_right fun unblocked other otherMember ofStep => ?_
  rcases (mem_setObjectInstance
    (ConfigObjectStepExecutor.recordVerdict_key error payload before.now)).mp otherMember with
    ⟨old, oldMember, same, rfl⟩ | ⟨untouched, _⟩
  · have isRow : old = link.row := Table.eq_of_key_eq oldMember linkMember same
    subst isRow
    obtain ⟨stepMember, ofProcess⟩ := mem_stepsOf.mp member
    have sameStep : link.row.stepInstanceId = step.stepInstanceId := by
      rw [← ofStep]
      cases error <;> rfl
    have isLinked : link.step = step := Table.eq_of_key_eq (Table.mem_of_find? isStep) stepMember
      ((Table.key_of_find? isStep).trans sameStep)
    show ConfigObjectStepExecutor.isBlocking before.db _ = false
    rw [ConfigObjectStepExecutor.isBlocking_recordVerdict, Bool.and_eq_false_imp]
    intro mandatory
    rw [verdict, keeps link isLink (isLinked ▸ ofProcess) (isLinked ▸ settled) mandatory row isRow]
    rfl
  · exact unblocked other untouched ofStep

/-- A call under which no settled step loses a valid binding keeps the invariant. -/
theorem effect {before after : World} {call : Engine.Call}
    (kept : BindingsKept deployment before.db processInstanceId) (linked : Linked before.db)
    (keeps : KeepsValid processInstanceId before call)
    (effect : Engine.Effect deployment before call after) :
    BindingsKept deployment after.db processInstanceId := by
  cases effect with
  | unchanged => exact kept
  | raised _ _ rolledBack =>
      rw [rolledBack]
      exact kept.same rfl rfl rfl
  | started _ _ start => exact kept.started start
  | advanced _ _ _ outcome =>
      cases outcome with
      | refused => exact kept
      | waiting _ _ _ _ edits => exact kept.edits edits
      | unlocked _ _ _ _ edits => exact kept.edits edits
      | ran step fresh found _ eligible edits member same _ _ completes settles =>
          have gates := edits.gates (Table.mem_of_find? found) rfl same eligible
          exact ((kept.edits edits).stepCompleted gates completes).settles settles
  | marked _ _ _ outcome =>
      cases outcome with
      | refused => exact kept
      | marked step found completable completes settles =>
          have gates : checkStepGates deployment before.db step.stepInstanceId = true := by
            simp only [isCompletable, Bool.and_eq_true] at completable
            exact completable.2
          exact (kept.stepCompleted gates completes).settles settles
  | resumed _ _ _ outcome =>
      cases outcome with
      | refused => exact kept
      | resumed _ _ _ settles => exact kept.settles settles
  | childTerminal _ _ _ _ _ _ _ link told => exact kept.parentTold linked link told
  | eligible => exact kept.setInstance _ _ _
  | validated _ _ _ validated => exact kept.validated keeps validated
  | evidence _ only =>
      obtain ⟨_, _, _, _, _, rfl⟩ := only
      exact kept.same rfl rfl rfl
  | triggersMarked event =>
      obtain ⟨_, shape⟩ := before.db.markTriggers_shape before.now
        (EventBridge.metTriggers deployment event none before)
      rw [EventBridge.marked, shape]
      exact kept.same rfl rfl rfl

end BindingsKept

/-! ## Completing a process -/

/-- What the completion of a process relies on: its children ended and its
bindings are valid, as far as its completed steps are concerned. -/
structure Gated (deployment : Deployment) (processInstanceId : Nat) (db : Database) : Prop where
  linked : Linked db
  children : ChildrenEnded db processInstanceId
  bindings : BindingsKept deployment db processInstanceId

/-- The call withdraws nothing that a completed step of the process relies on. -/
def KeepsGate (processInstanceId : Nat) (w : World) (call : Engine.Call) : Prop :=
  ReportsEnded processInstanceId w call ∧ KeepsValid processInstanceId w call

instance (w : World) (call : Engine.Call) : Decidable (KeepsGate processInstanceId w call) :=
  inferInstanceAs (Decidable (_ ∧ _))

namespace Gated

theorem effect {before after : World} {call : Engine.Call}
    (gated : Gated deployment processInstanceId before.db)
    (keeps : KeepsGate processInstanceId before call)
    (effect : Engine.Effect deployment before call after) :
    Gated deployment processInstanceId after.db :=
  ⟨effect.linked gated.linked, gated.children.effect gated.linked keeps.1 effect,
    gated.bindings.effect gated.linked keeps.2 effect⟩

theorem edits {origin before after : World} {process target : Nat}
    (gated : Gated deployment processInstanceId before.db)
    (edits : Edits deployment origin process target before after) :
    Gated deployment processInstanceId after.db :=
  ⟨gated.linked.edits edits, gated.children.edits edits, gated.bindings.edits edits⟩

theorem stepCompleted {step : StepInstance} {before after : World}
    (gated : Gated deployment processInstanceId before.db) (member : step ∈ before.db.steps.rows)
    (open' : ¬ IsSettled step.status)
    (gates : checkStepGates deployment before.db step.stepInstanceId = true)
    (completes : StepCompleted step before after) :
    Gated deployment processInstanceId after.db :=
  ⟨gated.linked.stepCompleted completes,
    gated.children.stepCompleted gated.linked member open' completes,
    gated.bindings.stepCompleted gates completes⟩

/-- All steps of the process are completed: so it passes the check. -/
theorem canComplete {db : Database} (gated : Gated deployment processInstanceId db)
    (allDone : areAllStepsCompleted db processInstanceId = true) :
    canCompleteProcess deployment db processInstanceId = true := by
  obtain ⟨nonempty, completed⟩ := areAllStepsCompleted_iff.mp allDone
  refine canCompleteProcess_iff.mpr ⟨⟨nonempty, fun step member => .inl (completed step member)⟩,
    gated.children.noActiveChild gated.linked completed, fun step member => ?_⟩
  exact gated.bindings step member (.inr (.inl (completed step member)))

end Gated

/-- Completing a process that passes the check leaves it passing. -/
theorem canCompleteProcess_completed {db : Database}
    (canComplete : canCompleteProcess deployment db processInstanceId = true) (key : Nat)
    (time : String) :
    canCompleteProcess deployment
      (db.setInstance key (completedInstance time) (completedInstance_key time))
      processInstanceId = true := by
  obtain ⟨steps, children, bindings⟩ := canCompleteProcess_iff.mp canComplete
  exact canCompleteProcess_iff.mpr ⟨steps, children.completed key time, bindings⟩

/-- A settlement that completes the process: a root process passed the check, and
a child process passes it if it is gated. -/
theorem Settlement.canComplete {process : Nat} {before after : World} {result : Option Nat}
    (settlement : Settlement deployment process before result after)
    (active : StatusIs before.db processInstanceId .active)
    (completed : StatusIs after.db processInstanceId .completed)
    (gated : IsChild before.db processInstanceId → Gated deployment processInstanceId before.db) :
    canCompleteProcess deployment after.db processInstanceId = true := by
  have sets := setsInstance_completed before.now
  -- Only the process that is settled can have changed its status.
  have isProcess : ∀ {w : World}, HostTables (before.db.setInstance process
      (completedInstance before.now) (completedInstance_key before.now)) w.db →
        StatusIs w.db processInstanceId .completed → processInstanceId = process := by
    rintro w ⟨_, _, _, _, tables⟩ completed
    by_contra other
    have still : StatusIs (before.db.setInstance process _ sets.key) processInstanceId _ :=
      active.setInstance process sets
    rw [if_neg other] at still
    rw [tables] at completed
    cases still.unique completed
  cases settlement with
  | idle => cases active.unique completed
  | child proc allDone found parentStep =>
      cases isProcess (.refl _) completed
      have member := Table.mem_of_find? found
      have key : proc.processInstanceId = processInstanceId := Table.key_of_find? found
      exact canCompleteProcess_completed ((gated ⟨proc, member, key, parentStep⟩).canComplete
        allDone) processInstanceId before.now
  | announced proc _ canComplete found _ announced =>
      have key : proc.processInstanceId = process := Table.key_of_find? found
      have tables := announced.tables
      rw [key] at tables
      cases isProcess tables completed
      have still := canCompleteProcess_completed canComplete processInstanceId before.now
      rwa [← SameCheck.canComplete (.hostTables tables)] at still

theorem Settles.canComplete {origin before after : World} {process target : Nat}
    {result : Option Nat}
    (settles : Settles deployment origin process target before result after)
    (active : StatusIs before.db processInstanceId .active)
    (completed : StatusIs after.db processInstanceId .completed)
    (gated : IsChild before.db processInstanceId → Gated deployment processInstanceId before.db) :
    canCompleteProcess deployment after.db processInstanceId = true := by
  obtain ⟨middle, edits, settlement, _⟩ := settles
  have rows : ∀ row ∈ before.db.processInstances.rows, row ∈ middle.db.processInstances.rows :=
    fun _ member => edits.instance_kept member
  exact settlement.canComplete (active.kept rows) completed
    fun child => (gated (active.isChild rows child)).edits edits

theorem StepCompleted.instances {step : StepInstance} {before after : World}
    (completes : StepCompleted step before after) :
    ∀ row ∈ before.db.processInstances.rows, row ∈ after.db.processInstances.rows := by
  obtain ⟨_, _, _, _, _, _, tables⟩ := completes.tables
  rw [tables]
  exact fun _ member => member

/-- A call that completes the process leaves it passing the check; a child
process must be gated. -/
theorem Engine.Effect.canComplete {before after : World} {call : Engine.Call}
    (effect : Engine.Effect deployment before call after)
    (active : StatusIs before.db processInstanceId .active)
    (completed : StatusIs after.db processInstanceId .completed)
    (gated : IsChild before.db processInstanceId → Gated deployment processInstanceId before.db) :
    canCompleteProcess deployment after.db processInstanceId = true := by
  -- A process that stays active did not complete.
  have moved : StatusIs after.db processInstanceId .active →
      canCompleteProcess deployment after.db processInstanceId = true := by
    intro still
    cases still.unique completed
  cases effect with
  | unchanged => exact moved active
  | raised _ _ rolledBack =>
      refine moved (active.kept fun row member => ?_)
      rw [rolledBack]
      exact member
  | started _ _ start => exact moved (active.kept fun _ member => start.instance_kept member)
  | advanced _ _ _ outcome =>
      cases outcome with
      | refused => exact moved active
      | waiting _ _ _ _ edits => exact moved (active.kept fun _ member => edits.instance_kept member)
      | unlocked _ _ _ _ edits => exact moved (active.kept fun _ member => edits.instance_kept member)
      | ran step fresh found _ eligible edits member same _ ready completes settles =>
          have edited := fun row => @Edits.instance_kept _ _ _ _ _ _ edits row
          refine settles.canComplete ((active.kept edited).kept completes.instances) completed
            fun child => ?_
          have isChild := active.isChild edited
            ((active.kept edited).isChild completes.instances child)
          exact ((gated isChild).edits edits).stepCompleted member (by simp [ready, IsSettled])
            (edits.gates (Table.mem_of_find? found) rfl same eligible) completes
  | marked _ _ _ outcome =>
      cases outcome with
      | refused => exact moved active
      | marked step found completable completes settles =>
          refine settles.canComplete (active.kept completes.instances) completed fun child => ?_
          simp only [isCompletable, Bool.and_eq_true, Bool.or_eq_true, beq_iff_eq] at completable
          refine (gated (active.isChild completes.instances child)).stepCompleted
            (Table.mem_of_find? found) (fun settled => ?_) completable.2 completes
          rcases completable.1 with begun | begun <;> simp [begun, IsSettled] at settled
  | resumed _ _ _ outcome =>
      cases outcome with
      | refused => exact moved active
      | resumed _ _ _ settles => exact settles.canComplete active completed gated
  | childTerminal _ _ _ child parent _ _ _ told =>
      cases told with
      | paused context => exact moved (active.setContext _ context)
      | failed context =>
          have canceled := (active.setContext parent.processInstanceId context).setInstance
            parent.processInstanceId (setsInstance_canceled before.now)
          have unchanged := canceled.unique completed
          split at unchanged <;> cases unchanged
      | resumed context => exact moved (active.setContext _ context)
  | eligible process eligible =>
      by_cases isProcess : processInstanceId = process
      · subst isProcess
        have asked : ((before.db.instance? processInstanceId).any hasParentStep &&
            areAllStepsCompleted before.db processInstanceId) = true := eligible
        simp only [Bool.and_eq_true, Option.any_eq_true] at asked
        obtain ⟨⟨row, found, parent⟩, allDone⟩ := asked
        obtain ⟨_, called, _⟩ := hasParentStep_iff.mp parent
        have child : IsChild before.db processInstanceId :=
          ⟨row, Table.mem_of_find? found, Table.key_of_find? found, by simp [called]⟩
        exact canCompleteProcess_completed ((gated child).canComplete allDone) _ _
      · have still := active.setInstance process (setsInstance_completed before.now)
        rw [if_neg isProcess] at still
        exact moved still
  | validated _ _ _ validated =>
      obtain ⟨_, _, _, _, _, _, _, rfl⟩ := validated
      exact moved active
  | evidence _ only =>
      obtain ⟨_, _, _, _, _, rfl⟩ := only
      exact moved active
  | triggersMarked event =>
      obtain ⟨_, shape⟩ := before.db.markTriggers_shape before.now
        (EventBridge.metTriggers deployment event none before)
      refine moved ?_
      rw [EventBridge.marked, shape]
      exact active

namespace Engine

/-- Every step of a run that completes a process leaves it passing the check: a
root process always, a child process if the calls of the run keep its gate. -/
theorem completion_gated {start : State} (fresh : Fresh start) {actions : List Action}
    {action : Action}
    (keeps : IsChild ((system deployment).run start actions).world.db processInstanceId →
      (system deployment).Guarded (Meets (KeepsGate processInstanceId)) start actions)
    (active : StatusIs ((system deployment).run start actions).world.db processInstanceId .active)
    (completed : StatusIs ((system deployment).run start (actions ++ [action])).world.db
      processInstanceId .completed) :
    canCompleteProcess deployment
      ((system deployment).run start (actions ++ [action])).world.db processInstanceId = true := by
  rw [StepSystem.run_append] at completed ⊢
  have gated : IsChild ((system deployment).run start actions).world.db processInstanceId →
      Gated deployment processInstanceId ((system deployment).run start actions).world.db := by
    intro child
    refine run_database (fun _ _ _ effect keeps gated => gated.effect keeps effect) ?_ (keeps child)
    refine ⟨fresh.linked, ?_, ?_⟩
    · intro child member
      simp [fresh.processInstances] at member
    · intro step member
      simp [mem_stepsOf, fresh.steps] at member
  generalize (system deployment).run start actions = state at active completed gated ⊢
  have same := turn_db state action
  rcases step_world deployment state action with ⟨call, _, effect⟩ | ⟨_, world⟩
  · exact effect.canComplete (same ▸ active) completed (same ▸ gated)
  · have unmoved : ((system deployment).run state [action]).world.db = state.world.db := by
      show (step deployment state action).world.db = _
      rw [world, same]
    rw [unmoved] at completed
    cases active.unique completed

/-- A process whose child binds an object to the first of its two steps. -/
def boundChild : Templates where
  steps := [.row 1 .manual 1 none, .row 1 .callProcess 2 (some 2), .row 2 .manual 1 none,
    .row 2 .manual 2 none]
  requirements := []
  triggers := []
  bindings := [.row 3 1]
  configObjects := [.row]

/-- The first step of the child is completed with a valid object. -/
def childBound : List Action :=
  [.invoke (.startProcess (.workflow 1 1 .pauseParent)), .invoke (.markCompleted 1 .none),
    .invoke (.attemptAdvance 3 .none),
    .invoke (.updateCustomObjectInstance 1 1 (some [("title", .str "x")]) none),
    .invoke (.validateByCustomInstanceId 1 none none), .invoke (.markCompleted 3 .none)]

/-- The payload of the object is cleared, and its validation fails. -/
def objectCleared : List Action :=
  [.invoke (.updateCustomObjectInstance 1 1 (some []) none),
    .invoke (.validateByCustomInstanceId 1 none none)]

theorem completion_gated_childBound :
    canCompleteProcess .allEnabled ((system .allEnabled).run (installed boundChild)
      (childBound ++ [.invoke (.markCompleted 4 .none)])).world.db 2 = true :=
  completion_gated (fresh_installed boundChild) (fun _ => by decide +kernel) (by decide +kernel)
    (by decide +kernel)

/-- The child completes with a failed object of its first step. -/
theorem objectCleared_notGated :
    StatusIs ((system .allEnabled).run (installed boundChild)
      (childBound ++ objectCleared)).world.db 2 .active ∧
    StatusIs ((system .allEnabled).run (installed boundChild)
      (childBound ++ objectCleared ++ [.invoke (.markCompleted 4 .none)])).world.db 2
        .completed ∧
    canCompleteProcess .allEnabled ((system .allEnabled).run (installed boundChild)
      (childBound ++ objectCleared ++ [.invoke (.markCompleted 4 .none)])).world.db 2 =
        false := by
  decide +kernel

end Engine

end CoreApi.Automation
