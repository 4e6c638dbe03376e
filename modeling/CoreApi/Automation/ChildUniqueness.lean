import CoreApi.Automation.CallWrites
import CoreApi.Automation.InstalledTemplates

/-!
# The children of a step

A child is started for a pending step, under the lock on its row, and blocks it
in the same transaction; a step that left pending is never unlocked again. So a
step has one child at most, and a blocked step has exactly one.
-/

namespace CoreApi.Automation

open CoreApi.Foundation StepOrchestrator ChildProcessOrchestration

variable {deployment : Deployment}

/-- The processes that name a step as their parent step. -/
def Database.childrenOf (db : Database) (stepInstanceId : Nat) : List ProcessInstance :=
  db.processInstances.select fun row => row.parentStepId == some stepInstanceId

@[simp] theorem mem_childrenOf {db : Database} {stepInstanceId : Nat} {row : ProcessInstance} :
    row ∈ db.childrenOf stepInstanceId ↔
      row ∈ db.processInstances.rows ∧ row.parentStepId = some stepInstanceId := by
  simp [Database.childrenOf, Table.mem_select]

/-- Linked tables hold one child of a step at most. -/
theorem Linked.childrenOf_length {db : Database} (linked : Linked db) (stepInstanceId : Nat) :
    (db.childrenOf stepInstanceId).length ≤ 1 := by
  have distinct : (db.childrenOf stepInstanceId).Pairwise
      fun first second => first.processInstanceId ≠ second.processInstanceId :=
    (List.pairwise_map.mp db.processInstances.distinct).filter _
  match isList : db.childrenOf stepInstanceId with
  | [] => simp
  | [_] => simp
  | first :: second :: rest =>
      rw [isList] at distinct
      have firstMember := mem_childrenOf.mp (isList ▸ List.mem_cons_self)
      have secondMember := mem_childrenOf.mp
        (isList ▸ List.mem_cons_of_mem first List.mem_cons_self)
      have same := linked.onlyChild first firstMember.1 second secondMember.1 stepInstanceId
        firstMember.2 secondMember.2
      exact absurd same ((List.pairwise_cons.mp distinct).1 second List.mem_cons_self)

/-! ## Blocked steps -/

/-- Some process names the step as its parent step. -/
def HasChild (db : Database) (stepInstanceId : Nat) : Prop :=
  ∃ child ∈ db.processInstances.rows, child.parentStepId = some stepInstanceId

/-- Every blocked step has a child. -/
def BlockedByChild (db : Database) : Prop :=
  ∀ step ∈ db.steps.rows, step.status = .blocked → HasChild db step.stepInstanceId

/-- No write removes a process or links it to another step. -/
def KeepsChildren (before after : Database) : Prop :=
  ∀ stepInstanceId, HasChild before stepInstanceId → HasChild after stepInstanceId

theorem KeepsChildren.of_rows {before after : Database}
    (rows : ∀ row ∈ before.processInstances.rows, row ∈ after.processInstances.rows) :
    KeepsChildren before after :=
  fun _ ⟨child, member, isChild⟩ => ⟨child, rows child member, isChild⟩

theorem KeepsChildren.setInstance (db : Database) (processInstanceId : Nat)
    {next : InstanceStatus → InstanceStatus} {set : ProcessInstance → ProcessInstance}
    (sets : SetsInstance next set) :
    KeepsChildren db (db.setInstance processInstanceId set sets.key) := by
  rintro _ ⟨child, member, isChild⟩
  by_cases same : child.processInstanceId = processInstanceId
  · exact ⟨set child, (mem_setInstance sets.key).mpr (.inl ⟨child, member, same, rfl⟩),
      (sets.parentStep child).trans isChild⟩
  · exact ⟨child, (mem_setInstance sets.key).mpr (.inr ⟨member, same⟩), isChild⟩

namespace BlockedByChild

theorem of_rows {before after : Database} (blocked : BlockedByChild before)
    (children : KeepsChildren before after)
    (steps : ∀ step ∈ after.steps.rows, step.status = .blocked → step ∈ before.steps.rows) :
    BlockedByChild after :=
  fun step member isBlocked =>
    children _ (blocked step (steps step member isBlocked) isBlocked)

theorem same {before after : Database} (blocked : BlockedByChild before)
    (instances : after.processInstances.rows = before.processInstances.rows)
    (steps : after.steps.rows = before.steps.rows) : BlockedByChild after :=
  blocked.of_rows (.of_rows fun _ member => instances ▸ member) fun _ member _ => steps ▸ member

theorem hostTables {before after : Database} (blocked : BlockedByChild before)
    (tables : HostTables before after) : BlockedByChild after := by
  obtain ⟨_, _, _, _, rfl⟩ := tables
  exact blocked.same rfl rfl

theorem setStep {db : Database} (blocked : BlockedByChild db) {stepInstanceId : Nat}
    {status : StepStatus} {set : StepInstance → StepInstance} (sets : SetsStatus status set)
    (hasChild : status = .blocked → HasChild db stepInstanceId) :
    BlockedByChild (db.setStep stepInstanceId set sets.key) := by
  intro step member isBlocked
  rcases (mem_setStep sets.key).mp member with ⟨old, _, same, rfl⟩ | ⟨untouched, _⟩
  · rw [sets.status] at isBlocked
    rw [sets.key, same]
    exact hasChild isBlocked
  · exact blocked step untouched isBlocked

theorem setInstance {db : Database} (blocked : BlockedByChild db) (processInstanceId : Nat)
    {next : InstanceStatus → InstanceStatus} {set : ProcessInstance → ProcessInstance}
    (sets : SetsInstance next set) :
    BlockedByChild (db.setInstance processInstanceId set sets.key) :=
  blocked.of_rows (.setInstance db processInstanceId sets) fun _ member _ => member

theorem started {before after : World} {params : StartProcessParams} {row : ProcessInstance}
    (blocked : BlockedByChild before.db) (start : Started params row before after) :
    BlockedByChild after.db := by
  refine blocked.of_rows (.of_rows fun _ member => start.instance_kept member)
    fun step member isBlocked => ?_
  rw [start.steps] at member
  rcases List.mem_append.mp member with old | added
  · exact old
  · rcases ProcessInstantiation.addedSteps_status added with ⟨ready, _⟩ | ⟨pending, _⟩
    · rw [isBlocked] at ready
      cases ready
    · rw [isBlocked] at pending
      cases pending

theorem edit {origin before after : World} {process target : Nat}
    (blocked : BlockedByChild before.db)
    (edit : Edit deployment origin process target before after) : BlockedByChild after.db := by
  cases edit with
  | hosted host => exact blocked.hostTables host.tables
  | evaluated => exact blocked.same rfl rfl
  | provisioned _ _ _ _ _ _ _ _ writes =>
      obtain ⟨_, _, _, _, _, _, _, rfl⟩ := writes
      exact blocked.same rfl rfl
  | readied _ _ sets _ _ _ _ host =>
      exact (blocked.setStep sets (fun impossible => by cases impossible)).hostTables host.tables
  | blocked step _ sets _ _ _ _ child =>
      refine blocked.setStep sets fun _ => ?_
      simp only [ne_eq, Linked.findChild_eq_none, not_forall, not_not] at child
      obtain ⟨row, member, isChild⟩ := child
      exact ⟨row, member, isChild⟩
  | spawned step _ sets parent _ row _ _ _ _ _ resolved start =>
      obtain ⟨_, resolved⟩ := resolved
      refine (blocked.started start).setStep sets fun _ => ⟨row, ?_, ?_⟩
      · rw [start.instances]
        exact List.mem_append_right _ List.mem_cons_self
      · exact start.fresh.parentStep.trans (childOf_of_resolveChildStart resolved).parentStep

/-- Every write of a call keeps a child for every blocked step. -/
theorem keptByWrites (origin : World) (call : Engine.Call) :
    Engine.KeptByWrites deployment (fun w => BlockedByChild w.db) origin call where
  rolledBack _ rolledBack _ blocked := by
    simp only [rolledBack]
    exact blocked.same rfl rfl
  started _ start _ blocked := blocked.started start
  edit edit blocked := blocked.edit edit
  completed _ _ _ _ _ completes blocked := by
    obtain ⟨_, sets, tables⟩ := completes.tables
    exact (setStep blocked sets (fun impossible => by cases impossible)).hostTables tables
  settled settlement blocked := by
    have sets := setsInstance_completed
    cases settlement with
    | idle => exact blocked
    | child => exact setInstance blocked _ (sets _)
    | announced _ _ _ _ _ announced =>
        exact (setInstance blocked _ (sets _)).hostTables announced.tables
  told _ _ told blocked := by
    cases told with
    | paused context => exact setInstance blocked _ (setsInstance_context context)
    | failed context =>
        exact setStep (setInstance (setInstance blocked _ (setsInstance_context context)) _
          (setsInstance_canceled origin.now)) (setsStatus_canceledByChild origin.now)
          (fun impossible => by cases impossible)
    | resumed context =>
        exact setStep (setInstance blocked _ (setsInstance_context context))
          (setsStatus_completedByChild origin.now) (fun impossible => by cases impossible)
  eligible _ blocked := setInstance blocked _ (setsInstance_completed origin.now)
  validated _ validated blocked := by
    obtain ⟨_, _, _, _, _, _, _, rfl⟩ := validated
    exact same blocked rfl rfl
  evidence only _ blocked := by
    obtain ⟨_, _, _, _, _, rfl⟩ := only
    exact same blocked rfl rfl
  marked {event} _ blocked := by
    obtain ⟨_, shape⟩ := origin.db.markTriggers_shape origin.now
      (EventBridge.metTriggers deployment event none origin)
    simp only [EventBridge.marked, shape]
    exact same blocked rfl rfl

end BlockedByChild

namespace Engine

theorem reachable_blockedByChild {state : State} (reachable : Reachable deployment state) :
    BlockedByChild state.world.db := by
  refine reachable_database ?_ (fun w call _ effect blocked =>
    effect.kept (BlockedByChild.keptByWrites w call) blocked) reachable
  intro state fresh step member
  rw [fresh.steps] at member
  cases member

/-- In every reachable state a step has one child at most, and a step that waits
for a child has exactly one, which belongs to the process of the step. -/
theorem children_unique {state : State} (reachable : Reachable deployment state) :
    (∀ stepInstanceId, (state.world.db.childrenOf stepInstanceId).length ≤ 1) ∧
      ∀ step ∈ state.world.db.steps.rows, step.status = .blocked →
        step.blockedReason = waitingChild →
          ∃ child, state.world.db.childrenOf step.stepInstanceId = [child] ∧
            child.parentInstanceId = some step.processInstanceId := by
  have linked := reachable_linked reachable
  refine ⟨linked.childrenOf_length, fun step member blocked _ => ?_⟩
  obtain ⟨child, childMember, isChild⟩ := reachable_blockedByChild reachable step member blocked
  have isIn : child ∈ state.world.db.childrenOf step.stepInstanceId :=
    mem_childrenOf.mpr ⟨childMember, isChild⟩
  obtain ⟨only, isOnly⟩ := List.length_eq_one_iff.mp
    (Nat.le_antisymm (linked.childrenOf_length step.stepInstanceId) (List.length_pos_of_mem isIn))
  refine ⟨child, ?_, ?_⟩
  · rw [isOnly] at isIn ⊢
    rw [List.mem_singleton.mp isIn]
  · obtain ⟨caller, callerMember, key, _, _, _, _, _, names, _⟩ :=
      linked.caller child childMember step.stepInstanceId isChild
    have same : caller = step := Table.eq_of_key_eq callerMember member key
    rw [names, same]

/-- A process whose second step calls another one. -/
def manualChild : Templates where
  steps := [.row 1 .manual 1 none, .row 1 .callProcess 2 (some 2), .row 2 .manual 1 none]
  requirements := []
  triggers := []
  bindings := []
  configObjects := []

/-- The second step is asked for twice more after it was blocked. -/
def calledOnce : List Action :=
  [.invoke (.startProcess (.workflow 1 1 .ignore)), .invoke (.markCompleted 1 .none),
    .invoke (.attemptAdvance 2 .none), .invoke (.resumeParent 1 .none)]

theorem children_unique_calledOnce :
    (∀ stepInstanceId, (((system .allEnabled).run (installed manualChild)
      calledOnce).world.db.childrenOf stepInstanceId).length ≤ 1) ∧
    ∃ child, ((system .allEnabled).run (installed manualChild)
      calledOnce).world.db.childrenOf 2 = [child] ∧ child.parentInstanceId = some 1 := by
  have unique := @children_unique .allEnabled _
    ⟨installed manualChild, calledOnce, fresh_installed manualChild, rfl⟩
  refine ⟨unique.1, ?_⟩
  obtain ⟨step, member, key, process, blocked, reason⟩ : ∃ step ∈ ((system .allEnabled).run
      (installed manualChild) calledOnce).world.db.steps.rows, step.stepInstanceId = 2 ∧
        step.processInstanceId = 1 ∧ step.status = .blocked ∧
          step.blockedReason = waitingChild := by
    decide
  obtain ⟨child, isOnly, ofProcess⟩ := unique.2 step member blocked reason
  exact ⟨child, by rw [← key]; exact isOnly, by rw [ofProcess, process]⟩

end Engine

end CoreApi.Automation
