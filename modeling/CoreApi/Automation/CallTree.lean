import CoreApi.Automation.InstalledTemplates
import CoreApi.Automation.ParentFailure
import CoreApi.Foundation.Forest

/-!
# Call trees

A process that calls another one is older than it, and the two belong to one
tenant. So the processes of every reachable state form trees: the calls never
close a cycle, every process leads to exactly one root, and a whole tree belongs
to the tenant of its root.
-/

namespace CoreApi.Automation

open CoreApi.Foundation Relation StepOrchestrator ChildProcessOrchestration

variable {deployment : Deployment}

/-- The stored process was called by the other one. -/
def CalledBy (db : Database) (child parent : ProcessInstance) : Prop :=
  child ∈ db.processInstances.rows ∧ parent ∈ db.processInstances.rows ∧
    child.parentInstanceId = some parent.processInstanceId

theorem CalledBy.unique (db : Database) : Relator.RightUnique (CalledBy db) := by
  intro child parent parent' called called'
  obtain ⟨_, member, isParent⟩ := called
  obtain ⟨_, member', isParent'⟩ := called'
  apply Table.eq_of_key_eq member member'
  exact Option.some.inj (isParent.symm.trans isParent')

theorem ParentsOlder.calls {db : Database} (older : ParentsOlder db) :
    Forest.Older (CalledBy db) ProcessInstance.processInstanceId :=
  fun child _ called => older child called.1 _ called.2.2

theorem Linked.calledBy {db : Database} (linked : Linked db) {child : ProcessInstance}
    (member : child ∈ db.processInstances.rows) (called : child.parentInstanceId ≠ none) :
    ∃ parent, CalledBy db child parent ∧ child.tenantId = parent.tenantId := by
  cases isCalled : child.parentStepId with
  | none => exact absurd (linked.root child member isCalled) called
  | some parentStepId =>
      obtain ⟨step, _, _, _, _, parent, parentMember, key, names, tenant⟩ :=
        linked.caller child member parentStepId isCalled
      exact ⟨parent, ⟨member, parentMember, names.trans (by rw [key])⟩, tenant⟩

theorem Linked.sameTenant {db : Database} (linked : Linked db) ⦃child parent : ProcessInstance⦄
    (called : CalledBy db child parent) : child.tenantId = parent.tenantId := by
  obtain ⟨parent', called', tenant⟩ := linked.calledBy called.1 (by rw [called.2.2]; simp)
  rw [tenant, CalledBy.unique db called called']

/-- The roots of the calls are the processes without a parent identifier. -/
theorem Linked.isRoot_iff {db : Database} (linked : Linked db) {row : ProcessInstance}
    (member : row ∈ db.processInstances.rows) :
    Forest.IsRoot (CalledBy db) row ↔ row.parentInstanceId = none := by
  constructor
  · intro isRoot
    by_contra called
    obtain ⟨parent, calledBy, _⟩ := linked.calledBy member called
    exact isRoot parent calledBy
  · intro isNone parent called
    rw [called.2.2] at isNone
    cases isNone

theorem stored_of_path {db : Database} {row above : ProcessInstance}
    (member : row ∈ db.processInstances.rows) (path : ReflTransGen (CalledBy db) row above) :
    above ∈ db.processInstances.rows := by
  rcases path.cases_tail with same | ⟨_, _, called⟩
  · exact same ▸ member
  · exact called.2.1

namespace Engine

/-- In every reachable state the calls between processes close no cycle, and lead from
every process to exactly one root, which belongs to the tenant of the process. -/
theorem calls_formTrees {state : State} (reachable : Reachable deployment state)
    {row : ProcessInstance} (stored : row ∈ state.world.db.processInstances.rows) :
    ¬TransGen (CalledBy state.world.db) row row ∧
      ∃ root ∈ state.world.db.processInstances.rows, root.parentInstanceId = none ∧
        ReflTransGen (CalledBy state.world.db) row root ∧ row.tenantId = root.tenantId ∧
          ∀ other ∈ state.world.db.processInstances.rows, other.parentInstanceId = none →
            ReflTransGen (CalledBy state.world.db) row other → other = root := by
  have linked := reachable_linked reachable
  have older := (reachable_parentsOlder reachable).calls
  obtain ⟨root, path, isRoot⟩ := older.exists_root row
  have member := stored_of_path stored path
  refine ⟨older.acyclic row, root, member, (linked.isRoot_iff member).mp isRoot, path,
    Forest.eq_of_path linked.sameTenant path, fun other otherMember noParent otherPath => ?_⟩
  exact Forest.root_unique (CalledBy.unique _) path isRoot otherPath
    ((linked.isRoot_iff otherMember).mpr noParent)

/-- A process of tenant 7 calls another one. -/
def callOfTenant : List Action :=
  [.invoke (.startProcess (.workflow 7 1 .ignore)), .invoke (.markCompleted 1 .none)]

theorem calls_formTrees_callOfTenant :
    ∃ row ∈ ((system .allEnabled).run (installed nestedCalls)
      callOfTenant).world.db.processInstances.rows, row.parentInstanceId = some 1 ∧
        ∃ root, ReflTransGen (CalledBy ((system .allEnabled).run (installed nestedCalls)
          callOfTenant).world.db) row root ∧ root.parentInstanceId = none ∧
            row.tenantId = root.tenantId := by
  obtain ⟨row, stored, isChild⟩ : ∃ row ∈ ((system .allEnabled).run (installed nestedCalls)
      callOfTenant).world.db.processInstances.rows, row.parentInstanceId = some 1 := by
    decide
  obtain ⟨_, root, _, noParent, path, tenant, _⟩ := @calls_formTrees .allEnabled _
    ⟨installed nestedCalls, callOfTenant, fresh_installed nestedCalls, rfl⟩ row stored
  exact ⟨row, stored, isChild, root, path, noParent, tenant⟩

end Engine

end CoreApi.Automation
