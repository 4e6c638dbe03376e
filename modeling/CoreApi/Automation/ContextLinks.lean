import CoreApi.Automation.CallWrites
import CoreApi.Automation.InstalledTemplates

/-!
# The parent in the context of a child

`buildChildContext` names the parent last, so the context of a new child names
its parent. `mergeChildContextIntoParent` spreads the whole context of the child
over that of the parent, and with it the name of the parent itself.
-/

namespace CoreApi.Automation

open CoreApi.Foundation StepOrchestrator ChildProcessOrchestration

variable {deployment : Deployment}

/-- The entry `parentProcessInstanceId` of the context of a process. -/
def parentName (row : ProcessInstance) : Option Json :=
  Record.get? (row.context.getD []) "parentProcessInstanceId"

/-- Every child names its parent in its context. -/
def NamesParent (db : Database) : Prop :=
  ∀ row ∈ db.processInstances.rows, ∀ parentInstanceId,
    row.parentInstanceId = some parentInstanceId → parentName row = some (.num parentInstanceId)

/-- No stored process gets another entry `parentProcessInstanceId`. -/
def KeepsNames (before after : Database) : Prop :=
  ∀ row ∈ before.processInstances.rows, ∃ later ∈ after.processInstances.rows,
    later.processInstanceId = row.processInstanceId ∧ parentName later = parentName row

/-- Contexts are JSON objects, and name the parents of the processes. -/
structure ContextsLinked (db : Database) : Prop where
  distinct : ∀ row ∈ db.processInstances.rows, Record.Distinct (row.context.getD [])
  names : NamesParent db

/-! ## Writes that leave contexts alone -/

/-- Two rows of a process with one context and one parent. -/
structure SameContext (row other : ProcessInstance) : Prop where
  key : other.processInstanceId = row.processInstanceId
  parent : other.parentInstanceId = row.parentInstanceId
  context : other.context = row.context

/-- The stored processes keep their contexts, and what is added has a linked one. -/
structure ContextsKept (before after : Database) : Prop where
  kept : ∀ row ∈ before.processInstances.rows, ∃ later ∈ after.processInstances.rows,
    SameContext row later
  origin : ∀ later ∈ after.processInstances.rows,
    (∃ row ∈ before.processInstances.rows, SameContext row later) ∨
      Record.Distinct (later.context.getD []) ∧ ∀ parentInstanceId,
        later.parentInstanceId = some parentInstanceId →
          parentName later = some (.num parentInstanceId)

namespace ContextsKept

theorem of_rows {before after : Database}
    (rows : after.processInstances.rows = before.processInstances.rows) :
    ContextsKept before after :=
  ⟨fun row member => ⟨row, rows ▸ member, rfl, rfl, rfl⟩,
    fun row member => .inl ⟨row, rows ▸ member, rfl, rfl, rfl⟩⟩

theorem of_hosts {before after : Database} (tables : HostTables before after) :
    ContextsKept before after := by
  obtain ⟨_, _, _, _, rfl⟩ := tables
  exact .of_rows rfl

theorem trans {a b c : Database} (first : ContextsKept a b) (second : ContextsKept b c) :
    ContextsKept a c := by
  constructor
  · intro row member
    obtain ⟨middle, middleMember, same⟩ := first.kept row member
    obtain ⟨later, laterMember, same'⟩ := second.kept middle middleMember
    exact ⟨later, laterMember, same'.key.trans same.key, same'.parent.trans same.parent,
      same'.context.trans same.context⟩
  · intro later member
    rcases second.origin later member with ⟨middle, middleMember, same'⟩ | new
    · rcases first.origin middle middleMember with ⟨row, rowMember, same⟩ | ⟨distinct, names⟩
      · exact .inl ⟨row, rowMember, same'.key.trans same.key, same'.parent.trans same.parent,
          same'.context.trans same.context⟩
      · refine .inr ⟨same'.context ▸ distinct, fun parentInstanceId isParent => ?_⟩
        rw [parentName, same'.context]
        exact names parentInstanceId (same'.parent ▸ isParent)
    · exact .inr new

/-- An update of a process that leaves its context. -/
theorem setInstance (db : Database) (processInstanceId : Nat)
    {next : InstanceStatus → InstanceStatus} {set : ProcessInstance → ProcessInstance}
    (sets : SetsInstance next set) (contexts : ∀ row, (set row).context = row.context) :
    ContextsKept db (db.setInstance processInstanceId set sets.key) := by
  constructor
  · intro row member
    by_cases same : row.processInstanceId = processInstanceId
    · exact ⟨set row, (mem_setInstance sets.key).mpr (.inl ⟨row, member, same, rfl⟩),
        sets.key row, sets.parentInstance row, contexts row⟩
    · exact ⟨row, (mem_setInstance sets.key).mpr (.inr ⟨member, same⟩), rfl, rfl, rfl⟩
  · intro later member
    rcases (mem_setInstance sets.key).mp member with ⟨row, rowMember, _, rfl⟩ | ⟨untouched, _⟩
    · exact .inl ⟨row, rowMember, sets.key row, sets.parentInstance row, contexts row⟩
    · exact .inl ⟨later, untouched, rfl, rfl, rfl⟩

/-- A started process whose context is linked. -/
theorem started {before after : World} {params : StartProcessParams} {row : ProcessInstance}
    (start : Started params row before after)
    (distinct : Record.Distinct (params.context.getD []))
    (names : ∀ parentInstanceId, params.parentInstanceId = some parentInstanceId →
      Record.get? (params.context.getD []) "parentProcessInstanceId" =
        some (.num parentInstanceId)) :
    ContextsKept before.db after.db := by
  constructor
  · exact fun other member => ⟨other, start.instance_kept member, rfl, rfl, rfl⟩
  · intro later member
    rw [start.instances] at member
    rcases List.mem_append.mp member with old | new
    · exact .inl ⟨later, old, rfl, rfl, rfl⟩
    · rw [List.mem_singleton.mp new]
      refine .inr ⟨start.fresh.context ▸ distinct, fun parentInstanceId isParent => ?_⟩
      rw [parentName, start.fresh.context]
      exact names parentInstanceId (start.fresh.parentInstance ▸ isParent)

theorem linked {before after : Database} (kept : ContextsKept before after)
    (linked : ContextsLinked before) : ContextsLinked after := by
  constructor
  · intro later member
    rcases kept.origin later member with ⟨row, rowMember, same⟩ | ⟨distinct, _⟩
    · rw [same.context]
      exact linked.distinct row rowMember
    · exact distinct
  · intro later member parentInstanceId isParent
    rcases kept.origin later member with ⟨row, rowMember, same⟩ | ⟨_, names⟩
    · rw [parentName, same.context]
      exact linked.names row rowMember parentInstanceId (same.parent ▸ isParent)
    · exact names parentInstanceId isParent

theorem keepsNames {before after : Database} (kept : ContextsKept before after) :
    KeepsNames before after := by
  intro row member
  obtain ⟨later, laterMember, same⟩ := kept.kept row member
  exact ⟨later, laterMember, same.key, by rw [parentName, same.context, parentName]⟩

end ContextsKept

/-! ## New children -/

/-- The context of a new child is that of its parent, with the parent named last. -/
theorem ChildProcessOrchestration.resolveChildStart_context {db : Database} {step : StepInstance}
    {opts : AdvanceOptions} {parent : ProcessInstance} {params : StartProcessParams}
    (resolved : resolveChildStart db step opts = .ok (parent, params)) :
    db.instance? step.processInstanceId = some parent ∧
      ∃ template, params.context = some (buildChildContext parent template) := by
  unfold resolveChildStart at resolved
  split at resolved
  · cases resolved
  · rename_i found isFound
    split at resolved
    · cases resolved
    · rename_i template _
      split at resolved
      · cases resolved
      · split at resolved
        · cases resolved
        · split at resolved
          · cases resolved
          · cases resolved
            exact ⟨isFound, template, rfl⟩

/-- An edit starts children whose contexts name their parents. -/
theorem Edit.contextsKept {origin before after : World} {process target : Nat}
    (edit : Edit deployment origin process target before after)
    (linked : ContextsLinked before.db) : ContextsKept before.db after.db := by
  cases edit with
  | hosted host => exact .of_hosts host.tables
  | evaluated => exact .of_rows rfl
  | provisioned _ _ _ _ _ _ _ _ writes =>
      obtain ⟨_, _, _, _, _, _, _, rfl⟩ := writes
      exact .of_rows rfl
  | readied _ _ _ _ _ _ _ host =>
      obtain ⟨_, _, _, _, tables⟩ := host.tables
      exact .of_rows (by rw [tables]; rfl)
  | blocked => exact .of_rows rfl
  | spawned step _ _ parent params _ _ _ _ _ _ resolved start =>
      obtain ⟨_, resolved⟩ := resolved
      obtain ⟨isParent, template, context⟩ := resolveChildStart_context resolved
      have childOf := childOf_of_resolveChildStart resolved
      have key : parent.processInstanceId = step.processInstanceId := Table.key_of_find? isParent
      have kept : ContextsKept before.db _ := .started start
        (by
          rw [context]
          exact ((linked.distinct parent (Table.mem_of_find? isParent)).spread _).set _ _)
        (by
          intro parentInstanceId names
          rw [childOf.parentInstance] at names
          cases names
          rw [context, ← key]
          exact Record.get?_set_self _ _ _)
      exact kept.trans (.of_rows rfl)

/-! ## Merging -/

theorem completedInstance_context (time : String) (row : ProcessInstance) :
    (completedInstance time row).context = row.context := by
  unfold completedInstance
  split <;> rfl

/-- The rows of the instances table under an update of one instance. -/
theorem rows_setInstance {db : Database} {processInstanceId : Nat}
    {set : ProcessInstance → ProcessInstance}
    {keeps : ∀ row, (set row).processInstanceId = row.processInstanceId} :
    (db.setInstance processInstanceId set keeps).processInstances.rows =
      db.processInstances.rows.map fun row =>
        if row.processInstanceId = processInstanceId then set row else row :=
  @Table.rows_updateAt _ _ _ _ set keeps

/-- The context of the parent is merged with that of the child; no other process
changes its context, and none its parent. -/
def Merged (child parent : ProcessInstance) (time : String) (before after : Database) : Prop :=
  ∃ set : ProcessInstance → ProcessInstance,
    (∀ row, (set row).processInstanceId = row.processInstanceId ∧
      (set row).parentInstanceId = row.parentInstanceId ∧
      (set row).parentStepId = row.parentStepId ∧
      (set row).context = if row.processInstanceId = parent.processInstanceId then
        some (mergedContext parent.context child.context time) else row.context) ∧
    after.processInstances.rows = before.processInstances.rows.map set

/-- What `handleChildTerminal` writes, once it has loaded the child, the parent and
the parent's step. -/
def terminalWrites (child parent : ProcessInstance) (parentStepId : Nat)
    (terminalStatus : TerminalStatus) (opts : AdvanceOptions) : Tx Unit := do
  let time ← now
  writeDb fun db => db.setInstance parent.processInstanceId
    (fun row => { row with context := some (mergedContext parent.context child.context time) })
    (fun _ => rfl)
  match terminalOutcome terminalStatus parent.onChildFailure with
  | .pause => emit (childTerminalEvent child parent parentStepId terminalStatus opts false)
  | .fail => do
      cancelParent parent.processInstanceId parentStepId
      emit (childTerminalEvent child parent parentStepId terminalStatus opts false)
  | .resume => do
      completeParentCallProcessStep parentStepId opts
      emit (childTerminalEvent child parent parentStepId terminalStatus opts true)

/-- `handleChildTerminal` loads, then writes. -/
theorem handleChildTerminalIn_eq (childProcessInstanceId : Nat) (terminalStatus : TerminalStatus)
    (opts : AdvanceOptions) (w : World) :
    handleChildTerminalIn childProcessInstanceId terminalStatus opts w =
      match childLink w.db childProcessInstanceId with
      | none => (.ok (), w)
      | some (child, parent, parentStepId) =>
          terminalWrites child parent parentStepId terminalStatus opts w := by
  cases link : childLink w.db childProcessInstanceId with
  | none =>
      simp only [handleChildTerminalIn, bind, Program.andThen, Program.read, link]
      rfl
  | some entry =>
      obtain ⟨child, parent, parentStepId⟩ := entry
      obtain ⟨_, _, _, isParent⟩ := childLink_eq_some link
      simp only [handleChildTerminalIn, terminalWrites, mergeChildContextIntoParent, bind,
        Program.andThen, Program.read, link, isParent]
      rfl

/-- The writes merge the contexts they loaded, whatever becomes of the parent otherwise. -/
theorem terminalWrites_merged (child parent : ProcessInstance) (parentStepId : Nat)
    (terminalStatus : TerminalStatus) (opts : AdvanceOptions) (w : World) :
    Program.wp (terminalWrites child parent parentStepId terminalStatus opts)
      (fun _ w' => Merged child parent w.now w.db w'.db ∧ w'.now = w.now)
      (fun _ _ => False) w := by
  have written : Merged child parent w.now w.db
      (w.db.setInstance parent.processInstanceId
        (fun row => { row with
          context := some (mergedContext parent.context child.context w.now) })
        (fun _ => rfl)) := by
    refine ⟨fun row => if row.processInstanceId = parent.processInstanceId then
      { row with context := some (mergedContext parent.context child.context w.now) } else row,
      fun row => ?_, ?_⟩
    · dsimp only
      split <;> simp [*]
    · rw [rows_setInstance]
  have canceled : Merged child parent w.now w.db
      ((w.db.setInstance parent.processInstanceId
        (fun row => { row with
          context := some (mergedContext parent.context child.context w.now) })
        (fun _ => rfl)).setInstance parent.processInstanceId (canceledInstance w.now)
          (fun _ => rfl)) := by
    obtain ⟨set, sets, rows⟩ := written
    refine ⟨fun row => if (set row).processInstanceId = parent.processInstanceId then
      canceledInstance w.now (set row) else set row, fun row => ?_, ?_⟩
    · dsimp only
      split <;> exact sets row
    · refine (@rows_setInstance _ _ (canceledInstance w.now) _).trans ?_
      rw [rows, List.map_map]
      rfl
  unfold terminalWrites
  simp only [Program.wp_bind, wp_now, wp_writeDb]
  split
  · exact ⟨written, rfl⟩
  · exact ⟨canceled, rfl⟩
  · unfold completeParentCallProcessStep
    simp only [Program.wp_bind, wp_now, wp_writeDb, Program.wp_read]
    split <;> exact ⟨written, rfl⟩

/-- `handleChildTerminal` merges the context of a linked child into its parent. -/
theorem handleChildTerminalIn_merged (childProcessInstanceId : Nat)
    (terminalStatus : TerminalStatus) (opts : AdvanceOptions) (w : World) :
    Program.wp (handleChildTerminalIn childProcessInstanceId terminalStatus opts)
      (fun _ w' => childLink w.db childProcessInstanceId = none ∧ w' = w ∨
        ∃ child parent parentStepId, childLink w.db childProcessInstanceId =
          some (child, parent, parentStepId) ∧ Merged child parent w.now w.db w'.db)
      (fun _ _ => False) w := by
  unfold Program.wp
  rw [handleChildTerminalIn_eq]
  cases link : childLink w.db childProcessInstanceId with
  | none => exact .inl ⟨rfl, rfl⟩
  | some entry =>
      obtain ⟨child, parent, parentStepId⟩ := entry
      exact Program.wp_mono (terminalWrites_merged child parent parentStepId terminalStatus opts w)
        (fun _ _ done => .inr ⟨child, parent, parentStepId, rfl, done.1⟩) (fun _ _ never => never)

/-- Children are merged into root processes only, and only where the root already
has the entry the merge gives it; contexts are JSON objects. -/
def MergesIntoNamed (deployment : Deployment) (w : World) : Engine.Call → Prop
  | .startProcess params => Record.Distinct (params.context.getD [])
  | .handleChildTerminal childProcessInstanceId _ _ =>
      isEnabled deployment = true → ∀ link ∈ childLink w.db childProcessInstanceId,
        link.2.1.parentInstanceId = none ∧
          parentName link.2.1 = some (.num link.2.1.processInstanceId)
  | _ => True

instance (w : World) : ∀ call, Decidable (MergesIntoNamed deployment w call)
  | .startProcess params => inferInstanceAs (Decidable (Record.Distinct (params.context.getD [])))
  | .handleChildTerminal childProcessInstanceId _ _ =>
      inferInstanceAs (Decidable (_ → ∀ link ∈ childLink w.db childProcessInstanceId, _ ∧ _))
  | .attemptAdvance _ _ | .markCompleted _ _ | .resumeParent _ _
  | .markProcessCompletedIfEligible _ | .validateByCustomInstanceId _ _ _
  | .createSubmission _ _ _ | .approveSubmission _ | .writeSubmission _ _
  | .updateRequirement _ _ | .updateCustomObjectInstance _ _ _ _ | .listener _ _ =>
      inferInstanceAs (Decidable True)

/-- A merge into a root that names itself changes no entry. -/
theorem Merged.kept {db after : Database} {child parent : ProcessInstance}
    {childProcessInstanceId parentStepId : Nat} {time : String} (linked : ContextsLinked db)
    (link : childLink db childProcessInstanceId = some (child, parent, parentStepId))
    (root : parent.parentInstanceId = none)
    (named : parentName parent = some (.num parent.processInstanceId))
    (merged : Merged child parent time db after) :
    ContextsLinked after ∧ KeepsNames db after := by
  obtain ⟨found, _, ofParent, isParent⟩ := childLink_eq_some link
  have childMember := Table.mem_of_find? found
  have parentMember := Table.mem_of_find? isParent
  have isRow : ∀ row ∈ db.processInstances.rows,
      row.processInstanceId = parent.processInstanceId → row = parent :=
    fun row member key => Table.eq_of_key_eq member parentMember key
  -- The child names its parent, and so does the merged context.
  have entry : Record.get? (mergedContext parent.context child.context time)
      "parentProcessInstanceId" = some (.num parent.processInstanceId) := by
    refine (Record.get?_set_of_ne _ _ (by decide)).trans ?_
    exact Record.get?_spread (linked.distinct child childMember)
      (linked.names child childMember parent.processInstanceId ofParent)
  obtain ⟨set, sets, rows⟩ := merged
  have image : ∀ row ∈ db.processInstances.rows, parentName (set row) = parentName row := by
    intro row member
    rw [parentName, (sets row).2.2.2]
    split
    · rename_i key
      rw [isRow row member key, named]
      exact entry
    · rfl
  refine ⟨⟨?_, ?_⟩, ?_⟩
  · intro later member
    obtain ⟨row, rowMember, rfl⟩ := List.mem_map.mp (rows ▸ member)
    rw [(sets row).2.2.2]
    split
    · exact ((linked.distinct parent parentMember).spread _).set _ _
    · exact linked.distinct row rowMember
  · intro later member parentInstanceId names
    obtain ⟨row, rowMember, rfl⟩ := List.mem_map.mp (rows ▸ member)
    rw [image row rowMember]
    exact linked.names row rowMember parentInstanceId ((sets row).2.1 ▸ names)
  · intro row member
    exact ⟨set row, rows ▸ List.mem_map_of_mem member, (sets row).1, image row member⟩

namespace Engine

/-- Every call but the report of a child leaves the contexts that are stored. -/
theorem contextsKept_keptByWrites {origin : World} {call : Call}
    (distinct : ∀ params, call = .startProcess params →
      Record.Distinct (params.context.getD []))
    (other : ∀ childProcessInstanceId terminalStatus opts,
      call ≠ .handleChildTerminal childProcessInstanceId terminalStatus opts)
    (linked : ContextsLinked origin.db) :
    KeptByWrites deployment (fun w => ContextsKept origin.db w.db) origin call where
  rolledBack _ rolledBack _ _ := by
    simp only [rolledBack]
    exact .of_rows rfl
  started {params} _ _ isCall start _ _ :=
    .started start (show Record.Distinct (params.context.getD []) from distinct params isCall)
      (fun _ impossible => by cases impossible)
  edit edit kept := kept.trans (edit.contextsKept (kept.linked linked))
  completed _ _ _ _ _ completes kept := by
    obtain ⟨_, _, tables⟩ := completes.tables
    refine kept.trans (ContextsKept.trans ?_ (.of_hosts tables))
    exact .of_rows rfl
  settled settlement kept := by
    have completes := fun db key time => ContextsKept.setInstance db key
      (setsInstance_completed time) (completedInstance_context time)
    cases settlement with
    | idle => exact kept
    | child => exact kept.trans (completes _ _ _)
    | announced _ _ _ _ _ announced =>
        exact kept.trans ((completes _ _ _).trans (.of_hosts announced.tables))
  told isCall _ _ _ := absurd isCall (other _ _ _)
  eligible _ _ := .setInstance _ _ (setsInstance_completed _) (completedInstance_context _)
  validated _ validated _ := by
    obtain ⟨_, _, _, _, _, _, _, rfl⟩ := validated
    exact .of_rows rfl
  evidence only _ _ := by
    obtain ⟨_, _, _, _, _, rfl⟩ := only
    exact .of_rows rfl
  marked {event} _ _ := by
    obtain ⟨_, shape⟩ := origin.db.markTriggers_shape origin.now
      (EventBridge.metTriggers deployment event none origin)
    simp only [EventBridge.marked, shape]
    exact .of_rows rfl

/-- A guarded call keeps the contexts linked and changes no stored entry. -/
theorem perform_keepsNames {w : World} {call : Call} (merges : MergesIntoNamed deployment w call)
    (linked : ContextsLinked w.db) :
    ContextsLinked (perform deployment call w).2.db ∧
      KeepsNames w.db (perform deployment call w).2.db := by
  by_cases reports : ∃ childProcessInstanceId terminalStatus opts,
      call = .handleChildTerminal childProcessInstanceId terminalStatus opts
  · obtain ⟨childProcessInstanceId, terminalStatus, opts, rfl⟩ := reports
    refine Program.wp_end (fun after : World => ContextsLinked after.db ∧ KeepsNames w.db after.db) ?_
    have same : ContextsLinked w.db ∧ KeepsNames w.db w.db :=
      ⟨linked, fun row member => ⟨row, member, rfl, rfl⟩⟩
    unfold perform handleChildTerminal
    rw [Program.wp_bind, Program.wp_ite]
    refine ⟨fun _ => same, fun enabled => ?_⟩
    rw [wp_transaction]
    refine Program.wp_mono (handleChildTerminalIn_merged childProcessInstanceId terminalStatus
      opts w) ?_ (fun _ _ never => never.elim)
    rintro _ after (⟨_, rfl⟩ | ⟨child, parent, parentStepId, link, merged⟩)
    · exact same
    · obtain ⟨root, named⟩ := merges (by simpa using enabled) _ link
      exact merged.kept linked link root named
  · have effect : Effect deployment w call (perform deployment call w).2 :=
      Program.wp_end _ (perform_effect deployment call w)
    have kept := effect.kept (contextsKept_keptByWrites
      (fun params isCall => by subst isCall; exact merges)
      (fun child status opts isCall => reports ⟨child, status, opts, isCall⟩) linked)
      (.of_rows rfl)
    exact ⟨kept.linked linked, kept.keepsNames⟩

/-- Every child names its parent at the end of the run, and no action of the run
changes an entry `parentProcessInstanceId`. -/
def ParentsNamed (deployment : Deployment) (start : State) (actions : List Action) : Prop :=
  NamesParent ((system deployment).run start actions).world.db ∧
    ∀ before action after, actions = before ++ action :: after →
      KeepsNames ((system deployment).run start before).world.db
        ((system deployment).run start (before ++ [action])).world.db

/-- In every run whose calls merge into roots that name themselves only, contexts
name the parents. -/
theorem parents_named {start : State} (fresh : Fresh start) {actions : List Action}
    (merges : (system deployment).Guarded (Meets (MergesIntoNamed deployment)) start actions) :
    ParentsNamed deployment start actions := by
  have linked : ∀ {actions}, (system deployment).Guarded (Meets (MergesIntoNamed deployment))
      start actions → ContextsLinked ((system deployment).run start actions).world.db := by
    intro actions guarded
    refine run_performed (fun w => ContextsLinked w.db) (fun _ _ _ holds => holds)
      (fun _ _ merges holds => (perform_keepsNames merges holds).1) ?_ guarded
    constructor
    · intro row member
      rw [fresh.processInstances] at member
      cases member
    · intro row member
      rw [fresh.processInstances] at member
      cases member
  refine ⟨(linked merges).names, ?_⟩
  rintro before action after rfl
  rw [StepSystem.guarded_append] at merges
  obtain ⟨first, meets, _⟩ := merges
  have inTurn := linked first
  rw [StepSystem.run_append]
  show KeepsNames _ (step deployment _ action).world.db
  rw [← turn_db _ action] at inTurn ⊢
  rcases step_performs _ action with ⟨call, isCall, world⟩ | ⟨_, world⟩
  · rw [world]
    exact (perform_keepsNames (meets call isCall) inTurn).2
  · rw [world]
    exact fun row member => ⟨row, member, rfl, rfl⟩

instance (db : Database) : Decidable (NamesParent db) :=
  inferInstanceAs (Decidable (∀ row ∈ db.processInstances.rows,
    ∀ parentInstanceId ∈ row.parentInstanceId,
      parentName row = some (.num (parentInstanceId : Int))))

/-- A root that names itself is started, and its child reported. -/
def rootNamed : List Action :=
  [.invoke (.startProcess { StartProcessParams.workflow 1 1 .ignore with
      context := some [("parentProcessInstanceId", .num 1)] }),
    .invoke (.markCompleted 1 .none), .invoke (.handleChildTerminal 2 .completed .none)]

theorem parents_named_rootNamed :
    ParentsNamed .allEnabled (installed nestedCalls) rootNamed :=
  parents_named (fresh_installed nestedCalls) (by decide +kernel)

/-- The grandchild of a root is reported to the child. -/
def grandchildMerged : List Action :=
  [.invoke (.startProcess (.workflow 1 1 .ignore)), .invoke (.markCompleted 1 .none),
    .invoke (.markCompleted 3 .none), .invoke (.handleChildTerminal 3 .completed .none)]

/-- The child names itself as its parent, once its own child was merged into it. -/
theorem grandchildMerged_notNamed :
    ¬ ParentsNamed .allEnabled (installed nestedCalls) grandchildMerged := by
  rintro ⟨names, _⟩
  revert names
  decide +kernel

end Engine

end CoreApi.Automation
