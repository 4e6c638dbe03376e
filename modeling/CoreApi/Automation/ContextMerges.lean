import CoreApi.Automation.ContextLinks
import CoreApi.Automation.ParentFailure
import CoreApi.Foundation.ReadModifyWrite
import Mathlib.Data.List.Induction

/-!
# Merges that overlap

Two transactions of `handleChildTerminal` for children of one parent lock the row
of the parent only when they write it. What a transaction loaded may be old by
then: its write replaces the merges that were committed in between.
-/

namespace CoreApi.Automation

open CoreApi.Foundation ChildProcessOrchestration

variable {deployment : Deployment}

namespace ContextMerges

/-! ## Interleaved transactions -/

/-- The committed world, and what each open transaction has loaded. -/
structure State where
  world : World
  loaded : Nat → Option (ProcessInstance × ProcessInstance × Nat)

/-- The reads of a transaction, its writes up to the commit, and the clock. The
parent's row stays locked from the first write to the commit, so nothing another
transaction writes comes between. -/
inductive Action where
  | load (childProcessInstanceId : Nat)
  | commit (childProcessInstanceId : Nat) (terminalStatus : TerminalStatus)
      (opts : AdvanceOptions)
  | tick (now : String)

/-- The state after an action. -/
def step (state : State) : Action → State
  | .load childProcessInstanceId =>
      { state with
        loaded := Function.update state.loaded childProcessInstanceId
          (childLink state.world.db childProcessInstanceId) }
  | .commit childProcessInstanceId terminalStatus opts =>
      match state.loaded childProcessInstanceId with
      | none => state
      | some (child, parent, parentStepId) =>
          { world := (terminalWrites child parent parentStepId terminalStatus opts state.world).2
            loaded := Function.update state.loaded childProcessInstanceId none }
  | .tick now => { state with world := { state.world with now := now } }

/-- Transactions of `handleChildTerminal` under READ COMMITTED. -/
def system : StepSystem State Action where
  step := step

/-- No transaction is open. -/
def opened (world : World) : State := ⟨world, fun _ => none⟩

/-- The child an action is about. -/
def Action.child? : Action → Option Nat
  | .load childProcessInstanceId => some childProcessInstanceId
  | .commit childProcessInstanceId _ _ => some childProcessInstanceId
  | .tick _ => none

/-- Every child of the list runs one transaction to its commit, and nobody else does. -/
structure Interleaves (children : List Nat) (schedule : List Action) : Prop where
  only : ∀ action ∈ schedule, ∀ child ∈ action.child?, child ∈ children
  commits : ∀ child ∈ children, ∃ terminalStatus opts,
    schedule.filter (fun action => action.child? = some child) =
      [.load child, .commit child terminalStatus opts]

/-- The context column of a process. -/
def contextOf (db : Database) (processInstanceId : Nat) : Option Record :=
  (db.instance? processInstanceId).bind ProcessInstance.context

/-- The entries of the context of a process. -/
def entriesOf (db : Database) (processInstanceId : Nat) : Record :=
  (contextOf db processInstanceId).getD []

/-- Every key of a child is in the context of the parent, under the value of a child. -/
def UpdatesKept (before after : Database) (parentInstanceId : Nat) (children : List Nat) : Prop :=
  ∀ child ∈ children, ∀ key ∈ (entriesOf before child).names,
    ∃ value, (entriesOf after parentInstanceId).get? key = some value ∧
      ∃ other ∈ children, (key, value) ∈ entriesOf before other

/-! ## The context as a cell -/

/-- What a merge makes of the context it loaded. -/
def merge (context : Nat → Option Record) (child : Nat) (time : String)
    (loaded : Option Record) : Option Record :=
  some (mergedContext loaded (context child) time)

/-- What a schedule does with the context of the parent. -/
def accesses : String → List Action → List (Access Nat String)
  | _, [] => []
  | time, .load child :: rest => .read child :: accesses time rest
  | time, .commit child _ _ :: rest => .write child time :: accesses time rest
  | _, .tick time :: rest => accesses time rest

/-- The rows of an updated table are found under their keys. -/
theorem instance?_map {before after : Database} {set : ProcessInstance → ProcessInstance}
    (keeps : ∀ row, (set row).processInstanceId = row.processInstanceId)
    (rows : after.processInstances.rows = before.processInstances.rows.map set) (key : Nat) :
    after.instance? key = (before.instance? key).map set := by
  unfold Database.instance? Table.find?
  rw [rows, List.find?_map]
  congr 2
  funext row
  exact congrArg (· == key) (keeps row)

/-- The links of a merged database are those of the old rows. -/
theorem childLink_map {before after : Database} {set : ProcessInstance → ProcessInstance}
    (keeps : ∀ row, (set row).processInstanceId = row.processInstanceId ∧
      (set row).parentInstanceId = row.parentInstanceId ∧
      (set row).parentStepId = row.parentStepId)
    (rows : after.processInstances.rows = before.processInstances.rows.map set) (child : Nat) :
    childLink after child =
      (childLink before child).map fun link => (set link.1, set link.2.1, link.2.2) := by
  have found := fun key => instance?_map (fun row => (keeps row).1) rows key
  unfold childLink
  rw [found child]
  cases before.instance? child with
  | none => rfl
  | some row =>
      simp only [Option.map_some, (keeps row).2.1, (keeps row).2.2]
      cases row.parentStepId with
      | none => rfl
      | some parentStepId =>
          cases row.parentInstanceId with
          | none => rfl
          | some parentInstanceId =>
              simp only [found parentInstanceId]
              split
              · rfl
              · cases before.instance? parentInstanceId <;> rfl

/-- The cell holds the context of the parent, and the clients have read what their
transactions have loaded. -/
structure Simulates (parentInstanceId : Nat) (children : List Nat)
    (context : Nat → Option Record) (state : State) (cell : Cell Nat (Option Record)) :
    Prop where
  value : cell.value = contextOf state.world.db parentInstanceId
  linked : ∀ child ∈ children, ∃ link, childLink state.world.db child = some link ∧
    link.1.context = context child ∧ link.2.1.processInstanceId = parentInstanceId
  seen : ∀ child ∈ children, cell.seen child =
    (state.loaded child).map fun link => link.2.1.context
  loaded : ∀ child ∈ children, ∀ link, state.loaded child = some link →
    link.1.context = context child ∧ link.2.1.processInstanceId = parentInstanceId

namespace Simulates

variable {parentInstanceId : Nat} {children : List Nat} {context : Nat → Option Record}
  {state : State} {cell : Cell Nat (Option Record)}

theorem load (simulates : Simulates parentInstanceId children context state cell) {child : Nat}
    (known : child ∈ children) :
    Simulates parentInstanceId children context (step state (.load child))
      (cell.access (merge context) (.read child)) := by
  obtain ⟨link, isLink, ofChild, ofParent⟩ := simulates.linked child known
  obtain ⟨row, parent, parentStepId⟩ := link
  obtain ⟨_, _, _, isParent⟩ := childLink_eq_some isLink
  have key : parent.processInstanceId = parentInstanceId := ofParent
  refine ⟨simulates.value, simulates.linked, fun other member => ?_, fun other member loaded => ?_⟩
  · simp only [step, Cell.access, Function.update_apply]
    split
    · rw [isLink, simulates.value, contextOf, ← key, isParent]
      rfl
    · exact simulates.seen other member
  · simp only [step, Function.update_apply]
    split
    · rintro isLoaded
      rw [isLink] at isLoaded
      cases isLoaded
      rename_i same
      exact ⟨same ▸ ofChild, ofParent⟩
    · exact simulates.loaded other member loaded

theorem commit (simulates : Simulates parentInstanceId children context state cell)
    (apart : parentInstanceId ∉ children) {child : Nat} (known : child ∈ children)
    (terminalStatus : TerminalStatus) (opts : AdvanceOptions) :
    Simulates parentInstanceId children context (step state (.commit child terminalStatus opts))
        (cell.access (merge context) (.write child state.world.now)) ∧
      (step state (.commit child terminalStatus opts)).world.now = state.world.now := by
  cases isLoaded : state.loaded child with
  | none =>
      have unseen : cell.seen child = none := by rw [simulates.seen child known, isLoaded]; rfl
      simp only [step, Cell.access, isLoaded, unseen]
      exact ⟨simulates, trivial⟩
  | some link =>
      obtain ⟨row, parent, parentStepId⟩ := link
      have seen : cell.seen child = some parent.context := by
        rw [simulates.seen child known, isLoaded]
        rfl
      obtain ⟨ofChild, ofParent⟩ := simulates.loaded child known _ isLoaded
      have ofChild : row.context = context child := ofChild
      have ofParent : parent.processInstanceId = parentInstanceId := ofParent
      have writes := Program.wp_end
        (fun after : World => Merged row parent state.world.now state.world.db after.db ∧
          after.now = state.world.now)
        (Program.wp_mono (terminalWrites_merged row parent parentStepId terminalStatus opts
          state.world) (fun _ _ done => done) (fun _ _ never => never.elim))
      simp only [step, Cell.access, isLoaded, seen]
      generalize (terminalWrites row parent parentStepId terminalStatus opts state.world).2 = after
        at writes ⊢
      obtain ⟨⟨set, sets, rows⟩, time⟩ := writes
      have found := fun key => instance?_map (fun row => (sets row).1) rows key
      refine ⟨⟨?_, fun other member => ?_, fun other member => ?_, fun other member loaded => ?_⟩,
        time⟩
      · obtain ⟨⟨_, stored, _⟩, isLink, _, same⟩ := simulates.linked child known
        obtain ⟨_, _, _, isParent⟩ := childLink_eq_some isLink
        have same : stored.processInstanceId = parentInstanceId := same
        rw [same] at isParent
        rw [contextOf, found, isParent]
        simp only [merge, Option.map_some, Option.bind_some, (sets stored).2.2.2]
        rw [if_pos (same.trans ofParent.symm), ofChild]
      · obtain ⟨⟨otherRow, stored, stepId⟩, isLink, otherContext, same⟩ :=
          simulates.linked other member
        refine ⟨_, (childLink_map (fun row => ⟨(sets row).1, (sets row).2.1, (sets row).2.2.1⟩)
          rows other).trans (congrArg _ isLink), ?_, ((sets stored).1).trans same⟩
        obtain ⟨isOther, _⟩ := childLink_eq_some isLink
        have key : otherRow.processInstanceId = other := Table.key_of_find? isOther
        refine ((sets otherRow).2.2.2).trans ?_
        rw [if_neg]
        · exact otherContext
        · rw [key, ofParent]
          rintro rfl
          exact apart member
      · simp only [Function.update_apply]
        split
        · rfl
        · exact simulates.seen other member
      · simp only [Function.update_apply]
        split
        · intro impossible
          cases impossible
        · exact simulates.loaded other member loaded

/-- A schedule runs the cell through its accesses. -/
theorem run (apart : parentInstanceId ∉ children) {schedule : List Action}
    (simulates : Simulates parentInstanceId children context state cell)
    (only : ∀ action ∈ schedule, ∀ child ∈ action.child?, child ∈ children) :
    Simulates parentInstanceId children context (system.run state schedule)
      ((Cell.system (merge context)).run cell (accesses state.world.now schedule)) := by
  induction schedule generalizing state cell with
  | nil => exact simulates
  | cons action rest ih =>
      have others := fun later member => only later (List.mem_cons_of_mem action member)
      have known := only action List.mem_cons_self
      cases action with
      | load child => exact ih (simulates.load (known child rfl)) others
      | commit child terminalStatus opts =>
          obtain ⟨stepped, time⟩ :=
            simulates.commit apart (known child rfl) terminalStatus opts
          have later := ih stepped others
          rw [time] at later
          exact later
      | tick now =>
          have ticked : Simulates parentInstanceId children context (step state (.tick now)) cell :=
            ⟨simulates.value, simulates.linked, simulates.seen, simulates.loaded⟩
          exact ih ticked others

end Simulates

/-! ## Keys that survive -/

section Merges

variable (context : Nat → Option Record) (start : Option Record)

/-- The context after merges, one over the other. -/
def mergeAll (writes : List (Nat × String)) : Option Record :=
  writes.foldl (fun loaded write => merge context write.1 write.2 loaded) start

theorem mergeAll_concat (writes : List (Nat × String)) (last : Nat × String) :
    mergeAll context start (writes ++ [last]) =
      merge context last.1 last.2 (mergeAll context start writes) := by
  rw [mergeAll, List.foldl_append]
  rfl

theorem get?_mergeAll_stamp (writes : List (Nat × String)) (last : Nat × String) :
    Record.get? ((mergeAll context start (writes ++ [last])).getD []) "childMergedAt" =
      some (.str last.2) := by
  rw [mergeAll_concat]
  exact Record.get?_set_self _ _ _

variable {context start} {key : String} (unstamped : key ≠ "childMergedAt")

include unstamped

/-- A key of a merged child has the value of a merged child. -/
theorem get?_mergeAll_of_mem {writes : List (Nat × String)}
    (merged : ∃ write ∈ writes, key ∈ Record.names ((context write.1).getD [])) :
    ∃ value, Record.get? ((mergeAll context start writes).getD []) key = some value ∧
      ∃ write ∈ writes, (key, value) ∈ (context write.1).getD [] := by
  induction writes using List.reverseRecOn with
  | nil =>
      obtain ⟨_, member, _⟩ := merged
      cases member
  | append_singleton writes last ih =>
      rw [mergeAll_concat]
      by_cases own : key ∈ Record.names ((context last.1).getD [])
      · obtain ⟨value, member, isValue⟩ := @Record.get?_spread_of_mem
          ((mergeAll context start writes).getD []) _ _ own
        exact ⟨value, (Record.get?_set_of_ne _ _ unstamped).trans isValue, last,
          List.mem_append_right _ List.mem_cons_self, member⟩
      · obtain ⟨write, member, isKey⟩ := merged
        rcases List.mem_append.mp member with earlier | isLast
        · obtain ⟨value, isValue, other, otherMember, given⟩ :=
            ih ⟨write, earlier, isKey⟩
          refine ⟨value, ?_, other, List.mem_append_left _ otherMember, given⟩
          exact (Record.get?_set_of_ne _ _ unstamped).trans
            ((Record.get?_spread_of_not_mem own).trans isValue)
        · exact absurd (List.mem_singleton.mp isLast ▸ isKey) own

/-- A key of no merged child keeps the value it had. -/
theorem get?_mergeAll_of_not_mem {writes : List (Nat × String)}
    (unmerged : ∀ write ∈ writes, key ∉ Record.names ((context write.1).getD [])) :
    Record.get? ((mergeAll context start writes).getD []) key =
      Record.get? (start.getD []) key := by
  induction writes using List.reverseRecOn with
  | nil => rfl
  | append_singleton writes last ih =>
      rw [mergeAll_concat]
      refine (Record.get?_set_of_ne _ _ unstamped).trans ?_
      refine (Record.get?_spread_of_not_mem
        (unmerged last (List.mem_append_right _ List.mem_cons_self))).trans ?_
      exact ih fun write member => unmerged write (List.mem_append_left _ member)

end Merges

/-- The key is one that a merge which was not overwritten contributes, or one that
the parent had already with the value of a child; the stamp of the last merge counts
where a child has it. -/
def Survives (before : Database) (parentInstanceId : Nat) (children : List Nat)
    (writes : List (Nat × String)) (key : String) : Prop :=
  if key = "childMergedAt" then
    ∃ last ∈ writes.getLast?, ∃ other ∈ children, (key, .str last.2) ∈ entriesOf before other
  else
    (∃ write ∈ writes, key ∈ (entriesOf before write.1).names) ∨
      ∃ value, (entriesOf before parentInstanceId).get? key = some value ∧
        ∃ other ∈ children, (key, value) ∈ entriesOf before other

theorem run_context {w : World} {parentInstanceId : Nat} {children : List Nat}
    (linked : ∀ child ∈ children, ∃ link ∈ childLink w.db child,
      link.2.1.processInstanceId = parentInstanceId)
    (apart : parentInstanceId ∉ children) {schedule : List Action}
    (only : ∀ action ∈ schedule, ∀ child ∈ action.child?, child ∈ children) :
    contextOf (system.run (opened w) schedule).world.db parentInstanceId =
      mergeAll (contextOf w.db) (contextOf w.db parentInstanceId)
        (Cell.survivors (accesses w.now schedule)) := by
  have simulates : Simulates parentInstanceId children (contextOf w.db) (opened w)
      (.fresh (contextOf w.db parentInstanceId)) := by
    refine ⟨rfl, fun child member => ?_, fun _ _ => rfl, fun _ _ _ impossible => by
      cases impossible⟩
    obtain ⟨link, isLink, ofParent⟩ := linked child member
    obtain ⟨row, parent, parentStepId⟩ := link
    obtain ⟨found, _⟩ := childLink_eq_some isLink
    exact ⟨_, isLink, by rw [contextOf, found]; rfl, ofParent⟩
  exact (simulates.run apart only).value.symm.trans (Cell.run_value _ _ _)

/-- A surviving merge is one of a child that committed. -/
theorem committed_of_access {time later : String} {schedule : List Action} {child : Nat}
    (member : .write child later ∈ accesses time schedule) :
    ∃ action ∈ schedule, action.child? = some child := by
  induction schedule generalizing time with
  | nil => cases member
  | cons action rest ih =>
      cases action with
      | load other =>
          have inRest : .write child later ∈ accesses time rest := by
            simpa [accesses] using member
          obtain ⟨action, isIn, isChild⟩ := ih inRest
          exact ⟨action, List.mem_cons_of_mem _ isIn, isChild⟩
      | commit other terminalStatus opts =>
          rcases List.mem_cons.mp member with same | inRest
          · cases same
            exact ⟨_, List.mem_cons_self, rfl⟩
          · obtain ⟨action, isIn, isChild⟩ := ih inRest
            exact ⟨action, List.mem_cons_of_mem _ isIn, isChild⟩
      | tick now =>
          obtain ⟨action, isIn, isChild⟩ := @ih now member
          exact ⟨action, List.mem_cons_of_mem _ isIn, isChild⟩

/-- The accesses of a schedule are those of its parts. -/
theorem accesses_append (first rest : List Action) :
    ∀ time, ∃ later, accesses time (first ++ rest) = accesses time first ++ accesses later rest := by
  induction first with
  | nil => exact fun time => ⟨time, rfl⟩
  | cons action others ih =>
      intro time
      cases action with
      | load child =>
          obtain ⟨later, eq⟩ := ih time
          exact ⟨later, congrArg (Access.read child :: ·) eq⟩
      | commit child terminalStatus opts =>
          obtain ⟨later, eq⟩ := ih time
          exact ⟨later, congrArg (Access.write child time :: ·) eq⟩
      | tick now => exact ih now

/-- A child that loads and then commits leaves a surviving merge behind. -/
theorem survivors_of_commit {time : String} {schedule : List Action} {child : Nat}
    {terminalStatus : TerminalStatus} {opts : AdvanceOptions}
    (commits : schedule.filter (fun action => action.child? = some child) =
      [.load child, .commit child terminalStatus opts]) :
    Cell.survivors (accesses time schedule) ≠ [] := by
  obtain ⟨before, rest, rfl, _, _, commits⟩ := List.filter_eq_cons_iff.mp commits
  obtain ⟨between, after, rfl, others, _, _⟩ := List.filter_eq_cons_iff.mp commits
  obtain ⟨middle, isAll⟩ := accesses_append before
    (.load child :: (between ++ .commit child terminalStatus opts :: after)) time
  obtain ⟨last, isRest⟩ := accesses_append between
    (.commit child terminalStatus opts :: after) middle
  rw [isAll]
  simp only [accesses, isRest]
  refine Cell.survivors_ne_nil fun label written => ?_
  obtain ⟨action, member, isChild⟩ := committed_of_access written
  exact others action member (by simpa using isChild)

/-- Under every interleaving the context of the parent keeps what the children
contribute exactly if every key of theirs survives. -/
theorem updatesKept_iff {state : Engine.State} (reachable : Engine.Reachable deployment state)
    {parentInstanceId : Nat} {children : List Nat}
    (linked : ∀ child ∈ children, ∃ link ∈ childLink state.world.db child,
      link.2.1.processInstanceId = parentInstanceId)
    {schedule : List Action} (interleaves : Interleaves children schedule) :
    UpdatesKept state.world.db (system.run (opened state.world) schedule).world.db
        parentInstanceId children ↔
      ∀ child ∈ children, ∀ key ∈ (entriesOf state.world.db child).names,
        Survives state.world.db parentInstanceId children
          (Cell.survivors (accesses state.world.now schedule)) key := by
  have apart : parentInstanceId ∉ children := by
    intro member
    obtain ⟨⟨row, parent, parentStepId⟩, isLink, same⟩ := linked _ member
    obtain ⟨found, _, ofParent, _⟩ := childLink_eq_some isLink
    have key : row.processInstanceId = parentInstanceId := Table.key_of_find? found
    have same : parent.processInstanceId = parentInstanceId := same
    have older := Engine.reachable_parentsOlder reachable row (Table.mem_of_find? found) _ ofParent
    omega
  have isFinal := run_context linked apart interleaves.only
  generalize (system.run (opened state.world) schedule).world.db = final at isFinal ⊢
  have known : ∀ write ∈ Cell.survivors (accesses state.world.now schedule),
      write.1 ∈ children := by
    intro write member
    obtain ⟨action, isIn, isChild⟩ := committed_of_access (Cell.mem_survivors member)
    exact interleaves.only action isIn write.1 isChild
  have nonempty : ∀ child ∈ children,
      Cell.survivors (accesses state.world.now schedule) ≠ [] := by
    intro child member
    obtain ⟨_, _, commits⟩ := interleaves.commits child member
    exact survivors_of_commit commits
  generalize Cell.survivors (accesses state.world.now schedule) = writes
    at isFinal known nonempty ⊢
  refine forall_congr' fun child => forall_congr' fun member =>
    forall_congr' fun key => forall_congr' fun _ => ?_
  unfold Survives
  rw [entriesOf, isFinal]
  split
  · rename_i stamp
    subst stamp
    obtain ⟨last, isLast⟩ := Option.ne_none_iff_exists'.mp
      (mt List.getLast?_eq_none_iff.mp (nonempty child member))
    obtain ⟨rest, rfl⟩ := List.getLast?_eq_some_iff.mp isLast
    rw [get?_mergeAll_stamp]
    simp
  · rename_i unstamped
    by_cases merged : ∃ write ∈ writes, key ∈ (entriesOf state.world.db write.1).names
    · obtain ⟨value, isValue, write, isWrite, given⟩ :=
        @get?_mergeAll_of_mem _ (contextOf state.world.db parentInstanceId) _ unstamped _ merged
      exact ⟨fun _ => .inl merged, fun _ => ⟨value, isValue, write.1, known write isWrite, given⟩⟩
    · have kept := @get?_mergeAll_of_not_mem _ (contextOf state.world.db parentInstanceId) _
        unstamped _ fun write isWrite isKey => merged ⟨write, isWrite, isKey⟩
      rw [kept]
      exact ⟨.inr, fun survives => survives.resolve_left merged⟩

/-- Two steps call a child each, and give it a key of its own. -/
def twoCalls : Templates where
  steps := [.row 1 .manual 1 none,
    { TemplateStep.row 1 .callProcess 2 (some 2) with
      childContextPatch := some [("left", .num 1)] },
    { TemplateStep.row 1 .callProcess 2 (some 2) with
      childContextPatch := some [("right", .num 1)] },
    .row 2 .manual 1 none]
  requirements := []
  triggers := []
  bindings := []
  configObjects := []

/-- Both children of the process 1 were started. -/
def bothCalled : Engine.State :=
  (Engine.system .allEnabled).run (Engine.installed twoCalls)
    [.invoke (.startProcess (.workflow 1 1 .ignore)), .invoke (.markCompleted 1 .none)]

theorem bothCalled_linked : ∀ child ∈ [2, 3], ∃ link ∈ childLink bothCalled.world.db child,
    link.2.1.processInstanceId = 1 := by
  have calls : ∀ child ∈ [2, 3],
      ((childLink bothCalled.world.db child).any fun link => link.2.1.processInstanceId == 1) =
        true := by
    decide +kernel
  intro child member
  obtain ⟨link, isLink, ofParent⟩ := (Option.any_eq_true _ _).mp (calls child member)
  exact ⟨link, isLink, by simpa using ofParent⟩

/-- One transaction after the other. -/
def serialMerges : List Action :=
  [.load 2, .commit 2 .completed .none, .load 3, .commit 3 .completed .none]

/-- Both transactions load the parent before the first one commits. -/
def overlappingMerges : List Action :=
  [.load 2, .load 3, .commit 2 .completed .none, .commit 3 .completed .none]

theorem updatesKept_serialMerges :
    UpdatesKept bothCalled.world.db
      (system.run (opened bothCalled.world) serialMerges).world.db 1 [2, 3] := by
  have reachable : Engine.Reachable .allEnabled bothCalled :=
    ⟨_, _, Engine.fresh_installed twoCalls, rfl⟩
  have interleaves : Interleaves [2, 3] serialMerges :=
    ⟨by simp [serialMerges, Action.child?], by simp [serialMerges, Action.child?]⟩
  refine (updatesKept_iff reachable bothCalled_linked interleaves).mpr ?_
  have survive : ∀ time, Cell.survivors (accesses time serialMerges) = [(2, time), (3, time)] :=
    fun time => Cell.survivors_serial [(2, time), (3, time)]
  have unstamped : ∀ child ∈ [2, 3], ∀ key ∈ (entriesOf bothCalled.world.db child).names,
      key ≠ "childMergedAt" := by
    decide +kernel
  intro child member key isKey
  rw [survive, Survives, if_neg (unstamped child member key isKey)]
  exact .inl ⟨(child, bothCalled.world.now), by simpa using member, isKey⟩

/-- Whatever the order of the transactions, no contribution of a child is lost. -/
def NoLostUpdate (w : World) : Prop :=
  ∀ parentInstanceId children schedule,
    (∀ child ∈ children, ∃ link ∈ childLink w.db child,
      link.2.1.processInstanceId = parentInstanceId) → Interleaves children schedule →
        UpdatesKept w.db (system.run (opened w) schedule).world.db parentInstanceId children

/-- The merge that commits last replaces the other one. -/
theorem overlappingMerges_lost : ¬ NoLostUpdate bothCalled.world := by
  intro keeps
  have kept := keeps 1 [2, 3] overlappingMerges bothCalled_linked
    ⟨by simp [overlappingMerges, Action.child?], by simp [overlappingMerges, Action.child?]⟩
  have contributed : "left" ∈ (entriesOf bothCalled.world.db 2).names := by decide +kernel
  have lost : (entriesOf (system.run (opened bothCalled.world) overlappingMerges).world.db 1).get?
      "left" = none := by
    have survives : ∀ time, Cell.survivors (accesses time overlappingMerges) = [(3, time)] :=
      fun _ => rfl
    have only : ∀ action ∈ overlappingMerges, ∀ child ∈ action.child?, child ∈ [2, 3] := by
      simp [overlappingMerges, Action.child?]
    rw [entriesOf, run_context bothCalled_linked (by decide) only, survives]
    decide +kernel
  generalize (system.run (opened bothCalled.world) overlappingMerges).world.db = after
    at kept lost
  obtain ⟨value, isValue, _⟩ := kept 2 List.mem_cons_self "left" contributed
  rw [lost] at isValue
  cases isValue

end ContextMerges

end CoreApi.Automation
