import CoreApi.Automation.CallWrites
import CoreApi.Automation.InstalledTemplates
import CoreApi.Automation.SatisfiedTriggers

/-!
# Where a process begins and goes on

Instantiation makes the steps of order 1 ready, and `enableNextSteps` looks at the
order after that of the completed step. The step that a start returns is the one of
the smallest order, which is another one where the orders begin elsewhere; and a gap
in the orders, or a step that waits, keeps the steps behind it.
-/

namespace CoreApi.Automation

open CoreApi.Foundation StepOrchestrator

variable {deployment : Deployment}

/-! ## The first step -/

/-- The first of the rows in order has the smallest value. -/
theorem orderBy_head? {α : Type} {column : α → Int} {rows : List α} {first : α}
    (isFirst : (orderBy column rows).head? = some first) :
    first ∈ rows ∧ ∀ row ∈ rows, column first ≤ column row := by
  have sorted : (orderBy column rows).Pairwise fun a b => column a ≤ column b :=
    List.pairwise_insertionSort _ rows
  rcases inOrder : orderBy column rows with _ | ⟨head, rest⟩
  · rw [inOrder] at isFirst
    cases isFirst
  · rw [inOrder] at isFirst sorted
    obtain rfl : head = first := Option.some.inj isFirst
    have member : ∀ row, row ∈ rows ↔ row ∈ head :: rest := fun row => by
      rw [← inOrder, mem_orderBy]
    refine ⟨(member head).mpr List.mem_cons_self, fun row isRow => ?_⟩
    rcases List.mem_cons.mp ((member row).mp isRow) with rfl | behind
    · exact Int.le_refl _
    · exact (List.pairwise_cons.mp sorted).1 row behind

/-- The step that the start returned is ready. -/
def EntersReady (result : StartProcessResult) (after : Database) : Prop :=
  ∃ step ∈ after.steps.rows, result.firstStepInstanceId = some step.stepInstanceId ∧
    step.status = .ready

instance (result : StartProcessResult) (after : Database) :
    Decidable (EntersReady result after) :=
  inferInstanceAs (Decidable (∃ step ∈ after.steps.rows, _ ∧ _))

/-- The smallest order of the steps is 1. -/
def BeginsAtOne (templates : List TemplateStep) : Prop :=
  (∃ s ∈ templates, s.stepOrder = 1) ∧ ∀ s ∈ templates, 1 ≤ s.stepOrder

instance (templates : List TemplateStep) : Decidable (BeginsAtOne templates) :=
  inferInstanceAs (Decidable ((∃ s ∈ templates, _) ∧ ∀ s ∈ templates, _))

namespace ProcessLifecycle

open ProcessInstantiation

/-- A start returns the first step of the process that it leaves. -/
theorem startProcessIn_first (params : StartProcessParams) (w : World) :
    Program.wp (startProcessIn deployment params)
      (fun result after => result.firstStepInstanceId =
        resolveFirstStepInstanceId after.db result.processInstanceId) (fun _ _ => True) w := by
  unfold startProcessIn
  rcases checkSubject deployment params.subjectType with message | ⟨subjectType, adapter⟩
  · trivial
  · simp only
    unfold startProcessInTransaction
    rw [Program.wp_bind]
    refine Program.wp_mono (Program.wp_trivial _) (fun processInstanceId _ _ => ?_) fun _ _ _ => trivial
    rw [Program.wp_bind]
    refine Program.wp_mono (Program.wp_trivial _) (fun _ _ _ => ?_) fun _ _ _ => trivial
    rw [Program.wp_bind]
    refine Program.wp_mono (Program.wp_trivial _) (fun _ _ _ => ?_) fun _ _ _ => trivial
    rw [Program.wp_bind, Program.wp_read, Program.wp_bind, Program.wp_when, emit,
      Program.wp_write]
    exact ⟨fun _ => rfl, fun _ => rfl⟩

/-- The step of the smallest order is ready exactly where that order is 1. -/
theorem startProcessIn_entersReady {params : StartProcessParams} {w : World}
    (owned : ∀ step ∈ w.db.steps.rows, ∃ row ∈ w.db.processInstances.rows,
      row.processInstanceId = step.processInstanceId)
    (nonempty : templateStepsOf w.db params.templateId ≠ []) :
    Program.wp (startProcessIn deployment params)
      (fun result after => EntersReady result after.db ↔
        BeginsAtOne (templateStepsOf w.db params.templateId)) (fun _ _ => True) w := by
  refine Program.wp_mono (Program.wp_and (startProcessIn_started deployment params w)
    (startProcessIn_first params w)) ?_ fun _ _ _ => trivial
  rintro result after ⟨⟨⟨row, started, isRow⟩, _⟩, isFirst⟩
  have steps := started.stepsOf_new owned
  have orders := addedSteps_orders w params.templateId row.processInstanceId
  rw [resolveFirstStepInstanceId, isRow, steps] at isFirst
  rcases head : (orderBy StepInstance.stepOrder
      (addedSteps w params.templateId row.processInstanceId)).head? with _ | first
  · have none : addedSteps w params.templateId row.processInstanceId = [] := by
      rw [List.head?_eq_none_iff, List.eq_nil_iff_forall_not_mem] at head
      exact List.eq_nil_iff_forall_not_mem.mpr fun step member =>
        head step (mem_orderBy.mpr member)
    rw [none, List.map_nil] at orders
    exact absurd (List.map_eq_nil_iff.mp orders.symm) nonempty
  · rw [head, Option.map_some] at isFirst
    obtain ⟨member, smallest⟩ := orderBy_head? head
    have stored : first ∈ after.db.steps.rows := by
      rw [started.steps]
      exact List.mem_append_right _ member
    -- The orders of the template are those of the added steps.
    have ofTemplate : ∀ order, (∃ s ∈ templateStepsOf w.db params.templateId,
        s.stepOrder = order) ↔ ∃ step ∈ addedSteps w params.templateId row.processInstanceId,
          step.stepOrder = order := by
      intro order
      rw [← List.mem_map, ← List.mem_map, orders]
    have ready : EntersReady result after.db ↔ first.status = .ready := by
      constructor
      · rintro ⟨step, stepMember, isStep, isReady⟩
        have same : step.stepInstanceId = first.stepInstanceId :=
          Option.some.inj (isStep.symm.trans isFirst)
        rw [Table.eq_of_key_eq stepMember stored same] at isReady
        exact isReady
      · exact fun isReady => ⟨first, stored, isFirst, isReady⟩
    rw [ready]
    constructor
    · intro isReady
      have isOne : first.stepOrder = 1 := by
        rcases addedSteps_status member with ⟨_, one⟩ | ⟨pending, _⟩
        · exact one
        · rw [pending] at isReady
          cases isReady
      refine ⟨(ofTemplate 1).mpr ⟨first, member, isOne⟩, fun s sMember => ?_⟩
      obtain ⟨step, stepMember, order⟩ := (ofTemplate s.stepOrder).mp ⟨s, sMember, rfl⟩
      rw [← isOne, ← order]
      exact smallest step stepMember
    · rintro ⟨one, least⟩
      obtain ⟨step, stepMember, isOne⟩ := (ofTemplate 1).mp one
      obtain ⟨s, sMember, order⟩ := (ofTemplate first.stepOrder).mpr ⟨first, member, rfl⟩
      have below : first.stepOrder ≤ 1 := isOne ▸ smallest step stepMember
      have above : 1 ≤ first.stepOrder := order ▸ least s sMember
      rcases addedSteps_status member with ⟨isReady, _⟩ | ⟨_, other⟩
      · exact isReady
      · exact absurd (Int.le_antisymm below above) other

end ProcessLifecycle

/-! ## The steps behind a completed one -/

/-- `enableNextSteps` unlocks the eligible steps of the next order, and no others. -/
theorem enableNextSteps_unlocks {pred : StepInstance} (opts : AdvanceOptions) {w : World}
    (member : pred ∈ w.db.steps.rows) (completed : pred.status = .completed) :
    Program.wp (enableNextSteps deployment pred.processInstanceId pred.stepOrder opts)
      (fun _ after => ∀ step ∈ w.db.stepsOf pred.processInstanceId, step.status = .pending →
        (LeftPending after.db step.stepInstanceId ↔
          Eligible deployment w step ∧ step.stepOrder = pred.stepOrder + 1))
      (fun _ _ => True) w := by
  refine Program.wp_mono (enableNextSteps_edits w pred.stepInstanceId opts member rfl rfl
    completed) ?_ fun _ _ _ => trivial
  rintro _ after ⟨edits, stay, _⟩ step ofProcess pending
  obtain ⟨stepMember, samePred⟩ := mem_stepsOf.mp ofProcess
  constructor
  · intro left
    rcases Edits.image edits stepMember with kept | ⟨row, _, moved⟩
    · exact absurd pending (left step kept rfl)
    · refine ⟨moved.eligible, ?_⟩
      rcases moved.reason with isPred | ⟨other, otherMember, isPred, _, _, order⟩
      · rw [Table.eq_of_key_eq stepMember member isPred, completed] at pending
        cases pending
      · rw [← order, Table.eq_of_key_eq otherMember member isPred]
  · rintro ⟨eligible, order⟩ row rowMember key stillPending
    have isStep : row = step := Table.eq_of_key_eq
      (Edits.pending_kept edits rowMember stillPending ⟨step, stepMember, key.symm⟩)
      stepMember key
    subst isStep
    exact stay row (mem_nextSteps.mpr ⟨rowMember, samePred, order, pending⟩) eligible

/-- A step behind the completed one waits although its gates are open and its triggers hold. -/
def WaitsBehind (deployment : Deployment) (w : World) (pred step : StepInstance) : Prop :=
  pred.stepOrder < step.stepOrder ∧ step.status = .pending ∧ Eligible deployment w step

instance (w : World) (pred step : StepInstance) : Decidable (WaitsBehind deployment w pred step) :=
  inferInstanceAs (Decidable (_ ∧ _ ∧ _))

/-- Where a step waits behind the completed one, a step of the smallest higher order is
unlocked. -/
def GoesOn (deployment : Deployment) (before : World) (after : Database) (pred : StepInstance) :
    Prop :=
  (∃ step ∈ before.db.stepsOf pred.processInstanceId, WaitsBehind deployment before pred step) →
    ∃ step ∈ before.db.stepsOf pred.processInstanceId,
      (pred.stepOrder < step.stepOrder ∧
        ∀ other ∈ before.db.stepsOf pred.processInstanceId,
          pred.stepOrder < other.stepOrder → step.stepOrder ≤ other.stepOrder) ∧
      step.status = .pending ∧ LeftPending after step.stepInstanceId

instance (before : World) (after : Database) (pred : StepInstance) :
    Decidable (GoesOn deployment before after pred) :=
  inferInstanceAs (Decidable ((∃ step ∈ before.db.stepsOf pred.processInstanceId, _) →
    ∃ step ∈ before.db.stepsOf pred.processInstanceId,
      (_ ∧ ∀ other ∈ before.db.stepsOf pred.processInstanceId, _ → _) ∧ _ ∧ _))

/-- Where a step waits behind the completed one, one of the next order does. -/
def NextWaits (deployment : Deployment) (w : World) (pred : StepInstance) : Prop :=
  (∃ step ∈ w.db.stepsOf pred.processInstanceId, WaitsBehind deployment w pred step) →
    ∃ step ∈ w.db.stepsOf pred.processInstanceId, step.stepOrder = pred.stepOrder + 1 ∧
      step.status = .pending ∧ Eligible deployment w step

instance (w : World) (pred : StepInstance) : Decidable (NextWaits deployment w pred) :=
  inferInstanceAs (Decidable ((∃ step ∈ w.db.stepsOf pred.processInstanceId, _) →
    ∃ step ∈ w.db.stepsOf pred.processInstanceId, _ ∧ _ ∧ _))

theorem enableNextSteps_goesOn {pred : StepInstance} (opts : AdvanceOptions) {w : World}
    (member : pred ∈ w.db.steps.rows) (completed : pred.status = .completed) :
    Program.wp (enableNextSteps deployment pred.processInstanceId pred.stepOrder opts)
      (fun _ after => GoesOn deployment w after.db pred ↔ NextWaits deployment w pred)
      (fun _ _ => True) w := by
  refine Program.wp_mono (enableNextSteps_unlocks opts member completed) ?_ fun _ _ _ => trivial
  intro _ after unlocks
  refine imp_congr_right fun _ => exists_congr fun step => and_congr_right fun ofProcess => ?_
  constructor
  · rintro ⟨_, pending, left⟩
    obtain ⟨eligible, order⟩ := (unlocks step ofProcess pending).mp left
    exact ⟨order, pending, eligible⟩
  · rintro ⟨order, pending, eligible⟩
    refine ⟨⟨by omega, fun other _ higher => by omega⟩, pending, ?_⟩
    exact (unlocks step ofProcess pending).mpr ⟨eligible, order⟩

/-- A start enters a ready step exactly where the orders of the template begin at 1, and behind
a completed step a step of the smallest higher order is unlocked exactly where one of the next
order waits. -/
theorem entersReady_and_goesOn_iff (deployment : Deployment) {w : World}
    (owned : ∀ step ∈ w.db.steps.rows, ∃ row ∈ w.db.processInstances.rows,
      row.processInstanceId = step.processInstanceId) :
    (∀ params, ProcessInstantiation.templateStepsOf w.db params.templateId ≠ [] →
      Program.wp (ProcessLifecycle.startProcessIn deployment params)
        (fun result after => EntersReady result after.db ↔
          BeginsAtOne (ProcessInstantiation.templateStepsOf w.db params.templateId))
        (fun _ _ => True) w) ∧
    ∀ pred ∈ w.db.steps.rows, pred.status = .completed → ∀ opts,
      Program.wp (enableNextSteps deployment pred.processInstanceId pred.stepOrder opts)
        (fun _ after => GoesOn deployment w after.db pred ↔ NextWaits deployment w pred)
        (fun _ _ => True) w :=
  ⟨fun _ nonempty => ProcessLifecycle.startProcessIn_entersReady owned nonempty,
    fun _ member completed opts => enableNextSteps_goesOn opts member completed⟩

/-! ## Orders with gaps -/

/-- Manual steps of these orders. -/
def stepsOfOrders (orders : List Int) : Templates where
  steps := orders.map fun order => .row 1 .manual order none
  requirements := []
  triggers := []
  bindings := []
  configObjects := []

/-- A start of the template with steps of these orders. -/
def startedWith (orders : List Int) : Except String StartProcessResult × World :=
  ProcessLifecycle.startProcessIn .allEnabled (.workflow 1 1 .ignore)
    (Engine.installed (stepsOfOrders orders)).world

theorem entersReady_and_goesOn_inTurn : ∃ result, startedWith [1, 2] = (.ok result,
    (startedWith [1, 2]).2) ∧ EntersReady result (startedWith [1, 2]).2.db := by
  have owned : ∀ step ∈ (Engine.installed (stepsOfOrders [1, 2])).world.db.steps.rows,
      ∃ row ∈ (Engine.installed (stepsOfOrders [1, 2])).world.db.processInstances.rows,
        row.processInstanceId = step.processInstanceId := by
    decide
  have enters := (entersReady_and_goesOn_iff .allEnabled owned).1 (.workflow 1 1 .ignore)
    (by decide)
  have returns : Program.Returns (ProcessLifecycle.startProcessIn .allEnabled
      (.workflow 1 1 .ignore)) (Engine.installed (stepsOfOrders [1, 2])).world :=
    Program.returns_of_isOk (by decide)
  obtain ⟨result, isResult⟩ := returns
  have run : startedWith [1, 2] = (.ok result, (startedWith [1, 2]).2) :=
    Prod.ext isResult rfl
  exact ⟨result, run, (Program.wp_ok enters run).mpr (by decide)⟩

/-- The first step of a process with steps of orders 1 and 3. -/
def firstOfGap : StepInstance :=
  ((startedWith [1, 3]).2.db.step? 1).getD (ProcessInstantiation.newStep "" 0 (.row 0 .manual 0 none))

/-- What completing it leaves. -/
def gapLeft : Except String (List Engine.Call) × World :=
  Engine.perform .allEnabled (.markCompleted 1 .none) (startedWith [1, 3]).2

/-- A process that begins with order 2 has no ready step; one with a gap in its orders stops in
front of it. -/
theorem gaps_stall :
    ((startedWith [2]).1.isOk = true ∧
      ∀ result ∈ (startedWith [2]).1.toOption, ¬ EntersReady result (startedWith [2]).2.db) ∧
    gapLeft.1.isOk = true ∧
      (∃ step ∈ gapLeft.2.db.steps.rows, step.stepInstanceId = 1 ∧ step.status = .completed) ∧
      ¬ GoesOn .allEnabled (startedWith [1, 3]).2 gapLeft.2.db firstOfGap := by
  refine ⟨⟨by decide, by decide⟩, by decide, by decide,
    by decide⟩

end CoreApi.Automation
