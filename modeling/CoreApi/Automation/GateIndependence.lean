import CoreApi.Automation.CompletionGate
import CoreApi.Automation.TemplateStepObjectBindings

/-!
# Template edits and the gates of running instances

Requirements and triggers are copied into a process when it starts. Of an object
binding only the reference is: the gate of a step and the validation of an object
join back to the binding of the template for the mandatory flag and the
completion rule, and a reference that a removed binding left empty reads as a
mandatory binding with the default rule. A call of the authoring service reaches
a running process when it changes what the join reads.
-/

namespace CoreApi.Automation

open CoreApi.Foundation ConfigObjectStepExecutor StepOrchestrator

namespace TemplateStepObjectBindings

variable (deployment : Deployment) (tenants : AuthoringTenants)

/-! ## Authoring calls -/

/-- A call that edits the bindings of a template. -/
inductive TemplateCall where
  | update (id : Nat) (updateDto : UpdateBinding)
  | remove (processTemplateStepId id : Nat)

/-- Run a call of the service. -/
def TemplateCall.run : TemplateCall → Tx Nat
  | .update id updateDto => TemplateStepObjectBindings.update tenants id updateDto
  | .remove processTemplateStepId id => TemplateStepObjectBindings.remove processTemplateStepId id

/-- Authoring as a transition system: a call that raises writes nothing. -/
def authoring : StepSystem World TemplateCall where
  step w call := (call.run tenants w).2

/-! ## What running instances read -/

/-- The process that an object, if any step is linked to it, is validated for. -/
def IsLinked (db : Database) (processInstanceId configCustomObjectInstanceId : Nat) : Prop :=
  ∃ link, findLink db configCustomObjectInstanceId = some link ∧
    link.proc.processInstanceId = processInstanceId

/-- The world with other custom instances, hence with any payloads. -/
def holding (w : World) (customInstances : Table CustomObjectInstance) : World :=
  { w with db := { w.db with customInstances := customInstances } }

/-- The gates of the steps of a process answer the same, its steps can be completed in the same
cases, and validation of the same payload returns the same verdict. -/
structure SameGates (processInstanceId : Nat) (before after : World) : Prop where
  answers : ∀ step ∈ before.db.steps.rows, step.processInstanceId = processInstanceId →
    areMandatoryBindingsValid deployment after.db step.stepInstanceId =
      areMandatoryBindingsValid deployment before.db step.stepInstanceId
  completions : ∀ step ∈ before.db.steps.rows, step.processInstanceId = processInstanceId →
    isCompletable deployment after.db step = isCompletable deployment before.db step
  verdicts : ∀ configCustomObjectInstanceId,
    IsLinked before.db processInstanceId configCustomObjectInstanceId →
      ∀ customInstances correlationId,
        (validateByCustomInstanceId deployment configCustomObjectInstanceId correlationId
          (holding after customInstances)).1 =
        (validateByCustomInstanceId deployment configCustomObjectInstanceId correlationId
          (holding before customInstances)).1

/-- What the gate and the validation read of a binding. -/
structure Terms where
  isMandatory : Bool
  completionRule : Option Record

/-- The terms of a binding. -/
def Terms.ofBinding (binding : TemplateBinding) : Terms :=
  ⟨binding.isMandatory, some binding.completionRule⟩

/-- The terms of a reference that is empty. -/
def Terms.detached : Terms := ⟨true, none⟩

/-- The terms an object row reads. -/
def termsOf (db : Database) (row : StepObjectInstance) : Terms :=
  ((db.bindingOf row).map Terms.ofBinding).getD .detached

/-- An object row that blocks its step if it is mandatory. -/
def isOpen (row : StepObjectInstance) : Bool := row.status != .valid && row.status != .skipped

/-- Whether an instance satisfies a completion rule. -/
def accepts (rule : Option Record) (payload : Record) (status : CustomInstanceStatus) : Bool :=
  (CompletionRule.evaluate rule payload status).isNone

variable {deployment tenants} {db before after : Database} {processInstanceId : Nat}

theorem isMandatoryObject_eq (row : StepObjectInstance) :
    db.isMandatoryObject row = (termsOf db row).isMandatory := by
  unfold Database.isMandatoryObject termsOf
  cases db.bindingOf row <;> rfl

theorem completionRule_eq (row : StepObjectInstance) :
    (db.bindingOf row).map TemplateBinding.completionRule = (termsOf db row).completionRule := by
  unfold termsOf
  cases db.bindingOf row <;> rfl

theorem areMandatoryBindingsValid_iff
    (enabled : deployment.flags.configObjectStepsEnabled = true) (stepInstanceId : Nat) :
    areMandatoryBindingsValid deployment db stepInstanceId = true ↔
      ∀ row ∈ db.objectInstances.rows, row.stepInstanceId = stepInstanceId →
        isOpen row = true → (termsOf db row).isMandatory = false := by
  unfold areMandatoryBindingsValid
  rw [if_neg (by simp [enabled])]
  rw [beq_iff_eq, List.countP_eq_zero]
  constructor
  · intro none row member ofStep opened
    have notBlocking := none row (Table.mem_select.mpr ⟨member, by simpa using ofStep⟩)
    rw [isBlocking, isMandatoryObject_eq, Bool.and_assoc] at notBlocking
    rw [isOpen] at opened
    rw [opened, Bool.and_true, Bool.not_eq_true] at notBlocking
    exact notBlocking
  · intro allOptional row member
    obtain ⟨isRow, ofStep⟩ := Table.mem_select.mp member
    rw [isBlocking, isMandatoryObject_eq, Bool.and_assoc]
    intro blocking
    obtain ⟨mandatory, opened⟩ := Bool.and_eq_true_iff.mp blocking
    have optional := allOptional row isRow (by simpa using ofStep) opened
    rw [mandatory] at optional
    cases optional

/-- The result of a validation under a completion rule. -/
def verdictUnder (rule : Option Record) (db : Database) (configCustomObjectInstanceId : Nat)
    (link : ValidationLink) : ValidationResult :=
  match findCustomInstance db configCustomObjectInstanceId link.proc.tenantId with
  | none => ⟨some link.row.stepInstanceId, false⟩
  | some row =>
      ⟨some link.row.stepInstanceId, accepts rule (row.payload.getD []) row.status⟩

/-- The result of a validation. -/
def verdictOf (db : Database) (configCustomObjectInstanceId : Nat) : ValidationResult :=
  match findLink db configCustomObjectInstanceId with
  | none => ⟨none, false⟩
  | some link => verdictUnder (termsOf db link.row).completionRule db
      configCustomObjectInstanceId link

theorem validateByCustomInstanceId_result
    (enabled : deployment.flags.configObjectStepsEnabled = true)
    (configCustomObjectInstanceId : Nat) (correlationId : Option String) (w : World) :
    (validateByCustomInstanceId deployment configCustomObjectInstanceId correlationId w).1 =
      .ok (verdictOf w.db configCustomObjectInstanceId) := by
  have returns : Program.wp (validateByCustomInstanceId deployment configCustomObjectInstanceId
      correlationId) (fun result _ => result = verdictOf w.db configCustomObjectInstanceId)
      (fun _ _ => False) w := by
    unfold validateByCustomInstanceId
    rw [if_neg (by simp [enabled]), wp_transaction]
    unfold validateInTransaction verdictOf
    rw [Program.wp_bind, Program.wp_read]
    rcases findLink w.db configCustomObjectInstanceId with _ | link
    · rfl
    simp only [Program.wp_bind, Program.wp_read, verdictUnder]
    rcases findCustomInstance w.db configCustomObjectInstanceId link.proc.tenantId with _ | row
    · rfl
    simp only [Program.wp_bind, Program.wp_read, wp_now, wp_writeDb, Program.wp_when, wp_emit,
      Program.wp_pure, accepts, completionError, completionRule_eq]
    exact ⟨fun _ => trivial, fun _ => trivial⟩
  rcases ended : validateByCustomInstanceId deployment configCustomObjectInstanceId
    correlationId w with ⟨result | result, after⟩
  · exact (Program.wp_error returns ended).elim
  · rw [Program.wp_ok returns ended]

theorem mem_of_findLink {configCustomObjectInstanceId : Nat} {link : ValidationLink}
    (isLink : findLink db configCustomObjectInstanceId = some link) :
    link.row ∈ db.objectInstances.rows := by
  obtain ⟨row, member, linked⟩ := List.exists_of_findSome?_eq_some isLink
  have same : link.row = row := by
    unfold linkOf at linked
    obtain ⟨step, _, atStep⟩ := Option.bind_eq_some_iff.mp linked
    obtain ⟨proc, _, atProc⟩ := Option.bind_eq_some_iff.mp atStep
    obtain ⟨configObject, _, rfl⟩ := Option.map_eq_some_iff.mp atProc
    rfl
  rw [same]
  exact (Table.mem_select.mp member).1

/-! ## Rows that read other terms -/

/-- The row with another reference to its binding. -/
def refer (bindingId : Option Nat) (row : StepObjectInstance) : StepObjectInstance :=
  { row with bindingId := bindingId }

/-- Object rows read the given terms now, and nothing else that the gates read was written. -/
structure Rereads (terms : StepObjectInstance → Terms) (before after : Database) : Prop where
  shape : ∃ templateBindings objectInstances, after = { before with
    templateBindings := templateBindings, objectInstances := objectInstances }
  rows : ∃ reference : StepObjectInstance → Option Nat,
    after.objectInstances.rows =
      before.objectInstances.rows.map (fun row => refer (reference row) row) ∧
    ∀ row ∈ before.objectInstances.rows,
      termsOf after (refer (reference row) row) = terms row

theorem Rereads.refl (db : Database) : Rereads (termsOf db) db db :=
  ⟨⟨_, _, rfl⟩, StepObjectInstance.bindingId, (List.map_id _).symm, fun _ _ => rfl⟩

namespace Rereads

variable {terms : StepObjectInstance → Terms}

theorem steps (rereads : Rereads terms before after) : after.steps = before.steps := by
  obtain ⟨⟨_, _, rfl⟩, _⟩ := rereads
  rfl

/-- The instances may be exchanged on both sides. -/
theorem holding {before after : World} (rereads : Rereads terms before.db after.db)
    (customInstances : Table CustomObjectInstance) :
    Rereads terms (holding before customInstances).db (holding after customInstances).db := by
  obtain ⟨⟨templateBindings, objectInstances, shape⟩, reference, rows, reads⟩ := rereads
  refine ⟨⟨templateBindings, objectInstances, ?_⟩, reference, rows, reads⟩
  unfold TemplateStepObjectBindings.holding
  rw [shape]

theorem gate_iff (rereads : Rereads terms before after)
    (enabled : deployment.flags.configObjectStepsEnabled = true) (stepInstanceId : Nat) :
    areMandatoryBindingsValid deployment after stepInstanceId = true ↔
      ∀ row ∈ before.objectInstances.rows, row.stepInstanceId = stepInstanceId →
        isOpen row = true → (terms row).isMandatory = false := by
  obtain ⟨_, reference, rows, reads⟩ := rereads
  rw [areMandatoryBindingsValid_iff enabled, rows, List.forall_mem_map]
  refine forall₂_congr fun row member => ?_
  rw [reads row member]
  rfl

theorem findLink_eq (rereads : Rereads terms before after) (configCustomObjectInstanceId : Nat) :
    ∃ reference : StepObjectInstance → Option Nat,
      findLink after configCustomObjectInstanceId =
        (findLink before configCustomObjectInstanceId).map (fun link =>
          { link with row := refer (reference link.row) link.row }) ∧
      ∀ row ∈ before.objectInstances.rows,
        termsOf after (refer (reference row) row) = terms row := by
  obtain ⟨⟨_, _, rfl⟩, reference, rows, reads⟩ := rereads
  refine ⟨reference, ?_, reads⟩
  unfold findLink Table.select
  rw [rows, List.filter_map, List.findSome?_map, List.map_findSome?]
  refine congrArg (fun link => List.findSome? link _) (funext fun row => ?_)
  show ((before.step? row.stepInstanceId).bind fun step =>
    (before.instance? step.processInstanceId).bind fun proc =>
      (before.configObjects.find? row.configObjectId).map fun configObject =>
        ValidationLink.mk (refer (reference row) row) step proc configObject) =
    (linkOf before row).map fun link => { link with row := refer (reference link.row) link.row }
  unfold linkOf
  rcases before.step? row.stepInstanceId with _ | step
  · rfl
  rw [Option.bind_some, Option.bind_some]
  rcases before.instance? step.processInstanceId with _ | proc
  · rfl
  rw [Option.bind_some, Option.bind_some]
  rcases before.configObjects.find? row.configObjectId with _ | configObject <;> rfl

theorem verdictOf_eq (rereads : Rereads terms before after) {configCustomObjectInstanceId : Nat}
    {link : ValidationLink} (isLink : findLink before configCustomObjectInstanceId = some link) :
    verdictOf after configCustomObjectInstanceId =
      verdictUnder (terms link.row).completionRule before configCustomObjectInstanceId link := by
  obtain ⟨reference, links, reads⟩ := rereads.findLink_eq configCustomObjectInstanceId
  obtain ⟨⟨_, _, rfl⟩, _⟩ := rereads
  unfold verdictOf
  rw [links, isLink, Option.map_some, ← reads link.row (mem_of_findLink isLink)]
  rfl

end Rereads

/-- The rules accept the same instances. -/
def SameRule (rule rule' : Option Record) : Prop :=
  ∀ payload status, accepts rule payload status = accepts rule' payload status

/-- A table with one row. -/
def onlyInstance (row : CustomObjectInstance) (positive : 0 < row.configCustomObjectInstanceId) :
    Table CustomObjectInstance where
  rows := [row]
  autoIncrement := row.configCustomObjectInstanceId + 1
  distinct := List.nodup_singleton _
  bounded := fun other member => by
    rw [List.mem_singleton.mp member]
    exact ⟨positive, Nat.lt_succ_self _⟩
  positive := Nat.succ_pos _

theorem findCustomInstance_only {w : World} {row : CustomObjectInstance}
    (positive : 0 < row.configCustomObjectInstanceId) :
    findCustomInstance (holding w (onlyInstance row positive)).db row.configCustomObjectInstanceId
      row.tenantId = some row := by
  have found : (onlyInstance row positive).find? row.configCustomObjectInstanceId = some row :=
    Table.find?_eq_some.mpr ⟨List.mem_singleton_self row, rfl⟩
  unfold findCustomInstance
  rw [show (holding w (onlyInstance row positive)).db.customInstances.find?
    row.configCustomObjectInstanceId = some row from found]
  simp

/-- No open object row of the step is mandatory under the terms. -/
def Open (terms : StepObjectInstance → Terms) (db : Database) (stepInstanceId : Nat) : Prop :=
  ∀ row ∈ db.objectInstances.rows, row.stepInstanceId = stepInstanceId → isOpen row = true →
    (terms row).isMandatory = false

theorem Rereads.sameGates_iff {w w' : World} {terms : StepObjectInstance → Terms}
    (rereads : Rereads terms w.db w'.db)
    (enabled : deployment.flags.configObjectStepsEnabled = true) :
    SameGates deployment processInstanceId w w' ↔
      (∀ step ∈ w.db.steps.rows, step.processInstanceId = processInstanceId →
        (Open terms w.db step.stepInstanceId ↔
          Open (termsOf w.db) w.db step.stepInstanceId)) ∧
      ∀ configCustomObjectInstanceId link, 0 < configCustomObjectInstanceId →
        findLink w.db configCustomObjectInstanceId = some link →
          link.proc.processInstanceId = processInstanceId →
            SameRule (terms link.row).completionRule
              (termsOf w.db link.row).completionRule := by
  have gate : ∀ stepInstanceId,
      areMandatoryBindingsValid deployment w'.db stepInstanceId =
          areMandatoryBindingsValid deployment w.db stepInstanceId ↔
        (Open terms w.db stepInstanceId ↔ Open (termsOf w.db) w.db stepInstanceId) := by
    intro stepInstanceId
    rw [Bool.eq_iff_iff, rereads.gate_iff enabled, areMandatoryBindingsValid_iff enabled]
    rfl
  have verdict : ∀ configCustomObjectInstanceId link customInstances correlationId,
      findLink w.db configCustomObjectInstanceId = some link →
        ((validateByCustomInstanceId deployment configCustomObjectInstanceId correlationId
            (TemplateStepObjectBindings.holding w' customInstances)).1 =
          (validateByCustomInstanceId deployment configCustomObjectInstanceId correlationId
            (TemplateStepObjectBindings.holding w customInstances)).1 ↔
        verdictUnder (terms link.row).completionRule
            (TemplateStepObjectBindings.holding w customInstances).db
            configCustomObjectInstanceId link =
          verdictUnder (termsOf w.db link.row).completionRule
            (TemplateStepObjectBindings.holding w customInstances).db
            configCustomObjectInstanceId link) := by
    intro configCustomObjectInstanceId link customInstances correlationId isLink
    rw [validateByCustomInstanceId_result enabled, validateByCustomInstanceId_result enabled,
      Except.ok.injEq]
    have held : findLink (TemplateStepObjectBindings.holding w customInstances).db
        configCustomObjectInstanceId = some link := isLink
    rw [(rereads.holding customInstances).verdictOf_eq held,
      (Rereads.refl (TemplateStepObjectBindings.holding w customInstances).db).verdictOf_eq held]
    rfl
  constructor
  · intro same
    refine ⟨fun step member ofProcess => (gate _).mp (same.answers step member ofProcess), ?_⟩
    intro configCustomObjectInstanceId link positive isLink ofProcess payload status
    let row : CustomObjectInstance := {
      configCustomObjectInstanceId := configCustomObjectInstanceId
      tenantId := link.proc.tenantId
      configObjectId := 0
      payload := some payload
      status := status
      createdBy := 0 }
    have equal := (verdict _ link (onlyInstance row positive) none isLink).mp
      (same.verdicts _ ⟨link, isLink, ofProcess⟩ _ none)
    have found : findCustomInstance
        (TemplateStepObjectBindings.holding w (onlyInstance row positive)).db
        configCustomObjectInstanceId link.proc.tenantId = some row :=
      findCustomInstance_only positive
    unfold verdictUnder at equal
    rw [found] at equal
    exact congrArg ValidationResult.valid equal
  · rintro ⟨sameOpen, sameRules⟩
    have answers := fun step member ofProcess => (gate step.stepInstanceId).mpr
      (sameOpen step member ofProcess)
    refine ⟨answers, fun step member ofProcess => ?_, ?_⟩
    · have requirements : checkRequirementsOnly w'.db step.stepInstanceId =
          checkRequirementsOnly w.db step.stepInstanceId := by
        obtain ⟨⟨_, _, shape⟩, _⟩ := rereads
        rw [shape]
        rfl
      unfold isCompletable checkStepGates
      rw [requirements, answers step member ofProcess]
    · rintro configCustomObjectInstanceId ⟨link, isLink, ofProcess⟩ customInstances correlationId
      refine (verdict _ link customInstances correlationId isLink).mpr ?_
      unfold verdictUnder
      rcases found : findCustomInstance
          (TemplateStepObjectBindings.holding w customInstances).db
          configCustomObjectInstanceId link.proc.tenantId with _ | row
      · rfl
      · have positive : 0 < configCustomObjectInstanceId := by
          obtain ⟨isRow, _⟩ := Option.filter_eq_some_iff.mp found
          rw [← Table.key_of_find? isRow]
          exact (Table.bounded _ _ (Table.mem_of_find? isRow)).1
        have sameRule := sameRules configCustomObjectInstanceId link positive isLink ofProcess
        exact congrArg (ValidationResult.mk _) (sameRule _ _)

/-! ## What a call rewrites -/

/-- The binding a call rewrites and the terms its references read afterwards; `none` where the
call finds nothing or raises. -/
def rewritten (tenants : AuthoringTenants) (db : Database) :
    TemplateCall → Option (TemplateBinding × Terms)
  | .update id updateDto => do
      let existing ← db.templateBindings.find? id
      if (assertPatchAllowed tenants db updateDto existing).isOk = true then
        some (existing, .ofBinding (patched updateDto existing))
      else none
  | .remove processTemplateStepId id => do
      let existing ← db.templateBindings.find? id
      if existing.processTemplateStepId = processTemplateStepId then some (existing, .detached)
      else none

/-- The terms of a row after the references to a binding read other ones. -/
def termsAfter (db : Database) : Option (TemplateBinding × Terms) → StepObjectInstance → Terms
  | none, row => termsOf db row
  | some (binding, terms), row =>
      if row.bindingId = some binding.bindingId then terms else termsOf db row

theorem termsOf_none {db : Database} {row : StepObjectInstance} (empty : row.bindingId = none) :
    termsOf db row = .detached := by
  unfold termsOf Database.bindingOf
  rw [empty]
  rfl

theorem termsOf_some {db : Database} {row : StepObjectInstance} {bindingId : Nat}
    (refers : row.bindingId = some bindingId) :
    termsOf db row =
      ((db.templateBindings.find? bindingId).map Terms.ofBinding).getD .detached := by
  unfold termsOf Database.bindingOf
  rw [refers, Option.bind_some]

theorem rereads_update (id : Nat) (updateDto : UpdateBinding) (w : World) :
    Rereads (termsAfter w.db (rewritten tenants w.db (.update id updateDto))) w.db
      ((authoring tenants).step w (.update id updateDto)).db := by
  refine Program.wp_end (fun after : World => Rereads (termsAfter w.db
    (rewritten tenants w.db (.update id updateDto))) w.db after.db) ?_
  unfold TemplateCall.run TemplateStepObjectBindings.update
  rw [Program.wp_bind, Program.wp_read]
  rcases found : w.db.templateBindings.find? id with _ | existing
  · have nothing : rewritten tenants w.db (.update id updateDto) = none := by
      simp only [rewritten, found]
      rfl
    rw [nothing, Program.wp_raise]
    exact .refl w.db
  rw [Program.wp_bind, Program.wp_read, Program.wp_bind]
  have isRewritten : rewritten tenants w.db (.update id updateDto) =
      if (assertPatchAllowed tenants w.db updateDto existing).isOk = true then
        some (existing, .ofBinding (patched updateDto existing)) else none := by
    simp only [rewritten, found]
    rfl
  rcases allowed : assertPatchAllowed tenants w.db updateDto existing with message | _
  · rw [allowed, if_neg nofun] at isRewritten
    rw [isRewritten, Program.wp_lift_error]
    exact .refl w.db
  rw [allowed] at isRewritten
  rw [isRewritten.trans (if_pos rfl), Program.wp_lift_ok, Program.wp_bind, wp_writeDb, Program.wp_pure]
  have isId : existing.bindingId = id := Table.key_of_find? found
  refine ⟨⟨_, _, rfl⟩, StepObjectInstance.bindingId, (List.map_id _).symm, fun row _ => ?_⟩
  show termsOf _ (refer row.bindingId row) = if row.bindingId = some existing.bindingId then
    Terms.ofBinding (patched updateDto existing) else termsOf w.db row
  rcases isReference : row.bindingId with _ | bindingId
  · rw [termsOf_none rfl, if_neg nofun, termsOf_none isReference]
  rw [termsOf_some rfl, termsOf_some isReference, isId]
  by_cases same : bindingId = id
  · rw [if_pos (by rw [same]), same, Table.find?_updateAt_self, found]
    rfl
  · rw [if_neg fun is => same (Option.some.inj is), Table.find?_updateAt_of_ne same]

theorem rereads_remove (processTemplateStepId id : Nat) (w : World) :
    Rereads (termsAfter w.db (rewritten tenants w.db (.remove processTemplateStepId id))) w.db
      ((authoring tenants).step w (.remove processTemplateStepId id)).db := by
  let deleted := isRemoved processTemplateStepId id
  -- the binding that the call deletes, if there is one
  have isRewritten : rewritten tenants w.db (.remove processTemplateStepId id) =
      ((w.db.templateBindings.find? id).filter deleted).map fun existing =>
        (existing, .detached) := by
    simp only [rewritten]
    rcases found : w.db.templateBindings.find? id with _ | existing
    · rfl
    have isId : existing.bindingId = id := Table.key_of_find? found
    rw [Option.bind_eq_bind, Option.bind_some, Option.filter_some]
    by_cases same : existing.processTemplateStepId = processTemplateStepId
    · simp [deleted, isRemoved, isId, same]
    · simp [deleted, isRemoved, isId, same]
  refine ⟨⟨_, _, rfl⟩, fun row => if (w.db.bindingOf row).any deleted = true then none
    else row.bindingId, ?_, fun row _ => ?_⟩
  · refine List.map_congr_left fun row _ => ?_
    show (if (w.db.bindingOf row).any deleted = true then detached row else row) =
      refer (if (w.db.bindingOf row).any deleted = true then none else row.bindingId) row
    split <;> rfl
  show termsOf _ (refer (if (w.db.bindingOf row).any deleted = true then none
    else row.bindingId) row) = _
  rw [isRewritten]
  by_cases gone : (w.db.bindingOf row).any deleted = true
  · -- the row referred to the deleted binding
    rw [if_pos gone, termsOf_none rfl]
    rcases isBinding : w.db.bindingOf row with _ | existing
    · rw [isBinding] at gone
      cases gone
    rw [isBinding] at gone
    have isDeleted : deleted existing = true := gone
    obtain ⟨bindingId, isReference, found⟩ := Option.bind_eq_some_iff.mp isBinding
    have isId : existing.bindingId = id := by
      simpa using (Bool.and_eq_true_iff.mp isDeleted).1
    have sameId : existing.bindingId = bindingId := Table.key_of_find? found
    rw [← isId, sameId, found, Option.filter_some, if_pos isDeleted]
    show _ = if row.bindingId = some existing.bindingId then Terms.detached else termsOf w.db row
    rw [if_pos (by rw [isReference, sameId])]
  · rw [if_neg gone]
    have kept : termsAfter w.db (((w.db.templateBindings.find? id).filter deleted).map
        fun existing => (existing, .detached)) row = termsOf w.db row := by
      rcases isDeleted : (w.db.templateBindings.find? id).filter deleted with _ | existing
      · rfl
      obtain ⟨found, removed⟩ := Option.filter_eq_some_iff.mp isDeleted
      refine if_neg fun isReference => gone ?_
      unfold Database.bindingOf
      rw [isReference, Option.bind_some,
        show existing.bindingId = id from Table.key_of_find? found, found]
      exact removed
    rw [kept]
    rcases isReference : row.bindingId with _ | bindingId
    · rw [termsOf_none rfl, termsOf_none isReference]
    rw [termsOf_some rfl, termsOf_some isReference]
    show (((w.db.templateBindings.remove deleted).find? bindingId).map _).getD _ = _
    rw [Table.find?_remove]
    have here : w.db.bindingOf row = w.db.templateBindings.find? bindingId := by
      unfold Database.bindingOf
      rw [isReference, Option.bind_some]
    rw [here] at gone
    rcases found : w.db.templateBindings.find? bindingId with _ | existing
    · rfl
    rw [found] at gone
    have stays : deleted existing = false := by simpa using gone
    rw [Option.filter_some, stays, Bool.not_false, if_pos rfl]

theorem rereads_step (call : TemplateCall) (w : World) :
    Rereads (termsAfter w.db (rewritten tenants w.db call)) w.db
      ((authoring tenants).step w call).db := by
  cases call with
  | update id updateDto => exact rereads_update id updateDto w
  | remove processTemplateStepId id => exact rereads_remove processTemplateStepId id w

theorem rewritten_found {call : TemplateCall} {binding : TemplateBinding} {terms : Terms}
    (rewrites : rewritten tenants db call = some (binding, terms)) :
    db.templateBindings.find? binding.bindingId = some binding := by
  have isFound : ∃ id, db.templateBindings.find? id = some binding := by
    cases call with
    | update id updateDto =>
        obtain ⟨existing, found, written⟩ := Option.bind_eq_some_iff.mp rewrites
        split at written
        · cases written
          exact ⟨id, found⟩
        · cases written
    | remove processTemplateStepId id =>
        obtain ⟨existing, found, written⟩ := Option.bind_eq_some_iff.mp rewrites
        split at written
        · cases written
          exact ⟨id, found⟩
        · cases written
  obtain ⟨id, found⟩ := isFound
  rw [show binding.bindingId = id from Table.key_of_find? found]
  exact found

/-! ## Calls that reach no gate -/

/-- The new terms of a binding change nothing for the process. Where the mandatory flag is a
different one, no step has an open object row under the binding, unless another row blocks it. The
completion rule accepts the same instances where an object of the process is under the binding. -/
structure Unread (processInstanceId : Nat) (db : Database) (binding : TemplateBinding)
    (terms : Terms) : Prop where
  gate : terms.isMandatory ≠ binding.isMandatory →
    ∀ step ∈ db.steps.rows, step.processInstanceId = processInstanceId →
      (∃ row ∈ db.objectInstances.rows, row.stepInstanceId = step.stepInstanceId ∧
        isOpen row = true ∧ row.bindingId = some binding.bindingId) →
      ∃ row ∈ db.objectInstances.rows, row.stepInstanceId = step.stepInstanceId ∧
        isOpen row = true ∧ row.bindingId ≠ some binding.bindingId ∧
          db.isMandatoryObject row = true
  rule : ∀ configCustomObjectInstanceId link, 0 < configCustomObjectInstanceId →
    findLink db configCustomObjectInstanceId = some link →
      link.proc.processInstanceId = processInstanceId →
        link.row.bindingId = some binding.bindingId →
          SameRule terms.completionRule (some binding.completionRule)

/-- The call rewrites nothing that a gate of the process reads. -/
def Harmless (deployment : Deployment) (tenants : AuthoringTenants) (processInstanceId : Nat)
    (w : World) (call : TemplateCall) : Prop :=
  deployment.flags.configObjectStepsEnabled = true →
    ∀ binding terms, rewritten tenants w.db call = some (binding, terms) →
      Unread processInstanceId w.db binding terms

section Rewritten

variable {binding : TemplateBinding} {terms : Terms}

theorem termsAfter_under {row : StepObjectInstance}
    (under : row.bindingId = some binding.bindingId) :
    termsAfter db (some (binding, terms)) row = terms := if_pos under

theorem termsAfter_other {row : StepObjectInstance}
    (other : row.bindingId ≠ some binding.bindingId) :
    termsAfter db (some (binding, terms)) row = termsOf db row := if_neg other

theorem termsOf_under (found : db.templateBindings.find? binding.bindingId = some binding)
    {row : StepObjectInstance} (under : row.bindingId = some binding.bindingId) :
    termsOf db row = .ofBinding binding := by
  rw [termsOf_some under, found]
  rfl

/-- The gate of a step is the same when the flag is, when no open row of the step is under the
binding, or when another row blocks the step. -/
theorem open_iff (found : db.templateBindings.find? binding.bindingId = some binding)
    (stepInstanceId : Nat) :
    (Open (termsAfter db (some (binding, terms))) db stepInstanceId ↔
        Open (termsOf db) db stepInstanceId) ↔
      (terms.isMandatory ≠ binding.isMandatory →
        (∃ row ∈ db.objectInstances.rows, row.stepInstanceId = stepInstanceId ∧
          isOpen row = true ∧ row.bindingId = some binding.bindingId) →
        ∃ row ∈ db.objectInstances.rows, row.stepInstanceId = stepInstanceId ∧
          isOpen row = true ∧ row.bindingId ≠ some binding.bindingId ∧
            db.isMandatoryObject row = true) := by
  constructor
  · rintro same changes ⟨row, member, ofStep, opened, under⟩
    by_contra noOther
    have others : ∀ other ∈ db.objectInstances.rows, other.stepInstanceId = stepInstanceId →
        isOpen other = true → other.bindingId ≠ some binding.bindingId →
          (termsOf db other).isMandatory = false := by
      intro other otherMember otherStep otherOpen elsewhere
      rw [← isMandatoryObject_eq, ← Bool.not_eq_true]
      exact fun mandatory =>
        noOther ⟨other, otherMember, otherStep, otherOpen, elsewhere, mandatory⟩
    rcases isMandatory : binding.isMandatory with _ | _
    · have before : Open (termsOf db) db stepInstanceId := by
        intro other otherMember otherStep otherOpen
        by_cases here : other.bindingId = some binding.bindingId
        · rw [termsOf_under found here]
          exact isMandatory
        · exact others other otherMember otherStep otherOpen here
      have now := same.mpr before row member ofStep opened
      rw [termsAfter_under under] at now
      exact changes (now.trans isMandatory.symm)
    · have after : Open (termsAfter db (some (binding, terms))) db stepInstanceId := by
        intro other otherMember otherStep otherOpen
        by_cases here : other.bindingId = some binding.bindingId
        · rw [termsAfter_under here]
          rw [isMandatory] at changes
          exact Bool.not_eq_true _ ▸ changes
        · rw [termsAfter_other here]
          exact others other otherMember otherStep otherOpen here
      have stays := same.mp after row member ofStep opened
      rw [termsOf_under found under, Terms.ofBinding, isMandatory] at stays
      cases stays
  · intro unread
    by_cases changes : terms.isMandatory = binding.isMandatory
    · refine forall₄_congr fun row member ofStep opened => ?_
      by_cases here : row.bindingId = some binding.bindingId
      · rw [termsAfter_under here, termsOf_under found here, changes]
        rfl
      · rw [termsAfter_other here]
    · by_cases under : ∃ row ∈ db.objectInstances.rows, row.stepInstanceId = stepInstanceId ∧
          isOpen row = true ∧ row.bindingId = some binding.bindingId
      · obtain ⟨row, member, ofStep, opened, elsewhere, mandatory⟩ := unread changes under
        rw [isMandatoryObject_eq] at mandatory
        refine iff_of_false (fun after => ?_) (fun before => ?_)
        · have optional := after row member ofStep opened
          rw [termsAfter_other elsewhere, mandatory] at optional
          cases optional
        · have optional := before row member ofStep opened
          rw [mandatory] at optional
          cases optional
      · refine forall₄_congr fun row member ofStep opened => ?_
        rw [termsAfter_other fun here => under ⟨row, member, ofStep, opened, here⟩]

end Rewritten

/-- With object steps switched off, nothing is gated. -/
theorem sameGates_of_disabled (disabled : deployment.flags.configObjectStepsEnabled = false)
    {w w' : World} (requirements : w'.db.requirements = w.db.requirements) :
    SameGates deployment processInstanceId w w' := by
  have answers : ∀ stepInstanceId, areMandatoryBindingsValid deployment w'.db stepInstanceId =
      areMandatoryBindingsValid deployment w.db stepInstanceId := by
    intro stepInstanceId
    unfold areMandatoryBindingsValid
    rw [if_pos disabled, if_pos disabled]
  refine ⟨fun step _ _ => answers step.stepInstanceId, fun step _ _ => ?_, ?_⟩
  · unfold isCompletable checkStepGates checkRequirementsOnly Database.requirementsOf
    rw [answers, requirements]
  · intro configCustomObjectInstanceId _ customInstances correlationId
    unfold validateByCustomInstanceId
    rw [if_pos disabled]
    rfl

theorem sameGates_step_iff (w : World) (call : TemplateCall) :
    SameGates deployment processInstanceId w ((authoring tenants).step w call) ↔
      Harmless deployment tenants processInstanceId w call := by
  have rereads := @rereads_step tenants call w
  unfold Harmless
  by_cases enabled : deployment.flags.configObjectStepsEnabled = true
  · rw [rereads.sameGates_iff enabled]
    rcases isRewritten : rewritten tenants w.db call with _ | ⟨binding, terms⟩
    · refine iff_of_true ⟨fun _ _ _ => Iff.rfl, fun _ _ _ _ _ _ _ => rfl⟩ ?_
      exact fun _ _ _ never => nomatch never
    · have found := rewritten_found isRewritten
      constructor
      · rintro ⟨gates, rules⟩ _ _ _ isSame
        cases isSame
        refine ⟨fun changes step member ofProcess =>
          (open_iff found _).mp (gates step member ofProcess) changes, ?_⟩
        intro configCustomObjectInstanceId link positive isLink ofProcess under
        have same := rules configCustomObjectInstanceId link positive isLink ofProcess
        rw [termsAfter_under under, termsOf_under found under] at same
        exact same
      · intro harmless
        have unread := harmless enabled binding terms rfl
        refine ⟨fun step member ofProcess => (open_iff found _).mpr fun changes =>
          unread.gate changes step member ofProcess, ?_⟩
        intro configCustomObjectInstanceId link positive isLink ofProcess
        by_cases under : link.row.bindingId = some binding.bindingId
        · rw [termsAfter_under under, termsOf_under found under]
          exact unread.rule configCustomObjectInstanceId link positive isLink ofProcess under
        · rw [termsAfter_other under]
          exact fun _ _ => rfl
  · refine iff_of_true (sameGates_of_disabled (Bool.not_eq_true _ ▸ enabled) ?_)
      fun on => absurd on enabled
    obtain ⟨⟨_, _, shape⟩, _⟩ := rereads
    rw [shape]

/-! ## Sequences of calls -/

theorem SameGates.refl (w : World) : SameGates deployment processInstanceId w w :=
  ⟨fun _ _ _ => rfl, fun _ _ _ => rfl, fun _ _ _ _ => rfl⟩

theorem isLinked_step (w : World) (call : TemplateCall) (configCustomObjectInstanceId : Nat) :
    IsLinked ((authoring tenants).step w call).db processInstanceId
        configCustomObjectInstanceId ↔
      IsLinked w.db processInstanceId configCustomObjectInstanceId := by
  obtain ⟨reference, links, _⟩ :=
    (@rereads_step tenants call w).findLink_eq configCustomObjectInstanceId
  unfold IsLinked
  rw [links]
  rcases findLink w.db configCustomObjectInstanceId with _ | link <;> simp

/-- Behind a call that left the gates as they were, they are compared with what they were
before it. -/
theorem SameGates.behind_iff {w w' : World} {call : TemplateCall}
    (same : SameGates deployment processInstanceId w ((authoring tenants).step w call)) :
    SameGates deployment processInstanceId ((authoring tenants).step w call) w' ↔
      SameGates deployment processInstanceId w w' := by
  have steps : ((authoring tenants).step w call).db.steps = w.db.steps :=
    (rereads_step call w).steps
  constructor
  · intro later
    refine ⟨fun step member ofProcess => ?_, fun step member ofProcess => ?_, ?_⟩
    · exact (later.answers step (steps ▸ member) ofProcess).trans
        (same.answers step member ofProcess)
    · exact (later.completions step (steps ▸ member) ofProcess).trans
        (same.completions step member ofProcess)
    · intro configCustomObjectInstanceId linked customInstances correlationId
      exact (later.verdicts _ ((isLinked_step w call _).mpr linked) customInstances
        correlationId).trans (same.verdicts _ linked customInstances correlationId)
  · intro both
    refine ⟨fun step member ofProcess => ?_, fun step member ofProcess => ?_, ?_⟩
    · exact (both.answers step (steps ▸ member) ofProcess).trans
        (same.answers step (steps ▸ member) ofProcess).symm
    · exact (both.completions step (steps ▸ member) ofProcess).trans
        (same.completions step (steps ▸ member) ofProcess).symm
    · intro configCustomObjectInstanceId linked customInstances correlationId
      have linkedBefore := (isLinked_step w call _).mp linked
      exact (both.verdicts _ linkedBefore customInstances correlationId).trans
        (same.verdicts _ linkedBefore customInstances correlationId).symm

/-- Every prefix of a sequence of calls leaves the gates of a process as they were exactly when
each call is harmless where it is made. -/
theorem gates_unreached_iff (calls : List TemplateCall) :
    ∀ w : World,
      (∀ first rest, calls = first ++ rest →
        SameGates deployment processInstanceId w ((authoring tenants).run w first)) ↔
      (authoring tenants).Guarded (Harmless deployment tenants processInstanceId) w calls := by
  induction calls with
  | nil =>
      refine fun w => iff_of_true (fun first rest isPrefix => ?_) trivial
      rw [(List.append_eq_nil_iff.mp isPrefix.symm).1]
      exact .refl w
  | cons call calls ih =>
      intro w
      rw [StepSystem.guarded_cons, ← sameGates_step_iff, ← ih]
      constructor
      · intro all
        have first := all [call] calls rfl
        refine ⟨first, fun before rest isPrefix => first.behind_iff.mpr ?_⟩
        exact all (call :: before) rest (by rw [isPrefix]; rfl)
      · rintro ⟨first, later⟩ before rest isPrefix
        rcases before with _ | ⟨head, before⟩
        · exact .refl w
        · obtain ⟨rfl, isRest⟩ := List.cons_eq_cons.mp isPrefix
          exact first.behind_iff.mp (later before rest isRest)

/-- A step that waits for an object. -/
def boundStep : Templates where
  steps := [.row 1 .manual 1 none]
  requirements := []
  triggers := []
  bindings := [.row 1 1]
  configObjects := [.row]

/-- The process was started. -/
def boundProcess : World :=
  ((Engine.system .allEnabled).run (Engine.installed boundStep)
    [.invoke (.startProcess (.workflow 1 1 .ignore))]).world

/-- One tenant for everything. -/
def oneTenant : AuthoringTenants where
  templateTenantId := fun _ => some 1
  objectTenantId := fun _ => some 1

/-- Make the binding optional. -/
def makeOptional : TemplateCall :=
  .update 1 {
    processTemplateStepId := none
    configObjectId := none
    bindingMode := none
    isMandatory := some false
    completionRule := none
    orderIndex := none }

/-- An edit of the template opens the gate of a running process. -/
theorem makeOptional_opens_gate :
    StatusIs boundProcess.db 1 .active ∧
      ¬SameGates .allEnabled 1 boundProcess
        ((authoring oneTenant).run boundProcess [makeOptional]) := by
  refine ⟨by decide, fun same => ?_⟩
  obtain ⟨step, member, ofProcess, opens⟩ : ∃ step ∈ boundProcess.db.steps.rows,
      step.processInstanceId = 1 ∧
        areMandatoryBindingsValid .allEnabled
            ((authoring oneTenant).run boundProcess [makeOptional]).db step.stepInstanceId ≠
          areMandatoryBindingsValid .allEnabled boundProcess.db step.stepInstanceId := by
    decide
  exact opens (same.answers step member ofProcess)

end TemplateStepObjectBindings

end CoreApi.Automation
