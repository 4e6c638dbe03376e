import CoreApi.Automation.StepOrchestrator
import CoreApi.Foundation.TableChanges

/-!
# Template authoring of object bindings

`ProcessTemplateStepObjectBindingsService`: the edits of the bindings of a
template step. An object row of a running instance refers to its binding by a
foreign key that a removed binding leaves empty.
-/

namespace CoreApi.Automation

open CoreApi.Foundation

/-- `binding_mode` as text. -/
def TemplateBindingMode.text : TemplateBindingMode → String
  | .createOnEnter => "create_on_enter"
  | .useExisting => "use_existing"

namespace TemplateStepObjectBindings

/-- The tenants authoring compares: that of a process template and that of the
template set of a config object. -/
structure AuthoringTenants where
  templateTenantId : Nat → Option Nat
  objectTenantId : Nat → Option Nat

/-- `UpdateProcessTemplateStepObjectBindingDto` without the id. -/
structure UpdateBinding where
  processTemplateStepId : Option Nat
  configObjectId : Option Nat
  bindingMode : Option TemplateBindingMode
  isMandatory : Option Bool
  completionRule : Option Record
  orderIndex : Option Int

/-- `PROCESS_TEMPLATE_OBJECT_BINDING_MODES_V1`. -/
def bindingModesV1 : List TemplateBindingMode := [.createOnEnter]

/-- Both tenants are known and they differ; zero is no tenant. -/
def tenantsDiffer : Option Nat → Option Nat → Bool
  | some templateTenantId, some objectTenantId =>
      0 < templateTenantId && 0 < objectTenantId && templateTenantId != objectTenantId
  | _, _ => false

/-- `assertProcessTemplateStepObjectBindingAllowed`. -/
def assertAllowed (tenants : AuthoringTenants) (db : Database)
    (processTemplateStepId configObjectId : Nat) (bindingMode : TemplateBindingMode) :
    Except String Unit :=
  if bindingMode ∉ bindingModesV1 then
    .error ("binding_mode \"" ++ bindingMode.text ++
      "\" is not supported in v1; use create_on_enter")
  else
    match db.templateSteps.find? processTemplateStepId with
    | none => .error "Process template step not found"
    | some step =>
        match db.configObjects.find? configObjectId with
        | none => .error "Config object not found"
        | some configObject =>
            if configObject.bindingMode = .systemTable then
              .error "Process step object bindings cannot reference system_table config objects"
            else if tenantsDiffer (tenants.templateTenantId step.processTemplateId)
                (tenants.objectTenantId configObjectId) = true then
              .error "Config object tenant does not match process template tenant"
            else .ok ()

/-- The binding with the patch over it. -/
def patched (updateDto : UpdateBinding) (existing : TemplateBinding) : TemplateBinding :=
  { existing with
    processTemplateStepId :=
      updateDto.processTemplateStepId.getD existing.processTemplateStepId
    configObjectId := updateDto.configObjectId.getD existing.configObjectId
    bindingMode := updateDto.bindingMode.getD existing.bindingMode
    isMandatory := updateDto.isMandatory.getD existing.isMandatory
    completionRule := updateDto.completionRule.getD existing.completionRule
    orderIndex := updateDto.orderIndex.getD existing.orderIndex }

@[simp] theorem patched_key (updateDto : UpdateBinding) (existing : TemplateBinding) :
    (patched updateDto existing).bindingId = existing.bindingId := rfl

/-- The checks `update` makes before it writes. -/
def assertPatchAllowed (tenants : AuthoringTenants) (db : Database) (updateDto : UpdateBinding)
    (existing : TemplateBinding) : Except String Unit :=
  assertAllowed tenants db
    (updateDto.processTemplateStepId.getD existing.processTemplateStepId)
    (updateDto.configObjectId.getD existing.configObjectId)
    (updateDto.bindingMode.getD existing.bindingMode)

/-- `update`; the result is the number of rows written. -/
def update (tenants : AuthoringTenants) (id : Nat) (updateDto : UpdateBinding) : Tx Nat := do
  let found ← Program.read fun w => w.db.templateBindings.find? id
  match found with
  | none => Program.raise "No record found for ProcessTemplateStepObjectBindingEntity."
  | some existing => do
      let allowed ← Program.read fun w => assertPatchAllowed tenants w.db updateDto existing
      Program.lift allowed
      writeDb fun db => { db with
        templateBindings := db.templateBindings.updateAt id (patched updateDto)
          (patched_key updateDto) }
      pure 1

/-- The binding that `remove` deletes. -/
def isRemoved (processTemplateStepId id : Nat) (binding : TemplateBinding) : Bool :=
  binding.bindingId == id && binding.processTemplateStepId == processTemplateStepId

/-- The foreign key of an object row to its binding: `ON DELETE SET NULL`. -/
def detached (row : StepObjectInstance) : StepObjectInstance := { row with bindingId := none }

@[simp] theorem detached_key (row : StepObjectInstance) :
    (detached row).stepObjectInstanceId = row.stepObjectInstanceId := rfl

/-- `DELETE` bindings, and empty the references to them. -/
def deleteBindings (db : Database) (deleted : TemplateBinding → Bool) : Database :=
  { db with
    templateBindings := db.templateBindings.remove deleted
    objectInstances := db.objectInstances.update
      (fun row => (db.bindingOf row).any deleted) detached detached_key }

/-- `remove`; the result is the number of rows deleted. -/
def remove (processTemplateStepId id : Nat) : Tx Nat :=
  Program.writeReturning fun w =>
    ((w.db.templateBindings.select (isRemoved processTemplateStepId id)).length,
      { w with db := deleteBindings w.db (isRemoved processTemplateStepId id) })

end TemplateStepObjectBindings

end CoreApi.Automation
