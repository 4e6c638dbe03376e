import CoreApi.ConfigObjects.ConfigLifecycleService
import CoreApi.ConfigObjects.InstanceIsolation
import CoreApi.Foundation.StepSystem

/-!
# The writers of a project's status

`ProjectsService.update` asks the lifecycle before it changes the status of a project.
The patch of a system-of-record instance writes the same column, which the registry
lists as writable, and asks nobody.
-/

namespace CoreApi.ConfigObjects

open CoreApi.Foundation Automation ObjectDesign

/-! ## The state and the validator -/

/-- The instances, their configuration, and the transitions of the lifecycles. -/
structure StatusDb extends InstanceDb where
  transitions : Table ConfigObjectLifecycleTransitionEntity

theorem DesignedObject.key_toConfigObjectEntity (object : DesignedObject) :
    Keyed.key object.toConfigObjectEntity = Keyed.key object := rfl

/-- The tables the validator reads; the others are left empty. -/
def StatusDb.lifecycle (db : StatusDb) : LifecycleDb where
  tenants := []
  tenantUsers := []
  templateSets := db.templateSets
  configObjects := db.configObjects.seenAs DesignedObject.toConfigObjectEntity
    DesignedObject.key_toConfigObjectEntity
  lifecycles := .empty _
  transitions := db.transitions
  statusMappings := .empty _
  projects := .empty _
  tasks := .empty _
  auditLogs := []

/-- The labels of the column `projects.status`, in order. -/
def projectStatuses : List ProjectStatus := [.active, .completed, .canceled, .onHold, .archived]

/-- What the column holds for a value that was written: a label as it is, a number as the
label at that place. -/
def statusLabel : Json → String
  | .str label => label
  | .num place => ((projectStatuses[(place - 1).toNat]?.filter fun _ => 1 ≤ place).map
      projectStatusText).getD ""
  | _ => ""

/-- The stored status of a project. -/
def statusOf (project : SorRow) : String :=
  ((project.columns.get? "status").map statusLabel).getD ""

/-- `validateProjectStatusTransition`, for statuses as they are stored. -/
def validateStatusChange (db : StatusDb) (status nextStatus : String) : Except String Unit :=
  if status = nextStatus then .ok ()
  else ConfigLifecycleService.checkTransition db.lifecycle "project" status nextStatus

/-- The same with the value of a data transfer object. Null is no status, and no condition on
the state a transition leads to. -/
def validateNextStatus (db : StatusDb) (status : String) :
    Option ProjectStatus → Except String Unit
  | some nextStatus => validateStatusChange db status (projectStatusText nextStatus)
  | none =>
      match ConfigLifecycleService.publishedConfigObject db.lifecycle "project" with
      | none => .ok ()
      | some configObject =>
          if db.transitions.rows.any fun transition =>
              transition.configObjectId == configObject.configObjectId &&
                transition.fromStateKey == status then .ok ()
          else .error ("Invalid project status transition from \"" ++ status ++ "\" to \"null\"")

/-! ## The update of a project -/

/-- The properties of `UpdateProjectDto` that are columns, but for the key, the tenant and the
status. -/
def updatableColumns : List String :=
  ["name", "description", "projectIdentifier", "parentProjectId", "isShared", "completedAt",
    "canceledAt", "onHoldAt", "stepsTotal", "stepsCompleted", "tasksTotal", "tasksCompleted",
    "createdBy", "updatedBy"]

/-- `UpdateProjectDto`. A status that is given may be null; the template is no column. -/
structure UpdateProjectDto where
  projectId : Nat
  status : Option (Option ProjectStatus)
  tenantId : Option Nat
  processTemplateId : Option Nat
  columns : Record
  known : ∀ name ∈ columns.names, name ∈ updatableColumns

/-- A change of the columns never names the status. -/
theorem UpdateProjectDto.status_not_mem (dto : UpdateProjectDto) :
    "status" ∉ dto.columns.names := fun member =>
  absurd (dto.known "status" member) (by decide)

/-- Calls on the statuses. -/
abbrev StatusTx := Program StatusDb DesignError

/-- A call on the instances. -/
def onInstances {α : Type} (call : InstanceTx α) : StatusTx α :=
  call.within StatusDb.toInstanceDb fun instances db => { db with toInstanceDb := instances }

variable (services : InstanceServices)

/-- The row that `update` writes. -/
def updatedProject (userId : Nat) (dto : UpdateProjectDto) (project : SorRow) : SorRow :=
  let columns := (project.columns.spread dto.columns).set "updatedBy" (.num userId)
  { project with
    tenantId := dto.tenantId <|> project.tenantId
    columns :=
      match dto.status with
      | some (some status) => columns.set "status" (.str (projectStatusText status))
      | _ => columns }

/-- `ProjectsService.update`. The column of the status is not nullable, and a property that is
no column is refused by the mapper. -/
def updateProject (userId : Nat) (dto : UpdateProjectDto) : StatusTx Unit := do
  let found ← Program.read fun db => (db.cores .project).find? dto.projectId
  match found with
  | none => Program.raise .database
  | some project => do
      let validated ← Program.read fun db =>
        match dto.status with
        | none => .ok ()
        | some nextStatus =>
            (validateNextStatus db (statusOf project) nextStatus).mapError DesignError.rpc
      Program.lift validated
      if dto.processTemplateId ≠ none ∨ dto.status = some none then Program.raise .database
      else onInstances (saveCore services .project (updatedProject userId dto project))

/-! ## Runs of calls -/

/-- A call that may write the status of a project. -/
inductive StatusCall where
  | update (userId : Nat) (dto : UpdateProjectDto)
  | applySorBoundInstancePatch (params : ApplySorBoundInstancePatchParams)

/-- A call. -/
def StatusCall.run : StatusCall → StatusTx Unit
  | .update userId dto => updateProject services userId dto
  | .applySorBoundInstancePatch params => do
      let _ ← onInstances (ConfigObjects.applySorBoundInstancePatch services params)

/-- The calls, one after the other; what they raise is the business of the caller. -/
def statusSystem : StepSystem StatusDb StatusCall where
  step db call := (call.run services db).2

/-- Each status that changed was allowed to change. -/
def RespectsLifecycle (before after : StatusDb) : Prop :=
  ∀ projectId row row', (before.cores .project).find? projectId = some row →
    (after.cores .project).find? projectId = some row' → statusOf row ≠ statusOf row' →
    validateStatusChange before (statusOf row) (statusOf row') = .ok ()

/-- The project as a patch of core columns leaves it. -/
def patchedProject (params : ApplySorBoundInstancePatchParams) (project : SorRow) : SorRow :=
  { project with
    columns := assignFilteredCoreProps .project project.columns params.filteredCore }

/-- A patch writes core columns of this project: the object is bound to the projects, the row is
there and belongs to the tenant, and the table takes the columns. -/
structure PatchesProject (db : InstanceDb) (params : ApplySorBoundInstancePatchParams)
    (project : SorRow) : Prop where
  isProject : params.objectType = "project"
  writesCore : params.filteredCore ≠ []
  schema : ∃ schema, getObjectSchema services.toSchemaServices db.toRuntimeDb
      (effectiveTenant params.tenantId) params.objectType = .ok (some schema) ∧
    schema.configObject.bindingMode = .sorBound
  isRow : (db.cores .project).find? params.coreId = some project
  tenant : effectiveTenant params.tenantId ≠ none ∧
    project.tenantId = effectiveTenant params.tenantId
  accepted : services.acceptsCore db .project (patchedProject params project) = true

/-- A patch that writes a project leaves its status, or changes it as the lifecycle allows. -/
def KeepsToLifecycle (db : StatusDb) : StatusCall → Prop
  | .update _ _ => True
  | .applySorBoundInstancePatch params => ∀ project,
      PatchesProject services db.toInstanceDb params project →
      validateStatusChange db (statusOf project) (statusOf (patchedProject params project)) = .ok ()

/-! ## What the calls write -/

section Writes

variable {services} {db : InstanceDb}

theorem SorRow.key_stored (row old : SorRow) :
    Keyed.key { row with coreId := old.coreId } = Keyed.key old := rfl

/-- The core tables with the row saved. -/
def savedCores (db : InstanceDb) (type : SorType) (row : SorRow) : SorType → Table SorRow :=
  Function.update db.cores type ((db.cores type).updateAt row.coreId
    (fun old => { row with coreId := old.coreId }) row.key_stored)

/-- A saved row is found under its key, every other as before. -/
theorem find?_savedCores {type : SorType} {row old : SorRow}
    (isRow : (db.cores type).find? row.coreId = some old) (id : Nat) :
    (savedCores db type row type).find? id =
      if id = row.coreId then some row else (db.cores type).find? id := by
  unfold savedCores
  rw [Function.update_self]
  by_cases same : id = row.coreId
  · rw [if_pos same, same, Table.find?_updateAt_self, isRow, Option.map_some]
    have isKey : old.coreId = row.coreId := Table.key_of_find? isRow
    rw [isKey]
  · rw [if_neg same, Table.find?_updateAt_of_ne same]

/-- A core row is saved where the table takes it. -/
theorem saveCore_saved {type : SorType} {row : SorRow} :
    (saveCore services type row).wp
      (fun _ after => services.acceptsCore db type row = true ∧ after.cores = savedCores db type row)
      (fun _ after => after = db ∧ services.acceptsCore db type row = false) db := by
  unfold saveCore
  rw [Program.wp_bind, Program.wp_read, Program.wp_ite, Program.wp_write]
  exact ⟨fun accepted => ⟨accepted, rfl⟩, fun refused => ⟨rfl, Bool.not_eq_true _ ▸ refused⟩⟩

/-- The target takes the core columns of a patch: the row is there and is one of the target, and
the table accepts it. -/
structure TakesCore (services : InstanceServices) (db : InstanceDb) (target : PatchTarget)
    (coreId : Nat) (filteredCore : Record) (row : SorRow) : Prop where
  isRow : (db.cores target.type).find? coreId = some row
  checked : target.checkRow row = .ok ()
  accepted : services.acceptsCore db target.type
    { row with columns := assignFilteredCoreProps target.type row.columns filteredCore } = true

/-- What a patch does behind the core columns leaves these as they are, and returns. -/
theorem patch_rest {target : PatchTarget} {coreId : Nat} {filteredMeta : Record}
    {between : InstanceDb} {row : SorRow}
    (isRow : (between.cores target.type).find? coreId = some row) :
    ((do
      let metaRow ← Program.read fun db => metaRowOf db target.type coreId
      let metaJson := (metaJsonOf metaRow).spread filteredMeta
      Program.when (filteredMeta ≠ []) (saveMeta target.type coreId metaRow metaJson)
      let core ← findCore target coreId " not found after update."
      pure { core, metaJson }) : InstanceTx ApplySorBoundInstancePatchResult).wp
        (fun _ after => after.cores = between.cores) (fun _ _ => False) between := by
  have rest : ∀ (after : InstanceDb) (metaJson : Record), after.cores = between.cores →
      (findCore target coreId " not found after update." >>= fun core =>
        (pure ⟨core, metaJson⟩ : InstanceTx ApplySorBoundInstancePatchResult)).wp
        (fun _ after => after.cores = between.cores) (fun _ _ => False) after := by
    intro after metaJson same
    rw [Program.wp_bind]
    refine wp_findCore (fun core _ => same) fun absent => ?_
    rw [same, isRow] at absent
    cases absent
  rw [Program.wp_bind, Program.wp_read]
  dsimp only
  rw [Program.wp_bind, Program.wp_when]
  have savedMeta : ∀ metaRow metaJson, (saveMeta target.type coreId metaRow metaJson).wp
      (fun _ after => after.cores = between.cores) (fun _ _ => False) between :=
    fun _ _ => rfl
  exact ⟨fun _ => Program.wp_mono (savedMeta _ _) (fun _ after same => rest after _ same)
    fun _ _ never => never.elim, fun _ => rest between _ rfl⟩

theorem patchCoreAndMeta_saves {target : PatchTarget} {coreId : Nat}
    {filteredCore filteredMeta : Record} (writesCore : filteredCore ≠ []) :
    (patchCoreAndMeta services target coreId filteredCore filteredMeta).wp
      (fun _ after => ∃ row, TakesCore services db target coreId filteredCore row ∧
        after.cores = savedCores db target.type
          { row with columns := assignFilteredCoreProps target.type row.columns filteredCore })
      (fun _ _ => ¬ ∃ row, TakesCore services db target coreId filteredCore row) db := by
  unfold patchCoreAndMeta
  rw [Program.wp_bind]
  refine wp_findCore (fun row isRow => ?_) fun absent => ?_
  · rw [Program.wp_bind]
    rcases checked : target.checkRow row with failure | _
    · rw [Program.wp_lift_error]
      rintro ⟨other, takes⟩
      obtain rfl := Option.some.inj (isRow.symm.trans takes.isRow)
      rw [takes.checked] at checked
      cases checked
    · rw [Program.wp_lift_ok, Program.wp_bind, Program.wp_when]
      refine ⟨fun _ => ?_, fun none => absurd writesCore none⟩
      refine Program.wp_mono saveCore_saved ?_ ?_
      · rintro _ between ⟨accepted, saved⟩
        have isKey : row.coreId = coreId := Table.key_of_find? isRow
        have stays : (between.cores target.type).find? coreId = some
            { row with columns := assignFilteredCoreProps target.type row.columns filteredCore } := by
          rw [saved, ← isKey]
          exact (find?_savedCores (isKey ▸ isRow) _).trans (if_pos rfl)
        refine Program.wp_mono (patch_rest stays) ?_ fun _ _ never => never.elim
        intro _ after same
        exact ⟨row, ⟨isRow, checked, accepted⟩, same.trans saved⟩
      · rintro _ _ ⟨_, refused⟩ ⟨other, takes⟩
        obtain rfl := Option.some.inj (isRow.symm.trans takes.isRow)
        rw [takes.accepted] at refused
        cases refused
  · rintro ⟨row, takes⟩
    rw [takes.isRow] at absent
    cases absent

/-- A patch of custom values alone leaves the core rows. -/
theorem patchCoreAndMeta_keeps {target : PatchTarget} {coreId : Nat} {filteredMeta : Record} :
    (patchCoreAndMeta services target coreId [] filteredMeta).wp
      (fun _ after => after.cores = db.cores) (fun _ _ => True) db := by
  unfold patchCoreAndMeta
  rw [Program.wp_bind]
  refine wp_findCore (fun row isRow => ?_) fun _ => trivial
  rw [Program.wp_bind]
  rcases target.checkRow row with failure | _
  · trivial
  · rw [Program.wp_lift_ok, Program.wp_bind, Program.wp_when]
    exact ⟨fun none => absurd rfl none, fun _ => Program.wp_mono (patch_rest isRow)
      (fun _ _ same => same) fun _ _ never => never.elim⟩

variable {params : ApplySorBoundInstancePatchParams}

theorem sorTypeOf_project : sorTypeOf "project" = some .project := by decide

theorem patchesProject_iff {schema : ObjectSchema} {project : SorRow}
    (isProject : params.objectType = "project") (writesCore : params.filteredCore ≠ [])
    (isSchema : getObjectSchema services.toSchemaServices db.toRuntimeDb
      (effectiveTenant params.tenantId) params.objectType = .ok (some schema))
    (checked : checkPatch params schema = .ok ()) :
    PatchesProject services db params project ↔
      TakesCore services db (targetOf params .project) params.coreId params.filteredCore project := by
  have bound : schema.configObject.bindingMode = .sorBound ∧
      effectiveTenant params.tenantId ≠ none := by
    unfold checkPatch at checked
    split at checked
    · cases checked
    · rename_i isSor
      split at checked
      · cases checked
      · split at checked
        · cases checked
        · split at checked
          · cases checked
          · rename_i isScoped
            exact ⟨not_not.mp isSor, fun none => isScoped ⟨writesCore, none⟩⟩
  constructor
  · intro patches
    refine ⟨patches.isRow, ?_, patches.accepted⟩
    exact if_neg fun foreign => foreign.2.2 patches.tenant.2
  · intro takes
    refine ⟨isProject, writesCore, ⟨schema, isSchema, bound.1⟩, takes.isRow, ⟨bound.2, ?_⟩,
      takes.accepted⟩
    have isChecked : checkTenantOfCore "Project does not belong to the specified tenant."
        (effectiveTenant params.tenantId) params.filteredCore project = .ok () := takes.checked
    unfold checkTenantOfCore at isChecked
    split at isChecked
    · cases isChecked
    · rename_i own
      by_contra foreign
      exact own ⟨writesCore, bound.2, foreign⟩

/-- A patch that writes a project passes the checks before the transaction. -/
theorem PatchesProject.checked {project : SorRow}
    (patches : PatchesProject services db params project) {schema : ObjectSchema}
    (isSchema : getObjectSchema services.toSchemaServices db.toRuntimeDb
      (effectiveTenant params.tenantId) params.objectType = .ok (some schema)) :
    checkPatch params schema = .ok () := by
  obtain ⟨found, isFound, isSor⟩ := patches.schema
  obtain rfl : found = schema := Option.some.inj (Except.ok.inj (isFound.symm.trans isSchema))
  have described : getSorFieldDescriptors params.objectType ≠ [] := by
    rw [patches.isProject]
    exact getSorFieldDescriptors_ne_nil sorTypeOf_project
  unfold checkPatch
  rw [if_neg (not_not.mpr isSor), if_neg described, if_neg fun none => patches.writesCore none.1,
    if_neg fun unscoped => patches.tenant.1 unscoped.2]

/-- A patch saves the project it writes, and leaves the projects where it writes none. -/
theorem patch_projects (params : ApplySorBoundInstancePatchParams) :
    (applySorBoundInstancePatch services params).wp
      (fun _ after =>
        (∃ project, PatchesProject services db params project ∧
          after.cores = savedCores db .project (patchedProject params project)) ∨
        ((¬ ∃ project, PatchesProject services db params project) ∧
          after.cores .project = db.cores .project))
      (fun _ after => after = db ∧ ¬ ∃ project, PatchesProject services db params project) db := by
  unfold applySorBoundInstancePatch
  rw [Program.wp_bind, Program.wp_read, Program.wp_bind]
  rcases isSchema : getObjectSchema services.toSchemaServices (id db).toRuntimeDb
    (effectiveTenant params.tenantId) params.objectType with failure | found
  · refine ⟨rfl, ?_⟩
    rintro ⟨project, patches⟩
    obtain ⟨schema, isFound, _⟩ := patches.schema
    exact nomatch isFound.symm.trans isSchema
  rw [Program.wp_lift_ok]
  rcases found with _ | schema
  · refine ⟨rfl, ?_⟩
    rintro ⟨project, patches⟩
    obtain ⟨schema, isFound, _⟩ := patches.schema
    exact nomatch isFound.symm.trans isSchema
  dsimp only
  rw [Program.wp_bind]
  rcases checked : checkPatch params schema with failure | _
  · refine ⟨rfl, ?_⟩
    rintro ⟨project, patches⟩
    exact nomatch (patches.checked isSchema).symm.trans checked
  rw [Program.wp_lift_ok, Program.wp_atomically]
  rcases isType : sorTypeOf params.objectType with _ | type
  · unfold applySorBoundPatchInTransaction
    rw [isType]
    refine ⟨rfl, ?_⟩
    rintro ⟨project, patches⟩
    rw [patches.isProject, sorTypeOf_project] at isType
    cases isType
  · rw [patch_eq_patchCoreAndMeta isType]
    by_cases noCore : params.filteredCore = []
    · have none : ¬ ∃ project, PatchesProject services db params project :=
        fun ⟨_, patches⟩ => patches.writesCore noCore
      rw [noCore]
      exact Program.wp_mono patchCoreAndMeta_keeps
        (fun _ after same => .inr ⟨none, congrFun same .project⟩) fun _ _ _ => ⟨rfl, none⟩
    · by_cases isProject : type = .project
      · subst isProject
        have named : params.objectType = "project" := (text_of_sorTypeOf isType).symm
        have takes := fun project => @patchesProject_iff services db params schema project named
          noCore isSchema checked
        refine Program.wp_mono (patchCoreAndMeta_saves noCore) ?_ ?_
        · rintro _ after ⟨project, takesCore, saved⟩
          exact .inl ⟨project, (takes project).mpr takesCore, saved⟩
        · rintro _ _ refused
          exact ⟨rfl, fun ⟨project, patches⟩ => refused ⟨project, (takes project).mp patches⟩⟩
      · have none : ¬ ∃ project, PatchesProject services db params project := by
          rintro ⟨project, patches⟩
          rw [patches.isProject, sorTypeOf_project] at isType
          exact isProject (Option.some.inj isType).symm
        refine Program.wp_mono (patchCoreAndMeta_saves noCore) ?_ fun _ _ _ => ⟨rfl, none⟩
        rintro _ after ⟨row, _, saved⟩
        refine .inr ⟨none, ?_⟩
        rw [saved, savedCores, targetOf_type]
        exact Function.update_of_ne (Ne.symm isProject) _ _

end Writes

/-! ## Which runs keep to the lifecycle -/

section Runs

variable {services} {db after : StatusDb}

theorem validateStatusChange_self (db : StatusDb) (status : String) :
    validateStatusChange db status status = .ok () := if_pos rfl

/-- Where no project was written no status changed. -/
theorem RespectsLifecycle.of_same (same : after.cores .project = db.cores .project) :
    RespectsLifecycle db after := by
  intro projectId row row' isRow isRow' changed
  rw [same, isRow] at isRow'
  exact absurd (congrArg statusOf (Option.some.inj isRow')) changed

/-- Where one project was saved, its status alone may have changed. -/
theorem respectsLifecycle_saved {row old : SorRow}
    (isRow : (db.cores .project).find? row.coreId = some old)
    (saved : after.cores .project = savedCores db.toInstanceDb .project row .project) :
    RespectsLifecycle db after ↔
      validateStatusChange db (statusOf old) (statusOf row) = .ok () := by
  have found := find?_savedCores isRow
  constructor
  · intro respects
    by_cases same : statusOf old = statusOf row
    · rw [same]
      exact validateStatusChange_self db _
    · refine respects row.coreId old row isRow ?_ same
      rw [saved, found, if_pos rfl]
  · intro allowed projectId before behind isBefore isBehind changed
    rw [saved, found] at isBehind
    by_cases isSaved : projectId = row.coreId
    · rw [if_pos isSaved] at isBehind
      obtain rfl := Option.some.inj isBehind
      rw [isSaved, isRow] at isBefore
      obtain rfl := Option.some.inj isBefore
      exact allowed
    · rw [if_neg isSaved, isBefore] at isBehind
      exact absurd (congrArg statusOf (Option.some.inj isBehind)) changed

/-- The other columns of an update are not the status. -/
theorem statusOf_updatedProject (userId : Nat) (dto : UpdateProjectDto) (project : SorRow) :
    statusOf (updatedProject userId dto project) =
      match dto.status with
      | some (some status) => projectStatusText status
      | _ => statusOf project := by
  have others : Record.get? ((project.columns.spread dto.columns).set "updatedBy" (.num userId))
      "status" = project.columns.get? "status" := by
    rw [Record.get?_set_of_ne _ _ (by decide), Record.get?_spread_of_not_mem dto.status_not_mem]
  unfold statusOf updatedProject
  rcases dto.status with _ | _ | status
  · simp only [others]
  · simp only [others]
  · simp only [Record.get?_set_self, Option.map_some, Option.getD_some, statusLabel]

/-- An update changes the status as the lifecycle allows, or not at all. -/
theorem updateProject_respects (userId : Nat) (dto : UpdateProjectDto) (db : StatusDb) :
    RespectsLifecycle db (updateProject services userId dto db).2 := by
  refine Program.wp_end (fun after => RespectsLifecycle db after) ?_
  have unchanged : RespectsLifecycle db db := .of_same rfl
  unfold updateProject
  rw [Program.wp_bind, Program.wp_read]
  rcases isRow : (db.cores .project).find? dto.projectId with _ | project
  · exact unchanged
  simp only
  rw [Program.wp_bind, Program.wp_read, Program.wp_bind]
  have isKey : (updatedProject userId dto project).coreId = dto.projectId :=
    Table.key_of_find? isRow
  have saves : validateStatusChange db (statusOf project)
        (statusOf (updatedProject userId dto project)) = .ok () →
      (onInstances (saveCore services .project (updatedProject userId dto project))).wp
        (fun _ after => RespectsLifecycle db after) (fun _ after => RespectsLifecycle db after)
        db := by
    intro allowed
    unfold onInstances
    rw [Program.wp_within]
    refine Program.wp_mono saveCore_saved ?_ ?_
    · rintro _ instances ⟨_, saved⟩
      exact (respectsLifecycle_saved (isKey ▸ isRow) (congrFun saved .project)).mpr allowed
    · rintro _ _ ⟨rfl, _⟩
      exact unchanged
  have stored := statusOf_updatedProject userId dto project
  rcases isStatus : dto.status with _ | next
  · rw [Program.wp_lift_ok, Program.wp_ite]
    refine ⟨fun _ => unchanged, fun _ => saves ?_⟩
    rw [stored, isStatus]
    exact validateStatusChange_self db _
  · rcases validated : validateNextStatus db (statusOf project) next with message | _
    · simp only [validated, Except.mapError]
      exact unchanged
    · simp only [validated, Except.mapError]
      rw [Program.wp_lift_ok, Program.wp_ite]
      refine ⟨fun _ => unchanged, fun accepted => saves ?_⟩
      rw [stored, isStatus]
      rcases next with _ | next
      · exact absurd (Or.inr rfl) accepted
      · exact validated

/-- The instances behind a patch. -/
theorem step_patch (params : ApplySorBoundInstancePatchParams) (db : StatusDb) :
    ((statusSystem services).step db (.applySorBoundInstancePatch params)).toInstanceDb =
      (applySorBoundInstancePatch services params db.toInstanceDb).2 := by
  show (((do let _ ← onInstances (applySorBoundInstancePatch services params)) :
    StatusTx Unit) db).2.toInstanceDb = _
  rw [Program.state_of_discarded]
  rfl

theorem step_respects_iff (db : StatusDb) (call : StatusCall) :
    RespectsLifecycle db ((statusSystem services).step db call) ↔
      KeepsToLifecycle services db call := by
  cases call with
  | update userId dto => exact iff_of_true (updateProject_respects userId dto db) trivial
  | applySorBoundInstancePatch params =>
      have isStep := @step_patch services params db
      have nothing : (¬ ∃ project, PatchesProject services db.toInstanceDb params project) →
          ((statusSystem services).step db (.applySorBoundInstancePatch params)).cores .project =
            db.cores .project →
          (RespectsLifecycle db ((statusSystem services).step db
              (.applySorBoundInstancePatch params)) ↔
            KeepsToLifecycle services db (.applySorBoundInstancePatch params)) := by
        intro none same
        exact iff_of_true (.of_same same) fun project patches => absurd ⟨project, patches⟩ none
      have ends := @patch_projects services db.toInstanceDb params
      unfold Program.wp at ends
      rcases run : applySorBoundInstancePatch services params db.toInstanceDb with ⟨_ | _, instances⟩
      · rw [run] at ends isStep
        obtain ⟨rfl, none⟩ := ends
        exact nothing none (by rw [isStep])
      · rw [run] at ends isStep
        rcases ends with ⟨project, patches, saved⟩ | ⟨none, same⟩
        · have isKey : (patchedProject params project).coreId = params.coreId :=
            Table.key_of_find? patches.isRow
          rw [respectsLifecycle_saved (isKey ▸ patches.isRow) (by rw [isStep, saved])]
          constructor
          · intro allowed other patchesOther
            obtain rfl := Option.some.inj (patches.isRow.symm.trans patchesOther.isRow)
            exact allowed
          · exact fun keeps => keeps project patches
        · exact nothing none (by rw [isStep]; exact same)

/-- In a run of updates and patches every change of a status is one the validator accepts, if and
only if every patch that writes a project leaves its status or changes it so. -/
theorem status_changes_respect_lifecycle_iff (db : StatusDb) (calls : List StatusCall) :
    (statusSystem services).Guarded
        (fun before call => RespectsLifecycle before ((statusSystem services).step before call))
        db calls ↔
      (statusSystem services).Guarded (KeepsToLifecycle services) db calls :=
  ⟨.mono fun before call => (step_respects_iff before call).mp,
    .mono fun before call => (step_respects_iff before call).mpr⟩

end Runs

/-- Tenant 2 has a completed project, and a published lifecycle of projects that only leads from
active to completed. -/
def completedProject : StatusDb where
  toInstanceDb :=
    { withForeignProject with
      templateSets := .ofRows
        [{ configTemplateSetId := 0, tenantId := some 2, status := .published }]
      cores := fun type =>
        if type = .project then
          .ofRows [{ foreignProject with columns := [("status", .str "completed")] }]
        else .empty _ }
  transitions := .ofRows
    [{ configObjectLifecycleTransitionId := 0, configObjectId := 1, fromStateKey := "active",
       toStateKey := "completed", rulesJson := none }]

/-- The patch that makes the project active again. -/
def reopen : ApplySorBoundInstancePatchParams where
  tenantId := some 2
  objectType := "project"
  coreId := 1
  corePatch := [("status", .str "active")]

/-- The patch reopens the project; the validator refuses the same change. -/
theorem patch_reopens_project :
    ¬ (statusSystem plainServices).Guarded (fun before call =>
        RespectsLifecycle before ((statusSystem plainServices).step before call))
      completedProject [.applySorBoundInstancePatch reopen] := by
  rintro ⟨respects, _⟩
  have before : ((completedProject.cores .project).find? 1).map statusOf = some "completed" := by
    decide
  have after : ((((statusSystem plainServices).step completedProject
      (.applySorBoundInstancePatch reopen)).cores .project).find? 1).map statusOf =
        some "active" := by
    decide
  obtain ⟨row, isRow, isBefore⟩ := Option.map_eq_some_iff.mp before
  obtain ⟨row', isRow', isAfter⟩ := Option.map_eq_some_iff.mp after
  have allowed := respects 1 row row' isRow isRow' (by rw [isBefore, isAfter]; decide)
  rw [isBefore, isAfter] at allowed
  exact absurd allowed (by decide)

end CoreApi.ConfigObjects
