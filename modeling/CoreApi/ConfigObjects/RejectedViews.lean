import CoreApi.ConfigObjects.ActiveViews

/-!
# Rejected view saves

An upsert of a view that raises keeps what it wrote. It switches off the other
views of the scope before the row is stored, and the row of a new view is stored
before its panels are checked, so that a call refused late leaves views switched
off. What a call that raises leaves of the views is followed along both paths of
the upsert.
-/

namespace CoreApi.ConfigObjects

open CoreApi.Foundation ConfigObjectsService

/-- Where the upsert raises, the rows of views are those of before. -/
def RejectionKeepsViews (checks : ViewChecks) (db : ViewDb)
    (params : UpsertScopedConfigViewParams) : Prop :=
  ∀ failure after, upsertScopedConfigView checks params db = (.error failure, after) →
    after.views.rows = db.views.rows

/-! ## When a rejected save changes nothing -/

/-- The audit entry of the call is stored: its tenant and its user exist. -/
def LogAccepts (db : ViewDb) (tenantId : Option Nat) (changedBy : Nat) : Prop :=
  (∀ tenant ∈ tenantId, tenant ∈ db.tenants) ∧ changedBy ∈ db.tenantUsers

/-- The call switches off an active view of its scope, other than one. -/
def SwitchesOff (db : ViewDb) (params : UpsertScopedConfigViewParams) (configObjectId : Nat)
    (except : Option Nat) : Prop :=
  params.shouldActivate = true ∧
    OtherActive db configObjectId params.viewType params.effectiveTenantId except

/-- The database once the call has switched off the views of its scope. -/
def siblingsOff (db : ViewDb) (params : UpsertScopedConfigViewParams) (configObjectId : Nat)
    (except : Option Nat) : ViewDb :=
  if params.shouldActivate = true then
    cleared db configObjectId params.viewType params.effectiveTenantId except
  else db

/-- An index refuses the edited view: it becomes active beside another view of its own scope,
where that is not the scope of the call, or its key is taken. -/
def EditIsDuplicate (db : ViewDb) (params : UpsertScopedConfigViewParams)
    (existing : ConfigObjectViewEntity) : Prop :=
  (params.shouldActivate = true ∧ existing.tenantId ≠ params.effectiveTenantId ∧
      OtherActive db existing.configObjectId params.viewType existing.tenantId
        (some existing.configObjectViewId)) ∨
    viewKeyTaken db (editedView params existing none) = true

/-- A rejected edit changes nothing: no view is switched off before an index refuses the row,
and where the audit fails the edit is one that changes nothing. -/
def EditIsClean (checks : ViewChecks) (db : ViewDb) (params : UpsertScopedConfigViewParams)
    (configObject : ConfigObjectEntity) (existing : ConfigObjectViewEntity) : Prop :=
  ∀ config, editedConfig checks db params configObject existing = .ok config →
    (EditIsDuplicate db params existing →
      ¬SwitchesOff db params configObject.configObjectId (some existing.configObjectViewId)) ∧
    (¬EditIsDuplicate db params existing →
      ¬LogAccepts db params.effectiveTenantId params.updatedBy →
        ¬SwitchesOff db params configObject.configObjectId (some existing.configObjectViewId) ∧
          editedView params existing config = existing)

/-- The row of a new view under the key that it takes. -/
def createdView (db : ViewDb) (params : UpsertScopedConfigViewParams)
    (configObject : ConfigObjectEntity) (config : Option Json) : ConfigObjectViewEntity :=
  Keyed.withKey db.views.autoIncrement (scopedView params configObject config)

/-- The database in which the panels of a new view are checked: the views of its scope are off
and its row is stored. -/
def withCreatedView (db : ViewDb) (params : UpsertScopedConfigViewParams)
    (configObject : ConfigObjectEntity) (config : Option Json) : ViewDb :=
  let siblingsOff := siblingsOff db params configObject.configObjectId none
  { siblingsOff with
    views := siblingsOff.views.insert (scopedView params configObject config) }

/-- A new view is refused: its key is taken, or a check of its panels fails. -/
def CreationIsRefused (checks : ViewChecks) (db : ViewDb) (params : UpsertScopedConfigViewParams)
    (configObject : ConfigObjectEntity) (config : Option Json) : Prop :=
  viewKeyTaken db (createdView db params configObject config) = true ∨
    checkPanels checks (withCreatedView db params configObject config) params
      db.views.autoIncrement config ≠ .ok ()

/-- A rejected creation changes nothing: no view is switched off before the row is refused, and
the audit of a row that stays does not fail. -/
def CreationIsClean (checks : ViewChecks) (db : ViewDb) (params : UpsertScopedConfigViewParams)
    (configObject : ConfigObjectEntity) : Prop :=
  ∀ config, authoredConfig checks db params configObject (params.configJson.getD none)
      = .ok config →
    (CreationIsRefused checks db params configObject config →
      ¬SwitchesOff db params configObject.configObjectId none) ∧
    (¬CreationIsRefused checks db params configObject config →
      LogAccepts db params.effectiveTenantId params.updatedBy)

/-- A rejected upsert changes nothing, by the path it takes. -/
def RejectionIsClean (checks : ViewChecks) (db : ViewDb)
    (params : UpsertScopedConfigViewParams) : Prop :=
  ∀ configObject, resolveConfigObjectForEntityScope db params.entityKey params.effectiveTenantId
      = .ok configObject →
    match existingView db params configObject.configObjectId with
    | some existing => EditIsClean checks db params configObject existing
    | none => CreationIsClean checks db params configObject

/-! ## What the writes leave -/

section Writes

variable {db s : ViewDb}

/-- A program that raises ends in the rows of `db`. -/
def Restores {α : Type} (db : ViewDb) (program : ViewTx α) (s : ViewDb) : Prop :=
  program.wp (fun _ _ => True) (fun _ after => after.views.rows = db.views.rows) s

theorem rejectionKeepsViews_iff {checks : ViewChecks} {params : UpsertScopedConfigViewParams} :
    RejectionKeepsViews checks db params ↔
      Restores db (upsertScopedConfigView checks params) db := by
  unfold RejectionKeepsViews Restores Program.wp
  rcases upsertScopedConfigView checks params db with ⟨failure | saved, after⟩
  · exact ⟨fun keeps => keeps failure after rfl, fun same _ _ ended => by cases ended; exact same⟩
  · exact ⟨fun _ => trivial, fun _ _ _ ended => by cases ended⟩

/-- Switching off the views of a scope changes no row exactly when none of them is active. -/
theorem rows_cleared_iff {configObjectId : Nat} {viewType : ConfigObjectViewType}
    {tenantId except : Option Nat} :
    (cleared db configObjectId viewType tenantId except).views.rows = db.views.rows ↔
      ¬OtherActive db configObjectId viewType tenantId except := by
  unfold cleared
  rw [Table.rows_update_eq_self_iff]
  constructor
  · rintro same ⟨view, member, different, active, inScope⟩
    have inactive : (deactivated view).isActive = view.isActive :=
      congrArg ConfigObjectViewEntity.isActive (same view member (by simp [inScope, different]))
    rw [active] at inactive
    exact Bool.false_ne_true inactive
  · intro noOther view member affected
    simp only [Bool.and_eq_true, bne_iff_ne, ne_eq] at affected
    have inactive : view.isActive = false := by
      by_contra active
      exact noOther ⟨view, member, affected.2, by simpa using active, affected.1⟩
    simp [deactivated, ← inactive]

theorem rows_siblingsOff_iff {params : UpsertScopedConfigViewParams} {configObjectId : Nat}
    {except : Option Nat} :
    (siblingsOff db params configObjectId except).views.rows = db.views.rows ↔
      ¬SwitchesOff db params configObjectId except := by
  unfold siblingsOff SwitchesOff
  split
  · next activates => simp [activates, rows_cleared_iff]
  · next leaves => simp [leaves]

theorem restores_siblingsOff {α : Type} {next : Unit → ViewTx α}
    {params : UpsertScopedConfigViewParams} {configObjectId : Nat} {except : Option Nat} :
    Restores db (Program.when (params.shouldActivate = true)
        (deactivateViewsInScope configObjectId params.viewType params.effectiveTenantId except)
        >>= next) s ↔
      Restores db (next ()) (siblingsOff s params configObjectId except) := by
  unfold Restores siblingsOff
  rw [Program.wp_bind, Program.wp_when, wp_deactivateViewsInScope]
  split
  · next activates => simp [activates]
  · next leaves => simp [leaves]

/-- A check that fails leaves everything as it is. -/
theorem restores_check {α β : Type} {result : Except ViewRefusal α} {next : α → ViewTx β} :
    Restores db (check result >>= next) db ↔
      ∀ value, result = .ok value → Restores db (next value) db := by
  unfold Restores
  rw [Program.wp_bind]
  rcases result with refusal | value
  · exact iff_of_true rfl (by simp)
  · exact ⟨fun holds _ same => by cases same; exact holds, fun holds => holds value rfl⟩

/-- A call that ends with its audit entry. -/
theorem restores_logged {α : Type} {tenantId : Option Nat} {entityId : Nat} {action : AuditAction}
    {changedBy : Nat} {oldValue newValue : Option Json} {value : α} :
    Restores db (logConfigChange tenantId entityId action changedBy oldValue newValue >>=
        fun _ => pure value) s ↔
      (¬LogAccepts s tenantId changedBy → s.views.rows = db.views.rows) := by
  unfold Restores logConfigChange LogAccepts
  rw [Program.wp_bind, Program.wp_bind, Program.wp_read, Program.wp_ite, Program.wp_write,
    Program.wp_raise]
  simp

theorem logAccepts_siblingsOff {params : UpsertScopedConfigViewParams} {configObjectId : Nat}
    {except tenantId : Option Nat} {changedBy : Nat} :
    LogAccepts (siblingsOff db params configObjectId except) tenantId changedBy ↔
      LogAccepts db tenantId changedBy := by
  unfold siblingsOff
  split <;> rfl

/-- The call saves a row, or an index refuses it. -/
theorem restores_saveView {α : Type} {view : ConfigObjectViewEntity} {next : Unit → ViewTx α} :
    Restores db (saveView view >>= next) s ↔
      (activeScopeTaken s view = true ∨ viewKeyTaken s view = true →
        s.views.rows = db.views.rows) ∧
      (¬(activeScopeTaken s view = true ∨ viewKeyTaken s view = true) →
        Restores db (next ()) { s with
          views := s.views.updateAt view.configObjectViewId (overwritten view) fun _ => rfl }) := by
  unfold Restores saveView checkIndexes
  rw [Program.wp_bind, Program.wp_bind, Program.wp_read, Program.wp_bind]
  by_cases taken : activeScopeTaken s view = true ∨ viewKeyTaken s view = true
  · simp [taken]
  · simp [taken]

/-- The call stores a new row, or an index refuses it. -/
theorem restores_insertView {α : Type} {view : ConfigObjectViewEntity}
    {next : ConfigObjectViewEntity → ViewTx α} :
    Restores db (insertView view >>= next) s ↔
      (activeScopeTaken s (Keyed.withKey s.views.autoIncrement view) = true ∨
          viewKeyTaken s (Keyed.withKey s.views.autoIncrement view) = true →
        s.views.rows = db.views.rows) ∧
      (¬(activeScopeTaken s (Keyed.withKey s.views.autoIncrement view) = true ∨
          viewKeyTaken s (Keyed.withKey s.views.autoIncrement view) = true) →
        Restores db (next (Keyed.withKey s.views.autoIncrement view))
          { s with views := s.views.insert view }) := by
  unfold Restores insertView checkIndexes
  rw [Program.wp_bind, Program.wp_bind, Program.wp_read, Program.wp_bind]
  by_cases taken : activeScopeTaken s (Keyed.withKey s.views.autoIncrement view) = true ∨
      viewKeyTaken s (Keyed.withKey s.views.autoIncrement view) = true
  · simp [taken]
  · simp [taken]

theorem viewKeyTaken_siblingsOff {params : UpsertScopedConfigViewParams} {configObjectId : Nat}
    {except : Option Nat} {view : ConfigObjectViewEntity} :
    viewKeyTaken (siblingsOff db params configObjectId except) view = viewKeyTaken db view := by
  unfold siblingsOff
  split
  · unfold viewKeyTaken cleared
    rw [Table.rows_update, List.any_map]
    congr 1
    funext other
    simp only [Function.comp_apply]
    split <;> rfl
  · rfl

end Writes

/-! ## What a rejected upsert leaves -/

section Calls

variable {checks : ViewChecks} {db : ViewDb} {params : UpsertScopedConfigViewParams}
  {configObject : ConfigObjectEntity}

/-- The index on active views refuses the edited view beside another one of its own scope. -/
theorem editIsDuplicate_iff {existing : ConfigObjectViewEntity} {config : Option Json}
    (ofObject : existing.configObjectId = configObject.configObjectId) :
    (activeScopeTaken (siblingsOff db params configObject.configObjectId
          (some existing.configObjectViewId)) (editedView params existing config) = true ∨
        viewKeyTaken (siblingsOff db params configObject.configObjectId
          (some existing.configObjectViewId)) (editedView params existing config) = true) ↔
      EditIsDuplicate db params existing := by
  rw [viewKeyTaken_siblingsOff, activeScopeTaken_iff]
  refine or_congr ?_ Iff.rfl
  unfold siblingsOff
  split
  · next activates =>
      simp only [editedView, activates, ofObject, otherActive_cleared, true_and]
  · next leaves => simp [editedView, leaves]

/-- The view that is edited is not switched off with the others. -/
theorem mem_siblingsOff {existing : ConfigObjectViewEntity} {configObjectId : Nat}
    (member : existing ∈ db.views.rows) :
    existing ∈ (siblingsOff db params configObjectId
      (some existing.configObjectViewId)).views.rows := by
  unfold siblingsOff
  split
  · unfold cleared
    rw [Table.mem_update]
    exact ⟨existing, member, by simp⟩
  · exact member

/-- What an edit that is not audited leaves of the views. -/
theorem rows_edited_iff {existing : ConfigObjectViewEntity} {config : Option Json}
    {configObjectId : Nat} (member : existing ∈ db.views.rows) :
    ((siblingsOff db params configObjectId (some existing.configObjectViewId)).views.updateAt
        existing.configObjectViewId (overwritten (editedView params existing config))
        fun _ => rfl).rows = db.views.rows ↔
      ¬SwitchesOff db params configObjectId (some existing.configObjectViewId) ∧
        editedView params existing config = existing := by
  have kept := @mem_siblingsOff db params existing configObjectId member
  -- An edit that changes nothing leaves what switching off the others left.
  have unedited (same : editedView params existing config = existing) :
      (siblingsOff db params configObjectId (some existing.configObjectViewId)).views.updateAt
          existing.configObjectViewId (overwritten (editedView params existing config))
          (fun _ => rfl) =
        (siblingsOff db params configObjectId (some existing.configObjectViewId)).views := by
    refine Table.updateAt_eq_self fun row rowMember isKey => ?_
    have isExisting : row = existing := Table.eq_of_key_eq rowMember kept isKey
    rw [same, isExisting]
    rfl
  constructor
  · intro sameRows
    have edited : editedView params existing config = existing := by
      rcases Table.mem_updateAt.mp (sameRows ▸ member) with ⟨old, _, isKey, isEdited⟩ | ⟨_, other⟩
      · have sameKey : old.configObjectViewId = existing.configObjectViewId := isKey
        have whole : overwritten (editedView params existing config) old =
            editedView params existing config := by
          simp only [overwritten, sameKey, editedView]
        exact (isEdited.trans whole).symm
      · exact absurd rfl other
    rw [unedited edited] at sameRows
    exact ⟨rows_siblingsOff_iff.mp sameRows, edited⟩
  · rintro ⟨quiet, edited⟩
    rw [unedited edited]
    exact rows_siblingsOff_iff.mpr quiet

theorem restores_editScopedView {existing : ConfigObjectViewEntity}
    (member : existing ∈ db.views.rows)
    (ofObject : existing.configObjectId = configObject.configObjectId) :
    Restores db (editScopedView checks params configObject existing) db ↔
      EditIsClean checks db params configObject existing := by
  unfold editScopedView
  change Restores db (check _ >>= _) db ↔ _
  rw [restores_check]
  refine forall₂_congr fun config _ => ?_
  rw [restores_siblingsOff, restores_saveView, restores_logged]
  rw [editIsDuplicate_iff ofObject, rows_siblingsOff_iff]
  refine and_congr Iff.rfl (imp_congr_right fun _ => ?_)
  change (¬LogAccepts (siblingsOff _ _ _ _) _ _ → _) ↔ _
  exact imp_congr (not_congr logAccepts_siblingsOff) (rows_edited_iff member)

/-- The counter of the views stays where views are switched off. -/
theorem autoIncrement_siblingsOff {configObjectId : Nat} {except : Option Nat} :
    (siblingsOff db params configObjectId except).views.autoIncrement
      = db.views.autoIncrement := by
  unfold siblingsOff
  split <;> rfl

/-- No other view of its scope is active beside a new one. -/
theorem activeScopeTaken_created {config : Option Json} :
    activeScopeTaken (siblingsOff db params configObject.configObjectId none)
      (createdView db params configObject config) = false := by
  rw [Bool.eq_false_iff, ne_eq, activeScopeTaken_iff]
  rintro ⟨activates, other⟩
  have activates : params.shouldActivate = true := activates
  unfold createdView at other
  rw [← @autoIncrement_siblingsOff db params configObject.configObjectId none] at other
  have other := otherActive_new.mp other
  unfold siblingsOff at other
  rw [if_pos activates] at other
  exact (otherActive_cleared.mp other).1 rfl

/-- The checks of a new view, which remove it where one fails. -/
theorem restores_checkCreatedView {α : Type} {saved : ConfigObjectViewEntity}
    {next : Unit → ViewTx α} {s : ViewDb} :
    Restores db (checkCreatedView checks params saved >>= next) s ↔
      (checkPanels checks s params saved.configObjectViewId saved.configJson ≠ .ok () →
        (s.views.remove fun view =>
          view.configObjectViewId == saved.configObjectViewId).rows = db.views.rows) ∧
      (checkPanels checks s params saved.configObjectViewId saved.configJson = .ok () →
        Restores db (next ()) s) := by
  unfold Restores checkCreatedView
  rw [Program.wp_bind, Program.wp_attempt, Program.wp_bind, Program.wp_read]
  change (check (checkPanels checks s params _ _)).wp _ _ _ ↔ _
  rcases checkPanels checks s params saved.configObjectViewId saved.configJson with refusal | _
  · exact ⟨fun removed => ⟨fun _ => removed, nofun⟩, fun both => both.1 nofun⟩
  · exact ⟨fun rest => ⟨fun failed => absurd rfl failed, fun _ => rest⟩, fun both => both.2 rfl⟩

/-- A stored view is one row more. -/
theorem rows_withCreatedView_ne {config : Option Json} :
    (withCreatedView db params configObject config).views.rows ≠ db.views.rows := by
  intro same
  have lengths := congrArg List.length same
  unfold withCreatedView siblingsOff cleared at lengths
  split at lengths
  · simp [Table.rows_update] at lengths
  · simp at lengths

/-- Removing the new view again leaves what switching off the others left. -/
theorem rows_removed_iff {config : Option Json} :
    ((withCreatedView db params configObject config).views.remove fun view =>
        view.configObjectViewId == db.views.autoIncrement).rows = db.views.rows ↔
      ¬SwitchesOff db params configObject.configObjectId none := by
  rw [← rows_siblingsOff_iff]
  have removed := @Table.rows_remove_insert _ _
    (siblingsOff db params configObject.configObjectId none).views
    (scopedView params configObject config)
  rw [autoIncrement_siblingsOff] at removed
  exact ⟨fun same => removed.symm.trans same, fun same => removed.trans same⟩

theorem restores_createScopedView :
    Restores db (createScopedView checks params configObject) db ↔
      CreationIsClean checks db params configObject := by
  unfold createScopedView
  change Restores db (check _ >>= _) db ↔ _
  rw [restores_check]
  refine forall₂_congr fun config _ => ?_
  rw [restores_siblingsOff, restores_insertView, autoIncrement_siblingsOff,
    restores_checkCreatedView, restores_logged]
  change ((activeScopeTaken _ (createdView db params configObject config) = true ∨
        viewKeyTaken _ (createdView db params configObject config) = true → _) ∧
      (¬(activeScopeTaken _ (createdView db params configObject config) = true ∨
          viewKeyTaken _ (createdView db params configObject config) = true) →
        (checkPanels checks (withCreatedView db params configObject config) params
            db.views.autoIncrement config ≠ .ok () →
          ((withCreatedView db params configObject config).views.remove fun view =>
            view.configObjectViewId == db.views.autoIncrement).rows = db.views.rows) ∧
        (checkPanels checks (withCreatedView db params configObject config) params
            db.views.autoIncrement config = .ok () →
          (¬LogAccepts (withCreatedView db params configObject config) _ _ →
            (withCreatedView db params configObject config).views.rows = db.views.rows)))) ↔ _
  have audited : LogAccepts (withCreatedView db params configObject config)
      params.effectiveTenantId params.updatedBy ↔
        LogAccepts db params.effectiveTenantId params.updatedBy :=
    @logAccepts_siblingsOff db params configObject.configObjectId none _ _
  rw [activeScopeTaken_created, viewKeyTaken_siblingsOff, rows_siblingsOff_iff, audited,
    rows_removed_iff, CreationIsRefused]
  simp only [Bool.false_eq_true, false_or, rows_withCreatedView_ne, imp_false, not_not]
  by_cases keyTaken : viewKeyTaken db (createdView db params configObject config) = true
  · simp [keyTaken]
  · by_cases accepted : checkPanels checks (withCreatedView db params configObject config) params
        db.views.autoIncrement config = .ok ()
    · simp [keyTaken, accepted]
    · simp [keyTaken, accepted]

end Calls

/-! ## A new view whose panels are unknown -/

/-- `config_object_view_panels`, with the columns that the check reads. -/
structure ConfigObjectViewPanelEntity where
  configObjectViewId : Nat
  panelKey : String

/-- A panel that a configuration names. -/
def panelKey : Json → Option String
  | .str text => givenText (some text)
  | _ => none

/-- `extractDetailFormPanelKeysFromConfigJson`. -/
def extractDetailFormPanelKeysFromConfigJson (configJson : Option Json) : List String :=
  match (configJson.getD .null).field "panels" with
  | .arr panels => panels.filterMap panelKey
  | _ => []

/-- `assertPanelKeysExistForView`. -/
def assertPanelKeysExistForView (panels : List ConfigObjectViewPanelEntity)
    (configObjectViewId : Nat) (configJson : Option Json) : Except ViewRefusal Unit :=
  let missing := (extractDetailFormPanelKeysFromConfigJson configJson).filter fun key =>
    !panels.any fun panel =>
      panel.configObjectViewId == configObjectViewId && panel.panelKey == key
  if missing = [] then .ok ()
  else .error (.authoring "SIX1_AUTHORING_VIEW_PANEL_KEY_UNKNOWN"
    ("View config references unknown panel keys (no matching panel rows on this view): "
      ++ String.intercalate ", " missing))

/-- The panels of a configuration are looked up, the rest of it is taken as it is. -/
def checksPanels (panels : List ConfigObjectViewPanelEntity) : ViewChecks :=
  { takesAll with
    assertPanelKeysExistForView := fun _ => assertPanelKeysExistForView panels }

/-- A tenant with a published object of tasks and an active detail view of it. -/
def withTaskDetail : ViewDb :=
  { withoutViews with
    views := .ofRows
      [{ configObjectViewId := 0
         configObjectId := 1
         viewKey := "task_detail_1"
         viewType := .detail
         name := "task detail view"
         description := none
         roleKey := none
         tenantId := some 1
         isDefault := false
         isActive := true
         configJson := none
         createdBy := some 1
         updatedBy := some 1 }] }

/-- An upsert of a view that is gone, whose configuration names a panel. -/
def replaceLostDetail : UpsertScopedConfigViewParams where
  tenantId := some 1
  entityKey := "task"
  viewType := .detail
  updatedBy := 1
  configObjectViewId := some 7
  viewKey := some "task_summary"
  configJson := some (some (.obj [("panels", .arr [.str "summary"])]))

instance (db : ViewDb) {α : Type} (program : ViewTx α) (s : ViewDb) :
    Decidable (Restores db program s) :=
  match ended : program s with
  | (.ok _, _) => .isTrue (by simp [Restores, Program.wp, ended])
  | (.error _, after) =>
      decidable_of_iff (after.views.rows = db.views.rows) (by simp [Restores, Program.wp, ended])

end CoreApi.ConfigObjects
