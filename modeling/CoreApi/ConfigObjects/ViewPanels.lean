import CoreApi.ConfigObjects.FormCoverage

/-!
# The panels of views

The calls of the config objects service by which the panels of a view are created, edited and
removed. A layout is normalised before it is stored, and a panel that shows the members of a
relation names the relation and the actions on it. The audit entries of the calls are enough to
rebuild the panels.
-/

namespace CoreApi.ConfigObjects.ViewPanels

open CoreApi.Foundation CheckedFields PanelLayoutConfig ConfigObjectsService FormPanels

/-- `config_object_view_panels`. -/
structure ConfigObjectViewPanelEntity where
  configObjectViewPanelId : Nat
  configObjectViewId : Nat
  panelKey : String
  title : String
  panelType : PanelLayoutDisplayMode
  layoutConfig : Option Record
  orderIndex : Int
deriving DecidableEq

instance : Keyed ConfigObjectViewPanelEntity where
  key := ConfigObjectViewPanelEntity.configObjectViewPanelId
  withKey n row := { row with configObjectViewPanelId := n }
  key_withKey _ _ := rfl

/-- The tables that the panel calls read and write; the audit entries are those about panels. -/
structure PanelDb extends ViewDb where
  panels : Table ConfigObjectViewPanelEntity
  panelLogs : List ViewAuditEntry

/-- Calls on panels. -/
abbrev PanelTx := Program PanelDb ViewError

/-! ## Checks -/

/-- The object of the view of a panel must be in the scope. -/
def checkPanelScope (db : ViewDb) (configObjectViewId : Nat) (effectiveTenantId : Option Nat)
    (noView : String) : Except ViewRefusal Unit :=
  match db.views.find? configObjectViewId with
  | none => .error (.rpc noView)
  | some view =>
      match db.configObjects.find? view.configObjectId with
      | none => .error (.rpc "Config object not found for panel.")
      | some configObject =>
          match templateSetForTenantScope db configObject.configTemplateSetId effectiveTenantId with
          | none => .error (.rpc "Config object does not belong to the specified tenant.")
          | some _ => .ok ()

def layoutInvalid (message : String) : ViewRefusal :=
  .authoring "SIX1_AUTHORING_PANEL_LAYOUT_INVALID" message

/-- `normalizePanelLayoutConfigOrThrow`. -/
def normalizePanelLayoutConfigOrThrow (value : Record) : Except ViewRefusal Record :=
  match validateAndNormalizePanelLayoutConfigJson (some (.obj value)) with
  | .ok (some config) => .ok config.fields
  | .ok none => .error (layoutInvalid "layout_config must be a valid panel layout object.")
  | .error message => .error (layoutInvalid message)

/-- The layout as it is stored. -/
def normalizedLayout (layoutConfig : Option Record) : Except ViewRefusal (Option Record) :=
  match layoutConfig with
  | none => .ok none
  | some value => some <$> normalizePanelLayoutConfigOrThrow value

def modeText (mode : PanelLayoutDisplayMode) : String := choiceText displayModes mode

/-- `assertPanelTypeMatchesDisplayMode`. -/
def assertPanelTypeMatchesDisplayMode (panelType : PanelLayoutDisplayMode)
    (layoutConfig : Option Record) : Except ViewRefusal Unit :=
  match layoutConfig.bind fun fields => fields.get? "displayMode" with
  | some (.str mode) =>
      if mode = "" ∨ mode = modeText panelType then .ok ()
      else .error (layoutInvalid ("panelType \"" ++ modeText panelType
        ++ "\" must match layout_config.displayMode \"" ++ mode ++ "\"."))
  | _ => .ok ()

/-- A text that is not blank. -/
def isText (value : Option Json) : Bool :=
  match value with
  | some (.str text) => Json.trimmed text != []
  | _ => false

/-- The fields of an object, and those of no other value. -/
def objectFields (value : Option Json) : Option Record :=
  match value with
  | some (.obj fields) => some fields
  | _ => none

/-- The checks of a panel that shows the members of a relation. -/
def assertMembership (panelType : PanelLayoutDisplayMode) (layoutConfig : Record) :
    Except ViewRefusal Unit :=
  if panelType ≠ .table then
    .error (layoutInvalid "layout_config.dataBinding \"relation\" requires panelType \"table\".")
  else if layoutConfig.get? "displayMode" ≠ some (.str "table") then
    .error (layoutInvalid "Relation-bound table panels must use displayMode \"table\".")
  else
    match objectFields (layoutConfig.get? "layout") with
    | none => .error (layoutInvalid "Related panels must define membership metadata under layout.")
    | some layout =>
        if isText (layout.get? "relationKey") = false then
          .error (layoutInvalid "Related panels must define layout.relationKey.")
        else if isText (layout.get? "targetEntityKey") = false then
          .error (layoutInvalid "Related panels must define layout.targetEntityKey.")
        else if layout.get? "selectionControl" ≠ some (.str "checkbox") ∧
            layout.get? "selectionControl" ≠ some (.str "radio") then
          .error (layoutInvalid
            "Related panels must define layout.selectionControl as \"checkbox\" or \"radio\".")
        else
          match objectFields (layoutConfig.get? "actions") with
          | none => .error (layoutInvalid
              "Related panels must define actions with assignRef and unassignRef.")
          | some actions =>
              if isText (actions.get? "assignRef") = false ∨
                  isText (actions.get? "unassignRef") = false then
                .error (layoutInvalid
                  "Related panel actions must include non-empty assignRef and unassignRef.")
              else .ok ()

/-- `assertRelationMembershipPanelLayoutOrThrow`. -/
def assertRelationMembershipPanelLayoutOrThrow (panelType : PanelLayoutDisplayMode)
    (layoutConfig : Option Record) : Except ViewRefusal Unit :=
  match layoutConfig with
  | none => .ok ()
  | some fields =>
      if fields.get? "dataBinding" = some (.str "relation") then assertMembership panelType fields
      else .ok ()

/-! ## Calls -/

/-- A check as part of a call. -/
def check {α : Type} (result : Except ViewRefusal α) : PanelTx α :=
  Program.lift (result.mapError .refused)

/-- `logConfigChange`; the tenant, where there is one, and the user are foreign keys. -/
def logConfigChange (tenantId : Option Nat) (entityId : Nat) (action : AuditAction)
    (changedBy : Nat) (oldValue newValue : Option Json) : PanelTx Unit := do
  let db ← Program.read id
  if (∀ tenant ∈ tenantId, tenant ∈ db.tenants) ∧ changedBy ∈ db.tenantUsers then
    Program.write fun db => { db with
      panelLogs := db.panelLogs ++
        [{ tenantId := tenantId
           entityId := entityId
           action := action
           changedBy := changedBy
           oldValue := oldValue
           newValue := newValue }] }
  else Program.raise .foreignKey

/-- The audited fields that an update may change. -/
def editedFields (panel : ConfigObjectViewPanelEntity) : Record :=
  [("title", .str panel.title), ("panelType", .str (modeText panel.panelType)),
    ("layoutConfig", (panel.layoutConfig.map Json.obj).getD .null),
    ("orderIndex", .num panel.orderIndex)]

/-- The audited fields of a panel as a whole. -/
def panelFields (panel : ConfigObjectViewPanelEntity) : Record :=
  [("configObjectViewId", .num panel.configObjectViewId), ("panelKey", .str panel.panelKey)] ++
    editedFields panel

structure CreateConfigViewPanelParams where
  tenantId : Option Nat
  configObjectViewId : Nat
  createdBy : Nat
  panelKey : String
  title : String
  panelType : PanelLayoutDisplayMode
  layoutConfig : Option Record := none
  orderIndex : Option Int := none

/-- A panel of the view has the key. -/
def panelKeyTaken (db : PanelDb) (configObjectViewId : Nat) (panelKey : String) : Bool :=
  db.panels.rows.any fun panel =>
    panel.configObjectViewId == configObjectViewId && panel.panelKey == panelKey

/-- The row of a new panel, when it passes. -/
def newPanel (db : PanelDb) (params : CreateConfigViewPanelParams) :
    Except ViewRefusal ConfigObjectViewPanelEntity := do
  checkPanelScope db.toViewDb params.configObjectViewId (getEffectiveTenantId params.tenantId)
    "Config view not found for panel creation."
  if panelKeyTaken db params.configObjectViewId params.panelKey then
    .error (.rpc ("Panel with key \"" ++ params.panelKey ++ "\" already exists for view."))
  let layoutConfig ← normalizedLayout params.layoutConfig
  assertPanelTypeMatchesDisplayMode params.panelType layoutConfig
  assertRelationMembershipPanelLayoutOrThrow params.panelType layoutConfig
  pure
    { configObjectViewPanelId := 0
      configObjectViewId := params.configObjectViewId
      panelKey := params.panelKey
      title := params.title
      panelType := params.panelType
      layoutConfig := layoutConfig
      orderIndex := params.orderIndex.getD 0 }

/-- `createConfigViewPanel`. -/
def createConfigViewPanel (params : CreateConfigViewPanelParams) :
    PanelTx ConfigObjectViewPanelEntity := do
  let db ← Program.read id
  let panel ← check (newPanel db params)
  let saved ← Program.writeReturning fun db =>
    (Keyed.withKey db.panels.autoIncrement panel, { db with panels := db.panels.insert panel })
  logConfigChange (getEffectiveTenantId params.tenantId) saved.configObjectViewPanelId .create
    params.createdBy none (some (.obj (panelFields saved)))
  pure saved

structure UpdateConfigViewPanelParams where
  tenantId : Option Nat
  configObjectViewPanelId : Nat
  updatedBy : Nat
  title : Option String := none
  panelType : Option PanelLayoutDisplayMode := none
  layoutConfig : Option (Option Record) := none
  orderIndex : Option Int := none

/-- The layout that an update gives a panel. -/
def editedLayout (params : UpdateConfigViewPanelParams) (existing : ConfigObjectViewPanelEntity) :
    Except ViewRefusal (Option Record) :=
  match params.layoutConfig with
  | none => .ok existing.layoutConfig
  | some layoutConfig => normalizedLayout layoutConfig

/-- The row that an update makes of a panel, when it passes. -/
def editedPanel (db : PanelDb) (params : UpdateConfigViewPanelParams)
    (existing : ConfigObjectViewPanelEntity) : Except ViewRefusal ConfigObjectViewPanelEntity := do
  checkPanelScope db.toViewDb existing.configObjectViewId (getEffectiveTenantId params.tenantId)
    "Config view not found for panel."
  let layoutConfig ← editedLayout params existing
  assertPanelTypeMatchesDisplayMode (params.panelType.getD existing.panelType) layoutConfig
  assertRelationMembershipPanelLayoutOrThrow (params.panelType.getD existing.panelType) layoutConfig
  pure { existing with
    title := params.title.getD existing.title
    panelType := params.panelType.getD existing.panelType
    layoutConfig := layoutConfig
    orderIndex := params.orderIndex.getD existing.orderIndex }

/-- The columns of a saved row. -/
def overwritten (panel row : ConfigObjectViewPanelEntity) : ConfigObjectViewPanelEntity :=
  { panel with configObjectViewPanelId := row.configObjectViewPanelId }

theorem overwritten_key (panel row : ConfigObjectViewPanelEntity) :
    Keyed.key (overwritten panel row) = Keyed.key row := rfl

/-- The update of the row of a panel. -/
def panelSaved (db : PanelDb) (panel : ConfigObjectViewPanelEntity) : PanelDb :=
  { db with
    panels := db.panels.updateAt panel.configObjectViewPanelId (overwritten panel)
      (overwritten_key panel) }

/-- `updateConfigViewPanel`. -/
def updateConfigViewPanel (params : UpdateConfigViewPanelParams) :
    PanelTx ConfigObjectViewPanelEntity := do
  let db ← Program.read id
  match db.panels.find? params.configObjectViewPanelId with
  | none => Program.raise (.refused (.rpc "Config view panel not found."))
  | some existing => do
      let panel ← check (editedPanel db params existing)
      Program.write fun db => panelSaved db panel
      logConfigChange (getEffectiveTenantId params.tenantId) panel.configObjectViewPanelId .update
        params.updatedBy (some (.obj (editedFields existing))) (some (.obj (editedFields panel)))
      pure panel

/-- The removal of the row of a panel. -/
def panelRemoved (db : PanelDb) (configObjectViewPanelId : Nat) : PanelDb :=
  { db with
    panels := db.panels.remove fun panel =>
      panel.configObjectViewPanelId == configObjectViewPanelId }

/-- `deleteConfigViewPanel`. -/
def deleteConfigViewPanel (tenantId : Option Nat) (configObjectViewPanelId deletedBy : Nat) :
    PanelTx Unit := do
  let db ← Program.read id
  match db.panels.find? configObjectViewPanelId with
  | none => pure ()
  | some existing => do
      check (checkPanelScope db.toViewDb existing.configObjectViewId
        (getEffectiveTenantId tenantId) "Config view not found for panel.")
      Program.write fun db => panelRemoved db existing.configObjectViewPanelId
      logConfigChange (getEffectiveTenantId tenantId) configObjectViewPanelId .delete deletedBy
        (some (.obj (panelFields existing))) none

/-- A call on panels. -/
inductive PanelRequest where
  | create (params : CreateConfigViewPanelParams)
  | update (params : UpdateConfigViewPanelParams)
  | delete (tenantId : Option Nat) (configObjectViewPanelId deletedBy : Nat)

/-- The state that a call leaves, whether it returns or raises. -/
def after (db : PanelDb) : PanelRequest → PanelDb
  | .create params => (createConfigViewPanel params db).2
  | .update params => (updateConfigViewPanel params db).2
  | .delete tenantId configObjectViewPanelId deletedBy =>
      (deleteConfigViewPanel tenantId configObjectViewPanelId deletedBy db).2

def system : StepSystem PanelDb PanelRequest where
  step := after

/-! ## What the runtime reads -/

/-- `isRelationMembershipPanel`. -/
def isRelationMembershipPanel (panel : ConfigObjectViewPanelEntity) : Bool :=
  panel.panelType == .table &&
    getLayoutConfigDataBinding ((panel.layoutConfig.map Json.obj).getD .null) == some "relation"

/-- `extractRelationKeyFromPanel`. -/
def extractRelationKeyFromPanel (panel : ConfigObjectViewPanelEntity) : Option String :=
  match objectFields (panel.layoutConfig.bind fun fields => fields.get? "layout") with
  | none => none
  | some layout =>
      match layout.get? "relationKey" with
      | some (.str text) => givenText (some text)
      | _ => none

/-! ## Well-formed panels -/

/-- What a panel that shows the members of a relation defines. -/
structure Membership (config : PanelLayoutConfig) : Prop where
  table : ∃ layout, config.layout = .table layout ∧ layout.relationKey ≠ none ∧
    layout.targetEntityKey ≠ none ∧ layout.selectionControl ≠ none
  actions : ∃ actions, config.actions = some actions ∧ isText (actions.get? "assignRef") = true ∧
    isText (actions.get? "unassignRef") = true

/-- The stored layout is the normal form of a configuration that fits the panel. -/
def WellFormed (panel : ConfigObjectViewPanelEntity) : Prop :=
  ∀ fields, panel.layoutConfig = some fields → ∃ config : PanelLayoutConfig,
    config.fields = fields ∧ displayModeOf config.layout = panel.panelType ∧
      (config.dataBinding = some .relation → Membership config)

section Layouts

variable {config : PanelLayoutConfig}

theorem get?_displayMode : Record.get? config.fields "displayMode" =
    some (choiceJson displayModes (displayModeOf config.layout)) := by
  simp [fields, get?_entry_append, get?_entry]

theorem get?_dataBinding : Record.get? config.fields "dataBinding" =
    config.dataBinding.map (choiceJson dataBindings) := by
  simp [fields, get?_entry_append, get?_entry]

theorem get?_layout :
    Record.get? config.fields "layout" = some (.obj (layoutFields config.layout)) := by
  simp [fields, get?_entry_append, get?_entry]

theorem get?_actions : Record.get? config.fields "actions" = config.actions.map Json.obj := by
  simp [fields, get?_entry_append, get?_entry]

theorem get?_relationKey (layout : TableLayout) :
    Record.get? (tableFields layout) "relationKey" = layout.relationKey.map tokenJson := by
  simp [tableFields, get?_entry_append, get?_entry]

theorem get?_targetEntityKey (layout : TableLayout) :
    Record.get? (tableFields layout) "targetEntityKey" = layout.targetEntityKey.map tokenJson := by
  simp [tableFields, get?_entry_append, get?_entry]

theorem get?_selectionControl (layout : TableLayout) :
    Record.get? (tableFields layout) "selectionControl" =
      layout.selectionControl.map (choiceJson selectionControls) := by
  simp [tableFields, get?_entry_append, get?_entry]

theorem isRelation_iff : Record.get? config.fields "dataBinding" = some (.str "relation") ↔
    config.dataBinding = some .relation := by
  rw [get?_dataBinding]
  rcases config.dataBinding with _ | binding
  · simp
  · cases binding <;> simp [choiceJson, choiceText, dataBindings]

theorem modeText_ne_empty (mode : PanelLayoutDisplayMode) : modeText mode ≠ "" := by
  cases mode <;> decide

theorem modeText_injective {mode mode' : PanelLayoutDisplayMode}
    (same : modeText mode = modeText mode') : mode = mode' := by
  cases mode <;> cases mode' <;> first | rfl | exact absurd same (by decide)

theorem mode_of_assert {panelType : PanelLayoutDisplayMode}
    (passes : assertPanelTypeMatchesDisplayMode panelType (some config.fields) = .ok ()) :
    displayModeOf config.layout = panelType := by
  simp only [assertPanelTypeMatchesDisplayMode, Option.bind_some, get?_displayMode, choiceJson]
    at passes
  split at passes
  · next same => exact modeText_injective (same.resolve_left (modeText_ne_empty _))
  · cases passes

theorem ne_none_of_isText {token : Option Token} (hasText : isText (token.map tokenJson) ≠ false) :
    token ≠ none := by
  rintro rfl
  exact hasText rfl

/-- A panel that shows the members of a relation passes with all that it needs. -/
theorem membership_of_assert {panelType : PanelLayoutDisplayMode}
    (passes : assertRelationMembershipPanelLayoutOrThrow panelType (some config.fields) = .ok ())
    (isRelation : config.dataBinding = some .relation) : Membership config := by
  simp only [assertRelationMembershipPanelLayoutOrThrow, isRelation_iff.mpr isRelation, if_true]
    at passes
  unfold assertMembership at passes
  split at passes
  · cases passes
  split at passes
  · cases passes
  next isMode =>
  obtain ⟨layout, isTable⟩ : ∃ layout, config.layout = .table layout := by
    rw [not_not, get?_displayMode] at isMode
    have isTable : displayModeOf config.layout = .table :=
      modeText_injective (Json.str.inj (Option.some.inj isMode))
    cases isLayout : config.layout with
    | table layout => exact ⟨layout, rfl⟩
    | _ =>
        rw [isLayout] at isTable
        cases isTable
  simp only [get?_layout, objectFields, isTable, layoutFields, get?_relationKey,
    get?_targetEntityKey, get?_selectionControl, get?_actions] at passes
  split at passes
  · cases passes
  next hasRelation =>
  split at passes
  · cases passes
  next hasTarget =>
  split at passes
  · cases passes
  next hasControl =>
  cases isActions : config.actions with
  | none =>
      rw [isActions] at passes
      cases passes
  | some actions =>
      simp only [isActions, Option.map_some] at passes
      split at passes
      · cases passes
      next hasRefs =>
      obtain ⟨assigns, unassigns⟩ := not_or.mp hasRefs
      refine ⟨⟨layout, isTable, ne_none_of_isText hasRelation, ne_none_of_isText hasTarget, ?_⟩,
        ⟨actions, isActions, by simpa using assigns, by simpa using unassigns⟩⟩
      rintro noControl
      simp [noControl] at hasControl

end Layouts

/-- The layout of a panel that passes is the normal form of a configuration. -/
theorem config_of_normalizedLayout {layoutConfig : Option Record} {fields : Record}
    (isLayout : normalizedLayout layoutConfig = .ok (some fields)) :
    ∃ config : PanelLayoutConfig, config.fields = fields := by
  cases layoutConfig with
  | none => cases isLayout
  | some value =>
      obtain ⟨normal, isNormal, same⟩ := map_eq_ok.mp isLayout
      cases same
      unfold normalizePanelLayoutConfigOrThrow at isNormal
      split at isNormal
      · next config _ => exact ⟨config, Except.ok.inj isNormal⟩
      · cases isNormal
      · cases isNormal

theorem wellFormed_of_checks {panel : ConfigObjectViewPanelEntity}
    (isNormal : ∀ fields, panel.layoutConfig = some fields →
      ∃ config : PanelLayoutConfig, config.fields = fields)
    (matchesMode : assertPanelTypeMatchesDisplayMode panel.panelType panel.layoutConfig = .ok ())
    (hasMembers : assertRelationMembershipPanelLayoutOrThrow panel.panelType panel.layoutConfig =
      .ok ()) : WellFormed panel := by
  intro fields isLayout
  obtain ⟨config, rfl⟩ := isNormal fields isLayout
  rw [isLayout] at matchesMode hasMembers
  exact ⟨config, rfl, mode_of_assert matchesMode, membership_of_assert hasMembers⟩

/-! ## What a request does -/

def logged (db : PanelDb) (entry : ViewAuditEntry) : PanelDb :=
  { db with panelLogs := db.panelLogs ++ [entry] }

/-- The tenant and the user of an entry are known. -/
def LogAccepts (db : PanelDb) (entry : ViewAuditEntry) : Prop :=
  (∀ tenant ∈ entry.tenantId, tenant ∈ db.tenants) ∧ entry.changedBy ∈ db.tenantUsers

instance (db : PanelDb) (entry : ViewAuditEntry) : Decidable (LogAccepts db entry) :=
  inferInstanceAs (Decidable (_ ∧ _))

/-- The tables after an entry, which may be refused. -/
def logs (db : PanelDb) (entry : ViewAuditEntry) : PanelDb :=
  if LogAccepts db entry then logged db entry else db

theorem wp_logConfigChange {entry : ViewAuditEntry} {ok : Unit → PanelDb → Prop}
    {err : ViewError → PanelDb → Prop} {db : PanelDb} (returned : ok () (logs db entry))
    (raised : err .foreignKey (logs db entry)) :
    Program.wp (logConfigChange entry.tenantId entry.entityId entry.action entry.changedBy
      entry.oldValue entry.newValue) ok err db := by
  unfold logs at returned raised
  unfold logConfigChange
  rw [Program.wp_bind, Program.wp_read, Program.wp_ite]
  constructor
  · intro accepted
    have isAccepted : LogAccepts db entry := accepted
    rwa [if_pos isAccepted] at returned
  · intro refused
    have isRefused : ¬LogAccepts db entry := refused
    rwa [if_neg isRefused] at raised

def createdEntry (params : CreateConfigViewPanelParams) (saved : ConfigObjectViewPanelEntity) :
    ViewAuditEntry where
  tenantId := getEffectiveTenantId params.tenantId
  entityId := saved.configObjectViewPanelId
  action := .create
  changedBy := params.createdBy
  oldValue := none
  newValue := some (.obj (panelFields saved))

def updatedEntry (params : UpdateConfigViewPanelParams)
    (existing panel : ConfigObjectViewPanelEntity) : ViewAuditEntry where
  tenantId := getEffectiveTenantId params.tenantId
  entityId := panel.configObjectViewPanelId
  action := .update
  changedBy := params.updatedBy
  oldValue := some (.obj (editedFields existing))
  newValue := some (.obj (editedFields panel))

def deletedEntry (tenantId : Option Nat) (deletedBy : Nat) (existing : ConfigObjectViewPanelEntity) :
    ViewAuditEntry where
  tenantId := getEffectiveTenantId tenantId
  entityId := existing.configObjectViewPanelId
  action := .delete
  changedBy := deletedBy
  oldValue := some (.obj (panelFields existing))
  newValue := none

/-- The insert of the row of a panel. -/
def panelInserted (db : PanelDb) (panel : ConfigObjectViewPanelEntity) : PanelDb :=
  { db with panels := db.panels.insert panel }

/-- A panel as it is inserted. -/
def inserted (db : PanelDb) (panel : ConfigObjectViewPanelEntity) : ConfigObjectViewPanelEntity :=
  { panel with configObjectViewPanelId := db.panels.autoIncrement }

/-- What a request does: nothing, or the change of one panel with its audit entry. -/
inductive Effect (db : PanelDb) : PanelRequest → PanelDb → Prop where
  | refused (request : PanelRequest) : Effect db request db
  | created {params : CreateConfigViewPanelParams} {panel : ConfigObjectViewPanelEntity}
      (isNew : newPanel db params = .ok panel) :
      Effect db (.create params)
        (logs (panelInserted db panel) (createdEntry params (inserted db panel)))
  | updated {params : UpdateConfigViewPanelParams} {existing panel : ConfigObjectViewPanelEntity}
      (found : db.panels.find? params.configObjectViewPanelId = some existing)
      (isEdited : editedPanel db params existing = .ok panel) :
      Effect db (.update params) (logs (panelSaved db panel) (updatedEntry params existing panel))
  | deleted {tenantId : Option Nat} {configObjectViewPanelId deletedBy : Nat}
      {existing : ConfigObjectViewPanelEntity}
      (found : db.panels.find? configObjectViewPanelId = some existing) :
      Effect db (.delete tenantId configObjectViewPanelId deletedBy)
        (logs (panelRemoved db existing.configObjectViewPanelId)
          (deletedEntry tenantId deletedBy existing))

theorem wp_check {α : Type} {result : Except ViewRefusal α} {ok : α → PanelDb → Prop}
    {err : ViewError → PanelDb → Prop} {db : PanelDb}
    (passed : ∀ value, result = .ok value → ok value db)
    (refused : ∀ refusal, result = .error refusal → err (.refused refusal) db) :
    Program.wp (check result) ok err db := by
  cases result with
  | error refusal => exact refused refusal rfl
  | ok value => exact passed value rfl

theorem effect_create (db : PanelDb) (params : CreateConfigViewPanelParams) :
    Effect db (.create params) (createConfigViewPanel params db).2 := by
  apply Program.wp_end (Effect db (.create params))
  unfold createConfigViewPanel
  rw [Program.wp_bind, Program.wp_read, Program.wp_bind]
  refine wp_check (fun panel isNew => ?_) fun _ _ => .refused _
  rw [Program.wp_bind, Program.wp_writeReturning, Program.wp_bind]
  exact @wp_logConfigChange (createdEntry params (inserted db panel)) _ _ _
    (.created isNew) (.created isNew)

theorem effect_update (db : PanelDb) (params : UpdateConfigViewPanelParams) :
    Effect db (.update params) (updateConfigViewPanel params db).2 := by
  apply Program.wp_end (Effect db (.update params))
  unfold updateConfigViewPanel
  rw [Program.wp_bind, Program.wp_read]
  dsimp only [id]
  split
  · exact .refused _
  · next existing found =>
      rw [Program.wp_bind]
      refine wp_check (fun panel isEdited => ?_) fun _ _ => .refused _
      rw [Program.wp_bind, Program.wp_write, Program.wp_bind]
      exact @wp_logConfigChange (updatedEntry params existing panel) _ _ _
        (.updated found isEdited) (.updated found isEdited)

theorem effect_delete (db : PanelDb) (tenantId : Option Nat)
    (configObjectViewPanelId deletedBy : Nat) :
    Effect db (.delete tenantId configObjectViewPanelId deletedBy)
      (deleteConfigViewPanel tenantId configObjectViewPanelId deletedBy db).2 := by
  apply Program.wp_end (Effect db (.delete tenantId configObjectViewPanelId deletedBy))
  unfold deleteConfigViewPanel
  rw [Program.wp_bind, Program.wp_read]
  dsimp only [id]
  split
  · exact .refused _
  · next existing found =>
      obtain ⟨_, rfl⟩ := Table.find?_eq_some.mp found
      rw [Program.wp_bind]
      refine wp_check (fun _ _ => ?_) fun _ _ => .refused _
      rw [Program.wp_bind, Program.wp_write]
      exact @wp_logConfigChange (deletedEntry tenantId deletedBy existing) _ _ _
        (.deleted found) (.deleted found)

theorem effect_after (db : PanelDb) (request : PanelRequest) :
    Effect db request (after db request) := by
  cases request with
  | create params => exact effect_create db params
  | update params => exact effect_update db params
  | delete tenantId configObjectViewPanelId deletedBy =>
      exact effect_delete db tenantId configObjectViewPanelId deletedBy

/-! ## Every request keeps the panels well-formed -/

/-- The stored panels are well-formed, and no two panels of a view have one key. -/
structure Sound (db : PanelDb) : Prop where
  wellFormed : ∀ panel ∈ db.panels.rows, WellFormed panel
  keys : ∀ panel ∈ db.panels.rows, ∀ other ∈ db.panels.rows,
    panel.configObjectViewId = other.configObjectViewId → panel.panelKey = other.panelKey →
      panel = other

@[simp] theorem panels_logs (db : PanelDb) (entry : ViewAuditEntry) :
    (logs db entry).panels = db.panels := by
  unfold logs
  split <;> rfl

theorem Sound.same {db db' : PanelDb} (sound : Sound db) (same : db'.panels = db.panels) :
    Sound db' := by
  obtain ⟨wellFormed, keys⟩ := sound
  rw [← same] at wellFormed keys
  exact ⟨wellFormed, keys⟩

/-- A check that passes is followed by the next one. -/
theorem ok_of_andThen {ε α : Type} {first : Except ε Unit} {next : Except ε α} {value : α}
    (passes : (first >>= fun _ => next) = .ok value) : first = .ok () ∧ next = .ok value := by
  obtain ⟨_, isFirst, isNext⟩ := bind_eq_ok.mp passes
  exact ⟨isFirst, isNext⟩

/-- A new panel is well-formed, and its key is free. -/
structure IsNew (db : PanelDb) (params : CreateConfigViewPanelParams)
    (panel : ConfigObjectViewPanelEntity) : Prop where
  view : panel.configObjectViewId = params.configObjectViewId
  key : panel.panelKey = params.panelKey
  free : panelKeyTaken db params.configObjectViewId params.panelKey = false
  wellFormed : WellFormed panel

theorem isNew_of_newPanel {db : PanelDb} {params : CreateConfigViewPanelParams}
    {panel : ConfigObjectViewPanelEntity} (isNew : newPanel db params = .ok panel) :
    IsNew db params panel := by
  unfold newPanel at isNew
  obtain ⟨_, isNew⟩ := ok_of_andThen isNew
  cases taken : panelKeyTaken db params.configObjectViewId params.panelKey with
  | true =>
      rw [taken] at isNew
      cases isNew
  | false =>
      rw [taken] at isNew
      obtain ⟨layoutConfig, isLayout, isNew⟩ := bind_eq_ok.mp isNew
      obtain ⟨matchesMode, isNew⟩ := ok_of_andThen isNew
      obtain ⟨hasMembers, isNew⟩ := ok_of_andThen isNew
      cases isNew
      refine ⟨rfl, rfl, taken, wellFormed_of_checks ?_ matchesMode hasMembers⟩
      rintro fields rfl
      exact config_of_normalizedLayout isLayout

/-- An edited panel keeps its place and its key, and is well-formed if it was. -/
structure IsEdited (existing panel : ConfigObjectViewPanelEntity) : Prop where
  id : panel.configObjectViewPanelId = existing.configObjectViewPanelId
  view : panel.configObjectViewId = existing.configObjectViewId
  key : panel.panelKey = existing.panelKey
  wellFormed : WellFormed existing → WellFormed panel

theorem isEdited_of_editedPanel {db : PanelDb} {params : UpdateConfigViewPanelParams}
    {existing panel : ConfigObjectViewPanelEntity}
    (isEdited : editedPanel db params existing = .ok panel) : IsEdited existing panel := by
  unfold editedPanel at isEdited
  obtain ⟨_, isEdited⟩ := ok_of_andThen isEdited
  obtain ⟨layoutConfig, isLayout, isEdited⟩ := bind_eq_ok.mp isEdited
  obtain ⟨matchesMode, isEdited⟩ := ok_of_andThen isEdited
  obtain ⟨hasMembers, isEdited⟩ := ok_of_andThen isEdited
  cases isEdited
  refine ⟨rfl, rfl, rfl, fun wellFormed => wellFormed_of_checks ?_ matchesMode hasMembers⟩
  rintro fields rfl
  unfold editedLayout at isLayout
  split at isLayout
  · obtain ⟨config, isConfig, _⟩ := wellFormed fields (Except.ok.inj isLayout)
    exact ⟨config, isConfig⟩
  · exact config_of_normalizedLayout isLayout

theorem free_of_not_taken {db : PanelDb} {configObjectViewId : Nat} {panelKey : String}
    (free : panelKeyTaken db configObjectViewId panelKey = false) :
    ∀ panel ∈ db.panels.rows, panel.configObjectViewId = configObjectViewId →
      panel.panelKey ≠ panelKey := by
  intro panel member ofView hasKey
  have taken : panelKeyTaken db configObjectViewId panelKey = true := by
    simp only [panelKeyTaken, List.any_eq_true]
    exact ⟨panel, member, by simp [ofView, hasKey]⟩
  rw [free] at taken
  cases taken

theorem mem_panelSaved {db : PanelDb} {panel row : ConfigObjectViewPanelEntity} :
    row ∈ (panelSaved db panel).panels.rows ↔
      (∃ old ∈ db.panels.rows, old.configObjectViewPanelId = panel.configObjectViewPanelId ∧
        row = overwritten panel old) ∨
        (row ∈ db.panels.rows ∧ row.configObjectViewPanelId ≠ panel.configObjectViewPanelId) :=
  @Table.mem_updateAt _ _ db.panels row panel.configObjectViewPanelId (overwritten panel)
    (overwritten_key panel)

theorem Sound.insert {db : PanelDb} (sound : Sound db) {params : CreateConfigViewPanelParams}
    {panel : ConfigObjectViewPanelEntity} (isNew : IsNew db params panel) :
    Sound (panelInserted db panel) := by
  have free := free_of_not_taken isNew.free
  rw [← isNew.view, ← isNew.key] at free
  have rows : (panelInserted db panel).panels.rows = db.panels.rows ++ [inserted db panel] := rfl
  constructor
  · intro row member
    rw [rows, List.mem_append, List.mem_singleton] at member
    rcases member with old | rfl
    · exact sound.wellFormed row old
    · exact isNew.wellFormed
  · intro row member other otherMember sameView sameKey
    rw [rows, List.mem_append, List.mem_singleton] at member otherMember
    rcases member with old | rfl
    · rcases otherMember with otherOld | rfl
      · exact sound.keys row old other otherOld sameView sameKey
      · exact absurd sameKey (free row old sameView)
    · rcases otherMember with otherOld | rfl
      · exact absurd sameKey.symm (free other otherOld sameView.symm)
      · rfl

theorem Sound.save {db : PanelDb} (sound : Sound db)
    {existing panel : ConfigObjectViewPanelEntity} (stored : existing ∈ db.panels.rows)
    (isEdited : IsEdited existing panel) : Sound (panelSaved db panel) := by
  have isRow : ∀ old ∈ db.panels.rows,
      old.configObjectViewPanelId = panel.configObjectViewPanelId → old = existing :=
    fun old oldStored same => Table.eq_of_key_eq oldStored stored (same.trans isEdited.id)
  constructor
  · intro row member
    rcases mem_panelSaved.mp member with ⟨old, oldStored, same, rfl⟩ | ⟨untouched, _⟩
    · exact isEdited.wellFormed (sound.wellFormed existing stored)
    · exact sound.wellFormed row untouched
  · intro row member other otherMember sameView sameKey
    rcases mem_panelSaved.mp member with ⟨old, oldStored, same, rfl⟩ | ⟨untouched, elsewhere⟩ <;>
      rcases mem_panelSaved.mp otherMember with ⟨old', oldStored', same', rfl⟩ |
        ⟨untouched', elsewhere'⟩
    · rw [isRow old oldStored same, isRow old' oldStored' same']
    · have isExisting := sound.keys existing stored other untouched'
        (isEdited.view.symm.trans sameView) (isEdited.key.symm.trans sameKey)
      exact absurd (isExisting ▸ isEdited.id.symm) elsewhere'
    · have isExisting := sound.keys existing stored row untouched
        (isEdited.view.symm.trans sameView.symm) (isEdited.key.symm.trans sameKey.symm)
      exact absurd (isExisting ▸ isEdited.id.symm) elsewhere
    · exact sound.keys row untouched other untouched' sameView sameKey

theorem Sound.remove {db : PanelDb} (sound : Sound db) (configObjectViewPanelId : Nat) :
    Sound (panelRemoved db configObjectViewPanelId) := by
  constructor
  · intro row member
    exact sound.wellFormed row (Table.mem_remove.mp member).1
  · intro row member other otherMember
    exact sound.keys row (Table.mem_remove.mp member).1 other (Table.mem_remove.mp otherMember).1

theorem Sound.effect {db db' : PanelDb} {request : PanelRequest} (sound : Sound db)
    (effect : Effect db request db') : Sound db' := by
  cases effect with
  | refused => exact sound
  | created isNew => exact (sound.insert (isNew_of_newPanel isNew)).same (panels_logs _ _)
  | updated found isEdited =>
      exact (sound.save (Table.find?_eq_some.mp found).1 (isEdited_of_editedPanel isEdited)).same
        (panels_logs _ _)
  | deleted found => exact (sound.remove _).same (panels_logs _ _)

theorem givenText_token (token : Token) : givenText (some token.1) = some token.1 := by
  obtain ⟨text, trims, notEmpty⟩ := token
  unfold givenText
  split
  · next isNone => cases isNone
  · next other same =>
      cases same
      split
      · next noLetters =>
          rw [noLetters] at trims
          exact absurd trims.symm notEmpty
      · exact congrArg some trims

theorem relationKey_of_membership {panel : ConfigObjectViewPanelEntity}
    (wellFormed : WellFormed panel) (isMembership : isRelationMembershipPanel panel = true) :
    ∃ key : Token, extractRelationKeyFromPanel panel = some key.1 := by
  unfold isRelationMembershipPanel at isMembership
  obtain ⟨_, isBound⟩ := Bool.and_eq_true_iff.mp isMembership
  cases isLayout : panel.layoutConfig with
  | none =>
      rw [isLayout] at isBound
      cases isBound
  | some fields =>
      obtain ⟨config, rfl, _, hasMembers⟩ := wellFormed fields isLayout
      have isRelation : Record.get? config.fields "dataBinding" = some (.str "relation") := by
        rw [isLayout] at isBound
        simp only [getLayoutConfigDataBinding, Option.map_some, Option.getD_some, Json.field,
          beq_iff_eq] at isBound
        split at isBound
        · next raw isRaw =>
            cases isBound
            cases found : Record.get? config.fields "dataBinding" with
            | none =>
                rw [Record.get?] at found
                rw [found] at isRaw
                cases isRaw
            | some value =>
                rw [Record.get?] at found
                rw [found] at isRaw
                exact congrArg some isRaw
        · cases isBound
      obtain ⟨⟨layout, isTable, hasKey, _⟩, _⟩ := hasMembers (isRelation_iff.mp isRelation)
      obtain ⟨key, isKey⟩ := Option.ne_none_iff_exists'.mp hasKey
      refine ⟨key, ?_⟩
      simp only [extractRelationKeyFromPanel, isLayout, Option.bind_some, get?_layout, objectFields,
        isTable, layoutFields, get?_relationKey, isKey, Option.map_some, tokenJson]
      exact givenText_token key

/-- After any requests on panels, whether they returned or raised, the stored panels are
well-formed: a layout is the normal form of a configuration in the mode that the panel is of, no
two panels of a view have one key, and a panel that shows the members of a relation names it. -/
theorem panels_staySound {start : PanelDb} (sound : Sound start) (requests : List PanelRequest) :
    Sound (system.run start requests) ∧
      ∀ panel ∈ (system.run start requests).panels.rows, isRelationMembershipPanel panel = true →
        ∃ key : Token, extractRelationKeyFromPanel panel = some key.1 := by
  have kept : Sound (system.run start requests) :=
    system.run_invariant (fun db request sound => sound.effect (effect_after db request)) sound
      requests
  exact ⟨kept, fun panel member => relationKey_of_membership (kept.wellFormed panel member)⟩

/-! ## The audit entries rebuild the panels -/

/-- The fields of each panel after one more entry. -/
def replayEntry (panels : Nat → Option Record) (entry : ViewAuditEntry) : Nat → Option Record :=
  Function.update panels entry.entityId
    (match entry.action with
    | .create => objectFields entry.newValue
    | .update => (panels entry.entityId).bind fun fields =>
        (objectFields entry.newValue).map fields.spread
    | .delete => none)

/-- The fields of each panel after the entries. -/
def replay (entries : List ViewAuditEntry) : Nat → Option Record :=
  entries.foldl replayEntry fun _ => none

/-- The entries say what each panel is. -/
def Replays (db : PanelDb) : Prop :=
  ∀ id, replay db.panelLogs id = (db.panels.find? id).map panelFields

/-- The tenant of a request, where it has one, and its user are known. -/
def IsKnown (db : PanelDb) : PanelRequest → Prop
  | .create params =>
      (∀ tenant ∈ getEffectiveTenantId params.tenantId, tenant ∈ db.tenants) ∧
        params.createdBy ∈ db.tenantUsers
  | .update params =>
      (∀ tenant ∈ getEffectiveTenantId params.tenantId, tenant ∈ db.tenants) ∧
        params.updatedBy ∈ db.tenantUsers
  | .delete tenantId _ deletedBy =>
      (∀ tenant ∈ getEffectiveTenantId tenantId, tenant ∈ db.tenants) ∧
        deletedBy ∈ db.tenantUsers

instance (db : PanelDb) (request : PanelRequest) : Decidable (IsKnown db request) :=
  match request with
  | .create _ => inferInstanceAs (Decidable (_ ∧ _))
  | .update _ => inferInstanceAs (Decidable (_ ∧ _))
  | .delete _ _ _ => inferInstanceAs (Decidable (_ ∧ _))

theorem replay_logged (db : PanelDb) (entry : ViewAuditEntry) :
    replay (logged db entry).panelLogs = replayEntry (replay db.panelLogs) entry := by
  simp [replay, logged, List.foldl_append]

theorem spread_panelFields {existing panel : ConfigObjectViewPanelEntity}
    (isEdited : IsEdited existing panel) :
    (panelFields existing).spread (editedFields panel) = panelFields panel := by
  simp [panelFields, editedFields, Record.spread, Record.set, isEdited.view, isEdited.key]

/-- An accepted entry about one panel keeps the entries and the panels in step when it says what
becomes of that panel. -/
theorem Replays.logs {db db' : PanelDb} {entry : ViewAuditEntry} (replays : Replays db)
    (sameLogs : db'.panelLogs = db.panelLogs) (accepts : LogAccepts db' entry)
    (here : replayEntry (replay db.panelLogs) entry entry.entityId =
      (db'.panels.find? entry.entityId).map panelFields)
    (elsewhere : ∀ id, id ≠ entry.entityId → db'.panels.find? id = db.panels.find? id) :
    Replays (logs db' entry) := by
  intro id
  rw [panels_logs, ViewPanels.logs, if_pos accepts, replay_logged, sameLogs]
  by_cases isHere : id = entry.entityId
  · rw [isHere]
    exact here
  · rw [replayEntry, Function.update_of_ne isHere, elsewhere id isHere]
    exact replays id

theorem find?_panelInserted_of_ne {db : PanelDb} {panel : ConfigObjectViewPanelEntity} {id : Nat}
    (isOld : id ≠ db.panels.autoIncrement) :
    (panelInserted db panel).panels.find? id = db.panels.find? id := by
  rcases found : db.panels.find? id with _ | old
  · rw [Table.find?_eq_none] at found ⊢
    intro row member
    rcases List.mem_append.mp member with isStored | isLast
    · exact found row isStored
    · rw [List.mem_singleton.mp isLast]
      exact Ne.symm isOld
  · rw [Table.find?_eq_some] at found ⊢
    exact ⟨List.mem_append_left _ found.1, found.2⟩

theorem find?_panelSaved_of_ne {db : PanelDb} {panel : ConfigObjectViewPanelEntity} {id : Nat}
    (isOther : id ≠ panel.configObjectViewPanelId) :
    (panelSaved db panel).panels.find? id = db.panels.find? id :=
  @Table.find?_updateAt_of_ne _ _ db.panels _ (overwritten panel) (overwritten_key panel) id isOther

theorem find?_panelRemoved (db : PanelDb) (configObjectViewPanelId id : Nat) :
    (panelRemoved db configObjectViewPanelId).panels.find? id =
      if id = configObjectViewPanelId then none else db.panels.find? id := by
  rw [panelRemoved, Table.find?_remove]
  rcases found : db.panels.find? id with _ | row
  · simp
  · have isKey : row.configObjectViewPanelId = id := (Table.find?_eq_some.mp found).2
    rw [Option.filter_some, isKey]
    by_cases same : id = configObjectViewPanelId <;> simp [same]

/-- A request whose entry is accepted keeps the entries and the panels in step. -/
theorem Replays.effect {db db' : PanelDb} {request : PanelRequest} (replays : Replays db)
    (known : IsKnown db request) (effect : Effect db request db') : Replays db' := by
  cases effect with
  | refused => exact replays
  | @created params panel isNew =>
      refine replays.logs rfl known ?_ fun id isOld => find?_panelInserted_of_ne isOld
      have isStored : (panelInserted db panel).panels.find? db.panels.autoIncrement =
          some (inserted db panel) := Table.find?_insert_self
      rw [replayEntry, Function.update_self]
      exact (congrArg (Option.map panelFields) isStored).symm
  | @updated params existing panel found isEdited =>
      have edited := isEdited_of_editedPanel isEdited
      obtain ⟨stored, isKey⟩ := Table.find?_eq_some.mp found
      refine replays.logs rfl known ?_ fun id isOther => find?_panelSaved_of_ne isOther
      have isExisting : db.panels.find? panel.configObjectViewPanelId = some existing :=
        Table.find?_eq_some.mpr ⟨stored, edited.id.symm⟩
      have isSaved : (panelSaved db panel).panels.find? panel.configObjectViewPanelId =
          some (overwritten panel existing) :=
        (@Table.find?_updateAt_self _ _ db.panels panel.configObjectViewPanelId (overwritten panel)
          (overwritten_key panel)).trans (congrArg (Option.map (overwritten panel)) isExisting)
      have before := replays panel.configObjectViewPanelId
      rw [isExisting] at before
      simp only [replayEntry, updatedEntry, Function.update_self, before, isSaved, objectFields,
        Option.map_some, Option.bind_some, spread_panelFields edited]
      rfl
  | @deleted tenantId _ deletedBy existing found =>
      refine replays.logs rfl known ?_ fun id isOther => ?_
      · rw [replayEntry, Function.update_self, find?_panelRemoved]
        simp [deletedEntry]
      · rw [find?_panelRemoved]
        exact if_neg isOther

/-- When every request comes from a known tenant and user, the audit entries are complete: the
fields of every panel, and that it is there at all, are what the entries make of it. -/
theorem audit_rebuildsPanels {start : PanelDb} (replays : Replays start)
    {requests : List PanelRequest} (known : system.Guarded IsKnown start requests) :
    Replays (system.run start requests) :=
  system.run_guarded (fun db request replays known => replays.effect known (effect_after db request))
    replays known

/-! ## A panel of contacts -/

/-- A detail view of customers without panels. -/
def customerView : PanelDb where
  tenants := [1]
  tenantUsers := [5]
  templateSets := .ofRows [{ configTemplateSetId := 0, tenantId := some 1, status := .published }]
  configObjects := .ofRows
    [{ configObjectId := 0, configTemplateSetId := 1, objectType := "customer"
       status := .published }]
  views := .ofRows
    [{ configObjectViewId := 0, configObjectId := 1, viewKey := "customer_detail"
       viewType := .detail, name := "Customer", description := none, roleKey := none
       tenantId := some 1, isDefault := true, isActive := true, configJson := none
       createdBy := none, updatedBy := none }]
  auditLogs := []
  panels := .empty _
  panelLogs := []

/-- A table of the contacts of a customer. -/
def contactsLayout : Record :=
  [("schemaVersion", .num 1), ("displayMode", .str "table"), ("dataBinding", .str "relation"),
    ("layout", .obj [("columns", .arr [.str "name"]), ("relationKey", .str " contacts "),
      ("targetEntityKey", .str "customer_contact"), ("selectionControl", .str "radio")]),
    ("actions", .obj [("assignRef", .str "assign"), ("unassignRef", .str "unassign")])]

/-- The panel is created, and renamed; in between, its layout cannot become a form. -/
def contactsRequests : List PanelRequest :=
  [.create { tenantId := some 1, configObjectViewId := 1, createdBy := 5, panelKey := "contacts"
             title := "Contacts", panelType := .table, layoutConfig := some contactsLayout },
    .update { tenantId := some 1, configObjectViewPanelId := 1, updatedBy := 5
              panelType := some .formSection },
    .update { tenantId := some 1, configObjectViewPanelId := 1, updatedBy := 5
              title := some "People" }]

theorem sound_customerView : Sound customerView where
  wellFormed := fun _ member => by cases member
  keys := fun _ member => by cases member

theorem panels_staySound_contacts :
    ∃ panel ∈ (system.run customerView contactsRequests).panels.rows, panel.title = "People" ∧
      WellFormed panel ∧ ∃ key : Token, extractRelationKeyFromPanel panel = some key.1 := by
  obtain ⟨panel, stored, isTitle, isMembership⟩ :
      ∃ panel ∈ (system.run customerView contactsRequests).panels.rows, panel.title = "People" ∧
        isRelationMembershipPanel panel = true := by
    decide +kernel
  obtain ⟨sound, names⟩ := panels_staySound sound_customerView contactsRequests
  exact ⟨panel, stored, isTitle, sound.wellFormed panel stored, names panel stored isMembership⟩

theorem audit_rebuildsPanels_contacts :
    replay (system.run customerView contactsRequests).panelLogs 1 =
      ((system.run customerView contactsRequests).panels.find? 1).map panelFields := by
  have replays : Replays customerView := fun _ => rfl
  exact audit_rebuildsPanels replays (by decide +kernel) 1

end CoreApi.ConfigObjects.ViewPanels
