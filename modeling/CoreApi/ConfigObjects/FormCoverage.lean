import Mathlib.Order.SetNotation
import CoreApi.ConfigObjects.PanelLayout
import CoreApi.ConfigObjects.RejectedViews
import CoreApi.ConfigObjects.SatisfiableSubmissions

/-!
# What forms show

A form names panels, and when it is saved these must show every field that has to be given,
none that cannot be written, and every relation that has to be given inline. What panels
show is searched for in their stored layouts, by the names that fields stand under.
-/

namespace CoreApi.ConfigObjects

open CoreApi.Foundation Automation ObjectDesign

/-! ## Demands and what covers them -/

/-- What is asked of a form: fields that it may not show, fields that it has to show, and relations
that it has to bind. -/
structure Demands (Field Relation : Type) where
  forbidden : Set Field
  required : Set Field
  inline : Set Relation

/-- What a form shows and binds. -/
structure Coverage (Field Relation : Type) where
  fields : Set Field
  relations : Set Relation

namespace Coverage

variable {Field Relation : Type} {demands : Demands Field Relation}
  {first second : Coverage Field Relation}

/-- The demands are met. -/
structure Meets (coverage : Coverage Field Relation) (demands : Demands Field Relation) : Prop where
  noneForbidden : ∀ field ∈ coverage.fields, field ∉ demands.forbidden
  allRequired : ∀ field ∈ demands.required, field ∈ coverage.fields
  allInline : ∀ relation ∈ demands.inline, relation ∈ coverage.relations

/-- Two coverings are alike in all that something is asked of. -/
structure AlikeOn (demands : Demands Field Relation) (first second : Coverage Field Relation) :
    Prop where
  forbidden : ∀ field ∈ demands.forbidden, field ∈ first.fields ↔ field ∈ second.fields
  required : ∀ field ∈ demands.required, field ∈ first.fields ↔ field ∈ second.fields
  inline : ∀ relation ∈ demands.inline, relation ∈ first.relations ↔ relation ∈ second.relations

theorem AlikeOn.symm (alike : AlikeOn demands first second) : AlikeOn demands second first :=
  ⟨fun field member => (alike.forbidden field member).symm,
    fun field member => (alike.required field member).symm,
    fun relation member => (alike.inline relation member).symm⟩

theorem AlikeOn.meets (alike : AlikeOn demands first second) (meets : first.Meets demands) :
    second.Meets demands where
  noneForbidden field shown isForbidden :=
    meets.noneForbidden field ((alike.forbidden field isForbidden).mpr shown) isForbidden
  allRequired field isRequired :=
    (alike.required field isRequired).mp (meets.allRequired field isRequired)
  allInline relation isInline :=
    (alike.inline relation isInline).mp (meets.allInline relation isInline)

theorem Meets.alikeOn (meets : first.Meets demands) (others : second.Meets demands) :
    AlikeOn demands first second where
  forbidden field isForbidden :=
    iff_of_false (fun shown => meets.noneForbidden field shown isForbidden)
      fun shown => others.noneForbidden field shown isForbidden
  required field isRequired :=
    iff_of_true (meets.allRequired field isRequired) (others.allRequired field isRequired)
  inline relation isInline :=
    iff_of_true (meets.allInline relation isInline) (others.allInline relation isInline)

/-- Two coverings stand or fall together where they are alike, or both fall. -/
theorem meets_congr_iff :
    (first.Meets demands ↔ second.Meets demands) ↔
      AlikeOn demands first second ∨ ¬first.Meets demands ∧ ¬second.Meets demands := by
  constructor
  · intro together
    by_cases meets : first.Meets demands
    · exact .inl (meets.alikeOn (together.mp meets))
    · exact .inr ⟨meets, mt together.mpr meets⟩
  · rintro (alike | ⟨firstFalls, secondFalls⟩)
    · exact ⟨alike.meets, alike.symm.meets⟩
    · exact iff_of_false firstFalls secondFalls

end Coverage

/-! ## Layouts as they are searched -/

/-- `config_object_view_panels`, with layouts that were accepted. -/
structure LaidOutPanel extends ConfigObjectViewPanelEntity where
  panelType : PanelLayoutDisplayMode
  layoutConfig : Option PanelLayoutConfig

namespace FormPanels

/-- A text that is not blank, trimmed. -/
def keyOf (text : String) : List String :=
  match Json.trimmed text with
  | [] => []
  | letters => [String.ofList letters]

/-- The text under a name is the key of a field. -/
def namesField (name : String) : Bool :=
  ["field", "fieldKey", "timeField", "groupBy"].contains name

/-- The texts under a name are keys of fields. -/
def listsFields (name : String) : Bool :=
  ["columns", "cardFields", "keyValueFields", "fieldOrder", "eventFields"].contains name

/-- The key that a text is; other values are none. -/
def textKey : Json → List String
  | .str text => keyOf text
  | _ => []

/-- The keys that a value is or lists under a name. -/
def keysUnder (name : String) (value : Json) : List String :=
  match value with
  | .str text => if namesField name = true then keyOf text else []
  | .arr items => if listsFields name = true then items.flatMap textKey else []
  | _ => []

mutual

/-- `visit`; the keys in the order in which they are met. -/
def visit : Json → List String
  | .arr items => visitItems items
  | .obj fields => visitEntries fields
  | _ => []

def visitItems : List Json → List String
  | [] => []
  | item :: rest => visit item ++ visitItems rest

def visitEntries : List (String × Json) → List String
  | [] => []
  | (name, value) :: rest => keysUnder name value ++ (visit value ++ visitEntries rest)

end

/-- The stored layout of a panel. -/
def layoutJson (panel : LaidOutPanel) : Json :=
  (panel.layoutConfig.map PanelLayoutConfig.toJson).getD .null

/-- `getLayoutConfigDataBinding`. -/
def getLayoutConfigDataBinding (layoutConfig : Json) : Option String :=
  match layoutConfig.field "dataBinding" with
  | .str raw => some raw
  | _ => none

/-- `isRelationMembershipPanel`. -/
def isRelationMembershipPanel (panel : LaidOutPanel) : Bool :=
  panel.panelType == .table && getLayoutConfigDataBinding (layoutJson panel) == some "relation"

/-- `extractFieldKeysFromPanelLayout`. -/
def extractFieldKeysFromPanelLayout (panel : LaidOutPanel) : List String :=
  if isRelationMembershipPanel panel = true then [] else (visit (layoutJson panel)).eraseDups

/-- The relations that a panel covers. -/
def coveredRelationKeys (panelKeys : List String) (panel : LaidOutPanel) : List String :=
  if isRelationMembershipPanel panel = true then
    (if panelKeys.contains panel.panelKey = true then [panel.panelKey] else []) ++
      textKey ((layoutJson panel).field "relationKey")
  else []

/-- Requests of neither kind may write the field. -/
def isNonWritable (descriptor : CoreFieldDescriptor) : Bool :=
  descriptor.canCreate == some false && descriptor.canUpdate == some false

/-- Requests of some kind have to give the field, and of some kind may. -/
def isRequiredWritable (descriptor : CoreFieldDescriptor) : Bool :=
  (descriptor.requiredOnCreate == some true || descriptor.requiredOnUpdate == some true) &&
    !isNonWritable descriptor

/-- What a form is refused for, where it has faults. -/
def refuseForm (faults : List String) (message : String) : Except SubmitError Unit :=
  if faults = [] then .ok ()
  else .error (.design (.authoring "SIX1_AUTHORING_VIEW_DETAIL_FORM_CONFIG_INVALID"
    (message ++ ", ".intercalate faults)))

section

variable (fieldRegistry : List CoreFieldDescriptor) (relations : List RelationCatalogDescriptor)
  (panelKeys : List String) (panels : List LaidOutPanel)

/-- The keys that the panels are set to show, each once. -/
def configuredFieldKeys : List String :=
  (panels.flatMap extractFieldKeysFromPanelLayout).eraseDups

def nonWritableFields : List String :=
  (configuredFieldKeys panels).filter fun fieldKey =>
    (descriptorOf fieldRegistry fieldKey).any isNonWritable

def missingRequired : List String :=
  ((fieldRegistry.filter isRequiredWritable).map CoreFieldDescriptor.fieldKey).filter
    fun fieldKey => !(configuredFieldKeys panels).contains fieldKey

def missingInlineRequired : List String :=
  ((relations.filter isInlineRequiredRelation).map
    RelationCatalogDescriptor.relationshipKey).filter fun key =>
      !(panels.flatMap (coveredRelationKeys panelKeys)).contains key

/-- What is checked of the panels of a form over the schema of its type. -/
def checkFormPanels : Except SubmitError Unit := do
  refuseForm (nonWritableFields fieldRegistry panels)
    "Form panels reference non-writable fields: "
  refuseForm (missingRequired fieldRegistry panels)
    "Form panels must include required writable fields: "
  refuseForm (missingInlineRequired relations panelKeys panels)
    "Form panels must include inline_required relationships: "

end

/-- The panels of a view that are among the keys. -/
def panelsOf (rows : List LaidOutPanel) (configObjectViewId : Nat) (panelKeys : List String) :
    List LaidOutPanel :=
  rows.filter fun panel =>
    panel.configObjectViewId == configObjectViewId && panelKeys.contains panel.panelKey

/-- `assertFormViewWriteSchemaConstraints`. -/
def assertFormViewWriteSchemaConstraints (services : SubmitServices) (db : SubmitDb)
    (rows : List LaidOutPanel) (tenantId : Option Nat) (entityKey : String)
    (configObjectViewId : Nat) (configJson : Option Json) : Except SubmitError Unit :=
  let panelKeys := extractDetailFormPanelKeysFromConfigJson configJson
  if panelKeys = [] then .ok ()
  else do
    let schema ← (getObjectSchemaWithRelations services.toRelationServices db.toRelationDb tenantId
      entityKey).mapError SubmitError.design
    match schema with
    | none => .error (.design (.authoring "SIX1_AUTHORING_VIEW_SCHEMA_UNAVAILABLE"
        "Unable to resolve schema for form write-schema validation."))
    | some schema => do
        let fieldRegistry ← (fieldRegistryOf services.metadata db.fieldRules
          schema.toObjectSchema).mapError SubmitError.invalidDescriptor
        checkFormPanels fieldRegistry schema.relations panelKeys
          (panelsOf rows configObjectViewId panelKeys)

/-! ## Layouts as they are shown -/

/-- The keys that texts are. -/
def keysOf (texts : List NonBlank) : List String :=
  texts.map fun text => String.ofList (Json.trimmed text.1)

/-- The field that an entry of a section names: a text, or an object that names it. -/
def sectionField : Json → List String
  | .obj entry => textKey ((Record.get? entry "fieldKey").getD .null) ++
      textKey ((Record.get? entry "field").getD .null)
  | entry => textKey entry

/-- The fields of a section. -/
def sectionFields (fields : Record) : List String :=
  match fields.get? "fields" with
  | some (.arr entries) => entries.flatMap sectionField
  | _ => []

/-- The fields that a layout shows. -/
def shownFields : PanelLayout → List String
  | .table layout => keysOf layout.columns
  | .cards layout => keysOf layout.cardFields ++ (layout.groupBy.map Subtype.val).toList
  | .summary layout => keysOf layout.keyValueFields
  | .formSection layout => keysOf layout.fieldOrder ++ layout.sections.flatMap sectionFields
  | .timeline layout => layout.timeField.1 :: keysOf layout.eventFields
  | .customSlot _ => []

/-- The relation that a layout names. -/
def relationKeyOf : PanelLayout → Option Token
  | .table layout => layout.relationKey
  | .formSection layout => layout.relationKey
  | _ => none

/-- The panel is bound to a relation: its layout names one, or its data are those of one. -/
def IsRelationBound (config : PanelLayoutConfig) : Prop :=
  relationKeyOf config.layout ≠ none ∨ config.dataBinding = some .relation

/-- What panels show of the main entity, and the relations that they are bound to. -/
def shownBy (panels : List LaidOutPanel) : Coverage String String where
  fields := { fieldKey | ∃ panel ∈ panels, ∃ config, panel.layoutConfig = some config ∧
    ¬IsRelationBound config ∧ fieldKey ∈ shownFields config.layout }
  relations := { key | ∃ panel ∈ panels, ∃ config, panel.layoutConfig = some config ∧
    (relationKeyOf config.layout).map Subtype.val = some key }

/-- What the search of stored layouts finds, and the relations that panels are named after. -/
def foundIn (panels : List LaidOutPanel) : Coverage String String where
  fields := { fieldKey | ∃ panel ∈ panels, isRelationMembershipPanel panel = false ∧
    fieldKey ∈ visit (layoutJson panel) }
  relations := { key | ∃ panel ∈ panels, isRelationMembershipPanel panel = true ∧
    panel.panelKey = key }

/-- What is asked of a form of a type. -/
def demandsOf (fieldRegistry : List CoreFieldDescriptor)
    (relations : List RelationCatalogDescriptor) : Demands String String where
  forbidden := { fieldKey | ∃ descriptor, descriptorOf fieldRegistry fieldKey = some descriptor ∧
    isNonWritable descriptor = true }
  required := { fieldKey | ∃ descriptor ∈ fieldRegistry, isRequiredWritable descriptor = true ∧
    descriptor.fieldKey = fieldKey }
  inline := { key | ∃ rel ∈ relations, isInlineRequiredRelation rel = true ∧
    rel.relationshipKey = key }

section

variable {fieldRegistry : List CoreFieldDescriptor} {relations : List RelationCatalogDescriptor}
  {panelKeys : List String} {panels : List LaidOutPanel} {fieldKey key : String}

theorem mem_configuredFieldKeys :
    fieldKey ∈ configuredFieldKeys panels ↔ fieldKey ∈ (foundIn panels).fields := by
  simp only [configuredFieldKeys, List.mem_eraseDups, List.mem_flatMap, foundIn, Set.mem_ofPred_eq]
  refine exists_congr fun panel => and_congr_right fun _ => ?_
  unfold extractFieldKeysFromPanelLayout
  by_cases membership : isRelationMembershipPanel panel = true
  · simp [membership]
  · simp [membership, List.mem_eraseDups]

/-- A layout that was accepted has no relation beside it. -/
theorem relationKey_layoutJson (panel : LaidOutPanel) :
    textKey ((layoutJson panel).field "relationKey") = [] := by
  unfold layoutJson
  rcases panel.layoutConfig with _ | config
  · rfl
  · have absent : Record.get? config.fields "relationKey" = none := by
      simp [PanelLayoutConfig.fields, CheckedFields.get?_entry_append, CheckedFields.get?_entry]
    simp only [Option.map_some, Option.getD_some, PanelLayoutConfig.toJson, Json.field]
    unfold Record.get? at absent
    rw [absent]
    rfl

theorem mem_coveredRelationKeys (inKeys : ∀ panel ∈ panels, panel.panelKey ∈ panelKeys) :
    key ∈ panels.flatMap (coveredRelationKeys panelKeys) ↔ key ∈ (foundIn panels).relations := by
  simp only [List.mem_flatMap, foundIn, Set.mem_ofPred_eq]
  refine exists_congr fun panel => and_congr_right fun member => ?_
  unfold coveredRelationKeys
  rw [relationKey_layoutJson, List.append_nil]
  by_cases membership : isRelationMembershipPanel panel = true
  · simp [membership, inKeys panel member, eq_comm]
  · simp [membership]

theorem refuseForm_eq_ok {faults : List String} {message : String} :
    refuseForm faults message = .ok () ↔ faults = [] := by
  unfold refuseForm
  split
  · next isEmpty => exact iff_of_true rfl isEmpty
  · next notEmpty => exact iff_of_false nofun notEmpty

theorem nonWritableFields_eq_nil :
    nonWritableFields fieldRegistry panels = [] ↔ ∀ field ∈ (foundIn panels).fields,
      field ∉ (demandsOf fieldRegistry relations).forbidden := by
  simp only [nonWritableFields, List.filter_eq_nil_iff, mem_configuredFieldKeys, demandsOf,
    Set.mem_ofPred_eq, Option.any_eq_true]

theorem missingRequired_eq_nil :
    missingRequired fieldRegistry panels = [] ↔
      ∀ field ∈ (demandsOf fieldRegistry relations).required, field ∈ (foundIn panels).fields := by
  simp only [missingRequired, List.filter_eq_nil_iff, demandsOf, Set.mem_ofPred_eq]
  simp [← mem_configuredFieldKeys, and_assoc]

theorem missingInlineRequired_eq_nil (inKeys : ∀ panel ∈ panels, panel.panelKey ∈ panelKeys) :
    missingInlineRequired relations panelKeys panels = [] ↔
      ∀ relation ∈ (demandsOf fieldRegistry relations).inline,
        relation ∈ (foundIn panels).relations := by
  simp only [missingInlineRequired, List.filter_eq_nil_iff, demandsOf, Set.mem_ofPred_eq]
  simp [← mem_coveredRelationKeys inKeys, and_assoc]

theorem checkFormPanels_eq_ok (inKeys : ∀ panel ∈ panels, panel.panelKey ∈ panelKeys) :
    checkFormPanels fieldRegistry relations panelKeys panels = .ok () ↔
      (foundIn panels).Meets (demandsOf fieldRegistry relations) := by
  constructor
  · intro passes
    obtain ⟨_, noneForbidden, passes⟩ := bind_eq_ok.mp passes
    obtain ⟨_, allRequired, allInline⟩ := bind_eq_ok.mp passes
    exact ⟨nonWritableFields_eq_nil.mp (refuseForm_eq_ok.mp noneForbidden),
      missingRequired_eq_nil.mp (refuseForm_eq_ok.mp allRequired),
      (missingInlineRequired_eq_nil inKeys).mp (refuseForm_eq_ok.mp allInline)⟩
  · rintro ⟨noneForbidden, allRequired, allInline⟩
    exact bind_eq_ok.mpr ⟨(), refuseForm_eq_ok.mpr (nonWritableFields_eq_nil.mpr noneForbidden),
      bind_eq_ok.mpr ⟨(), refuseForm_eq_ok.mpr (missingRequired_eq_nil.mpr allRequired),
        refuseForm_eq_ok.mpr ((missingInlineRequired_eq_nil inKeys).mpr allInline)⟩⟩

/-! ### What is shown and not found -/

end

/-! ## Forms of published types -/

section

variable {services : SubmitServices} {db : SubmitDb} {rows : List LaidOutPanel}
  {tenantId : Option Nat} {entityKey : String} {configObjectViewId : Nat}
  {configJson : Option Json} {schema : RelationSchema}
  {fieldRegistry : List CoreFieldDescriptor}

/-- The panels that a form names. -/
def panelsOfForm (rows : List LaidOutPanel) (configObjectViewId : Nat) (configJson : Option Json) :
    List LaidOutPanel :=
  panelsOf rows configObjectViewId (extractDetailFormPanelKeysFromConfigJson configJson)

theorem assertFormView_eq_ok
    (published : getObjectSchemaWithRelations services.toRelationServices db.toRelationDb tenantId
      entityKey = .ok (some schema))
    (isBuilt : IsRegistryOf services.metadata schema.configObject
      (fieldViewsOf db.fieldRules schema.fields) fieldRegistry)
    (named : extractDetailFormPanelKeysFromConfigJson configJson ≠ []) :
    assertFormViewWriteSchemaConstraints services db rows tenantId entityKey configObjectViewId
        configJson = .ok () ↔
      (foundIn (panelsOfForm rows configObjectViewId configJson)).Meets
        (demandsOf fieldRegistry schema.relations) := by
  have inKeys : ∀ panel ∈ panelsOfForm rows configObjectViewId configJson,
      panel.panelKey ∈ extractDetailFormPanelKeysFromConfigJson configJson := by
    intro panel member
    have selected := (List.mem_filter.mp member).2
    exact List.contains_iff_mem.mp (Bool.and_eq_true_iff.mp selected).2
  have registry : fieldRegistryOf services.metadata db.fieldRules schema.toObjectSchema =
      .ok fieldRegistry := isBuilt
  have checked : assertFormViewWriteSchemaConstraints services db rows tenantId entityKey
      configObjectViewId configJson = (do
        let fieldRegistry ← (fieldRegistryOf services.metadata db.fieldRules
          schema.toObjectSchema).mapError SubmitError.invalidDescriptor
        checkFormPanels fieldRegistry schema.relations
          (extractDetailFormPanelKeysFromConfigJson configJson)
          (panelsOfForm rows configObjectViewId configJson)) := by
    unfold assertFormViewWriteSchemaConstraints
    rw [published]
    exact if_neg named
  rw [← checkFormPanels_eq_ok inKeys, checked, registry]
  exact Iff.rfl

end

/-! ## Forms of inspections -/

/-- The field registry of inspections. -/
def inspectionRegistry : List CoreFieldDescriptor :=
  (mergedRows inspectionServices.metadata []
    (fieldViewsOf (.empty _) inspectionSchema.fields)).map
      (withWriteCapability inspectionServices.metadata .standalone "inspection" fun _ => none)

theorem inspectionRegistry_isBuilt :
    IsRegistryOf inspectionServices.metadata inspectionSchema.configObject
      (fieldViewsOf (inspections (.empty _)).fieldRules inspectionSchema.fields)
      inspectionRegistry :=
  finalizeCoreFieldDescriptors_eq_ok.mpr ⟨[], rfl, by decide, rfl⟩

theorem serialNumber_notBlank : Json.trimmed "serialNumber" ≠ [] := by decide

/-- The layout of a section of a form that sets nothing else. -/
def plainSection (layout : FormSectionLayout) : PanelLayoutConfig where
  layout := .formSection layout
  dataBinding := none
  actions := none
  style := none
  permissions := none
  pagination := none
  sort := none
  emptyState := none

/-- A panel of view 5. -/
def mainPanel (layout : FormSectionLayout) : LaidOutPanel where
  configObjectViewId := 5
  panelKey := "main"
  panelType := .formSection
  layoutConfig := some (plainSection layout)

/-- The serial number, listed. -/
def listed : FormSectionLayout where
  fieldOrder := [⟨"serialNumber", serialNumber_notBlank⟩]
  sections := []
  notEmpty := .inl (List.cons_ne_nil _ _)
  relationKey := none
  targetEntityKey := none
  dataBinding := none

/-- A section with the serial number. -/
def sectioned : FormSectionLayout where
  fieldOrder := []
  sections := [[("fields", .arr [.str "serialNumber"])]]
  notEmpty := .inr (List.cons_ne_nil _ _)
  relationKey := none
  targetEntityKey := none
  dataBinding := none

/-- A form of one panel. -/
def mainForm : Json := .obj [("schemaVersion", .num 1), ("panels", .arr [.str "main"])]

theorem mem_shownBy_mainPanel {layout : FormSectionLayout} (unbound : layout.relationKey = none)
    {fieldKey : String} :
    fieldKey ∈ (shownBy [mainPanel layout]).fields ↔
      fieldKey ∈ shownFields (.formSection layout) := by
  simp [shownBy, mainPanel, plainSection, IsRelationBound, relationKeyOf, unbound]

end FormPanels

end CoreApi.ConfigObjects
