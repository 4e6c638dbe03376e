import Mathlib.Data.List.Nodup
import CoreApi.ConfigObjects.CheckedFields

/-!
# Layouts of panels

What a panel of a view shows is stored as JSON, which is checked by the mode it is displayed
in: a table, cards, a summary, a section of a form, a timeline, or a slot for a widget. The
layouts that pass are a type of their own, with their JSON.
-/

namespace CoreApi.ConfigObjects

open CoreApi.Foundation RelationAuthoring CheckedFields

/-- `PANEL_LAYOUT_DISPLAY_MODES`. -/
inductive PanelLayoutDisplayMode where
  | table | cards | summary | formSection | timeline | customSlot
deriving DecidableEq

/-- `PANEL_LAYOUT_DATA_BINDING_VALUES`. -/
inductive PanelLayoutDataBinding where
  | main | relation | derived
deriving DecidableEq

/-- `PANEL_LAYOUT_RELATION_PANEL_MODES`. -/
inductive RelationPanelMode where
  | relationMembership | relatedList | inlineRequired | inlineOptional | embeddedForm
deriving DecidableEq

/-- `'checkbox' | 'radio'`. -/
inductive SelectionControl where
  | checkbox | radio
deriving DecidableEq

/-- `{ field, direction }`, with the field trimmed. -/
structure PanelSort where
  field : Token
  direction : ListViewSortDirection
deriving DecidableEq

/-- `fieldLabelByKey`, which labels a field once; the prototype of the object is no field. -/
structure FieldLabels where
  labels : List (Token × Token)
  distinct : (labels.map fun label => label.1.1).Nodup
  ordinary : ∀ label ∈ labels, label.1.1 ≠ prototypeName
deriving DecidableEq

/-- The layout of a table; no actions and no labels are left out. -/
structure TableLayout where
  columns : List NonBlank
  hasColumns : columns ≠ []
  rowActions : List NonBlank
  bulkActions : List NonBlank
  defaultSort : Option PanelSort
  relationKey : Option Token
  targetEntityKey : Option Token
  selectionControl : Option SelectionControl
  fieldLabelByKey : FieldLabels
  dataBinding : Option PanelLayoutDataBinding
  relationPanelMode : Option RelationPanelMode
  form : Option Record
  list : Option Record
deriving DecidableEq

/-- The layout of cards; no labels are left out. -/
structure CardsLayout where
  cardFields : List NonBlank
  hasFields : cardFields ≠ []
  groupBy : Option Token
  badges : Option Record
  fieldLabelByKey : FieldLabels
deriving DecidableEq

/-- The layout of a summary, which has something to sum up. -/
structure SummaryLayout where
  metrics : List Record
  keyValueFields : List NonBlank
  notEmpty : metrics ≠ [] ∨ keyValueFields ≠ []
deriving DecidableEq

/-- The layout of a section of a form, which has something to fill in. -/
structure FormSectionLayout where
  fieldOrder : List NonBlank
  sections : List Record
  notEmpty : fieldOrder ≠ [] ∨ sections ≠ []
  relationKey : Option Token
  targetEntityKey : Option Token
  dataBinding : Option PanelLayoutDataBinding
deriving DecidableEq

/-- The layout of a timeline; no fields of events are left out. -/
structure TimelineLayout where
  timeField : Token
  eventFields : List NonBlank
deriving DecidableEq

/-- The layout of a slot for a widget. -/
structure CustomSlotLayout where
  slotKey : Token
  widgetRef : Option Token
  inputBindings : Option Record
  eventBindings : Option Record
deriving DecidableEq

/-- A layout, in the mode that it is displayed in. -/
inductive PanelLayout where
  | table (layout : TableLayout)
  | cards (layout : CardsLayout)
  | summary (layout : SummaryLayout)
  | formSection (layout : FormSectionLayout)
  | timeline (layout : TimelineLayout)
  | customSlot (layout : CustomSlotLayout)
deriving DecidableEq

/-- What is shown while there is nothing: a text or an object. -/
inductive EmptyState where
  | text (text : String)
  | object (fields : Record)
deriving DecidableEq

/-- `PanelLayoutConfig`, of schema version 1. -/
structure PanelLayoutConfig where
  layout : PanelLayout
  dataBinding : Option PanelLayoutDataBinding
  actions : Option Record
  style : Option Record
  permissions : Option Record
  pagination : Option Record
  sort : Option Record
  emptyState : Option EmptyState
deriving DecidableEq

namespace PanelLayoutConfig

/-! ## Checks -/

/-- A value with one of the texts. -/
def oneOf {α : Type} (choices : List (String × α)) (message : String) (value : Json) : Checked α :=
  match value with
  | .str text =>
      match choices.lookup text with
      | some choice => .ok choice
      | none => .error message
  | _ => .error message

/-- `${field} must be one of: …`. -/
def mustBeOneOf {α : Type} (choices : List (String × α)) (field : String) : String :=
  field ++ " must be one of: " ++ ", ".intercalate (choices.map Prod.fst)

def displayModes : List (String × PanelLayoutDisplayMode) :=
  [("table", .table), ("cards", .cards), ("summary", .summary), ("form-section", .formSection),
    ("timeline", .timeline), ("custom-slot", .customSlot)]

def dataBindings : List (String × PanelLayoutDataBinding) :=
  [("main", .main), ("relation", .relation), ("derived", .derived)]

def relationPanelModes : List (String × RelationPanelMode) :=
  [("relation_membership", .relationMembership), ("related_list", .relatedList),
    ("inline_required", .inlineRequired), ("inline_optional", .inlineOptional),
    ("embedded_form", .embeddedForm)]

def selectionControls : List (String × SelectionControl) :=
  [("checkbox", .checkbox), ("radio", .radio)]

def directions : List (String × ListViewSortDirection) := [("asc", .asc), ("desc", .desc)]

/-- `assertDataBindingValue`. -/
def assertDataBindingValue (field : String) (raw : Option Json) :
    Checked (Option PanelLayoutDataBinding) :=
  parseGiven (oneOf dataBindings (mustBeOneOf dataBindings field)) raw

/-- `assertRelationPanelModeValue`. -/
def assertRelationPanelModeValue (field : String) (raw : Option Json) :
    Checked (Option RelationPanelMode) :=
  parseGiven (oneOf relationPanelModes (mustBeOneOf relationPanelModes field)) raw

/-- `assertOptionalPlainObject`. -/
def assertOptionalPlainObject (field : String) (raw : Option Json) : Checked (Option Record) :=
  parseGiven (fun value => assertPlainObject value field) raw

/-- `assertOptionalPlainObjectOrAbsentEmptyArray`. -/
def assertOptionalPlainObjectOrAbsentEmptyArray (field : String) (raw : Option Json) :
    Checked (Option Record) :=
  match raw with
  | some (.arr []) => .ok none
  | some (.arr _) => .error (field
      ++ " must be a plain object when provided (empty array omits actions)")
  | raw => assertOptionalPlainObject field raw

/-- `assertOptionalPassthrough`. -/
def assertOptionalPassthrough (field : String) (raw : Option Json) :
    Checked (Option EmptyState) :=
  parseGiven (fun
    | .str text => .ok (.text text)
    | .obj fields => .ok (.object fields)
    | _ => .error (field ++ " must be a string or plain object")) raw

/-- The names of a layout in a mode; all that are not known are reported. -/
def refuseUnknownFor (mode : String) (layout : Record) (known : List String) : Checked Unit :=
  match unknownNames layout known with
  | [] => .ok ()
  | names => .error ("layout: unknown keys for " ++ mode ++ ": " ++ ", ".intercalate names)

/-- `assertStringArray`, of texts that are required. -/
def requiredStrings (field : String) (raw : Option Json) :
    Checked { items : List NonBlank // items ≠ [] } := do
  match ← assertStringArray field raw with
  | none => .error (field ++ " is required")
  | some items =>
      if notEmpty : items ≠ [] then pure ⟨items, notEmpty⟩
      else .error (field ++ " must be a non-empty array")

/-- `assertStringArray`, of texts that may be left out. -/
def optionalStrings (field : String) (raw : Option Json) : Checked (List NonBlank) := do
  let items ← assertStringArray field raw
  pure (items.getD [])

/-- The items of an array that has some where it is set. -/
def someWhenSet {α : Type} (message : String) (items : Option (List α)) : Checked (List α) :=
  match items with
  | none => .ok []
  | some [] => .error message
  | some items => .ok items

/-- The objects of an array that has some where it is set. -/
def objectsWhenSet (field : String) (raw : Option Json) : Checked (List Record) := do
  let items ← parseArray (fun i value => assertPlainObject value (place field i))
    (field ++ " must be an array") raw
  someWhenSet (field ++ " must be a non-empty array when set") items

/-- A text that is not blank where it is set. -/
def tokenWhenSet (field : String) (raw : Option Json) : Checked (Option Token) :=
  parseGiven (tokenText (field ++ " must be a non-empty string when set")) raw

/-- The labels with a label. -/
def setLabel (key label : Token) : List (Token × Token) → List (Token × Token)
  | [] => [(key, label)]
  | (other, old) :: rest =>
      if other = key then (key, label) :: rest else (other, old) :: setLabel key label rest

theorem mem_keys_setLabel {key label : Token} {labels : List (Token × Token)} {name : String}
    (member : name ∈ (setLabel key label labels).map fun label => label.1.1) :
    name = key.1 ∨ name ∈ labels.map fun label => label.1.1 := by
  induction labels with
  | nil => exact .inl (List.mem_singleton.mp member)
  | cons entry rest ih =>
      obtain ⟨other, old⟩ := entry
      unfold setLabel at member
      split at member
      · next same =>
          rw [same]
          exact .inr member
      · rcases List.mem_cons.mp member with rfl | inRest
        · exact .inr List.mem_cons_self
        · exact (ih inRest).imp_right (List.mem_cons_of_mem _)

theorem setLabel_distinct {key label : Token} {labels : List (Token × Token)}
    (distinct : (labels.map fun label => label.1.1).Nodup) :
    ((setLabel key label labels).map fun label => label.1.1).Nodup := by
  induction labels with
  | nil => exact List.nodup_singleton _
  | cons entry rest ih =>
      obtain ⟨other, old⟩ := entry
      obtain ⟨notInRest, restDistinct⟩ := List.nodup_cons.mp distinct
      unfold setLabel
      split
      · next same => exact same ▸ distinct
      · next different =>
          refine List.nodup_cons.mpr ⟨fun member => ?_, ih restDistinct⟩
          rcases mem_keys_setLabel member with same | inRest
          · exact different (Subtype.ext same)
          · exact notInRest inRest

theorem setLabel_ordinary {key label : Token} {labels : List (Token × Token)}
    (isField : key.1 ≠ prototypeName) (ordinary : ∀ label ∈ labels, label.1.1 ≠ prototypeName) :
    ∀ entry ∈ setLabel key label labels, entry.1.1 ≠ prototypeName := by
  intro entry member
  rcases mem_keys_setLabel (List.mem_map_of_mem member) with same | old
  · rw [same]
    exact isField
  · obtain ⟨other, isOther, sameKey⟩ := List.mem_map.mp old
    rw [← sameKey]
    exact ordinary other isOther

/-- No labels. -/
def noLabels : FieldLabels := ⟨[], List.nodup_nil, List.forall_mem_nil _⟩

/-- `normalizedLabels[key] = label`; what is assigned to the prototype is no label. -/
def assignLabel (labels : FieldLabels) (key label : Token) : FieldLabels :=
  if special : key.1 = prototypeName then labels
  else ⟨setLabel key label labels.labels, setLabel_distinct labels.distinct,
    setLabel_ordinary special labels.ordinary⟩

/-- The entries of `fieldLabelByKey`, one after the other. -/
def labelsFrom (labels : FieldLabels) : Record → Checked FieldLabels
  | [] => .ok labels
  | (key, label) :: rest =>
      match tokenOf key with
      | none => .error "layout.fieldLabelByKey keys must be non-empty strings"
      | some key => do
          let label ← tokenText ("layout.fieldLabelByKey." ++ key.1 ++ " must be a non-empty string")
            label
          labelsFrom (assignLabel labels key label) rest

/-- `normalizeFieldLabelByKeyMap`. -/
def normalizeFieldLabelByKeyMap (raw : Option Json) : Checked FieldLabels :=
  match raw with
  | none => .ok noLabels
  | some value => do
      let labels ← assertPlainObject value "layout.fieldLabelByKey"
      labelsFrom noLabels labels

/-- `layout.defaultSort`. -/
def parsePanelSort (value : Json) : Checked PanelSort := do
  let ds ← assertPlainObject value "layout.defaultSort"
  let field ← tokenText "layout.defaultSort.field is required" ((Record.get? ds "field").getD .null)
  let direction ← oneOf directions "layout.defaultSort.direction must be \"asc\" or \"desc\""
    ((Record.get? ds "direction").getD .null)
  refuseAllUnknown ds ["field", "direction"] "layout.defaultSort"
  pure ⟨field, direction⟩

def tableNames : List String :=
  ["columns", "rowActions", "bulkActions", "defaultSort", "relationKey", "targetEntityKey",
    "selectionControl", "fieldLabelByKey", "dataBinding", "relationPanelMode", "form", "list"]

/-- `validateLayoutForMode`, of a table. -/
def parseTableLayout (layout : Record) : Checked TableLayout := do
  refuseUnknownFor "table" layout tableNames
  let columns ← requiredStrings "layout.columns" (given layout "columns")
  let rowActions ← optionalStrings "layout.rowActions" (given layout "rowActions")
  let bulkActions ← optionalStrings "layout.bulkActions" (given layout "bulkActions")
  let defaultSort ← parseGiven parsePanelSort (given layout "defaultSort")
  let relationKey ← tokenWhenSet "layout.relationKey" (given layout "relationKey")
  let targetEntityKey ← tokenWhenSet "layout.targetEntityKey" (given layout "targetEntityKey")
  let selectionControl ← parseGiven (oneOf selectionControls
    "layout.selectionControl must be \"checkbox\" or \"radio\" when set")
    (given layout "selectionControl")
  let fieldLabelByKey ← normalizeFieldLabelByKeyMap (given layout "fieldLabelByKey")
  let dataBinding ← assertDataBindingValue "layout.dataBinding" (given layout "dataBinding")
  let relationPanelMode ← assertRelationPanelModeValue "layout.relationPanelMode"
    (given layout "relationPanelMode")
  let form ← assertOptionalPlainObject "layout.form" (given layout "form")
  let list ← assertOptionalPlainObject "layout.list" (given layout "list")
  pure ⟨columns.1, columns.2, rowActions, bulkActions, defaultSort, relationKey, targetEntityKey,
    selectionControl, fieldLabelByKey, dataBinding, relationPanelMode, form, list⟩

/-- `validateLayoutForMode`, of cards. -/
def parseCardsLayout (layout : Record) : Checked CardsLayout := do
  refuseUnknownFor "cards" layout ["cardFields", "groupBy", "badges", "fieldLabelByKey"]
  let cardFields ← requiredStrings "layout.cardFields" (given layout "cardFields")
  let groupBy ← tokenWhenSet "layout.groupBy" (given layout "groupBy")
  let badges ← assertOptionalPlainObject "layout.badges" (given layout "badges")
  let fieldLabelByKey ← normalizeFieldLabelByKeyMap (given layout "fieldLabelByKey")
  pure ⟨cardFields.1, cardFields.2, groupBy, badges, fieldLabelByKey⟩

/-- `validateLayoutForMode`, of a summary. -/
def parseSummaryLayout (layout : Record) : Checked SummaryLayout := do
  refuseUnknownFor "summary" layout ["metrics", "keyValueFields"]
  let keyValueFields ← optionalStrings "layout.keyValueFields" (given layout "keyValueFields")
  let metrics ← objectsWhenSet "layout.metrics" (given layout "metrics")
  if notEmpty : metrics ≠ [] ∨ keyValueFields ≠ [] then pure ⟨metrics, keyValueFields, notEmpty⟩
  else .error ("layout for summary requires non-empty layout.metrics and/or "
    ++ "layout.keyValueFields")

/-- `validateLayoutForMode`, of a section of a form. -/
def parseFormSectionLayout (layout : Record) : Checked FormSectionLayout := do
  refuseUnknownFor "form-section" layout
    ["sections", "fieldOrder", "relationKey", "targetEntityKey", "dataBinding"]
  let fieldOrder ← assertStringArray "layout.fieldOrder" (given layout "fieldOrder")
  let fieldOrder ← someWhenSet "layout.fieldOrder must be a non-empty array" fieldOrder
  let sections ← objectsWhenSet "layout.sections" (given layout "sections")
  if notEmpty : fieldOrder ≠ [] ∨ sections ≠ [] then do
    let relationKey ← tokenWhenSet "layout.relationKey" (given layout "relationKey")
    let targetEntityKey ← tokenWhenSet "layout.targetEntityKey" (given layout "targetEntityKey")
    let dataBinding ← assertDataBindingValue "layout.dataBinding" (given layout "dataBinding")
    pure ⟨fieldOrder, sections, notEmpty, relationKey, targetEntityKey, dataBinding⟩
  else .error ("layout for form-section requires non-empty layout.fieldOrder and/or "
    ++ "layout.sections")

/-- `validateLayoutForMode`, of a timeline. -/
def parseTimelineLayout (layout : Record) : Checked TimelineLayout := do
  refuseUnknownFor "timeline" layout ["timeField", "eventFields"]
  let timeField ← tokenText "layout.timeField is required for displayMode timeline"
    ((Record.get? layout "timeField").getD .null)
  let eventFields ← optionalStrings "layout.eventFields" (given layout "eventFields")
  pure ⟨timeField, eventFields⟩

/-- `validateLayoutForMode`, of a slot for a widget. -/
def parseCustomSlotLayout (layout : Record) : Checked CustomSlotLayout := do
  refuseUnknownFor "custom-slot" layout ["slotKey", "widgetRef", "inputBindings", "eventBindings"]
  let slotKey ← tokenText "layout.slotKey is required for displayMode custom-slot"
    ((Record.get? layout "slotKey").getD .null)
  let widgetRef ← tokenWhenSet "layout.widgetRef" (given layout "widgetRef")
  let inputBindings ← assertOptionalPlainObject "layout.inputBindings"
    (given layout "inputBindings")
  let eventBindings ← assertOptionalPlainObject "layout.eventBindings"
    (given layout "eventBindings")
  pure ⟨slotKey, widgetRef, inputBindings, eventBindings⟩

/-- `validateLayoutForMode`. -/
def validateLayoutForMode (displayMode : PanelLayoutDisplayMode) (layout : Record) :
    Checked PanelLayout :=
  match displayMode with
  | .table => .table <$> parseTableLayout layout
  | .cards => .cards <$> parseCardsLayout layout
  | .summary => .summary <$> parseSummaryLayout layout
  | .formSection => .formSection <$> parseFormSectionLayout layout
  | .timeline => .timeline <$> parseTimelineLayout layout
  | .customSlot => .customSlot <$> parseCustomSlotLayout layout

/-- `PANEL_LAYOUT_CONFIG_TOP_LEVEL_KEYS`. -/
def topLevelKeys : List String :=
  ["schemaVersion", "displayMode", "dataBinding", "layout", "actions", "style", "permissions",
    "pagination", "sort", "emptyState"]

/-- A value that has to be set. -/
def required (field : String) (raw : Option Json) : Checked Json :=
  match raw with
  | none => .error (field ++ " is required")
  | some value => .ok value

/-- `validateAndNormalizePanelLayoutConfigJson`. -/
def validateAndNormalizePanelLayoutConfigJson (value : Option Json) :
    Checked (Option PanelLayoutConfig) :=
  match value with
  | none | some .null => .ok none
  | some value => do
      let obj ← assertPlainObject value "layout_config"
      refuseUnknown obj topLevelKeys fun key =>
        "Unknown top-level key \"" ++ key ++ "\". Allowed: " ++ ", ".intercalate topLevelKeys
      let rawVersion ← required "schemaVersion" (given obj "schemaVersion")
      checkVersion rawVersion
      let displayModeRaw ← required "displayMode" (given obj "displayMode")
      let displayMode ← oneOf displayModes (mustBeOneOf displayModes "displayMode") displayModeRaw
      let dataBinding ← assertDataBindingValue "dataBinding" (given obj "dataBinding")
      let layoutRaw ← required "layout" (given obj "layout")
      let layoutIn ← assertPlainObject layoutRaw "layout"
      let layout ← validateLayoutForMode displayMode layoutIn
      let actions ← assertOptionalPlainObjectOrAbsentEmptyArray "actions" (given obj "actions")
      let style ← assertOptionalPlainObject "style" (given obj "style")
      let permissions ← assertOptionalPlainObject "permissions" (given obj "permissions")
      let pagination ← assertOptionalPlainObject "pagination" (given obj "pagination")
      let sort ← assertOptionalPlainObject "sort" (given obj "sort")
      let emptyState ← assertOptionalPassthrough "emptyState" (given obj "emptyState")
      pure (some ⟨layout, dataBinding, actions, style, permissions, pagination, sort, emptyState⟩)

/-! ## JSON -/

/-- The text of a choice. -/
def choiceText {α : Type} [DecidableEq α] (choices : List (String × α)) (choice : α) : String :=
  ((choices.find? fun entry => entry.2 == choice).map Prod.fst).getD ""

def choiceJson {α : Type} [DecidableEq α] (choices : List (String × α)) (choice : α) : Json :=
  .str (choiceText choices choice)

def labelsJson (labels : List (Token × Token)) : Record :=
  labels.map fun label => (label.1.1, tokenJson label.2)

/-- Labels, where there are some. -/
def fieldLabelsJson (labels : FieldLabels) : Option Json :=
  match labels.labels with
  | [] => none
  | labels => some (.obj (labelsJson labels))

def panelSortJson (sort : PanelSort) : Json :=
  .obj (entry "field" (some (tokenJson sort.field)) ++
    entry "direction" (some (choiceJson directions sort.direction)))

def tableFields (layout : TableLayout) : Record :=
  entry "columns" (some (arrayJson nonBlankJson layout.columns)) ++
    (entry "rowActions" (itemsJson nonBlankJson layout.rowActions) ++
    (entry "bulkActions" (itemsJson nonBlankJson layout.bulkActions) ++
    (entry "defaultSort" (layout.defaultSort.map panelSortJson) ++
    (entry "relationKey" (layout.relationKey.map tokenJson) ++
    (entry "targetEntityKey" (layout.targetEntityKey.map tokenJson) ++
    (entry "selectionControl" (layout.selectionControl.map (choiceJson selectionControls)) ++
    (entry "fieldLabelByKey" (fieldLabelsJson layout.fieldLabelByKey) ++
    (entry "dataBinding" (layout.dataBinding.map (choiceJson dataBindings)) ++
    (entry "relationPanelMode" (layout.relationPanelMode.map (choiceJson relationPanelModes)) ++
    (entry "form" (layout.form.map Json.obj) ++
      entry "list" (layout.list.map Json.obj)))))))))))

def cardsFields (layout : CardsLayout) : Record :=
  entry "cardFields" (some (arrayJson nonBlankJson layout.cardFields)) ++
    (entry "groupBy" (layout.groupBy.map tokenJson) ++
    (entry "badges" (layout.badges.map Json.obj) ++
      entry "fieldLabelByKey" (fieldLabelsJson layout.fieldLabelByKey)))

def summaryFields (layout : SummaryLayout) : Record :=
  entry "metrics" (itemsJson Json.obj layout.metrics) ++
    entry "keyValueFields" (itemsJson nonBlankJson layout.keyValueFields)

def formSectionFields (layout : FormSectionLayout) : Record :=
  entry "fieldOrder" (itemsJson nonBlankJson layout.fieldOrder) ++
    (entry "sections" (itemsJson Json.obj layout.sections) ++
    (entry "relationKey" (layout.relationKey.map tokenJson) ++
    (entry "targetEntityKey" (layout.targetEntityKey.map tokenJson) ++
      entry "dataBinding" (layout.dataBinding.map (choiceJson dataBindings)))))

def timelineFields (layout : TimelineLayout) : Record :=
  entry "timeField" (some (tokenJson layout.timeField)) ++
    entry "eventFields" (itemsJson nonBlankJson layout.eventFields)

def customSlotFields (layout : CustomSlotLayout) : Record :=
  entry "slotKey" (some (tokenJson layout.slotKey)) ++
    (entry "widgetRef" (layout.widgetRef.map tokenJson) ++
    (entry "inputBindings" (layout.inputBindings.map Json.obj) ++
      entry "eventBindings" (layout.eventBindings.map Json.obj)))

/-- The mode that a layout is displayed in. -/
def displayModeOf : PanelLayout → PanelLayoutDisplayMode
  | .table _ => .table
  | .cards _ => .cards
  | .summary _ => .summary
  | .formSection _ => .formSection
  | .timeline _ => .timeline
  | .customSlot _ => .customSlot

def layoutFields : PanelLayout → Record
  | .table layout => tableFields layout
  | .cards layout => cardsFields layout
  | .summary layout => summaryFields layout
  | .formSection layout => formSectionFields layout
  | .timeline layout => timelineFields layout
  | .customSlot layout => customSlotFields layout

def emptyStateJson : EmptyState → Json
  | .text text => .str text
  | .object fields => .obj fields

/-- The fields of a configuration. -/
def fields (config : PanelLayoutConfig) : Record :=
  entry "schemaVersion" (some (.num 1)) ++
    (entry "displayMode" (some (choiceJson displayModes (displayModeOf config.layout))) ++
    (entry "layout" (some (.obj (layoutFields config.layout))) ++
    (entry "dataBinding" (config.dataBinding.map (choiceJson dataBindings)) ++
    (entry "actions" (config.actions.map Json.obj) ++
    (entry "style" (config.style.map Json.obj) ++
    (entry "permissions" (config.permissions.map Json.obj) ++
    (entry "pagination" (config.pagination.map Json.obj) ++
    (entry "sort" (config.sort.map Json.obj) ++
      entry "emptyState" (config.emptyState.map emptyStateJson)))))))))

/-- The JSON of a configuration. -/
def toJson (config : PanelLayoutConfig) : Json := .obj config.fields

end PanelLayoutConfig

end CoreApi.ConfigObjects
