import CoreApi.ConfigObjects.PanelLayout

/-!
# Keyed maps

The manifests of a relationship and the labels of a layout are given by key, and are normalised
under the trimmed keys one after another. An entry is lost where a later one has its trimmed key,
or where the trimmed key names the prototype of the object.
-/

namespace CoreApi.ConfigObjects

open CoreApi.Foundation RelationAuthoring CheckedFields

namespace KeyedMaps

/-- `key.trim()`. -/
def trimmedKey (rawKey : String) : String := String.ofList (Json.trimmed rawKey)

/-- The values are normalised by their keys. -/
def Normalizes (normalizedValue : String → Json → Option Json) (given normalized : Record) : Prop :=
  List.Forall₂ (fun entry pair => pair.1 = trimmedKey entry.1 ∧
    normalizedValue (trimmedKey entry.1) entry.2 = some pair.2) given normalized

/-- Every entry that is given is there under its trimmed key, and no others are. -/
def Keeps (normalizedValue : String → Json → Option Json) (given out : Record) : Prop :=
  out.length = given.length ∧ ∀ entry ∈ given, ∃ value,
    normalizedValue (trimmedKey entry.1) entry.2 = some value ∧
      out.get? (trimmedKey entry.1) = some value

section

variable {normalizedValue : String → Json → Option Json} {given normalized : Record}

theorem Normalizes.names (normalizes : Normalizes normalizedValue given normalized) :
    normalized.names = given.map fun entry => trimmedKey entry.1 := by
  induction normalizes with
  | nil => rfl
  | cons head _ ih =>
      exact congrArg₂ List.cons head.1 ih

theorem Normalizes.exists_of_mem (normalizes : Normalizes normalizedValue given normalized)
    {entry : String × Json} (member : entry ∈ given) : ∃ value,
      normalizedValue (trimmedKey entry.1) entry.2 = some value ∧
        (trimmedKey entry.1, value) ∈ normalized := by
  induction normalizes with
  | nil => cases member
  | @cons first pair _ _ head _ ih =>
      rcases List.mem_cons.mp member with rfl | inRest
      · refine ⟨pair.2, head.2, ?_⟩
        rw [← head.1]
        exact List.mem_cons_self
      · obtain ⟨value, isValue, inPairs⟩ := ih inRest
        exact ⟨value, isValue, List.mem_cons_of_mem _ inPairs⟩

/-- No entry is lost exactly when the trimmed keys are apart. -/
theorem Normalizes.keeps_iff (normalizes : Normalizes normalizedValue given normalized) :
    Keeps normalizedValue given (Record.assignAll [] normalized) ↔
      Record.Apart (given.map fun entry => trimmedKey entry.1) := by
  have sameLength : normalized.length = given.length := (List.Forall₂.length_eq normalizes).symm
  rw [← normalizes.names, ← Record.length_assignAll_iff, Keeps, sameLength]
  refine and_iff_left_of_imp fun complete entry member => ?_
  have apart := Record.length_assignAll_iff.mp (complete.trans sameLength.symm)
  obtain ⟨value, isValue, inPairs⟩ := normalizes.exists_of_mem member
  refine ⟨value, isValue, ?_⟩
  rw [@Record.assignAll_of_apart [] normalized apart]
  exact lookup_of_mem apart.1 inPairs

end

/-! ## The maps -/

/-- An entry of manifests, as it is normalised. -/
def manifestValue (key : String) : Json → Option Json
  | .obj block => (normalizedEntry key block).toOption.map Json.obj
  | _ => none

/-- A label, as it is normalised. -/
def labelValue (_ : String) (value : Json) : Option Json := (trimmedText value).map Json.str

/-- A map by key that is given: `relationManifestsByKey`, or the `fieldLabelByKey` of a layout. -/
inductive KeyedMap where
  | manifests (relationManifestsByKey : Record)
  | tableLabels (layout : Record)
  | cardsLabels (layout : Record)

/-- The entries of an object. -/
def entriesOf : Option Json → Option Record
  | some (.obj fields) => some fields
  | _ => none

/-- The entries that are given. -/
def KeyedMap.given : KeyedMap → Option Record
  | .manifests relationManifestsByKey => some relationManifestsByKey
  | .tableLabels layout | .cardsLabels layout => entriesOf (Record.get? layout "fieldLabelByKey")

/-- An entry as it is normalised. -/
def KeyedMap.normalizedValue : KeyedMap → String → Json → Option Json
  | .manifests _ => manifestValue
  | .tableLabels _ | .cardsLabels _ => labelValue

/-- The labels of a layout that passes in its mode. -/
def normalizedLabels (displayMode : PanelLayoutDisplayMode) (layout : Record) : Checked Record := do
  let layout ← PanelLayoutConfig.validateLayoutForMode displayMode layout
  pure ((entriesOf
    (Record.get? (PanelLayoutConfig.layoutFields layout) "fieldLabelByKey")).getD [])

/-- The normalised map, without entries where it is left out. -/
def KeyedMap.normalized : KeyedMap → Checked Record
  | .manifests relationManifestsByKey => do
      let out ← validateAndNormalizeRelationManifestsByKey (.obj relationManifestsByKey)
      pure ((entriesOf out).getD [])
  | .tableLabels layout => normalizedLabels .table layout
  | .cardsLabels layout => normalizedLabels .cards layout

/-! ## What the loops assign -/

theorem normalizes_of_normalizedEntries {fields before after : Record}
    (checked : normalizedEntries fields before = .ok after) :
    ∃ pairs, Normalizes manifestValue fields pairs ∧ after = before.assignAll pairs := by
  induction fields generalizing before with
  | nil =>
      cases checked
      exact ⟨[], .nil, rfl⟩
  | cons field rest ih =>
      obtain ⟨rawKey, value⟩ := field
      unfold normalizedEntries at checked
      split at checked
      · cases checked
      · obtain ⟨block, isBlock, checked⟩ := bind_eq_ok.mp checked
        obtain ⟨entry, isEntry, checked⟩ := bind_eq_ok.mp checked
        obtain ⟨pairs, normalizes, isAfter⟩ := ih checked
        refine ⟨(trimmedKey rawKey, .obj entry) :: pairs, .cons ⟨rfl, ?_⟩ normalizes, isAfter⟩
        unfold assertPlainObject at isBlock
        split at isBlock
        · cases isBlock
          change normalizedEntry (trimmedKey rawKey) block = .ok entry at isEntry
          rw [manifestValue, isEntry]
          rfl
        · cases isBlock

open PanelLayoutConfig

theorem labelsJson_setLabel (key label : Token) (labels : List (Token × Token)) :
    labelsJson (setLabel key label labels) = (labelsJson labels).set key.1 (tokenJson label) := by
  induction labels with
  | nil => rfl
  | cons entry rest ih =>
      obtain ⟨other, old⟩ := entry
      have cons : labelsJson ((other, old) :: rest) =
        (other.1, tokenJson old) :: labelsJson rest := rfl
      rw [cons, setLabel, Record.set]
      by_cases same : other = key
      · rw [if_pos same, if_pos (congrArg Subtype.val same)]
        rfl
      · rw [if_neg same, if_neg fun sameText => same (Subtype.ext sameText), ← ih]
        rfl

theorem labelsJson_assignLabel (labels : FieldLabels) (key label : Token) :
    labelsJson (assignLabel labels key label).labels =
      (labelsJson labels.labels).assign key.1 (tokenJson label) := by
  unfold assignLabel Record.assign
  split
  · rfl
  · exact labelsJson_setLabel key label labels.labels

theorem tokenOf_eq_some {text : String} {token : Token} (isToken : tokenOf text = some token) :
    token.1 = trimmedKey text ∧ Json.trimmed text ≠ [] := by
  unfold tokenOf at isToken
  split at isToken
  · cases isToken
  · next notBlank =>
      cases isToken
      exact ⟨rfl, notBlank⟩

theorem labelValue_of_tokenText {message key : String} {value : Json} {label : Token}
    (checked : tokenText message value = .ok label) :
    labelValue key value = some (tokenJson label) := by
  unfold tokenText at checked
  split at checked
  · next text =>
      split at checked
      · next token isToken =>
          cases checked
          obtain ⟨isTrimmed, notBlank⟩ := tokenOf_eq_some isToken
          rw [labelValue, trimmedText, tokenJson, isTrimmed]
          rcases letters : Json.trimmed text with _ | ⟨first, rest⟩
          · exact absurd letters notBlank
          · rw [trimmedKey, letters]
            rfl
      · cases checked
  · cases checked

theorem normalizes_of_labelsFrom {fields : Record} {labels out : FieldLabels}
    (checked : labelsFrom labels fields = .ok out) :
    ∃ pairs, Normalizes labelValue fields pairs ∧
      labelsJson out.labels = (labelsJson labels.labels).assignAll pairs := by
  induction fields generalizing labels with
  | nil =>
      cases checked
      exact ⟨[], .nil, rfl⟩
  | cons field rest ih =>
      obtain ⟨rawKey, value⟩ := field
      unfold labelsFrom at checked
      split at checked
      · cases checked
      · next key isKey =>
          obtain ⟨label, isLabel, checked⟩ := bind_eq_ok.mp checked
          obtain ⟨pairs, normalizes, isOut⟩ := ih checked
          rw [labelsJson_assignLabel] at isOut
          exact ⟨(key.1, tokenJson label) :: pairs,
            .cons ⟨(tokenOf_eq_some isKey).1, labelValue_of_tokenText isLabel⟩ normalizes, isOut⟩

theorem entriesOf_objectOrNull (out : Record) : (entriesOf (objectOrNull out)).getD [] = out := by
  cases out with
  | nil => rfl
  | cons first rest => rfl

theorem entriesOf_fieldLabelsJson (labels : FieldLabels) :
    (entriesOf (fieldLabelsJson labels)).getD [] = labelsJson labels.labels := by
  unfold fieldLabelsJson
  split
  · next none => rw [none]; rfl
  · rfl

theorem labels_of_layout {displayMode : PanelLayoutDisplayMode} {layout : Record}
    {normalized : PanelLayout} (labelled : displayMode = .table ∨ displayMode = .cards)
    (checked : validateLayoutForMode displayMode layout = .ok normalized) :
    ∃ labels, normalizeFieldLabelByKeyMap (given layout "fieldLabelByKey") = .ok labels ∧
      Record.get? (layoutFields normalized) "fieldLabelByKey" = fieldLabelsJson labels := by
  rcases labelled with rfl | rfl
  · obtain ⟨table, isTable, rfl⟩ := map_eq_ok.mp checked
    unfold parseTableLayout at isTable
    iterate 8 obtain ⟨_, _, isTable⟩ := bind_eq_ok.mp isTable
    obtain ⟨labels, isLabels, isTable⟩ := bind_eq_ok.mp isTable
    iterate 4 obtain ⟨_, _, isTable⟩ := bind_eq_ok.mp isTable
    cases isTable
    exact ⟨labels, isLabels, by simp [layoutFields, tableFields, get?_entry_append, get?_entry]⟩
  · obtain ⟨cards, isCards, rfl⟩ := map_eq_ok.mp checked
    unfold parseCardsLayout at isCards
    iterate 4 obtain ⟨_, _, isCards⟩ := bind_eq_ok.mp isCards
    obtain ⟨labels, isLabels, isCards⟩ := bind_eq_ok.mp isCards
    cases isCards
    exact ⟨labels, isLabels, by simp [layoutFields, cardsFields, get?_entry_append, get?_entry]⟩

theorem normalizes_of_normalizedLabels {displayMode : PanelLayoutDisplayMode}
    {layout fields out : Record} (labelled : displayMode = .table ∨ displayMode = .cards)
    (isGiven : entriesOf (Record.get? layout "fieldLabelByKey") = some fields)
    (checked : normalizedLabels displayMode layout = .ok out) :
    ∃ pairs, Normalizes labelValue fields pairs ∧ out = Record.assignAll [] pairs := by
  obtain ⟨normalized, isNormalized, checked⟩ := bind_eq_ok.mp checked
  cases checked
  obtain ⟨labels, isLabels, areStored⟩ := labels_of_layout labelled isNormalized
  have isObject : given layout "fieldLabelByKey" = some (.obj fields) := by
    unfold entriesOf at isGiven
    split at isGiven
    · next _ found =>
        cases isGiven
        rw [given, found]
    · cases isGiven
  rw [isObject] at isLabels
  obtain ⟨pairs, normalizes, areLabels⟩ := normalizes_of_labelsFrom isLabels
  refine ⟨pairs, normalizes, ?_⟩
  rw [areStored, entriesOf_fieldLabelsJson, areLabels]
  rfl

/-- What passes is what the loop assigns. -/
theorem normalizes_of_normalized {map : KeyedMap} {fields out : Record}
    (isGiven : map.given = some fields) (checked : map.normalized = .ok out) :
    ∃ pairs, Normalizes map.normalizedValue fields pairs ∧ out = Record.assignAll [] pairs := by
  cases map with
  | manifests relationManifestsByKey =>
      cases isGiven
      obtain ⟨stored, isStored, checked⟩ := bind_eq_ok.mp checked
      unfold validateAndNormalizeRelationManifestsByKey at isStored
      obtain ⟨obj, isObj, isStored⟩ := bind_eq_ok.mp isStored
      cases isObj
      obtain ⟨entries, areEntries, isStored⟩ := bind_eq_ok.mp isStored
      cases isStored
      cases checked
      rw [entriesOf_objectOrNull]
      exact normalizes_of_normalizedEntries areEntries
  | tableLabels layout => exact normalizes_of_normalizedLabels (.inl rfl) isGiven checked
  | cardsLabels layout => exact normalizes_of_normalizedLabels (.inr rfl) isGiven checked

/-- A map by key that passes keeps all its entries exactly when the trimmed keys are apart, and none
of them names the prototype. -/
theorem keyedMap_keeps_iff (map : KeyedMap) (fields out : Record)
    (isGiven : map.given = some fields) (checked : map.normalized = .ok out) :
    Keeps map.normalizedValue fields out ↔
      Record.Apart (fields.map fun entry => trimmedKey entry.1) := by
  obtain ⟨pairs, normalizes, rfl⟩ := normalizes_of_normalized isGiven checked
  exact normalizes.keeps_iff

/-- Two labels of a table, one with blanks around its key. -/
def statusLabels : Record := [(" status ", .str "State"), ("owner", .str " Owner ")]

/-- Both labels are there, trimmed. -/
theorem keyedMap_keeps_statusLabels :
    Keeps labelValue statusLabels [("status", .str "State"), ("owner", .str "Owner")] :=
  (keyedMap_keeps_iff (.tableLabels [("columns", .arr [.str "status"]),
    ("fieldLabelByKey", .obj statusLabels)]) statusLabels
    [("status", .str "State"), ("owner", .str "Owner")] rfl (by decide)).mpr (by decide)

/-- Manifests of tasks, under keys that differ in a blank. -/
def spelledTwice : Record :=
  [("tasks", .obj [("mode", .str "related_list")]), (" tasks", .obj [("dataRef", .str "api.get")])]

/-- The first of the two is lost. -/
theorem spelledTwice_lost :
    (KeyedMap.manifests spelledTwice).normalized =
        .ok [("tasks", .obj [("dataRef", .str "api.get")])] ∧
      ¬Keeps manifestValue spelledTwice [("tasks", .obj [("dataRef", .str "api.get")])] :=
  ⟨by decide, fun keeps => absurd keeps.1 (by decide)⟩

-- The prototype takes an entry that passes.
example : (KeyedMap.manifests [("__proto__", .obj [("mode", .str "related_list")])]).normalized =
    .ok [] := by decide

end KeyedMaps

end CoreApi.ConfigObjects
