import CoreApi.Foundation.ObjectEntries
import CoreApi.Foundation.Program

/-!
# Authored relations

What is checked and normalised before the query and the manifests of a relationship
are stored: the inline relation of a query, and the manifests that an object gives by
relation. An entry that passes has known names only.
-/

namespace CoreApi.ConfigObjects

open CoreApi.Foundation

namespace RelationAuthoring

/-- A `RelationAuthoringValidationError` has its message. -/
abbrev Checked (α : Type) := Except String α

def assertPlainObject (value : Json) (label : String) : Checked Record :=
  match value with
  | .obj fields => .ok fields
  | _ => .error (label ++ " must be a plain object")

/-- A text that is not blank, trimmed. -/
def trimmedText : Json → Option String
  | .str text =>
      match Json.trimmed text with
      | [] => none
      | letters => some (String.ofList letters)
  | _ => none

/-- The text has the part somewhere. -/
def includesText (text part : List Char) : Bool := text.tails.any fun tail => part.isPrefixOf tail

/-- `assertRefToken`; an address with a scheme includes `://` as well. -/
def assertRefToken (value : Json) (label : String) : Checked String :=
  match trimmedText value with
  | none => .error (label ++ " must be a non-empty string")
  | some token =>
      if includesText token.toList "://".toList = true then
        .error (label ++ " must be a ref token, not a URL")
      else .ok token

/-- The characters that `[A-Za-z0-9_]` matches. -/
def isWordChar (c : Char) : Bool := c.isAlphanum || c == '_'

/-- `/^api\.[A-Za-z0-9_]+$/`. -/
def isManifestApiKey (token : String) : Bool :=
  match token.toList with
  | 'a' :: 'p' :: 'i' :: '.' :: name => !name.isEmpty && name.all isWordChar
  | _ => false

def assertManifestApiKeyRef (value : Json) (label : String) : Checked String := do
  let token ← assertRefToken value label
  if isManifestApiKey token = true then pure token
  else .error (label ++ " must be a manifest api key like \"api.get\" (got \"" ++ token ++ "\")")

/-- One of the texts. -/
def assertOneOf (texts : List String) (message : String) (value : Json) : Checked Json :=
  match value with
  | .str text => if text ∈ texts then .ok (.str text) else .error message
  | _ => .error message

def nonBlank (message : String) (value : Json) : Checked Json :=
  match trimmedText value with
  | none => .error message
  | some text => .ok (.str text)

/-! ## The query of a relationship -/

def INLINE_MODES : List String := ["inline_required", "inline_optional", "separate_step"]

/-- The object without a field. -/
def withoutField (fields : Record) (name : String) : Record :=
  fields.filter fun entry => entry.1 != name

/-- The path of an inline relation, where one is set. -/
def inlinePath (path : Option Json) : Checked Record :=
  match path with
  | none | some .null => .ok []
  | some value =>
      match trimmedText value with
      | none =>
          .error "queryConfig.inlineRelation.path must be a non-empty string when set"
      | some text => .ok [("path", .str text)]

/-- The names of an object that are not among the known ones. -/
def unknownNames (fields : Record) (known : List String) : List String :=
  fields.names.filter fun name => !known.contains name

/-- `normalizeQueryConfigInlineRelation`. -/
def normalizeQueryConfigInlineRelation (queryConfig : Record) : Checked Record :=
  match queryConfig.get? "inlineRelation" with
  | none | some .null => .ok (withoutField queryConfig "inlineRelation")
  | some raw => do
      let o ← assertPlainObject raw "queryConfig.inlineRelation"
      let mode ← assertOneOf INLINE_MODES ("queryConfig.inlineRelation.mode must be one of: "
        ++ ", ".intercalate INLINE_MODES) ((o.get? "mode").getD .null)
      let path ← inlinePath (o.get? "path")
      match unknownNames o ["mode", "path"] with
      | [] => pure (queryConfig.set "inlineRelation" (.obj ([("mode", mode)] ++ path)))
      | extra => .error ("queryConfig.inlineRelation: unknown keys: " ++ ", ".intercalate extra)

/-! ## The manifests of a relationship -/

def RELATION_MANIFEST_MODES : List String :=
  ["relation_membership", "related_list", "inline_required", "inline_optional", "embedded_form"]

def RELATION_MANIFEST_DISPLAY_MODES : List String :=
  ["table", "cards", "summary", "form-section", "timeline", "custom-slot"]

/-- The names that an entry may have. -/
def allowedNames : List String :=
  ["dataRef", "actionRef", "mode", "targetEntityKey", "displayMode", "selectionControl", "columns",
    "queryDefaults", "actions"]

/-- A field that is checked where it is set. -/
def withField (block : Record) (name : String) (normalized : Json → Checked Json)
    (entry : Record) : Checked Record :=
  match block.get? name with
  | none | some .null => .ok entry
  | some value => do
      let value ← normalized value
      pure (entry.set name value)

/-- The items of `columns`, from a place on. -/
def columnsFrom (label : String) : Nat → List Json → Checked (List Json)
  | _, [] => .ok []
  | index, column :: rest => do
      let column ← nonBlank (label ++ "[" ++ Nat.repr index ++ "] must be a non-empty string") column
      let rest ← columnsFrom label (index + 1) rest
      pure (column :: rest)

def normalizedColumns (label : String) (value : Json) : Checked Json :=
  match value with
  | .arr (column :: rest) => do
      let columns ← columnsFrom label 0 (column :: rest)
      pure (.arr columns)
  | _ => .error (label ++ " must be a non-empty array when set")

/-- The fields of an entry, each as far as it goes by itself. -/
def entryFields (label : String) (block : Record) : Checked Record := do
  let entry ← withField block "dataRef"
    (fun value => Json.str <$> assertRefToken value (label ++ ".dataRef")) []
  let entry ← withField block "actionRef"
    (fun value => Json.str <$> assertRefToken value (label ++ ".actionRef")) entry
  let entry ← withField block "mode"
    (assertOneOf RELATION_MANIFEST_MODES
      (label ++ ".mode must be one of: " ++ ", ".intercalate RELATION_MANIFEST_MODES)) entry
  let entry ← withField block "targetEntityKey"
    (nonBlank (label ++ ".targetEntityKey must be a non-empty string when set")) entry
  let entry ← withField block "displayMode"
    (assertOneOf RELATION_MANIFEST_DISPLAY_MODES (label ++ ".displayMode must be one of: "
      ++ ", ".intercalate RELATION_MANIFEST_DISPLAY_MODES)) entry
  let entry ← withField block "selectionControl"
    (assertOneOf ["checkbox", "radio"]
      (label ++ ".selectionControl must be \"checkbox\" or \"radio\" when set")) entry
  let entry ← withField block "columns" (normalizedColumns (label ++ ".columns")) entry
  let entry ← withField block "queryDefaults"
    (fun value => Json.obj <$> assertPlainObject value (label ++ ".queryDefaults")) entry
  withField block "actions"
    (fun value => Json.obj <$> assertPlainObject value (label ++ ".actions")) entry

/-- A field that must be there. -/
def required (entry : Record) (name message : String) : Checked Unit :=
  match entry.get? name with
  | none => .error message
  | some _ => .ok ()

def requiredText (entry : Record) (name text message : String) : Checked Unit :=
  if entry.get? name = some (.str text) then .ok () else .error message

/-- What an entry of mode `relation_membership` must have, with its default. -/
def membershipEntry (label : String) (entry : Record) : Checked Record := do
  required entry "targetEntityKey"
    (label ++ ".targetEntityKey is required for mode relation_membership")
  requiredText entry "displayMode" "table"
    (label ++ ".displayMode must be \"table\" for mode relation_membership")
  required entry "columns" (label ++ ".columns is required for mode relation_membership")
  match entry.get? "selectionControl" with
  | none => pure (entry.set "selectionControl" (.str "checkbox"))
  | some _ => pure entry

/-- The references that the actions of an embedded form may have. -/
def actionRefNames : List String := ["upsertRef", "createRef", "updateRef", "loadRef"]

/-- The references among the actions are keys of the manifest. -/
def normalizedActions (label : String) : List String → Record → Checked Record
  | [], actions => .ok actions
  | name :: rest, actions => do
      let actions ← withField actions name
        (fun value => Json.str <$> assertManifestApiKeyRef value (label ++ ".actions." ++ name))
        actions
      normalizedActions label rest actions

/-- The actions can write: they upsert, or they create and update. -/
def canWrite (actions : Record) : Bool :=
  let isSet (name : String) : Bool :=
    match actions.get? name with
    | some (.str text) => text != ""
    | _ => false
  isSet "upsertRef" || (isSet "createRef" && isSet "updateRef")

/-- The actions of an embedded form. -/
def embeddedActions (label : String) (entry : Record) : Checked Record :=
  match entry.get? "actions" with
  | some (.obj actions) => do
      let actions ← normalizedActions label actionRefNames actions
      if canWrite actions = true then pure (entry.set "actions" (.obj actions))
      else .error (label ++ ".actions must include upsertRef or both createRef and updateRef "
        ++ "for mode embedded_form")
  | _ => .error (label ++ ".actions is required for mode embedded_form")

/-- What an entry of mode `embedded_form` must have. -/
def embeddedFormEntry (label : String) (entry : Record) : Checked Record := do
  required entry "targetEntityKey"
    (label ++ ".targetEntityKey is required for mode embedded_form")
  requiredText entry "displayMode" "form-section"
    (label ++ ".displayMode must be \"form-section\" for mode embedded_form")
  embeddedActions label entry

/-- What the mode of an entry asks of it. -/
def entryOfMode (label : String) (entry : Record) : Checked Record :=
  match entry.get? "mode" with
  | some (.str "relation_membership") => membershipEntry label entry
  | some (.str "embedded_form") => embeddedFormEntry label entry
  | _ => .ok entry

/-- An entry names its data, its action or its mode. -/
def checkEntry (label : String) (entry : Record) : Checked Unit :=
  if ["dataRef", "actionRef", "mode"].all (fun name => (entry.get? name).isNone) = true then
    .error (label ++ " must set at least one of dataRef, actionRef, mode")
  else .ok ()

/-- One entry of the object, under its key. -/
def normalizedEntry (key : String) (block : Record) : Checked Record := do
  let label := "relationManifestsByKey." ++ key
  match unknownNames block allowedNames with
  | [] => do
      let entry ← entryFields label block
      checkEntry label entry
      entryOfMode label entry
  | unknown => .error (label ++ ": unknown keys: " ++ ", ".intercalate unknown)

/-- The entries of the object, each over those before it. -/
def normalizedEntries : List (String × Json) → Record → Checked Record
  | [], out => .ok out
  | (rawKey, value) :: rest, out =>
      match Json.trimmed rawKey with
      | [] => .error "relationManifestsByKey contains an empty key"
      | letters => do
          let block ← assertPlainObject value ("relationManifestsByKey." ++ rawKey)
          let entry ← normalizedEntry (String.ofList letters) block
          normalizedEntries rest (out.assign (String.ofList letters) (.obj entry))

/-- An object, unless it is empty. -/
def objectOrNull : Record → Option Json
  | [] => none
  | fields => some (.obj fields)

/-- `validateAndNormalizeRelationManifestsByKey`; no object is stored as null. -/
def validateAndNormalizeRelationManifestsByKey (value : Json) : Checked (Option Json) :=
  match value with
  | .null => .ok none
  | _ => do
      let obj ← assertPlainObject value "relationManifestsByKey"
      let out ← normalizedEntries obj []
      pure (objectOrNull out)

end RelationAuthoring

end CoreApi.ConfigObjects
