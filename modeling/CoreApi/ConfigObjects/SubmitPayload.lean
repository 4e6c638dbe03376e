import CoreApi.ConfigObjects.ConfigRelationships
import CoreApi.ConfigObjects.FieldRegistry
import Mathlib.Algebra.Group.Int.Defs

/-!
# Payloads of submissions

A request gives values to the fields of a type and blocks to its relations; they are put
together to the payload of a write, each at its path or under its key. A request that names
a field which it may not write, or leaves out what is required, is turned down. Holes of
arrays are `null`, and properties of arrays that are not items are left out, as JSON does.
-/

namespace CoreApi.ConfigObjects

open CoreApi.Foundation ObjectDesign

/-! ## Paths -/

/-- `path.replace(/\[(\d+)\]/g, '.$1')`; the digits that follow a bracket wait until it is closed,
the last of them first. -/
def dotted : Option (List Char) → List Char → List Char
  | none, [] => []
  | some digits, [] => '[' :: digits.reverse
  | none, '[' :: rest => dotted (some []) rest
  | none, c :: rest => c :: dotted none rest
  | some digits, '[' :: rest => '[' :: (digits.reverse ++ dotted (some []) rest)
  | some digits, c :: rest =>
      if c.isDigit = true then dotted (some (c :: digits)) rest
      else if c = ']' ∧ digits ≠ [] then '.' :: (digits.reverse ++ dotted none rest)
      else '[' :: (digits.reverse ++ c :: dotted none rest)

/-- The segments of a path. -/
def pathSegments (path : String) : List String :=
  (((dotted none path.toList).splitOn '.').map fun segment =>
    String.ofList (Json.trimmed (String.ofList segment))).filter fun segment => segment ≠ ""

/-- `Number.isInteger(Number(segment)) && String(Number(segment)) === segment`. -/
def arrayIndexOf (segment : String) : Option Int :=
  (Json.numberOfText segment).filter fun idx => toString idx == segment && idx.natAbs ≤ 2 ^ 53

/-- An integer at which an array has an item; at others it has a property of that name. -/
def isItem (idx : Int) : Bool := decide (0 ≤ idx ∧ idx < 2 ^ 32 - 1)

/-- `cursor[idx]`, where nothing is `null`. -/
def itemAt (items : List Json) (idx : Int) : Json :=
  if isItem idx = true then items[idx.toNat]?.getD .null else .null

/-- `cursor[idx] = value`, where it is an item. -/
def withItem (items : List Json) (idx : Int) (value : Json) : List Json :=
  if isItem idx = true then
    (items ++ List.replicate (idx.toNat + 1 - items.length) Json.null).set idx.toNat value
  else items

/-- What a segment leads to; where there is nothing, what the next segment needs. -/
def orFresh (next : String) : Json → Json
  | .null => if (arrayIndexOf next).isSome = true then .arr [] else .obj []
  | found => found

/-- `setValueAtPath`, from a cursor; none where a property of a primitive value is assigned. -/
def setBelow (value : Json) : List String → Json → Option Json
  | [], cursor => some cursor
  | [last], cursor =>
      match arrayIndexOf last, cursor with
      | some idx, .arr items => some (.arr (withItem items idx value))
      | some _, cursor => some cursor
      | none, .obj fields => some (.obj (Record.set fields last value))
      | none, .arr items => some (.arr items)
      | none, _ => none
  | segment :: next :: rest, cursor =>
      match arrayIndexOf segment, cursor with
      | some idx, .arr items =>
          (setBelow value (next :: rest) (orFresh next (itemAt items idx))).map fun child =>
            .arr (withItem items idx child)
      | some _, cursor => some cursor
      | none, .obj fields =>
          (setBelow value (next :: rest)
            (orFresh next ((Record.get? fields segment).getD .null))).map fun child =>
              .obj (Record.set fields segment child)
      | none, .arr items => some (.arr items)
      | none, _ => none

/-- `setValueAtPath`; the target stays an object. -/
def setValueAtPath (target : Record) (path : String) (value : Json) : Option Record :=
  match setBelow value (pathSegments path) (.obj target) with
  | some (.obj fields) => some fields
  | _ => none

/-! ## Inline relations -/

/-- The `inlineRelation` of a relation, where it is an object. -/
def inlineRelationOf (rel : RelationCatalogDescriptor) : Record :=
  match rel.queryConfig.get? "inlineRelation" with
  | some (.obj inlineRelation) => inlineRelation
  | _ => []

/-- `getInlineRelationPath`. -/
def getInlineRelationPath (rel : RelationCatalogDescriptor) : String :=
  match (inlineRelationOf rel).get? "path" with
  | some (.str path) =>
      if Json.trimmed path ≠ [] then String.ofList (Json.trimmed path) else rel.relationshipKey
  | _ => rel.relationshipKey

/-- `isInlineRequiredRelation`. -/
def isInlineRequiredRelation (rel : RelationCatalogDescriptor) : Bool :=
  decide ((inlineRelationOf rel).get? "mode" = some (.str "inline_required"))

/-! ## Submissions -/

/-- `'create' | 'update'`. -/
inductive SubmitOperation where
  | create | update
deriving DecidableEq

def SubmitOperation.text : SubmitOperation → String
  | .create => "create"
  | .update => "update"

/-- Why a submission is turned down. -/
inductive SubmitError where
  | design (error : DesignError)
  | invalidDescriptor (properties : List String)
  | typeError
deriving DecidableEq

/-- The configuration with the rules of its fields. -/
structure SubmitDb extends RelationDb where
  fieldRules : Table ConfigObjectFieldRuleEntity
  /-- `uq_config_field_key_per_object`. -/
  fieldKeysDistinct : ∀ field ∈ configFields.rows, ∀ other ∈ configFields.rows,
    field.configObjectId = other.configObjectId → field.fieldKey = other.fieldKey → field = other

/-- What submissions rest on; fields are read in an order. -/
structure SubmitServices extends RelationServices where
  metadata : FieldMetadata
  reorders : ∀ fields, (orderFields fields).Perm fields

/-- `RuntimeComposedSubmitPayloadView`. -/
structure RuntimeComposedSubmitPayloadView where
  entityKey : String
  tenantId : Option Nat
  operation : SubmitOperation
  payload : Record
deriving DecidableEq

namespace SubmitOperation

/-- `isAllowed`. -/
def allows (operation : SubmitOperation) (descriptor : CoreFieldDescriptor) : Bool :=
  match operation with
  | .create => descriptor.canCreate != some false
  | .update => descriptor.canUpdate != some false

/-- `required`. -/
def requires (operation : SubmitOperation) (descriptor : CoreFieldDescriptor) : Bool :=
  match operation with
  | .create => descriptor.requiredOnCreate == some true
  | .update => descriptor.requiredOnUpdate == some true

end SubmitOperation

section

variable (fieldRegistry : List CoreFieldDescriptor) (operation : SubmitOperation)

/-- The payload with a value of the request. -/
def withFieldValue (payload : Record) (entry : String × Json) : Option Record :=
  match descriptorOf fieldRegistry entry.1 with
  | none => some payload
  | some descriptor =>
      if operation.allows descriptor = false then some payload
      else
        match descriptor.path.filter fun path => Json.trimmed path ≠ [] with
        | some path => setValueAtPath payload path entry.2
        | none => some (payload.set entry.1 entry.2)

/-- The fields of a request that it may not write. -/
def deniedFields (fieldValues : Record) : List String :=
  fieldValues.names.filter fun fieldKey =>
    (descriptorOf fieldRegistry fieldKey).any fun descriptor => !operation.allows descriptor

/-- The fields that a request has to give and leaves out. -/
def missingRequiredFields (fieldValues : Record) : List String :=
  ((fieldRegistry.filter operation.requires).map CoreFieldDescriptor.fieldKey).filter
    fun fieldKey => !fieldValues.names.contains fieldKey

end

/-- The payload with the block of a relation. -/
def withRelationBlock (relationBlocks : Record) (payload : Record)
    (rel : RelationCatalogDescriptor) : Option Record :=
  match relationBlocks.get? rel.relationshipKey with
  | none => some payload
  | some block => setValueAtPath payload (getInlineRelationPath rel) block

/-- The relations that a request has to give and leaves out. -/
def missingRequiredRelations (relations : List RelationCatalogDescriptor)
    (relationBlocks : Record) : List String :=
  (relations.filter fun rel =>
    isInlineRequiredRelation rel && (relationBlocks.get? rel.relationshipKey).isNone).map
      RelationCatalogDescriptor.relationshipKey

/-- What a request is turned down for, if it is. -/
def refuseUnless (names : List String) (code message : String) : Except SubmitError Unit :=
  if names = [] then .ok ()
  else .error (.design (.authoring code (message ++ ", ".intercalate names)))

/-- What an assignment leaves, or the `TypeError` that it raises. -/
def assigned (payload : Option Record) : Except SubmitError Record :=
  match payload with
  | some payload => .ok payload
  | none => .error .typeError

/-- The payload of a request over a registry and relations. -/
def composePayload (fieldRegistry : List CoreFieldDescriptor)
    (relations : List RelationCatalogDescriptor) (operation : SubmitOperation)
    (fieldValues relationBlocks : Record) : Except SubmitError Record := do
  let payload ← assigned (fieldValues.foldlM (withFieldValue fieldRegistry operation) [])
  refuseUnless (deniedFields fieldRegistry operation fieldValues)
    "SIX1_RUNTIME_SUBMIT_FIELD_FORBIDDEN"
    ("Payload includes non-writable fields for " ++ operation.text ++ ": ")
  refuseUnless (missingRequiredFields fieldRegistry operation fieldValues)
    "SIX1_RUNTIME_SUBMIT_REQUIRED_FIELD_MISSING"
    ("Missing required fields for " ++ operation.text ++ ": ")
  let payload ← assigned (relations.foldlM (withRelationBlock relationBlocks) payload)
  refuseUnless (missingRequiredRelations relations relationBlocks)
    "SIX1_RUNTIME_SUBMIT_REQUIRED_RELATION_MISSING" "Missing inline_required relation blocks: "
  pure payload

/-- `composeRuntimeSubmitPayload`, as it is computed where no schema is cached. -/
def composeRuntimeSubmitPayload (services : SubmitServices) (db : SubmitDb)
    (tenantId : Option Nat) (entityKey : String) (operation : SubmitOperation)
    (fieldValues relationBlocks : Record) :
    Except SubmitError RuntimeComposedSubmitPayloadView := do
  let schema ← (getObjectSchemaWithRelations services.toRelationServices db.toRelationDb
    (effectiveTenant tenantId) entityKey).mapError SubmitError.design
  match schema with
  | none => .error (.design (.authoring "SIX1_RUNTIME_SCHEMA_NOT_FOUND"
      ("No published schema found for entityKey \"" ++ entityKey ++ "\".")))
  | some schema => do
      let fieldRegistry ← (fieldRegistryOf services.metadata db.fieldRules schema.toObjectSchema).mapError
        SubmitError.invalidDescriptor
      let payload ← composePayload fieldRegistry schema.relations operation fieldValues
        relationBlocks
      pure ⟨entityKey, effectiveTenant tenantId, operation, payload⟩

end CoreApi.ConfigObjects
