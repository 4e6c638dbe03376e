import CoreApi.ConfigObjects.RelationAuthoring

/-!
# Checked fields

Configurations are stored as JSON and checked field by field: the names that are known,
texts that are not blank, arrays read item by item. A checked text is a type of its own,
whose values cannot break the rule, and its JSON is read back as it was.
-/

namespace CoreApi.ConfigObjects

open CoreApi.Foundation RelationAuthoring

/-- A text that is not blank. -/
def NonBlank : Type := { text : String // Json.trimmed text ≠ [] }
deriving DecidableEq

/-- A text without blanks around it, and not empty. -/
def Token : Type := { text : String // String.ofList (Json.trimmed text) = text ∧ text ≠ "" }
deriving DecidableEq

/-- A text without the blanks around it, unless nothing is left. -/
def tokenOf (text : String) : Option Token :=
  if blank : Json.trimmed text = [] then none
  else some ⟨String.ofList (Json.trimmed text), by rw [Json.trimmed_trimmed],
    fun empty => blank (String.ofList_eq_empty_iff.mp empty)⟩

/-- `'asc' | 'desc'`. -/
inductive ListViewSortDirection where
  | asc | desc
deriving DecidableEq

/-! ## Checks -/

namespace CheckedFields

/-- A field that is set. -/
def given (o : Record) (name : String) : Option Json :=
  match o.get? name with
  | some .null => none
  | value => value

/-- `Object.keys(o)` has known names only; the first that is not is reported. -/
def refuseUnknown (o : Record) (known : List String) (message : String → String) :
    Checked Unit :=
  match unknownNames o known with
  | [] => .ok ()
  | name :: _ => .error (message name)

/-- `Object.keys(o)` has known names only; all that are not are reported. -/
def refuseAllUnknown (o : Record) (known : List String) (label : String) : Checked Unit :=
  match unknownNames o known with
  | [] => .ok ()
  | names => .error (label ++ ": unknown keys: " ++ ", ".intercalate names)

/-- The items of an array, each with its place from one on. -/
def eachFrom {α : Type} (parse : Nat → Json → Checked α) : Nat → List Json → Checked (List α)
  | _, [] => .ok []
  | i, el :: rest => do
      let el ← parse i el
      let rest ← eachFrom parse (i + 1) rest
      pure (el :: rest)

/-- The items of a field that is an array where it is set. -/
def parseArray {α : Type} (parse : Nat → Json → Checked α) (message : String)
    (raw : Option Json) : Checked (Option (List α)) :=
  match raw with
  | none => .ok none
  | some (.arr items) => some <$> eachFrom parse 0 items
  | some _ => .error message

/-- `${field}[${i}]`. -/
def place (field : String) (i : Nat) : String := field ++ "[" ++ Nat.repr i ++ "]"

/-- A text that is not blank, as it is. -/
def nonBlankText (message : String) (value : Json) : Checked NonBlank :=
  match value with
  | .str text => if blank : Json.trimmed text = [] then .error message else .ok ⟨text, blank⟩
  | _ => .error message

/-- A text that is not blank, trimmed. -/
def tokenText (message : String) (value : Json) : Checked Token :=
  match value with
  | .str text =>
      match tokenOf text with
      | some token => .ok token
      | none => .error message
  | _ => .error message

/-- `assertStringArray`. -/
def assertStringArray (field : String) (raw : Option Json) : Checked (Option (List NonBlank)) :=
  parseArray (fun i => nonBlankText (place field i ++ " must be a non-empty string"))
    (field ++ " must be an array of strings") raw

/-- A field that is checked where it is set. -/
def parseGiven {α : Type} (parse : Json → Checked α) (raw : Option Json) : Checked (Option α) :=
  match raw with
  | none => .ok none
  | some value => some <$> parse value

/-- `schemaVersion` must be 1. -/
def checkVersion (value : Json) : Checked Unit :=
  match value with
  | .num n =>
      if n = 1 then .ok ()
      else .error ("Unsupported schemaVersion " ++ toString n ++ "; expected 1")
  | _ => .error "schemaVersion must be an integer"

/-! ## JSON -/

/-- A field, where it has a value. -/
def entry (name : String) (value : Option Json) : Record :=
  match value with
  | none => []
  | some value => [(name, value)]

def nonBlankJson (text : NonBlank) : Json := .str text.1

def tokenJson (token : Token) : Json := .str token.1

def arrayJson {α : Type} (json : α → Json) (items : List α) : Json := .arr (items.map json)

/-- An array, unless it is empty. -/
def itemsJson {α : Type} (json : α → Json) (items : List α) : Option Json :=
  match items with
  | [] => none
  | items => some (arrayJson json items)

/-! ## Reading back -/

section

variable {o rest : Record} {name other : String} {value : Option Json}

theorem get?_entry : Record.get? (entry name value) other = if other = name then value else none := by
  rcases value with _ | value
  · simp [entry, Record.get?]
  · by_cases same : other = name
    · simp [entry, Record.get?, same]
    · have missed : (other == name) = false := by simpa using same
      simp [entry, Record.get?, List.lookup_cons, missed, same]

theorem get?_entry_append :
    Record.get? (entry name value ++ rest) other =
      if other = name then value.or (Record.get? rest other) else Record.get? rest other := by
  rcases value with _ | value
  · simp [entry]
  · by_cases same : other = name
    · simp [entry, Record.get?, same]
    · have missed : (other == name) = false := by simpa using same
      simp [entry, Record.get?, List.lookup_cons, missed, same]

theorem unknownNames_entry {known : List String} (isKnown : known.contains name = true) :
    unknownNames (entry name value) known = [] := by
  rcases value with _ | value <;> simp_all [entry, unknownNames, Record.names]

theorem unknownNames_entry_append {known : List String} (isKnown : known.contains name = true) :
    unknownNames (entry name value ++ rest) known = unknownNames rest known := by
  rcases value with _ | value <;> simp_all [entry, unknownNames, Record.names]

end

theorem tokenOf_token (token : Token) : tokenOf token.1 = some token := by
  obtain ⟨text, trimmed, notEmpty⟩ := token
  have notBlank : Json.trimmed text ≠ [] := fun blank => notEmpty (by rw [← trimmed, blank])
  unfold tokenOf
  rw [dif_neg notBlank]
  exact congrArg some (Subtype.ext trimmed)

@[simp] theorem tokenText_tokenJson (message : String) (token : Token) :
    tokenText message (tokenJson token) = .ok token := by
  simp [tokenText, tokenJson, tokenOf_token]

theorem eachFrom_map {α : Type} {parse : Nat → Json → Checked α} {json : α → Json}
    (reads : ∀ i x, parse i (json x) = .ok x) (i : Nat) (items : List α) :
    eachFrom parse i (items.map json) = .ok items := by
  induction items generalizing i with
  | nil => rfl
  | cons x rest ih =>
      simp only [List.map_cons, eachFrom, reads, ih]
      rfl

theorem parseGiven_map {α : Type} {parse : Json → Checked α} {json : α → Json}
    (reads : ∀ x, parse (json x) = .ok x) (value : Option α) :
    parseGiven parse (value.map json) = .ok value := by
  rcases value with _ | value
  · rfl
  · simp only [Option.map_some, parseGiven, reads]
    rfl

theorem refuseUnknown_of_nil {o : Record} {known : List String} {message : String → String}
    (noneUnknown : unknownNames o known = []) : refuseUnknown o known message = .ok () := by
  simp only [refuseUnknown, noneUnknown]

end CheckedFields

end CoreApi.ConfigObjects
