import Mathlib.Data.List.Basic
import Mathlib.Data.List.DropRight

/-!
# JSON values as JavaScript sees them

The JSON columns and event payloads of the service, with the conversions its
code applies to them: truthiness, `Number(…)`, `String(…)`, property access and
object spread. Numbers are the integers the service stores.
-/

namespace CoreApi.Foundation

/-- A JSON value; object fields keep their insertion order. -/
inductive Json where
  | null
  | bool (value : Bool)
  | num (value : Int)
  | str (value : String)
  | arr (items : List Json)
  | obj (fields : List (String × Json))

/-- The fields of a JSON object. -/
abbrev Record := List (String × Json)

namespace Json

mutual

/-- Structural equality decides equality of JSON values. -/
def decEq : (left right : Json) → Decidable (left = right)
  | .null, .null => isTrue rfl
  | .bool a, .bool b => decidable_of_iff (a = b) (by simp)
  | .num a, .num b => decidable_of_iff (a = b) (by simp)
  | .str a, .str b => decidable_of_iff (a = b) (by simp)
  | .arr xs, .arr ys => @decidable_of_iff _ (xs = ys) (by simp) (decEqItems xs ys)
  | .obj xs, .obj ys => @decidable_of_iff _ (xs = ys) (by simp) (decEqFields xs ys)
  | .null, .bool _ | .null, .num _ | .null, .str _ | .null, .arr _ | .null, .obj _
  | .bool _, .null | .bool _, .num _ | .bool _, .str _ | .bool _, .arr _ | .bool _, .obj _
  | .num _, .null | .num _, .bool _ | .num _, .str _ | .num _, .arr _ | .num _, .obj _
  | .str _, .null | .str _, .bool _ | .str _, .num _ | .str _, .arr _ | .str _, .obj _
  | .arr _, .null | .arr _, .bool _ | .arr _, .num _ | .arr _, .str _ | .arr _, .obj _
  | .obj _, .null | .obj _, .bool _ | .obj _, .num _ | .obj _, .str _ | .obj _, .arr _ =>
      isFalse (by simp)

/-- Equality of arrays, item by item. -/
def decEqItems : (left right : List Json) → Decidable (left = right)
  | [], [] => isTrue rfl
  | [], _ :: _ => isFalse (by simp)
  | _ :: _, [] => isFalse (by simp)
  | x :: xs, y :: ys =>
      match decEq x y, decEqItems xs ys with
      | isTrue head, isTrue tail => isTrue (by rw [head, tail])
      | isFalse head, _ => isFalse (by simp [head])
      | _, isFalse tail => isFalse (by simp [tail])

/-- Equality of objects, field by field. -/
def decEqFields : (left right : List (String × Json)) → Decidable (left = right)
  | [], [] => isTrue rfl
  | [], _ :: _ => isFalse (by simp)
  | _ :: _, [] => isFalse (by simp)
  | (k, x) :: xs, (l, y) :: ys =>
      match (inferInstance : Decidable (k = l)), decEq x y, decEqFields xs ys with
      | isTrue name, isTrue head, isTrue tail => isTrue (by rw [name, head, tail])
      | isFalse name, _, _ => isFalse (by simp [name])
      | _, isFalse head, _ => isFalse (by simp [head])
      | _, _, isFalse tail => isFalse (by simp [tail])

end

instance : DecidableEq Json := decEq

/-- JavaScript truthiness of a value. -/
def truthy : Json → Bool
  | .null => false
  | .bool value => value
  | .num value => value != 0
  | .str value => value != ""
  | .arr _ => true
  | .obj _ => true

/-- `value.name`, `null` where the property or the object is missing. -/
def field (value : Json) (name : String) : Json :=
  match value with
  | .obj fields => (fields.lookup name).getD .null
  | _ => .null

/-- `left ?? right`. -/
def orElse (left right : Json) : Json :=
  match left with
  | .null => right
  | value => value

/-- The characters `String.prototype.trim` removes. -/
def isSpace (c : Char) : Bool :=
  let n := c.toNat
  (9 ≤ n && n ≤ 13) || n == 0x20 || n == 0xA0 || n == 0x1680 || (0x2000 ≤ n && n ≤ 0x200A) ||
    n == 0x2028 || n == 0x2029 || n == 0x202F || n == 0x205F || n == 0x3000 || n == 0xFEFF

/-- The characters of `value.trim()`. -/
def trimmed (value : String) : List Char :=
  ((value.toList.dropWhile isSpace).reverse.dropWhile isSpace).reverse

theorem trimmed_eq (value : String) :
    trimmed value = (value.toList.dropWhile isSpace).rdropWhile isSpace := rfl

/-- What is trimmed has no blank left to trim. -/
theorem trimmed_trimmed (value : String) :
    trimmed (String.ofList (trimmed value)) = trimmed value := by
  have noBlankFirst : (trimmed value).dropWhile isSpace = trimmed value := by
    rw [List.dropWhile_eq_self_iff]
    intro nonempty blank
    have isPrefix : trimmed value <+: value.toList.dropWhile isSpace := by
      rw [trimmed_eq]
      exact List.rdropWhile_prefix isSpace _
    have longer := Nat.lt_of_lt_of_le nonempty isPrefix.length_le
    have first := List.dropWhile_get_zero_not isSpace value.toList longer
    rw [isPrefix.getElem nonempty] at blank
    exact first blank
  rw [trimmed_eq, String.toList_ofList, noBlankFirst, trimmed_eq, List.rdropWhile_idempotent]

/-- A map of characters that keeps blanks and the others apart keeps what is trimmed. -/
theorem trimmed_map {f : Char → Char} (same : ∀ c, isSpace (f c) = isSpace c) (text : List Char) :
    trimmed (String.ofList (text.map f)) = (trimmed (String.ofList text)).map f := by
  have blanks : isSpace ∘ f = isSpace := funext same
  simp only [trimmed, String.toList_ofList, List.dropWhile_map, blanks, ← List.map_reverse]

/-- The value of a run of decimal digits, read from the left. -/
def digitsValue (digits : List Char) : Nat :=
  digits.foldl (fun total c => 10 * total + (c.toNat - '0'.toNat)) 0

/-- `Number(text)` on decimal integers: blank text is 0, other text is NaN. -/
def numberOfText (text : String) : Option Int :=
  match trimmed text with
  | [] => some 0
  | '-' :: digits =>
      if digits ≠ [] ∧ digits.all Char.isDigit then some (-(digitsValue digits : Int)) else none
  | digits => if digits.all Char.isDigit then some (digitsValue digits) else none

/-- `Number(value)`, with `none` for NaN. -/
def toNumber : Json → Option Int
  | .null => some 0
  | .bool value => some (if value then 1 else 0)
  | .num value => some value
  | .str value => numberOfText value
  | .arr [] => some 0
  | .arr [item] =>
      match item with
      | .num value => some value
      | .str value => numberOfText value
      | .null => some 0
      | _ => none
  | .arr _ => none
  | .obj _ => none

mutual

/-- `String(value)`. -/
def toText : Json → String
  | .null => "null"
  | .bool true => "true"
  | .bool false => "false"
  | .num value => toString value
  | .str value => value
  | .arr items => joinText items
  | .obj _ => "[object Object]"

/-- The items of an array as `Array.prototype.join` writes them. -/
def joinText : List Json → String
  | [] => ""
  | [item] => itemText item
  | item :: rest => itemText item ++ "," ++ joinText rest

/-- An array item inside a joined text; `null` is written as nothing. -/
def itemText : Json → String
  | .null => ""
  | .bool true => "true"
  | .bool false => "false"
  | .num value => toString value
  | .str value => value
  | .arr items => joinText items
  | .obj _ => "[object Object]"

end

/-- An optional text as a JSON value. -/
def ofText : Option String → Json
  | some value => .str value
  | none => .null

/-- An optional identifier as a JSON value. -/
def ofId : Option Nat → Json
  | some value => .num value
  | none => .null

/-- `Number(value)` as the identifier of a row: `none` where no row can have it. -/
def toId (value : Json) : Option Nat :=
  match value.toNumber with
  | some (.ofNat n) => if n = 0 then none else some n
  | _ => none

end Json

theorem mem_of_lookup {α : Type} {pairs : List (String × α)} {name : String} {value : α}
    (found : pairs.lookup name = some value) : (name, value) ∈ pairs := by
  obtain ⟨before, after, rfl, _⟩ := List.lookup_eq_some_iff.mp found
  exact List.mem_append_right before List.mem_cons_self

namespace Record

/-- `fields[name]`. -/
def get? (fields : Record) (name : String) : Option Json := fields.lookup name

/-- `fields[name] = value`: an existing field keeps its place. -/
def set (fields : Record) (name : String) (value : Json) : Record :=
  match fields with
  | [] => [(name, value)]
  | (other, old) :: rest =>
      if other = name then (name, value) :: rest else (other, old) :: set rest name value

/-- `{ ...base, ...patch }`. -/
def spread (base patch : Record) : Record :=
  patch.foldl (fun fields entry => fields.set entry.1 entry.2) base

@[simp] theorem get?_set_self (fields : Record) (name : String) (value : Json) :
    (fields.set name value).get? name = some value := by
  induction fields with
  | nil => simp [set, get?]
  | cons entry rest ih =>
      obtain ⟨other, old⟩ := entry
      by_cases same : other = name
      · simp [set, same, get?]
      · have missed : (name == other) = false := by simpa using Ne.symm same
        simpa [set, same, get?, List.lookup_cons, missed] using ih

theorem get?_set_of_ne (fields : Record) {name other : String} (value : Json)
    (different : other ≠ name) : (fields.set name value).get? other = fields.get? other := by
  induction fields with
  | nil =>
      have missed : (other == name) = false := by simpa using different
      simp [set, get?, List.lookup_cons, missed]
  | cons entry rest ih =>
      obtain ⟨key, old⟩ := entry
      by_cases same : key = name
      · subst same
        have missed : (other == key) = false := by simpa using different
        simp [set, get?, List.lookup_cons, missed]
      · rw [set, if_neg same]
        simp only [get?, List.lookup_cons]
        split
        · rfl
        · exact ih

/-- The names of a record. -/
def names (fields : Record) : List String := fields.map Prod.fst

/-- No name occurs twice, as in every JSON object. -/
def Distinct (fields : Record) : Prop := fields.names.Nodup

instance (fields : Record) : Decidable fields.Distinct :=
  inferInstanceAs (Decidable fields.names.Nodup)

theorem mem_names_set (fields : Record) (name other : String) (value : Json) :
    other ∈ (fields.set name value).names ↔ other ∈ fields.names ∨ other = name := by
  induction fields with
  | nil => simp [set, names]
  | cons entry rest ih =>
      obtain ⟨key, old⟩ := entry
      by_cases same : key = name
      · subst same
        simp only [set, if_pos, names, List.map_cons, List.mem_cons]
        tauto
      · simp only [names] at ih
        simp only [set, if_neg same, names, List.map_cons, List.mem_cons, ih,
          or_assoc]

/-- Setting a field keeps the names distinct. -/
theorem Distinct.set {fields : Record} (distinct : fields.Distinct) (name : String)
    (value : Json) : (fields.set name value).Distinct := by
  induction fields with
  | nil => simp [Record.set, Record.Distinct, names]
  | cons entry rest ih =>
      obtain ⟨key, old⟩ := entry
      obtain ⟨absent, others⟩ := List.nodup_cons.mp distinct
      by_cases same : key = name
      · subst same
        rw [Record.set, if_pos rfl]
        exact List.nodup_cons.mpr ⟨absent, others⟩
      · rw [Record.set, if_neg same]
        refine List.nodup_cons.mpr ⟨fun member => ?_, ih others⟩
        rcases (mem_names_set rest name key value).mp member with inRest | isName
        · exact absent inRest
        · exact same isName

/-- Spreading over a record keeps its names distinct. -/
theorem Distinct.spread {base : Record} (distinct : base.Distinct) (patch : Record) :
    (base.spread patch).Distinct := by
  induction patch generalizing base with
  | nil => exact distinct
  | cons entry rest ih => exact ih (distinct.set entry.1 entry.2)

/-- A name that the patch leaves out keeps its value. -/
theorem get?_spread_of_not_mem {base patch : Record} {name : String}
    (absent : name ∉ patch.names) : (base.spread patch).get? name = base.get? name := by
  induction patch generalizing base with
  | nil => rfl
  | cons entry rest ih =>
      have different : name ≠ entry.1 := fun same => absent (same ▸ List.mem_cons_self)
      have notIn : name ∉ names rest := fun member => absent (List.mem_cons_of_mem _ member)
      exact (ih notIn).trans (get?_set_of_ne base entry.2 different)

theorem get?_spread_of_mem {base patch : Record} {name : String} (member : name ∈ patch.names) :
    ∃ value, (name, value) ∈ patch ∧ (base.spread patch).get? name = some value := by
  induction patch generalizing base with
  | nil => cases member
  | cons entry rest ih =>
      by_cases later : name ∈ names rest
      · obtain ⟨value, inRest, isValue⟩ := @ih (base.set entry.1 entry.2) later
        exact ⟨value, List.mem_cons_of_mem _ inRest, isValue⟩
      · have isName : name = entry.1 := (List.mem_cons.mp member).resolve_right later
        subst isName
        exact ⟨entry.2, List.mem_cons_self,
          (get?_spread_of_not_mem later).trans (get?_set_self base entry.1 entry.2)⟩

theorem get?_spread {base patch : Record} (distinct : patch.Distinct) {name : String}
    {value : Json} (isValue : patch.get? name = some value) :
    (base.spread patch).get? name = some value := by
  induction patch generalizing base with
  | nil => cases isValue
  | cons entry rest ih =>
      obtain ⟨key, old⟩ := entry
      obtain ⟨absent, others⟩ := List.nodup_cons.mp distinct
      by_cases same : name = key
      · subst same
        have isOld : old = value := by simpa [get?, List.lookup_cons] using isValue
        refine (get?_spread_of_not_mem absent).trans ?_
        rw [get?_set_self, isOld]
      · refine ih others ?_
        have missed : (name == key) = false := by simpa using same
        simpa [get?, List.lookup_cons, missed] using isValue

end Record

end CoreApi.Foundation
