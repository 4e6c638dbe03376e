import CoreApi.Foundation.Json
import Mathlib.Data.List.Nodup
import Mathlib.Data.List.Perm.Subperm

/-!
# Entries of an object

Entries that are assigned to an object one after another are all there in the end exactly when
their names are apart and none of them names the prototype.
-/

namespace CoreApi.Foundation

/-- What an object has its prototype under. -/
def prototypeName : String := "__proto__"

/-- Under a name of its own, an entry is found. -/
theorem lookup_of_mem {α : Type} {entries : List (String × α)}
    (distinct : (entries.map Prod.fst).Nodup) {entry : String × α} (member : entry ∈ entries) :
    entries.lookup entry.1 = some entry.2 := by
  induction entries with
  | nil => cases member
  | cons first rest ih =>
      rw [List.map_cons, List.nodup_cons] at distinct
      rcases List.mem_cons.mp member with rfl | member
      · exact List.lookup_cons_self
      · have other : entry.1 ≠ first.1 := fun same =>
          distinct.1 (same ▸ List.mem_map_of_mem member)
        have missed : (entry.1 == first.1) = false := by simpa using other
        rw [List.lookup_cons, missed]
        exact ih distinct.2 member

namespace Record

/-- `object[name] = value`; what is assigned to the prototype is no entry. -/
def assign (fields : Record) (name : String) (value : Json) : Record :=
  if name = prototypeName then fields else fields.set name value

/-- The entries are assigned to the object, one after another. -/
def assignAll (fields entries : Record) : Record :=
  entries.foldl (fun fields entry => fields.assign entry.1 entry.2) fields

/-- Each entry has a name of its own, and none names the prototype. -/
def Apart (names : List String) : Prop := names.Nodup ∧ prototypeName ∉ names

instance (names : List String) : Decidable (Apart names) :=
  inferInstanceAs (Decidable (_ ∧ _))

variable {fields entries : Record}

theorem mem_names_assign {name other : String} {value : Json} :
    other ∈ (fields.assign name value).names ↔
      other ∈ fields.names ∨ other = name ∧ other ≠ prototypeName := by
  unfold assign
  split
  · next special => simp [special]
  · next ordinary =>
      rw [mem_names_set]
      refine or_congr_right (iff_self_and.mpr ?_)
      rintro rfl
      exact ordinary

theorem Distinct.assign (distinct : fields.Distinct) (name : String) (value : Json) :
    (fields.assign name value).Distinct := by
  unfold Record.assign
  split
  · exact distinct
  · exact distinct.set name value

theorem Distinct.assignAll (distinct : fields.Distinct) (entries : Record) :
    (fields.assignAll entries).Distinct := by
  induction entries generalizing fields with
  | nil => exact distinct
  | cons entry rest ih =>
      exact ih (distinct.assign entry.1 entry.2)

theorem mem_names_assignAll {name : String} :
    name ∈ (fields.assignAll entries).names ↔
      name ∈ fields.names ∨ name ∈ entries.names ∧ name ≠ prototypeName := by
  induction entries generalizing fields with
  | nil => simp [assignAll, names]
  | cons entry rest ih =>
      have step : fields.assignAll (entry :: rest) =
        (fields.assign entry.1 entry.2).assignAll rest := rfl
      have cons : names (entry :: rest) = entry.1 :: names rest := rfl
      rw [step, ih, mem_names_assign, cons, List.mem_cons]
      tauto

/-- A new name comes last. -/
theorem set_of_not_mem {name : String} (absent : name ∉ fields.names) (value : Json) :
    fields.set name value = fields ++ [(name, value)] := by
  induction fields with
  | nil => rfl
  | cons entry rest ih =>
      obtain ⟨other, old⟩ := entry
      obtain ⟨different, notInRest⟩ := not_or.mp (List.mem_cons.not.mp absent)
      rw [set, if_neg (Ne.symm different), ih notInRest, List.cons_append]

/-- Entries that are apart come after those that are there. -/
theorem assignAll_of_apart (apart : Apart (names (fields ++ entries))) :
    fields.assignAll entries = fields ++ entries := by
  induction entries generalizing fields with
  | nil => rw [List.append_nil]; rfl
  | cons entry rest ih =>
      have split : names (fields ++ entry :: rest) = fields.names ++ entry.1 :: names rest :=
        List.map_append
      have ordinary : entry.1 ≠ prototypeName := by
        rintro special
        refine apart.2 ?_
        rw [split, ← special]
        exact List.mem_append_right _ List.mem_cons_self
      have absent : entry.1 ∉ fields.names := by
        have distinct := apart.1
        rw [split, List.nodup_append] at distinct
        exact fun member => distinct.2.2 entry.1 member entry.1 List.mem_cons_self rfl
      have assigned : fields.assign entry.1 entry.2 = fields ++ [entry] := by
        rw [assign, if_neg ordinary, set_of_not_mem absent]
      have regrouped : fields ++ entry :: rest = fields ++ [entry] ++ rest := by simp
      calc fields.assignAll (entry :: rest)
          = (fields ++ [entry]).assignAll rest := by rw [← assigned]; rfl
        _ = fields ++ [entry] ++ rest := ih (regrouped ▸ apart)
        _ = fields ++ entry :: rest := regrouped.symm

theorem length_assignAll_iff :
    (assignAll [] entries).length = entries.length ↔ Apart entries.names := by
  constructor
  · intro sameLength
    have distinct : (assignAll [] entries).names.Nodup :=
      @Distinct.assignAll [] List.nodup_nil entries
    have within : (assignAll [] entries).names ⊆ entries.names := by
      intro name member
      exact ((mem_names_assignAll.mp member).resolve_left List.not_mem_nil).1
    have same : (assignAll [] entries).names.Perm entries.names := by
      refine (List.subperm_of_subset distinct within).perm_of_length_le ?_
      rw [names, names, List.length_map, List.length_map, sameLength]
    refine ⟨same.nodup_iff.mp distinct, fun special => ?_⟩
    have member := same.mem_iff.mpr special
    exact ((mem_names_assignAll.mp member).resolve_left List.not_mem_nil).2 rfl
  · intro apart
    rw [@assignAll_of_apart [] entries apart]
    rfl

end Record

end CoreApi.Foundation
