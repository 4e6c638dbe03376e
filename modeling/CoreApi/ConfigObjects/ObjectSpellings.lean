import Mathlib.Data.List.Find
import CoreApi.ConfigObjects.ObjectSchemas
import CoreApi.ConfigObjects.WellFormedObjects

/-!
# Spellings of object types

Two spellings of a type have one canonical form. Where the objects have canonical types,
a schema does not depend on how its type is spelled: each of the names that it is looked
up under is the canonical one or that of no object.
-/

namespace CoreApi.ConfigObjects

open CoreApi.Foundation Automation ObjectDesign

/-- Every object has a canonical type. -/
def TypesCanonical (casing : LowerCasing) (db : RuntimeDb) : Prop :=
  ∀ configObject ∈ db.configObjects.rows, IsCanonical casing configObject.objectType

/-- The plural names are lower-case identifiers. -/
theorem plurals_identifiers : ∀ entry ∈ OBJECT_TYPE_ALIASES,
    entry.2.toList.all isIdentifierChar = true ∧ Json.trimmed entry.2 = entry.2.toList := by
  decide +kernel

section

variable {casing : LowerCasing} {services : SchemaServices} {db : RuntimeDb}

/-- A plural name is normalised as it stands. -/
theorem normalizedObjectType_plural {singular plural : String}
    (member : (singular, plural) ∈ OBJECT_TYPE_ALIASES) :
    normalizedObjectType casing plural = plural := by
  obtain ⟨identifier, trimmed⟩ := plurals_identifiers (singular, plural) member
  rw [normalizedObjectType, trimmed, casing.keepsIdentifiers _ identifier, String.ofList_toList]

theorem canonicalizeObjectType_plural {singular plural : String}
    (member : (singular, plural) ∈ OBJECT_TYPE_ALIASES) :
    canonicalizeObjectType casing plural = singular := by
  rw [canonicalizeObjectType, normalizedObjectType_plural member]
  exact (canonicalOfVariant_alias (singular, plural) member).2

/-- A name that is normalised is a spelling of the same type. -/
theorem canonicalizeObjectType_normalized (objectType : String) :
    canonicalizeObjectType casing (normalizedObjectType casing objectType) =
      canonicalizeObjectType casing objectType := by
  rw [canonicalizeObjectType, normalizedObjectType_idem]
  rfl

theorem canonicalizeObjectType_table {objectType table : String}
    (canonical : canonicalizeObjectType casing objectType = objectType)
    (isTable : resolveEntityTable objectType = some table) :
    canonicalizeObjectType casing table = objectType := by
  have isName : (OBJECT_TYPE_ALIASES.lookup objectType).getD objectType = table := by
    unfold resolveEntityTable at isTable
    exact (Option.ite_none_right_eq_some.mp isTable).2 |> Option.some.inj
  rcases found : OBJECT_TYPE_ALIASES.lookup objectType with _ | plural
  · rw [found] at isName
    exact isName ▸ canonical
  · rw [found, Option.getD_some] at isName
    rw [← isName]
    exact canonicalizeObjectType_plural (mem_of_lookup found)

/-- The names that a type is looked up under are spellings of it. -/
theorem canonicalizeObjectType_candidate {objectType name : String}
    (candidate : name ∈ candidateObjectTypes services objectType) :
    canonicalizeObjectType services.casing name =
      canonicalizeObjectType services.casing objectType := by
  unfold candidateObjectTypes at candidate
  rcases List.mem_append.mp (List.mem_filter.mp candidate).1 with spelled | ofTable
  · rcases List.mem_cons.mp spelled with same | isNormalized
    · rw [same]
      exact canonicalizeObjectType_idem objectType
    · rw [List.mem_singleton.mp isNormalized, canonicalizeObjectType_normalized]
  · obtain ⟨table, isTable, rfl⟩ := Option.map_eq_some_iff.mp (Option.mem_toList.mp ofTable)
    rw [canonicalizeObjectType_normalized]
    exact canonicalizeObjectType_table (canonicalizeObjectType_idem objectType) isTable

/-- Of the canonical names only that of the type itself is one it is looked up under. -/
theorem mem_candidateObjectTypes_iff {objectType name : String}
    (named : canonicalizeObjectType services.casing objectType ≠ "")
    (canonical : canonicalizeObjectType services.casing name = name) :
    name ∈ candidateObjectTypes services objectType ↔
      name = canonicalizeObjectType services.casing objectType := by
  constructor
  · intro candidate
    rw [← canonicalizeObjectType_candidate candidate, canonical]
  · rintro rfl
    unfold candidateObjectTypes
    rw [List.mem_filter]
    exact ⟨List.mem_cons_self, by simpa using named⟩

/-- The object of a type does not depend on how the type is spelled. -/
theorem objectOfTemplateSet_congr (canonical : TypesCanonical services.casing db)
    {first second : String}
    (same : canonicalizeObjectType services.casing first =
      canonicalizeObjectType services.casing second)
    (named : canonicalizeObjectType services.casing first ≠ "") (configTemplateSetId : Nat) :
    objectOfTemplateSet db configTemplateSetId (candidateObjectTypes services first) =
      objectOfTemplateSet db configTemplateSetId (candidateObjectTypes services second) := by
  refine List.find?_congr fun configObject member => ?_
  have isCanonical := (canonical configObject member).2
  have sameNames : configObject.objectType ∈ candidateObjectTypes services first ↔
      configObject.objectType ∈ candidateObjectTypes services second := by
    rw [mem_candidateObjectTypes_iff named isCanonical,
      mem_candidateObjectTypes_iff (same ▸ named) isCanonical, same]
  simp only [List.contains_eq_mem, sameNames]

/-- A schema does not depend on how its type is spelled. -/
theorem getObjectSchema_congr (canonical : TypesCanonical services.casing db)
    {first second : String}
    (same : canonicalizeObjectType services.casing first =
      canonicalizeObjectType services.casing second) (tenantId : Option Nat) :
    getObjectSchema services db tenantId first = getObjectSchema services db tenantId second := by
  unfold getObjectSchema normalizeCanonicalObjectTypeOrThrow
  rw [same]
  by_cases named : canonicalizeObjectType services.casing second = ""
  · simp only [if_pos named]
    rfl
  · have sameObject : resolveSchemaObject services db (effectiveTenant tenantId) first =
        resolveSchemaObject services db (effectiveTenant tenantId) second := by
      unfold resolveSchemaObject
      simp only [objectOfTemplateSet_congr canonical same (same ▸ named)]
    rw [sameObject]

end

end CoreApi.ConfigObjects
