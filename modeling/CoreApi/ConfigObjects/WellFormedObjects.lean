import CoreApi.Foundation.StepSystem
import CoreApi.ConfigObjects.ConfigObjectDesign

/-!
# Well-formed config objects

Every config object has a canonical type that no other object of its template set
has, a table exactly when it is bound to one, and no fields when that table is one of
the platform's. The calls that create, edit and remove objects and fields keep this,
whatever the tables refuse and whether or not the audit entry of a call is stored.
-/

namespace CoreApi.ConfigObjects

open CoreApi.Foundation Automation ObjectDesign

/-- A call on definitions. -/
inductive DesignCall where
  | createConfigObject (params : CreateConfigObjectParams)
  | updateConfigObject (params : UpdateConfigObjectParams)
  | deleteConfigObject (tenantId : Option Nat) (configObjectId deletedBy : Nat)
  | createConfigField (params : CreateConfigFieldParams)
  | updateConfigField (params : UpdateConfigFieldParams)
  | deleteConfigField (tenantId : Option Nat) (configObjectFieldId deletedBy : Nat)

section Calls

variable (checks : DesignChecks)

/-- Run a call. -/
def DesignCall.perform : DesignCall → DesignTx Unit
  | .createConfigObject params => do let _ ← ObjectDesign.createConfigObject checks params
  | .updateConfigObject params => do let _ ← ObjectDesign.updateConfigObject checks params
  | .deleteConfigObject tenantId configObjectId deletedBy =>
      ObjectDesign.deleteConfigObject tenantId configObjectId deletedBy
  | .createConfigField params => do let _ ← ObjectDesign.createConfigField checks params
  | .updateConfigField params => do let _ ← ObjectDesign.updateConfigField checks params
  | .deleteConfigField tenantId configObjectFieldId deletedBy =>
      ObjectDesign.deleteConfigField tenantId configObjectFieldId deletedBy

/-- The definitions under calls; a call that raises keeps what it wrote. -/
def designSystem : StepSystem DesignDb DesignCall where
  step db call := (call.perform checks db).2

end Calls

/-! ## The invariant -/

/-- The type is not empty and in its canonical form. -/
def IsCanonical (casing : LowerCasing) (objectType : String) : Prop :=
  objectType ≠ "" ∧ canonicalizeObjectType casing objectType = objectType

/-- The object is bound to a table exactly when it is not standalone. -/
def BindingFits (object : DesignedObject) : Prop :=
  object.sorTableName = none ↔ object.bindingMode = .standalone

/-- The objects are not of one type in one template set. -/
def TypesApart (first second : DesignedObject) : Prop :=
  first.configTemplateSetId = second.configTemplateSetId → first.objectType ≠ second.objectType

/-- The field does not describe an object that is bound to a system table. -/
def FieldFits (db : DesignDb) (field : ConfigObjectFieldEntity) : Prop :=
  ∀ object ∈ db.configObjects.rows, object.configObjectId = field.configObjectId →
    object.bindingMode ≠ .systemTable

/-- Config objects and their fields are well formed. -/
structure WellFormed (casing : LowerCasing) (db : DesignDb) : Prop where
  canonical : ∀ object ∈ db.configObjects.rows, IsCanonical casing object.objectType
  unique : db.configObjects.Pairwise TypesApart
  bound : ∀ object ∈ db.configObjects.rows, BindingFits object
  fieldless : ∀ field ∈ db.configFields.rows, FieldFits db field

/-- The foreign key of the fields: every field describes an object. -/
def FieldsOwned (db : DesignDb) : Prop :=
  ∀ field ∈ db.configFields.rows, ∃ object ∈ db.configObjects.rows,
    object.configObjectId = field.configObjectId

/-- What every call keeps. -/
def Sound (casing : LowerCasing) (db : DesignDb) : Prop := WellFormed casing db ∧ FieldsOwned db

/-! ## What the writes keep -/

section Writes

variable {checks : DesignChecks} {s : DesignDb}

/-- However the program ends, what it leaves is sound. -/
def KeepsSound {α : Type} (checks : DesignChecks) (program : DesignTx α) (s : DesignDb) : Prop :=
  program.wp (fun _ t => Sound checks.casing t) (fun _ t => Sound checks.casing t) s

/-- Rows that are accepted are stored; others leave everything as it is. -/
theorem keepsSound_accept {α : Type} (sound : Sound checks.casing s) {accepts : DesignDb → Bool}
    {next : Unit → DesignTx α} (rest : KeepsSound checks (next ()) s) :
    KeepsSound checks (accept accepts >>= next) s := by
  unfold KeepsSound accept
  rw [Program.wp_bind, Program.wp_bind, Program.wp_read, Program.wp_ite]
  exact ⟨fun _ => rest, fun _ => sound⟩

theorem keepsSound_read {α : Type} {next : DesignDb → DesignTx α}
    (rest : KeepsSound checks (next s) s) : KeepsSound checks (Program.read id >>= next) s := rest

/-- A check that fails leaves everything as it is. -/
theorem keepsSound_lift {α β : Type} (sound : Sound checks.casing s)
    {result : Except DesignError α} {next : α → DesignTx β}
    (rest : ∀ value, result = .ok value → KeepsSound checks (next value) s) :
    KeepsSound checks (Program.lift result >>= next) s := by
  rcases result with failure | value
  · exact sound
  · exact rest value rfl

theorem KeepsSound.before {α β : Type} {first : DesignTx α} {next : α → DesignTx β}
    (kept : KeepsSound checks first s)
    (rest : ∀ value t, Sound checks.casing t → KeepsSound checks (next value) t) :
    KeepsSound checks (first >>= next) s := by
  unfold KeepsSound
  rw [Program.wp_bind]
  exact Program.wp_mono kept (fun value t sound => rest value t sound) fun _ _ sound => sound

/-- The audit entry touches neither objects nor fields. -/
theorem keepsSound_logChange (sound : Sound checks.casing s) (tenantId : Option Nat)
    (entityType : DesignedEntityType) (entityId : Nat) (action : AuditAction) (changedBy : Nat)
    (oldValue newValue : Option Json) :
    KeepsSound checks
      (logChange tenantId entityType entityId action changedBy oldValue newValue) s := by
  unfold KeepsSound logChange
  rw [Program.wp_bind, Program.wp_read, Program.wp_ite]
  exact ⟨fun _ => ⟨⟨sound.1.canonical, sound.1.unique, sound.1.bound, sound.1.fieldless⟩, sound.2⟩,
    fun _ => sound⟩

theorem TypesApart.symm {first second : DesignedObject} (apart : TypesApart first second) :
    TypesApart second first := fun sameSet sameType => apart sameSet.symm sameType.symm

/-- A row that may stand among the objects in the place of a key: it is well formed by itself,
and no other object of its template set has its type. -/
structure Fits (casing : LowerCasing) (db : DesignDb) (key : Nat) (object : DesignedObject) :
    Prop where
  canonical : IsCanonical casing object.objectType
  bound : BindingFits object
  apart : ∀ other ∈ db.configObjects.rows, other.configObjectId ≠ key → TypesApart object other

theorem keepsSound_insertObject (sound : Sound checks.casing s) {object : DesignedObject}
    (fits : Fits checks.casing s s.configObjects.autoIncrement object) :
    KeepsSound checks (insertObject checks object) s := by
  refine keepsSound_accept sound ?_
  have member : ∀ {row}, row ∈ (s.configObjects.insert object).rows ↔
      row ∈ s.configObjects.rows ∨ row = Keyed.withKey s.configObjects.autoIncrement object := by
    simp
  refine ⟨⟨?_, ?_, ?_, ?_⟩, ?_⟩
  · intro row inRows
    rcases member.mp inRows with old | rfl
    · exact sound.1.canonical row old
    · exact fits.canonical
  · refine Table.Pairwise.append sound.1.unique TypesApart.symm Table.rows_insert ?_
    intro other otherMember
    have older := (s.configObjects.bounded other otherMember).2
    have apart := fits.apart other otherMember (Nat.ne_of_lt older)
    exact apart.symm
  · intro row inRows
    rcases member.mp inRows with old | rfl
    · exact sound.1.bound row old
    · exact fits.bound
  · intro field fieldMember row inRows isObject
    rcases member.mp inRows with old | rfl
    · exact sound.1.fieldless field fieldMember row old isObject
    · -- A field belongs to an object that was there before.
      obtain ⟨owner, ownerMember, owns⟩ := sound.2 field fieldMember
      have older := (s.configObjects.bounded owner ownerMember).2
      have isNew : s.configObjects.autoIncrement = field.configObjectId := isObject
      exact absurd (owns.trans isNew.symm) (Nat.ne_of_lt older)
  · intro field fieldMember
    obtain ⟨owner, ownerMember, owns⟩ := sound.2 field fieldMember
    exact ⟨owner, member.mpr (.inl ownerMember), owns⟩

theorem keepsSound_saveObject (sound : Sound checks.casing s) {object : DesignedObject}
    (fits : Fits checks.casing s object.configObjectId object)
    (fieldless : ∀ field ∈ s.configFields.rows, field.configObjectId = object.configObjectId →
      object.bindingMode ≠ .systemTable) :
    KeepsSound checks (saveObject checks object) s := by
  refine keepsSound_accept sound ?_
  have keepsKey : ∀ row, Keyed.key (overwrittenObject object row) = Keyed.key row := fun _ => rfl
  -- The rows are those of before, with the saved columns under the saved key.
  have rows : ∀ row ∈ (s.configObjects.updateAt object.configObjectId (overwrittenObject object)
      fun _ => rfl).rows, row ∈ s.configObjects.rows ∨ row = object := by
    intro row inRows
    rcases Table.mem_updateAt.mp inRows with ⟨old, _, isKey, rfl⟩ | ⟨old, _⟩
    · right
      have sameKey : old.configObjectId = object.configObjectId := isKey
      simp only [overwrittenObject, sameKey]
    · exact .inl old
  refine ⟨⟨?_, ?_, ?_, ?_⟩, ?_⟩
  · intro row inRows
    rcases rows row inRows with old | rfl
    · exact sound.1.canonical row old
    · exact fits.canonical
  · refine @Table.Pairwise.updateAt _ _ _ _ _ keepsKey _ sound.1.unique TypesApart.symm ?_
    intro row _ _ other otherMember different
    have apart := fits.apart other otherMember different
    exact apart
  · intro row inRows
    rcases rows row inRows with old | rfl
    · exact sound.1.bound row old
    · exact fits.bound
  · intro field fieldMember row inRows isObject
    rcases rows row inRows with old | rfl
    · exact sound.1.fieldless field fieldMember row old isObject
    · exact fieldless field fieldMember isObject.symm
  · intro field fieldMember
    obtain ⟨owner, ownerMember, owns⟩ := sound.2 field fieldMember
    by_cases isKey : owner.configObjectId = object.configObjectId
    · refine ⟨overwrittenObject object owner, ?_, owns⟩
      exact (@Table.mem_updateAt _ _ _ _ _ _ keepsKey).mpr
        (.inl ⟨owner, ownerMember, isKey, rfl⟩)
    · refine ⟨owner, ?_, owns⟩
      exact (@Table.mem_updateAt _ _ _ _ _ _ keepsKey).mpr (.inr ⟨ownerMember, isKey⟩)

theorem keepsSound_removeObject (sound : Sound checks.casing s) (configObjectId : Nat) :
    KeepsSound checks (removeObject configObjectId) s := by
  refine ⟨⟨?_, sound.1.unique.remove, ?_, ?_⟩, ?_⟩
  · exact fun row inRows => sound.1.canonical row (Table.mem_remove.mp inRows).1
  · exact fun row inRows => sound.1.bound row (Table.mem_remove.mp inRows).1
  · intro field fieldMember row inRows isObject
    exact sound.1.fieldless field (Table.mem_remove.mp fieldMember).1 row
      (Table.mem_remove.mp inRows).1 isObject
  · intro field fieldMember
    obtain ⟨old, notRemoved⟩ := Table.mem_remove.mp fieldMember
    obtain ⟨owner, ownerMember, owns⟩ := sound.2 field old
    refine ⟨owner, Table.mem_remove.mpr ⟨ownerMember, ?_⟩, owns⟩
    rw [owns]
    exact notRemoved

theorem keepsSound_insertField (sound : Sound checks.casing s) {field : ConfigObjectFieldEntity}
    {owner : DesignedObject} (ownerMember : owner ∈ s.configObjects.rows)
    (owns : owner.configObjectId = field.configObjectId)
    (takesFields : owner.bindingMode ≠ .systemTable) :
    KeepsSound checks (insertField checks field) s := by
  refine keepsSound_accept sound ?_
  refine ⟨⟨sound.1.canonical, sound.1.unique, sound.1.bound, ?_⟩, ?_⟩
  · intro other otherMember row inRows isObject
    rcases List.mem_append.mp otherMember with old | new
    · exact sound.1.fieldless other old row inRows isObject
    · rw [List.mem_singleton.mp new] at isObject
      have isOwner : row = owner := Table.eq_of_key_eq inRows ownerMember
        (isObject.trans owns.symm)
      rw [isOwner]
      exact takesFields
  · intro other otherMember
    rcases List.mem_append.mp otherMember with old | new
    · exact sound.2 other old
    · rw [List.mem_singleton.mp new]
      exact ⟨owner, ownerMember, owns⟩

theorem keepsSound_saveField (sound : Sound checks.casing s)
    {existing field : ConfigObjectFieldEntity} (member : existing ∈ s.configFields.rows)
    (sameObject : field.configObjectId = existing.configObjectId) :
    KeepsSound checks (saveField checks field) s := by
  refine keepsSound_accept sound ?_
  -- Every field describes an object that a field of before describes.
  have rows : ∀ row ∈ (s.configFields.updateAt field.configObjectFieldId (overwrittenField field)
      fun _ => rfl).rows,
      ∃ old ∈ s.configFields.rows, old.configObjectId = row.configObjectId := by
    intro row inRows
    rcases Table.mem_updateAt.mp inRows with ⟨_, _, _, rfl⟩ | ⟨old, _⟩
    · exact ⟨existing, member, sameObject.symm⟩
    · exact ⟨row, old, rfl⟩
  refine ⟨⟨sound.1.canonical, sound.1.unique, sound.1.bound, ?_⟩, ?_⟩
  · intro row inRows object objectMember isObject
    obtain ⟨old, oldMember, same⟩ := rows row inRows
    exact sound.1.fieldless old oldMember object objectMember (isObject.trans same.symm)
  · intro row inRows
    obtain ⟨old, oldMember, same⟩ := rows row inRows
    rw [← same]
    exact sound.2 old oldMember

theorem keepsSound_removeField (sound : Sound checks.casing s) (configObjectFieldId : Nat) :
    KeepsSound checks (removeField configObjectFieldId) s :=
  ⟨⟨sound.1.canonical, sound.1.unique, sound.1.bound, fun field member =>
      sound.1.fieldless field (Table.mem_remove.mp member).1⟩,
    fun field member => sound.2 field (Table.mem_remove.mp member).1⟩

end Writes

/-! ## The rows that the calls make -/

section Rows

variable {checks : DesignChecks} {casing : LowerCasing} {db : DesignDb}

theorem of_normalizeCanonicalObjectTypeOrThrow {objectType canonical : String}
    (normalized : normalizeCanonicalObjectTypeOrThrow casing objectType = .ok canonical) :
    canonicalizeObjectType casing objectType = canonical ∧
      IsCanonical casing canonical := by
  unfold normalizeCanonicalObjectTypeOrThrow at normalized
  dsimp only at normalized
  split at normalized
  · cases normalized
  · next notEmpty =>
      have isCanonical := Except.ok.inj normalized
      rw [← isCanonical]
      exact ⟨rfl, notEmpty, canonicalizeObjectType_idem objectType⟩

theorem normalizeCanonicalObjectTypeOrThrow_canonical {objectType : String}
    (canonical : IsCanonical casing objectType) :
    normalizeCanonicalObjectTypeOrThrow casing objectType = .ok objectType := by
  unfold normalizeCanonicalObjectTypeOrThrow
  rw [canonical.2]
  exact if_neg canonical.1

/-- No row has the type where the search found none. -/
theorem of_anyOfType_false {canonicalObjectType : String} {rows : List DesignedObject}
    (none : anyOfType casing canonicalObjectType rows = .ok false) :
    ∀ row ∈ rows, canonicalizeObjectType casing row.objectType ≠ canonicalObjectType := by
  induction rows with
  | nil => exact fun _ member => absurd member List.not_mem_nil
  | cons first rest ih =>
      obtain ⟨canonical, normalized, searched⟩ := bind_eq_ok.mp none
      split at searched
      · cases searched
      · next different =>
          refine List.forall_mem_cons.mpr ⟨?_, ih searched⟩
          rw [(of_normalizeCanonicalObjectTypeOrThrow normalized).1]
          exact different

theorem of_normalizeConfigObjectBinding {bindingMode : Option ConfigBindingMode}
    {sorTableName : Option String} {binding : ConfigBindingMode × Option String}
    (normalized : normalizeConfigObjectBinding bindingMode sorTableName = .ok binding) :
    binding.2 = none ↔ binding.1 = .standalone := by
  unfold normalizeConfigObjectBinding at normalized
  dsimp only at normalized
  split at normalized
  · next standalone =>
      cases normalized
      exact iff_of_true rfl standalone
  · next bound =>
      split at normalized
      · cases normalized
      · cases normalized
        exact iff_of_false (Option.some_ne_none _) bound

theorem of_nextSor {params : UpdateConfigObjectParams} {existing : DesignedObject}
    {nextMode : ConfigBindingMode} {sor : Option String}
    (next : nextSor params existing nextMode = .ok sor) :
    sor = none ↔ nextMode = .standalone := by
  unfold nextSor at next
  dsimp only at next
  split at next
  · next standalone =>
      cases next
      exact iff_of_true rfl standalone
  · next bound =>
      split at next
      · cases next
      · cases next
        exact iff_of_false (Option.some_ne_none _) bound

/-- The row of a new object fits under its new key. -/
theorem fits_newObject (sound : Sound checks.casing db) {params : CreateConfigObjectParams}
    {object : DesignedObject} (made : newObject checks db params = .ok object) :
    Fits checks.casing db db.configObjects.autoIncrement object := by
  obtain ⟨canonical, normalized, made⟩ := bind_eq_ok.mp made
  obtain ⟨_, _, made⟩ := bind_eq_ok.mp made
  obtain ⟨existing, searched, made⟩ := bind_eq_ok.mp made
  split at made
  · cases made
  · next free =>
      obtain ⟨binding, bound, made⟩ := bind_eq_ok.mp made
      cases made
      refine ⟨(of_normalizeCanonicalObjectTypeOrThrow normalized).2,
        of_normalizeConfigObjectBinding bound, ?_⟩
      intro other member _ sameSet sameType
      rw [Bool.eq_false_iff.mpr free] at searched
      refine of_anyOfType_false searched other
        (Table.mem_select.mpr ⟨member, by simpa using sameSet.symm⟩) ?_
      rw [(sound.1.canonical other member).2]
      exact sameType.symm

/-- What an update makes of an object fits in its place. -/
theorem fits_updatedObject (sound : Sound checks.casing db) {params : UpdateConfigObjectParams}
    {existing object : DesignedObject} (member : existing ∈ db.configObjects.rows)
    (made : updatedObject checks db params existing = .ok object) :
    object.configObjectId = existing.configObjectId ∧
      Fits checks.casing db existing.configObjectId object ∧
      ∀ field ∈ db.configFields.rows, field.configObjectId = existing.configObjectId →
        object.bindingMode ≠ .systemTable := by
  obtain ⟨nextObjectType, normalized, made⟩ := bind_eq_ok.mp made
  obtain ⟨sor, next, made⟩ := bind_eq_ok.mp made
  split at made
  · cases made
  · next fieldsAllow =>
      obtain ⟨existingObjectType, ofExisting, made⟩ := bind_eq_ok.mp made
      obtain ⟨duplicate, searched, made⟩ := bind_eq_ok.mp made
      split at made
      · cases made
      · next free =>
          cases made
          have isExisting : existingObjectType = existing.objectType := by
            rw [normalizeCanonicalObjectTypeOrThrow_canonical
              (sound.1.canonical existing member)] at ofExisting
            exact (Except.ok.inj ofExisting).symm
          refine ⟨rfl, ⟨(of_normalizeCanonicalObjectTypeOrThrow normalized).2,
            of_nextSor next, ?_⟩, ?_⟩
          · -- The type is looked for among the others only where it changes.
            intro other otherMember different sameSet sameType
            have sameSet : existing.configTemplateSetId = other.configTemplateSetId := sameSet
            have sameType : nextObjectType = other.objectType := sameType
            unfold siblingOfType at searched
            split at searched
            · next changes =>
                rw [Bool.eq_false_iff.mpr free] at searched
                refine of_anyOfType_false searched other
                  (Table.mem_select.mpr ⟨otherMember, by simp [sameSet, different]⟩) ?_
                rw [(sound.1.canonical other otherMember).2]
                exact sameType.symm
            · next keeps =>
                have kept : nextObjectType = existing.objectType :=
                  (not_not.mp keeps).trans isExisting
                exact sound.1.unique existing member other otherMember (Ne.symm different) sameSet
                  (kept.symm.trans sameType)
          · intro field fieldMember describes isSystem
            have wasSystem : existing.bindingMode = .systemTable := by
              by_contra notSystem
              refine fieldsAllow ⟨isSystem, notSystem, fun noFields => ?_⟩
              have selected : field ∈ db.configFields.select fun field =>
                  field.configObjectId == existing.configObjectId :=
                Table.mem_select.mpr ⟨fieldMember, beq_iff_eq.mpr describes⟩
              rw [noFields] at selected
              exact List.not_mem_nil selected
            exact sound.1.fieldless field fieldMember existing member describes.symm wasSystem

theorem of_objectInScope {configObjectId : Nat} {effectiveTenantId : Option Nat}
    {message : String} {object : DesignedObject}
    (found : objectInScope db configObjectId effectiveTenantId message = .ok object) :
    object ∈ db.configObjects.rows ∧ object.configObjectId = configObjectId := by
  unfold objectInScope at found
  split at found
  · cases found
  · next row isRow =>
      obtain ⟨_, _, same⟩ := bind_eq_ok.mp found
      cases same
      exact ⟨Table.mem_of_find? isRow, Table.key_of_find? isRow⟩

theorem takesFields_of_allows {object : DesignedObject}
    (allows : assertConfigObjectAllowsDesignerFields object = .ok ()) :
    object.bindingMode ≠ .systemTable := by
  unfold assertConfigObjectAllowsDesignerFields at allows
  split at allows
  · cases allows
  · next takes => exact takes

theorem of_newField {params : CreateConfigFieldParams} {field : ConfigObjectFieldEntity}
    (made : newField checks db params = .ok field) :
    ∃ object ∈ db.configObjects.rows, object.configObjectId = field.configObjectId ∧
      object.bindingMode ≠ .systemTable := by
  obtain ⟨object, found, made⟩ := bind_eq_ok.mp made
  obtain ⟨_, allows, made⟩ := bind_eq_ok.mp made
  obtain ⟨_, _, made⟩ := bind_eq_ok.mp made
  obtain ⟨member, isObject⟩ := of_objectInScope found
  split at made
  · cases made
  · obtain ⟨_, _, made⟩ := bind_eq_ok.mp made
    cases made
    exact ⟨object, member, isObject, takesFields_of_allows allows⟩

theorem of_updatedField {params : UpdateConfigFieldParams}
    {existing field : ConfigObjectFieldEntity}
    (made : updatedField checks db params existing = .ok field) :
    field.configObjectId = existing.configObjectId := by
  obtain ⟨_, _, made⟩ := bind_eq_ok.mp made
  obtain ⟨_, _, made⟩ := bind_eq_ok.mp made
  obtain ⟨_, _, made⟩ := bind_eq_ok.mp made
  cases made
  rfl

end Rows

/-! ## The calls -/

section Calls

variable {checks : DesignChecks} {s : DesignDb}

theorem keepsSound_pure {α : Type} (sound : Sound checks.casing s) (value : α) :
    KeepsSound checks (pure value : DesignTx α) s := sound

/-- A call that ends with its audit entry. -/
theorem keepsSound_logged {α : Type} (sound : Sound checks.casing s) (tenantId : Option Nat)
    (entityType : DesignedEntityType) (entityId : Nat) (action : AuditAction) (changedBy : Nat)
    (oldValue newValue : Option Json) (value : α) :
    KeepsSound checks (logChange tenantId entityType entityId action changedBy oldValue newValue
      >>= fun _ => pure value) s :=
  (keepsSound_logChange sound tenantId entityType entityId action changedBy oldValue
    newValue).before fun _ _ sound => keepsSound_pure sound value

theorem keepsSound_createConfigObject (sound : Sound checks.casing s)
    (params : CreateConfigObjectParams) :
    KeepsSound checks (createConfigObject checks params) s := by
  unfold createConfigObject
  refine keepsSound_read (keepsSound_lift sound fun object made => ?_)
  refine (keepsSound_insertObject sound (fits_newObject sound made)).before fun _ _ sound => ?_
  exact keepsSound_logged sound _ _ _ _ _ _ _ _

theorem keepsSound_updateConfigObject (sound : Sound checks.casing s)
    (params : UpdateConfigObjectParams) :
    KeepsSound checks (updateConfigObject checks params) s := by
  unfold updateConfigObject
  refine keepsSound_read (keepsSound_lift sound fun existing found => ?_)
  refine keepsSound_lift sound fun updated made => ?_
  obtain ⟨sameKey, fits, fieldless⟩ := fits_updatedObject sound (of_objectInScope found).1 made
  rw [← sameKey] at fits fieldless
  refine (keepsSound_saveObject sound fits fieldless).before fun _ _ sound => ?_
  exact keepsSound_logged sound _ _ _ _ _ _ _ _

theorem keepsSound_deleteConfigObject (sound : Sound checks.casing s) (tenantId : Option Nat)
    (configObjectId deletedBy : Nat) :
    KeepsSound checks (deleteConfigObject tenantId configObjectId deletedBy) s := by
  unfold deleteConfigObject
  refine keepsSound_read ?_
  split
  · exact keepsSound_pure sound ()
  · next existing _ =>
      refine keepsSound_lift sound fun _ _ => ?_
      refine (keepsSound_removeObject sound existing.configObjectId).before fun _ _ sound => ?_
      exact keepsSound_logChange sound _ _ _ _ _ _ _

theorem keepsSound_createConfigField (sound : Sound checks.casing s)
    (params : CreateConfigFieldParams) :
    KeepsSound checks (createConfigField checks params) s := by
  unfold createConfigField
  refine keepsSound_read (keepsSound_lift sound fun field made => ?_)
  obtain ⟨object, member, owns, takesFields⟩ := of_newField made
  refine (keepsSound_insertField sound member owns takesFields).before fun _ _ sound => ?_
  exact keepsSound_logged sound _ _ _ _ _ _ _ _

theorem keepsSound_updateConfigField (sound : Sound checks.casing s)
    (params : UpdateConfigFieldParams) :
    KeepsSound checks (updateConfigField checks params) s := by
  unfold updateConfigField
  refine keepsSound_read ?_
  split
  · exact sound
  · next existing found =>
      refine keepsSound_lift sound fun updated made => ?_
      refine (keepsSound_saveField sound (Table.mem_of_find? found)
        (of_updatedField made)).before fun _ _ sound => ?_
      exact keepsSound_logged sound _ _ _ _ _ _ _ _

theorem keepsSound_deleteConfigField (sound : Sound checks.casing s) (tenantId : Option Nat)
    (configObjectFieldId deletedBy : Nat) :
    KeepsSound checks (deleteConfigField tenantId configObjectFieldId deletedBy) s := by
  unfold deleteConfigField
  refine keepsSound_read ?_
  split
  · exact keepsSound_pure sound ()
  · next existing _ =>
      refine keepsSound_lift sound fun _ _ => ?_
      refine (keepsSound_removeField sound existing.configObjectFieldId).before
        fun _ _ sound => ?_
      exact keepsSound_logChange sound _ _ _ _ _ _ _

theorem KeepsSound.unit {α : Type} {program : DesignTx α} (kept : KeepsSound checks program s) :
    KeepsSound checks (do let _ ← program; pure ()) s :=
  kept.before fun _ _ sound => keepsSound_pure sound ()

theorem keepsSound_perform (sound : Sound checks.casing s) (call : DesignCall) :
    KeepsSound checks (call.perform checks) s := by
  cases call with
  | createConfigObject params => exact (keepsSound_createConfigObject sound params).unit
  | updateConfigObject params => exact (keepsSound_updateConfigObject sound params).unit
  | deleteConfigObject tenantId configObjectId deletedBy =>
      exact keepsSound_deleteConfigObject sound tenantId configObjectId deletedBy
  | createConfigField params => exact (keepsSound_createConfigField sound params).unit
  | updateConfigField params => exact (keepsSound_updateConfigField sound params).unit
  | deleteConfigField tenantId configObjectFieldId deletedBy =>
      exact keepsSound_deleteConfigField sound tenantId configObjectFieldId deletedBy

theorem sound_step (sound : Sound checks.casing s) (call : DesignCall) :
    Sound checks.casing ((designSystem checks).step s call) :=
  Program.wp_end (fun after : DesignDb => Sound checks.casing after)
    (keepsSound_perform sound call)

end Calls

/-! ## Runs -/

/-- Where there are no objects and no fields all are well formed. -/
theorem sound_of_empty {casing : LowerCasing} {db : DesignDb} (objects : db.configObjects.rows = [])
    (fields : db.configFields.rows = []) : Sound casing db := by
  have noObject {object : DesignedObject} : object ∉ db.configObjects.rows := by simp [objects]
  have noField {field : ConfigObjectFieldEntity} : field ∉ db.configFields.rows := by
    simp [fields]
  exact ⟨⟨fun _ member => absurd member noObject, fun _ member => absurd member noObject,
      fun _ member => absurd member noObject, fun _ member => absurd member noField⟩,
    fun _ member => absurd member noField⟩

/-- Config objects stay well formed, whatever is called, in whatever order. -/
theorem configObjects_stay_wellFormed (checks : DesignChecks) {start : DesignDb}
    (wellFormed : WellFormed checks.casing start) (owned : FieldsOwned start)
    (calls : List DesignCall) :
    WellFormed checks.casing ((designSystem checks).run start calls) :=
  (@StepSystem.run_invariant _ _ _ (Sound checks.casing) (fun _ call sound => sound_step sound call)
    _ ⟨wellFormed, owned⟩ calls).1

/-- Letters of the English alphabet, tables that take every row, and metadata that is stored as
it is given. -/
def takesEveryRow : DesignChecks where
  casing := latinCasing
  acceptsObject _ _ := true
  acceptsField _ _ := true
  applyDerivedDisplayAuthoringInValidationJson validationJson := .ok validationJson

/-- A tenant with a template set that has no objects. -/
def withoutObjects : DesignDb where
  tenants := [1]
  tenantUsers := [1]
  templateSets := .ofRows [{ configTemplateSetId := 0, tenantId := some 1, status := .draft }]
  configObjects := .empty _
  configFields := .empty _
  auditLogs := []

/-- An object of projects that gets a field, and is refused as a system table for it. -/
def designProjects : List DesignCall :=
  [.createConfigObject
    { tenantId := some 1
      configTemplateSetId := 1
      createdBy := 1
      objectType := " Projects"
      sorTableName := some "projects"
      displayName := "Projects" },
   .createConfigField
    { tenantId := some 1
      configObjectId := 1
      createdBy := 1
      fieldKey := "Site Name"
      label := "Site"
      fieldType := "text" },
   .updateConfigObject
    { tenantId := some 1
      configObjectId := 1
      updatedBy := 1
      bindingMode := some .systemTable }]

theorem configObjects_stay_wellFormed_designProjects :
    WellFormed takesEveryRow.casing
      ((designSystem takesEveryRow).run withoutObjects designProjects) :=
  have empty : Sound takesEveryRow.casing withoutObjects := sound_of_empty rfl rfl
  configObjects_stay_wellFormed takesEveryRow empty.1 empty.2 designProjects

end CoreApi.ConfigObjects
