import CoreApi.ConfigObjects.RuntimeManifests

/-!
# Coherent manifests

The schema of a manifest is that of one object, its views are those of another where
the two lookups part. They agree exactly when the object that is met first under the
spelled type is the one of the schema, or neither has an active view.
-/

namespace CoreApi.ConfigObjects

open CoreApi.Foundation ObjectDesign ConfigObjectsService RuntimeManifests

section

variable (services : ManifestServices) (db : ManifestDb) (tenantId : Option Nat)
  (entityKey : String)

/-- The views of a manifest are of the object of its schema; and for the object that the type
resolves to, its own active views are the ones that are returned. -/
structure ViewsCohere : Prop where
  ofOneObject : ∀ parts,
    manifestParts services db (getEffectiveTenantId tenantId) entityKey = .ok (some parts) →
      ∀ viewType, ∀ view ∈ parts.views viewType,
        view.configObjectId = parts.schema.configObject.configObjectId
  activeViews : ∀ schema,
    getObjectSchema services.toSchemaServices db.toRuntimeDb tenantId entityKey =
        .ok (some schema) →
      ∀ viewType, getActiveScopedConfigView db.viewDb tenantId entityKey viewType =
        activeViewOf db.viewDb schema.configObject.configObjectId viewType
          (getEffectiveTenantId tenantId)

/-- An object that is met in the scope of the tenant. -/
def IsMet (configObject : ConfigObjectEntity) : Prop :=
  objectOfType db.viewDb entityKey = some configObject ∧
    isInScope db.viewDb (getEffectiveTenantId tenantId) configObject = true

/-- The object of the type in the template set of the scope, where the runner can be added to it. -/
def IsSchemaObject (configObject : DesignedObject) : Prop :=
  canonicalizeObjectType services.casing entityKey ≠ "" ∧
    ∃ templateSet runner,
      resolveSchemaObject services.toSchemaServices db.toRuntimeDb (effectiveTenant tenantId)
          entityKey = some (templateSet, configObject) ∧
        services.attachRunner db.toRuntimeDb templateSet.configTemplateSetId configObject
          (loadFieldsForConfigObjectId services.toSchemaServices db.toRuntimeDb
            configObject.configObjectId) = .ok runner

/-- The object has an active view of the type, of the tenant or global. -/
def HasActiveView (viewType : ConfigObjectViewType) (configObject : ConfigObjectEntity) : Prop :=
  ∃ view ∈ db.views.rows, view.isActive = true ∧
    view.configObjectId = configObject.configObjectId ∧ view.viewType = viewType ∧
      (view.tenantId = none ∨ view.tenantId = getEffectiveTenantId tenantId)

/-- The object that the type resolves to is met in the scope of the tenant, or neither it nor the
object that is met has an active view. -/
def LookupsAgree : Prop :=
  ∀ configObject, IsSchemaObject services db tenantId entityKey configObject → ∀ viewType,
    IsMet db tenantId entityKey configObject.toConfigObjectEntity ∨
      (¬HasActiveView db tenantId viewType configObject.toConfigObjectEntity ∧
        ∀ other, IsMet db tenantId entityKey other → ¬HasActiveView db tenantId viewType other)

end

section

variable {services : ManifestServices} {db : ManifestDb} {tenantId : Option Nat}
  {entityKey : String} {viewType : ConfigObjectViewType}

theorem getEffectiveTenantId_idem :
    getEffectiveTenantId (getEffectiveTenantId tenantId) = getEffectiveTenantId tenantId := by
  rcases tenantId with _ | tenant
  · rfl
  · by_cases none : tenant = 0 <;> simp [getEffectiveTenantId, none]

theorem configObjectId_of_latestActiveView {viewDb : ViewDb} {configObjectId : Nat}
    {scope : Option Nat} {view : ConfigObjectViewEntity}
    (found : latestActiveView viewDb configObjectId viewType scope = some view) :
    view.configObjectId = configObjectId := by
  have selected := (Table.mem_select.mp (List.argmax_mem found)).2
  simp only [inScopeOf, Bool.and_eq_true, beq_iff_eq] at selected
  exact selected.2.1.1

theorem configObjectId_of_activeViewOf {viewDb : ViewDb} {configObjectId : Nat}
    {scope : Option Nat} {view : ConfigObjectViewEntity}
    (found : activeViewOf viewDb configObjectId viewType scope = some view) :
    view.configObjectId = configObjectId := by
  unfold activeViewOf at found
  split at found
  · exact configObjectId_of_latestActiveView found
  · rcases Option.or_eq_some_iff.mp found with own | ⟨_, global⟩
    · exact configObjectId_of_latestActiveView own
    · exact configObjectId_of_latestActiveView global

theorem getActiveScopedConfigView_of_isMet {configObject : ConfigObjectEntity}
    (isMet : IsMet db tenantId entityKey configObject) :
    getActiveScopedConfigView db.viewDb tenantId entityKey viewType =
      activeViewOf db.viewDb configObject.configObjectId viewType
        (getEffectiveTenantId tenantId) := by
  unfold getActiveScopedConfigView tryResolveConfigObjectForEntityScope
  rw [isMet.1, Option.filter_some, isMet.2]
  rfl

theorem getActiveScopedConfigView_of_not_isMet
    (noneMet : ∀ configObject, ¬IsMet db tenantId entityKey configObject) :
    getActiveScopedConfigView db.viewDb tenantId entityKey viewType = none := by
  unfold getActiveScopedConfigView tryResolveConfigObjectForEntityScope
  rcases isFirst : objectOfType db.viewDb entityKey with _ | configObject
  · rfl
  · have outside : ¬isInScope db.viewDb (getEffectiveTenantId tenantId) configObject = true :=
      fun inScope => noneMet configObject ⟨isFirst, inScope⟩
    rw [Option.filter_some, if_neg outside]
    rfl

/-- An object without an active view is one of which none is read. -/
theorem activeViewOf_eq_none_iff {configObject : ConfigObjectEntity} :
    activeViewOf db.viewDb configObject.configObjectId viewType (getEffectiveTenantId tenantId) =
        none ↔ ¬HasActiveView db tenantId viewType configObject := by
  have noneOf (scope : Option Nat) :
      latestActiveView db.viewDb configObject.configObjectId viewType scope = none ↔
        ∀ view ∈ db.views.rows, view.isActive = true →
          view.configObjectId = configObject.configObjectId → view.viewType = viewType →
            view.tenantId ≠ scope := by
    unfold latestActiveView
    rw [List.argmax_eq_none, Table.select, List.filter_eq_nil_iff]
    simp only [inScopeOf, Bool.and_eq_true, beq_iff_eq]
    exact ⟨fun noneAt view member active object type tenant =>
      noneAt view member ⟨active, ⟨object, type⟩, tenant⟩,
      fun noneAt view member holds =>
        noneAt view member holds.1 holds.2.1.1 holds.2.1.2 holds.2.2⟩
  unfold activeViewOf HasActiveView
  rcases isScope : getEffectiveTenantId tenantId with _ | tenant
  · rw [noneOf]
    constructor
    · rintro noneAt ⟨view, member, active, object, type, global | global⟩
      · exact noneAt view member active object type global
      · exact noneAt view member active object type global
    · intro noneAt view member active object type global
      exact noneAt ⟨view, member, active, object, type, .inl global⟩
  · rw [Option.or_eq_none_iff, noneOf, noneOf]
    constructor
    · rintro ⟨noneOwn, noneGlobal⟩ ⟨view, member, active, object, type, global | own⟩
      · exact noneGlobal view member active object type global
      · exact noneOwn view member active object type own
    · intro noneAt
      constructor
      · intro view member active object type own
        exact noneAt ⟨view, member, active, object, type, .inr own⟩
      · intro view member active object type global
        exact noneAt ⟨view, member, active, object, type, .inl global⟩

/-- The objects of the schemas are those of the type to which a runner can be added. -/
theorem isSchemaObject_iff {configObject : DesignedObject} :
    IsSchemaObject services db tenantId entityKey configObject ↔
      ∃ schema, getObjectSchema services.toSchemaServices db.toRuntimeDb tenantId entityKey =
        .ok (some schema) ∧ schema.configObject = configObject := by
  unfold IsSchemaObject getObjectSchema normalizeCanonicalObjectTypeOrThrow
  constructor
  · rintro ⟨named, templateSet, runner, resolved, isRunner⟩
    simp only [if_neg named, resolved]
    exact ⟨_, bind_eq_ok.mpr ⟨_, rfl, bind_eq_ok.mpr ⟨runner, isRunner, rfl⟩⟩, rfl⟩
  · rintro ⟨schema, found, rfl⟩
    by_cases named : canonicalizeObjectType services.casing entityKey = ""
    · simp only [if_pos named] at found
      cases found
    · simp only [if_neg named] at found
      obtain ⟨_, _, found⟩ := bind_eq_ok.mp found
      split at found
      · cases found
      · next templateSet configObject resolved =>
          obtain ⟨runner, isRunner, found⟩ := bind_eq_ok.mp found
          cases found
          exact ⟨named, templateSet, runner, resolved, isRunner⟩

/-- The object of a schema is one of those that the reads of views see. -/
theorem IsSchemaObject.mem_viewDb {configObject : DesignedObject}
    (isObject : IsSchemaObject services db tenantId entityKey configObject) :
    configObject.toConfigObjectEntity ∈ db.viewDb.configObjects.rows := by
  obtain ⟨_, _, _, resolved, _⟩ := isObject
  exact List.mem_map_of_mem (mem_of_resolveSchemaObject resolved).1

/-- Views of one object are those of another only where neither has any. -/
theorem not_hasActiveView_of_eq {first second : ConfigObjectEntity}
    (member : first ∈ db.viewDb.configObjects.rows)
    (member' : second ∈ db.viewDb.configObjects.rows) (different : first ≠ second)
    (same : activeViewOf db.viewDb first.configObjectId viewType (getEffectiveTenantId tenantId) =
      activeViewOf db.viewDb second.configObjectId viewType (getEffectiveTenantId tenantId)) :
    ¬HasActiveView db tenantId viewType first ∧ ¬HasActiveView db tenantId viewType second := by
  rcases isView : activeViewOf db.viewDb second.configObjectId viewType
    (getEffectiveTenantId tenantId) with _ | view
  · exact ⟨activeViewOf_eq_none_iff.mp (same.trans isView), activeViewOf_eq_none_iff.mp isView⟩
  · have ofSecond := configObjectId_of_activeViewOf isView
    have ofFirst := configObjectId_of_activeViewOf (same.trans isView)
    exact absurd (Table.eq_of_key_eq member member' (ofFirst.symm.trans ofSecond)) different

/-- The active view is that of an object exactly when the object is met, or there is none on either
side. -/
theorem activeView_iff {configObject : ConfigObjectEntity}
    (member : configObject ∈ db.viewDb.configObjects.rows) :
    getActiveScopedConfigView db.viewDb tenantId entityKey viewType =
        activeViewOf db.viewDb configObject.configObjectId viewType
          (getEffectiveTenantId tenantId) ↔
      IsMet db tenantId entityKey configObject ∨
        (¬HasActiveView db tenantId viewType configObject ∧
          ∀ other, IsMet db tenantId entityKey other →
            ¬HasActiveView db tenantId viewType other) := by
  by_cases someMet : ∃ other, IsMet db tenantId entityKey other
  · obtain ⟨other, isMet⟩ := someMet
    have onlyMet : ∀ third, IsMet db tenantId entityKey third → third = other :=
      fun third isThird => Option.some.inj (isThird.1.symm.trans isMet.1)
    rw [getActiveScopedConfigView_of_isMet isMet]
    by_cases same : other = configObject
    · exact iff_of_true (by rw [same]) (.inl (same ▸ isMet))
    · constructor
      · intro sameView
        obtain ⟨noneHere, noneThere⟩ := not_hasActiveView_of_eq
          (List.mem_of_find?_eq_some isMet.1) member same sameView
        exact .inr ⟨noneThere, fun third isThird => onlyMet third isThird ▸ noneHere⟩
      · rintro (isObject | ⟨noneThere, noneHere⟩)
        · exact absurd (onlyMet configObject isObject).symm same
        · exact (activeViewOf_eq_none_iff.mpr (noneHere other isMet)).trans
            (activeViewOf_eq_none_iff.mpr noneThere).symm
  · have noneMet : ∀ other, ¬IsMet db tenantId entityKey other :=
      fun other isMet => someMet ⟨other, isMet⟩
    rw [getActiveScopedConfigView_of_not_isMet noneMet]
    constructor
    · intro noView
      exact .inr ⟨activeViewOf_eq_none_iff.mp noView.symm,
        fun other isMet => absurd isMet (noneMet other)⟩
    · rintro (isMet | ⟨noView, _⟩)
      · exact absurd isMet (noneMet configObject)
      · exact (activeViewOf_eq_none_iff.mpr noView).symm

/-- What a manifest is made of. -/
theorem manifestParts_eq {parts : ManifestParts}
    (found : manifestParts services db (getEffectiveTenantId tenantId) entityKey =
      .ok (some parts)) :
    getObjectSchema services.toSchemaServices db.toRuntimeDb tenantId entityKey =
        .ok (some parts.schema) ∧
      parts.views = getActiveScopedConfigView db.viewDb tenantId entityKey := by
  obtain ⟨schema, isSchema, found⟩ := bind_eq_ok.mp found
  obtain ⟨_, rfl, rfl⟩ := Option.map_eq_some_iff.mp (Except.ok.inj found)
  refine ⟨getObjectSchema_effectiveTenant.symm.trans isSchema, funext fun viewType => ?_⟩
  unfold getActiveScopedConfigView
  rw [getEffectiveTenantId_idem]

end

/-! ## Two tenants with an object of one type -/

/-- Two tenants have published a set with an object of tasks; that of tenant 2 has a list view. -/
def twoTaskManifests : ManifestDb where
  templateSets := .ofRows
    [{ configTemplateSetId := 0, tenantId := some 1, status := .published },
      { configTemplateSetId := 0, tenantId := some 2, status := .published }]
  configObjects := .ofRows (List.map
    (fun templateSet =>
      { configObjectId := 0
        configTemplateSetId := templateSet
        objectType := "task"
        status := .published
        bindingMode := .sorBound
        sorTableName := some "tasks"
        displayName := "Task"
        description := none })
    [1, 2])
  configFields := .empty _
  views := .ofRows
    [{ configObjectViewId := 0
       configObjectId := 2
       tenantId := some 2
       viewKey := "board"
       roleKey := none
       viewType := .list
       name := "Board"
       description := none
       isActive := true
       isDefault := false
       configJson := none
       createdBy := some 7
       updatedBy := none }]
  panels := []

/-- Manifests whose runner and sections are empty. -/
def bareServices : ManifestServices where
  casing := latinCasing
  orderFields := id
  attachRunner _ _ _ _ := .ok .null
  runtimeListSection _ _ _ := (.null, [])
  runtimeDetailFormSection _ _ _ _ := (.null, [])

end CoreApi.ConfigObjects
