import CoreApi.Foundation.FirstOfEach
import CoreApi.ConfigObjects.ActiveViews
import CoreApi.ConfigObjects.ScopedViews

/-!
# Listing the active views of a scope

One read takes the active view of a type by two queries, first for the tenant and then
for the global scope. The other sorts the active views of both scopes and keeps the
first of each type. The global scope has a listing of its own, which keeps every row and
relies on the index on active views.
-/

namespace CoreApi.ConfigObjects

open CoreApi.Foundation

namespace ConfigObjectsService

/-- `ORDER BY view_type, config_object_view_id DESC`. -/
def newestBefore (first second : ConfigObjectViewEntity) : Bool :=
  if first.viewType ≠ second.viewType then
    Nat.ble (ConfigObjectViewType.place first.viewType) (ConfigObjectViewType.place second.viewType)
  else Nat.ble second.configObjectViewId first.configObjectViewId

/-- `ORDER BY view_type, tenant_id IS NULL, config_object_view_id DESC`. -/
def tenantBefore (first second : ConfigObjectViewEntity) : Bool :=
  if first.viewType ≠ second.viewType then
    Nat.ble (ConfigObjectViewType.place first.viewType) (ConfigObjectViewType.place second.viewType)
  else if first.tenantId.isNone ≠ second.tenantId.isNone then second.tenantId.isNone
  else Nat.ble second.configObjectViewId first.configObjectViewId

/-- The place of a view type by `localeCompare`. -/
def ConfigObjectViewType.localePlace : ConfigObjectViewType → Nat
  | .detail => 0
  | .form => 1
  | .list => 2

def localeBefore (first second : ConfigObjectViewEntity) : Bool :=
  Nat.ble (ConfigObjectViewType.localePlace first.viewType)
    (ConfigObjectViewType.localePlace second.viewType)

/-- The active global views of an object. -/
def globalActiveViews (db : ViewDb) (configObjectId : Nat) : List ConfigObjectViewEntity :=
  (db.views.select fun view =>
    view.configObjectId == configObjectId && view.tenantId == none && view.isActive).mergeSort
      newestBefore

/-- The active views of an object that a tenant sees. -/
def scopedRows (db : ViewDb) (configObjectId tenantId : Nat) : List ConfigObjectViewEntity :=
  (db.views.select fun view =>
    view.configObjectId == configObjectId && view.isActive &&
      (view.tenantId == some tenantId || view.tenantId == none)).mergeSort tenantBefore

/-- The active views of an object in a scope. -/
def activeViewsOf (db : ViewDb) (configObjectId : Nat) :
    Option Nat → List ConfigObjectViewEntity
  | none => globalActiveViews db configObjectId
  | some tenantId =>
      (firstOfEach ConfigObjectViewEntity.viewType
        (scopedRows db configObjectId tenantId)).mergeSort localeBefore

/-- `listActiveScopedConfigViews`. -/
def listActiveScopedConfigViews (db : ViewDb) (tenantId : Option Nat) (entityKey : String) :
    List ConfigObjectViewEntity :=
  match tryResolveConfigObjectForEntityScope db entityKey (getEffectiveTenantId tenantId) with
  | none => []
  | some configObject =>
      activeViewsOf db configObject.configObjectId (getEffectiveTenantId tenantId)

end ConfigObjectsService

open ConfigObjectsService

variable {db : ViewDb} {configObjectId tenantId : Nat} {viewType : ConfigObjectViewType}
  {scope : Option Nat} {view : ConfigObjectViewEntity}

/-! ## The order of the rows -/

theorem place_injective : Function.Injective ConfigObjectViewType.place := by
  intro first second same
  cases first <;> cases second <;> first | rfl | exact absurd same (by decide)

/-- The rows of a tenant come before the global ones. -/
def scopePlace (view : ConfigObjectViewEntity) : Nat := if view.tenantId.isNone then 1 else 0

theorem tenantBefore_iff {first second : ConfigObjectViewEntity} :
    tenantBefore first second = true ↔
      ConfigObjectViewType.place first.viewType < ConfigObjectViewType.place second.viewType ∨
        first.viewType = second.viewType ∧
          (scopePlace first < scopePlace second ∨ scopePlace first = scopePlace second ∧
            second.configObjectViewId ≤ first.configObjectViewId) := by
  unfold tenantBefore scopePlace
  by_cases sameType : first.viewType = second.viewType
  · cases first.tenantId <;> cases second.tenantId <;> simp [sameType]
  · have apart : ConfigObjectViewType.place first.viewType ≠
        ConfigObjectViewType.place second.viewType := fun same =>
      sameType (place_injective same)
    simp only [sameType, ne_eq, not_false_eq_true, if_true, Nat.ble_eq, false_and, or_false]
    omega

theorem tenantBefore_refl (view : ConfigObjectViewEntity) : tenantBefore view view = true :=
  tenantBefore_iff.mpr (.inr ⟨rfl, .inr ⟨rfl, Nat.le_refl _⟩⟩)

theorem tenantBefore_total (first second : ConfigObjectViewEntity) :
    (tenantBefore first second || tenantBefore second first) = true := by
  rw [Bool.or_eq_true, tenantBefore_iff, tenantBefore_iff]
  by_cases sameType : first.viewType = second.viewType
  · simp only [sameType, true_and]
    omega
  · have apart : ConfigObjectViewType.place first.viewType ≠
        ConfigObjectViewType.place second.viewType := fun same =>
      sameType (place_injective same)
    omega

theorem tenantBefore_trans (first second third : ConfigObjectViewEntity)
    (before : tenantBefore first second = true) (after : tenantBefore second third = true) :
    tenantBefore first third = true := by
  rw [tenantBefore_iff] at before after ⊢
  rcases before with earlier | ⟨sameType, inType⟩
  · rcases after with later | ⟨sameType, _⟩
    · exact .inl (earlier.trans later)
    · exact .inl (sameType ▸ earlier)
  · rcases after with later | ⟨sameType', inType'⟩
    · exact .inl (sameType ▸ later)
    · refine .inr ⟨sameType.trans sameType', ?_⟩
      omega

theorem sorted_scopedRows :
    (scopedRows db configObjectId tenantId).Pairwise fun first second =>
      tenantBefore first second = true :=
  List.pairwise_mergeSort tenantBefore_trans tenantBefore_total _

theorem mem_scopedRows : view ∈ scopedRows db configObjectId tenantId ↔
    view ∈ db.views.rows ∧ view.configObjectId = configObjectId ∧ view.isActive = true ∧
      (view.tenantId = some tenantId ∨ view.tenantId = none) := by
  unfold scopedRows
  rw [(List.mergeSort_perm _ _).mem_iff, Table.mem_select]
  simp [and_assoc]

/-- Each of two rows comes before the other one only where they are the same row. -/
theorem eq_of_tenantBefore {first second : ConfigObjectViewEntity}
    (isRow : first ∈ db.views.rows) (isRow' : second ∈ db.views.rows)
    (before : tenantBefore first second = true) (after : tenantBefore second first = true) :
    first = second := by
  refine db.views.eq_of_key_eq isRow isRow' ?_
  change first.configObjectViewId = second.configObjectViewId
  rw [tenantBefore_iff] at before after
  rcases before with earlier | ⟨sameType, inType⟩
  · rcases after with later | ⟨sameType, _⟩
    · omega
    · exact absurd earlier (by rw [sameType]; exact Nat.lt_irrefl _)
  · rcases after with later | ⟨_, inType'⟩
    · exact absurd later (by rw [sameType]; exact Nat.lt_irrefl _)
    · omega

/-! ## One type -/

/-- The active views of an object and a type in a scope. -/
def activeIn (db : ViewDb) (configObjectId : Nat) (viewType : ConfigObjectViewType)
    (scope : Option Nat) : Set ConfigObjectViewEntity :=
  {view | view ∈ db.views.rows ∧ view.isActive = true ∧
    inScopeOf configObjectId viewType scope view = true}

theorem latestActiveView_eq_some :
    latestActiveView db configObjectId viewType scope = some view ↔
      Leads (fun first second => second.configObjectViewId ≤ first.configObjectViewId)
        (activeIn db configObjectId viewType scope) view := by
  unfold latestActiveView
  rw [← Option.mem_def, List.mem_argmax_iff]
  simp only [Table.mem_select, Bool.and_eq_true, Leads, activeIn, Set.mem_ofPred_eq]
  constructor
  · rintro ⟨isActive, latest, _⟩
    exact ⟨isActive, fun other isActive' => latest other isActive'⟩
  · rintro ⟨isActive, latest⟩
    refine ⟨isActive, fun other isActive' => latest other isActive', ?_⟩
    intro other isActive' notEarlier
    have same : view = other :=
      db.views.eq_of_key_eq isActive.1 isActive'.1
        (Nat.le_antisymm notEarlier (latest other isActive'))
    rw [same]

theorem latestActiveView_eq_none :
    latestActiveView db configObjectId viewType scope = none ↔
      activeIn db configObjectId viewType scope = ∅ := by
  unfold latestActiveView
  rw [List.argmax_eq_none, Table.select, List.filter_eq_nil_iff, Set.eq_empty_iff_forall_notMem]
  simp [activeIn]

/-- Within a type and a scope the rows are ordered by their ids. -/
theorem leads_activeIn_iff :
    Leads (fun first second => tenantBefore first second = true)
        (activeIn db configObjectId viewType scope) view ↔
      latestActiveView db configObjectId viewType scope = some view := by
  rw [latestActiveView_eq_some]
  refine leads_congr ?_
  intro first isActive second isActive'
  have inScope := isActive.2.2
  have inScope' := isActive'.2.2
  simp only [inScopeOf, Bool.and_eq_true, beq_iff_eq] at inScope inScope'
  rw [tenantBefore_iff, scopePlace, scopePlace, inScope.1.2, inScope'.1.2, inScope.2, inScope'.2]
  simp

/-- The rows of a type that a tenant sees are its own and the global ones. -/
theorem scopedRows_of_type :
    {row | row ∈ scopedRows db configObjectId tenantId ∧ row.viewType = viewType} =
      activeIn db configObjectId viewType (some tenantId) ∪
        activeIn db configObjectId viewType none := by
  ext row
  simp only [mem_scopedRows, activeIn, inScopeOf, Set.mem_ofPred_eq, Set.mem_union,
    Bool.and_eq_true, beq_iff_eq]
  tauto

theorem tenant_before_global {first second : ConfigObjectViewEntity}
    (ofTenant : first ∈ activeIn db configObjectId viewType (some tenantId))
    (isGlobal : second ∈ activeIn db configObjectId viewType none) :
    tenantBefore first second = true ∧ ¬tenantBefore second first = true := by
  have inScope := ofTenant.2.2
  have inScope' := isGlobal.2.2
  simp only [inScopeOf, Bool.and_eq_true, beq_iff_eq] at inScope inScope'
  rw [tenantBefore_iff, tenantBefore_iff, scopePlace, scopePlace, inScope.1.2, inScope'.1.2,
    inScope.2, inScope'.2]
  simp

/-- The two queries find the first of the rows of a type that the tenant sees. -/
theorem activeViewOf_tenant_eq_some :
    activeViewOf db configObjectId viewType (some tenantId) = some view ↔
      Leads (fun first second => tenantBefore first second = true)
        {row | row ∈ scopedRows db configObjectId tenantId ∧ row.viewType = viewType} view := by
  rw [scopedRows_of_type, leads_union fun first ofTenant second isGlobal =>
    tenant_before_global ofTenant isGlobal]
  rw [leads_activeIn_iff, leads_activeIn_iff, ← latestActiveView_eq_none]
  unfold activeViewOf
  rw [Option.or_eq_some_iff]

/-! ## The listing -/

theorem mem_activeViewsOf_tenant :
    view ∈ activeViewsOf db configObjectId (some tenantId) ↔
      activeViewOf db configObjectId view.viewType (some tenantId) = some view := by
  unfold activeViewsOf
  rw [(List.mergeSort_perm _ _).mem_iff, mem_firstOfEach (fun row => tenantBefore_refl row)
    sorted_scopedRows ?_, activeViewOf_tenant_eq_some]
  intro first isRow second isRow'
  exact eq_of_tenantBefore (mem_scopedRows.mp isRow).1 (mem_scopedRows.mp isRow').1

theorem mem_globalActiveViews : view ∈ globalActiveViews db configObjectId ↔
    view ∈ activeIn db configObjectId view.viewType none := by
  unfold globalActiveViews
  rw [(List.mergeSort_perm _ _).mem_iff, Table.mem_select]
  simp only [activeIn, inScopeOf, Set.mem_ofPred_eq, Bool.and_eq_true, beq_iff_eq]
  tauto

theorem OneActive.eq_of_activeIn (one : OneActive db.views) {first second : ConfigObjectViewEntity}
    (isActive : first ∈ activeIn db configObjectId viewType scope)
    (isActive' : second ∈ activeIn db configObjectId viewType scope) : first = second := by
  by_contra different
  have apart : NotBothActive first second := one first isActive.1 second isActive'.1 fun sameKey =>
    different (db.views.eq_of_key_eq isActive.1 isActive'.1 sameKey)
  have inScope := isActive.2.2
  simp only [inScopeOf, Bool.and_eq_true, beq_iff_eq] at inScope
  have notInScope := apart isActive.2.1 isActive'.2.1
  rw [inScope.1.1, inScope.1.2, inScope.2] at notInScope
  exact Bool.false_ne_true (notInScope.symm.trans isActive'.2.2)

theorem mem_activeViewsOf_global (one : OneActive db.views) :
    view ∈ activeViewsOf db configObjectId none ↔
      activeViewOf db configObjectId view.viewType none = some view := by
  unfold activeViewsOf activeViewOf
  rw [mem_globalActiveViews, latestActiveView_eq_some]
  constructor
  · intro isActive
    refine ⟨isActive, fun other isActive' => ?_⟩
    rw [one.eq_of_activeIn isActive isActive']
  · exact And.left

theorem mem_activeViewsOf (one : OneActive db.views) :
    view ∈ activeViewsOf db configObjectId scope ↔
      activeViewOf db configObjectId view.viewType scope = some view := by
  cases scope with
  | none => exact mem_activeViewsOf_global one
  | some tenantId => exact mem_activeViewsOf_tenant

theorem nodup_activeViewsOf (one : OneActive db.views) :
    ((activeViewsOf db configObjectId scope).map ConfigObjectViewEntity.viewType).Nodup := by
  cases scope with
  | none =>
      refine List.Nodup.map_on ?_ ?_
      · intro first isActive second isActive' sameType
        have isActive := mem_globalActiveViews.mp isActive
        have isActive' := mem_globalActiveViews.mp isActive'
        rw [← sameType] at isActive'
        exact one.eq_of_activeIn isActive isActive'
      · exact (List.mergeSort_perm _ _).nodup_iff.mpr
          ((List.Nodup.of_map _ db.views.distinct).filter _)
  | some tenantId =>
      exact ((List.mergeSort_perm _ _).map _).nodup_iff.mpr nodup_firstOfEach

theorem viewType_of_activeViewOf
    (found : activeViewOf db configObjectId viewType scope = some view) :
    view.viewType = viewType := by
  have ofScope : ∀ scope, latestActiveView db configObjectId viewType scope = some view →
      view.viewType = viewType := by
    intro scope latest
    have inScope := (latestActiveView_eq_some.mp latest).1.2.2
    simp only [inScopeOf, Bool.and_eq_true, beq_iff_eq] at inScope
    exact inScope.1.2
  cases scope with
  | none => exact ofScope none found
  | some tenantId =>
      rcases Option.or_eq_some_iff.mp found with ofTenant | ⟨_, isGlobal⟩
      · exact ofScope _ ofTenant
      · exact ofScope _ isGlobal

/-- With one active view for each scope, the listing has at most one view of a type, which is the
one that is read by the type. -/
theorem listActiveScopedConfigViews_reads (db : ViewDb) (one : OneActive db.views)
    (tenantId : Option Nat) (entityKey : String) :
    ((listActiveScopedConfigViews db tenantId entityKey).map
        ConfigObjectViewEntity.viewType).Nodup ∧
      ∀ view viewType,
        view ∈ listActiveScopedConfigViews db tenantId entityKey ∧ view.viewType = viewType ↔
          getActiveScopedConfigView db tenantId entityKey viewType = some view := by
  unfold listActiveScopedConfigViews getActiveScopedConfigView
  cases tryResolveConfigObjectForEntityScope db entityKey (getEffectiveTenantId tenantId) with
  | none => simp
  | some configObject =>
      refine ⟨nodup_activeViewsOf one, ?_⟩
      intro view viewType
      rw [Option.bind_some, mem_activeViewsOf one]
      constructor
      · rintro ⟨found, rfl⟩
        exact found
      · intro found
        have ofType := viewType_of_activeViewOf found
        exact ⟨ofType ▸ found, ofType⟩

/-- A view of tasks. -/
def taskView (configObjectViewId : Nat) (viewType : ConfigObjectViewType)
    (tenantId : Option Nat) : ConfigObjectViewEntity where
  configObjectViewId := configObjectViewId
  configObjectId := 1
  viewKey := "task_" ++ toString configObjectViewId
  viewType := viewType
  name := "task view"
  description := none
  roleKey := none
  tenantId := tenantId
  isDefault := false
  isActive := true
  configJson := none
  createdBy := some 1
  updatedBy := some 1

/-- Tasks have a list of one tenant, one of another tenant, and a global list and detail view. -/
def withTaskLists : ViewDb :=
  { withoutViews with
    views := .ofRows
      [taskView 1 .list (some 1), taskView 2 .list none, taskView 3 .list (some 2),
        taskView 4 .detail none] }

instance (first second : ConfigObjectViewEntity) : Decidable (NotBothActive first second) :=
  inferInstanceAs (Decidable (_ → _ → _))

instance (views : Table ConfigObjectViewEntity) : Decidable (OneActive views) :=
  inferInstanceAs (Decidable (∀ row ∈ views.rows, ∀ other ∈ views.rows, _ → _))

/-- The tenant lists its own list and the global detail view of tasks. -/
theorem withTaskLists_reads : OneActive withTaskLists.views ∧
    taskView 1 .list (some 1) ∈ listActiveScopedConfigViews withTaskLists (some 1) "task" ∧
    taskView 2 .list none ∉ listActiveScopedConfigViews withTaskLists (some 1) "task" ∧
    taskView 4 .detail none ∈ listActiveScopedConfigViews withTaskLists (some 1) "task" := by
  have one : OneActive withTaskLists.views := by decide
  have reads := (listActiveScopedConfigViews_reads withTaskLists one (some 1) "task").2
  refine ⟨one, ((reads _ .list).mpr (by decide)).1, ?_,
    ((reads _ .detail).mpr (by decide)).1⟩
  intro listed
  exact absurd ((reads _ .list).mp ⟨listed, rfl⟩) (by decide)

end CoreApi.ConfigObjects
