import CoreApi.ConfigObjects.ActiveViews

/-!
# Scopes of views

Views are authored in a scope, a tenant or the global one. The calls that
activate and deactivate a view look at the scope of the view they name. The
upsert looks a named view up by its id and its object alone, and so edits the
views of other scopes too.
-/

namespace CoreApi.ConfigObjects

open CoreApi.Foundation ConfigObjectsService

/-- The scope that a call authors views in. -/
def ViewCall.authoringScope : ViewCall → Option (Option Nat)
  | .upsertScopedConfigView params => some params.effectiveTenantId
  | .activateScopedConfigView tenantId _ _ _ _ => some (getEffectiveTenantId tenantId)
  | .deactivateScopedConfigView tenantId _ _ _ _ => some (getEffectiveTenantId tenantId)
  | _ => none

/-- The views of other scopes are left as they are. -/
def Untouched (scope : Option Nat) (before after : Table ConfigObjectViewEntity) : Prop :=
  ∀ view ∈ before.rows, view.tenantId ≠ scope → view ∈ after.rows

instance (scope : Option Nat) (before after : Table ConfigObjectViewEntity) :
    Decidable (Untouched scope before after) :=
  inferInstanceAs (Decidable (∀ view ∈ before.rows, _))

/-- An upsert that comes to save a view of another scope is refused by an index, or saves the
view as it is. -/
def KeepsView (checks : ViewChecks) (db : ViewDb) (params : UpsertScopedConfigViewParams)
    (configObject : ConfigObjectEntity) (existing : ConfigObjectViewEntity) : Prop :=
  ∀ config, editedConfig checks db params configObject existing = .ok config →
    existing.tenantId ≠ params.effectiveTenantId →
      checkIndexes db (editedView params existing config) ≠ .ok () ∨
        editedView params existing config = existing

/-- An upsert keeps the view that it finds. -/
def KeepsToScope (checks : ViewChecks) (db : ViewDb) : ViewCall → Prop
  | .upsertScopedConfigView params => ∀ configObject existing,
      resolveConfigObjectForEntityScope db params.entityKey params.effectiveTenantId
          = .ok configObject →
        existingView db params configObject.configObjectId = some existing →
          KeepsView checks db params configObject existing
  | _ => True

/-! ## What the writes leave alone -/

section Writes

variable {α : Type} {scope : Option Nat} {before : Table ConfigObjectViewEntity} {s : ViewDb}

/-- The program leaves the views of other scopes as they were. -/
def Leaves (scope : Option Nat) (before : Table ConfigObjectViewEntity) (program : ViewTx α)
    (s : ViewDb) : Prop :=
  program.wp (fun _ t => Untouched scope before t.views) (fun _ t => Untouched scope before t.views) s

theorem Leaves.andThen {β : Type} {first : ViewTx α} {next : α → ViewTx β}
    (leaves : Leaves scope before first s)
    (rest : ∀ value t, Untouched scope before t.views → Leaves scope before (next value) t) :
    Leaves scope before (first >>= next) s := by
  unfold Leaves
  rw [Program.wp_bind]
  exact Program.wp_mono leaves rest fun _ _ kept => kept

/-- No other scope has a view under the id. -/
def OnlyHere (scope : Option Nat) (before : Table ConfigObjectViewEntity)
    (configObjectViewId : Nat) : Prop :=
  ∀ view ∈ before.rows, view.tenantId ≠ scope → view.configObjectViewId ≠ configObjectViewId

theorem onlyHere_of_mem {view : ConfigObjectViewEntity} (member : view ∈ before.rows)
    (inScope : view.tenantId = scope) : OnlyHere scope before view.configObjectViewId := by
  intro other otherMember otherScope same
  rw [Table.eq_of_key_eq otherMember member same] at otherScope
  exact otherScope inScope

theorem onlyHere_autoIncrement : OnlyHere scope before before.autoIncrement :=
  fun view member _ => Nat.ne_of_lt (before.bounded view member).2

/-- An update of views of the scope touches no others. -/
theorem untouched_update (kept : Untouched scope before s.views)
    {p : ConfigObjectViewEntity → Bool} {set : ConfigObjectViewEntity → ConfigObjectViewEntity}
    (keepsKey : ∀ row, Keyed.key (set row) = Keyed.key row)
    (inScope : ∀ view, p view = true → view.tenantId = scope) :
    Untouched scope before (s.views.update p set keepsKey) := by
  intro view member otherScope
  exact Table.mem_update.mpr ⟨view, kept view member otherScope,
    (if_neg fun isOne => otherScope (inScope view isOne)).symm⟩

theorem untouched_updateAt (kept : Untouched scope before s.views) {configObjectViewId : Nat}
    (onlyHere : OnlyHere scope before configObjectViewId)
    {set : ConfigObjectViewEntity → ConfigObjectViewEntity}
    (keepsKey : ∀ row, Keyed.key (set row) = Keyed.key row) :
    Untouched scope before (s.views.updateAt configObjectViewId set keepsKey) :=
  fun view member otherScope => Table.mem_updateAt.mpr
    (.inr ⟨kept view member otherScope, onlyHere view member otherScope⟩)

theorem untouched_cleared (kept : Untouched scope before s.views) (configObjectId : Nat)
    (viewType : ConfigObjectViewType) (except : Option Nat) :
    Untouched scope before (cleared s configObjectId viewType scope except).views := by
  refine @untouched_update scope before s kept _ deactivated (fun _ => rfl) ?_
  intro view isOne
  simp only [inScopeOf, Bool.and_eq_true, beq_iff_eq] at isOne
  exact isOne.1.2

theorem leaves_logConfigChange (kept : Untouched scope before s.views) (tenantId : Option Nat)
    (entityId : Nat) (action : AuditAction) (changedBy : Nat) (oldValue newValue : Option Json) :
    Leaves scope before
      (logConfigChange tenantId entityId action changedBy oldValue newValue) s := by
  unfold Leaves logConfigChange
  rw [Program.wp_bind, Program.wp_read, Program.wp_ite]
  exact ⟨fun _ => kept, fun _ => kept⟩

theorem leaves_logged (kept : Untouched scope before s.views) (tenantId : Option Nat)
    (entityId : Nat) (action : AuditAction) (changedBy : Nat) (oldValue newValue : Option Json)
    (value : α) :
    Leaves scope before (logConfigChange tenantId entityId action changedBy oldValue newValue >>=
      fun _ => pure value) s :=
  (leaves_logConfigChange kept tenantId entityId action changedBy oldValue newValue).andThen
    fun _ _ kept => kept

theorem leaves_saveView (kept : Untouched scope before s.views) (view : ConfigObjectViewEntity)
    (onlyHere : OnlyHere scope before view.configObjectViewId) :
    Leaves scope before (saveView view) s := by
  unfold Leaves saveView
  rw [Program.wp_bind, Program.wp_read, Program.wp_bind]
  rcases checkIndexes (id s) view with failure | _
  · exact kept
  · exact @untouched_updateAt scope before s kept _ onlyHere (overwritten view) fun _ => rfl

theorem leaves_check {β : Type} {result : Except ViewRefusal α} {next : α → ViewTx β}
    (kept : Untouched scope before s.views)
    (rest : ∀ value, result = .ok value → Leaves scope before (next value) s) :
    Leaves scope before (check result >>= next) s := by
  rcases result with refusal | value
  · exact kept
  · exact rest value rfl

/-- A view of another scope is left as it is by a save of just that row. -/
theorem untouched_overwritten_iff (kept : Untouched scope before s.views)
    {existing row : ConfigObjectViewEntity} (member : existing ∈ before.rows)
    (otherScope : existing.tenantId ≠ scope)
    (same : row.configObjectViewId = existing.configObjectViewId) :
    Untouched scope before
        (s.views.updateAt row.configObjectViewId (overwritten row) fun _ => rfl) ↔
      row = existing := by
  have written : ∀ old : ConfigObjectViewEntity,
      old.configObjectViewId = row.configObjectViewId → overwritten row old = row := by
    intro old isRow
    unfold overwritten
    rw [isRow]
  constructor
  · intro untouched
    rcases Table.mem_updateAt.mp (untouched existing member otherScope) with
      ⟨old, _, isRow, equal⟩ | ⟨_, notRow⟩
    · exact (equal.trans (written old isRow)).symm
    · exact absurd same.symm notRow
  · rintro rfl view viewMember viewScope
    by_cases isRow : view.configObjectViewId = row.configObjectViewId
    · exact Table.mem_updateAt.mpr (.inl ⟨view, kept view viewMember viewScope, isRow,
        (Table.eq_of_key_eq viewMember member isRow).trans (written view isRow).symm⟩)
    · exact Table.mem_updateAt.mpr (.inr ⟨kept view viewMember viewScope, isRow⟩)

theorem wp_insertView_untouched (kept : Untouched scope before s.views)
    (view : ConfigObjectViewEntity) :
    (insertView view).wp
      (fun saved t => Untouched scope before t.views ∧
        saved.configObjectViewId = s.views.autoIncrement)
      (fun _ t => Untouched scope before t.views) s := by
  unfold insertView
  rw [Program.wp_bind, Program.wp_read, Program.wp_bind]
  rcases checkIndexes (id s) (Keyed.withKey (id s).views.autoIncrement view) with failure | _
  · exact kept
  · refine ⟨fun other member otherScope => ?_, rfl⟩
    exact List.mem_append_left _ (kept other member otherScope)

end Writes

/-! ## What the calls leave alone -/

section Calls

variable {s : ViewDb} (checks : ViewChecks)

theorem untouched_refl (scope : Option Nat) (views : Table ConfigObjectViewEntity) :
    Untouched scope views views := fun _ member _ => member

/-- What an upsert does in its own scope before it writes the view. -/
theorem leaves_when_cleared {α : Type} {scope : Option Nat} {activates : Bool}
    {configObjectId : Nat} {viewType : ConfigObjectViewType} {except : Option Nat}
    {next : Unit → ViewTx α}
    (rest : ∀ t, Untouched scope s.views t.views → t.views.autoIncrement = s.views.autoIncrement →
      Leaves scope s.views (next ()) t) :
    Leaves scope s.views (Program.when (activates = true)
      (deactivateViewsInScope configObjectId viewType scope except) >>= next) s := by
  unfold Leaves
  rw [Program.wp_bind, Program.wp_when]
  have same := untouched_refl scope s.views
  exact ⟨fun _ => rest _ (untouched_cleared same configObjectId viewType except) rfl,
    fun _ => rest s same rfl⟩

theorem leaves_editScopedView (params : UpsertScopedConfigViewParams)
    (configObject : ConfigObjectEntity) {existing : ConfigObjectViewEntity}
    (member : existing ∈ s.views.rows) (inScope : existing.tenantId = params.effectiveTenantId) :
    Leaves params.effectiveTenantId s.views (editScopedView checks params configObject existing)
      s := by
  unfold editScopedView
  refine leaves_check (untouched_refl _ _) fun config _ => leaves_when_cleared fun t kept _ => ?_
  have onlyHere := onlyHere_of_mem member inScope
  exact (leaves_saveView kept (editedView params existing config) onlyHere).andThen
    fun _ _ kept => leaves_logged kept _ _ _ _ _ _ _

/-- A view that fails its checks is removed, and no other. -/
theorem leaves_checkCreatedView {before : Table ConfigObjectViewEntity}
    (params : UpsertScopedConfigViewParams) {saved : ConfigObjectViewEntity} {scope : Option Nat}
    (kept : Untouched scope before s.views)
    (onlyHere : OnlyHere scope before saved.configObjectViewId) :
    Leaves scope before (checkCreatedView checks params saved) s := by
  unfold Leaves checkCreatedView
  rw [Program.wp_attempt, Program.wp_bind, Program.wp_read]
  rcases checkPanels checks (id s) params saved.configObjectViewId saved.configJson with refusal | _
  · intro view member otherScope
    exact Table.mem_remove.mpr ⟨kept view member otherScope,
      beq_eq_false_iff_ne.mpr (onlyHere view member otherScope)⟩
  · exact kept

theorem leaves_createScopedView (params : UpsertScopedConfigViewParams)
    (configObject : ConfigObjectEntity) :
    Leaves params.effectiveTenantId s.views (createScopedView checks params configObject) s := by
  unfold createScopedView
  refine leaves_check (untouched_refl _ _) fun config _ => leaves_when_cleared fun t kept next => ?_
  unfold Leaves
  rw [Program.wp_bind]
  refine Program.wp_mono (wp_insertView_untouched kept _) ?_ fun _ _ kept => kept
  rintro saved u ⟨kept, isNew⟩
  have onlyHere : OnlyHere params.effectiveTenantId s.views saved.configObjectViewId := by
    rw [isNew, next]
    exact onlyHere_autoIncrement
  exact (leaves_checkCreatedView checks params kept onlyHere).andThen
    fun _ _ kept => leaves_logged kept _ _ _ _ _ _ _

theorem leaves_activateScopedConfigView (tenantId : Option Nat) (entityKey : String)
    (viewType : ConfigObjectViewType) (configObjectViewId updatedBy : Nat) :
    Leaves (getEffectiveTenantId tenantId) s.views
      (activateScopedConfigView tenantId entityKey viewType configObjectViewId updatedBy) s := by
  unfold activateScopedConfigView
  refine leaves_check (untouched_refl _ _) fun configObject _ => ?_
  split
  · exact untouched_refl _ _
  · next target found =>
      split
      · exact untouched_refl _ _
      · next notOther =>
          have onlyHere := onlyHere_of_mem (mem_of_namedView found).1 (not_not.mp notOther)
          have kept := untouched_cleared (untouched_refl (getEffectiveTenantId tenantId) s.views)
            configObject.configObjectId viewType (some target.configObjectViewId)
          exact (leaves_saveView kept (switched true updatedBy target) onlyHere).andThen
            fun _ _ kept => leaves_logged kept _ _ _ _ _ _ _

theorem leaves_deactivateScopedConfigView (tenantId : Option Nat) (entityKey : String)
    (viewType : ConfigObjectViewType) (configObjectViewId : Option Nat) (updatedBy : Nat) :
    Leaves (getEffectiveTenantId tenantId) s.views
      (deactivateScopedConfigView tenantId entityKey viewType configObjectViewId updatedBy) s := by
  unfold deactivateScopedConfigView
  refine leaves_check (untouched_refl _ _) fun configObject _ => ?_
  split
  · split
    · exact untouched_refl _ _
    · next target found =>
        split
        · exact untouched_refl _ _
        · next notOther =>
            have onlyHere := onlyHere_of_mem (mem_of_namedView found).1 (not_not.mp notOther)
            exact (leaves_saveView (untouched_refl _ _) (switched false updatedBy target)
              onlyHere).andThen
              fun _ _ kept => leaves_logged kept _ _ _ _ _ _ _
  · refine @untouched_update _ s.views s (untouched_refl _ _) _ (switched false updatedBy)
      (fun _ => rfl) ?_
    intro view isOne
    simp only [inScopeOf, Bool.and_eq_true, beq_iff_eq] at isOne
    exact isOne.2

/-! ## A view of another scope -/

/-- Clearing a scope does not change what the indexes answer on a row of another one. -/
theorem checkIndexes_cleared {row : ConfigObjectViewEntity} {scope : Option Nat}
    (otherScope : row.tenantId ≠ scope) :
    checkIndexes (cleared s row.configObjectId row.viewType scope (some row.configObjectViewId)) row
      = checkIndexes s row := by
  have active : activeScopeTaken
      (cleared s row.configObjectId row.viewType scope (some row.configObjectViewId)) row
        = activeScopeTaken s row := by
    rw [Bool.eq_iff_iff, activeScopeTaken_iff, activeScopeTaken_iff, otherActive_cleared]
    simp only [otherScope, ne_eq, not_false_eq_true, true_and]
  have key : viewKeyTaken
      (cleared s row.configObjectId row.viewType scope (some row.configObjectViewId)) row
        = viewKeyTaken s row := by
    unfold viewKeyTaken
    refine List.any_map.trans ?_
    refine congrArg (List.any s.views.rows) (funext fun view => ?_)
    simp only [Function.comp_apply]
    split <;> rfl
  unfold checkIndexes
  rw [active, key]

/-- A saved view of another scope is untouched when an index refuses it or it stays the same. -/
theorem saveView_other {t : ViewDb} {scope : Option Nat} {α : Type}
    {existing row : ConfigObjectViewEntity} {next : Unit → ViewTx α}
    (kept : Untouched scope s.views t.views) (member : existing ∈ s.views.rows)
    (otherScope : existing.tenantId ≠ scope)
    (same : row.configObjectViewId = existing.configObjectViewId)
    (sameIndexes : checkIndexes t row = checkIndexes s row)
    (rest : ∀ u (holds : Table ConfigObjectViewEntity → Prop), holds u.views →
      (next ()).wp (fun _ v => holds v.views) (fun _ v => holds v.views) u) :
    (saveView row >>= next).wp
      (fun _ u => Untouched scope s.views u.views ↔
        checkIndexes s row ≠ .ok () ∨ row = existing)
      (fun _ u => Untouched scope s.views u.views ↔
        checkIndexes s row ≠ .ok () ∨ row = existing) t := by
  have written := untouched_overwritten_iff kept member otherScope same
  unfold saveView
  rw [Program.wp_bind, Program.wp_bind, Program.wp_read, Program.wp_bind]
  rw [show checkIndexes (id t) row = checkIndexes s row from sameIndexes]
  rcases answer : checkIndexes s row with failure | _
  · exact iff_of_true kept (.inl (by simp))
  · refine rest _ (fun views => Untouched scope s.views views ↔ _) ?_
    simpa using written

theorem logged_keeps {α : Type} (u : ViewDb) (tenantId : Option Nat) (entityId : Nat)
    (action : AuditAction) (changedBy : Nat) (oldValue newValue : Option Json) (value : α)
    (holds : Table ConfigObjectViewEntity → Prop) (now : holds u.views) :
    (logConfigChange tenantId entityId action changedBy oldValue newValue >>=
        fun _ => (pure value : ViewTx α)).wp
      (fun _ v => holds v.views) (fun _ v => holds v.views) u := by
  unfold logConfigChange
  rw [Program.wp_bind, Program.wp_bind, Program.wp_read, Program.wp_ite]
  exact ⟨fun _ => now, fun _ => now⟩

/-- An upsert that edits a view of another scope leaves it untouched when an index refuses the
row or it stays the same. -/
theorem editScopedView_other (params : UpsertScopedConfigViewParams)
    (configObject : ConfigObjectEntity) {existing : ConfigObjectViewEntity}
    {config : Option Json} (member : existing ∈ s.views.rows)
    (ofObject : existing.configObjectId = configObject.configObjectId)
    (otherScope : existing.tenantId ≠ params.effectiveTenantId)
    (edited : editedConfig checks s params configObject existing = .ok config) :
    (editScopedView checks params configObject existing).wp
      (fun _ t => Untouched params.effectiveTenantId s.views t.views ↔
        checkIndexes s (editedView params existing config) ≠ .ok () ∨
          editedView params existing config = existing)
      (fun _ t => Untouched params.effectiveTenantId s.views t.views ↔
        checkIndexes s (editedView params existing config) ≠ .ok () ∨
          editedView params existing config = existing) s := by
  have same := untouched_refl params.effectiveTenantId s.views
  unfold editScopedView
  rw [Program.wp_bind, Program.wp_read, Program.wp_bind,
    show editedConfig checks (id s) params configObject existing = .ok config from edited,
    check, Program.wp_result, Program.wp_bind, Program.wp_when]
  constructor
  · intro _
    refine saveView_other (untouched_cleared same _ _ _) member otherScope rfl ?_
      fun u holds now => logged_keeps u _ _ _ _ _ _ _ holds now
    rw [← ofObject]
    have cleared := @checkIndexes_cleared s (editedView params existing config) _ otherScope
    exact cleared
  · intro _
    exact saveView_other same member otherScope rfl rfl
      fun u holds now => logged_keeps u _ _ _ _ _ _ _ holds now

/-- An upsert that is refused by the checks of the configuration writes nothing. -/
theorem editScopedView_refused {params : UpsertScopedConfigViewParams}
    {configObject : ConfigObjectEntity} {existing : ConfigObjectViewEntity} {refusal : ViewRefusal}
    (refused : editedConfig checks s params configObject existing = .error refusal) :
    editScopedView checks params configObject existing s = (.error (.refused refusal), s) := by
  unfold editScopedView
  show Program.andThen (check (editedConfig checks s params configObject existing)) _ s = _
  rw [refused]
  rfl

theorem editScopedView_untouched (params : UpsertScopedConfigViewParams)
    (configObject : ConfigObjectEntity) {existing : ConfigObjectViewEntity}
    (member : existing ∈ s.views.rows)
    (ofObject : existing.configObjectId = configObject.configObjectId) :
    (editScopedView checks params configObject existing).wp
      (fun _ t => Untouched params.effectiveTenantId s.views t.views ↔
        KeepsView checks s params configObject existing)
      (fun _ t => Untouched params.effectiveTenantId s.views t.views ↔
        KeepsView checks s params configObject existing) s := by
  by_cases inScope : existing.tenantId = params.effectiveTenantId
  · have keeps : KeepsView checks s params configObject existing :=
      fun _ _ otherScope => absurd inScope otherScope
    exact Program.wp_mono (leaves_editScopedView checks params configObject member inScope)
      (fun _ _ kept => iff_of_true kept keeps) fun _ _ kept => iff_of_true kept keeps
  · rcases edited : editedConfig checks s params configObject existing with refusal | config
    · have keeps : KeepsView checks s params configObject existing :=
        fun config taken => absurd (edited.symm.trans taken) (by simp)
      unfold Program.wp
      simp only [editScopedView_refused checks edited]
      exact iff_of_true (untouched_refl _ _) keeps
    · have keeps : KeepsView checks s params configObject existing ↔
          (checkIndexes s (editedView params existing config) ≠ .ok () ∨
            editedView params existing config = existing) := by
        refine ⟨fun each => each config edited inScope, fun either config' edited' _ => ?_⟩
        obtain rfl : config = config' := Except.ok.inj (edited.symm.trans edited')
        exact either
      simp only [keeps]
      exact editScopedView_other checks params configObject member ofObject inScope edited

/-! ## Calls -/

theorem upsertScopedConfigView_untouched (params : UpsertScopedConfigViewParams) :
    (upsertScopedConfigView checks params).wp
      (fun _ t => Untouched params.effectiveTenantId s.views t.views ↔
        KeepsToScope checks s (.upsertScopedConfigView params))
      (fun _ t => Untouched params.effectiveTenantId s.views t.views ↔
        KeepsToScope checks s (.upsertScopedConfigView params)) s := by
  unfold upsertScopedConfigView
  rw [Program.wp_bind, Program.wp_read, Program.wp_bind]
  rcases resolved : resolveConfigObjectForEntityScope (id s) params.entityKey
    params.effectiveTenantId with refusal | configObject
  · refine iff_of_true (untouched_refl _ _) fun configObject _ found => ?_
    exact absurd (resolved.symm.trans found) (by simp)
  · rw [check, Program.wp_result]
    rcases found : existingView (id s) params configObject.configObjectId with _ | existing
    · have keeps : KeepsToScope checks s (.upsertScopedConfigView params) := by
        intro configObject' existing resolved' found'
        obtain rfl := resolved_is_unique resolved resolved'
        exact absurd (found.symm.trans found') (by simp)
      exact Program.wp_mono (leaves_createScopedView checks params configObject)
        (fun _ _ kept => iff_of_true kept keeps) fun _ _ kept => iff_of_true kept keeps
    · have keeps : KeepsToScope checks s (.upsertScopedConfigView params) ↔
          KeepsView checks s params configObject existing := by
        refine ⟨fun each => each configObject existing resolved found, ?_⟩
        intro keepsView configObject' existing' resolved' found'
        obtain rfl := resolved_is_unique resolved resolved'
        obtain rfl := Option.some.inj (found.symm.trans found')
        exact keepsView
      obtain ⟨member, ofObject⟩ := configObjectId_of_existingView found
      simp only [keeps]
      exact editScopedView_untouched checks params configObject member ofObject

/-- The views of other scopes after a call, from what the program of the call leaves alone. -/
theorem untouched_step {α : Type} {program : ViewTx α} {scope : Option Nat} {holds : Prop}
    (untouched : program.wp (fun _ t => Untouched scope s.views t.views ↔ holds)
      (fun _ t => Untouched scope s.views t.views ↔ holds) s) :
    Untouched scope s.views ((do let _ ← program; pure ()) s).2.views ↔ holds := by
  refine Program.wp_end (fun after : ViewDb => Untouched scope s.views after.views ↔ holds) ?_
  rw [Program.wp_bind]
  exact untouched

/-- A call that authors views in a scope leaves every view of another scope as it is, whether it
succeeds or raises, exactly when it keeps to its scope. -/
theorem otherScopes_untouched_iff (db : ViewDb) {call : ViewCall} {scope : Option Nat}
    (authors : call.authoringScope = some scope) :
    Untouched scope db.views ((viewSystem checks).step db call).views ↔
      KeepsToScope checks db call := by
  cases call with
  | upsertScopedConfigView params =>
      obtain rfl := Option.some.inj authors
      exact untouched_step (upsertScopedConfigView_untouched checks params)
  | activateScopedConfigView tenantId entityKey viewType configObjectViewId updatedBy =>
      obtain rfl := Option.some.inj authors
      have leaves := leaves_activateScopedConfigView (s := db) tenantId entityKey viewType
        configObjectViewId updatedBy
      exact untouched_step (Program.wp_mono leaves (fun _ _ kept => iff_of_true kept trivial)
        fun _ _ kept => iff_of_true kept trivial)
  | deactivateScopedConfigView tenantId entityKey viewType configObjectViewId updatedBy =>
      obtain rfl := Option.some.inj authors
      have leaves := leaves_deactivateScopedConfigView (s := db) tenantId entityKey viewType
        configObjectViewId updatedBy
      exact untouched_step (Program.wp_mono leaves (fun _ _ kept => iff_of_true kept trivial)
        fun _ _ kept => iff_of_true kept trivial)
  | createConfigView params => exact absurd authors (by simp [ViewCall.authoringScope])
  | updateConfigView params => exact absurd authors (by simp [ViewCall.authoringScope])
  | deleteConfigView tenantId configObjectViewId deletedBy =>
      exact absurd authors (by simp [ViewCall.authoringScope])

end Calls

/-! ## A tenant edits a global view -/

/-- A tenant whose object of tasks has a global list. -/
def withGlobalList : ViewDb := (viewSystem takesAll).step withoutViews (addTaskList "open")

/-- A call by which the tenant upserts a list that it names. -/
def nameTaskList (configObjectViewId : Nat) : ViewCall :=
  .upsertScopedConfigView
    { tenantId := some 1
      entityKey := "task"
      viewType := .list
      updatedBy := 1
      configObjectViewId := some configObjectViewId }

theorem otherScopes_untouched_setTaskList : KeepsToScope takesAll withGlobalList setTaskList :=
  (otherScopes_untouched_iff takesAll withGlobalList rfl).mp (by decide)

/-- The global list is edited by the upsert of a tenant that names it. -/
theorem globalList_edited : (nameTaskList 1).authoringScope = some (some 1) ∧
    ¬Untouched (some 1) withGlobalList.views
      ((viewSystem takesAll).step withGlobalList (nameTaskList 1)).views :=
  ⟨rfl, by decide⟩

end CoreApi.ConfigObjects
