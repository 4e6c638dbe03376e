import CoreApi.Foundation.StepSystem
import CoreApi.ConfigObjects.ConfigViews

/-!
# Active views

The index on active views keeps one active view for each object, type and scope.
The calls switch off the views of the scope they are made in before they write,
so that a write meets the index when the row it writes is in that scope. A view
created by key is written to the global scope with nothing switched off, and an
upsert that names a view of another scope writes to that scope.
-/

namespace CoreApi.ConfigObjects

open CoreApi.Foundation ConfigObjectsService

/-- A call on the views. -/
inductive ViewCall where
  | createConfigView (params : CreateConfigViewParams)
  | updateConfigView (params : UpdateConfigViewParams)
  | deleteConfigView (tenantId : Option Nat) (configObjectViewId deletedBy : Nat)
  | upsertScopedConfigView (params : UpsertScopedConfigViewParams)
  | activateScopedConfigView (tenantId : Option Nat) (entityKey : String)
      (viewType : ConfigObjectViewType) (configObjectViewId updatedBy : Nat)
  | deactivateScopedConfigView (tenantId : Option Nat) (entityKey : String)
      (viewType : ConfigObjectViewType) (configObjectViewId : Option Nat) (updatedBy : Nat)

section Calls

variable (checks : ViewChecks)

/-- Run a call. -/
def ViewCall.perform : ViewCall → ViewTx Unit
  | .createConfigView params => do let _ ← ConfigObjectsService.createConfigView params
  | .updateConfigView params => do let _ ← ConfigObjectsService.updateConfigView params
  | .deleteConfigView tenantId configObjectViewId deletedBy =>
      ConfigObjectsService.deleteConfigView tenantId configObjectViewId deletedBy
  | .upsertScopedConfigView params => do
      let _ ← ConfigObjectsService.upsertScopedConfigView checks params
  | .activateScopedConfigView tenantId entityKey viewType configObjectViewId updatedBy => do
      let _ ← ConfigObjectsService.activateScopedConfigView tenantId entityKey viewType
        configObjectViewId updatedBy
  | .deactivateScopedConfigView tenantId entityKey viewType configObjectViewId updatedBy => do
      let _ ← ConfigObjectsService.deactivateScopedConfigView tenantId entityKey viewType
        configObjectViewId updatedBy

/-- The views under calls; a call that raises keeps what it wrote. -/
def viewSystem : StepSystem ViewDb ViewCall where
  step db call := (call.perform checks db).2

/-- The index on active views refused a row. -/
def ViewError.isCollision : ViewError → Bool
  | .duplicateKey activeScope _ => activeScope
  | _ => false

/-- The call tries to write a row that would make two views active in one scope. -/
def Collides (db : ViewDb) (call : ViewCall) : Prop :=
  match (call.perform checks db).1 with
  | .ok _ => False
  | .error failure => failure.isCollision = true

instance (db : ViewDb) (call : ViewCall) : Decidable (Collides checks db call) :=
  match ended : (call.perform checks db).1 with
  | .ok _ => .isFalse (by simp [Collides, ended])
  | .error failure => decidable_of_iff (failure.isCollision = true) (by simp [Collides, ended])

end Calls

/-! ## One active view for each scope -/

/-- The views are not both active in one scope. -/
def NotBothActive (first second : ConfigObjectViewEntity) : Prop :=
  first.isActive = true → second.isActive = true →
    inScopeOf first.configObjectId first.viewType first.tenantId second = false

/-- Every object has at most one active view of a type in a scope. -/
def OneActive (views : Table ConfigObjectViewEntity) : Prop := views.Pairwise NotBothActive

/-- A view of the object, the type and the scope is active, other than one. -/
def OtherActive (db : ViewDb) (configObjectId : Nat) (viewType : ConfigObjectViewType)
    (tenantId except : Option Nat) : Prop :=
  ∃ view ∈ db.views.rows, some view.configObjectViewId ≠ except ∧ view.isActive = true ∧
    inScopeOf configObjectId viewType tenantId view = true

instance (db : ViewDb) (configObjectId : Nat) (viewType : ConfigObjectViewType)
    (tenantId except : Option Nat) :
    Decidable (OtherActive db configObjectId viewType tenantId except) :=
  inferInstanceAs (Decidable (∃ view ∈ db.views.rows, _))

/-- A view is created by key only where its object has no active view of the type in the global
scope; an upsert that activates a view of another scope does so only where that scope has no
other active view of the type. -/
def ScopesApart (checks : ViewChecks) (db : ViewDb) : ViewCall → Prop
  | .createConfigView params => ∀ configObject,
      configObjectForNewView db params = .ok configObject →
        ¬OtherActive db configObject.configObjectId params.viewType none none
  | .upsertScopedConfigView params => ∀ configObject existing config,
      resolveConfigObjectForEntityScope db params.entityKey params.effectiveTenantId
          = .ok configObject →
        existingView db params configObject.configObjectId = some existing →
          editedConfig checks db params configObject existing = .ok config →
            params.shouldActivate = true → existing.tenantId ≠ params.effectiveTenantId →
              ¬OtherActive db configObject.configObjectId params.viewType existing.tenantId
                (some existing.configObjectViewId)
  | _ => True

/-! ## What the writes do -/

section Writes

variable {α : Type} {s : ViewDb} {ok : α → ViewDb → Prop} {err : ViewError → ViewDb → Prop}

/-- The call ends in one active view for each scope, and is refused by the index on active views
exactly when `collides` holds. -/
def Settles (collides : Prop) (program : ViewTx α) (s : ViewDb) : Prop :=
  program.wp (fun _ t => ¬collides ∧ OneActive t.views)
    (fun failure t => (failure.isCollision = true ↔ collides) ∧ OneActive t.views) s

/-- A refusal of the service leaves everything as it is. -/
theorem settles_refused (one : OneActive s.views) (refusal : ViewRefusal) :
    Settles False (Program.raise (.refused refusal) : ViewTx α) s :=
  ⟨by simp [ViewError.isCollision], one⟩

/-- What comes after the one write that may collide never collides. -/
theorem Settles.before {β : Type} {collides : Prop} {first : ViewTx α} {next : α → ViewTx β}
    (settles : Settles collides first s)
    (rest : ∀ value t, OneActive t.views → Settles False (next value) t) :
    Settles collides (first >>= next) s := by
  unfold Settles
  rw [Program.wp_bind]
  refine Program.wp_mono settles ?_ (fun _ _ raised => raised)
  intro value t returned
  refine Program.wp_mono (rest value t returned.2) ?_ ?_
  · exact fun _ _ after => ⟨returned.1, after.2⟩
  · exact fun _ _ after => ⟨after.1.trans (iff_of_false not_false returned.1), after.2⟩

theorem settles_result (one : OneActive s.views) (value : α) :
    Settles False (Program.result value : ViewTx α) s :=
  ⟨not_false, one⟩

theorem settles_logConfigChange (one : OneActive s.views) (tenantId : Option Nat) (entityId : Nat)
    (action : AuditAction) (changedBy : Nat) (oldValue newValue : Option Json) :
    Settles False (logConfigChange tenantId entityId action changedBy oldValue newValue) s := by
  unfold Settles logConfigChange
  rw [Program.wp_bind, Program.wp_read, Program.wp_ite]
  exact ⟨fun _ => ⟨not_false, one⟩, fun _ => ⟨by simp [ViewError.isCollision], one⟩⟩

theorem activeScopeTaken_iff {view : ConfigObjectViewEntity} :
    activeScopeTaken s view = true ↔ view.isActive = true ∧
      OtherActive s view.configObjectId view.viewType view.tenantId
        (some view.configObjectViewId) := by
  simp [activeScopeTaken, OtherActive, and_assoc]

/-- A row that the index takes is not active together with another one. -/
theorem notBothActive_of_free {view other : ConfigObjectViewEntity}
    (free : activeScopeTaken s view = false) (member : other ∈ s.views.rows)
    (different : other.configObjectViewId ≠ view.configObjectViewId) :
    NotBothActive view other := by
  intro active otherActive
  by_contra inScope
  have taken : activeScopeTaken s view = true :=
    activeScopeTaken_iff.mpr ⟨active, other, member, by simpa using different, otherActive,
      by simpa using inScope⟩
  rw [free] at taken
  exact Bool.false_ne_true taken

theorem NotBothActive.symm {first second : ConfigObjectViewEntity}
    (apart : NotBothActive first second) : NotBothActive second first := by
  intro active otherActive
  have notInScope := apart otherActive active
  simp only [inScopeOf, Bool.and_eq_false_iff, beq_eq_false_iff_ne, ne_eq] at notInScope ⊢
  rcases notInScope with (object | type) | tenant
  · exact .inl (.inl fun same => object same.symm)
  · exact .inl (.inr fun same => type same.symm)
  · exact .inr fun same => tenant same.symm

/-- A saved row that the index takes keeps one active view for each scope. -/
theorem oneActive_updateAt (one : OneActive s.views) {view : ConfigObjectViewEntity}
    (free : activeScopeTaken s view = false) :
    OneActive (s.views.updateAt view.configObjectViewId (overwritten view) fun _ => rfl) := by
  refine Table.Pairwise.updateAt one NotBothActive.symm ?_
  intro row _ _ other otherMember different
  have apart : NotBothActive view other := notBothActive_of_free free otherMember different
  exact apart

/-- A new row that the index takes keeps one active view for each scope. -/
theorem oneActive_insert (one : OneActive s.views) {view : ConfigObjectViewEntity}
    (free : activeScopeTaken s (Keyed.withKey s.views.autoIncrement view) = false) :
    OneActive (s.views.insert view) := by
  refine Table.Pairwise.append one NotBothActive.symm Table.rows_insert ?_
  intro other member
  have older : other.configObjectViewId < s.views.autoIncrement :=
    (s.views.bounded other member).2
  exact (notBothActive_of_free free member (Nat.ne_of_lt older)).symm

theorem oneActive_switchedOff (one : OneActive s.views) {p : ConfigObjectViewEntity → Bool}
    {set : ConfigObjectViewEntity → ConfigObjectViewEntity}
    (keepsKey : ∀ row, Keyed.key (set row) = Keyed.key row)
    (off : ∀ view, (set view).isActive = false) : OneActive (s.views.update p set keepsKey) := by
  have images : Table.Images (fun old row => row = old ∨ row.isActive = false) s.views
      (s.views.update p set keepsKey) :=
    Table.images_update (fun _ => .inl rfl) fun view _ _ => .inr (off view)
  refine Table.Pairwise.images one images ?_
  rintro first second first' second' (rfl | inactive) (rfl | inactive') apart
  · exact apart
  · exact fun _ active => absurd active (by simp [inactive'])
  · exact fun active => absurd active (by simp [inactive])
  · exact fun active => absurd active (by simp [inactive])

/-- Saving a row collides exactly when another view is active in its scope. -/
theorem settles_saveView (one : OneActive s.views) (view : ConfigObjectViewEntity) :
    Settles (activeScopeTaken s view = true) (saveView view) s := by
  unfold Settles saveView
  rw [Program.wp_bind, Program.wp_read, Program.wp_bind]
  unfold checkIndexes
  split
  · rw [Program.wp_lift_error]
    exact ⟨Iff.rfl, one⟩
  · next free =>
      have notTaken : activeScopeTaken s view = false := by simp_all
      rw [Program.wp_lift_ok, Program.wp_write]
      exact ⟨by simp [notTaken], oneActive_updateAt one notTaken⟩

/-- Storing a new row collides exactly when another view is active in its scope. -/
theorem settles_insertView (one : OneActive s.views) (view : ConfigObjectViewEntity) :
    Settles (activeScopeTaken s (Keyed.withKey s.views.autoIncrement view) = true)
      (insertView view) s := by
  unfold Settles insertView
  rw [Program.wp_bind, Program.wp_read, Program.wp_bind]
  unfold checkIndexes
  split
  · rw [Program.wp_lift_error]
    exact ⟨Iff.rfl, one⟩
  · next free =>
      have notTaken : activeScopeTaken s (Keyed.withKey s.views.autoIncrement view) = false := by
        simp_all
      rw [Program.wp_lift_ok, Program.wp_writeReturning]
      exact ⟨by simp [notTaken], oneActive_insert one notTaken⟩

end Writes

/-! ## What the calls do -/

section Calls

variable {s : ViewDb}

theorem Settles.congr {α : Type} {collides collides' : Prop} {program : ViewTx α}
    (settles : Settles collides program s) (same : collides ↔ collides') :
    Settles collides' program s := propext same ▸ settles

theorem not_otherActive (one : OneActive s.views) {view : ConfigObjectViewEntity}
    (member : view ∈ s.views.rows) (active : view.isActive = true) :
    ¬OtherActive s view.configObjectId view.viewType view.tenantId
      (some view.configObjectViewId) := by
  rintro ⟨other, otherMember, different, otherActive, inScope⟩
  have apart : NotBothActive view other :=
    one view member other otherMember fun same => different (congrArg some same.symm)
  rw [apart active otherActive] at inScope
  exact Bool.false_ne_true inScope

/-- No view has the key that a new one takes. -/
theorem otherActive_new {configObjectId : Nat} {viewType : ConfigObjectViewType}
    {tenantId : Option Nat} :
    OtherActive s configObjectId viewType tenantId (some s.views.autoIncrement) ↔
      OtherActive s configObjectId viewType tenantId none := by
  constructor
  · rintro ⟨view, member, _, rest⟩
    exact ⟨view, member, by simp, rest⟩
  · rintro ⟨view, member, _, rest⟩
    have older : view.configObjectViewId < s.views.autoIncrement :=
      (s.views.bounded view member).2
    exact ⟨view, member, by simpa using Nat.ne_of_lt older, rest⟩

/-- The views of a scope are off, all but one. -/
def cleared (s : ViewDb) (configObjectId : Nat) (viewType : ConfigObjectViewType)
    (tenantId except : Option Nat) : ViewDb :=
  { s with
    views := s.views.update
      (fun view => inScopeOf configObjectId viewType tenantId view &&
        some view.configObjectViewId != except)
      deactivated deactivated_key }

theorem wp_deactivateViewsInScope {configObjectId : Nat} {viewType : ConfigObjectViewType}
    {tenantId except : Option Nat} {ok : Unit → ViewDb → Prop} {err : ViewError → ViewDb → Prop} :
    (deactivateViewsInScope configObjectId viewType tenantId except).wp ok err s ↔
      ok () (cleared s configObjectId viewType tenantId except) := Iff.rfl

theorem oneActive_cleared (one : OneActive s.views) (configObjectId : Nat)
    (viewType : ConfigObjectViewType) (tenantId except : Option Nat) :
    OneActive (cleared s configObjectId viewType tenantId except).views :=
  @oneActive_switchedOff s one _ deactivated (fun _ => rfl) fun _ => rfl

/-- Once a scope is cleared another view is active in another scope only, if it was before. -/
theorem otherActive_cleared {configObjectId : Nat} {viewType : ConfigObjectViewType}
    {scope tenantId except : Option Nat} :
    OtherActive (cleared s configObjectId viewType scope except) configObjectId viewType tenantId
        except ↔
      tenantId ≠ scope ∧ OtherActive s configObjectId viewType tenantId except := by
  constructor
  · rintro ⟨view, member, different, active, inScope⟩
    obtain ⟨old, oldMember, rfl⟩ := List.mem_map.mp member
    split at active
    · exact absurd active Bool.false_ne_true
    · next kept =>
        rw [if_neg kept] at different inScope
        refine ⟨?_, old, oldMember, different, active, inScope⟩
        rintro rfl
        exact kept (by simp [inScope, different])
  · rintro ⟨otherScope, view, member, different, active, inScope⟩
    have kept : (inScopeOf configObjectId viewType scope view &&
        some view.configObjectViewId != except) = false := by
      simp only [inScopeOf, Bool.and_eq_true, beq_iff_eq] at inScope ⊢
      simp [inScope.2, otherScope]
    exact ⟨view, List.mem_map.mpr ⟨view, member, if_neg (by simp only [kept]; decide)⟩, different,
      active, inScope⟩

/-- A row that is not active collides with none. -/
theorem settles_saveView_inactive (one : OneActive s.views) {view : ConfigObjectViewEntity}
    (inactive : view.isActive = false) : Settles False (saveView view) s :=
  (settles_saveView one view).congr (by simp [activeScopeTaken, inactive])

theorem settles_read {α : Type} {collides : Prop} {next : ViewDb → ViewTx α}
    (settles : Settles collides (next s) s) : Settles collides (Program.read id >>= next) s :=
  settles

theorem settles_check {α β : Type} {collides : Prop} {result : Except ViewRefusal α}
    {next : α → ViewTx β} (one : OneActive s.views)
    (refused : ∀ refusal, result = .error refusal → ¬collides)
    (settles : ∀ value, result = .ok value → Settles collides (next value) s) :
    Settles collides (check result >>= next) s := by
  rcases result with refusal | value
  · exact (settles_refused one refusal).congr (iff_of_false not_false (refused refusal rfl))
  · exact settles value rfl

/-- The audit entry, and the value of the call. -/
theorem settles_logged {α : Type} (one : OneActive s.views) (tenantId : Option Nat)
    (entityId : Nat) (action : AuditAction) (changedBy : Nat) (oldValue newValue : Option Json)
    (value : α) :
    Settles False (logConfigChange tenantId entityId action changedBy oldValue newValue >>=
      fun _ => pure value) s :=
  (settles_logConfigChange one tenantId entityId action changedBy oldValue newValue).before
    fun _ _ one => settles_result one value

theorem settles_createConfigView (one : OneActive s.views) (params : CreateConfigViewParams) :
    Settles (∃ configObject, configObjectForNewView s params = .ok configObject ∧
        OtherActive s configObject.configObjectId params.viewType none none)
      (createConfigView params) s := by
  unfold createConfigView
  refine settles_read (settles_check one ?_ ?_)
  · rintro refusal refused ⟨configObject, found, _⟩
    rw [refused] at found
    cases found
  · intro configObject found
    refine Settles.before ((settles_insertView one (newView params configObject)).congr ?_)
      fun saved t one => settles_logged one _ _ _ _ _ _ _
    rw [activeScopeTaken_iff]
    constructor
    · rintro ⟨_, other⟩
      exact ⟨configObject, found, otherActive_new.mp other⟩
    · rintro ⟨configObject', found', other⟩
      have same : configObject = configObject' := Except.ok.inj (found.symm.trans found')
      subst same
      exact ⟨rfl, otherActive_new.mpr other⟩

theorem settles_updateConfigView (one : OneActive s.views) (params : UpdateConfigViewParams) :
    Settles False (updateConfigView params) s := by
  unfold updateConfigView
  refine settles_read ?_
  split
  · exact settles_refused one _
  · next existing found =>
      refine settles_check one (fun _ _ => not_false) fun _ _ => ?_
      have taken : ¬activeScopeTaken s (relabeledView params existing) = true := fun taken =>
        not_otherActive one (Table.mem_of_find? found) (activeScopeTaken_iff.mp taken).1
          (activeScopeTaken_iff.mp taken).2
      exact ((settles_saveView one _).congr (iff_of_false taken not_false)).before
        fun _ _ one => settles_logged one _ _ _ _ _ _ _

theorem settles_removeView (one : OneActive s.views) (configObjectViewId : Nat) :
    Settles False (removeView configObjectViewId) s :=
  ⟨not_false, one.remove⟩

theorem settles_deleteConfigView (one : OneActive s.views) (tenantId : Option Nat)
    (configObjectViewId deletedBy : Nat) :
    Settles False (deleteConfigView tenantId configObjectViewId deletedBy) s := by
  unfold deleteConfigView
  refine settles_read ?_
  split
  · exact settles_result one ()
  · next existing found =>
      refine settles_check one (fun _ _ => not_false) fun _ _ => ?_
      exact (settles_removeView one _).before
        fun _ _ one => settles_logConfigChange one _ _ _ _ _ _

/-! ## Calls in a scope -/

variable (checks : ViewChecks)

/-- The views of the scope are off where the upsert activates its view. -/
theorem settles_when_cleared {α : Type} {collides : Prop} {next : Unit → ViewTx α}
    {activates : Bool} {configObjectId : Nat} {viewType : ConfigObjectViewType}
    {tenantId except : Option Nat}
    (active : activates = true →
      Settles collides (next ()) (cleared s configObjectId viewType tenantId except))
    (inactive : activates = false → Settles collides (next ()) s) :
    Settles collides (Program.when (activates = true)
      (deactivateViewsInScope configObjectId viewType tenantId except) >>= next) s := by
  unfold Settles
  rw [Program.wp_bind, Program.wp_when]
  exact ⟨fun activated => active activated, fun not => inactive (by simpa using not)⟩

/-- An upsert of an existing view collides when it activates a view of another scope beside
another active view. -/
theorem settles_editScopedView (one : OneActive s.views) (params : UpsertScopedConfigViewParams)
    (configObject : ConfigObjectEntity) (existing : ConfigObjectViewEntity)
    (ofObject : existing.configObjectId = configObject.configObjectId) :
    Settles (∃ config, editedConfig checks s params configObject existing = .ok config ∧
        params.shouldActivate = true ∧ existing.tenantId ≠ params.effectiveTenantId ∧
          OtherActive s configObject.configObjectId params.viewType existing.tenantId
            (some existing.configObjectViewId))
      (editScopedView checks params configObject existing) s := by
  unfold editScopedView
  refine settles_read (settles_check one ?_ ?_)
  · rintro refusal refused ⟨config, edited, _⟩
    exact absurd (refused.symm.trans edited) (by simp)
  · intro config edited
    refine settles_when_cleared ?_ ?_
    · intro activated
      refine Settles.before ((settles_saveView (oneActive_cleared one _ _ _ _) _).congr ?_)
        fun _ _ one => settles_logged one _ _ _ _ _ _ _
      rw [activeScopeTaken_iff]
      simp only [editedView, activated, ofObject, otherActive_cleared, true_and]
      exact ⟨fun other => ⟨config, edited, other⟩, fun ⟨_, _, other⟩ => other⟩
    · intro notActivated
      refine Settles.before ((settles_saveView_inactive one notActivated).congr ?_)
        fun _ _ one => settles_logged one _ _ _ _ _ _ _
      simp [notActivated]

theorem settles_checkCreatedView (one : OneActive s.views) (params : UpsertScopedConfigViewParams)
    (saved : ConfigObjectViewEntity) :
    Settles False (checkCreatedView checks params saved) s := by
  unfold Settles checkCreatedView
  rw [Program.wp_attempt, Program.wp_bind, Program.wp_read]
  rcases checkPanels checks (id s) params saved.configObjectViewId saved.configJson with refusal | _
  · exact ⟨by simp [ViewError.isCollision], one.remove⟩
  · exact ⟨not_false, one⟩

theorem settles_createScopedView (one : OneActive s.views) (params : UpsertScopedConfigViewParams)
    (configObject : ConfigObjectEntity) :
    Settles False (createScopedView checks params configObject) s := by
  unfold createScopedView
  refine settles_read (settles_check one (fun _ _ => not_false) fun config _ => ?_)
  have rest : ∀ saved t, OneActive t.views → Settles False (do
      checkCreatedView checks params saved
      logConfigChange params.effectiveTenantId saved.configObjectViewId .create params.updatedBy
        none (some (scopedFields saved))
      pure saved) t := fun saved t one =>
    (settles_checkCreatedView checks one params saved).before
      fun _ _ one => settles_logged one _ _ _ _ _ _ _
  refine settles_when_cleared ?_ ?_
  · intro activated
    refine ((settles_insertView (oneActive_cleared one _ _ _ _) _).congr ?_).before rest
    rw [activeScopeTaken_iff]
    refine iff_of_false ?_ not_false
    rintro ⟨_, other⟩
    exact (otherActive_cleared.mp (otherActive_new.mp other)).1 rfl
  · intro notActivated
    refine ((settles_insertView one _).congr ?_).before rest
    simp [activeScopeTaken, scopedView, Keyed.withKey, notActivated]

theorem configObjectId_of_existingView {db : ViewDb} {params : UpsertScopedConfigViewParams}
    {configObjectId : Nat} {existing : ConfigObjectViewEntity}
    (found : existingView db params configObjectId = some existing) :
    existing ∈ db.views.rows ∧ existing.configObjectId = configObjectId := by
  unfold existingView at found
  split at found
  · have isRow := List.find?_some found
    simp only [Bool.and_eq_true, beq_iff_eq] at isRow
    exact ⟨List.mem_of_find?_eq_some found, isRow.2⟩
  · obtain ⟨member, inScope⟩ := Table.mem_select.mp (List.argmax_mem found)
    simp only [inScopeOf, Bool.and_eq_true, beq_iff_eq] at inScope
    exact ⟨member, inScope.1.1⟩

theorem resolved_is_unique {db : ViewDb} {entityKey : String} {tenantId : Option Nat}
    {configObject other : ConfigObjectEntity}
    (resolved : resolveConfigObjectForEntityScope db entityKey tenantId = .ok configObject)
    (resolved' : resolveConfigObjectForEntityScope db entityKey tenantId = .ok other) :
    configObject = other := Except.ok.inj (resolved.symm.trans resolved')

/-- An upsert collides when it breaks in on the scope of the view it edits. -/
theorem settles_upsertScopedConfigView (one : OneActive s.views)
    (params : UpsertScopedConfigViewParams) :
    Settles (¬ScopesApart checks s (.upsertScopedConfigView params))
      (upsertScopedConfigView checks params) s := by
  unfold upsertScopedConfigView
  refine settles_read (settles_check one ?_ ?_)
  · intro refusal refused apart
    refine apart fun configObject _ _ resolved => ?_
    exact absurd (refused.symm.trans resolved) (by simp)
  · intro configObject resolved
    split
    · next existing found =>
        have ofObject := (configObjectId_of_existingView found).2
        refine (settles_editScopedView checks one params configObject existing ofObject).congr ?_
        constructor
        · rintro ⟨config, edited, activates, otherScope, other⟩ apart
          exact apart configObject existing config resolved found edited activates otherScope other
        · intro breaks
          by_contra none
          refine breaks fun configObject' existing' config resolved' found' edited activates
            otherScope other => none ?_
          obtain rfl := resolved_is_unique resolved resolved'
          obtain rfl := Option.some.inj (found.symm.trans found')
          exact ⟨config, edited, activates, otherScope, other⟩
    · next noView =>
        refine (settles_createScopedView checks one params configObject).congr
          (iff_of_false not_false (not_not_intro ?_))
        intro configObject' existing config resolved' found
        obtain rfl := resolved_is_unique resolved resolved'
        exact absurd (noView.symm.trans found) (by simp)

theorem mem_of_namedView {db : ViewDb} {configObjectViewId configObjectId : Nat}
    {viewType : ConfigObjectViewType} {view : ConfigObjectViewEntity}
    (found : namedView db configObjectViewId configObjectId viewType = some view) :
    view ∈ db.views.rows ∧ view.configObjectId = configObjectId ∧ view.viewType = viewType := by
  have isView := List.find?_some found
  simp only [Bool.and_eq_true, beq_iff_eq] at isView
  exact ⟨List.mem_of_find?_eq_some found, isView.1.2, isView.2⟩

/-- The call that activates a view has switched off the others of its scope. -/
theorem settles_activateScopedConfigView (one : OneActive s.views) (tenantId : Option Nat)
    (entityKey : String) (viewType : ConfigObjectViewType) (configObjectViewId updatedBy : Nat) :
    Settles False (activateScopedConfigView tenantId entityKey viewType configObjectViewId
      updatedBy) s := by
  unfold activateScopedConfigView
  refine settles_read (settles_check one (fun _ _ => not_false) fun configObject _ => ?_)
  split
  · exact settles_refused one _
  · next target found =>
      obtain ⟨_, ofObject, ofType⟩ := mem_of_namedView found
      split
      · exact settles_refused one _
      · next notOther =>
          have ofScope : target.tenantId = getEffectiveTenantId tenantId := not_not.mp notOther
          have free : ¬activeScopeTaken (cleared s configObject.configObjectId viewType
              (getEffectiveTenantId tenantId) (some target.configObjectViewId))
              (switched true updatedBy target) = true := by
            rw [activeScopeTaken_iff]
            simp only [switched, ofObject, ofType, ofScope, otherActive_cleared]
            exact fun taken => taken.2.1 rfl
          have saved := (settles_saveView (oneActive_cleared one configObject.configObjectId viewType
            (getEffectiveTenantId tenantId) (some target.configObjectViewId)) _).congr
            (iff_of_false free not_false)
          exact saved.before fun _ _ one => settles_logged one _ _ _ _ _ _ _

theorem settles_deactivateScopedConfigView (one : OneActive s.views) (tenantId : Option Nat)
    (entityKey : String) (viewType : ConfigObjectViewType) (configObjectViewId : Option Nat)
    (updatedBy : Nat) :
    Settles False (deactivateScopedConfigView tenantId entityKey viewType configObjectViewId
      updatedBy) s := by
  unfold deactivateScopedConfigView
  refine settles_read (settles_check one (fun _ _ => not_false) fun configObject _ => ?_)
  split
  · split
    · exact settles_result one 0
    · split
      · exact settles_refused one _
      · exact (settles_saveView_inactive one rfl).before
          fun _ _ one => settles_logged one _ _ _ _ _ _ _
  · exact ⟨not_false, @oneActive_switchedOff s one _ (switched false updatedBy) (fun _ => rfl)
      fun _ => rfl⟩

/-! ## Runs -/

theorem Settles.unit {α : Type} {collides : Prop} {program : ViewTx α}
    (settles : Settles collides program s) :
    Settles collides (do let _ ← program; pure ()) s :=
  settles.before fun _ _ one => settles_result one ()

/-- Every call ends in one active view for each scope, and collides exactly when it breaks in on
a scope that has an active view. -/
theorem settles_perform (one : OneActive s.views) (call : ViewCall) :
    Settles (¬ScopesApart checks s call) (call.perform checks) s := by
  have never : False ↔ ¬True := by simp
  cases call with
  | createConfigView params =>
      refine (settles_createConfigView one params).unit.congr ?_
      simp [ScopesApart]
  | updateConfigView params => exact (settles_updateConfigView one params).unit.congr never
  | deleteConfigView tenantId configObjectViewId deletedBy =>
      exact (settles_deleteConfigView one tenantId configObjectViewId deletedBy).congr never
  | upsertScopedConfigView params => exact (settles_upsertScopedConfigView checks one params).unit
  | activateScopedConfigView tenantId entityKey viewType configObjectViewId updatedBy =>
      exact (settles_activateScopedConfigView one tenantId entityKey viewType configObjectViewId
        updatedBy).unit.congr never
  | deactivateScopedConfigView tenantId entityKey viewType configObjectViewId updatedBy =>
      exact (settles_deactivateScopedConfigView one tenantId entityKey viewType configObjectViewId
        updatedBy).unit.congr never

theorem oneActive_step (one : OneActive s.views) (call : ViewCall) :
    OneActive ((viewSystem checks).step s call).views :=
  Program.wp_end (fun after : ViewDb => OneActive after.views)
    (Program.wp_mono (settles_perform checks one call) (fun _ _ after => after.2)
      fun _ _ after => after.2)

theorem collides_iff (one : OneActive s.views) (call : ViewCall) :
    Collides checks s call ↔ ¬ScopesApart checks s call := by
  have settles := settles_perform checks one call
  unfold Settles Program.wp at settles
  unfold Collides
  rcases ended : call.perform checks s with ⟨failure | _, after⟩
  · rw [ended] at settles
    exact settles.1
  · rw [ended] at settles
    exact iff_of_false not_false settles.1

/-- Every scope keeps one active view, whatever is called. -/
theorem oneActive_run {start : ViewDb} (one : OneActive start.views) (calls : List ViewCall) :
    OneActive ((viewSystem checks).run start calls).views :=
  @StepSystem.run_invariant _ _ _ (fun db : ViewDb => OneActive db.views)
    (fun _ call one => oneActive_step checks one call) _ one calls

/-- The index on active views refuses no row of a run, and every scope keeps one active view,
exactly when every call keeps the scopes apart. -/
theorem scopes_never_collide_iff {start : ViewDb} (one : OneActive start.views)
    (calls : List ViewCall) :
    ((viewSystem checks).Guarded (fun db call => ¬Collides checks db call) start calls ∧
        OneActive ((viewSystem checks).run start calls).views) ↔
      (viewSystem checks).Guarded (ScopesApart checks) start calls := by
  have kept : ∀ db call, OneActive db.views →
      OneActive ((viewSystem checks).step db call).views :=
    fun db call one => oneActive_step checks one call
  constructor
  · rintro ⟨free, _⟩
    refine StepSystem.Guarded.strengthen (fun db call one _ => kept db call one) ?_ one free
    exact fun db call one free => not_not.mp (mt (collides_iff checks one call).mpr free)
  · intro apart
    refine ⟨StepSystem.Guarded.strengthen (fun db call one _ => kept db call one) ?_ one apart,
      oneActive_run checks one calls⟩
    exact fun db call one apart collides => (collides_iff checks one call).mp collides apart

end Calls

/-! ## Two views created by key -/

/-- Every configuration is taken as it is. -/
def takesAll : ViewChecks where
  assertNoForbiddenInlineFieldAuthoringKeysInViewConfig _ := .ok ()
  normalizeListViewConfigJsonOrThrow config := .ok config
  normalizeDetailFormViewConfigJsonOrThrow config := .ok config
  assertScopedViewConfigFieldKeysExist _ _ _ _ := .ok ()
  assertPanelKeysExistForView _ _ _ := .ok ()
  assertFormViewWriteSchemaConstraints _ _ _ _ _ := .ok ()

/-- A tenant with a published object of tasks, which has no views. -/
def withoutViews : ViewDb where
  tenants := [1]
  tenantUsers := [1]
  templateSets := .ofRows [{ configTemplateSetId := 0, tenantId := some 1, status := .published }]
  configObjects := .ofRows
    [{ configObjectId := 0, configTemplateSetId := 1, objectType := "task", status := .published }]
  views := .empty _
  auditLogs := []

/-- A call that creates a list of tasks by key. -/
def addTaskList (viewKey : String) : ViewCall :=
  .createConfigView
    { tenantId := some 1
      objectType := "task"
      createdBy := 1
      viewKey := viewKey
      viewType := .list
      name := viewKey }

/-- A call by which the tenant sets its own list of tasks. -/
def setTaskList : ViewCall :=
  .upsertScopedConfigView
    { tenantId := some 1
      entityKey := "task"
      viewType := .list
      updatedBy := 1 }

theorem withoutViews_oneActive : OneActive withoutViews.views := nofun

theorem scopes_never_collide_setTaskList :
    (viewSystem takesAll).Guarded (ScopesApart takesAll) withoutViews
      [addTaskList "open", setTaskList, setTaskList] :=
  (scopes_never_collide_iff takesAll withoutViews_oneActive _).mp
    ⟨by decide, oneActive_run takesAll withoutViews_oneActive _⟩

/-- A second list created under another key is refused by the index. -/
theorem second_list_collides : OneActive withoutViews.views ∧
    ¬(viewSystem takesAll).Guarded (fun db call => ¬Collides takesAll db call) withoutViews
      [addTaskList "open", addTaskList "done"] :=
  ⟨withoutViews_oneActive, by decide⟩

end CoreApi.ConfigObjects
