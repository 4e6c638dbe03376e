import CoreApi.Foundation.StepSystem
import CoreApi.ConfigObjects.ConfigLifecycleService

/-!
# Lifecycle integrity

States and transitions refer to each other by key only. Their keys stay unique whatever is
called; that a transition leads between states that exist is up to the calls that store a
transition or remove a state.
-/

namespace CoreApi.ConfigObjects

open CoreApi.Foundation Automation ConfigLifecycleService

/-- A call of the lifecycle service that configures. -/
inductive LifecycleCall where
  | createLifecycle (params : CreateLifecycleParams)
  | updateLifecycle (params : UpdateLifecycleParams)
  | deleteLifecycle (tenantId : Option Nat) (configObjectLifecycleId deletedBy : Nat)
  | createLifecycleTransition (params : CreateLifecycleTransitionParams)
  | updateLifecycleTransition (params : UpdateLifecycleTransitionParams)
  | deleteLifecycleTransition (tenantId : Option Nat)
      (configObjectLifecycleTransitionId deletedBy : Nat)

section Calls

variable (parse : String → Except String Json)

/-- Run a call. -/
def LifecycleCall.perform : LifecycleCall → ConfigLifecycleService.Tx Unit
  | .createLifecycle params => do let _ ← ConfigLifecycleService.createLifecycle params
  | .updateLifecycle params => do let _ ← ConfigLifecycleService.updateLifecycle params
  | .deleteLifecycle tenantId configObjectLifecycleId deletedBy =>
      ConfigLifecycleService.deleteLifecycle tenantId configObjectLifecycleId deletedBy
  | .createLifecycleTransition params => do
      let _ ← ConfigLifecycleService.createLifecycleTransition parse params
  | .updateLifecycleTransition params => do
      let _ ← ConfigLifecycleService.updateLifecycleTransition parse params
  | .deleteLifecycleTransition tenantId configObjectLifecycleTransitionId deletedBy =>
      ConfigLifecycleService.deleteLifecycleTransition tenantId configObjectLifecycleTransitionId
        deletedBy

/-- The configuration of lifecycles; a call that raises keeps what it wrote. -/
def lifecycleSystem : StepSystem LifecycleDb LifecycleCall where
  step db call := (call.perform parse db).2

end Calls

/-! ## Integrity -/

/-- The config object has a state of that key. -/
def IsState (db : LifecycleDb) (configObjectId : Nat) (stateKey : String) : Prop :=
  ∃ lifecycle ∈ db.lifecycles.rows,
    lifecycle.configObjectId = configObjectId ∧ lifecycle.stateKey = stateKey

/-- Every transition leads between states of its config object. -/
def Intact (db : LifecycleDb) : Prop :=
  ∀ transition ∈ db.transitions.rows, IsState db transition.configObjectId transition.fromStateKey ∧
    IsState db transition.configObjectId transition.toStateKey

/-- Two states of one object have different keys. -/
def DifferentStates (first second : ConfigObjectLifecycleEntity) : Prop :=
  first.configObjectId = second.configObjectId → first.stateKey ≠ second.stateKey

/-- Two transitions of one object have different ends. -/
def DifferentTransitions (first second : ConfigObjectLifecycleTransitionEntity) : Prop :=
  first.configObjectId = second.configObjectId →
    ¬ (first.fromStateKey = second.fromStateKey ∧ first.toStateKey = second.toStateKey)

/-- Keys are unique for each config object. -/
structure UniqueKeys (db : LifecycleDb) : Prop where
  lifecycles : db.lifecycles.Pairwise DifferentStates
  transitions : db.transitions.Pairwise DifferentTransitions

/-- The call comes to store a transition for a config object. -/
def StoresTransition (parse : String → Except String Json) (db : LifecycleDb)
    (params : CreateLifecycleTransitionParams) (configObject : ConfigObjectEntity) : Prop :=
  configuredObject db (getEffectiveTenantId params.tenantId) params.configTemplateSetId
      params.objectType = .ok configObject ∧
    findTransition db configObject.configObjectId params.fromStateKey params.toStateKey = none ∧
    ∃ rules, parseRules parse params.rulesJson = .ok rules

/-- The scope may change what is configured for the config object. -/
def MayChange (db : LifecycleDb) (tenantId : Option Nat) (configObjectId : Nat) : Prop :=
  ∃ configObject, db.configObjects.find? configObjectId = some configObject ∧
    (templateSetInScope db (getEffectiveTenantId tenantId)
      configObject.configTemplateSetId).isSome = true

/-- A transition is stored between states that exist, and a state is removed when no
transition of its object uses it. -/
def KeepsStates (parse : String → Except String Json) (db : LifecycleDb) : LifecycleCall → Prop
  | .createLifecycleTransition params => ∀ configObject,
      StoresTransition parse db params configObject →
        IsState db configObject.configObjectId params.fromStateKey ∧
          IsState db configObject.configObjectId params.toStateKey
  | .deleteLifecycle tenantId configObjectLifecycleId _ => ∀ lifecycle,
      db.lifecycles.find? configObjectLifecycleId = some lifecycle →
        MayChange db tenantId lifecycle.configObjectId →
          ∀ transition ∈ db.transitions.rows,
            transition.configObjectId = lifecycle.configObjectId →
              transition.fromStateKey ≠ lifecycle.stateKey ∧
                transition.toStateKey ≠ lifecycle.stateKey
  | _ => True

/-! ## What a call does -/

section Effects

variable {db after : LifecycleDb}

/-- Neither a state nor a transition was written. -/
structure SameLifecycles (db after : LifecycleDb) : Prop where
  lifecycles : after.lifecycles = db.lifecycles
  transitions : after.transitions = db.transitions

theorem SameLifecycles.refl (db : LifecycleDb) : SameLifecycles db db := ⟨rfl, rfl⟩

/-- The call comes neither to store a transition nor to remove a state. -/
def StoresNothing (parse : String → Except String Json) (db : LifecycleDb) : LifecycleCall → Prop
  | .createLifecycleTransition params => ∀ configObject, ¬ StoresTransition parse db params configObject
  | .deleteLifecycle tenantId configObjectLifecycleId _ => ∀ lifecycle,
      db.lifecycles.find? configObjectLifecycleId = some lifecycle →
        ¬ MayChange db tenantId lifecycle.configObjectId
  | _ => True

/-- What a call may leave. -/
inductive Configured (parse : String → Except String Json) (db : LifecycleDb) :
    LifecycleCall → LifecycleDb → Prop where
  | kept {call : LifecycleCall} {after : LifecycleDb} (same : SameLifecycles db after)
      (nothing : StoresNothing parse db call) : Configured parse db call after
  | stateStored (params : CreateLifecycleParams) {after : LifecycleDb}
      (lifecycle : ConfigObjectLifecycleEntity)
      (new : ∀ other ∈ db.lifecycles.rows, DifferentStates other lifecycle)
      (lifecycles : after.lifecycles = db.lifecycles.insert lifecycle)
      (transitions : after.transitions = db.transitions) :
      Configured parse db (.createLifecycle params) after
  | stateChanged (params : UpdateLifecycleParams) {after : LifecycleDb}
      (configObjectLifecycleId : Nat)
      (change : ConfigObjectLifecycleEntity → ConfigObjectLifecycleEntity)
      (keeps : ∀ row, Keyed.key (change row) = Keyed.key row)
      (configObject : ∀ row, (change row).configObjectId = row.configObjectId)
      (stateKey : ∀ row, (change row).stateKey = row.stateKey)
      (lifecycles : after.lifecycles =
        db.lifecycles.updateAt configObjectLifecycleId change keeps)
      (transitions : after.transitions = db.transitions) :
      Configured parse db (.updateLifecycle params) after
  | stateRemoved (tenantId : Option Nat) (configObjectLifecycleId deletedBy : Nat)
      {after : LifecycleDb} (lifecycle : ConfigObjectLifecycleEntity)
      (found : db.lifecycles.find? configObjectLifecycleId = some lifecycle)
      (may : MayChange db tenantId lifecycle.configObjectId)
      (lifecycles : after.lifecycles = db.lifecycles.remove fun row =>
        row.configObjectLifecycleId == lifecycle.configObjectLifecycleId)
      (transitions : after.transitions = db.transitions) :
      Configured parse db (.deleteLifecycle tenantId configObjectLifecycleId deletedBy) after
  | transitionStored (params : CreateLifecycleTransitionParams) {after : LifecycleDb}
      (configObject : ConfigObjectEntity)
      (stores : StoresTransition parse db params configObject) (rulesJson : Option Json)
      (lifecycles : after.lifecycles = db.lifecycles)
      (transitions : after.transitions = db.transitions.insert
        ⟨0, configObject.configObjectId, params.fromStateKey, params.toStateKey, rulesJson⟩) :
      Configured parse db (.createLifecycleTransition params) after
  | transitionChanged (params : UpdateLifecycleTransitionParams) {after : LifecycleDb}
      (configObjectLifecycleTransitionId : Nat) (rulesJson : Option Json)
      (lifecycles : after.lifecycles = db.lifecycles)
      (transitions : after.transitions = db.transitions.updateAt configObjectLifecycleTransitionId
        (fun row => { row with rulesJson := rulesJson }) fun _ => rfl) :
      Configured parse db (.updateLifecycleTransition params) after
  | transitionRemoved (tenantId : Option Nat)
      (configObjectLifecycleTransitionId deletedBy : Nat) {after : LifecycleDb}
      (lifecycles : after.lifecycles = db.lifecycles)
      (transitions : after.transitions = db.transitions.remove fun row =>
        row.configObjectLifecycleTransitionId == configObjectLifecycleTransitionId) :
      Configured parse db
        (.deleteLifecycleTransition tenantId configObjectLifecycleTransitionId deletedBy) after

theorem checkMembership_ok {tenantId : Option Nat} {configObjectId : Nat}
    {noObject noMember : String} :
    checkMembership db (getEffectiveTenantId tenantId) configObjectId noObject noMember = .ok () ↔
      MayChange db tenantId configObjectId := by
  unfold checkMembership MayChange
  rcases db.configObjects.find? configObjectId with _ | configObject
  · simp
  · rcases found : templateSetInScope db (getEffectiveTenantId tenantId)
      configObject.configTemplateSetId <;> simp [found]

theorem logConfigChange_same (tenantId : Nat) (entityType : AuditEntityType) (entityId : Nat)
    (action : AuditAction) (changedBy : Nat) (oldValue newValue : Option Json)
    (db : LifecycleDb) :
    Program.wp (logConfigChange tenantId entityType entityId action changedBy oldValue newValue)
      (fun _ after => SameLifecycles db after) (fun _ after => SameLifecycles db after) db := by
  unfold logConfigChange
  rw [Program.wp_bind, Program.wp_read, Program.wp_ite]
  exact ⟨fun _ => ⟨rfl, rfl⟩, fun _ => .refl db⟩

variable {parse : String → Except String Json}

/-- Both ends of a run leave what `Configured` says of the call. -/
abbrev Meets {α : Type} (parse : String → Except String Json) (db : LifecycleDb)
    (call : LifecycleCall) (body : ConfigLifecycleService.Tx α) : Prop :=
  Program.wp body (fun _ after => Configured parse db call after)
    (fun _ after => Configured parse db call after) db

theorem createLifecycle_configured (params : CreateLifecycleParams) :
    Meets parse db (.createLifecycle params) (createLifecycle params) := by
  unfold Meets createLifecycle
  rw [Program.wp_bind, Program.wp_read, Program.wp_bind]
  rcases configuredObject (id db) _ params.configTemplateSetId params.objectType with e | configObject
  · exact .kept (.refl db) trivial
  · rw [Program.wp_lift_ok]
    split
    · exact .kept (.refl db) trivial
    · next notFound =>
        have new : ∀ other ∈ db.lifecycles.rows, DifferentStates other
            ⟨0, configObject.configObjectId, params.stateKey, params.label, params.description,
              params.orderIndex.getD 0⟩ := by
          intro other member sameObject sameKey
          have isState := List.find?_eq_none.mp notFound other member
          simp [sameObject, sameKey] at isState
        rw [Program.wp_bind, Program.wp_writeReturning, Program.wp_bind]
        exact Program.wp_mono (logConfigChange_same _ _ _ _ _ _ _ _)
          (fun _ after same => .stateStored params _ new same.lifecycles same.transitions)
          (fun _ after same => .stateStored params _ new same.lifecycles same.transitions)

theorem updateLifecycle_configured (params : UpdateLifecycleParams) :
    Meets parse db (.updateLifecycle params) (updateLifecycle params) := by
  unfold Meets updateLifecycle
  rw [Program.wp_bind, Program.wp_read]
  split
  · exact .kept (.refl db) trivial
  · next lifecycle _ =>
      rw [Program.wp_bind]
      rcases checkMembership (id db) _ lifecycle.configObjectId _ _ with e | ok
      · exact .kept (.refl db) trivial
      · rw [Program.wp_lift_ok, Program.wp_bind, Program.wp_write, Program.wp_bind]
        exact Program.wp_mono (logConfigChange_same _ _ _ _ _ _ _ _)
          (fun _ after same => .stateChanged params lifecycle.configObjectLifecycleId
            (relabeled params lifecycle) (fun _ => rfl) (fun _ => rfl) (fun _ => rfl)
            same.lifecycles same.transitions)
          (fun _ after same => .stateChanged params lifecycle.configObjectLifecycleId
            (relabeled params lifecycle) (fun _ => rfl) (fun _ => rfl) (fun _ => rfl)
            same.lifecycles same.transitions)

theorem deleteLifecycle_configured (tenantId : Option Nat)
    (configObjectLifecycleId deletedBy : Nat) :
    Meets parse db (.deleteLifecycle tenantId configObjectLifecycleId deletedBy)
      (deleteLifecycle tenantId configObjectLifecycleId deletedBy) := by
  unfold Meets deleteLifecycle
  rw [Program.wp_bind, Program.wp_read]
  split
  · next none => exact .kept (.refl db) fun lifecycle found => nomatch found.symm.trans none
  · next lifecycle found =>
      rw [Program.wp_bind]
      rcases checked : checkMembership (id db) _ lifecycle.configObjectId _ _ with e | ok
      · refine .kept (.refl db) fun other isOther may => ?_
        obtain rfl := Option.some.inj (found.symm.trans isOther)
        exact nomatch checked.symm.trans (checkMembership_ok.mpr may)
      · have may := checkMembership_ok.mp checked
        rw [Program.wp_lift_ok, Program.wp_bind, Program.wp_write]
        exact Program.wp_mono (logConfigChange_same _ _ _ _ _ _ _ _)
          (fun _ after same => .stateRemoved tenantId configObjectLifecycleId deletedBy lifecycle
            found may same.lifecycles same.transitions)
          (fun _ after same => .stateRemoved tenantId configObjectLifecycleId deletedBy lifecycle
            found may same.lifecycles same.transitions)

theorem createLifecycleTransition_configured (params : CreateLifecycleTransitionParams) :
    Meets parse db (.createLifecycleTransition params)
      (createLifecycleTransition parse params) := by
  unfold Meets createLifecycleTransition
  rw [Program.wp_bind, Program.wp_read, Program.wp_bind]
  rcases resolved : configuredObject (id db) _ params.configTemplateSetId params.objectType with
    e | configObject
  · exact .kept (.refl db) fun configObject stores => nomatch resolved.symm.trans stores.1
  · rw [Program.wp_lift_ok]
    have isObject : ∀ other, StoresTransition parse db params other → other = configObject :=
      fun other stores => Except.ok.inj (stores.1.symm.trans resolved)
    split
    · next found =>
        refine .kept (.refl db) fun other stores => ?_
        obtain rfl := isObject other stores
        exact nomatch found.symm.trans stores.2.1
    · next notFound =>
        rw [Program.wp_bind]
        rcases parsed : parseRules parse params.rulesJson with e | rulesJson
        · refine .kept (.refl db) fun other stores => ?_
          obtain ⟨rules, isParsed⟩ := stores.2.2
          exact nomatch parsed.symm.trans isParsed
        · have stores : StoresTransition parse db params configObject :=
            ⟨resolved, notFound, rulesJson, parsed⟩
          rw [Program.wp_lift_ok, Program.wp_bind, Program.wp_writeReturning, Program.wp_bind]
          exact Program.wp_mono (logConfigChange_same _ _ _ _ _ _ _ _)
            (fun _ after same => .transitionStored params configObject stores rulesJson
              same.lifecycles same.transitions)
            (fun _ after same => .transitionStored params configObject stores rulesJson
              same.lifecycles same.transitions)

theorem updateLifecycleTransition_configured (params : UpdateLifecycleTransitionParams) :
    Meets parse db (.updateLifecycleTransition params)
      (updateLifecycleTransition parse params) := by
  unfold Meets updateLifecycleTransition
  rw [Program.wp_bind, Program.wp_read]
  split
  · exact .kept (.refl db) trivial
  · next transition _ =>
      rw [Program.wp_bind]
      rcases checkMembership (id db) _ transition.configObjectId _ _ with e | ok
      · exact .kept (.refl db) trivial
      · rw [Program.wp_lift_ok, Program.wp_bind]
        rcases nextRules parse transition.rulesJson params.rulesJson with e | rulesJson
        · exact .kept (.refl db) trivial
        · rw [Program.wp_lift_ok, Program.wp_bind, Program.wp_write, Program.wp_bind]
          exact Program.wp_mono (logConfigChange_same _ _ _ _ _ _ _ _)
            (fun _ after same => .transitionChanged params
              transition.configObjectLifecycleTransitionId rulesJson same.lifecycles
              same.transitions)
            (fun _ after same => .transitionChanged params
              transition.configObjectLifecycleTransitionId rulesJson same.lifecycles
              same.transitions)

theorem deleteLifecycleTransition_configured (tenantId : Option Nat)
    (configObjectLifecycleTransitionId deletedBy : Nat) :
    Meets parse db
      (.deleteLifecycleTransition tenantId configObjectLifecycleTransitionId deletedBy)
      (deleteLifecycleTransition tenantId configObjectLifecycleTransitionId deletedBy) := by
  unfold Meets deleteLifecycleTransition
  rw [Program.wp_bind, Program.wp_read]
  split
  · exact .kept (.refl db) trivial
  · next transition found =>
      obtain rfl : transition.configObjectLifecycleTransitionId =
        configObjectLifecycleTransitionId := Table.key_of_find? found
      rw [Program.wp_bind]
      rcases checkMembership (id db) _ transition.configObjectId _ _ with e | ok
      · exact .kept (.refl db) trivial
      · rw [Program.wp_lift_ok, Program.wp_bind, Program.wp_write]
        exact Program.wp_mono (logConfigChange_same _ _ _ _ _ _ _ _)
          (fun _ after same => .transitionRemoved tenantId _ deletedBy same.lifecycles
            same.transitions)
          (fun _ after same => .transitionRemoved tenantId _ deletedBy same.lifecycles
            same.transitions)

/-- Every call leaves what `Configured` says. -/
theorem step_configured (db : LifecycleDb) (call : LifecycleCall) :
    Configured parse db call ((lifecycleSystem parse).step db call) := by
  refine Program.wp_end (fun after : LifecycleDb => Configured parse db call after) ?_
  cases call with
  | createLifecycle params =>
      exact (Program.wp_bind _ _ _).mpr (createLifecycle_configured params)
  | updateLifecycle params =>
      exact (Program.wp_bind _ _ _).mpr (updateLifecycle_configured params)
  | deleteLifecycle tenantId id deletedBy => exact deleteLifecycle_configured tenantId id deletedBy
  | createLifecycleTransition params =>
      exact (Program.wp_bind _ _ _).mpr (createLifecycleTransition_configured params)
  | updateLifecycleTransition params =>
      exact (Program.wp_bind _ _ _).mpr (updateLifecycleTransition_configured params)
  | deleteLifecycleTransition tenantId id deletedBy =>
      exact deleteLifecycleTransition_configured tenantId id deletedBy

/-! ## Unique keys -/

theorem DifferentStates.symm {first second : ConfigObjectLifecycleEntity}
    (different : DifferentStates first second) : DifferentStates second first :=
  fun same => (different same.symm).symm

theorem DifferentTransitions.symm {first second : ConfigObjectLifecycleTransitionEntity}
    (different : DifferentTransitions first second) : DifferentTransitions second first :=
  fun same ends => different same.symm ⟨ends.1.symm, ends.2.symm⟩

/-- The state keeps its object and its key. -/
structure SameState (old lifecycle : ConfigObjectLifecycleEntity) : Prop where
  configObjectId : lifecycle.configObjectId = old.configObjectId
  stateKey : lifecycle.stateKey = old.stateKey

/-- The transition keeps its object and its ends. -/
structure SameEnds (old transition : ConfigObjectLifecycleTransitionEntity) : Prop where
  configObjectId : transition.configObjectId = old.configObjectId
  fromStateKey : transition.fromStateKey = old.fromStateKey
  toStateKey : transition.toStateKey = old.toStateKey

theorem DifferentStates.same {first second first' second' : ConfigObjectLifecycleEntity}
    (same : SameState first first') (same' : SameState second second')
    (different : DifferentStates first second) : DifferentStates first' second' := by
  unfold DifferentStates at different ⊢
  rw [same.configObjectId, same'.configObjectId, same.stateKey, same'.stateKey]
  exact different

theorem DifferentTransitions.same
    {first second first' second' : ConfigObjectLifecycleTransitionEntity}
    (same : SameEnds first first') (same' : SameEnds second second')
    (different : DifferentTransitions first second) : DifferentTransitions first' second' := by
  unfold DifferentTransitions at different ⊢
  rw [same.configObjectId, same'.configObjectId, same.fromStateKey, same'.fromStateKey,
    same.toStateKey, same'.toStateKey]
  exact different

theorem StoresTransition.new {params : CreateLifecycleTransitionParams}
    {configObject : ConfigObjectEntity} (stores : StoresTransition parse db params configObject)
    (rulesJson : Option Json) : ∀ other ∈ db.transitions.rows, DifferentTransitions other
      ⟨0, configObject.configObjectId, params.fromStateKey, params.toStateKey, rulesJson⟩ := by
  intro other member same ends
  have notFound := List.find?_eq_none.mp stores.2.1 other member
  simp [same, ends.1, ends.2] at notFound

/-- Whatever is called, keys stay unique. -/
theorem Configured.uniqueKeys {call : LifecycleCall} (configured : Configured parse db call after)
    (unique : UniqueKeys db) : UniqueKeys after := by
  obtain ⟨states, ends⟩ := unique
  cases configured with
  | kept same => exact ⟨same.lifecycles ▸ states, same.transitions ▸ ends⟩
  | stateStored _ lifecycle new lifecycles transitions =>
      refine ⟨?_, transitions ▸ ends⟩
      exact states.append DifferentStates.symm (congrArg Table.rows lifecycles) new
  | stateChanged _ _ _ _ configObject stateKey lifecycles transitions =>
      refine ⟨?_, transitions ▸ ends⟩
      rw [lifecycles]
      exact states.images (Table.images_update (fun _ => ⟨rfl, rfl⟩)
        fun row _ _ => ⟨configObject row, stateKey row⟩) DifferentStates.same
  | stateRemoved _ _ _ _ _ _ lifecycles transitions =>
      exact ⟨lifecycles ▸ states.remove, transitions ▸ ends⟩
  | transitionStored _ _ stores rulesJson lifecycles transitions =>
      refine ⟨lifecycles ▸ states, ?_⟩
      exact ends.append DifferentTransitions.symm (congrArg Table.rows transitions)
        (stores.new rulesJson)
  | transitionChanged _ _ _ lifecycles transitions =>
      refine ⟨lifecycles ▸ states, ?_⟩
      rw [transitions]
      exact ends.images (Table.images_update (fun _ => ⟨rfl, rfl, rfl⟩)
        fun row _ _ => ⟨rfl, rfl, rfl⟩) DifferentTransitions.same
  | transitionRemoved _ _ _ lifecycles transitions =>
      exact ⟨lifecycles ▸ states, transitions ▸ ends.remove⟩

/-! ## Transitions between states -/

/-- States that keep their keys are still there. -/
theorem IsState.keeps {configObjectId : Nat} {stateKey : String}
    (isState : IsState db configObjectId stateKey)
    (keeps : db.lifecycles.Keeps SameState after.lifecycles) :
    IsState after configObjectId stateKey := by
  obtain ⟨old, oldMember, ofObject, isKey⟩ := isState
  obtain ⟨lifecycle, member, _, same⟩ := keeps old oldMember
  exact ⟨lifecycle, member, same.configObjectId.trans ofObject, same.stateKey.trans isKey⟩

/-- Transitions that are still there lead between states that are. -/
theorem Intact.images (intact : Intact db)
    (keeps : db.lifecycles.Keeps SameState after.lifecycles)
    (images : db.transitions.Images SameEnds after.transitions) : Intact after := by
  intro transition member
  obtain ⟨old, oldMember, _, same⟩ := images transition member
  rw [same.configObjectId, same.fromStateKey, same.toStateKey]
  exact ⟨(intact old oldMember).1.keeps keeps, (intact old oldMember).2.keeps keeps⟩

theorem UniqueKeys.isState_removed (unique : UniqueKeys db)
    {lifecycle : ConfigObjectLifecycleEntity} (member : lifecycle ∈ db.lifecycles.rows)
    (lifecycles : after.lifecycles = db.lifecycles.remove fun row =>
      row.configObjectLifecycleId == lifecycle.configObjectLifecycleId)
    {configObjectId : Nat} {stateKey : String} :
    IsState after configObjectId stateKey ↔ IsState db configObjectId stateKey ∧
      ¬ (configObjectId = lifecycle.configObjectId ∧ stateKey = lifecycle.stateKey) := by
  unfold IsState
  rw [lifecycles]
  constructor
  · rintro ⟨other, otherMember, rfl, rfl⟩
    obtain ⟨known, different⟩ := Table.mem_remove.mp otherMember
    have keys : other.configObjectLifecycleId ≠ lifecycle.configObjectLifecycleId := by
      simpa using different
    exact ⟨⟨other, known, rfl, rfl⟩,
      fun same => unique.lifecycles other known lifecycle member keys same.1 same.2⟩
  · rintro ⟨⟨other, known, rfl, rfl⟩, different⟩
    refine ⟨other, Table.mem_remove.mpr ⟨known, ?_⟩, rfl, rfl⟩
    have keys : other.configObjectLifecycleId ≠ lifecycle.configObjectLifecycleId := fun same => by
      obtain rfl := Table.eq_of_key_eq known member same
      exact different ⟨rfl, rfl⟩
    simpa using keys

theorem keepsStates_refl (db : LifecycleDb) : db.lifecycles.Keeps SameState db.lifecycles :=
  .refl (fun _ => ⟨rfl, rfl⟩) _

theorem keepsEnds_refl (db : LifecycleDb) : db.transitions.Images SameEnds db.transitions :=
  fun row member => ⟨row, member, rfl, rfl, rfl, rfl⟩

theorem Configured.intact_iff {call : LifecycleCall} (configured : Configured parse db call after)
    (intact : Intact db) (unique : UniqueKeys db) : Intact after ↔ KeepsStates parse db call := by
  cases configured with
  | kept same nothing =>
      refine iff_of_true (intact.images ?_ ?_) ?_
      · exact same.lifecycles ▸ keepsStates_refl db
      · exact same.transitions ▸ keepsEnds_refl db
      · cases call with
        | createLifecycleTransition params =>
            exact fun configObject stores => absurd stores (nothing configObject)
        | deleteLifecycle tenantId id deletedBy =>
            exact fun lifecycle found may => absurd may (nothing lifecycle found)
        | _ => trivial
  | stateStored _ lifecycle _ lifecycles transitions =>
      refine iff_of_true (intact.images ?_ (transitions ▸ keepsEnds_refl db)) trivial
      exact .append (fun _ => ⟨rfl, rfl⟩) (congrArg Table.rows lifecycles)
  | stateChanged _ _ _ _ configObject stateKey lifecycles transitions =>
      refine iff_of_true (intact.images ?_ (transitions ▸ keepsEnds_refl db)) trivial
      rw [lifecycles]
      exact Table.keeps_update (fun _ => ⟨rfl, rfl⟩) fun row _ _ => ⟨configObject row, stateKey row⟩
  | stateRemoved tenantId id deletedBy lifecycle found may lifecycles transitions =>
      have left : ∀ configObjectId stateKey, IsState after configObjectId stateKey ↔
          IsState db configObjectId stateKey ∧
            ¬ (configObjectId = lifecycle.configObjectId ∧ stateKey = lifecycle.stateKey) :=
        fun _ _ => unique.isState_removed (Table.mem_of_find? found) lifecycles
      unfold Intact
      rw [transitions]
      constructor
      · intro intactAfter other isOther _ transition member ofObject
        obtain rfl := Option.some.inj (found.symm.trans isOther)
        obtain ⟨isFrom, isTo⟩ := intactAfter transition member
        exact ⟨fun same => ((left _ _).mp isFrom).2 ⟨ofObject, same⟩,
          fun same => ((left _ _).mp isTo).2 ⟨ofObject, same⟩⟩
      · intro unused transition member
        have notUsed := unused lifecycle found may transition member
        obtain ⟨isFrom, isTo⟩ := intact transition member
        exact ⟨(left _ _).mpr ⟨isFrom, fun same => (notUsed same.1).1 same.2⟩,
          (left _ _).mpr ⟨isTo, fun same => (notUsed same.1).2 same.2⟩⟩
  | transitionStored params configObject stores rulesJson lifecycles transitions =>
      have isState : ∀ configObjectId stateKey, IsState after configObjectId stateKey ↔
          IsState db configObjectId stateKey := fun _ _ => by
        unfold IsState
        rw [lifecycles]
      unfold Intact
      rw [transitions]
      simp only [isState]
      constructor
      · intro intactAfter other stores'
        obtain rfl := Except.ok.inj (stores'.1.symm.trans stores.1)
        exact intactAfter _ (List.mem_append_right _ (List.mem_singleton_self _))
      · intro states transition member
        rcases List.mem_append.mp member with old | new
        · exact intact transition old
        · rw [List.mem_singleton.mp new]
          exact states configObject stores
  | transitionChanged _ _ _ lifecycles transitions =>
      refine iff_of_true (intact.images (lifecycles ▸ keepsStates_refl db) ?_) trivial
      rw [transitions]
      exact Table.images_update (fun _ => ⟨rfl, rfl, rfl⟩) fun _ _ _ => ⟨rfl, rfl, rfl⟩
  | transitionRemoved _ _ _ lifecycles transitions =>
      refine iff_of_true (intact.images (lifecycles ▸ keepsStates_refl db) ?_) trivial
      rw [transitions]
      exact fun row member => ⟨row, (Table.mem_remove.mp member).1, rfl, rfl, rfl, rfl⟩

end Effects

/-- From a state that is intact, whatever is called: keys stay unique, and every call leaves
the transitions between states that exist exactly when every call keeps their states. -/
theorem lifecycles_intact {parse : String → Except String Json} {db : LifecycleDb}
    (intact : Intact db) (unique : UniqueKeys db) (calls : List LifecycleCall) :
    UniqueKeys ((lifecycleSystem parse).run db calls) ∧
      ((lifecycleSystem parse).Guarded
          (fun db call => Intact ((lifecycleSystem parse).step db call)) db calls ↔
        (lifecycleSystem parse).Guarded (KeepsStates parse) db calls) := by
  have step (db : LifecycleDb) (call : LifecycleCall) (both : Intact db ∧ UniqueKeys db) :
      Intact ((lifecycleSystem parse).step db call) ↔ KeepsStates parse db call :=
    (step_configured db call).intact_iff both.1 both.2
  have keys (db : LifecycleDb) (call : LifecycleCall) (unique : UniqueKeys db) :
      UniqueKeys ((lifecycleSystem parse).step db call) := (step_configured db call).uniqueKeys unique
  refine ⟨StepSystem.run_invariant keys unique calls, ?_, ?_⟩
  · intro stays
    exact StepSystem.Guarded.strengthen
      (fun db call both stays => ⟨stays, keys db call both.2⟩)
      (fun db call both stays => (step db call both).mp stays) ⟨intact, unique⟩ stays
  · intro kept
    exact StepSystem.Guarded.strengthen
      (fun db call both kept => ⟨(step db call both).mpr kept, keys db call both.2⟩)
      (fun db call both kept => (step db call both).mpr kept) ⟨intact, unique⟩ kept

/-! ## A published lifecycle without states -/

/-- A tenant with a published task object for which nothing is configured. -/
def withoutStates : LifecycleDb where
  tenants := [1]
  tenantUsers := [1]
  templateSets := Table.ofRows [⟨0, some 1, .published⟩]
  configObjects := Table.ofRows [⟨0, 1, "task", .published⟩]
  lifecycles := .empty _
  transitions := .empty _
  statusMappings := .empty _
  projects := .empty _
  tasks := .empty _
  auditLogs := []

/-- A call that adds a transition of tasks. -/
def addTransition (fromStateKey toStateKey : String) : LifecycleCall :=
  .createLifecycleTransition
    { tenantId := some 1
      configTemplateSetId := 1
      objectType := "task"
      createdBy := 1
      fromStateKey := fromStateKey
      toStateKey := toStateKey
      rulesJson := none }

/-- A call that adds a state of tasks. -/
def addState (stateKey : String) : LifecycleCall :=
  .createLifecycle
    { tenantId := some 1
      configTemplateSetId := 1
      objectType := "task"
      createdBy := 1
      stateKey := stateKey
      label := stateKey
      description := none
      orderIndex := none }

theorem withoutStates_intact : Intact withoutStates ∧ UniqueKeys withoutStates :=
  ⟨nofun, nofun, nofun⟩

/-- No text is JSON. -/
def parseNone (_ : String) : Except String Json := .error "Unexpected token"

instance (db : LifecycleDb) (configObjectId : Nat) (stateKey : String) :
    Decidable (IsState db configObjectId stateKey) :=
  inferInstanceAs (Decidable (∃ lifecycle ∈ db.lifecycles.rows, _))

instance (db : LifecycleDb) : Decidable (Intact db) :=
  inferInstanceAs (Decidable (∀ transition ∈ db.transitions.rows, _))

theorem lifecycles_intact_addTransition :
    UniqueKeys ((lifecycleSystem parseNone).run withoutStates [addTransition "open" "done"]) ∧
      ((lifecycleSystem parseNone).Guarded
          (fun db call => Intact ((lifecycleSystem parseNone).step db call)) withoutStates
          [addTransition "open" "done"] ↔
        (lifecycleSystem parseNone).Guarded (KeepsStates parseNone) withoutStates
          [addTransition "open" "done"]) :=
  lifecycles_intact withoutStates_intact.1 withoutStates_intact.2 _

/-- A transition is stored between states that do not exist; and between states that do, one
of which is then removed. -/
theorem transition_dangles : Intact withoutStates ∧ UniqueKeys withoutStates ∧
    ¬ Intact ((lifecycleSystem parseNone).run withoutStates [addTransition "open" "done"]) ∧
    ¬ Intact ((lifecycleSystem parseNone).run withoutStates
      [addState "open", addState "done", addTransition "open" "done",
        .deleteLifecycle (some 1) 1 1]) :=
  ⟨withoutStates_intact.1, withoutStates_intact.2, by decide, by decide⟩

end CoreApi.ConfigObjects
