import CoreApi.ConfigObjects.CachedInstances
import CoreApi.ConfigObjects.InstanceIsolation
import CoreApi.ConfigObjects.ManifestCoherence

/-!
# Spellings that are interchangeable

A schema is looked up under the canonical name of its type, whatever was read before. The
views of a type and its core table are looked up under the type as it is spelled. So two
spellings give the same outcomes exactly when neither is the canonical name, or nothing is
found under it.
-/

namespace CoreApi.ConfigObjects

open CoreApi.Foundation Automation ObjectDesign CachedReads

/-! ## Calls that spell a type -/

/-- A call, apart from its tenant and the type that it spells. -/
inductive SpelledCall where
  | getObjectSchema
  | getActiveScopedConfigView (viewType : ConfigObjectViewType)
  | getRuntimeManifest (includeDiagnostics : Bool)
  | resolveObjectInstance (coreId instanceId : Option Nat)
  | applySorBoundInstancePatch (coreId : Nat) (corePatch metaPatch : Record)
      (customerId : Option Nat)

/-- What a call returns, apart from the type that it spells. -/
inductive SpelledResult where
  | schema (schema : Option ObjectSchema)
  | view (view : Option ConfigObjectViewEntity)
  | sections (list detail form : Option Json)
  | resolved (resolved : Option ResolvedInstance)
  | patched (result : ApplySorBoundInstancePatchResult)
deriving DecidableEq

/-- The sections of a manifest. -/
def sectionsOf (manifest : RuntimeManifest) : SpelledResult :=
  .sections manifest.list manifest.detail manifest.form

/-- An instance without the type that it was asked for. -/
def ResolvedInstance.apartFromType : ResolvedInstance → ResolvedInstance
  | .sorBound _ tenantId schema core dynamicFields =>
      .sorBound "" tenantId schema core dynamicFields
  | .standalone _ tenantId schema instanceId dynamicFields =>
      .standalone "" tenantId schema instanceId dynamicFields

section

variable (services : InstanceCacheServices)

namespace SpelledCall

/-- The call for a tenant, with a spelling of a type. -/
def perform (tenantId : Nat) (objectType : String) :
    SpelledCall → CachedInstances.InstanceCacheTx services SpelledResult
  | .getObjectSchema => do
      let schema ← CachedInstances.schemaOf services (some tenantId) objectType
      pure (.schema schema)
  | .getActiveScopedConfigView viewType => do
      let view ← CachedInstances.throughCaches services
        (CachedReads.getActiveScopedConfigView services.toCacheServices (some tenantId) objectType
          viewType)
      pure (.view view)
  | .getRuntimeManifest includeDiagnostics => do
      let manifest ← CachedInstances.throughCaches services
        (CachedReads.getRuntimeManifest services.toCacheServices (some tenantId) objectType
          includeDiagnostics)
      pure (sectionsOf manifest)
  | .resolveObjectInstance coreId instanceId => do
      let resolved ← CachedInstances.resolveObjectInstance services tenantId objectType coreId
        instanceId
      pure (.resolved (resolved.map ResolvedInstance.apartFromType))
  | .applySorBoundInstancePatch coreId corePatch metaPatch customerId => do
      let result ← CachedInstances.applySorBoundInstancePatch services
        { tenantId := some tenantId, objectType, coreId, corePatch, metaPatch, customerId }
      pure (.patched result)

/-- What the call returns, and the tables that it leaves. -/
def outcome (s : InstanceState services.casing) (tenantId : Nat) (objectType : String)
    (call : SpelledCall) : Except DesignError SpelledResult × InstanceTables :=
  ((call.perform services tenantId objectType s).1,
    (call.perform services tenantId objectType s).2.toInstanceTables)

end SpelledCall

/-- What happens to the caches while the configuration stays. -/
def IsWriteFree {casing : LowerCasing} : RuntimeAction casing → Prop
  | .write _ => False
  | .advance _ | .read _ | .invalidate _ => True

/-- The state after what was read before. -/
def afterReads (config : RuntimeConfig services.casing) (tables : InstanceTables) (now : Nat)
    (history : List (RuntimeAction services.casing)) : InstanceState services.casing :=
  ⟨(runtimeSystem services.toCacheServices).run (uncached config now) history, tables⟩

/-! ## The law -/

/-- The outcomes are the same, or the same message that echoes the spellings. -/
def SameButEcho (first second : String)
    (outcome outcome' : Except DesignError SpelledResult × InstanceTables) : Prop :=
  outcome.2 = outcome'.2 ∧ (outcome.1 = outcome'.1 ∨
    ∃ before after, outcome.1 = .error (.rpc (before ++ first ++ after)) ∧
      outcome'.1 = .error (.rpc (before ++ second ++ after)))

/-- Every call has the same outcome for both spellings, whatever was read before each. -/
def Interchangeable (config : RuntimeConfig services.casing) (tables : InstanceTables)
    (tenantId : Nat) (first second : String) : Prop :=
  ∀ now now' history history', (∀ action ∈ history, IsWriteFree action) →
    (∀ action ∈ history', IsWriteFree action) → ∀ call : SpelledCall,
      SameButEcho first second
        (call.outcome services (afterReads services config tables now history) tenantId first)
        (call.outcome services (afterReads services config tables now' history') tenantId second)

/-- Nothing is found under the canonical name: no view is active for the object that is met under
it, and no schema of it is bound to a table whose fields can be patched. -/
structure NothingUnder (config : RuntimeConfig services.casing) (tenantId : Nat)
    (canonical : String) : Prop where
  views : ∀ configObject viewType, IsMet config.toManifestDb (some tenantId) canonical
    configObject → ¬HasActiveView config.toManifestDb (some tenantId) viewType configObject
  schemas : ∀ configObject, IsSchemaObject (services.toCacheServices.on config) config.toManifestDb
    (some tenantId) canonical configObject → configObject.bindingMode = .sorBound →
      getSorFieldDescriptors canonical = []

/-- The spellings are one, or neither is the canonical name, or nothing is found under it. -/
def SpellingsAgree (config : RuntimeConfig services.casing) (tenantId : Nat)
    (first second : String) : Prop :=
  first = second ∨
    (first ≠ canonicalizeObjectType services.casing first ∧
      second ≠ canonicalizeObjectType services.casing second) ∨
    NothingUnder services config tenantId (canonicalizeObjectType services.casing first)

end

/-! ## Reads before the call -/

section

variable {services : CacheServices} {s after : RuntimeState services.casing}

/-- Every entry of the caches is right in the current configuration. -/
structure CachesCurrent (services : CacheServices) (s : RuntimeState services.casing) : Prop where
  schemas : s.schemaCache.Holds fun entry =>
    SchemaRight services s.current entry.key entry.value
  views : s.activeViewCache.Holds fun entry => ViewRight s.current entry.key entry.value
  manifests : s.runtimeManifestCache.Holds fun entry =>
    ManifestRight services s.current entry.key entry.value

theorem right_of_get? {α : Type} {cache : TimedCache String α} {right : String → α → Prop}
    (holds : cache.Holds fun entry => right entry.key entry.value) {now : Nat} {key : String}
    {value : α} (served : cache.get? now key = some value) : right key value := by
  obtain ⟨entry, member, rfl, _, rfl⟩ := TimedCache.get?_eq_some_iff.mp served
  exact holds entry member

theorem CachesCurrent.partsUpToDate (current : CachesCurrent services s) (tenantId : Option Nat)
    (entityKey : String) : PartsUpToDate services s tenantId entityKey :=
  ⟨fun _ _ served => right_of_get? current.schemas served tenantId entityKey rfl,
    fun _ _ viewType _ served => right_of_get? current.views served tenantId entityKey viewType rfl⟩

/-- Reads keep the entries right. -/
theorem CachesCurrent.reads (current : CachesCurrent services s)
    (reads : ReadsOnly services s after) : CachesCurrent services after := by
  obtain ⟨versions, schemas, views, manifests⟩ := reads
  constructor
  · rw [versions]
    exact fun entry member => (schemas entry member).elim (current.schemas entry) And.right
  · rw [versions]
    exact fun entry member => (views entry member).elim (current.views entry) And.right
  · rw [versions]
    exact fun entry member => (manifests entry member).elim (current.manifests entry) And.right

/-- The configuration is the given one, and the caches are right in it. -/
def RightIn (services : CacheServices) (config : RuntimeConfig services.casing)
    (s : RuntimeState services.casing) : Prop :=
  s.current = config ∧ CachesCurrent services s

theorem RightIn.step {config : RuntimeConfig services.casing} (right : RightIn services config s)
    {action : RuntimeAction services.casing} (writeFree : IsWriteFree action) :
    RightIn services config ((runtimeSystem services).step s action) := by
  obtain ⟨isConfig, current⟩ := right
  rcases action with _ | duration | read | params
  · exact writeFree.elim
  · exact ⟨isConfig, current.schemas, current.views, current.manifests⟩
  · have fresh : StaysFresh services s (.read read) := by
      rcases read with _ | _ | ⟨tenantId, entityKey, includeDiagnostics⟩
      · trivial
      · trivial
      · exact fun _ => current.partsUpToDate tenantId entityKey
    have kept : ∀ after, ReadsOnly services s after → RightIn services config after :=
      fun after reads => ⟨(congrArg Versions.current reads.versions).trans isConfig,
        current.reads reads⟩
    exact Program.wp_end (fun after => RightIn services config after)
      (Program.wp_mono (wp_perform fresh) (fun _ after performed => kept after performed.1)
        fun _ after performed => kept after performed.1)
  · exact ⟨isConfig, holds_clearCacheByPredicate current.schemas _ _,
      holds_clearCacheByPredicate current.views _ _,
      holds_clearCacheByPredicate current.manifests _ _⟩

/-- While the configuration stays, the caches are right. -/
theorem rightIn_run (config : RuntimeConfig services.casing) (now : Nat)
    {history : List (RuntimeAction services.casing)}
    (writeFree : ∀ action ∈ history, IsWriteFree action) :
    RightIn services config ((runtimeSystem services).run (uncached config now) history) := by
  have kept : ∀ (s : RuntimeState services.casing) action, RightIn services config s →
      IsWriteFree action → RightIn services config ((runtimeSystem services).step s action) :=
    fun _ _ right isFree => right.step isFree
  have guarded := (StepSystem.Guarded.and_actions (StepSystem.Guarded.all (runtimeSystem services)
    (fun _ _ => trivial) (uncached config now) history) writeFree).mono fun _ _ both => both.2
  exact StepSystem.run_guarded kept ⟨rfl, TimedCache.holds_empty, TimedCache.holds_empty,
    TimedCache.holds_empty⟩ guarded

end

/-! ## Calls where nothing is cached -/

/-- The tables of the instances as a call left them. -/
def tablesOf (db : InstanceDb) : InstanceTables := ⟨db.cores, db.metaRows, db.customInstances⟩

section

variable (services : InstanceCacheServices)

/-- What a call returns where nothing is cached, and the tables that it leaves. -/
def SpelledCall.computed (config : RuntimeConfig services.casing) (tables : InstanceTables)
    (tenantId : Nat) (objectType : String) :
    SpelledCall → Except DesignError SpelledResult × InstanceTables
  | .getObjectSchema =>
      ((schemaIn services.toCacheServices config (some tenantId) objectType).map
        SpelledResult.schema, tables)
  | .getActiveScopedConfigView viewType =>
      (.ok (.view (viewIn config (some tenantId) objectType viewType)), tables)
  | .getRuntimeManifest includeDiagnostics =>
      ((manifestIn services.toCacheServices config (some tenantId) objectType
        includeDiagnostics).map sectionsOf, tables)
  | .resolveObjectInstance coreId instanceId =>
      ((ConfigObjects.resolveObjectInstance (services.instancesOn config)
        (instanceDbOf config tables) tenantId objectType coreId instanceId).map fun resolved =>
          SpelledResult.resolved (resolved.map ResolvedInstance.apartFromType), tables)
  | .applySorBoundInstancePatch coreId corePatch metaPatch customerId =>
      let ended := ConfigObjects.applySorBoundInstancePatch (services.instancesOn config)
        { tenantId := some tenantId, objectType, coreId, corePatch, metaPatch, customerId }
        (instanceDbOf config tables)
      (ended.1.map SpelledResult.patched, tablesOf ended.2)

end

section

variable {services : InstanceCacheServices} {s after : InstanceState services.casing}

/-- The configuration and the tables are those before. -/
def Unwritten (s after : InstanceState services.casing) : Prop :=
  after.current = s.current ∧ after.toInstanceTables = s.toInstanceTables

/-- A schema is that of the configuration where the caches are right. -/
theorem wp_schemaOf (current : CachesCurrent services.toCacheServices s.toRuntimeState)
    (tenantId : Option Nat) (objectType : String) :
    Program.wp (CachedInstances.schemaOf services tenantId objectType)
      (fun schema after => Unwritten s after ∧
        schemaIn services.toCacheServices s.current tenantId objectType = .ok schema)
      (fun e after => Unwritten s after ∧
        schemaIn services.toCacheServices s.current tenantId objectType = .error e) s := by
  unfold CachedInstances.schemaOf CachedInstances.throughCaches
  rw [Program.wp_within]
  refine Program.wp_mono (wp_getObjectSchema s.toRuntimeState tenantId objectType) ?_ ?_
  · rintro schema after ⟨reads, isCurrent | ⟨_, served⟩⟩
    · exact ⟨⟨congrArg Versions.current reads.versions, rfl⟩, isCurrent⟩
    · exact ⟨⟨congrArg Versions.current reads.versions, rfl⟩,
        right_of_get? current.schemas served tenantId objectType rfl⟩
  · rintro e after ⟨reads, fails⟩
    exact ⟨⟨congrArg Versions.current reads.versions, rfl⟩, fails⟩

theorem outcome_of_wp {call : SpelledCall} {tenantId : Nat} {objectType : String}
    {expected : Except DesignError SpelledResult × InstanceTables}
    (ends : Program.wp (call.perform services tenantId objectType)
      (fun result after => expected = (.ok result, after.toInstanceTables))
      (fun e after => expected = (.error e, after.toInstanceTables)) s) :
    call.outcome services s tenantId objectType = expected := by
  unfold SpelledCall.outcome
  rcases run : call.perform services tenantId objectType s with ⟨e | result, after⟩
  · exact (Program.wp_error ends run).symm
  · exact (Program.wp_ok ends run).symm

theorem wp_resolveThrough (current : CachesCurrent services.toCacheServices s.toRuntimeState)
    {tenantId : Nat} {objectType : String}
    {resolve : InstanceServices → InstanceDb → ObjectSchema →
      Except DesignError (Option ResolvedInstance)}
    {expected : Except DesignError (Option ResolvedInstance)}
    (isExpected : expected = schemaIn services.toCacheServices s.current (some tenantId)
      objectType >>= fun
        | none => pure none
        | some schema => resolve (services.instancesOn s.current)
            (instanceDbOf s.current s.toInstanceTables) schema) :
    Program.wp (CachedInstances.resolveThrough services tenantId objectType resolve)
      (fun resolved after => Unwritten s after ∧ expected = .ok resolved)
      (fun e after => Unwritten s after ∧ expected = .error e) s := by
  subst isExpected
  unfold CachedInstances.resolveThrough
  rw [Program.wp_bind]
  refine Program.wp_mono (wp_schemaOf current (some tenantId) objectType) ?_ ?_
  · rintro schema after ⟨unwritten, isSchema⟩
    rw [isSchema]
    rcases schema with _ | schema
    · exact ⟨unwritten, rfl⟩
    · dsimp only
      rw [Program.wp_bind, Program.wp_read]
      dsimp only [id_eq]
      rw [unwritten.1, unwritten.2]
      rcases isResolved : resolve (services.instancesOn s.current)
        (instanceDbOf s.current s.toInstanceTables) schema with e | resolved
      · exact ⟨unwritten, isResolved⟩
      · exact ⟨unwritten, isResolved⟩
  · rintro e after ⟨unwritten, fails⟩
    rw [fails]
    exact ⟨unwritten, rfl⟩

theorem wp_resolveObjectInstance
    (current : CachesCurrent services.toCacheServices s.toRuntimeState) (tenantId : Nat)
    (objectType : String) (coreId instanceId : Option Nat) :
    Program.wp (CachedInstances.resolveObjectInstance services tenantId objectType coreId instanceId)
      (fun resolved after => Unwritten s after ∧
        ConfigObjects.resolveObjectInstance (services.instancesOn s.current)
          (instanceDbOf s.current s.toInstanceTables) tenantId objectType coreId instanceId =
            .ok resolved)
      (fun e after => Unwritten s after ∧
        ConfigObjects.resolveObjectInstance (services.instancesOn s.current)
          (instanceDbOf s.current s.toInstanceTables) tenantId objectType coreId instanceId =
            .error e) s := by
  unfold CachedInstances.resolveObjectInstance ConfigObjects.resolveObjectInstance
  rcases instanceId.filter fun id => decide (id ≠ 0) with _ | instanceId
  · rcases coreId.filter fun id => decide (id ≠ 0) with _ | coreId
    · exact ⟨⟨rfl, rfl⟩, rfl⟩
    · dsimp only
      refine wp_resolveThrough current ?_
      unfold resolveSorObjectInstance
      refine congrArg (schemaIn services.toCacheServices s.current (some tenantId) objectType >>= ·)
        (funext fun schema => ?_)
      rcases schema with _ | schema <;> rfl
  · dsimp only
    refine wp_resolveThrough current ?_
    unfold resolveStandaloneObjectInstance
    refine congrArg (schemaIn services.toCacheServices s.current (some tenantId) objectType >>= ·)
      (funext fun schema => ?_)
    rcases schema with _ | schema <;> rfl

/-- A patch, once its schema is looked up. -/
def patchOfSchema (instances : InstanceServices) (params : ApplySorBoundInstancePatchParams)
    (schema : Option ObjectSchema) : InstanceTx ApplySorBoundInstancePatchResult :=
  match schema with
  | none => Program.raise (.rpc "Configuration schema not found for object type.")
  | some schema => do
      Program.lift (checkPatch params schema)
      Program.atomically (fun before _ => before)
        (applySorBoundPatchInTransaction instances params schema)

theorem applySorBoundInstancePatch_of_ok {instances : InstanceServices}
    {params : ApplySorBoundInstancePatchParams} {db : InstanceDb} {schema : Option ObjectSchema}
    (isSchema : ConfigObjects.getObjectSchema instances.toSchemaServices db.toRuntimeDb
      (effectiveTenant params.tenantId) params.objectType = .ok schema) :
    ConfigObjects.applySorBoundInstancePatch instances params db =
      patchOfSchema instances params schema db := by
  unfold ConfigObjects.applySorBoundInstancePatch
  change Program.andThen (Program.lift (ConfigObjects.getObjectSchema instances.toSchemaServices
    db.toRuntimeDb (effectiveTenant params.tenantId) params.objectType)) _ db = _
  rw [isSchema]
  rcases schema with _ | schema <;> rfl

theorem applySorBoundInstancePatch_of_error {instances : InstanceServices}
    {params : ApplySorBoundInstancePatchParams} {db : InstanceDb} {e : DesignError}
    (fails : ConfigObjects.getObjectSchema instances.toSchemaServices db.toRuntimeDb
      (effectiveTenant params.tenantId) params.objectType = .error e) :
    ConfigObjects.applySorBoundInstancePatch instances params db = (.error e, db) := by
  unfold ConfigObjects.applySorBoundInstancePatch
  change Program.andThen (Program.lift (ConfigObjects.getObjectSchema instances.toSchemaServices
    db.toRuntimeDb (effectiveTenant params.tenantId) params.objectType)) _ db = _
  rw [fails]
  rfl

theorem wp_applySorBoundInstancePatch
    (current : CachesCurrent services.toCacheServices s.toRuntimeState)
    (params : ApplySorBoundInstancePatchParams) :
    Program.wp (CachedInstances.applySorBoundInstancePatch services params)
      (fun result after => ∃ db, after.toInstanceTables = tablesOf db ∧
        ConfigObjects.applySorBoundInstancePatch (services.instancesOn s.current) params
          (instanceDbOf s.current s.toInstanceTables) = (.ok result, db))
      (fun e after => ∃ db, after.toInstanceTables = tablesOf db ∧
        ConfigObjects.applySorBoundInstancePatch (services.instancesOn s.current) params
          (instanceDbOf s.current s.toInstanceTables) = (.error e, db)) s := by
  unfold CachedInstances.applySorBoundInstancePatch
  rw [Program.wp_bind]
  refine Program.wp_mono
    (wp_schemaOf current (effectiveTenant params.tenantId) params.objectType) ?_ ?_
  · rintro schema after ⟨unwritten, isSchema⟩
    have sameTables : after.toInstanceTables =
        tablesOf (instanceDbOf s.current s.toInstanceTables) := unwritten.2
    rw [@applySorBoundInstancePatch_of_ok (services.instancesOn s.current) params
      (instanceDbOf s.current s.toInstanceTables) schema isSchema]
    rcases schema with _ | schema
    · dsimp only
      rw [Program.wp_raise]
      exact ⟨instanceDbOf s.current s.toInstanceTables, sameTables, rfl⟩
    · dsimp only [patchOfSchema]
      rw [Program.wp_bind]
      rcases checked : checkPatch params schema with e | _
      · rw [Program.wp_lift_error]
        exact ⟨instanceDbOf s.current s.toInstanceTables, sameTables, rfl⟩
      · rw [Program.wp_lift_ok, Program.wp_bind, Program.wp_read]
        unfold CachedInstances.onTables
        rw [Program.wp_within]
        dsimp only [id_eq]
        rw [unwritten.1, unwritten.2]
        exact Program.wp_mono (Program.wp_run _) (fun _ db run => ⟨db, rfl, run⟩)
          fun _ db run => ⟨db, rfl, run⟩
  · rintro e after ⟨unwritten, fails⟩
    rw [@applySorBoundInstancePatch_of_error (services.instancesOn s.current) params
      (instanceDbOf s.current s.toInstanceTables) e fails]
    exact ⟨instanceDbOf s.current s.toInstanceTables, unwritten.2, rfl⟩

theorem wp_view (current : CachesCurrent services.toCacheServices s.toRuntimeState)
    (tenantId : Option Nat) (objectType : String) (viewType : ConfigObjectViewType) :
    Program.wp (CachedInstances.throughCaches services
      (CachedReads.getActiveScopedConfigView services.toCacheServices tenantId objectType viewType))
      (fun view after => Unwritten s after ∧ viewIn s.current tenantId objectType viewType = view)
      (fun _ _ => False) s := by
  unfold CachedInstances.throughCaches
  rw [Program.wp_within]
  refine Program.wp_mono
    (wp_getActiveScopedConfigView s.toRuntimeState tenantId objectType viewType) ?_ nofun
  rintro view after ⟨reads, isCurrent | served⟩
  · exact ⟨⟨congrArg Versions.current reads.versions, rfl⟩, isCurrent⟩
  · exact ⟨⟨congrArg Versions.current reads.versions, rfl⟩,
      right_of_get? current.views served tenantId objectType viewType rfl⟩

theorem wp_manifest (current : CachesCurrent services.toCacheServices s.toRuntimeState)
    (tenantId : Option Nat) (objectType : String) (includeDiagnostics : Bool) :
    Program.wp (CachedInstances.throughCaches services
      (CachedReads.getRuntimeManifest services.toCacheServices tenantId objectType
        includeDiagnostics))
      (fun manifest after => Unwritten s after ∧ manifestIn services.toCacheServices s.current
        tenantId objectType includeDiagnostics = .ok manifest)
      (fun e after => Unwritten s after ∧ manifestIn services.toCacheServices s.current
        tenantId objectType includeDiagnostics = .error e) s := by
  unfold CachedInstances.throughCaches
  rw [Program.wp_within]
  refine Program.wp_mono
    (wp_getRuntimeManifest fun _ => current.partsUpToDate tenantId objectType) ?_ ?_
  · rintro manifest after ⟨reads, isCurrent | served⟩
    · exact ⟨⟨congrArg Versions.current reads.versions, rfl⟩, isCurrent⟩
    · exact ⟨⟨congrArg Versions.current reads.versions, rfl⟩,
        right_of_get? current.manifests served tenantId objectType includeDiagnostics rfl⟩
  · rintro e after ⟨reads, fails⟩
    exact ⟨⟨congrArg Versions.current reads.versions, rfl⟩, fails⟩

/-- A call that writes nothing returns what it computes. -/
theorem wp_result {α : Type} {program : CachedInstances.InstanceCacheTx services α}
    {computed : Except DesignError α} (result : α → SpelledResult)
    (ends : Program.wp program (fun value after => Unwritten s after ∧ computed = .ok value)
      (fun e after => Unwritten s after ∧ computed = .error e) s) :
    Program.wp (program >>= fun value => pure (result value))
      (fun value after => (computed.map result, s.toInstanceTables) =
        (.ok value, after.toInstanceTables))
      (fun e after => (computed.map result, s.toInstanceTables) =
        (.error e, after.toInstanceTables)) s := by
  rw [Program.wp_bind]
  refine Program.wp_mono ends ?_ ?_
  · rintro value after ⟨unwritten, isComputed⟩
    rw [Program.wp_pure, isComputed, unwritten.2]
    rfl
  · rintro e after ⟨unwritten, fails⟩
    rw [fails, unwritten.2]
    rfl

theorem outcome_eq_computed (current : CachesCurrent services.toCacheServices s.toRuntimeState)
    (tenantId : Nat) (objectType : String) (call : SpelledCall) :
    call.outcome services s tenantId objectType =
      call.computed services s.current s.toInstanceTables tenantId objectType := by
  refine outcome_of_wp ?_
  rcases call with _ | viewType | includeDiagnostics | ⟨coreId, instanceId⟩ |
    ⟨coreId, corePatch, metaPatch, customerId⟩
  · exact wp_result SpelledResult.schema (wp_schemaOf current (some tenantId) objectType)
  · unfold SpelledCall.perform SpelledCall.computed
    dsimp only
    rw [Program.wp_bind]
    refine Program.wp_mono (wp_view current (some tenantId) objectType viewType) ?_ nofun
    rintro view after ⟨unwritten, rfl⟩
    rw [Program.wp_pure, unwritten.2]
  · exact wp_result sectionsOf (wp_manifest current (some tenantId) objectType includeDiagnostics)
  · exact wp_result (fun resolved => .resolved (resolved.map ResolvedInstance.apartFromType))
      (wp_resolveObjectInstance current tenantId objectType coreId instanceId)
  · unfold SpelledCall.perform SpelledCall.computed
    dsimp only
    rw [Program.wp_bind]
    refine Program.wp_mono (wp_applySorBoundInstancePatch current _) ?_ ?_
    · rintro result after ⟨db, sameTables, run⟩
      rw [Program.wp_pure, run, sameTables]
      rfl
    · rintro e after ⟨db, sameTables, run⟩
      rw [run, sameTables]
      rfl

/-- The law is about the calls where nothing is cached. -/
theorem interchangeable_iff {config : RuntimeConfig services.casing} {tables : InstanceTables}
    {tenantId : Nat} {first second : String} :
    Interchangeable services config tables tenantId first second ↔
      ∀ call : SpelledCall, SameButEcho first second
        (call.computed services config tables tenantId first)
        (call.computed services config tables tenantId second) := by
  have outcomes : ∀ now history, (∀ action ∈ history, IsWriteFree action) →
      ∀ (objectType : String) (call : SpelledCall),
        call.outcome services (afterReads services config tables now history) tenantId
            objectType = call.computed services config tables tenantId objectType := by
    intro now history writeFree objectType call
    obtain ⟨isConfig, current⟩ :=
      @rightIn_run services.toCacheServices config now history writeFree
    rw [outcome_eq_computed (by exact current)]
    rw [show (afterReads services config tables now history).current = config from isConfig]
    rfl
  constructor
  · intro interchangeable call
    have same := interchangeable 0 0 [] [] nofun nofun call
    rwa [outcomes 0 [] nofun, outcomes 0 [] nofun] at same
  · intro same now now' history history' writeFree writeFree' call
    rw [outcomes now history writeFree, outcomes now' history' writeFree']
    exact same call

end

/-! ## What a spelling that is not canonical finds -/

/-- The spelling is that of no core table and has no fields. -/
structure NoFields (objectType : String) : Prop where
  sorType : sorTypeOf objectType = none
  descriptors : getSorFieldDescriptors objectType = []
  writable : getWritableSorFieldKeys objectType = []

theorem singular_of_fields : ∀ entry ∈ sorFieldsByObjectType,
    entry.1 ∈ OBJECT_TYPE_ALIASES.map Prod.fst ∧ entry.2.writable ≠ [] ∧ entry.1 ≠ "" ∧
      entry.1.toList.head? ≠ some 'N' := by
  decide

/-- Every core table has fields. -/
theorem fields_of_sorType : ∀ type : SorType, getSorFieldDescriptors type.text ≠ [] := by
  rintro (_ | _ | _ | _ | _) <;> decide

theorem noFields_of_descriptors {objectType : String}
    (none : getSorFieldDescriptors objectType = []) : NoFields objectType := by
  have notFound : sorFieldsByObjectType.lookup objectType = .none := by
    rcases found : sorFieldsByObjectType.lookup objectType with _ | fields
    · rfl
    · have hasWritable := (singular_of_fields _ (mem_of_lookup found)).2.1
      unfold getSorFieldDescriptors at none
      rw [found] at none
      exact absurd (List.append_eq_nil_iff.mp none).1 hasWritable
  refine ⟨?_, none, ?_⟩
  · rcases isType : sorTypeOf objectType with _ | type
    · rfl
    · rw [← text_of_sorTypeOf isType] at none
      exact absurd none (fields_of_sorType type)
  · unfold getWritableSorFieldKeys
    rw [notFound]

section

variable {casing : LowerCasing} {config : RuntimeConfig casing} {objectType : String}

theorem canonicalizeObjectType_singular {singular : String}
    (member : singular ∈ OBJECT_TYPE_ALIASES.map Prod.fst) :
    canonicalizeObjectType casing singular = singular := by
  obtain ⟨entry, isEntry, rfl⟩ := List.mem_map.mp member
  rw [canonicalizeObjectType, normalizedObjectType_singular isEntry]
  exact (canonicalOfVariant_alias entry isEntry).1

/-- Only canonical names have fields. -/
theorem noFields_of_spelled (spelled : objectType ≠ canonicalizeObjectType casing objectType) :
    NoFields objectType := by
  refine noFields_of_descriptors ?_
  unfold getSorFieldDescriptors
  rcases found : sorFieldsByObjectType.lookup objectType with _ | fields
  · rfl
  · have singular := (singular_of_fields _ (mem_of_lookup found)).1
    exact absurd (canonicalizeObjectType_singular singular).symm spelled

theorem not_isMet_of_spelled (spelled : objectType ≠ canonicalizeObjectType casing objectType)
    (tenantId : Option Nat) (configObject : ConfigObjectEntity) :
    ¬IsMet config.toManifestDb tenantId objectType configObject := by
  rintro ⟨isFirst, _⟩
  have sameType := List.find?_some isFirst
  simp only [beq_iff_eq] at sameType
  obtain ⟨designed, member, rfl⟩ := List.mem_map.mp (List.mem_of_find?_eq_some isFirst)
  have canonical := (config.canonical designed member).2
  exact spelled (sameType ▸ canonical.symm)

theorem viewIn_of_spelled (spelled : objectType ≠ canonicalizeObjectType casing objectType)
    (tenantId : Option Nat) (viewType : ConfigObjectViewType) :
    viewIn config tenantId objectType viewType = none :=
  getActiveScopedConfigView_of_not_isMet fun configObject =>
    not_isMet_of_spelled spelled tenantId configObject

end

/-! ## Spellings that find the same -/

/-- The spellings are those of one core table, with the same fields. -/
structure FieldsAlike (first second : String) : Prop where
  sorType : sorTypeOf first = sorTypeOf second
  descriptors : getSorFieldDescriptors first = getSorFieldDescriptors second
  writable : getWritableSorFieldKeys first = getWritableSorFieldKeys second

theorem NoFields.alike {first second : String} (none : NoFields first) (none' : NoFields second) :
    FieldsAlike first second :=
  ⟨none.sorType.trans none'.sorType.symm, none.descriptors.trans none'.descriptors.symm,
    none.writable.trans none'.writable.symm⟩

/-- The spellings find the same views, and the same fields where these are looked at. -/
structure FindSame (services : InstanceCacheServices) (config : RuntimeConfig services.casing)
    (tenantId : Nat) (first second : String) : Prop where
  views : ∀ viewType, viewIn config (some tenantId) first viewType =
    viewIn config (some tenantId) second viewType
  fields : ∀ schema, schemaIn services.toCacheServices config (some tenantId) first =
    .ok (some schema) → schema.configObject.bindingMode = .sorBound → FieldsAlike first second

theorem SameButEcho.refl {first second : String}
    (outcome : Except DesignError SpelledResult × InstanceTables) :
    SameButEcho first second outcome outcome := ⟨rfl, .inl rfl⟩

theorem SameButEcho.symm {first second : String}
    {outcome outcome' : Except DesignError SpelledResult × InstanceTables}
    (same : SameButEcho first second outcome outcome') :
    SameButEcho second first outcome' outcome := by
  obtain ⟨sameTables, sameResult | ⟨before, after, isFirst, isSecond⟩⟩ := same
  · exact ⟨sameTables.symm, .inl sameResult.symm⟩
  · exact ⟨sameTables.symm, .inr ⟨before, after, isSecond, isFirst⟩⟩

section

variable {services : InstanceCacheServices} {config : RuntimeConfig services.casing}
  {tables : InstanceTables} {tenantId : Nat} {first second : String}

theorem schemaIn_congr (same : canonicalizeObjectType services.casing first =
      canonicalizeObjectType services.casing second) (tenantId : Option Nat) :
    schemaIn services.toCacheServices config tenantId first =
      schemaIn services.toCacheServices config tenantId second := by
  unfold schemaIn
  exact @getObjectSchema_congr (services.toCacheServices.on config).toSchemaServices
    config.toRuntimeDb config.canonical first second same tenantId

/-- Manifests of the same schema and views have the same sections. -/
theorem sections_same (same : canonicalizeObjectType services.casing first =
      canonicalizeObjectType services.casing second)
    (find : FindSame services config tenantId first second) (includeDiagnostics : Bool) :
    (manifestIn services.toCacheServices config (some tenantId) first includeDiagnostics).map
        sectionsOf =
      (manifestIn services.toCacheServices config (some tenantId) second includeDiagnostics).map
        sectionsOf := by
  have sameSchema := @schemaIn_congr services config first second same (some tenantId)
  rcases isSchema : schemaIn services.toCacheServices config (some tenantId) second
    with e | _ | schema
  · rw [manifestIn_of_error (sameSchema.trans isSchema), manifestIn_of_error isSchema]
  · rw [manifestIn_of_none (sameSchema.trans isSchema), manifestIn_of_none isSchema]
    rfl
  · rw [manifestIn_of_some (sameSchema.trans isSchema), manifestIn_of_some isSchema,
      show viewIn config (some tenantId) first = viewIn config (some tenantId) second from
        funext find.views]
    rfl

theorem instances_same (same : canonicalizeObjectType services.casing first =
      canonicalizeObjectType services.casing second)
    (find : FindSame services config tenantId first second) (coreId instanceId : Option Nat) :
    (ConfigObjects.resolveObjectInstance (services.instancesOn config)
        (instanceDbOf config tables) tenantId first coreId instanceId).map
        (fun resolved => SpelledResult.resolved (resolved.map ResolvedInstance.apartFromType)) =
      (ConfigObjects.resolveObjectInstance (services.instancesOn config)
        (instanceDbOf config tables) tenantId second coreId instanceId).map
        (fun resolved => SpelledResult.resolved
          (resolved.map ResolvedInstance.apartFromType)) := by
  have sameSchema := @schemaIn_congr services config first second same (some tenantId)
  unfold ConfigObjects.resolveObjectInstance
  rcases instanceId.filter fun id => decide (id ≠ 0) with _ | instanceId
  · rcases coreId.filter fun id => decide (id ≠ 0) with _ | coreId
    · rfl
    · dsimp only
      unfold resolveSorObjectInstance
      change Except.map _ (schemaIn services.toCacheServices config (some tenantId) first >>= _) =
        Except.map _ (schemaIn services.toCacheServices config (some tenantId) second >>= _)
      rw [sameSchema]
      rcases isSchema : schemaIn services.toCacheServices config (some tenantId) second
        with e | _ | schema
      · rfl
      · rfl
      · change Except.map _ (instanceOfSchema _ _ _ first _ schema) =
          Except.map _ (instanceOfSchema _ _ _ second _ schema)
        unfold instanceOfSchema
        rcases isBound : schema.configObject.bindingMode with _ | _ | _
        · have alike := find.fields schema (sameSchema.trans isSchema) isBound
          have sameCore : loadCoreAndMeta (instanceDbOf config tables) first coreId =
              loadCoreAndMeta (instanceDbOf config tables) second coreId := by
            unfold loadCoreAndMeta
            rw [alike.sorType]
          simp only [sameCore, Except.map, Option.map_map]
          rfl
        · rfl
        · rfl
  · dsimp only
    unfold resolveStandaloneObjectInstance
    change Except.map _ (schemaIn services.toCacheServices config (some tenantId) first >>= _) =
      Except.map _ (schemaIn services.toCacheServices config (some tenantId) second >>= _)
    rw [sameSchema]
    rcases schemaIn services.toCacheServices config (some tenantId) second with e | _ | schema
    · rfl
    · rfl
    · change Except.map _ (CachedInstances.standaloneOfSchema _ _ _ first _ schema) =
        Except.map _ (CachedInstances.standaloneOfSchema _ _ _ second _ schema)
      unfold CachedInstances.standaloneOfSchema
      split
      · rfl
      · simp only [Except.map, pure, Except.pure, Option.map_map]
        rfl

/-- The patch of a call. -/
def patchOf (tenantId : Nat) (objectType : String) (coreId : Nat) (corePatch metaPatch : Record)
    (customerId : Option Nat) : ApplySorBoundInstancePatchParams :=
  { tenantId := some tenantId, objectType, coreId, corePatch, metaPatch, customerId }

/-- The outcome of a patch as that of a call. -/
def patched (ended : Except DesignError ApplySorBoundInstancePatchResult × InstanceDb) :
    Except DesignError SpelledResult × InstanceTables :=
  (ended.1.map SpelledResult.patched, tablesOf ended.2)

/-- A message that ends with the spelling. -/
theorem sameButEcho_notImplemented (first second : String) (db : InstanceDb) :
    SameButEcho first second
      (patched (.error (.rpc ("apply_sor_bound_instance_patch is not implemented for object_type: "
        ++ first ++ ".")), db))
      (patched (.error (.rpc ("apply_sor_bound_instance_patch is not implemented for object_type: "
        ++ second ++ ".")), db)) :=
  ⟨rfl, .inr ⟨_, _, rfl, rfl⟩⟩

section

variable {instances : InstanceServices} {db : InstanceDb} {coreId : Nat}
  {corePatch metaPatch : Record} {customerId : Option Nat} {schema : ObjectSchema}

/-- Patches under spellings of one core table are the same in their transaction. -/
theorem transaction_same (alike : FieldsAlike first second) :
    SameButEcho first second
      (patched (Program.atomically (fun before _ => before) (applySorBoundPatchInTransaction
        instances (patchOf tenantId first coreId corePatch metaPatch customerId) schema) db))
      (patched (Program.atomically (fun before _ => before) (applySorBoundPatchInTransaction
        instances (patchOf tenantId second coreId corePatch metaPatch customerId) schema) db)) := by
  have sameFiltered : (patchOf tenantId first coreId corePatch metaPatch customerId).filteredCore =
      (patchOf tenantId second coreId corePatch metaPatch customerId).filteredCore := by
    unfold ApplySorBoundInstancePatchParams.filteredCore patchOf
    simp only [alike.writable]
  unfold applySorBoundPatchInTransaction
  rw [sameFiltered]
  dsimp only [patchOf]
  rw [alike.sorType]
  rcases sorTypeOf second with _ | _ | _ | _ | _ | _
  · exact sameButEcho_notImplemented first second db
  all_goals exact SameButEcho.refl _

/-- The checks of a patch are the same, or fail for the spelling. -/
theorem checkPatch_same
    (fields : schema.configObject.bindingMode = .sorBound → FieldsAlike first second) :
    checkPatch (patchOf tenantId first coreId corePatch metaPatch customerId) schema =
        checkPatch (patchOf tenantId second coreId corePatch metaPatch customerId) schema ∨
      ∀ objectType ∈ [first, second],
        checkPatch (patchOf tenantId objectType coreId corePatch metaPatch customerId) schema =
          .error (.rpc ("apply_sor_bound_instance_patch is not implemented for object_type: "
            ++ objectType ++ ".")) := by
  by_cases isBound : schema.configObject.bindingMode = .sorBound
  · have alike := fields isBound
    by_cases none : getSorFieldDescriptors second = []
    · right
      intro objectType member
      have noDescriptors : getSorFieldDescriptors objectType = [] := by
        rcases List.mem_pair.mp member with rfl | rfl
        · exact alike.descriptors.trans none
        · exact none
      unfold checkPatch
      rw [if_neg (not_not_intro isBound)]
      exact if_pos noDescriptors
    · left
      have some : getSorFieldDescriptors first ≠ [] := alike.descriptors ▸ none
      have sameFiltered :
          (patchOf tenantId first coreId corePatch metaPatch customerId).filteredCore =
            (patchOf tenantId second coreId corePatch metaPatch customerId).filteredCore := by
        unfold ApplySorBoundInstancePatchParams.filteredCore patchOf
        simp only [alike.writable]
      unfold checkPatch
      rw [if_neg (not_not_intro isBound), if_neg (not_not_intro isBound), sameFiltered]
      exact (if_neg some).trans (if_neg none).symm
  · left
    unfold checkPatch
    rw [if_pos isBound, if_pos isBound]

/-- Patches of the same schema are the same, but for the message that names the spelling. -/
theorem patchOfSchema_same
    (fields : schema.configObject.bindingMode = .sorBound → FieldsAlike first second) :
    SameButEcho first second
      (patched (patchOfSchema instances
        (patchOf tenantId first coreId corePatch metaPatch customerId) (some schema) db))
      (patched (patchOfSchema instances
        (patchOf tenantId second coreId corePatch metaPatch customerId) (some schema) db)) := by
  change SameButEcho first second
    (patched (Program.andThen (Program.lift (checkPatch _ schema)) _ db))
    (patched (Program.andThen (Program.lift (checkPatch _ schema)) _ db))
  rcases checkPatch_same fields with sameCheck | notImplemented
  · rw [sameCheck]
    rcases checked : checkPatch
      (patchOf tenantId second coreId corePatch metaPatch customerId) schema with e | _
    · exact SameButEcho.refl _
    · have isBound : schema.configObject.bindingMode = .sorBound := by
        by_contra unbound
        unfold checkPatch at checked
        rw [if_pos unbound] at checked
        cases checked
      exact transaction_same (fields isBound)
  · rw [notImplemented first (by simp), notImplemented second (by simp)]
    exact sameButEcho_notImplemented first second db

end

/-- A patch has the same outcome, but for the message that names the spelling. -/
theorem patches_same (same : canonicalizeObjectType services.casing first =
      canonicalizeObjectType services.casing second)
    (find : FindSame services config tenantId first second) (coreId : Nat)
    (corePatch metaPatch : Record) (customerId : Option Nat) :
    SameButEcho first second
      (patched (ConfigObjects.applySorBoundInstancePatch (services.instancesOn config)
        (patchOf tenantId first coreId corePatch metaPatch customerId)
        (instanceDbOf config tables)))
      (patched (ConfigObjects.applySorBoundInstancePatch (services.instancesOn config)
        (patchOf tenantId second coreId corePatch metaPatch customerId)
        (instanceDbOf config tables))) := by
  have sameSchema := @schemaIn_congr services config first second same (some tenantId)
  have scope : ∀ objectType, schemaIn services.toCacheServices config
      (effectiveTenant (some tenantId)) objectType =
        schemaIn services.toCacheServices config (some tenantId) objectType :=
    schemaIn_scope (effectiveTenant_idem (some tenantId))
  rcases isSchema : schemaIn services.toCacheServices config (some tenantId) second with e | schema
  · rw [@applySorBoundInstancePatch_of_error (services.instancesOn config)
      (patchOf tenantId first coreId corePatch metaPatch customerId) (instanceDbOf config tables) e
      ((scope first).trans (sameSchema.trans isSchema)),
      @applySorBoundInstancePatch_of_error (services.instancesOn config)
        (patchOf tenantId second coreId corePatch metaPatch customerId)
        (instanceDbOf config tables) e ((scope second).trans isSchema)]
    exact SameButEcho.refl _
  · rw [@applySorBoundInstancePatch_of_ok (services.instancesOn config)
      (patchOf tenantId first coreId corePatch metaPatch customerId) (instanceDbOf config tables)
      schema ((scope first).trans (sameSchema.trans isSchema)),
      @applySorBoundInstancePatch_of_ok (services.instancesOn config)
        (patchOf tenantId second coreId corePatch metaPatch customerId)
        (instanceDbOf config tables) schema ((scope second).trans isSchema)]
    rcases schema with _ | schema
    · exact SameButEcho.refl _
    · exact patchOfSchema_same (find.fields schema (sameSchema.trans isSchema))

/-- Spellings that find the same are interchangeable. -/
theorem FindSame.computed_same (same : canonicalizeObjectType services.casing first =
      canonicalizeObjectType services.casing second)
    (find : FindSame services config tenantId first second) (call : SpelledCall) :
    SameButEcho first second (call.computed services config tables tenantId first)
      (call.computed services config tables tenantId second) := by
  rcases call with _ | viewType | includeDiagnostics | ⟨coreId, instanceId⟩ |
    ⟨coreId, corePatch, metaPatch, customerId⟩
  · exact ⟨rfl, .inl (congrArg (Except.map SpelledResult.schema)
      (schemaIn_congr same (some tenantId)))⟩
  · exact ⟨rfl, .inl (congrArg (fun view => Except.ok (SpelledResult.view view))
      (find.views viewType))⟩
  · exact ⟨rfl, .inl (sections_same same find includeDiagnostics)⟩
  · exact ⟨rfl, .inl (instances_same same find coreId instanceId)⟩
  · exact patches_same same find coreId corePatch metaPatch customerId

/-- Nothing under the canonical name is what any other spelling finds. -/
theorem NothingUnder.find {canonical : String}
    (nothing : NothingUnder services config tenantId canonical)
    (isCanonical : canonicalizeObjectType services.casing canonical = canonical)
    {objectType : String} (same : canonicalizeObjectType services.casing objectType = canonical) :
    (∀ viewType, viewIn config (some tenantId) objectType viewType = none) ∧
      ∀ schema, schemaIn services.toCacheServices config (some tenantId) objectType =
        .ok (some schema) → schema.configObject.bindingMode = .sorBound → NoFields objectType := by
  by_cases spelled : objectType = canonical
  · subst spelled
    constructor
    · intro viewType
      by_cases someMet : ∃ configObject,
        IsMet config.toManifestDb (some tenantId) objectType configObject
      · obtain ⟨configObject, isMet⟩ := someMet
        exact (getActiveScopedConfigView_of_isMet isMet).trans
          (activeViewOf_eq_none_iff.mpr (nothing.views configObject viewType isMet))
      · exact getActiveScopedConfigView_of_not_isMet fun configObject isMet =>
          someMet ⟨configObject, isMet⟩
    · intro schema isSchema isBound
      have isObject : IsSchemaObject (services.toCacheServices.on config) config.toManifestDb
          (some tenantId) objectType schema.configObject :=
        isSchemaObject_iff.mpr ⟨schema, isSchema, rfl⟩
      exact noFields_of_descriptors (nothing.schemas schema.configObject isObject isBound)
  · have notCanonical : objectType ≠ canonicalizeObjectType services.casing objectType :=
      same ▸ spelled
    exact ⟨fun viewType => viewIn_of_spelled notCanonical (some tenantId) viewType,
      fun _ _ _ => noFields_of_spelled notCanonical⟩

theorem SpellingsAgree.findSame (same : canonicalizeObjectType services.casing first =
      canonicalizeObjectType services.casing second)
    (agree : SpellingsAgree services config tenantId first second) :
    FindSame services config tenantId first second := by
  rcases agree with rfl | ⟨spelled, spelled'⟩ | nothing
  · exact ⟨fun _ => rfl, fun _ _ _ => ⟨rfl, rfl, rfl⟩⟩
  · exact ⟨fun viewType => (viewIn_of_spelled spelled (some tenantId) viewType).trans
      (viewIn_of_spelled spelled' (some tenantId) viewType).symm,
      fun _ _ _ => (noFields_of_spelled spelled).alike (noFields_of_spelled spelled')⟩
  · obtain ⟨noViews, noFields⟩ := nothing.find (canonicalizeObjectType_idem first) rfl
    obtain ⟨noViews', noFields'⟩ := nothing.find (canonicalizeObjectType_idem first) same.symm
    refine ⟨fun viewType => (noViews viewType).trans (noViews' viewType).symm, ?_⟩
    intro schema isSchema isBound
    exact (noFields schema isSchema isBound).alike
      (noFields' schema ((schemaIn_congr same (some tenantId)).symm.trans isSchema) isBound)

/-! ## Spellings that find different things -/

theorem not_sameButEcho_noEntries {canonical other : String} {tables tables' : InstanceTables}
    (fields : getSorFieldDescriptors canonical ≠ []) :
    ¬SameButEcho canonical other
      (.error (.rpc "No patch entries matched allowed SoR or custom field keys."), tables)
      (.error (.rpc ("apply_sor_bound_instance_patch is not implemented for object_type: " ++
        other ++ ".")), tables') := by
  have letters : canonical ≠ "" ∧ canonical.toList.head? ≠ some 'N' := by
    rcases found : sorFieldsByObjectType.lookup canonical with _ | entry
    · unfold getSorFieldDescriptors at fields
      rw [found] at fields
      exact absurd rfl fields
    · exact (singular_of_fields _ (mem_of_lookup found)).2.2
  rintro ⟨_, sameError | ⟨before, after, isFirst, isSecond⟩⟩
  · have sameText := congrArg (fun text : String => text.toList.head?)
      (DesignError.rpc.inj (Except.error.inj sameError))
    simp [String.toList_append] at sameText
  · have firstText := congrArg String.toList (DesignError.rpc.inj (Except.error.inj isFirst))
    have secondText := congrArg String.toList (DesignError.rpc.inj (Except.error.inj isSecond))
    simp only [String.toList_append, List.append_assoc] at firstText secondText
    rcases isBefore : before.toList with _ | ⟨letter, rest⟩
    · rcases isCanonical : canonical.toList with _ | ⟨letter, rest⟩
      · exact letters.1 (String.toList_injective isCanonical)
      · rw [isBefore, isCanonical] at firstText
        have isN := (List.cons.inj firstText).1
        rw [isCanonical] at letters
        exact letters.2 (congrArg some isN.symm)
    · rw [isBefore] at firstText secondText
      exact absurd ((List.cons.inj firstText).1.trans (List.cons.inj secondText).1.symm) (by decide)

/-- Where the canonical name and another spelling are interchangeable, nothing is found under the
name. -/
theorem nothingUnder_of_same {canonical other : String}
    (isCanonical : canonicalizeObjectType services.casing canonical = canonical)
    (same : canonicalizeObjectType services.casing other = canonical) (spelled : other ≠ canonical)
    (interchangeable : ∀ call : SpelledCall, SameButEcho canonical other
      (call.computed services config tables tenantId canonical)
      (call.computed services config tables tenantId other)) :
    NothingUnder services config tenantId canonical := by
  have notCanonical : other ≠ canonicalizeObjectType services.casing other := same ▸ spelled
  constructor
  · intro configObject viewType isMet
    have sameView := (interchangeable (.getActiveScopedConfigView viewType)).2
    rcases sameView with sameView | ⟨_, _, failed, _⟩
    · have isView : viewIn config (some tenantId) canonical viewType =
          viewIn config (some tenantId) other viewType :=
        SpelledResult.view.inj (Except.ok.inj sameView)
      rw [viewIn_of_spelled notCanonical] at isView
      exact activeViewOf_eq_none_iff.mp ((getActiveScopedConfigView_of_isMet isMet).symm.trans isView)
    · cases failed
  · intro configObject isObject isBound
    by_contra fields
    obtain ⟨schema, isSchema, rfl⟩ := isSchemaObject_iff.mp isObject
    have emptyPatch := interchangeable (.applySorBoundInstancePatch 1 [] [] none)
    change SameButEcho canonical other
      (patched (ConfigObjects.applySorBoundInstancePatch (services.instancesOn config)
        (patchOf tenantId canonical 1 [] [] none) (instanceDbOf config tables)))
      (patched (ConfigObjects.applySorBoundInstancePatch (services.instancesOn config)
        (patchOf tenantId other 1 [] [] none) (instanceDbOf config tables))) at emptyPatch
    have scope : ∀ objectType, schemaIn services.toCacheServices config
        (effectiveTenant (some tenantId)) objectType =
          schemaIn services.toCacheServices config (some tenantId) objectType :=
      schemaIn_scope (effectiveTenant_idem (some tenantId))
    have isSchemaOther : schemaIn services.toCacheServices config (some tenantId) other =
        .ok (some schema) :=
      (schemaIn_congr (same.trans isCanonical.symm) (some tenantId)).trans isSchema
    rw [@applySorBoundInstancePatch_of_ok (services.instancesOn config)
      (patchOf tenantId canonical 1 [] [] none) (instanceDbOf config tables) (some schema)
      ((scope canonical).trans isSchema),
      @applySorBoundInstancePatch_of_ok (services.instancesOn config)
        (patchOf tenantId other 1 [] [] none) (instanceDbOf config tables) (some schema)
        ((scope other).trans isSchemaOther)] at emptyPatch
    have noEntries : checkPatch (patchOf tenantId canonical 1 [] [] none) schema =
        .error (.rpc "No patch entries matched allowed SoR or custom field keys.") := by
      unfold checkPatch
      rw [if_neg (not_not_intro isBound)]
      exact (if_neg fields).trans (if_pos ⟨rfl, rfl⟩)
    have notImplemented : checkPatch (patchOf tenantId other 1 [] [] none) schema =
        .error (.rpc ("apply_sor_bound_instance_patch is not implemented for object_type: "
          ++ other ++ ".")) := by
      unfold checkPatch
      rw [if_neg (not_not_intro isBound)]
      exact if_pos (noFields_of_spelled notCanonical).descriptors
    change SameButEcho canonical other
      (patched (Program.andThen (Program.lift (checkPatch _ schema)) _ _))
      (patched (Program.andThen (Program.lift (checkPatch _ schema)) _ _)) at emptyPatch
    rw [noEntries, notImplemented] at emptyPatch
    exact not_sameButEcho_noEntries fields emptyPatch

end

/-! ## A task -/

/-- Nothing is derived, and every row is accepted. -/
def bareInstances : InstanceCacheServices where
  toCacheServices := bareCaches
  applyDerivedRuntimeFields _ record := record
  acceptsCore _ _ _ := true

/-- Tenant 1 has one task. -/
def oneTask : InstanceTables where
  cores
    | .task => .ofRows [{ coreId := 0, tenantId := some 1, customerId := none, columns := [] }]
    | _ => .empty _
  metaRows _ := .empty _
  customInstances := .empty _

end CoreApi.ConfigObjects
