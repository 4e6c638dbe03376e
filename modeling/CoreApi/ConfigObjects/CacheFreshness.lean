import CoreApi.Foundation.StepSystem
import CoreApi.ConfigObjects.RuntimeCaches

/-!
# Freshness of cached reads

Every entry of a cache was right in a configuration that was current when it was made. A
manifest that is made of older entries takes over their age, and an invalidation under
another spelling than the canonical one leaves the schema. Where neither happens, what is
read was right less than thirty seconds ago, and is right at once after an invalidation.
-/

namespace CoreApi.ConfigObjects

open CoreApi.Foundation ObjectDesign CachedReads

/-! ## Reads -/

/-- A read through the caches. -/
inductive RuntimeRead where
  | getObjectSchema (tenantId : Option Nat) (objectType : String)
  | getActiveScopedConfigView (tenantId : Option Nat) (entityKey : String)
      (viewType : ConfigObjectViewType)
  | getRuntimeManifest (tenantId : Option Nat) (entityKey : String) (includeDiagnostics : Bool)

/-- What a read returns. -/
inductive ReadResult where
  | schema (schema : Option ObjectSchema)
  | view (view : Option ConfigObjectViewEntity)
  | manifest (manifest : RuntimeManifest)
deriving DecidableEq

section

variable (services : CacheServices)

/-- The schema of a type in a configuration. -/
def schemaIn (config : RuntimeConfig services.casing) (tenantId : Option Nat)
    (objectType : String) : Except DesignError (Option ObjectSchema) :=
  ConfigObjects.getObjectSchema (services.on config).toSchemaServices config.toRuntimeDb tenantId
    objectType

/-- The active view of a type in a configuration. -/
def viewIn {casing : LowerCasing} (config : RuntimeConfig casing) (tenantId : Option Nat)
    (entityKey : String) (viewType : ConfigObjectViewType) : Option ConfigObjectViewEntity :=
  ConfigObjectsService.getActiveScopedConfigView config.viewDb tenantId entityKey viewType

/-- The manifest of a type in a configuration. -/
def manifestIn (config : RuntimeConfig services.casing) (tenantId : Option Nat)
    (entityKey : String) (includeDiagnostics : Bool) : Except DesignError RuntimeManifest :=
  RuntimeManifests.getRuntimeManifest (services.on config) config.toManifestDb tenantId entityKey
    includeDiagnostics

namespace RuntimeRead

/-- The read, through the caches. -/
def perform : RuntimeRead → RuntimeTx services ReadResult
  | .getObjectSchema tenantId objectType => do
      let schema ← CachedReads.getObjectSchema services tenantId objectType
      pure (.schema schema)
  | .getActiveScopedConfigView tenantId entityKey viewType => do
      let view ← CachedReads.getActiveScopedConfigView services tenantId entityKey viewType
      pure (.view view)
  | .getRuntimeManifest tenantId entityKey includeDiagnostics => do
      let manifest ← CachedReads.getRuntimeManifest services tenantId entityKey includeDiagnostics
      pure (.manifest manifest)

/-- What the read returns in a configuration where nothing is cached. -/
def computed (config : RuntimeConfig services.casing) : RuntimeRead → Except DesignError ReadResult
  | .getObjectSchema tenantId objectType =>
      (schemaIn services config tenantId objectType).map ReadResult.schema
  | .getActiveScopedConfigView tenantId entityKey viewType =>
      .ok (.view (viewIn config tenantId entityKey viewType))
  | .getRuntimeManifest tenantId entityKey includeDiagnostics =>
      (manifestIn services config tenantId entityKey includeDiagnostics).map ReadResult.manifest

/-- The tenant of a read. -/
def tenantId : RuntimeRead → Option Nat
  | .getObjectSchema tenantId _ => tenantId
  | .getActiveScopedConfigView tenantId _ _ => tenantId
  | .getRuntimeManifest tenantId _ _ => tenantId

/-- The type of a read as it is spelled. -/
def entityKey : RuntimeRead → String
  | .getObjectSchema _ objectType => objectType
  | .getActiveScopedConfigView _ entityKey _ => entityKey
  | .getRuntimeManifest _ entityKey _ => entityKey

end RuntimeRead

/-! ## Runs -/

/-- What happens to the configuration and its caches. -/
inductive RuntimeAction (casing : LowerCasing) where
  | write (next : RuntimeConfig casing)
  | advance (duration : Nat)
  | read (read : RuntimeRead)
  | invalidate (params : InvalidateRuntimeCachesParams)

/-- The action is neither a read nor a write. -/
def RuntimeAction.IsQuiet {casing : LowerCasing} : RuntimeAction casing → Prop
  | .advance _ | .invalidate _ => True
  | .write _ | .read _ => False

/-- The configuration and its caches, one action after another. -/
def runtimeSystem : StepSystem (RuntimeState services.casing) (RuntimeAction services.casing) where
  step s
    | .write next => { s with toVersions := s.toVersions.write next }
    | .advance duration => { s with toVersions := s.toVersions.advance duration }
    | .read read => (read.perform services s).2
    | .invalidate params => (invalidateRuntimeCaches services params s).2

/-- A configuration in front of which nothing is cached. -/
def uncached {casing : LowerCasing} (config : RuntimeConfig casing) (now : Nat) :
    RuntimeState casing where
  current := config
  now := now
  replaced := []
  schemaCache := .empty _ _
  activeViewCache := .empty _ _
  runtimeManifestCache := .empty _ _

/-! ## What the reads promise -/

/-- The read returns what it does in a configuration that was current less than thirty seconds
ago. -/
def Recent (s : RuntimeState services.casing) (read : RuntimeRead) : Prop :=
  ∃ config, s.CurrentLately runtimeCacheTtlMs config ∧
    (read.perform services s).1 = read.computed services config

/-- The read returns what it does in the current configuration. -/
def UpToDate (s : RuntimeState services.casing) (read : RuntimeRead) : Prop :=
  (read.perform services s).1 = read.computed services s.current

/-- The invalidation of a type for a tenant. -/
def invalidationOf (tenantId : Option Nat) (entityKey : String) : InvalidateRuntimeCachesParams where
  tenantId := tenantId
  entityKey := some entityKey

/-- After the invalidation every read of the type for the tenant is up to date, whatever happens in
between that is neither a read nor a write. -/
def Effective (s : RuntimeState services.casing) (tenantId : Option Nat) (entityKey : String) :
    Prop :=
  ∀ quiet : List (RuntimeAction services.casing), (∀ action ∈ quiet, action.IsQuiet) →
    ∀ read : RuntimeRead, read.tenantId = tenantId → read.entityKey = entityKey →
      UpToDate services ((runtimeSystem services).run s
        (.invalidate (invalidationOf tenantId entityKey) :: quiet)) read

/-- What a step of a run promises. -/
def KeepsPromise (s : RuntimeState services.casing) (action : RuntimeAction services.casing) :
    Prop :=
  match action with
  | .read read => Recent services s read
  | .invalidate params => ∀ entityKey, params = invalidationOf params.tenantId entityKey →
      Effective services s params.tenantId entityKey
  | .write _ | .advance _ => True

/-! ## When they keep it -/

/-- No entry that a manifest would be made of is out of date. -/
structure PartsUpToDate (s : RuntimeState services.casing) (tenantId : Option Nat)
    (entityKey : String) : Prop where
  schema : canonicalizeObjectType services.casing entityKey ≠ "" → ∀ schema,
    s.schemaCache.get? s.now (schemaKey services tenantId entityKey) = some schema →
      schemaIn services s.current tenantId entityKey = .ok schema
  views : ∀ schema, schemaIn services s.current tenantId entityKey = .ok (some schema) →
    ∀ viewType view, s.activeViewCache.get? s.now (viewKey tenantId entityKey viewType) =
      some view → viewIn s.current tenantId entityKey viewType = view

/-- A manifest is made of entries that are up to date, and an invalidation spells its type so that
it clears the schema. -/
def StaysFresh (s : RuntimeState services.casing) (action : RuntimeAction services.casing) : Prop :=
  match action with
  | .read (.getRuntimeManifest tenantId entityKey includeDiagnostics) =>
      s.runtimeManifestCache.get? s.now (manifestKey tenantId entityKey includeDiagnostics) =
        none → PartsUpToDate services s tenantId entityKey
  | .invalidate params => ∀ entityKey, params = invalidationOf params.tenantId entityKey →
      canonicalizeObjectType services.casing entityKey ≠ "" →
        params.clears (schemaKey services params.tenantId entityKey) = true
  | .write _ | .advance _ | .read _ => True

end

section

variable {services : CacheServices}

/-! ## What entries are of -/

/-- The schema that is kept under a key is that of each type with the key. -/
def SchemaRight (services : CacheServices) (config : RuntimeConfig services.casing) (key : String)
    (schema : Option ObjectSchema) : Prop :=
  ∀ tenantId objectType, key = schemaKey services tenantId objectType →
    schemaIn services config tenantId objectType = .ok schema

/-- The view that is kept under a key is that of each spelled type with the key. -/
def ViewRight {casing : LowerCasing} (config : RuntimeConfig casing) (key : String)
    (view : Option ConfigObjectViewEntity) : Prop :=
  ∀ tenantId entityKey viewType, key = CachedReads.viewKey tenantId entityKey viewType →
    viewIn config tenantId entityKey viewType = view

/-- The manifest that is kept under a key is that of each spelled type with the key. -/
def ManifestRight (services : CacheServices) (config : RuntimeConfig services.casing)
    (key : String) (manifest : RuntimeManifest) : Prop :=
  ∀ tenantId entityKey includeDiagnostics,
    key = manifestKey tenantId entityKey includeDiagnostics →
      manifestIn services config tenantId entityKey includeDiagnostics = .ok manifest

section

variable {config : RuntimeConfig services.casing} {tenantId tenantId' : Option Nat}
  {entityKey : String} {viewType : ConfigObjectViewType} {includeDiagnostics : Bool}

theorem schemaIn_scope (same : effectiveTenant tenantId = effectiveTenant tenantId')
    (objectType : String) :
    schemaIn services config tenantId objectType = schemaIn services config tenantId' objectType := by
  unfold schemaIn
  rw [← getObjectSchema_effectiveTenant, same, getObjectSchema_effectiveTenant]

theorem viewIn_scope {casing : LowerCasing} {config : RuntimeConfig casing}
    (same : effectiveTenant tenantId = effectiveTenant tenantId') (entityKey : String)
    (viewType : ConfigObjectViewType) :
    viewIn config tenantId entityKey viewType = viewIn config tenantId' entityKey viewType := by
  unfold viewIn ConfigObjectsService.getActiveScopedConfigView
  rw [show ConfigObjectsService.getEffectiveTenantId tenantId =
    ConfigObjectsService.getEffectiveTenantId tenantId' from same]

theorem manifestIn_scope (same : effectiveTenant tenantId = effectiveTenant tenantId')
    (entityKey : String) (includeDiagnostics : Bool) :
    manifestIn services config tenantId entityKey includeDiagnostics =
      manifestIn services config tenantId' entityKey includeDiagnostics := by
  unfold manifestIn RuntimeManifests.getRuntimeManifest
  rw [show ConfigObjectsService.getEffectiveTenantId tenantId =
    ConfigObjectsService.getEffectiveTenantId tenantId' from same]

theorem schemaRight_of {objectType : String} {schema : Option ObjectSchema}
    (isSchema : schemaIn services config tenantId objectType = .ok schema) :
    SchemaRight services config (schemaKey services tenantId objectType) schema := by
  intro tenantId' objectType' sameKey
  obtain ⟨sameTenant, sameType⟩ := getSchemaCacheKey_inj sameKey
  rw [schemaIn_scope sameTenant.symm, ← isSchema]
  exact getObjectSchema_congr config.canonical sameType.symm tenantId

theorem viewRight_of {casing : LowerCasing} (config : RuntimeConfig casing)
    (tenantId : Option Nat) (entityKey : String) (viewType : ConfigObjectViewType) :
    ViewRight config (CachedReads.viewKey tenantId entityKey viewType)
      (viewIn config tenantId entityKey viewType) := by
  intro tenantId' entityKey' viewType' sameKey
  obtain ⟨sameTenant, rfl, rfl⟩ := getActiveViewCacheKey_inj sameKey
  exact viewIn_scope sameTenant.symm entityKey viewType

theorem manifestRight_of {manifest : RuntimeManifest}
    (isManifest : manifestIn services config tenantId entityKey includeDiagnostics =
      .ok manifest) :
    ManifestRight services config (manifestKey tenantId entityKey includeDiagnostics)
      manifest := by
  intro tenantId' entityKey' includeDiagnostics' sameKey
  obtain ⟨sameTenant, rfl, rfl⟩ := getRuntimeManifestCacheKey_inj sameKey
  rw [manifestIn_scope sameTenant.symm, isManifest]

end

/-! ## What one read does -/

/-- A read leaves the configuration and adds entries that are right. -/
structure ReadsOnly (services : CacheServices) (s after : RuntimeState services.casing) :
    Prop where
  versions : after.toVersions = s.toVersions
  schemas : s.Adds runtimeCacheTtlMs (SchemaRight services) s.schemaCache after.schemaCache
  views : s.Adds runtimeCacheTtlMs ViewRight s.activeViewCache after.activeViewCache
  manifests : s.Adds runtimeCacheTtlMs (ManifestRight services) s.runtimeManifestCache
    after.runtimeManifestCache

variable {s between after : RuntimeState services.casing}

theorem ReadsOnly.trans (first : ReadsOnly services s between)
    (second : ReadsOnly services between after) : ReadsOnly services s after := by
  obtain ⟨versions, schemas, views, manifests⟩ := second
  rw [first.versions] at versions schemas views manifests
  exact ⟨versions, first.schemas.trans schemas, first.views.trans views,
    first.manifests.trans manifests⟩

theorem readsOnly_withoutExpired : ReadsOnly services s (withoutExpired services s) :=
  ⟨rfl, Versions.adds_clear _, Versions.adds_clear _, Versions.adds_clear _⟩

theorem readsOnly_refl (s : RuntimeState services.casing) : ReadsOnly services s s :=
  ⟨rfl, Versions.adds_refl, Versions.adds_refl, Versions.adds_refl⟩

theorem wp_getObjectSchema (s : RuntimeState services.casing) (tenantId : Option Nat)
    (objectType : String) :
    Program.wp (CachedReads.getObjectSchema services tenantId objectType)
      (fun schema after => ReadsOnly services s after ∧
        (schemaIn services s.current tenantId objectType = .ok schema ∨
          canonicalizeObjectType services.casing objectType ≠ "" ∧
            s.schemaCache.get? s.now (schemaKey services tenantId objectType) = some schema))
      (fun e after => ReadsOnly services s after ∧
        schemaIn services s.current tenantId objectType = .error e) s := by
  unfold CachedReads.getObjectSchema
  rcases normalized : normalizeCanonicalObjectTypeOrThrow services.casing objectType with e | name
  · have fails : schemaIn services s.current tenantId objectType = .error e := by
      unfold schemaIn ConfigObjects.getObjectSchema
      rw [show normalizeCanonicalObjectTypeOrThrow
        (services.on s.current).toSchemaServices.casing objectType = .error e from normalized]
      rfl
    exact ⟨readsOnly_refl s, fails⟩
  · rw [Program.wp_bind, Program.wp_lift_ok, Program.wp_bind, clearExpiredRuntimeCaches,
      Program.wp_write, Program.wp_bind, Program.wp_read]
    have served : (withoutExpired services s).schemaCache.get? s.now
        (schemaKey services tenantId objectType) =
          s.schemaCache.get? s.now (schemaKey services tenantId objectType) :=
      TimedCache.get?_clearExpired _ _ _
    have sameNow : (withoutExpired services s).now = s.now := rfl
    simp only [id_eq, sameNow, served]
    rcases isServed : s.schemaCache.get? s.now (schemaKey services tenantId objectType)
      with _ | schema
    · dsimp only
      rw [Program.wp_bind]
      change Program.wp (Program.lift (schemaIn services s.current tenantId objectType)) _ _ _
      rcases isSchema : schemaIn services s.current tenantId objectType with e | schema
      · exact ⟨readsOnly_withoutExpired, rfl⟩
      · have kept : ReadsOnly services (withoutExpired services s)
            { withoutExpired services s with
              schemaCache := (withoutExpired services s).schemaCache.set
                ⟨schemaKey services tenantId objectType, s.now + runtimeCacheTtlMs, schema⟩ } :=
          ⟨rfl, Versions.adds_set (schemaRight_of isSchema), Versions.adds_refl,
            Versions.adds_refl⟩
        exact ⟨readsOnly_withoutExpired.trans kept, .inl rfl⟩
    · obtain ⟨rfl, named, _⟩ := of_normalizeCanonicalObjectTypeOrThrow normalized
      exact ⟨readsOnly_withoutExpired, .inr ⟨named, rfl⟩⟩

theorem wp_getActiveScopedConfigView (s : RuntimeState services.casing) (tenantId : Option Nat)
    (entityKey : String) (viewType : ConfigObjectViewType) :
    Program.wp (CachedReads.getActiveScopedConfigView services tenantId entityKey viewType)
      (fun view after => ReadsOnly services s after ∧
        (viewIn s.current tenantId entityKey viewType = view ∨
          s.activeViewCache.get? s.now (CachedReads.viewKey tenantId entityKey viewType) =
            some view))
      (fun _ _ => False) s := by
  unfold CachedReads.getActiveScopedConfigView
  rw [Program.wp_bind, clearExpiredRuntimeCaches, Program.wp_write, Program.wp_bind,
    Program.wp_read]
  have served : (withoutExpired services s).activeViewCache.get? s.now
      (CachedReads.viewKey tenantId entityKey viewType) =
        s.activeViewCache.get? s.now (CachedReads.viewKey tenantId entityKey viewType) :=
    TimedCache.get?_clearExpired _ _ _
  have sameNow : (withoutExpired services s).now = s.now := rfl
  simp only [id_eq, sameNow, served]
  rcases isServed : s.activeViewCache.get? s.now
    (CachedReads.viewKey tenantId entityKey viewType) with _ | view
  · have kept : ReadsOnly services (withoutExpired services s)
        { withoutExpired services s with
          activeViewCache := (withoutExpired services s).activeViewCache.set
            ⟨CachedReads.viewKey tenantId entityKey viewType, s.now + runtimeCacheTtlMs,
              viewIn s.current tenantId entityKey viewType⟩ } :=
      ⟨rfl, Versions.adds_refl,
        Versions.adds_set (viewRight_of s.current tenantId entityKey viewType),
        Versions.adds_refl⟩
    exact ⟨readsOnly_withoutExpired.trans kept, .inl rfl⟩
  · exact ⟨readsOnly_withoutExpired, .inr rfl⟩

/-! ## Making a manifest -/

section

variable {config : RuntimeConfig services.casing} {tenantId : Option Nat} {entityKey : String}

theorem manifestIn_of_error {e : DesignError}
    (isSchema : schemaIn services config tenantId entityKey = .error e)
    (includeDiagnostics : Bool) :
    manifestIn services config tenantId entityKey includeDiagnostics = .error e := by
  unfold manifestIn RuntimeManifests.getRuntimeManifest RuntimeManifests.manifestParts
  rw [← schemaIn_scope (effectiveTenant_idem tenantId)] at isSchema
  change (schemaIn services config (effectiveTenant tenantId) entityKey >>= _) >>= _ = _
  rw [isSchema]
  rfl

theorem manifestIn_of_none (isSchema : schemaIn services config tenantId entityKey = .ok none)
    (includeDiagnostics : Bool) :
    manifestIn services config tenantId entityKey includeDiagnostics =
      .ok (RuntimeManifests.manifestWithoutSchema (effectiveTenant tenantId) entityKey
        includeDiagnostics) := by
  unfold manifestIn RuntimeManifests.getRuntimeManifest RuntimeManifests.manifestParts
  rw [← schemaIn_scope (effectiveTenant_idem tenantId)] at isSchema
  change (schemaIn services config (effectiveTenant tenantId) entityKey >>= _) >>= _ = _
  rw [isSchema]
  rfl

theorem manifestIn_of_some {schema : ObjectSchema}
    (isSchema : schemaIn services config tenantId entityKey = .ok (some schema))
    (includeDiagnostics : Bool) :
    manifestIn services config tenantId entityKey includeDiagnostics =
      .ok (RuntimeManifests.manifestOfViews (services.on config) config.toManifestDb
        (effectiveTenant tenantId) entityKey includeDiagnostics schema
        (viewIn config tenantId entityKey)) := by
  unfold manifestIn RuntimeManifests.getRuntimeManifest RuntimeManifests.manifestParts
  rw [← schemaIn_scope (effectiveTenant_idem tenantId)] at isSchema
  have sameViews : viewIn config tenantId entityKey =
      viewIn config (effectiveTenant tenantId) entityKey :=
    funext fun viewType => viewIn_scope (effectiveTenant_idem tenantId).symm entityKey viewType
  change (schemaIn services config (effectiveTenant tenantId) entityKey >>= _) >>= _ = _
  rw [isSchema, sameViews]
  rfl

end

section

variable {tenantId : Option Nat} {entityKey : String}

/-- Reads leave up to date what a manifest is made of. -/
theorem PartsUpToDate.reads (upToDate : PartsUpToDate services s tenantId entityKey)
    (reads : ReadsOnly services s after) : PartsUpToDate services after tenantId entityKey := by
  obtain ⟨versions, schemas, views, _⟩ := reads
  constructor
  · intro named schema served
    rw [versions] at served ⊢
    rcases schemas.get? served with before | isRight
    · exact upToDate.schema named schema before
    · exact isRight tenantId entityKey rfl
  · intro schema isSchema viewType view served
    rw [versions] at isSchema served ⊢
    rcases views.get? served with before | isRight
    · exact upToDate.views schema isSchema viewType view before
    · exact isRight tenantId entityKey viewType rfl

/-- The schema that a manifest is made of is that of the current configuration. -/
theorem wp_schema_of_manifest (upToDate : PartsUpToDate services s tenantId entityKey) :
    Program.wp (CachedReads.getObjectSchema services (effectiveTenant tenantId) entityKey)
      (fun schema after => ReadsOnly services s after ∧
        schemaIn services s.current tenantId entityKey = .ok schema)
      (fun e after => ReadsOnly services s after ∧
        schemaIn services s.current tenantId entityKey = .error e) s := by
  refine Program.wp_mono (wp_getObjectSchema s (effectiveTenant tenantId) entityKey) ?_ ?_
  · rintro schema after ⟨reads, isCurrent | ⟨named, served⟩⟩
    · exact ⟨reads, (schemaIn_scope (effectiveTenant_idem tenantId) entityKey).symm.trans isCurrent⟩
    · refine ⟨reads, upToDate.schema named schema ?_⟩
      rwa [schemaKey, effectiveTenant_idem] at served
  · rintro e after ⟨reads, fails⟩
    exact ⟨reads, (schemaIn_scope (effectiveTenant_idem tenantId) entityKey).symm.trans fails⟩

theorem wp_view_of_manifest (upToDate : PartsUpToDate services s tenantId entityKey)
    {schema : ObjectSchema}
    (isSchema : schemaIn services s.current tenantId entityKey = .ok (some schema))
    (viewType : ConfigObjectViewType) :
    Program.wp (CachedReads.getActiveScopedConfigView services (effectiveTenant tenantId) entityKey
      viewType)
      (fun view after => ReadsOnly services s after ∧
        viewIn s.current tenantId entityKey viewType = view)
      (fun _ _ => False) s := by
  refine Program.wp_mono
    (wp_getActiveScopedConfigView s (effectiveTenant tenantId) entityKey viewType) ?_ nofun
  rintro view after ⟨reads, isCurrent | served⟩
  · exact ⟨reads, (viewIn_scope (effectiveTenant_idem tenantId) entityKey viewType).symm.trans
      isCurrent⟩
  · refine ⟨reads, upToDate.views schema isSchema viewType view ?_⟩
    rwa [CachedReads.viewKey, effectiveTenant_idem] at served

theorem wp_buildManifest (upToDate : PartsUpToDate services s tenantId entityKey)
    {schema : Option ObjectSchema}
    (isSchema : schemaIn services s.current tenantId entityKey = .ok schema)
    (includeDiagnostics : Bool) :
    Program.wp (buildManifest services tenantId entityKey includeDiagnostics schema)
      (fun manifest after => ReadsOnly services s after ∧
        manifestIn services s.current tenantId entityKey includeDiagnostics = .ok manifest)
      (fun _ _ => False) s := by
  rcases schema with _ | schema
  · exact ⟨readsOnly_refl s, manifestIn_of_none isSchema includeDiagnostics⟩
  · unfold buildManifest
    rw [Program.wp_bind]
    refine Program.wp_mono (wp_view_of_manifest upToDate isSchema .list) ?_ nofun
    rintro list first ⟨readsList, isList⟩
    have isSchemaFirst := isSchema
    rw [← readsList.versions] at isSchemaFirst
    rw [Program.wp_bind]
    refine Program.wp_mono (wp_view_of_manifest (upToDate.reads readsList) isSchemaFirst .detail) ?_
      nofun
    rintro detail second ⟨readsDetail, isDetail⟩
    have isSchemaSecond := isSchemaFirst
    rw [← readsDetail.versions] at isSchemaSecond
    rw [Program.wp_bind]
    refine Program.wp_mono (wp_view_of_manifest ((upToDate.reads readsList).reads readsDetail)
      isSchemaSecond .form) ?_ nofun
    rintro form third ⟨readsForm, isForm⟩
    rw [Program.wp_bind, Program.wp_read, Program.wp_pure]
    have reads := (readsList.trans readsDetail).trans readsForm
    refine ⟨reads, (manifestIn_of_some isSchema includeDiagnostics).trans ?_⟩
    rw [readsDetail.versions, readsList.versions] at isForm
    rw [readsList.versions] at isDetail
    rw [id_eq, reads.versions]
    refine congrArg (fun views => Except.ok (RuntimeManifests.manifestOfViews (services.on s.current)
      s.current.toManifestDb (effectiveTenant tenantId) entityKey includeDiagnostics schema views))
      (funext fun viewType => ?_)
    rcases viewType with _ | _ | _
    · exact isList
    · exact isDetail
    · exact isForm

end

theorem wp_getRuntimeManifest {tenantId : Option Nat} {entityKey : String}
    {includeDiagnostics : Bool}
    (parts : s.runtimeManifestCache.get? s.now
        (manifestKey tenantId entityKey includeDiagnostics) = none →
      PartsUpToDate services s tenantId entityKey) :
    Program.wp (CachedReads.getRuntimeManifest services tenantId entityKey includeDiagnostics)
      (fun manifest after => ReadsOnly services s after ∧
        (manifestIn services s.current tenantId entityKey includeDiagnostics = .ok manifest ∨
          s.runtimeManifestCache.get? s.now (manifestKey tenantId entityKey includeDiagnostics) =
            some manifest))
      (fun e after => ReadsOnly services s after ∧
        manifestIn services s.current tenantId entityKey includeDiagnostics = .error e) s := by
  unfold CachedReads.getRuntimeManifest
  rw [Program.wp_bind, clearExpiredRuntimeCaches, Program.wp_write, Program.wp_bind,
    Program.wp_read]
  have served : (withoutExpired services s).runtimeManifestCache.get? s.now
      (manifestKey tenantId entityKey includeDiagnostics) =
        s.runtimeManifestCache.get? s.now (manifestKey tenantId entityKey includeDiagnostics) :=
    TimedCache.get?_clearExpired _ _ _
  have sameNow : (withoutExpired services s).now = s.now := rfl
  simp only [id_eq, sameNow, served]
  rcases isServed : s.runtimeManifestCache.get? s.now
    (manifestKey tenantId entityKey includeDiagnostics) with _ | manifest
  · have upToDate := (parts isServed).reads readsOnly_withoutExpired
    dsimp only
    rw [Program.wp_bind]
    refine Program.wp_mono (wp_schema_of_manifest upToDate) ?_ ?_
    · rintro schema first ⟨readsSchema, isSchema⟩
      rw [Program.wp_bind]
      have isSchemaFirst := isSchema
      rw [← readsSchema.versions] at isSchemaFirst
      refine Program.wp_mono (wp_buildManifest (upToDate.reads readsSchema) isSchemaFirst
        includeDiagnostics) ?_ nofun
      rintro manifest second ⟨readsViews, isManifest⟩
      have reads := (readsOnly_withoutExpired.trans readsSchema).trans readsViews
      have sameConfig : first.current = s.current :=
        congrArg Versions.current (readsOnly_withoutExpired.trans readsSchema).versions
      rw [sameConfig] at isManifest
      have isRight : ManifestRight services second.current
          (manifestKey tenantId entityKey includeDiagnostics) manifest := by
        rw [reads.versions]
        exact manifestRight_of isManifest
      have kept : ReadsOnly services second
          { second with
            runtimeManifestCache := second.runtimeManifestCache.set
              ⟨manifestKey tenantId entityKey includeDiagnostics, second.now + runtimeCacheTtlMs,
                manifest⟩ } :=
        ⟨rfl, Versions.adds_refl, Versions.adds_refl, Versions.adds_set isRight⟩
      exact ⟨reads.trans kept, .inl isManifest⟩
    · rintro e first ⟨readsSchema, fails⟩
      exact ⟨readsOnly_withoutExpired.trans readsSchema, manifestIn_of_error fails _⟩
  · exact ⟨readsOnly_withoutExpired, .inr rfl⟩

/-- The result is served from a cache. -/
def IsServed (services : CacheServices) (s : RuntimeState services.casing) :
    RuntimeRead → ReadResult → Prop
  | .getObjectSchema tenantId objectType, .schema schema =>
      canonicalizeObjectType services.casing objectType ≠ "" ∧
        s.schemaCache.get? s.now (schemaKey services tenantId objectType) = some schema
  | .getActiveScopedConfigView tenantId entityKey viewType, .view view =>
      s.activeViewCache.get? s.now (CachedReads.viewKey tenantId entityKey viewType) = some view
  | .getRuntimeManifest tenantId entityKey includeDiagnostics, .manifest manifest =>
      s.runtimeManifestCache.get? s.now (manifestKey tenantId entityKey includeDiagnostics) =
        some manifest
  | _, _ => False

/-- What a read returns is that of the current configuration, or is served from a cache. -/
theorem wp_perform {read : RuntimeRead} (fresh : StaysFresh services s (.read read)) :
    Program.wp (read.perform services)
      (fun result after => ReadsOnly services s after ∧
        (read.computed services s.current = .ok result ∨ IsServed services s read result))
      (fun e after => ReadsOnly services s after ∧
        read.computed services s.current = .error e) s := by
  rcases read with ⟨tenantId, objectType⟩ | ⟨tenantId, entityKey, viewType⟩ |
    ⟨tenantId, entityKey, includeDiagnostics⟩
  · unfold RuntimeRead.perform
    rw [Program.wp_bind]
    refine Program.wp_mono (wp_getObjectSchema s tenantId objectType) ?_ ?_
    · rintro schema after ⟨reads, isCurrent | served⟩
      · exact ⟨reads, .inl (congrArg (Except.map ReadResult.schema) isCurrent)⟩
      · exact ⟨reads, .inr served⟩
    · rintro e after ⟨reads, fails⟩
      exact ⟨reads, congrArg (Except.map ReadResult.schema) fails⟩
  · unfold RuntimeRead.perform
    rw [Program.wp_bind]
    refine Program.wp_mono (wp_getActiveScopedConfigView s tenantId entityKey viewType) ?_ nofun
    rintro view after ⟨reads, isCurrent | served⟩
    · exact ⟨reads, .inl (congrArg (fun view => Except.ok (ReadResult.view view)) isCurrent)⟩
    · exact ⟨reads, .inr served⟩
  · unfold RuntimeRead.perform
    rw [Program.wp_bind]
    refine Program.wp_mono (wp_getRuntimeManifest fresh) ?_ ?_
    · rintro manifest after ⟨reads, isCurrent | served⟩
      · exact ⟨reads, .inl (congrArg (Except.map ReadResult.manifest) isCurrent)⟩
      · exact ⟨reads, .inr served⟩
    · rintro e after ⟨reads, fails⟩
      exact ⟨reads, congrArg (Except.map ReadResult.manifest) fails⟩

/-! ## Entries are dated -/

/-- The entries of the caches were right when they were made. -/
structure CachesDated (services : CacheServices) (s : RuntimeState services.casing) : Prop where
  schemas : s.schemaCache.Holds (s.Dated runtimeCacheTtlMs (SchemaRight services))
  views : s.activeViewCache.Holds (s.Dated runtimeCacheTtlMs ViewRight)
  manifests : s.runtimeManifestCache.Holds (s.Dated runtimeCacheTtlMs (ManifestRight services))

theorem CachesDated.reads (dated : CachesDated services s) (reads : ReadsOnly services s after) :
    CachesDated services after := by
  obtain ⟨versions, schemas, views, manifests⟩ := reads
  constructor
  · rw [versions]
    exact schemas.dated dated.schemas
  · rw [versions]
    exact views.dated dated.views
  · rw [versions]
    exact manifests.dated dated.manifests

theorem holds_clearCacheByPredicate {α : Type} {cache : TimedCache String α}
    {property : CacheEntry String α → Prop} (holds : cache.Holds property) (included : Option Bool)
    (p : String → Bool) : (clearCacheByPredicate included p cache).2.Holds property := by
  unfold clearCacheByPredicate
  split
  · exact holds.clear _
  · exact holds

theorem CachesDated.invalidate (dated : CachesDated services s)
    (params : InvalidateRuntimeCachesParams) :
    CachesDated services (invalidateRuntimeCaches services params s).2 :=
  ⟨holds_clearCacheByPredicate dated.schemas _ _, holds_clearCacheByPredicate dated.views _ _,
    holds_clearCacheByPredicate dated.manifests _ _⟩

/-- A step of a run keeps the entries dated. -/
theorem cachesDated_step (dated : CachesDated services s) {action : RuntimeAction services.casing}
    (fresh : StaysFresh services s action) :
    CachesDated services ((runtimeSystem services).step s action) := by
  rcases action with next | duration | read | params
  · exact ⟨dated.schemas.mono fun _ entry => entry.write next,
      dated.views.mono fun _ entry => entry.write next,
      dated.manifests.mono fun _ entry => entry.write next⟩
  · exact ⟨dated.schemas.mono fun _ entry => entry.advance duration,
      dated.views.mono fun _ entry => entry.advance duration,
      dated.manifests.mono fun _ entry => entry.advance duration⟩
  · refine Program.wp_end (fun after => CachesDated services after) ?_
    exact Program.wp_mono (wp_perform fresh) (fun _ _ performed => dated.reads performed.1)
      fun _ _ performed => dated.reads performed.1
  · exact dated.invalidate params

theorem cachesDated_uncached (config : RuntimeConfig services.casing) (now : Nat) :
    CachesDated services (uncached config now) :=
  ⟨TimedCache.holds_empty, TimedCache.holds_empty, TimedCache.holds_empty⟩

theorem CachesDated.lately (dated : CachesDated services s) {read : RuntimeRead}
    {result : ReadResult} (served : IsServed services s read result) :
    ∃ config, s.CurrentLately runtimeCacheTtlMs config ∧
      read.computed services config = .ok result := by
  rcases read with ⟨tenantId, objectType⟩ | ⟨tenantId, entityKey, viewType⟩ |
    ⟨tenantId, entityKey, includeDiagnostics⟩ <;>
    rcases result with schema | view | manifest
  · obtain ⟨config, lately, isRight⟩ := Versions.lately_of_get? dated.schemas served.2
    exact ⟨config, lately, congrArg (Except.map ReadResult.schema) (isRight _ _ rfl)⟩
  · exact served.elim
  · exact served.elim
  · exact served.elim
  · obtain ⟨config, lately, isRight⟩ := Versions.lately_of_get? dated.views served
    exact ⟨config, lately,
      congrArg (fun view => Except.ok (ReadResult.view view)) (isRight _ _ _ rfl)⟩
  · exact served.elim
  · exact served.elim
  · exact served.elim
  · obtain ⟨config, lately, isRight⟩ := Versions.lately_of_get? dated.manifests served
    exact ⟨config, lately, congrArg (Except.map ReadResult.manifest) (isRight _ _ _ rfl)⟩

theorem CachesDated.recent (dated : CachesDated services s) {read : RuntimeRead}
    (fresh : StaysFresh services s (.read read)) : Recent services s read := by
  have spec := wp_perform fresh
  unfold Recent
  rcases run : read.perform services s with ⟨e | result, after⟩
  · exact ⟨s.current, .inl rfl, (Program.wp_error spec run).2.symm⟩
  · rcases (Program.wp_ok spec run).2 with isCurrent | served
    · exact ⟨s.current, .inl rfl, isCurrent.symm⟩
    · obtain ⟨config, lately, isResult⟩ := dated.lately served
      exact ⟨config, lately, isResult.symm⟩

/-! ## Invalidation -/

section

variable {tenantId : Option Nat} {entityKey : String}

/-- No cache has an entry for the type and the tenant. -/
structure Absent (services : CacheServices) (s : RuntimeState services.casing)
    (tenantId : Option Nat) (entityKey : String) : Prop where
  schemas : canonicalizeObjectType services.casing entityKey ≠ "" →
    s.schemaCache.Holds (·.key ≠ schemaKey services tenantId entityKey)
  views : ∀ viewType,
    s.activeViewCache.Holds (·.key ≠ CachedReads.viewKey tenantId entityKey viewType)
  manifests : ∀ includeDiagnostics, s.runtimeManifestCache.Holds
    (·.key ≠ manifestKey tenantId entityKey includeDiagnostics)

theorem Absent.invalidate (absent : Absent services s tenantId entityKey)
    (params : InvalidateRuntimeCachesParams) :
    Absent services (invalidateRuntimeCaches services params s).2 tenantId entityKey :=
  ⟨fun named => holds_clearCacheByPredicate (absent.schemas named) _ _,
    fun viewType => holds_clearCacheByPredicate (absent.views viewType) _ _,
    fun diagnostics => holds_clearCacheByPredicate (absent.manifests diagnostics) _ _⟩

/-- A quiet action fills no cache. -/
theorem Absent.quiet (absent : Absent services s tenantId entityKey)
    {action : RuntimeAction services.casing} (quiet : action.IsQuiet) :
    Absent services ((runtimeSystem services).step s action) tenantId entityKey := by
  rcases action with _ | duration | _ | params
  · exact quiet.elim
  · exact ⟨absent.schemas, absent.views, absent.manifests⟩
  · exact quiet.elim
  · exact absent.invalidate params

/-- Nothing is served that is absent. -/
theorem Absent.not_isServed {read : RuntimeRead}
    (absent : Absent services s read.tenantId read.entityKey) (result : ReadResult) :
    ¬IsServed services s read result := by
  intro served
  rcases read with ⟨tenantId, objectType⟩ | ⟨tenantId, entityKey, viewType⟩ |
    ⟨tenantId, entityKey, includeDiagnostics⟩ <;>
    rcases result with schema | view | manifest <;> try exact served.elim
  · exact absurd ((absent.schemas served.1).get?_eq_none.symm.trans served.2) nofun
  · exact absurd ((absent.views viewType).get?_eq_none.symm.trans served) nofun
  · exact absurd ((absent.manifests includeDiagnostics).get?_eq_none.symm.trans served) nofun

theorem Absent.partsUpToDate (absent : Absent services s tenantId entityKey) :
    PartsUpToDate services s tenantId entityKey := by
  constructor
  · intro named schema served
    exact absurd ((absent.schemas named).get?_eq_none.symm.trans served) nofun
  · intro _ _ viewType view served
    exact absurd ((absent.views viewType).get?_eq_none.symm.trans served) nofun

theorem Absent.upToDate {read : RuntimeRead}
    (absent : Absent services s read.tenantId read.entityKey) : UpToDate services s read := by
  have fresh : StaysFresh services s (.read read) := by
    rcases read with _ | _ | ⟨tenantId, entityKey, includeDiagnostics⟩
    · trivial
    · trivial
    · exact fun _ => absent.partsUpToDate
  have spec := wp_perform fresh
  unfold UpToDate
  rcases run : read.perform services s with ⟨e | result, after⟩
  · exact (Program.wp_error spec run).2.symm
  · rcases (Program.wp_ok spec run).2 with isCurrent | served
    · exact isCurrent.symm
    · exact absurd served (absent.not_isServed result)

/-- The keys of a scope that go on with a type as it is spelled are cleared. -/
theorem clears_of_parts (tenantId : Option Nat) (entityKey rest : String) :
    (invalidationOf tenantId entityKey).clears
      (scopePart (effectiveTenant tenantId) ++ entityKey ++ rest) = true := by
  have letters : (scopePart (effectiveTenant tenantId) ++ entityKey ++ rest).toList =
      (scopeName (effectiveTenant tenantId)).toList ++ ("::" ++ entityKey).toList ++
        rest.toList := by
    simp only [scopePart, String.toList_append, List.append_assoc]
  have starts : startsWithText (scopePart (effectiveTenant tenantId) ++ entityKey ++ rest)
      (scopePart (effectiveTenant tenantId)) = true := by
    refine List.isPrefixOf_iff_prefix.mpr ⟨(entityKey ++ rest).toList, ?_⟩
    simp only [String.toList_append, List.append_assoc]
  have includes : includesText (scopePart (effectiveTenant tenantId) ++ entityKey ++ rest)
      ("::" ++ entityKey) = true :=
    decide_eq_true ⟨(scopeName (effectiveTenant tenantId)).toList, rest.toList, letters.symm⟩
  unfold InvalidateRuntimeCachesParams.clears invalidationOf
  rw [Bool.and_eq_true]
  constructor
  · rcases tenantId with _ | tenant
    · rfl
    · exact starts
  · exact Bool.or_eq_true_iff.mpr (.inr includes)

/-- No entry is left under a key that an invalidation clears. -/
theorem holds_clear_key {α : Type} {cache : TimedCache String α} {p : String → Bool} {key : String}
    (clears : p key = true) :
    (clearCacheByPredicate none p cache).2.Holds fun entry => entry.key ≠ key := by
  intro entry member same
  have left : p entry.key = false := TimedCache.holds_clear (fun entry => p entry.key) entry member
  rw [same, clears] at left
  cases left

/-- An invalidation whose spelling clears the schema leaves no entry for the type. -/
theorem absent_invalidate (s : RuntimeState services.casing)
    (clears : canonicalizeObjectType services.casing entityKey ≠ "" →
      (invalidationOf tenantId entityKey).clears (schemaKey services tenantId entityKey) = true) :
    Absent services
      ((runtimeSystem services).step s (.invalidate (invalidationOf tenantId entityKey)))
      tenantId entityKey := by
  refine ⟨fun named => holds_clear_key (clears named), fun viewType => holds_clear_key ?_,
    fun includeDiagnostics => holds_clear_key ?_⟩
  · have cleared := clears_of_parts tenantId entityKey ("::" ++ viewType.text)
    rwa [← String.append_assoc] at cleared
  · have cleared := clears_of_parts tenantId entityKey
      ("::" ++ if includeDiagnostics = true then "diag" else "no_diag")
    rwa [← String.append_assoc] at cleared

/-- An invalidation whose spelling clears the schema is effective. -/
theorem effective_of_clears (s : RuntimeState services.casing)
    (clears : canonicalizeObjectType services.casing entityKey ≠ "" →
      (invalidationOf tenantId entityKey).clears (schemaKey services tenantId entityKey) = true) :
    Effective services s tenantId entityKey := by
  rintro quiet allQuiet read rfl rfl
  let absentIn (s : RuntimeState services.casing) : Prop :=
    Absent services s read.tenantId read.entityKey
  have kept : ∀ (s : RuntimeState services.casing) action, absentIn s → action.IsQuiet →
      absentIn ((runtimeSystem services).step s action) :=
    fun _ _ absent isQuiet => absent.quiet isQuiet
  have guarded : ∀ s, (runtimeSystem services).Guarded (fun _ action => action.IsQuiet) s quiet :=
    fun s => (StepSystem.Guarded.and_actions (StepSystem.Guarded.all (runtimeSystem services)
      (fun _ _ => trivial) s quiet) allQuiet).mono fun _ _ both => both.2
  exact Absent.upToDate (StepSystem.run_guarded kept (absent_invalidate s clears) (guarded _))

end

/-- What the reads and the invalidations promise is kept through a run in which manifests are made
of entries that are up to date and invalidations spell their types so that they clear the schema. -/
theorem reads_stay_fresh (services : CacheServices) (config : RuntimeConfig services.casing)
    (now : Nat) (actions : List (RuntimeAction services.casing))
    (fresh : (runtimeSystem services).Guarded (StaysFresh services) (uncached config now) actions) :
    (runtimeSystem services).Guarded (KeepsPromise services) (uncached config now) actions := by
  have kept : ∀ s action, CachesDated services s → StaysFresh services s action →
      CachesDated services ((runtimeSystem services).step s action) :=
    fun _ _ dated staysFresh => cachesDated_step dated staysFresh
  refine StepSystem.Guarded.strengthen kept ?_ (cachesDated_uncached config now) fresh
  intro s action dated staysFresh
  rcases action with _ | _ | read | params
  · trivial
  · trivial
  · exact dated.recent staysFresh
  · exact fun entityKey isInvalidation =>
      effective_of_clears s (isInvalidation ▸ staysFresh entityKey isInvalidation)

end

/-! ## A type that is published while it is read -/

/-- Nothing is configured. -/
def nothingPublished : RuntimeConfig latinCasing where
  templateSets := .empty _
  configObjects := .empty _
  configFields := .empty _
  views := .empty _
  panels := []
  relationships := .empty _
  canonical := nofun

/-- Tenant 1 has published tasks. -/
def tasksPublished : RuntimeConfig latinCasing where
  templateSets := .ofRows
    [{ configTemplateSetId := 0, tenantId := some 1, status := .published }]
  configObjects := .ofRows
    [{ configObjectId := 0
       configTemplateSetId := 1
       objectType := "task"
       status := .published
       bindingMode := .sorBound
       sorTableName := some "tasks"
       displayName := "Task"
       description := none }]
  configFields := .empty _
  views := .empty _
  panels := []
  relationships := .empty _
  canonical := by
    unfold TypesCanonical IsCanonical
    decide

/-- Runners and sections are empty. -/
def bareCaches : CacheServices where
  casing := latinCasing
  orderFields := id
  attachRunner _ _ _ _ _ := .ok .null
  runtimeListSection _ _ _ := (.null, [])
  runtimeDetailFormSection _ _ _ _ := (.null, [])

/-- Tasks are published after their schema was read, and invalidated before their manifest is. -/
def invalidatedTasks : List (RuntimeAction latinCasing) :=
  [.read (.getObjectSchema (some 1) "task"), .advance 1000, .write tasksPublished,
    .invalidate (invalidationOf (some 1) "task"), .read (.getRuntimeManifest (some 1) "task" true)]

theorem reads_stay_fresh_invalidatedTasks :
    (runtimeSystem bareCaches).Guarded (KeepsPromise bareCaches) (uncached nothingPublished 0)
      invalidatedTasks := by
  refine reads_stay_fresh bareCaches nothingPublished 0 invalidatedTasks
    ⟨trivial, trivial, trivial, ?_, ?_, trivial⟩
  · intro entityKey isInvalidation _
    have sameKey := congrArg InvalidateRuntimeCachesParams.entityKey isInvalidation
    rw [← Option.some.inj sameKey]
    decide
  · intro _
    constructor
    · intro _ schema served
      have noSchema : ((runtimeSystem bareCaches).run (uncached nothingPublished 0)
          (invalidatedTasks.take 4)).schemaCache.get? 1000
            (schemaKey bareCaches (some 1) "task") = none := by
        decide
      exact absurd (noSchema.symm.trans served) nofun
    · intro _ _ viewType view served
      have noView : ∀ viewType ∈ [ConfigObjectViewType.list, .detail, .form],
          ((runtimeSystem bareCaches).run (uncached nothingPublished 0)
            (invalidatedTasks.take 4)).activeViewCache.get? 1000
              (CachedReads.viewKey (some 1) "task" viewType) = none := by
        decide
      have absent := noView viewType (by cases viewType <;> decide)
      exact absurd (absent.symm.trans served) nofun

/-- The manifest is made of the schema before the publication, and read when that is old. -/
def manifestOfOldSchema : List (RuntimeAction latinCasing) :=
  [.read (.getObjectSchema (some 1) "task"), .advance 1000, .write tasksPublished, .advance 28000,
    .read (.getRuntimeManifest (some 1) "task" true), .advance 29000,
    .read (.getRuntimeManifest (some 1) "task" true)]

/-- The invalidation spells the type in the plural, as the reads do. -/
def invalidatedPlural : List (RuntimeAction latinCasing) :=
  [.read (.getObjectSchema (some 1) "tasks"), .advance 1000, .write tasksPublished,
    .invalidate (invalidationOf (some 1) "tasks")]

/-- The manifest is read 57 seconds after tasks were published, and is without them; and after the
invalidation the schema is still missing. -/
theorem manifest_older_than_entries :
    ¬(runtimeSystem bareCaches).Guarded (KeepsPromise bareCaches) (uncached nothingPublished 0)
        manifestOfOldSchema ∧
      ¬(runtimeSystem bareCaches).Guarded (KeepsPromise bareCaches) (uncached nothingPublished 0)
        invalidatedPlural := by
  constructor
  · rintro ⟨_, _, _, _, _, _, ⟨config, lately, same⟩, _⟩
    rcases lately with rfl | ⟨lastInstant, member, recent⟩
    · exact absurd same (by decide)
    · obtain ⟨_, isLast⟩ := Prod.mk.inj (List.mem_singleton.mp member)
      rw [isLast] at recent
      exact absurd recent (by decide)
  · rintro ⟨_, _, _, effective, _⟩
    have stale := effective "tasks" rfl [] nofun (.getObjectSchema (some 1) "tasks") rfl rfl
    exact absurd stale (by unfold UpToDate; decide)

end CoreApi.ConfigObjects
