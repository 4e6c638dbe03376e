import Mathlib.Data.List.Infix
import CoreApi.Foundation.KeyText
import CoreApi.Foundation.TimedCache
import CoreApi.ConfigObjects.ConfigRelationships
import CoreApi.ConfigObjects.ObjectSpellings
import CoreApi.ConfigObjects.RuntimeManifests

/-!
# Caches of the runtime reads

Schemas, active views and manifests are kept for thirty seconds each. A schema is kept
under the canonical name of its type, a view and a manifest under the type as it is
spelled. A manifest is made through the other two caches. An invalidation clears the
entries whose keys begin with the tenant and contain the type as it is spelled.
-/

namespace CoreApi.ConfigObjects

open CoreApi.Foundation ObjectDesign

/-- The configuration that the runtime reads see. Its objects have canonical types, as the calls
on objects leave them. -/
structure RuntimeConfig (casing : LowerCasing) extends ManifestDb where
  relationships : Table ConfigObjectRelationshipEntity
  canonical : TypesCanonical casing toRuntimeDb

/-- What the cached reads rest on; the runner of an object also depends on the relationships. -/
structure CacheServices where
  casing : LowerCasing
  orderFields : List ConfigObjectFieldEntity → List ConfigObjectFieldEntity
  attachRunner : Table ConfigObjectRelationshipEntity → RuntimeDb → Nat → DesignedObject →
    List ConfigObjectFieldEntity → Except DesignError Json
  runtimeListSection :
    ManifestDb → ConfigObjectViewEntity → ObjectSchema → Json × List RuntimeDiagnostic
  runtimeDetailFormSection : ManifestDb → ConfigObjectViewType → ConfigObjectViewEntity →
    ObjectSchema → Json × List RuntimeDiagnostic

/-- What the reads rest on in a configuration. -/
def CacheServices.on (services : CacheServices) (config : RuntimeConfig services.casing) :
    ManifestServices where
  casing := services.casing
  orderFields := services.orderFields
  attachRunner := services.attachRunner config.relationships
  runtimeListSection := services.runtimeListSection
  runtimeDetailFormSection := services.runtimeDetailFormSection

/-- The caches, in front of the configuration and its past. -/
structure RuntimeState (casing : LowerCasing) extends Versions (RuntimeConfig casing) where
  schemaCache : TimedCache String (Option ObjectSchema)
  activeViewCache : TimedCache String (Option ConfigObjectViewEntity)
  runtimeManifestCache : TimedCache String RuntimeManifest

namespace CachedReads

/-- `runtimeCacheTtlMs`. -/
def runtimeCacheTtlMs : Nat := 30000

/-! ## Keys -/

/-- `${tenantId ?? 'global'}`. -/
def scopeName (tenantId : Option Nat) : String := (tenantId.map Nat.repr).getD "global"

/-- The part of a key that is its scope. -/
def scopePart (tenantId : Option Nat) : String := scopeName tenantId ++ "::"

/-- `getSchemaCacheKey`. -/
def getSchemaCacheKey (tenantId : Option Nat) (objectType : String) : String :=
  scopePart tenantId ++ objectType

/-- `getActiveViewCacheKey`. -/
def getActiveViewCacheKey (tenantId : Option Nat) (entityKey : String)
    (viewType : ConfigObjectViewType) : String :=
  scopePart tenantId ++ entityKey ++ "::" ++ viewType.text

/-- `getRuntimeManifestCacheKey`. -/
def getRuntimeManifestCacheKey (tenantId : Option Nat) (entityKey : String)
    (includeDiagnostics : Bool) : String :=
  scopePart tenantId ++ entityKey ++ "::" ++ if includeDiagnostics = true then "diag" else "no_diag"

/-! ## Reads -/

section

variable (services : CacheServices)

/-- Calls through the caches. -/
abbrev RuntimeTx := Program (RuntimeState services.casing) DesignError

/-- The caches without what has expired. -/
def withoutExpired (s : RuntimeState services.casing) : RuntimeState services.casing :=
  { s with
    schemaCache := s.schemaCache.clearExpired s.now
    activeViewCache := s.activeViewCache.clearExpired s.now
    runtimeManifestCache := s.runtimeManifestCache.clearExpired s.now }

/-- `clearExpiredRuntimeCaches`. -/
def clearExpiredRuntimeCaches : RuntimeTx services Unit := Program.write (withoutExpired services)

/-- The key of a schema, whose type has a canonical name. -/
def schemaKey (tenantId : Option Nat) (objectType : String) : String :=
  getSchemaCacheKey (effectiveTenant tenantId) (canonicalizeObjectType services.casing objectType)

/-- The schema of a type is kept. -/
def keepSchema (key : String) (schema : Option ObjectSchema) : RuntimeTx services Unit :=
  Program.write fun s =>
    { s with schemaCache := s.schemaCache.set ⟨key, s.now + runtimeCacheTtlMs, schema⟩ }

/-- `getObjectSchema`. -/
def getObjectSchema (tenantId : Option Nat) (objectType : String) :
    RuntimeTx services (Option ObjectSchema) := do
  let _ ← Program.lift (normalizeCanonicalObjectTypeOrThrow services.casing objectType)
  clearExpiredRuntimeCaches services
  let s ← Program.read id
  match s.schemaCache.get? s.now (schemaKey services tenantId objectType) with
  | some schema => pure schema
  | none => do
      let schema ← Program.lift (ConfigObjects.getObjectSchema
        (services.on s.current).toSchemaServices s.current.toRuntimeDb tenantId objectType)
      keepSchema services (schemaKey services tenantId objectType) schema
      pure schema

/-- The key of the active view of a type. -/
def viewKey (tenantId : Option Nat) (entityKey : String) (viewType : ConfigObjectViewType) :
    String :=
  getActiveViewCacheKey (effectiveTenant tenantId) entityKey viewType

/-- `getActiveScopedConfigView`. -/
def getActiveScopedConfigView (tenantId : Option Nat) (entityKey : String)
    (viewType : ConfigObjectViewType) : RuntimeTx services (Option ConfigObjectViewEntity) := do
  clearExpiredRuntimeCaches services
  let s ← Program.read id
  match s.activeViewCache.get? s.now (viewKey tenantId entityKey viewType) with
  | some view => pure view
  | none => do
      let view := ConfigObjectsService.getActiveScopedConfigView s.current.viewDb tenantId entityKey
        viewType
      Program.write fun s =>
        { s with
          activeViewCache := s.activeViewCache.set
            ⟨viewKey tenantId entityKey viewType, s.now + runtimeCacheTtlMs, view⟩ }
      pure view

/-- The key of a manifest. -/
def manifestKey (tenantId : Option Nat) (entityKey : String) (includeDiagnostics : Bool) :
    String :=
  getRuntimeManifestCacheKey (effectiveTenant tenantId) entityKey includeDiagnostics

/-- The manifest of a schema that was looked up, with the views that are looked up for it. -/
def buildManifest (tenantId : Option Nat) (entityKey : String) (includeDiagnostics : Bool)
    (schema : Option ObjectSchema) : RuntimeTx services RuntimeManifest :=
  match schema with
  | none =>
      pure (RuntimeManifests.manifestWithoutSchema (effectiveTenant tenantId) entityKey
        includeDiagnostics)
  | some schema => do
      let list ← getActiveScopedConfigView services (effectiveTenant tenantId) entityKey .list
      let detail ← getActiveScopedConfigView services (effectiveTenant tenantId) entityKey .detail
      let form ← getActiveScopedConfigView services (effectiveTenant tenantId) entityKey .form
      let s ← Program.read id
      pure (RuntimeManifests.manifestOfViews (services.on s.current) s.current.toManifestDb
        (effectiveTenant tenantId) entityKey includeDiagnostics schema fun
          | .list => list
          | .detail => detail
          | .form => form)

/-- `getRuntimeManifest`. -/
def getRuntimeManifest (tenantId : Option Nat) (entityKey : String) (includeDiagnostics : Bool) :
    RuntimeTx services RuntimeManifest := do
  clearExpiredRuntimeCaches services
  let s ← Program.read id
  match s.runtimeManifestCache.get? s.now (manifestKey tenantId entityKey includeDiagnostics) with
  | some manifest => pure manifest
  | none => do
      let schema ← getObjectSchema services (effectiveTenant tenantId) entityKey
      let manifest ← buildManifest services tenantId entityKey includeDiagnostics schema
      Program.write fun s =>
        { s with
          runtimeManifestCache := s.runtimeManifestCache.set
            ⟨manifestKey tenantId entityKey includeDiagnostics, s.now + runtimeCacheTtlMs,
              manifest⟩ }
      pure manifest

end

/-! ## Invalidation -/

/-- `text.startsWith(part)`. -/
def startsWithText (text part : String) : Bool := part.toList.isPrefixOf text.toList

/-- `text.includes(part)`. -/
def includesText (text part : String) : Bool := decide (part.toList <:+: text.toList)

structure InvalidateRuntimeCachesParams where
  tenantId : Option Nat := none
  entityKey : Option String := none
  includeSchemaCache : Option Bool := none
  includeViewCache : Option Bool := none
  includeManifestCache : Option Bool := none

/-- Whether a key is one that the call clears. -/
def InvalidateRuntimeCachesParams.clears (params : InvalidateRuntimeCachesParams) (key : String) :
    Bool :=
  (match params.tenantId with
    | none => true
    | some tenantId => startsWithText key (scopePart (effectiveTenant (some tenantId)))) &&
    match params.entityKey with
    | none => true
    | some entityKey => entityKey == "" || includesText key ("::" ++ entityKey)

/-- `RuntimeCacheInvalidationResult`. -/
structure RuntimeCacheInvalidationResult where
  ttlMs : Nat
  schema : Nat
  view : Nat
  manifest : Nat
deriving DecidableEq

/-- `clearCacheByPredicate`, where the cache is included: how many entries are removed, and what
is left. -/
def clearCacheByPredicate {α : Type} (included : Option Bool) (p : String → Bool)
    (cache : TimedCache String α) : Nat × TimedCache String α :=
  if included.getD true = true then
    (cache.entries.countP fun entry => p entry.key, cache.clear fun entry => p entry.key)
  else (0, cache)

/-- `invalidateRuntimeCaches`. -/
def invalidateRuntimeCaches (services : CacheServices) (params : InvalidateRuntimeCachesParams) :
    RuntimeTx services RuntimeCacheInvalidationResult :=
  Program.writeReturning fun s =>
    let schema := clearCacheByPredicate params.includeSchemaCache params.clears s.schemaCache
    let view := clearCacheByPredicate params.includeViewCache params.clears s.activeViewCache
    let manifest :=
      clearCacheByPredicate params.includeManifestCache params.clears s.runtimeManifestCache
    ({ ttlMs := runtimeCacheTtlMs
       schema := schema.1
       view := view.1
       manifest := manifest.1 },
      { s with
        schemaCache := schema.2
        activeViewCache := view.2
        runtimeManifestCache := manifest.2 })

/-! ## Keys of different reads -/

theorem scopeName_noColon (tenantId : Option Nat) : ':' ∉ (scopeName tenantId).toList := by
  rcases tenantId with _ | tenant
  · decide
  · exact repr_noColon tenant

theorem scopeName_injective {tenantId tenantId' : Option Nat}
    (same : scopeName tenantId = scopeName tenantId') : tenantId = tenantId' := by
  rcases tenantId with _ | tenant <;> rcases tenantId' with _ | tenant'
  · rfl
  · have letter : 'g' ∈ (Nat.repr tenant').toList := by
      rw [show Nat.repr tenant' = "global" from same.symm]
      decide
    exact absurd (digits_of_repr letter) (by decide)
  · have letter : 'g' ∈ (Nat.repr tenant).toList := by
      rw [show Nat.repr tenant = "global" from same]
      decide
    exact absurd (digits_of_repr letter) (by decide)
  · rw [repr_injective same]

/-- Keys tell scopes apart. -/
theorem scopePart_inj {tenantId tenantId' : Option Nat} {rest rest' : String}
    (same : scopePart tenantId ++ rest = scopePart tenantId' ++ rest') :
    tenantId = tenantId' ∧ rest = rest' := by
  have letters := congrArg String.toList same
  simp only [scopePart, String.toList_append, List.append_assoc] at letters
  obtain ⟨sameScope, sameRest⟩ := eq_of_colon (scopeName_noColon tenantId)
    (scopeName_noColon tenantId') letters
  exact ⟨scopeName_injective (String.toList_injective sameScope),
    String.toList_injective (List.cons.inj sameRest).2⟩

/-- Texts that end with colons and a part without any are split there in one way. -/
theorem eq_of_lastColon {first first' : String} {part part' : String} (noColon : ':' ∉ part.toList)
    (noColon' : ':' ∉ part'.toList) (same : first ++ "::" ++ part = first' ++ "::" ++ part') :
    first = first' ∧ part = part' := by
  have letters := congrArg (fun text => text.toList.reverse) same
  simp only [String.toList_append, List.reverse_append, List.append_assoc] at letters
  obtain ⟨samePart, sameRest⟩ := eq_of_colon (mt List.mem_reverse.mp noColon)
    (mt List.mem_reverse.mp noColon') letters
  exact ⟨String.toList_injective (List.reverse_injective (List.cons.inj sameRest).2),
    String.toList_injective (List.reverse_injective samePart)⟩

/-- Keys of schemas are of one scope and one name. -/
theorem getSchemaCacheKey_inj {tenantId tenantId' : Option Nat} {objectType objectType' : String}
    (same : getSchemaCacheKey tenantId objectType = getSchemaCacheKey tenantId' objectType') :
    tenantId = tenantId' ∧ objectType = objectType' :=
  scopePart_inj same

/-- Keys of views are of one scope, one spelling and one view type. -/
theorem getActiveViewCacheKey_inj {tenantId tenantId' : Option Nat} {entityKey entityKey' : String}
    {viewType viewType' : ConfigObjectViewType}
    (same : getActiveViewCacheKey tenantId entityKey viewType =
      getActiveViewCacheKey tenantId' entityKey' viewType') :
    tenantId = tenantId' ∧ entityKey = entityKey' ∧ viewType = viewType' := by
  have noColon : ∀ viewType : ConfigObjectViewType, ':' ∉ viewType.text.toList := by
    rintro (_ | _ | _) <;> decide
  have apart : ∀ first second : ConfigObjectViewType, first.text = second.text → first = second := by
    rintro (_ | _ | _) (_ | _ | _) <;> decide
  obtain ⟨sameStart, sameType⟩ := eq_of_lastColon (noColon viewType) (noColon viewType') same
  obtain ⟨sameTenant, sameEntity⟩ := scopePart_inj sameStart
  exact ⟨sameTenant, sameEntity, apart _ _ sameType⟩

/-- Keys of manifests are of one scope, one spelling and one choice of diagnostics. -/
theorem getRuntimeManifestCacheKey_inj {tenantId tenantId' : Option Nat}
    {entityKey entityKey' : String} {includeDiagnostics includeDiagnostics' : Bool}
    (same : getRuntimeManifestCacheKey tenantId entityKey includeDiagnostics =
      getRuntimeManifestCacheKey tenantId' entityKey' includeDiagnostics') :
    tenantId = tenantId' ∧ entityKey = entityKey' ∧
      includeDiagnostics = includeDiagnostics' := by
  have noColon : ∀ diagnostics : Bool,
      ':' ∉ (if diagnostics = true then "diag" else "no_diag").toList := by
    rintro (_ | _) <;> decide
  have apart : ∀ first second : Bool, (if first = true then "diag" else "no_diag") =
      (if second = true then "diag" else "no_diag") → first = second := by
    rintro (_ | _) (_ | _) <;> decide
  obtain ⟨sameStart, sameChoice⟩ := eq_of_lastColon (noColon includeDiagnostics)
    (noColon includeDiagnostics') same
  obtain ⟨sameTenant, sameEntity⟩ := scopePart_inj sameStart
  exact ⟨sameTenant, sameEntity, apart _ _ sameChoice⟩

end CachedReads

end CoreApi.ConfigObjects
