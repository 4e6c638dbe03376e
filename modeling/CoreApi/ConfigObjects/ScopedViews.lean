import CoreApi.ConfigObjects.ConfigViews

/-!
# Reading the views of a scope

The reads of views look an object up by its type alone, and only then ask whether it
belongs to the scope of the call. In the object a view of the tenant comes before one
of the global scope.
-/

namespace CoreApi.ConfigObjects

open CoreApi.Foundation

namespace ConfigObjectsService

/-- The object is one of the scope. -/
def isInScope (db : ViewDb) (effectiveTenantId : Option Nat) (configObject : ConfigObjectEntity) :
    Bool :=
  (templateSetForTenantScope db configObject.configTemplateSetId effectiveTenantId).isSome

/-- The object of a type that the query meets first. -/
def objectOfType (db : ViewDb) (objectType : String) : Option ConfigObjectEntity :=
  db.configObjects.rows.find? fun configObject => configObject.objectType == objectType

/-- `tryResolveConfigObjectForEntityScope`. -/
def tryResolveConfigObjectForEntityScope (db : ViewDb) (entityKey : String)
    (effectiveTenantId : Option Nat) : Option ConfigObjectEntity :=
  (objectOfType db entityKey).filter (isInScope db effectiveTenantId)

/-! ## The active view -/

/-- The active view of an object, a type and a scope, the latest where there are several. -/
def latestActiveView (db : ViewDb) (configObjectId : Nat) (viewType : ConfigObjectViewType)
    (tenantId : Option Nat) : Option ConfigObjectViewEntity :=
  (db.views.select fun view =>
    view.isActive && inScopeOf configObjectId viewType tenantId view).argmax
      ConfigObjectViewEntity.configObjectViewId

/-- The active view of an object in a scope: that of the tenant, else the global one. -/
def activeViewOf (db : ViewDb) (configObjectId : Nat) (viewType : ConfigObjectViewType)
    (effectiveTenantId : Option Nat) : Option ConfigObjectViewEntity :=
  match effectiveTenantId with
  | none => latestActiveView db configObjectId viewType none
  | some tenant => (latestActiveView db configObjectId viewType (some tenant)).or
      (latestActiveView db configObjectId viewType none)

/-- `getActiveScopedConfigView`, as it is computed where no view is cached. -/
def getActiveScopedConfigView (db : ViewDb) (tenantId : Option Nat) (entityKey : String)
    (viewType : ConfigObjectViewType) : Option ConfigObjectViewEntity :=
  (tryResolveConfigObjectForEntityScope db entityKey (getEffectiveTenantId tenantId)).bind
    fun configObject =>
      activeViewOf db configObject.configObjectId viewType (getEffectiveTenantId tenantId)

/-! ## All views -/

/-- The place of a view type in the column's enumeration. -/
def ConfigObjectViewType.place : ConfigObjectViewType → Nat
  | .list => 0
  | .detail => 1
  | .form => 2

/-- `ORDER BY view_type, is_default DESC, config_object_view_id`. -/
def viewBefore (first second : ConfigObjectViewEntity) : Bool :=
  if first.viewType ≠ second.viewType then
    Nat.ble (ConfigObjectViewType.place first.viewType) (ConfigObjectViewType.place second.viewType)
  else if first.isDefault ≠ second.isDefault then first.isDefault
  else Nat.ble first.configObjectViewId second.configObjectViewId

/-- The views of an object. -/
def viewsOf (db : ViewDb) (configObjectId : Nat) : List ConfigObjectViewEntity :=
  (db.views.select fun view => view.configObjectId == configObjectId).mergeSort viewBefore

/-- `listConfigViews`. -/
def listConfigViews (db : ViewDb) (tenantId : Option Nat) (objectType : String) :
    Except ViewRefusal (List ConfigObjectViewEntity) :=
  match objectOfType db objectType with
  | none => .ok []
  | some configObject =>
      if isInScope db (getEffectiveTenantId tenantId) configObject = true then
        .ok (viewsOf db configObject.configObjectId)
      else .error (.rpc "Config object does not belong to the specified tenant.")

end ConfigObjectsService

end CoreApi.ConfigObjects
