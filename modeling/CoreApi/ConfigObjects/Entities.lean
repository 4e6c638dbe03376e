import CoreApi.Automation.Rows
import CoreApi.Foundation.Program
import CoreApi.Foundation.TableChanges

/-!
# Configuration tables

Template sets of tenants, the config objects in them, and what is configured for a config
object: the states of its lifecycle and the transitions between them. Keys are compared as
they are spelled.
-/

namespace CoreApi.ConfigObjects

open CoreApi.Foundation Automation

/-- `'DRAFT' | 'PUBLISHED' | 'ARCHIVED' | 'CONFLICT'`. -/
inductive PublishStatus where
  | draft | published | archived | conflict
deriving DecidableEq

/-- `config_template_sets`. -/
structure ConfigTemplateSetEntity where
  configTemplateSetId : Nat
  tenantId : Option Nat
  status : PublishStatus
deriving DecidableEq

/-- `config_objects`. -/
structure ConfigObjectEntity where
  configObjectId : Nat
  configTemplateSetId : Nat
  objectType : String
  status : PublishStatus
deriving DecidableEq

/-- `config_object_lifecycles`. -/
structure ConfigObjectLifecycleEntity where
  configObjectLifecycleId : Nat
  configObjectId : Nat
  stateKey : String
  label : String
  description : Option String
  orderIndex : Int
deriving DecidableEq

/-- `config_object_lifecycle_transitions`. -/
structure ConfigObjectLifecycleTransitionEntity where
  configObjectLifecycleTransitionId : Nat
  configObjectId : Nat
  fromStateKey : String
  toStateKey : String
  rulesJson : Option Json
deriving DecidableEq

/-- `projects`, with the columns the lifecycle service reads. -/
structure ProjectEntity where
  projectId : Nat
  tenantId : Nat
  status : ProjectStatus
deriving DecidableEq

/-- A project status as the source spells it. -/
def projectStatusText : ProjectStatus → String
  | .active => "active"
  | .completed => "completed"
  | .canceled => "canceled"
  | .onHold => "on_hold"
  | .archived => "archived"

/-- What an audit entry is about. -/
inductive AuditEntityType where
  | lifecycle | lifecycleTransition | view
deriving DecidableEq

/-- `'create' | 'update' | 'delete'`. -/
inductive AuditAction where
  | create | update | delete
deriving DecidableEq

/-- `config_audit_logs`. -/
structure ConfigAuditLogEntity where
  tenantId : Nat
  entityType : AuditEntityType
  entityId : Nat
  action : AuditAction
  changedBy : Nat
  oldValue : Option Json
  newValue : Option Json
deriving DecidableEq

instance : Keyed ConfigTemplateSetEntity where
  key := ConfigTemplateSetEntity.configTemplateSetId
  withKey n row := { row with configTemplateSetId := n }
  key_withKey _ _ := rfl

instance : Keyed ConfigObjectEntity where
  key := ConfigObjectEntity.configObjectId
  withKey n row := { row with configObjectId := n }
  key_withKey _ _ := rfl

instance : Keyed ConfigObjectLifecycleEntity where
  key := ConfigObjectLifecycleEntity.configObjectLifecycleId
  withKey n row := { row with configObjectLifecycleId := n }
  key_withKey _ _ := rfl

instance : Keyed ConfigObjectLifecycleTransitionEntity where
  key := ConfigObjectLifecycleTransitionEntity.configObjectLifecycleTransitionId
  withKey n row := { row with configObjectLifecycleTransitionId := n }
  key_withKey _ _ := rfl

instance : Keyed ProjectEntity where
  key := ProjectEntity.projectId
  withKey n row := { row with projectId := n }
  key_withKey _ _ := rfl

end CoreApi.ConfigObjects
