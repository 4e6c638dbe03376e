import CoreApi.ConfigObjects.Entities

/-!
# The lifecycle service

Which status changes of projects and tasks the configured lifecycles allow, what an
instance is told it may change to, and the calls by which states and transitions are
configured. A call that raises keeps what it wrote before.
-/

namespace CoreApi.ConfigObjects

open CoreApi.Foundation Automation

/-- The tables the lifecycle service reads and writes. -/
structure LifecycleDb where
  tenants : List Nat
  tenantUsers : List Nat
  templateSets : Table ConfigTemplateSetEntity
  configObjects : Table ConfigObjectEntity
  lifecycles : Table ConfigObjectLifecycleEntity
  transitions : Table ConfigObjectLifecycleTransitionEntity
  statusMappings : Table StepStatusMapping
  projects : Table ProjectEntity
  tasks : Table Task
  auditLogs : List ConfigAuditLogEntity

namespace ConfigLifecycleService

/-! ## Status rules -/

section Rules

variable (db : LifecycleDb)

/-- The published config object of a type: the one the query meets first. -/
def publishedConfigObject (objectType : String) : Option ConfigObjectEntity :=
  db.configObjects.rows.find? fun configObject =>
    configObject.objectType == objectType && configObject.status == .published

/-- `transitionRepository.findOne({ where: { configObjectId, fromStateKey, toStateKey } })`. -/
def findTransition (configObjectId : Nat) (fromStateKey toStateKey : String) :
    Option ConfigObjectLifecycleTransitionEntity :=
  db.transitions.rows.find? fun transition =>
    transition.configObjectId == configObjectId && transition.fromStateKey == fromStateKey &&
      transition.toStateKey == toStateKey

/-- Whether the configured transitions of a type lead from one state to another; a type
that is not configured allows every change. -/
def checkTransition (objectType fromStateKey toStateKey : String) : Except String Unit :=
  match publishedConfigObject db objectType with
  | none => .ok ()
  | some configObject =>
      match findTransition db configObject.configObjectId fromStateKey toStateKey with
      | some _ => .ok ()
      | none => .error ("Invalid " ++ objectType ++ " status transition from \"" ++ fromStateKey ++
          "\" to \"" ++ toStateKey ++ "\"")

/-- `validateProjectStatusTransition`. -/
def validateProjectStatusTransition (project : ProjectEntity) (nextStatus : ProjectStatus) :
    Except String Unit :=
  if project.status = nextStatus then .ok ()
  else
    checkTransition db "project" (projectStatusText project.status) (projectStatusText nextStatus)

/-- `where: { projectId, taskStatusId }`. -/
def isMappingOf (projectId taskStatusId : Nat) (mapping : StepStatusMapping) : Bool :=
  mapping.projectId == projectId && mapping.taskStatusId == taskStatusId

/-- The state a task status of a project stands for: that of the mapping the query meets
first, else the id of the status itself. -/
def stateKeyOf (projectId taskStatusId : Nat) : String :=
  match db.statusMappings.rows.find? (isMappingOf projectId taskStatusId) with
  | some mapping => mapping.stepEngineState.text
  | none => toString taskStatusId

/-- `validateTaskStatusTransition`. -/
def validateTaskStatusTransition (task : Task) (nextStatusId : Nat) : Except String Unit :=
  if task.taskStatusId = nextStatusId then .ok ()
  else
    checkTransition db "task" (stateKeyOf db task.projectId task.taskStatusId)
      (stateKeyOf db task.projectId nextStatusId)

/-- An element of `allowedTransitions`. -/
structure AllowedTransition where
  toStateKey : String
  rulesJson : Option Json
deriving DecidableEq

/-- `getTransitionsForObjectTypeAndState`. -/
def getTransitionsForObjectTypeAndState (objectType fromStateKey : String) :
    List AllowedTransition :=
  match publishedConfigObject db objectType with
  | none => []
  | some configObject =>
      (db.transitions.select fun transition =>
        transition.configObjectId == configObject.configObjectId &&
          transition.fromStateKey == fromStateKey).map
            fun transition => ⟨transition.toStateKey, transition.rulesJson⟩

/-- What `getInstanceLifecycleState` returns. -/
structure InstanceLifecycleState where
  objectType : String
  coreId : Nat
  tenantId : Nat
  currentLifecycleState : Option String
  allowedTransitions : List AllowedTransition
deriving DecidableEq

/-- `getInstanceLifecycleState`. -/
def getInstanceLifecycleState (tenantId : Nat) (objectType : String) (coreId : Nat) :
    Except String InstanceLifecycleState :=
  let inState (stateKey : String) : InstanceLifecycleState :=
    ⟨objectType, coreId, tenantId, some stateKey,
      getTransitionsForObjectTypeAndState db objectType stateKey⟩
  if objectType = "project" then
    match db.projects.find? coreId with
    | some project =>
        if project.tenantId = tenantId then .ok (inState (projectStatusText project.status))
        else .error "Requested project does not belong to the specified tenant."
    | none => .error "Requested project does not belong to the specified tenant."
  else if objectType = "task" then
    match db.tasks.find? coreId with
    | some task =>
        if task.tenantId = tenantId then
          .ok (inState (stateKeyOf db task.projectId task.taskStatusId))
        else .error "Requested task does not belong to the specified tenant."
    | none => .error "Requested task does not belong to the specified tenant."
  else .ok ⟨objectType, coreId, tenantId, none, []⟩

end Rules

/-! ## Configuring lifecycles -/

/-- Calls on the configuration; `JSON.parse` is handed in. -/
abbrev Tx := Program LifecycleDb String

/-- `getEffectiveTenantId`: 0 stands for the global scope. -/
def getEffectiveTenantId (tenantId : Option Nat) : Nat := tenantId.getD 0

/-- The lookup of a template set within a scope: a tenant sees its own sets, the global
scope sees all. -/
def inScope (effectiveTenantId : Nat) (templateSet : ConfigTemplateSetEntity) : Bool :=
  effectiveTenantId == 0 || templateSet.tenantId == some effectiveTenantId

/-- `logConfigChange`; the tenant and the user are foreign keys. -/
def logConfigChange (tenantId : Nat) (entityType : AuditEntityType) (entityId : Nat)
    (action : AuditAction) (changedBy : Nat) (oldValue newValue : Option Json) : Tx Unit := do
  let db ← Program.read id
  if tenantId ∈ db.tenants ∧ changedBy ∈ db.tenantUsers then
    Program.write fun db => { db with
      auditLogs := db.auditLogs ++
        [{ tenantId := tenantId
           entityType := entityType
           entityId := entityId
           action := action
           changedBy := changedBy
           oldValue := oldValue
           newValue := newValue }] }
  else Program.raise "Cannot add or update a child row: a foreign key constraint fails"

/-- The published config object of a type in a published set of the scope. -/
def configuredObject (db : LifecycleDb) (effectiveTenantId configTemplateSetId : Nat)
    (objectType : String) : Except String ConfigObjectEntity :=
  match db.templateSets.rows.find? fun templateSet =>
    templateSet.configTemplateSetId == configTemplateSetId &&
      inScope effectiveTenantId templateSet && templateSet.status == .published with
  | none => .error "No active configuration template set found for the provided scope."
  | some _ =>
      match db.configObjects.rows.find? fun configObject =>
        configObject.configTemplateSetId == configTemplateSetId &&
          configObject.objectType == objectType && configObject.status == .published with
      | none => .error ("No active config object found for type \"" ++ objectType ++ "\".")
      | some configObject => .ok configObject

/-- `templateSetWhereForMembershipScope`. -/
def templateSetInScope (db : LifecycleDb) (effectiveTenantId configTemplateSetId : Nat) :
    Option ConfigTemplateSetEntity :=
  db.templateSets.rows.find? fun templateSet =>
    templateSet.configTemplateSetId == configTemplateSetId && inScope effectiveTenantId templateSet

/-- What is configured for a config object is changed by the scope its set belongs to. -/
def checkMembership (db : LifecycleDb) (effectiveTenantId configObjectId : Nat)
    (noObject noMember : String) : Except String Unit :=
  match db.configObjects.find? configObjectId with
  | none => .error noObject
  | some configObject =>
      match templateSetInScope db effectiveTenantId configObject.configTemplateSetId with
      | none => .error noMember
      | some _ => .ok ()

/-- A value that may be null. -/
def orNull (value : Option Json) : Json := value.getD .null

/-- The audited fields of a state, but for its object and key. -/
def lifecycleFields (lifecycle : ConfigObjectLifecycleEntity) : Record :=
  [("label", .str lifecycle.label),
    ("description", orNull (lifecycle.description.map Json.str)),
    ("orderIndex", .num lifecycle.orderIndex)]

/-- The audited fields of a state. -/
def lifecycleRecord (lifecycle : ConfigObjectLifecycleEntity) : Json :=
  .obj ([("configObjectId", .num lifecycle.configObjectId), ("stateKey", .str lifecycle.stateKey)] ++
    lifecycleFields lifecycle)

/-- The audited fields of a transition. -/
def transitionRecord (transition : ConfigObjectLifecycleTransitionEntity) : Json :=
  .obj [("configObjectId", .num transition.configObjectId),
    ("fromStateKey", .str transition.fromStateKey), ("toStateKey", .str transition.toStateKey),
    ("rulesJson", orNull transition.rulesJson)]

structure CreateLifecycleParams where
  tenantId : Option Nat
  configTemplateSetId : Nat
  objectType : String
  createdBy : Nat
  stateKey : String
  label : String
  description : Option String
  orderIndex : Option Int

/-- `createLifecycle`; a state that exists is returned as it is. -/
def createLifecycle (params : CreateLifecycleParams) : Tx ConfigObjectLifecycleEntity := do
  let effectiveTenantId := getEffectiveTenantId params.tenantId
  let db ← Program.read id
  let configObject ← Program.lift
    (configuredObject db effectiveTenantId params.configTemplateSetId params.objectType)
  match db.lifecycles.rows.find? fun lifecycle =>
    lifecycle.configObjectId == configObject.configObjectId &&
      lifecycle.stateKey == params.stateKey with
  | some existing => pure existing
  | none => do
      let lifecycle : ConfigObjectLifecycleEntity :=
        { configObjectLifecycleId := 0
          configObjectId := configObject.configObjectId
          stateKey := params.stateKey
          label := params.label
          description := params.description
          orderIndex := params.orderIndex.getD 0 }
      let saved ← Program.writeReturning fun db =>
        (Keyed.withKey db.lifecycles.autoIncrement lifecycle,
          { db with lifecycles := db.lifecycles.insert lifecycle })
      logConfigChange effectiveTenantId .lifecycle saved.configObjectLifecycleId .create
        params.createdBy none (some (lifecycleRecord saved))
      pure saved

structure UpdateLifecycleParams where
  tenantId : Option Nat
  configObjectLifecycleId : Nat
  updatedBy : Nat
  label : Option String
  description : Option (Option String)
  orderIndex : Option Int

/-- A state with the fields that are given; the others are those it was found with. -/
def relabeled (params : UpdateLifecycleParams) (lifecycle row : ConfigObjectLifecycleEntity) :
    ConfigObjectLifecycleEntity :=
  { row with
    label := params.label.getD lifecycle.label
    description := params.description.getD lifecycle.description
    orderIndex := params.orderIndex.getD lifecycle.orderIndex }

/-- `updateLifecycle`. -/
def updateLifecycle (params : UpdateLifecycleParams) : Tx ConfigObjectLifecycleEntity := do
  let effectiveTenantId := getEffectiveTenantId params.tenantId
  let db ← Program.read id
  match db.lifecycles.find? params.configObjectLifecycleId with
  | none => Program.raise "Lifecycle state not found."
  | some lifecycle => do
      Program.lift (checkMembership db effectiveTenantId lifecycle.configObjectId
        "Config object not found for lifecycle."
        "Lifecycle does not belong to the specified tenant.")
      Program.write fun db => { db with
        lifecycles := db.lifecycles.updateAt lifecycle.configObjectLifecycleId
          (relabeled params lifecycle) fun _ => rfl }
      logConfigChange effectiveTenantId .lifecycle lifecycle.configObjectLifecycleId .update
        params.updatedBy (some (.obj (lifecycleFields lifecycle)))
        (some (.obj (lifecycleFields (relabeled params lifecycle lifecycle))))
      pure (relabeled params lifecycle lifecycle)

/-- `deleteLifecycle`; a state that is not there is no error. -/
def deleteLifecycle (tenantId : Option Nat) (configObjectLifecycleId deletedBy : Nat) :
    Tx Unit := do
  let effectiveTenantId := getEffectiveTenantId tenantId
  let db ← Program.read id
  match db.lifecycles.find? configObjectLifecycleId with
  | none => pure ()
  | some lifecycle => do
      Program.lift (checkMembership db effectiveTenantId lifecycle.configObjectId
        "Config object not found for lifecycle."
        "Lifecycle does not belong to the specified tenant.")
      Program.write fun db => { db with
        lifecycles := db.lifecycles.remove fun row =>
          row.configObjectLifecycleId == lifecycle.configObjectLifecycleId }
      logConfigChange effectiveTenantId .lifecycle configObjectLifecycleId .delete deletedBy
        (some (lifecycleRecord lifecycle)) none

/-! ## Configuring transitions -/

section Transitions

variable (parse : String → Except String Json)

/-- `typeof rulesJson === 'string' ? JSON.parse(rulesJson) : null`. -/
def parseRules (rulesJson : Option String) : Except String (Option Json) :=
  match rulesJson with
  | none => .ok none
  | some text => (parse text).map some

structure CreateLifecycleTransitionParams where
  tenantId : Option Nat
  configTemplateSetId : Nat
  objectType : String
  createdBy : Nat
  fromStateKey : String
  toStateKey : String
  rulesJson : Option String

/-- `createLifecycleTransition`. -/
def createLifecycleTransition (params : CreateLifecycleTransitionParams) :
    Tx ConfigObjectLifecycleTransitionEntity := do
  let effectiveTenantId := getEffectiveTenantId params.tenantId
  let db ← Program.read id
  let configObject ← Program.lift
    (configuredObject db effectiveTenantId params.configTemplateSetId params.objectType)
  match findTransition db configObject.configObjectId params.fromStateKey params.toStateKey with
  | some _ =>
      Program.raise ("Lifecycle transition from \"" ++ params.fromStateKey ++ "\" to \"" ++
        params.toStateKey ++ "\" already exists.")
  | none => do
      let rulesJson ← Program.lift (parseRules parse params.rulesJson)
      let transition : ConfigObjectLifecycleTransitionEntity :=
        { configObjectLifecycleTransitionId := 0
          configObjectId := configObject.configObjectId
          fromStateKey := params.fromStateKey
          toStateKey := params.toStateKey
          rulesJson := rulesJson }
      let saved ← Program.writeReturning fun db =>
        (Keyed.withKey db.transitions.autoIncrement transition,
          { db with transitions := db.transitions.insert transition })
      logConfigChange effectiveTenantId .lifecycleTransition saved.configObjectLifecycleTransitionId
        .create params.createdBy none (some (transitionRecord saved))
      pure saved

structure UpdateLifecycleTransitionParams where
  tenantId : Option Nat
  configObjectLifecycleTransitionId : Nat
  updatedBy : Nat
  rulesJson : Option (Option String)

/-- The rules after an update: parsed where they are given. -/
def nextRules (current : Option Json) (given : Option (Option String)) :
    Except String (Option Json) :=
  match given with
  | none => .ok current
  | some rulesJson => parseRules parse rulesJson

/-- `updateLifecycleTransition`. -/
def updateLifecycleTransition (params : UpdateLifecycleTransitionParams) :
    Tx ConfigObjectLifecycleTransitionEntity := do
  let effectiveTenantId := getEffectiveTenantId params.tenantId
  let db ← Program.read id
  match db.transitions.find? params.configObjectLifecycleTransitionId with
  | none => Program.raise "Lifecycle transition not found."
  | some transition => do
      Program.lift (checkMembership db effectiveTenantId transition.configObjectId
        "Config object not found for transition."
        "Lifecycle transition does not belong to the specified tenant.")
      let rulesJson ← Program.lift (nextRules parse transition.rulesJson params.rulesJson)
      Program.write fun db => { db with
        transitions := db.transitions.updateAt transition.configObjectLifecycleTransitionId
          (fun row => { row with rulesJson := rulesJson }) fun _ => rfl }
      logConfigChange effectiveTenantId .lifecycleTransition
        transition.configObjectLifecycleTransitionId .update params.updatedBy
        (some (.obj [("rulesJson", orNull transition.rulesJson)]))
        (some (.obj [("rulesJson", orNull rulesJson)]))
      pure { transition with rulesJson := rulesJson }

/-- `deleteLifecycleTransition`. -/
def deleteLifecycleTransition (tenantId : Option Nat)
    (configObjectLifecycleTransitionId deletedBy : Nat) : Tx Unit := do
  let effectiveTenantId := getEffectiveTenantId tenantId
  let db ← Program.read id
  match db.transitions.find? configObjectLifecycleTransitionId with
  | none => pure ()
  | some transition => do
      Program.lift (checkMembership db effectiveTenantId transition.configObjectId
        "Config object not found for transition."
        "Lifecycle transition does not belong to the specified tenant.")
      Program.write fun db => { db with
        transitions := db.transitions.remove fun row =>
          row.configObjectLifecycleTransitionId == transition.configObjectLifecycleTransitionId }
      logConfigChange effectiveTenantId .lifecycleTransition configObjectLifecycleTransitionId
        .delete deletedBy (some (transitionRecord transition)) none

end Transitions

end ConfigLifecycleService

end CoreApi.ConfigObjects
