import CoreApi.ConfigObjects.ConfigViews
import CoreApi.ConfigObjects.FieldRegistry
import CoreApi.Foundation.StepSystem
import CoreApi.Foundation.TableChanges

/-!
# Rules of fields

A rule hides a field, or makes it read-only or required, in a state of the lifecycle and for a
role. The calls on rules let a field have one rule for each state and role. They tell a missing
key from an empty one; the merge of descriptors takes a rule for the default of its field when
each of the two keys is missing or empty.
-/

namespace CoreApi.ConfigObjects

open CoreApi.Foundation

/-- `config_object_field_rules`, with all columns. -/
structure DesignedFieldRule extends ConfigObjectFieldRuleEntity where
  isVisible : Bool
  isRequired : Bool
  rulesJson : Option Json
deriving DecidableEq

instance : Keyed DesignedFieldRule where
  key rule := rule.configObjectFieldRuleId
  withKey n row := { row with configObjectFieldRuleId := n }
  key_withKey _ _ := rfl

/-- A rule keeps its key in the registry. -/
theorem DesignedFieldRule.key_toConfigObjectFieldRuleEntity (rule : DesignedFieldRule) :
    Keyed.key rule.toConfigObjectFieldRuleEntity = Keyed.key rule := rfl

/-- The tables of definitions, with the rules of fields. -/
structure FieldRuleDb extends DesignDb where
  fieldRules : Table DesignedFieldRule
  fieldRuleLogs : List ViewAuditEntry

/-- The rules as the registry reads them. -/
def FieldRuleDb.registryRules (db : FieldRuleDb) : Table ConfigObjectFieldRuleEntity :=
  db.fieldRules.seenAs DesignedFieldRule.toConfigObjectFieldRuleEntity
    DesignedFieldRule.key_toConfigObjectFieldRuleEntity

/-- What the calls rest on: the weight of a text, under which the database takes texts for equal,
and which rows the table accepts. -/
structure FieldRuleTables where
  weight : String → List Nat
  acceptsRule : FieldRuleDb → DesignedFieldRule → Bool

namespace FieldRules

open ObjectDesign

/-- Calls on rules. -/
abbrev FieldRuleTx := Program FieldRuleDb DesignError

/-! ## Checks -/

/-- What a call says when the field, its object or its template set is not there. -/
structure RuleMessages where
  fieldNotFound : String
  objectNotFound : String
  notOfTenant : String

/-- The field of a rule must be there, and in the scope of the call. -/
def fieldInScope (db : DesignDb) (configObjectFieldId : Nat) (tenantId : Option Nat)
    (messages : RuleMessages) : Except DesignError DesignedObject :=
  match db.configFields.find? configObjectFieldId with
  | none => .error (.rpc messages.fieldNotFound)
  | some field =>
      match db.configObjects.find? field.configObjectId with
      | none => .error (.rpc messages.objectNotFound)
      | some configObject => do
          checkTemplateSet db configObject.configTemplateSetId (effectiveTenant tenantId)
            messages.notOfTenant
          pure configObject

/-- The messages of `createConfigFieldRule`. -/
def creationMessages : RuleMessages where
  fieldNotFound := "Config field not found."
  objectNotFound := "Config object not found for field."
  notOfTenant := "Config field does not belong to the specified tenant."

/-- The messages of `updateConfigFieldRule` and `deleteConfigFieldRule`. -/
def changeMessages : RuleMessages where
  fieldNotFound := "Config field not found for field rule."
  objectNotFound := "Config object not found for field rule."
  notOfTenant := "Config field rule does not belong to the specified tenant."

/-- `normalizeFieldRulesJson`. -/
def normalizeFieldRulesJson : Option Json → Except DesignError (Option Json)
  | none => .ok none
  | some .null => .ok none
  | some (.obj fields) => .ok (some (.obj fields))
  | some _ => .error (.rpc "rulesJson must be a plain object or null.")

section

variable (tables : FieldRuleTables)

/-- What `findOne` compares of the scope `key ?? IsNull()` of a rule. -/
def scopeOf (configObjectFieldId : Nat) (lifecycleStateKey roleKey : Option String) :
    Nat × Option (List Nat) × Option (List Nat) :=
  (configObjectFieldId, lifecycleStateKey.map tables.weight, roleKey.map tables.weight)

def scopeOfRule (rule : DesignedFieldRule) : Nat × Option (List Nat) × Option (List Nat) :=
  scopeOf tables rule.configObjectFieldId rule.lifecycleStateKey rule.roleKey

/-- The rule of a field for a state and a role. -/
def ruleOfScope (db : FieldRuleDb) (configObjectFieldId : Nat)
    (lifecycleStateKey roleKey : Option String) : Option DesignedFieldRule :=
  db.fieldRules.rows.find? fun rule =>
    scopeOfRule tables rule == scopeOf tables configObjectFieldId lifecycleStateKey roleKey

def scopeTaken : DesignError :=
  .rpc "A field rule already exists for this field + lifecycle + role scope."

/-! ## Writes -/

/-- The table must accept a row. -/
def acceptRule (accepts : FieldRuleDb → Bool) : FieldRuleTx Unit := do
  let accepted ← Program.read accepts
  if accepted = true then pure () else Program.raise .database

/-- `configObjectFieldRuleRepository.save` of a new row. -/
def insertRule (rule : DesignedFieldRule) : FieldRuleTx DesignedFieldRule := do
  acceptRule fun db => tables.acceptsRule db (Keyed.withKey db.fieldRules.autoIncrement rule)
  Program.writeReturning fun db =>
    (Keyed.withKey db.fieldRules.autoIncrement rule,
      { db with fieldRules := db.fieldRules.insert rule })

/-- The columns of a saved rule. -/
def overwrittenRule (rule row : DesignedFieldRule) : DesignedFieldRule :=
  { rule with configObjectFieldRuleId := row.configObjectFieldRuleId }

/-- `configObjectFieldRuleRepository.save` of a row that was read. -/
def saveRule (rule : DesignedFieldRule) : FieldRuleTx Unit := do
  acceptRule fun db => tables.acceptsRule db rule
  Program.write fun db => { db with
    fieldRules := db.fieldRules.updateAt rule.configObjectFieldRuleId (overwrittenRule rule)
      fun _ => rfl }

/-- `configObjectFieldRuleRepository.remove`. -/
def removeRule (configObjectFieldRuleId : Nat) : FieldRuleTx Unit :=
  Program.write fun db => { db with
    fieldRules := db.fieldRules.remove fun rule =>
      rule.configObjectFieldRuleId == configObjectFieldRuleId }

/-- `logConfigChange` of a rule. -/
def logRule (tenantId : Option Nat) (entityId : Nat) (action : AuditAction) (changedBy : Nat)
    (oldValue newValue : Option Json) : FieldRuleTx Unit := do
  let db ← Program.read id
  if (∀ tenant ∈ tenantId, tenant ∈ db.tenants) ∧ changedBy ∈ db.tenantUsers then
    Program.write fun db => { db with
      fieldRuleLogs := db.fieldRuleLogs ++
        [{ tenantId := tenantId
           entityId := entityId
           action := action
           changedBy := changedBy
           oldValue := oldValue
           newValue := newValue }] }
  else Program.raise .database

/-- The audited fields that an update may change. -/
def changedFields (rule : DesignedFieldRule) : Record :=
  [("lifecycleStateKey", .ofText rule.lifecycleStateKey), ("roleKey", .ofText rule.roleKey),
    ("isVisible", .bool rule.isVisible), ("isReadonly", .bool rule.isReadonly),
    ("isRequired", .bool rule.isRequired), ("rulesJson", rule.rulesJson.getD .null)]

/-- The audited fields of a rule. -/
def ruleFields (rule : DesignedFieldRule) : Record :=
  ("configObjectFieldId", .num rule.configObjectFieldId) :: changedFields rule

/-! ## Calls -/

structure CreateConfigFieldRuleParams where
  tenantId : Option Nat
  configObjectFieldId : Nat
  createdBy : Nat
  lifecycleStateKey : Option String := none
  roleKey : Option String := none
  isVisible : Bool := true
  isReadonly : Bool := false
  isRequired : Bool := false
  rulesJson : Option Json := none

/-- The row of a new rule, when the field has none for the state and the role. -/
def newRule (db : FieldRuleDb) (params : CreateConfigFieldRuleParams) :
    Except DesignError DesignedFieldRule := do
  let configObject ← fieldInScope db.toDesignDb params.configObjectFieldId params.tenantId
    creationMessages
  assertConfigObjectAllowsDesignerFields configObject
  if (ruleOfScope tables db params.configObjectFieldId params.lifecycleStateKey
      params.roleKey).isSome = true then .error scopeTaken
  else do
    let rulesJson ← normalizeFieldRulesJson params.rulesJson
    pure
      { configObjectFieldRuleId := 0
        configObjectFieldId := params.configObjectFieldId
        lifecycleStateKey := params.lifecycleStateKey
        roleKey := params.roleKey
        isVisible := params.isVisible
        isReadonly := params.isReadonly
        isRequired := params.isRequired
        rulesJson := rulesJson }

/-- `createConfigFieldRule`. -/
def createConfigFieldRule (params : CreateConfigFieldRuleParams) :
    FieldRuleTx DesignedFieldRule := do
  let db ← Program.read id
  let row ← Program.lift (newRule tables db params)
  let saved ← insertRule tables row
  logRule (effectiveTenant params.tenantId) saved.configObjectFieldRuleId .create
    params.createdBy none (some (.obj (ruleFields saved)))
  pure saved

structure UpdateConfigFieldRuleParams where
  tenantId : Option Nat
  configObjectFieldRuleId : Nat
  updatedBy : Nat
  lifecycleStateKey : Option (Option String) := none
  roleKey : Option (Option String) := none
  isVisible : Option Bool := none
  isReadonly : Option Bool := none
  isRequired : Option Bool := none
  rulesJson : Option (Option Json) := none

/-- A rule with what an update gives. -/
def withUpdates (params : UpdateConfigFieldRuleParams) (rulesJson : Option Json)
    (existing : DesignedFieldRule) : DesignedFieldRule :=
  { existing with
    lifecycleStateKey := params.lifecycleStateKey.getD existing.lifecycleStateKey
    roleKey := params.roleKey.getD existing.roleKey
    isVisible := params.isVisible.getD existing.isVisible
    isReadonly := params.isReadonly.getD existing.isReadonly
    isRequired := params.isRequired.getD existing.isRequired
    rulesJson := rulesJson }

/-- The row that an update makes of a rule, when no other rule of its field is for the state and
the role. -/
def updatedRule (db : FieldRuleDb) (params : UpdateConfigFieldRuleParams)
    (existing : DesignedFieldRule) : Except DesignError DesignedFieldRule := do
  let configObject ← fieldInScope db.toDesignDb existing.configObjectFieldId params.tenantId
    changeMessages
  assertConfigObjectAllowsDesignerFields configObject
  let rulesJson ← (params.rulesJson.map normalizeFieldRulesJson).getD (.ok existing.rulesJson)
  let rule := withUpdates params rulesJson existing
  let duplicate := ruleOfScope tables db rule.configObjectFieldId rule.lifecycleStateKey
    rule.roleKey
  if (duplicate.any fun other => other.configObjectFieldRuleId != rule.configObjectFieldRuleId)
      = true then .error scopeTaken
  else pure rule

/-- `updateConfigFieldRule`. -/
def updateConfigFieldRule (params : UpdateConfigFieldRuleParams) :
    FieldRuleTx DesignedFieldRule := do
  let db ← Program.read id
  match db.fieldRules.find? params.configObjectFieldRuleId with
  | none => Program.raise (.rpc "Config field rule not found.")
  | some existing => do
      let rule ← Program.lift (updatedRule tables db params existing)
      saveRule tables rule
      logRule (effectiveTenant params.tenantId) rule.configObjectFieldRuleId .update
        params.updatedBy (some (.obj (changedFields existing))) (some (.obj (changedFields rule)))
      pure rule

/-- `deleteConfigFieldRule`. -/
def deleteConfigFieldRule (tenantId : Option Nat) (configObjectFieldRuleId deletedBy : Nat) :
    FieldRuleTx Unit := do
  let db ← Program.read id
  match db.fieldRules.find? configObjectFieldRuleId with
  | none => pure ()
  | some existing => do
      let _ ← Program.lift (fieldInScope db.toDesignDb existing.configObjectFieldId tenantId
        changeMessages)
      removeRule existing.configObjectFieldRuleId
      logRule (effectiveTenant tenantId) configObjectFieldRuleId .delete deletedBy
        (some (.obj (ruleFields existing))) none

/-! ## Runs of calls -/

/-- A call on rules. -/
inductive RuleCall where
  | create (params : CreateConfigFieldRuleParams)
  | update (params : UpdateConfigFieldRuleParams)
  | delete (tenantId : Option Nat) (configObjectFieldRuleId deletedBy : Nat)

def RuleCall.run : RuleCall → FieldRuleTx Unit
  | .create params => do let _ ← createConfigFieldRule tables params
  | .update params => do let _ ← updateConfigFieldRule tables params
  | .delete tenantId configObjectFieldRuleId deletedBy =>
      deleteConfigFieldRule tenantId configObjectFieldRuleId deletedBy

/-- Calls on rules, one after another. -/
def ruleCalls : StepSystem FieldRuleDb RuleCall where
  step db call := (call.run tables db).2

/-- The row that a call saves: the checks let it through, and the table accepts it. -/
def savedRow (db : FieldRuleDb) (call : RuleCall) : Option DesignedFieldRule :=
  let row := match call with
    | .create params =>
        (newRule tables db params).toOption.map (Keyed.withKey db.fieldRules.autoIncrement)
    | .update params =>
        (db.fieldRules.find? params.configObjectFieldRuleId).bind fun existing =>
          (updatedRule tables db params existing).toOption
    | .delete .. => none
  row.filter (tables.acceptsRule db)

/-! ## What a call does -/

variable {tables}

theorem fieldRules_logRule (tenantId : Option Nat) (entityId : Nat) (action : AuditAction)
    (changedBy : Nat) (oldValue newValue : Option Json) (db : FieldRuleDb) :
    Program.wp (logRule tenantId entityId action changedBy oldValue newValue)
      (fun _ after => after.fieldRules = db.fieldRules)
      (fun _ after => after.fieldRules = db.fieldRules) db := by
  simp [logRule]

/-- A call that raises or returns after its write leaves the table as the write does. -/
theorem fieldRules_createConfigFieldRule (params : CreateConfigFieldRuleParams)
    (db : FieldRuleDb) :
    (createConfigFieldRule tables params db).2.fieldRules =
      match newRule tables db params with
      | .error _ => db.fieldRules
      | .ok row =>
          if tables.acceptsRule db (Keyed.withKey db.fieldRules.autoIncrement row) = true then
            db.fieldRules.insert row
          else db.fieldRules := by
  refine Program.wp_end (fun after : FieldRuleDb => after.fieldRules = _) ?_
  unfold createConfigFieldRule
  rw [Program.wp_bind, Program.wp_read, Program.wp_bind, id]
  rcases newRule tables db params with raised | row
  · exact rfl
  · rw [Program.wp_lift_ok]
    simp only [insertRule, acceptRule, Program.wp_bind, Program.wp_read, Program.wp_ite,
      Program.wp_pure, Program.wp_raise, Program.wp_writeReturning]
    constructor
    · intro accepted
      rw [if_pos accepted]
      exact fieldRules_logRule _ _ _ _ _ _ _
    · intro refused
      rw [if_neg refused]

theorem fieldRules_updateConfigFieldRule (params : UpdateConfigFieldRuleParams)
    (db : FieldRuleDb) :
    (updateConfigFieldRule tables params db).2.fieldRules =
      match (db.fieldRules.find? params.configObjectFieldRuleId).bind fun existing =>
          (updatedRule tables db params existing).toOption with
      | none => db.fieldRules
      | some row =>
          if tables.acceptsRule db row = true then
            db.fieldRules.updateAt row.configObjectFieldRuleId (overwrittenRule row) fun _ => rfl
          else db.fieldRules := by
  refine Program.wp_end (fun after : FieldRuleDb => after.fieldRules = _) ?_
  unfold updateConfigFieldRule
  rw [Program.wp_bind, Program.wp_read]
  rcases isFound : db.fieldRules.find? params.configObjectFieldRuleId with _ | existing
  · simp only [id, isFound]
    exact rfl
  · simp only [id, isFound, Option.bind_some]
    rw [Program.wp_bind]
    rcases updatedRule tables db params existing with raised | row
    · exact rfl
    · rw [Program.wp_lift_ok]
      simp only [saveRule, acceptRule, Program.wp_bind, Program.wp_read, Program.wp_ite,
        Program.wp_pure, Program.wp_raise, Program.wp_write, Except.toOption]
      constructor
      · intro accepted
        rw [if_pos accepted]
        exact fieldRules_logRule _ _ _ _ _ _ _
      · intro refused
        rw [if_neg refused]

theorem fieldRules_deleteConfigFieldRule (tenantId : Option Nat)
    (configObjectFieldRuleId deletedBy : Nat) (db : FieldRuleDb) :
    let after := (deleteConfigFieldRule tenantId configObjectFieldRuleId deletedBy db).2.fieldRules
    after = db.fieldRules ∨ ∃ p, after = db.fieldRules.remove p := by
  refine Program.wp_end (fun after : FieldRuleDb =>
    after.fieldRules = db.fieldRules ∨ ∃ p, after.fieldRules = db.fieldRules.remove p) ?_
  unfold deleteConfigFieldRule
  rw [Program.wp_bind, Program.wp_read]
  rcases isFound : db.fieldRules.find? configObjectFieldRuleId with _ | existing
  · simp only [id, isFound]
    exact .inl rfl
  · simp only [id, isFound]
    rw [Program.wp_bind]
    rcases fieldInScope db.toDesignDb existing.configObjectFieldId tenantId changeMessages with
      raised | configObject
    · exact .inl rfl
    · rw [Program.wp_lift_ok, removeRule, Program.wp_bind, Program.wp_write]
      exact Program.wp_mono (fieldRules_logRule _ _ _ _ _ _ _)
        (fun _ _ same => .inr ⟨_, same⟩) (fun _ _ same => .inr ⟨_, same⟩)

theorem scopeFree_of_newRule {db : FieldRuleDb} {params : CreateConfigFieldRuleParams}
    {row : DesignedFieldRule} (isNew : newRule tables db params = .ok row) :
    ∀ other ∈ db.fieldRules.rows, scopeOfRule tables other ≠ scopeOfRule tables row := by
  obtain ⟨_, _, isNew⟩ := bind_eq_ok.mp isNew
  obtain ⟨_, _, isNew⟩ := bind_eq_ok.mp isNew
  split at isNew
  · cases isNew
  · next free =>
      obtain ⟨rulesJson, _, isNew⟩ := bind_eq_ok.mp isNew
      cases isNew
      intro other member same
      refine free (List.find?_isSome.mpr ⟨other, member, ?_⟩)
      rw [same]
      exact beq_self_eq_true _

/-- An updated rule keeps its key and its field, and another rule that the check finds for its
scope is the rule itself. -/
theorem of_updatedRule {db : FieldRuleDb} {params : UpdateConfigFieldRuleParams}
    {existing row : DesignedFieldRule} (isUpdated : updatedRule tables db params existing = .ok row) :
    (∃ rulesJson, row = withUpdates params rulesJson existing) ∧
      ∀ duplicate, ruleOfScope tables db row.configObjectFieldId row.lifecycleStateKey row.roleKey =
        some duplicate → Keyed.key duplicate = Keyed.key row := by
  obtain ⟨_, _, isUpdated⟩ := bind_eq_ok.mp isUpdated
  obtain ⟨_, _, isUpdated⟩ := bind_eq_ok.mp isUpdated
  obtain ⟨rulesJson, _, isUpdated⟩ := bind_eq_ok.mp isUpdated
  dsimp only at isUpdated
  split at isUpdated
  · cases isUpdated
  · next free =>
      cases isUpdated
      refine ⟨⟨rulesJson, rfl⟩, ?_⟩
      intro duplicate isFound
      rw [isFound] at free
      exact Classical.not_not.mp fun different => free (bne_iff_ne.mpr different)

/-- A call saves one row, or it removes rows, or it leaves the table alone. -/
theorem fieldRules_step (db : FieldRuleDb) (call : RuleCall) :
    let after := ((ruleCalls tables).step db call).fieldRules
    match savedRow tables db call with
    | some row => Table.Saves db.fieldRules row after
    | none => after = db.fieldRules ∨ ∃ p, after = db.fieldRules.remove p := by
  cases call with
  | create params =>
      simp only [ruleCalls, RuleCall.run, Program.state_of_discarded,
        fieldRules_createConfigFieldRule, savedRow]
      rcases newRule tables db params with raised | row
      · exact .inl rfl
      · simp only [Except.toOption, Option.map_some, Option.filter_some]
        by_cases accepted :
            tables.acceptsRule db (Keyed.withKey db.fieldRules.autoIncrement row) = true
        · rw [if_pos accepted, if_pos accepted]
          exact Table.saves_insert
        · rw [if_neg accepted, if_neg accepted]
          exact .inl rfl
  | update params =>
      simp only [ruleCalls, RuleCall.run, Program.state_of_discarded,
        fieldRules_updateConfigFieldRule, savedRow]
      rcases isFound : db.fieldRules.find? params.configObjectFieldRuleId with _ | existing
      · exact .inl rfl
      · rw [Option.bind_some]
        rcases isUpdated : updatedRule tables db params existing with raised | row
        · exact .inl rfl
        · simp only [Except.toOption, Option.filter_some]
          by_cases accepted : tables.acceptsRule db row = true
          · rw [if_pos accepted, if_pos accepted]
            obtain ⟨⟨rulesJson, rfl⟩, -⟩ := of_updatedRule isUpdated
            have same := Table.key_of_find? isFound
            refine Table.saves_updateAt rfl ?_ ?_
            · exact Option.isSome_iff_exists.mpr
                ⟨existing, Table.find?_of_mem (Table.mem_of_find? isFound)⟩
            · intro old _ isOld
              have oldKey : old.configObjectFieldRuleId = existing.configObjectFieldRuleId := isOld
              rw [overwrittenRule, oldKey]
              rfl
          · rw [if_neg accepted, if_neg accepted]
            exact .inl rfl
  | delete tenantId configObjectFieldRuleId deletedBy =>
      exact fieldRules_deleteConfigFieldRule tenantId configObjectFieldRuleId deletedBy db

end

end FieldRules

end CoreApi.ConfigObjects
