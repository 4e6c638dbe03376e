import Mathlib
import CoreApi.ConfigObjects.FieldRules

/-!
# Defaults of fields

The checks of the calls keep one rule of a field for each scope. The merge of descriptors takes
four spellings of a scope for the default of a field, so that a field may get several defaults;
then writing one of them does not decide whether the field is read-only.
-/

namespace CoreApi.ConfigObjects

open CoreApi.Foundation

namespace FieldRules

variable {tables : FieldRuleTables}

/-! ## One rule for each scope -/

/-- No two rules of a field are for the same scope. -/
def OneRulePerScope (tables : FieldRuleTables) (db : FieldRuleDb) : Prop :=
  db.fieldRules.Pairwise fun rule other => scopeOfRule tables rule ≠ scopeOfRule tables other

theorem scopeFree_of_savedRow {db : FieldRuleDb} {call : RuleCall} {row : DesignedFieldRule}
    (distinct : OneRulePerScope tables db) (isSaved : savedRow tables db call = some row) :
    ∀ other ∈ db.fieldRules.rows, Keyed.key other ≠ Keyed.key row →
      scopeOfRule tables other ≠ scopeOfRule tables row := by
  have asked := (Option.filter_eq_some_iff.mp isSaved).1
  cases call with
  | create params =>
      obtain ⟨new, isNew, rfl⟩ := Option.map_eq_some_iff.mp asked
      exact fun other member _ => scopeFree_of_newRule (toOption_eq_some.mp isNew) other member
  | update params =>
      obtain ⟨existing, isFound, isUpdated⟩ := Option.bind_eq_some_iff.mp asked
      intro other member different same
      have matched : (ruleOfScope tables db row.configObjectFieldId row.lifecycleStateKey
          row.roleKey).isSome = true :=
        List.find?_isSome.mpr ⟨other, member, beq_iff_eq.mpr same⟩
      obtain ⟨duplicate, isDuplicate⟩ := Option.isSome_iff_exists.mp matched
      have isRule := (of_updatedRule (toOption_eq_some.mp isUpdated)).2 duplicate isDuplicate
      unfold ruleOfScope at isDuplicate
      have sameScope := List.find?_some isDuplicate
      simp only [beq_iff_eq] at sameScope
      exact distinct other member duplicate (List.mem_of_find?_eq_some isDuplicate)
        (isRule ▸ different) (same.trans sameScope.symm)
  | delete => cases asked

/-- Every call lets a field have one rule for each scope. -/
theorem oneRulePerScope_step (db : FieldRuleDb) (call : RuleCall)
    (distinct : OneRulePerScope tables db) :
    OneRulePerScope tables ((ruleCalls tables).step db call) := by
  have effect := @fieldRules_step tables db call
  rcases isSaved : savedRow tables db call with _ | row
  · rw [isSaved] at effect
    rcases effect with same | ⟨p, removed⟩
    · rw [OneRulePerScope, same]
      exact distinct
    · rw [OneRulePerScope, removed]
      exact distinct.remove
  · rw [isSaved] at effect
    exact (distinct.saves_iff Ne.symm effect).mpr (scopeFree_of_savedRow distinct isSaved)

/-! ## One default for each field -/

/-- A field has at most one rule that the merge takes for its default. -/
def OneGlobalRule (db : FieldRuleDb) : Prop :=
  ∀ rule ∈ db.fieldRules.rows, ∀ other ∈ db.fieldRules.rows,
    rule.configObjectFieldId = other.configObjectFieldId →
      isGlobalDefaultRule rule.toConfigObjectFieldRuleEntity = true →
      isGlobalDefaultRule other.toConfigObjectFieldRuleEntity = true → rule = other

/-- The call does not let a field have a second default that spells the missing keys otherwise. -/
def SpellsAlike (tables : FieldRuleTables) (db : FieldRuleDb) (call : RuleCall) : Prop :=
  ∀ row ∈ savedRow tables db call, isGlobalDefaultRule row.toConfigObjectFieldRuleEntity = true →
    ∀ other ∈ db.fieldRules.rows, other.configObjectFieldId = row.configObjectFieldId →
      Keyed.key other ≠ Keyed.key row →
      isGlobalDefaultRule other.toConfigObjectFieldRuleEntity = true →
      other.lifecycleStateKey = row.lifecycleStateKey ∧ other.roleKey = row.roleKey

instance (db : FieldRuleDb) : Decidable (OneGlobalRule db) := by
  unfold OneGlobalRule
  infer_instance

instance (db : FieldRuleDb) (call : RuleCall) : Decidable (SpellsAlike tables db call) := by
  unfold SpellsAlike
  infer_instance

/-- Two rules are not both the default of one field. -/
def NotBothDefault (rule other : DesignedFieldRule) : Prop :=
  rule.configObjectFieldId = other.configObjectFieldId →
    isGlobalDefaultRule rule.toConfigObjectFieldRuleEntity = true →
    ¬isGlobalDefaultRule other.toConfigObjectFieldRuleEntity = true

theorem NotBothDefault.symm {rule other : DesignedFieldRule} (apart : NotBothDefault rule other) :
    NotBothDefault other rule :=
  fun sameField isDefault otherDefault => apart sameField.symm otherDefault isDefault

theorem oneGlobalRule_iff {db : FieldRuleDb} :
    OneGlobalRule db ↔ db.fieldRules.Pairwise NotBothDefault := by
  constructor
  · intro single rule member other otherMember different sameField isDefault otherDefault
    exact different (congrArg Keyed.key
      (single rule member other otherMember sameField isDefault otherDefault))
  · intro apart rule member other otherMember sameField isDefault otherDefault
    by_contra different
    exact apart rule member other otherMember
      (fun same => different (Table.eq_of_key_eq member otherMember same)) sameField isDefault
      otherDefault

/-- A call keeps the defaults of fields single exactly when it spells the missing keys alike. -/
theorem oneGlobalRule_step_iff (db : FieldRuleDb) (call : RuleCall)
    (distinct : OneRulePerScope tables db) (single : OneGlobalRule db) :
    OneGlobalRule ((ruleCalls tables).step db call) ↔ SpellsAlike tables db call := by
  have effect := @fieldRules_step tables db call
  have apart := oneGlobalRule_iff.mp single
  rw [oneGlobalRule_iff]
  rcases isSaved : savedRow tables db call with _ | row
  · rw [isSaved] at effect
    refine iff_of_true ?_ ?_
    · rcases effect with same | ⟨p, removed⟩
      · rw [same]
        exact apart
      · rw [removed]
        exact apart.remove
    · intro row isRow
      rw [isSaved] at isRow
      cases isRow
  · rw [isSaved] at effect
    rw [apart.saves_iff NotBothDefault.symm effect]
    constructor
    · intro notBoth saved isRow isDefault other member sameField different otherDefault
      obtain rfl := Option.some.inj (isSaved.symm.trans isRow)
      exact absurd isDefault (notBoth other member different sameField otherDefault)
    · intro alike other member different sameField otherDefault isDefault
      obtain ⟨sameState, sameRole⟩ :=
        alike row isSaved isDefault other member sameField different otherDefault
      refine scopeFree_of_savedRow distinct isSaved other member different ?_
      rw [scopeOfRule, scopeOfRule, sameField, sameState, sameRole]

/-! ## The default of a field -/

/-- Whenever the default of a field is made writable, the merged descriptor of the field is as
writable as its base, and a field of the designer's own is writable. -/
def WritableAgain (tables : FieldRuleTables) (db : FieldRuleDb) : Prop :=
  ∀ rule ∈ db.fieldRules.rows, isGlobalDefaultRule rule.toConfigObjectFieldRuleEntity = true →
    ∀ params : UpdateConfigFieldRuleParams,
      params.configObjectFieldRuleId = rule.configObjectFieldRuleId →
      params.lifecycleStateKey = none → params.roleKey = none → params.isReadonly = some false →
      ∀ saved after, updateConfigFieldRule tables params db = (.ok saved, after) →
      ∀ view ∈ fieldViewsOf after.registryRules after.configFields.rows,
        view.field.configObjectFieldId = rule.configObjectFieldId →
        ∀ metadata base,
          (mergedDescriptor metadata base view).readOnly = base.readOnly ∧
            (customDescriptor metadata view).readOnly = none

theorem savedRow_of_returned {params : UpdateConfigFieldRuleParams} {db after : FieldRuleDb}
    {saved : DesignedFieldRule}
    (returned : updateConfigFieldRule tables params db = (.ok saved, after)) :
    savedRow tables db (.update params) = some saved := by
  have written : Program.wp (updateConfigFieldRule tables params)
      (fun saved _ => savedRow tables db (.update params) = some saved) (fun _ _ => True) db := by
    unfold updateConfigFieldRule savedRow
    rw [Program.wp_bind, Program.wp_read]
    rcases isFound : db.fieldRules.find? params.configObjectFieldRuleId with _ | existing
    · simp only [id, isFound]
      exact trivial
    · simp only [id, isFound, Option.bind_some]
      rw [Program.wp_bind]
      rcases updatedRule tables db params existing with raised | row
      · exact trivial
      · rw [Program.wp_lift_ok]
        simp only [saveRule, acceptRule, Program.wp_bind, Program.wp_read, Program.wp_ite,
          Program.wp_pure, Program.wp_raise, Program.wp_write, Except.toOption]
        refine ⟨?_, fun _ => trivial⟩
        intro accepted
        refine Program.wp_mono (Program.wp_trivial _) (fun _ _ _ => ?_) (fun _ _ _ => trivial)
        rw [Option.filter_some, if_pos accepted]
  exact Program.wp_ok written returned

/-- Without a rule that makes it read-only, a descriptor stays as writable as it is. -/
theorem applyGlobalRulesToDescriptor_eq_self {descriptor : CoreFieldDescriptor}
    {rules : List ConfigObjectFieldRuleEntity}
    (writable : ∀ rule ∈ rules, isGlobalDefaultRule rule = true → rule.isReadonly = false) :
    (applyGlobalRulesToDescriptor descriptor rules).readOnly = descriptor.readOnly := by
  unfold applyGlobalRulesToDescriptor
  split
  · next isReadonly =>
      rcases isReadonly with already | byRule
      · exact already.symm
      · obtain ⟨rule, member, isReadonly⟩ := List.any_eq_true.mp byRule
        obtain ⟨isRule, isDefault⟩ := List.mem_filter.mp member
        rw [writable rule isRule isDefault] at isReadonly
        cases isReadonly
  · rfl

/-- Where the default of a field is its only one, writing it decides. -/
theorem writableAgain {db : FieldRuleDb} (single : OneGlobalRule db) :
    WritableAgain tables db := by
  intro rule member isDefault params isRule noState noRole writable saved after returned view
    isView sameField metadata base
  have isSaved := savedRow_of_returned returned
  have effect := @fieldRules_step tables db (.update params)
  rw [isSaved] at effect
  have state : (ruleCalls tables).step db (.update params) = after := by
    simp only [ruleCalls, RuleCall.run, Program.state_of_discarded, returned]
  rw [state] at effect
  obtain ⟨existing, isFound, isUpdated⟩ :=
    Option.bind_eq_some_iff.mp (Option.filter_eq_some_iff.mp isSaved).1
  obtain ⟨⟨rulesJson, rfl⟩, -⟩ := of_updatedRule (toOption_eq_some.mp isUpdated)
  have same : existing = rule :=
    Table.eq_of_key_eq (Table.mem_of_find? isFound) member
      ((Table.key_of_find? isFound).trans isRule)
  subst same
  obtain ⟨field, isField, rfl⟩ := List.mem_map.mp isView
  have rulesWritable : ∀ other ∈ after.registryRules.select fun other =>
      other.configObjectFieldId == field.configObjectFieldId,
      isGlobalDefaultRule other = true → other.isReadonly = false := by
    intro other isOther otherDefault
    obtain ⟨isRow, ofField⟩ := Table.mem_select.mp isOther
    obtain ⟨row, inTable, rfl⟩ := List.mem_map.mp isRow
    rcases (effect row).mp inTable with rfl | ⟨old, different⟩
    · simp [withUpdates, writable]
    · have sameRule := single row old existing member
        ((beq_iff_eq.mp ofField).trans sameField) otherDefault isDefault
      exact absurd (congrArg Keyed.key sameRule) different
  exact ⟨applyGlobalRulesToDescriptor_eq_self rulesWritable,
    applyGlobalRulesToDescriptor_eq_self rulesWritable⟩

/-- Every field keeps at most one default, which decides whether the field is read-only, in every
state of a run exactly when no call gives a field a second default whose missing keys are spelled
otherwise. -/
theorem fieldDefaults_single_iff (tables : FieldRuleTables) (db : FieldRuleDb)
    (distinct : OneRulePerScope tables db) (single : OneGlobalRule db) (calls : List RuleCall) :
    (∀ first rest, calls = first ++ rest →
      OneGlobalRule ((ruleCalls tables).run db first) ∧
        WritableAgain tables ((ruleCalls tables).run db first)) ↔
      (ruleCalls tables).Guarded (SpellsAlike tables) db calls := by
  have exact : ∀ state call, OneRulePerScope tables state ∧ OneGlobalRule state →
      (OneRulePerScope tables ((ruleCalls tables).step state call) ∧
        OneGlobalRule ((ruleCalls tables).step state call) ↔ SpellsAlike tables state call) := by
    intro state call ⟨distinct, single⟩
    rw [oneGlobalRule_step_iff state call distinct single,
      and_iff_right (oneRulePerScope_step state call distinct)]
  rw [← StepSystem.run_states_iff exact ⟨distinct, single⟩]
  refine forall_congr' fun first => forall_congr' fun rest => imp_congr_right fun _ => ?_
  have kept : OneRulePerScope tables ((ruleCalls tables).run db first) :=
    StepSystem.run_invariant oneRulePerScope_step distinct first
  exact ⟨fun reached => ⟨kept, reached.1⟩, fun reached => ⟨reached.2, writableAgain reached.2⟩⟩

/-- Texts are equal where they are the same. -/
def exactTexts : FieldRuleTables where
  weight text := text.toList.map Char.toNat
  acceptsRule _ _ := true

/-- Tenant 1 has inspections with a title, which has no rule yet. -/
def unruledTitle : FieldRuleDb where
  tenants := [1]
  tenantUsers := [7]
  templateSets := .ofRows [{ configTemplateSetId := 0, tenantId := some 1, status := .published }]
  configObjects := .ofRows
    [⟨⟨0, 1, "inspection", .published⟩, .standalone, none, "Inspection", none⟩]
  configFields := .ofRows
    [{ configObjectFieldId := 0
       configObjectId := 1
       fieldKey := "title"
       label := "Title"
       description := none
       fieldType := "text"
       validationJson := none
       defaultValue := .null
       isRequired := false
       isSystem := false
       orderIndex := 0
       sectionKey := none
       createdBy := 7
       updatedBy := none }]
  auditLogs := []
  fieldRules := .empty _
  fieldRuleLogs := []

/-- The title becomes read-only, for an author whatever the state, and then writable again. -/
def titleCalls : List RuleCall :=
  [.create { tenantId := some 1, configObjectFieldId := 1, createdBy := 7, isReadonly := true },
    .create { tenantId := some 1, configObjectFieldId := 1, createdBy := 7,
              lifecycleStateKey := some "", roleKey := some "author" },
    .update { tenantId := some 1, configObjectFieldRuleId := 1, updatedBy := 7,
              isReadonly := some false }]

/-- The title keeps one default. -/
theorem titleCalls_single : OneGlobalRule ((ruleCalls exactTexts).run unruledTitle titleCalls) ∧
    WritableAgain exactTexts ((ruleCalls exactTexts).run unruledTitle titleCalls) :=
  (fieldDefaults_single_iff exactTexts unruledTitle
    (fun _ member => absurd member List.not_mem_nil)
    (fun _ member => absurd member List.not_mem_nil) titleCalls).mpr (by decide)
    titleCalls [] (List.append_nil titleCalls).symm

/-- A rule without a state is followed by one whose state is empty: the title has two defaults. -/
theorem unruledTitle_twoDefaults :
    ¬∀ calls, OneGlobalRule ((ruleCalls exactTexts).run unruledTitle calls) := by
  intro single
  exact absurd (single
    [.create { tenantId := some 1, configObjectFieldId := 1, createdBy := 7, isReadonly := true },
      .create { tenantId := some 1, configObjectFieldId := 1, createdBy := 7,
                lifecycleStateKey := some "", isReadonly := true }]) (by decide)

end FieldRules

end CoreApi.ConfigObjects
