import Mathlib.Data.String.Basic
import CoreApi.Foundation.Json

/-!
# Types of objects

The names of object types are stored in a canonical form: trimmed, in lower case and
in the singular. The rules by which letters are lowered are those of the language; what
the form rests on is stated as the laws of `LowerCasing`.
-/

namespace CoreApi.ConfigObjects

open CoreApi.Foundation

/-- The characters of a lower-case identifier. -/
def isIdentifierChar (c : Char) : Bool := c.isLower || c == '_'

/-- `String.prototype.toLowerCase`, on the characters of a text. -/
structure LowerCasing where
  toLowerCase : List Char → List Char
  /-- What is lowered has no letter left to lower. -/
  idempotent : ∀ text, toLowerCase (toLowerCase text) = toLowerCase text
  /-- No letter becomes a blank. -/
  keepsTrimmed : ∀ text, Json.trimmed (String.ofList text) = text →
    Json.trimmed (String.ofList (toLowerCase text)) = toLowerCase text
  keepsIdentifiers : ∀ text, text.all isIdentifierChar = true → toLowerCase text = text

/-- `OBJECT_TYPE_ALIASES`. -/
def OBJECT_TYPE_ALIASES : List (String × String) :=
  [("category", "categories"), ("category_description", "category_descriptions"),
    ("customer", "customers"), ("customer_contact", "customer_contact_info"),
    ("customer_invitation", "customer_invitations"),
    ("customer_project_member", "customer_project_members"),
    ("customer_task_member", "customer_task_members"), ("event", "events"),
    ("event_log", "event_logs"), ("event_listener", "event_listeners"),
    ("notification", "notifications"), ("notification_channel", "notification_channels"),
    ("notification_template", "notification_templates"),
    ("notification_log", "notification_logs"), ("permission", "permissions"),
    ("process_template", "process_templates"), ("process_instance", "process_instances"),
    ("process_instance_step", "process_instance_steps"), ("project", "projects"),
    ("project_step_status_mapping", "project_step_status_mappings"),
    ("project_task_status", "project_task_statuses"), ("resource", "resources"),
    ("resource_assignment", "resource_assignments"),
    ("resource_blackout_date", "resource_blackout_dates"), ("role", "roles"),
    ("system_language", "system_languages"), ("system_status", "system_statuses"),
    ("task", "tasks"), ("task_attachment", "task_attachments"), ("task_comment", "task_comments"),
    ("task_mention", "task_mentions"), ("tenant", "tenants"), ("tenant_type", "tenant_types"),
    ("tenant_configuration", "tenant_configurations"),
    ("tenant_working_hour", "tenant_working_hours"),
    ("tenant_subscription", "tenant_subscriptions"), ("tenant_team", "tenant_teams"),
    ("tenant_off_day", "tenant_off_days"), ("tenant_user", "tenant_users"),
    ("tenant_user_invitation", "tenant_user_invitations"), ("user", "users")]

/-- The entry of `CANONICAL_OBJECT_TYPE_BY_VARIANT` for a name. -/
def isVariant (name : String) (entry : String × String) : Bool :=
  name == entry.1 || name == entry.2

/-- `CANONICAL_OBJECT_TYPE_BY_VARIANT.get(name) ?? name`. -/
def canonicalOfVariant (name : String) : String :=
  ((OBJECT_TYPE_ALIASES.find? (isVariant name)).map Prod.fst).getD name

section

variable (casing : LowerCasing)

/-- `objectType.trim().toLowerCase()`. -/
def normalizedObjectType (objectType : String) : String :=
  String.ofList (casing.toLowerCase (Json.trimmed objectType))

/-- `canonicalizeObjectType`. -/
def canonicalizeObjectType (objectType : String) : String :=
  canonicalOfVariant (normalizedObjectType casing objectType)

end

/-- The tables of `ENTITY_CLASSES`, as their entities name them. -/
def ENTITY_TABLES : List String :=
  ["category_descriptions", "categories", "config_audit_logs", "config_custom_object_instances",
    "config_objects", "config_object_fields", "config_object_field_rules",
    "config_object_lifecycles", "config_object_lifecycle_transitions",
    "config_object_relationships", "config_object_status_mappings", "config_object_views",
    "config_object_view_panels", "config_template_sets", "customer_contact_info",
    "customer_contact_info_meta", "customer_invitations", "customer_project_members",
    "customer_task_members", "customers", "customer_meta", "events", "event_listeners",
    "event_logs", "notifications", "notification_channels", "notification_logs",
    "notification_templates", "permission_descriptions", "permissions", "process_instances",
    "process_instance_steps", "process_instance_step_requirement_submissions",
    "process_instance_step_requirements", "process_instance_step_triggers", "process_templates",
    "process_template_categories", "process_template_descriptions", "process_template_steps",
    "process_template_step_descriptions", "process_template_step_requirement_submissions",
    "process_template_step_requirements", "process_template_step_object_bindings",
    "process_instance_step_object_instances",
    "process_template_step_trigger_condition_submissions",
    "process_template_step_trigger_conditions", "projects", "project_meta",
    "project_step_status_mappings", "project_task_statuses", "task_attachments", "task_comments",
    "tasks", "task_meta", "task_mentions", "role_descriptions", "role_permissions", "roles",
    "resources", "resource_assignments", "resource_assignment_shifts", "resource_availability",
    "resource_blackout_dates", "resource_meta", "scheduled_tasks", "scheduled_task_events",
    "scheduled_task_history", "task_dependencies", "system_languages", "system_statuses",
    "shared_projects", "shared_resources", "shared_tasks", "sharing_invitations", "sharing_logs",
    "tenants", "tenant_billing_info", "tenant_configurations", "tenant_contact_info",
    "tenant_meta", "tenant_off_days", "tenant_subscriptions", "tenant_teams",
    "tenant_team_members", "tenant_team_projects", "tenant_types", "tenant_users",
    "tenant_user_configurations", "tenant_user_invitations", "tenant_user_meta",
    "tenant_user_off_days", "tenant_user_roles", "tenant_user_working_hours",
    "tenant_working_hours", "users", "user_meta", "user_notification_preferences", "user_roles"]

/-- `resolveObjectTypeForEntityClass(resolveEntityClassForObjectType(objectType))`. -/
def resolveEntityTable (objectType : String) : Option String :=
  let name := (OBJECT_TYPE_ALIASES.lookup objectType).getD objectType
  if name ∈ ENTITY_TABLES then some name else none

/-! ## The canonical form -/

/-- No name stands for two types. -/
theorem canonicalOfVariant_alias : ∀ entry ∈ OBJECT_TYPE_ALIASES,
    canonicalOfVariant entry.1 = entry.1 ∧ canonicalOfVariant entry.2 = entry.1 := by
  decide +kernel

theorem canonicalOfVariant_idem (name : String) :
    canonicalOfVariant (canonicalOfVariant name) = canonicalOfVariant name := by
  rcases found : OBJECT_TYPE_ALIASES.find? (isVariant name) with _ | entry
  · have self : canonicalOfVariant name = name := by simp [canonicalOfVariant, found]
    rw [self, self]
  · have isSingular : canonicalOfVariant name = entry.1 := by simp [canonicalOfVariant, found]
    rw [isSingular]
    exact (canonicalOfVariant_alias entry (List.mem_of_find?_eq_some found)).1

/-- The singular names are lower-case identifiers. -/
theorem singulars_identifiers : ∀ entry ∈ OBJECT_TYPE_ALIASES,
    entry.1.toList.all isIdentifierChar = true ∧ Json.trimmed entry.1 = entry.1.toList := by
  decide

section

variable {casing : LowerCasing}

theorem normalizedObjectType_idem (objectType : String) :
    normalizedObjectType casing (normalizedObjectType casing objectType) =
      normalizedObjectType casing objectType := by
  unfold normalizedObjectType
  rw [casing.keepsTrimmed _ (Json.trimmed_trimmed objectType), casing.idempotent]

/-- A singular name is normalised as it stands. -/
theorem normalizedObjectType_singular {entry : String × String}
    (member : entry ∈ OBJECT_TYPE_ALIASES) : normalizedObjectType casing entry.1 = entry.1 := by
  obtain ⟨identifier, trimmed⟩ := singulars_identifiers entry member
  rw [normalizedObjectType, trimmed, casing.keepsIdentifiers _ identifier, String.ofList_toList]

theorem canonicalizeObjectType_idem (objectType : String) :
    canonicalizeObjectType casing (canonicalizeObjectType casing objectType) =
      canonicalizeObjectType casing objectType := by
  have normal : normalizedObjectType casing (canonicalizeObjectType casing objectType) =
      canonicalizeObjectType casing objectType := by
    unfold canonicalizeObjectType canonicalOfVariant
    rcases found : OBJECT_TYPE_ALIASES.find?
      (isVariant (normalizedObjectType casing objectType)) with _ | entry
    · exact normalizedObjectType_idem objectType
    · exact normalizedObjectType_singular (List.mem_of_find?_eq_some found)
  rw [canonicalizeObjectType, normal]
  exact canonicalOfVariant_idem _

end

/-! ## Latin letters -/

/-- The letters that have a lower case. -/
def upperLetters : List Char := "ABCDEFGHIJKLMNOPQRSTUVWXYZ".toList

theorem toLower_upperLetters : ∀ c ∈ upperLetters, c.toLower.toLower = c.toLower ∧
    Json.isSpace c.toLower = Json.isSpace c ∧ isIdentifierChar c = false := by
  -- each letter is looked at, not each character
  have all : upperLetters.all (fun c => decide (c.toLower.toLower = c.toLower ∧
      Json.isSpace c.toLower = Json.isSpace c ∧ isIdentifierChar c = false)) = true := by
    decide
  exact fun c member => of_decide_eq_true (List.all_eq_true.mp all c member)

/-- A character is one of the letters, or its own lower case. -/
theorem upper_or_toLower_eq (c : Char) : c ∈ upperLetters ∨ c.toLower = c := by
  by_cases upper : 65 ≤ c.toNat ∧ c.toNat ≤ 90
  · left
    have same : Char.ofNat c.toNat = c := Char.ofNat_toNat c
    rw [← same]
    have all : ∀ n ∈ List.range' 65 26, Char.ofNat n ∈ upperLetters := by decide
    exact all c.toNat (List.mem_range'_1.mpr (by omega))
  · right
    unfold Char.toLower
    rw [dif_neg]
    simpa [UInt32.le_iff_toNat_le] using upper

/-- The casing of the letters of the English alphabet; other letters are left as they are. -/
def latinCasing : LowerCasing where
  toLowerCase := List.map Char.toLower
  idempotent text := by
    rw [List.map_map]
    refine List.map_congr_left fun c _ => ?_
    rcases upper_or_toLower_eq c with upper | same
    · exact (toLower_upperLetters c upper).1
    · rw [Function.comp_apply, same, same]
  keepsTrimmed text trimmed := by
    have blanks : ∀ c, Json.isSpace c.toLower = Json.isSpace c := by
      intro c
      rcases upper_or_toLower_eq c with upper | same
      · exact (toLower_upperLetters c upper).2.1
      · rw [same]
    rw [Json.trimmed_map blanks, trimmed]
  keepsIdentifiers text identifier := by
    refine (List.map_congr_left fun c member => ?_).trans (List.map_id text)
    have isIdentifier := List.all_eq_true.mp identifier c member
    rcases upper_or_toLower_eq c with upper | same
    · rw [(toLower_upperLetters c upper).2.2] at isIdentifier
      exact absurd isIdentifier Bool.false_ne_true
    · exact same

end CoreApi.ConfigObjects
