import CoreApi.Authorization.AuthorizationService

/-!
# Permissions mean roles

A user should have the permissions that the roles of the user and of the tenant
user grant. The inner join with `user_roles` drops a role of the tenant user that
no user has, and what only such a role grants is refused.
-/

namespace CoreApi.Authorization

open CoreApi.Foundation AuthorizationService

/-- The permission check says what the roles grant exactly where no permission is asked that
only a role without users grants, unless another is asked that no role grants. -/
theorem permissions_mean_roles_iff (db : AuthorizationDb) (userId : Int)
    (permissions : List String) (tenantUserId : Option Int) :
    (hasPermissions db userId permissions tenantUserId = true ↔
        ∀ permission ∈ permissions,
          Permitted db (rolesOf db userId ∪ tenantRolesOf db tenantUserId) permission) ↔
      (∀ permission ∈ permissions,
          Permitted db (rolesOf db userId ∪ (tenantRolesOf db tenantUserId ∩ heldRoles db))
            permission) ∨
        ∃ permission ∈ permissions,
          ¬ Permitted db (rolesOf db userId ∪ tenantRolesOf db tenantUserId) permission := by
  rw [hasPermissions_iff]
  constructor
  · intro agrees
    by_cases granted : ∀ permission ∈ permissions,
        Permitted db (rolesOf db userId ∪ tenantRolesOf db tenantUserId) permission
    · exact .inl (agrees.mpr granted)
    · push Not at granted
      exact .inr granted
  · rintro (counted | ⟨permission, asked, notGranted⟩)
    · exact ⟨fun _ permission asked => (counted permission asked).mono countedRoles_subset,
        fun _ => counted⟩
    · exact ⟨fun all => absurd ((all permission asked).mono countedRoles_subset) notGranted,
        fun granted => absurd (granted permission asked) notGranted⟩

/-- A project manager who is one as a tenant user only. -/
def tenantManager : AuthorizationDb where
  userRoles := .empty _
  tenantUserRoles := .ofRows [{ tenantUserRoleId := 0, tenantUserId := 1, roleId := 7 }]
  rolePermissions := .ofRows [{ rolePermissionId := 0, roleId := 7, permissionId := 3 }]
  permissionDescriptions := .ofRows
    [{ permissionDescriptionId := 0, permissionId := 3, languageId := 1,
       name := "projects.manage" }]
  tenantUsers := .ofRows [{ tenantUserId := 0, tenantId := 1, userId := 5 }]
  tenantUsersExist := fun row member => by
    rw [List.mem_singleton.mp member]
    exact ⟨_, List.mem_cons_self, rfl⟩

/-- The role that grants the permission is not counted, as nobody has it as a user. -/
theorem tenantManager_without_permission :
    ¬ (hasPermissions tenantManager 5 ["projects.read"] (some 1) = true ↔
      ∀ permission ∈ ["projects.read"],
        Permitted tenantManager (rolesOf tenantManager 5 ∪ tenantRolesOf tenantManager (some 1))
          permission) := by
  have refused : hasPermissions tenantManager 5 ["projects.read"] (some 1) = false := by
    decide
  have isRole : (7 : Nat) ∈ tenantRolesOf tenantManager (some 1) :=
    ⟨{ tenantUserRoleId := 1, tenantUserId := 1, roleId := 7 }, by decide, rfl, rfl⟩
  have grants : Grants tenantManager 7 (managePermission "projects.read") :=
    ⟨{ rolePermissionId := 1, roleId := 7, permissionId := 3 }, by decide, rfl,
      { permissionDescriptionId := 1, permissionId := 3, languageId := 1,
        name := "projects.manage" },
      by decide, rfl, by decide⟩
  intro agrees
  have granted := agrees.mpr (by
    rintro permission asked
    obtain rfl := List.mem_singleton.mp asked
    exact ⟨7, .inr isRole, .inr grants⟩)
  rw [refused] at granted
  cases granted

end CoreApi.Authorization
