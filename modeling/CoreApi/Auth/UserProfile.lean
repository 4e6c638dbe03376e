import CoreApi.Authorization.AuthorizationService

/-!
# Profiles of users

`getProfile` tells a user the roles and permissions it has. It reads the permissions with a
query of its own, which is the query of the permission checks but for the language: it takes
the descriptions in the first language only.
-/

namespace CoreApi.Auth

open CoreApi.Foundation CoreApi.Authorization AuthorizationService

structure RoleDescriptionEntity where
  roleDescriptionId : Nat
  roleId : Nat
  languageId : Nat
  name : String
  deriving DecidableEq, Repr

structure TenantEntity where
  tenantId : Nat
  userId : Nat
  deriving DecidableEq, Repr

instance : Keyed RoleDescriptionEntity where
  key := RoleDescriptionEntity.roleDescriptionId
  withKey n row := { row with roleDescriptionId := n }
  key_withKey _ _ := rfl

instance : Keyed TenantEntity where
  key := TenantEntity.tenantId
  withKey n row := { row with tenantId := n }
  key_withKey _ _ := rfl

/-- The tables a profile is read from; the names of permissions are unique. -/
structure ProfileDb extends AuthorizationDb where
  roleDescriptions : Table RoleDescriptionEntity
  tenants : Table TenantEntity
  uniqueNames : (permissionDescriptions.rows.map PermissionDescriptionEntity.name).Nodup

/-! ## The profile -/

structure ProfileRole where
  id : Nat
  name : String
  deriving DecidableEq, Repr

structure UserProfile where
  userId : Int
  roles : List ProfileRole
  permissions : List String
  isTenantUser : Bool
  tenantId : Option Nat
  deriving DecidableEq, Repr

/-- The code units of a text, which `sort` compares. -/
def codeUnits (text : String) : List Nat :=
  text.toList.flatMap fun c =>
    let n := c.toNat
    if n < 0x10000 then [n] else [0xD800 + (n - 0x10000) / 0x400, 0xDC00 + (n - 0x10000) % 0x400]

/-- `names.sort()`. -/
def sortNames (names : List String) : List String :=
  names.mergeSort fun a b => !(codeUnits b).lex (codeUnits a) fun m n => decide (m < n)

/-- `if (tenantUserId)`. -/
def givenTenantUser (tenantUserId : Option Int) : Option Int := tenantUserId.filter (· ≠ 0)

/-- `getUserPermissions`. -/
def getUserPermissions (db : ProfileDb) (userId : Int) (tenantUserId : Option Int) : List String :=
  let described := innerJoin (fun pd rp => rp.permissionId == pd.permissionId)
    db.permissionDescriptions.rows db.rolePermissions.rows
  let held := innerJoin (fun row ur => ur.roleId == row.2.roleId) described db.userRoles.rows
  let joined := leftJoin (fun row tur => tur.roleId == row.1.2.roleId) held db.tenantUserRoles.rows
  let rows := joined.filter fun row =>
    row.1.1.1.languageId == 1 && isAsked userId tenantUserId row
  (rows.map fun row => row.1.1.1.name).dedup

/-- The name that a profile gives a role. -/
def roleName (db : ProfileDb) (roleId : Nat) : String :=
  match db.roleDescriptions.rows.find? fun row => row.roleId == roleId && row.languageId == 1 with
  | some description =>
      if description.name = "" then "Role " ++ roleId.repr else description.name
  | none => "Role " ++ roleId.repr

/-- The tenant of a profile: that of the tenant user, or the one that the user owns. -/
def profileTenant (db : ProfileDb) (userId : Int) (tenantUserId : Option Int) : Option Nat :=
  match givenTenantUser tenantUserId with
  | some id =>
      (db.tenantUsers.rows.find? fun row => (row.tenantUserId : Int) == id).map
        TenantUsersEntity.tenantId
  | none =>
      (db.tenants.rows.find? fun row => (row.userId : Int) == userId).map TenantEntity.tenantId

def getProfile (db : ProfileDb) (userId : Int) (tenantUserId : Option Int) : UserProfile :=
  let userRoles := db.userRoles.rows.filter fun row => (row.userId : Int) == userId
  let tenantUserRoles := db.tenantUserRoles.rows.filter fun row =>
    givenTenantUser tenantUserId == some (row.tenantUserId : Int)
  let roleIds := (userRoles.map UserRoleEntity.roleId ++
    tenantUserRoles.map TenantUserRoleEntity.roleId).eraseDups
  let tenant := profileTenant db userId tenantUserId
  { userId
    roles := roleIds.map fun roleId => ⟨roleId, roleName db roleId⟩
    permissions := sortNames (getUserPermissions db userId tenantUserId)
    isTenantUser := tenant.isSome
    tenantId := tenant }

/-! ## Permissions of a profile -/

variable {db : ProfileDb} {userId : Int} {tenantUserId : Option Int} {name : String}

/-- The tables with the descriptions in the first language only. -/
def firstLanguage (db : ProfileDb) : AuthorizationDb :=
  { db.toAuthorizationDb with
    permissionDescriptions := db.permissionDescriptions.remove fun row => row.languageId != 1 }

/-- The query of the profile is that of the permission checks, on one language. -/
theorem getUserPermissions_eq :
    getUserPermissions db userId tenantUserId =
      getPermissionSet (firstLanguage db) userId tenantUserId := by
  have kept : ∀ row : PermissionDescriptionEntity,
      (!(row.languageId != 1)) = (row.languageId == 1) := fun row => Bool.not_not _
  simp only [getUserPermissions, getPermissionSet, basePermissionQuery, heldPermissions,
    describedPermissions, firstLanguage, Table.remove, kept, innerJoin_filter, leftJoin_filter,
    List.filter_filter, Bool.and_comm]

theorem mem_permissions :
    name ∈ (getProfile db userId tenantUserId).permissions ↔
      ∃ roleId ∈ countedRoles db.toAuthorizationDb userId tenantUserId,
        Grants (firstLanguage db) roleId name := by
  simp only [getProfile, sortNames, List.mem_mergeSort, getUserPermissions_eq,
    mem_getPermissionSet]
  rfl

/-- A counted role has the permission that a description names. -/
def IsGranted (db : ProfileDb) (userId : Int) (tenantUserId : Option Int)
    (description : PermissionDescriptionEntity) : Prop :=
  ∃ roleId ∈ countedRoles db.toAuthorizationDb userId tenantUserId,
    ∃ row ∈ db.rolePermissions.rows,
      row.roleId = roleId ∧ row.permissionId = description.permissionId

/-- The profile shows a permission exactly when the checks count it, unless a role that counts has
the permission under this name in another language. -/
theorem permissions_enforced_iff (db : ProfileDb) (userId : Int) (tenantUserId : Option Int)
    (name : String) :
    (name ∈ (getProfile db userId tenantUserId).permissions ↔
        name ∈ getPermissionSet db.toAuthorizationDb userId tenantUserId) ↔
      ∀ description ∈ db.permissionDescriptions.rows, description.name = name →
        IsGranted db userId tenantUserId description → description.languageId = 1 := by
  rw [mem_permissions, mem_getPermissionSet]
  constructor
  · rintro agrees description member rfl ⟨roleId, counted, row, isRow, role, permission⟩
    obtain ⟨_, _, _, _, _, other, isOther, _, sameName⟩ :=
      agrees.mpr ⟨roleId, counted, row, isRow, role, description, member, permission.symm, rfl⟩
    obtain ⟨otherMember, language⟩ := Table.mem_remove.mp isOther
    have same := List.inj_on_of_nodup_map db.uniqueNames otherMember member sameName
    simpa [same] using language
  · intro first
    constructor
    · rintro ⟨roleId, counted, row, isRow, role, description, member, permission⟩
      exact ⟨roleId, counted, row, isRow, role, description, (Table.mem_remove.mp member).1,
        permission⟩
    · rintro ⟨roleId, counted, row, isRow, role, description, member, permission, isName⟩
      have language := first description member isName
        ⟨roleId, counted, row, isRow, role, permission.symm⟩
      exact ⟨roleId, counted, row, isRow, role, description,
        Table.mem_remove.mpr ⟨member, by simp [language]⟩, permission, isName⟩

/-- A user with the role 7, whose permission is described in the second language only. -/
def foreignSpeaker : ProfileDb where
  userRoles := .ofRows [{ userRoleId := 0, userId := 5, roleId := 7 }]
  tenantUserRoles := .empty _
  rolePermissions := .ofRows [{ rolePermissionId := 0, roleId := 7, permissionId := 3 }]
  permissionDescriptions := .ofRows
    [{ permissionDescriptionId := 0, permissionId := 3, languageId := 2,
       name := "projects.manage" }]
  tenantUsers := .empty _
  tenantUsersExist := fun _ member => absurd member List.not_mem_nil
  roleDescriptions := .empty _
  tenants := .empty _
  uniqueNames := List.nodup_singleton _

/-- The checks let the user manage projects, and its profile does not show it. -/
theorem foreignSpeaker_notShown :
    ¬("projects.manage" ∈ (getProfile foreignSpeaker 5 none).permissions ↔
      "projects.manage" ∈ getPermissionSet foreignSpeaker.toAuthorizationDb 5 none) := by
  have enforced : "projects.manage" ∈
      getPermissionSet foreignSpeaker.toAuthorizationDb 5 none := by
    decide
  have none : getUserPermissions foreignSpeaker 5 none = [] := by
    decide
  intro agrees
  have shown := agrees.mpr enforced
  simp [getProfile, sortNames, none] at shown

end CoreApi.Auth
