import Mathlib.Data.List.Dedup
import Mathlib.Data.Set.Basic
import CoreApi.Foundation.Join
import CoreApi.Foundation.TableChanges

/-!
# Permission checks

`AuthorizationService` reads the permissions of a user with one query that joins
the descriptions of permissions with the roles that have them. What a user should
be permitted is what the roles of the user and of the tenant user grant; the
query counts a role of the tenant user only where some user has it as well.
-/

namespace CoreApi.Authorization

open CoreApi.Foundation

/-! ## Tables -/

structure UserRoleEntity where
  userRoleId : Nat
  userId : Nat
  roleId : Nat
  deriving DecidableEq, Repr

structure TenantUserRoleEntity where
  tenantUserRoleId : Nat
  tenantUserId : Nat
  roleId : Nat
  deriving DecidableEq, Repr

structure RolePermissionEntity where
  rolePermissionId : Nat
  roleId : Nat
  permissionId : Nat
  deriving DecidableEq, Repr

structure PermissionDescriptionEntity where
  permissionDescriptionId : Nat
  permissionId : Nat
  languageId : Nat
  name : String
  deriving DecidableEq, Repr

structure TenantUsersEntity where
  tenantUserId : Nat
  tenantId : Nat
  userId : Nat
  deriving DecidableEq, Repr

instance : Keyed UserRoleEntity where
  key := UserRoleEntity.userRoleId
  withKey n row := { row with userRoleId := n }
  key_withKey _ _ := rfl

instance : Keyed TenantUserRoleEntity where
  key := TenantUserRoleEntity.tenantUserRoleId
  withKey n row := { row with tenantUserRoleId := n }
  key_withKey _ _ := rfl

instance : Keyed RolePermissionEntity where
  key := RolePermissionEntity.rolePermissionId
  withKey n row := { row with rolePermissionId := n }
  key_withKey _ _ := rfl

instance : Keyed PermissionDescriptionEntity where
  key := PermissionDescriptionEntity.permissionDescriptionId
  withKey n row := { row with permissionDescriptionId := n }
  key_withKey _ _ := rfl

instance : Keyed TenantUsersEntity where
  key := TenantUsersEntity.tenantUserId
  withKey n row := { row with tenantUserId := n }
  key_withKey _ _ := rfl

/-- The tables the permission checks read; a role is given to tenant users that exist. -/
structure AuthorizationDb where
  userRoles : Table UserRoleEntity
  tenantUserRoles : Table TenantUserRoleEntity
  rolePermissions : Table RolePermissionEntity
  permissionDescriptions : Table PermissionDescriptionEntity
  tenantUsers : Table TenantUsersEntity
  tenantUsersExist : ∀ row ∈ tenantUserRoles.rows,
    ∃ tenantUser ∈ tenantUsers.rows, tenantUser.tenantUserId = row.tenantUserId

namespace AuthorizationService

/-! ## The query -/

/-- A row of the joined tables. -/
abbrev JoinedRow :=
  ((PermissionDescriptionEntity × RolePermissionEntity) × UserRoleEntity) ×
    Option TenantUserRoleEntity

/-- The described permissions, each beside a role that has it. -/
def describedPermissions (db : AuthorizationDb) :
    List (PermissionDescriptionEntity × RolePermissionEntity) :=
  innerJoin (fun pd rp => rp.permissionId == pd.permissionId) db.permissionDescriptions.rows
    db.rolePermissions.rows

/-- The described permissions of roles, each beside a user who has the role. -/
def heldPermissions (db : AuthorizationDb) :
    List ((PermissionDescriptionEntity × RolePermissionEntity) × UserRoleEntity) :=
  innerJoin (fun row ur => ur.roleId == row.2.roleId) (describedPermissions db) db.userRoles.rows

/-- `basePermissionQuery`. -/
def basePermissionQuery (db : AuthorizationDb) : List JoinedRow :=
  leftJoin (fun row tur => tur.roleId == row.1.2.roleId) (heldPermissions db)
    db.tenantUserRoles.rows

/-- The condition of `getPermissionSet`; a tenant user id of 0 asks for nothing. -/
def isAsked (userId : Int) (tenantUserId : Option Int) (row : JoinedRow) : Bool :=
  ((row.1.2.userId : Int) == userId) ||
    match tenantUserId with
    | none => false
    | some id => id != 0 && row.2.any fun tur => (tur.tenantUserId : Int) == id

/-- `getPermissionSet`. -/
def getPermissionSet (db : AuthorizationDb) (userId : Int) (tenantUserId : Option Int) :
    List String :=
  (((basePermissionQuery db).filter (isAsked userId tenantUserId)).map fun row =>
    row.1.1.1.name).dedup

/-- `` `${module}.manage` `` for the module a permission is named after. -/
def managePermission (permission : String) : String :=
  String.ofList (permission.toList.takeWhile (· != '.')) ++ ".manage"

/-- `permissionSatisfied`. -/
def permissionSatisfied (requiredPermission : String) (granted : List String) : Bool :=
  granted.contains requiredPermission || granted.contains (managePermission requiredPermission)

/-- `hasPermissions`. -/
def hasPermissions (db : AuthorizationDb) (userId : Int) (permissions : List String)
    (tenantUserId : Option Int) : Bool :=
  let permissionSet := getPermissionSet db userId tenantUserId
  permissions.all fun permission => permissionSatisfied permission permissionSet

end AuthorizationService

open AuthorizationService

/-! ## Roles and what they grant -/

/-- The roles of a user. -/
def rolesOf (db : AuthorizationDb) (userId : Int) : Set Nat :=
  {roleId | ∃ row ∈ db.userRoles.rows, (row.userId : Int) = userId ∧ row.roleId = roleId}

/-- The roles of a tenant user, where there is one. -/
def tenantRolesOf (db : AuthorizationDb) (tenantUserId : Option Int) : Set Nat :=
  {roleId | ∃ row ∈ db.tenantUserRoles.rows,
    some (row.tenantUserId : Int) = tenantUserId ∧ row.roleId = roleId}

/-- The roles that some user has. -/
def heldRoles (db : AuthorizationDb) : Set Nat :=
  {roleId | ∃ row ∈ db.userRoles.rows, row.roleId = roleId}

/-- A role has a permission that a description gives this name. -/
def Grants (db : AuthorizationDb) (roleId : Nat) (name : String) : Prop :=
  ∃ rp ∈ db.rolePermissions.rows, rp.roleId = roleId ∧
    ∃ pd ∈ db.permissionDescriptions.rows, pd.permissionId = rp.permissionId ∧ pd.name = name

/-- One of the roles grants the permission, or the management of its module. -/
def Permitted (db : AuthorizationDb) (roles : Set Nat) (permission : String) : Prop :=
  ∃ roleId ∈ roles,
    Grants db roleId permission ∨ Grants db roleId (managePermission permission)

variable {db : AuthorizationDb} {userId : Int} {tenantUserId : Option Int}

theorem Permitted.mono {roles others : Set Nat} {permission : String} (fewer : roles ⊆ others)
    (permitted : Permitted db roles permission) : Permitted db others permission := by
  obtain ⟨roleId, isRole, grants⟩ := permitted
  exact ⟨roleId, fewer isRole, grants⟩

/-- The roles that the query counts: those of the user, and those of the tenant user that
some user has. -/
def countedRoles (db : AuthorizationDb) (userId : Int) (tenantUserId : Option Int) : Set Nat :=
  rolesOf db userId ∪ (tenantRolesOf db tenantUserId ∩ heldRoles db)

theorem countedRoles_subset :
    countedRoles db userId tenantUserId ⊆ rolesOf db userId ∪ tenantRolesOf db tenantUserId :=
  Set.union_subset_union_right _ Set.inter_subset_left

theorem ne_zero_of_tenantUserRole {row : TenantUserRoleEntity}
    (member : row ∈ db.tenantUserRoles.rows) : (row.tenantUserId : Int) ≠ 0 := by
  obtain ⟨tenantUser, isTenantUser, same⟩ := db.tenantUsersExist row member
  have positive : 0 < tenantUser.tenantUserId := (db.tenantUsers.bounded tenantUser isTenantUser).1
  omega

theorem isAsked_iff {row : JoinedRow} (fromTable : ∀ tur, row.2 = some tur →
    tur ∈ db.tenantUserRoles.rows) :
    isAsked userId tenantUserId row = true ↔
      (row.1.2.userId : Int) = userId ∨
        ∃ tur, row.2 = some tur ∧ some (tur.tenantUserId : Int) = tenantUserId := by
  simp only [isAsked, Bool.or_eq_true, beq_iff_eq]
  refine or_congr_right ?_
  cases tenantUserId with
  | none => simp
  | some id =>
      simp only [Bool.and_eq_true, bne_iff_ne, ne_eq, Option.any_eq_true, beq_iff_eq,
        Option.some.injEq]
      constructor
      · rintro ⟨_, tur, isRow, same⟩
        exact ⟨tur, isRow, same⟩
      · rintro ⟨tur, isRow, rfl⟩
        exact ⟨ne_zero_of_tenantUserRole (fromTable tur isRow), tur, isRow, rfl⟩

theorem mem_heldPermissions {pd : PermissionDescriptionEntity} {rp : RolePermissionEntity}
    {ur : UserRoleEntity} :
    ((pd, rp), ur) ∈ heldPermissions db ↔
      (pd ∈ db.permissionDescriptions.rows ∧ rp ∈ db.rolePermissions.rows ∧
        rp.permissionId = pd.permissionId) ∧ ur ∈ db.userRoles.rows ∧ ur.roleId = rp.roleId := by
  simp only [heldPermissions, describedPermissions, mem_innerJoin, beq_iff_eq]

theorem mem_basePermissionQuery {row : JoinedRow} {tur : TenantUserRoleEntity}
    (partner : row.2 = some tur) :
    row ∈ basePermissionQuery db ↔
      row.1 ∈ heldPermissions db ∧ tur ∈ db.tenantUserRoles.rows ∧
        tur.roleId = row.1.1.2.roleId := by
  obtain ⟨held, _⟩ := row
  subst partner
  simp only [basePermissionQuery, mem_leftJoin_some, beq_iff_eq]

theorem mem_getPermissionSet {name : String} :
    name ∈ getPermissionSet db userId tenantUserId ↔
      ∃ roleId ∈ countedRoles db userId tenantUserId, Grants db roleId name := by
  unfold getPermissionSet
  rw [List.mem_dedup, List.mem_map]
  constructor
  · rintro ⟨⟨⟨⟨pd, rp⟩, ur⟩, partner⟩, kept, rfl⟩
    obtain ⟨joined, asked⟩ := List.mem_filter.mp kept
    obtain ⟨⟨isDescription, isGrant, samePermission⟩, isUserRole, role⟩ :=
      mem_heldPermissions.mp (exists_mem_leftJoin.mp ⟨partner, joined⟩)
    have grants : Grants db rp.roleId pd.name :=
      ⟨rp, isGrant, rfl, pd, isDescription, samePermission.symm, rfl⟩
    have fromTable : ∀ tur, partner = some tur → tur ∈ db.tenantUserRoles.rows :=
      fun tur isRow => ((mem_basePermissionQuery isRow).mp joined).2.1
    rcases (isAsked_iff fromTable).mp asked with own | ⟨tur, isRow, isTenant⟩
    · exact ⟨rp.roleId, .inl ⟨ur, isUserRole, own, role⟩, grants⟩
    · obtain ⟨_, isTenantRole, tenantRole⟩ := (mem_basePermissionQuery isRow).mp joined
      exact ⟨rp.roleId, .inr ⟨⟨tur, isTenantRole, isTenant, tenantRole⟩, ur, isUserRole, role⟩,
        grants⟩
  · rintro ⟨roleId, counted, rp, isGrant, rfl, pd, isDescription, samePermission, rfl⟩
    have held : ∀ ur ∈ db.userRoles.rows, ur.roleId = rp.roleId →
        ((pd, rp), ur) ∈ heldPermissions db := fun ur isUserRole role =>
      mem_heldPermissions.mpr ⟨⟨isDescription, isGrant, samePermission.symm⟩, isUserRole, role⟩
    rcases counted with ⟨ur, isUserRole, own, role⟩ |
      ⟨⟨tur, isTenantRole, isTenant, tenantRole⟩, ur, isUserRole, role⟩
    · obtain ⟨partner, joined⟩ := exists_mem_leftJoin.mpr (held ur isUserRole role)
      exact ⟨_, List.mem_filter.mpr ⟨joined, by simp [isAsked, own]⟩, rfl⟩
    · have joined : (((pd, rp), ur), some tur) ∈ basePermissionQuery db :=
        (mem_basePermissionQuery rfl).mpr ⟨held ur isUserRole role, isTenantRole, tenantRole⟩
      have fromTable : ∀ other, some tur = some other → other ∈ db.tenantUserRoles.rows := by
        rintro _ ⟨⟩
        exact isTenantRole
      have asked := (@isAsked_iff db userId tenantUserId (((pd, rp), ur), some tur) fromTable).mpr
        (.inr ⟨tur, rfl, isTenant⟩)
      exact ⟨_, List.mem_filter.mpr ⟨joined, asked⟩, rfl⟩

theorem hasPermissions_iff {permissions : List String} :
    hasPermissions db userId permissions tenantUserId = true ↔
      ∀ permission ∈ permissions, Permitted db (countedRoles db userId tenantUserId) permission := by
  simp only [hasPermissions, permissionSatisfied, List.all_eq_true, Bool.or_eq_true,
    List.contains_iff_mem, mem_getPermissionSet, Permitted, ← exists_or, ← and_or_left]

end CoreApi.Authorization
