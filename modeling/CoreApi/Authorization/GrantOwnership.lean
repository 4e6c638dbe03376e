import CoreApi.Authorization.AuthorizationGuard
import CoreApi.Authorization.RoleGrants

/-!
# Roles of tenant users and their owners

The tenant user id of a call is whatever the token or the body says, and its roles
are counted for the caller: two databases that give another user's tenant user
different roles can answer the caller differently.
-/

namespace CoreApi.Authorization

open CoreApi.Foundation AuthorizationService AuthorizationGuard

/-! ## Tenant users and their owners -/

/-- The tenant user with this id is the user's. -/
def BelongsTo (db : AuthorizationDb) (userId : Int) (tenantUserId : Nat) : Prop :=
  ∃ tenantUser ∈ db.tenantUsers.rows,
    tenantUser.tenantUserId = tenantUserId ∧ (tenantUser.userId : Int) = userId

/-- The databases differ in the roles of tenant users of others at most. -/
structure AgreesFor (userId : Int) (db other : AuthorizationDb) : Prop where
  userRoles : other.userRoles = db.userRoles
  rolePermissions : other.rolePermissions = db.rolePermissions
  permissionDescriptions : other.permissionDescriptions = db.permissionDescriptions
  tenantUsers : other.tenantUsers = db.tenantUsers
  ownRoles : ∀ row : TenantUserRoleEntity, BelongsTo db userId row.tenantUserId →
    (row ∈ other.tenantUserRoles.rows ↔ row ∈ db.tenantUserRoles.rows)

/-- The database without the roles of a tenant user. -/
def AuthorizationDb.withoutRolesOf (db : AuthorizationDb) (tenantUserId : Int) :
    AuthorizationDb :=
  { db with
    tenantUserRoles := db.tenantUserRoles.remove fun row => (row.tenantUserId : Int) == tenantUserId
    tenantUsersExist := fun row member =>
      db.tenantUsersExist row (Table.mem_remove.mp member).1 }

/-- A tenant user in every role that some user has. -/
def everyRoleFor (db : AuthorizationDb) (tenantUserId : Nat) : List TenantUserRoleEntity :=
  db.userRoles.rows.map fun row =>
    { tenantUserRoleId := 0, tenantUserId := tenantUserId, roleId := row.roleId }

theorem tenantUserId_of_stamp {db : AuthorizationDb} {n tenantUserId : Nat}
    {row : TenantUserRoleEntity}
    (member : row ∈ Table.stamp n (everyRoleFor db tenantUserId)) :
    row.tenantUserId = tenantUserId := by
  obtain ⟨given, isGiven, m, _, _, rfl⟩ := Table.mem_stamp member
  obtain ⟨_, _, rfl⟩ := List.mem_map.mp isGiven
  rfl

/-- The database with these roles given to the tenant user. -/
def AuthorizationDb.withRolesFor (db : AuthorizationDb) (tenantUser : TenantUsersEntity)
    (isTenantUser : tenantUser ∈ db.tenantUsers.rows) : AuthorizationDb :=
  { db with
    tenantUserRoles := db.tenantUserRoles.insertAll (everyRoleFor db tenantUser.tenantUserId)
    tenantUsersExist := by
      intro row member
      rw [Table.rows_insertAll, List.mem_append] at member
      rcases member with old | new
      · exact db.tenantUsersExist row old
      · exact ⟨tenantUser, isTenantUser, (tenantUserId_of_stamp new).symm⟩ }

variable {db other : AuthorizationDb} {permissions : List String} {context : ExecutionContext}
  {caller : CallerContext} {userId : Int}

theorem AgreesFor.rolesOf (agrees : AgreesFor userId db other) :
    rolesOf other userId = rolesOf db userId := by
  unfold Authorization.rolesOf
  rw [agrees.userRoles]

theorem AgreesFor.heldRoles (agrees : AgreesFor userId db other) :
    heldRoles other = heldRoles db := by
  unfold Authorization.heldRoles
  rw [agrees.userRoles]

theorem AgreesFor.permitted (agrees : AgreesFor userId db other) {roles : Set Nat}
    {permission : String} : Permitted other roles permission ↔ Permitted db roles permission := by
  unfold Permitted Grants
  rw [agrees.rolePermissions, agrees.permissionDescriptions]

theorem AgreesFor.tenantRolesOf (agrees : AgreesFor userId db other) {tenantUserId : Option Int}
    (own : ∀ tenantUser ∈ db.tenantUsers.rows, some (tenantUser.tenantUserId : Int) = tenantUserId →
      (tenantUser.userId : Int) = userId) :
    tenantRolesOf other tenantUserId = tenantRolesOf db tenantUserId := by
  ext roleId
  constructor
  · rintro ⟨row, member, isTenant, role⟩
    obtain ⟨tenantUser, isTenantUser, same⟩ := other.tenantUsersExist row member
    rw [agrees.tenantUsers] at isTenantUser
    have belongs : BelongsTo db userId row.tenantUserId :=
      ⟨tenantUser, isTenantUser, same, own tenantUser isTenantUser (same ▸ isTenant)⟩
    exact ⟨row, (agrees.ownRoles row belongs).mp member, isTenant, role⟩
  · rintro ⟨row, member, isTenant, role⟩
    obtain ⟨tenantUser, isTenantUser, same⟩ := db.tenantUsersExist row member
    have belongs : BelongsTo db userId row.tenantUserId :=
      ⟨tenantUser, isTenantUser, same, own tenantUser isTenantUser (same ▸ isTenant)⟩
    exact ⟨row, (agrees.ownRoles row belongs).mpr member, isTenant, role⟩

/-- Roles taken from somebody else's tenant user leave the user's own. -/
theorem agreesFor_withoutRolesOf {tenantUserId : Int}
    (others : ∀ tenantUser ∈ db.tenantUsers.rows, (tenantUser.tenantUserId : Int) = tenantUserId →
      (tenantUser.userId : Int) ≠ userId) :
    AgreesFor userId db (db.withoutRolesOf tenantUserId) where
  userRoles := rfl
  rolePermissions := rfl
  permissionDescriptions := rfl
  tenantUsers := rfl
  ownRoles := by
    rintro row ⟨tenantUser, isTenantUser, same, isUser⟩
    have different : (row.tenantUserId : Int) ≠ tenantUserId := fun isTenant =>
      others tenantUser isTenantUser (same ▸ isTenant) isUser
    simp [AuthorizationDb.withoutRolesOf, Table.mem_remove, different]

/-- So do roles given to somebody else's tenant user. -/
theorem agreesFor_withRolesFor {tenantUser : TenantUsersEntity}
    (isTenantUser : tenantUser ∈ db.tenantUsers.rows) (others : (tenantUser.userId : Int) ≠ userId) :
    AgreesFor userId db (db.withRolesFor tenantUser isTenantUser) where
  userRoles := rfl
  rolePermissions := rfl
  permissionDescriptions := rfl
  tenantUsers := rfl
  ownRoles := by
    rintro row ⟨owned, isOwned, same, isUser⟩
    simp only [AuthorizationDb.withRolesFor, Table.rows_insertAll, List.mem_append]
    refine ⟨fun member => member.resolve_right fun new => ?_, .inl⟩
    have sameUser : owned = tenantUser :=
      Table.eq_of_key_eq isOwned isTenantUser (same.trans (tenantUserId_of_stamp new))
    exact others (sameUser ▸ isUser)

theorem tenantRolesOf_withoutRolesOf {tenantUserId : Int} :
    tenantRolesOf (db.withoutRolesOf tenantUserId) (some tenantUserId) = ∅ := by
  refine Set.eq_empty_of_forall_notMem ?_
  rintro roleId ⟨row, member, isTenant, _⟩
  obtain ⟨_, different⟩ := Table.mem_remove.mp member
  exact (beq_eq_false_iff_ne.mp different) (Option.some.inj isTenant)

theorem heldRoles_subset_tenantRolesOf {tenantUser : TenantUsersEntity}
    (isTenantUser : tenantUser ∈ db.tenantUsers.rows) :
    heldRoles db ⊆ tenantRolesOf (db.withRolesFor tenantUser isTenantUser)
      (some tenantUser.tenantUserId) := by
  rintro roleId ⟨held, isHeld, rfl⟩
  let given : TenantUserRoleEntity :=
    { tenantUserRoleId := 0, tenantUserId := tenantUser.tenantUserId, roleId := held.roleId }
  have isGiven : given ∈ everyRoleFor db tenantUser.tenantUserId := List.mem_map_of_mem isHeld
  obtain ⟨m, stored⟩ := @Table.exists_mem_stamp _ _ _ db.tenantUserRoles.autoIncrement _ isGiven
  refine ⟨Keyed.withKey m given, ?_, rfl, rfl⟩
  rw [AuthorizationDb.withRolesFor, Table.rows_insertAll, List.mem_append]
  exact .inr stored

/-! ## What the answer depends on -/

/-- Roles of a tenant user count for the user the tenant user belongs to alone: they let nobody
else through, and whatever they are, others get the same answer. -/
structure GrantsStayWithOwner (db : AuthorizationDb) (permissions : List String)
    (context : ExecutionContext) (caller : CallerContext) (userId : Int) : Prop where
  strength : ∀ tenantUserId : Nat, caller.tenantUserId = some (tenantUserId : Int) →
    canActivate db permissions context = .ok true →
      canActivate (db.withoutRolesOf tenantUserId) permissions context ≠ .ok true →
        BelongsTo db userId tenantUserId
  sameAnswer : ∀ other, AgreesFor userId db other →
    canActivate other permissions context = canActivate db permissions context

/-- The caller names no other user's tenant user, or the answer is settled without one. -/
def OwnRolesSettle (db : AuthorizationDb) (permissions : List String) (caller : CallerContext)
    (userId : Int) : Prop :=
  (∀ tenantUser ∈ db.tenantUsers.rows,
      some (tenantUser.tenantUserId : Int) = caller.tenantUserId →
        (tenantUser.userId : Int) = userId) ∨
    (∀ permission ∈ permissions, Permitted db (rolesOf db userId) permission) ∨
      ∃ permission ∈ permissions, ¬ Permitted db (heldRoles db) permission

theorem hasPermissions_of_ownRolesSettle (settles : OwnRolesSettle db permissions caller userId)
    (agrees : AgreesFor userId db other) :
    hasPermissions other userId permissions caller.tenantUserId =
      hasPermissions db userId permissions caller.tenantUserId := by
  rw [Bool.eq_iff_iff, hasPermissions_iff, hasPermissions_iff]
  simp only [countedRoles, agrees.rolesOf, agrees.heldRoles, agrees.permitted]
  rcases settles with own | granted | ⟨permission, asked, refused⟩
  · rw [agrees.tenantRolesOf own]
  · exact iff_of_true
      (fun permission asked => (granted permission asked).mono Set.subset_union_left)
      (fun permission asked => (granted permission asked).mono Set.subset_union_left)
  · have held : rolesOf db userId ⊆ heldRoles db := fun _ ⟨row, member, _, role⟩ =>
      ⟨row, member, role⟩
    have bounded : ∀ roles : Set Nat, rolesOf db userId ∪ roles ∩ heldRoles db ⊆ heldRoles db :=
      fun roles => Set.union_subset held Set.inter_subset_right
    exact iff_of_false (fun all => refused ((all permission asked).mono (bounded _)))
      (fun all => refused ((all permission asked).mono (bounded _)))

/-- User 1 has the manager's role; user 5 has it as tenant user 1. -/
def managers : AuthorizationDb :=
  { tenantManager with userRoles := .ofRows [{ userRoleId := 0, userId := 1, roleId := 7 }] }

/-- A call of user 9 that names the tenant user of user 5 in its body. -/
def borrowedTenantUser : ExecutionContext :=
  .http (.obj [("userId", .num 9)]) (.obj [("tenantUserId", .num 1)])

end CoreApi.Authorization
