import CoreApi.Foundation.Json
import CoreApi.Authorization.AuthorizationService

/-!
# The authorization guard

`AuthorizationGuard` reads the caller from the request and asks the service for
the permissions the handler requires.
-/

namespace CoreApi.Authorization

open CoreApi.Foundation AuthorizationService

/-! ## The guard -/

/-- What a call is: an HTTP request with the user of its token and its body, a message with its
payload, or neither. -/
inductive ExecutionContext where
  | http (user body : Json)
  | rpc (data : Json)
  | unsupported (type : String)

/-- The caller; a user id of `none` is NaN, and so asks for no tenant user if it is the other. -/
structure CallerContext where
  userId : Option Int
  tenantUserId : Option Int
  deriving DecidableEq, Repr

inductive GuardError where
  | unauthorized (message : String)
  | forbidden (message : String)
  | queryFailed
  deriving DecidableEq, Repr

namespace AuthorizationGuard

/-- `ensureUser`. -/
def ensureUser (userId tenantUserId : Json) : Except GuardError CallerContext :=
  if userId.truthy = false then .error (.unauthorized "User context is missing")
  else .ok
    { userId := userId.toNumber
      tenantUserId := if tenantUserId.truthy then tenantUserId.toNumber else none }

/-- `getCaller`. -/
def getCaller : ExecutionContext → Except GuardError CallerContext
  | .http user body =>
      ensureUser ((user.field "userId").orElse (body.field "userId"))
        ((user.field "tenantUserId").orElse (body.field "tenantUserId"))
  | .rpc data =>
      ensureUser ((data.field "userId").orElse (data.field "user_id"))
        ((data.field "tenantUserId").orElse (data.field "tenant_user_id"))
  | .unsupported _ => .error (.unauthorized "Unsupported execution context")

/-- `canActivate`, for the permissions that the handler or its class requires. -/
def canActivate (db : AuthorizationDb) (permissions : List String) (context : ExecutionContext) :
    Except GuardError Bool :=
  if permissions = [] then .ok true
  else
    match getCaller context with
    | .error failure => .error failure
    | .ok caller =>
        match caller.userId with
        -- `ur.user_id = NaN` names a column that is not there.
        | none => .error .queryFailed
        | some userId =>
            if hasPermissions db userId permissions caller.tenantUserId then .ok true
            else .error (.forbidden "Insufficient permissions")

end AuthorizationGuard

open AuthorizationGuard

variable {db : AuthorizationDb} {permissions : List String} {context : ExecutionContext}
  {caller : CallerContext} {userId : Int}

/-- The answer for a caller is that of the service. -/
theorem canActivate_of_caller (isCaller : getCaller context = .ok caller)
    (isUser : caller.userId = some userId) :
    canActivate db permissions context =
      if hasPermissions db userId permissions caller.tenantUserId then .ok true
      else .error (.forbidden "Insufficient permissions") := by
  unfold canActivate
  by_cases none : permissions = []
  · simp [none, hasPermissions]
  · rw [if_neg none, isCaller]
    dsimp only
    rw [isUser]

/-- The caller is let through where the counted roles permit everything that is required. -/
theorem canActivate_eq_ok (isCaller : getCaller context = .ok caller)
    (isUser : caller.userId = some userId) :
    canActivate db permissions context = .ok true ↔ ∀ permission ∈ permissions,
      Permitted db (countedRoles db userId caller.tenantUserId) permission := by
  rw [canActivate_of_caller isCaller isUser, ← hasPermissions_iff]
  split <;> simp_all

end CoreApi.Authorization
