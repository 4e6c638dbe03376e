import CoreApi.Auth.AuthService
import CoreApi.Foundation.KeyText

/-!
# The life of a refresh token

A refresh token should serve from the login that issues it to the next login or
revocation of its user. The comparison sees the first 72 bytes only, and a
revocation deletes whatever token the user has: what a superseded token does to a
live one decides.
-/

namespace CoreApi.Auth

open CoreApi.Foundation AuthService

variable (packages : AuthPackages)

/-! ## Runs -/

inductive SessionCall where
  | login (user : User) (now accessExp salt : Nat)
  | refreshToken (token : Token) (now accessExp : Nat)
  | revokeRefreshToken (token : Token)

/-- What a call leaves in Redis. -/
def performSession (redis : Redis packages) : SessionCall → Redis packages
  | .login user now accessExp salt => (login packages redis user now accessExp salt).1
  | .refreshToken _ _ _ => redis
  | .revokeRefreshToken token =>
      match revokeRefreshToken packages redis token with
      | .ok (after, _) => after
      | .error _ => redis

/-- Redis after calls from an empty one. -/
def redisAfter (calls : List SessionCall) : Redis packages :=
  calls.foldl (performSession packages) fun _ => none

/-- The token of each user's most recent login. -/
def latestAfter (latest : Nat → Option Token) : SessionCall → Nat → Option Token
  | .login user now _ _ => Function.update latest user.userId (some (issuedToken packages user now))
  | _ => latest

def latestLogin (calls : List SessionCall) : Nat → Option Token :=
  calls.foldl (latestAfter packages) fun _ => none

/-- The token of each user's most recent login, where no token of the user was revoked since. -/
def sessionAfter (sessions : Nat → Option Token) : SessionCall → Nat → Option Token
  | .login user now _ _ =>
      Function.update sessions user.userId (some (issuedToken packages user now))
  | .refreshToken _ _ _ => sessions
  | .revokeRefreshToken token =>
      match packages.verify packages.refreshSecret token with
      | none => sessions
      | some decoded => Function.update sessions decoded.user.userId none

def session (calls : List SessionCall) : Nat → Option Token :=
  calls.foldl (sessionAfter packages) fun _ => none

/-- The tokens that the logins issue are verified to their claims. -/
def VerifiesIssued (calls : List SessionCall) : Prop :=
  ∀ user now accessExp salt, .login user now accessExp salt ∈ calls →
    packages.verify packages.refreshSecret (issuedToken packages user now) =
      some { user := user, iat := now, exp := now + packages.refreshExpiresInSeconds }

/-! ## Redis holds the sessions -/

/-- Redis holds a hash of each session's token, and nothing for a user without one. -/
def Mirrors (redis : Redis packages) (sessions : Nat → Option Token) : Prop :=
  ∀ userId, match sessions userId with
    | none => redis (redisKey userId) = none
    | some token => ∃ salt, redis (redisKey userId) = some (packages.hash salt token)

variable {packages} {calls before : List SessionCall} {redis : Redis packages}
  {sessions latest : Nat → Option Token}

theorem redisKey_injective : Function.Injective redisKey := by
  intro left right same
  have tails := congrArg String.toList same
  simp only [redisKey, String.toList_append, Nat.toList_repr] at tails
  exact digits_injective (List.append_cancel_left tails)

theorem Mirrors.update (mirrors : Mirrors packages redis sessions) (userId salt : Nat)
    (token : Token) :
    Mirrors packages (Function.update redis (redisKey userId) (some (packages.hash salt token)))
      (Function.update sessions userId (some token)) := by
  intro other
  by_cases same : other = userId
  · subst same
    simp only [Function.update_self]
    exact ⟨salt, rfl⟩
  · rw [Function.update_of_ne same,
      Function.update_of_ne fun sameKey => same (redisKey_injective sameKey)]
    exact mirrors other

theorem Mirrors.clear (mirrors : Mirrors packages redis sessions) (userId : Nat) :
    Mirrors packages (Function.update redis (redisKey userId) none)
      (Function.update sessions userId none) := by
  intro other
  by_cases same : other = userId
  · subst same
    simp only [Function.update_self]
  · rw [Function.update_of_ne same,
      Function.update_of_ne fun sameKey => same (redisKey_injective sameKey)]
    exact mirrors other

/-- A call keeps Redis and the sessions together. -/
theorem Mirrors.step (mirrors : Mirrors packages redis sessions) (call : SessionCall) :
    Mirrors packages (performSession packages redis call) (sessionAfter packages sessions call) := by
  cases call with
  | login user now accessExp salt => exact mirrors.update user.userId salt _
  | refreshToken token now accessExp => exact mirrors
  | revokeRefreshToken token =>
      rcases verified : packages.verify packages.refreshSecret token with _ | decoded
      · simp only [performSession, revokeRefreshToken, sessionAfter, verified]
        exact mirrors
      · simp only [performSession, revokeRefreshToken, sessionAfter, verified,
          if_pos (Nat.ne_of_gt decoded.user.positive)]
        exact mirrors.clear decoded.user.userId

theorem mirrors_run (mirrors : Mirrors packages redis sessions) (calls : List SessionCall) :
    Mirrors packages (calls.foldl (performSession packages) redis)
      (calls.foldl (sessionAfter packages) sessions) := by
  induction calls generalizing redis sessions with
  | nil => exact mirrors
  | cons call rest ih => exact ih (mirrors.step call)

theorem mirrors_redisAfter (calls : List SessionCall) :
    Mirrors packages (redisAfter packages calls) (session packages calls) :=
  mirrors_run (fun _ => rfl) calls

theorem latestLogin_of_session (calls : List SessionCall) :
    ∀ userId token, session packages calls userId = some token →
      latestLogin packages calls userId = some token := by
  have run : ∀ sessions latest : Nat → Option Token,
      (∀ userId token, sessions userId = some token → latest userId = some token) →
        ∀ userId token, calls.foldl (sessionAfter packages) sessions userId = some token →
          calls.foldl (latestAfter packages) latest userId = some token := by
    induction calls with
    | nil => exact fun _ _ holds => holds
    | cons call rest ih =>
        intro sessions latest holds
        refine ih _ _ ?_
        intro userId token isSession
        cases call with
        | login user now accessExp salt =>
            simp only [sessionAfter, latestAfter, Function.update_apply] at isSession ⊢
            split at isSession
            · rw [if_pos ‹_›]
              exact isSession
            · rw [if_neg ‹_›]
              exact holds userId token isSession
        | refreshToken token now accessExp => exact holds userId _ isSession
        | revokeRefreshToken revoked =>
            refine holds userId token ?_
            rcases verified : packages.verify packages.refreshSecret revoked with _ | decoded
            · simpa only [sessionAfter, verified] using isSession
            · simp only [sessionAfter, verified, Function.update_apply] at isSession
              split at isSession
              · cases isSession
              · exact isSession
  exact run _ _ (by simp)

/-! ## The law -/

section Law

variable (packages)

/-- The token gets its holder a fresh access token. -/
def IsUsable (redis : Redis packages) (token : Token) : Prop :=
  ∀ now accessExp, (refreshToken packages redis token now accessExp).isOk = true

/-- A refresh succeeds with the token of its user's session only, and revoking a superseded token
leaves the token of the latest login usable. -/
def Lawful (before : List SessionCall) : SessionCall → Prop
  | .login _ _ _ _ => True
  | .refreshToken token now accessExp => ∀ decoded,
      packages.verify packages.refreshSecret token = some decoded →
        (refreshToken packages (redisAfter packages before) token now accessExp).isOk = true →
          session packages before decoded.user.userId = some token
  | .revokeRefreshToken token => ∀ decoded latest,
      packages.verify packages.refreshSecret token = some decoded →
        latestLogin packages before decoded.user.userId = some latest → latest ≠ token →
          IsUsable packages (redisAfter packages before) latest →
            IsUsable packages (redisAfter packages (before ++ [.revokeRefreshToken token])) latest

/-- A superseded token is not revoked while its user has a session, and not presented then unless
its first 72 bytes are others than those of the session's token. -/
def SparesSession (before : List SessionCall) : SessionCall → Prop
  | .login _ _ _ _ => True
  | .refreshToken token _ _ => ∀ decoded live,
      packages.verify packages.refreshSecret token = some decoded →
        session packages before decoded.user.userId = some live → live ≠ token →
          live.take 72 ≠ token.take 72
  | .revokeRefreshToken token => ∀ decoded live,
      packages.verify packages.refreshSecret token = some decoded →
        session packages before decoded.user.userId = some live → live = token

/-- Every call of the run has the property, after the calls before it. -/
def Throughout (property : List SessionCall → SessionCall → Prop) (calls : List SessionCall) :
    Prop :=
  ∀ before call, before ++ [call] <+: calls → property before call

end Law

/-- A refresh succeeds where the user has a session whose token begins alike. -/
theorem refreshToken_isOk_iff (mirrors : Mirrors packages redis sessions) {token : Token}
    {decoded : Claims} {now accessExp : Nat}
    (verified : packages.verify packages.refreshSecret token = some decoded) :
    (refreshToken packages redis token now accessExp).isOk = true ↔
      ∃ live, sessions decoded.user.userId = some live ∧ token.take 72 = live.take 72 := by
  have mirrored := mirrors decoded.user.userId
  unfold refreshToken
  rw [verified]
  dsimp only
  rcases isSession : sessions decoded.user.userId with _ | live
  · rw [isSession] at mirrored
    rw [show redis (redisKey decoded.user.userId) = none from mirrored]
    simp [Except.isOk, Except.toBool]
  · rw [isSession] at mirrored
    obtain ⟨salt, isHash⟩ := mirrored
    rw [isHash]
    dsimp only
    simp only [Option.some.injEq, exists_eq_left', ← packages.compare_hash salt]
    rcases packages.compare token (packages.hash salt live) <;> simp [Except.isOk, Except.toBool]

theorem verify_latestLogin (verifies : VerifiesIssued packages calls) {userId : Nat}
    {token : Token} (isLatest : latestLogin packages calls userId = some token) :
    ∃ decoded, packages.verify packages.refreshSecret token = some decoded ∧
      decoded.user.userId = userId := by
  have run : ∀ (later : List SessionCall) (latest : Nat → Option Token), later ⊆ calls →
      (∀ userId token, latest userId = some token →
        ∃ decoded, packages.verify packages.refreshSecret token = some decoded ∧
          decoded.user.userId = userId) →
      ∀ userId token, later.foldl (latestAfter packages) latest userId = some token →
        ∃ decoded, packages.verify packages.refreshSecret token = some decoded ∧
          decoded.user.userId = userId := by
    intro later
    induction later with
    | nil => exact fun _ _ holds => holds
    | cons call rest ih =>
        intro latest inRun holds
        obtain ⟨isCall, others⟩ := List.cons_subset.mp inRun
        refine ih _ others ?_
        intro userId token isLatest
        cases call with
        | login user now accessExp salt =>
            simp only [latestAfter, Function.update_apply] at isLatest
            split at isLatest
            · obtain rfl := Option.some.inj isLatest
              exact ⟨_, verifies user now accessExp salt isCall, by simp [*]⟩
            · exact holds userId token isLatest
        | refreshToken presented now accessExp => exact holds userId token isLatest
        | revokeRefreshToken revoked => exact holds userId token isLatest
  exact run calls _ (List.Subset.refl calls) (by simp) userId token isLatest

theorem isUsable_of_session (verifies : VerifiesIssued packages before) {userId : Nat}
    {live : Token} (isSession : session packages before userId = some live) :
    IsUsable packages (redisAfter packages before) live := by
  obtain ⟨decoded, verified, rfl⟩ :=
    verify_latestLogin verifies (latestLogin_of_session before userId live isSession)
  exact fun now accessExp => (refreshToken_isOk_iff (mirrors_redisAfter before) verified).mpr ⟨live, isSession, rfl⟩

theorem session_of_isUsable (verifies : VerifiesIssued packages before) {userId : Nat}
    {latest : Token} (isLatest : latestLogin packages before userId = some latest)
    (mirrors : Mirrors packages redis sessions) (usable : IsUsable packages redis latest) :
    ∃ live, sessions userId = some live := by
  obtain ⟨decoded, verified, rfl⟩ := verify_latestLogin verifies isLatest
  obtain ⟨live, isSession, _⟩ := (refreshToken_isOk_iff mirrors verified).mp (usable 0 0)
  exact ⟨live, isSession⟩

theorem lawful_iff (verifies : VerifiesIssued packages before) (call : SessionCall) :
    Lawful packages before call ↔ SparesSession packages before call := by
  cases call with
  | login user now accessExp salt => exact Iff.rfl
  | refreshToken token now accessExp =>
      refine forall_congr' fun decoded => ?_
      constructor
      · intro lawful live verified isSession other sameStart
        have isToken := lawful verified
          ((refreshToken_isOk_iff (mirrors_redisAfter before) verified).mpr ⟨live, isSession, sameStart.symm⟩)
        rw [isSession] at isToken
        exact other (Option.some.inj isToken)
      · intro spares verified succeeds
        obtain ⟨live, isSession, sameStart⟩ := (refreshToken_isOk_iff (mirrors_redisAfter before) verified).mp succeeds
        by_cases same : live = token
        · exact same ▸ isSession
        · exact absurd sameStart.symm (spares live verified isSession same)
  | revokeRefreshToken token =>
      refine forall_congr' fun decoded => ?_
      have after : packages.verify packages.refreshSecret token = some decoded →
          session packages (before ++ [.revokeRefreshToken token]) decoded.user.userId = none := by
        intro verified
        simp only [session, List.foldl_append, List.foldl_cons, List.foldl_nil, sessionAfter,
          verified, Function.update_self]
      constructor
      · intro lawful live verified isSession
        by_contra other
        have isLatest := latestLogin_of_session before _ live isSession
        obtain ⟨_, lost⟩ := session_of_isUsable verifies isLatest (mirrors_redisAfter _)
          (lawful live verified isLatest other (isUsable_of_session verifies isSession))
        rw [after verified] at lost
        cases lost
      · intro spares latest verified isLatest other usable
        obtain ⟨live, isSession⟩ :=
          session_of_isUsable verifies isLatest (mirrors_redisAfter before) usable
        have same := latestLogin_of_session before _ live isSession
        rw [isLatest] at same
        exact absurd ((Option.some.inj same).trans (spares live verified isSession)) other

/-- Refresh tokens live as long as they should in exactly the runs whose calls spare the
sessions. -/
theorem lifecycle_iff (verifies : VerifiesIssued packages calls) :
    Throughout (Lawful packages) calls ↔ Throughout (SparesSession packages) calls := by
  have sub : ∀ before call, before ++ [call] <+: calls → VerifiesIssued packages before := by
    intro before call isPrefix user now accessExp salt member
    exact verifies user now accessExp salt (isPrefix.subset (List.mem_append_left _ member))
  constructor
  · intro lawful before call isPrefix
    exact (lawful_iff (sub before call isPrefix) call).mp (lawful before call isPrefix)
  · intro spares before call isPrefix
    exact (lawful_iff (sub before call isPrefix) call).mpr (spares before call isPrefix)

/-! ## Two logins of one user -/

/-- Texts are quoted as they are and signatures say nothing. -/
def plainJwt : Jwt where
  quoted text := "\"" ++ text ++ "\""
  signature _ _ := []

def ada : User := ⟨"ada", 5, by decide⟩

def firstLogin : SessionCall := .login ada 1000 2000 0

def secondLogin : SessionCall := .login ada 1060 2060 1

/-- The refresh tokens of the two logins. -/
def firstToken : Token := plainJwt.sign "refresh" ⟨ada, 1000, 605800⟩

def secondToken : Token := plainJwt.sign "refresh" ⟨ada, 1060, 605860⟩

/-- Packages that know these tokens. -/
def plainPackages : AuthPackages where
  toJwt := plainJwt
  jwtSecret := "access"
  refreshSecret := "refresh"
  refreshExpiresInSeconds := 604800
  verify _ token :=
    if token = firstToken then some ⟨ada, 1000, 605800⟩
    else if token = secondToken then some ⟨ada, 1060, 605860⟩
    else none
  Hash := List Char
  hash _ data := data.take 72
  compare content hashed := content.take 72 == hashed
  compare_hash _ _ _ := beq_iff_eq

theorem secondToken_ne : secondToken ≠ firstToken := by decide

theorem verify_firstToken : plainPackages.verify "refresh" firstToken =
    some ⟨ada, 1000, 605800⟩ := by
  simp [plainPackages]

theorem verify_secondToken : plainPackages.verify "refresh" secondToken =
    some ⟨ada, 1060, 605860⟩ := by
  simp [plainPackages, secondToken_ne]

theorem verifiesIssued_logins : VerifiesIssued plainPackages [firstLogin, secondLogin] := by
  intro user now accessExp salt member
  rcases List.mem_cons.mp member with first | later
  · obtain ⟨rfl, rfl, rfl, rfl⟩ := SessionCall.login.inj first
    exact verify_firstToken
  · obtain ⟨rfl, rfl, rfl, rfl⟩ := SessionCall.login.inj (List.mem_singleton.mp later)
    exact verify_secondToken

/-- Two logins of one user, one after the other. -/
theorem lifecycle_of_logins :
    Throughout (Lawful plainPackages) [firstLogin, secondLogin] ↔
      Throughout (SparesSession plainPackages) [firstLogin, secondLogin] :=
  lifecycle_iff verifiesIssued_logins

/-- The token of an earlier login still refreshes, and its revocation ends the later session. -/
theorem superseded_token_serves :
    ¬ Lawful plainPackages [firstLogin, secondLogin] (.refreshToken firstToken 1100 2100) ∧
      ¬ Lawful plainPackages [firstLogin, secondLogin] (.revokeRefreshToken firstToken) := by
  have isSession : session plainPackages [firstLogin, secondLogin] 5 = some secondToken := rfl
  constructor
  · intro lawful
    exact (lawful_iff verifiesIssued_logins _).mp lawful _ _ verify_firstToken isSession
      secondToken_ne (take_sign_of_same_user "refresh" rfl rfl)
  · intro lawful
    exact secondToken_ne
      ((lawful_iff verifiesIssued_logins _).mp lawful _ _ verify_firstToken isSession)

end CoreApi.Auth
