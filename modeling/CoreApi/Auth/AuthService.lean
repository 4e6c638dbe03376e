import Mathlib.Data.List.Basic
import Mathlib.Logic.Function.Basic
import CoreApi.Foundation.Base64Url

/-!
# Refresh tokens

`AuthService` keeps one hash for each user in Redis: a login writes it, a refresh
compares the presented token with it, and a revocation deletes it. Tokens are
signed and hashes are made by packages, which stand here with what they promise:
bcrypt compares the first 72 bytes of what it is given. The header of a token and
the claims that name its user fill these, so the tokens of a user look alike.
-/

namespace CoreApi.Auth

open CoreApi.Foundation

/-! ## Tokens -/

/-- A user as a login gets it. -/
structure User where
  username : String
  userId : Nat
  positive : 0 < userId

/-- The claims of a token. -/
structure Claims where
  user : User
  iat : Nat
  exp : Nat

/-- The text of a token; its characters are ASCII, one byte each. -/
abbrev Token := List Char

/-- The bytes of a text. -/
def utf8 (text : String) : List UInt8 := text.toList.flatMap String.utf8EncodeChar

/-- How tokens are written. -/
structure Jwt where
  /-- `JSON.stringify` of a text. -/
  quoted : String → String
  /-- The signature of a token under a secret, as it stands in the token. -/
  signature : String → List Char → List Char

namespace Jwt

variable (jwt : Jwt)

/-- The fixed header. -/
def header : String := "\x7b\"alg\":\"HS256\",\"typ\":\"JWT\"\x7d"

/-- The claims that name the user, and the name of the next one. -/
def identity (user : User) : String :=
  "\x7b\"username\":" ++ jwt.quoted user.username ++ ",\"userId\":" ++ Nat.repr user.userId
    ++ ",\"iat\":"

/-- The claims as JSON. -/
def payload (claims : Claims) : String :=
  jwt.identity claims.user ++ Nat.repr claims.iat ++ ",\"exp\":" ++ Nat.repr claims.exp ++ "\x7d"

/-- `jwtService.sign`. -/
def sign (secret : String) (claims : Claims) : Token :=
  let content := Base64Url.encode (utf8 header) ++ '.' ::
    Base64Url.encode (utf8 (jwt.payload claims))
  content ++ '.' :: jwt.signature secret content

end Jwt

/-- The packages behind the service, and its settings. -/
structure AuthPackages extends Jwt where
  jwtSecret : String
  refreshSecret : String
  refreshExpiresInSeconds : Nat
  verify : String → Token → Option Claims
  Hash : Type
  hash : Nat → List Char → Hash
  compare : List Char → Hash → Bool
  /-- bcrypt sees the first 72 bytes. -/
  compare_hash : ∀ salt data content,
    compare content (hash salt data) = true ↔ content.take 72 = data.take 72

/-! ## The service -/

/-- The Redis keys and their values. -/
abbrev Redis (packages : AuthPackages) := String → Option packages.Hash

inductive AuthError where
  | unauthorized (message : String)
  | invalidToken
  deriving DecidableEq, Repr

structure TokenResponse where
  accessToken : Token
  refreshToken : Option Token
  deriving DecidableEq

def expiredRefreshTokenErrorMessage : String := "refresh token is expired!"

/-- `REDIS_USER_REFRESH_TOKEN_IDENTIFIER` with the user id in its place. -/
def redisKey (userId : Nat) : String := "refresh_token_" ++ Nat.repr userId

namespace AuthService

variable (packages : AuthPackages)

/-- The refresh token a login at this second issues. -/
def issuedToken (user : User) (now : Nat) : Token :=
  packages.sign packages.refreshSecret
    { user := user, iat := now, exp := now + packages.refreshExpiresInSeconds }

/-- `login`, with the claims of the access token's lifetime. -/
def login (redis : Redis packages) (user : User) (now accessExp salt : Nat) :
    Redis packages × TokenResponse :=
  let refreshToken := issuedToken packages user now
  (Function.update redis (redisKey user.userId) (some (packages.hash salt refreshToken)),
    { accessToken := packages.sign packages.jwtSecret { user := user, iat := now, exp := accessExp }
      refreshToken := some refreshToken })

/-- `refreshToken`. -/
def refreshToken (redis : Redis packages) (token : Token) (now accessExp : Nat) :
    Except AuthError TokenResponse :=
  match packages.verify packages.refreshSecret token with
  | none => .error .invalidToken
  | some decoded =>
      match redis (redisKey decoded.user.userId) with
      | none => .error (.unauthorized expiredRefreshTokenErrorMessage)
      | some hashed =>
          if packages.compare token hashed = false then
            .error (.unauthorized expiredRefreshTokenErrorMessage)
          else .ok
            { accessToken := packages.sign packages.jwtSecret
                { user := decoded.user, iat := now, exp := accessExp }
              refreshToken := none }

/-- `revokeRefreshToken`; the user id of a token is never 0. -/
def revokeRefreshToken (redis : Redis packages) (token : Token) :
    Except AuthError (Redis packages × Bool) :=
  match packages.verify packages.refreshSecret token with
  | none => .error .invalidToken
  | some decoded =>
      if decoded.user.userId ≠ 0 then
        .ok (Function.update redis (redisKey decoded.user.userId) none,
          (redis (redisKey decoded.user.userId)).isSome)
      else .error (.unauthorized expiredRefreshTokenErrorMessage)

end AuthService

/-! ## Tokens of one user begin alike -/

section Layout

variable {jwt : Jwt}

theorem utf8_append (left right : String) : utf8 (left ++ right) = utf8 left ++ utf8 right := by
  simp [utf8]

theorem utf8_payload (claims : Claims) : ∃ rest,
    utf8 (jwt.payload claims) = utf8 (jwt.identity claims.user) ++ rest := by
  refine ⟨utf8 (Nat.repr claims.iat ++ ",\"exp\":" ++ Nat.repr claims.exp ++ "\x7d"), ?_⟩
  simp only [Jwt.payload, utf8_append, List.append_assoc]

/-- The claims that name the user fill the first nine groups of the payload. -/
theorem identity_long (user : User) : 27 ≤ (utf8 (jwt.identity user)).length := by
  have first : (utf8 "\x7b\"username\":").length = 12 := by decide
  have second : (utf8 ",\"userId\":").length = 10 := by decide
  have third : (utf8 ",\"iat\":").length = 7 := by decide
  simp only [Jwt.identity, utf8_append, List.length_append, first, second, third]
  omega

/-- The characters of a token that the header and the user decide. -/
def opening (jwt : Jwt) (user : User) : List Char :=
  Base64Url.encode (utf8 Jwt.header) ++ '.' ::
    (Base64Url.encode (utf8 (jwt.identity user))).take 36

theorem append_take_drop (n : Nat) (front middle back : List Char) :
    front ++ '.' :: middle ++ '.' :: back =
      front ++ '.' :: middle.take n ++ (middle.drop n ++ '.' :: back) := by
  simp only [List.append_assoc, List.cons_append]
  rw [← List.append_assoc (middle.take n), List.take_append_drop]

theorem sign_eq_opening_append (secret : String) (claims : Claims) : ∃ rest,
    jwt.sign secret claims = opening jwt claims.user ++ rest := by
  obtain ⟨later, isPayload⟩ := @utf8_payload jwt claims
  have long := @identity_long jwt claims.user
  have alike : (Base64Url.encode (utf8 (jwt.identity claims.user))).take (4 * 9) =
      (Base64Url.encode (utf8 (jwt.payload claims))).take (4 * 9) := by
    refine Base64Url.take_encode long ?_
    rw [isPayload, List.take_append_of_le_length long]
  simp only [opening, alike, Jwt.sign]
  exact ⟨_, append_take_drop 36 _ _ _⟩

theorem opening_length (user : User) : (opening jwt user).length = 73 := by
  have first : (Base64Url.encode (utf8 Jwt.header)).length = 36 := by decide
  have whole : ((utf8 (jwt.identity user)).take 27).length = 3 * 9 := by
    rw [List.length_take, Nat.min_eq_left (identity_long user)]
  obtain ⟨splits, length⟩ :=
    Base64Url.encode_append whole ((utf8 (jwt.identity user)).drop 27)
  rw [List.take_append_drop] at splits
  simp only [opening, splits, List.length_append, List.length_cons, List.length_take, first, length]
  omega

/-- Two tokens of a user of one name begin with the same 72 bytes, whenever they are issued. -/
theorem take_sign_of_same_user (secret : String) {claims others : Claims}
    (sameName : claims.user.username = others.user.username)
    (sameId : claims.user.userId = others.user.userId) :
    (jwt.sign secret claims).take 72 = (jwt.sign secret others).take 72 := by
  have sameOpening : opening jwt claims.user = opening jwt others.user := by
    simp only [opening, Jwt.identity, sameName, sameId]
  obtain ⟨_, first⟩ := @sign_eq_opening_append jwt secret claims
  obtain ⟨_, second⟩ := @sign_eq_opening_append jwt secret others
  have short : 72 ≤ (opening jwt others.user).length := by rw [opening_length]; decide
  rw [first, second, sameOpening, List.take_append_of_le_length short,
    List.take_append_of_le_length short]

end Layout

end CoreApi.Auth
