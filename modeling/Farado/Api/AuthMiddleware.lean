import Farado.Storage.Text
import Mathlib.Logic.Function.Basic

/-!
# The token check

`AuthMiddleware` issues JWT tokens and checks them. A token is not stored anywhere; what the
middleware remembers is the blacklist of tokens that were invalidated before they expired.

`Jwt` stands for the jwt-cpp library and `clock` for `system_clock`: the `n`-th reading that the
middleware takes is `clock n`.
-/

namespace Farado

/-- What `jwt::create()` is told before it signs. -/
structure JwtClaims where
  type : Bytes
  issuer : Bytes
  userId : Bytes
  issuedAt : Int
  expiresAt : Int
  deriving DecidableEq, Repr

/-- The jwt-cpp library. Where the real functions throw, these have no value. -/
structure Jwt where
  Decoded : Type
  /-- `jwt::create()….sign(hs256{secret})` -/
  sign : (secret : Bytes) → JwtClaims → Bytes
  /-- `jwt::decode` -/
  decode : Bytes → Option Decoded
  /-- `jwt::verify().allow_algorithm(hs256{secret}).with_issuer(issuer).verify(…)` at a given time -/
  verify : (secret issuer : Bytes) → (now : Int) → Decoded → Bool
  /-- The claim `user_id`, as a string -/
  userId : Decoded → Option Bytes
  /-- The claim `exp` -/
  expiresAt : Decoded → Option Int

/-- jwt-cpp rejects a token that has expired. -/
def Jwt.RejectsExpired (jwt : Jwt) : Prop :=
  ∀ secret issuer now decoded expiresAt, jwt.expiresAt decoded = some expiresAt → expiresAt < now →
    jwt.verify secret issuer now decoded = false

/-- The time a token names as its end. -/
def Jwt.expiry (jwt : Jwt) (token : Bytes) : Option Int := jwt.decode token >>= jwt.expiresAt

/-- A signed token ends when the builder was told, or a fraction of a second earlier: `exp` is in
whole seconds. -/
def Jwt.KeepsExpiry (jwt : Jwt) : Prop :=
  ∀ secret claims expiresAt, jwt.expiry (jwt.sign secret claims) = some expiresAt →
    expiresAt ≤ claims.expiresAt

/-- `JWTToken` -/
structure JWTToken where
  token : Bytes
  userId : Bytes
  expiresAt : Int
  deriving DecidableEq, Repr

/-- `\s` in a `std::regex` -/
def isRegexSpace (b : UInt8) : Bool := b == 0x20 || (0x09 ≤ b && b ≤ 0x0d)

/-- `[a-zA-Z0-9\-_\.]` -/
def isTokenByte (b : UInt8) : Bool :=
  (0x61 ≤ b && b ≤ 0x7a) || (0x41 ≤ b && b ≤ 0x5a) || (0x30 ≤ b && b ≤ 0x39) ||
    b == 0x2d || b == 0x5f || b == 0x2e

/-- What `^Bearer\s+([a-zA-Z0-9\-_\.]+)$` captures of a header. -/
def matchBearer (authHeader : Bytes) : Option Bytes :=
  if authHeader.take 6 = bytes "Bearer" then
    let rest := authHeader.drop 6
    let token := rest.dropWhile isRegexSpace
    if (rest.takeWhile isRegexSpace).isEmpty || token.isEmpty || !token.all isTokenByte then none
    else some token
  else none

theorem ne_nil_of_matchBearer {authHeader token : Bytes} (h : matchBearer authHeader = some token) :
    token ≠ [] := by
  unfold matchBearer at h
  split at h
  · dsimp only at h
    split at h
    · cases h
    · next hne =>
      rintro rfl
      rw [Option.some.inj h] at hne
      simp at hne
  · cases h

/-- The state of the middleware: the blacklist with the time each token expires, how many tokens
have been invalidated, and how often the clock has been read. -/
structure AuthMiddleware where
  blacklist : Bytes → Option Int
  invalidateCount : Nat
  readings : Nat

/-- Later readings of the clock are not earlier times. -/
def NeverBack (clock : Nat → Int) : Prop := ∀ {n k : Nat}, n ≤ k → clock n ≤ clock k

namespace AuthMiddleware

/-- After construction. -/
def initial : AuthMiddleware := { blacklist := fun _ => none, invalidateCount := 0, readings := 0 }

/-- The clock has been read once more. -/
def tick (m : AuthMiddleware) : AuthMiddleware := { m with readings := m.readings + 1 }

/-- `std::chrono::system_clock::now()` -/
def now (clock : Nat → Int) : StateM AuthMiddleware Int :=
  modifyGet fun m => (clock m.readings, m.tick)

/-- `std::regex_match`, and the empty string where it fails. -/
def extractBearerToken (authHeader : Bytes) : Bytes := (matchBearer authHeader).getD []

variable (jwt : Jwt) (clock : Nat → Int) (secretKey : Bytes)

def issuer : Bytes := bytes "biome-api"

/-- What `verifyToken` makes of a token at a given time. -/
def verifiedAt (now : Int) (token : Bytes) : Option JWTToken := do
  let decoded ← jwt.decode token
  if jwt.verify secretKey issuer now decoded then
    let userId ← jwt.userId decoded
    let expiresAt ← jwt.expiresAt decoded
    return { token, userId, expiresAt }
  else none

def verifyToken (token : Bytes) : StateM AuthMiddleware (Option JWTToken) := do
  return verifiedAt jwt secretKey (← now clock) token

/-- `std::erase_if` over the blacklist. -/
def eraseExpired (now : Int) (m : AuthMiddleware) : AuthMiddleware :=
  { m with blacklist := fun token => (m.blacklist token).filter fun expiresAt => !(expiresAt < now) }

def cleanBlacklist : StateM AuthMiddleware Unit := do
  let now ← now clock
  modify (eraseExpired now)

/-- `m_blacklist[token] = expiresAt;` -/
def put (token : Bytes) (expiresAt : Int) (m : AuthMiddleware) : AuthMiddleware :=
  { m with blacklist := Function.update m.blacklist token (some expiresAt) }

/-- `m_blacklist.erase(it);` -/
def erase (token : Bytes) (m : AuthMiddleware) : AuthMiddleware :=
  { m with blacklist := Function.update m.blacklist token none }

/-- `++invalidateCount` -/
def countInvalidation (m : AuthMiddleware) : AuthMiddleware :=
  { m with invalidateCount := m.invalidateCount + 1 }

def invalidateToken (token : Bytes) : StateM AuthMiddleware Unit := do
  match ← verifyToken jwt clock secretKey token with
  | none => return
  | some jwtToken =>
      modify (put token jwtToken.expiresAt)
      modify countInvalidation
      -- if (++invalidateCount % 10 == 0)
      if (← get).invalidateCount % 10 = 0 then cleanBlacklist clock

def isTokenInvalidated (token : Bytes) : StateM AuthMiddleware Bool := do
  match (← get).blacklist token with
  | none => return false
  | some expiresAt =>
      if expiresAt < (← now clock) then
        -- the token has expired, so nothing is lost with its entry
        modify (erase token)
        return false
      else return true

/-- The user id of an accepted header. -/
def validateRequest (authHeader : Bytes) : StateM AuthMiddleware (Option Bytes) := do
  if authHeader.isEmpty then return none
  else
    let token := extractBearerToken authHeader
    if token.isEmpty then return none
    -- the blacklist reads the clock before `verifyToken` does
    else if ← isTokenInvalidated clock token then return none
    else
      match ← verifyToken jwt clock secretKey token with
      | none => return none
      | some jwtToken => return some jwtToken.userId

/-- Ticks of `system_clock` in a second. -/
def ticksPerSecond : Int := 1000000000

def generateToken (userId : Bytes) (expiresInSeconds : Int) : StateM AuthMiddleware Bytes := do
  let now ← now clock
  return jwt.sign secretKey {
    type := bytes "JWT", issuer, userId, issuedAt := now,
    expiresAt := now + expiresInSeconds * ticksPerSecond }

/-! ## Verification and expiry -/

section
variable {jwt : Jwt} {secretKey token : Bytes}

/-- A verified token carries its expiry. -/
theorem expiry_of_verifiedAt {now : Int} {jwtToken : JWTToken}
    (h : verifiedAt jwt secretKey now token = some jwtToken) :
    jwt.expiry token = some jwtToken.expiresAt := by
  unfold verifiedAt at h
  unfold Jwt.expiry
  cases hd : jwt.decode token with
  | none => simp [hd] at h
  | some decoded =>
    simp only [hd, Option.bind_eq_bind, Option.bind_some] at h ⊢
    split at h
    · obtain ⟨userId, -, expiresAt, he, rfl⟩ :
          ∃ userId, jwt.userId decoded = some userId ∧ ∃ expiresAt,
            jwt.expiresAt decoded = some expiresAt ∧
            ({ token, userId, expiresAt } : JWTToken) = jwtToken := by
        simpa [Option.bind_eq_some_iff] using h
      exact he
    · cases h

/-- An expired token is not verified. -/
theorem verifiedAt_expired (hjwt : jwt.RejectsExpired) {now expiresAt : Int}
    (h : jwt.expiry token = some expiresAt) (hnow : expiresAt < now) :
    verifiedAt jwt secretKey now token = none := by
  unfold verifiedAt
  unfold Jwt.expiry at h
  cases hd : jwt.decode token with
  | none => simp
  | some decoded =>
    rw [hd] at h
    simp [hjwt secretKey issuer now decoded expiresAt h hnow]

end

/-! ## What the operations do -/

section
variable (m : AuthMiddleware)

@[simp] theorem tick_blacklist : m.tick.blacklist = m.blacklist := rfl

@[simp] theorem tick_readings : m.tick.readings = m.readings + 1 := rfl

@[simp] theorem put_blacklist (token : Bytes) (expiresAt : Int) :
    (put token expiresAt m).blacklist = Function.update m.blacklist token (some expiresAt) := rfl

@[simp] theorem put_readings (token : Bytes) (expiresAt : Int) :
    (put token expiresAt m).readings = m.readings := rfl

@[simp] theorem erase_blacklist (token : Bytes) :
    (erase token m).blacklist = Function.update m.blacklist token none := rfl

@[simp] theorem erase_readings (token : Bytes) : (erase token m).readings = m.readings := rfl

@[simp] theorem eraseExpired_blacklist (now : Int) (token : Bytes) :
    (eraseExpired now m).blacklist token =
      (m.blacklist token).filter fun expiresAt => !(expiresAt < now) := rfl

@[simp] theorem eraseExpired_readings (now : Int) : (eraseExpired now m).readings = m.readings := rfl

@[simp] theorem countInvalidation_blacklist : (countInvalidation m).blacklist = m.blacklist := rfl

@[simp] theorem countInvalidation_readings : (countInvalidation m).readings = m.readings := rfl

@[simp] theorem run_verifyToken (token : Bytes) :
    (verifyToken jwt clock secretKey token).run m =
      (verifiedAt jwt secretKey (clock m.readings) token, m.tick) := rfl

@[simp] theorem run_cleanBlacklist :
    (cleanBlacklist clock).run m = ((), eraseExpired (clock m.readings) m.tick) := rfl

@[simp] theorem run_generateToken (userId : Bytes) (expiresInSeconds : Int) :
    (generateToken jwt clock secretKey userId expiresInSeconds).run m =
      (jwt.sign secretKey {
        type := bytes "JWT", issuer, userId, issuedAt := clock m.readings,
        expiresAt := clock m.readings + expiresInSeconds * ticksPerSecond }, m.tick) := rfl

/-- The lookup, by what the blacklist has. -/
theorem run_isTokenInvalidated (token : Bytes) :
    (isTokenInvalidated clock token).run m =
      match m.blacklist token with
      | none => (false, m)
      | some expiresAt =>
          if expiresAt < clock m.readings then (false, erase token m.tick) else (true, m.tick) := by
  show (match m.blacklist token with | none => _ | some e => _ : StateM AuthMiddleware Bool).run m = _
  cases m.blacklist token with
  | none => rfl
  | some expiresAt =>
    show (if expiresAt < clock m.readings then _ else _ : StateM AuthMiddleware Bool).run m.tick = _
    dsimp only
    split <;> rfl

/-- An invalidation, by what the verification says. -/
theorem run_invalidateToken (token : Bytes) :
    (invalidateToken jwt clock secretKey token).run m =
      match verifiedAt jwt secretKey (clock m.readings) token with
      | none => ((), m.tick)
      | some jwtToken =>
          let m' := countInvalidation (put token jwtToken.expiresAt m.tick)
          if m'.invalidateCount % 10 = 0 then ((), eraseExpired (clock m'.readings) m'.tick)
          else ((), m') := by
  show (match verifiedAt jwt secretKey (clock m.readings) token with
    | none => _ | some jwtToken => _ : StateM AuthMiddleware Unit).run m.tick = _
  cases verifiedAt jwt secretKey (clock m.readings) token with
  | none => rfl
  | some jwtToken =>
    show (if (countInvalidation (put token jwtToken.expiresAt m.tick)).invalidateCount % 10 = 0
      then _ else _ : StateM AuthMiddleware Unit).run _ = _
    dsimp only
    split <;> rfl

/-- A header that is not `Bearer` and a token. -/
theorem run_validateRequest_none {authHeader : Bytes} (h : matchBearer authHeader = none) :
    (validateRequest jwt clock secretKey authHeader).run m = (none, m) := by
  unfold validateRequest extractBearerToken
  rw [h]
  split <;> rfl

/-- A check, by what the lookup says. -/
theorem run_validateRequest {authHeader token : Bytes} (h : matchBearer authHeader = some token) :
    (validateRequest jwt clock secretKey authHeader).run m =
      match (isTokenInvalidated clock token).run m with
      | (true, m') => (none, m')
      | (false, m') =>
          ((verifiedAt jwt secretKey (clock m'.readings) token).map (·.userId), m'.tick) := by
  have hheader : authHeader.isEmpty = false := by
    cases authHeader with
    | nil => cases h
    | cons b rest => rfl
  have htoken : token.isEmpty = false := by simpa using ne_nil_of_matchBearer h
  unfold validateRequest extractBearerToken
  rw [h, hheader]
  dsimp only [Option.getD_some]
  rw [htoken]
  show (if ((isTokenInvalidated clock token).run m).1 = true then _ else _ :
    StateM AuthMiddleware (Option Bytes)).run ((isTokenInvalidated clock token).run m).2 = _
  rcases (isTokenInvalidated clock token).run m with ⟨_ | _, m'⟩
  · show (match verifiedAt jwt secretKey (clock m'.readings) token with
      | none => _ | some jwtToken => _ : StateM AuthMiddleware (Option Bytes)).run m'.tick = _
    dsimp only
    cases verifiedAt jwt secretKey (clock m'.readings) token <;> rfl
  · rfl

/-! The clock only goes forward. -/

theorem le_readings_isTokenInvalidated (token : Bytes) :
    m.readings ≤ ((isTokenInvalidated clock token).run m).2.readings := by
  rw [run_isTokenInvalidated]
  cases m.blacklist token with
  | none => exact Nat.le_refl _
  | some expiresAt =>
    dsimp only
    split <;> exact Nat.le_succ _

theorem le_readings_validateRequest (authHeader : Bytes) :
    m.readings ≤ ((validateRequest jwt clock secretKey authHeader).run m).2.readings := by
  cases hm : matchBearer authHeader with
  | none => rw [run_validateRequest_none jwt clock secretKey m hm]
  | some token =>
    rw [run_validateRequest jwt clock secretKey m hm]
    have := le_readings_isTokenInvalidated clock m token
    rcases hi : (isTokenInvalidated clock token).run m with ⟨_ | _, m'⟩
    · rw [hi] at this
      exact this.trans (Nat.le_succ _)
    · rw [hi] at this
      exact this

theorem le_readings_invalidateToken (token : Bytes) :
    m.readings ≤ ((invalidateToken jwt clock secretKey token).run m).2.readings := by
  rw [run_invalidateToken]
  cases verifiedAt jwt secretKey (clock m.readings) token with
  | none => exact Nat.le_succ _
  | some jwtToken =>
    dsimp only
    split
    · exact (Nat.le_succ _).trans (Nat.le_succ _)
    · exact Nat.le_succ _

/-- A token that has expired by now, or does not name an end, is rejected. -/
theorem rejected_of_expired {jwt : Jwt} {clock : Nat → Int} {m : AuthMiddleware}
    (hjwt : jwt.RejectsExpired) (hclock : NeverBack clock) {authHeader : Bytes}
    (h : ∀ expiresAt, jwt.expiry (extractBearerToken authHeader) = some expiresAt →
      expiresAt < clock m.readings) :
    ((validateRequest jwt clock secretKey authHeader).run m).1 = none := by
  cases hm : matchBearer authHeader with
  | none => rw [run_validateRequest_none jwt clock secretKey m hm]
  | some token =>
    rw [run_validateRequest jwt clock secretKey m hm]
    have hle := le_readings_isTokenInvalidated clock m token
    rcases hi : (isTokenInvalidated clock token).run m with ⟨_ | _, m'⟩
    · rw [hi] at hle
      cases hv : verifiedAt jwt secretKey (clock m'.readings) token with
      | none =>
        dsimp only
        rw [hv, Option.map_none]
      | some jwtToken =>
        have he := expiry_of_verifiedAt hv
        have hlt := h jwtToken.expiresAt (by rw [extractBearerToken, hm]; exact he)
        rw [verifiedAt_expired hjwt he (Int.lt_of_lt_of_le hlt (hclock hle))] at hv
        cases hv
    · rfl

end

end AuthMiddleware

end Farado
