import Farado.Api.AuthMiddleware
import Farado.Repositories.User

/-!
# Logging in and out

`AuthService`, over the users table and the token check. The account's state (blocked, deleted,
password) is looked at here and nowhere else.
-/

namespace Farado

open Steps

/-- The state of the running server: the shared connection and the middleware. -/
structure Server where
  connection : Connection
  auth : AuthMiddleware

/-- Server code: database exceptions travel up. -/
abbrev ServerM := ExceptT Error (StateM Server)

/-- Database code on the shared connection. -/
def onDb {α : Type} (p : Db α) : ServerM α := ExceptT.mk fun s =>
  (p.result s.connection, { s with connection := p.after s.connection })

/-- Middleware code. -/
def onAuth {α : Type} (p : StateM AuthMiddleware α) : ServerM α := ExceptT.mk fun s =>
  (.ok (p.run s.auth).1, { s with auth := (p.run s.auth).2 })

/-- What server code returns, and the server it leaves. -/
def ServerM.exec {α : Type} (p : ServerM α) (s : Server) : Except Error α × Server := p.run.run s

/-- A query first: the server is left as it was. -/
theorem exec_onDb_bind {α β : Type} {p : Db α} (hp : Prog.ReadOnly p) (k : α → ServerM β)
    (s : Server) :
    (onDb p >>= k).exec s =
      match p.result s.connection with
      | .ok a => (k a).exec s
      | .error e => (.error e, s) := by
  have hafter : p.after s.connection = s.connection := congrArg Prod.snd (hp.run_eq s.connection)
  show (ExceptT.bindCont k (p.result s.connection)).run
    ({ s with connection := p.after s.connection } : Server) = _
  rw [hafter]
  cases p.result s.connection <;> rfl

/-- `AuthResult` -/
structure AuthResult where
  success : Bool := false
  expiresIn : Int := 3600
  errorCode : Int := 0
  accessToken : Bytes := []
  tokenType : Bytes := bytes "Bearer"
  errorMessage : Bytes := []
  deriving DecidableEq, Repr

/-- `ChangePasswordResult` -/
structure ChangePasswordResult where
  success : Bool := false
  errorCode : Int := 0
  errorMessage : Bytes := []
  deriving DecidableEq, Repr

namespace AuthService

/-- `DEFAULT_TOKEN_EXPIRY`: one hour. -/
def defaultTokenExpiry : Int := 3600

variable (jwt : Jwt) (clock : Nat → Int) (secretKey : Bytes) (sha256 : Bytes → Bytes)

def checkPassword (password hash : Bytes) : Bool := sha256 password == hash

def verifyPassword (userId : Int) (password : Bytes) : Db Bool := do
  let storedHash ← SqliteUserRepository.passwordHash userId
  if storedHash.isEmpty then return false
  else return checkPassword sha256 password storedHash

/-- `std::to_string` -/
def userIdStr (id : Int) : Bytes := bytes (toString id)

def login (login password : Bytes) : ServerM AuthResult := do
  if login.isEmpty || password.isEmpty then
    return { errorMessage := bytes "Login and password are required", errorCode := 400 }
  else
    match ← onDb (SqliteUserRepository.findByLogin login) with
    | none => return { errorMessage := bytes "Invalid credentials", errorCode := 401 }
    | some user =>
        -- before the password: a blocked account is told so whatever the password is
        if user.isBlocked.getD false then
          return { errorMessage := bytes "Account is blocked", errorCode := 403 }
        else
          match user.id with
          | none => return { errorMessage := bytes "Invalid user data", errorCode := 500 }
          | some id =>
              if !(← onDb (verifyPassword sha256 id password)) then
                return { errorMessage := bytes "Invalid credentials", errorCode := 401 }
              else
                let accessToken ← onAuth
                  (AuthMiddleware.generateToken jwt clock secretKey (userIdStr id)
                    defaultTokenExpiry)
                return { accessToken, success := true, expiresIn := defaultTokenExpiry }

def logout (token : Bytes) : StateM AuthMiddleware Bool := do
  if token.isEmpty then return false
  else
    AuthMiddleware.invalidateToken jwt clock secretKey token
    return true

/-- `MIN_PASSWORD_LENGTH` -/
def minPasswordLength : Nat := 8

/-- `std::isupper`, `std::islower` and `std::isdigit` of the "C" locale. -/
def isUpper (b : UInt8) : Bool := decide (0x41 ≤ b ∧ b ≤ 0x5a)

def isLower (b : UInt8) : Bool := decide (0x61 ≤ b ∧ b ≤ 0x7a)

def isDigit (b : UInt8) : Bool := decide (0x30 ≤ b ∧ b ≤ 0x39)

def validatePasswordStrength (password : Bytes) : Bool :=
  decide (minPasswordLength ≤ password.length) && password.any isUpper && password.any isLower &&
    password.any isDigit

def changePassword (userId : Int) (oldPassword newPassword : Bytes) : Db ChangePasswordResult := do
  if oldPassword.isEmpty || newPassword.isEmpty then
    return {
      errorMessage := bytes "Old password and new password are required", errorCode := 400 }
  else
    match ← SqliteUserRepository.findById userId with
    | none => return { errorMessage := bytes "User not found", errorCode := 404 }
    | some _ =>
        if !(← verifyPassword sha256 userId oldPassword) then
          return { errorMessage := bytes "Invalid old password", errorCode := 401 }
        else if oldPassword == newPassword then
          return {
            errorMessage := bytes "New password must be different from old password"
            errorCode := 400 }
        else if !validatePasswordStrength newPassword then
          return {
            errorMessage := bytes ("Password must be at least 8 characters long and " ++
              "contain uppercase, lowercase and digit")
            errorCode := 400 }
        else if !(← SqliteUserRepository.updatePassword userId (sha256 newPassword)) then
          return { errorMessage := bytes "Failed to update password", errorCode := 500 }
        else
          -- what becomes of the flag is not looked at
          let _ ← SqliteUserRepository.updateNeedChangePassword userId false
          return { success := true }

end AuthService

namespace AuthService

variable {jwt : Jwt} {clock : Nat → Int} {secretKey : Bytes} {sha256 : Bytes → Bytes}

theorem readOnly_findByLogin (login : Bytes) :
    Prog.ReadOnly (SqliteUserRepository.findByLogin login) :=
  .ite (Prog.readOnly_pure _) (readOnly_select _)

theorem readOnly_passwordHash (userId : Int) :
    Prog.ReadOnly (SqliteUserRepository.passwordHash userId) :=
  .ite (Prog.readOnly_pure _) ((readOnly_select _).tryCatch fun _ => Prog.readOnly_pure _)

theorem readOnly_verifyPassword (userId : Int) (password : Bytes) :
    Prog.ReadOnly (verifyPassword sha256 userId password) :=
  (readOnly_passwordHash userId).bind fun _ => .ite (Prog.readOnly_pure _) (Prog.readOnly_pure _)

/-- The token that a login at this moment issues. -/
def issuedToken (jwt : Jwt) (clock : Nat → Int) (secretKey : Bytes) (s : Server) (id : Int) :
    Bytes :=
  jwt.sign secretKey {
    type := bytes "JWT", issuer := AuthMiddleware.issuer, userId := userIdStr id,
    issuedAt := clock s.auth.readings,
    expiresAt := clock s.auth.readings + defaultTokenExpiry * AuthMiddleware.ticksPerSecond }

/-- **What a login does.** Either it changes nothing and does not succeed, or it found an account
that is not blocked and issued a token to it. -/
theorem login_cases (login password : Bytes) (s : Server) :
    ((AuthService.login jwt clock secretKey sha256 login password).exec s).2 = s ∧
        (∀ result, ((AuthService.login jwt clock secretKey sha256 login password).exec s).1 =
          .ok result → result.success = false) ∨
      ∃ user id, (SqliteUserRepository.findByLogin login).result s.connection = .ok (some user) ∧
        user.isBlocked.getD false = false ∧ user.id = some id ∧
        (AuthService.login jwt clock secretKey sha256 login password).exec s =
          (.ok { success := true, accessToken := issuedToken jwt clock secretKey s id },
            { s with auth := s.auth.tick }) := by
  -- every error reply leaves the server as it was
  have hgiveUp : ∀ {p : ServerM AuthResult} {result : AuthResult}, p.exec s = (.ok result, s) →
      result.success = false →
      (p.exec s).2 = s ∧ ∀ result, (p.exec s).1 = .ok result → result.success = false := by
    intro p result hp hresult
    rw [hp]
    exact ⟨rfl, by rintro _ ⟨⟩; exact hresult⟩
  unfold AuthService.login
  split
  · exact .inl (hgiveUp rfl rfl)
  rw [exec_onDb_bind (readOnly_findByLogin login)]
  cases hfind : (SqliteUserRepository.findByLogin login).result s.connection with
  | error e => exact .inl ⟨rfl, by rintro _ ⟨⟩⟩
  | ok found =>
    cases found with
    | none => exact .inl (hgiveUp rfl rfl)
    | some user =>
      dsimp only
      split
      · exact .inl (hgiveUp rfl rfl)
      next hblocked =>
      split
      · exact .inl (hgiveUp rfl rfl)
      next id hid =>
      rw [exec_onDb_bind (readOnly_verifyPassword id password)]
      cases (verifyPassword sha256 id password).result s.connection with
      | error e => exact .inl ⟨rfl, by rintro _ ⟨⟩⟩
      | ok matched =>
        cases matched with
        | false => exact .inl (hgiveUp rfl rfl)
        | true => exact .inr ⟨user, id, rfl, by simpa using hblocked, hid, rfl⟩

end AuthService

/-- `AuthHandler::handleLogout`: the status and, for an error, the message it replies with. The
header is matched here a second time, apart from the middleware. -/
def AuthHandler.handleLogout (jwt : Jwt) (clock : Nat → Int) (secretKey : Bytes)
    (authHeader : Option Bytes) : StateM AuthMiddleware (Int × Bytes) := do
  match authHeader with
  | none => return (401, bytes "Missing Authorization header")
  | some header =>
      match matchBearer header with
      | some token =>
          if ← AuthService.logout jwt clock secretKey token then return (204, [])
          else return (500, bytes "Failed to logout")
      | none => return (400, bytes "Invalid Authorization header format")

/-- Logging out is invalidating the token of the header, if there is one. -/
theorem AuthHandler.run_handleLogout {jwt : Jwt} {clock : Nat → Int} {secretKey : Bytes}
    {m : AuthMiddleware} (authHeader : Option Bytes) :
    ((AuthHandler.handleLogout jwt clock secretKey authHeader).run m).2 =
      match authHeader.bind matchBearer with
      | some token => ((AuthMiddleware.invalidateToken jwt clock secretKey token).run m).2
      | none => m := by
  cases authHeader with
  | none => rfl
  | some header =>
    show (((match matchBearer header with | some token => _ | none => _) :
      StateM AuthMiddleware (Int × Bytes)).run m).2 = _
    rw [Option.bind_some]
    cases hm : matchBearer header with
    | none => rfl
    | some token =>
      have htoken : token.isEmpty = false := by simpa using ne_nil_of_matchBearer hm
      have hlogout : (AuthService.logout jwt clock secretKey token).run m =
          (true, ((AuthMiddleware.invalidateToken jwt clock secretKey token).run m).2) := by
        unfold AuthService.logout
        rw [htoken]
        rfl
      show (((if ((AuthService.logout jwt clock secretKey token).run m).1 = true then _ else _) :
        StateM AuthMiddleware (Int × Bytes)).run
          ((AuthService.logout jwt clock secretKey token).run m).2).2 = _
      rw [hlogout]
      rfl

end Farado
