import Farado.Sessions.Hashes
import Farado.Sessions.Independence
import Farado.Sessions.Password
import Farado.Sessions.Requests
import Farado.Sessions.Spelling

/-!
# Accounts, request by request

A login that finds an account that is not blocked, with the password of this account, is answered
with a token. So whoever has an account created can log in and go on with the token, and once the
account is blocked or deleted no login is answered with a token for it.
-/

namespace Farado

open Acting Http Relational Steps

/-! ## A closed account -/

section
variable {u : Int} {c : Connection}

/-- Only an update of the account itself can open it. -/
theorem Locked.changes {allowed : Change V1 → Prop} {db db' : Database V1} (h : Locked u db)
    (hchanges : Changes allowed db db')
    (hallowed : ∀ change, allowed change → change ≠ .update Table.user u) : Locked u db' := by
  refine ⟨fun row hrow hid => ?_, h.2.trans (Int.ofNat_le.mpr (hchanges.seq_le .user))⟩
  have hold : row ∈ db.rows .user := by
    refine hchanges.mem_rows hrow (by rw [hid]; exact h.2) fun change hc => ?_
    rw [hid]
    exact ⟨Change.spares_of_cascades onlyCascades_user change, hallowed change hc⟩
  exact h.1 row hold hid

theorem locked_updateIn {userId : Int} {set : UserRow → UserRow}
    (hset : ∀ cols, (set cols).isBlocked = cols.isBlocked) :
    Prog.Within (fun c c' : Connection => Locked u c.db → Locked u c'.db)
      (updateIn .user (some userId) [set]) := by
  refine within_updateIn (fun _ h => h) (fun _ _ _ h h' hc => h' (h hc))
    fun c affected db hupd hlocked => ⟨fun row hrow hid => ?_, ?_⟩
  · obtain ⟨old, hold, hoid, rfl | ⟨-, hcols⟩⟩ := Database.mem_of_updateById hupd hrow
    · exact hlocked.1 row hold hid
    · have hflag : row.cols.isBlocked = old.cols.isBlocked := by
        rw [hcols]
        exact hset old.cols
      rw [hflag]
      exact hlocked.1 old hold (hoid.trans hid)
  · rw [(Database.updateById_eq_some hupd).2.2.1]
    exact hlocked.2

/-- A change of password leaves the flag alone. -/
theorem locked_changePassword (sha256 : Bytes → Bytes) (userId : Int)
    (oldPassword newPassword : Bytes) (h : Locked u c.db) :
    Locked u ((AuthService.changePassword sha256 userId oldPassword newPassword).after c).db := by
  rcases changePassword_within (R := fun c c' => Locked u c.db → Locked u c'.db) sha256 oldPassword
    newPassword c (fun _ h => h) (fun _ _ _ h h' hc => h' (h hc)) (locked_updateIn fun _ => rfl)
    (locked_updateIn fun _ => rfl) with hsame | ⟨-, -, -, hlocked⟩
  · rwa [hsame]
  · exact hlocked h

end

namespace ServiceCall

/-- The call blocks the account or deletes it. -/
def Closes (call : ServiceCall) (u : Int) : Prop :=
  (∃ user, call = .updateUser user ∧ user.id = some u ∧ user.isBlocked = some true) ∨
    call = .deleteUser u

/-- The call opens the account again. -/
def Reopens (call : ServiceCall) (u : Int) : Prop :=
  ∃ user, call = .updateUser user ∧ user.id = some u ∧ user.isBlocked = some false

end ServiceCall

namespace Deployment

variable {D : Deployment} {s : Server} {login password : Bytes}

/-- The right password of an account that is not blocked, whatever the other accounts are. -/
theorem login_of_row {row : Row .user} {user : Dto.User} (hlogin : login ≠ [])
    (hpassword : password ≠ []) (hrow : row ∈ s.connection.db.rows .user) (hid : 0 < row.id)
    (hname : row.cols.login = bindString login)
    (hmap : SqliteUserRepository.mapRowToUser row = .ok user) (hopen : row.cols.isBlocked = 0)
    (hhash : row.cols.passwordHash = D.sha256 password) (hne : D.sha256 password ≠ [])
    (hread : valueString (.text (D.sha256 password)) = .ok (D.sha256 password)) :
    D.login s login password =
      (.ok {
          success := true
          accessToken := AuthService.issuedToken D.jwt D.clock D.secretKey s row.id },
        { s with auth := s.auth.tick }) := by
  have hgiven : ¬ (login.isEmpty || password.isEmpty) = true := by simp [hlogin, hpassword]
  have hfind : (SqliteUserRepository.findByLogin login).result s.connection = .ok (some user) := by
    have hfind? : (s.connection.db.rows .user).find? (fun row => row.cols.login == bindString login) =
        some row := accountNamed_eq_some.mpr ⟨hrow, hname⟩
    unfold SqliteUserRepository.findByLogin
    rw [if_neg (by simpa using hlogin), result_select, hfind?]
    dsimp only
    rw [hmap]
    rfl
  have huser : user = userReader.dtoOf row := ((userReader.mapRow_ok row user).mp hmap).2.2
  have hverify : (AuthService.verifyPassword D.sha256 row.id password).result s.connection =
      .ok true := by
    have hstored : (SqliteUserRepository.passwordHash row.id).result s.connection =
        .ok (D.sha256 password) := by
      unfold SqliteUserRepository.passwordHash Prog.result
      rw [if_neg (by omega), Prog.run_tryCatch, Prog.run_eq, result_select,
        Database.find_eq_some.mpr ⟨hrow, rfl⟩]
      dsimp only
      rw [hhash, hread]
    unfold AuthService.verifyPassword Prog.result
    rw [Prog.run_bind_of_readOnly (AuthService.readOnly_passwordHash row.id), hstored]
    dsimp only
    rw [if_neg (by simpa using hne)]
    show Except.ok (D.sha256 password == D.sha256 password) = _
    rw [beq_self_eq_true]
  unfold Deployment.login AuthService.login
  rw [if_neg hgiven, exec_onDb_bind (AuthService.readOnly_findByLogin login), hfind]
  have hunblocked : ¬ user.isBlocked.getD false = true := by
    rw [huser]
    simp [userReader, hopen]
  have huserId : user.id = some row.id := by
    rw [huser]
    rfl
  dsimp only
  rw [if_neg hunblocked, huserId]
  show (onDb (AuthService.verifyPassword D.sha256 row.id password) >>= _).exec s = _
  rw [exec_onDb_bind (AuthService.readOnly_verifyPassword row.id password), hverify]
  rfl

end Deployment

namespace Site

open Bodies (sendErrorResponse)

variable {site : Site} {s : Server} {a b : Arrival} {login password : Bytes}

/-! ## A login -/

/-- The request is a login with this password. -/
def SignsIn (site : Site) (b : Arrival) (login password : Bytes) : Prop :=
  ∃ route, site.Routes b route ∧ route.handler = .handleLogin ∧
    site.requestObject b AuthRequest.fromJson AuthRequest.fields =
      some { login := some login, password := some password }

/-- The reply with a token. -/
def tokenReply (token : Bytes) : HttpResponse where
  statusCode := statusOk
  body := some (.object [(bytes "access_token", .string token),
    (bytes "token_type", .string (bytes "Bearer")), (bytes "expires_in", .number 3600)])

/-- What the services of the site make up. -/
def deployment (site : Site) : Deployment where
  jwt := site.jwt
  clock := site.clock
  secretKey := site.secretKey
  sha256 := site.sha256
  routes := RestServer.registerRoutes site.set
  hasMiddleware := site.hasMiddleware

/-- What the service says is replied. -/
def signedIn (site : Site) (result : Except Error AuthResult) : HttpResponse :=
  match result with
  | .error e => sendErrorResponse 400 (bytes "Invalid request body: " ++ (site.thrown e).what)
  | .ok authResult =>
      if !authResult.success then sendErrorResponse authResult.errorCode authResult.errorMessage
      else { statusCode := statusOk, body := some (.object
        [(bytes "access_token", .string authResult.accessToken),
          (bytes "token_type", .string authResult.tokenType),
          (bytes "expires_in", .number authResult.expiresIn)]) }

theorem signedIn_token (token : Bytes) :
    site.signedIn (.ok { success := true, accessToken := token }) = tokenReply token := rfl

theorem tokenReply_injective : Function.Injective tokenReply := by
  intro token token' h
  simpa [tokenReply] using h

theorem sendErrorResponse_ne_tokenReply (code : Int) (message token : Bytes) :
    sendErrorResponse code message ≠ tokenReply token := by
  simp [Bodies.sendErrorResponse, tokenReply]

theorem exec_handleRequest_public {route : RouteInfo} (hroute : site.Routes a route)
    (hpublic : route.isPublic = true) :
    (site.handleRequest a).exec s = (site.callHandler a [] route.handler).exec s := by
  obtain ⟨path, id, hpath, hmatch⟩ := hroute
  rw [exec_handleRequest hpath, RestServer.run_handleRequest, hmatch]
  dsimp only
  rw [if_pos hpublic]
  rfl

theorem login_public {set : ServicesSet} {route : RouteInfo}
    (hroute : route ∈ RestServer.registerRoutes set) (h : route.handler = .handleLogin) :
    route.isPublic = true := by
  have hall : ∀ r ∈ RestServer.registerRoutes {}, r.handler = .handleLogin → r.isPublic = true := by
    decide +kernel
  exact hall route ((RestServer.registerRoutes_sublist set).subset hroute) h

theorem exec_handleRequestObject {Request : Type} {fromJson : Json → Request × Bool}
    {fields : Request → RequiredFields} {k : Request → Serving HttpResponse} {x : Request}
    (h : site.requestObject a fromJson fields = some x) :
    (site.handleRequestObject a fromJson fields k).exec s =
      (.ok (recovered ((k x).exec s).1), ((k x).exec s).2) := by
  unfold requestObject at h
  unfold handleRequestObject
  rw [Program.exec_tryCatch]
  cases hbody : site.library.extractJson a.request.body with
  | error e =>
    rw [parsedBody_error hbody] at h
    cases h
  | ok jsonBody =>
    rw [parsedBody_ok hbody] at h
    dsimp only
    cases hjson : site.json.toNlohmannJson jsonBody with
    | error e =>
      rw [hjson] at h
      cases h
    | ok json =>
      rw [hjson] at h
      dsimp only
      cases hvalid : (fields (fromJson json).1).isValid with
      | false => simp [Except.toOption, hvalid] at h
      | true =>
        obtain rfl : (fromJson json).1 = x := by simpa [Except.toOption, hvalid] using h
        rw [if_neg (by simp)]
        rcases (k (fromJson json).1).exec s with ⟨_ | _, s'⟩ <;> rfl

/-- **What a login is answered with**, and what it does. -/
theorem serve_signsIn (h : site.SignsIn b login password) :
    site.response s b = site.signedIn (site.deployment.login s login password).1 ∧
      site.serve s b = (site.deployment.login s login password).2 := by
  obtain ⟨route, hroute, hhandler, hobject⟩ := h
  have hexec : (site.handleRequest b).exec s =
      (.ok (site.signedIn (site.deployment.login s login password).1),
        (site.deployment.login s login password).2) := by
    rw [exec_handleRequest_public hroute (login_public hroute.mem.1 hhandler), hhandler]
    show (AuthHandler.handleLogin site b).exec s = _
    unfold AuthHandler.handleLogin
    rw [exec_handleRequestObject hobject]
    have hknown : ∀ {α β : Type} (x : α) (k : α → Serving β),
        (Program.known (site.value (some x)) >>= k).exec s = (k x).exec s :=
      fun x k => Program.exec_bind_ok (Program.exec_known (.ok x) s)
    have hlogin : (AuthService.login site.jwt site.clock site.secretKey site.sha256 login
        password).exec s = site.deployment.login s login password := rfl
    rw [hknown, hknown, exec_onServer_bind, hlogin]
    generalize site.deployment.login s login password = x
    obtain ⟨result, s'⟩ := x
    cases result with
    | error e => rfl
    | ok authResult =>
      unfold signedIn
      dsimp only
      split <;> rfl
  rw [response_eq]
  unfold serve
  rw [exec_support, hexec]
  exact ⟨rfl, rfl⟩

/-! ## The token of a login -/

section
variable {token : Bytes} {later : List Arrival}

theorem le_readings_run (s : Server) (later : List Arrival) :
    s.auth.readings ≤ (later.foldl site.serve s).auth.readings :=
  run_invariant (I := fun s' : Server => s.auth.readings ≤ s'.auth.readings)
    (fun _ a h => serve_auth (I := fun m => s.auth.readings ≤ m.readings) a
      (fun m op _ hm => hm.trans (AuthMiddleware.le_readings_exec m op)) h) (Nat.le_refl _) later

/-- A token with which nobody logs out stays off the blacklist. -/
theorem blacklist_run_none (hnone : s.auth.blacklist token = none)
    (hlogout : ∀ x ∈ later, ¬ site.LogsOut x token) :
    (later.foldl site.serve s).auth.blacklist token = none := by
  refine (along_of_forall hlogout s).invariant (I := fun s : Server => s.auth.blacklist token = none)
    (fun s x hs hx => ?_) hnone
  refine serve_auth (I := fun m => m.blacklist token = none) x (fun m op hop hm => ?_) hs
  exact AuthMiddleware.exec_blacklist_none hm op fun hinvalidates =>
    absurd (hop token hinvalidates) hx

/-- The token lets every request through as this user until it expires, as long as nobody logs out
with it. -/
def LetsThrough (site : Site) (s : Server) (token : Bytes) (id : Int) : Prop :=
  ∀ (later : List Arrival) (x : Arrival) (header : Bytes), site.hasMiddleware = true →
    x.request.authorization = some header → matchBearer header = some token →
    s.auth.blacklist token = none → (∀ y ∈ later, ¬ site.LogsOut y token) →
    (∀ expiresAt ∈ site.jwt.expiry token,
      site.clock (later.foldl site.serve s).auth.readings ≤ expiresAt) →
    site.Accepts (later.foldl site.serve s) x (AuthService.userIdStr id)

/-- The token of a login does. -/
theorem letsThrough_issued (hjwt : site.jwt.AcceptsSigned) (hclock : NeverBack site.clock)
    (s : Server) (id : Int) :
    site.LetsThrough { s with auth := s.auth.tick }
      (AuthService.issuedToken site.jwt site.clock site.secretKey s id) id := by
  intro later x header hmiddleware hheader hm hnone hlogout hlive
  have hoff := blacklist_run_none hnone hlogout
  have hrun : s.auth.tick.readings ≤
      (later.foldl site.serve { s with auth := s.auth.tick }).auth.readings :=
    le_readings_run { s with auth := s.auth.tick } later
  generalize later.foldl site.serve { s with auth := s.auth.tick } = s' at hlive hoff hrun ⊢
  have hreadings : s.auth.readings ≤ s'.auth.readings := (Nat.le_succ _).trans hrun
  obtain ⟨decoded, hdecoded, huser, hexpires, hverify⟩ :=
    hjwt site.secretKey (AuthService.loginClaims id (site.clock s.auth.readings))
  have hdecodes : site.jwt.decode
      (AuthService.issuedToken site.jwt site.clock site.secretKey s id) = some decoded := hdecoded
  have hissued : (AuthService.loginClaims id (site.clock s.auth.readings)).inSeconds.issuedAt ≤
      site.clock s'.auth.readings := (Int.ediv_mul_le _ (by decide)).trans (hclock hreadings)
  have hend := hlive _ (by unfold Jwt.expiry; rw [hdecodes]; exact hexpires)
  have hverified : site.jwt.verify site.secretKey AuthMiddleware.issuer
      (site.clock s'.auth.readings) decoded = true := hverify _ hissued hend
  refine ⟨hmiddleware, header, hheader, ?_⟩
  rw [AuthMiddleware.accepted_of_blacklist_none hoff hm]
  unfold AuthMiddleware.verifiedAt
  simp only [hdecodes, Option.bind_eq_bind, Option.bind_some, hverified, if_true, huser, hexpires]
  rfl

end

/-- A hash comes back as it was stored. -/
theorem stored_sha256 {sha256 digest : Bytes → Bytes} (hsha256 : sha256 = Crypto.sha256 digest)
    (hdigest : ∀ input, digest input ≠ []) (password : Bytes) :
    sha256 password ≠ [] ∧ bindString (sha256 password) = sha256 password ∧
      valueString (.text (sha256 password)) = .ok (sha256 password) := by
  subst hsha256
  have hcString : cString (Crypto.sha256 digest password) = Crypto.sha256 digest password :=
    cString_eq_self_iff.mpr (Crypto.zero_not_mem_sha256 password)
  refine ⟨Crypto.sha256_ne_nil (hdigest password), hcString, valueString_text_ok.mpr ?_⟩
  rw [hcString]
  exact ⟨Crypto.not_looksLikeDateTime_sha256 password, rfl⟩

/-- Whoever has an account that is not blocked, and its password, can log in and go on. -/
theorem logs_in_of_row {digest : Bytes → Bytes} (hsha256 : site.sha256 = Crypto.sha256 digest)
    (hdigest : ∀ input, digest input ≠ []) (hjwt : site.jwt.AcceptsSigned)
    (hclock : NeverBack site.clock) {row : Row .user} {d : Dto.User} (hlogin : login ≠ [])
    (hpassword : password ≠ []) (hrow : row ∈ s.connection.db.rows .user) (hid : 0 < row.id)
    (hname : row.cols.login = bindString login)
    (hmap : SqliteUserRepository.mapRowToUser row = .ok d) (hopen : row.cols.isBlocked = 0)
    (hhash : row.cols.passwordHash = bindString (site.sha256 password))
    (hsigns : site.SignsIn b login password) :
    ∃ token, site.response s b = tokenReply token ∧
      site.LetsThrough (site.serve s b) token row.id := by
  obtain ⟨hne, hcString, hread⟩ := stored_sha256 hsha256 hdigest password
  have hsignedIn := Deployment.login_of_row (D := site.deployment) (s := s) hlogin hpassword hrow
    hid hname hmap hopen (hhash.trans hcString) hne hread
  obtain ⟨hresponse, hserve⟩ := serve_signsIn (s := s) hsigns
  rw [hsignedIn] at hresponse hserve
  refine ⟨_, hresponse, ?_⟩
  rw [hserve]
  exact letsThrough_issued hjwt hclock s row.id

/-! ## A new account -/

/-- What is inserted for a user. -/
theorem values_of_login {user : Dto.User} {hash : Bytes} {v : UserRow}
    (hvalues : SqliteUserRepository.values user hash = some v) (hlogin : user.login = some login) :
    login ≠ [] ∧ v.login = bindString login ∧ v.passwordHash = bindString hash ∧
      v.isBlocked = bindBool (user.isBlocked.getD false) := by
  simp only [SqliteUserRepository.values, Option.bind_eq_bind, Option.bind_eq_some_iff] at hvalues
  obtain ⟨login', hlogin', _, hne, email, -, _, -, _, -, h⟩ := hvalues
  obtain rfl : login' = login := Option.some.inj (hlogin'.symm.trans hlogin)
  cases h
  exact ⟨by simpa [guard] using hne, rfl, rfl, rfl⟩

/-- What a creation of an account leaves. -/
theorem created_account {user : Dto.User}
    (hcall : site.Commits s a (.createUser user password)) (hlogin : user.login = some login)
    (hstatus : (site.response s a).statusCode = statusCreated) :
    login ≠ [] ∧ password ≠ [] ∧ ∃ row ∈ (site.serve s a).connection.db.rows .user,
      row.id = s.connection.db.nextId .user ∧ row.cols.login = bindString login ∧
      row.cols.passwordHash = bindString (site.sha256 password) ∧
      row.cols.isBlocked = bindBool (user.isBlocked.getD false) ∧
      ∃ d, SqliteUserRepository.mapRowToUser row = .ok d := by
  have hcommitted := committed_eq_some.mpr hcall
  rw [response_of_committed hcommitted] at hstatus
  rw [connection_of_committed hcommitted]
  obtain ⟨d, -, hresult, -⟩ := replied_object (by decide) (by decide) hstatus
  obtain ⟨v, row, hvalues, hrow, hid, rfl, hmap⟩ :=
    @CreateRequest.inserted (.user user password) a.env site.sha256 _ _ hresult
  obtain ⟨hlogin', hname, hhash, hblocked⟩ := values_of_login hvalues hlogin
  refine ⟨hlogin', ?_, row, hrow, hid, hname, hhash, hblocked, d, hmap⟩
  rintro rfl
  have hrefused : UserService.createUser site.sha256 user [] = pure none := by
    unfold UserService.createUser
    rw [if_pos (by simp)]
  change (UserService.createUser site.sha256 user []).result s.connection = _ at hresult
  rw [hrefused] at hresult
  cases hresult

/-- Somebody signs up, and logs in. -/
def accountBodies : List (Bytes × Json) :=
  [(bytes "\x7b\"login\":\"ann\",\"email\":\"ann@example.org\",\"password\":\"Secret123\"\x7d",
      .object [(bytes "email", .string (bytes "ann@example.org")),
        (bytes "login", .string (bytes "ann")), (bytes "password", .string (bytes "Secret123"))]),
    (bytes "\x7b\"login\":\"ann\",\"password\":\"Secret123\"\x7d",
      .object [(bytes "login", .string (bytes "ann")),
        (bytes "password", .string (bytes "Secret123"))]),
    (bytes "\x7b\"login\":\"ann\",\"password\":\"Secret456\"\x7d",
      .object [(bytes "login", .string (bytes "ann")),
        (bytes "password", .string (bytes "Secret456"))]),
    (bytes "\x7b\"login\":\"admin\",\"password\":\"password\"\x7d",
      .object [(bytes "login", .string (bytes "admin")),
        (bytes "password", .string (bytes "password"))])]

/-- Half a minute from reading to reading. -/
def halfMinutes (n : Nat) : Int := (1700000000 + 30 * n) * AuthMiddleware.ticksPerSecond

theorem halfMinutes_neverBack : NeverBack halfMinutes := by
  intro n k h
  unfold halfMinutes AuthMiddleware.ticksPerSecond
  omega

/-- It hashes, and its library knows two tokens. -/
def accountSite : Site :=
  { sampleSite with
    library := { sampleSite.library with
      extractJson := fun body => ((accountBodies ++ sampleBodies).lookup body).elim
        (.error { what := bytes "Syntax error" }) .ok }
    sha256 := Crypto.sha256 Deployment.sampleDigest
    jwt := Jwt.known id sampleTokens
    clock := halfMinutes }

def postAccount : Arrival :=
  sampleArrival RestServer.methodPost "/api/users"
    "\x7b\"login\":\"ann\",\"email\":\"ann@example.org\",\"password\":\"Secret123\"\x7d"

def postLogin : Arrival :=
  sampleArrival RestServer.methodPost "/auth/login"
    "\x7b\"login\":\"ann\",\"password\":\"Secret123\"\x7d"

/-- The second workflow is posted with the token of the login. -/
def postBeta : Arrival :=
  let a := postWorkflow "Beta"
  { a with request := { a.request with authorization := some (bytes "Bearer " ++ laterToken) } }

theorem matchBearer_laterToken : matchBearer (bytes "Bearer " ++ laterToken) = some laterToken := by
  decide +kernel

theorem signsIn_postLogin : accountSite.SignsIn postLogin (bytes "ann") (bytes "Secret123") :=
  ⟨⟨RestServer.methodPost, RestServer.collection "/auth/login", .handleLogin, true⟩,
    ⟨bytes "/auth/login", none, rfl, by decide +kernel⟩, rfl, by decide +kernel⟩

/-- **A new account can be used**: where an account is created that is not blocked, then, as long as
it is not updated or deleted, a login with its password is answered with a token, and with this token
every request is let through as that user until the token expires, as long as nobody logs out with
it. -/
theorem created_logs_in (site : Site) {digest : Bytes → Bytes}
    (hsha256 : site.sha256 = Crypto.sha256 digest) (hdigest : ∀ input, digest input ≠ [])
    (hjwt : site.jwt.AcceptsSigned) (hclock : NeverBack site.clock) (s : Server) (a : Arrival)
    (user : Dto.User) (login password : Bytes)
    (hcall : site.Commits s a (.createUser user password)) (hlogin : user.login = some login)
    (hopen : user.isBlocked.getD false = false)
    (hstatus : (site.response s a).statusCode = statusCreated) (between : List Arrival)
    (hkept : ∀ before x after call, between = before ++ x :: after →
      site.Commits (before.foldl site.serve (site.serve s a)) x call →
        call.change ≠ .update .user (s.connection.db.nextId .user) ∧
          call.change ≠ .delete .user (s.connection.db.nextId .user))
    (b : Arrival) (hsigns : site.SignsIn b login password) :
    let s₁ := between.foldl site.serve (site.serve s a)
    ∃ token, site.response s₁ b = tokenReply token ∧
      site.LetsThrough (site.serve s₁ b) token (s.connection.db.nextId .user) := by
  dsimp only
  obtain ⟨hlogin', hpassword, row, hrow, hid, hname, hhash, hblocked, d, hmap⟩ :=
    created_account hcall hlogin hstatus
  -- the row is still there when the login comes
  have hchanges : Changes (fun change : Change V1 =>
      change ≠ .update Table.user (s.connection.db.nextId .user) ∧
        change ≠ .delete Table.user (s.connection.db.nextId .user))
      (site.serve s a).connection.db
      (between.foldl site.serve (site.serve s a)).connection.db := changes_run hkept
  have hlasts := hchanges.rows_mem hrow fun change h => by
    rw [hid]
    exact ⟨h.1, Change.leaves_of_no_references rfl h.2⟩
  generalize between.foldl site.serve (site.serve s a) = s₁ at hlasts ⊢
  have hpos : 0 < row.id := by
    rw [hid]
    exact Database.nextId_pos _ _
  have hopened : row.cols.isBlocked = 0 := by
    rw [hblocked, hopen]
    rfl
  rw [← hid]
  exact logs_in_of_row hsha256 hdigest hjwt hclock hlogin' hpassword hlasts hpos hname hmap hopened
    hhash hsigns

/-- Ann gets an account, and a workflow later she logs in and goes on with her token. -/
theorem created_logs_in_ann :
    accountSite.response ([postWorkflow "Alpha"].foldl accountSite.serve
        (accountSite.serve sampleStart postAccount)) postLogin = tokenReply laterToken ∧
      accountSite.Accepts (accountSite.serve ([postWorkflow "Alpha"].foldl accountSite.serve
        (accountSite.serve sampleStart postAccount)) postLogin) postBeta (bytes "1") := by
  have hcall : accountSite.Commits sampleStart postAccount
      (.createUser { login := some (bytes "ann"), email := some (bytes "ann@example.org") }
        (bytes "Secret123")) :=
    committed_eq_some.mp (by decide +kernel)
  have hworkflow : accountSite.committed (accountSite.serve sampleStart postAccount)
      (postWorkflow "Alpha") =
        some (.graph (.createWorkflow { caption := some (bytes "Alpha") })) := by
    decide +kernel
  obtain ⟨token, hresponse, haccepts⟩ := created_logs_in accountSite rfl
    Deployment.sampleDigest_ne_nil (Jwt.known_acceptsSigned Deployment.sampleTokens_legible)
    halfMinutes_neverBack sampleStart postAccount _ _ _ hcall rfl rfl (by decide +kernel)
    [postWorkflow "Alpha"] (by
      intro before x after call hbetween hcommits
      cases before with
      | nil =>
        cases hbetween
        cases hworkflow.symm.trans (committed_eq_some.mpr hcommits)
        exact ⟨fun h => (by cases h), fun h => (by cases h)⟩
      | cons y before => simp at hbetween)
    postLogin signsIn_postLogin
  have hlogin : (accountSite.deployment.login ([postWorkflow "Alpha"].foldl accountSite.serve
      (accountSite.serve sampleStart postAccount)) (bytes "ann") (bytes "Secret123")).1 =
        .ok { success := true, accessToken := laterToken } := by
    decide +kernel
  obtain rfl : laterToken = token := by
    apply tokenReply_injective
    rw [← hresponse, (serve_signsIn signsIn_postLogin).1, hlogin, signedIn_token]
  refine ⟨hresponse, ?_⟩
  exact haccepts [] postBeta _ rfl rfl matchBearer_laterToken (by decide +kernel)
    (fun _ h => absurd h List.not_mem_nil) (by decide +kernel)

/-! ## A closed account, request by request -/

/-- A call that has closed the account, and says so, leaves it closed. -/
theorem locked_of_closes {call : ServiceCall} {u : Int} {c : Connection} (hclose : call.Closes u)
    (h : (answered (call.reply (site.host a) c)).statusCode = statusNoContent) :
    Locked u (call.exec (site.host a) c).db := by
  obtain ⟨user, rfl, hid, hblocked⟩ | rfl := hclose
  · have hresult : ∃ d, (UserService.updateUser user).result c = .ok (some d) := by
      change (answered (ServiceCall.updated (site.host a) _ _ _)).statusCode = _ at h
      rcases hres : (UserService.updateUser user).result c with e | _ | d
      · rw [hres] at h
        cases h
      · rw [hres] at h
        cases h
      · exact ⟨d, rfl⟩
    obtain ⟨d, hd⟩ := hresult
    have hcloses : Closes ⟨c, .initial⟩ (.updateUser user) u :=
      .inl ⟨user, d, rfl, hid, hblocked, hd⟩
    exact Deployment.locked_of_closes (D := site.deployment) hcloses
  · have hcloses : Closes ⟨c, .initial⟩ (.deleteUser u) u := .inr ⟨rfl, result_of_deleted h⟩
    exact Deployment.locked_of_closes (D := site.deployment) hcloses

/-- A closed account stays closed until a call opens it. -/
theorem locked_call {call : ServiceCall} {u : Int} {c : Connection} (h : Locked u c.db)
    (hopen : ¬ call.Reopens u) : Locked u (call.exec (site.host a) c).db := by
  by_cases hupdate : call.change = .update .user u
  · cases call with
    | updateUser user =>
      have hevent : ¬ Reopens (.updateUser user) u := by
        rintro ⟨user', heq, hid, hblocked⟩
        cases heq
        exact hopen ⟨user, rfl, hid, hblocked⟩
      exact Deployment.locked_exec (D := site.deployment) (s := ⟨c, .initial⟩) h hevent
    | changePassword userId oldPassword newPassword =>
      exact locked_changePassword site.sha256 userId oldPassword newPassword h
    | graph call => cases call <;> cases hupdate
    | _ => cases hupdate
  · refine h.changes (call.changes (site.host a) c) fun change hchange => ?_
    rw [hchange]
    exact hupdate

theorem locked_run {u : Int} {arrivals : List Arrival} (h : Locked u s.connection.db)
    (hopen : ∀ before x after call, arrivals = before ++ x :: after →
      site.Commits (before.foldl site.serve s) x call → ¬ call.Reopens u) :
    Locked u (arrivals.foldl site.serve s).connection.db := by
  have halong : Along site.serve (fun s x => ∀ call, site.Commits s x call → ¬ call.Reopens u) s
      arrivals :=
    along_of_split fun before x after harrivals call => hopen before x after call harrivals
  refine halong.invariant (I := fun s : Server => Locked u s.connection.db)
    (fun s x hs hx => ?_) h
  rw [connection_serve]
  cases hcall : site.committed s x with
  | none => exact hs
  | some call => exact locked_call hs (hx call (committed_eq_some.mp hcall))

/-- A login that is answered with a token has found an account that is not closed. -/
theorem issued_of_tokenReply {u : Int} {token : Bytes} (hlocked : Locked u s.connection.db)
    (hsigns : site.SignsIn b login password) (htoken : site.response s b = tokenReply token) :
    ∃ user id, (SqliteUserRepository.findByLogin login).result s.connection = .ok (some user) ∧
      user.id = some id ∧ id ≠ u ∧
        token = AuthService.issuedToken site.jwt site.clock site.secretKey s id := by
  rw [(serve_signsIn hsigns).1] at htoken
  rcases site.deployment.login_cases s login password with
    ⟨-, hfails⟩ | ⟨user, id, hfind, -, hid, hlogin⟩
  · cases hresult : (site.deployment.login s login password).1 with
    | error e =>
      rw [hresult] at htoken
      exact absurd htoken (sendErrorResponse_ne_tokenReply _ _ _)
    | ok result =>
      rw [hresult] at htoken
      unfold signedIn at htoken
      dsimp only at htoken
      rw [hfails result hresult] at htoken
      exact absurd htoken (sendErrorResponse_ne_tokenReply _ _ _)
  · have hissues : site.deployment.Issues s (.login login password) id
        (AuthService.issuedToken site.jwt site.clock site.secretKey s id) :=
      ⟨login, password, user, _, rfl, hfind, hid, congrArg Prod.fst hlogin, rfl, rfl⟩
    refine ⟨user, id, hfind, hid, ?_, ?_⟩
    · rintro rfl
      exact Deployment.not_issues_of_locked hlocked hissues
    · rw [hlogin] at htoken
      exact (tokenReply_injective htoken).symm

/-- **A closed account gets no token**: once a request has blocked or deleted an account, no login is
answered with a token for it, until a request opens it again. -/
theorem closed_gets_no_token (site : Site) (s : Server) (a : Arrival) (call : ServiceCall) (u : Int)
    (hcall : site.Commits s a call) (hclose : call.Closes u)
    (hstatus : (site.response s a).statusCode = statusNoContent) (between : List Arrival)
    (hopen : ∀ before x after call', between = before ++ x :: after →
      site.Commits (before.foldl site.serve (site.serve s a)) x call' → ¬ call'.Reopens u)
    (b : Arrival) (login password token : Bytes) (hsigns : site.SignsIn b login password)
    (htoken : site.response (between.foldl site.serve (site.serve s a)) b = tokenReply token) :
    ∃ user id,
      (SqliteUserRepository.findByLogin login).result
          (between.foldl site.serve (site.serve s a)).connection = .ok (some user) ∧
        user.id = some id ∧ id ≠ u ∧
          token = AuthService.issuedToken site.jwt site.clock site.secretKey
            (between.foldl site.serve (site.serve s a)) id := by
  have hcommitted := committed_eq_some.mpr hcall
  rw [response_of_committed hcommitted] at hstatus
  have hlocked : Locked u (site.serve s a).connection.db := by
    rw [connection_of_committed hcommitted]
    exact locked_of_closes hclose hstatus
  exact issued_of_tokenReply (locked_run hlocked hopen) hsigns htoken

/-- A server with two accounts, and the request that deletes the second. -/
def twoAccounts : Server where
  connection := (UserService.createUser accountSite.sha256
    { login := some (bytes "bob"), email := some (bytes "bob@example.org") }
    (bytes "Secret123")).after ((UserService.createUser accountSite.sha256
      { login := some (bytes "ann"), email := some (bytes "ann@example.org") }
      (bytes "Secret123")).after .fresh)
  auth := .initial

def deleteBob : Arrival := sampleArrival RestServer.methodDel "/api/users/2" ""

theorem closed_gets_no_token_bob :
    ∃ user id,
      (SqliteUserRepository.findByLogin (bytes "ann")).result
          ([postWorkflow "Alpha"].foldl accountSite.serve
            (accountSite.serve twoAccounts deleteBob)).connection = .ok (some user) ∧
        user.id = some id ∧ id ≠ 2 ∧
          laterToken = AuthService.issuedToken accountSite.jwt accountSite.clock
            accountSite.secretKey ([postWorkflow "Alpha"].foldl accountSite.serve
              (accountSite.serve twoAccounts deleteBob)) id := by
  have hcall : accountSite.Commits twoAccounts deleteBob (.deleteUser 2) :=
    committed_eq_some.mp (by decide +kernel)
  have hworkflow : accountSite.committed (accountSite.serve twoAccounts deleteBob)
      (postWorkflow "Alpha") =
        some (.graph (.createWorkflow { caption := some (bytes "Alpha") })) := by
    decide +kernel
  have hlogin : (accountSite.deployment.login ([postWorkflow "Alpha"].foldl accountSite.serve
      (accountSite.serve twoAccounts deleteBob)) (bytes "ann") (bytes "Secret123")).1 =
        .ok { success := true, accessToken := laterToken } := by
    decide +kernel
  refine closed_gets_no_token accountSite twoAccounts deleteBob _ 2 hcall (.inr rfl)
    (by decide +kernel) [postWorkflow "Alpha"] ?_ postLogin _ _ laterToken signsIn_postLogin ?_
  · intro before x after call hbetween hcommits
    cases before with
    | nil =>
      cases hbetween
      cases hworkflow.symm.trans (committed_eq_some.mpr hcommits)
      rintro ⟨user, heq, -⟩
      cases heq
    | cons y before => simp at hbetween
  · rw [(serve_signsIn signsIn_postLogin).1, hlogin, signedIn_token]

end Site

end Farado
