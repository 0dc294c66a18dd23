import Farado.Sessions.Blocking
import Farado.Sessions.Logout
import Mathlib

/-!
# Sessions of one user

A token is a function of the user, the second of its login and the key, and the blacklist is keyed
by the token. Sessions of different users or of different seconds are independent of each other; two
logins of one user within a second are given the same token, and the logout of one ends both.
-/

namespace Farado

open Steps

/-! ## The library -/

/-- Signing is a function of the header, the payload and the key. The payload, which is a part of
the token, has its times in whole seconds. -/
def Jwt.SignsSeconds (jwt : Jwt) : Prop :=
  ∀ secret claims claims',
    jwt.sign secret claims = jwt.sign secret claims' ↔ claims.inSeconds = claims'.inSeconds

/-- A signed token is decoded to what was signed, and verifies from its issue to its expiry. -/
def Jwt.AcceptsSigned (jwt : Jwt) : Prop :=
  ∀ secret claims, ∃ decoded, jwt.decode (jwt.sign secret claims) = some decoded ∧
    jwt.userId decoded = some claims.userId ∧
    jwt.expiresAt decoded = some claims.inSeconds.expiresAt ∧
    ∀ now, claims.inSeconds.issuedAt ≤ now → now ≤ claims.inSeconds.expiresAt →
      jwt.verify secret claims.issuer now decoded = true

section
variable {β : Type} [DecidableEq β] {form : Bytes → β} {known : SignedTokens}

theorem Jwt.known_signsSeconds (h : known.Legible form) : (Jwt.known form known).SignsSeconds := by
  intro secret claims claims'
  constructor
  · intro heq
    have hdecoded := congrArg (known.decode form) heq
    simp only [Jwt.known, SignedTokens.decode_encode h] at hdecoded
    exact congrArg Prod.snd (Option.some.inj hdecoded)
  · intro heq
    simp only [Jwt.known, heq]

theorem Jwt.known_acceptsSigned (h : known.Legible form) :
    (Jwt.known form known).AcceptsSigned := by
  intro secret claims
  refine ⟨_, SignedTokens.decode_encode h _, rfl, rfl, fun now hfrom hto => ?_⟩
  have hissuer : claims.inSeconds.issuer = claims.issuer := rfl
  simp [Jwt.known, hfrom, hto, hissuer]

end

namespace AuthService

/-- What a login at this time signs. -/
def loginClaims (id : Int) (time : Int) : JwtClaims where
  type := bytes "JWT"
  issuer := AuthMiddleware.issuer
  userId := userIdStr id
  issuedAt := time
  expiresAt := time + defaultTokenExpiry * AuthMiddleware.ticksPerSecond

/-- The second a time is in. -/
def second (time : Int) : Int := time / AuthMiddleware.ticksPerSecond

theorem userIdStr_inj {id id' : Int} : userIdStr id = userIdStr id' ↔ id = id' := by
  constructor
  · intro h
    exact Int.repr_injective (bytes_injective h)
  · rintro rfl
    rfl

/-- A token names its user and the second of its login, and nothing else that could vary. -/
theorem inSeconds_loginClaims_iff {id id' time time' : Int} :
    (loginClaims id time).inSeconds = (loginClaims id' time').inSeconds ↔
      id = id' ∧ second time = second time' := by
  have hsecond : ∀ a b : Int, a / AuthMiddleware.ticksPerSecond * AuthMiddleware.ticksPerSecond =
      b / AuthMiddleware.ticksPerSecond * AuthMiddleware.ticksPerSecond ↔ second a = second b := by
    unfold second AuthMiddleware.ticksPerSecond
    omega
  have hexpiry : ∀ a b : Int, second a = second b →
      second (a + defaultTokenExpiry * AuthMiddleware.ticksPerSecond) =
        second (b + defaultTokenExpiry * AuthMiddleware.ticksPerSecond) := by
    unfold second AuthMiddleware.ticksPerSecond defaultTokenExpiry
    omega
  simp only [JwtClaims.inSeconds, loginClaims, JwtClaims.mk.injEq, true_and, hsecond, userIdStr_inj]
  constructor
  · rintro ⟨hid, hissued, -⟩
    exact ⟨hid, hissued⟩
  · rintro ⟨hid, hissued⟩
    exact ⟨hid, hissued, hexpiry _ _ hissued⟩

end AuthService

/-! ## Sessions -/

/-- An event and the session it is a part of: a login opens it, a logout ends it. -/
structure SessionEvent (σ : Type) where
  session : σ
  event : Event

namespace Deployment

section
variable {σ : Type} (D : Deployment) (c : Connection)

/-- The server at the end of a run. -/
def runSessions (run : List (SessionEvent σ)) : Server := D.run c (run.map (·.event))

/-- In this run the session was opened, by a login of the user `u` at this time that was given this
token. -/
def Opened (run : List (SessionEvent σ)) (session : σ) (u time : Int) (token : Bytes) : Prop :=
  ∃ before e after, run = before ++ e :: after ∧ e.session = session ∧
    D.Issues (D.runSessions c before) e.event u token ∧
    D.clock (D.runSessions c before).auth.readings = time

end

/-- After `before` comes a logout, which presents this token. -/
def LogsOut {σ : Type} (run before : List (SessionEvent σ)) (e : SessionEvent σ) (token : Bytes) :
    Prop :=
  ∃ after header, run = before ++ e :: after ∧ e.event = .logout (some header) ∧
    matchBearer header = some token

/-- A logout presents the token of its own session, or one that no login of the run was given. -/
def PresentsOwn {σ : Type} (D : Deployment) (c : Connection) (run : List (SessionEvent σ)) : Prop :=
  ∀ before e token, LogsOut run before e token →
    (∃ u time, D.Opened c before e.session u time token) ∨
      ∀ session u time, ¬ D.Opened c run session u time token

/-- Another session of the user, opened in the same second as this one, has logged out. -/
def TwinLogsOut {σ : Type} (D : Deployment) (c : Connection) (run : List (SessionEvent σ))
    (session : σ) (u time : Int) : Prop :=
  ∃ before e token time', LogsOut run before e token ∧ e.session ≠ session ∧
    D.Opened c before e.session u time' token ∧ AuthService.second time' = AuthService.second time

variable {D : Deployment} {c : Connection}

/-- What an event does to the middleware is one of its operations, and only a logout invalidates. -/
theorem auth_exec (s : Server) (event : Event) : (D.exec s event).auth = s.auth ∨
    ∃ op : AuthMiddleware.Op,
      (D.exec s event).auth = op.exec D.jwt D.clock D.secretKey s.auth ∧
      ∀ token, op.Invalidates token →
        ∃ header, event = .logout (some header) ∧ matchBearer header = some token := by
  cases event with
  | login login password =>
    show (D.login s login password).2.auth = s.auth ∨ _
    rcases D.login_cases s login password with ⟨hs, -⟩ | ⟨_, _, -, -, -, hs⟩
    · exact .inl (congrArg Server.auth hs)
    · refine .inr ⟨.generateToken [] 0, congrArg (fun x => x.2.auth) hs, ?_⟩
      rintro token (h | ⟨_, h, -⟩) <;> cases h
  | logout authHeader =>
    refine .inr ⟨.handleLogout authHeader, rfl, ?_⟩
    rintro token (h | ⟨header, h, hm⟩)
    · cases h
    · cases h
      exact ⟨header, rfl, hm⟩
  | createUser user password => exact .inl rfl
  | updateUser user => exact .inl rfl
  | deleteUser id => exact .inl rfl
  | request method path authHeader =>
    have hcheck : ∀ header token,
        (AuthMiddleware.Op.validateRequest header).Invalidates token → False := by
      rintro header token (h | ⟨_, h, -⟩) <;> cases h
    have hrun : (D.exec s (.request method path authHeader)).auth =
        ((RestServer.handleRequest D.jwt D.clock D.secretKey D.routes D.hasMiddleware method path
          authHeader).run s.auth).2 := rfl
    rw [hrun, RestServer.run_handleRequest]
    cases RestServer.matchRoute D.routes method path with
    | none => exact .inl rfl
    | some found =>
      dsimp only
      split
      · exact .inl rfl
      -- the check of a protected route
      rcases RestServer.run_applyAuthMiddleware with
        ⟨reply, hauth, -⟩ | ⟨header, -, hauth⟩
      · rw [hauth]
        exact .inl rfl
      · refine .inr ⟨.validateRequest header, ?_, fun token h => (hcheck header token h).elim⟩
        rw [hauth]
        cases ((AuthMiddleware.validateRequest D.jwt D.clock D.secretKey header).run s.auth).1 <;> rfl

/-- What every operation keeps, every event keeps. -/
theorem auth_run_invariant {I : AuthMiddleware → Prop}
    (hop : ∀ m op, I m → I (AuthMiddleware.Op.exec D.jwt D.clock D.secretKey m op)) {s : Server}
    (hs : I s.auth) (events : List Event) : I (events.foldl D.exec s).auth := by
  refine run_invariant (I := fun s : Server => I s.auth) (fun s event h => ?_) hs events
  rcases auth_exec s event with heq | ⟨op, heq, -⟩
  · rwa [heq]
  · rw [heq]
    exact hop s.auth op h

/-- A token that no logout presents is not on the blacklist. -/
theorem blacklist_run_none {token : Bytes} {events : List Event}
    (h : ∀ event ∈ events, ∀ header, event = .logout (some header) →
      matchBearer header ≠ some token) : (D.run c events).auth.blacklist token = none := by
  refine (along_of_forall h _).invariant (I := fun s : Server => s.auth.blacklist token = none)
    (fun s event hs hevent => ?_) rfl
  rcases auth_exec s event with heq | ⟨op, heq, hinvalidates⟩
  · rwa [heq]
  · rw [heq]
    refine AuthMiddleware.exec_blacklist_none hs op fun hop => ?_
    obtain ⟨header, hlogout, hm⟩ := hinvalidates token hop
    exact absurd hm (hevent header hlogout)

/-- The token that a login is given. -/
theorem token_of_issues {s : Server} {event : Event} {u : Int} {token : Bytes}
    (h : D.Issues s event u token) :
    token = D.jwt.sign D.secretKey (AuthService.loginClaims u (D.clock s.auth.readings)) := by
  obtain ⟨login, password, user, result, rfl, hfind, hid, hres, hsuccess, rfl⟩ := h
  rcases D.login_cases s login password with ⟨-, hfails⟩ | ⟨user', id, hfind', -, hid', hlogin⟩
  · rw [hfails result hres] at hsuccess
    cases hsuccess
  obtain rfl : user' = user := by simpa [hfind] using hfind'.symm
  obtain rfl : id = u := Option.some.inj (hid'.symm.trans hid)
  rw [hlogin] at hres
  cases hres
  rfl

section
variable {σ : Type} {run : List (SessionEvent σ)}

theorem token_of_opened {session : σ} {u time : Int} {token : Bytes}
    (h : D.Opened c run session u time token) :
    token = D.jwt.sign D.secretKey (AuthService.loginClaims u time) := by
  obtain ⟨before, e, after, -, -, hissues, rfl⟩ := h
  exact token_of_issues hissues

/-- Two sessions have the same token exactly when they are of the same user and second. -/
theorem token_eq_iff (hjwt : D.jwt.SignsSeconds) {session session' : σ} {u u' time time' : Int}
    {token token' : Bytes} {run' : List (SessionEvent σ)}
    (h : D.Opened c run session u time token) (h' : D.Opened c run' session' u' time' token') :
    token = token' ↔ u = u' ∧ AuthService.second time = AuthService.second time' := by
  rw [token_of_opened h, token_of_opened h', hjwt, AuthService.inSeconds_loginClaims_iff]

/-- The clock has gone on since a session was opened. -/
theorem time_le_of_opened (hclock : NeverBack D.clock) {session : σ} {u time : Int} {token : Bytes}
    (h : D.Opened c run session u time token) :
    time ≤ D.clock (D.runSessions c run).auth.readings := by
  obtain ⟨before, e, after, rfl, -, -, rfl⟩ := h
  apply hclock
  have hsplit : D.runSessions c (before ++ e :: after) =
      ((e :: after).map (·.event)).foldl D.exec (D.runSessions c before) := by
    unfold runSessions Deployment.run
    rw [List.map_append, List.foldl_append]
  rw [hsplit]
  exact le_readings_foldl _ _

/-- Its token verifies until it expires. -/
theorem verifiedAt_of_opened (hjwt : D.jwt.AcceptsSigned) {session : σ} {u time : Int}
    {token : Bytes} (h : D.Opened c run session u time token) {now : Int} (hfrom : time ≤ now)
    (hlive : ∀ expiresAt ∈ D.jwt.expiry token, now ≤ expiresAt) :
    ∃ jwtToken, AuthMiddleware.verifiedAt D.jwt D.secretKey now token = some jwtToken ∧
      jwtToken.userId = AuthService.userIdStr u := by
  obtain rfl := token_of_opened h
  obtain ⟨decoded, hdecoded, huser, hexpires, hverify⟩ :=
    hjwt D.secretKey (AuthService.loginClaims u time)
  have hissued : (AuthService.loginClaims u time).inSeconds.issuedAt ≤ now :=
    (Int.ediv_mul_le time (by decide)).trans hfrom
  have hend := hlive _ (by unfold Jwt.expiry; rw [hdecoded]; exact hexpires)
  have hverified : D.jwt.verify D.secretKey AuthMiddleware.issuer now decoded = true :=
    hverify now hissued hend
  unfold AuthMiddleware.verifiedAt
  simp only [hdecoded, Option.bind_eq_bind, Option.bind_some, hverified, if_true, huser, hexpires]
  exact ⟨_, rfl, rfl⟩

end

/-- The middleware's answer to a header with this token. -/
def Accepts (D : Deployment) (s : Server) (authHeader : Bytes) (u : Int) : Prop :=
  ((AuthMiddleware.validateRequest D.jwt D.clock D.secretKey authHeader).run s.auth).1 =
    some (AuthService.userIdStr u)

section
variable {σ : Type} {run : List (SessionEvent σ)} {session : σ} {u time : Int} {token : Bytes}

/-- The logout of a twin bars the token. -/
theorem barred_of_twin (hsigns : D.jwt.SignsSeconds) (haccepts : D.jwt.AcceptsSigned)
    (hclock : NeverBack D.clock) (hopened : D.Opened c run session u time token)
    (hlive : ∀ expiresAt ∈ D.jwt.expiry token,
      D.clock (D.runSessions c run).auth.readings ≤ expiresAt)
    (htwin : D.TwinLogsOut c run session u time) :
    AuthMiddleware.Barred D.jwt D.clock token (D.runSessions c run).auth := by
  obtain ⟨before, e, token', time', ⟨after, header, rfl, hlogout, hm⟩, -, htwin, hsecond⟩ := htwin
  obtain rfl : token' = token := (token_eq_iff hsigns htwin hopened).mpr ⟨rfl, hsecond⟩
  have hend : D.runSessions c (before ++ e :: after) =
      (after.map (·.event)).foldl D.exec (D.exec (D.runSessions c before) e.event) := by
    unfold runSessions Deployment.run
    rw [List.map_append, List.foldl_append, List.map_cons, List.foldl_cons]
  -- the token has not expired at the end, so it verifies at its logout
  have hreadings : (D.runSessions c before).auth.readings ≤
      (D.runSessions c (before ++ e :: after)).auth.readings := by
    rw [hend]
    exact (le_readings_exec _ _).trans (le_readings_foldl _ _)
  obtain ⟨jwtToken, hverified, -⟩ := verifiedAt_of_opened haccepts htwin
    (time_le_of_opened hclock htwin) fun expiresAt he => (hclock hreadings).trans (hlive expiresAt he)
  rw [hend]
  refine auth_run_invariant (fun m op h => h.exec op) ?_ _
  rw [hlogout]
  show AuthMiddleware.Barred D.jwt D.clock token'
    ((AuthHandler.handleLogout D.jwt D.clock D.secretKey (some header)).run _).2
  rw [AuthHandler.run_handleLogout, Option.bind_some, hm]
  exact AuthMiddleware.barred_of_invalidateToken hverified

/-- Without one it stays off the blacklist. -/
theorem blacklist_none_of_no_twin (hsigns : D.jwt.SignsSeconds) (hown : D.PresentsOwn c run)
    (hopened : D.Opened c run session u time token)
    (hself : ∀ e ∈ run, e.session = session → ∀ authHeader, e.event ≠ .logout authHeader)
    (htwin : ¬ D.TwinLogsOut c run session u time) :
    (D.runSessions c run).auth.blacklist token = none := by
  refine blacklist_run_none fun event hevent header hlogout hm => htwin ?_
  obtain ⟨e, he, rfl⟩ := List.mem_map.mp hevent
  obtain ⟨before, after, hrun⟩ := List.append_of_mem he
  have hlogs : LogsOut run before e token := ⟨after, header, hrun, hlogout, hm⟩
  rcases hown before e token hlogs with ⟨u', time', htoken⟩ | hforeign
  · obtain ⟨rfl, hsecond⟩ := (token_eq_iff hsigns htoken hopened).mp rfl
    exact ⟨before, e, token, time', hlogs, fun hsame => hself e he hsame _ hlogout, htoken, hsecond⟩
  · exact absurd hopened (hforeign session u time)

end

/-- **Which sessions last**: a session that has not expired and has not logged out is accepted
exactly when no other session of the same user and second has logged out. -/
theorem session_accepted_iff {σ : Type} (D : Deployment) (hsigns : D.jwt.SignsSeconds)
    (haccepts : D.jwt.AcceptsSigned) (hclock : NeverBack D.clock) (c : Connection)
    (run : List (SessionEvent σ)) (hown : D.PresentsOwn c run) (session : σ) (u time : Int)
    (token : Bytes) (hopened : D.Opened c run session u time token)
    (hself : ∀ e ∈ run, e.session = session → ∀ authHeader, e.event ≠ .logout authHeader)
    (hlive : ∀ expiresAt ∈ D.jwt.expiry token,
      D.clock (D.runSessions c run).auth.readings ≤ expiresAt)
    (authHeader : Bytes) (hheader : matchBearer authHeader = some token) :
    D.Accepts (D.runSessions c run) authHeader u ↔ ¬ D.TwinLogsOut c run session u time := by
  constructor
  · intro haccepted htwin
    have hbarred := barred_of_twin hsigns haccepts hclock hopened hlive htwin
    have hrejected : ((AuthMiddleware.validateRequest D.jwt D.clock D.secretKey authHeader).run
        (D.runSessions c run).auth).1 = none := hbarred.rejected_of_live hclock hlive hheader
    rw [Accepts, hrejected] at haccepted
    cases haccepted
  · intro htwin
    have hnone := blacklist_none_of_no_twin hsigns hown hopened hself htwin
    obtain ⟨jwtToken, hverified, huser⟩ := verifiedAt_of_opened haccepts hopened
      (time_le_of_opened hclock hopened) hlive
    unfold Accepts
    rw [AuthMiddleware.accepted_of_blacklist_none hnone hheader, hverified, Option.map_some, huser]

/-- The server with all services, and a library that knows two tokens. -/
def sampleSessions : Deployment := { sample with jwt := Jwt.known id sampleTokens }

/-- The same with a clock that hardly moves. -/
def sampleTwins : Deployment :=
  { sampleSessions with clock := fun n => 1700000000 * AuthMiddleware.ticksPerSecond + n }

/-- A user logs in twice; the second session logs out, with this token. -/
def twoSessions (token : Bytes) : List (SessionEvent Nat) :=
  [⟨0, .createUser { login := some (bytes "ann"), email := some (bytes "ann@example.org") }
      (bytes "secret")⟩,
    ⟨1, .login (bytes "ann") (bytes "secret")⟩,
    ⟨2, .login (bytes "ann") (bytes "secret")⟩,
    ⟨2, .logout (some (bytes "Bearer " ++ token))⟩]

theorem sampleTokens_legible : sampleTokens.Legible id where
  distinct := by decide +kernel
  known_ne_spell := by
    have hzero : ∀ k ∈ sampleTokens, k.2.all (· == 0) = false := by decide +kernel
    intro k hk x heq
    have hall : (SignedTokens.spell x).all (· == 0) = true := by simp [SignedTokens.spell]
    rw [← show k.2 = SignedTokens.spell x from heq, hzero k hk] at hall
    cases hall

/-- A login of the user, on this server. -/
theorem issues_ann {D : Deployment} {s : Server} {token : Bytes}
    (hfind : (SqliteUserRepository.findByLogin (bytes "ann")).result s.connection = .ok (some {
      id := some 1, login := some (bytes "ann"), email := some (bytes "ann@example.org"),
      needChangePassword := some true, isBlocked := some false, isSuperAdmin := some false,
      isHidden := some false }))
    (hlogin : (D.login s (bytes "ann") (bytes "secret")).1 =
      .ok { success := true, accessToken := token }) :
    D.Issues s (.login (bytes "ann") (bytes "secret")) 1 token :=
  ⟨_, _, _, _, rfl, hfind, rfl, hlogin, rfl, rfl⟩

theorem opened_first : sampleSessions.Opened .fresh (twoSessions laterToken) 1 1
    (1700000000 * AuthMiddleware.ticksPerSecond) sampleToken :=
  ⟨(twoSessions laterToken).take 1, _, _, rfl, rfl,
    issues_ann (by decide +kernel) (by decide +kernel), by decide +kernel⟩

theorem opened_second : sampleSessions.Opened .fresh ((twoSessions laterToken).take 3) 2 1
    (1700000060 * AuthMiddleware.ticksPerSecond) laterToken :=
  ⟨(twoSessions laterToken).take 2, _, _, rfl, rfl,
    issues_ann (by decide +kernel) (by decide +kernel), by decide +kernel⟩

/-- The only logout is that of the second session. -/
theorem logsOut_twoSessions {token token' : Bytes} {before : List (SessionEvent Nat)}
    {e : SessionEvent Nat} (h : LogsOut (twoSessions token) before e token') :
    before = (twoSessions token).take 3 ∧ e.session = 2 ∧
      matchBearer (bytes "Bearer " ++ token) = some token' := by
  obtain ⟨after, header, hrun, hlogout, hm⟩ := h
  unfold twoSessions at hrun
  rcases before with _ | ⟨a, _ | ⟨b, _ | ⟨d, _ | ⟨f, rest⟩⟩⟩⟩
  case cons.cons.cons.nil =>
    cases hrun
    cases hlogout
    exact ⟨rfl, rfl, hm⟩
  case cons.cons.cons.cons => simp at hrun
  all_goals
    cases hrun
    cases hlogout

theorem presentsOwn_twoSessions : sampleSessions.PresentsOwn .fresh (twoSessions laterToken) := by
  intro before e token h
  obtain ⟨rfl, hsession, hm⟩ := logsOut_twoSessions h
  have hlater : matchBearer (bytes "Bearer " ++ laterToken) = some laterToken := by decide +kernel
  have htoken : token = laterToken := Option.some.inj (hm.symm.trans hlater)
  rw [hsession, htoken]
  exact .inl ⟨_, _, opened_second⟩

/-- Opened in different seconds, the first session survives the logout of the second. -/
theorem session_accepted_iff_twoSessions :
    ¬ sampleSessions.TwinLogsOut .fresh (twoSessions laterToken) 1 1
      (1700000000 * AuthMiddleware.ticksPerSecond) :=
  (session_accepted_iff sampleSessions (Jwt.known_signsSeconds sampleTokens_legible)
    (Jwt.known_acceptsSigned sampleTokens_legible) sampleClock_neverBack .fresh
    (twoSessions laterToken) presentsOwn_twoSessions 1 1 _ sampleToken opened_first
    (by simp [twoSessions]) (by decide +kernel) sampleHeader matchBearer_sampleHeader).mp
    (by unfold Accepts; decide +kernel)

/-- Opened in one second, the first session ends with the logout of the second. -/
theorem session_ends_with_twin :
    sampleTwins.Opened .fresh (twoSessions sampleToken) 1 1
        (1700000000 * AuthMiddleware.ticksPerSecond) sampleToken ∧
      (∀ e ∈ twoSessions sampleToken, e.session = 1 →
        ∀ authHeader, e.event ≠ .logout authHeader) ∧
      (∀ expiresAt ∈ sampleTwins.jwt.expiry sampleToken,
        sampleTwins.clock (sampleTwins.runSessions .fresh (twoSessions sampleToken)).auth.readings ≤
          expiresAt) ∧
      ¬ sampleTwins.Accepts (sampleTwins.runSessions .fresh (twoSessions sampleToken)) sampleHeader
        1 := by
  refine ⟨⟨(twoSessions sampleToken).take 1, _, _, rfl, rfl,
    issues_ann (by decide +kernel) (by decide +kernel), by decide +kernel⟩,
    by simp [twoSessions], by decide +kernel, ?_⟩
  unfold Accepts
  decide +kernel

end Deployment

end Farado
