import Farado.Api.Reference
import Farado.Api.Routes
import Farado.Lib.Steps.Runs
import Farado.Services.Effects
import Farado.Services.Project

/-!
# What blocking or deleting an account ends

A login looks at the account; a request with a token does not. So from the moment an account is
blocked or deleted no token is issued to it any more, and the tokens it has are accepted for as long
as they would have been: an hour at most, the lifetime of a token.
-/

namespace Farado

open Relational Steps

/-- Everything a running server was set up with. -/
structure Deployment where
  jwt : Jwt
  clock : Nat → Int
  secretKey : Bytes
  sha256 : Bytes → Bytes
  routes : List RouteInfo
  hasMiddleware : Bool

/-- What the outside can make the server do. A `request` is the dispatch up to the handler; what
user handlers then do are the events before it. -/
inductive Event where
  | login (login password : Bytes)
  | logout (authHeader : Option Bytes)
  | createUser (user : Dto.User) (password : Bytes)
  | updateUser (user : Dto.User)
  | deleteUser (id : Int)
  | request (method path : Bytes) (authHeader : Option Bytes)
  deriving DecidableEq, Repr

namespace Deployment

variable (D : Deployment)

/-- A login, with the server it leaves. -/
def login (s : Server) (login password : Bytes) : Except Error AuthResult × Server :=
  (AuthService.login D.jwt D.clock D.secretKey D.sha256 login password).exec s

theorem login_cases (s : Server) (login password : Bytes) :
    (D.login s login password).2 = s ∧
        (∀ result, (D.login s login password).1 = .ok result → result.success = false) ∨
      ∃ user id, (SqliteUserRepository.findByLogin login).result s.connection = .ok (some user) ∧
        user.isBlocked.getD false = false ∧ user.id = some id ∧
        D.login s login password =
          (.ok {
              success := true
              accessToken := AuthService.issuedToken D.jwt D.clock D.secretKey s id },
            { s with auth := s.auth.tick }) :=
  AuthService.login_cases login password s

/-- What becomes of a request. -/
def dispatch (s : Server) (method path : Bytes) (authHeader : Option Bytes) :
    RestServer.Dispatch × AuthMiddleware :=
  (RestServer.handleRequest D.jwt D.clock D.secretKey D.routes D.hasMiddleware method path
    authHeader).run s.auth

/-- The server after an event. -/
def exec (s : Server) : Event → Server
  | .login login password => (D.login s login password).2
  | .logout authHeader =>
      { s with
        auth := ((AuthHandler.handleLogout D.jwt D.clock D.secretKey authHeader).run s.auth).2 }
  | .createUser user password =>
      { s with connection := (UserService.createUser D.sha256 user password).after s.connection }
  | .updateUser user => { s with connection := (UserService.updateUser user).after s.connection }
  | .deleteUser id => { s with connection := (UserService.deleteUser id).after s.connection }
  | .request method path authHeader => { s with auth := (D.dispatch s method path authHeader).2 }

/-- A run of the server on a database, from its start. -/
def run (c : Connection) (events : List Event) : Server :=
  events.foldl D.exec { connection := c, auth := .initial }

/-- The event is a login of the user `u`, and it is given this token. -/
def Issues (s : Server) (event : Event) (u : Int) (token : Bytes) : Prop :=
  ∃ login password user result, event = .login login password ∧
    (SqliteUserRepository.findByLogin login).result s.connection = .ok (some user) ∧
    user.id = some u ∧ (D.login s login password).1 = .ok result ∧ result.success = true ∧
    result.accessToken = token

/-- The request reaches the handler of a route that is not public. -/
def Reaches (s : Server) (method path : Bytes) (authHeader : Option Bytes) : Prop :=
  ∃ route id handler userId, RestServer.matchRoute D.routes method path = some (route, id) ∧
    route.isPublic = false ∧ (D.dispatch s method path authHeader).1 = .call handler userId

end Deployment

/-- The event blocks the user `u` or deletes it, with success. -/
def Closes (s : Server) (event : Event) (u : Int) : Prop :=
  (∃ user d, event = .updateUser user ∧ user.id = some u ∧ user.isBlocked = some true ∧
    (UserService.updateUser user).result s.connection = .ok (some d)) ∨
  event = .deleteUser u ∧ (UserService.deleteUser u).result s.connection = .ok true

/-- The event unblocks the user `u`. -/
def Reopens (event : Event) (u : Int) : Prop :=
  ∃ user, event = .updateUser user ∧ user.id = some u ∧ user.isBlocked = some false

/-! ## The account -/

/-- The account is blocked or does not exist, and will not come into existence. -/
def Locked (u : Int) (db : Database V1) : Prop :=
  (∀ row ∈ db.rows .user, row.id = u → row.cols.isBlocked ≠ 0) ∧ u ≤ db.seq .user

section
variable {u : Int} {c : Connection}

/-- What an update makes of the flag. -/
theorem applyAll_user_isBlocked (user : Dto.User) (row : UserRow) :
    (applyAll (SqliteUserRepository.setClauses user) row).isBlocked =
      match user.isBlocked with
      | some isBlocked => bindBool isBlocked
      | none => row.isBlocked := by
  unfold SqliteUserRepository.setClauses
  simp only [applyAll_append]
  rw [applyAll_setIfPresent_of_ne UserRow.isBlocked, applyAll_setIfPresent_of_ne UserRow.isBlocked,
    applyAll_setIfPresent user.isBlocked]
  · cases user.isBlocked with
    | some isBlocked => rfl
    | none =>
      rw [Option.elim_none]
      repeat rw [applyAll_setIfPresent_of_ne UserRow.isBlocked]
      all_goals intros; rfl
  all_goals intros; rfl

theorem createUser_effect (sha256 : Bytes → Bytes) (user : Dto.User) (password : Bytes) :
    (UserService.createUser sha256 user password).after c = c ∨
      ∃ v rowid db, c.db.insert .user v = some (rowid, db) ∧
        (UserService.createUser sha256 user password).after c =
          { db := db, lastInsertRowid := rowid } := by
  unfold UserService.createUser
  split
  · exact .inl rfl
  have htaken : Prog.ReadOnly (SqliteUserRepository.existsByLogin (user.login.getD [])) :=
    .ite (Prog.readOnly_pure _) (readOnly_anyIn _ _)
  unfold Prog.after
  rw [Prog.run_bind_of_readOnly htaken]
  cases (SqliteUserRepository.existsByLogin (user.login.getD [])).result c with
  | error e => exact .inl rfl
  | ok taken =>
    cases taken with
    | true => exact .inl rfl
    | false =>
      rcases run_createAndFind (fun id => readOnly_findByIdIn _ _ id) rfl with
        hsame | ⟨v, rowid, db, -, hi, hafter⟩
      · exact .inl hsame
      · exact .inr ⟨v, rowid, db, hi, hafter⟩

theorem updateUser_effect (user : Dto.User) :
    (UserService.updateUser user).after c = c ∨
      ∃ i affected db, user.id = some i ∧
        c.db.updateById .user i (applyAll (SqliteUserRepository.setClauses user)) =
          some (affected, db) ∧
        (UserService.updateUser user).after c = { c with db := db } := by
  unfold UserService.updateUser
  split
  · exact .inl rfl
  · next id hid =>
    have h := run_updateAndFind (readOnly_findByIdIn .user SqliteUserRepository.mapRowToUser id)
      (Prog.run_eq (updateAndFind (SqliteUserRepository.update user)
        (SqliteUserRepository.findById id)) c)
    exact h

/-- A successful update has changed a row. -/
theorem updateUser_some {user d : Dto.User}
    (h : (UserService.updateUser user).result c = .ok (some d)) :
    ∃ i affected db, user.id = some i ∧ i ∈ db.ids .user ∧
      c.db.updateById .user i (applyAll (SqliteUserRepository.setClauses user)) =
        some (affected, db) ∧
      (UserService.updateUser user).after c = { c with db := db } := by
  unfold UserService.updateUser at h ⊢
  split at h
  · cases h
  next id hid =>
  have hfind := readOnly_findByIdIn .user SqliteUserRepository.mapRowToUser id
  have hrun := Prog.run_eq (updateAndFind (SqliteUserRepository.update user)
    (SqliteUserRepository.findById id)) c
  rw [h] at hrun
  rcases Prog.run_bind_cases hrun with ⟨done, c₁, hu, hk⟩ | ⟨e, -, he⟩
  · cases done with
    | false => cases hk
    | true =>
      rcases run_updateIn hu with ⟨hfalse, -⟩ | ⟨i, affected, db, hi, -, hupd, -, rfl⟩
      · cases hfalse
      have hk : (findByIdIn .user SqliteUserRepository.mapRowToUser id).run { c with db := db } =
        (.ok (some d), _) := hk
      rw [hfind.run_eq] at hk
      obtain ⟨hres, hafter⟩ := Prod.mk.inj hk
      obtain ⟨-, row, hrow, hrid, -⟩ := result_findByIdIn_some.mp hres
      obtain rfl : id = i := Option.some.inj (hid.symm.trans hi)
      exact ⟨id, affected, db, hid, Database.mem_ids.mpr ⟨row, hrow, hrid⟩, hupd, hafter.symm⟩
  · cases he

theorem Locked.insert {v : UserRow} {rowid : Int} {db : Database V1} (h : Locked u c.db)
    (hi : c.db.insert .user v = some (rowid, db)) : Locked u db := by
  obtain ⟨hrowid, -, -, hseq⟩ := Database.insert_eq_some hi
  refine ⟨?_, ?_⟩
  · intro row hrow hid
    rw [Database.insert_rows_self hi, List.mem_append, List.mem_singleton] at hrow
    rcases hrow with hrow | rfl
    · exact h.1 row hrow hid
    · have hle := h.2
      simp only [hrowid, Database.nextId] at hid
      omega
  · have hle := h.2
    rw [hseq, Function.update_self]
    omega

/-- After an update the flag of an account is what the request says, or what it was. -/
theorem update_isBlocked {user : Dto.User} {i affected : Int} {db : Database V1}
    (hupd : c.db.updateById .user i (applyAll (SqliteUserRepository.setClauses user)) =
      some (affected, db)) {row : Row .user} (hrow : row ∈ db.rows .user) :
    ∃ old ∈ c.db.rows .user, old.id = row.id ∧
      (row.id ≠ i ∧ row = old ∨ row.id = i ∧ row.cols.isBlocked =
        match user.isBlocked with
        | some isBlocked => bindBool isBlocked
        | none => old.cols.isBlocked) := by
  rw [Database.updateById_rows_self hupd] at hrow
  obtain ⟨old, hold, rfl⟩ := List.mem_map.mp hrow
  refine ⟨old, hold, (Database.updateRow_id _ _ _).symm, ?_⟩
  rw [Database.updateRow_id]
  unfold Database.updateRow
  by_cases hid : old.id = i
  · rw [if_pos hid]
    exact .inr ⟨hid, applyAll_user_isBlocked user old.cols⟩
  · rw [if_neg hid]
    exact .inl ⟨hid, rfl⟩

theorem Locked.update {user : Dto.User} {i affected : Int} {db : Database V1} (h : Locked u c.db)
    (hi : user.id = some i) (hopen : ¬ Reopens (.updateUser user) u)
    (hupd : c.db.updateById .user i (applyAll (SqliteUserRepository.setClauses user)) =
      some (affected, db)) : Locked u db := by
  refine ⟨?_, ?_⟩
  · intro row hrow hid
    obtain ⟨old, hold, hoid, ⟨-, rfl⟩ | ⟨hrid, hflag⟩⟩ := update_isBlocked hupd hrow
    · exact h.1 row hold hid
    rw [hflag]
    cases hb : user.isBlocked with
    | none => exact h.1 old hold (hoid.trans hid)
    | some isBlocked =>
      cases isBlocked with
      | true =>
        show bindBool true ≠ 0
        decide
      | false => exact absurd ⟨user, rfl, by rw [hi, ← hrid, hid], hb⟩ hopen
  · rw [(Database.updateById_eq_some hupd).2.2.1]
    exact h.2

theorem Locked.delete (h : Locked u c.db) (i : Int) : Locked u (c.db.deleteById .user i).2 := by
  refine ⟨?_, ?_⟩
  · intro row hrow hid
    exact h.1 row ((Database.deleteWhere_sublist onlyCascades_user).subset hrow) hid
  · rw [Database.deleteById, Database.deleteWhere_seq]
    exact h.2

end

namespace Deployment

variable {D : Deployment} {u : Int} {s : Server}

/-- **What closing an account means.** -/
theorem locked_of_closes {event : Event} (h : Closes s event u) :
    Locked u (D.exec s event).connection.db := by
  rcases h with ⟨user, d, rfl, hid, hblocked, hres⟩ | ⟨rfl, hres⟩
  · obtain ⟨i, affected, db, hi, hmem, hupd, hafter⟩ := updateUser_some hres
    obtain rfl : u = i := Option.some.inj (hid.symm.trans hi)
    show Locked u ((UserService.updateUser user).after s.connection).db
    rw [hafter]
    refine ⟨?_, ?_⟩
    · intro row hrow hrid
      obtain ⟨old, -, -, ⟨hne, -⟩ | ⟨-, hflag⟩⟩ := update_isBlocked hupd hrow
      · exact absurd hrid hne
      rw [hflag, hblocked]
      show bindBool true ≠ 0
      decide
    · obtain ⟨row, hrow, rfl⟩ := Database.mem_ids.mp hmem
      exact db.integral.ids_le_seq .user row hrow
  · show Locked u ((UserService.deleteUser u).after s.connection).db
    have hrun := Prog.run_eq (UserService.deleteUser u) s.connection
    rw [hres] at hrun
    rcases run_removeIn_cases hrun with ⟨hfalse, -⟩ | ⟨-, hr, hafter⟩
    · cases hfalse
    rw [hafter]
    refine ⟨fun row hrow hrid => absurd hrid (Database.id_ne_of_mem_deleteById hrow), ?_⟩
    have hmem : u ∈ s.connection.db.ids .user := by simpa using (Except.ok.inj hr).symm
    obtain ⟨row, hrow, rfl⟩ := Database.mem_ids.mp hmem
    exact s.connection.db.integral.ids_le_seq .user row hrow

/-- **The step lemma**: an account stays closed. -/
theorem locked_exec {event : Event} (h : Locked u s.connection.db) (hopen : ¬ Reopens event u) :
    Locked u (D.exec s event).connection.db := by
  cases event with
  | login login password =>
    show Locked u (D.login s login password).2.connection.db
    rcases D.login_cases s login password with ⟨hs, -⟩ | ⟨_, _, -, -, -, hs⟩
    · rwa [hs]
    · rwa [hs]
  | logout authHeader => exact h
  | createUser user password =>
    show Locked u ((UserService.createUser D.sha256 user password).after s.connection).db
    rcases createUser_effect D.sha256 user password with hs | ⟨v, rowid, db, hi, hs⟩
    · rwa [hs]
    · rw [hs]
      exact h.insert hi
  | updateUser user =>
    show Locked u ((UserService.updateUser user).after s.connection).db
    rcases updateUser_effect user with hs | ⟨i, affected, db, hi, hupd, hs⟩
    · rwa [hs]
    · rw [hs]
      exact h.update hi hopen hupd
  | deleteUser id =>
    show Locked u ((UserService.deleteUser id).after s.connection).db
    rcases run_removeIn_cases (Prog.run_eq (UserService.deleteUser id) s.connection) with
      ⟨-, hs⟩ | ⟨-, -, hs⟩
    · rwa [hs]
    · rw [hs]
      exact h.delete id
  | request method path authHeader => exact h

/-- No login issues a token to a closed account. -/
theorem not_issues_of_locked {event : Event} {token : Bytes} (h : Locked u s.connection.db) :
    ¬ D.Issues s event u token := by
  rintro ⟨login, password, user, result, rfl, hfind, hid, hres, hsuccess, -⟩
  -- a login that succeeds has found the account, and found it not blocked
  rcases D.login_cases s login password with ⟨-, hfails⟩ | ⟨user', id, hfind', hblocked, hid', -⟩
  · rw [hfails result hres] at hsuccess
    cases hsuccess
  obtain rfl : user' = user := by simpa [hfind] using hfind'.symm
  unfold SqliteUserRepository.findByLogin at hfind
  split at hfind
  · cases hfind
  rw [result_select] at hfind
  cases hrow : (s.connection.db.rows .user).find? fun row => row.cols.login == bindString login with
  | none =>
    rw [hrow] at hfind
    cases hfind
  | some row =>
    rw [hrow] at hfind
    obtain ⟨d, hm, hd⟩ : ∃ d, SqliteUserRepository.mapRowToUser row = .ok d ∧ d = user' := by
      cases hm : SqliteUserRepository.mapRowToUser row with
      | error e => simp [hm] at hfind
      | ok d => exact ⟨d, rfl, by simpa [hm] using hfind⟩
    obtain rfl := hd
    rw [((userReader.mapRow_ok _ _).mp hm).2.2] at hid hblocked
    have hrid : row.id = u := Option.some.inj hid
    have hzero : (row.cols.isBlocked != 0) = false := hblocked
    exact h.1 row (List.mem_of_find?_eq_some hrow) hrid (by simpa using hzero)

/-- An issued token ends an hour after its issue, and the issue takes a reading of the clock. -/
theorem expiry_of_issues (hkeeps : D.jwt.KeepsExpiry) {event : Event} {token : Bytes}
    (h : D.Issues s event u token) :
    (D.exec s event).auth.readings = s.auth.readings + 1 ∧
      ∀ expiresAt, D.jwt.expiry token = some expiresAt →
        expiresAt ≤ D.clock s.auth.readings +
          AuthService.defaultTokenExpiry * AuthMiddleware.ticksPerSecond := by
  obtain ⟨login, password, user, result, rfl, -, -, hres, hsuccess, rfl⟩ := h
  rcases D.login_cases s login password with ⟨-, hfails⟩ | ⟨user', id, -, -, -, hlogin⟩
  · rw [hfails result hres] at hsuccess
    cases hsuccess
  refine ⟨?_, ?_⟩
  · show (D.login s login password).2.auth.readings = _
    rw [hlogin]
    rfl
  · intro expiresAt he
    rw [hlogin] at hres
    obtain rfl := Except.ok.inj hres
    exact hkeeps _ _ _ he

/-- The clock only goes forward. -/
theorem le_readings_exec (s : Server) (event : Event) :
    s.auth.readings ≤ (D.exec s event).auth.readings := by
  cases event with
  | login login password =>
    show _ ≤ (D.login s login password).2.auth.readings
    rcases D.login_cases s login password with ⟨hs, -⟩ | ⟨_, _, -, -, -, hs⟩
    · rw [hs]
    · rw [hs]
      exact Nat.le_succ _
  | logout authHeader =>
    show _ ≤ ((AuthHandler.handleLogout D.jwt D.clock D.secretKey authHeader).run s.auth).2.readings
    rw [AuthHandler.run_handleLogout]
    split
    · exact AuthMiddleware.le_readings_invalidateToken _ _ _ _ _
    · exact Nat.le_refl _
  | createUser user password => exact Nat.le_refl _
  | updateUser user => exact Nat.le_refl _
  | deleteUser id => exact Nat.le_refl _
  | request method path authHeader => exact RestServer.le_readings_handleRequest

theorem le_readings_foldl (s : Server) (events : List Event) :
    s.auth.readings ≤ (events.foldl D.exec s).auth.readings :=
  run_invariant (I := fun s' => s.auth.readings ≤ s'.auth.readings)
    (fun s' event h => h.trans (le_readings_exec s' event)) (Nat.le_refl _) events

section
variable {c : Connection} {before after : List Event} {close : Event}

/-- A closed account stays closed until it is reopened. -/
theorem locked_run (hclose : Closes (D.run c before) close u)
    (hopen : ∀ event ∈ after, ¬ Reopens event u) :
    Locked u (D.run c (before ++ close :: after)).connection.db := by
  unfold run
  rw [List.foldl_append, List.foldl_cons]
  exact (along_of_forall hopen _).invariant (I := fun s : Server => Locked u s.connection.db)
    (fun s event h hevent => locked_exec h hevent) (locked_of_closes hclose)

/-- The closing itself is no login. -/
theorem not_issues_of_closes {s' : Server} {token : Bytes} (hclose : Closes s close u) :
    ¬ D.Issues s' close u token := by
  rintro ⟨login, password, _, _, rfl, -⟩
  rcases hclose with ⟨_, _, h, -⟩ | ⟨h, -⟩ <;> cases h

/-- A login that is given a token came before the closing. -/
theorem issued_before (hclose : Closes (D.run c before) close u)
    (hopen : ∀ event ∈ after, ¬ Reopens event u) {issued rest : List Event} {event : Event}
    {token : Bytes} (hsplit : before ++ close :: after = issued ++ event :: rest)
    (hissues : D.Issues (D.run c issued) event u token) :
    ∃ mid, before = issued ++ event :: mid := by
  rcases List.append_eq_append_iff.mp hsplit with ⟨bs, rfl, hrest⟩ | ⟨bs, rfl, hrest⟩
  · -- the login is the closing or comes after it
    cases bs with
    | nil =>
      obtain ⟨rfl, -⟩ := List.cons.inj hrest
      exact absurd hissues (not_issues_of_closes hclose)
    | cons b mid =>
      obtain ⟨rfl, rfl⟩ := List.cons.inj hrest
      have hmid : Locked u (D.run c (before ++ close :: mid)).connection.db :=
        locked_run hclose fun event hevent => hopen event (by simp [hevent])
      exact absurd hissues (not_issues_of_locked hmid)
  · cases bs with
    | nil =>
      obtain ⟨rfl, -⟩ := List.cons.inj hrest
      exact absurd hissues (not_issues_of_closes hclose)
    | cons b mid =>
      obtain ⟨rfl, -⟩ := List.cons.inj hrest
      exact ⟨mid, rfl⟩

/-- An hour after a moment that lies behind its login, a token opens no protected route. -/
theorem not_reaches_of_late (hjwt : D.jwt.RejectsExpired) (hkeeps : D.jwt.KeepsExpiry)
    (hclock : NeverBack D.clock) {issued mid rest : List Event} {event : Event} {token : Bytes}
    (hissues : D.Issues (D.run c issued) event u token) {moment : Int}
    (hmoment : ∀ k < (D.run c (issued ++ event :: mid)).auth.readings, D.clock k ≤ moment)
    (hlate : moment + 3600 * AuthMiddleware.ticksPerSecond <
      D.clock (D.run c (issued ++ event :: mid ++ rest)).auth.readings) {method path header : Bytes}
    (hheader : AuthMiddleware.extractBearerToken header = token) :
    ¬ D.Reaches (D.run c (issued ++ event :: mid ++ rest)) method path (some header) := by
  rintro ⟨route, id, handler, userId, hmatch, hprotected, hcall⟩
  obtain ⟨-, header', hheader', hvalid⟩ :=
    RestServer.handleRequest_protected hmatch hprotected hcall
  obtain rfl := Option.some.inj hheader'
  obtain ⟨hreadings, hexpiry⟩ := expiry_of_issues hkeeps hissues
  -- the reading that the login took is one of those before the moment
  have hbefore : (D.run c issued).auth.readings <
      (D.run c (issued ++ event :: mid)).auth.readings := by
    have := le_readings_foldl (D := D) (D.exec (D.run c issued) event) mid
    rw [hreadings] at this
    unfold run at this ⊢
    rw [List.foldl_append, List.foldl_cons]
    omega
  have hmomentIssue := hmoment _ hbefore
  have hrejected : ((AuthMiddleware.validateRequest D.jwt D.clock D.secretKey header).run
      (D.run c (issued ++ event :: mid ++ rest)).auth).1 = none := by
    apply AuthMiddleware.rejected_of_expired _ hjwt hclock
    intro expiresAt he
    rw [hheader] at he
    have := hexpiry expiresAt he
    unfold AuthService.defaultTokenExpiry at this
    omega
  rw [hrejected] at hvalid
  cases hvalid

/-- The closing changes nothing for requests. -/
theorem reaches_closed_iff (hclose : Closes (D.run c before) close u) {method path : Bytes}
    {authHeader : Option Bytes} :
    D.Reaches (D.run c (before ++ [close])) method path authHeader ↔
      D.Reaches (D.run c before) method path authHeader := by
  have hauth : (D.run c (before ++ [close])).auth = (D.run c before).auth := by
    unfold run
    rw [List.foldl_append]
    rcases hclose with ⟨user, -, rfl, -⟩ | ⟨rfl, -⟩ <;> rfl
  unfold Reaches dispatch
  rw [hauth]

end

/-- **An account that was closed.** After an account has been blocked or deleted, no login issues a
token to it until it is unblocked. The tokens issued to it before are accepted right after that
moment as they were right before it, and none is accepted later than an hour after it. -/
theorem closed_account (D : Deployment) (hjwt : D.jwt.RejectsExpired) (hkeeps : D.jwt.KeepsExpiry)
    (hclock : NeverBack D.clock) (c : Connection) (before : List Event) (close : Event) (u : Int)
    (hclose : Closes (D.run c before) close u) (after : List Event)
    (hopen : ∀ event ∈ after, ¬ Reopens event u) :
    (∀ issued event rest token, before ++ close :: after = issued ++ event :: rest →
      D.Issues (D.run c issued) event u token →
      issued.length < before.length ∧
        ∀ moment, (∀ k < (D.run c before).auth.readings, D.clock k ≤ moment) →
          moment + 3600 * AuthMiddleware.ticksPerSecond <
            D.clock (D.run c (before ++ close :: after)).auth.readings →
          ∀ method path header, AuthMiddleware.extractBearerToken header = token →
            ¬ D.Reaches (D.run c (before ++ close :: after)) method path (some header)) ∧
    ∀ method path authHeader, D.Reaches (D.run c (before ++ [close])) method path authHeader ↔
      D.Reaches (D.run c before) method path authHeader := by
  refine ⟨?_, fun method path authHeader => reaches_closed_iff hclose⟩
  intro issued event rest token hsplit hissues
  obtain ⟨mid, rfl⟩ := issued_before hclose hopen hsplit hissues
  refine ⟨by simp, ?_⟩
  intro moment hmoment hlate method path header hheader
  exact not_reaches_of_late hjwt hkeeps hclock hissues hmoment hlate hheader

/-- A server with all services. -/
def sample : Deployment where
  jwt := sampleJwt
  clock := sampleClock
  secretKey := sampleSecret
  sha256 := id
  routes := RestServer.registerRoutes {}
  hasMiddleware := true

/-- A user is created and logs in. -/
def sampleBefore : List Event :=
  [.createUser { login := some (bytes "ann"), email := some (bytes "ann@example.org") }
      (bytes "secret"),
    .login (bytes "ann") (bytes "secret")]

def sampleClose : Event := .updateUser { id := some 1, isBlocked := some true }

theorem closes_sample : Closes (sample.run .fresh sampleBefore) sampleClose 1 :=
  .inl ⟨_, {
    id := some 1, login := some (bytes "ann"), email := some (bytes "ann@example.org"),
    needChangePassword := some true, isBlocked := some true, isSuperAdmin := some false,
    isHidden := some false }, rfl, rfl, rfl, by decide +kernel⟩

theorem findByLogin_sample :
    (SqliteUserRepository.findByLogin (bytes "ann")).result
        (sample.run .fresh (sampleBefore.take 1)).connection =
      .ok (some {
        id := some 1, login := some (bytes "ann"), email := some (bytes "ann@example.org"),
        needChangePassword := some true, isBlocked := some false, isSuperAdmin := some false,
        isHidden := some false }) := by
  decide +kernel

theorem login_sample :
    (sample.login (sample.run .fresh (sampleBefore.take 1)) (bytes "ann") (bytes "secret")).1 =
      .ok { success := true, accessToken := sampleToken } := by
  decide +kernel

theorem issues_sample :
    sample.Issues (sample.run .fresh (sampleBefore.take 1)) (.login (bytes "ann") (bytes "secret")) 1
      sampleToken :=
  ⟨_, _, _, _, rfl, findByLogin_sample, rfl, login_sample, rfl, by dsimp only⟩

/-- An hour later the blocked user's token is rejected. -/
theorem closed_account_sample :
    ¬ sample.Reaches (sample.run .fresh (sampleBefore ++ sampleClose ::
      List.replicate 61 (.logout (some (bytes "Bearer x"))))) (bytes "GET") (bytes "/api/users")
        (some sampleHeader) :=
  ((closed_account sample (Jwt.single_rejectsExpired _ _ _) sampleJwt_keepsExpiry
    sampleClock_neverBack .fresh sampleBefore sampleClose 1 closes_sample
    (List.replicate 61 (.logout (some (bytes "Bearer x")))) (by
      intro event hevent
      rw [List.eq_of_mem_replicate hevent]
      rintro ⟨_, ⟨⟩, -⟩)).1 (sampleBefore.take 1) _ _ sampleToken rfl issues_sample).2
    (sampleClock 0) (by
      have hreadings : (sample.run .fresh sampleBefore).auth.readings = 1 := by decide +kernel
      intro k hk
      exact sampleClock_neverBack (by omega)) (by decide +kernel) _ _ _ (by
      rw [AuthMiddleware.extractBearerToken, matchBearer_sampleHeader, Option.getD_some])

/-- **Right after the blocking it is accepted**: the request reaches the handler. -/
theorem closed_account_reaches :
    Closes (sample.run .fresh sampleBefore) sampleClose 1 ∧
      sample.Issues (sample.run .fresh (sampleBefore.take 1))
        (.login (bytes "ann") (bytes "secret")) 1 sampleToken ∧
      sample.Reaches (sample.run .fresh (sampleBefore ++ [sampleClose])) (bytes "GET")
        (bytes "/api/users") (some sampleHeader) :=
  ⟨closes_sample, issues_sample,
    { method := bytes "GET", pathPattern := RestServer.collection "/api/users",
      handler := .handleGetUsers }, none, .handleGetUsers, bytes "1", by decide +kernel, rfl,
    by decide +kernel⟩

end Deployment

end Farado
