import Farado.Common.Crypto
import Farado.Repositories.Readers
import Farado.Sessions.Blocking

/-!
# Passwords

What a login accepts, and what a change of password changes: the hash and the flag of one row, and
with them the outcome of the logins of one user under two passwords.
-/

namespace Farado

open Relational Steps

/-- Users as the repository reads and writes them: no stored text is shaped like a date or cut short
by a NUL, and AUTOINCREMENT has given out the ids. -/
structure UsersTable (db : Database V1) : Prop where
  ids_pos : ∀ row ∈ db.rows .user, 0 < row.id
  texts : ∀ row ∈ db.rows .user, ∀ text ∈ some row.cols.passwordHash :: userReader.columnTexts row,
    ∀ b ∈ text, 0 ∉ b ∧ looksLikeDateTime b = false

/-- The account with a login. -/
def accountNamed (db : Database V1) (login : Bytes) : Option (Row .user) :=
  (db.rows .user).find? fun row => row.cols.login == bindString login

section
variable {c : Connection} {row : Row .user}

theorem accountNamed_eq_some {db : Database V1} {login : Bytes} :
    accountNamed db login = some row ↔
      row ∈ db.rows .user ∧ row.cols.login = bindString login := by
  constructor
  · intro h
    exact ⟨List.mem_of_find?_eq_some h, by simpa using List.find?_some h⟩
  · rintro ⟨hrow, hlogin⟩
    cases h : accountNamed db login with
    | none =>
      have := List.find?_eq_none.mp h row hrow
      simp [hlogin] at this
    | some row' =>
      have hrow' : row' ∈ db.rows .user := List.mem_of_find?_eq_some h
      have hlogin' : row'.cols.login = bindString login := by simpa using List.find?_some h
      -- two accounts do not have one login
      by_contra hne
      have hconflict := db.integral.no_conflict hrow' hrow fun heq => hne (congrArg some heq)
      simp [conflict, hlogin, hlogin'] at hconflict

namespace UsersTable

theorem cString_eq (h : UsersTable c.db) (hrow : row ∈ c.db.rows .user) {text : Option Bytes}
    (htext : text ∈ some row.cols.passwordHash :: userReader.columnTexts row) {b : Bytes}
    (hb : b ∈ text) : cString b = b ∧ looksLikeDateTime (cString b) = false := by
  obtain ⟨hzero, hdate⟩ := h.texts row hrow text htext b hb
  have hcString := cString_eq_self_iff.mpr hzero
  exact ⟨hcString, by rwa [hcString]⟩

theorem mapRow_eq (h : UsersTable c.db) (hrow : row ∈ c.db.rows .user) :
    userReader.mapRow row = .ok (userReader.dtoOf row) := by
  refine (userReader.mapRow_ok row _).mpr ⟨?_, by simp [userReader], rfl⟩
  intro text htext b hb
  exact (h.cString_eq hrow (List.mem_cons_of_mem _ htext) hb).2

theorem result_findByLogin (h : UsersTable c.db) {login : Bytes} (hlogin : login ≠ []) :
    (SqliteUserRepository.findByLogin login).result c =
      .ok ((accountNamed c.db login).map userReader.dtoOf) := by
  unfold SqliteUserRepository.findByLogin
  have hfind : (c.db.rows .user).find? (fun row => row.cols.login == bindString login) =
    accountNamed c.db login := rfl
  rw [if_neg (by simpa using hlogin), result_select, hfind]
  cases haccount : accountNamed c.db login with
  | none => rfl
  | some row =>
    show some <$> userReader.mapRow row = _
    rw [h.mapRow_eq (accountNamed_eq_some.mp haccount).1]
    rfl

theorem result_passwordHash (h : UsersTable c.db) (hrow : row ∈ c.db.rows .user) :
    (SqliteUserRepository.passwordHash row.id).result c = .ok row.cols.passwordHash := by
  obtain ⟨hcString, hdate⟩ := h.cString_eq hrow List.mem_cons_self rfl
  have hread : valueString (.text row.cols.passwordHash) = .ok row.cols.passwordHash :=
    valueString_text_ok.mpr ⟨hdate, hcString.symm⟩
  have hid := h.ids_pos row hrow
  unfold SqliteUserRepository.passwordHash Prog.result
  rw [if_neg (by omega), Prog.run_tryCatch, Prog.run_eq, result_select,
    Database.find_eq_some.mpr ⟨hrow, rfl⟩]
  dsimp only
  rw [hread]

theorem result_verifyPassword {sha256 : Bytes → Bytes} (hsha256 : ∀ p, sha256 p ≠ [])
    (h : UsersTable c.db) (hrow : row ∈ c.db.rows .user) (password : Bytes) :
    (AuthService.verifyPassword sha256 row.id password).result c =
      .ok (decide (row.cols.passwordHash = sha256 password)) := by
  have hhash : Prog.ReadOnly (SqliteUserRepository.passwordHash row.id) :=
    AuthService.readOnly_passwordHash row.id
  unfold AuthService.verifyPassword Prog.result
  rw [Prog.run_bind_of_readOnly hhash, h.result_passwordHash hrow]
  dsimp only
  by_cases hempty : row.cols.passwordHash = []
  · -- an empty hash is nobody's
    rw [hempty, decide_eq_false fun heq => hsha256 password heq.symm]
    rfl
  · rw [if_neg (by simpa using hempty)]
    show Except.ok (sha256 password == row.cols.passwordHash) = _
    rw [Except.ok.injEq, Bool.eq_iff_iff, beq_iff_eq, decide_eq_true_eq]
    exact eq_comm

end UsersTable

/-! ## Changing one column -/

/-- An UPDATE of a column that is in no key goes through, and changes that row alone. -/
theorem run_updateUserColumn {f : UserRow → UserRow} (hlogin : ∀ cols, (f cols).login = cols.login)
    (hemail : ∀ cols, (f cols).email = cols.email) (id : Int) (c : Connection) :
    ∃ db, (updateIn .user (some id) [f]).run c =
        (.ok (decide (id ∈ c.db.ids .user)), { c with db := db }) ∧
      db.rows .user = (c.db.rows .user).map (Database.updateRow id f) ∧
      ∀ t, t ≠ .user → db.rows t = c.db.rows t := by
  have hadmits : c.db.admitsUpdate .user id f = true := by
    refine Database.admitsUpdate_of_keeps (fun _ => rfl) ?_ (by simp [foreignKeys])
    intro cols cols'
    show ((f cols).login == cols'.login || (f cols).email == cols'.email) = _
    rw [hlogin, hemail]
    rfl
  obtain ⟨affected, db, hupd⟩ : ∃ affected db, c.db.updateById .user id f = some (affected, db) := by
    unfold Database.updateById
    rw [dif_pos hadmits]
    exact ⟨_, _, rfl⟩
  have hrun : (updateIn .user (some id) [f]).run c =
      (.ok (decide (0 < affected)), { c with db := db }) := by
    have happly : applyAll [f] = f := rfl
    rw [run_updateIn_some (List.cons_ne_nil f []) c, happly, hupd]
  obtain ⟨-, -, -, haffected⟩ := Database.updateById_eq_some hupd
  rw [decide_eq_decide.mpr haffected] at hrun
  exact ⟨db, hrun, Database.updateById_rows_self hupd,
    fun t ht => Database.updateById_rows_of_ne hupd ht⟩

/-- What a change of password writes: the hash, and that it need not be changed. -/
def withPassword (passwordHash : Bytes) (cols : UserRow) : UserRow :=
  { cols with passwordHash, needChangePassword := 0 }

/-- The two UPDATEs of `changePassword`. -/
theorem run_updatePassword {hash : Bytes} (hempty : hash ≠ []) (hzero : 0 ∉ hash)
    (hid : 0 < row.id) (hrow : row ∈ c.db.rows .user) :
    ∃ c₁ db, (SqliteUserRepository.updatePassword row.id hash).run c = (.ok true, c₁) ∧
      (SqliteUserRepository.updateNeedChangePassword row.id false).run c₁ =
        (.ok true, { c with db := db }) ∧
      db.rows .user = (c.db.rows .user).map (Database.updateRow row.id (withPassword hash)) ∧
      ∀ t, t ≠ .user → db.rows t = c.db.rows t := by
  have hmem : row.id ∈ c.db.ids .user := Database.mem_ids.mpr ⟨row, hrow, rfl⟩
  obtain ⟨db₁, hrun₁, hrows₁, htables₁⟩ := run_updateUserColumn (fun _ => rfl) (fun _ => rfl)
    (f := fun cols => { cols with passwordHash := bindString hash }) row.id c
  have hmem₁ : row.id ∈ db₁.ids .user := by
    have hids : db₁.ids .user = c.db.ids .user := by
      unfold Database.ids
      rw [hrows₁, List.map_map]
      exact List.map_congr_left fun _ _ => Database.updateRow_id _ _ _
    rwa [hids]
  obtain ⟨db₂, hrun₂, hrows₂, htables₂⟩ := run_updateUserColumn (fun _ => rfl) (fun _ => rfl)
    (f := fun cols => { cols with needChangePassword := bindBool false }) row.id { c with db := db₁ }
  refine ⟨{ c with db := db₁ }, db₂, ?_, ?_, ?_, fun t ht => (htables₂ t ht).trans (htables₁ t ht)⟩
  · unfold SqliteUserRepository.updatePassword
    rw [if_neg (by simp [hempty, hid]), hrun₁, decide_eq_true hmem]
  · unfold SqliteUserRepository.updateNeedChangePassword
    rw [if_neg (by omega), hrun₂, decide_eq_true hmem₁]
  · rw [hrows₂]
    show (db₁.rows .user).map _ = _
    rw [hrows₁, List.map_map]
    refine List.map_congr_left fun r _ => ?_
    have hbind : bindString hash = hash := cString_eq_self_iff.mpr hzero
    rw [Function.comp_apply, hbind]
    unfold Database.updateRow withPassword bindBool
    split <;> simp

/-- **What a change of password does.** Either it changes nothing and does not succeed, or it has
checked the old password and replaced it. -/
theorem changePassword_cases {sha256 : Bytes → Bytes}
    (hsha256 : ∀ p, sha256 p ≠ [] ∧ 0 ∉ sha256 p) (h : UsersTable c.db) (userId : Int)
    (oldPassword newPassword : Bytes) :
    (∃ r, (AuthService.changePassword sha256 userId oldPassword newPassword).run c = (r, c) ∧
        ∀ result, r = .ok result → result.success = false) ∨
      ∃ row ∈ c.db.rows .user, ∃ db, row.id = userId ∧ newPassword ≠ [] ∧
        oldPassword ≠ newPassword ∧ row.cols.passwordHash = sha256 oldPassword ∧
        (AuthService.changePassword sha256 userId oldPassword newPassword).run c =
          (.ok { success := true }, { c with db := db }) ∧
        db.rows .user =
          (c.db.rows .user).map (Database.updateRow userId (withPassword (sha256 newPassword))) ∧
        ∀ t, t ≠ .user → db.rows t = c.db.rows t := by
  generalize hrun : (AuthService.changePassword sha256 userId oldPassword newPassword).run c = x
  -- every error reply leaves the connection as it was
  have hgiveUp : ∀ {r : Except Error ChangePasswordResult}, (r, c) = x →
      (∀ result, r = .ok result → result.success = false) →
      ∃ r, x = (r, c) ∧ ∀ result, r = .ok result → result.success = false :=
    fun hx hr => ⟨_, hx.symm, hr⟩
  unfold AuthService.changePassword at hrun
  split at hrun
  · exact .inl (hgiveUp hrun (by rintro _ ⟨⟩; rfl))
  next hpasswords =>
  have hfindById : Prog.ReadOnly (SqliteUserRepository.findById userId) :=
    readOnly_findByIdIn _ _ userId
  rw [Prog.run_bind_of_readOnly hfindById] at hrun
  cases hfind : (SqliteUserRepository.findById userId).result c with
  | error e =>
    rw [hfind] at hrun
    exact .inl (hgiveUp hrun (by rintro _ ⟨⟩))
  | ok found =>
    rw [hfind] at hrun
    cases found with
    | none => exact .inl (hgiveUp hrun (by rintro _ ⟨⟩; rfl))
    | some user =>
      obtain ⟨hid, row, hrow, rfl, -⟩ := result_findByIdIn_some.mp hfind
      dsimp only at hrun
      rw [Prog.run_bind_of_readOnly (AuthService.readOnly_verifyPassword row.id oldPassword),
        h.result_verifyPassword (fun p => (hsha256 p).1) hrow] at hrun
      by_cases hold : row.cols.passwordHash = sha256 oldPassword
      swap
      · rw [decide_eq_false hold] at hrun
        exact .inl (hgiveUp hrun (by rintro _ ⟨⟩; rfl))
      rw [decide_eq_true hold] at hrun
      dsimp only at hrun
      rw [if_neg (by simp)] at hrun
      split at hrun
      · exact .inl (hgiveUp hrun (by rintro _ ⟨⟩; rfl))
      next hne =>
      split at hrun
      · exact .inl (hgiveUp hrun (by rintro _ ⟨⟩; rfl))
      -- the old password is right and the new one is good enough
      obtain ⟨c₁, db, hrun₁, hrun₂, hrows, htables⟩ :=
        run_updatePassword (hsha256 newPassword).1 (hsha256 newPassword).2 hid hrow
      rw [Prog.run_bind_ok hrun₁, if_neg (by simp), Prog.run_bind_ok hrun₂] at hrun
      refine .inr ⟨row, hrow, db, rfl, ?_, by simpa using hne, hold, hrun.symm, hrows, htables⟩
      intro hnil
      simp [hnil] at hpasswords

theorem accountNamed_map {db db' : Database V1} {id : Int} {hash : Bytes}
    (h : db'.rows .user = (db.rows .user).map (Database.updateRow id (withPassword hash)))
    (login : Bytes) :
    accountNamed db' login =
      (accountNamed db login).map (Database.updateRow id (withPassword hash)) := by
  unfold accountNamed
  rw [h, List.find?_map]
  congr 2
  funext r
  have hlogin : (Database.updateRow id (withPassword hash) r).cols.login = r.cols.login := by
    unfold Database.updateRow
    split <;> rfl
  rw [Function.comp_apply, hlogin]

/-- A hash is a text like any other. -/
theorem UsersTable.map {db db' : Database V1} {id : Int} {hash : Bytes} (h : UsersTable db)
    (hhash : 0 ∉ hash ∧ looksLikeDateTime hash = false)
    (hrows : db'.rows .user = (db.rows .user).map (Database.updateRow id (withPassword hash))) :
    UsersTable db' := by
  constructor
  case ids_pos =>
    intro row hrow
    rw [hrows] at hrow
    obtain ⟨r, hr, rfl⟩ := List.mem_map.mp hrow
    rw [Database.updateRow_id]
    exact h.ids_pos r hr
  case texts =>
    intro row hrow text htext b hb
    rw [hrows] at hrow
    obtain ⟨r, hr, rfl⟩ := List.mem_map.mp hrow
    have hother : userReader.columnTexts (Database.updateRow id (withPassword hash) r) =
        userReader.columnTexts r := by
      unfold Database.updateRow
      split <;> rfl
    rw [hother] at htext
    rcases List.mem_cons.mp htext with rfl | htext
    · cases hb
      unfold Database.updateRow
      split
      · exact hhash
      · exact h.texts r hr _ List.mem_cons_self _ rfl
    · exact h.texts r hr text (List.mem_cons_of_mem _ htext) b hb

end

namespace Deployment

variable (D : Deployment)

/-- A change of password, with the server it leaves. -/
def changePassword (s : Server) (userId : Int) (oldPassword newPassword : Bytes) :
    Except Error ChangePasswordResult × Server :=
  (onDb (AuthService.changePassword D.sha256 userId oldPassword newPassword)).exec s

/-- The login succeeds. -/
def Admits (s : Server) (login password : Bytes) : Prop :=
  ∃ result, (D.login s login password).1 = .ok result ∧ result.success = true

/-- The change of password succeeds. -/
def Changes (s : Server) (userId : Int) (oldPassword newPassword : Bytes) : Prop :=
  ∃ result, (D.changePassword s userId oldPassword newPassword).1 = .ok result ∧
    result.success = true

variable {D} {s : Server} {login password : Bytes}

theorem login_of_empty (h : login = [] ∨ password = []) :
    D.login s login password =
      (.ok { errorMessage := bytes "Login and password are required", errorCode := 400 }, s) := by
  have hempty : (login.isEmpty || password.isEmpty) = true := by simpa using h
  unfold Deployment.login AuthService.login
  rw [if_pos hempty]
  rfl

/-- **What decides about a login.** -/
theorem login_eq (hsha256 : ∀ p, D.sha256 p ≠ []) (h : UsersTable s.connection.db)
    (hlogin : login ≠ []) (hpassword : password ≠ []) :
    D.login s login password =
      (accountNamed s.connection.db login).elim
        (.ok { errorMessage := bytes "Invalid credentials", errorCode := 401 }, s) fun row =>
          if row.cols.isBlocked ≠ 0 then
            (.ok { errorMessage := bytes "Account is blocked", errorCode := 403 }, s)
          else if row.cols.passwordHash = D.sha256 password then
            (.ok {
                success := true
                accessToken := AuthService.issuedToken D.jwt D.clock D.secretKey s row.id },
              { s with auth := s.auth.tick })
          else (.ok { errorMessage := bytes "Invalid credentials", errorCode := 401 }, s) := by
  have hgiven : ¬ (login.isEmpty || password.isEmpty) = true := by simp [hlogin, hpassword]
  unfold Deployment.login AuthService.login
  rw [if_neg hgiven, exec_onDb_bind (AuthService.readOnly_findByLogin login),
    h.result_findByLogin hlogin]
  cases haccount : accountNamed s.connection.db login with
  | none => rfl
  | some row =>
    have hrow := (accountNamed_eq_some.mp haccount).1
    rw [Option.elim_some]
    by_cases hblocked : row.cols.isBlocked = 0
    · rw [if_neg (by simpa using hblocked)]
      have hopen : ¬ (userReader.dtoOf row).isBlocked.getD false = true := by
        simp [userReader, hblocked]
      dsimp only [Option.map_some]
      rw [if_neg hopen]
      show (onDb (AuthService.verifyPassword D.sha256 row.id password) >>= _).exec s = _
      rw [exec_onDb_bind (AuthService.readOnly_verifyPassword row.id password),
        h.result_verifyPassword hsha256 hrow]
      by_cases hhash : row.cols.passwordHash = D.sha256 password
      · rw [if_pos hhash, decide_eq_true hhash]
        rfl
      · rw [if_neg hhash, decide_eq_false hhash]
        rfl
    · rw [if_pos hblocked]
      have hclosed : (userReader.dtoOf row).isBlocked.getD false = true := by
        simp [userReader, hblocked]
      dsimp only [Option.map_some]
      rw [if_pos hclosed]
      rfl

/-- Whom a login lets in. -/
theorem admits_iff (hsha256 : ∀ p, D.sha256 p ≠ []) (h : UsersTable s.connection.db) :
    D.Admits s login password ↔ login ≠ [] ∧ password ≠ [] ∧
      ∃ row ∈ s.connection.db.rows .user, row.cols.login = bindString login ∧
        row.cols.isBlocked = 0 ∧ row.cols.passwordHash = D.sha256 password := by
  unfold Admits
  by_cases hempty : login = [] ∨ password = []
  · rw [login_of_empty hempty]
    constructor
    · rintro ⟨result, hresult, hsuccess⟩
      cases hresult
      cases hsuccess
    · rintro ⟨hlogin, hpassword, -⟩
      exact absurd hempty (by simp [hlogin, hpassword])
  obtain ⟨hlogin, hpassword⟩ := not_or.mp hempty
  rw [login_eq hsha256 h hlogin hpassword]
  constructor
  · rintro ⟨result, hresult, hsuccess⟩
    refine ⟨hlogin, hpassword, ?_⟩
    cases haccount : accountNamed s.connection.db login with
    | none =>
      rw [haccount] at hresult
      cases hresult
      cases hsuccess
    | some row =>
      obtain ⟨hrow, hname⟩ := accountNamed_eq_some.mp haccount
      rw [haccount, Option.elim_some] at hresult
      split at hresult
      · cases hresult
        cases hsuccess
      next hblocked =>
      split at hresult
      · next hhash => exact ⟨row, hrow, hname, not_not.mp hblocked, hhash⟩
      · cases hresult
        cases hsuccess
  · rintro ⟨-, -, row, hrow, hname, hblocked, hhash⟩
    rw [accountNamed_eq_some.mpr ⟨hrow, hname⟩, Option.elim_some, if_neg (not_not.mpr hblocked),
      if_pos hhash]
    exact ⟨_, rfl, rfl⟩

/-- A login that no more than the old and the new password of one account could tell apart. -/
theorem login_changed (hsha256 : ∀ p, D.sha256 p ≠ []) {s' : Server} (hauth : s'.auth = s.auth)
    (h : UsersTable s.connection.db) (h' : UsersTable s'.connection.db) {row : Row .user}
    {hash : Bytes} (hrow : row ∈ s.connection.db.rows .user)
    (hrows : s'.connection.db.rows .user =
      (s.connection.db.rows .user).map (Database.updateRow row.id (withPassword hash)))
    (hother : bindString login ≠ row.cols.login ∨
      row.cols.passwordHash ≠ D.sha256 password ∧ hash ≠ D.sha256 password) :
    (D.login s' login password).1 = (D.login s login password).1 ∧
      (D.login s' login password).2.auth = (D.login s login password).2.auth := by
  by_cases hempty : login = [] ∨ password = []
  · rw [login_of_empty hempty, login_of_empty hempty]
    exact ⟨rfl, hauth⟩
  obtain ⟨hlogin, hpassword⟩ := not_or.mp hempty
  rw [login_eq hsha256 h hlogin hpassword, login_eq hsha256 h' hlogin hpassword,
    accountNamed_map hrows]
  cases haccount : accountNamed s.connection.db login with
  | none => exact ⟨rfl, hauth⟩
  | some r =>
    obtain ⟨hr, hname⟩ := accountNamed_eq_some.mp haccount
    have htoken : AuthService.issuedToken D.jwt D.clock D.secretKey s' =
        AuthService.issuedToken D.jwt D.clock D.secretKey s := by
      funext id
      unfold AuthService.issuedToken
      rw [hauth]
    rw [Option.map_some, Option.elim_some, Option.elim_some, Database.updateRow_id, htoken]
    -- the flag is the same, and so is what the hash says about this password
    have hblocked : (Database.updateRow row.id (withPassword hash) r).cols.isBlocked =
        r.cols.isBlocked := by
      unfold Database.updateRow
      split <;> rfl
    have hmatch : (Database.updateRow row.id (withPassword hash) r).cols.passwordHash =
        D.sha256 password ↔ r.cols.passwordHash = D.sha256 password := by
      unfold Database.updateRow
      split
      · next hid =>
        obtain rfl := s.connection.db.integral.eq_of_id hr hrow hid
        obtain ⟨hold, hnew⟩ := hother.resolve_left fun hne => hne hname.symm
        exact iff_of_false hnew hold
      · exact Iff.rfl
    rw [hblocked]
    split
    · exact ⟨rfl, hauth⟩
    · by_cases hhash : r.cols.passwordHash = D.sha256 password
      · rw [if_pos hhash, if_pos (hmatch.mpr hhash)]
        exact ⟨rfl, congrArg AuthMiddleware.tick hauth⟩
      · rw [if_neg hhash, if_neg fun heq => hhash (hmatch.mp heq)]
        exact ⟨rfl, hauth⟩

/-- What has become of the server `s` when the password of the account `row` was changed. -/
structure PasswordChanged (D : Deployment) (s s' : Server) (row : Row .user)
    (oldPassword newPassword : Bytes) : Prop where
  accepts_new : ∀ login, bindString login = row.cols.login →
    (D.Admits s' login newPassword ↔ row.cols.isBlocked = 0 ∧ login ≠ [])
  rejects_old : ∀ login, bindString login = row.cols.login → ¬ D.Admits s' login oldPassword
  others : ∀ login password, bindString login ≠ row.cols.login ∨
      password ≠ oldPassword ∧ password ≠ newPassword →
    (D.login s' login password).1 = (D.login s login password).1 ∧
      (D.login s' login password).2.auth = (D.login s login password).2.auth
  users : s'.connection.db.rows .user = (s.connection.db.rows .user).map
    (Database.updateRow row.id (withPassword (D.sha256 newPassword)))
  tables : ∀ t, t ≠ .user → s'.connection.db.rows t = s.connection.db.rows t

/-- The two UPDATEs make all the difference. -/
theorem passwordChanged (hsha256 : ∀ p, D.sha256 p ≠ []) (hinjective : Function.Injective D.sha256)
    {s' : Server} (hauth : s'.auth = s.auth) (hs : UsersTable s.connection.db)
    (hs' : UsersTable s'.connection.db) {row : Row .user} {oldPassword newPassword : Bytes}
    (hrow : row ∈ s.connection.db.rows .user)
    (hrows : s'.connection.db.rows .user = (s.connection.db.rows .user).map
      (Database.updateRow row.id (withPassword (D.sha256 newPassword))))
    (htables : ∀ t, t ≠ .user → s'.connection.db.rows t = s.connection.db.rows t)
    (hnew : newPassword ≠ []) (hdifferent : oldPassword ≠ newPassword)
    (hold : row.cols.passwordHash = D.sha256 oldPassword) :
    D.PasswordChanged s s' row oldPassword newPassword := by
  -- the account is still the one with this login
  have hmem : Database.updateRow row.id (withPassword (D.sha256 newPassword)) row ∈
      s'.connection.db.rows .user := by
    rw [hrows]
    exact List.mem_map_of_mem hrow
  have hchanged : Database.updateRow row.id (withPassword (D.sha256 newPassword)) row =
      ⟨row.id, withPassword (D.sha256 newPassword) row.cols⟩ := if_pos rfl
  rw [hchanged] at hmem
  have hunique : ∀ login, bindString login = row.cols.login →
      ∀ r ∈ s'.connection.db.rows .user, r.cols.login = bindString login →
        r = ⟨row.id, withPassword (D.sha256 newPassword) row.cols⟩ := by
    intro login hlogin r hr hname
    have haccount := accountNamed_eq_some.mpr ⟨hr, hname⟩
    rw [accountNamed_eq_some.mpr ⟨hmem, hlogin.symm⟩] at haccount
    exact (Option.some.inj haccount).symm
  constructor
  case accepts_new =>
    intro login hlogin
    rw [admits_iff hsha256 hs']
    constructor
    · rintro ⟨hempty, -, r, hr, hname, hblocked, -⟩
      rw [hunique login hlogin r hr hname] at hblocked
      exact ⟨hblocked, hempty⟩
    · rintro ⟨hblocked, hempty⟩
      exact ⟨hempty, hnew, _, hmem, hlogin.symm, hblocked, rfl⟩
  case rejects_old =>
    intro login hlogin hadmits
    obtain ⟨-, -, r, hr, hname, -, hhash⟩ := (admits_iff hsha256 hs').mp hadmits
    rw [hunique login hlogin r hr hname] at hhash
    exact hdifferent (hinjective hhash).symm
  case others =>
    intro login password hother
    refine login_changed hsha256 hauth hs hs' hrow hrows (hother.imp_right ?_)
    rintro ⟨hpold, hpnew⟩
    rw [hold]
    exact ⟨fun heq => hpold (hinjective heq).symm, fun heq => hpnew (hinjective heq).symm⟩
  case users => exact hrows
  case tables => exact htables

/-- **Logins and changes of password.** -/
theorem login_changePassword (D : Deployment) {digest : Bytes → Bytes}
    (hsha256 : D.sha256 = Crypto.sha256 digest) (hinjective : Function.Injective digest)
    (hdigest : ∀ input, digest input ≠ []) (s : Server) (hs : UsersTable s.connection.db) :
    (∀ login password, D.Admits s login password ↔ login ≠ [] ∧ password ≠ [] ∧
      ∃ row ∈ s.connection.db.rows .user, row.cols.login = bindString login ∧
        row.cols.isBlocked = 0 ∧ row.cols.passwordHash = D.sha256 password) ∧
    ∀ userId oldPassword newPassword,
      (D.Changes s userId oldPassword newPassword →
        ∃ row ∈ s.connection.db.rows .user, row.id = userId ∧
          D.PasswordChanged s (D.changePassword s userId oldPassword newPassword).2 row oldPassword
            newPassword) ∧
      (¬ D.Changes s userId oldPassword newPassword →
        (D.changePassword s userId oldPassword newPassword).2 = s) := by
  have hne : ∀ p, D.sha256 p ≠ [] := by
    intro p
    rw [hsha256]
    exact Crypto.sha256_ne_nil (hdigest p)
  have hzero : ∀ p, 0 ∉ D.sha256 p := by
    intro p
    rw [hsha256]
    exact Crypto.zero_not_mem_sha256 p
  have hdate : ∀ p, looksLikeDateTime (D.sha256 p) = false := by
    intro p
    rw [hsha256]
    exact Crypto.not_looksLikeDateTime_sha256 p
  have hinj : Function.Injective D.sha256 := by
    rw [hsha256]
    exact Crypto.sha256_injective hinjective
  refine ⟨fun login password => admits_iff hne hs, ?_⟩
  intro userId oldPassword newPassword
  unfold Changes
  -- a change of password is database code
  have hexec : D.changePassword s userId oldPassword newPassword =
    (((AuthService.changePassword D.sha256 userId oldPassword newPassword).run s.connection).1,
      { s with connection :=
          ((AuthService.changePassword D.sha256 userId oldPassword newPassword).run
            s.connection).2 }) := rfl
  rcases changePassword_cases (fun p => ⟨hne p, hzero p⟩) hs userId oldPassword newPassword with
    ⟨r, hrun, hfails⟩ | ⟨row, hrow, db, rfl, hnew, hdifferent, hold, hrun, hrows, htables⟩
  · rw [hexec, hrun]
    refine ⟨?_, fun _ => rfl⟩
    rintro ⟨result, hresult, hsuccess⟩
    rw [hfails result hresult] at hsuccess
    cases hsuccess
  rw [hexec, hrun]
  refine ⟨fun _ => ⟨row, hrow, rfl, ?_⟩, fun hfails => absurd ⟨_, rfl, rfl⟩ hfails⟩
  have hs' : UsersTable db := hs.map ⟨hzero newPassword, hdate newPassword⟩ hrows
  refine passwordChanged hne hinj ?_ hs hs' hrow hrows htables hnew hdifferent hold
  rfl

/-- SHA-256 on the passwords below. -/
def sampleDigest (input : Bytes) : Bytes :=
  if input = bytes "Secret123" then
    [46, 208, 103, 102, 121, 93, 88, 164, 242, 45, 81, 26, 103, 47, 32, 166, 176, 150, 211, 254, 91,
      86, 175, 58, 116, 70, 120, 169, 163, 86, 253, 130]
  else if input = bytes "Secret456" then
    [106, 144, 51, 194, 57, 108, 188, 228, 61, 190, 2, 53, 145, 46, 90, 132, 143, 90, 84, 149, 25,
      145, 207, 138, 233, 170, 157, 173, 226, 13, 39, 82]
  else 1 :: input

theorem sampleDigest_ne_nil (input : Bytes) : sampleDigest input ≠ [] := by
  unfold sampleDigest
  split
  · exact List.cons_ne_nil _ _
  · split <;> exact List.cons_ne_nil _ _

/-- What it was a digest of. -/
def sampleInput : Bytes → Bytes
  | 46 :: _ => bytes "Secret123"
  | 106 :: _ => bytes "Secret456"
  | _ :: input => input
  | [] => []

theorem sampleDigest_injective : Function.Injective sampleDigest := by
  have hleft : Function.LeftInverse sampleInput sampleDigest := by
    intro input
    unfold sampleDigest
    split
    · next h => exact h.symm
    · split
      · next h => exact h.symm
      · rfl
  exact hleft.injective

/-- A server that hashes. -/
def hashing : Deployment := { sample with sha256 := Crypto.sha256 sampleDigest }

/-- It has one user, with this login. -/
def withUser (login : Bytes) : Server where
  connection := (UserService.createUser hashing.sha256
    { login := some login, email := some (bytes "ann@example.org") }
    (bytes "Secret123")).after .fresh
  auth := .initial

/-- Ann, and then Bob. -/
def withAnnAndBob : Server :=
  { withUser (bytes "ann") with
    connection := (UserService.createUser hashing.sha256
      { login := some (bytes "bob"), email := some (bytes "bob@example.org") }
      (bytes "Secret456")).after (withUser (bytes "ann")).connection }

theorem usersTable_annAndBob : UsersTable withAnnAndBob.connection.db :=
  ⟨by decide +kernel, by decide +kernel⟩

/-- Ann changes her password to the one Bob has: from then on she logs in with the new one only, and
nothing has changed for Bob. A change with a wrong old password does nothing. -/
theorem login_changePassword_ann :
    let s := (hashing.changePassword withAnnAndBob 1 (bytes "Secret123") (bytes "Secret456")).2
    hashing.Admits withAnnAndBob (bytes "ann") (bytes "Secret123") ∧
      hashing.Admits s (bytes "ann") (bytes "Secret456") ∧
      ¬ hashing.Admits s (bytes "ann") (bytes "Secret123") ∧
      hashing.Admits s (bytes "bob") (bytes "Secret456") ∧
      (hashing.changePassword withAnnAndBob 2 (bytes "Secret123") (bytes "Secret789")).2 =
        withAnnAndBob := by
  intro s
  obtain ⟨hadmits, hchange⟩ := login_changePassword hashing rfl sampleDigest_injective
    sampleDigest_ne_nil withAnnAndBob usersTable_annAndBob
  obtain ⟨row, hrow, hid, hchanged⟩ := (hchange 1 (bytes "Secret123") (bytes "Secret456")).1
    ⟨{ success := true }, by decide +kernel, rfl⟩
  have hann : ∀ r ∈ withAnnAndBob.connection.db.rows .user, r.id = 1 →
      bindString (bytes "ann") = r.cols.login ∧ bindString (bytes "bob") ≠ r.cols.login ∧
        r.cols.isBlocked = 0 := by decide +kernel
  obtain ⟨hlogin, hother, hblocked⟩ := hann row hrow hid
  have hbob : hashing.Admits withAnnAndBob (bytes "bob") (bytes "Secret456") :=
    (hadmits _ _).mpr ⟨by decide +kernel, by decide +kernel, by decide +kernel⟩
  refine ⟨?_, ?_, ?_, ?_, ?_⟩
  · exact (hadmits _ _).mpr ⟨by decide +kernel, by decide +kernel, by decide +kernel⟩
  · exact (hchanged.accepts_new _ hlogin).mpr ⟨hblocked, by decide +kernel⟩
  · exact hchanged.rejects_old _ hlogin
  · unfold Admits
    rw [(hchanged.others _ _ (.inl hother)).1]
    exact hbob
  · have hanswer : (hashing.changePassword withAnnAndBob 2 (bytes "Secret123")
        (bytes "Secret789")).1 =
          .ok { errorMessage := bytes "Invalid old password", errorCode := 401 } := by
      decide +kernel
    refine (hchange 2 (bytes "Secret123") (bytes "Secret789")).2 ?_
    rintro ⟨result, hresult, hsuccess⟩
    rw [hanswer] at hresult
    cases hresult
    cases hsuccess

/-- **Nobody logs in with an empty login**: a login that begins with a NUL is stored as the empty
one, and then a good password, changed, lets its owner in no more than before. -/
theorem not_admits_emptyLogin :
    Function.Injective sampleDigest ∧ UsersTable (withUser [0, 120]).connection.db ∧
      hashing.Changes (withUser [0, 120]) 1 (bytes "Secret123") (bytes "Secret456") ∧
      (∃ row ∈ (withUser [0, 120]).connection.db.rows .user, row.id = 1 ∧ row.cols.login = [] ∧
        row.cols.isBlocked = 0) ∧
      ¬ hashing.Admits (hashing.changePassword (withUser [0, 120]) 1 (bytes "Secret123")
        (bytes "Secret456")).2 [] (bytes "Secret456") := by
  refine ⟨sampleDigest_injective, ⟨by decide +kernel, by decide +kernel⟩,
    ⟨{ success := true }, by decide +kernel, rfl⟩, by decide +kernel, ?_⟩
  rintro ⟨result, hresult, hsuccess⟩
  rw [login_of_empty (.inl rfl)] at hresult
  cases hresult
  cases hsuccess

end Deployment

end Farado
