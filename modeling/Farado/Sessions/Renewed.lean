import Farado.Sessions.Accounts

/-!
# The new password

Who has changed the password can log in with the new one.
-/

namespace Farado

open Http Relational Steps

/-- What a change of password that succeeds leaves of the account. -/
theorem changedPassword_account {sha256 : Bytes → Bytes} {userId : Int}
    {oldPassword newPassword : Bytes} {c : Connection} (hempty : sha256 newPassword ≠ [])
    (hzero : 0 ∉ sha256 newPassword) {result : ChangePasswordResult}
    (h : (AuthService.changePassword sha256 userId oldPassword newPassword).result c = .ok result)
    (hdone : result.success = true ∨ result.errorCode = 204) :
    newPassword ≠ [] ∧ 0 < userId ∧ ∃ row ∈ c.db.rows .user, row.id = userId ∧
      (∃ d, SqliteUserRepository.mapRowToUser row = .ok d) ∧
      Database.updateRow userId (withPassword (sha256 newPassword)) row ∈
        ((AuthService.changePassword sha256 userId oldPassword newPassword).after c).db.rows
          .user := by
  rcases changePassword_checked sha256 userId oldPassword newPassword c with
    ⟨-, hfails⟩ | ⟨-, ⟨hnew, user, hfind⟩, failed, hrun⟩
  · obtain ⟨hsuccess, hcode⟩ := hfails result h
    rw [hsuccess] at hdone
    exact absurd (hdone.resolve_left Bool.false_ne_true) hcode
  obtain ⟨hid, row, hrow, rfl, hmap⟩ := result_findByIdIn_some.mp hfind
  refine ⟨hnew, hid, row, hrow, rfl, ⟨user, hmap⟩, ?_⟩
  obtain ⟨c₁, db, hrun₁, hrun₂, hrows, -⟩ := run_updatePassword hempty hzero hid hrow
  have hafter : (AuthService.changePassword sha256 row.id oldPassword newPassword).after c =
      { c with db := db } := by
    unfold Prog.after
    rw [hrun, Prog.run_bind_ok hrun₁, if_neg (by simp), Prog.run_bind_ok hrun₂]
    rfl
  rw [hafter]
  show _ ∈ db.rows .user
  rw [hrows]
  exact List.mem_map_of_mem hrow

/-- The texts that the server reads of the account are the same. -/
theorem mapRow_withPassword (userId : Int) (hash : Bytes) {row : Row .user}
    (h : ∃ d, SqliteUserRepository.mapRowToUser row = .ok d) :
    ∃ d, SqliteUserRepository.mapRowToUser (Database.updateRow userId (withPassword hash) row) =
      .ok d := by
  refine userReader.readable_iff.mp ?_
  obtain ⟨htexts, hnumbers⟩ := userReader.readable_iff.mpr h
  have hsame : userReader.columnTexts (Database.updateRow userId (withPassword hash) row) =
      userReader.columnTexts row := by
    unfold Database.updateRow
    split <;> rfl
  refine ⟨?_, hnumbers⟩
  rw [hsame]
  exact htexts

namespace Site

theorem result_of_passwordChanged {site : Site} {a : Arrival}
    {result : Except Error ChangePasswordResult}
    (h : (answered (ServiceCall.passwordChanged (site.host a) result)).statusCode =
      statusNoContent) :
    ∃ x, result = .ok x ∧ (x.success = true ∨ x.errorCode = 204) := by
  cases result with
  | error e => cases h
  | ok x =>
    refine ⟨x, rfl, ?_⟩
    cases hsuccess : x.success with
    | true => exact .inl rfl
    | false =>
      unfold ServiceCall.passwordChanged answered at h
      dsimp only at h
      rw [hsuccess] at h
      exact .inr h

def postNewLogin : Arrival :=
  sampleArrival RestServer.methodPost "/auth/login"
    "\x7b\"login\":\"ann\",\"password\":\"Secret456\"\x7d"

/-- **The new password is the password**: a change of password that is answered with 204 was for an
account that is there. If this is not blocked, then, as long as it is not updated or deleted, a login
with its name and the new password is answered with a token, which lets every request through as that
user until it expires, as long as nobody logs out with it. -/
theorem changed_password_logs_in (site : Site) {digest : Bytes → Bytes}
    (hsha256 : site.sha256 = Crypto.sha256 digest) (hdigest : ∀ input, digest input ≠ [])
    (hjwt : site.jwt.AcceptsSigned) (hclock : NeverBack site.clock) (s : Server) (a : Arrival)
    (userId : Int) (oldPassword newPassword : Bytes)
    (hcall : site.Commits s a (.changePassword userId oldPassword newPassword))
    (hstatus : (site.response s a).statusCode = statusNoContent) :
    ∃ row ∈ s.connection.db.rows .user, row.id = userId ∧
      ∀ (between : List Arrival) (b : Arrival) (login : Bytes), login ≠ [] →
        row.cols.login = bindString login → row.cols.isBlocked = 0 →
        (∀ before x after call, between = before ++ x :: after →
          site.Commits (before.foldl site.serve (site.serve s a)) x call →
            call.change ≠ .update .user userId ∧ call.change ≠ .delete .user userId) →
        site.SignsIn b login newPassword →
          ∃ token,
            site.response (between.foldl site.serve (site.serve s a)) b = tokenReply token ∧
              site.LetsThrough (site.serve (between.foldl site.serve (site.serve s a)) b) token
                userId := by
  have hcommitted := committed_eq_some.mpr hcall
  rw [response_of_committed hcommitted] at hstatus
  obtain ⟨x, hx, hdone⟩ := result_of_passwordChanged hstatus
  obtain ⟨hne, hcString, -⟩ := stored_sha256 hsha256 hdigest newPassword
  obtain ⟨hnew, hpos, row, hrow, rfl, hmap, hchanged⟩ :=
    changedPassword_account hne (cString_eq_self_iff.mp hcString) hx hdone
  refine ⟨row, hrow, rfl, fun between b login hlogin hname hopen hkept hsigns => ?_⟩
  obtain ⟨d, hmap'⟩ := mapRow_withPassword row.id (site.sha256 newPassword) hmap
  have hafter : (site.serve s a).connection =
      (AuthService.changePassword site.sha256 row.id oldPassword newPassword).after s.connection :=
    connection_of_committed hcommitted
  have hcols : Database.updateRow row.id (withPassword (site.sha256 newPassword)) row =
      { row with cols := withPassword (site.sha256 newPassword) row.cols } := by
    unfold Database.updateRow
    rw [if_pos (by simp)]
  rw [← hafter] at hchanged
  rw [hcols] at hchanged hmap'
  -- the row is still there when the login comes
  have hchanges : Changes (fun change : Change V1 =>
      change ≠ .update Table.user row.id ∧ change ≠ .delete Table.user row.id)
      (site.serve s a).connection.db
      (between.foldl site.serve (site.serve s a)).connection.db := changes_run hkept
  have hlasts := hchanges.rows_mem hchanged fun change h =>
    ⟨h.1, Change.leaves_of_no_references rfl h.2⟩
  have hlogs := logs_in_of_row hsha256 hdigest hjwt hclock hlogin hnew hlasts hpos hname hmap' hopen
    hcString.symm hsigns
  exact hlogs

/-- Ann changes her password, and a workflow later she logs in with the new one. -/
theorem changed_password_logs_in_ann :
    accountSite.response ([postWorkflow "Alpha"].foldl accountSite.serve
        (accountSite.serve twoAccounts postPassword)) postNewLogin = tokenReply laterToken ∧
      accountSite.Accepts (accountSite.serve ([postWorkflow "Alpha"].foldl accountSite.serve
        (accountSite.serve twoAccounts postPassword)) postNewLogin) postBeta (bytes "1") := by
  have hcall : accountSite.Commits twoAccounts postPassword
      (.changePassword 1 (bytes "Secret123") (bytes "Secret456")) :=
    committed_eq_some.mp (by decide +kernel)
  have hworkflow : accountSite.committed (accountSite.serve twoAccounts postPassword)
      (postWorkflow "Alpha") =
        some (.graph (.createWorkflow { caption := some (bytes "Alpha") })) := by
    decide +kernel
  have hsigns : accountSite.SignsIn postNewLogin (bytes "ann") (bytes "Secret456") :=
    ⟨⟨RestServer.methodPost, RestServer.collection "/auth/login", .handleLogin, true⟩,
      ⟨bytes "/auth/login", none, rfl, by decide +kernel⟩, rfl, by decide +kernel⟩
  obtain ⟨row, hrow, hid, hlogs⟩ := changed_password_logs_in accountSite rfl
    Deployment.sampleDigest_ne_nil (Jwt.known_acceptsSigned Deployment.sampleTokens_legible)
    halfMinutes_neverBack twoAccounts postPassword 1 _ _ hcall (by decide +kernel)
  have hann : ∀ r ∈ twoAccounts.connection.db.rows .user, r.id = 1 →
      r.cols.login = bindString (bytes "ann") ∧ r.cols.isBlocked = 0 := by
    decide +kernel
  obtain ⟨token, hresponse, haccepts⟩ := hlogs [postWorkflow "Alpha"] postNewLogin (bytes "ann")
    (by decide) (hann row hrow hid).1 (hann row hrow hid).2 (by
      intro before x after call hbetween hcommits
      cases before with
      | nil =>
        cases hbetween
        cases hworkflow.symm.trans (committed_eq_some.mpr hcommits)
        exact ⟨fun h => (by cases h), fun h => (by cases h)⟩
      | cons y before => simp at hbetween)
    hsigns
  have hlogin : (accountSite.deployment.login ([postWorkflow "Alpha"].foldl accountSite.serve
      (accountSite.serve twoAccounts postPassword)) (bytes "ann") (bytes "Secret456")).1 =
        .ok { success := true, accessToken := laterToken } := by
    decide +kernel
  obtain rfl : laterToken = token := by
    apply tokenReply_injective
    rw [← hresponse, (serve_signsIn hsigns).1, hlogin, signedIn_token]
  refine ⟨hresponse, ?_⟩
  exact haccepts [] postBeta _ rfl rfl matchBearer_laterToken (by decide +kernel)
    (fun _ h => absurd h List.not_mem_nil) (by decide +kernel)

end Site

end Farado
