import Farado.Migrations.SeededHash
import Farado.Sessions.Accounts

/-!
# The first login

The migrator leaves a database with one account, and the server has to let its owner in: nobody else
could create an account. The two write and read the row with different code.
-/

namespace Farado

open Http Relational Steps

namespace Site

/-- The columns that the migrator writes are read back by the server. -/
theorem mapRow_of_texts {row : Row .user}
    (htexts : ∀ text ∈ [some row.cols.login, row.cols.firstName, row.cols.middleName,
      row.cols.lastName, some row.cols.email], ∀ b ∈ text, looksLikeDateTime (cString b) = false) :
    ∃ d, SqliteUserRepository.mapRowToUser row = .ok d :=
  userReader.readable_iff.mp ⟨htexts, fun _ h => absurd h List.not_mem_nil⟩

/-- **The administrator of the default data can log in**: after a run of the migration, wherever it
started, there is a new account, and on a server that is started on this database, as long as the
account is not updated or deleted, a login as administrator is answered with a token, which lets
every request through as that user until it expires, as long as nobody logs out with it. -/
theorem administrator_logs_in (site : Site) {digest : Bytes → Bytes}
    (hsha256 : site.sha256 = Crypto.sha256 digest) (hdigest : ∀ input, digest input ≠ [])
    (hjwt : site.jwt.AcceptsSigned) (hclock : NeverBack site.clock) (c c' : Connection)
    (hup : Prog.Ends (V2_DefaultData.up digest) c (.ok ()) c') :
    ∃ admin ∈ c'.db.ids .user, admin ∉ c.db.ids .user ∧
      ∀ (s : Server) (between : List Arrival), s.connection.db = c'.db →
        (∀ before x after call, between = before ++ x :: after →
          site.Commits (before.foldl site.serve s) x call →
            call.change ≠ .update .user admin ∧ call.change ≠ .delete .user admin) →
        ∀ b, site.SignsIn b (bytes "admin") (bytes "password") →
          ∃ token, site.response (between.foldl site.serve s) b = tokenReply token ∧
            site.LetsThrough (site.serve (between.foldl site.serve s) b) token admin := by
  obtain ⟨row, hrow, hnew, hpos, hname, hhash, hopen, htexts⟩ := V2_DefaultData.ends_up_account hup
  obtain ⟨d, hmap⟩ := mapRow_of_texts htexts
  refine ⟨row.id, Database.mem_ids.mpr ⟨row, hrow, rfl⟩, hnew, fun s between hs hkept b hsigns => ?_⟩
  have hchanges : Changes (fun change : Change V1 =>
      change ≠ .update Table.user row.id ∧ change ≠ .delete Table.user row.id)
      s.connection.db (between.foldl site.serve s).connection.db := changes_run hkept
  rw [← hs] at hrow
  have hlasts := hchanges.rows_mem hrow fun change h =>
    ⟨h.1, Change.leaves_of_no_references rfl h.2⟩
  have hstored : row.cols.passwordHash = bindString (site.sha256 (bytes "password")) := by
    rw [hhash, V2_DefaultData.hashPassword_eq, hsha256]
  have hbound : bindString (bytes "admin") = bytes "admin" := by decide
  exact logs_in_of_row hsha256 hdigest hjwt hclock (by decide) (by decide) hlasts hpos
    (hname.trans hbound.symm) hmap hopen hstored hsigns

/-- The database that the migration leaves where there was nothing. -/
def migrated : Connection := (V2_DefaultData.up Deployment.sampleDigest).after .fresh

def postAdministrator : Arrival :=
  sampleArrival RestServer.methodPost "/auth/login"
    "\x7b\"login\":\"admin\",\"password\":\"password\"\x7d"

theorem administrator_logs_in_migrated :
    ∃ admin ∈ migrated.db.ids .user,
      accountSite.response { connection := migrated, auth := .initial } postAdministrator =
          tokenReply sampleToken ∧
        accountSite.Accepts
          (accountSite.serve { connection := migrated, auth := .initial } postAdministrator)
          (postWorkflow "Alpha") (AuthService.userIdStr admin) := by
  have hup : Prog.Ends (V2_DefaultData.up Deployment.sampleDigest) .fresh (.ok ()) migrated := by
    have hok : ((V2_DefaultData.up Deployment.sampleDigest).run .fresh).1 = .ok () := by
      decide +kernel
    rw [← hok]
    exact Prog.ends_run _ _
  have hsigns : accountSite.SignsIn postAdministrator (bytes "admin") (bytes "password") :=
    ⟨⟨RestServer.methodPost, RestServer.collection "/auth/login", .handleLogin, true⟩,
      ⟨bytes "/auth/login", none, rfl, by decide +kernel⟩, rfl, by decide +kernel⟩
  obtain ⟨admin, hmem, -, hlogs⟩ := administrator_logs_in accountSite rfl
    Deployment.sampleDigest_ne_nil (Jwt.known_acceptsSigned Deployment.sampleTokens_legible)
    halfMinutes_neverBack .fresh migrated hup
  obtain ⟨token, hresponse, haccepts⟩ := hlogs { connection := migrated, auth := .initial } [] rfl
    (fun before x after call hbetween => by simp at hbetween) postAdministrator hsigns
  have hlogin : (accountSite.deployment.login { connection := migrated, auth := .initial }
      (bytes "admin") (bytes "password")).1 =
        .ok { success := true, accessToken := sampleToken } := by
    decide +kernel
  obtain rfl : sampleToken = token := by
    apply tokenReply_injective
    rw [← hresponse, (serve_signsIn hsigns).1, List.foldl_nil, hlogin, signedIn_token]
  refine ⟨admin, hmem, hresponse, ?_⟩
  exact haccepts [] (postWorkflow "Alpha") _ rfl rfl matchBearer_sampleHeader (by decide +kernel)
    (fun _ h => absurd h List.not_mem_nil) (by decide +kernel)

end Site

end Farado
