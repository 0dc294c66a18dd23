import Farado.Api.Shown
import Farado.Sessions.Blocking

/-!
# Where a password hash comes from

The hash of an account is written when the account is created. After that only a change of password
writes it, for the user that the token names, and only after the old password was checked: no update
of the account and no other request reaches it.
-/

namespace Farado

open Relational Steps

/-- Of the hashes, only that of this user may have changed, and only to this one. -/
def Rehashed (userId : Int) (hash : Bytes) (c c' : Connection) : Prop :=
  ∀ row' ∈ c'.db.rows .user, ∃ row ∈ c.db.rows .user, row.id = row'.id ∧
    (row'.cols.passwordHash = row.cols.passwordHash ∨
      row'.id = userId ∧ row'.cols.passwordHash = hash)

namespace Rehashed

variable {userId : Int} {hash : Bytes} {c c' c'' : Connection}

theorem refl (c : Connection) : Rehashed userId hash c c :=
  fun row hrow => ⟨row, hrow, rfl, .inl rfl⟩

theorem trans (h : Rehashed userId hash c c') (h' : Rehashed userId hash c' c'') :
    Rehashed userId hash c c'' := by
  intro row'' hrow''
  obtain ⟨row', hrow', hid', hhash'⟩ := h' row'' hrow''
  obtain ⟨row, hrow, hid, hhash⟩ := h row' hrow'
  refine ⟨row, hrow, hid.trans hid', ?_⟩
  rcases hhash' with hsame' | hnew'
  · rw [hsame', ← hid']
    exact hhash
  · exact .inr hnew'

theorem update {affected : Int} {set : UserRow → UserRow} {db : Database V1}
    (hset : ∀ cols, (set cols).passwordHash = cols.passwordHash ∨ (set cols).passwordHash = hash)
    (hupd : c.db.updateById .user userId set = some (affected, db)) :
    Rehashed userId hash c { c with db := db } := by
  intro row' hrow'
  obtain ⟨row, hrow, hid, rfl | ⟨huser, hcols⟩⟩ := Database.mem_of_updateById hupd hrow'
  · exact ⟨row', hrow, rfl, .inl rfl⟩
  refine ⟨row, hrow, hid, ?_⟩
  rw [hcols]
  exact (hset row.cols).imp_right fun h => ⟨huser, h⟩

end Rehashed

section
variable {userId : Int} {hash : Bytes}

theorem rehashed_updateIn {set : UserRow → UserRow}
    (hset : ∀ cols, (set cols).passwordHash = cols.passwordHash ∨ (set cols).passwordHash = hash) :
    Prog.Within (Rehashed userId hash) (updateIn .user (some userId) [set]) :=
  within_updateIn .refl (fun _ _ _ h h' => h.trans h') fun _ _ _ hupd => .update hset hupd

end

/-! ## A change of password -/

section
variable {R : Connection → Connection → Prop} {userId : Int}

/-- What the two UPDATEs do, in the whole and where they are cut off. -/
theorem within_updatePassword {α : Type} (done failed : α) {hash : Bytes} (hrefl : ∀ c, R c c)
    (htrans : ∀ c c₁ c', R c c₁ → R c₁ c' → R c c')
    (hhash : Prog.Within R
      (updateIn .user (some userId) [fun cols => { cols with passwordHash := bindString hash }]))
    (hflag : Prog.Within R
      (updateIn .user (some userId)
        [fun cols => { cols with needChangePassword := bindBool false }])) :
    Prog.Within R (do
      if !(← SqliteUserRepository.updatePassword userId hash) then pure failed
      else
        let _ ← SqliteUserRepository.updateNeedChangePassword userId false
        pure done : Db α) := by
  have hpure : ∀ {β : Type} (b : β), Prog.Within R (pure b : Db β) :=
    fun b => Prog.within_done hrefl _
  refine Prog.Within.bind htrans ?_ fun updated => ?_
  · unfold SqliteUserRepository.updatePassword
    split
    · exact hpure false
    · exact hhash
  split
  · exact hpure failed
  refine Prog.Within.bind htrans ?_ fun _ => hpure done
  unfold SqliteUserRepository.updateNeedChangePassword
  split
  · exact hpure false
  · exact hflag

/-- A change of password does not succeed and does nothing, or it has found the account and the old
password right, and what is left of it are the two UPDATEs. -/
theorem changePassword_checked (sha256 : Bytes → Bytes) (userId : Int)
    (oldPassword newPassword : Bytes) (c : Connection) :
    ((AuthService.changePassword sha256 userId oldPassword newPassword).after c = c ∧
        ∀ result, (AuthService.changePassword sha256 userId oldPassword newPassword).result c =
          .ok result → result.success = false ∧ result.errorCode ≠ 204) ∨
      ((AuthService.verifyPassword sha256 userId oldPassword).result c = .ok true ∧
        oldPassword ≠ newPassword ∧ AuthService.validatePasswordStrength newPassword = true) ∧
        (newPassword ≠ [] ∧
          ∃ user, (SqliteUserRepository.findById userId).result c = .ok (some user)) ∧
        ∃ failed : ChangePasswordResult,
          (AuthService.changePassword sha256 userId oldPassword newPassword).run c = (do
            if !(← SqliteUserRepository.updatePassword userId (sha256 newPassword)) then pure failed
            else
              let _ ← SqliteUserRepository.updateNeedChangePassword userId false
              pure { success := true } : Db ChangePasswordResult).run c := by
  have hgiveUp : ∀ {r : Except Error ChangePasswordResult},
      (AuthService.changePassword sha256 userId oldPassword newPassword).run c = (r, c) →
      (∀ result, r = .ok result → result.success = false ∧ result.errorCode ≠ 204) →
      (AuthService.changePassword sha256 userId oldPassword newPassword).after c = c ∧
        ∀ result, (AuthService.changePassword sha256 userId oldPassword newPassword).result c =
          .ok result → result.success = false ∧ result.errorCode ≠ 204 := by
    intro r hrun hr
    unfold Prog.after Prog.result
    rw [hrun]
    exact ⟨rfl, hr⟩
  generalize hrun : (AuthService.changePassword sha256 userId oldPassword newPassword).run c = x
    at hgiveUp ⊢
  unfold AuthService.changePassword at hrun
  split at hrun
  · exact .inl (hgiveUp hrun.symm (by rintro _ ⟨⟩; exact ⟨rfl, by decide⟩))
  next hpasswords =>
  have hfindById : Prog.ReadOnly (SqliteUserRepository.findById userId) :=
    readOnly_findByIdIn _ _ userId
  rw [Prog.run_bind_of_readOnly hfindById] at hrun
  cases hfind : (SqliteUserRepository.findById userId).result c with
  | error e =>
    rw [hfind] at hrun
    exact .inl (hgiveUp hrun.symm (by rintro _ ⟨⟩))
  | ok found =>
    rw [hfind] at hrun
    cases found with
    | none => exact .inl (hgiveUp hrun.symm (by rintro _ ⟨⟩; exact ⟨rfl, by decide⟩))
    | some user =>
      dsimp only at hrun
      rw [Prog.run_bind_of_readOnly (AuthService.readOnly_verifyPassword userId oldPassword)]
        at hrun
      cases hverified : (AuthService.verifyPassword sha256 userId oldPassword).result c with
      | error e =>
        rw [hverified] at hrun
        exact .inl (hgiveUp hrun.symm (by rintro _ ⟨⟩))
      | ok matched =>
        rw [hverified] at hrun
        cases matched with
        | false => exact .inl (hgiveUp hrun.symm (by rintro _ ⟨⟩; exact ⟨rfl, by decide⟩))
        | true =>
          dsimp only at hrun
          rw [if_neg (by simp)] at hrun
          split at hrun
          · exact .inl (hgiveUp hrun.symm (by rintro _ ⟨⟩; exact ⟨rfl, by decide⟩))
          next hne =>
          split at hrun
          · exact .inl (hgiveUp hrun.symm (by rintro _ ⟨⟩; exact ⟨rfl, by decide⟩))
          next hstrong =>
          refine .inr
            ⟨⟨rfl, by simpa using hne, by simpa using hstrong⟩, ⟨?_, user, rfl⟩, _, hrun.symm⟩
          rintro rfl
          simp at hpasswords

/-- A change of password that changes anything has found the old password right. -/
theorem changePassword_within (sha256 : Bytes → Bytes) (oldPassword newPassword : Bytes)
    (c : Connection) (hrefl : ∀ c, R c c) (htrans : ∀ c c₁ c', R c c₁ → R c₁ c' → R c c')
    (hhash : Prog.Within R (updateIn .user (some userId)
      [fun cols => { cols with passwordHash := bindString (sha256 newPassword) }]))
    (hflag : Prog.Within R
      (updateIn .user (some userId)
        [fun cols => { cols with needChangePassword := bindBool false }])) :
    (AuthService.changePassword sha256 userId oldPassword newPassword).after c = c ∨
      (AuthService.verifyPassword sha256 userId oldPassword).result c = .ok true ∧
        oldPassword ≠ newPassword ∧ AuthService.validatePasswordStrength newPassword = true ∧
        R c ((AuthService.changePassword sha256 userId oldPassword newPassword).after c) := by
  rcases changePassword_checked sha256 userId oldPassword newPassword c with
    ⟨hsame, -⟩ | ⟨⟨hverified, hne, hstrong⟩, -, failed, hrun⟩
  · exact .inl hsame
  · refine .inr ⟨hverified, hne, hstrong, ?_⟩
    unfold Prog.after
    rw [hrun]
    exact within_updatePassword _ _ hrefl htrans hhash hflag c _ _ (Prog.ends_run _ c)

end

/-- Only the hash of this user can have changed. -/
theorem changePassword_rehashed (sha256 : Bytes → Bytes) (userId : Int)
    (oldPassword newPassword : Bytes) (c : Connection) :
    (AuthService.changePassword sha256 userId oldPassword newPassword).after c = c ∨
      (AuthService.verifyPassword sha256 userId oldPassword).result c = .ok true ∧
        oldPassword ≠ newPassword ∧ AuthService.validatePasswordStrength newPassword = true ∧
        Rehashed userId (bindString (sha256 newPassword)) c
          ((AuthService.changePassword sha256 userId oldPassword newPassword).after c) :=
  changePassword_within sha256 oldPassword newPassword c .refl (fun _ _ _ h h' => h.trans h')
    (rehashed_updateIn fun _ => .inr rfl) (rehashed_updateIn fun _ => .inl rfl)

/-- An update of the account leaves its hash. -/
theorem applyAll_user_passwordHash (user : Dto.User) (row : UserRow) :
    (applyAll (SqliteUserRepository.setClauses user) row).passwordHash = row.passwordHash := by
  unfold SqliteUserRepository.setClauses
  simp only [applyAll_append]
  repeat rw [applyAll_setIfPresent_of_ne UserRow.passwordHash]
  all_goals intros; rfl

/-! ## Calls -/

namespace ServiceCall

theorem update_user {call : ServiceCall} {i : Int} (h : call.change = .update .user i) :
    (∃ user, call = .updateUser user) ∨
      ∃ oldPassword newPassword, call = .changePassword i oldPassword newPassword := by
  cases call with
  | graph call => cases call <;> cases h
  | updateUser user => exact .inl ⟨user, rfl⟩
  | changePassword userId oldPassword newPassword =>
    cases h
    exact .inr ⟨oldPassword, newPassword, rfl⟩
  | _ => cases h

/-- The call changes the password of this user to this one, having found the old one right. -/
def ChangesPassword (host : Host) (c : Connection) (call : ServiceCall) (userId : Int)
    (newPassword : Bytes) : Prop :=
  ∃ oldPassword, call = .changePassword userId oldPassword newPassword ∧
    (AuthService.verifyPassword host.sha256 userId oldPassword).result c = .ok true ∧
    oldPassword ≠ newPassword ∧ AuthService.validatePasswordStrength newPassword = true

/-- **The hashes across a call.** -/
theorem passwordHash_exec (host : Host) (c : Connection) (call : ServiceCall) {row' : Row .user}
    (hrow' : row' ∈ (call.exec host c).db.rows .user) (hold : row'.id ≤ c.db.seq .user) :
    ∃ row ∈ c.db.rows .user, row.id = row'.id ∧
      (row'.cols.passwordHash = row.cols.passwordHash ∨
        ∃ newPassword, call.ChangesPassword host c row'.id newPassword ∧
          row'.cols.passwordHash = bindString (host.sha256 newPassword)) := by
  by_cases hchange : call.change = .update .user row'.id
  · rcases update_user hchange with ⟨user, rfl⟩ | ⟨oldPassword, newPassword, rfl⟩
    · rcases updateUser_effect (c := c) user with hsame | ⟨i, affected, db, -, hupd, hafter⟩
      · refine ⟨row', ?_, rfl, .inl rfl⟩
        rwa [← hsame]
      · have hexec : (ServiceCall.updateUser user).exec host c = { c with db := db } := hafter
        rw [hexec] at hrow'
        obtain ⟨row, hrow, hid, rfl | ⟨-, hcols⟩⟩ := Database.mem_of_updateById hupd hrow'
        · exact ⟨row', hrow, rfl, .inl rfl⟩
        · refine ⟨row, hrow, hid, .inl ?_⟩
          rw [hcols, applyAll_user_passwordHash]
    · rcases changePassword_rehashed host.sha256 row'.id oldPassword newPassword c with
        hsame | ⟨hverified, hne, hstrong, hrehashed⟩
      · refine ⟨row', ?_, rfl, .inl rfl⟩
        rwa [← hsame]
      · obtain ⟨row, hrow, hid, hhash⟩ := hrehashed row' hrow'
        refine ⟨row, hrow, hid, hhash.imp_right fun h => ?_⟩
        exact ⟨newPassword, ⟨oldPassword, rfl, hverified, hne, hstrong⟩, h.2⟩
  · have hmem := (call.changes host c).mem_rows hrow' hold fun change h => by
      rw [h]
      exact ⟨call.spares (by decide) (by decide), hchange⟩
    exact ⟨row', hmem, rfl, .inl rfl⟩

end ServiceCall

namespace Site

/-- The request changes the password of this user: it does so with the user's own token, the old
password and a new one. -/
def ChangesPassword (site : Site) (s : Server) (a : Arrival) (userId : Int) (newPassword : Bytes) :
    Prop :=
  ∃ call token, site.Commits s a call ∧
    call.ChangesPassword (site.host a) s.connection userId newPassword ∧
    site.Accepts s a token ∧ site.library.stoll token = .ok userId

section
variable {site : Site} {a : Arrival} {Dto : Type} {fromJson : Http.Json → Dto × Bool}
  {made : ServiceCall}

theorem of_creates {check : Dto → Option Bytes} {call : Dto → ServiceCall}
    (h : site.creates a fromJson check call = some made) : ∃ dto, made = call dto := by
  unfold creates at h
  obtain ⟨json, -, h⟩ := Option.bind_eq_some_iff.mp h
  split at h
  · cases h
  · exact ⟨_, (Option.some.inj h).symm⟩

theorem of_updates {pattern : List PathPart} {call : Dto → ServiceCall}
    (h : site.updates a fromJson pattern call = some made) : ∃ dto, made = call dto := by
  unfold updates at h
  obtain ⟨id, -, h⟩ := Option.bind_eq_some_iff.mp h
  obtain ⟨json, -, h⟩ := Option.bind_eq_some_iff.mp h
  obtain ⟨named, -, h⟩ := Option.bind_eq_some_iff.mp h
  exact ⟨_, (Option.some.inj h).symm⟩

theorem of_deletes {pattern : List PathPart} {call : Int → ServiceCall}
    (h : site.deletes a pattern call = some made) : ∃ id, made = call id := by
  obtain ⟨id, -, h⟩ := Option.map_eq_some_iff.mp h
  exact ⟨id, h.symm⟩

theorem of_createsUser (h : site.createsUser a = some made) :
    ∃ user password, made = .createUser user password := by
  unfold createsUser at h
  obtain ⟨jsonBody, -, h⟩ := Option.bind_eq_some_iff.mp h
  obtain ⟨json, -, h⟩ := Option.bind_eq_some_iff.mp h
  obtain ⟨password, -, h⟩ := Option.bind_eq_some_iff.mp h
  dsimp only at h
  split at h
  · cases h
  · exact ⟨_, password, (Option.some.inj h).symm⟩

/-- A change of password is for the user that the token names. -/
theorem stoll_of_changesPassword {token : Bytes} {userId : Int} {oldPassword newPassword : Bytes}
    (h : site.changesPassword a token = some (.changePassword userId oldPassword newPassword)) :
    site.library.stoll token = .ok userId := by
  unfold changesPassword at h
  split at h
  · cases h
  obtain ⟨changeRequest, -, h⟩ := Option.bind_eq_some_iff.mp h
  obtain ⟨id, hid, h⟩ := Option.bind_eq_some_iff.mp h
  obtain ⟨old, -, h⟩ := Option.bind_eq_some_iff.mp h
  obtain ⟨new, -, h⟩ := Option.bind_eq_some_iff.mp h
  cases h
  cases hstoll : site.library.stoll token with
  | error e =>
    rw [hstoll] at hid
    cases hid
  | ok id' =>
    rw [hstoll] at hid
    rw [Option.some.inj hid]

/-- No other handler makes this call. -/
theorem stoll_of_callOf {handler : RouteHandler} {token : Bytes} {userId : Int}
    {oldPassword newPassword : Bytes}
    (h : site.callOf a token handler = some (.changePassword userId oldPassword newPassword)) :
    site.library.stoll token = .ok userId := by
  unfold callOf at h
  cases handler with
  | handleChangePassword => exact stoll_of_changesPassword h
  | handleCreateUser =>
    obtain ⟨user, password, ⟨⟩⟩ := of_createsUser h
  | handleCreatePhase | handleCreateProject | handleCreateFieldType | handleCreateWorkflow
  | handleCreateItemType | handleCreateState | handleCreateEdge =>
    obtain ⟨dto, ⟨⟩⟩ := of_creates h
  | handleUpdateUser | handleUpdatePhase | handleUpdateProject | handleUpdateFieldType
  | handleUpdateWorkflow | handleUpdateItemType | handleUpdateState =>
    obtain ⟨dto, ⟨⟩⟩ := of_updates h
  | handleDeleteUser | handleDeletePhase | handleDeleteProject | handleDeleteFieldType
  | handleDeleteWorkflow | handleDeleteItemType | handleDeleteState | handleDeleteEdge =>
    obtain ⟨id, ⟨⟩⟩ := of_deletes h
  | _ => cases h

end

/-- **A hash has one origin**: in every run of requests, the hash of an account is at the end what it
was at the start, unless a request of the run changed the password; then it is the hash of a password
that such a request gave. -/
theorem passwordHash_run (site : Site) (s : Server) (arrivals : List Arrival) (row row' : Row .user)
    (hrow : row ∈ s.connection.db.rows .user)
    (hrow' : row' ∈ (arrivals.foldl site.serve s).connection.db.rows .user)
    (hid : row'.id = row.id) :
    row'.cols.passwordHash = row.cols.passwordHash ∨
      ∃ before a after newPassword, arrivals = before ++ a :: after ∧
        site.ChangesPassword (before.foldl site.serve s) a row.id newPassword ∧
        row'.cols.passwordHash = bindString (site.sha256 newPassword) := by
  induction arrivals using List.reverseRecOn generalizing row' with
  | nil =>
    have heq := s.connection.db.integral.eq_of_id hrow' hrow hid
    exact .inl (by rw [heq])
  | append_singleton arrivals a ih =>
    have hle : row'.id ≤ (arrivals.foldl site.serve s).connection.db.seq .user := by
      have hchanges : Changes (fun _ => True) s.connection.db
          (arrivals.foldl site.serve s).connection.db := changes_run fun _ _ _ _ _ _ => trivial
      have hstart := s.connection.db.integral.ids_le_seq .user row hrow
      have hseq := hchanges.seq_le .user
      rw [hid]
      omega
    -- what the requests before the last one left
    have hbefore : ∀ row₁ ∈ (arrivals.foldl site.serve s).connection.db.rows .user,
        row₁.id = row'.id → row'.cols.passwordHash = row₁.cols.passwordHash →
        row'.cols.passwordHash = row.cols.passwordHash ∨
          ∃ before b after newPassword, arrivals ++ [a] = before ++ b :: after ∧
            site.ChangesPassword (before.foldl site.serve s) b row.id newPassword ∧
            row'.cols.passwordHash = bindString (site.sha256 newPassword) := by
      intro row₁ hrow₁ hid₁ hsame
      rw [hsame]
      rcases ih row₁ hrow₁ (hid₁.trans hid) with hstart | ⟨before, b, after, new, rfl, hb, hhash⟩
      · exact .inl hstart
      · exact .inr ⟨before, b, after ++ [a], new, by simp, hb, hhash⟩
    rw [List.foldl_append, List.foldl_cons, List.foldl_nil, connection_serve] at hrow'
    cases hcall : site.committed (arrivals.foldl site.serve s) a with
    | none =>
      rw [hcall] at hrow'
      exact hbefore row' hrow' rfl rfl
    | some call =>
      rw [hcall] at hrow'
      obtain ⟨row₁, hrow₁, hid₁, hsame | ⟨newPassword, hchanges, hhash⟩⟩ :=
        call.passwordHash_exec (site.host a) _ hrow' hle
      · exact hbefore row₁ hrow₁ hid₁ hsame
      · obtain ⟨oldPassword, rfl, hverified⟩ := hchanges
        have hcommits := committed_eq_some.mp hcall
        have hstoll : ∃ token, site.Accepts (arrivals.foldl site.serve s) a token ∧
            site.library.stoll token = .ok row'.id := by
          obtain ⟨route, token, -, -, -, haccepts, hcallOf⟩ := hcommits
          exact ⟨token, haccepts, stoll_of_callOf hcallOf⟩
        obtain ⟨token, haccepts, hstoll⟩ := hstoll
        rw [hid] at hcommits hverified hstoll
        exact .inr ⟨arrivals, a, [], newPassword, rfl,
          ⟨_, token, hcommits, ⟨oldPassword, rfl, hverified⟩, haccepts, hstoll⟩, hhash⟩

/-- A server with one user, and the user's request for another password. -/
def sampleAccount : Server where
  connection := (UserService.createUser sampleSite.sha256
    { login := some (bytes "ann"), email := some (bytes "ann@example.org") }
    (bytes "Secret123")).after .fresh
  auth := .initial

def postPassword : Arrival :=
  sampleArrival RestServer.methodPost "/auth/change-password"
    "\x7b\"oldPassword\":\"Secret123\",\"newPassword\":\"Secret456\"\x7d"

theorem passwordHash_run_sample :
    ∃ row ∈ sampleAccount.connection.db.rows .user, ∃ before a after newPassword,
      [postPassword] = before ++ a :: after ∧
        sampleSite.ChangesPassword (before.foldl sampleSite.serve sampleAccount) a row.id
          newPassword := by
  obtain ⟨row, hrow, row', hrow', hid, hne⟩ :
      ∃ row ∈ sampleAccount.connection.db.rows .user,
        ∃ row' ∈ ([postPassword].foldl sampleSite.serve sampleAccount).connection.db.rows .user,
          row'.id = row.id ∧ row'.cols.passwordHash ≠ row.cols.passwordHash := by
    decide +kernel
  obtain ⟨before, a, after, newPassword, hsplit, hchanges, -⟩ :=
    (passwordHash_run sampleSite sampleAccount [postPassword] row row' hrow hrow' hid).resolve_left
      hne
  exact ⟨row, hrow, before, a, after, newPassword, hsplit, hchanges⟩

end Site

end Farado
