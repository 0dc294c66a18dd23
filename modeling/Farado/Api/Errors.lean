import Farado.Api.ReadBack

/-!
# What an error reply leaves behind

A request that is answered with an error has not changed the database, with one exception: a creation
or an update that wrote its row and could not show it is answered with 400.
-/

namespace Farado

open Acting Http Relational Steps

namespace Site

open Bodies (caught replyTo replyObject sendErrorResponse)

variable {site : Site} {a : Arrival} {s : Server} {t : Table} {c : Connection}

/-! ## Creations and updates -/

section
variable {Dto : Type} {mapRow : Row t → Except Error Dto} {toJson : Dto → Json}
  {replyWith : Dto → Except StdException HttpResponse} {failed : Int × Bytes}

/-- Where the row is the result, an error reply says that it cannot be shown. -/
theorem unshown_of_error {row : Row t} (hcode : ∀ x r, replyWith x = .ok r → r.statusCode < 400)
    (hreplies : ∀ x json, site.toWebJson toJson x = .ok json → ∃ r, replyWith x = .ok r)
    (h : 400 ≤ (caught (replyTo (site.host a) failed replyWith (some <$> mapRow row))).statusCode) :
    (caught (replyTo (site.host a) failed replyWith (some <$> mapRow row))).statusCode = 400 ∧
      site.shownWith mapRow toJson row = none := by
  rw [Option.eq_none_iff_forall_ne_some]
  cases hrow : mapRow row with
  | error e =>
    refine ⟨rfl, fun json hshown => ?_⟩
    obtain ⟨x, hx, -⟩ := shownWith_eq_some.mp hshown
    rw [hrow] at hx
    cases hx
  | ok x =>
    rw [hrow] at h
    change 400 ≤ (caught (replyWith x)).statusCode at h
    show (caught (replyWith x)).statusCode = 400 ∧ _
    cases hreply : replyWith x with
    | ok r =>
      rw [hreply] at h
      exact absurd (hcode x r hreply) (by simpa [caught] using h)
    | error e =>
      refine ⟨rfl, fun json hshown => ?_⟩
      obtain ⟨y, hy, hjson⟩ := shownWith_eq_some.mp hshown
      obtain rfl := Except.ok.inj (hrow.symm.trans hy)
      obtain ⟨r, hr⟩ := hreplies x json hjson
      rw [hreply] at hr
      cases hr

/-- What an error reply to a creation or an update says about the database. -/
theorem reported_error {i : Database V1 → Int} {p : Db (Option Dto)} (hp : Reports t i mapRow p)
    (hpos : ∀ j ∈ (p.after c).db.ids t, 0 < j)
    (hcode : ∀ x r, replyWith x = .ok r → r.statusCode < 400)
    (hreplies : ∀ x json, site.toWebJson toJson x = .ok json → ∃ r, replyWith x = .ok r)
    (h : 400 ≤ (caught (replyTo (site.host a) failed replyWith (p.result c))).statusCode) :
    (p.after c).db = c.db ∨
      (caught (replyTo (site.host a) failed replyWith (p.result c))).statusCode = 400 ∧
        ∃ row ∈ (p.after c).db.rows t, row.id = i c.db ∧ site.shownWith mapRow toJson row = none := by
  refine (hp.cases c hpos).imp And.left fun ⟨row, hrow, hid, hresult⟩ => ?_
  rw [hresult] at h ⊢
  obtain ⟨hstatus, hshown⟩ := unshown_of_error hcode hreplies h
  exact ⟨hstatus, row, hrow, hid, hshown⟩

theorem statusCode_of_replyObject {code : Int} (hcode : code < 400) {x : Dto} {r : HttpResponse}
    (h : replyObject (site.host a) toJson code x = .ok r) : r.statusCode < 400 := by
  unfold replyObject at h
  change (site.toWebJson toJson x >>= _) = _ at h
  cases hjson : site.toWebJson toJson x with
  | error e =>
    rw [hjson] at h
    cases h
  | ok json =>
    rw [hjson] at h
    cases h
    exact hcode

theorem replyObject_of_json {code : Int} {x : Dto} {json : Json}
    (h : site.toWebJson toJson x = .ok json) :
    replyObject (site.host a) toJson code x = .ok { statusCode := code, body := some json } := by
  unfold replyObject
  show (site.toWebJson toJson x >>= _) = _
  rw [h]
  rfl

end

/-- The call has written a row that cannot be shown. -/
def Unshown (site : Site) (call : ServiceCall) (db db' : Database V1) : Prop :=
  ∃ t, ∃ row ∈ db'.rows t,
    (call.change = .insert t ∧ row.id = db.nextId t ∨ call.change = .update t row.id) ∧
      site.shown t row = none

theorem created_error {call : ServiceCall} {r : CreateRequest} {toJson : r.Dto → Json}
    {failed : Int × Bytes} (hchange : call.change = .insert r.table)
    (hshown : site.shown r.table = site.shownWith r.mapRow toJson)
    (hpos : ∀ j ∈ ((r.serve a.env site.sha256).after c).db.ids r.table, 0 < j)
    (h : 400 ≤ (answered (ServiceCall.created (site.host a) toJson failed
      ((r.serve a.env site.sha256).result c))).statusCode) :
    ((r.serve a.env site.sha256).after c).db = c.db ∨
      (answered (ServiceCall.created (site.host a) toJson failed
        ((r.serve a.env site.sha256).result c))).statusCode = 400 ∧
        Unshown site call c.db ((r.serve a.env site.sha256).after c).db := by
  refine (reported_error (r.reports_serve a.env site.sha256) hpos
    (fun _ _ => statusCode_of_replyObject (by decide))
    (fun _ _ hjson => ⟨_, replyObject_of_json hjson⟩) h).imp_right ?_
  rintro ⟨hstatus, row, hrow, hid, hnone⟩
  refine ⟨hstatus, r.table, row, hrow, .inl ⟨hchange, hid⟩, ?_⟩
  rw [hshown]
  exact hnone

theorem updated_error {call : ServiceCall} {k : Stored} {d : k.Dto} {toJson : k.Dto → Json}
    {failed : Bytes} {replyWith : k.Dto → Except StdException HttpResponse}
    (hchange : call.change = .update k.table ((k.id d).getD 0))
    (hshown : site.shown k.table = site.shownWith k.reader.mapRow toJson)
    (hcode : ∀ x r, replyWith x = .ok r → r.statusCode < 400)
    (hreplies : ∀ x json, site.toWebJson toJson x = .ok json → ∃ r, replyWith x = .ok r)
    (hpos : ∀ j ∈ ((k.serveUpdate a.env a.now d).after c).db.ids k.table, 0 < j)
    (h : 400 ≤ (answered (ServiceCall.updated (site.host a) replyWith failed
      ((k.serveUpdate a.env a.now d).result c))).statusCode) :
    ((k.serveUpdate a.env a.now d).after c).db = c.db ∨
      (answered (ServiceCall.updated (site.host a) replyWith failed
        ((k.serveUpdate a.env a.now d).result c))).statusCode = 400 ∧
        Unshown site call c.db ((k.serveUpdate a.env a.now d).after c).db := by
  refine (reported_error (k.reports_serveUpdate a.env a.now d) hpos hcode hreplies h).imp_right ?_
  rintro ⟨hstatus, row, hrow, hid, hnone⟩
  refine ⟨hstatus, k.table, row, hrow, .inr ?_, ?_⟩
  · rw [hchange, hid]
  · rw [hshown]
    exact hnone

/-- The same of an update that is answered with the object. -/
theorem updated_error_of_object {call : ServiceCall} {k : Stored} {d : k.Dto}
    {toJson : k.Dto → Json} {failed : Bytes}
    (hchange : call.change = .update k.table ((k.id d).getD 0))
    (hshown : site.shown k.table = site.shownWith k.reader.mapRow toJson)
    (hpos : ∀ j ∈ ((k.serveUpdate a.env a.now d).after c).db.ids k.table, 0 < j)
    (h : 400 ≤ (answered (ServiceCall.updated (site.host a)
      (replyObject (site.host a) toJson statusOk) failed
      ((k.serveUpdate a.env a.now d).result c))).statusCode) :
    ((k.serveUpdate a.env a.now d).after c).db = c.db ∨
      (answered (ServiceCall.updated (site.host a) (replyObject (site.host a) toJson statusOk) failed
        ((k.serveUpdate a.env a.now d).result c))).statusCode = 400 ∧
        Unshown site call c.db ((k.serveUpdate a.env a.now d).after c).db :=
  updated_error hchange hshown (fun _ _ => statusCode_of_replyObject (by decide))
    (fun _ _ hjson => ⟨_, replyObject_of_json hjson⟩) hpos h

/-! ## Deletions and passwords -/

theorem deleted_error {notFound : Bytes} {p : Db Bool} (hp : AllOrNothing (· = true) p)
    (h : 400 ≤ (answered (ServiceCall.deleted (site.host a) notFound (p.result c))).statusCode) :
    (p.after c).db = c.db := by
  refine hp c fun x hx hdone => ?_
  rw [hx, hdone] at h
  exact absurd h (show ¬ (400 : Int) ≤ statusNoContent by decide)

theorem removed_error {p : Db ServiceResult} (hp : AllOrNothing (·.success = true) p)
    (h : 400 ≤ (answered (ServiceCall.removed (site.host a) (p.result c))).statusCode) :
    (p.after c).db = c.db := by
  refine hp c fun x hx hdone => ?_
  rw [hx] at h
  unfold ServiceCall.removed answered at h
  dsimp only at h
  rw [hdone] at h
  exact absurd h (show ¬ (400 : Int) ≤ statusNoContent by decide)

theorem passwordChanged_error {p : Db ChangePasswordResult}
    (hp : AllOrNothing (·.success = true) p)
    (h : 400 ≤ (answered (ServiceCall.passwordChanged (site.host a) (p.result c))).statusCode) :
    (p.after c).db = c.db := by
  refine hp c fun x hx hdone => ?_
  rw [hx] at h
  unfold ServiceCall.passwordChanged answered at h
  dsimp only at h
  rw [hdone] at h
  exact absurd h (show ¬ (400 : Int) ≤ statusNoContent by decide)

/-! ## Every call -/

theorem call_error (call : ServiceCall) (c : Connection) (hpos : ∀ t, ∀ i ∈ c.db.ids t, 0 < i)
    (h : 400 ≤ (answered (call.reply (site.host a) c)).statusCode) :
    (call.exec (site.host a) c).db = c.db ∨
      (answered (call.reply (site.host a) c)).statusCode = 400 ∧
        Unshown site call c.db (call.exec (site.host a) c).db := by
  have hpos' : ∀ t, ∀ i ∈ (call.exec (site.host a) c).db.ids t, 0 < i := by
    intro t i hi
    rcases (call.changes (site.host a) c).mem_ids hi with hold | hnew
    · exact hpos t i hold
    · omega
  have hgiveUp : ∀ {α : Type} {done : α → Prop} (x : α), AllOrNothing done (pure x) :=
    fun x => allOrNothing_of_readOnly (Prog.readOnly_pure x)
  cases call with
  | graph call =>
    cases call with
    | createWorkflow workflow =>
      exact created_error (r := .workflow workflow) rfl rfl (hpos' .workflow) h
    | updateWorkflow workflow =>
      exact updated_error_of_object (k := .workflow) rfl rfl (hpos' .workflow) h
    | deleteWorkflow id =>
      refine .inl (removed_error (.read (readOnly_findWorkflow id) fun found => ?_) h)
      cases found with
      | none => exact hgiveUp _
      | some workflow =>
        refine .read (readOnly_canDeleteWorkflow a.env id) fun deletable => ?_
        exact .ite (hgiveUp _) (allOrNothing_removeIn _ _).reported
    | createState state =>
      exact created_error (r := .state state) rfl rfl (hpos' .state) h
    | updateState state =>
      exact updated_error_of_object (k := .state) rfl rfl (hpos' .state) h
    | deleteState id =>
      refine .inl (removed_error (.read (readOnly_findState id) fun found => ?_) h)
      cases found with
      | none => exact hgiveUp _
      | some state =>
        refine .read (readOnly_canDeleteState a.env id) fun deletable => ?_
        exact .ite (hgiveUp _) (allOrNothing_removeIn _ _).reported
    | createEdge edge => exact created_error (r := .edge edge) rfl rfl (hpos' .edge) h
    | deleteEdge id =>
      refine .inl (removed_error (.read (readOnly_findEdge id) fun found => ?_) h)
      cases found with
      | none => exact hgiveUp _
      | some edge => exact (allOrNothing_removeIn _ _).reported
    | createItemType itemType =>
      exact created_error (r := .itemType itemType) rfl rfl (hpos' .itemType) h
    | updateItemType itemType =>
      exact updated_error_of_object (k := .itemType) rfl rfl (hpos' .itemType) h
    | deleteItemType id =>
      refine .inl (deleted_error (.read (readOnly_existsIn .itemType id) fun found => ?_) h)
      exact .ite (hgiveUp _) (allOrNothing_removeUnusedIn _ _ _)
  | createUser user password =>
    exact created_error (r := .user user password) rfl rfl (hpos' .user) h
  | updateUser user =>
    have hshown : site.shown .user =
        site.shownWith SqliteUserRepository.mapRowToUser Dto.User.toJson := rfl
    refine updated_error (k := .user) rfl hshown (fun x r hr => ?_) (fun x json _ => ⟨_, rfl⟩)
      (hpos' .user) h
    cases hr
    decide
  | deleteUser id => exact .inl (deleted_error (allOrNothing_removeIn _ _) h)
  | changePassword userId oldPassword newPassword =>
    exact .inl (passwordChanged_error (allOrNothing_changePassword _ _ _ _) h)
  | createProject project =>
    exact created_error (r := .project a.now project) rfl rfl (hpos' .project) h
  | updateProject project =>
    exact updated_error_of_object (k := .project) rfl rfl (hpos' .project) h
  | archiveProject id =>
    refine .inl (deleted_error (.read (readOnly_existsIn .project id) fun found => ?_) h)
    exact .ite (hgiveUp _) (.ite (hgiveUp _) allOrNothing_updateIn)
  | createPhase phase => exact created_error (r := .phase phase) rfl rfl (hpos' .phase) h
  | updatePhase phase => exact updated_error_of_object (k := .phase) rfl rfl (hpos' .phase) h
  | archivePhase id =>
    refine .inl (deleted_error (.read (readOnly_existsIn .phase id) fun found => ?_) h)
    exact .ite (hgiveUp _) (.ite (hgiveUp _) allOrNothing_updateIn)
  | createFieldType fieldType =>
    exact created_error (r := .fieldType fieldType) rfl rfl (hpos' .fieldType) h
  | updateFieldType fieldType =>
    exact updated_error_of_object (k := .fieldType) rfl rfl (hpos' .fieldType) h
  | deleteFieldType id =>
    refine .inl (deleted_error (.read (readOnly_existsIn .fieldType id) fun found => ?_) h)
    exact .ite (hgiveUp _) (allOrNothing_removeUnusedIn _ _ _)

/-! ## Whole runs -/

/-- The ids are given out from 1, so those of a run are positive if they were. -/
theorem ids_pos_run {t : Table} (arrivals : List Arrival)
    (hpos : ∀ i ∈ s.connection.db.ids t, 0 < i) :
    ∀ i ∈ (arrivals.foldl site.serve s).connection.db.ids t, 0 < i := by
  intro i hi
  have hchanges : Changes (fun _ => True) s.connection.db
      (arrivals.foldl site.serve s).connection.db := changes_run fun _ _ _ _ _ _ => trivial
  rcases hchanges.mem_ids hi with hold | hnew
  · exact hpos i hold
  · omega

/-- **An error changes nothing**, unless it is a 400 for a row that was written and cannot be
shown. -/
theorem error_changes_nothing (site : Site) (start : Server)
    (hpos : ∀ t, ∀ i ∈ start.connection.db.ids t, 0 < i) (arrivals : List Arrival) (a : Arrival)
    (hstatus : 400 ≤ (site.response (arrivals.foldl site.serve start) a).statusCode) :
    (site.serve (arrivals.foldl site.serve start) a).connection.db =
        (arrivals.foldl site.serve start).connection.db ∨
      (site.response (arrivals.foldl site.serve start) a).statusCode = 400 ∧
        ∃ call, site.Commits (arrivals.foldl site.serve start) a call ∧
          site.Unshown call (arrivals.foldl site.serve start).connection.db
            (site.serve (arrivals.foldl site.serve start) a).connection.db := by
  have hpos' := fun t => @ids_pos_run site start t arrivals (hpos t)
  generalize arrivals.foldl site.serve start = s at hstatus hpos' ⊢
  cases hcall : site.committed s a with
  | none =>
    left
    rw [connection_serve, hcall]
    rfl
  | some call =>
    rw [response_of_committed hcall] at hstatus ⊢
    rw [connection_of_committed hcall]
    refine (call_error call s.connection hpos' hstatus).imp_right fun ⟨h400, hunshown⟩ => ?_
    exact ⟨h400, call, committed_eq_some.mp hcall, hunshown⟩

/-- A second workflow with the caption of the first is refused. -/
theorem error_changes_nothing_alpha :
    (sampleSite.serve ([postWorkflow "Alpha"].foldl sampleSite.serve sampleStart)
        (postWorkflow "Alpha")).connection.db =
        ([postWorkflow "Alpha"].foldl sampleSite.serve sampleStart).connection.db ∨
      (sampleSite.response ([postWorkflow "Alpha"].foldl sampleSite.serve sampleStart)
          (postWorkflow "Alpha")).statusCode = 400 ∧
        ∃ call, sampleSite.Commits ([postWorkflow "Alpha"].foldl sampleSite.serve sampleStart)
            (postWorkflow "Alpha") call ∧
          sampleSite.Unshown call
            ([postWorkflow "Alpha"].foldl sampleSite.serve sampleStart).connection.db
            (sampleSite.serve ([postWorkflow "Alpha"].foldl sampleSite.serve sampleStart)
              (postWorkflow "Alpha")).connection.db :=
  error_changes_nothing sampleSite sampleStart (fun t i hi => by cases t <;> cases hi)
    [postWorkflow "Alpha"] (postWorkflow "Alpha") (by decide +kernel)

end Site

end Farado
