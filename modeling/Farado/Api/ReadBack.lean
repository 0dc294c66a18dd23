import Farado.Api.Shown
import Farado.Services.Paging

/-!
# What was answered before

An object is returned in three places: by a creation or an update, in a list, and by itself. Whatever
requests come in between, the three agree, as long as none of them updates the row.
-/

namespace Farado

open Acting Http Relational Steps

namespace Site

open Bodies (sendErrorResponse)

variable {site : Site} {a : Arrival} {s : Server} {t : Table} {i : Int}

/-! ## Updating a row -/

/-- The reply to an update shows the row as it is now. -/
theorem updated_shown {k : Stored} {d : k.Dto} {toJson : k.Dto → Json} {failed : Bytes}
    {c : Connection}
    (h : (answered (ServiceCall.updated (site.host a)
      (Bodies.replyObject (site.host a) toJson statusOk) failed
      ((k.serveUpdate a.env a.now d).result c))).statusCode = statusOk) :
    0 < (k.id d).getD 0 ∧ ∃ row ∈ ((k.serveUpdate a.env a.now d).after c).db.rows k.table,
      row.id = (k.id d).getD 0 ∧
      ∃ json, site.shownWith k.reader.mapRow toJson row = some json ∧
        answered (ServiceCall.updated (site.host a)
          (Bodies.replyObject (site.host a) toJson statusOk) failed
          ((k.serveUpdate a.env a.now d).result c)) =
            { statusCode := statusOk, body := some json } := by
  obtain ⟨x, json, hresult, hjson, heq⟩ :=
    replied_object (show (404 : Int) ≠ statusOk by decide) (by decide) h
  obtain ⟨hpos, row, hrow, hid, hmap⟩ := (k.reports_serveUpdate a.env a.now d).row hresult
  exact ⟨hpos, row, hrow, hid, json, shownWith_eq_some.mpr ⟨x, hmap, hjson⟩, heq⟩

/-- An archiving returns nothing. -/
theorem deleted_ne_statusOk {notFound : Bytes} (result : Except Error Bool) :
    (answered (ServiceCall.deleted (site.host a) notFound result)).statusCode ≠ statusOk := by
  rcases result with e | ⟨_ | _⟩
  · exact (by decide : (500 : Int) ≠ statusOk)
  · exact (by decide : (404 : Int) ≠ statusOk)
  · exact (by decide : statusNoContent ≠ statusOk)

theorem call_updated {call : ServiceCall} {c : Connection} (hchange : call.change = .update t i)
    (huser : t ≠ .user)
    (h : (answered (call.reply (site.host a) c)).statusCode = statusOk) :
    0 < i ∧ ∃ row ∈ (call.exec (site.host a) c).db.rows t, row.id = i ∧
      ∃ json, site.shown t row = some json ∧ answered (call.reply (site.host a) c) =
        { statusCode := statusOk, body := some json } := by
  cases call with
  | graph call =>
    cases call with
    | updateWorkflow workflow =>
      cases hchange
      exact updated_shown (k := .workflow) h
    | updateState state =>
      cases hchange
      exact updated_shown (k := .state) h
    | updateItemType itemType =>
      cases hchange
      exact updated_shown (k := .itemType) h
    | _ => cases hchange
  | updateUser user =>
    cases hchange
    exact absurd rfl huser
  | changePassword userId oldPassword newPassword =>
    cases hchange
    exact absurd rfl huser
  | updateProject project =>
    cases hchange
    exact updated_shown (k := .project) h
  | archiveProject id => exact absurd h (deleted_ne_statusOk _)
  | updatePhase phase =>
    cases hchange
    exact updated_shown (k := .phase) h
  | archivePhase id => exact absurd h (deleted_ne_statusOk _)
  | updateFieldType fieldType =>
    cases hchange
    exact updated_shown (k := .fieldType) h
  | _ => cases hchange

/-- **What an update returns is what is read**, where it returns the object; the row then has a
positive id. Users are not returned by an update. -/
theorem updated_is_read (site : Site) (s : Server) (a : Arrival) (call : ServiceCall) (t : Table)
    (i : Int) (hcall : site.Commits s a call) (hupdate : call.change = .update t i)
    (huser : t ≠ .user) (hstatus : (site.response s a).statusCode = statusOk) :
    0 < i ∧ ∃ json, (site.response s a).body = some json ∧
      site.ReadsAs (site.serve s a) t i json := by
  have hcommitted := committed_eq_some.mpr hcall
  rw [response_of_committed hcommitted] at hstatus ⊢
  obtain ⟨hpos, row, hrow, rfl, json, hshown, hresponse⟩ := call_updated hupdate huser hstatus
  rw [← connection_of_committed hcommitted] at hrow
  rw [hresponse]
  exact ⟨hpos, json, rfl, readsAs_of_shown hrow hshown⟩

/-- A workflow is created and given another caption. -/
theorem updated_is_read_alpha :
    ∃ json, (sampleSite.response (sampleSite.serve sampleStart (postWorkflow "Alpha"))
        (sampleArrival RestServer.methodPut "/api/workflows/1"
          "\x7b\"caption\":\"Beta\"\x7d")).body = some json ∧
      sampleSite.ReadsAs (sampleSite.serve (sampleSite.serve sampleStart (postWorkflow "Alpha"))
        (sampleArrival RestServer.methodPut "/api/workflows/1"
          "\x7b\"caption\":\"Beta\"\x7d")) .workflow 1 json :=
  (updated_is_read sampleSite _ _ (.graph (.updateWorkflow {
      id := some 1, caption := some (bytes "Beta") })) .workflow 1
    (committed_eq_some.mp (by decide +kernel)) rfl (by decide) (by decide +kernel)).2

/-! ## Lists -/

/-- The handler that lists the rows of a table. -/
def lister : Table → Option RouteHandler
  | .user => some .handleGetUsers
  | .workflow => some .handleGetWorkflows
  | .state => some .handleGetStates
  | .edge => some .handleGetEdges
  | .project => some .handleGetProjects
  | .phase => some .handleGetPhases
  | .itemType => some .handleGetItemTypes
  | .fieldType => some .handleGetFieldTypes
  | _ => none

/-- The request asks for a list of the table. -/
def Lists (site : Site) (a : Arrival) (t : Table) : Prop :=
  ∃ handler route, lister t = some handler ∧ site.Routes a route ∧ route.handler = handler

/-- What is listed are rows of the table, none of them twice. -/
def ListsRows {Item : Type} (t : Table) (mapRow : Row t → Except Error Item)
    (p : Db (List Item × Int)) : Prop :=
  ∀ c found total, p.result c = .ok (found, total) →
    ∃ rows : List (Row t), rows.Nodup ∧ rows ⊆ c.db.rows t ∧ rows.mapM mapRow = .ok found

theorem nodup_pageRows {env : Environment} {db : Database V1} {t : Table} {p : Row t → Bool}
    {le : Row t → Row t → Bool} {page pageSize : Int} :
    (pageRows env db t p le page pageSize).Nodup := by
  have hrows : (db.rows t).Nodup := (db.integral.ids_nodup t).of_map _
  have hnodup : (env.arrange le ((db.rows t).filter p)).Nodup :=
    (env.arrange_perm le _).nodup_iff.mpr (hrows.filter _)
  unfold pageRows limitRows
  dsimp only
  split
  · exact hnodup.sublist (List.drop_sublist _ _)
  · exact hnodup.sublist ((List.take_sublist _ _).trans (List.drop_sublist _ _))

theorem listsRows_list (env : Environment) (q : ListRequest) (page pageSize : Int) :
    ListsRows q.table q.reader.mapRow (q.list env page pageSize) := by
  rw [ListRequest.list_eq, ListRequest.findAll_eq]
  intro c found total h
  unfold findAllIn at h
  obtain ⟨count, -, h⟩ := (readOnly_select _).result_bind_ok.mp h
  split at h
  · cases h
    exact ⟨[], List.nodup_nil, List.nil_subset _, rfl⟩
  · obtain ⟨items, hitems, h⟩ := (readOnly_select _).result_bind_ok.mp h
    cases h
    exact ⟨_, nodup_pageRows, fun row hrow => (List.mem_filter.mp (mem_pageRows hrow)).1, hitems⟩

/-- The objects of a list are the rows as they are shown. -/
theorem shownWith_of_mapM {Item : Type} {mapRow : Row t → Except Error Item} {toJson : Item → Json}
    {rows : List (Row t)} {found : List Item} {items : List Json}
    (hfound : rows.mapM mapRow = .ok found)
    (hitems : found.mapM (site.toWebJson toJson) = .ok items) :
    List.Forall₂ (fun row json => site.shownWith mapRow toJson row = some json) rows items := by
  induction rows generalizing found items with
  | nil =>
    cases hfound
    cases hitems
    exact .nil
  | cons row rows ih =>
    rw [List.mapM_cons] at hfound
    obtain ⟨x, hx, hfound⟩ := bind_eq_ok.mp hfound
    obtain ⟨xs, hxs, hfound⟩ := bind_eq_ok.mp hfound
    cases hfound
    rw [List.mapM_cons] at hitems
    obtain ⟨json, hjson, hitems⟩ := bind_eq_ok.mp hitems
    obtain ⟨jsons, hjsons, hitems⟩ := bind_eq_ok.mp hitems
    cases hitems
    exact .cons (shownWith_eq_some.mpr ⟨x, hx, hjson⟩) (ih hxs hjsons)

/-- A reply that is not an error has no exception behind it. -/
theorem ok_of_known {α : Type} {r : Except StdException α} {k : α → Serving HttpResponse}
    (h : (answered ((Program.known r >>= k).exec s).1).statusCode = statusOk) :
    ∃ x, r = .ok x ∧ (Program.known r >>= k).exec s = (k x).exec s := by
  cases r with
  | ok x => exact ⟨x, rfl, Program.exec_bind_ok (Program.exec_known (.ok x) s)⟩
  | error e =>
    rw [Program.exec_bind_error (Program.exec_known (.error e) s)] at h
    cases h

theorem ok_of_onService {α : Type} {p : Db α} {k : α → Serving HttpResponse}
    (h : (answered ((site.onService p >>= k).exec s).1).statusCode = statusOk) :
    ∃ x, p.result s.connection = .ok x ∧ (site.onService p >>= k).exec s =
      (k x).exec { s with connection := p.after s.connection } := by
  rw [exec_onService_bind] at h ⊢
  cases hresult : p.result s.connection with
  | ok x => exact ⟨x, rfl, rfl⟩
  | error e =>
    rw [hresult] at h
    cases h

/-- A list that is answered lists rows. -/
theorem handleGetAll_statusOk {Item : Type} {mapRow : Row t → Except Error Item}
    {toJson : Item → Json}
    {find : QueryParams → Except StdException (Int → Int → Db (List Item × Int))}
    (hfind : ∀ params list, find params = .ok list →
      ∀ page pageSize, ListsRows t mapRow (list page pageSize))
    (h : (answered ((site.handleGetAll a toJson find).exec s).1).statusCode = statusOk) :
    ∃ (rows : List (Row t)) (items : List Json) (rest : List (Bytes × Json)), rows.Nodup ∧
      rows ⊆ s.connection.db.rows t ∧
      List.Forall₂ (fun row json => site.shownWith mapRow toJson row = some json) rows items ∧
      (answered ((site.handleGetAll a toJson find).exec s).1).body =
        some (.object ((bytes "items", .array items) :: rest)) := by
  unfold handleGetAll at h ⊢
  obtain ⟨params, -, hparams⟩ := ok_of_known h
  rw [hparams] at h ⊢
  obtain ⟨page, -, hpage⟩ := ok_of_known h
  rw [hpage] at h ⊢
  obtain ⟨pageSize, -, hpageSize⟩ := ok_of_known h
  rw [hpageSize] at h ⊢
  obtain ⟨list, hlist, hexec⟩ := ok_of_known h
  rw [hexec] at h ⊢
  obtain ⟨⟨found, total⟩, hresult, hexec⟩ := ok_of_onService h
  rw [hexec] at h ⊢
  obtain ⟨items, hitems, hexec⟩ := ok_of_known h
  rw [hexec]
  obtain ⟨rows, hnodup, hrows, hmap⟩ := hfind params list hlist page pageSize _ _ _ hresult
  exact ⟨rows, items, _, hnodup, hrows, shownWith_of_mapM hmap hitems, rfl⟩

/-- The handler lists the rows of its table. -/
theorem callHandler_list {userId : Bytes} {handler : RouteHandler} (hlister : lister t = some handler)
    (h : (answered ((site.callHandler a userId handler).exec s).1).statusCode = statusOk) :
    ∃ (rows : List (Row t)) (items : List Json) (rest : List (Bytes × Json)), rows.Nodup ∧
      rows ⊆ s.connection.db.rows t ∧
      List.Forall₂ (fun row json => site.shown t row = some json) rows items ∧
      (answered ((site.callHandler a userId handler).exec s).1).body =
        some (.object ((bytes "items", .array items) :: rest)) := by
  cases t with
  | user =>
    cases hlister
    refine handleGetAll_statusOk (fun params list hlist => ?_) h
    cases hlist
    exact listsRows_list a.env .users
  | workflow =>
    cases hlister
    refine handleGetAll_statusOk (fun params list hlist => ?_) h
    cases hlist
    exact listsRows_list a.env .workflows
  | state =>
    cases hlister
    refine handleGetAll_statusOk (fun params list hlist => ?_) h
    obtain ⟨workflowId, hlist⟩ := exists_of_bind hlist
    cases hlist
    exact listsRows_list a.env (.states workflowId)
  | edge =>
    cases hlister
    refine handleGetAll_statusOk (fun params list hlist => ?_) h
    obtain ⟨beginStateId, hlist⟩ := exists_of_bind hlist
    obtain ⟨endStateId, hlist⟩ := exists_of_bind hlist
    cases hlist
    exact listsRows_list a.env (.edges beginStateId endStateId)
  | project =>
    cases hlister
    refine handleGetAll_statusOk (fun params list hlist => ?_) h
    obtain ⟨parentId, hlist⟩ := exists_of_bind hlist
    cases hlist
    exact listsRows_list a.env (.projects parentId _ _)
  | phase =>
    cases hlister
    refine handleGetAll_statusOk (fun params list hlist => ?_) h
    obtain ⟨projectId, hlist⟩ := exists_of_bind hlist
    cases hlist
    exact listsRows_list a.env (.phases projectId _)
  | itemType =>
    cases hlister
    refine handleGetAll_statusOk (fun params list hlist => ?_) h
    obtain ⟨workflowId, hlist⟩ := exists_of_bind hlist
    cases hlist
    exact listsRows_list a.env (.itemTypes workflowId _ _)
  | fieldType =>
    cases hlister
    refine handleGetAll_statusOk (fun params list hlist => ?_) h
    obtain ⟨itemTypeId, hlist⟩ := exists_of_bind hlist
    cases hlist
    exact listsRows_list a.env (.fieldTypes itemTypeId _ _)
  | _ => cases hlister

theorem lister_not_public {set : ServicesSet} {route : RouteInfo}
    (hroute : route ∈ RestServer.registerRoutes set) (hlister : lister t = some route.handler) :
    route.isPublic = false := by
  cases hpublic : route.isPublic with
  | false => rfl
  | true =>
    have hmem := RestServer.public_registerRoutes set hroute hpublic
    cases t with
    | user | workflow | state | edge | project | phase | itemType | fieldType =>
      rw [← Option.some.inj hlister] at hmem
      simp [RestServer.publicHandlers] at hmem
    | _ => cases hlister

theorem lister_not_writer {handler : RouteHandler} (hlister : lister t = some handler) :
    handler ∉ writers := by
  cases t with
  | user | workflow | state | edge | project | phase | itemType | fieldType =>
    cases hlister
    decide
  | _ => cases hlister

/-- A list leaves the connection. -/
theorem connection_of_lists (h : site.Lists a t) :
    (site.serve s a).connection = s.connection := by
  obtain ⟨handler, route, hlister, hroute, hhandler⟩ := h
  have hnone : site.committed s a = none := by
    rw [Option.eq_none_iff_forall_ne_some]
    intro call hcall
    obtain ⟨route', userId, hroute', -, -, -, hmade⟩ := committed_eq_some.mp hcall
    rw [← hroute.unique hroute', hhandler,
      site.callOf_eq_none a userId (lister_not_writer hlister)] at hmade
    cases hmade
  rw [connection_serve, hnone]
  rfl

/-- **What is listed is what is read**: the objects of a list are those of different rows, and each of
them is what a request for its row is answered with. -/
theorem listed_is_read (site : Site) (s : Server) (a : Arrival) (t : Table) (hlists : site.Lists a t)
    (hstatus : (site.response s a).statusCode = statusOk) :
    ∃ (ids : List Int) (items : List Json) (rest : List (Bytes × Json)), ids.Nodup ∧
      ids ⊆ s.connection.db.ids t ∧
      List.Forall₂ (site.ReadsAs (site.serve s a) t) ids items ∧
      (site.response s a).body = some (.object ((bytes "items", .array items) :: rest)) := by
  have hconnection := connection_of_lists (s := s) hlists
  obtain ⟨handler, route, hlister, hroute, rfl⟩ := hlists
  have hprotected := lister_not_public hroute.mem.1 hlister
  obtain ⟨userId, huser⟩ := accepts_of_statusOk hroute hprotected hstatus
  rw [response_of_accepts hroute hprotected huser] at hstatus ⊢
  obtain ⟨rows, items, rest, hnodup, hrows, hshown, hbody⟩ := callHandler_list hlister hstatus
  refine ⟨rows.map (·.id), items, rest, ?_, ?_, ?_, hbody⟩
  · refine hnodup.map_on fun row hrow row' hrow' hid => ?_
    exact s.connection.db.integral.eq_of_id (hrows hrow) (hrows hrow') hid
  · intro i hi
    obtain ⟨row, hrow, rfl⟩ := List.mem_map.mp hi
    exact Database.mem_ids.mpr ⟨row, hrows hrow, rfl⟩
  · rw [List.forall₂_map_left_iff]
    have hboth : List.Forall₂ (fun row json => row ∈ s.connection.db.rows t ∧
        site.shown t row = some json) rows items :=
      (List.forall₂_and_left rows items).mpr ⟨fun row hrow => hrows hrow, hshown⟩
    rw [← hconnection] at hboth
    exact hboth.imp fun row json h => readsAs_of_shown h.1 h.2

/-- Two workflows are created and listed. -/
theorem listed_is_read_alpha :
    ∃ (ids : List Int) (items : List Json) (rest : List (Bytes × Json)), ids.Nodup ∧
      ids ⊆ ([postWorkflow "Alpha", postWorkflow "Beta"].foldl sampleSite.serve
        sampleStart).connection.db.ids .workflow ∧
      List.Forall₂ (sampleSite.ReadsAs (sampleSite.serve
        ([postWorkflow "Alpha", postWorkflow "Beta"].foldl sampleSite.serve sampleStart)
        (sampleArrival RestServer.methodGet "/api/workflows" "")) .workflow) ids items ∧
      (sampleSite.response
        ([postWorkflow "Alpha", postWorkflow "Beta"].foldl sampleSite.serve sampleStart)
        (sampleArrival RestServer.methodGet "/api/workflows" "")).body =
          some (.object ((bytes "items", .array items) :: rest)) :=
  listed_is_read sampleSite _ (sampleArrival RestServer.methodGet "/api/workflows" "") .workflow
    ⟨.handleGetWorkflows,
      ⟨RestServer.methodGet, RestServer.collection "/api/workflows", .handleGetWorkflows, false⟩, rfl,
      ⟨bytes "/api/workflows", none, rfl, by decide +kernel⟩, rfl⟩ (by decide +kernel)

end Site

end Farado
