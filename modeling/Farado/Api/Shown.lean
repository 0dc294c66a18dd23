import Farado.Api.Changes
import Farado.Api.Requests
import Farado.Services.Reports

/-!
# What is stored is what is shown

A reply to a creation and the replies to later requests for the same object are made from one row.
Between them the row can only be updated by a call that names it, or go; and when it has gone, its id
is not given again.
-/

namespace Farado

open Acting Http Relational Steps
open Farado.RestServer (member)

/-- No deletion that a call makes changes a row that it leaves, in these tables. -/
theorem ServiceCall.spares (call : ServiceCall) {t : Table} (hitem : t ≠ .item)
    (hboard : t ≠ .board) : call.change.Spares t := by
  rcases allCascade_or t with hcascade | rfl | rfl | rfl
  · exact Change.spares_of_cascades (cascades_of_allCascade hcascade) _
  · apply Change.spares_of_setNull
    intro fk hfk hclears
    obtain rfl := List.mem_singleton.mp hfk
    refine ⟨fun fk' hfk' => ?_, fun i h => ?_⟩
    · obtain rfl := List.mem_singleton.mp hfk'
      rfl
    · cases call with
      | graph call => cases call <;> cases h
      | _ => cases h
  · exact absurd rfl hitem
  · exact absurd rfl hboard

namespace Site

open Bodies (sendErrorResponse)

/-- What a run may have changed, by the calls that its requests made. -/
theorem changes_run {site : Site} {s : Server} {arrivals : List Arrival} {allowed : Change V1 → Prop}
    (h : ∀ before a after call, arrivals = before ++ a :: after →
      site.Commits (before.foldl site.serve s) a call → allowed call.change) :
    Changes allowed s.connection.db (arrivals.foldl site.serve s).connection.db := by
  have halong : Along site.serve
      (fun s a => ∀ call, site.Commits s a call → allowed call.change) s arrivals :=
    along_of_split fun before a after harrivals call => h before a after call harrivals
  refine halong.invariant (I := fun s' : Server =>
    Changes allowed s.connection.db s'.connection.db) (fun s' a hs' hallowed => ?_) .refl
  rw [connection_serve]
  cases hcall : site.committed s' a with
  | none => exact hs'
  | some call =>
    refine hs'.trans ((call.changes (site.host a) s'.connection).mono fun change hchange => ?_)
    rw [hchange]
    exact hallowed call (committed_eq_some.mp hcall)

/-! ## Showing a row -/

/-- The handler that shows the rows of a table one by one, and the path with the id. -/
def viewer : Table → Option (RouteHandler × List PathPart)
  | .user => some (.handleGetUser, member "/api/users")
  | .workflow => some (.handleGetWorkflow, member "/api/workflows")
  | .state => some (.handleGetState, member "/api/states")
  | .edge => some (.handleGetEdge, member "/api/edges")
  | .project => some (.handleGetProject, member "/api/projects")
  | .phase => some (.handleGetPhase, member "/api/phases")
  | .itemType => some (.handleGetItemType, member "/api/item-types")
  | .fieldType => some (.handleGetFieldType, member "/api/field-types")
  | _ => none

variable (site : Site)

/-- The request asks for the row `i` of the table. -/
def Views (a : Arrival) (t : Table) (i : Int) : Prop :=
  ∃ view route, viewer t = some view ∧ site.Routes a route ∧ route.handler = view.1 ∧
    site.extractIdFromPath a view.2 = .ok i

/-- A row as it is shown, if it can be read and converted. -/
def shownWith {t : Table} {Dto : Type} (mapRow : Row t → Except Error Dto) (toJson : Dto → Json)
    (row : Row t) : Option Json := do
  let x ← (mapRow row).toOption
  (site.toWebJson toJson x).toOption

def shown : (t : Table) → Row t → Option Json
  | .user, row => site.shownWith SqliteUserRepository.mapRowToUser Dto.User.toJson row
  | .workflow, row =>
      site.shownWith SqliteWorkflowRepository.mapRowToWorkflow Dto.Workflow.toJson row
  | .state, row => site.shownWith SqliteStateRepository.mapRowToState Dto.State.toJson row
  | .edge, row => site.shownWith SqliteEdgeRepository.mapRowToEdge Dto.Edge.toJson row
  | .project, row => site.shownWith SqliteProjectRepository.mapRowToProject Dto.Project.toJson row
  | .phase, row => site.shownWith SqlitePhaseRepository.mapRowToPhase Dto.Phase.toJson row
  | .itemType, row =>
      site.shownWith SqliteItemTypeRepository.mapRowToItemType Dto.ItemType.toJson row
  | .fieldType, row =>
      site.shownWith SqliteFieldTypeRepository.mapRowToFieldType Dto.FieldType.toJson row
  | _, _ => none

variable {site} {a : Arrival} {s : Server} {t : Table} {i : Int}

theorem shownWith_eq_some {Dto : Type} {mapRow : Row t → Except Error Dto} {toJson : Dto → Json}
    {row : Row t} {json : Json} :
    site.shownWith mapRow toJson row = some json ↔
      ∃ x, mapRow row = .ok x ∧ site.toWebJson toJson x = .ok json := by
  unfold shownWith
  constructor
  · intro h
    cases hx : mapRow row with
    | error e =>
      rw [hx] at h
      cases h
    | ok x =>
      rw [hx] at h
      refine ⟨x, rfl, ?_⟩
      change (site.toWebJson toJson x).toOption = some json at h
      cases hjson : site.toWebJson toJson x with
      | error e =>
        rw [hjson] at h
        cases h
      | ok json' =>
        rw [hjson] at h
        cases h
        rfl
  · rintro ⟨x, hx, hjson⟩
    rw [hx]
    show (site.toWebJson toJson x).toOption = some json
    rw [hjson]
    rfl

/-- What `handleGet` returns. -/
theorem exec_handleGet {Dto : Type} {mapRow : Row t → Except Error Dto} {toJson : Dto → Json}
    {pattern : List PathPart} {invalidId notFound : Bytes}
    (hid : site.extractIdFromPath a pattern = .ok i) (s : Server) :
    ((site.handleGet a toJson pattern (findByIdIn t mapRow) invalidId notFound).exec s).1 =
      if i ≤ 0 then .ok (sendErrorResponse 400 invalidId)
      else
        match (findByIdIn t mapRow i).result s.connection with
        | .error e => .error (site.thrown e)
        | .ok none => .ok (sendErrorResponse 404 notFound)
        | .ok (some x) =>
            (site.toWebJson toJson x).map fun json =>
              { statusCode := statusOk, body := some json } := by
  unfold handleGet
  rw [Program.exec_bind, Program.exec_known, hid]
  dsimp only
  split
  · rfl
  rw [exec_onService_bind]
  cases (findByIdIn t mapRow i).result s.connection with
  | error e => rfl
  | ok found =>
    cases found with
    | none => rfl
    | some x =>
      dsimp only
      rw [Program.exec_bind, Program.exec_known]
      cases site.toWebJson toJson x <;> rfl

/-- A row is shown exactly when there is one with the id that can be shown. -/
theorem handleGet_statusOk {Dto : Type} {mapRow : Row t → Except Error Dto} {toJson : Dto → Json}
    {pattern : List PathPart} {invalidId notFound : Bytes} {response : HttpResponse}
    (hid : site.extractIdFromPath a pattern = .ok i) (s : Server) :
    (answered ((site.handleGet a toJson pattern (findByIdIn t mapRow) invalidId notFound).exec s).1 =
          response ∧ response.statusCode = statusOk) ↔
      0 < i ∧ ∃ row ∈ s.connection.db.rows t, row.id = i ∧
        ∃ json, site.shownWith mapRow toJson row = some json ∧
          response = { statusCode := statusOk, body := some json } := by
  have hfound : ∀ x, (findByIdIn t mapRow i).result s.connection = .ok (some x) ↔
      0 < i ∧ ∃ row ∈ s.connection.db.rows t, row.id = i ∧ mapRow row = .ok x :=
    fun x => result_findByIdIn_some
  rw [exec_handleGet hid]
  constructor
  · rintro ⟨rfl, hstatus⟩
    split at hstatus
    · cases hstatus
    · next hpos =>
      rw [if_neg hpos]
      cases hresult : (findByIdIn t mapRow i).result s.connection with
      | error e =>
        rw [hresult] at hstatus
        cases hstatus
      | ok found =>
        rw [hresult] at hstatus
        cases found with
        | none => cases hstatus
        | some x =>
          obtain ⟨hpos, row, hrow, hrid, hx⟩ := (hfound x).mp hresult
          dsimp only at hstatus ⊢
          cases hjson : site.toWebJson toJson x with
          | error e =>
            rw [hjson] at hstatus
            cases hstatus
          | ok json =>
            exact ⟨hpos, row, hrow, hrid, json, shownWith_eq_some.mpr ⟨x, hx, hjson⟩, rfl⟩
  · rintro ⟨hpos, row, hrow, hrid, json, hshown, rfl⟩
    obtain ⟨x, hx, hjson⟩ := shownWith_eq_some.mp hshown
    rw [if_neg (by omega), (hfound x).mpr ⟨hpos, row, hrow, hrid, hx⟩]
    dsimp only
    rw [hjson]
    exact ⟨rfl, rfl⟩

/-- The handler shows the rows of its table. -/
theorem callHandler_view {userId : Bytes} {view : RouteHandler × List PathPart}
    {response : HttpResponse} (hview : viewer t = some view)
    (hid : site.extractIdFromPath a view.2 = .ok i) (s : Server) :
    (answered ((site.callHandler a userId view.1).exec s).1 = response ∧
        response.statusCode = statusOk) ↔
      0 < i ∧ ∃ row ∈ s.connection.db.rows t, row.id = i ∧ ∃ json, site.shown t row = some json ∧
        response = { statusCode := statusOk, body := some json } := by
  cases t with
  | user | workflow | state | edge | project | phase | itemType | fieldType =>
    cases hview
    exact handleGet_statusOk hid s
  | _ => cases hview

/-! ## Asking for a row -/

theorem exec_handleRequest_accepted {route : RouteInfo} {userId : Bytes}
    (hroute : site.Routes a route) (hprotected : route.isPublic = false)
    (huser : site.Accepts s a userId) :
    (site.handleRequest a).exec s =
      (site.callHandler a userId route.handler).exec { s with auth := site.checked s a } := by
  obtain ⟨path, id, hpath, hmatch⟩ := hroute
  rw [exec_handleRequest hpath]
  have hcases := @dispatch_cases site a s path
  dsimp only
  generalize (RestServer.handleRequest site.jwt site.clock site.secretKey
    (RestServer.registerRoutes site.set) site.hasMiddleware a.request.method path
    a.request.authorization).run s.auth = x at hcases ⊢
  obtain ⟨dispatch, auth⟩ := x
  rcases hcases with ⟨-, -, -, -, -, hnone⟩ | ⟨route', id', hmatch', hcall⟩
  · exact absurd huser (hnone route id userId hmatch)
  obtain ⟨rfl, -⟩ : route = route' ∧ id = id' := by simpa using hmatch.symm.trans hmatch'
  rcases hcall with ⟨hpublic, -⟩ | ⟨-, userId', huser', ⟨⟩⟩
  · rw [hprotected] at hpublic
    cases hpublic
  · rw [huser.unique huser']
    rfl

theorem Views.not_public {view : RouteHandler × List PathPart} {route : RouteInfo}
    (hview : viewer t = some view) (hroute : site.Routes a route) (h : route.handler = view.1) :
    route.isPublic = false := by
  cases hpublic : route.isPublic with
  | false => rfl
  | true =>
    have hmem := RestServer.public_registerRoutes site.set hroute.mem.1 hpublic
    rw [h] at hmem
    cases t with
    | user | workflow | state | edge | project | phase | itemType | fieldType =>
      cases hview
      simp [RestServer.publicHandlers] at hmem
    | _ => cases hview

theorem response_of_accepts {route : RouteInfo} {userId : Bytes} (hroute : site.Routes a route)
    (hprotected : route.isPublic = false) (huser : site.Accepts s a userId) :
    site.response s a = answered
      ((site.callHandler a userId route.handler).exec { s with auth := site.checked s a }).1 := by
  rw [response_eq, exec_handleRequest_accepted hroute hprotected huser]

/-- Without a token that is accepted the reply on a protected route is an error. -/
theorem accepts_of_statusOk {route : RouteInfo} (hroute : site.Routes a route)
    (hprotected : route.isPublic = false) (hstatus : (site.response s a).statusCode = statusOk) :
    ∃ userId, site.Accepts s a userId := by
  obtain ⟨r, hhandled, heq⟩ := site.handled a s
  rw [heq] at hstatus
  generalize site.serve s a = s' at hhandled
  cases hhandled with
  | refused hrefuses =>
    have hle := hrefuses.answered
    rw [hstatus] at hle
    cases hle
  | unchecked hroute' hpublic =>
    rw [← hroute.unique hroute', hprotected] at hpublic
    cases hpublic
  | accepted _ _ huser => exact ⟨_, huser⟩

/-- **What is shown**: a request for a row is answered with it exactly when its token is accepted and
there is such a row that can be shown. -/
theorem response_view {response : HttpResponse} (h : site.Views a t i) :
    (site.response s a = response ∧ response.statusCode = statusOk) ↔
      (∃ userId, site.Accepts s a userId) ∧ 0 < i ∧
        ∃ row ∈ s.connection.db.rows t, row.id = i ∧ ∃ json, site.shown t row = some json ∧
          response = { statusCode := statusOk, body := some json } := by
  obtain ⟨view, route, hview, hroute, hhandler, hid⟩ := h
  have hprotected := Views.not_public hview hroute hhandler
  constructor
  · rintro ⟨rfl, hstatus⟩
    obtain ⟨userId, huser⟩ := accepts_of_statusOk hroute hprotected hstatus
    refine ⟨⟨userId, huser⟩, ?_⟩
    rw [response_of_accepts hroute hprotected huser, hhandler] at hstatus ⊢
    exact (callHandler_view hview hid { s with auth := site.checked s a }).mp ⟨rfl, hstatus⟩
  · rintro ⟨⟨userId, huser⟩, hshown⟩
    rw [response_of_accepts hroute hprotected huser, hhandler]
    exact (callHandler_view hview hid _).mpr hshown

/-! ## Creating a row -/

/-- What is replied where an object is returned with this status. -/
theorem replied_object {Dto : Type} {toJson : Dto → Json} {statusCode : Int} {failed : Int × Bytes}
    {result : Except Error (Option Dto)} (hfailed : failed.1 ≠ statusCode) (hcode : 400 ≠ statusCode)
    (h : (Bodies.caught (Bodies.replyTo (site.host a) failed
      (Bodies.replyObject (site.host a) toJson statusCode) result)).statusCode = statusCode) :
    ∃ x json, result = .ok (some x) ∧ site.toWebJson toJson x = .ok json ∧
      Bodies.caught (Bodies.replyTo (site.host a) failed
        (Bodies.replyObject (site.host a) toJson statusCode) result) =
          { statusCode := statusCode, body := some json } := by
  unfold Bodies.replyTo at h ⊢
  cases result with
  | error e => exact absurd h hcode
  | ok found =>
    cases found with
    | none => exact absurd h hfailed
    | some x =>
      have hreply : Bodies.replyObject (site.host a) toJson statusCode x =
          (site.toWebJson toJson x).map fun json =>
            { statusCode := statusCode, body := some json } := by
        unfold Bodies.replyObject
        show (site.toWebJson toJson x >>= _) = _
        cases site.toWebJson toJson x <;> rfl
      dsimp only at h ⊢
      rw [hreply] at h ⊢
      cases hjson : site.toWebJson toJson x with
      | error e =>
        rw [hjson] at h
        exact absurd h hcode
      | ok json => exact ⟨x, json, rfl, hjson, rfl⟩

/-- The reply to a creation shows the new row. -/
theorem created_shown {r : CreateRequest} {toJson : r.Dto → Json} {failed : Int × Bytes}
    {c : Connection} (hfailed : failed.1 ≠ statusCreated)
    (h : (answered (ServiceCall.created (site.host a) toJson failed
      ((r.serve a.env site.sha256).result c))).statusCode = statusCreated) :
    ∃ row ∈ ((r.serve a.env site.sha256).after c).db.rows r.table, row.id = c.db.nextId r.table ∧
      ∃ json, site.shownWith r.mapRow toJson row = some json ∧
        answered (ServiceCall.created (site.host a) toJson failed
          ((r.serve a.env site.sha256).result c)) =
            { statusCode := statusCreated, body := some json } := by
  obtain ⟨x, json, hresult, hjson, heq⟩ := replied_object hfailed (by decide) h
  obtain ⟨-, row, hrow, hid, hx⟩ := (r.reports_serve a.env site.sha256).row hresult
  exact ⟨row, hrow, hid, json, shownWith_eq_some.mpr ⟨x, hx, hjson⟩, heq⟩

theorem call_created {call : ServiceCall} {c : Connection} (hchange : call.change = .insert t)
    (h : (answered (call.reply (site.host a) c)).statusCode = statusCreated) :
    ∃ row ∈ (call.exec (site.host a) c).db.rows t, row.id = c.db.nextId t ∧
      ∃ json, site.shown t row = some json ∧ answered (call.reply (site.host a) c) =
        { statusCode := statusCreated, body := some json } := by
  cases call with
  | graph call =>
    cases call with
    | createWorkflow workflow =>
      cases hchange
      exact created_shown (r := .workflow workflow) (by decide) h
    | createState state =>
      cases hchange
      exact created_shown (r := .state state) (by decide) h
    | createEdge edge =>
      cases hchange
      exact created_shown (r := .edge edge) (by decide) h
    | createItemType itemType =>
      cases hchange
      exact created_shown (r := .itemType itemType) (by decide) h
    | _ => cases hchange
  | createUser user password =>
    cases hchange
    exact created_shown (r := .user user password) (by decide) h
  | createProject project =>
    cases hchange
    exact created_shown (r := .project a.now project) (by decide) h
  | createPhase phase =>
    cases hchange
    exact created_shown (r := .phase phase) (by decide) h
  | createFieldType fieldType =>
    cases hchange
    exact created_shown (r := .fieldType fieldType) (by decide) h
  | _ => cases hchange

/-! ## Deleting a row -/

/-- What the program calls done is the deletion of the row. -/
def Removes {α : Type} (t : Table) (i : Int) (done : α → Bool) (p : Db α) : Prop :=
  ∀ c x, p.result c = .ok x → done x = true →
    i ∈ c.db.ids t ∧ (p.after c).db = (c.db.deleteById t i).2

theorem Removes.read {α β : Type} {done : β → Bool} {p : Db α} {k : α → Db β} (hp : Prog.ReadOnly p)
    (hk : ∀ a, Removes t i done (k a)) : Removes t i done (p >>= k) := by
  intro c x hx hdone
  unfold Prog.result at hx
  unfold Prog.after
  rw [Prog.run_bind_of_readOnly hp] at hx ⊢
  cases hresult : p.result c with
  | error e =>
    rw [hresult] at hx
    cases hx
  | ok a =>
    rw [hresult] at hx
    exact hk a c x hx hdone

/-- Giving up is not done. -/
theorem removes_pure {α : Type} {done : α → Bool} {x : α} (h : done x = false) :
    Removes t i done (pure x) := by
  intro c y hy hdone
  cases hy
  rw [h] at hdone
  cases hdone

theorem Removes.ite {α : Type} {done : α → Bool} {b : Prop} [Decidable b] {p q : Db α}
    (hp : Removes t i done p) (hq : Removes t i done q) :
    Removes t i done (if b then p else q) := by
  split
  · exact hp
  · exact hq

theorem removes_removeIn (t : Table) (i : Int) : Removes t i id (removeIn t i) := by
  intro c x hx hdone
  rcases run_removeIn_cases (Prog.run_eq (removeIn t i) c) with
    ⟨hfalse, -⟩ | ⟨-, hresult, hafter⟩
  · rw [hfalse] at hx
    cases hx
    cases hdone
  · rw [hresult] at hx
    cases hx
    exact ⟨of_decide_eq_true hdone, congrArg Connection.db hafter⟩

theorem removes_removeUnusedIn (t : Table) (usages : Database V1 → Int → Nat) (i : Int) :
    Removes t i id (removeUnusedIn t usages i) := by
  intro c x hx hdone
  unfold Prog.result at hx
  unfold Prog.after
  by_cases hunused : 0 < i ∧ usages c.db i = 0
  · rw [run_removeUnusedIn_unused hunused.1 hunused.2] at hx ⊢
    cases hx
    exact ⟨of_decide_eq_true hdone, rfl⟩
  · rw [run_removeUnusedIn_used hunused] at hx
    cases hx
    cases hdone

/-- The result that stands for 204. -/
def Done (result : ServiceResult) : Bool := result.success || result.errorCode == statusNoContent

/-- The end of a deletion that says why not. -/
theorem Removes.reported {p : Db Bool} {failed : ServiceResult} (hp : Removes t i id p)
    (hfailed : Done failed = false) :
    Removes t i Done (do if !(← p) then pure failed else pure { success := true }) := by
  intro c x hx hdone
  have hrun := Prog.run_eq (do
    if !(← p) then pure failed else pure { success := true } : Db ServiceResult) c
  rw [hx] at hrun
  rcases Prog.run_bind_cases hrun with ⟨removed, c₁, hremove, hk⟩ | ⟨e, -, he⟩
  · cases removed with
    | false =>
      cases hk
      rw [hfailed] at hdone
      cases hdone
    | true =>
      have hresult : p.result c = .ok true := congrArg Prod.fst hremove
      have hafter : p.after c = c₁ := congrArg Prod.snd hremove
      obtain ⟨-, rfl⟩ := Prod.mk.inj hk
      rw [← hafter]
      exact hp c true hresult rfl
  · cases he

theorem result_of_deleted {notFound : Bytes} {result : Except Error Bool}
    (h : (answered (ServiceCall.deleted (site.host a) notFound result)).statusCode =
      statusNoContent) : result = .ok true := by
  rcases result with e | ⟨_ | _⟩
  · cases h
  · cases h
  · rfl

theorem result_of_removed {result : Except Error ServiceResult}
    (h : (answered (ServiceCall.removed (site.host a) result)).statusCode = statusNoContent) :
    ∃ x, result = .ok x ∧ Done x = true := by
  cases result with
  | error e => cases h
  | ok x =>
    refine ⟨x, rfl, ?_⟩
    unfold Done
    cases hsuccess : x.success with
    | true => rfl
    | false =>
      unfold ServiceCall.removed answered at h
      dsimp only at h
      rw [hsuccess] at h
      exact beq_iff_eq.mpr h

/-- A deletion that is reported as done was made. -/
theorem call_deleted {call : ServiceCall} {c : Connection} (hchange : call.change = .delete t i)
    (h : (answered (call.reply (site.host a) c)).statusCode = statusNoContent) :
    i ∈ c.db.ids t ∧ (call.exec (site.host a) c).db = (c.db.deleteById t i).2 := by
  cases call with
  | graph call =>
    cases call with
    | deleteWorkflow id =>
      cases hchange
      obtain ⟨x, hx, hdone⟩ := result_of_removed h
      refine Removes.read (readOnly_findWorkflow i) (fun found => ?_) c x hx hdone
      cases found with
      | none => exact removes_pure rfl
      | some workflow =>
        refine .read (readOnly_canDeleteWorkflow a.env i) fun deletable => ?_
        exact .ite (removes_pure rfl) ((removes_removeIn _ _).reported rfl)
    | deleteState id =>
      cases hchange
      obtain ⟨x, hx, hdone⟩ := result_of_removed h
      refine Removes.read (readOnly_findState i) (fun found => ?_) c x hx hdone
      cases found with
      | none => exact removes_pure rfl
      | some state =>
        refine .read (readOnly_canDeleteState a.env i) fun deletable => ?_
        exact .ite (removes_pure rfl) ((removes_removeIn _ _).reported rfl)
    | deleteEdge id =>
      cases hchange
      obtain ⟨x, hx, hdone⟩ := result_of_removed h
      refine Removes.read (readOnly_findEdge i) (fun found => ?_) c x hx hdone
      cases found with
      | none => exact removes_pure rfl
      | some edge => exact (removes_removeIn _ _).reported rfl
    | deleteItemType id =>
      cases hchange
      have hremoves : Removes .itemType i id (ItemTypeService.deleteItemType i) :=
        .read (readOnly_existsIn .itemType i) fun found =>
          .ite (removes_pure rfl) (removes_removeUnusedIn _ _ _)
      exact hremoves c true (result_of_deleted h) rfl
    | _ => cases hchange
  | deleteUser id =>
    cases hchange
    exact removes_removeIn _ _ c true (result_of_deleted h) rfl
  | deleteFieldType id =>
    cases hchange
    have hremoves : Removes .fieldType i id (FieldTypeService.deleteFieldType i) :=
      .read (readOnly_existsIn .fieldType i) fun found =>
        .ite (removes_pure rfl) (removes_removeUnusedIn _ _ _)
    exact hremoves c true (result_of_deleted h) rfl
  | _ => cases hchange

/-! ## Whole runs -/

theorem Views.ne (h : site.Views a t i) : t ≠ .item ∧ t ≠ .board := by
  obtain ⟨view, -, hview, -⟩ := h
  constructor
  · rintro rfl
    cases hview
  · rintro rfl
    cases hview

/-- Whatever requests come in between, as long as none of them updates the row: a request for it that
is answered with it is answered with this object; and it is answered with it, if its token is accepted
and nothing was deleted in between. The last part is about positive ids: `findById` looks up no
other. -/
def ReadsAs (site : Site) (s : Server) (t : Table) (i : Int) (json : Json) : Prop :=
  ∀ (between : List Arrival) (b : Arrival), site.Views b t i →
    (∀ before x after call, between = before ++ x :: after →
      site.Commits (before.foldl site.serve s) x call → call.change ≠ .update t i) →
    ((site.response (between.foldl site.serve s) b).statusCode = statusOk →
        (site.response (between.foldl site.serve s) b).body = some json) ∧
      (0 < i →
        (∀ before x after call, between = before ++ x :: after →
          site.Commits (before.foldl site.serve s) x call → ∀ u j, call.change ≠ .delete u j) →
        (∃ userId, site.Accepts (between.foldl site.serve s) b userId) →
        (site.response (between.foldl site.serve s) b).statusCode = statusOk)

theorem readsAs_of_shown {row : Row t} {json : Json} (hrow : row ∈ s.connection.db.rows t)
    (hshown : site.shown t row = some json) : site.ReadsAs s t row.id json := by
  intro between b hviews hkept
  constructor
  · intro hok
    obtain ⟨-, -, row', hrow', hid', json', hshown', hbody⟩ :=
      (response_view hviews).mp ⟨rfl, hok⟩
    have hchanges : Changes (fun change => change.Spares t ∧ change ≠ .update t row.id)
        s.connection.db (between.foldl site.serve s).connection.db :=
      changes_run fun before x after call hbetween hcall =>
        ⟨call.spares hviews.ne.1 hviews.ne.2, hkept before x after call hbetween hcall⟩
    have hle := s.connection.db.integral.ids_le_seq t row hrow
    have hmem := hchanges.mem_rows hrow' (by rw [hid']; exact hle)
      fun change h => by rw [hid']; exact h
    obtain rfl := s.connection.db.integral.eq_of_id hmem hrow hid'
    rw [hbody]
    exact hshown'.symm.trans hshown
  · intro hpos hdelete haccepts
    have hchanges : Changes (fun change => change ≠ .update t row.id ∧ ∀ u j, change ≠ .delete u j)
        s.connection.db (between.foldl site.serve s).connection.db :=
      changes_run fun before x after call hbetween hcall =>
        ⟨hkept before x after call hbetween hcall, hdelete before x after call hbetween hcall⟩
    have hmem := hchanges.rows_mem hrow fun change h => ⟨h.1, Change.leaves_of_ne_delete h.2⟩
    have hread := (response_view hviews).mpr
      ⟨haccepts, hpos, row, hmem, rfl, json, hshown, rfl⟩
    rw [hread.1]

/-- **What was created is what is read**: a creation that succeeds is given an id that no row has.
Whatever requests come in between, as long as none of them updates this row, a request for it that is
answered with it is answered as the creation was; and it is answered with it, if its token is accepted
and nothing was deleted in between. -/
theorem created_is_read (site : Site) (s : Server) (a : Arrival) (call : ServiceCall) (t : Table)
    (hcall : site.Commits s a call) (hinsert : call.change = .insert t)
    (hstatus : (site.response s a).statusCode = statusCreated) (between : List Arrival)
    (b : Arrival) (hviews : site.Views b t (s.connection.db.nextId t))
    (hkept : ∀ before x after call', between = before ++ x :: after →
      site.Commits (before.foldl site.serve (site.serve s a)) x call' →
      call'.change ≠ .update t (s.connection.db.nextId t)) :
    s.connection.db.nextId t ∉ s.connection.db.ids t ∧
      ((site.response (between.foldl site.serve (site.serve s a)) b).statusCode = statusOk →
        (site.response (between.foldl site.serve (site.serve s a)) b).body =
          (site.response s a).body) ∧
      ((∀ before x after call', between = before ++ x :: after →
          site.Commits (before.foldl site.serve (site.serve s a)) x call' →
          ∀ u i, call'.change ≠ .delete u i) →
        (∃ userId, site.Accepts (between.foldl site.serve (site.serve s a)) b userId) →
        (site.response (between.foldl site.serve (site.serve s a)) b).statusCode = statusOk) := by
  have hcommitted := committed_eq_some.mpr hcall
  rw [response_of_committed hcommitted] at hstatus ⊢
  obtain ⟨row, hrow, hid, json, hshown, hresponse⟩ := call_created hinsert hstatus
  rw [← connection_of_committed hcommitted] at hrow
  rw [hresponse]
  rw [← hid] at hviews hkept ⊢
  have hpos : 0 < row.id := by
    rw [hid]
    exact Database.nextId_pos _ _
  obtain ⟨hread, hpresent⟩ := readsAs_of_shown hrow hshown between b hviews hkept
  refine ⟨?_, hread, hpresent hpos⟩
  rw [hid]
  intro hmem
  obtain ⟨q, hq, hqid⟩ := Database.mem_ids.mp hmem
  have hlt := Database.id_lt_nextId hq
  omega

/-- A request for the first workflow. -/
def getWorkflow : Arrival := sampleArrival RestServer.methodGet "/api/workflows/1" ""

theorem views_getWorkflow : sampleSite.Views getWorkflow .workflow 1 := by
  refine ⟨_, ⟨RestServer.methodGet, member "/api/workflows", .handleGetWorkflow, false⟩, rfl, ?_, rfl,
    by decide +kernel⟩
  exact ⟨bytes "/api/workflows/1", some (bytes "1"), rfl, by decide +kernel⟩

/-- A workflow is created, then another one, and the first is read. -/
theorem created_is_read_alpha :
    (1 : Int) ∉ sampleStart.connection.db.ids .workflow ∧
      (sampleSite.response (sampleSite.serve (sampleSite.serve sampleStart (postWorkflow "Alpha"))
        (postWorkflow "Beta")) getWorkflow).body =
          (sampleSite.response sampleStart (postWorkflow "Alpha")).body := by
  have hcall : sampleSite.Commits sampleStart (postWorkflow "Alpha")
      (.graph (.createWorkflow { caption := some (bytes "Alpha") })) :=
    committed_eq_some.mp (by decide +kernel)
  have hlater : sampleSite.committed
      (sampleSite.serve sampleStart (postWorkflow "Alpha")) (postWorkflow "Beta") =
        some (.graph (.createWorkflow { caption := some (bytes "Beta") })) := by
    decide +kernel
  have hread := created_is_read sampleSite sampleStart (postWorkflow "Alpha") _ .workflow hcall rfl
    (by decide +kernel) [postWorkflow "Beta"] getWorkflow views_getWorkflow (by
      intro before x after call' hbetween hcall'
      cases before with
      | nil =>
        cases hbetween
        cases hlater.symm.trans (committed_eq_some.mpr hcall')
        exact nofun
      | cons y before => simp at hbetween)
  exact ⟨hread.1, hread.2.1 (by decide +kernel)⟩

/-- **What was deleted stays away**: once a deletion was reported as done, no request for the row is
answered with one again, whatever is created later. -/
theorem deleted_stays_away (site : Site) (s : Server) (a : Arrival) (call : ServiceCall) (t : Table)
    (i : Int) (hcall : site.Commits s a call) (hdelete : call.change = .delete t i)
    (hstatus : (site.response s a).statusCode = statusNoContent) (between : List Arrival)
    (b : Arrival) (hviews : site.Views b t i) :
    (site.response (between.foldl site.serve (site.serve s a)) b).statusCode ≠ statusOk := by
  have hcommitted := committed_eq_some.mpr hcall
  rw [response_of_committed hcommitted] at hstatus
  obtain ⟨hmem, hdeleted⟩ := call_deleted hdelete hstatus
  intro hok
  obtain ⟨-, -, row, hrow, hid, -⟩ := (response_view hviews).mp ⟨rfl, hok⟩
  have hchanges : Changes (fun _ => True) (site.serve s a).connection.db
      (between.foldl site.serve (site.serve s a)).connection.db :=
    changes_run fun _ _ _ _ _ _ => trivial
  rcases hchanges.mem_ids (Database.mem_ids.mpr ⟨row, hrow, hid⟩) with hafter | hlt
  · rw [connection_of_committed hcommitted, hdeleted] at hafter
    obtain ⟨q, hq, hqid⟩ := Database.mem_ids.mp hafter
    exact Database.id_ne_of_mem_deleteById hq hqid
  · obtain ⟨q, hq, hqid⟩ := Database.mem_ids.mp hmem
    have hle := s.connection.db.integral.ids_le_seq t q hq
    rw [connection_of_committed hcommitted, hdeleted] at hlt
    rw [Database.deleteById, Database.deleteWhere_seq] at hlt
    omega

/-- A workflow is deleted, and another one created. -/
theorem deleted_stays_away_alpha :
    (sampleSite.response (sampleSite.serve (sampleSite.serve
        (sampleSite.serve sampleStart (postWorkflow "Alpha"))
        (sampleArrival RestServer.methodDel "/api/workflows/1" "")) (postWorkflow "Beta"))
      getWorkflow).statusCode ≠ statusOk :=
  deleted_stays_away sampleSite (sampleSite.serve sampleStart (postWorkflow "Alpha"))
    (sampleArrival RestServer.methodDel "/api/workflows/1" "") (.graph (.deleteWorkflow 1))
    .workflow 1 (committed_eq_some.mp (by decide +kernel)) rfl (by decide +kernel)
    [postWorkflow "Beta"] getWorkflow views_getWorkflow

end Site

end Farado
