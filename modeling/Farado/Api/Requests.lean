import Farado.Api.Calls
import Farado.Api.PathIds
import Farado.Api.Reference
import Farado.Api.Unambiguous
import Farado.Lib.Steps.Runs
import Farado.Storage.Reference

/-!
# Request by request

What a request may come to, from its path to the reply. The connection changes only by the call of a
service, and only for a request that names a protected route, whose token has just been accepted.
However many requests arrive, what they leave in the database are the calls that were let through.
-/

namespace Farado

open Acting Http Steps

namespace Site

open Bodies (sendErrorResponse)

variable (site : Site)

/-- The reply when `handleRequest` has returned, or has thrown. -/
def answered (r : Except StdException HttpResponse) : HttpResponse :=
  match r with
  | .ok response => response
  | .error e => sendErrorResponse 500 (bytes "Internal server error: " ++ e.what)

/-- What the dispatch has decided, carried out. -/
def follow (a : Arrival) : RestServer.Dispatch → Serving HttpResponse
  | .reply code message => pure (sendErrorResponse code message)
  | .call handler userId => site.callHandler a userId handler

/-- The request is for this route. -/
def Routes (a : Arrival) (route : RouteInfo) : Prop :=
  ∃ path id, site.library.decode a.request.path = .ok path ∧
    RestServer.matchRoute (RestServer.registerRoutes site.set) a.request.method path =
      some (route, id)

/-- The token of the request is accepted, for this user. -/
def Accepts (s : Server) (a : Arrival) (userId : Bytes) : Prop :=
  site.hasMiddleware = true ∧ ∃ header, a.request.authorization = some header ∧
    ((AuthMiddleware.validateRequest site.jwt site.clock site.secretKey header).run s.auth).1 =
      some userId

/-- The middleware after the header of the request was checked. -/
def checked (s : Server) (a : Arrival) : AuthMiddleware :=
  match a.request.authorization with
  | some header =>
      ((AuthMiddleware.validateRequest site.jwt site.clock site.secretKey header).run s.auth).2
  | none => s.auth

/-- What a request may come to. -/
inductive Handled (a : Arrival) (s : Server) :
    Except StdException HttpResponse → Server → Prop
  /-- No route, or no token that is accepted for it. -/
  | refused {r : Except StdException HttpResponse} {auth : AuthMiddleware} (h : Refuses r)
      (hauth : auth = s.auth ∨ auth = site.checked s a)
      (hnone : ∀ route userId, site.Routes a route → route.isPublic = false →
        ¬ site.Accepts s a userId) : Handled a s r { s with auth := auth }
  | unchecked {r : Except StdException HttpResponse} {s' : Server} {route : RouteInfo}
      (hroute : site.Routes a route) (hpublic : route.isPublic = true)
      (h : site.Served a (site.callOf a [] route.handler) route.handler s r s') : Handled a s r s'
  | accepted {r : Except StdException HttpResponse} {s' : Server} {route : RouteInfo}
      {userId : Bytes} (hroute : site.Routes a route) (hprotected : route.isPublic = false)
      (huser : site.Accepts s a userId)
      (h : site.Served a (site.callOf a userId route.handler) route.handler
        { s with auth := site.checked s a } r s') : Handled a s r s'

/-- The request makes this call: it is for a protected route, its token is accepted, and the handler
of the route makes the call for it. -/
def Commits (s : Server) (a : Arrival) (call : ServiceCall) : Prop :=
  ∃ route userId, site.Routes a route ∧ route.isPublic = false ∧
    a.request.method ≠ RestServer.methodGet ∧ site.Accepts s a userId ∧
    site.callOf a userId route.handler = some call

/-- The call, if the request makes one. -/
def committed (s : Server) (a : Arrival) : Option ServiceCall := do
  let path ← (site.library.decode a.request.path).toOption
  let (route, _) ←
    RestServer.matchRoute (RestServer.registerRoutes site.set) a.request.method path
  let header ← a.request.authorization
  let userId ←
    ((AuthMiddleware.validateRequest site.jwt site.clock site.secretKey header).run s.auth).1
  if site.hasMiddleware then site.callOf a userId route.handler else none

/-- The calls that the requests of a run make, in their order. -/
def history (s : Server) (arrivals : List Arrival) : List (Arrival × ServiceCall) :=
  deeds site.serve site.committed s arrivals

variable {site} {a : Arrival} {s : Server}

/-! ## One request -/

theorem Refuses.answered {r : Except StdException HttpResponse} (h : Refuses r) :
    400 ≤ (answered r).statusCode := by
  cases r with
  | error e => exact (by decide : (400 : Int) ≤ 500)
  | ok response => exact h response rfl

theorem Routes.unique {route route' : RouteInfo} (h : site.Routes a route)
    (h' : site.Routes a route') : route = route' := by
  obtain ⟨path, id, hpath, hmatch⟩ := h
  obtain ⟨path', id', hpath', hmatch'⟩ := h'
  obtain rfl : path = path' := Except.ok.inj (hpath.symm.trans hpath')
  cases hmatch.symm.trans hmatch'
  rfl

theorem Accepts.unique {userId userId' : Bytes} (h : site.Accepts s a userId)
    (h' : site.Accepts s a userId') : userId = userId' := by
  obtain ⟨-, header, hheader, huser⟩ := h
  obtain ⟨-, header', hheader', huser'⟩ := h'
  obtain rfl : header = header' := Option.some.inj (hheader.symm.trans hheader')
  exact Option.some.inj (huser.symm.trans huser')

theorem run_check (header : Bytes) :
    (RestServer.applyAuthMiddleware site.jwt site.clock site.secretKey true (some header)).run
        s.auth =
      (match ((AuthMiddleware.validateRequest site.jwt site.clock site.secretKey header).run
          s.auth).1 with
        | none => .error (.reply 401 (bytes "Invalid or expired token"))
        | some userId => .ok userId,
      ((AuthMiddleware.validateRequest site.jwt site.clock site.secretKey header).run
        s.auth).2) := by
  show (match ((AuthMiddleware.validateRequest site.jwt site.clock site.secretKey header).run
      s.auth).1 with
    | none => _ | some userId => _ : StateM AuthMiddleware (Except RestServer.Dispatch Bytes)).run
      ((AuthMiddleware.validateRequest site.jwt site.clock site.secretKey header).run s.auth).2 = _
  cases ((AuthMiddleware.validateRequest site.jwt site.clock site.secretKey header).run s.auth).1
    <;> rfl

/-- What the dispatch decides, and how it leaves the middleware. -/
theorem dispatch_cases (path : Bytes) :
    let x := (RestServer.handleRequest site.jwt site.clock site.secretKey
      (RestServer.registerRoutes site.set) site.hasMiddleware a.request.method path
      a.request.authorization).run s.auth
    (∃ code message, 400 ≤ code ∧ x.1 = .reply code message ∧
      (x.2 = s.auth ∨ x.2 = site.checked s a) ∧
      ∀ route id userId, RestServer.matchRoute (RestServer.registerRoutes site.set)
        a.request.method path = some (route, id) → ¬ site.Accepts s a userId) ∨
    ∃ route id, RestServer.matchRoute (RestServer.registerRoutes site.set) a.request.method path =
        some (route, id) ∧
      ((route.isPublic = true ∧ x = (.call route.handler [], s.auth)) ∨
        route.isPublic = false ∧ ∃ userId, site.Accepts s a userId ∧
          x = (.call route.handler userId, site.checked s a)) := by
  dsimp only
  rw [RestServer.run_handleRequest]
  cases hmatch : RestServer.matchRoute (RestServer.registerRoutes site.set) a.request.method path with
  | none => exact .inl ⟨404, _, by decide, rfl, .inl rfl, fun _ _ _ h => nomatch h⟩
  | some found =>
    obtain ⟨route, id⟩ := found
    dsimp only
    cases hpublic : route.isPublic with
    | true => exact .inr ⟨route, id, rfl, .inl ⟨hpublic, rfl⟩⟩
    | false =>
      unfold checked
      cases hmiddleware : site.hasMiddleware with
      | false =>
        refine .inl ⟨500, _, by decide, rfl, .inl rfl, fun _ _ _ _ h => ?_⟩
        rw [h.1] at hmiddleware
        cases hmiddleware
      | true =>
        cases hheader : a.request.authorization with
        | none =>
          refine .inl ⟨401, _, by decide, rfl, .inl rfl, fun _ _ _ _ h => ?_⟩
          obtain ⟨-, header, hsome, -⟩ := h
          rw [hsome] at hheader
          cases hheader
        | some header =>
          have hrun := @run_check site s header
          cases hv : ((AuthMiddleware.validateRequest site.jwt site.clock site.secretKey header).run
            s.auth).1 with
          | none =>
            rw [hv] at hrun
            rw [hrun]
            refine .inl ⟨401, _, by decide, rfl, .inr rfl, fun _ _ _ _ h => ?_⟩
            obtain ⟨-, header', hsome, haccepted⟩ := h
            rw [hheader] at hsome
            cases hsome
            rw [hv] at haccepted
            cases haccepted
          | some userId =>
            rw [hv] at hrun
            rw [hrun]
            exact .inr ⟨route, id, rfl,
              .inr ⟨hpublic, userId, ⟨hmiddleware, header, hheader, hv⟩, rfl⟩⟩

theorem exec_handleRequest {path : Bytes} (hpath : site.library.decode a.request.path = .ok path) :
    (site.handleRequest a).exec s =
      let x := (RestServer.handleRequest site.jwt site.clock site.secretKey
        (RestServer.registerRoutes site.set) site.hasMiddleware a.request.method path
        a.request.authorization).run s.auth
      (site.follow a x.1).exec { s with auth := x.2 } := by
  unfold handleRequest
  rw [hpath]
  refine (Program.exec_bind_ok (Program.exec_known (.ok path) s)).trans ?_
  rw [exec_onMiddleware_bind]
  dsimp only
  split
  · next code message h => rw [h, follow]
  · next handler userId h => rw [h, follow]

theorem does_handleRequest : Program.Does (site.Handled a) (site.handleRequest a) := by
  intro s
  cases hpath : site.library.decode a.request.path with
  | error e =>
    have hexec : (site.handleRequest a).exec s = (.error e, s) := by
      unfold handleRequest
      rw [hpath]
      exact Program.exec_bind_error (Program.exec_known (.error e) s)
    rw [hexec]
    refine .refused (refuses_error e) (.inl rfl) fun route userId hroute => ?_
    obtain ⟨path, id, hok, -⟩ := hroute
    rw [hok] at hpath
    cases hpath
  | ok path =>
    rw [exec_handleRequest hpath]
    have hcases := @dispatch_cases site a s path
    dsimp only
    generalize (RestServer.handleRequest site.jwt site.clock site.secretKey
      (RestServer.registerRoutes site.set) site.hasMiddleware a.request.method path
      a.request.authorization).run s.auth = x at hcases ⊢
    obtain ⟨dispatch, auth⟩ := x
    rcases hcases with ⟨code, message, hcode, rfl, hauth, hnone⟩ | ⟨route, id, hmatch, hcall⟩
    · refine .refused (refuses_sendErrorResponse hcode message) hauth fun route userId hroute _ => ?_
      obtain ⟨path', id, hpath', hmatch⟩ := hroute
      obtain rfl : path = path' := Except.ok.inj (hpath.symm.trans hpath')
      exact hnone route id userId hmatch
    have hroute : site.Routes a route := ⟨path, id, hpath, hmatch⟩
    rcases hcall with ⟨hpublic, ⟨⟩⟩ | ⟨hprotected, userId, huser, ⟨⟩⟩
    · exact .unchecked hroute hpublic (does_callHandler route.handler s)
    · exact .accepted hroute hprotected huser (does_callHandler route.handler _)

theorem exec_support (a : Arrival) (s : Server) :
    (site.support a).exec s =
      (.ok (answered ((site.handleRequest a).exec s).1), ((site.handleRequest a).exec s).2) := by
  unfold support
  rw [Program.exec_tryCatch]
  rcases (site.handleRequest a).exec s with ⟨_ | _, s'⟩ <;> rfl

theorem response_eq (s : Server) (a : Arrival) :
    site.response s a = answered ((site.handleRequest a).exec s).1 := by
  unfold response
  rw [exec_support]

/-- **One request**: what it comes to is what is replied, and the server afterwards. -/
theorem handled (a : Arrival) (s : Server) :
    ∃ r, site.Handled a s r (site.serve s a) ∧ site.response s a = answered r := by
  refine ⟨((site.handleRequest a).exec s).1, ?_, response_eq s a⟩
  unfold serve
  rw [exec_support]
  exact does_handleRequest s

/-! ## Calls -/

theorem not_get_of_writer {set : ServicesSet} {route : RouteInfo}
    (hroute : route ∈ RestServer.registerRoutes set) (h : route.handler ∈ writers) :
    route.method ≠ RestServer.methodGet := by
  have hall : ∀ r ∈ RestServer.registerRoutes {}, r.handler ∈ writers →
      r.method ≠ RestServer.methodGet := by
    decide +kernel
  exact hall route ((RestServer.registerRoutes_sublist set).subset hroute) h

theorem writer_not_public {set : ServicesSet} {route : RouteInfo}
    (hroute : route ∈ RestServer.registerRoutes set) (h : route.handler ∈ writers) :
    route.isPublic = false := by
  cases hpublic : route.isPublic with
  | false => rfl
  | true =>
    have hmem := RestServer.public_registerRoutes set hroute hpublic
    have hall : ∀ handler ∈ RestServer.publicHandlers, handler ∉ writers := by decide
    exact absurd h (hall _ hmem)

theorem Routes.mem {route : RouteInfo} (h : site.Routes a route) :
    route ∈ RestServer.registerRoutes site.set ∧ route.method = a.request.method := by
  obtain ⟨path, id, -, hmatch⟩ := h
  obtain ⟨hmem, hisMatch⟩ := RestServer.matchRoute_eq_some hmatch
  unfold RouteInfo.isMatch at hisMatch
  rw [Bool.and_eq_true, beq_iff_eq] at hisMatch
  exact ⟨hmem, hisMatch.1⟩

/-- Where a handler makes a call, its route is protected and is not for reading. -/
theorem writer_of_callOf {userId : Bytes} {route : RouteInfo} {call : ServiceCall}
    (hroute : site.Routes a route) (h : site.callOf a userId route.handler = some call) :
    route.isPublic = false ∧ a.request.method ≠ RestServer.methodGet := by
  have hwriter : route.handler ∈ writers := by
    by_contra hlooks
    rw [site.callOf_eq_none a userId hlooks] at h
    cases h
  refine ⟨writer_not_public hroute.mem.1 hwriter, ?_⟩
  rw [← hroute.mem.2]
  exact not_get_of_writer hroute.mem.1 hwriter

theorem committed_eq_some {call : ServiceCall} :
    site.committed s a = some call ↔ site.Commits s a call := by
  unfold committed
  simp only [Option.bind_eq_bind, Option.bind_eq_some_iff]
  constructor
  · rintro ⟨path, hpath, ⟨route, id⟩, hmatch, header, hheader, userId, huser, h⟩
    split at h
    · next hmiddleware =>
      have hroute : site.Routes a route := by
        refine ⟨path, id, ?_, hmatch⟩
        cases hdecode : site.library.decode a.request.path with
        | error e =>
          rw [hdecode] at hpath
          cases hpath
        | ok path' =>
          rw [hdecode] at hpath
          cases hpath
          rfl
      obtain ⟨hprotected, hmethod⟩ := writer_of_callOf hroute h
      exact ⟨route, userId, hroute, hprotected, hmethod, ⟨hmiddleware, header, hheader, huser⟩, h⟩
    · cases h
  · rintro ⟨route, userId, ⟨path, id, hpath, hmatch⟩, -, -, ⟨hmiddleware, header, hheader, huser⟩, h⟩
    refine ⟨path, ?_, (route, id), hmatch, header, hheader, userId, huser, ?_⟩
    · rw [hpath]
      rfl
    · rw [if_pos hmiddleware]
      exact h

theorem served_call {made : Option ServiceCall} {handler : RouteHandler} {s' : Server}
    {r : Except StdException HttpResponse} (h : site.Served a made handler s r s') :
    s'.connection = made.elim s.connection (fun call => call.exec (site.host a) s.connection) ∧
      ∀ call, made = some call → r = call.reply (site.host a) s.connection := by
  cases h with
  | refused hmade | looked hmade | loggedIn hmade | loggedOut hmade =>
    rw [hmade]
    exact ⟨rfl, fun call h => nomatch h⟩
  | called call hmade =>
    rw [hmade]
    refine ⟨rfl, fun call' h => ?_⟩
    cases h
    rfl

theorem committed_eq_callOf {route : RouteInfo} {userId : Bytes} (hroute : site.Routes a route)
    (huser : site.Accepts s a userId) :
    site.committed s a = site.callOf a userId route.handler := by
  apply Option.ext
  intro call
  show site.committed s a = some call ↔ site.callOf a userId route.handler = some call
  rw [committed_eq_some]
  constructor
  · rintro ⟨route', userId', hroute', -, -, huser', h⟩
    rwa [hroute.unique hroute', huser.unique huser']
  · intro h
    obtain ⟨hprotected, hmethod⟩ := writer_of_callOf hroute h
    exact ⟨route, userId, hroute, hprotected, hmethod, huser, h⟩

theorem committed_eq_none (h : ∀ route userId, site.Routes a route → route.isPublic = false →
    ¬ site.Accepts s a userId) : site.committed s a = none := by
  rw [Option.eq_none_iff_forall_ne_some]
  intro call hcall
  obtain ⟨route, userId, hroute, hprotected, -, huser, -⟩ := committed_eq_some.mp hcall
  exact h route userId hroute hprotected huser

/-- What a request does to the database is the call that it makes; what is replied is taken from
it. -/
theorem call_of_handled {r : Except StdException HttpResponse} {s' : Server}
    (h : site.Handled a s r s') :
    s'.connection = (site.committed s a).elim s.connection
        (fun call => call.exec (site.host a) s.connection) ∧
      ∀ call, site.committed s a = some call → r = call.reply (site.host a) s.connection := by
  cases h with
  | refused _ _ hnone =>
    rw [committed_eq_none hnone]
    exact ⟨rfl, fun call h => nomatch h⟩
  | unchecked hroute hpublic hserved =>
    have hcallOf := Option.eq_none_iff_forall_ne_some.mpr fun call h => by
      rw [(@writer_of_callOf _ _ [] _ _ hroute h).1] at hpublic
      cases hpublic
    have hnone : site.committed s a = none := by
      apply committed_eq_none
      intro route' userId hroute' hprotected
      rw [hroute.unique hroute', hprotected] at hpublic
      cases hpublic
    rw [hcallOf] at hserved
    rw [hnone]
    exact served_call hserved
  | accepted hroute hprotected huser hserved =>
    have hcall := served_call hserved
    rw [committed_eq_callOf hroute huser]
    exact hcall

/-- **What one request does to the database.** -/
theorem connection_serve (s : Server) (a : Arrival) :
    (site.serve s a).connection = (site.committed s a).elim s.connection
      fun call => call.exec (site.host a) s.connection := by
  obtain ⟨r, h, -⟩ := site.handled a s
  exact (call_of_handled h).1

/-- What is replied where it makes a call. -/
theorem response_of_committed {call : ServiceCall} (hcall : site.committed s a = some call) :
    site.response s a = answered (call.reply (site.host a) s.connection) := by
  obtain ⟨r, h, hresponse⟩ := site.handled a s
  rw [hresponse, (call_of_handled h).2 call hcall]

theorem connection_of_committed {call : ServiceCall} (hcall : site.committed s a = some call) :
    (site.serve s a).connection = call.exec (site.host a) s.connection := by
  rw [connection_serve, hcall]
  rfl

/-- **Nothing is written without a token**: whatever requests arrive, in whatever order, what they
leave in the database is what the calls in the history leave there, and a call is in the history
exactly when a request made it at its turn: for a protected route, with a token that was accepted
then. -/
theorem run_commits (site : Site) (s : Server) (arrivals : List Arrival) :
    (arrivals.foldl site.serve s).connection =
        (site.history s arrivals).foldl (fun c x => x.2.exec (site.host x.1) c) s.connection ∧
      ∀ a call, (a, call) ∈ site.history s arrivals ↔ ∃ before after,
        arrivals = before ++ a :: after ∧ site.Commits (before.foldl site.serve s) a call := by
  constructor
  · exact foldl_deeds Server.connection (fun a call c => ServiceCall.exec (site.host a) c call)
      site.connection_serve s arrivals
  · intro a call
    unfold history
    rw [mem_deeds]
    simp only [committed_eq_some]

/-! ## A small site -/

/-- Bodies, and the objects they are read as. -/
def sampleBodies : List (Bytes × Json) :=
  [(bytes "\x7b\"caption\":\"Alpha\"\x7d",
      .object [(bytes "caption", .string (bytes "Alpha"))]),
    (bytes "\x7b\"caption\":\"Beta\"\x7d", .object [(bytes "caption", .string (bytes "Beta"))]),
    (bytes "\x7b\"oldPassword\":\"Secret123\",\"newPassword\":\"Secret456\"\x7d",
      .object [(bytes "newPassword", .string (bytes "Secret456")),
        (bytes "oldPassword", .string (bytes "Secret123"))])]

def sampleSite : Site where
  json := {
    truncate := fun _ => 0
    toNlohmannJson := .ok
    toWebJson := .ok
    typeError := { what := bytes "type_error" }
    notAString := { what := bytes "not a string" } }
  library := {
    decode := .ok
    splitQuery := fun _ => .ok []
    stoi := fun text => .ok (numberOf text)
    stoll := fun text => .ok (numberOf text)
    extractJson := fun body =>
      (sampleBodies.lookup body).elim (.error { what := bytes "Syntax error" }) .ok
    badOptionalAccess := { what := bytes "bad optional access" } }
  thrown := fun _ => { what := bytes "SQL error" }
  sha256 := id
  jwt := sampleJwt
  clock := sampleClock
  secretKey := sampleSecret
  set := {}
  hasMiddleware := true
  items := fun _ _ _ => .ok { statusCode := statusOk, body := none }

/-- A server without data. -/
def sampleStart : Server := { connection := .fresh, auth := .initial }

/-- A request with a token. -/
def sampleArrival (method : Bytes) (path body : String) : Arrival where
  request := {
    method := method, path := bytes path, authorization := some sampleHeader, query := [],
    body := bytes body }
  env := .reference
  now := 0

def postWorkflow (caption : String) : Arrival :=
  sampleArrival RestServer.methodPost "/api/workflows"
    ("\x7b\"caption\":\"" ++ caption ++ "\"\x7d")

end Site

end Farado
