import Farado.Api.Changes
import Farado.Api.Requests
import Farado.Sessions.Blocking
import Farado.Sessions.Logout

/-!
# Sessions, request by request

What requests do to the middleware are its operations, so a token that a logout has ended is ended for
every request that comes later. A stored password hash is changed by nothing but the request for it.
-/

namespace Farado

open Acting Http Relational Steps

namespace Site

open AuthMiddleware (Op Barred)

variable {site : Site} {s : Server} {a : Arrival}

/-! ## The middleware -/

/-- The request is a logout with this token. -/
def LogsOut (site : Site) (a : Arrival) (token : Bytes) : Prop :=
  ∃ route header, site.Routes a route ∧ route.handler = .handleLogout ∧
    a.request.authorization = some header ∧ matchBearer header = some token

section
variable {I : AuthMiddleware → Prop}

theorem served_auth (hop : ∀ m (op : Op), (∀ token, op.Invalidates token → site.LogsOut a token) →
      I m → I (op.exec site.jwt site.clock site.secretKey m))
    {made : Option ServiceCall} {route : RouteInfo} (hroute : site.Routes a route)
    {r : Except StdException HttpResponse} {s' : Server} (h : site.Served a made route.handler s r s')
    (hs : I s.auth) : I s'.auth := by
  cases h with
  | refused | looked | called => exact hs
  | loggedIn _ _ hauth =>
    rcases hauth with rfl | rfl
    · exact hs
    · refine hop s.auth (.generateToken [] 0) ?_ hs
      rintro token (h | ⟨_, h, -⟩) <;> cases h
  | loggedOut _ hlogout =>
    refine hop s.auth (.handleLogout a.request.authorization) ?_ hs
    rintro token (h | ⟨header, h, hm⟩)
    · cases h
    · exact ⟨route, header, hroute, hlogout, Op.handleLogout.inj h, hm⟩

theorem checked_auth (hop : ∀ m (op : Op), (∀ token, op.Invalidates token → site.LogsOut a token) →
      I m → I (op.exec site.jwt site.clock site.secretKey m))
    (hs : I s.auth) : I (site.checked s a) := by
  unfold checked
  split
  · next header _ =>
    refine hop s.auth (.validateRequest header) ?_ hs
    rintro token (h | ⟨_, h, -⟩) <;> cases h
  · exact hs

/-- What every operation keeps, every request keeps; only a logout invalidates. -/
theorem serve_auth (a : Arrival)
    (hop : ∀ m (op : Op), (∀ token, op.Invalidates token → site.LogsOut a token) →
      I m → I (op.exec site.jwt site.clock site.secretKey m))
    (hs : I s.auth) : I (site.serve s a).auth := by
  obtain ⟨r, h, -⟩ := site.handled a s
  generalize site.serve s a = s' at h ⊢
  cases h with
  | refused _ hauth =>
    rcases hauth with rfl | rfl
    · exact hs
    · exact checked_auth hop hs
  | unchecked hroute _ hserved => exact served_auth hop hroute hserved hs
  | accepted hroute _ _ hserved => exact served_auth hop hroute hserved (checked_auth hop hs)

end

/-! ## Logout -/

/-- A request whose token is not accepted ends with the check. -/
theorem refused_of_not_accepts {route : RouteInfo} (hroute : site.Routes a route)
    (hprotected : route.isPublic = false) (h : ∀ userId, ¬ site.Accepts s a userId) :
    (site.response s a).statusCode = if site.hasMiddleware then 401 else 500 := by
  obtain ⟨path, id, hpath, hmatch⟩ := hroute
  rw [response_eq, exec_handleRequest hpath, RestServer.run_handleRequest, hmatch]
  dsimp only
  rw [if_neg (by simp [hprotected])]
  cases hmiddleware : site.hasMiddleware with
  | false => rfl
  | true =>
    cases hheader : a.request.authorization with
    | none => rfl
    | some header =>
      cases hv : ((AuthMiddleware.validateRequest site.jwt site.clock site.secretKey header).run
          s.auth).1 with
      | some userId => exact absurd ⟨hmiddleware, header, hheader, hv⟩ (h userId)
      | none =>
        rw [run_check, hv]
        rfl

/-- The request carries this token. -/
def Carries (a : Arrival) (token : Bytes) : Prop :=
  ∃ header, a.request.authorization = some header ∧
    AuthMiddleware.extractBearerToken header = token

section
variable {token : Bytes}

theorem logout_public {set : ServicesSet} {route : RouteInfo}
    (hroute : route ∈ RestServer.registerRoutes set) (h : route.handler = .handleLogout) :
    route.isPublic = true := by
  have hall : ∀ r ∈ RestServer.registerRoutes {}, r.handler = .handleLogout → r.isPublic = true := by
    decide +kernel
  exact hall route ((RestServer.registerRoutes_sublist set).subset hroute) h

/-- A logout is the invalidation of its token, whether or not the token would be accepted. -/
theorem auth_of_logsOut (h : site.LogsOut a token) :
    (site.serve s a).auth =
      ((AuthMiddleware.invalidateToken site.jwt site.clock site.secretKey token).run s.auth).2 := by
  obtain ⟨route, header, hroute, hhandler, hheader, htoken⟩ := h
  have hpublic := logout_public hroute.mem.1 hhandler
  obtain ⟨path, id, hpath, hmatch⟩ := hroute
  have hexec : ((site.handleRequest a).exec s).2.auth =
      ((Farado.AuthHandler.handleLogout site.jwt site.clock site.secretKey
        a.request.authorization).run s.auth).2 := by
    rw [exec_handleRequest hpath, RestServer.run_handleRequest, hmatch]
    dsimp only
    rw [if_pos hpublic, hhandler]
    show ((AuthHandler.handleLogout site a).exec s).2.auth = _
    unfold AuthHandler.handleLogout
    rw [exec_onMiddleware_bind]
    dsimp only
    split <;> rfl
  unfold serve
  rw [exec_support, hexec, AuthHandler.run_handleLogout, hheader, Option.bind_some, htoken]

theorem not_accepts_of_barred (hjwt : site.jwt.RejectsExpired) (hclock : NeverBack site.clock)
    (h : Barred site.jwt site.clock token s.auth) (hcarries : Carries a token) (userId : Bytes) :
    ¬ site.Accepts s a userId := by
  rintro ⟨-, header', hheader', huser⟩
  obtain ⟨header, hheader, htoken⟩ := hcarries
  obtain rfl : header' = header := Option.some.inj (hheader'.symm.trans hheader)
  cases hm : matchBearer header' with
  | none =>
    rw [AuthMiddleware.run_validateRequest_none _ _ _ _ hm] at huser
    cases huser
  | some other =>
    rw [AuthMiddleware.extractBearerToken, hm, Option.getD_some] at htoken
    subst htoken
    rw [h.rejected hjwt hclock hm] at huser
    cases huser

/-- **A logout over HTTP is final**: once a request has logged out a token that verified, whatever
requests follow it, every later request that carries the token is refused on every protected route and
leaves the database as it finds it. -/
theorem logged_out_stays_out (site : Site) (hjwt : site.jwt.RejectsExpired)
    (hclock : NeverBack site.clock) (s : Server) (a : Arrival) (token : Bytes)
    (hlogout : site.LogsOut a token)
    (hvalid : ((AuthMiddleware.verifyToken site.jwt site.clock site.secretKey token).run
      s.auth).1.isSome) (between : List Arrival) (b : Arrival) (hcarries : Carries b token) :
    let s' := between.foldl site.serve (site.serve s a)
    (site.serve s' b).connection = s'.connection ∧
      ∀ route, site.Routes b route → route.isPublic = false →
        (site.response s' b).statusCode = if site.hasMiddleware then 401 else 500 := by
  dsimp only
  obtain ⟨jwtToken, hverified⟩ := Option.isSome_iff_exists.mp hvalid
  rw [AuthMiddleware.run_verifyToken] at hverified
  have hbarred : Barred site.jwt site.clock token (site.serve s a).auth := by
    rw [auth_of_logsOut hlogout]
    exact AuthMiddleware.barred_of_invalidateToken hverified
  have hstep : ∀ (s : Server) (a : Arrival), Barred site.jwt site.clock token s.auth →
      Barred site.jwt site.clock token (site.serve s a).auth :=
    fun _ a h => serve_auth a (fun _ op _ h => h.exec op) h
  have hlater := run_invariant hstep hbarred between
  have hnone := fun userId => @not_accepts_of_barred site _ b token hjwt hclock hlater hcarries userId
  refine ⟨?_, fun route hroute hprotected => refused_of_not_accepts hroute hprotected hnone⟩
  rw [connection_serve, committed_eq_none fun _ userId _ _ => hnone userId]
  rfl

/-- A logout, another request, and the token again. -/
theorem logged_out_stays_out_sample :
    (sampleSite.serve ([postWorkflow "Beta"].foldl sampleSite.serve
        (sampleSite.serve sampleStart (sampleArrival RestServer.methodPost "/auth/logout" "")))
      (postWorkflow "Alpha")).connection =
    ([postWorkflow "Beta"].foldl sampleSite.serve
      (sampleSite.serve sampleStart
        (sampleArrival RestServer.methodPost "/auth/logout" ""))).connection :=
  (logged_out_stays_out sampleSite (Jwt.single_rejectsExpired _ _ _) sampleClock_neverBack sampleStart
    _ sampleToken
    ⟨⟨RestServer.methodPost, RestServer.collection "/auth/logout", .handleLogout, true⟩, sampleHeader,
      ⟨bytes "/auth/logout", none, rfl, by decide +kernel⟩, rfl, rfl, matchBearer_sampleHeader⟩
    (by decide +kernel) _ (postWorkflow "Alpha")
    ⟨sampleHeader, rfl, by rw [AuthMiddleware.extractBearerToken, matchBearer_sampleHeader]; rfl⟩).1

end

end Site

end Farado
