import Farado.Services.Auth

/-!
# Dispatch

`RestServer`: the table of routes, the search in it, and the token check before every handler of a
route that is not public.
-/

namespace Farado

/-- The handler methods, by the resource they serve. -/
inductive RouteHandler where
  | handleLogin | handleLogout | handleChangePassword
  | handleGetItems | handleCreateItem | handleGetItem | handleUpdateItem | handleDeleteItem
  | handleGetUsers | handleCreateUser | handleGetUser | handleUpdateUser | handleDeleteUser
  | handleGetPhases | handleCreatePhase | handleGetPhase | handleUpdatePhase | handleDeletePhase
  | handleGetProjects | handleCreateProject | handleGetProject | handleUpdateProject
  | handleDeleteProject
  | handleGetFieldTypes | handleCreateFieldType | handleGetFieldType | handleUpdateFieldType
  | handleDeleteFieldType
  | handleGetWorkflows | handleCreateWorkflow | handleGetWorkflow | handleUpdateWorkflow
  | handleDeleteWorkflow
  | handleGetItemTypes | handleCreateItemType | handleGetItemType | handleUpdateItemType
  | handleDeleteItemType
  | handleGetStates | handleCreateState | handleGetState | handleUpdateState | handleDeleteState
  | handleGetEdges | handleCreateEdge | handleGetEdge | handleDeleteEdge | handleGetWorkflowEdges
  | health
  deriving DecidableEq, Repr

/-- The two pieces that the path patterns are put together from. -/
inductive PathPart where
  | literal (text : Bytes)
  /-- `(\d+)` -/
  | digits
  deriving DecidableEq, Repr

def isDigit (b : UInt8) : Bool := 0x30 ≤ b && b ≤ 0x39

/-- `std::regex_match`: what the groups capture, if the whole path matches. In no pattern is a group
followed by a digit, so a group takes all the digits there are. -/
def matchPath : List PathPart → Bytes → Option (List Bytes)
  | [], path => if path.isEmpty then some [] else none
  | .literal text :: parts, path =>
      if path.take text.length = text then matchPath parts (path.drop text.length) else none
  | .digits :: parts, path =>
      let group := path.takeWhile isDigit
      if group.isEmpty then none
      else (matchPath parts (path.drop group.length)).map (group :: ·)

/-- `RouteInfo` -/
structure RouteInfo where
  method : Bytes
  pathPattern : List PathPart
  handler : RouteHandler
  isPublic : Bool := false
  deriving DecidableEq, Repr

/-- Which of the services have been set before `initialize`. -/
structure ServicesSet where
  auth : Bool := true
  user : Bool := true
  phase : Bool := true
  project : Bool := true
  fieldType : Bool := true
  workflow : Bool := true
  itemType : Bool := true
  state : Bool := true
  edge : Bool := true

namespace RestServer

def methodGet : Bytes := bytes "GET"
def methodPost : Bytes := bytes "POST"
def methodPut : Bytes := bytes "PUT"
def methodDel : Bytes := bytes "DELETE"

/-- The path of a collection. -/
def collection (path : String) : List PathPart := [.literal (bytes path)]

/-- The path of one of its members. -/
def member (path : String) : List PathPart := [.literal (bytes (path ++ "/")), .digits]

/-- The five routes of a resource. -/
def crudRoutes (path : String) (getAll create get update delete : RouteHandler) : List RouteInfo :=
  [{ method := methodGet, pathPattern := collection path, handler := getAll },
   { method := methodPost, pathPattern := collection path, handler := create },
   { method := methodGet, pathPattern := member path, handler := get },
   { method := methodPut, pathPattern := member path, handler := update },
   { method := methodDel, pathPattern := member path, handler := delete }]

def authRoutes : List RouteInfo :=
  [{ method := methodPost, pathPattern := collection "/auth/login", handler := .handleLogin,
     isPublic := true },
   { method := methodPost, pathPattern := collection "/auth/logout", handler := .handleLogout,
     isPublic := true },
   { method := methodPost, pathPattern := collection "/auth/change-password",
     handler := .handleChangePassword }]

/-- Edges cannot be updated; the edges of a workflow have a route of their own. -/
def edgeRoutes : List RouteInfo :=
  [{ method := methodGet, pathPattern := collection "/api/edges", handler := .handleGetEdges },
   { method := methodPost, pathPattern := collection "/api/edges", handler := .handleCreateEdge },
   { method := methodGet, pathPattern := member "/api/edges", handler := .handleGetEdge },
   { method := methodDel, pathPattern := member "/api/edges", handler := .handleDeleteEdge },
   { method := methodGet,
     pathPattern := member "/api/workflows" ++ [.literal (bytes "/edges")],
     handler := .handleGetWorkflowEdges }]

/-- `m_routes` after `registerRoutes`, in the order of registration. -/
def registerRoutes (set : ServicesSet) : List RouteInfo :=
  (if set.auth then authRoutes else []) ++
  crudRoutes "/api/items" .handleGetItems .handleCreateItem .handleGetItem .handleUpdateItem
    .handleDeleteItem ++
  (if set.user then
    crudRoutes "/api/users" .handleGetUsers .handleCreateUser .handleGetUser .handleUpdateUser
      .handleDeleteUser else []) ++
  (if set.phase then
    crudRoutes "/api/phases" .handleGetPhases .handleCreatePhase .handleGetPhase .handleUpdatePhase
      .handleDeletePhase else []) ++
  (if set.project then
    crudRoutes "/api/projects" .handleGetProjects .handleCreateProject .handleGetProject
      .handleUpdateProject .handleDeleteProject else []) ++
  (if set.fieldType then
    crudRoutes "/api/field-types" .handleGetFieldTypes .handleCreateFieldType .handleGetFieldType
      .handleUpdateFieldType .handleDeleteFieldType else []) ++
  (if set.workflow then
    crudRoutes "/api/workflows" .handleGetWorkflows .handleCreateWorkflow .handleGetWorkflow
      .handleUpdateWorkflow .handleDeleteWorkflow else []) ++
  (if set.itemType then
    crudRoutes "/api/item-types" .handleGetItemTypes .handleCreateItemType .handleGetItemType
      .handleUpdateItemType .handleDeleteItemType else []) ++
  (if set.state then
    crudRoutes "/api/states" .handleGetStates .handleCreateState .handleGetState .handleUpdateState
      .handleDeleteState else []) ++
  (if set.edge then edgeRoutes else []) ++
  [{ method := methodGet, pathPattern := collection "/health", handler := .health,
     isPublic := true }]

/-- The first route that matches, with the captured id. -/
def matchRoute (routes : List RouteInfo) (method uriPath : Bytes) :
    Option (RouteInfo × Option Bytes) :=
  routes.findSome? fun route =>
    if route.method = method then
      (matchPath route.pathPattern uriPath).map fun groups => (route, groups.head?)
    else none

/-- What becomes of a request: an error reply, or the call of a handler with the user id. -/
inductive Dispatch where
  | reply (code : Int) (message : Bytes)
  | call (handler : RouteHandler) (userId : Bytes)
  deriving DecidableEq, Repr

variable (jwt : Jwt) (clock : Nat → Int) (secretKey : Bytes)

/-- The user id, or the error reply that has been sent. -/
def applyAuthMiddleware (hasMiddleware : Bool) (authHeader : Option Bytes) :
    StateM AuthMiddleware (Except Dispatch Bytes) := do
  if !hasMiddleware then
    return .error (.reply 500 (bytes "Internal server error: auth middleware not configured"))
  else
    match authHeader with
    | none => return .error (.reply 401 (bytes "Missing Authorization header"))
    | some header =>
        match ← AuthMiddleware.validateRequest jwt clock secretKey header with
        | none => return .error (.reply 401 (bytes "Invalid or expired token"))
        | some userId => return .ok userId

def handleRequest (routes : List RouteInfo) (hasMiddleware : Bool) (method path : Bytes)
    (authHeader : Option Bytes) : StateM AuthMiddleware Dispatch := do
  match matchRoute routes method path with
  | none => return .reply 404 (bytes "Not found")
  | some (route, _) =>
      if route.isPublic then return .call route.handler []
      else
        -- `return;` after the reply: the handler is not called
        match ← applyAuthMiddleware jwt clock secretKey hasMiddleware authHeader with
        | .error reply => return reply
        | .ok userId => return .call route.handler userId

section
variable {jwt : Jwt} {clock : Nat → Int} {secretKey : Bytes} {routes : List RouteInfo}
  {hasMiddleware : Bool} {method path : Bytes} {authHeader : Option Bytes} {m : AuthMiddleware}

/-- The check is `validateRequest` on the header, or none at all. -/
theorem run_applyAuthMiddleware :
    (∃ reply, (applyAuthMiddleware jwt clock secretKey hasMiddleware authHeader).run m =
      (.error reply, m) ∧ ∀ handler userId, reply ≠ .call handler userId) ∨
    ∃ header, authHeader = some header ∧
      (applyAuthMiddleware jwt clock secretKey hasMiddleware authHeader).run m =
        (match ((AuthMiddleware.validateRequest jwt clock secretKey header).run m).1 with
          | none => .error (.reply 401 (bytes "Invalid or expired token"))
          | some userId => .ok userId,
        ((AuthMiddleware.validateRequest jwt clock secretKey header).run m).2) := by
  unfold applyAuthMiddleware
  cases hasMiddleware with
  | false => exact .inl ⟨_, rfl, by rintro _ _ ⟨⟩⟩
  | true =>
    cases authHeader with
    | none => exact .inl ⟨_, rfl, by rintro _ _ ⟨⟩⟩
    | some header =>
      refine .inr ⟨header, rfl, ?_⟩
      show (match ((AuthMiddleware.validateRequest jwt clock secretKey header).run m).1 with
        | none => _ | some userId => _ : StateM AuthMiddleware (Except Dispatch Bytes)).run
          ((AuthMiddleware.validateRequest jwt clock secretKey header).run m).2 = _
      cases ((AuthMiddleware.validateRequest jwt clock secretKey header).run m).1 <;> rfl

/-- A request, by the route it matches and what the check says. -/
theorem run_handleRequest :
    (handleRequest jwt clock secretKey routes hasMiddleware method path authHeader).run m =
      match matchRoute routes method path with
      | none => (.reply 404 (bytes "Not found"), m)
      | some (route, _) =>
          if route.isPublic then (.call route.handler [], m)
          else
            match (applyAuthMiddleware jwt clock secretKey hasMiddleware authHeader).run m with
            | (.error reply, m') => (reply, m')
            | (.ok userId, m') => (.call route.handler userId, m') := by
  unfold handleRequest
  cases matchRoute routes method path with
  | none => rfl
  | some found =>
    dsimp only
    split
    · rfl
    · show (match ((applyAuthMiddleware jwt clock secretKey hasMiddleware authHeader).run m).1 with
        | .error reply => _ | .ok userId => _ : StateM AuthMiddleware Dispatch).run
          ((applyAuthMiddleware jwt clock secretKey hasMiddleware authHeader).run m).2 = _
      rcases (applyAuthMiddleware jwt clock secretKey hasMiddleware authHeader).run m with
        ⟨_ | _, m'⟩ <;> rfl

/-- **No way around the check**: the handler of a protected route runs only after `validateRequest`
has accepted the header, and with the user id it has found there. -/
theorem handleRequest_protected {route : RouteInfo} {id : Option Bytes} {handler : RouteHandler}
    {userId : Bytes} (hmatch : matchRoute routes method path = some (route, id))
    (hprotected : route.isPublic = false)
    (h : ((handleRequest jwt clock secretKey routes hasMiddleware method path authHeader).run m).1 =
      .call handler userId) :
    handler = route.handler ∧ ∃ header, authHeader = some header ∧
      ((AuthMiddleware.validateRequest jwt clock secretKey header).run m).1 = some userId := by
  rw [run_handleRequest, hmatch] at h
  dsimp only at h
  rw [if_neg (by simp [hprotected])] at h
  rcases run_applyAuthMiddleware with
    ⟨reply, hrun, hreply⟩ | ⟨header, hheader, hrun⟩
  · rw [hrun] at h
    exact absurd h (hreply handler userId)
  · rw [hrun] at h
    cases hv : ((AuthMiddleware.validateRequest jwt clock secretKey header).run m).1 with
    | none =>
      rw [hv] at h
      cases h
    | some accepted =>
      rw [hv] at h
      obtain ⟨rfl, rfl⟩ : route.handler = handler ∧ accepted = userId := by simpa using h
      exact ⟨rfl, header, hheader, hv⟩

theorem le_readings_handleRequest :
    m.readings ≤ ((handleRequest jwt clock secretKey routes hasMiddleware method path authHeader).run
      m).2.readings := by
  rw [run_handleRequest]
  cases matchRoute routes method path with
  | none => exact Nat.le_refl _
  | some found =>
    dsimp only
    split
    · exact Nat.le_refl _
    · have hle : m.readings ≤
          ((applyAuthMiddleware jwt clock secretKey hasMiddleware authHeader).run m).2.readings := by
        rcases run_applyAuthMiddleware with ⟨reply, hrun, -⟩ | ⟨header, -, hrun⟩
        · rw [hrun]
        · rw [hrun]
          exact AuthMiddleware.le_readings_validateRequest jwt clock secretKey m header
      rcases hrun : (applyAuthMiddleware jwt clock secretKey hasMiddleware authHeader).run m with
        ⟨_ | _, m'⟩
      · rwa [hrun] at hle
      · rwa [hrun] at hle

end

end RestServer

end Farado
