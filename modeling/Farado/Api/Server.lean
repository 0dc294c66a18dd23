import Farado.Api.Bodies
import Farado.Lib.Acting
import Farado.Services.Project

/-!
# The server at work

All handlers on the state of the running server: what is replied to a request, and what the shared
connection and the middleware are afterwards. Once the body is parsed, the creating and updating
handlers are those of `Bodies`.
-/

namespace Farado

open Acting Http
open Farado.RestServer (member)

/-- What requests are taken apart with; `extractJson` is what becomes of the task. -/
structure RequestLibrary where
  decode : Bytes → Except StdException Bytes
  splitQuery : Bytes → Except StdException QueryParams
  stoi : Bytes → Except StdException Int
  stoll : Bytes → Except StdException Int
  extractJson : Bytes → Except StdException Json
  badOptionalAccess : StdException

/-- Everything a running server was set up with. -/
structure Site where
  json : JsonLibrary
  library : RequestLibrary
  thrown : Error → StdException
  sha256 : Bytes → Bytes
  jwt : Jwt
  clock : Nat → Int
  secretKey : Bytes
  set : ServicesSet
  hasMiddleware : Bool
  /-- The items are a prototype without a service. Their handlers read the request and the user it is
  from, but neither the database nor the middleware, and come to one reply or to an exception. So any
  function of these two stands for them. -/
  items : RouteHandler → HttpRequest → Bytes → Except StdException HttpResponse

/-- A request, with the time it is handled at and the order that SQLite lists rows in then. -/
structure Arrival where
  request : HttpRequest
  env : Environment
  now : Int

/-- What the bodies of requests are handled with. -/
def Site.host (site : Site) (a : Arrival) : Host where
  json := site.json
  env := a.env
  now := a.now
  sha256 := site.sha256
  thrown := site.thrown

namespace Site

open Bodies (sendErrorResponse)

/-- The code of a handler; it returns the reply. -/
abbrev Serving (α : Type) := Program StdException Server α

variable (site : Site)

/-! ## Calling the services -/

/-- What a service returns, with the exceptions of the database as the handlers catch them. -/
def returned {α : Type} (result : Except Error α) : Except StdException α :=
  match result with
  | .ok x => .ok x
  | .error e => .error (site.thrown e)

/-- A service at work on the shared connection. -/
def onService {α : Type} (p : Db α) : Serving α := Program.act fun s =>
  (site.returned (p.result s.connection), { s with connection := p.after s.connection })

/-- The middleware at work. -/
def onMiddleware {α : Type} (p : StateM AuthMiddleware α) : Serving α := Program.act fun s =>
  (.ok (p.run s.auth).1, { s with auth := (p.run s.auth).2 })

/-- The authentication works on both. -/
def onServer {α : Type} (p : ServerM α) : Serving α := Program.act fun s =>
  (site.returned (p.exec s).1, (p.exec s).2)

/-- What is done with a parsed body. -/
def onBody (f : Connection → Bodies.Answered) : Serving HttpResponse := Program.act fun s =>
  (.ok (f s.connection).1, { s with connection := (f s.connection).2 })

theorem exec_onService_bind {α β : Type} (p : Db α) (k : α → Serving β) (s : Server) :
    (site.onService p >>= k).exec s =
      match p.result s.connection with
      | .ok x => (k x).exec { s with connection := p.after s.connection }
      | .error e => (.error (site.thrown e), { s with connection := p.after s.connection }) := by
  have hact : (site.onService p).exec s = (site.returned (p.result s.connection),
    { s with connection := p.after s.connection }) := rfl
  rw [Program.exec_bind, hact]
  cases p.result s.connection <;> rfl

theorem exec_onServer_bind {α β : Type} (p : ServerM α) (k : α → Serving β) (s : Server) :
    (site.onServer p >>= k).exec s =
      match (p.exec s).1 with
      | .ok x => (k x).exec (p.exec s).2
      | .error e => (.error (site.thrown e), (p.exec s).2) := by
  have hact : (site.onServer p).exec s = (site.returned (p.exec s).1, (p.exec s).2) := rfl
  rw [Program.exec_bind, hact]
  cases (p.exec s).1 <;> rfl

theorem exec_onMiddleware_bind {α β : Type} (p : StateM AuthMiddleware α) (k : α → Serving β)
    (s : Server) :
    (onMiddleware p >>= k).exec s =
      (k (p.run s.auth).1).exec { s with auth := (p.run s.auth).2 } := by
  rw [Program.exec_bind]
  rfl

section
variable (a : Arrival)

/-! ## Taking requests apart -/

/-- The first group, if the expression matches. -/
def convertGroup (groups : Option (List Bytes)) : Except StdException Int :=
  match groups with
  | some (group :: _) => site.library.stoll group
  | _ => .ok (-1)

def extractIdFromPath (pattern : List PathPart) : Except StdException Int := do
  let path ← site.library.decode a.request.path
  site.convertGroup (matchPath pattern path)

def intParam (value : Option Bytes) (default : Int) : Except StdException Int :=
  match value with
  | some text => site.library.stoi text
  | none => .ok default

def idParam (value : Option Bytes) : Except StdException (Option Int) :=
  match value with
  | some text => some <$> site.library.stoll text
  | none => .ok none

/-- `std::optional::value` -/
def value {α : Type} : Option α → Except StdException α
  | some x => .ok x
  | none => .error site.library.badOptionalAccess

/-- `request.extract_json().then(f).wait()`, where what is thrown at the body is caught. -/
def extractJsonThen (f : Json → Connection → Bodies.Answered) : Serving HttpResponse :=
  match site.library.extractJson a.request.body with
  | .error e => pure (Bodies.invalidRequest e)
  | .ok jsonBody => onBody (f jsonBody)

/-! ## The patterns -/

section
variable {Dto : Type} (toJson : Dto → Json)

def toWebJson (x : Dto) : Except StdException Json := site.json.toWebJson (toJson x)

/-- A page of a collection. -/
def handleGetAll
    (find : QueryParams → Except StdException (Int → Int → Db (List Dto × Int))) :
    Serving HttpResponse := do
  let params ← Program.known (site.library.splitQuery a.request.query)
  let page ← Program.known (site.intParam (params.get "page") 1)
  let pageSize ← Program.known (site.intParam (params.get "pageSize") 20)
  let service ← Program.known (find params)
  let (found, total) ← site.onService (service page pageSize)
  let items ← Program.known (found.mapM (site.toWebJson toJson))
  pure { statusCode := statusOk, body := some (.object
    [(bytes "items", .array items), (bytes "totalCount", .number total),
      (bytes "page", .number page), (bytes "pageSize", .number pageSize)]) }

/-- One object, by the id in the path. -/
def handleGet (pattern : List PathPart) (find : Int → Db (Option Dto)) (invalidId notFound : Bytes) :
    Serving HttpResponse := do
  let id ← Program.known (site.extractIdFromPath a pattern)
  if id ≤ 0 then pure (sendErrorResponse 400 invalidId)
  else
    match ← site.onService (find id) with
    | none => pure (sendErrorResponse 404 notFound)
    | some found => do
        let json ← Program.known (site.toWebJson toJson found)
        pure { statusCode := statusOk, body := some json }

end

/-- An update, by the id in the path; an id that is none is refused before the body is read. -/
def handleUpdate (pattern : List PathPart) (invalidId : Bytes)
    (update : Int → Json → Connection → Bodies.Answered) : Serving HttpResponse := do
  let id ← Program.known (site.extractIdFromPath a pattern)
  if id ≤ 0 then pure (sendErrorResponse 400 invalidId) else site.extractJsonThen a (update id)

/-- A deletion that succeeds or does not. -/
def handleDelete (pattern : List PathPart) (delete : Int → Db Bool) (invalidId notFound : Bytes) :
    Serving HttpResponse := do
  let id ← Program.known (site.extractIdFromPath a pattern)
  if id ≤ 0 then pure (sendErrorResponse 400 invalidId)
  else if ← site.onService (delete id) then pure { statusCode := statusNoContent, body := none }
  else pure (sendErrorResponse 404 notFound)

/-- A deletion whose service says why not. -/
def handleDeleteResult (pattern : List PathPart) (delete : Int → Db ServiceResult)
    (invalidId : Bytes) : Serving HttpResponse := do
  let id ← Program.known (site.extractIdFromPath a pattern)
  if id ≤ 0 then pure (sendErrorResponse 400 invalidId)
  else
    let result ← site.onService (delete id)
    if !result.success then pure (sendErrorResponse result.errorCode result.errorMessage)
    else pure { statusCode := statusNoContent, body := none }

/-- A request object in the body, checked before `k` uses it. -/
def handleRequestObject {Request : Type} (fromJson : Json → Request × Bool)
    (fields : Request → RequiredFields) (k : Request → Serving HttpResponse) :
    Serving HttpResponse :=
  tryCatch
    (match site.library.extractJson a.request.body with
      | .error e => pure (sendErrorResponse 400 (bytes "Invalid JSON: " ++ e.what))
      | .ok jsonBody =>
          match site.json.toNlohmannJson jsonBody with
          | .error _ => pure (sendErrorResponse 400 (bytes "Invalid request format"))
          | .ok json =>
              let x := (fromJson json).1
              if !(fields x).isValid then pure (sendErrorResponse 400 (fields x).validationError)
              else k x)
    fun e => pure (sendErrorResponse 400 (bytes "Invalid request body: " ++ e.what))

/-! ## The handlers -/

namespace AuthHandler

def handleLogin : Serving HttpResponse :=
  site.handleRequestObject a AuthRequest.fromJson AuthRequest.fields fun authRequest => do
    let login ← Program.known (site.value authRequest.login)
    let password ← Program.known (site.value authRequest.password)
    let authResult ← site.onServer
      (AuthService.login site.jwt site.clock site.secretKey site.sha256 login password)
    if !authResult.success then
      pure (sendErrorResponse authResult.errorCode authResult.errorMessage)
    else
      pure { statusCode := statusOk, body := some (.object
        [(bytes "access_token", .string authResult.accessToken),
          (bytes "token_type", .string authResult.tokenType),
          (bytes "expires_in", .number authResult.expiresIn)]) }

def handleLogout : Serving HttpResponse := do
  let (code, message) ← onMiddleware
    (Farado.AuthHandler.handleLogout site.jwt site.clock site.secretKey a.request.authorization)
  if code = statusNoContent then pure { statusCode := code, body := none }
  else pure (sendErrorResponse code message)

def handleChangePassword (userId : Bytes) : Serving HttpResponse :=
  if userId.isEmpty then pure (sendErrorResponse 401 (bytes "User not authenticated"))
  else
    site.handleRequestObject a ChangePasswordRequest.fromJson ChangePasswordRequest.fields
      fun changeRequest =>
        match site.library.stoll userId with
        | .error _ => pure (sendErrorResponse 400 (bytes "Invalid user ID"))
        | .ok userIdInt => do
            let oldPassword ← Program.known (site.value changeRequest.oldPassword)
            let newPassword ← Program.known (site.value changeRequest.newPassword)
            let result ← site.onService
              (AuthService.changePassword site.sha256 userIdInt oldPassword newPassword)
            if !result.success then pure (sendErrorResponse result.errorCode result.errorMessage)
            else pure { statusCode := statusNoContent, body := none }

end AuthHandler

namespace UsersHandler

def handleGetUsers : Serving HttpResponse :=
  site.handleGetAll a Dto.User.toJson fun _ => .ok (UserService.users a.env)

def handleGetUser : Serving HttpResponse :=
  site.handleGet a Dto.User.toJson (member "/api/users") UserService.user
    Http.UsersHandler.invalidId (bytes "User not found")

def handleCreateUser : Serving HttpResponse :=
  site.extractJsonThen a (Bodies.UsersHandler.handleCreateUser (site.host a))

def handleUpdateUser : Serving HttpResponse :=
  site.handleUpdate a (member "/api/users") Http.UsersHandler.invalidId
    (Bodies.UsersHandler.handleUpdateUser (site.host a))

def handleDeleteUser : Serving HttpResponse :=
  site.handleDelete a (member "/api/users") UserService.deleteUser Http.UsersHandler.invalidId
    (bytes "User not found")

end UsersHandler

namespace WorkflowsHandler

def handleGetWorkflows : Serving HttpResponse :=
  site.handleGetAll a Dto.Workflow.toJson fun _ => .ok (WorkflowService.workflows a.env)

def handleGetWorkflow : Serving HttpResponse :=
  site.handleGet a Dto.Workflow.toJson (member "/api/workflows") WorkflowService.workflow
    Http.WorkflowsHandler.invalidId (bytes "Workflow not found")

def handleCreateWorkflow : Serving HttpResponse :=
  site.extractJsonThen a (Bodies.WorkflowsHandler.handleCreateWorkflow (site.host a))

def handleUpdateWorkflow : Serving HttpResponse :=
  site.handleUpdate a (member "/api/workflows") Http.WorkflowsHandler.invalidId
    (Bodies.WorkflowsHandler.handleUpdateWorkflow (site.host a))

def handleDeleteWorkflow : Serving HttpResponse :=
  site.handleDeleteResult a (member "/api/workflows") (WorkflowService.deleteWorkflow a.env)
    Http.WorkflowsHandler.invalidId

end WorkflowsHandler

namespace StatesHandler

def handleGetStates : Serving HttpResponse :=
  site.handleGetAll a Dto.State.toJson fun params => do
    let workflowId ← site.idParam (params.get "workflowId")
    return fun page pageSize => StateService.states a.env page pageSize workflowId

def handleGetState : Serving HttpResponse :=
  site.handleGet a Dto.State.toJson (member "/api/states") StateService.state
    Http.StatesHandler.invalidId (bytes "State not found")

def handleCreateState : Serving HttpResponse :=
  site.extractJsonThen a (Bodies.StatesHandler.handleCreateState (site.host a))

def handleUpdateState : Serving HttpResponse :=
  site.handleUpdate a (member "/api/states") Http.StatesHandler.invalidId
    (Bodies.StatesHandler.handleUpdateState (site.host a))

def handleDeleteState : Serving HttpResponse :=
  site.handleDeleteResult a (member "/api/states") (StateService.deleteState a.env)
    Http.StatesHandler.invalidId

end StatesHandler

namespace EdgesHandler

def handleGetEdges : Serving HttpResponse :=
  site.handleGetAll a Dto.Edge.toJson fun params => do
    let beginStateId ← site.idParam (params.get "beginStateId")
    let endStateId ← site.idParam (params.get "endStateId")
    return fun page pageSize => EdgeService.edges a.env page pageSize beginStateId endStateId

def handleGetEdge : Serving HttpResponse :=
  site.handleGet a Dto.Edge.toJson (member "/api/edges") EdgeService.edge
    Http.EdgesHandler.invalidId (bytes "Edge not found")

def handleCreateEdge : Serving HttpResponse :=
  site.extractJsonThen a (Bodies.EdgesHandler.handleCreateEdge (site.host a))

def handleDeleteEdge : Serving HttpResponse :=
  site.handleDeleteResult a (member "/api/edges") EdgeService.deleteEdge
    Http.EdgesHandler.invalidId

def handleGetWorkflowEdges : Serving HttpResponse := do
  let workflowId ← Program.known
    (site.extractIdFromPath a (member "/api/workflows" ++ [.literal (bytes "/edges")]))
  if workflowId ≤ 0 then pure (sendErrorResponse 400 Http.WorkflowsHandler.invalidId)
  else
    let edges ← site.onService (EdgeService.getWorkflowEdges a.env workflowId)
    let items ← Program.known (edges.mapM (site.toWebJson Dto.Edge.toJson))
    pure { statusCode := statusOk, body := some (.object
      [(bytes "items", .array items), (bytes "totalCount", .number edges.length)]) }

end EdgesHandler

namespace ProjectsHandler

def handleGetProjects : Serving HttpResponse :=
  site.handleGetAll a Dto.Project.toJson fun params => do
    let parentId ← site.idParam (params.get "parentId")
    return fun page pageSize => ProjectService.projects a.env page pageSize parentId
      (archiveParam params) ((params.get "searchCaption").getD [])

def handleGetProject : Serving HttpResponse :=
  site.handleGet a Dto.Project.toJson (member "/api/projects") ProjectService.project
    Http.ProjectsHandler.invalidId (bytes "Project not found")

def handleCreateProject : Serving HttpResponse :=
  site.extractJsonThen a (Bodies.ProjectsHandler.handleCreateProject (site.host a))

def handleUpdateProject : Serving HttpResponse :=
  site.handleUpdate a (member "/api/projects") Http.ProjectsHandler.invalidId
    (Bodies.ProjectsHandler.handleUpdateProject (site.host a))

def handleDeleteProject : Serving HttpResponse :=
  site.handleDelete a (member "/api/projects") (ProjectService.archiveProject a.now)
    Http.ProjectsHandler.invalidId (bytes "Project not found")

end ProjectsHandler

namespace PhasesHandler

def handleGetPhases : Serving HttpResponse :=
  site.handleGetAll a Dto.Phase.toJson fun params => do
    let projectId ← site.idParam (params.get "projectId")
    return fun page pageSize => PhaseService.phases a.env page pageSize projectId
      (archiveParam params)

def handleGetPhase : Serving HttpResponse :=
  site.handleGet a Dto.Phase.toJson (member "/api/phases") PhaseService.phase
    Http.PhasesHandler.invalidId (bytes "Phase not found")

def handleCreatePhase : Serving HttpResponse :=
  site.extractJsonThen a (Bodies.PhasesHandler.handleCreatePhase (site.host a))

def handleUpdatePhase : Serving HttpResponse :=
  site.handleUpdate a (member "/api/phases") Http.PhasesHandler.invalidId
    (Bodies.PhasesHandler.handleUpdatePhase (site.host a))

def handleDeletePhase : Serving HttpResponse :=
  site.handleDelete a (member "/api/phases") PhaseService.archivePhase
    Http.PhasesHandler.invalidId (bytes "Phase not found")

end PhasesHandler

namespace ItemTypesHandler

def handleGetItemTypes : Serving HttpResponse :=
  site.handleGetAll a Dto.ItemType.toJson fun params => do
    let workflowId ← site.idParam (params.get "workflowId")
    return fun page pageSize => ItemTypeService.itemTypes a.env page pageSize workflowId
      (params.get "kind") ((params.get "searchCaption").getD [])

def handleGetItemType : Serving HttpResponse :=
  site.handleGet a Dto.ItemType.toJson (member "/api/item-types") ItemTypeService.itemType
    Http.ItemTypesHandler.invalidId (bytes "Item type not found")

def handleCreateItemType : Serving HttpResponse :=
  site.extractJsonThen a (Bodies.ItemTypesHandler.handleCreateItemType (site.host a))

def handleUpdateItemType : Serving HttpResponse :=
  site.handleUpdate a (member "/api/item-types") Http.ItemTypesHandler.invalidId
    (Bodies.ItemTypesHandler.handleUpdateItemType (site.host a))

def handleDeleteItemType : Serving HttpResponse :=
  site.handleDelete a (member "/api/item-types") ItemTypeService.deleteItemType
    Http.ItemTypesHandler.invalidId (bytes "Item type not found")

end ItemTypesHandler

namespace FieldTypesHandler

def handleGetFieldTypes : Serving HttpResponse :=
  site.handleGetAll a Dto.FieldType.toJson fun params => do
    let itemTypeId ← site.idParam (params.get "itemTypeId")
    return fun page pageSize => FieldTypeService.fieldTypes a.env page pageSize itemTypeId
      (params.get "valueType") ((params.get "searchCaption").getD [])

def handleGetFieldType : Serving HttpResponse :=
  site.handleGet a Dto.FieldType.toJson (member "/api/field-types") FieldTypeService.fieldType
    Http.FieldTypesHandler.invalidId (bytes "Field type not found")

def handleCreateFieldType : Serving HttpResponse :=
  site.extractJsonThen a (Bodies.FieldTypesHandler.handleCreateFieldType (site.host a))

def handleUpdateFieldType : Serving HttpResponse :=
  site.handleUpdate a (member "/api/field-types") Http.FieldTypesHandler.invalidId
    (Bodies.FieldTypesHandler.handleUpdateFieldType (site.host a))

def handleDeleteFieldType : Serving HttpResponse :=
  site.handleDelete a (member "/api/field-types") FieldTypeService.deleteFieldType
    Http.FieldTypesHandler.invalidId (bytes "Field type not found")

end FieldTypesHandler

/-! ## The server -/

/-- The health check, which is written where it is registered. -/
def health : Serving HttpResponse :=
  pure { statusCode := statusOk, body := some (.object
    [(bytes "status", .string (bytes "ok")),
      (bytes "timestamp", .number (Dto.timePointToSeconds a.now))]) }

/-- What the routes were registered with. -/
def callHandler (userId : Bytes) : RouteHandler → Serving HttpResponse
  | .handleLogin => AuthHandler.handleLogin site a
  | .handleLogout => AuthHandler.handleLogout site a
  | .handleChangePassword => AuthHandler.handleChangePassword site a userId
  | .handleGetUsers => UsersHandler.handleGetUsers site a
  | .handleCreateUser => UsersHandler.handleCreateUser site a
  | .handleGetUser => UsersHandler.handleGetUser site a
  | .handleUpdateUser => UsersHandler.handleUpdateUser site a
  | .handleDeleteUser => UsersHandler.handleDeleteUser site a
  | .handleGetPhases => PhasesHandler.handleGetPhases site a
  | .handleCreatePhase => PhasesHandler.handleCreatePhase site a
  | .handleGetPhase => PhasesHandler.handleGetPhase site a
  | .handleUpdatePhase => PhasesHandler.handleUpdatePhase site a
  | .handleDeletePhase => PhasesHandler.handleDeletePhase site a
  | .handleGetProjects => ProjectsHandler.handleGetProjects site a
  | .handleCreateProject => ProjectsHandler.handleCreateProject site a
  | .handleGetProject => ProjectsHandler.handleGetProject site a
  | .handleUpdateProject => ProjectsHandler.handleUpdateProject site a
  | .handleDeleteProject => ProjectsHandler.handleDeleteProject site a
  | .handleGetFieldTypes => FieldTypesHandler.handleGetFieldTypes site a
  | .handleCreateFieldType => FieldTypesHandler.handleCreateFieldType site a
  | .handleGetFieldType => FieldTypesHandler.handleGetFieldType site a
  | .handleUpdateFieldType => FieldTypesHandler.handleUpdateFieldType site a
  | .handleDeleteFieldType => FieldTypesHandler.handleDeleteFieldType site a
  | .handleGetWorkflows => WorkflowsHandler.handleGetWorkflows site a
  | .handleCreateWorkflow => WorkflowsHandler.handleCreateWorkflow site a
  | .handleGetWorkflow => WorkflowsHandler.handleGetWorkflow site a
  | .handleUpdateWorkflow => WorkflowsHandler.handleUpdateWorkflow site a
  | .handleDeleteWorkflow => WorkflowsHandler.handleDeleteWorkflow site a
  | .handleGetItemTypes => ItemTypesHandler.handleGetItemTypes site a
  | .handleCreateItemType => ItemTypesHandler.handleCreateItemType site a
  | .handleGetItemType => ItemTypesHandler.handleGetItemType site a
  | .handleUpdateItemType => ItemTypesHandler.handleUpdateItemType site a
  | .handleDeleteItemType => ItemTypesHandler.handleDeleteItemType site a
  | .handleGetStates => StatesHandler.handleGetStates site a
  | .handleCreateState => StatesHandler.handleCreateState site a
  | .handleGetState => StatesHandler.handleGetState site a
  | .handleUpdateState => StatesHandler.handleUpdateState site a
  | .handleDeleteState => StatesHandler.handleDeleteState site a
  | .handleGetEdges => EdgesHandler.handleGetEdges site a
  | .handleCreateEdge => EdgesHandler.handleCreateEdge site a
  | .handleGetEdge => EdgesHandler.handleGetEdge site a
  | .handleDeleteEdge => EdgesHandler.handleDeleteEdge site a
  | .handleGetWorkflowEdges => EdgesHandler.handleGetWorkflowEdges site a
  | .health => health a
  | handler => Program.known (site.items handler a.request userId)

def handleRequest : Serving HttpResponse := do
  let path ← Program.known (site.library.decode a.request.path)
  match ← onMiddleware (RestServer.handleRequest site.jwt site.clock site.secretKey
      (RestServer.registerRoutes site.set) site.hasMiddleware a.request.method path
      a.request.authorization) with
  | .reply code message => pure (sendErrorResponse code message)
  | .call handler userId => site.callHandler a userId handler

/-- What `setupListener` gives the listener. -/
def support : Serving HttpResponse :=
  tryCatch (site.handleRequest a) fun e =>
    pure (sendErrorResponse 500 (bytes "Internal server error: " ++ e.what))

end

/-- The server after a request. -/
def serve (s : Server) (a : Arrival) : Server := ((site.support a).exec s).2

/-- What is replied to it; `support` catches everything, so the second case is none. -/
def response (s : Server) (a : Arrival) : HttpResponse :=
  match ((site.support a).exec s).1 with
  | .ok response => response
  | .error e => sendErrorResponse 500 (bytes "Internal server error: " ++ e.what)

/-- A run of the server on a database, from its start. -/
def run (c : Connection) (arrivals : List Arrival) : Server :=
  arrivals.foldl site.serve { connection := c, auth := .initial }

end Site

end Farado
