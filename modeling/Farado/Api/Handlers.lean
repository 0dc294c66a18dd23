import Farado.Api.Http

/-!
# The handlers

Class by class, with the texts of each, and `RestServer` above them: every request is answered once.
-/

namespace Farado.Http

open Answering Handling
open Farado.RestServer (member)

variable (B : Backend) (request : HttpRequest)

namespace AuthHandler

def handleLogin : Handler Unit :=
  handleRequestObject B B.authRequest AuthRequest.fields (fun authRequest => do
    let login ← value B authRequest.login
    let password ← value B authRequest.password
    let authResult ← ask (B.authService.login login password)
    if !authResult.success then
      sendErrorResponse B authResult.errorCode authResult.errorMessage
    else
      reply B statusOk (some (.object
        [(bytes "access_token", .string authResult.accessToken),
          (bytes "token_type", .string authResult.tokenType),
          (bytes "expires_in", .number authResult.expiresIn)]))) request

/-- No body is read, and nothing is caught here. -/
def handleLogout : Handler Unit :=
  match request.authorization with
  | none => sendErrorResponse B 401 (bytes "Missing Authorization header")
  | some header => do
      match ← ask (B.library.bearerMatch header) with
      | some token =>
          if ← ask (B.authService.logout token) then reply B statusNoContent none
          else sendErrorResponse B 500 (bytes "Failed to logout")
      | none => sendErrorResponse B 400 (bytes "Invalid Authorization header format")

def handleChangePassword (userId : Bytes) : Handler Unit :=
  if userId.isEmpty then sendErrorResponse B 401 (bytes "User not authenticated")
  else
    handleRequestObject B B.changePasswordRequest ChangePasswordRequest.fields
      (fun changeRequest => do
        match ← attempt (ask (B.library.stoll userId)) with
        | .error _ => sendErrorResponse B 400 (bytes "Invalid user ID")
        | .ok userIdInt => do
            let oldPassword ← value B changeRequest.oldPassword
            let newPassword ← value B changeRequest.newPassword
            let result ← ask (B.authService.changePassword userIdInt oldPassword newPassword)
            if !result.success then sendErrorResponse B result.errorCode result.errorMessage
            else reply B statusNoContent none) request

end AuthHandler

namespace UsersHandler

def invalidId : Bytes := bytes "Invalid user ID"

def handleGetUsers : Handler Unit :=
  handleGetAll B B.userDto (fun _ => pure B.userService.users) request

def handleGetUser : Handler Unit :=
  handleGet B B.userDto (member "/api/users") B.userService.user invalidId
    (bytes "User not found") request

/-- The password is in the body beside the fields of the user. -/
def handleCreateUser : Handler Unit :=
  extractJsonThen B request fun task =>
    tryCatch
      (do
        let jsonBody ← get task
        let json ← ask (B.library.toNlohmannJson jsonBody)
        let user ← ask (B.userDto.fromJson json)
        let password ← (do
          if ← ask (B.library.hasField jsonBody (bytes "password")) then
            ask (B.library.stringField jsonBody (bytes "password"))
          else pure [])
        if user.login.isNone || user.email.isNone || password.isEmpty then
          sendErrorResponse B 400 (bytes "Login, email and password are required")
        else
          match ← ask (B.userService.createUser user password) with
          | none =>
              sendErrorResponse B 409 (bytes "User with this login or email already exists")
          | some created => do
              let json ← toWebJson B B.userDto created
              reply B statusCreated (some json))
      (invalidRequest B)

/-- The only update that does not return the object. -/
def handleUpdateUser : Handler Unit :=
  handleUpdate B B.userDto (member "/api/users") B.userService.updateUser invalidId
    (bytes "User not found or update failed") (fun _ => reply B statusNoContent none) request

def handleDeleteUser : Handler Unit :=
  handleDelete B (member "/api/users") B.userService.deleteUser invalidId
    (bytes "User not found") request

end UsersHandler

namespace WorkflowsHandler

def invalidId : Bytes := bytes "Invalid workflow ID"

def handleGetWorkflows : Handler Unit :=
  handleGetAll B B.workflowDto (fun _ => pure B.workflowService.workflows) request

def handleGetWorkflow : Handler Unit :=
  handleGet B B.workflowDto (member "/api/workflows") B.workflowService.workflow invalidId
    (bytes "Workflow not found") request

def handleCreateWorkflow : Handler Unit :=
  handleCreate B B.workflowDto
    (fun workflow =>
      if (workflow.caption.getD []).isEmpty then some (bytes "Caption is required") else none)
    B.workflowService.createWorkflow (409, bytes "Workflow with this caption already exists") request

def handleUpdateWorkflow : Handler Unit :=
  handleUpdate B B.workflowDto (member "/api/workflows") B.workflowService.updateWorkflow invalidId
    (bytes "Workflow not found or update failed") (replyUpdated B B.workflowDto) request

def handleDeleteWorkflow : Handler Unit :=
  handleDeleteResult B (member "/api/workflows") B.workflowService.deleteWorkflow invalidId request

end WorkflowsHandler

namespace StatesHandler

def invalidId : Bytes := bytes "Invalid state ID"

def handleGetStates : Handler Unit :=
  handleGetAll B B.stateDto (fun params => do
    let workflowId ← idParam B (params.get "workflowId")
    pure fun page pageSize => B.stateService.states page pageSize workflowId) request

def handleGetState : Handler Unit :=
  handleGet B B.stateDto (member "/api/states") B.stateService.state invalidId
    (bytes "State not found") request

def handleCreateState : Handler Unit :=
  handleCreate B B.stateDto
    (fun state =>
      if state.workflowId.isNone || (state.caption.getD []).isEmpty then
        some (bytes "workflowId and caption are required")
      else none)
    B.stateService.createState (400, bytes "Failed to create state. Check workflow exists.") request

def handleUpdateState : Handler Unit :=
  handleUpdate B B.stateDto (member "/api/states") B.stateService.updateState invalidId
    (bytes "State not found or update failed") (replyUpdated B B.stateDto) request

def handleDeleteState : Handler Unit :=
  handleDeleteResult B (member "/api/states") B.stateService.deleteState invalidId request

end StatesHandler

namespace EdgesHandler

def invalidId : Bytes := bytes "Invalid edge ID"

def handleGetEdges : Handler Unit :=
  handleGetAll B B.edgeDto (fun params => do
    let beginStateId ← idParam B (params.get "beginStateId")
    let endStateId ← idParam B (params.get "endStateId")
    pure fun page pageSize => B.edgeService.edges page pageSize beginStateId endStateId) request

def handleGetEdge : Handler Unit :=
  handleGet B B.edgeDto (member "/api/edges") B.edgeService.edge invalidId
    (bytes "Edge not found") request

def handleCreateEdge : Handler Unit :=
  handleCreate B B.edgeDto
    (fun edge =>
      if edge.beginStateId.isNone || edge.endStateId.isNone then
        some (bytes "beginStateId and endStateId are required")
      else none)
    B.edgeService.createEdge (409, bytes "Edge already exists or states not found") request

def handleDeleteEdge : Handler Unit :=
  handleDeleteResult B (member "/api/edges") B.edgeService.deleteEdge invalidId request

/-- All of them, without pages. -/
def handleGetWorkflowEdges : Handler Unit := do
  let workflowId ← extractIdFromPath B (member "/api/workflows" ++ [.literal (bytes "/edges")])
    request
  if workflowId ≤ 0 then sendErrorResponse B 400 WorkflowsHandler.invalidId
  else
    let edges ← ask (B.edgeService.getWorkflowEdges workflowId)
    let items ← edges.mapM (toWebJson B B.edgeDto)
    reply B statusOk (some (.object
      [(bytes "items", .array items), (bytes "totalCount", .number edges.length)]))

end EdgesHandler

/-- `isArchive = params["isArchive"] == "true"` -/
def archiveParam (params : QueryParams) : Option Bool :=
  (params.get "isArchive").map fun text => text == bytes "true"

namespace ProjectsHandler

def invalidId : Bytes := bytes "Invalid project ID"

def handleGetProjects : Handler Unit :=
  handleGetAll B B.projectDto (fun params => do
    let parentId ← idParam B (params.get "parentId")
    pure fun page pageSize => B.projectService.projects page pageSize parentId (archiveParam params)
      ((params.get "searchCaption").getD [])) request

def handleGetProject : Handler Unit :=
  handleGet B B.projectDto (member "/api/projects") B.projectService.project invalidId
    (bytes "Project not found") request

def handleCreateProject : Handler Unit :=
  handleCreate B B.projectDto (fun _ => none) B.projectService.createProject
    (400, bytes "Invalid project data or could not create project") request

def handleUpdateProject : Handler Unit :=
  handleUpdate B B.projectDto (member "/api/projects") B.projectService.updateProject invalidId
    (bytes "Project not found or update failed") (replyUpdated B B.projectDto) request

/-- Archived, not deleted. -/
def handleDeleteProject : Handler Unit :=
  handleDelete B (member "/api/projects") B.projectService.archiveProject invalidId
    (bytes "Project not found") request

end ProjectsHandler

namespace PhasesHandler

def invalidId : Bytes := bytes "Invalid phase ID"

def handleGetPhases : Handler Unit :=
  handleGetAll B B.phaseDto (fun params => do
    let projectId ← idParam B (params.get "projectId")
    pure fun page pageSize => B.phaseService.phases page pageSize projectId (archiveParam params))
    request

def handleGetPhase : Handler Unit :=
  handleGet B B.phaseDto (member "/api/phases") B.phaseService.phase invalidId
    (bytes "Phase not found") request

def handleCreatePhase : Handler Unit :=
  handleCreate B B.phaseDto (fun _ => none) B.phaseService.createPhase
    (400, bytes "Invalid phase data or could not create phase") request

def handleUpdatePhase : Handler Unit :=
  handleUpdate B B.phaseDto (member "/api/phases") B.phaseService.updatePhase invalidId
    (bytes "Phase not found or update failed") (replyUpdated B B.phaseDto) request

/-- Archived, not deleted. -/
def handleDeletePhase : Handler Unit :=
  handleDelete B (member "/api/phases") B.phaseService.archivePhase invalidId
    (bytes "Phase not found") request

end PhasesHandler

namespace ItemTypesHandler

def invalidId : Bytes := bytes "Invalid item type ID"

def handleGetItemTypes : Handler Unit :=
  handleGetAll B B.itemTypeDto (fun params => do
    let workflowId ← idParam B (params.get "workflowId")
    pure fun page pageSize => B.itemTypeService.itemTypes page pageSize workflowId
      (params.get "kind") ((params.get "searchCaption").getD [])) request

def handleGetItemType : Handler Unit :=
  handleGet B B.itemTypeDto (member "/api/item-types") B.itemTypeService.itemType invalidId
    (bytes "Item type not found") request

def handleCreateItemType : Handler Unit :=
  handleCreate B B.itemTypeDto (fun _ => none) B.itemTypeService.createItemType
    (400, bytes "Invalid item type data or could not create item type") request

def handleUpdateItemType : Handler Unit :=
  handleUpdate B B.itemTypeDto (member "/api/item-types") B.itemTypeService.updateItemType invalidId
    (bytes "Item type not found or update failed") (replyUpdated B B.itemTypeDto) request

def handleDeleteItemType : Handler Unit :=
  handleDelete B (member "/api/item-types") B.itemTypeService.deleteItemType invalidId
    (bytes "Item type not found") request

end ItemTypesHandler

namespace FieldTypesHandler

def invalidId : Bytes := bytes "Invalid field type ID"

def handleGetFieldTypes : Handler Unit :=
  handleGetAll B B.fieldTypeDto (fun params => do
    let itemTypeId ← idParam B (params.get "itemTypeId")
    pure fun page pageSize => B.fieldTypeService.fieldTypes page pageSize itemTypeId
      (params.get "valueType") ((params.get "searchCaption").getD [])) request

def handleGetFieldType : Handler Unit :=
  handleGet B B.fieldTypeDto (member "/api/field-types") B.fieldTypeService.fieldType invalidId
    (bytes "Field type not found") request

def handleCreateFieldType : Handler Unit :=
  handleCreate B B.fieldTypeDto (fun _ => none) B.fieldTypeService.createFieldType
    (400, bytes "Invalid field type data or could not create field type") request

def handleUpdateFieldType : Handler Unit :=
  handleUpdate B B.fieldTypeDto (member "/api/field-types") B.fieldTypeService.updateFieldType
    invalidId (bytes "Field type not found or update failed") (replyUpdated B B.fieldTypeDto) request

def handleDeleteFieldType : Handler Unit :=
  handleDelete B (member "/api/field-types") B.fieldTypeService.deleteFieldType invalidId
    (bytes "Field type not found") request

end FieldTypesHandler

namespace RestServer

/-- The health check is written where it is registered. -/
def health : Handler Unit := do
  let now ← ask B.library.now
  reply B statusOk (some (.object
    [(bytes "status", .string (bytes "ok")), (bytes "timestamp", .number now)]))

/-- What the routes were registered with. -/
def callHandler (userId : Bytes) : RouteHandler → Handler Unit
  | .handleLogin => AuthHandler.handleLogin B request
  | .handleLogout => AuthHandler.handleLogout B request
  | .handleChangePassword => AuthHandler.handleChangePassword B request userId
  | .handleGetUsers => UsersHandler.handleGetUsers B request
  | .handleCreateUser => UsersHandler.handleCreateUser B request
  | .handleGetUser => UsersHandler.handleGetUser B request
  | .handleUpdateUser => UsersHandler.handleUpdateUser B request
  | .handleDeleteUser => UsersHandler.handleDeleteUser B request
  | .handleGetPhases => PhasesHandler.handleGetPhases B request
  | .handleCreatePhase => PhasesHandler.handleCreatePhase B request
  | .handleGetPhase => PhasesHandler.handleGetPhase B request
  | .handleUpdatePhase => PhasesHandler.handleUpdatePhase B request
  | .handleDeletePhase => PhasesHandler.handleDeletePhase B request
  | .handleGetProjects => ProjectsHandler.handleGetProjects B request
  | .handleCreateProject => ProjectsHandler.handleCreateProject B request
  | .handleGetProject => ProjectsHandler.handleGetProject B request
  | .handleUpdateProject => ProjectsHandler.handleUpdateProject B request
  | .handleDeleteProject => ProjectsHandler.handleDeleteProject B request
  | .handleGetFieldTypes => FieldTypesHandler.handleGetFieldTypes B request
  | .handleCreateFieldType => FieldTypesHandler.handleCreateFieldType B request
  | .handleGetFieldType => FieldTypesHandler.handleGetFieldType B request
  | .handleUpdateFieldType => FieldTypesHandler.handleUpdateFieldType B request
  | .handleDeleteFieldType => FieldTypesHandler.handleDeleteFieldType B request
  | .handleGetWorkflows => WorkflowsHandler.handleGetWorkflows B request
  | .handleCreateWorkflow => WorkflowsHandler.handleCreateWorkflow B request
  | .handleGetWorkflow => WorkflowsHandler.handleGetWorkflow B request
  | .handleUpdateWorkflow => WorkflowsHandler.handleUpdateWorkflow B request
  | .handleDeleteWorkflow => WorkflowsHandler.handleDeleteWorkflow B request
  | .handleGetItemTypes => ItemTypesHandler.handleGetItemTypes B request
  | .handleCreateItemType => ItemTypesHandler.handleCreateItemType B request
  | .handleGetItemType => ItemTypesHandler.handleGetItemType B request
  | .handleUpdateItemType => ItemTypesHandler.handleUpdateItemType B request
  | .handleDeleteItemType => ItemTypesHandler.handleDeleteItemType B request
  | .handleGetStates => StatesHandler.handleGetStates B request
  | .handleCreateState => StatesHandler.handleCreateState B request
  | .handleGetState => StatesHandler.handleGetState B request
  | .handleUpdateState => StatesHandler.handleUpdateState B request
  | .handleDeleteState => StatesHandler.handleDeleteState B request
  | .handleGetEdges => EdgesHandler.handleGetEdges B request
  | .handleCreateEdge => EdgesHandler.handleCreateEdge B request
  | .handleGetEdge => EdgesHandler.handleGetEdge B request
  | .handleDeleteEdge => EdgesHandler.handleDeleteEdge B request
  | .handleGetWorkflowEdges => EdgesHandler.handleGetWorkflowEdges B request
  | .health => health B
  | handler => B.items handler request userId

/-- The first route that matches; the expression library may throw. -/
def matchRoute (method path : Bytes) : List RouteInfo → Handler (Option RouteInfo)
  | [] => pure none
  | route :: routes =>
      if route.method = method then do
        match ← ask (B.library.regexMatch route.pathPattern path) with
        | some _ => pure (some route)
        | none => matchRoute method path routes
      else matchRoute method path routes

/-- The user id, or nothing after an error reply. -/
def applyAuthMiddleware : Handler (Option Bytes) :=
  match B.authMiddleware with
  | none => do
      sendErrorResponse B 500 (bytes "Internal server error: auth middleware not configured")
      pure none
  | some authMiddleware =>
      match request.authorization with
      | none => do
          sendErrorResponse B 401 (bytes "Missing Authorization header")
          pure none
      | some header => do
          match ← ask (authMiddleware.validateRequest header) with
          | none => do
              sendErrorResponse B 401 (bytes "Invalid or expired token")
              pure none
          | some userId => pure (some userId)

/-- What is done once the route is looked up. -/
def dispatch : Option RouteInfo → Handler Unit
  | none => sendErrorResponse B 404 (bytes "Not found")
  | some route =>
      if !route.isPublic then
        -- without a user id the reply has been sent
        applyAuthMiddleware B request >>= fun userId =>
          userId.elim (pure ()) fun userId => callHandler B request userId route.handler
      else callHandler B request [] route.handler

variable (routes : List RouteInfo)

def findRoute : Handler (Option RouteInfo) := do
  let path ← ask (B.library.decode request.path)
  matchRoute B request.method path routes

def handleRequest : Handler Unit := findRoute B request routes >>= dispatch B request

/-- What `setupListener` gives the listener: the handler of last resort around everything. -/
def support : Handler Unit :=
  tryCatch (handleRequest B request routes) fun e =>
    sendErrorResponse B 500 (bytes "Internal server error: " ++ e.what)

/-- The replies that a request is sent. -/
def replies : List HttpResponse := ((support B request routes).exec {}).2.answers

end RestServer

/-! ## One answer -/

section
variable {B} {request}

theorem answersOrThrows_handleLogin : AnswersOrThrows (AuthHandler.handleLogin B request) := by
  refine answersOrThrows_handleRequestObject fun authRequest => ?_
  refine (silent_value _).leaves_bind fun login => (silent_value _).leaves_bind fun password => ?_
  refine (silent_ask _).leaves_bind fun authResult => ?_
  split
  · exact (answers_sendErrorResponse B _ _).orThrows
  · exact (answers_reply B _ _).orThrows

theorem answersOrThrows_handleLogout : AnswersOrThrows (AuthHandler.handleLogout B request) := by
  unfold AuthHandler.handleLogout
  cases request.authorization with
  | none => exact (answers_sendErrorResponse B _ _).orThrows
  | some header =>
    refine (silent_ask _).leaves_bind fun token => ?_
    cases token with
    | none => exact (answers_sendErrorResponse B _ _).orThrows
    | some token =>
      refine (silent_ask _).leaves_bind fun loggedOut => ?_
      cases loggedOut with
      | true => exact (answers_reply B _ _).orThrows
      | false => exact (answers_sendErrorResponse B _ _).orThrows

theorem answersOrThrows_handleChangePassword (userId : Bytes) :
    AnswersOrThrows (AuthHandler.handleChangePassword B request userId) := by
  unfold AuthHandler.handleChangePassword
  split
  · exact (answers_sendErrorResponse B _ _).orThrows
  refine answersOrThrows_handleRequestObject fun changeRequest => ?_
  refine (silent_ask _).attempt.leaves_bind fun userIdInt => ?_
  cases userIdInt with
  | error e => exact (answers_sendErrorResponse B _ _).orThrows
  | ok userIdInt =>
    refine (silent_value _).leaves_bind fun oldPassword => ?_
    refine (silent_value _).leaves_bind fun newPassword => ?_
    refine (silent_ask _).leaves_bind fun result => ?_
    split
    · exact (answers_sendErrorResponse B _ _).orThrows
    · exact (answers_reply B _ _).orThrows

theorem answersOrThrows_handleCreateUser :
    AnswersOrThrows (UsersHandler.handleCreateUser B request) := by
  refine answersOrThrows_extractJsonThen fun task => ?_
  refine (silent_ask _).leaves_bind fun jsonBody => ?_
  refine (silent_ask _).leaves_bind fun json => ?_
  refine (silent_ask _).leaves_bind fun user => ?_
  refine Silent.leaves_bind ?_ fun password => ?_
  · refine (silent_ask _).bind fun given => ?_
    cases given with
    | true => exact silent_ask _
    | false => exact silent_pure []
  split
  · exact (answers_sendErrorResponse B _ _).orThrows
  refine (silent_ask _).leaves_bind fun created => ?_
  cases created with
  | none => exact (answers_sendErrorResponse B _ _).orThrows
  | some created =>
    refine (silent_toWebJson created).leaves_bind fun json => ?_
    exact (answers_reply B _ _).orThrows

theorem answersOrThrows_handleGetWorkflowEdges :
    AnswersOrThrows (EdgesHandler.handleGetWorkflowEdges B request) := by
  refine answersOrThrows_ofId fun workflowId => (silent_ask _).leaves_bind fun edges => ?_
  refine (silent_mapM silent_toWebJson edges).leaves_bind fun items => ?_
  exact (answers_reply B _ _).orThrows

namespace RestServer

/-- The handlers of the prototype. -/
def isItem : RouteHandler → Bool
  | .handleGetItems | .handleCreateItem | .handleGetItem | .handleUpdateItem | .handleDeleteItem =>
      true
  | _ => false

theorem answersOrThrows_callHandler (userId : Bytes) {handler : RouteHandler}
    (h : isItem handler = false) : AnswersOrThrows (callHandler B request userId handler) := by
  have hpure : ∀ {α : Type} (a : α), Silent (pure a : Handler α) := fun a => silent_pure a
  -- a filter is made of ids that are asked for in turn
  have hfilter : ∀ {α : Type} (x : Option Bytes) (f : Option Int → Handler α),
      (∀ id, Silent (f id)) → Silent (idParam B x >>= f) := fun x f hf =>
    (silent_idParam x).bind hf
  cases handler with
  | handleGetItems | handleCreateItem | handleGetItem | handleUpdateItem | handleDeleteItem => cases h
  | handleLogin => exact answersOrThrows_handleLogin
  | handleLogout => exact answersOrThrows_handleLogout
  | handleChangePassword => exact answersOrThrows_handleChangePassword userId
  | handleCreateUser => exact answersOrThrows_handleCreateUser
  | handleGetWorkflowEdges => exact answersOrThrows_handleGetWorkflowEdges
  | health => exact (silent_ask _).leaves_bind fun now => (answers_reply B _ _).orThrows
  | handleGetUsers | handleGetWorkflows =>
    dsimp only [callHandler]
    exact answersOrThrows_handleGetAll fun _ => hpure _
  | handleGetStates | handleGetProjects | handleGetPhases | handleGetItemTypes
  | handleGetFieldTypes =>
    dsimp only [callHandler]
    exact answersOrThrows_handleGetAll fun params => hfilter _ _ fun id => hpure _
  | handleGetEdges =>
    dsimp only [callHandler]
    exact answersOrThrows_handleGetAll fun params =>
      hfilter _ _ fun beginStateId => hfilter _ _ fun endStateId => hpure _
  | handleGetUser | handleGetPhase | handleGetProject | handleGetFieldType | handleGetWorkflow
  | handleGetItemType | handleGetState | handleGetEdge =>
    dsimp only [callHandler]
    exact answersOrThrows_handleGet
  | handleCreatePhase | handleCreateProject | handleCreateFieldType | handleCreateWorkflow
  | handleCreateItemType | handleCreateState | handleCreateEdge =>
    dsimp only [callHandler]
    exact answersOrThrows_handleCreate
  | handleUpdateUser =>
    dsimp only [callHandler]
    exact answersOrThrows_handleUpdate fun _ => (answers_reply B _ _).orThrows
  | handleUpdatePhase | handleUpdateProject | handleUpdateFieldType | handleUpdateWorkflow
  | handleUpdateItemType | handleUpdateState =>
    dsimp only [callHandler]
    exact answersOrThrows_handleUpdate answersOrThrows_replyUpdated
  | handleDeleteUser | handleDeletePhase | handleDeleteProject | handleDeleteFieldType
  | handleDeleteItemType =>
    dsimp only [callHandler]
    exact answersOrThrows_handleDelete
  | handleDeleteWorkflow | handleDeleteState | handleDeleteEdge =>
    dsimp only [callHandler]
    exact answersOrThrows_handleDeleteResult

theorem silent_matchRoute (method path : Bytes) (routes : List RouteInfo) :
    Silent (matchRoute B method path routes) := by
  induction routes with
  | nil => exact silent_pure none
  | cons route routes ih =>
    unfold matchRoute
    split
    · refine (silent_ask _).bind fun groups => ?_
      cases groups with
      | none => exact ih
      | some groups => exact silent_pure _
    · exact ih

theorem silent_findRoute (routes : List RouteInfo) : Silent (findRoute B request routes) :=
  (silent_ask _).bind fun path => silent_matchRoute _ path routes

/-- With expressions that match as they should, this is the search of the routes. -/
theorem exec_matchRoute
    (hmatch : ∀ pattern path n, B.library.regexMatch pattern path n = .ok (matchPath pattern path))
    (method path : Bytes) (routes : List RouteInfo) (s : Exchange HttpResponse) :
    ((matchRoute B method path routes).exec s).1 =
      .ok ((Farado.RestServer.matchRoute routes method path).map Prod.fst) := by
  induction routes generalizing s with
  | nil => rfl
  | cons route routes ih =>
    unfold Farado.RestServer.matchRoute
    unfold matchRoute
    rw [List.findSome?_cons]
    by_cases hmethod : route.method = method
    · rw [if_pos hmethod, if_pos hmethod, exec_ask_bind, hmatch]
      cases matchPath route.pathPattern path with
      | none => exact ih _
      | some groups => rfl
    · rw [if_neg hmethod, if_neg hmethod]
      exact ih s

theorem gate_applyAuthMiddleware : Gate (applyAuthMiddleware B request) := by
  unfold applyAuthMiddleware
  cases B.authMiddleware with
  | none => exact (answers_sendErrorResponse B _ _).gate
  | some authMiddleware =>
    cases request.authorization with
    | none => exact (answers_sendErrorResponse B _ _).gate
    | some header =>
      refine (silent_ask _).leaves_bind fun userId => ?_
      cases userId with
      | none => exact (answers_sendErrorResponse B _ _).gate
      | some userId => exact gate_some userId

theorem answersOrThrows_dispatch {route : Option RouteInfo}
    (h : ∀ r ∈ route, isItem r.handler = false) : AnswersOrThrows (dispatch B request route) := by
  cases route with
  | none => exact (answers_sendErrorResponse B _ _).orThrows
  | some route =>
    have hhandler := h route rfl
    dsimp only [dispatch]
    split
    · exact gate_applyAuthMiddleware.answersOrThrows fun userId =>
        answersOrThrows_callHandler userId hhandler
    · exact answersOrThrows_callHandler [] hhandler

end RestServer

end

/-- **Every request is answered once**, whatever comes of the calls it triggers, unless it is for the
prototype of the items. -/
theorem one_reply (B : Backend) (request : HttpRequest) (routes : List RouteInfo)
    (hroute : ∀ route s, (RestServer.findRoute B request routes).exec {} = (.ok (some route), s) →
      RestServer.isItem route.handler = false) :
    (RestServer.replies B request routes).length = 1 := by
  refine (LeavesAt.tryCatch ?_ fun e => answers_sendErrorResponse B _ _).2
  refine (RestServer.silent_findRoute routes).leavesAt_bind rfl fun route s hfound hs => ?_
  refine RestServer.answersOrThrows_dispatch ?_ s hs
  rintro r ⟨⟩
  exact hroute r s hfound

/-- Only the router and the token check work; every other call throws. -/
def sampleBackend : Backend :=
  { (default : Backend) with
    library := { (default : Library) with
      decode := fun path _ => .ok path
      regexMatch := fun pattern path _ => .ok (matchPath pattern path) }
    authMiddleware := some { validateRequest := fun _ _ => .ok (some (bytes "1")) } }

def sampleRequest : HttpRequest where
  method := Farado.RestServer.methodGet
  path := bytes "/api/users"
  authorization := some (bytes "Bearer x")
  query := []
  body := []

/-- The service throws, nobody on the way catches, and there is one reply. -/
theorem one_reply_sample :
    (RestServer.replies sampleBackend sampleRequest (Farado.RestServer.registerRoutes {})).length =
      1 :=
  one_reply sampleBackend sampleRequest _ (by
    intro route s h
    have hroute : Farado.RestServer.matchRoute (Farado.RestServer.registerRoutes {})
        sampleRequest.method sampleRequest.path = some ({
          method := Farado.RestServer.methodGet
          pathPattern := Farado.RestServer.collection "/api/users"
          handler := .handleGetUsers }, none) := by decide +kernel
    have hfound : ((RestServer.matchRoute sampleBackend sampleRequest.method sampleRequest.path
        (Farado.RestServer.registerRoutes {})).exec { asked := 1 }).1 = .ok (some route) :=
      congrArg Prod.fst h
    rw [RestServer.exec_matchRoute (fun _ _ _ => rfl), hroute] at hfound
    cases hfound
    rfl)

end Farado.Http
