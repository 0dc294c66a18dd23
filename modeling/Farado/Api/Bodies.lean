import Farado.Api.Handlers
import Farado.Api.Json
import Farado.Services.ItemType

/-!
# Handlers on the store

The creating and updating handlers once more, now with the services at work on the shared
connection: what is replied to a body, and what the connection is afterwards. The replies are those
of the handlers that ask.
-/

namespace Farado

open Http

/-- What the server has besides the connection: the libraries, the clock and the hash. `thrown` is
what the database code throws at an error. -/
structure Host where
  json : JsonLibrary
  env : Environment
  now : Int
  sha256 : Bytes → Bytes
  thrown : Error → StdException

namespace Bodies

/-- A reply and the connection after it. -/
abbrev Answered := HttpResponse × Connection

def sendErrorResponse (code : Int) (message : Bytes) : HttpResponse where
  statusCode := code
  body := some (.object [(bytes "code", .number code), (bytes "message", .string message)])

/-- The catch of every continuation that works on a body. -/
def invalidRequest (e : StdException) : HttpResponse :=
  sendErrorResponse 400 (bytes "Invalid request: " ++ e.what)

/-- The end of the `try`. -/
def caught : Except StdException HttpResponse → HttpResponse
  | .ok response => response
  | .error e => invalidRequest e

section
variable (host : Host)

/-- What a service has returned, and what is made of it. -/
def replyTo {Dto : Type} (failed : Int × Bytes)
    (replyWith : Dto → Except StdException HttpResponse) :
    Except Error (Option Dto) → Except StdException HttpResponse
  | .error e => .error (host.thrown e)
  | .ok none => .ok (sendErrorResponse failed.1 failed.2)
  | .ok (some x) => replyWith x

/-- The object, as JSON. -/
def replyObject {Dto : Type} (toJson : Dto → Json) (statusCode : Int) (x : Dto) :
    Except StdException HttpResponse := do
  let json ← host.json.toWebJson (toJson x)
  return { statusCode, body := some json }

/-- A new object; `check` is the error that the handler itself finds, and `failed` the one for a
service that creates nothing. -/
def handleCreate {Dto : Type} (fromJson : Json → Dto × Bool) (toJson : Dto → Json)
    (check : Dto → Option Bytes) (create : Dto → Db (Option Dto)) (failed : Int × Bytes)
    (jsonBody : Json) (c : Connection) : Answered :=
  match host.json.toNlohmannJson jsonBody with
  | .error e => (invalidRequest e, c)
  | .ok json =>
      -- the constructor does not look at what `fromJson` returns
      let x := (fromJson json).1
      match check x with
      | some message => (sendErrorResponse 400 message, c)
      | none =>
          (caught (replyTo host failed (replyObject host toJson statusCreated)
              ((create x).result c)),
            (create x).after c)

/-- The fields of an object, by the id in the path; what is returned, `replyWith` says. -/
def handleUpdate {Dto : Type} (fromJson : Json → Dto × Bool) (update : Dto → Db (Option Dto))
    (invalidId failed : Bytes) (replyWith : Dto → Except StdException HttpResponse) (id : Int)
    (jsonBody : Json) (c : Connection) : Answered :=
  if id ≤ 0 then (sendErrorResponse 400 invalidId, c)
  else
    match host.json.toNlohmannJson jsonBody with
    | .error e => (invalidRequest e, c)
    | .ok json =>
        match json.set "id" (.number id) with
        | none => (invalidRequest host.json.typeError, c)
        | some json =>
            let x := (fromJson json).1
            (caught (replyTo host (404, failed) replyWith ((update x).result c)),
              (update x).after c)

namespace UsersHandler

/-- `has_field` and `as_string`: nothing where the field is there and not a string. -/
def password (jsonBody : Json) : Option Bytes :=
  match jsonBody.get? "password" with
  | none => some []
  | some value => value.getString

/-- What comes after the password has been read. -/
def createUser (user : Dto.User) (password : Bytes) (c : Connection) :
    Except StdException HttpResponse × Connection :=
  if user.login.isNone || user.email.isNone || password.isEmpty then
    (.ok (sendErrorResponse 400 (bytes "Login, email and password are required")), c)
  else
    (replyTo host (409, bytes "User with this login or email already exists")
        (replyObject host Dto.User.toJson statusCreated)
        ((UserService.createUser host.sha256 user password).result c),
      (UserService.createUser host.sha256 user password).after c)

/-- The password is in the body beside the fields of the user. -/
def handleCreateUser (jsonBody : Json) (c : Connection) : Answered :=
  match host.json.toNlohmannJson jsonBody with
  | .error e => (invalidRequest e, c)
  | .ok json =>
      let user := (Dto.User.fromJson host.json json).1
      match password jsonBody with
      | none => (invalidRequest host.json.notAString, c)
      | some password =>
          let (created, c') := createUser host user password c
          (caught created, c')

/-- The only update that does not return the object. -/
def handleUpdateUser : (id : Int) → (jsonBody : Json) → Connection → Answered :=
  handleUpdate host (Dto.User.fromJson host.json) UserService.updateUser
    Http.UsersHandler.invalidId (bytes "User not found or update failed")
    fun _ => .ok { statusCode := statusNoContent, body := none }

end UsersHandler

namespace WorkflowsHandler

def check (workflow : Dto.Workflow) : Option Bytes :=
  if (workflow.caption.getD []).isEmpty then some (bytes "Caption is required") else none

def handleCreateWorkflow : (jsonBody : Json) → Connection → Answered :=
  handleCreate host (Dto.Workflow.fromJson host.json) Dto.Workflow.toJson check
    WorkflowService.createWorkflow (409, bytes "Workflow with this caption already exists")

def handleUpdateWorkflow : (id : Int) → (jsonBody : Json) → Connection → Answered :=
  handleUpdate host (Dto.Workflow.fromJson host.json) WorkflowService.updateWorkflow
    Http.WorkflowsHandler.invalidId (bytes "Workflow not found or update failed")
    (replyObject host Dto.Workflow.toJson statusOk)

end WorkflowsHandler

namespace StatesHandler

def check (state : Dto.State) : Option Bytes :=
  if state.workflowId.isNone || (state.caption.getD []).isEmpty then
    some (bytes "workflowId and caption are required")
  else none

def handleCreateState : (jsonBody : Json) → Connection → Answered :=
  handleCreate host (Dto.State.fromJson host.json) Dto.State.toJson check StateService.createState
    (400, bytes "Failed to create state. Check workflow exists.")

def handleUpdateState : (id : Int) → (jsonBody : Json) → Connection → Answered :=
  handleUpdate host (Dto.State.fromJson host.json) StateService.updateState
    Http.StatesHandler.invalidId (bytes "State not found or update failed")
    (replyObject host Dto.State.toJson statusOk)

end StatesHandler

namespace EdgesHandler

def check (edge : Dto.Edge) : Option Bytes :=
  if edge.beginStateId.isNone || edge.endStateId.isNone then
    some (bytes "beginStateId and endStateId are required")
  else none

def handleCreateEdge : (jsonBody : Json) → Connection → Answered :=
  handleCreate host (Dto.Edge.fromJson host.json) Dto.Edge.toJson check EdgeService.createEdge
    (409, bytes "Edge already exists or states not found")

end EdgesHandler

namespace ProjectsHandler

def handleCreateProject : (jsonBody : Json) → Connection → Answered :=
  handleCreate host (Dto.Project.fromJson host.json) Dto.Project.toJson (fun _ => none)
    (ProjectService.createProject host.env host.now)
    (400, bytes "Invalid project data or could not create project")

def handleUpdateProject : (id : Int) → (jsonBody : Json) → Connection → Answered :=
  handleUpdate host (Dto.Project.fromJson host.json)
    (ProjectService.updateProject host.env host.now) Http.ProjectsHandler.invalidId
    (bytes "Project not found or update failed") (replyObject host Dto.Project.toJson statusOk)

end ProjectsHandler

namespace PhasesHandler

def handleCreatePhase : (jsonBody : Json) → Connection → Answered :=
  handleCreate host (Dto.Phase.fromJson host.json) Dto.Phase.toJson (fun _ => none)
    (PhaseService.createPhase host.env) (400, bytes "Invalid phase data or could not create phase")

def handleUpdatePhase : (id : Int) → (jsonBody : Json) → Connection → Answered :=
  handleUpdate host (Dto.Phase.fromJson host.json) (PhaseService.updatePhase host.env)
    Http.PhasesHandler.invalidId (bytes "Phase not found or update failed")
    (replyObject host Dto.Phase.toJson statusOk)

end PhasesHandler

namespace ItemTypesHandler

def handleCreateItemType : (jsonBody : Json) → Connection → Answered :=
  handleCreate host (Dto.ItemType.fromJson host.json) Dto.ItemType.toJson (fun _ => none)
    ItemTypeService.createItemType
    (400, bytes "Invalid item type data or could not create item type")

def handleUpdateItemType : (id : Int) → (jsonBody : Json) → Connection → Answered :=
  handleUpdate host (Dto.ItemType.fromJson host.json) ItemTypeService.updateItemType
    Http.ItemTypesHandler.invalidId (bytes "Item type not found or update failed")
    (replyObject host Dto.ItemType.toJson statusOk)

end ItemTypesHandler

namespace FieldTypesHandler

def handleCreateFieldType : (jsonBody : Json) → Connection → Answered :=
  handleCreate host (Dto.FieldType.fromJson host.json) Dto.FieldType.toJson (fun _ => none)
    FieldTypeService.createFieldType
    (400, bytes "Invalid field type data or could not create field type")

def handleUpdateFieldType : (id : Int) → (jsonBody : Json) → Connection → Answered :=
  handleUpdate host (Dto.FieldType.fromJson host.json) FieldTypeService.updateFieldType
    Http.FieldTypesHandler.invalidId (bytes "Field type not found or update failed")
    (replyObject host Dto.FieldType.toJson statusOk)

end FieldTypesHandler

end

/-- The requests that create or update something, with the id of the path and the parsed body.
There is none that updates an edge. -/
inductive Request where
  | createUser (jsonBody : Json)
  | createWorkflow (jsonBody : Json)
  | createState (jsonBody : Json)
  | createEdge (jsonBody : Json)
  | createProject (jsonBody : Json)
  | createPhase (jsonBody : Json)
  | createItemType (jsonBody : Json)
  | createFieldType (jsonBody : Json)
  | updateUser (id : Int) (jsonBody : Json)
  | updateWorkflow (id : Int) (jsonBody : Json)
  | updateState (id : Int) (jsonBody : Json)
  | updateProject (id : Int) (jsonBody : Json)
  | updatePhase (id : Int) (jsonBody : Json)
  | updateItemType (id : Int) (jsonBody : Json)
  | updateFieldType (id : Int) (jsonBody : Json)

/-- What the handler of a request does. -/
def Request.handle (host : Host) : Request → Connection → Answered
  | .createUser jsonBody => UsersHandler.handleCreateUser host jsonBody
  | .createWorkflow jsonBody => WorkflowsHandler.handleCreateWorkflow host jsonBody
  | .createState jsonBody => StatesHandler.handleCreateState host jsonBody
  | .createEdge jsonBody => EdgesHandler.handleCreateEdge host jsonBody
  | .createProject jsonBody => ProjectsHandler.handleCreateProject host jsonBody
  | .createPhase jsonBody => PhasesHandler.handleCreatePhase host jsonBody
  | .createItemType jsonBody => ItemTypesHandler.handleCreateItemType host jsonBody
  | .createFieldType jsonBody => FieldTypesHandler.handleCreateFieldType host jsonBody
  | .updateUser id jsonBody => UsersHandler.handleUpdateUser host id jsonBody
  | .updateWorkflow id jsonBody => WorkflowsHandler.handleUpdateWorkflow host id jsonBody
  | .updateState id jsonBody => StatesHandler.handleUpdateState host id jsonBody
  | .updateProject id jsonBody => ProjectsHandler.handleUpdateProject host id jsonBody
  | .updatePhase id jsonBody => PhasesHandler.handleUpdatePhase host id jsonBody
  | .updateItemType id jsonBody => ItemTypesHandler.handleUpdateItemType host id jsonBody
  | .updateFieldType id jsonBody => FieldTypesHandler.handleUpdateFieldType host id jsonBody

/-! ## The handlers that ask

Asked by a handler, this backend answers what is so before the request: the path has `id`, the body
is `jsonBody`, and the services do what they do on the connection `c`. -/

/-- What comes of a call that is made once. -/
def outcome {α : Type} (host : Host) (result : Except Error α) : Outcome α := fun _ =>
  match result with
  | .ok a => .ok a
  | .error e => .error (host.thrown e)

def codec {Dto : Type} (fromJson : Json → Dto × Bool) (toJson : Dto → Json) : Codec Dto where
  fromJson json _ := .ok (fromJson json).1
  toJson x _ := .ok (toJson x)

def backend (host : Host) (c : Connection) (id : Int) (jsonBody : Json) : Backend :=
  { (default : Backend) with
    library := { (default : Library) with
      decode := fun path _ => .ok path
      regexMatch := fun _ path _ => .ok (some [path])
      stoll := fun _ _ => .ok id
      extractJson := fun _ _ => .ok (.ok jsonBody)
      toNlohmannJson := fun json _ => host.json.toNlohmannJson json
      toWebJson := fun json _ => host.json.toWebJson json
      setId := fun json id _ => (json.set "id" (.number id)).elim (.error host.json.typeError) .ok
      hasField := fun json name _ => .ok (json.find? name).isSome
      stringField := fun json name _ =>
        ((json.find? name).bind Json.getString).elim (.error host.json.notAString) .ok }
    userDto := codec (Dto.User.fromJson host.json) Dto.User.toJson
    workflowDto := codec (Dto.Workflow.fromJson host.json) Dto.Workflow.toJson
    stateDto := codec (Dto.State.fromJson host.json) Dto.State.toJson
    edgeDto := codec (Dto.Edge.fromJson host.json) Dto.Edge.toJson
    projectDto := codec (Dto.Project.fromJson host.json) Dto.Project.toJson
    phaseDto := codec (Dto.Phase.fromJson host.json) Dto.Phase.toJson
    itemTypeDto := codec (Dto.ItemType.fromJson host.json) Dto.ItemType.toJson
    fieldTypeDto := codec (Dto.FieldType.fromJson host.json) Dto.FieldType.toJson
    userService := { (default : IUserService) with
      createUser := fun user password =>
        outcome host ((UserService.createUser host.sha256 user password).result c)
      updateUser := fun user => outcome host ((UserService.updateUser user).result c) }
    workflowService := { (default : IWorkflowService) with
      createWorkflow := fun workflow =>
        outcome host ((WorkflowService.createWorkflow workflow).result c)
      updateWorkflow := fun workflow =>
        outcome host ((WorkflowService.updateWorkflow workflow).result c) }
    stateService := { (default : IStateService) with
      createState := fun state => outcome host ((StateService.createState state).result c)
      updateState := fun state => outcome host ((StateService.updateState state).result c) }
    edgeService := { (default : IEdgeService) with
      createEdge := fun edge => outcome host ((EdgeService.createEdge edge).result c) }
    projectService := { (default : IProjectService) with
      createProject := fun project =>
        outcome host ((ProjectService.createProject host.env host.now project).result c)
      updateProject := fun project =>
        outcome host ((ProjectService.updateProject host.env host.now project).result c) }
    phaseService := { (default : IPhaseService) with
      createPhase := fun phase => outcome host ((PhaseService.createPhase host.env phase).result c)
      updatePhase := fun phase => outcome host ((PhaseService.updatePhase host.env phase).result c) }
    itemTypeService := { (default : IItemTypeService) with
      createItemType := fun itemType =>
        outcome host ((ItemTypeService.createItemType itemType).result c)
      updateItemType := fun itemType =>
        outcome host ((ItemTypeService.updateItemType itemType).result c) }
    fieldTypeService := { (default : IFieldTypeService) with
      createFieldType := fun fieldType =>
        outcome host ((FieldTypeService.createFieldType fieldType).result c)
      updateFieldType := fun fieldType =>
        outcome host ((FieldTypeService.updateFieldType fieldType).result c) } }

section
open Answering Handling

variable {B : Backend}

theorem gives_sendErrorResponse (code : Int) (message : Bytes) :
    Gives (Http.sendErrorResponse B code message) (.ok (sendErrorResponse code message)) :=
  gives_answer _ _

theorem gives_caught {p : Handler Unit} {r : Except StdException HttpResponse} (hp : Gives p r) :
    Gives (tryCatch p (Http.invalidRequest B)) (.ok (caught r)) := by
  have := hp.tryCatch (g := fun e => .ok (invalidRequest e)) fun e =>
    gives_sendErrorResponse (B := B) 400 (bytes "Invalid request: " ++ e.what)
  cases r <;> exact this

variable {host : Host} {c : Connection} {id : Int} {jsonBody : Json} {request : HttpRequest}

section
variable {Dto : Type}

/-- What the service has returned is replied. -/
theorem gives_replyTo {result : Except Error (Option Dto)} {failed : Int × Bytes}
    {k : Option Dto → Handler Unit} {replyWith : Dto → Except StdException HttpResponse}
    (hnone : Gives (k none) (.ok (sendErrorResponse failed.1 failed.2)))
    (hsome : ∀ x, Gives (k (some x)) (replyWith x)) :
    Gives (ask (outcome host result) >>= k) (replyTo host failed replyWith result) := by
  cases result with
  | error e => exact gives_ask_error fun _ => rfl
  | ok created =>
    cases created with
    | none => exact hnone.ask fun _ => rfl
    | some x => exact (hsome x).ask fun _ => rfl

theorem gives_replyObject (fromJson : Json → Dto × Bool) (toJson : Dto → Json) (statusCode : Int)
    (x : Dto) :
    Gives (Http.toWebJson (backend host c id jsonBody) (codec fromJson toJson) x >>= fun json =>
      reply (backend host c id jsonBody) statusCode (some json))
      (replyObject host toJson statusCode x) := by
  unfold Http.toWebJson replyObject
  rw [bind_assoc]
  refine Gives.ask ?_ fun _ => rfl
  exact gives_ask_bind (fun _ => rfl) fun json => gives_answer _ _

theorem gives_handleCreate (fromJson : Json → Dto × Bool) (toJson : Dto → Json)
    (check : Dto → Option Bytes) (create : Dto → Db (Option Dto)) (failed : Int × Bytes) :
    Gives (Http.handleCreate (backend host c id jsonBody) (codec fromJson toJson) check
      (fun x => outcome host ((create x).result c)) failed request)
      (.ok (handleCreate host fromJson toJson check create failed jsonBody c).1) := by
  unfold Http.handleCreate Http.extractJsonThen handleCreate
  refine Gives.ask ?_ fun _ => rfl
  cases hjson : host.json.toNlohmannJson jsonBody with
  | error e =>
    refine gives_caught (r := .error e) (Gives.ask ?_ fun _ => rfl)
    exact gives_ask_error fun _ => hjson
  | ok json =>
    dsimp only
    cases hcheck : check (fromJson json).1 with
    | some message =>
      refine gives_caught (r := .ok (sendErrorResponse 400 message)) (Gives.ask ?_ fun _ => rfl)
      refine Gives.ask (Gives.ask ?_ fun _ => rfl) fun _ => hjson
      rw [hcheck]
      exact gives_sendErrorResponse 400 message
    | none =>
      refine gives_caught (Gives.ask ?_ fun _ => rfl)
      refine Gives.ask (Gives.ask ?_ fun _ => rfl) fun _ => hjson
      rw [hcheck]
      exact gives_replyTo (gives_sendErrorResponse _ _)
        (gives_replyObject fromJson toJson statusCreated)

/-- The path that is asked about has the id. -/
theorem gives_extractIdFromPath {pattern : List PathPart} {k : Int → Handler Unit}
    {r : Except StdException HttpResponse} (hk : Gives (k id) r) :
    Gives (extractIdFromPath (backend host c id jsonBody) pattern request >>= k) r := by
  unfold extractIdFromPath
  rw [bind_assoc]
  refine Gives.ask ?_ fun _ => rfl
  rw [bind_assoc]
  refine Gives.ask ?_ fun _ => rfl
  exact hk.ask fun _ => rfl

theorem gives_handleUpdate (fromJson : Json → Dto × Bool) (toJson : Dto → Json)
    {pattern : List PathPart} (update : Dto → Db (Option Dto)) {invalidId failed : Bytes}
    {updated : Dto → Handler Unit}
    {replyWith : Dto → Except StdException HttpResponse}
    (hreply : ∀ x, Gives (updated x) (replyWith x)) :
    Gives (Http.handleUpdate (backend host c id jsonBody) (codec fromJson toJson) pattern
      (fun x => outcome host ((update x).result c)) invalidId failed updated request)
      (.ok (handleUpdate host fromJson update invalidId failed replyWith id jsonBody c).1) := by
  unfold Http.handleUpdate handleUpdate
  apply gives_extractIdFromPath
  by_cases hid : id ≤ 0
  · rw [if_pos hid, if_pos hid]
    exact gives_sendErrorResponse 400 invalidId
  rw [if_neg hid, if_neg hid]
  refine Gives.ask ?_ fun _ => rfl
  cases hjson : host.json.toNlohmannJson jsonBody with
  | error e =>
    refine gives_caught (r := .error e) (Gives.ask ?_ fun _ => rfl)
    exact gives_ask_error fun _ => hjson
  | ok json =>
    dsimp only
    have hsetId : ∀ n, (backend host c id jsonBody).library.setId json id n =
        (json.set "id" (.number id)).elim (.error host.json.typeError) .ok := fun _ => rfl
    cases hset : json.set "id" (.number id) with
    | none =>
      rw [hset] at hsetId
      refine gives_caught (r := .error host.json.typeError) (Gives.ask ?_ fun _ => rfl)
      exact Gives.ask (gives_ask_error hsetId) fun _ => hjson
    | some named =>
      rw [hset] at hsetId
      refine gives_caught (Gives.ask ?_ fun _ => rfl)
      refine Gives.ask (Gives.ask (Gives.ask ?_ fun _ => rfl) hsetId) fun _ => hjson
      exact gives_replyTo (gives_sendErrorResponse _ _) hreply

end

/-- The password is asked for in two questions. -/
theorem gives_password {k : Bytes → Handler Unit} {f : Bytes → Except StdException HttpResponse}
    (hk : ∀ password, Gives (k password) (f password)) :
    Gives ((do
      if ← ask ((backend host c id jsonBody).library.hasField jsonBody (bytes "password")) then
        ask ((backend host c id jsonBody).library.stringField jsonBody (bytes "password"))
      else pure []) >>= k)
      ((UsersHandler.password jsonBody).elim (.error host.json.notAString) f) := by
  have hhas : ∀ n, (backend host c id jsonBody).library.hasField jsonBody (bytes "password") n =
      .ok (jsonBody.find? (bytes "password")).isSome := fun _ => rfl
  have hstring : ∀ n, (backend host c id jsonBody).library.stringField jsonBody (bytes "password") n
      = ((jsonBody.find? (bytes "password")).bind Json.getString).elim
          (.error host.json.notAString) .ok := fun _ => rfl
  rw [bind_assoc]
  refine Gives.ask ?_ hhas
  unfold UsersHandler.password Json.get?
  cases hfield : jsonBody.find? (bytes "password") with
  | none => exact hk []
  | some value =>
    rw [hfield, Option.bind_some] at hstring
    cases hvalue : value.getString with
    | none =>
      rw [hvalue] at hstring
      dsimp only
      rw [hvalue]
      exact gives_ask_error hstring
    | some password =>
      rw [hvalue] at hstring
      dsimp only
      rw [hvalue]
      exact (hk password).ask hstring

theorem fst_handleCreateUser {json : Json} (h : host.json.toNlohmannJson jsonBody = .ok json) :
    (UsersHandler.handleCreateUser host jsonBody c).1 =
      caught ((UsersHandler.password jsonBody).elim (.error host.json.notAString) fun password =>
        (UsersHandler.createUser host (Dto.User.fromJson host.json json).1 password c).1) := by
  unfold UsersHandler.handleCreateUser
  rw [h]
  cases UsersHandler.password jsonBody <;> rfl

theorem gives_handleCreateUser :
    Gives (Http.UsersHandler.handleCreateUser (backend host c id jsonBody) request)
      (.ok (UsersHandler.handleCreateUser host jsonBody c).1) := by
  unfold Http.UsersHandler.handleCreateUser
  refine Gives.ask ?_ fun _ => rfl
  cases hjson : host.json.toNlohmannJson jsonBody with
  | error e =>
    unfold UsersHandler.handleCreateUser
    rw [hjson]
    refine gives_caught (r := .error e) (Gives.ask ?_ fun _ => rfl)
    exact gives_ask_error fun _ => hjson
  | ok json =>
    rw [fst_handleCreateUser hjson]
    refine gives_caught (Gives.ask ?_ fun _ => rfl)
    refine Gives.ask (Gives.ask ?_ fun _ => rfl) fun _ => hjson
    refine gives_password fun password => ?_
    unfold UsersHandler.createUser
    split
    · exact gives_sendErrorResponse 400 (bytes "Login, email and password are required")
    · exact gives_replyTo (gives_sendErrorResponse _ _)
        (gives_replyObject (Dto.User.fromJson host.json) Dto.User.toJson statusCreated)

/-- Which handler a request is for. -/
def Request.routeHandler : Request → RouteHandler
  | .createUser _ => .handleCreateUser
  | .createWorkflow _ => .handleCreateWorkflow
  | .createState _ => .handleCreateState
  | .createEdge _ => .handleCreateEdge
  | .createProject _ => .handleCreateProject
  | .createPhase _ => .handleCreatePhase
  | .createItemType _ => .handleCreateItemType
  | .createFieldType _ => .handleCreateFieldType
  | .updateUser .. => .handleUpdateUser
  | .updateWorkflow .. => .handleUpdateWorkflow
  | .updateState .. => .handleUpdateState
  | .updateProject .. => .handleUpdateProject
  | .updatePhase .. => .handleUpdatePhase
  | .updateItemType .. => .handleUpdateItemType
  | .updateFieldType .. => .handleUpdateFieldType

/-- What the backend knows of the request. -/
def Request.backend (host : Host) (c : Connection) : Request → Backend
  | .createUser jsonBody | .createWorkflow jsonBody | .createState jsonBody | .createEdge jsonBody
  | .createProject jsonBody | .createPhase jsonBody | .createItemType jsonBody
  | .createFieldType jsonBody => Bodies.backend host c 0 jsonBody
  | .updateUser id jsonBody | .updateWorkflow id jsonBody | .updateState id jsonBody
  | .updateProject id jsonBody | .updatePhase id jsonBody | .updateItemType id jsonBody
  | .updateFieldType id jsonBody => Bodies.backend host c id jsonBody

/-- The handlers that ask reply what the handlers on the store reply. -/
theorem gives_callHandler (r : Request) (userId : Bytes) :
    Gives (Http.RestServer.callHandler (r.backend host c) request userId r.routeHandler)
      (.ok (r.handle host c).1) := by
  cases r with
  | createUser jsonBody => exact gives_handleCreateUser
  | createWorkflow jsonBody =>
    exact gives_handleCreate (Dto.Workflow.fromJson host.json) Dto.Workflow.toJson
      WorkflowsHandler.check WorkflowService.createWorkflow _
  | createState jsonBody =>
    exact gives_handleCreate (Dto.State.fromJson host.json) Dto.State.toJson StatesHandler.check
      StateService.createState _
  | createEdge jsonBody =>
    exact gives_handleCreate (Dto.Edge.fromJson host.json) Dto.Edge.toJson EdgesHandler.check
      EdgeService.createEdge _
  | createProject jsonBody =>
    exact gives_handleCreate (Dto.Project.fromJson host.json) Dto.Project.toJson (fun _ => none)
      (ProjectService.createProject host.env host.now) _
  | createPhase jsonBody =>
    exact gives_handleCreate (Dto.Phase.fromJson host.json) Dto.Phase.toJson (fun _ => none)
      (PhaseService.createPhase host.env) _
  | createItemType jsonBody =>
    exact gives_handleCreate (Dto.ItemType.fromJson host.json) Dto.ItemType.toJson (fun _ => none)
      ItemTypeService.createItemType _
  | createFieldType jsonBody =>
    exact gives_handleCreate (Dto.FieldType.fromJson host.json) Dto.FieldType.toJson (fun _ => none)
      FieldTypeService.createFieldType _
  | updateUser id jsonBody =>
    exact gives_handleUpdate (Dto.User.fromJson host.json) Dto.User.toJson UserService.updateUser
      fun _ => gives_answer _ _
  | updateWorkflow id jsonBody =>
    exact gives_handleUpdate (Dto.Workflow.fromJson host.json) Dto.Workflow.toJson
      WorkflowService.updateWorkflow (gives_replyObject _ _ statusOk)
  | updateState id jsonBody =>
    exact gives_handleUpdate (Dto.State.fromJson host.json) Dto.State.toJson
      StateService.updateState (gives_replyObject _ _ statusOk)
  | updateProject id jsonBody =>
    exact gives_handleUpdate (Dto.Project.fromJson host.json) Dto.Project.toJson
      (ProjectService.updateProject host.env host.now) (gives_replyObject _ _ statusOk)
  | updatePhase id jsonBody =>
    exact gives_handleUpdate (Dto.Phase.fromJson host.json) Dto.Phase.toJson
      (PhaseService.updatePhase host.env) (gives_replyObject _ _ statusOk)
  | updateItemType id jsonBody =>
    exact gives_handleUpdate (Dto.ItemType.fromJson host.json) Dto.ItemType.toJson
      ItemTypeService.updateItemType (gives_replyObject _ _ statusOk)
  | updateFieldType id jsonBody =>
    exact gives_handleUpdate (Dto.FieldType.fromJson host.json) Dto.FieldType.toJson
      FieldTypeService.updateFieldType (gives_replyObject _ _ statusOk)

end

end Bodies

end Farado
