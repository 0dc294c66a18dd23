import Farado.Api.Routes
import Farado.Lib.Answering
import Farado.Services.Project

/-!
# Requests and replies

What the handlers are written in terms of: the requests and replies of the HTTP library, its JSON,
and the interfaces they call. The calls are questions here: every service, every parser and every
conversion may return anything of its type or throw a `std::exception`, and differently each time.
-/

namespace Farado.Http

open Answering Handling

/-- `std::exception` -/
structure StdException where
  what : Bytes
  deriving DecidableEq, Repr, Inhabited

/-- The values of `web::json::value` and of `nlohmann::json`. -/
inductive Json where
  | null
  | boolean (b : Bool)
  | number (n : Int)
  | real (bits : UInt64)
  | string (s : Bytes)
  | array (items : List Json)
  | object (fields : List (Bytes × Json))

/-- `web::http::http_request`: of the headers the one that is looked at, and the body unread. -/
structure HttpRequest where
  method : Bytes
  path : Bytes
  authorization : Option Bytes
  query : Bytes
  body : Bytes
  deriving DecidableEq, Repr

/-- `web::http::http_response` -/
structure HttpResponse where
  statusCode : Int
  body : Option Json

/-- What comes of a call, by the number of calls before it. -/
abbrev Outcome (α : Type) := Nat → Except StdException α

/-- The code of a handler. -/
abbrev Handler := Handling StdException HttpResponse

/-- What is called of the libraries. `extractJson` returns a task, which has a value or an exception
of its own; `multipleResponses` is what a second `reply` throws. -/
structure Library where
  decode : Bytes → Outcome Bytes
  regexMatch : List PathPart → Bytes → Outcome (Option (List Bytes))
  bearerMatch : Bytes → Outcome (Option Bytes)
  splitQuery : Bytes → Outcome (List (Bytes × Bytes))
  stoi : Bytes → Outcome Int
  stoll : Bytes → Outcome Int
  now : Outcome Int
  extractJson : Bytes → Outcome (Except StdException Json)
  toNlohmannJson : Json → Outcome Json
  toWebJson : Json → Outcome Json
  setId : Json → Int → Outcome Json
  hasField : Json → Bytes → Outcome Bool
  stringField : Json → Bytes → Outcome Bytes
  badOptionalAccess : StdException
  multipleResponses : StdException
  deriving Inhabited

/-- `fromJson` and `toJson` of a transfer object. -/
structure Codec (Dto : Type) where
  fromJson : Json → Outcome Dto
  toJson : Dto → Outcome Json
  deriving Inhabited

/-! ## The request objects -/

/-- The fields of a request object that have to be there and not empty, with their names. -/
abbrev RequiredFields := List (String × Option Bytes)

def RequiredFields.isValid (fields : RequiredFields) : Bool :=
  (fields.all fun f => f.2.isSome) && fields.all fun f => !(f.2.getD []).isEmpty

def RequiredFields.validationError (fields : RequiredFields) : Bytes :=
  match fields.find? fun f => f.2.isNone with
  | some f => bytes ("Поле «" ++ f.1 ++ "» является обязательным для заполнения")
  | none =>
      match fields.find? fun f => (f.2.getD []).isEmpty with
      | some f => bytes ("Поле «" ++ f.1 ++ "» не может быть пустой строкой")
      | none => []

/-- There is an error to report when a field is missing or empty, and only then. -/
theorem RequiredFields.validationError_eq_nil {fields : RequiredFields} :
    fields.validationError = [] ↔ fields.isValid = true := by
  have hfield : bytes "Поле «" ≠ [] := by decide
  unfold RequiredFields.validationError RequiredFields.isValid
  rw [Bool.and_eq_true, List.all_eq_true, List.all_eq_true]
  cases hmissing : fields.find? fun f => f.2.isNone with
  | some f =>
    refine iff_of_false (by simp [bytes_append, hfield]) fun hvalid => ?_
    have hsome := hvalid.1 f (List.mem_of_find?_eq_some hmissing)
    have hnone := List.find?_some hmissing
    rw [Option.isNone_iff_eq_none.mp hnone] at hsome
    cases hsome
  | none =>
    have hgiven : ∀ f ∈ fields, f.2.isSome = true := by
      intro f hf
      rw [Option.isSome_iff_ne_none]
      simpa using List.find?_eq_none.mp hmissing f hf
    dsimp only
    cases hblank : fields.find? fun f => (f.2.getD []).isEmpty with
    | some f =>
      refine iff_of_false (by simp [bytes_append, hfield]) fun hvalid => ?_
      have hfull := hvalid.2 f (List.mem_of_find?_eq_some hblank)
      have hempty := List.find?_some hblank
      rw [hempty] at hfull
      cases hfull
    | none =>
      refine iff_of_true rfl ⟨hgiven, fun f hf => ?_⟩
      simpa using List.find?_eq_none.mp hblank f hf

/-- `AuthRequest` -/
structure AuthRequest where
  login : Option Bytes
  password : Option Bytes
  deriving DecidableEq, Repr

def AuthRequest.fields (r : AuthRequest) : RequiredFields :=
  [("login", r.login), ("password", r.password)]

/-- `ChangePasswordRequest` -/
structure ChangePasswordRequest where
  oldPassword : Option Bytes
  newPassword : Option Bytes
  deriving DecidableEq, Repr

def ChangePasswordRequest.fields (r : ChangePasswordRequest) : RequiredFields :=
  [("oldPassword", r.oldPassword), ("newPassword", r.newPassword)]

/-! ## The interfaces -/

structure IAuthMiddleware where
  validateRequest : Bytes → Outcome (Option Bytes)
  deriving Inhabited

structure IAuthService where
  login : Bytes → Bytes → Outcome AuthResult
  logout : Bytes → Outcome Bool
  changePassword : Int → Bytes → Bytes → Outcome ChangePasswordResult
  deriving Inhabited

structure IUserService where
  users : Int → Int → Outcome (List Dto.User × Int)
  user : Int → Outcome (Option Dto.User)
  createUser : Dto.User → Bytes → Outcome (Option Dto.User)
  updateUser : Dto.User → Outcome (Option Dto.User)
  deleteUser : Int → Outcome Bool
  deriving Inhabited

structure IWorkflowService where
  workflows : Int → Int → Outcome (List Dto.Workflow × Int)
  workflow : Int → Outcome (Option Dto.Workflow)
  createWorkflow : Dto.Workflow → Outcome (Option Dto.Workflow)
  updateWorkflow : Dto.Workflow → Outcome (Option Dto.Workflow)
  deleteWorkflow : Int → Outcome ServiceResult
  deriving Inhabited

structure IStateService where
  states : Int → Int → (workflowId : Option Int) → Outcome (List Dto.State × Int)
  state : Int → Outcome (Option Dto.State)
  createState : Dto.State → Outcome (Option Dto.State)
  updateState : Dto.State → Outcome (Option Dto.State)
  deleteState : Int → Outcome ServiceResult
  deriving Inhabited

structure IEdgeService where
  edges : Int → Int → (beginStateId endStateId : Option Int) → Outcome (List Dto.Edge × Int)
  edge : Int → Outcome (Option Dto.Edge)
  createEdge : Dto.Edge → Outcome (Option Dto.Edge)
  deleteEdge : Int → Outcome ServiceResult
  getWorkflowEdges : Int → Outcome (List Dto.Edge)
  deriving Inhabited

structure IProjectService where
  projects : Int → Int → (parentId : Option Int) → (isArchive : Option Bool) →
    (searchCaption : Bytes) → Outcome (List Dto.Project × Int)
  project : Int → Outcome (Option Dto.Project)
  createProject : Dto.Project → Outcome (Option Dto.Project)
  updateProject : Dto.Project → Outcome (Option Dto.Project)
  archiveProject : Int → Outcome Bool
  deriving Inhabited

structure IPhaseService where
  phases : Int → Int → (projectId : Option Int) → (isArchive : Option Bool) →
    Outcome (List Dto.Phase × Int)
  phase : Int → Outcome (Option Dto.Phase)
  createPhase : Dto.Phase → Outcome (Option Dto.Phase)
  updatePhase : Dto.Phase → Outcome (Option Dto.Phase)
  archivePhase : Int → Outcome Bool
  deriving Inhabited

structure IItemTypeService where
  itemTypes : Int → Int → (workflowId : Option Int) → (kind : Option Bytes) →
    (searchCaption : Bytes) → Outcome (List Dto.ItemType × Int)
  itemType : Int → Outcome (Option Dto.ItemType)
  createItemType : Dto.ItemType → Outcome (Option Dto.ItemType)
  updateItemType : Dto.ItemType → Outcome (Option Dto.ItemType)
  deleteItemType : Int → Outcome Bool
  deriving Inhabited

structure IFieldTypeService where
  fieldTypes : Int → Int → (itemTypeId : Option Int) → (valueType : Option Bytes) →
    (searchCaption : Bytes) → Outcome (List Dto.FieldType × Int)
  fieldType : Int → Outcome (Option Dto.FieldType)
  createFieldType : Dto.FieldType → Outcome (Option Dto.FieldType)
  updateFieldType : Dto.FieldType → Outcome (Option Dto.FieldType)
  deleteFieldType : Int → Outcome Bool
  deriving Inhabited

/-- What the handlers work with. The items are a prototype and answer by themselves. -/
structure Backend where
  library : Library
  authRequest : Json → Outcome AuthRequest
  changePasswordRequest : Json → Outcome ChangePasswordRequest
  userDto : Codec Dto.User
  workflowDto : Codec Dto.Workflow
  stateDto : Codec Dto.State
  edgeDto : Codec Dto.Edge
  projectDto : Codec Dto.Project
  phaseDto : Codec Dto.Phase
  itemTypeDto : Codec Dto.ItemType
  fieldTypeDto : Codec Dto.FieldType
  authMiddleware : Option IAuthMiddleware
  authService : IAuthService
  userService : IUserService
  workflowService : IWorkflowService
  stateService : IStateService
  edgeService : IEdgeService
  projectService : IProjectService
  phaseService : IPhaseService
  itemTypeService : IItemTypeService
  fieldTypeService : IFieldTypeService
  items : RouteHandler → HttpRequest → Bytes → Handler Unit
  deriving Inhabited

/-! ## Replying -/

section
variable (B : Backend)

def reply (statusCode : Int) (body : Option Json) : Handler Unit :=
  answer B.library.multipleResponses { statusCode, body }

def statusOk : Int := 200

def statusCreated : Int := 201

def statusNoContent : Int := 204

/-- The status of an error reply is its code. -/
def sendErrorResponse (code : Int) (message : Bytes) : Handler Unit :=
  reply B code (some (.object
    [(bytes "code", .number code), (bytes "message", .string message)]))

/-- `dto::toWebJson(x.toJson())` -/
def toWebJson {Dto : Type} (dto : Codec Dto) (x : Dto) : Handler Json := do
  let json ← ask (dto.toJson x)
  ask (B.library.toWebJson json)

/-! ## Taking requests apart -/

/-- The id in the path, or -1. The path is decoded and matched once more, apart from the router. -/
def extractIdFromPath (pattern : List PathPart) (request : HttpRequest) : Handler Int := do
  let path ← ask (B.library.decode request.path)
  match ← ask (B.library.regexMatch pattern path) with
  | some (group :: _) => ask (B.library.stoll group)
  | _ => pure (-1)

/-- The query string as a map. -/
abbrev QueryParams := List (Bytes × Bytes)

def extractQueryParams (request : HttpRequest) : Handler QueryParams :=
  ask (B.library.splitQuery request.query)

/-- `params[key]`, if there is one. -/
def QueryParams.get (params : QueryParams) (key : String) : Option Bytes := params.lookup (bytes key)

/-- `int x = …; if (params.count(…)) x = std::stoi(params[…]);` -/
def intParam (value : Option Bytes) (default : Int) : Handler Int :=
  match value with
  | some text => ask (B.library.stoi text)
  | none => pure default

/-- The same with `std::optional<int64_t>` and `std::stoll`. -/
def idParam (value : Option Bytes) : Handler (Option Int) :=
  match value with
  | some text => do
      let id ← ask (B.library.stoll text)
      pure (some id)
  | none => pure none

/-- `request.extract_json().then(f).wait()`: what the continuation throws, `wait` rethrows. -/
def extractJsonThen (request : HttpRequest)
    (f : (task : Except StdException Json) → Handler Unit) : Handler Unit := do
  let task ← ask (B.library.extractJson request.body)
  f task

/-- `task.get()` -/
def get (task : Except StdException Json) : Handler Json := ask fun _ => task

/-! ## The patterns -/

/-- A page of a collection; `find` is what asks the service, after the parameters are parsed. -/
def handleGetAll {Dto : Type} (dto : Codec Dto)
    (find : QueryParams → Handler (Int → Int → Outcome (List Dto × Int))) (request : HttpRequest) :
    Handler Unit := do
  let params ← extractQueryParams B request
  let page ← intParam B (params.get "page") 1
  let pageSize ← intParam B (params.get "pageSize") 20
  let service ← find params
  let (found, total) ← ask (service page pageSize)
  let items ← found.mapM (toWebJson B dto)
  reply B statusOk (some (.object
    [(bytes "items", .array items), (bytes "totalCount", .number total),
      (bytes "page", .number page), (bytes "pageSize", .number pageSize)]))

/-- One object, by the id in the path. -/
def handleGet {Dto : Type} (dto : Codec Dto) (pattern : List PathPart)
    (find : Int → Outcome (Option Dto)) (invalidId notFound : Bytes) (request : HttpRequest) :
    Handler Unit := do
  let id ← extractIdFromPath B pattern request
  if id ≤ 0 then sendErrorResponse B 400 invalidId
  else
    match ← ask (find id) with
    | none => sendErrorResponse B 404 notFound
    | some found => do
        let json ← toWebJson B dto found
        reply B statusOk (some json)

/-- The catch of every continuation that works on a body. -/
def invalidRequest (e : StdException) : Handler Unit :=
  sendErrorResponse B 400 (bytes "Invalid request: " ++ e.what)

/-- A new object; `check` is the error that the handler itself finds, and `failed` the one for a
service that creates nothing. -/
def handleCreate {Dto : Type} (dto : Codec Dto) (check : Dto → Option Bytes)
    (create : Dto → Outcome (Option Dto)) (failed : Int × Bytes) (request : HttpRequest) :
    Handler Unit :=
  extractJsonThen B request fun task =>
    tryCatch
      (do
        let jsonBody ← get task
        let json ← ask (B.library.toNlohmannJson jsonBody)
        let x ← ask (dto.fromJson json)
        match check x with
        | some message => sendErrorResponse B 400 message
        | none =>
            match ← ask (create x) with
            | none => sendErrorResponse B failed.1 failed.2
            | some created => do
                let json ← toWebJson B dto created
                reply B statusCreated (some json))
      (invalidRequest B)

/-- The fields of an object, by the id in the path; what is returned, `replyWith` says. -/
def handleUpdate {Dto : Type} (dto : Codec Dto) (pattern : List PathPart)
    (update : Dto → Outcome (Option Dto)) (invalidId failed : Bytes)
    (replyWith : Dto → Handler Unit) (request : HttpRequest) : Handler Unit := do
  let id ← extractIdFromPath B pattern request
  if id ≤ 0 then sendErrorResponse B 400 invalidId
  else
    extractJsonThen B request fun task =>
      tryCatch
        (do
          let jsonBody ← get task
          let json ← ask (B.library.toNlohmannJson jsonBody)
          -- the id of the path, whatever the body says
          let json ← ask (B.library.setId json id)
          let x ← ask (dto.fromJson json)
          match ← ask (update x) with
          | none => sendErrorResponse B 404 failed
          | some updated => replyWith updated)
        (invalidRequest B)

/-- Most updates return the object. -/
def replyUpdated {Dto : Type} (dto : Codec Dto) (updated : Dto) : Handler Unit := do
  let json ← toWebJson B dto updated
  reply B statusOk (some json)

/-- A deletion that succeeds or does not. -/
def handleDelete (pattern : List PathPart) (delete : Int → Outcome Bool)
    (invalidId notFound : Bytes) (request : HttpRequest) : Handler Unit := do
  let id ← extractIdFromPath B pattern request
  if id ≤ 0 then sendErrorResponse B 400 invalidId
  else if ← ask (delete id) then reply B statusNoContent none
  else sendErrorResponse B 404 notFound

/-- A deletion whose service says why not. -/
def handleDeleteResult (pattern : List PathPart) (delete : Int → Outcome ServiceResult)
    (invalidId : Bytes) (request : HttpRequest) : Handler Unit := do
  let id ← extractIdFromPath B pattern request
  if id ≤ 0 then sendErrorResponse B 400 invalidId
  else
    let result ← ask (delete id)
    if !result.success then sendErrorResponse B result.errorCode result.errorMessage
    else reply B statusNoContent none

/-- A request object in the body, checked before `k` uses it. Whatever is thrown further in, the
outer catch answers. -/
def handleRequestObject {Request : Type} (fromJson : Json → Outcome Request)
    (fields : Request → RequiredFields) (k : Request → Handler Unit) (request : HttpRequest) :
    Handler Unit :=
  tryCatch
    (extractJsonThen B request fun task => do
      match ← attempt (get task) with
      | .error e => sendErrorResponse B 400 (bytes "Invalid JSON: " ++ e.what)
      | .ok jsonBody =>
          match ← attempt (do
              let json ← ask (B.library.toNlohmannJson jsonBody)
              ask (fromJson json)) with
          | .error _ => sendErrorResponse B 400 (bytes "Invalid request format")
          | .ok x =>
              if !(fields x).isValid then sendErrorResponse B 400 (fields x).validationError
              else k x)
    fun e => sendErrorResponse B 400 (bytes "Invalid request body: " ++ e.what)

/-- `std::optional::value` -/
def value {α : Type} : Option α → Handler α
  | some a => pure a
  | none => throw B.library.badOptionalAccess

/-! ## How the patterns answer -/

theorem answers_sendErrorResponse (code : Int) (message : Bytes) :
    Answers (sendErrorResponse B code message) := answers_answer _ _

theorem answers_reply (statusCode : Int) (body : Option Json) : Answers (reply B statusCode body) :=
  answers_answer _ _

variable {B} {Dto : Type} {dto : Codec Dto} {pattern : List PathPart} {request : HttpRequest}

theorem silent_toWebJson (x : Dto) : Silent (toWebJson B dto x) :=
  (silent_ask _).bind fun _ => silent_ask _

theorem silent_extractIdFromPath : Silent (extractIdFromPath B pattern request) := by
  refine (silent_ask _).bind fun path => (silent_ask _).bind fun groups => ?_
  split
  · exact silent_ask _
  · exact silent_pure _

theorem silent_intParam (value : Option Bytes) (default : Int) :
    Silent (intParam B value default) := by
  cases value with
  | none => exact silent_pure default
  | some text => exact silent_ask _

theorem silent_idParam (value : Option Bytes) : Silent (idParam B value) := by
  cases value with
  | none => exact silent_pure none
  | some text => exact (silent_ask _).bind fun id => silent_pure _

theorem silent_value {α : Type} (x : Option α) : Silent (value B x) := by
  cases x with
  | none => exact silent_throw _
  | some a => exact silent_pure a

/-- What comes after a good id. -/
theorem answersOrThrows_ofId {invalidId : Bytes} {k : Int → Handler Unit}
    (hk : ∀ id, AnswersOrThrows (k id)) :
    AnswersOrThrows (extractIdFromPath B pattern request >>= fun id =>
      if id ≤ 0 then sendErrorResponse B 400 invalidId else k id) := by
  refine silent_extractIdFromPath.leaves_bind fun id => ?_
  split
  · exact (answers_sendErrorResponse B _ _).orThrows
  · exact hk id

theorem answersOrThrows_handleGetAll
    {find : QueryParams → Handler (Int → Int → Outcome (List Dto × Int))}
    (hfind : ∀ params, Silent (find params)) :
    AnswersOrThrows (handleGetAll B dto find request) := by
  refine (silent_ask _).leaves_bind fun params => ?_
  refine (silent_intParam _ _).leaves_bind fun page => ?_
  refine (silent_intParam _ _).leaves_bind fun pageSize => ?_
  refine (hfind params).leaves_bind fun service => ?_
  refine (silent_ask _).leaves_bind fun found => ?_
  refine (silent_mapM silent_toWebJson found.1).leaves_bind fun items => ?_
  exact (answers_reply B _ _).orThrows

theorem answersOrThrows_handleGet {find : Int → Outcome (Option Dto)} {invalidId notFound : Bytes} :
    AnswersOrThrows (handleGet B dto pattern find invalidId notFound request) := by
  refine answersOrThrows_ofId fun id => (silent_ask _).leaves_bind fun found => ?_
  cases found with
  | none => exact (answers_sendErrorResponse B _ _).orThrows
  | some x =>
    refine (silent_toWebJson x).leaves_bind fun json => ?_
    exact (answers_reply B _ _).orThrows

theorem answersOrThrows_replyUpdated (updated : Dto) :
    AnswersOrThrows (replyUpdated B dto updated) := by
  refine (silent_toWebJson updated).leaves_bind fun json => ?_
  exact (answers_reply B _ _).orThrows

/-- A continuation that catches everything answers, and so the task only fails before it. -/
theorem answersOrThrows_extractJsonThen {body : Except StdException Json → Handler Unit}
    (hbody : ∀ task, AnswersOrThrows (body task)) :
    AnswersOrThrows (extractJsonThen B request fun task =>
      tryCatch (body task) (invalidRequest B)) := by
  refine (silent_ask _).leaves_bind fun task => ?_
  exact ((hbody task).tryCatch fun e => answers_sendErrorResponse B _ _).orThrows

theorem answersOrThrows_handleCreate {check : Dto → Option Bytes}
    {create : Dto → Outcome (Option Dto)} {failed : Int × Bytes} :
    AnswersOrThrows (handleCreate B dto check create failed request) := by
  refine answersOrThrows_extractJsonThen fun task => ?_
  refine (silent_ask _).leaves_bind fun jsonBody => ?_
  refine (silent_ask _).leaves_bind fun json => ?_
  refine (silent_ask _).leaves_bind fun x => ?_
  cases check x with
  | some message => exact (answers_sendErrorResponse B _ _).orThrows
  | none =>
    refine (silent_ask _).leaves_bind fun created => ?_
    cases created with
    | none => exact (answers_sendErrorResponse B _ _).orThrows
    | some created =>
      refine (silent_toWebJson created).leaves_bind fun json => ?_
      exact (answers_reply B _ _).orThrows

theorem answersOrThrows_handleUpdate {update : Dto → Outcome (Option Dto)}
    {invalidId failed : Bytes} {replyWith : Dto → Handler Unit}
    (hreply : ∀ updated, AnswersOrThrows (replyWith updated)) :
    AnswersOrThrows (handleUpdate B dto pattern update invalidId failed replyWith request) := by
  refine answersOrThrows_ofId fun id => answersOrThrows_extractJsonThen fun task => ?_
  refine (silent_ask _).leaves_bind fun jsonBody => ?_
  refine (silent_ask _).leaves_bind fun json => ?_
  refine (silent_ask _).leaves_bind fun json => ?_
  refine (silent_ask _).leaves_bind fun x => ?_
  refine (silent_ask _).leaves_bind fun updated => ?_
  cases updated with
  | none => exact (answers_sendErrorResponse B _ _).orThrows
  | some updated => exact hreply updated

theorem answersOrThrows_handleDelete {delete : Int → Outcome Bool} {invalidId notFound : Bytes} :
    AnswersOrThrows (handleDelete B pattern delete invalidId notFound request) := by
  refine answersOrThrows_ofId fun id => (silent_ask _).leaves_bind fun deleted => ?_
  cases deleted with
  | true => exact (answers_reply B _ _).orThrows
  | false => exact (answers_sendErrorResponse B _ _).orThrows

theorem answersOrThrows_handleDeleteResult {delete : Int → Outcome ServiceResult}
    {invalidId : Bytes} :
    AnswersOrThrows (handleDeleteResult B pattern delete invalidId request) := by
  refine answersOrThrows_ofId fun id => (silent_ask _).leaves_bind fun result => ?_
  cases result.success with
  | true => exact (answers_reply B _ _).orThrows
  | false => exact (answers_sendErrorResponse B _ _).orThrows

theorem answersOrThrows_handleRequestObject {Request : Type} {fromJson : Json → Outcome Request}
    {fields : Request → RequiredFields} {k : Request → Handler Unit}
    (hk : ∀ x, AnswersOrThrows (k x)) :
    AnswersOrThrows (handleRequestObject B fromJson fields k request) := by
  refine (AnswersOrThrows.tryCatch ?_ fun e => answers_sendErrorResponse B _ _).orThrows
  refine (silent_ask _).leaves_bind fun task => ?_
  refine (silent_ask _).attempt.leaves_bind fun jsonBody => ?_
  cases jsonBody with
  | error e => exact (answers_sendErrorResponse B _ _).orThrows
  | ok jsonBody =>
    refine ((silent_ask _).bind fun json => silent_ask _).attempt.leaves_bind fun x => ?_
    cases x with
    | error e => exact (answers_sendErrorResponse B _ _).orThrows
    | ok x =>
      dsimp only
      split
      · exact (answers_sendErrorResponse B _ _).orThrows
      · exact hk x

end

end Farado.Http
