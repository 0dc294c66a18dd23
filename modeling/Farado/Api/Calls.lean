import Farado.Api.Server
import Farado.Services.Effects
import Farado.Services.Paging

/-!
# What a request comes to

A handler that changes something makes one call of a service, and everything else about the request is
taken from that call: what is replied, and what the connection is afterwards. Which call it is, the
request alone says, or that it is refused.
-/

namespace Farado

open Acting Http Steps
open Farado.RestServer (member)

deriving instance DecidableEq for Call

/-- The calls of the services that change something; `graph` are those of workflows, states, edges and
item types. -/
inductive ServiceCall where
  | graph (call : Call)
  | createUser (user : Dto.User) (password : Bytes)
  | updateUser (user : Dto.User)
  | deleteUser (id : Int)
  | changePassword (userId : Int) (oldPassword newPassword : Bytes)
  | createProject (project : Dto.Project)
  | updateProject (project : Dto.Project)
  | archiveProject (id : Int)
  | createPhase (phase : Dto.Phase)
  | updatePhase (phase : Dto.Phase)
  | archivePhase (id : Int)
  | createFieldType (fieldType : Dto.FieldType)
  | updateFieldType (fieldType : Dto.FieldType)
  | deleteFieldType (id : Int)
  deriving DecidableEq

namespace ServiceCall

open Bodies (caught replyTo replyObject sendErrorResponse)

section
variable (host : Host) (c : Connection)

/-- The connection after the call. -/
def exec : ServiceCall → Connection
  | graph call => call.exec host.env c
  | createUser user password => (UserService.createUser host.sha256 user password).after c
  | updateUser user => (UserService.updateUser user).after c
  | deleteUser id => (UserService.deleteUser id).after c
  | changePassword userId oldPassword newPassword =>
      (AuthService.changePassword host.sha256 userId oldPassword newPassword).after c
  | createProject project => (ProjectService.createProject host.env host.now project).after c
  | updateProject project => (ProjectService.updateProject host.env host.now project).after c
  | archiveProject id => (ProjectService.archiveProject host.now id).after c
  | createPhase phase => (PhaseService.createPhase host.env phase).after c
  | updatePhase phase => (PhaseService.updatePhase host.env phase).after c
  | archivePhase id => (PhaseService.archivePhase id).after c
  | createFieldType fieldType => (FieldTypeService.createFieldType fieldType).after c
  | updateFieldType fieldType => (FieldTypeService.updateFieldType fieldType).after c
  | deleteFieldType id => (FieldTypeService.deleteFieldType id).after c

/-! ## The replies -/

/-- What is made of a new object. -/
def created {Dto : Type} (toJson : Dto → Json) (failed : Int × Bytes)
    (result : Except Error (Option Dto)) : Except StdException HttpResponse :=
  .ok (caught (replyTo host failed (replyObject host toJson statusCreated) result))

/-- What is made of an updated one. -/
def updated {Dto : Type} (replyWith : Dto → Except StdException HttpResponse) (failed : Bytes)
    (result : Except Error (Option Dto)) : Except StdException HttpResponse :=
  .ok (caught (replyTo host (404, failed) replyWith result))

/-- What is made of a deletion that succeeds or does not. -/
def deleted (notFound : Bytes) (result : Except Error Bool) : Except StdException HttpResponse :=
  match result with
  | .error e => .error (host.thrown e)
  | .ok true => .ok { statusCode := statusNoContent, body := none }
  | .ok false => .ok (sendErrorResponse 404 notFound)

/-- What is made of one whose service says why not. -/
def removed (result : Except Error ServiceResult) : Except StdException HttpResponse :=
  match result with
  | .error e => .error (host.thrown e)
  | .ok result =>
      .ok (if !result.success then sendErrorResponse result.errorCode result.errorMessage
        else { statusCode := statusNoContent, body := none })

/-- What is made of a new password. -/
def passwordChanged (result : Except Error ChangePasswordResult) :
    Except StdException HttpResponse :=
  match result with
  | .error e => .ok (sendErrorResponse 400 (bytes "Invalid request body: " ++ (host.thrown e).what))
  | .ok result =>
      .ok (if !result.success then sendErrorResponse result.errorCode result.errorMessage
        else { statusCode := statusNoContent, body := none })

/-- What the handler makes of the call. -/
def reply : ServiceCall → Except StdException HttpResponse
  | graph (.createWorkflow workflow) =>
      created host Dto.Workflow.toJson (409, bytes "Workflow with this caption already exists")
        ((WorkflowService.createWorkflow workflow).result c)
  | graph (.updateWorkflow workflow) =>
      updated host (replyObject host Dto.Workflow.toJson statusOk)
        (bytes "Workflow not found or update failed")
        ((WorkflowService.updateWorkflow workflow).result c)
  | graph (.deleteWorkflow id) => removed host ((WorkflowService.deleteWorkflow host.env id).result c)
  | graph (.createState state) =>
      created host Dto.State.toJson (400, bytes "Failed to create state. Check workflow exists.")
        ((StateService.createState state).result c)
  | graph (.updateState state) =>
      updated host (replyObject host Dto.State.toJson statusOk)
        (bytes "State not found or update failed") ((StateService.updateState state).result c)
  | graph (.deleteState id) => removed host ((StateService.deleteState host.env id).result c)
  | graph (.createEdge edge) =>
      created host Dto.Edge.toJson (409, bytes "Edge already exists or states not found")
        ((EdgeService.createEdge edge).result c)
  | graph (.deleteEdge id) => removed host ((EdgeService.deleteEdge id).result c)
  | graph (.createItemType itemType) =>
      created host Dto.ItemType.toJson
        (400, bytes "Invalid item type data or could not create item type")
        ((ItemTypeService.createItemType itemType).result c)
  | graph (.updateItemType itemType) =>
      updated host (replyObject host Dto.ItemType.toJson statusOk)
        (bytes "Item type not found or update failed")
        ((ItemTypeService.updateItemType itemType).result c)
  | graph (.deleteItemType id) =>
      deleted host (bytes "Item type not found") ((ItemTypeService.deleteItemType id).result c)
  | createUser user password =>
      created host Dto.User.toJson (409, bytes "User with this login or email already exists")
        ((UserService.createUser host.sha256 user password).result c)
  | updateUser user =>
      updated host (fun _ => .ok { statusCode := statusNoContent, body := none })
        (bytes "User not found or update failed") ((UserService.updateUser user).result c)
  | deleteUser id => deleted host (bytes "User not found") ((UserService.deleteUser id).result c)
  | changePassword userId oldPassword newPassword =>
      passwordChanged host
        ((AuthService.changePassword host.sha256 userId oldPassword newPassword).result c)
  | createProject project =>
      created host Dto.Project.toJson (400, bytes "Invalid project data or could not create project")
        ((ProjectService.createProject host.env host.now project).result c)
  | updateProject project =>
      updated host (replyObject host Dto.Project.toJson statusOk)
        (bytes "Project not found or update failed")
        ((ProjectService.updateProject host.env host.now project).result c)
  | archiveProject id =>
      deleted host (bytes "Project not found") ((ProjectService.archiveProject host.now id).result c)
  | createPhase phase =>
      created host Dto.Phase.toJson (400, bytes "Invalid phase data or could not create phase")
        ((PhaseService.createPhase host.env phase).result c)
  | updatePhase phase =>
      updated host (replyObject host Dto.Phase.toJson statusOk)
        (bytes "Phase not found or update failed")
        ((PhaseService.updatePhase host.env phase).result c)
  | archivePhase id =>
      deleted host (bytes "Phase not found") ((PhaseService.archivePhase id).result c)
  | createFieldType fieldType =>
      created host Dto.FieldType.toJson
        (400, bytes "Invalid field type data or could not create field type")
        ((FieldTypeService.createFieldType fieldType).result c)
  | updateFieldType fieldType =>
      updated host (replyObject host Dto.FieldType.toJson statusOk)
        (bytes "Field type not found or update failed")
        ((FieldTypeService.updateFieldType fieldType).result c)
  | deleteFieldType id =>
      deleted host (bytes "Field type not found") ((FieldTypeService.deleteFieldType id).result c)

end

end ServiceCall

namespace Site

open ServiceCall
open Bodies (caught replyTo replyObject sendErrorResponse)

variable (site : Site) (a : Arrival) (userId : Bytes)

/-! ## The call of a request -/

/-- The body, as the handlers parse it. -/
def parsedBody : Option Json := do
  let jsonBody ← (site.library.extractJson a.request.body).toOption
  (site.json.toNlohmannJson jsonBody).toOption

/-- The id in the path. -/
def pathId (pattern : List PathPart) : Option Int := do
  let id ← (site.extractIdFromPath a pattern).toOption
  if id ≤ 0 then none else some id

section
variable {Dto : Type} (fromJson : Json → Dto × Bool)

def creates (check : Dto → Option Bytes) (call : Dto → ServiceCall) : Option ServiceCall := do
  let json ← site.parsedBody a
  if (check (fromJson json).1).isSome then none else some (call (fromJson json).1)

/-- The id in the path takes the place of one in the body. -/
def updates (pattern : List PathPart) (call : Dto → ServiceCall) : Option ServiceCall := do
  let id ← site.pathId a pattern
  let json ← site.parsedBody a
  let named ← json.set "id" (.number id)
  some (call (fromJson named).1)

end

def deletes (pattern : List PathPart) (call : Int → ServiceCall) : Option ServiceCall :=
  (site.pathId a pattern).map call

/-- The password is beside the fields of the user. -/
def createsUser : Option ServiceCall := do
  let jsonBody ← (site.library.extractJson a.request.body).toOption
  let json ← (site.json.toNlohmannJson jsonBody).toOption
  let password ← Bodies.UsersHandler.password jsonBody
  let user := (Dto.User.fromJson site.json json).1
  if user.login.isNone || user.email.isNone || password.isEmpty then none
  else some (.createUser user password)

/-- A request object that is complete. -/
def requestObject {Request : Type} (fromJson : Json → Request × Bool)
    (fields : Request → RequiredFields) : Option Request := do
  let json ← site.parsedBody a
  if (fields (fromJson json).1).isValid then some (fromJson json).1 else none

/-- A new password is for the user of the token. -/
def changesPassword : Option ServiceCall :=
  if userId.isEmpty then none
  else do
    let changeRequest ←
      site.requestObject a ChangePasswordRequest.fromJson ChangePasswordRequest.fields
    let id ← (site.library.stoll userId).toOption
    let oldPassword ← changeRequest.oldPassword
    let newPassword ← changeRequest.newPassword
    some (.changePassword id oldPassword newPassword)

/-- The call that the handler makes for the request. -/
def callOf : RouteHandler → Option ServiceCall
  | .handleChangePassword => site.changesPassword a userId
  | .handleCreateUser => site.createsUser a
  | .handleUpdateUser =>
      site.updates a (Dto.User.fromJson site.json) (member "/api/users") .updateUser
  | .handleDeleteUser => site.deletes a (member "/api/users") .deleteUser
  | .handleCreatePhase =>
      site.creates a (Dto.Phase.fromJson site.json) (fun _ => none) .createPhase
  | .handleUpdatePhase =>
      site.updates a (Dto.Phase.fromJson site.json) (member "/api/phases") .updatePhase
  | .handleDeletePhase => site.deletes a (member "/api/phases") .archivePhase
  | .handleCreateProject =>
      site.creates a (Dto.Project.fromJson site.json) (fun _ => none) .createProject
  | .handleUpdateProject =>
      site.updates a (Dto.Project.fromJson site.json) (member "/api/projects") .updateProject
  | .handleDeleteProject => site.deletes a (member "/api/projects") .archiveProject
  | .handleCreateFieldType =>
      site.creates a (Dto.FieldType.fromJson site.json) (fun _ => none) .createFieldType
  | .handleUpdateFieldType =>
      site.updates a (Dto.FieldType.fromJson site.json) (member "/api/field-types")
        .updateFieldType
  | .handleDeleteFieldType => site.deletes a (member "/api/field-types") .deleteFieldType
  | .handleCreateWorkflow =>
      site.creates a (Dto.Workflow.fromJson site.json) Bodies.WorkflowsHandler.check
        fun workflow => .graph (.createWorkflow workflow)
  | .handleUpdateWorkflow =>
      site.updates a (Dto.Workflow.fromJson site.json) (member "/api/workflows")
        fun workflow => .graph (.updateWorkflow workflow)
  | .handleDeleteWorkflow =>
      site.deletes a (member "/api/workflows") fun id => .graph (.deleteWorkflow id)
  | .handleCreateItemType =>
      site.creates a (Dto.ItemType.fromJson site.json) (fun _ => none)
        fun itemType => .graph (.createItemType itemType)
  | .handleUpdateItemType =>
      site.updates a (Dto.ItemType.fromJson site.json) (member "/api/item-types")
        fun itemType => .graph (.updateItemType itemType)
  | .handleDeleteItemType =>
      site.deletes a (member "/api/item-types") fun id => .graph (.deleteItemType id)
  | .handleCreateState =>
      site.creates a (Dto.State.fromJson site.json) Bodies.StatesHandler.check
        fun state => .graph (.createState state)
  | .handleUpdateState =>
      site.updates a (Dto.State.fromJson site.json) (member "/api/states")
        fun state => .graph (.updateState state)
  | .handleDeleteState =>
      site.deletes a (member "/api/states") fun id => .graph (.deleteState id)
  | .handleCreateEdge =>
      site.creates a (Dto.Edge.fromJson site.json) Bodies.EdgesHandler.check
        fun edge => .graph (.createEdge edge)
  | .handleDeleteEdge => site.deletes a (member "/api/edges") fun id => .graph (.deleteEdge id)
  | _ => none

/-- The handlers that call a service to change something. -/
def writers : List RouteHandler :=
  [.handleChangePassword, .handleCreateUser, .handleUpdateUser, .handleDeleteUser,
    .handleCreatePhase, .handleUpdatePhase, .handleDeletePhase, .handleCreateProject,
    .handleUpdateProject, .handleDeleteProject, .handleCreateFieldType, .handleUpdateFieldType,
    .handleDeleteFieldType, .handleCreateWorkflow, .handleUpdateWorkflow, .handleDeleteWorkflow,
    .handleCreateItemType, .handleUpdateItemType, .handleDeleteItemType, .handleCreateState,
    .handleUpdateState, .handleDeleteState, .handleCreateEdge, .handleDeleteEdge]

/-- The others make no call. -/
theorem callOf_eq_none {handler : RouteHandler} (h : handler ∉ writers) :
    site.callOf a userId handler = none := by
  cases handler with
  | handleLogin | handleLogout | handleGetItems | handleCreateItem | handleGetItem
  | handleUpdateItem | handleDeleteItem | handleGetUsers | handleGetUser | handleGetPhases
  | handleGetPhase | handleGetProjects | handleGetProject | handleGetFieldTypes
  | handleGetFieldType | handleGetWorkflows | handleGetWorkflow | handleGetItemTypes
  | handleGetItemType | handleGetStates | handleGetState | handleGetEdges | handleGetEdge
  | handleGetWorkflowEdges | health => rfl
  | _ => simp [writers] at h

/-! ## What a handler comes to -/

/-- It is an error, or an exception. -/
def Refuses (r : Except StdException HttpResponse) : Prop :=
  ∀ response, r = .ok response → 400 ≤ response.statusCode

/-- What a handler may come to, where `made` is the call that the request makes. -/
inductive Served (made : Option ServiceCall) (handler : RouteHandler) (s : Server) :
    Except StdException HttpResponse → Server → Prop
  | refused {r : Except StdException HttpResponse} (hmade : made = none) (h : Refuses r) :
      Served made handler s r s
  | looked {r : Except StdException HttpResponse} (hmade : made = none) (h : handler ∉ writers) :
      Served made handler s r s
  | called (call : ServiceCall) (hmade : made = some call) :
      Served made handler s (call.reply (site.host a) s.connection)
        { s with connection := call.exec (site.host a) s.connection }
  | loggedIn {r : Except StdException HttpResponse} {auth : AuthMiddleware} (hmade : made = none)
      (h : handler = .handleLogin) (hauth : auth = s.auth ∨ auth = s.auth.tick) :
      Served made handler s r { s with auth := auth }
  | loggedOut {r : Except StdException HttpResponse} (hmade : made = none)
      (h : handler = .handleLogout) :
      Served made handler s r { s with
        auth := ((Farado.AuthHandler.handleLogout site.jwt site.clock site.secretKey
          a.request.authorization).run s.auth).2 }

variable {site a userId} {handler : RouteHandler} {made : Option ServiceCall}

theorem refuses_error (e : StdException) : Refuses (.error e) := by
  intro response h
  cases h

theorem refuses_sendErrorResponse {code : Int} (h : 400 ≤ code) (message : Bytes) :
    Refuses (.ok (sendErrorResponse code message)) := by
  rintro response ⟨⟩
  exact h

theorem does_refusal (hmade : made = none) {code : Int} (h : 400 ≤ code) (message : Bytes) :
    Program.Does (site.Served a made handler)
      (pure (sendErrorResponse code message) : Serving HttpResponse) :=
  fun _ => .refused hmade (refuses_sendErrorResponse h message)

/-- A handler that only looks at something. -/
theorem does_look {p : Serving HttpResponse} (hp : Program.Keeps p) (h : handler ∉ writers) :
    Program.Does (site.Served a (site.callOf a userId handler) handler) p :=
  hp.does fun _ _ => .looked (site.callOf_eq_none a userId h) h

/-! ## Looking -/

theorem keeps_onService {α : Type} {p : Db α} (hp : Prog.ReadOnly p) :
    Program.Keeps (site.onService p) := by
  intro s
  have hafter : p.after s.connection = s.connection := congrArg Prod.snd (hp.run_eq s.connection)
  show ({ s with connection := p.after s.connection } : Server) = s
  rw [hafter]

theorem keeps_handleGetAll {Dto : Type} {toJson : Dto → Json}
    {find : QueryParams → Except StdException (Int → Int → Db (List Dto × Int))}
    (hfind : ∀ params service, find params = .ok service →
      ∀ page pageSize, Prog.ReadOnly (service page pageSize)) :
    Program.Keeps (site.handleGetAll a toJson find) := by
  refine (Program.keeps_known _).bind fun params => (Program.keeps_known _).bind fun page => ?_
  refine (Program.keeps_known _).bind fun pageSize => ?_
  cases hservice : find params with
  | error e => exact fun _ => rfl
  | ok service =>
    refine (keeps_onService (hfind params service hservice page pageSize)).bind fun found => ?_
    exact (Program.keeps_known _).bind fun items => Program.keeps_pure _

theorem keeps_handleGet {Dto : Type} {toJson : Dto → Json} {pattern : List PathPart}
    {find : Int → Db (Option Dto)} {invalidId notFound : Bytes}
    (hfind : ∀ id, Prog.ReadOnly (find id)) :
    Program.Keeps (site.handleGet a toJson pattern find invalidId notFound) := by
  refine (Program.keeps_known _).bind fun id => ?_
  split
  · exact Program.keeps_pure _
  refine (keeps_onService (hfind id)).bind fun found => ?_
  cases found with
  | none => exact Program.keeps_pure _
  | some found => exact (Program.keeps_known _).bind fun json => Program.keeps_pure _

/-! ## Changing -/

theorem parsedBody_error {e : StdException}
    (h : site.library.extractJson a.request.body = .error e) : site.parsedBody a = none := by
  unfold parsedBody
  rw [h]
  rfl

theorem parsedBody_ok {jsonBody : Json}
    (h : site.library.extractJson a.request.body = .ok jsonBody) :
    site.parsedBody a = (site.json.toNlohmannJson jsonBody).toOption := by
  unfold parsedBody
  rw [h]
  rfl

section
variable {Dto : Type} {fromJson : Json → Dto × Bool} {toJson : Dto → Json}

/-- A body that is refused, or comes to the call. -/
theorem does_extractJsonThen {f : Json → Connection → Bodies.Answered}
    (herror : ∀ e, site.library.extractJson a.request.body = .error e → made = none)
    (hf : ∀ jsonBody c, site.library.extractJson a.request.body = .ok jsonBody →
      (made = none ∧ 400 ≤ (f jsonBody c).1.statusCode ∧ (f jsonBody c).2 = c) ∨
        ∃ call, made = some call ∧ call.reply (site.host a) c = .ok (f jsonBody c).1 ∧
          call.exec (site.host a) c = (f jsonBody c).2) :
    Program.Does (site.Served a made handler) (site.extractJsonThen a f) := by
  unfold extractJsonThen
  cases hbody : site.library.extractJson a.request.body with
  | error e => exact does_refusal (herror e hbody) (Int.le_refl 400) _
  | ok jsonBody =>
    intro s
    show site.Served a made handler s (.ok (f jsonBody s.connection).1)
      { s with connection := (f jsonBody s.connection).2 }
    rcases hf jsonBody s.connection hbody with
      ⟨hmade, hstatus, hsame⟩ | ⟨call, hmade, hreply, hexec⟩
    · rw [hsame]
      apply Served.refused hmade
      rintro response ⟨⟩
      exact hstatus
    · rw [← hreply, ← hexec]
      exact .called call hmade

theorem does_handleCreate (check : Dto → Option Bytes) (call : Dto → ServiceCall)
    {create : Dto → Db (Option Dto)} {failed : Int × Bytes}
    (hreply : ∀ x c, (call x).reply (site.host a) c =
      created (site.host a) toJson failed ((create x).result c))
    (hexec : ∀ x c, (call x).exec (site.host a) c = (create x).after c) :
    Program.Does (site.Served a (site.creates a fromJson check call) handler)
      (site.extractJsonThen a
        (Bodies.handleCreate (site.host a) fromJson toJson check create failed)) := by
  unfold creates
  apply does_extractJsonThen
  · intro e hbody
    rw [parsedBody_error hbody]
    rfl
  intro jsonBody c hbody
  rw [parsedBody_ok hbody]
  have hlibrary : (site.host a).json = site.json := rfl
  unfold Bodies.handleCreate
  rw [hlibrary]
  cases site.json.toNlohmannJson jsonBody with
  | error e => exact .inl ⟨rfl, Int.le_refl 400, rfl⟩
  | ok json =>
    dsimp only
    show (if (check (fromJson json).1).isSome then none else some (call (fromJson json).1)) = none ∧
        _ ∨ ∃ k, (if (check (fromJson json).1).isSome then none
          else some (call (fromJson json).1)) = some k ∧ _
    cases check (fromJson json).1 with
    | some message => exact .inl ⟨rfl, Int.le_refl 400, rfl⟩
    | none => exact .inr ⟨call (fromJson json).1, rfl, hreply _ c, hexec _ c⟩

/-- An id in the path that is none is refused before anything else. -/
theorem does_ofId {pattern : List PathPart} {invalidId : Bytes} {k : Int → Serving HttpResponse}
    {made : Int → Option ServiceCall}
    (hk : ∀ id, Program.Does (site.Served a (made id) handler) (k id)) :
    Program.Does (site.Served a (site.pathId a pattern >>= made) handler)
      (Program.known (site.extractIdFromPath a pattern) >>= fun id =>
        if id ≤ 0 then pure (sendErrorResponse 400 invalidId) else k id) := by
  unfold pathId
  refine Program.does_known_bind (fun s e hpath => ?_) fun id hpath => ?_
  · rw [hpath]
    exact .refused rfl (refuses_error e)
  rw [hpath]
  show Program.Does (site.Served a ((if id ≤ 0 then none else some id : Option Int) >>= made)
    handler) _
  split
  · exact does_refusal rfl (Int.le_refl 400) _
  · exact hk id

theorem does_handleUpdate {pattern : List PathPart} {update : Dto → Db (Option Dto)}
    {invalidId failed : Bytes} {replyWith : Dto → Except StdException HttpResponse}
    (call : Dto → ServiceCall)
    (hreply : ∀ x c, (call x).reply (site.host a) c =
      updated (site.host a) replyWith failed ((update x).result c))
    (hexec : ∀ x c, (call x).exec (site.host a) c = (update x).after c) :
    Program.Does (site.Served a (site.updates a fromJson pattern call) handler)
      (site.handleUpdate a pattern invalidId
        (Bodies.handleUpdate (site.host a) fromJson update invalidId failed replyWith)) := by
  refine Program.does_known_bind (fun s e hpath => ?_) fun id hpath => ?_
  · unfold updates pathId
    rw [hpath]
    exact .refused rfl (refuses_error e)
  have hmade : site.updates a fromJson pattern call =
      (if id ≤ 0 then none else some id : Option Int).bind fun id => (site.parsedBody a).bind
        fun json => (json.set "id" (.number id)).bind fun named =>
          some (call (fromJson named).1) := by
    unfold updates pathId
    rw [hpath]
    rfl
  rw [hmade]
  split
  · exact does_refusal rfl (Int.le_refl 400) _
  next hpos =>
  apply does_extractJsonThen
  · intro e hbody
    rw [parsedBody_error hbody]
    rfl
  intro jsonBody c hbody
  rw [parsedBody_ok hbody]
  unfold Bodies.handleUpdate
  rw [if_neg hpos]
  dsimp only [host]
  cases site.json.toNlohmannJson jsonBody with
  | error e => exact .inl ⟨rfl, Int.le_refl 400, rfl⟩
  | ok json =>
    show (json.set "id" (.number id)).bind _ = none ∧ _ ∨
      ∃ k, (json.set "id" (.number id)).bind _ = some k ∧ _
    dsimp only
    cases json.set "id" (.number id) with
    | none => exact .inl ⟨rfl, Int.le_refl 400, rfl⟩
    | some named => exact .inr ⟨call (fromJson named).1, rfl, hreply _ c, hexec _ c⟩

/-- A deletion that is refused, or comes to the call. -/
theorem does_deletion {pattern : List PathPart} {invalidId : Bytes}
    {k : Int → Serving HttpResponse} (call : Int → ServiceCall)
    (hk : ∀ id s, (k id).exec s = ((call id).reply (site.host a) s.connection,
      { s with connection := (call id).exec (site.host a) s.connection })) :
    Program.Does (site.Served a (site.deletes a pattern call) handler)
      (Program.known (site.extractIdFromPath a pattern) >>= fun id =>
        if id ≤ 0 then pure (sendErrorResponse 400 invalidId) else k id) := by
  have hmade : site.deletes a pattern call =
      site.pathId a pattern >>= fun id => some (call id) := by
    unfold deletes
    cases site.pathId a pattern <;> rfl
  rw [hmade]
  apply does_ofId
  intro id s
  rw [hk]
  exact .called (call id) rfl

theorem does_handleDelete {pattern : List PathPart} {delete : Int → Db Bool}
    {invalidId notFound : Bytes} (call : Int → ServiceCall)
    (hreply : ∀ id c, (call id).reply (site.host a) c =
      deleted (site.host a) notFound ((delete id).result c))
    (hexec : ∀ id c, (call id).exec (site.host a) c = (delete id).after c) :
    Program.Does (site.Served a (site.deletes a pattern call) handler)
      (site.handleDelete a pattern delete invalidId notFound) := by
  refine does_deletion call fun id s => ?_
  rw [hreply, hexec, exec_onService_bind]
  rcases (delete id).result s.connection with e | ⟨_ | _⟩ <;> rfl

theorem does_handleDeleteResult {pattern : List PathPart} {delete : Int → Db ServiceResult}
    {invalidId : Bytes} (call : Int → ServiceCall)
    (hreply : ∀ id c, (call id).reply (site.host a) c =
      removed (site.host a) ((delete id).result c))
    (hexec : ∀ id c, (call id).exec (site.host a) c = (delete id).after c) :
    Program.Does (site.Served a (site.deletes a pattern call) handler)
      (site.handleDeleteResult a pattern delete invalidId) := by
  refine does_deletion call fun id s => ?_
  rw [hreply, hexec, exec_onService_bind]
  cases (delete id).result s.connection with
  | error e => rfl
  | ok result =>
    show (if _ then _ else _ : Serving HttpResponse).exec _ = (Except.ok (if _ then _ else _), _)
    split <;> rfl

end

theorem does_handleCreateUser :
    Program.Does (site.Served a (site.createsUser a) .handleCreateUser)
      (UsersHandler.handleCreateUser site a) := by
  unfold createsUser
  apply does_extractJsonThen
  · intro e hbody
    rw [hbody]
    rfl
  intro jsonBody c hbody
  rw [hbody]
  unfold Bodies.UsersHandler.handleCreateUser
  dsimp only [host]
  show (site.json.toNlohmannJson jsonBody).toOption.bind _ = none ∧ _ ∨
    ∃ k, (site.json.toNlohmannJson jsonBody).toOption.bind _ = some k ∧ _
  cases site.json.toNlohmannJson jsonBody with
  | error e => exact .inl ⟨rfl, Int.le_refl 400, rfl⟩
  | ok json =>
    show (Bodies.UsersHandler.password jsonBody).bind _ = none ∧ _ ∨
      ∃ k, (Bodies.UsersHandler.password jsonBody).bind _ = some k ∧ _
    dsimp only
    cases Bodies.UsersHandler.password jsonBody with
    | none => exact .inl ⟨rfl, Int.le_refl 400, rfl⟩
    | some password =>
      dsimp only [Option.bind]
      unfold Bodies.UsersHandler.createUser
      split
      · exact .inl ⟨rfl, Int.le_refl 400, rfl⟩
      · exact .inr ⟨.createUser (Dto.User.fromJson site.json json).1 password, rfl, rfl, rfl⟩

/-- Inside the `try`, what is thrown becomes a reply. -/
def recovered (r : Except StdException HttpResponse) : HttpResponse :=
  match r with
  | .ok response => response
  | .error e => sendErrorResponse 400 (bytes "Invalid request body: " ++ e.what)

/-- The request object is refused, or used. -/
theorem does_handleRequestObject {Request : Type} {fromJson : Json → Request × Bool}
    {fields : Request → RequiredFields} {k : Request → Serving HttpResponse}
    {R : Server → Except StdException HttpResponse → Server → Prop}
    (hrefused : site.requestObject a fromJson fields = none →
      ∀ s message, R s (.ok (sendErrorResponse 400 message)) s)
    (hk : ∀ x, site.requestObject a fromJson fields = some x →
      Program.Does (fun s r s' => R s (.ok (recovered r)) s') (k x)) :
    Program.Does R (site.handleRequestObject a fromJson fields k) := by
  refine Program.Does.tryCatch (R := fun s r s' => R s (.ok (recovered r)) s') ?_
    (fun _ _ _ h => h) fun _ _ _ h => h
  unfold requestObject at hrefused hk
  cases hbody : site.library.extractJson a.request.body with
  | error e =>
    rw [parsedBody_error hbody] at hrefused
    exact fun s => hrefused rfl s _
  | ok jsonBody =>
    rw [parsedBody_ok hbody] at hrefused hk
    dsimp only
    cases hjson : site.json.toNlohmannJson jsonBody with
    | error e =>
      rw [hjson] at hrefused
      exact fun s => hrefused rfl s _
    | ok json =>
      rw [hjson] at hrefused hk
      cases hvalid : (fields (fromJson json).1).isValid with
      | false =>
        simp [Except.toOption, hvalid] at hrefused ⊢
        exact fun s => hrefused s _
      | true =>
        simp [Except.toOption, hvalid] at hk ⊢
        exact hk

theorem does_handleLogin :
    Program.Does (site.Served a none .handleLogin) (AuthHandler.handleLogin site a) := by
  have hsame : ∀ s r, site.Served a none .handleLogin s r s := by
    intro s r
    exact .loggedIn rfl rfl (.inl rfl)
  apply does_handleRequestObject
  · exact fun _ s message => hsame s _
  intro authRequest _
  refine Program.does_known_bind (fun s e _ => hsame s _) fun login _ => ?_
  refine Program.does_known_bind (fun s e _ => hsame s _) fun password _ => ?_
  intro s
  have hcases := @AuthService.login_cases site.jwt site.clock site.secretKey site.sha256 login
    password s
  have hauth : ∃ auth, (auth = s.auth ∨ auth = s.auth.tick) ∧
      ((AuthService.login site.jwt site.clock site.secretKey site.sha256 login password).exec s).2 =
        { s with auth := auth } := by
    rcases hcases with ⟨hsame, -⟩ | ⟨_, _, -, -, -, hticked⟩
    · exact ⟨s.auth, .inl rfl, hsame⟩
    · exact ⟨s.auth.tick, .inr rfl, congrArg Prod.snd hticked⟩
  obtain ⟨auth, hauth, hs'⟩ := hauth
  have hkeeps : ∀ {b : Prop} [Decidable b] (x y : HttpResponse),
      Program.Keeps (if b then pure x else pure y : Serving HttpResponse) := by
    intro b _ x y
    split
    · exact Program.keeps_pure x
    · exact Program.keeps_pure y
  rw [exec_onServer_bind, hs']
  cases ((AuthService.login site.jwt site.clock site.secretKey site.sha256 login password).exec s).1
    with
  | error e => exact .loggedIn rfl rfl hauth
  | ok authResult =>
    dsimp only
    rw [hkeeps]
    exact .loggedIn rfl rfl hauth

theorem does_handleLogout :
    Program.Does (site.Served a none .handleLogout) (AuthHandler.handleLogout site a) := by
  intro s
  unfold AuthHandler.handleLogout
  rw [exec_onMiddleware_bind]
  dsimp only
  split
  · exact .loggedOut rfl rfl
  · exact .loggedOut rfl rfl

/-- What a handler may come to, inside its `try`. -/
def ServedWithin (site : Site) (a : Arrival) (made : Option ServiceCall) (handler : RouteHandler)
    (s : Server) (r : Except StdException HttpResponse) (s' : Server) : Prop :=
  site.Served a made handler s (.ok (recovered r)) s'

/-- `std::optional::value` throws where the call needs it. -/
theorem does_value {α : Type} {x : Option α} {k : α → Serving HttpResponse}
    {makes : α → Option ServiceCall}
    (hk : ∀ y, Program.Does (site.ServedWithin a (makes y) handler) (k y)) :
    Program.Does (site.ServedWithin a (x.bind makes) handler)
      (Program.known (site.value x) >>= k) := by
  cases x with
  | none => exact fun s => .refused rfl (refuses_sendErrorResponse (Int.le_refl 400) _)
  | some y => exact hk y

theorem does_handleChangePassword :
    Program.Does (site.Served a (site.changesPassword a userId) .handleChangePassword)
      (AuthHandler.handleChangePassword site a userId) := by
  unfold AuthHandler.handleChangePassword changesPassword
  split
  · apply does_refusal rfl
    decide
  apply does_handleRequestObject
  · intro hobject s message
    rw [hobject]
    exact .refused rfl (refuses_sendErrorResponse (Int.le_refl 400) message)
  intro changeRequest hobject
  rw [hobject]
  cases huser : site.library.stoll userId with
  | error e => exact fun s => .refused rfl (refuses_sendErrorResponse (Int.le_refl 400) _)
  | ok id =>
    show Program.Does (site.ServedWithin a (changeRequest.oldPassword.bind fun oldPassword =>
      changeRequest.newPassword.bind fun newPassword =>
        some (.changePassword id oldPassword newPassword)) .handleChangePassword) _
    apply does_value
    intro oldPassword
    apply does_value
    intro newPassword s
    have hcalled : site.Served a (some (.changePassword id oldPassword newPassword))
        .handleChangePassword s _ _ := .called (.changePassword id oldPassword newPassword) rfl
    unfold ServiceCall.reply ServiceCall.exec passwordChanged at hcalled
    rw [exec_onService_bind]
    dsimp only [host] at hcalled
    cases hresult : (AuthService.changePassword site.sha256 id oldPassword
      newPassword).result s.connection with
    | error e =>
      rw [hresult] at hcalled
      exact hcalled
    | ok result =>
      rw [hresult] at hcalled
      dsimp only at hcalled ⊢
      split at hcalled
      · next hfailed =>
        rw [if_pos hfailed]
        exact hcalled
      · next hdone =>
        rw [if_neg hdone]
        exact hcalled

/-! ## The handlers -/

/-- A list is looked at, whatever the parameters make of the request. -/
theorem does_list {handler : RouteHandler} (h : handler ∉ writers) {Item : Type}
    {toJson : Item → Json}
    {find : QueryParams → Except StdException (Int → Int → Db (List Item × Int))}
    (hfind : ∀ params list, find params = .ok list →
      ∀ page pageSize, Prog.ReadOnly (list page pageSize)) :
    Program.Does (site.Served a (site.callOf a userId handler) handler)
      (site.handleGetAll a toJson find) :=
  does_look (keeps_handleGetAll hfind) h

theorem readOnly_list (env : Environment) (q : ListRequest) (page pageSize : Int) :
    Prog.ReadOnly (q.list env page pageSize) := by
  rw [ListRequest.list_eq]
  exact ListRequest.readOnly_findAll ..

/-- What is made of a parameter, if it can be read. -/
theorem exists_of_bind {α β : Type} {x : Except StdException α} {f : α → Except StdException β}
    {b : β} (h : (x >>= f) = .ok b) : ∃ a, f a = .ok b := by
  cases x with
  | error e => cases h
  | ok a => exact ⟨a, h⟩

theorem keeps_handleGetWorkflowEdges :
    Program.Keeps (EdgesHandler.handleGetWorkflowEdges site a) := by
  have hedges : ∀ workflowId, Prog.ReadOnly (EdgeService.getWorkflowEdges a.env workflowId) :=
    fun workflowId => .ite (Prog.readOnly_pure _) (readOnly_select _)
  refine (Program.keeps_known _).bind fun workflowId => ?_
  split
  · exact Program.keeps_pure _
  refine (keeps_onService (hedges workflowId)).bind fun edges => ?_
  exact (Program.keeps_known _).bind fun items => Program.keeps_pure _

/-- **What a handler comes to**: a refusal, a look, or one call of a service. -/
theorem does_callHandler (handler : RouteHandler) :
    Program.Does (site.Served a (site.callOf a userId handler) handler)
      (site.callHandler a userId handler) := by
  have hfind : ∀ (t : Table) {Dto : Type} (mapRow : Row t → Except Error Dto) (id : Int),
      Prog.ReadOnly (findByIdIn t mapRow id) := fun t _ mapRow id => readOnly_findByIdIn t mapRow id
  cases handler with
  | handleGetItems | handleCreateItem | handleGetItem | handleUpdateItem | handleDeleteItem
  | health => exact does_look (fun _ => rfl) (by decide)
  | handleLogin => exact does_handleLogin
  | handleLogout => exact does_handleLogout
  | handleChangePassword => exact does_handleChangePassword
  | handleCreateUser => exact does_handleCreateUser
  | handleGetWorkflowEdges => exact does_look keeps_handleGetWorkflowEdges (by decide)
  | handleGetUsers =>
    refine does_list (by decide) fun params list h => ?_
    cases h
    exact readOnly_list a.env .users
  | handleGetWorkflows =>
    refine does_list (by decide) fun params list h => ?_
    cases h
    exact readOnly_list a.env .workflows
  | handleGetStates =>
    refine does_list (by decide) fun params list h => ?_
    obtain ⟨workflowId, h⟩ := exists_of_bind h
    cases h
    exact readOnly_list a.env (.states workflowId)
  | handleGetEdges =>
    refine does_list (by decide) fun params list h => ?_
    obtain ⟨beginStateId, h⟩ := exists_of_bind h
    obtain ⟨endStateId, h⟩ := exists_of_bind h
    cases h
    exact readOnly_list a.env (.edges beginStateId endStateId)
  | handleGetProjects =>
    refine does_list (by decide) fun params list h => ?_
    obtain ⟨parentId, h⟩ := exists_of_bind h
    cases h
    exact readOnly_list a.env (.projects parentId _ _)
  | handleGetPhases =>
    refine does_list (by decide) fun params list h => ?_
    obtain ⟨projectId, h⟩ := exists_of_bind h
    cases h
    exact readOnly_list a.env (.phases projectId _)
  | handleGetItemTypes =>
    refine does_list (by decide) fun params list h => ?_
    obtain ⟨workflowId, h⟩ := exists_of_bind h
    cases h
    exact readOnly_list a.env (.itemTypes workflowId _ _)
  | handleGetFieldTypes =>
    refine does_list (by decide) fun params list h => ?_
    obtain ⟨itemTypeId, h⟩ := exists_of_bind h
    cases h
    exact readOnly_list a.env (.fieldTypes itemTypeId _ _)
  | handleGetUser | handleGetPhase | handleGetProject | handleGetFieldType | handleGetWorkflow
  | handleGetItemType | handleGetState | handleGetEdge =>
    exact does_look (keeps_handleGet fun id => hfind _ _ id) (by decide)
  | handleCreateWorkflow =>
    exact does_handleCreate _ (fun x => .graph (.createWorkflow x)) (fun _ _ => rfl)
      fun _ _ => rfl
  | handleCreateState =>
    exact does_handleCreate _ (fun x => .graph (.createState x)) (fun _ _ => rfl)
      fun _ _ => rfl
  | handleCreateEdge =>
    exact does_handleCreate _ (fun x => .graph (.createEdge x)) (fun _ _ => rfl)
      fun _ _ => rfl
  | handleCreateItemType =>
    exact does_handleCreate (fun _ => none) (fun x => .graph (.createItemType x)) (fun _ _ => rfl)
      fun _ _ => rfl
  | handleCreateProject =>
    exact does_handleCreate (fun _ => none) .createProject (fun _ _ => rfl) fun _ _ => rfl
  | handleCreatePhase =>
    exact does_handleCreate (fun _ => none) .createPhase (fun _ _ => rfl) fun _ _ => rfl
  | handleCreateFieldType =>
    exact does_handleCreate (fun _ => none) .createFieldType (fun _ _ => rfl) fun _ _ => rfl
  | handleUpdateWorkflow =>
    exact does_handleUpdate (fun x => .graph (.updateWorkflow x)) (fun _ _ => rfl) fun _ _ => rfl
  | handleUpdateState =>
    exact does_handleUpdate (fun x => .graph (.updateState x)) (fun _ _ => rfl) fun _ _ => rfl
  | handleUpdateItemType =>
    exact does_handleUpdate (fun x => .graph (.updateItemType x)) (fun _ _ => rfl) fun _ _ => rfl
  | handleUpdateUser =>
    exact does_handleUpdate .updateUser (fun _ _ => rfl) fun _ _ => rfl
  | handleUpdateProject =>
    exact does_handleUpdate .updateProject (fun _ _ => rfl) fun _ _ => rfl
  | handleUpdatePhase =>
    exact does_handleUpdate .updatePhase (fun _ _ => rfl) fun _ _ => rfl
  | handleUpdateFieldType =>
    exact does_handleUpdate .updateFieldType (fun _ _ => rfl) fun _ _ => rfl
  | handleDeleteUser =>
    exact does_handleDelete .deleteUser (fun _ _ => rfl) fun _ _ => rfl
  | handleDeleteProject =>
    exact does_handleDelete .archiveProject (fun _ _ => rfl) fun _ _ => rfl
  | handleDeletePhase =>
    exact does_handleDelete .archivePhase (fun _ _ => rfl) fun _ _ => rfl
  | handleDeleteItemType =>
    exact does_handleDelete (fun id => .graph (.deleteItemType id)) (fun _ _ => rfl) fun _ _ => rfl
  | handleDeleteFieldType =>
    exact does_handleDelete .deleteFieldType (fun _ _ => rfl) fun _ _ => rfl
  | handleDeleteWorkflow =>
    exact does_handleDeleteResult (fun id => .graph (.deleteWorkflow id)) (fun _ _ => rfl)
      fun _ _ => rfl
  | handleDeleteState =>
    exact does_handleDeleteResult (fun id => .graph (.deleteState id)) (fun _ _ => rfl)
      fun _ _ => rfl
  | handleDeleteEdge =>
    exact does_handleDeleteResult (fun id => .graph (.deleteEdge id)) (fun _ _ => rfl)
      fun _ _ => rfl

end Site

end Farado
