import Farado.Api.Server
import Farado.Api.Unambiguous

/-!
# The handlers that ask, on the server at work

The handlers of `Handlers` put questions to a backend. Here the backend is the server: the libraries
are those of the site, the services do what they do on the shared connection, and the middleware
checks tokens against its blacklist. To every request the handlers then give one reply, and it is the
one that `Server` computes.
-/

namespace Farado

open Acting Answering Handling Http

namespace Site

variable (site : Site) (a : Arrival) (s : Server)

/-- The outcome of a call on the server as it is. -/
def outcome {α : Type} (result : Except Error α) : Outcome α := fun _ => site.returned result

/-- What a handler of the prototype replies. -/
def itemsHandler (handler : RouteHandler) (request : HttpRequest) (userId : Bytes) :
    Handler Unit :=
  match site.items handler request userId with
  | .ok response => answer default response
  | .error e => throw e

/-- The server, as the handlers ask it. -/
def backend : Backend where
  library := {
    decode := fun path _ => site.library.decode path
    regexMatch := fun pattern path _ => .ok (matchPath pattern path)
    bearerMatch := fun header _ => .ok (matchBearer header)
    splitQuery := fun query _ => site.library.splitQuery query
    stoi := fun text _ => site.library.stoi text
    stoll := fun text _ => site.library.stoll text
    now := fun _ => .ok (Dto.timePointToSeconds a.now)
    extractJson := fun body _ => .ok (site.library.extractJson body)
    toNlohmannJson := fun json _ => site.json.toNlohmannJson json
    toWebJson := fun json _ => site.json.toWebJson json
    setId := fun json id _ => (json.set "id" (.number id)).elim (.error site.json.typeError) .ok
    hasField := fun json name _ => .ok (json.find? name).isSome
    stringField := fun json name _ =>
      ((json.find? name).bind Json.getString).elim (.error site.json.notAString) .ok
    badOptionalAccess := site.library.badOptionalAccess
    multipleResponses := default }
  authRequest := fun json _ => .ok (AuthRequest.fromJson json).1
  changePasswordRequest := fun json _ => .ok (ChangePasswordRequest.fromJson json).1
  userDto := Bodies.codec (Dto.User.fromJson site.json) Dto.User.toJson
  workflowDto := Bodies.codec (Dto.Workflow.fromJson site.json) Dto.Workflow.toJson
  stateDto := Bodies.codec (Dto.State.fromJson site.json) Dto.State.toJson
  edgeDto := Bodies.codec (Dto.Edge.fromJson site.json) Dto.Edge.toJson
  projectDto := Bodies.codec (Dto.Project.fromJson site.json) Dto.Project.toJson
  phaseDto := Bodies.codec (Dto.Phase.fromJson site.json) Dto.Phase.toJson
  itemTypeDto := Bodies.codec (Dto.ItemType.fromJson site.json) Dto.ItemType.toJson
  fieldTypeDto := Bodies.codec (Dto.FieldType.fromJson site.json) Dto.FieldType.toJson
  authMiddleware := if site.hasMiddleware then some {
      validateRequest := fun header _ => .ok
        ((AuthMiddleware.validateRequest site.jwt site.clock site.secretKey header).run s.auth).1 }
    else none
  authService := {
    login := fun login password => site.outcome
      ((AuthService.login site.jwt site.clock site.secretKey site.sha256 login password).exec s).1
    logout := fun token _ => .ok
      ((AuthService.logout site.jwt site.clock site.secretKey token).run s.auth).1
    changePassword := fun userId oldPassword newPassword => site.outcome
      ((AuthService.changePassword site.sha256 userId oldPassword newPassword).result
        s.connection) }
  userService := {
    users := fun page pageSize =>
      site.outcome ((UserService.users a.env page pageSize).result s.connection)
    user := fun id => site.outcome ((UserService.user id).result s.connection)
    createUser := fun user password =>
      site.outcome ((UserService.createUser site.sha256 user password).result s.connection)
    updateUser := fun user => site.outcome ((UserService.updateUser user).result s.connection)
    deleteUser := fun id => site.outcome ((UserService.deleteUser id).result s.connection) }
  workflowService := {
    workflows := fun page pageSize =>
      site.outcome ((WorkflowService.workflows a.env page pageSize).result s.connection)
    workflow := fun id => site.outcome ((WorkflowService.workflow id).result s.connection)
    createWorkflow := fun workflow =>
      site.outcome ((WorkflowService.createWorkflow workflow).result s.connection)
    updateWorkflow := fun workflow =>
      site.outcome ((WorkflowService.updateWorkflow workflow).result s.connection)
    deleteWorkflow := fun id =>
      site.outcome ((WorkflowService.deleteWorkflow a.env id).result s.connection) }
  stateService := {
    states := fun page pageSize workflowId =>
      site.outcome ((StateService.states a.env page pageSize workflowId).result s.connection)
    state := fun id => site.outcome ((StateService.state id).result s.connection)
    createState := fun state => site.outcome ((StateService.createState state).result s.connection)
    updateState := fun state => site.outcome ((StateService.updateState state).result s.connection)
    deleteState := fun id =>
      site.outcome ((StateService.deleteState a.env id).result s.connection) }
  edgeService := {
    edges := fun page pageSize beginStateId endStateId => site.outcome
      ((EdgeService.edges a.env page pageSize beginStateId endStateId).result s.connection)
    edge := fun id => site.outcome ((EdgeService.edge id).result s.connection)
    createEdge := fun edge => site.outcome ((EdgeService.createEdge edge).result s.connection)
    deleteEdge := fun id => site.outcome ((EdgeService.deleteEdge id).result s.connection)
    getWorkflowEdges := fun workflowId =>
      site.outcome ((EdgeService.getWorkflowEdges a.env workflowId).result s.connection) }
  projectService := {
    projects := fun page pageSize parentId isArchive searchCaption => site.outcome
      ((ProjectService.projects a.env page pageSize parentId isArchive searchCaption).result
        s.connection)
    project := fun id => site.outcome ((ProjectService.project id).result s.connection)
    createProject := fun project =>
      site.outcome ((ProjectService.createProject a.env a.now project).result s.connection)
    updateProject := fun project =>
      site.outcome ((ProjectService.updateProject a.env a.now project).result s.connection)
    archiveProject := fun id =>
      site.outcome ((ProjectService.archiveProject a.now id).result s.connection) }
  phaseService := {
    phases := fun page pageSize projectId isArchive => site.outcome
      ((PhaseService.phases a.env page pageSize projectId isArchive).result s.connection)
    phase := fun id => site.outcome ((PhaseService.phase id).result s.connection)
    createPhase := fun phase =>
      site.outcome ((PhaseService.createPhase a.env phase).result s.connection)
    updatePhase := fun phase =>
      site.outcome ((PhaseService.updatePhase a.env phase).result s.connection)
    archivePhase := fun id => site.outcome ((PhaseService.archivePhase id).result s.connection) }
  itemTypeService := {
    itemTypes := fun page pageSize workflowId kind searchCaption => site.outcome
      ((ItemTypeService.itemTypes a.env page pageSize workflowId kind searchCaption).result
        s.connection)
    itemType := fun id => site.outcome ((ItemTypeService.itemType id).result s.connection)
    createItemType := fun itemType =>
      site.outcome ((ItemTypeService.createItemType itemType).result s.connection)
    updateItemType := fun itemType =>
      site.outcome ((ItemTypeService.updateItemType itemType).result s.connection)
    deleteItemType := fun id =>
      site.outcome ((ItemTypeService.deleteItemType id).result s.connection) }
  fieldTypeService := {
    fieldTypes := fun page pageSize itemTypeId valueType searchCaption => site.outcome
      ((FieldTypeService.fieldTypes a.env page pageSize itemTypeId valueType searchCaption).result
        s.connection)
    fieldType := fun id => site.outcome ((FieldTypeService.fieldType id).result s.connection)
    createFieldType := fun fieldType =>
      site.outcome ((FieldTypeService.createFieldType fieldType).result s.connection)
    updateFieldType := fun fieldType =>
      site.outcome ((FieldTypeService.updateFieldType fieldType).result s.connection)
    deleteFieldType := fun id =>
      site.outcome ((FieldTypeService.deleteFieldType id).result s.connection) }
  items := site.itemsHandler

variable {site a s}

/-! ## Taking requests apart -/

theorem follows_sendErrorResponse {t : Server} (code : Int) (message : Bytes) :
    Follows t (sendErrorResponse (site.backend a s) code message)
      (pure (Bodies.sendErrorResponse code message)) := follows_answer _ _

theorem tells_extractIdFromPath (pattern : List PathPart) :
    Tells (Http.extractIdFromPath (site.backend a s) pattern a.request)
      (site.extractIdFromPath a pattern) := by
  refine (tells_ask fun _ => rfl).bind fun path => ?_
  have hgroups : Tells (ask ((site.backend a s).library.regexMatch pattern path) : Handler _)
      (.ok (matchPath pattern path)) := tells_ask fun _ => rfl
  refine hgroups.bind (f := site.convertGroup) fun groups => ?_
  rcases groups with _ | _ | ⟨group, groups⟩
  · exact tells_pure _
  · exact tells_pure _
  · exact tells_ask fun _ => rfl

theorem tells_intParam (value : Option Bytes) (default : Int) :
    Tells (Http.intParam (site.backend a s) value default) (site.intParam value default) := by
  cases value with
  | none => exact tells_pure default
  | some text => exact tells_ask fun _ => rfl

theorem tells_idParam (value : Option Bytes) :
    Tells (Http.idParam (site.backend a s) value) (site.idParam value) := by
  cases value with
  | none => exact tells_pure none
  | some text =>
    refine Tells.bind (r := site.library.stoll text) (f := fun id => .ok (some id))
      (tells_ask fun _ => rfl) ?_
    exact fun id => tells_pure (some id)

theorem tells_value {α : Type} (x : Option α) :
    Tells (Http.value (site.backend a s) x) (site.value x) := by
  cases x with
  | none => exact fun _ => ⟨rfl, rfl⟩
  | some x => exact tells_pure x

/-! ## The patterns -/

section
variable {t : Server} {Dto : Type} {fromJson : Json → Dto × Bool} {toJson : Dto → Json}

theorem tells_toWebJson (x : Dto) :
    Tells (Http.toWebJson (site.backend a s) (Bodies.codec fromJson toJson) x)
      (site.toWebJson toJson x) := by
  refine Tells.bind (r := .ok (toJson x)) (f := site.json.toWebJson) (tells_ask fun _ => rfl) ?_
  exact fun json => tells_ask fun _ => rfl

/-- A service does on the connection what it is asked about. -/
theorem follows_service {α : Type} {p : Db α} {k : α → Handler Unit} {f : α → Serving HttpResponse}
    (ht : t.connection = s.connection) (hk : ∀ x t', Follows t' (k x) (f x)) :
    Follows t (ask (site.outcome (p.result s.connection)) >>= k) (site.onService p >>= f) := by
  apply follows_ask_bind
  · intro n
    show site.returned _ = site.returned _
    rw [ht]
  · exact fun x => hk x _

theorem follows_handleGetAll {find : QueryParams → Handler (Int → Int → Outcome (List Dto × Int))}
    {service : QueryParams → Except StdException (Int → Int → Db (List Dto × Int))}
    (ht : t.connection = s.connection)
    (hfind : ∀ params, Tells (find params) ((service params).map fun list page pageSize =>
      site.outcome ((list page pageSize).result s.connection))) :
    Follows t (Http.handleGetAll (site.backend a s) (Bodies.codec fromJson toJson) find a.request)
      (site.handleGetAll a toJson service) := by
  refine Tells.follows_bind (tells_ask fun _ => rfl) fun params _ => ?_
  refine (tells_intParam _ _).follows_bind fun page _ => ?_
  refine (tells_intParam _ _).follows_bind fun pageSize _ => ?_
  refine (hfind params).follows_map fun list _ => ?_
  refine follows_service ht fun found t' => ?_
  refine (tells_mapM tells_toWebJson found.1).follows_bind fun items _ => ?_
  exact follows_answer _ _

theorem follows_handleGet {pattern : List PathPart} {find : Int → Db (Option Dto)}
    {invalidId notFound : Bytes} (ht : t.connection = s.connection) :
    Follows t (Http.handleGet (site.backend a s) (Bodies.codec fromJson toJson) pattern
        (fun id => site.outcome ((find id).result s.connection)) invalidId notFound a.request)
      (site.handleGet a toJson pattern find invalidId notFound) := by
  refine (tells_extractIdFromPath pattern).follows_bind fun id _ => ?_
  split
  · exact follows_sendErrorResponse 400 invalidId
  refine follows_service ht fun found t' => ?_
  cases found with
  | none => exact follows_sendErrorResponse 404 notFound
  | some found =>
    refine (tells_toWebJson found).follows_bind fun json _ => ?_
    exact follows_answer _ _

theorem follows_handleDelete {pattern : List PathPart} {delete : Int → Db Bool}
    {invalidId notFound : Bytes} (ht : t.connection = s.connection) :
    Follows t (Http.handleDelete (site.backend a s) pattern
        (fun id => site.outcome ((delete id).result s.connection)) invalidId notFound a.request)
      (site.handleDelete a pattern delete invalidId notFound) := by
  refine (tells_extractIdFromPath pattern).follows_bind fun id _ => ?_
  split
  · exact follows_sendErrorResponse 400 invalidId
  refine follows_service ht fun deleted t' => ?_
  cases deleted with
  | true => exact follows_answer _ _
  | false => exact follows_sendErrorResponse 404 notFound

theorem follows_handleDeleteResult {pattern : List PathPart} {delete : Int → Db ServiceResult}
    {invalidId : Bytes} (ht : t.connection = s.connection) :
    Follows t (Http.handleDeleteResult (site.backend a s) pattern
        (fun id => site.outcome ((delete id).result s.connection)) invalidId a.request)
      (site.handleDeleteResult a pattern delete invalidId) := by
  refine (tells_extractIdFromPath pattern).follows_bind fun id _ => ?_
  split
  · exact follows_sendErrorResponse 400 invalidId
  refine follows_service ht fun result t' => ?_
  cases result.success with
  | true => exact follows_answer _ _
  | false => exact follows_sendErrorResponse _ _

/-- A body that could not be parsed is answered in the continuation. -/
theorem follows_unparsed {e : StdException} (hbody : site.library.extractJson a.request.body =
      .error e) (work : Json → Handler Unit) (f : Json → Connection → Bodies.Answered) :
    Follows t (Http.extractJsonThen (site.backend a s) a.request fun task =>
        tryCatch (Http.get task >>= work) (Http.invalidRequest (site.backend a s)))
      (site.extractJsonThen a f) := by
  have hask : ∀ n, (site.backend a s).library.extractJson a.request.body n = .ok (.error e) :=
    fun n => congrArg Except.ok hbody
  unfold extractJsonThen
  rw [hbody]
  refine Gives.ask ?_ hask
  exact Bodies.gives_caught (r := .error e) (gives_ask_error fun _ => rfl)

theorem follows_onBody {p : Handler Unit} {f : Connection → Bodies.Answered}
    (ht : t.connection = s.connection) (hp : Gives p (.ok (f s.connection).1)) :
    Follows t p (onBody f) := by
  show Gives p (.ok (f t.connection).1)
  rwa [ht]

theorem follows_handleCreate {check : Dto → Option Bytes} {create : Dto → Db (Option Dto)}
    {failed : Int × Bytes} (ht : t.connection = s.connection) :
    Follows t (Http.handleCreate (site.backend a s) (Bodies.codec fromJson toJson) check
        (fun x => site.outcome ((create x).result s.connection)) failed a.request)
      (site.extractJsonThen a
        (Bodies.handleCreate (site.host a) fromJson toJson check create failed)) := by
  cases hbody : site.library.extractJson a.request.body with
  | error e => exact follows_unparsed hbody _ _
  | ok jsonBody =>
    have hask : (site.backend a s).library.extractJson a.request.body = fun _ => .ok (.ok jsonBody) :=
      funext fun _ => congrArg Except.ok hbody
    unfold extractJsonThen Http.handleCreate Http.extractJsonThen
    rw [hask, hbody]
    apply follows_onBody ht
    exact @Bodies.gives_handleCreate (site.host a) s.connection 0 jsonBody a.request Dto fromJson
      toJson check create failed

/-- The continuation of an update, with the body at hand. -/
theorem gives_updateBody {jsonBody : Json} {update : Dto → Db (Option Dto)}
    {invalidId failed : Bytes} {updated : Dto → Handler Unit}
    {replyWith : Dto → Except StdException HttpResponse} {id : Int} (hid : ¬ id ≤ 0)
    (hreply : ∀ x, Gives (updated x) (replyWith x)) :
    Gives (tryCatch (do
        let jsonBody ← Http.get (.ok jsonBody)
        let json ← ask ((site.backend a s).library.toNlohmannJson jsonBody)
        let json ← ask ((site.backend a s).library.setId json id)
        let x ← ask ((Bodies.codec fromJson toJson).fromJson json)
        match ← ask (site.outcome ((update x).result s.connection)) with
        | none => Http.sendErrorResponse (site.backend a s) 404 failed
        | some x => updated x) (Http.invalidRequest (site.backend a s)))
      (.ok (Bodies.handleUpdate (site.host a) fromJson update invalidId failed replyWith id jsonBody
        s.connection).1) := by
  unfold Bodies.handleUpdate
  rw [if_neg hid]
  cases hjson : (site.host a).json.toNlohmannJson jsonBody with
  | error e =>
    refine Bodies.gives_caught (r := .error e) (Gives.ask ?_ fun _ => rfl)
    exact gives_ask_error fun _ => hjson
  | ok json =>
    dsimp only
    have hsetId : ∀ n, (site.backend a s).library.setId json id n =
        (json.set "id" (.number id)).elim (.error site.json.typeError) .ok := fun _ => rfl
    cases hset : json.set "id" (.number id) with
    | none =>
      rw [hset] at hsetId
      refine Bodies.gives_caught (r := .error site.json.typeError) (Gives.ask ?_ fun _ => rfl)
      exact Gives.ask (gives_ask_error hsetId) fun _ => hjson
    | some named =>
      rw [hset] at hsetId
      refine Bodies.gives_caught (Gives.ask ?_ fun _ => rfl)
      refine Gives.ask (Gives.ask (Gives.ask ?_ fun _ => rfl) hsetId) fun _ => hjson
      exact @Bodies.gives_replyTo (site.host a) Dto _ (404, failed) _ _
        (Bodies.gives_sendErrorResponse _ _) hreply

theorem follows_handleUpdate {pattern : List PathPart} {update : Dto → Db (Option Dto)}
    {invalidId failed : Bytes} {updated : Dto → Handler Unit}
    {replyWith : Dto → Except StdException HttpResponse} (ht : t.connection = s.connection)
    (hreply : ∀ x, Gives (updated x) (replyWith x)) :
    Follows t (Http.handleUpdate (site.backend a s) (Bodies.codec fromJson toJson) pattern
        (fun x => site.outcome ((update x).result s.connection)) invalidId failed updated a.request)
      (site.handleUpdate a pattern invalidId
        (Bodies.handleUpdate (site.host a) fromJson update invalidId failed replyWith)) := by
  refine (tells_extractIdFromPath pattern).follows_bind fun id _ => ?_
  by_cases hid : id ≤ 0
  · rw [if_pos hid, if_pos hid]
    exact follows_sendErrorResponse 400 invalidId
  rw [if_neg hid, if_neg hid]
  cases hbody : site.library.extractJson a.request.body with
  | error e => exact follows_unparsed hbody _ _
  | ok jsonBody =>
    have hask : ∀ n, (site.backend a s).library.extractJson a.request.body n = .ok (.ok jsonBody) :=
      fun n => congrArg Except.ok hbody
    unfold extractJsonThen
    rw [hbody]
    apply follows_onBody ht
    exact Gives.ask (gives_updateBody hid hreply) hask

theorem gives_replyUpdated (x : Dto) :
    Gives (replyUpdated (site.backend a s) (Bodies.codec fromJson toJson) x)
      (Bodies.replyObject (site.host a) toJson statusOk x) :=
  @Bodies.gives_replyObject (site.host a) s.connection 0 .null Dto fromJson toJson statusOk x

theorem follows_handleCreateUser (ht : t.connection = s.connection) :
    Follows t (Http.UsersHandler.handleCreateUser (site.backend a s) a.request)
      (UsersHandler.handleCreateUser site a) := by
  unfold UsersHandler.handleCreateUser
  cases hbody : site.library.extractJson a.request.body with
  | error e => exact follows_unparsed hbody _ _
  | ok jsonBody =>
    have hask : (site.backend a s).library.extractJson a.request.body = fun _ => .ok (.ok jsonBody) :=
      funext fun _ => congrArg Except.ok hbody
    unfold extractJsonThen Http.UsersHandler.handleCreateUser Http.extractJsonThen
    rw [hask, hbody]
    apply follows_onBody ht
    exact @Bodies.gives_handleCreateUser (site.host a) s.connection 0 jsonBody a.request

/-- A request object is checked by both alike. -/
theorem follows_handleRequestObject {Request : Type} {fromJson : Json → Request × Bool}
    {fields : Request → RequiredFields} {k : Request → Handler Unit}
    {f : Request → Serving HttpResponse} (hk : ∀ x, Follows t (k x) (f x)) :
    Follows t (Http.handleRequestObject (site.backend a s) (fun json _ => .ok (fromJson json).1)
        fields k a.request)
      (site.handleRequestObject a fromJson fields f) := by
  have hask : ∀ n, (site.backend a s).library.extractJson a.request.body n =
      .ok (site.library.extractJson a.request.body) := fun _ => rfl
  refine Follows.tryCatch (Gives.ask ?_ hask) fun e => follows_sendErrorResponse 400 _
  cases site.library.extractJson a.request.body with
  | error e =>
    have hget : Tells (attempt (Http.get (.error e))) (.ok (.error e)) :=
      (tells_ask fun _ => rfl).attempt
    exact hget.gives_bind (follows_sendErrorResponse 400 _)
  | ok jsonBody =>
    have hget : Tells (attempt (Http.get (.ok jsonBody))) (.ok (.ok jsonBody)) :=
      (tells_ask fun _ => rfl).attempt
    refine hget.gives_bind ?_
    have hparse : Tells (attempt (do
          let json ← ask ((site.backend a s).library.toNlohmannJson jsonBody)
          ask fun _ => .ok (fromJson json).1 : Handler Request))
        (.ok (site.json.toNlohmannJson jsonBody >>= fun json => .ok (fromJson json).1)) :=
      Tells.attempt ((tells_ask fun _ => rfl).bind fun json => tells_ask fun _ => rfl)
    refine hparse.gives_bind ?_
    dsimp only
    cases site.json.toNlohmannJson jsonBody with
    | error e => exact follows_sendErrorResponse 400 _
    | ok json =>
      show Follows t (if _ then _ else k (fromJson json).1) _
      dsimp only
      split
      · exact follows_sendErrorResponse 400 _
      · exact hk (fromJson json).1

/-! ## The handlers -/

theorem follows_handleLogin :
    Follows s (Http.AuthHandler.handleLogin (site.backend a s) a.request)
      (AuthHandler.handleLogin site a) := by
  refine follows_handleRequestObject fun authRequest => ?_
  refine (tells_value _).follows_bind fun login _ => ?_
  refine (tells_value _).follows_bind fun password _ => ?_
  apply follows_ask_bind
  · exact fun n => rfl
  intro authResult
  split
  · exact follows_sendErrorResponse _ _
  · exact follows_answer _ _

/-- What is replied to a logout, by what the service says. -/
theorem answer_handleLogout (m : AuthMiddleware) (authHeader : Option Bytes) :
    ((Farado.AuthHandler.handleLogout site.jwt site.clock site.secretKey authHeader).run m).1 =
      match authHeader with
      | none => (401, bytes "Missing Authorization header")
      | some header =>
          match matchBearer header with
          | none => (400, bytes "Invalid Authorization header format")
          | some token =>
              if ((AuthService.logout site.jwt site.clock site.secretKey token).run m).1 then
                (204, [])
              else (500, bytes "Failed to logout") := by
  unfold Farado.AuthHandler.handleLogout
  cases authHeader with
  | none => rfl
  | some header =>
    dsimp only
    cases matchBearer header with
    | none => rfl
    | some token =>
      show (StateT.run
        (if ((AuthService.logout site.jwt site.clock site.secretKey token).run m).1 then _
          else _ : StateM AuthMiddleware (Int × Bytes)) _).1 = _
      dsimp only
      split <;> rfl

theorem follows_handleLogout :
    Follows s (Http.AuthHandler.handleLogout (site.backend a s) a.request)
      (AuthHandler.handleLogout site a) := by
  have hanswer := @answer_handleLogout site s.auth a.request.authorization
  unfold AuthHandler.handleLogout Http.AuthHandler.handleLogout Follows
  rw [exec_onMiddleware_bind]
  generalize (Farado.AuthHandler.handleLogout site.jwt site.clock site.secretKey
    a.request.authorization).run s.auth = replied at hanswer ⊢
  obtain ⟨answer, m⟩ := replied
  cases hheader : a.request.authorization with
  | none =>
    rw [hheader] at hanswer
    subst hanswer
    exact follows_sendErrorResponse 401 _
  | some header =>
    have hask : ∀ n, (site.backend a s).library.bearerMatch header n = .ok (matchBearer header) :=
      fun _ => rfl
    refine Gives.ask ?_ hask
    rw [hheader] at hanswer
    dsimp only at hanswer
    cases hmatch : matchBearer header with
    | none =>
      rw [hmatch] at hanswer
      subst hanswer
      exact follows_sendErrorResponse 400 _
    | some token =>
      have hlogout : ∀ n, (site.backend a s).authService.logout token n =
          .ok ((AuthService.logout site.jwt site.clock site.secretKey token).run s.auth).1 :=
        fun _ => rfl
      refine Gives.ask ?_ hlogout
      rw [hmatch] at hanswer
      dsimp only at hanswer
      split at hanswer
      · next hdone =>
        subst hanswer
        rw [if_pos hdone]
        exact follows_answer _ _
      · next hfailed =>
        subst hanswer
        rw [if_neg hfailed]
        exact follows_sendErrorResponse 500 _

theorem follows_handleChangePassword (userId : Bytes) (ht : t.connection = s.connection) :
    Follows t (Http.AuthHandler.handleChangePassword (site.backend a s) a.request userId)
      (AuthHandler.handleChangePassword site a userId) := by
  unfold AuthHandler.handleChangePassword Http.AuthHandler.handleChangePassword
  by_cases huser : userId.isEmpty = true
  · rw [if_pos huser, if_pos huser]
    exact follows_sendErrorResponse 401 _
  rw [if_neg huser, if_neg huser]
  refine follows_handleRequestObject fun changeRequest => ?_
  have hid : Tells (attempt (ask ((site.backend a s).library.stoll userId)) : Handler _)
      (.ok (site.library.stoll userId)) := (tells_ask fun _ => rfl).attempt
  refine hid.gives_bind ?_
  cases site.library.stoll userId with
  | error e => exact follows_sendErrorResponse 400 _
  | ok userIdInt =>
    refine (tells_value _).follows_bind fun oldPassword _ => ?_
    refine (tells_value _).follows_bind fun newPassword _ => ?_
    refine follows_service ht fun result t' => ?_
    split
    · exact follows_sendErrorResponse _ _
    · exact follows_answer _ _

theorem follows_handleGetWorkflowEdges (ht : t.connection = s.connection) :
    Follows t (Http.EdgesHandler.handleGetWorkflowEdges (site.backend a s) a.request)
      (EdgesHandler.handleGetWorkflowEdges site a) := by
  refine (tells_extractIdFromPath _).follows_bind fun workflowId _ => ?_
  split
  · exact follows_sendErrorResponse 400 _
  refine follows_service ht fun edges t' => ?_
  refine (tells_mapM tells_toWebJson edges).follows_bind fun items _ => ?_
  exact follows_answer _ _

theorem follows_items (handler : RouteHandler) (userId : Bytes) :
    Follows t (site.itemsHandler handler a.request userId)
      (Program.known (site.items handler a.request userId)) := by
  show Gives (site.itemsHandler handler a.request userId) (site.items handler a.request userId)
  unfold itemsHandler
  cases site.items handler a.request userId with
  | ok response => exact gives_answer _ _
  | error e => exact fun _ ht => ⟨rfl, ht⟩

/-- Only logging in and out look at the middleware, and they come without a token. -/
theorem follows_callHandler {handler : RouteHandler} (userId : Bytes)
    (ht : t.connection = s.connection)
    (hpublic : handler = .handleLogin ∨ handler = .handleLogout → t = s) :
    Follows t (Http.RestServer.callHandler (site.backend a s) a.request userId handler)
      (site.callHandler a userId handler) := by
  have hpure : ∀ {α : Type} (x : α), Tells (pure x : Handler α) (.ok x) := fun x => tells_pure x
  cases handler with
  | handleGetItems | handleCreateItem | handleGetItem | handleUpdateItem | handleDeleteItem =>
    exact follows_items _ userId
  | handleLogin =>
    obtain rfl := hpublic (.inl rfl)
    exact follows_handleLogin
  | handleLogout =>
    obtain rfl := hpublic (.inr rfl)
    exact follows_handleLogout
  | handleChangePassword => exact follows_handleChangePassword userId ht
  | handleCreateUser => exact follows_handleCreateUser ht
  | handleGetWorkflowEdges => exact follows_handleGetWorkflowEdges ht
  | health => exact Gives.ask (follows_answer _ _) fun _ => rfl
  | handleGetUsers | handleGetWorkflows =>
    dsimp only [callHandler, Http.RestServer.callHandler]
    exact follows_handleGetAll ht fun _ => hpure _
  | handleGetStates | handleGetProjects | handleGetPhases | handleGetItemTypes
  | handleGetFieldTypes =>
    dsimp only [callHandler, Http.RestServer.callHandler]
    exact follows_handleGetAll ht fun params => (tells_idParam _).bind_map fun id => hpure _
  | handleGetEdges =>
    dsimp only [callHandler, Http.RestServer.callHandler]
    exact follows_handleGetAll ht fun params => (tells_idParam _).bind_map fun beginStateId =>
      (tells_idParam _).bind_map fun endStateId => hpure _
  | handleGetUser | handleGetPhase | handleGetProject | handleGetFieldType | handleGetWorkflow
  | handleGetItemType | handleGetState | handleGetEdge =>
    dsimp only [callHandler, Http.RestServer.callHandler]
    exact follows_handleGet ht
  | handleCreatePhase | handleCreateProject | handleCreateFieldType | handleCreateWorkflow
  | handleCreateItemType | handleCreateState | handleCreateEdge =>
    dsimp only [callHandler, Http.RestServer.callHandler]
    exact follows_handleCreate ht
  | handleUpdateUser =>
    dsimp only [callHandler, Http.RestServer.callHandler]
    exact follows_handleUpdate ht fun _ => gives_answer _ _
  | handleUpdatePhase | handleUpdateProject | handleUpdateFieldType | handleUpdateWorkflow
  | handleUpdateItemType | handleUpdateState =>
    dsimp only [callHandler, Http.RestServer.callHandler]
    exact follows_handleUpdate ht gives_replyUpdated
  | handleDeleteUser | handleDeletePhase | handleDeleteProject | handleDeleteFieldType
  | handleDeleteItemType =>
    dsimp only [callHandler, Http.RestServer.callHandler]
    exact follows_handleDelete ht
  | handleDeleteWorkflow | handleDeleteState | handleDeleteEdge =>
    dsimp only [callHandler, Http.RestServer.callHandler]
    exact follows_handleDeleteResult ht

end

/-! ## The server -/

/-- The routes, with expressions that match as they should. -/
theorem tells_matchRoute (method path : Bytes) (routes : List RouteInfo) :
    Tells (Http.RestServer.matchRoute (site.backend a s) method path routes)
      (.ok ((RestServer.matchRoute routes method path).map Prod.fst)) := fun t =>
  ⟨Http.RestServer.exec_matchRoute (fun _ _ _ => rfl) method path routes t,
    Http.RestServer.silent_matchRoute method path routes t⟩

/-- With a header, the check is `validateRequest`. -/
theorem run_applyAuthMiddleware_header (m : AuthMiddleware) (header : Bytes) :
    (RestServer.applyAuthMiddleware site.jwt site.clock site.secretKey true (some header)).run m =
      match (AuthMiddleware.validateRequest site.jwt site.clock site.secretKey header).run m with
      | (none, m') => (.error (.reply 401 (bytes "Invalid or expired token")), m')
      | (some userId, m') => (.ok userId, m') := by
  show (match ((AuthMiddleware.validateRequest site.jwt site.clock site.secretKey header).run
      m).1 with
    | none => _ | some userId => _ : StateM AuthMiddleware (Except RestServer.Dispatch Bytes)).run
      ((AuthMiddleware.validateRequest site.jwt site.clock site.secretKey header).run m).2 = _
  rcases (AuthMiddleware.validateRequest site.jwt site.clock site.secretKey header).run m with
    ⟨_ | _, m'⟩ <;> rfl

/-- The token check refuses with the same words, or lets through with the same user id. -/
theorem gives_guarded {handler : RouteHandler}
    (h : ∀ userId t, t.connection = s.connection →
      Follows t (Http.RestServer.callHandler (site.backend a s) a.request userId handler)
        (site.callHandler a userId handler)) :
    Gives (Http.RestServer.applyAuthMiddleware (site.backend a s) a.request >>= fun userId =>
        userId.elim (pure ()) fun userId =>
          Http.RestServer.callHandler (site.backend a s) a.request userId handler)
      (match (RestServer.applyAuthMiddleware site.jwt site.clock site.secretKey site.hasMiddleware
            a.request.authorization).run s.auth with
        | (.error (.reply code message), _) => .ok (Bodies.sendErrorResponse code message)
        | (.error (.call handler userId), m) =>
            ((site.callHandler a userId handler).exec { s with auth := m }).1
        | (.ok userId, m) => ((site.callHandler a userId handler).exec { s with auth := m }).1) := by
  have hrefused : ∀ code message, Gives (Http.sendErrorResponse (site.backend a s) code message)
      (.ok (Bodies.sendErrorResponse code message)) := fun code message => gives_answer _ _
  have hcheck : (site.backend a s).authMiddleware = if site.hasMiddleware then some {
      validateRequest := fun header _ => .ok
        ((AuthMiddleware.validateRequest site.jwt site.clock site.secretKey header).run s.auth).1 }
    else none := rfl
  unfold Http.RestServer.applyAuthMiddleware
  cases hmiddleware : site.hasMiddleware with
  | false =>
    rw [hcheck, hmiddleware]
    exact refuses (hrefused 500 _) _
  | true =>
    rw [hcheck, hmiddleware, if_pos rfl]
    cases a.request.authorization with
    | none => exact refuses (hrefused 401 _) _
    | some header =>
      rw [run_applyAuthMiddleware_header]
      dsimp only
      rw [bind_assoc]
      have hask : ∀ n, (fun _ => Except.ok ((AuthMiddleware.validateRequest site.jwt site.clock
          site.secretKey header).run s.auth).1 : Outcome (Option Bytes)) n = _ := fun _ => rfl
      refine Gives.ask ?_ hask
      rcases (AuthMiddleware.validateRequest site.jwt site.clock site.secretKey header).run s.auth
        with ⟨_ | userId, m⟩
      · exact refuses (hrefused 401 _) _
      · exact h userId _ rfl

/-- Nobody has to be logged in to log in or out. -/
theorem public_session (set : ServicesSet) {route : RouteInfo}
    (hroute : route ∈ RestServer.registerRoutes set)
    (h : route.handler = .handleLogin ∨ route.handler = .handleLogout) : route.isPublic = true := by
  have hall : ∀ r ∈ RestServer.registerRoutes {},
      r.handler = .handleLogin ∨ r.handler = .handleLogout → r.isPublic = true := by
    decide +kernel
  exact hall route ((RestServer.registerRoutes_sublist set).subset hroute) h

/-- A request, from the path to the reply. -/
theorem follows_handleRequest :
    Follows s (Http.RestServer.handleRequest (site.backend a s) a.request
        (RestServer.registerRoutes site.set))
      (site.handleRequest a) := by
  have hfind : Tells (Http.RestServer.findRoute (site.backend a s) a.request
        (RestServer.registerRoutes site.set))
      ((site.library.decode a.request.path).map fun path =>
        (RestServer.matchRoute (RestServer.registerRoutes site.set) a.request.method path).map
          Prod.fst) := (tells_ask fun _ => rfl).bind fun path => tells_matchRoute _ path _
  refine hfind.follows_map fun path _ => ?_
  unfold Follows
  rw [exec_onMiddleware_bind, RestServer.run_handleRequest]
  cases hmatch : RestServer.matchRoute (RestServer.registerRoutes site.set) a.request.method path with
  | none => exact follows_sendErrorResponse 404 _
  | some found =>
    obtain ⟨route, id⟩ := found
    obtain ⟨hroute, -⟩ := RestServer.matchRoute_eq_some hmatch
    have hopen := public_session site.set hroute
    dsimp only [Option.map_some, Http.RestServer.dispatch]
    cases hpublic : route.isPublic with
    | true => exact follows_callHandler [] rfl fun _ => rfl
    | false =>
      have hcall : ∀ userId t, t.connection = s.connection →
          Follows t (Http.RestServer.callHandler (site.backend a s) a.request userId route.handler)
            (site.callHandler a userId route.handler) := by
        intro userId t ht
        apply follows_callHandler userId ht
        intro hsession
        rw [hopen hsession] at hpublic
        cases hpublic
      have hguarded := gives_guarded hcall
      generalize (RestServer.applyAuthMiddleware site.jwt site.clock site.secretKey
        site.hasMiddleware a.request.authorization).run s.auth = checked at hguarded ⊢
      obtain ⟨(⟨code, message⟩ | ⟨handler, userId⟩) | userId, m⟩ := checked
      · exact hguarded
      · exact hguarded
      · exact hguarded

/-- **The server answers as computed**: to every request, in every state, the handlers that ask give
one reply, and it is the one that the handlers at work return. -/
theorem replies_eq_response (site : Site) (a : Arrival) (s : Server) :
    Http.RestServer.replies (site.backend a s) a.request (RestServer.registerRoutes site.set) =
      [site.response s a] := by
  have hsupport : Follows s (Http.RestServer.support (site.backend a s) a.request
      (RestServer.registerRoutes site.set)) (site.support a) :=
    follows_handleRequest.tryCatch fun e => follows_sendErrorResponse 500 _
  obtain ⟨-, hanswers⟩ := hsupport {} rfl
  have hreturns : ∃ response, ((site.support a).exec s).1 = .ok response := by
    unfold support
    rw [Program.exec_tryCatch]
    rcases (site.handleRequest a).exec s with ⟨e | response, s'⟩
    · exact ⟨_, rfl⟩
    · exact ⟨response, rfl⟩
  obtain ⟨response, hresponse⟩ := hreturns
  unfold Http.RestServer.replies
  rw [hanswers]
  unfold Site.response
  rw [hresponse]
  rfl

end Site

end Farado
