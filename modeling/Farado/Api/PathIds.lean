import Farado.Api.Items
import Farado.Api.Unambiguous

/-!
# The ids in paths

The router captures the digits of a path and does not convert them: every handler matches the path
once more and converts what it finds. The two agree on what they find. But `(\d+)` takes any number
of digits and `std::stoll` does not, and only the handlers of items are ready for that.
-/

namespace Farado

/-! ## What is captured -/

theorem digits_mem_of_matchPath {parts : List PathPart} {path group : Bytes} {groups : List Bytes}
    (h : matchPath parts path = some (group :: groups)) : .digits ∈ parts := by
  induction parts generalizing path with
  | nil =>
    unfold matchPath at h
    split at h <;> cases h
  | cons part parts ih =>
    cases part with
    | digits => exact List.mem_cons_self
    | literal text =>
      unfold matchPath at h
      split at h
      · exact List.mem_cons_of_mem _ (ih h)
      · cases h

/-- A group is a string of digits, and there is one at least. -/
theorem digits_of_matchPath {parts : List PathPart} {path : Bytes} {groups : List Bytes}
    (h : matchPath parts path = some groups) :
    ∀ group ∈ groups, group ≠ [] ∧ group.all isDigit = true := by
  induction parts generalizing path groups with
  | nil =>
    unfold matchPath at h
    split at h
    · cases h
      intro group hgroup
      cases hgroup
    · cases h
  | cons part parts ih =>
    cases part with
    | literal text =>
      unfold matchPath at h
      split at h
      · exact ih h
      · cases h
    | digits =>
      unfold matchPath at h
      dsimp only at h
      split at h
      · cases h
      · next hempty =>
        obtain ⟨rest, hrest, rfl⟩ := Option.map_eq_some_iff.mp h
        intro group hgroup
        rcases List.mem_cons.mp hgroup with rfl | hgroup
        · exact ⟨by simpa using hempty, List.all_takeWhile⟩
        · exact ih hrest group hgroup

namespace RestServer

theorem matchRoute_captured {routes : List RouteInfo} {method path digits : Bytes}
    {route : RouteInfo} (h : matchRoute routes method path = some (route, some digits)) :
    route ∈ routes ∧ ∃ groups, matchPath route.pathPattern path = some (digits :: groups) := by
  obtain ⟨found, hfound, h⟩ := List.exists_of_findSome?_eq_some h
  split at h
  · obtain ⟨groups, hgroups, h⟩ := Option.map_eq_some_iff.mp h
    obtain ⟨rfl, hhead⟩ : found = route ∧ groups.head? = some digits := by simpa using h
    cases groups with
    | nil => cases hhead
    | cons group groups =>
      cases hhead
      exact ⟨hfound, groups, hgroups⟩
  · cases h

end RestServer

namespace Http

open Answering Handling
open Farado.RestServer (member)

/-- The number that decimal digits denote. -/
def numberOf (digits : Bytes) : Nat := digits.foldl (fun n b => 10 * n + (b.toNat - 0x30)) 0

/-- What the expressions and `std::stoll` are documented to do with the paths of the routes. -/
structure Library.Standard (library : Library) (outOfRange : StdException) : Prop where
  regexMatch : ∀ pattern path n, library.regexMatch pattern path n = .ok (matchPath pattern path)
  stoll : ∀ digits n, digits ≠ [] → digits.all isDigit = true →
    library.stoll digits n =
      if numberOf digits < 2 ^ 63 then .ok (numberOf digits) else .error outOfRange

/-! ## Handlers with an id -/

/-- A handler that begins with the id in the path; `work` is what it does with the id. -/
structure IdHandler where
  pattern : List PathPart
  invalidId : Bytes
  /-- Whether a number that is too large counts as no id. -/
  catches : Bool := false
  work : Int → Handler Unit

section
variable (B : Backend) (request : HttpRequest)

def IdHandler.convert (h : IdHandler) (group : Bytes) : Handler Int :=
  match h.catches with
  | true => tryCatch (ask (B.library.stoll group)) fun _ => pure (-1)
  | false => ask (B.library.stoll group)

def IdHandler.extract (h : IdHandler) : Handler Int := do
  let path ← ask (B.library.decode request.path)
  match ← ask (B.library.regexMatch h.pattern path) with
  | some (group :: _) => h.convert B group
  | _ => pure (-1)

def IdHandler.handle (h : IdHandler) : Handler Unit := do
  let id ← h.extract B request
  if id ≤ 0 then sendErrorResponse B 400 h.invalidId else h.work id

/-! ### The work -/

def workGet {Dto : Type} (dto : Codec Dto) (find : Int → Outcome (Option Dto)) (notFound : Bytes)
    (id : Int) : Handler Unit := do
  match ← ask (find id) with
  | none => sendErrorResponse B 404 notFound
  | some found => do
      let json ← toWebJson B dto found
      reply B statusOk (some json)

def workUpdate {Dto : Type} (dto : Codec Dto) (update : Dto → Outcome (Option Dto))
    (failed : Bytes) (replyWith : Dto → Handler Unit) (id : Int) : Handler Unit :=
  extractJsonThen B request fun task =>
    tryCatch
      (do
        let jsonBody ← get task
        let json ← ask (B.library.toNlohmannJson jsonBody)
        let json ← ask (B.library.setId json id)
        let x ← ask (dto.fromJson json)
        match ← ask (update x) with
        | none => sendErrorResponse B 404 failed
        | some updated => replyWith updated)
      (invalidRequest B)

def workDelete (delete : Int → Outcome Bool) (notFound : Bytes) (id : Int) : Handler Unit := do
  if ← ask (delete id) then reply B statusNoContent none
  else sendErrorResponse B 404 notFound

def workDeleteResult (delete : Int → Outcome ServiceResult) (id : Int) : Handler Unit := do
  let result ← ask (delete id)
  if !result.success then sendErrorResponse B result.errorCode result.errorMessage
  else reply B statusNoContent none

def workWorkflowEdges (workflowId : Int) : Handler Unit := do
  let edges ← ask (B.edgeService.getWorkflowEdges workflowId)
  let items ← edges.mapM (toWebJson B B.edgeDto)
  reply B statusOk (some (.object
    [(bytes "items", .array items), (bytes "totalCount", .number edges.length)]))

def workUpdateItem (itemId : Int) : Handler Unit :=
  tryCatch
    (extractJsonThen B request fun task => do
      match ← attempt (get task) with
      | .error e => sendErrorResponse B 400 (bytes "Invalid JSON: " ++ e.what)
      | .ok jsonBody => reply B statusOk (some (ItemsHandler.updatedItem itemId jsonBody)))
    (invalidRequest B)

/-! ### The table -/

/-- The handlers of the routes with an id. -/
def idHandler : RouteHandler → Option IdHandler
  | .handleGetItem => some {
      pattern := member "/api/items"
      invalidId := ItemsHandler.invalidId
      catches := true
      work := fun id => reply B statusOk (some (ItemsHandler.sampleItem id)) }
  | .handleUpdateItem => some {
      pattern := member "/api/items"
      invalidId := ItemsHandler.invalidId
      catches := true
      work := workUpdateItem B request }
  | .handleDeleteItem => some {
      pattern := member "/api/items"
      invalidId := ItemsHandler.invalidId
      catches := true
      work := fun _ => reply B statusNoContent none }
  | .handleGetUser => some {
      pattern := member "/api/users"
      invalidId := UsersHandler.invalidId
      work := workGet B B.userDto B.userService.user (bytes "User not found") }
  | .handleUpdateUser => some {
      pattern := member "/api/users"
      invalidId := UsersHandler.invalidId
      work := workUpdate B request B.userDto B.userService.updateUser
        (bytes "User not found or update failed") fun _ => reply B statusNoContent none }
  | .handleDeleteUser => some {
      pattern := member "/api/users"
      invalidId := UsersHandler.invalidId
      work := workDelete B B.userService.deleteUser (bytes "User not found") }
  | .handleGetPhase => some {
      pattern := member "/api/phases"
      invalidId := PhasesHandler.invalidId
      work := workGet B B.phaseDto B.phaseService.phase (bytes "Phase not found") }
  | .handleUpdatePhase => some {
      pattern := member "/api/phases"
      invalidId := PhasesHandler.invalidId
      work := workUpdate B request B.phaseDto B.phaseService.updatePhase
        (bytes "Phase not found or update failed") (replyUpdated B B.phaseDto) }
  | .handleDeletePhase => some {
      pattern := member "/api/phases"
      invalidId := PhasesHandler.invalidId
      work := workDelete B B.phaseService.archivePhase (bytes "Phase not found") }
  | .handleGetProject => some {
      pattern := member "/api/projects"
      invalidId := ProjectsHandler.invalidId
      work := workGet B B.projectDto B.projectService.project (bytes "Project not found") }
  | .handleUpdateProject => some {
      pattern := member "/api/projects"
      invalidId := ProjectsHandler.invalidId
      work := workUpdate B request B.projectDto B.projectService.updateProject
        (bytes "Project not found or update failed") (replyUpdated B B.projectDto) }
  | .handleDeleteProject => some {
      pattern := member "/api/projects"
      invalidId := ProjectsHandler.invalidId
      work := workDelete B B.projectService.archiveProject (bytes "Project not found") }
  | .handleGetFieldType => some {
      pattern := member "/api/field-types"
      invalidId := FieldTypesHandler.invalidId
      work := workGet B B.fieldTypeDto B.fieldTypeService.fieldType
        (bytes "Field type not found") }
  | .handleUpdateFieldType => some {
      pattern := member "/api/field-types"
      invalidId := FieldTypesHandler.invalidId
      work := workUpdate B request B.fieldTypeDto B.fieldTypeService.updateFieldType
        (bytes "Field type not found or update failed") (replyUpdated B B.fieldTypeDto) }
  | .handleDeleteFieldType => some {
      pattern := member "/api/field-types"
      invalidId := FieldTypesHandler.invalidId
      work := workDelete B B.fieldTypeService.deleteFieldType (bytes "Field type not found") }
  | .handleGetWorkflow => some {
      pattern := member "/api/workflows"
      invalidId := WorkflowsHandler.invalidId
      work := workGet B B.workflowDto B.workflowService.workflow (bytes "Workflow not found") }
  | .handleUpdateWorkflow => some {
      pattern := member "/api/workflows"
      invalidId := WorkflowsHandler.invalidId
      work := workUpdate B request B.workflowDto B.workflowService.updateWorkflow
        (bytes "Workflow not found or update failed") (replyUpdated B B.workflowDto) }
  | .handleDeleteWorkflow => some {
      pattern := member "/api/workflows"
      invalidId := WorkflowsHandler.invalidId
      work := workDeleteResult B B.workflowService.deleteWorkflow }
  | .handleGetItemType => some {
      pattern := member "/api/item-types"
      invalidId := ItemTypesHandler.invalidId
      work := workGet B B.itemTypeDto B.itemTypeService.itemType (bytes "Item type not found") }
  | .handleUpdateItemType => some {
      pattern := member "/api/item-types"
      invalidId := ItemTypesHandler.invalidId
      work := workUpdate B request B.itemTypeDto B.itemTypeService.updateItemType
        (bytes "Item type not found or update failed") (replyUpdated B B.itemTypeDto) }
  | .handleDeleteItemType => some {
      pattern := member "/api/item-types"
      invalidId := ItemTypesHandler.invalidId
      work := workDelete B B.itemTypeService.deleteItemType (bytes "Item type not found") }
  | .handleGetState => some {
      pattern := member "/api/states"
      invalidId := StatesHandler.invalidId
      work := workGet B B.stateDto B.stateService.state (bytes "State not found") }
  | .handleUpdateState => some {
      pattern := member "/api/states"
      invalidId := StatesHandler.invalidId
      work := workUpdate B request B.stateDto B.stateService.updateState
        (bytes "State not found or update failed") (replyUpdated B B.stateDto) }
  | .handleDeleteState => some {
      pattern := member "/api/states"
      invalidId := StatesHandler.invalidId
      work := workDeleteResult B B.stateService.deleteState }
  | .handleGetEdge => some {
      pattern := member "/api/edges"
      invalidId := EdgesHandler.invalidId
      work := workGet B B.edgeDto B.edgeService.edge (bytes "Edge not found") }
  | .handleDeleteEdge => some {
      pattern := member "/api/edges"
      invalidId := EdgesHandler.invalidId
      work := workDeleteResult B B.edgeService.deleteEdge }
  | .handleGetWorkflowEdges => some {
      pattern := member "/api/workflows" ++ [.literal (bytes "/edges")]
      invalidId := WorkflowsHandler.invalidId
      work := workWorkflowEdges B }
  | _ => none

end

section
variable {B : Backend} {request : HttpRequest}

/-- What the routes were registered with begins with the id. -/
theorem callHandler_eq_handle {handler : RouteHandler} {h : IdHandler} (userId : Bytes)
    (hh : idHandler B request handler = some h) :
    RestServer.callHandler B.withItems request userId handler = h.handle B request := by
  cases handler <;> cases hh <;> rfl

theorem idHandler_catches {handler : RouteHandler} {h : IdHandler}
    (hh : idHandler B request handler = some h) : h.catches = RestServer.isItem handler := by
  cases handler <;> cases hh <;> rfl

/-- On a route with an id, the handler looks for it with the expression of the route. -/
theorem idHandler_of_registered {set : ServicesSet} {route : RouteInfo}
    (hroute : route ∈ RestServer.registerRoutes set) (hdigits : .digits ∈ route.pathPattern) :
    ∃ h, idHandler B request route.handler = some h ∧ h.pattern = route.pathPattern := by
  have hall : ∀ r ∈ RestServer.registerRoutes {}, .digits ∈ r.pathPattern →
      (idHandler B request r.handler).map IdHandler.pattern = some r.pathPattern := by
    simp only [RestServer.registerRoutes, RestServer.authRoutes, RestServer.crudRoutes,
      RestServer.edgeRoutes, if_true, List.cons_append, List.nil_append, List.forall_mem_cons]
    simp [RestServer.collection, idHandler]
  have hmem := (RestServer.registerRoutes_sublist set).subset hroute
  exact Option.map_eq_some_iff.mp (hall route hmem hdigits)

/-! ## Extraction -/

section
variable {path digits : Bytes} {groups : List Bytes} {outOfRange : StdException} {h : IdHandler}

/-- The handler finds what the router has captured. -/
theorem exec_extract (hlib : B.library.Standard outOfRange)
    (hdecode : ∀ n, B.library.decode request.path n = .ok path)
    (hmatch : matchPath h.pattern path = some (digits :: groups)) (s : Exchange HttpResponse) :
    (h.extract B request).exec s =
      (if numberOf digits < 2 ^ 63 then .ok (numberOf digits)
        else if h.catches then .ok (-1) else .error outOfRange,
      { s with asked := s.asked + 3 }) := by
  obtain ⟨hne, hdigits⟩ := digits_of_matchPath hmatch digits List.mem_cons_self
  have hstoll := fun n => hlib.stoll digits n hne hdigits
  unfold IdHandler.extract
  rw [exec_ask_bind, hdecode]
  dsimp only
  rw [exec_ask_bind, hlib.regexMatch, hmatch]
  dsimp only
  have hask : ∀ s : Exchange HttpResponse, (ask (B.library.stoll digits) : Handler Int).exec s =
      (B.library.stoll digits s.asked, { s with asked := s.asked + 1 }) := fun _ => rfl
  unfold IdHandler.convert
  by_cases hsmall : numberOf digits < 2 ^ 63
  · rw [if_pos hsmall]
    cases h.catches with
    | false => simp only [hask, hstoll, if_pos hsmall]
    | true =>
      dsimp only
      rw [exec_tryCatch, hask, hstoll, if_pos hsmall]
  · rw [if_neg hsmall]
    cases h.catches with
    | false =>
      simp only [hask, hstoll, if_neg hsmall]
      rfl
    | true =>
      dsimp only
      rw [exec_tryCatch, hask, hstoll, if_neg hsmall]
      rfl

/-! ## What becomes of an id -/

theorem exec_handle_work (hlib : B.library.Standard outOfRange)
    (hdecode : ∀ n, B.library.decode request.path n = .ok path)
    (hmatch : matchPath h.pattern path = some (digits :: groups)) (hpos : 1 ≤ numberOf digits)
    (hsmall : numberOf digits < 2 ^ 63) (s : Exchange HttpResponse) :
    (h.handle B request).exec s =
      (h.work (numberOf digits)).exec { s with asked := s.asked + 3 } := by
  have hid : ¬ (numberOf digits : Int) ≤ 0 := by omega
  unfold IdHandler.handle
  rw [exec_bind, exec_extract hlib hdecode hmatch, if_pos hsmall]
  dsimp only
  rw [if_neg hid]

/-- A reply with the status 400, and no exception. -/
def Refuses (p : Handler Unit) : Prop :=
  ∃ response, response.statusCode = 400 ∧ Gives p (.ok response)

theorem refuses_handle (hlib : B.library.Standard outOfRange)
    (hdecode : ∀ n, B.library.decode request.path n = .ok path)
    (hmatch : matchPath h.pattern path = some (digits :: groups))
    (hbad : numberOf digits = 0 ∨ 2 ^ 63 ≤ numberOf digits ∧ h.catches = true) :
    Refuses (h.handle B request) := by
  refine ⟨{ statusCode := 400, body := some (.object
    [(bytes "code", .number 400), (bytes "message", .string h.invalidId)]) }, rfl, ?_⟩
  intro s hs
  have hid : ∃ id : Int, id ≤ 0 ∧
      (h.extract B request).exec s = (.ok id, { s with asked := s.asked + 3 }) := by
    rw [exec_extract hlib hdecode hmatch]
    rcases hbad with hzero | ⟨hlarge, hcatches⟩
    · exact ⟨0, Int.le_refl 0, by simp [hzero]⟩
    · refine ⟨-1, by decide, ?_⟩
      rw [if_neg (by omega), if_pos hcatches]
  obtain ⟨id, hle, hextract⟩ := hid
  unfold IdHandler.handle
  rw [exec_bind, hextract]
  dsimp only
  rw [if_pos hle]
  exact gives_answer _ _ { s with asked := s.asked + 3 } hs

/-- An exception that is on its way to the handler of last resort. -/
theorem not_refuses_handle (hlib : B.library.Standard outOfRange)
    (hdecode : ∀ n, B.library.decode request.path n = .ok path)
    (hmatch : matchPath h.pattern path = some (digits :: groups))
    (hlarge : 2 ^ 63 ≤ numberOf digits) (hcatches : h.catches = false) :
    ¬ Refuses (h.handle B request) := by
  rintro ⟨response, -, hgives⟩
  have hresult := (hgives {} rfl).1
  unfold IdHandler.handle at hresult
  rw [exec_bind, exec_extract hlib hdecode hmatch, if_neg (by omega), hcatches] at hresult
  cases hresult

end

/-- The digits that the router has captured, as the handler takes them: the number if that is an id
of 64 bits, and otherwise a reason to refuse the request. -/
structure TakesId (B : Backend) (request : HttpRequest) (userId : Bytes) (handler : RouteHandler)
    (digits : Bytes) : Prop where
  works : 1 ≤ numberOf digits → numberOf digits < 2 ^ 63 →
    ∃ h, idHandler B request handler = some h ∧
      ∀ s, (RestServer.callHandler B.withItems request userId handler).exec s =
        (h.work (numberOf digits)).exec { s with asked := s.asked + 3 }
  refuses : numberOf digits = 0 ∨ 2 ^ 63 ≤ numberOf digits →
    Refuses (RestServer.callHandler B.withItems request userId handler)

section
variable {outOfRange : StdException} {path digits userId : Bytes} {set : ServicesSet}
  {route : RouteInfo}

/-- The handler that the router has chosen. -/
theorem idHandler_of_matchRoute
    (hroute : Farado.RestServer.matchRoute (Farado.RestServer.registerRoutes set) request.method
      path = some (route, some digits)) :
    ∃ h groups, idHandler B request route.handler = some h ∧
      matchPath h.pattern path = some (digits :: groups) := by
  obtain ⟨hmem, groups, hgroups⟩ := RestServer.matchRoute_captured hroute
  obtain ⟨h, hh, hpattern⟩ := idHandler_of_registered hmem (digits_mem_of_matchPath hgroups)
  exact ⟨h, groups, hh, hpattern ▸ hgroups⟩

theorem not_takesId_of_large (hlib : B.library.Standard outOfRange)
    (hdecode : ∀ n, B.library.decode request.path n = .ok path)
    (hroute : Farado.RestServer.matchRoute (Farado.RestServer.registerRoutes set) request.method
      path = some (route, some digits))
    (hlarge : 2 ^ 63 ≤ numberOf digits) (hitem : RestServer.isItem route.handler = false) :
    ¬ TakesId B request userId route.handler digits := by
  obtain ⟨h, groups, hh, hgroups⟩ := idHandler_of_matchRoute (B := B) hroute
  intro htakes
  have hrefuses := htakes.refuses (.inr hlarge)
  rw [callHandler_eq_handle userId hh] at hrefuses
  exact not_refuses_handle hlib hdecode hgroups hlarge ((idHandler_catches hh).trans hitem) hrefuses

/-- **An id in a path is taken well exactly when it fits into 64 bits or is that of an item.** -/
theorem takesId_iff (hlib : B.library.Standard outOfRange)
    (hdecode : ∀ n, B.library.decode request.path n = .ok path)
    (hroute : Farado.RestServer.matchRoute (Farado.RestServer.registerRoutes set) request.method
      path = some (route, some digits)) :
    TakesId B request userId route.handler digits ↔
      numberOf digits < 2 ^ 63 ∨ RestServer.isItem route.handler = true := by
  constructor
  · intro htakes
    by_contra hnot
    rw [not_or, Bool.not_eq_true, Nat.not_lt] at hnot
    exact not_takesId_of_large hlib hdecode hroute hnot.1 hnot.2 htakes
  · intro hok
    obtain ⟨h, groups, hh, hgroups⟩ := idHandler_of_matchRoute (B := B) hroute
    have hcall := callHandler_eq_handle userId hh
    refine ⟨fun hpos hsmall => ⟨h, hh, fun s => ?_⟩, fun hbad => ?_⟩
    · rw [hcall]
      exact exec_handle_work hlib hdecode hgroups hpos hsmall s
    · rw [hcall]
      apply refuses_handle hlib hdecode hgroups
      rcases hbad with hzero | hlarge
      · exact .inl hzero
      · rcases hok with hsmall | hitem
        · omega
        · exact .inr ⟨hlarge, (idHandler_catches hh).trans hitem⟩

end

/-- The router and the conversions work; every service throws. -/
def convertingBackend : Backend :=
  { sampleBackend with
    library := { sampleBackend.library with
      stoll := fun text _ =>
        if text ≠ [] ∧ text.all isDigit = true then
          if numberOf text < 2 ^ 63 then .ok (numberOf text)
          else .error { what := bytes "stoll" }
        else .error { what := bytes "stoll" } } }

theorem standard_convertingBackend :
    convertingBackend.library.Standard { what := bytes "stoll" } where
  regexMatch _ _ _ := rfl
  stoll _ _ hne hdigits := if_pos ⟨hne, hdigits⟩

def userRequest (id : String) : HttpRequest :=
  { sampleRequest with path := bytes ("/api/users/" ++ id) }

def userRoute : RouteInfo where
  method := RestServer.methodGet
  pathPattern := member "/api/users"
  handler := .handleGetUser

theorem takesId_iff_user :
    TakesId convertingBackend (userRequest "0042") (bytes "1") .handleGetUser (bytes "0042") ↔
      numberOf (bytes "0042") < 2 ^ 63 ∨ RestServer.isItem .handleGetUser = true :=
  takesId_iff standard_convertingBackend (fun _ => rfl)
    (show Farado.RestServer.matchRoute (Farado.RestServer.registerRoutes {}) _ _ =
      some (userRoute, some (bytes "0042")) by decide +kernel)

/-- The user 2 ^ 63. -/
theorem not_takesId :
    ¬ ∀ (request : HttpRequest) (userId digits : Bytes) (route : RouteInfo),
      Farado.RestServer.matchRoute (Farado.RestServer.registerRoutes {}) request.method
        request.path = some (route, some digits) →
      TakesId convertingBackend request userId route.handler digits := by
  intro hall
  have hroute : Farado.RestServer.matchRoute (Farado.RestServer.registerRoutes {})
      (userRequest "9223372036854775808").method (userRequest "9223372036854775808").path =
        some (userRoute, some (bytes "9223372036854775808")) := by decide +kernel
  have hlarge : 2 ^ 63 ≤ numberOf (bytes "9223372036854775808") := by decide +kernel
  exact not_takesId_of_large standard_convertingBackend (fun _ => rfl) hroute hlarge rfl
    (hall _ (bytes "1") _ _ hroute)

end

end Http

end Farado
