import Farado.Repositories.Workflow

/-!
# The services of the workflow graph

`WorkflowService`, `StateService` and `EdgeService`: validation and guards over the repositories.
-/

namespace Farado

open Relational Steps

/-- `WorkflowResult`, `StateResult` and `EdgeResult` have the same three fields. -/
structure ServiceResult where
  success : Bool := false
  errorCode : Int := 0
  errorMessage : Bytes := []
  deriving DecidableEq, Repr

/-- The end of every `createX`: insert, and answer with the row read back. -/
def createAndFind {Dto : Type} (create : Db Int) (findById : Int → Db (Option Dto)) :
    Db (Option Dto) := do
  let newId ← create
  -- 0 is what `create` answers where a required field is missing
  if newId ≤ 0 then pure none else findById newId

/-- The end of every `updateX`. -/
def updateAndFind {Dto : Type} (update : Db Bool) (find : Db (Option Dto)) : Db (Option Dto) := do
  if !(← update) then pure none else find

/-- `if (page < 1) page = 1; if (pageSize < 1) pageSize = 20;` -/
def normalizedPage (page pageSize : Int) : Int × Int :=
  (if page < 1 then 1 else page, if pageSize < 1 then 20 else pageSize)

/-- A text check of a validation: missing or empty, then too long (in bytes). -/
def validateCaption (caption : Option Bytes) (required tooLong : Bytes) : Except Bytes Bytes :=
  match caption with
  | none => .error required
  | some c =>
      if c.isEmpty then .error required
      else if 255 < c.length then .error tooLong
      else .ok c

/-- The length check on an optional description. -/
def validateDescription (description : Option Bytes) (tooLong : Bytes) : Except Bytes Unit :=
  if description.any fun d => decide (1000 < d.length) then .error tooLong else .ok ()

namespace WorkflowService

def workflows (env : Environment) (page pageSize : Int) : Db (List Dto.Workflow × Int) :=
  let (page, pageSize) := normalizedPage page pageSize
  SqliteWorkflowRepository.findAll env page pageSize

def workflow (id : Int) : Db (Option Dto.Workflow) := SqliteWorkflowRepository.findById id

/-- The caption of a valid workflow, or the error message. -/
def validateWorkflow (workflow : Dto.Workflow) : Except Bytes Bytes := do
  let caption ← validateCaption workflow.caption
    (bytes "Название рабочего процесса обязательно для заполнения")
    (bytes "Название рабочего процесса не может превышать 255 символов")
  validateDescription workflow.description
    (bytes "Описание рабочего процесса не может превышать 1000 символов")
  return caption

def createWorkflow (workflow : Dto.Workflow) : Db (Option Dto.Workflow) :=
  match validateWorkflow workflow with
  | .error _ => pure none
  | .ok caption => do
      if ← SqliteWorkflowRepository.existsByCaption caption then pure none
      else
        createAndFind (SqliteWorkflowRepository.create workflow) SqliteWorkflowRepository.findById

/-- The caption is looked up only where it differs from the one the row has. -/
def captionTaken (workflow existing : Dto.Workflow) : Db Bool :=
  match workflow.caption with
  | none => pure false
  | some caption =>
      if caption == existing.caption.getD [] then pure false
      else SqliteWorkflowRepository.existsByCaption caption

def updateWorkflow (workflow : Dto.Workflow) : Db (Option Dto.Workflow) :=
  match workflow.id with
  | none => pure none
  | some id => do
      match ← SqliteWorkflowRepository.findById id with
      | none => pure none
      | some existing =>
          if ← captionTaken workflow existing then pure none
          else
            updateAndFind (SqliteWorkflowRepository.update workflow)
              (SqliteWorkflowRepository.findById id)

/-- The loop of `canDeleteWorkflow`: is one of the states used by an item? -/
def anyUsedByItems : List Dto.State → Db Bool
  | [] => pure false
  | state :: states => do
      if ← SqliteStateRepository.isUsedByItems (state.id.getD 0) then pure true
      else anyUsedByItems states

def canDeleteWorkflow (env : Environment) (id : Int) : Db Bool := do
  let states ← SqliteStateRepository.findByWorkflowId env id
  -- the item types of the workflow, and their items, are not asked about
  return !(← anyUsedByItems states)

def deleteWorkflow (env : Environment) (id : Int) : Db ServiceResult := do
  match ← SqliteWorkflowRepository.findById id with
  | none => pure { errorMessage := bytes "Рабочий процесс не найден", errorCode := 404 }
  | some _ =>
      if !(← canDeleteWorkflow env id) then
        pure {
          errorMessage := bytes
            "Невозможно удалить рабочий процесс: имеются связанные состояния или элементы",
          errorCode := 409 }
      else if !(← SqliteWorkflowRepository.remove id) then
        pure { errorMessage := bytes "Не удалось удалить рабочий процесс", errorCode := 500 }
      else pure { success := true }

end WorkflowService

namespace StateService

def states (env : Environment) (page pageSize : Int) (workflowId : Option Int) :
    Db (List Dto.State × Int) :=
  let (page, pageSize) := normalizedPage page pageSize
  SqliteStateRepository.findAll env page pageSize workflowId

def state (id : Int) : Db (Option Dto.State) := SqliteStateRepository.findById id

/-- The workflow of a valid state, or the error message. -/
def validateState (state : Dto.State) : Except Bytes Int := do
  let workflowId ← match state.workflowId with
    | some workflowId => .ok workflowId
    | none => .error (bytes "Идентификатор рабочего процесса обязателен")
  let _ ← validateCaption state.caption
    (bytes "Название состояния обязательно для заполнения")
    (bytes "Название состояния не может превышать 255 символов")
  validateDescription state.description
    (bytes "Описание состояния не может превышать 1000 символов")
  if state.weight.any fun w => decide (w < 0) || decide (100 < w) then
    .error (bytes "Вес состояния должен быть в диапазоне от 0 до 100")
  else return workflowId

def createState (state : Dto.State) : Db (Option Dto.State) :=
  match validateState state with
  | .error _ => pure none
  | .ok workflowId => do
      match ← SqliteWorkflowRepository.findById workflowId with
      | none => pure none
      | some _ =>
          createAndFind (SqliteStateRepository.create state) SqliteStateRepository.findById

/-- A state that items use must not be archived. -/
def archivesUsedState (state : Dto.State) (id : Int) : Db Bool :=
  if state.isArchive.getD false then SqliteStateRepository.isUsedByItems id else pure false

def updateState (state : Dto.State) : Db (Option Dto.State) :=
  match state.id with
  | none => pure none
  | some id => do
      match ← SqliteStateRepository.findById id with
      | none => pure none
      | some _ =>
          if ← archivesUsedState state id then pure none
          else
            updateAndFind (SqliteStateRepository.update state) (SqliteStateRepository.findById id)

def canDeleteState (env : Environment) (id : Int) : Db Bool := do
  if ← SqliteStateRepository.isUsedByItems id then pure false
  else
    let edges ← SqliteEdgeRepository.findByStateId env id
    pure edges.isEmpty

def deleteState (env : Environment) (id : Int) : Db ServiceResult := do
  match ← SqliteStateRepository.findById id with
  | none => pure { errorMessage := bytes "Состояние не найдено", errorCode := 404 }
  | some _ =>
      if !(← canDeleteState env id) then
        pure {
          errorMessage := bytes
            "Невозможно удалить состояние: имеются связанные элементы или переходы",
          errorCode := 409 }
      else if !(← SqliteStateRepository.remove id) then
        pure { errorMessage := bytes "Не удалось удалить состояние", errorCode := 500 }
      else pure { success := true }

def getWorkflowStates (env : Environment) (workflowId : Int) : Db (List Dto.State) :=
  SqliteStateRepository.findByWorkflowId env workflowId

end StateService

namespace EdgeService

def edges (env : Environment) (page pageSize : Int) (beginStateId endStateId : Option Int) :
    Db (List Dto.Edge × Int) :=
  let (page, pageSize) := normalizedPage page pageSize
  SqliteEdgeRepository.findAll env page pageSize beginStateId endStateId

def edge (id : Int) : Db (Option Dto.Edge) := SqliteEdgeRepository.findById id

/-- The checks on the two states once both are found. -/
def checkStates (beginState endState : Dto.State) : ServiceResult :=
  if beginState.workflowId != endState.workflowId then
    { errorMessage := bytes "Состояния должны принадлежать одному рабочему процессу",
      errorCode := 400 }
  else if beginState.isArchive.getD false then
    { errorMessage := bytes "Нельзя создать переход из архивированного состояния", errorCode := 400 }
  else if endState.isArchive.getD false then
    { errorMessage := bytes "Нельзя создать переход в архивированное состояние", errorCode := 400 }
  else { success := true }

def validateEdge (beginStateId endStateId : Int) : Db ServiceResult := do
  match ← SqliteStateRepository.findById beginStateId with
  | none => pure { errorMessage := bytes "Начальное состояние не найдено", errorCode := 404 }
  | some beginState =>
      match ← SqliteStateRepository.findById endStateId with
      | none => pure { errorMessage := bytes "Конечное состояние не найдено", errorCode := 404 }
      | some endState => pure (checkStates beginState endState)

def createEdge (edge : Dto.Edge) : Db (Option Dto.Edge) :=
  match edge.beginStateId, edge.endStateId with
  | some beginStateId, some endStateId => do
      let validationResult ← validateEdge beginStateId endStateId
      if !validationResult.success then pure none
      else if ← SqliteEdgeRepository.exists beginStateId endStateId then pure none
      else createAndFind (SqliteEdgeRepository.create edge) SqliteEdgeRepository.findById
  | _, _ => pure none

def deleteEdge (id : Int) : Db ServiceResult := do
  match ← SqliteEdgeRepository.findById id with
  | none => pure { errorMessage := bytes "Переход не найден", errorCode := 404 }
  | some _ =>
      if !(← SqliteEdgeRepository.remove id) then
        pure { errorMessage := bytes "Не удалось удалить переход", errorCode := 500 }
      else pure { success := true }

def getWorkflowEdges (env : Environment) (workflowId : Int) : Db (List Dto.Edge) :=
  SqliteEdgeRepository.findByWorkflowId env workflowId

end EdgeService

end Farado
