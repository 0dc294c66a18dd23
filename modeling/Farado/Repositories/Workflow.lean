import Farado.Repositories.Basic
import Farado.Storage.Dto

/-!
# Workflows, their states and the edges between them

`SqliteWorkflowRepository`, `SqliteStateRepository` and `SqliteEdgeRepository`.
-/

namespace Farado

open Relational Steps

namespace SqliteWorkflowRepository

def mapRowToWorkflow (row : Row .workflow) : Except Error Dto.Workflow := do
  let id ← valueInt64 (.integer row.id)
  let caption ← valueString (.text row.cols.caption)
  let description ← unlessNull valueString (.orNull .text row.cols.description)
  return { id := some id, caption := some caption, description }

def findAll (env : Environment) (page pageSize : Int) : Db (List Dto.Workflow × Int) :=
  findAllIn env .workflow (fun _ => true) byId false mapRowToWorkflow page pageSize

def findById (id : Int) : Db (Option Dto.Workflow) := findByIdIn .workflow mapRowToWorkflow id

/-- The values `create` binds; none when the caption is missing or empty. -/
def values (workflow : Dto.Workflow) : Option WorkflowRow := do
  let caption ← workflow.caption
  guard !caption.isEmpty
  return { caption := bindString caption, description := workflow.description.map bindString }

def create (workflow : Dto.Workflow) : Db Int := createIn .workflow (values workflow)

def setClauses (workflow : Dto.Workflow) : List (WorkflowRow → WorkflowRow) :=
  setIfPresent workflow.caption (fun v c => { c with caption := bindString v }) ++
    setIfPresent workflow.description (fun v c => { c with description := some (bindString v) })

def update (workflow : Dto.Workflow) : Db Bool :=
  updateIn .workflow workflow.id (setClauses workflow)

def remove (id : Int) : Db Bool := removeIn .workflow id

/-- An empty caption is never looked up. -/
def existsByCaption (caption : Bytes) : Db Bool :=
  if caption.isEmpty then pure false
  else anyIn .workflow fun row => row.cols.caption == bindString caption

end SqliteWorkflowRepository

namespace SqliteStateRepository

def mapRowToState (row : Row .state) : Except Error Dto.State := do
  let id ← valueInt64 (.integer row.id)
  let workflowId ← valueInt64 (.integer row.cols.workflowId)
  let caption ← valueString (.text row.cols.caption)
  let description ← unlessNull valueString (.orNull .text row.cols.description)
  -- unlike the description, these two are read without a look for NULL
  let weight ← valueInt64 (.orNull .integer row.cols.weight)
  let orderNumber ← valueInt64 (.orNull .integer row.cols.orderNumber)
  let isArchive ← valueInt64 (.integer row.cols.isArchive)
  let isQueue ← valueInt64 (.integer row.cols.isQueue)
  return {
    id := some id, workflowId := some workflowId, caption := some caption, description,
    weight := some weight, orderNumber := some orderNumber,
    isArchive := some (isArchive != 0), isQueue := some (isQueue != 0) }

/-- `WHERE workflowId = :workflowId`, when it is given. -/
def filter (workflowId : Option Int) (row : Row .state) : Bool :=
  workflowId.all fun w => row.cols.workflowId == w

/-- `ORDER BY workflowId, orderNumber` -/
def byWorkflow (a b : Row .state) : Bool :=
  decide (a.cols.workflowId < b.cols.workflowId) ||
    (a.cols.workflowId == b.cols.workflowId && nullableLe a.cols.orderNumber b.cols.orderNumber)

def findAll (env : Environment) (page pageSize : Int) (workflowId : Option Int) :
    Db (List Dto.State × Int) :=
  findAllIn env .state (filter workflowId) byWorkflow false mapRowToState page pageSize

def findById (id : Int) : Db (Option Dto.State) := findByIdIn .state mapRowToState id

/-- The values `create` binds; none when a required field is missing. -/
def values (state : Dto.State) : Option StateRow := do
  let workflowId ← state.workflowId
  let caption ← state.caption
  guard !caption.isEmpty
  return {
    workflowId, caption := bindString caption, description := state.description.map bindString,
    weight := some (state.weight.getD 0), orderNumber := some (state.orderNumber.getD 0),
    isArchive := bindBool (state.isArchive.getD false),
    isQueue := bindBool (state.isQueue.getD false) }

def create (state : Dto.State) : Db Int := createIn .state (values state)

/-- `workflowId` is not among the fields an update writes. -/
def setClauses (state : Dto.State) : List (StateRow → StateRow) :=
  setIfPresent state.caption (fun v c => { c with caption := bindString v }) ++
    setIfPresent state.description (fun v c => { c with description := some (bindString v) }) ++
    setIfPresent state.weight (fun v c => { c with weight := some v }) ++
    setIfPresent state.orderNumber (fun v c => { c with orderNumber := some v }) ++
    setIfPresent state.isArchive (fun v c => { c with isArchive := bindBool v }) ++
    setIfPresent state.isQueue (fun v c => { c with isQueue := bindBool v })

def update (state : Dto.State) : Db Bool := updateIn .state state.id (setClauses state)

def remove (id : Int) : Db Bool := removeIn .state id

/-- `ORDER BY orderNumber` -/
def byOrderNumber (a b : Row .state) : Bool := nullableLe a.cols.orderNumber b.cols.orderNumber

def findByWorkflowId (env : Environment) (workflowId : Int) : Db (List Dto.State) :=
  if workflowId ≤ 0 then pure []
  else findWhereIn env .state (fun row => row.cols.workflowId == workflowId) byOrderNumber
    mapRowToState

def isUsedByItems (stateId : Int) : Db Bool :=
  if stateId ≤ 0 then pure false else anyIn .item fun row => row.cols.stateId == stateId

end SqliteStateRepository

namespace SqliteEdgeRepository

def mapRowToEdge (row : Row .edge) : Except Error Dto.Edge := do
  let id ← valueInt64 (.integer row.id)
  let beginStateId ← valueInt64 (.integer row.cols.beginStateId)
  let endStateId ← valueInt64 (.integer row.cols.endStateId)
  return { id := some id, beginStateId := some beginStateId, endStateId := some endStateId }

/-- The optional WHERE clauses. -/
def filter (beginStateId endStateId : Option Int) (row : Row .edge) : Bool :=
  (beginStateId.all fun s => row.cols.beginStateId == s) &&
    endStateId.all fun s => row.cols.endStateId == s

def findAll (env : Environment) (page pageSize : Int) (beginStateId endStateId : Option Int) :
    Db (List Dto.Edge × Int) :=
  findAllIn env .edge (filter beginStateId endStateId) byId false mapRowToEdge page pageSize

def findById (id : Int) : Db (Option Dto.Edge) := findByIdIn .edge mapRowToEdge id

/-- The values `create` binds; none when a state is missing. -/
def values (edge : Dto.Edge) : Option EdgeRow := do
  let beginStateId ← edge.beginStateId
  let endStateId ← edge.endStateId
  return { beginStateId, endStateId }

def create (edge : Dto.Edge) : Db Int := createIn .edge (values edge)

def remove (id : Int) : Db Bool := removeIn .edge id

def findByStateId (env : Environment) (stateId : Int) : Db (List Dto.Edge) :=
  if stateId ≤ 0 then pure []
  else findWhereIn env .edge
    (fun row => row.cols.beginStateId == stateId || row.cols.endStateId == stateId) byId mapRowToEdge

def «exists» (beginStateId endStateId : Int) : Db Bool :=
  if beginStateId ≤ 0 ∨ endStateId ≤ 0 then pure false
  else anyIn .edge fun row =>
    row.cols.beginStateId == beginStateId && row.cols.endStateId == endStateId

/-- `State s` with `s.id = …` and `s.workflowId = …`. -/
def joined (db : Database V1) (stateId workflowId : Int) : List (Row .state) :=
  (db.rows .state).filter fun s => s.id == stateId && s.cols.workflowId == workflowId

/-- `Edge e INNER JOIN State s1 ON e.beginStateId = s1.id INNER JOIN State s2 ON e.endStateId = s2.id
WHERE s1.workflowId = :workflowId AND s2.workflowId = :workflowId2`: one result row for every
matching triple. -/
def joinStates (db : Database V1) (workflowId : Int) : List (Row .edge) :=
  (db.rows .edge).flatMap fun e =>
    (joined db e.cols.beginStateId workflowId).flatMap fun _ =>
      -- SELECT e.id, e.beginStateId, e.endStateId
      (joined db e.cols.endStateId workflowId).map fun _ => e

def findByWorkflowId (env : Environment) (workflowId : Int) : Db (List Dto.Edge) :=
  if workflowId ≤ 0 then pure []
  else select fun db => (env.arrange byId (joinStates db workflowId)).mapM mapRowToEdge

end SqliteEdgeRepository

end Farado
