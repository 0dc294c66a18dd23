import Farado.Repositories.ItemType

/-!
# Projects and phases

`SqliteProjectRepository` and `SqlitePhaseRepository`. Beside the caption and the description both
tables keep the same texts in lower case, for searching.
-/

namespace Farado

open Relational Steps

/-- `common::toLowerCase` hands ICU a `const char*`. -/
def toLowerCase (env : Environment) (value : Bytes) : Bytes := env.foldCase (cString value)

namespace SqliteProjectRepository

def mapRowToProject (row : Row .project) : Except Error Dto.Project := do
  let id ← valueInt64 (.integer row.id)
  let parentId ← unlessNull valueInt64 (.orNull .integer row.cols.parentId)
  let caption ← valueString (.text row.cols.caption)
  let description ← unlessNull valueString (.orNull .text row.cols.description)
  let createdAt ← unlessNull valueInt64 (.integer row.cols.createdAt)
  let updatedAt ← unlessNull valueInt64 (.integer row.cols.updatedAt)
  let isArchive ← valueInt64 (.integer row.cols.isArchive)
  return {
    id := some id, parentId, caption := some caption, description,
    createdAt := createdAt.map Dto.secondsToTimePoint,
    updatedAt := updatedAt.map Dto.secondsToTimePoint,
    isArchive := some (isArchive != 0) }

/-- The optional WHERE clauses. A `parentId` of 0 asks for root projects. -/
def filter (env : Environment) (parentId : Option Int) (isArchive : Option Bool)
    (searchCaption : Bytes) (row : Row .project) : Bool :=
  (parentId.all fun p => if p == 0 then row.cols.parentId.isNone else row.cols.parentId == some p) &&
    (isArchive.all fun a => row.cols.isArchive == bindBool a) &&
    (searchCaption.isEmpty ||
      row.cols.searchCaption.any (env.like (containsPattern (toLowerCase env searchCaption))))

def findAll (env : Environment) (page pageSize : Int) (parentId : Option Int)
    (isArchive : Option Bool) (searchCaption : Bytes) : Db (List Dto.Project × Int) :=
  findAllIn env .project (filter env parentId isArchive searchCaption) byId true mapRowToProject
    page pageSize

def findById (id : Int) : Db (Option Dto.Project) := findByIdIn .project mapRowToProject id

/-- The values `create` binds at the time `now`; none when the caption is missing or empty. -/
def values (env : Environment) (now : Int) (project : Dto.Project) : Option ProjectRow := do
  let caption ← project.caption
  guard !caption.isEmpty
  return {
    parentId := project.parentId, caption := bindString caption,
    description := project.description.map bindString,
    searchCaption := some (bindString (toLowerCase env caption)),
    searchDescription := project.description.map fun d => bindString (toLowerCase env d),
    createdAt := Dto.timePointToSeconds now, updatedAt := Dto.timePointToSeconds now,
    isArchive := bindBool (project.isArchive.getD false) }

def create (env : Environment) (now : Int) (project : Dto.Project) : Db Int :=
  createIn .project (values env now project)

/-- A text is written together with its lower case; `updatedAt` is always written. -/
def setClauses (env : Environment) (now : Int) (project : Dto.Project) :
    List (ProjectRow → ProjectRow) :=
  setIfPresent project.parentId (fun v c => { c with parentId := some v }) ++
    setIfPresent project.caption (fun v c => { c with
      caption := bindString v
      searchCaption := some (bindString (toLowerCase env v)) }) ++
    setIfPresent project.description (fun v c => { c with
      description := some (bindString v)
      searchDescription := some (bindString (toLowerCase env v)) }) ++
    setIfPresent project.isArchive (fun v c => { c with isArchive := bindBool v }) ++
    [fun c => { c with updatedAt := Dto.timePointToSeconds now }]

def update (env : Environment) (now : Int) (project : Dto.Project) : Db Bool :=
  updateIn .project project.id (setClauses env now project)

/-- `UPDATE Project SET isArchive = …, updatedAt = :updatedAt WHERE id = :id` -/
def setArchive (now id isArchive : Int) : Db Bool :=
  if id ≤ 0 then pure false
  else updateIn .project (some id)
    [fun c => { c with isArchive, updatedAt := Dto.timePointToSeconds now }]

def archive (now id : Int) : Db Bool := setArchive now id 1

def restore (now id : Int) : Db Bool := setArchive now id 0

def «exists» (id : Int) : Db Bool := existsIn .project id

end SqliteProjectRepository

namespace SqlitePhaseRepository

def mapRowToPhase (row : Row .phase) : Except Error Dto.Phase := do
  let id ← valueInt64 (.integer row.id)
  let projectId ← valueInt64 (.integer row.cols.projectId)
  let caption ← valueString (.text row.cols.caption)
  let description ← unlessNull valueString (.orNull .text row.cols.description)
  let beginDate ← unlessNull valueInt64 (.orNull .integer row.cols.beginDate)
  let endDate ← unlessNull valueInt64 (.orNull .integer row.cols.endDate)
  let isArchive ← valueInt64 (.integer row.cols.isArchive)
  return {
    id := some id, projectId := some projectId, caption := some caption, description,
    beginDate := beginDate.map Dto.secondsToTimePoint,
    endDate := endDate.map Dto.secondsToTimePoint,
    isArchive := some (isArchive != 0) }

/-- The optional WHERE clauses. -/
def filter (projectId : Option Int) (isArchive : Option Bool) (row : Row .phase) : Bool :=
  (projectId.all fun p => row.cols.projectId == p) &&
    isArchive.all fun a => row.cols.isArchive == bindBool a

/-- `ORDER BY beginDate, id` -/
def byBeginDate (a b : Row .phase) : Bool :=
  if a.cols.beginDate == b.cols.beginDate then byId a b
  else nullableLe a.cols.beginDate b.cols.beginDate

def findAll (env : Environment) (page pageSize : Int) (projectId : Option Int)
    (isArchive : Option Bool) : Db (List Dto.Phase × Int) :=
  findAllIn env .phase (filter projectId isArchive) byBeginDate true mapRowToPhase page pageSize

def findById (id : Int) : Db (Option Dto.Phase) := findByIdIn .phase mapRowToPhase id

/-- The values `create` binds; none when a required field is missing. -/
def values (env : Environment) (phase : Dto.Phase) : Option PhaseRow := do
  let caption ← phase.caption
  guard !caption.isEmpty
  let projectId ← phase.projectId
  return {
    projectId, caption := bindString caption, description := phase.description.map bindString,
    beginDate := phase.beginDate.map Dto.timePointToSeconds,
    endDate := phase.endDate.map Dto.timePointToSeconds,
    isArchive := bindBool (phase.isArchive.getD false),
    searchCaption := some (bindString (toLowerCase env caption)),
    searchDescription := phase.description.map fun d => bindString (toLowerCase env d) }

def create (env : Environment) (phase : Dto.Phase) : Db Int := createIn .phase (values env phase)

/-- Here too a text is written together with its lower case. -/
def setClauses (env : Environment) (phase : Dto.Phase) : List (PhaseRow → PhaseRow) :=
  setIfPresent phase.projectId (fun v c => { c with projectId := v }) ++
    setIfPresent phase.caption (fun v c => { c with
      caption := bindString v
      searchCaption := some (bindString (toLowerCase env v)) }) ++
    setIfPresent phase.description (fun v c => { c with
      description := some (bindString v)
      searchDescription := some (bindString (toLowerCase env v)) }) ++
    setIfPresent phase.beginDate (fun v c => { c with
      beginDate := some (Dto.timePointToSeconds v) }) ++
    setIfPresent phase.endDate (fun v c => { c with endDate := some (Dto.timePointToSeconds v) }) ++
    setIfPresent phase.isArchive (fun v c => { c with isArchive := bindBool v })

def update (env : Environment) (phase : Dto.Phase) : Db Bool :=
  updateIn .phase phase.id (setClauses env phase)

/-- `UPDATE Phase SET isArchive = … WHERE id = :id` -/
def setArchive (id isArchive : Int) : Db Bool :=
  if id ≤ 0 then pure false else updateIn .phase (some id) [fun c => { c with isArchive }]

def archive (id : Int) : Db Bool := setArchive id 1

def restore (id : Int) : Db Bool := setArchive id 0

def «exists» (id : Int) : Db Bool := existsIn .phase id

end SqlitePhaseRepository

end Farado
