import Farado.Repositories.Project
import Farado.Repositories.User
import Farado.Services.Workflow

/-!
# The services of projects, phases and users

`ProjectService`, `PhaseService` and `UserService`. `sha256` stands for `crypto::sha256`.
-/

namespace Farado

open Relational Steps

namespace ProjectService

def projects (env : Environment) (page pageSize : Int) (parentId : Option Int)
    (isArchive : Option Bool) (searchCaption : Bytes) : Db (List Dto.Project × Int) :=
  let (page, pageSize) := normalizedPage page pageSize
  SqliteProjectRepository.findAll env page pageSize parentId isArchive searchCaption

def project (id : Int) : Db (Option Dto.Project) := SqliteProjectRepository.findById id

def createProject (env : Environment) (now : Int) (project : Dto.Project) :
    Db (Option Dto.Project) :=
  if (project.caption.getD []).isEmpty then pure none
  else createAndFind (SqliteProjectRepository.create env now project)
    SqliteProjectRepository.findById

def updateProject (env : Environment) (now : Int) (project : Dto.Project) :
    Db (Option Dto.Project) :=
  match project.id with
  | none => pure none
  | some id => do
      if !(← SqliteProjectRepository.exists id) then pure none
      else
        updateAndFind (SqliteProjectRepository.update env now project)
          (SqliteProjectRepository.findById id)

def archiveProject (now id : Int) : Db Bool := do
  if !(← SqliteProjectRepository.exists id) then pure false
  else SqliteProjectRepository.archive now id

def restoreProject (now id : Int) : Db Bool := do
  if !(← SqliteProjectRepository.exists id) then pure false
  else SqliteProjectRepository.restore now id

end ProjectService

namespace PhaseService

def phases (env : Environment) (page pageSize : Int) (projectId : Option Int)
    (isArchive : Option Bool) : Db (List Dto.Phase × Int) :=
  let (page, pageSize) := normalizedPage page pageSize
  SqlitePhaseRepository.findAll env page pageSize projectId isArchive

def phase (id : Int) : Db (Option Dto.Phase) := SqlitePhaseRepository.findById id

def createPhase (env : Environment) (phase : Dto.Phase) : Db (Option Dto.Phase) :=
  if (phase.caption.getD []).isEmpty || phase.projectId.isNone then pure none
  else createAndFind (SqlitePhaseRepository.create env phase) SqlitePhaseRepository.findById

def updatePhase (env : Environment) (phase : Dto.Phase) : Db (Option Dto.Phase) :=
  match phase.id with
  | none => pure none
  | some id => do
      if !(← SqlitePhaseRepository.exists id) then pure none
      else
        updateAndFind (SqlitePhaseRepository.update env phase) (SqlitePhaseRepository.findById id)

def archivePhase (id : Int) : Db Bool := do
  if !(← SqlitePhaseRepository.exists id) then pure false
  else SqlitePhaseRepository.archive id

def restorePhase (id : Int) : Db Bool := do
  if !(← SqlitePhaseRepository.exists id) then pure false
  else SqlitePhaseRepository.restore id

end PhaseService

namespace UserService

def users (env : Environment) (page pageSize : Int) : Db (List Dto.User × Int) :=
  let (page, pageSize) := normalizedPage page pageSize
  SqliteUserRepository.findAll env page pageSize

def user (id : Int) : Db (Option Dto.User) := SqliteUserRepository.findById id

def createUser (sha256 : Bytes → Bytes) (user : Dto.User) (password : Bytes) :
    Db (Option Dto.User) :=
  if (user.login.getD []).isEmpty || (user.email.getD []).isEmpty || password.isEmpty then pure none
  else do
    if ← SqliteUserRepository.existsByLogin (user.login.getD []) then pure none
    else
      createAndFind (SqliteUserRepository.create user (sha256 password))
        SqliteUserRepository.findById

def updateUser (user : Dto.User) : Db (Option Dto.User) :=
  match user.id with
  | none => pure none
  | some id => updateAndFind (SqliteUserRepository.update user) (SqliteUserRepository.findById id)

def deleteUser (id : Int) : Db Bool := SqliteUserRepository.remove id

end UserService

end Farado
