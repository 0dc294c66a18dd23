import Farado.Repositories.Basic
import Farado.Storage.Dto

/-!
# Users

`SqliteUserRepository`. The password hash never travels in the transfer object: `create` takes it
as an argument of its own and `passwordHash` reads it alone.
-/

namespace Farado

open Relational Steps

namespace SqliteUserRepository

def mapRowToUser (row : Row .user) : Except Error Dto.User := do
  let id ← valueInt64 (.integer row.id)
  let login ← valueString (.text row.cols.login)
  let firstName ← unlessNull valueString (.orNull .text row.cols.firstName)
  let middleName ← unlessNull valueString (.orNull .text row.cols.middleName)
  let lastName ← unlessNull valueString (.orNull .text row.cols.lastName)
  let email ← valueString (.text row.cols.email)
  let needChangePassword ← valueInt64 (.integer row.cols.needChangePassword)
  let isBlocked ← valueInt64 (.integer row.cols.isBlocked)
  let isSuperAdmin ← valueInt64 (.integer row.cols.isSuperAdmin)
  let isHidden ← valueInt64 (.integer row.cols.isHidden)
  return {
    id := some id, login := some login, firstName, middleName, lastName, email := some email,
    needChangePassword := some (needChangePassword != 0), isBlocked := some (isBlocked != 0),
    isSuperAdmin := some (isSuperAdmin != 0), isHidden := some (isHidden != 0) }

def findAll (env : Environment) (page pageSize : Int) : Db (List Dto.User × Int) :=
  findAllIn env .user (fun _ => true) byId false mapRowToUser page pageSize

def findById (id : Int) : Db (Option Dto.User) := findByIdIn .user mapRowToUser id

/-- `login` is UNIQUE, so at most one row matches. -/
def findByLogin (login : Bytes) : Db (Option Dto.User) :=
  if login.isEmpty then pure none
  else select fun db =>
    match (db.rows .user).find? fun row => row.cols.login == bindString login with
    | some row => some <$> mapRowToUser row
    | none => .ok none

/-- Any failure reads as an empty hash. -/
def passwordHash (userId : Int) : Db Bytes :=
  if userId ≤ 0 then pure []
  else tryCatch
    (select fun db =>
      match db.find .user userId with
      | some row => valueString (.text row.cols.passwordHash)
      | none => .ok [])
    fun _ => pure []

def updatePassword (userId : Int) (passwordHash : Bytes) : Db Bool :=
  if userId ≤ 0 || passwordHash.isEmpty then pure false
  else updateIn .user (some userId) [fun c => { c with passwordHash := bindString passwordHash }]

def updateNeedChangePassword (userId : Int) (needChange : Bool) : Db Bool :=
  if userId ≤ 0 then pure false
  else updateIn .user (some userId) [fun c => { c with needChangePassword := bindBool needChange }]

def existsByLogin (login : Bytes) : Db Bool :=
  if login.isEmpty then pure false
  else anyIn .user fun row => row.cols.login == bindString login

/-- The values `create` binds; none when a required field is missing. -/
def values (user : Dto.User) (passwordHash : Bytes) : Option UserRow := do
  let login ← user.login
  guard !login.isEmpty
  let email ← user.email
  guard !email.isEmpty
  guard !passwordHash.isEmpty
  return {
    login := bindString login, firstName := user.firstName.map bindString,
    middleName := user.middleName.map bindString, lastName := user.lastName.map bindString,
    email := bindString email, passwordHash := bindString passwordHash,
    needChangePassword := bindBool (user.needChangePassword.getD true),
    isBlocked := bindBool (user.isBlocked.getD false),
    isSuperAdmin := bindBool (user.isSuperAdmin.getD false),
    isHidden := bindBool (user.isHidden.getD false) }

def create (user : Dto.User) (passwordHash : Bytes) : Db Int :=
  createIn .user (values user passwordHash)

/-- Login and password are changed by procedures of their own. -/
def setClauses (user : Dto.User) : List (UserRow → UserRow) :=
  setIfPresent user.firstName (fun v c => { c with firstName := some (bindString v) }) ++
    setIfPresent user.middleName (fun v c => { c with middleName := some (bindString v) }) ++
    setIfPresent user.lastName (fun v c => { c with lastName := some (bindString v) }) ++
    setIfPresent user.email (fun v c => { c with email := bindString v }) ++
    setIfPresent user.needChangePassword (fun v c => { c with needChangePassword := bindBool v }) ++
    setIfPresent user.isBlocked (fun v c => { c with isBlocked := bindBool v }) ++
    setIfPresent user.isSuperAdmin (fun v c => { c with isSuperAdmin := bindBool v }) ++
    setIfPresent user.isHidden (fun v c => { c with isHidden := bindBool v })

def update (user : Dto.User) : Db Bool := updateIn .user user.id (setClauses user)

def remove (id : Int) : Db Bool := removeIn .user id

end SqliteUserRepository

end Farado
