import Farado.Api.Http

/-!
# Transfer objects in JSON

`fromJson` and `toJson` of the eight entities that are created and updated over HTTP. `fromJson`
reads field by field; one that is missing or null is empty, and one that cannot be converted is left
as it was and remembered in the result. The converting constructor calls it on a new object, where
such a field is empty too, and forgets the result.
-/

namespace Farado

namespace Http

/-- What is called of the JSON libraries: `get<int64_t>` of a floating point number, the two
conversions, which write a text and parse it, and what they throw at a value of another type. -/
structure JsonLibrary where
  truncate : UInt64 → Int
  toNlohmannJson : Json → Except StdException Json
  toWebJson : Json → Except StdException Json
  typeError : StdException
  notAString : StdException

namespace Json

/-- The field of a name, if there is one. -/
def find? (json : Json) (name : Bytes) : Option Json :=
  match json with
  | .object fields => fields.lookup name
  | _ => none

/-- `json[name]`, when `json.contains(name)`. -/
def get? (json : Json) (name : String) : Option Json := json.find? (bytes name)

/-- `json[name] = value`: null becomes an object, and other values have no fields. -/
def set (json : Json) (name : String) (value : Json) : Option Json :=
  match json with
  | .object fields =>
      some (.object (fields.filter (fun field => field.1 != bytes name) ++ [(bytes name, value)]))
  | .null => some (.object [(bytes name, value)])
  | _ => none

/-- `get<int64_t>()`: an unsigned number beyond 63 bits wraps. -/
def getInt64 (lib : JsonLibrary) : Json → Option Int
  | .number n => some (n.bmod (2 ^ 64))
  | .real bits => some (lib.truncate bits)
  | _ => none

/-- `get<std::string>()` -/
def getString : Json → Option Bytes
  | .string s => some s
  | _ => none

/-- `get<bool>()` -/
def getBool : Json → Option Bool
  | .boolean b => some b
  | _ => none

/-- `secondsToTimePoint(get<int64_t>())` -/
def getTimePoint (lib : JsonLibrary) (json : Json) : Option Int :=
  (json.getInt64 lib).map Dto.secondsToTimePoint

/-- One block of `fromJson`: what the field becomes, and whether it could be read. -/
def field {α : Type} (json : Json) (name : String) (get : Json → Option α) : Option α × Bool :=
  match json.get? name with
  | none => (none, true)
  | some .null => (none, true)
  | some value =>
      match get value with
      | some a => (some a, true)
      | none => (none, false)

/-- What is set is found. -/
theorem get?_set {json json' : Json} {name : String} {value : Json}
    (h : json.set name value = some json') : json'.get? name = some value := by
  cases json with
  | object fields =>
    cases h
    have hgone : (fields.filter fun field => field.1 != bytes name).lookup (bytes name) = none := by
      rw [List.lookup_eq_none_iff]
      intro field hfield
      simpa [bne_comm] using (List.mem_filter.mp hfield).2
    show (_ ++ [(bytes name, value)]).lookup (bytes name) = some value
    rw [List.lookup_append, hgone, Option.none_or, List.lookup_cons_self]
  | null =>
    cases h
    simp [get?, find?]
  | boolean | number | real | string | array => cases h

/-- `if (field.has_value()) result[name] = …;` -/
def member (name : String) (value : Option Json) : List (Bytes × Json) :=
  (value.map fun v => (bytes name, v)).toList

/-- What the members make of a result that begins as null. -/
def ofMembers : List (Bytes × Json) → Json
  | [] => .null
  | members => .object members

theorem find?_ofMembers (members : List (Bytes × Json)) (name : Bytes) :
    (ofMembers members).find? name = members.lookup name := by
  cases members <;> rfl

/-- A member is not found under another name. -/
theorem lookup_toList_of_ne {name other : Bytes} (h : name ≠ other) (value : Option Json) :
    (value.map fun v => (other, v)).toList.lookup name = none := by
  cases value with
  | none => rfl
  | some v =>
    show List.lookup name [(other, v)] = none
    rw [List.lookup_cons, beq_false_of_ne h]
    rfl

end Json

end Http

open Http

/-- The two request objects are generated like the entities. -/
def Http.AuthRequest.fromJson (json : Json) : AuthRequest × Bool :=
  let login := json.field "login" Json.getString
  let password := json.field "password" Json.getString
  ({ login := login.1, password := password.1 }, login.2 && password.2)

def Http.ChangePasswordRequest.fromJson (json : Json) : ChangePasswordRequest × Bool :=
  let oldPassword := json.field "oldPassword" Json.getString
  let newPassword := json.field "newPassword" Json.getString
  ({ oldPassword := oldPassword.1, newPassword := newPassword.1 }, oldPassword.2 && newPassword.2)

namespace Dto

section
variable (lib : JsonLibrary)

def User.fromJson (json : Json) : User × Bool :=
  let id := json.field "id" (Json.getInt64 lib)
  let login := json.field "login" Json.getString
  let firstName := json.field "firstName" Json.getString
  let middleName := json.field "middleName" Json.getString
  let lastName := json.field "lastName" Json.getString
  let email := json.field "email" Json.getString
  let needChangePassword := json.field "needChangePassword" Json.getBool
  let isBlocked := json.field "isBlocked" Json.getBool
  let isSuperAdmin := json.field "isSuperAdmin" Json.getBool
  let isHidden := json.field "isHidden" Json.getBool
  ({ id := id.1, login := login.1, firstName := firstName.1, middleName := middleName.1,
     lastName := lastName.1, email := email.1, needChangePassword := needChangePassword.1,
     isBlocked := isBlocked.1, isSuperAdmin := isSuperAdmin.1, isHidden := isHidden.1 },
   id.2 && login.2 && firstName.2 && middleName.2 && lastName.2 && email.2 &&
     needChangePassword.2 && isBlocked.2 && isSuperAdmin.2 && isHidden.2)

def Workflow.fromJson (json : Json) : Workflow × Bool :=
  let id := json.field "id" (Json.getInt64 lib)
  let caption := json.field "caption" Json.getString
  let description := json.field "description" Json.getString
  ({ id := id.1, caption := caption.1, description := description.1 },
   id.2 && caption.2 && description.2)

def State.fromJson (json : Json) : State × Bool :=
  let id := json.field "id" (Json.getInt64 lib)
  let workflowId := json.field "workflowId" (Json.getInt64 lib)
  let caption := json.field "caption" Json.getString
  let description := json.field "description" Json.getString
  let weight := json.field "weight" (Json.getInt64 lib)
  let orderNumber := json.field "orderNumber" (Json.getInt64 lib)
  let isArchive := json.field "isArchive" Json.getBool
  let isQueue := json.field "isQueue" Json.getBool
  ({ id := id.1, workflowId := workflowId.1, caption := caption.1, description := description.1,
     weight := weight.1, orderNumber := orderNumber.1, isArchive := isArchive.1,
     isQueue := isQueue.1 },
   id.2 && workflowId.2 && caption.2 && description.2 && weight.2 && orderNumber.2 &&
     isArchive.2 && isQueue.2)

def Edge.fromJson (json : Json) : Edge × Bool :=
  let id := json.field "id" (Json.getInt64 lib)
  let beginStateId := json.field "beginStateId" (Json.getInt64 lib)
  let endStateId := json.field "endStateId" (Json.getInt64 lib)
  ({ id := id.1, beginStateId := beginStateId.1, endStateId := endStateId.1 },
   id.2 && beginStateId.2 && endStateId.2)

def Project.fromJson (json : Json) : Project × Bool :=
  let id := json.field "id" (Json.getInt64 lib)
  let parentId := json.field "parentId" (Json.getInt64 lib)
  let caption := json.field "caption" Json.getString
  let description := json.field "description" Json.getString
  let createdAt := json.field "createdAt" (Json.getTimePoint lib)
  let updatedAt := json.field "updatedAt" (Json.getTimePoint lib)
  let isArchive := json.field "isArchive" Json.getBool
  ({ id := id.1, parentId := parentId.1, caption := caption.1, description := description.1,
     createdAt := createdAt.1, updatedAt := updatedAt.1, isArchive := isArchive.1 },
   id.2 && parentId.2 && caption.2 && description.2 && createdAt.2 && updatedAt.2 && isArchive.2)

def Phase.fromJson (json : Json) : Phase × Bool :=
  let id := json.field "id" (Json.getInt64 lib)
  let projectId := json.field "projectId" (Json.getInt64 lib)
  let caption := json.field "caption" Json.getString
  let description := json.field "description" Json.getString
  let beginDate := json.field "beginDate" (Json.getTimePoint lib)
  let endDate := json.field "endDate" (Json.getTimePoint lib)
  let isArchive := json.field "isArchive" Json.getBool
  ({ id := id.1, projectId := projectId.1, caption := caption.1, description := description.1,
     beginDate := beginDate.1, endDate := endDate.1, isArchive := isArchive.1 },
   id.2 && projectId.2 && caption.2 && description.2 && beginDate.2 && endDate.2 && isArchive.2)

def ItemType.fromJson (json : Json) : ItemType × Bool :=
  let id := json.field "id" (Json.getInt64 lib)
  let workflowId := json.field "workflowId" (Json.getInt64 lib)
  let defaultStateId := json.field "defaultStateId" (Json.getInt64 lib)
  let caption := json.field "caption" Json.getString
  let kind := json.field "kind" Json.getString
  let defaultContent := json.field "defaultContent" Json.getString
  ({ id := id.1, workflowId := workflowId.1, defaultStateId := defaultStateId.1,
     caption := caption.1, kind := kind.1, defaultContent := defaultContent.1 },
   id.2 && workflowId.2 && defaultStateId.2 && caption.2 && kind.2 && defaultContent.2)

def FieldType.fromJson (json : Json) : FieldType × Bool :=
  let id := json.field "id" (Json.getInt64 lib)
  let itemTypeId := json.field "itemTypeId" (Json.getInt64 lib)
  let caption := json.field "caption" Json.getString
  let description := json.field "description" Json.getString
  let valueType := json.field "valueType" Json.getString
  let isBoardVisible := json.field "isBoardVisible" Json.getBool
  ({ id := id.1, itemTypeId := itemTypeId.1, caption := caption.1, description := description.1,
     valueType := valueType.1, isBoardVisible := isBoardVisible.1 },
   id.2 && itemTypeId.2 && caption.2 && description.2 && valueType.2 && isBoardVisible.2)

end

def User.toJson (user : User) : Json :=
  .ofMembers (Json.member "id" (user.id.map .number) ++
    Json.member "login" (user.login.map .string) ++
    Json.member "firstName" (user.firstName.map .string) ++
    Json.member "middleName" (user.middleName.map .string) ++
    Json.member "lastName" (user.lastName.map .string) ++
    Json.member "email" (user.email.map .string) ++
    Json.member "needChangePassword" (user.needChangePassword.map .boolean) ++
    Json.member "isBlocked" (user.isBlocked.map .boolean) ++
    Json.member "isSuperAdmin" (user.isSuperAdmin.map .boolean) ++
    Json.member "isHidden" (user.isHidden.map .boolean))

def Workflow.toJson (workflow : Workflow) : Json :=
  .ofMembers (Json.member "id" (workflow.id.map .number) ++
    Json.member "caption" (workflow.caption.map .string) ++
    Json.member "description" (workflow.description.map .string))

def State.toJson (state : State) : Json :=
  .ofMembers (Json.member "id" (state.id.map .number) ++
    Json.member "workflowId" (state.workflowId.map .number) ++
    Json.member "caption" (state.caption.map .string) ++
    Json.member "description" (state.description.map .string) ++
    Json.member "weight" (state.weight.map .number) ++
    Json.member "orderNumber" (state.orderNumber.map .number) ++
    Json.member "isArchive" (state.isArchive.map .boolean) ++
    Json.member "isQueue" (state.isQueue.map .boolean))

def Edge.toJson (edge : Edge) : Json :=
  .ofMembers (Json.member "id" (edge.id.map .number) ++
    Json.member "beginStateId" (edge.beginStateId.map .number) ++
    Json.member "endStateId" (edge.endStateId.map .number))

/-- A time point in seconds. -/
def secondsJson (timePoint : Int) : Json := .number (timePointToSeconds timePoint)

def Project.toJson (project : Project) : Json :=
  .ofMembers (Json.member "id" (project.id.map .number) ++
    Json.member "parentId" (project.parentId.map .number) ++
    Json.member "caption" (project.caption.map .string) ++
    Json.member "description" (project.description.map .string) ++
    Json.member "createdAt" (project.createdAt.map secondsJson) ++
    Json.member "updatedAt" (project.updatedAt.map secondsJson) ++
    Json.member "isArchive" (project.isArchive.map .boolean))

def Phase.toJson (phase : Phase) : Json :=
  .ofMembers (Json.member "id" (phase.id.map .number) ++
    Json.member "projectId" (phase.projectId.map .number) ++
    Json.member "caption" (phase.caption.map .string) ++
    Json.member "description" (phase.description.map .string) ++
    Json.member "beginDate" (phase.beginDate.map secondsJson) ++
    Json.member "endDate" (phase.endDate.map secondsJson) ++
    Json.member "isArchive" (phase.isArchive.map .boolean))

def ItemType.toJson (itemType : ItemType) : Json :=
  .ofMembers (Json.member "id" (itemType.id.map .number) ++
    Json.member "workflowId" (itemType.workflowId.map .number) ++
    Json.member "defaultStateId" (itemType.defaultStateId.map .number) ++
    Json.member "caption" (itemType.caption.map .string) ++
    Json.member "kind" (itemType.kind.map .string) ++
    Json.member "defaultContent" (itemType.defaultContent.map .string))

def FieldType.toJson (fieldType : FieldType) : Json :=
  .ofMembers (Json.member "id" (fieldType.id.map .number) ++
    Json.member "itemTypeId" (fieldType.itemTypeId.map .number) ++
    Json.member "caption" (fieldType.caption.map .string) ++
    Json.member "description" (fieldType.description.map .string) ++
    Json.member "valueType" (fieldType.valueType.map .string) ++
    Json.member "isBoardVisible" (fieldType.isBoardVisible.map .boolean))

end Dto

end Farado
