import Farado.Generator.Template

/-!
# The generated objects of the API

The lists of fields the generator has made the transfer objects of: the page, the session and the
eight entities. At the eight lists the template is the `fromJson` and the `toJson` that the handlers
call.
-/

namespace Farado

open Http

namespace Generator

/-! ## Lists of fields -/

def pageResponse : List Field :=
  [.data (bytes "items") (.vector .string), .data (bytes "totalCount") (.item .int64),
    .data (bytes "page") (.item .int64), .data (bytes "pageSize") (.item .int64)]

def authResponse : List Field :=
  [.data (bytes "accessToken") (.item .string), .const (bytes "tokenType") (bytes "Bearer")]

def user : List Field :=
  [.data (bytes "id") (.item .int64), .data (bytes "login") (.item .string),
    .data (bytes "firstName") (.item .string), .data (bytes "middleName") (.item .string),
    .data (bytes "lastName") (.item .string), .data (bytes "email") (.item .string),
    .data (bytes "needChangePassword") (.item .bool), .data (bytes "isBlocked") (.item .bool),
    .data (bytes "isSuperAdmin") (.item .bool), .data (bytes "isHidden") (.item .bool)]

def workflow : List Field :=
  [.data (bytes "id") (.item .int64), .data (bytes "caption") (.item .string),
    .data (bytes "description") (.item .string)]

def state : List Field :=
  [.data (bytes "id") (.item .int64), .data (bytes "workflowId") (.item .int64),
    .data (bytes "caption") (.item .string), .data (bytes "description") (.item .string),
    .data (bytes "weight") (.item .int64), .data (bytes "orderNumber") (.item .int64),
    .data (bytes "isArchive") (.item .bool), .data (bytes "isQueue") (.item .bool)]

def edge : List Field :=
  [.data (bytes "id") (.item .int64), .data (bytes "beginStateId") (.item .int64),
    .data (bytes "endStateId") (.item .int64)]

def project : List Field :=
  [.data (bytes "id") (.item .int64), .data (bytes "parentId") (.item .int64),
    .data (bytes "caption") (.item .string), .data (bytes "description") (.item .string),
    .data (bytes "createdAt") .timePoint, .data (bytes "updatedAt") .timePoint,
    .data (bytes "isArchive") (.item .bool)]

def phase : List Field :=
  [.data (bytes "id") (.item .int64), .data (bytes "projectId") (.item .int64),
    .data (bytes "caption") (.item .string), .data (bytes "description") (.item .string),
    .data (bytes "beginDate") .timePoint, .data (bytes "endDate") .timePoint,
    .data (bytes "isArchive") (.item .bool)]

def itemType : List Field :=
  [.data (bytes "id") (.item .int64), .data (bytes "workflowId") (.item .int64),
    .data (bytes "defaultStateId") (.item .int64), .data (bytes "caption") (.item .string),
    .data (bytes "kind") (.item .string), .data (bytes "defaultContent") (.item .string)]

def fieldType : List Field :=
  [.data (bytes "id") (.item .int64), .data (bytes "itemTypeId") (.item .int64),
    .data (bytes "caption") (.item .string), .data (bytes "description") (.item .string),
    .data (bytes "valueType") (.item .string), .data (bytes "isBoardVisible") (.item .bool)]

def dtos : List (Bytes × List Field) :=
  [(bytes "PageResponse", pageResponse), (bytes "AuthResponse", authResponse),
    (bytes "User", user), (bytes "Workflow", workflow), (bytes "State", state),
    (bytes "Edge", edge), (bytes "Project", project), (bytes "Phase", phase),
    (bytes "ItemType", itemType), (bytes "FieldType", fieldType)]

/-- The specification the transfer objects were generated from. -/
def openApi : Spec where
  fields name := (dtos.lookup name).getD []
  nodup name := by
    cases h : dtos.lookup name with
    | none => exact List.nodup_nil
    | some fields =>
      have hall : ∀ dto ∈ dtos, (dto.2.map Field.name).Nodup := by decide
      obtain ⟨before, after, hsplit, -⟩ := List.lookup_eq_some_iff.mp h
      exact hall (name, fields) (hsplit ▸ List.mem_append_cons_self)

/-! ## The entities -/

/-- `std::optional` -/
def optional {α : Type} (make : α → Value) : Option α → Value
  | none => .absent
  | some a => make a

/-- The template reads a type as the entities do it. -/
def Reads {α : Type} (A : Arithmetic) (type : CppType) (get : Json → Option α)
    (make : α → Value) : Prop :=
  ∀ json, convert A openApi type json = (get json).map make

/-- The template writes a type as the entities do it. -/
def Writes {α : Type} (type : CppType) (make : α → Value) (encode : α → Json) : Prop :=
  ∀ a, isWritten (make a) = true ∧ valueToJson openApi type (make a) = encode a

/-- The template at the fields of a name is the code of an entity. -/
structure Generates {α : Type} (A : Arithmetic) (name : String) (values : α → List Value)
    (fromJson : Json → α × Bool) (toJson : α → Json) : Prop where
  values_eq (json : Json) :
    (Generator.fromJson A openApi (Object.empty openApi (bytes name)) json).1.values =
      values (fromJson json).1
  success_eq (json : Json) :
    (Generator.fromJson A openApi (Object.empty openApi (bytes name)) json).2 = (fromJson json).2
  writes (a : α) :
    .ofMembers (fieldsToJson openApi (openApi.fields (bytes name)) (values a)) = toJson a

variable {A : Arithmetic} {lib : JsonLibrary}

theorem Reads.readField {α : Type} {type : CppType} {get : Json → Option α} {make : α → Value}
    (h : Reads A type get make) (json : Json) (name : String) :
    readField A openApi json (.data (bytes name) type) .absent =
      (optional make (json.field name get).1, (json.field name get).2) := by
  dsimp only [Generator.readField, Json.field, Json.get?]
  cases json.find? (bytes name) with
  | none => rfl
  | some value =>
    cases value with
    | null => rfl
    | boolean | number | real | string | array | object =>
      dsimp only
      rw [h]
      cases get _ <;> rfl

theorem Writes.fieldsToJson {α : Type} {type : CppType} {make : α → Value} {encode : α → Json}
    (h : Writes type make encode) (name : String) (fields : List Field) (a : Option α)
    (values : List Value) :
    fieldsToJson openApi (.data (bytes name) type :: fields) (optional make a :: values) =
      Json.member name (a.map encode) ++ fieldsToJson openApi fields values := by
  cases a with
  | none => rfl
  | some a =>
    rw [optional, Generator.fieldsToJson, if_pos (h a).1, (h a).2]
    rfl

theorem string_reads : Reads A (.item .string) Json.getString .string := by
  intro json
  cases json <;> rfl

theorem bool_reads : Reads A (.item .bool) Json.getBool .bool := by
  intro json
  cases json <;> rfl

section
variable (h : ∀ bits, lib.truncate bits = (A.truncate bits).bmod (2 ^ 64))
include h

theorem int64_reads : Reads A (.item .int64) (Json.getInt64 lib) .int64 := by
  intro json
  cases json with
  | real bits =>
    show some (Value.int64 _) = some (Value.int64 (lib.truncate bits))
    rw [h]
  | null | boolean | number | string | array | object => rfl

theorem timePoint_reads : Reads A .timePoint (Json.getTimePoint lib) .timePoint := by
  intro json
  cases json with
  | real bits =>
    show some (Value.timePoint _) =
      some (Value.timePoint (Dto.secondsToTimePoint (lib.truncate bits)))
    rw [h]
  | null | boolean | number | string | array | object => rfl

end

theorem string_writes : Writes (.item .string) .string .string := fun _ => ⟨rfl, rfl⟩

theorem bool_writes : Writes (.item .bool) .bool .boolean := fun _ => ⟨rfl, rfl⟩

theorem int64_writes : Writes (.item .int64) .int64 .number := fun _ => ⟨rfl, rfl⟩

theorem timePoint_writes : Writes .timePoint .timePoint Dto.secondsJson := fun _ => ⟨rfl, rfl⟩

theorem Generates.of {α : Type} {name : String} {values : α → List Value}
    {fromJson : Json → α × Bool} {toJson : α → Json} {fields : List Field}
    (hfields : openApi.fields (bytes name) = fields)
    (hvalues : ∀ json, (fields.map fun field => (readField A openApi json field .absent).1) =
      values (fromJson json).1)
    (hsuccess : ∀ json, (fields.all fun field => (readField A openApi json field .absent).2) =
      (fromJson json).2)
    (hwrites : ∀ a, .ofMembers (fieldsToJson openApi fields (values a)) = toJson a) :
    Generates A name values fromJson toJson where
  values_eq json := by rw [values_fromJson_empty, hfields, hvalues]
  success_eq json := by rw [success_fromJson, hfields, hsuccess]
  writes a := by rw [hfields, hwrites]

def userValues (user : Dto.User) : List Value :=
  [optional .int64 user.id, optional .string user.login, optional .string user.firstName,
    optional .string user.middleName, optional .string user.lastName, optional .string user.email,
    optional .bool user.needChangePassword, optional .bool user.isBlocked,
    optional .bool user.isSuperAdmin, optional .bool user.isHidden]

def workflowValues (workflow : Dto.Workflow) : List Value :=
  [optional .int64 workflow.id, optional .string workflow.caption,
    optional .string workflow.description]

def stateValues (state : Dto.State) : List Value :=
  [optional .int64 state.id, optional .int64 state.workflowId, optional .string state.caption,
    optional .string state.description, optional .int64 state.weight,
    optional .int64 state.orderNumber, optional .bool state.isArchive,
    optional .bool state.isQueue]

def edgeValues (edge : Dto.Edge) : List Value :=
  [optional .int64 edge.id, optional .int64 edge.beginStateId, optional .int64 edge.endStateId]

def projectValues (project : Dto.Project) : List Value :=
  [optional .int64 project.id, optional .int64 project.parentId, optional .string project.caption,
    optional .string project.description, optional .timePoint project.createdAt,
    optional .timePoint project.updatedAt, optional .bool project.isArchive]

def phaseValues (phase : Dto.Phase) : List Value :=
  [optional .int64 phase.id, optional .int64 phase.projectId, optional .string phase.caption,
    optional .string phase.description, optional .timePoint phase.beginDate,
    optional .timePoint phase.endDate, optional .bool phase.isArchive]

def itemTypeValues (itemType : Dto.ItemType) : List Value :=
  [optional .int64 itemType.id, optional .int64 itemType.workflowId,
    optional .int64 itemType.defaultStateId, optional .string itemType.caption,
    optional .string itemType.kind, optional .string itemType.defaultContent]

def fieldTypeValues (fieldType : Dto.FieldType) : List Value :=
  [optional .int64 fieldType.id, optional .int64 fieldType.itemTypeId,
    optional .string fieldType.caption, optional .string fieldType.description,
    optional .string fieldType.valueType, optional .bool fieldType.isBoardVisible]

section
variable (h : ∀ bits, lib.truncate bits = (A.truncate bits).bmod (2 ^ 64))
include h

theorem user_generates :
    Generates A "User" userValues (Dto.User.fromJson lib) Dto.User.toJson := by
  have hfields : openApi.fields (bytes "User") = user := rfl
  refine .of hfields (fun json => ?_) (fun json => ?_) (fun dto => ?_)
  · simp [user, userValues, Dto.User.fromJson, (int64_reads h).readField, string_reads.readField,
      bool_reads.readField]
  · simp [user, Dto.User.fromJson, (int64_reads h).readField, string_reads.readField,
      bool_reads.readField, Bool.and_assoc]
  · simp [user, userValues, Dto.User.toJson, int64_writes.fieldsToJson,
      string_writes.fieldsToJson, bool_writes.fieldsToJson, fieldsToJson_nil]

theorem workflow_generates :
    Generates A "Workflow" workflowValues (Dto.Workflow.fromJson lib) Dto.Workflow.toJson := by
  have hfields : openApi.fields (bytes "Workflow") = workflow := rfl
  refine .of hfields (fun json => ?_) (fun json => ?_) (fun dto => ?_)
  · simp [workflow, workflowValues, Dto.Workflow.fromJson, (int64_reads h).readField,
      string_reads.readField]
  · simp [workflow, Dto.Workflow.fromJson, (int64_reads h).readField, string_reads.readField,
      Bool.and_assoc]
  · simp [workflow, workflowValues, Dto.Workflow.toJson, int64_writes.fieldsToJson,
      string_writes.fieldsToJson, fieldsToJson_nil]

theorem state_generates :
    Generates A "State" stateValues (Dto.State.fromJson lib) Dto.State.toJson := by
  have hfields : openApi.fields (bytes "State") = state := rfl
  refine .of hfields (fun json => ?_) (fun json => ?_) (fun dto => ?_)
  · simp [state, stateValues, Dto.State.fromJson, (int64_reads h).readField,
      string_reads.readField, bool_reads.readField]
  · simp [state, Dto.State.fromJson, (int64_reads h).readField, string_reads.readField,
      bool_reads.readField, Bool.and_assoc]
  · simp [state, stateValues, Dto.State.toJson, int64_writes.fieldsToJson,
      string_writes.fieldsToJson, bool_writes.fieldsToJson, fieldsToJson_nil]

theorem edge_generates :
    Generates A "Edge" edgeValues (Dto.Edge.fromJson lib) Dto.Edge.toJson := by
  have hfields : openApi.fields (bytes "Edge") = edge := rfl
  refine .of hfields (fun json => ?_) (fun json => ?_) (fun dto => ?_)
  · simp [edge, edgeValues, Dto.Edge.fromJson, (int64_reads h).readField]
  · simp [edge, Dto.Edge.fromJson, (int64_reads h).readField, Bool.and_assoc]
  · simp [edge, edgeValues, Dto.Edge.toJson, int64_writes.fieldsToJson, fieldsToJson_nil]

theorem project_generates :
    Generates A "Project" projectValues (Dto.Project.fromJson lib) Dto.Project.toJson := by
  have hfields : openApi.fields (bytes "Project") = project := rfl
  refine .of hfields (fun json => ?_) (fun json => ?_) (fun dto => ?_)
  · simp [project, projectValues, Dto.Project.fromJson, (int64_reads h).readField,
      string_reads.readField, (timePoint_reads h).readField, bool_reads.readField]
  · simp [project, Dto.Project.fromJson, (int64_reads h).readField, string_reads.readField,
      (timePoint_reads h).readField, bool_reads.readField, Bool.and_assoc]
  · simp [project, projectValues, Dto.Project.toJson, int64_writes.fieldsToJson,
      string_writes.fieldsToJson, timePoint_writes.fieldsToJson, bool_writes.fieldsToJson,
      fieldsToJson_nil]

theorem phase_generates :
    Generates A "Phase" phaseValues (Dto.Phase.fromJson lib) Dto.Phase.toJson := by
  have hfields : openApi.fields (bytes "Phase") = phase := rfl
  refine .of hfields (fun json => ?_) (fun json => ?_) (fun dto => ?_)
  · simp [phase, phaseValues, Dto.Phase.fromJson, (int64_reads h).readField,
      string_reads.readField, (timePoint_reads h).readField, bool_reads.readField]
  · simp [phase, Dto.Phase.fromJson, (int64_reads h).readField, string_reads.readField,
      (timePoint_reads h).readField, bool_reads.readField, Bool.and_assoc]
  · simp [phase, phaseValues, Dto.Phase.toJson, int64_writes.fieldsToJson,
      string_writes.fieldsToJson, timePoint_writes.fieldsToJson, bool_writes.fieldsToJson,
      fieldsToJson_nil]

theorem itemType_generates :
    Generates A "ItemType" itemTypeValues (Dto.ItemType.fromJson lib) Dto.ItemType.toJson := by
  have hfields : openApi.fields (bytes "ItemType") = itemType := rfl
  refine .of hfields (fun json => ?_) (fun json => ?_) (fun dto => ?_)
  · simp [itemType, itemTypeValues, Dto.ItemType.fromJson, (int64_reads h).readField,
      string_reads.readField]
  · simp [itemType, Dto.ItemType.fromJson, (int64_reads h).readField, string_reads.readField,
      Bool.and_assoc]
  · simp [itemType, itemTypeValues, Dto.ItemType.toJson, int64_writes.fieldsToJson,
      string_writes.fieldsToJson, fieldsToJson_nil]

theorem fieldType_generates :
    Generates A "FieldType" fieldTypeValues (Dto.FieldType.fromJson lib) Dto.FieldType.toJson := by
  have hfields : openApi.fields (bytes "FieldType") = fieldType := rfl
  refine .of hfields (fun json => ?_) (fun json => ?_) (fun dto => ?_)
  · simp [fieldType, fieldTypeValues, Dto.FieldType.fromJson, (int64_reads h).readField,
      string_reads.readField, bool_reads.readField]
  · simp [fieldType, Dto.FieldType.fromJson, (int64_reads h).readField, string_reads.readField,
      bool_reads.readField, Bool.and_assoc]
  · simp [fieldType, fieldTypeValues, Dto.FieldType.toJson, int64_writes.fieldsToJson,
      string_writes.fieldsToJson, bool_writes.fieldsToJson, fieldsToJson_nil]

end

end Generator

end Farado
