import Farado.Lib.Prepared
import Farado.Repositories.Project
import Farado.Repositories.User
import Farado.Repositories.Workflow

/-!
# The UPDATE statements

The seven `update` methods assemble their statement at run time: one chain of conditionals pushes
the SET clauses, and after the text is prepared a second one binds the parameters. Both chains are
here as the classes write them, and so is what the statement does to the columns of a row. For every
set of present fields the two chains agree, and the statement assigns what `setClauses` says.
-/

namespace Farado

open Relational Steps Prepared

variable {α C : Type}

/-- `if (field.has_value()) setClauses.push_back(…);` -/
def pushIfPresent (field : Option α) (texts : List String) : List String :=
  if field.isSome then texts else []

/-- `if (field.has_value()) stmt->bind…(…);` -/
def bindIfPresent (field : Option α) (bound : α → List (String × SqlValue)) :
    List (String × SqlValue) :=
  (field.map bound).getD []

/-- What is bound to a name. -/
def boundString (name : String) (value : Bytes) : String × SqlValue :=
  (name, .text (bindString value))

def boundInt64 (name : String) (value : Int) : String × SqlValue := (name, .integer value)

/-- A field's part of the three chains. -/
theorem agree_ifPresent {setColumn : String → SqlValue → C → Option C} {field : Option α}
    {texts : List String} {bound : α → List (String × SqlValue)} {set : α → C → C}
    (h : ∀ v, Agree setColumn texts (bound v) (set v)) :
    Agree setColumn (pushIfPresent field texts) (bindIfPresent field bound)
      (applyAll (setIfPresent field set)) := by
  cases field with
  | none => exact .nil
  | some v => exact h v

/-- The parts one after the other. -/
theorem agree_applyAll {setColumn : String → SqlValue → C → Option C} {texts texts' : List String}
    {bindings bindings' : List (String × SqlValue)} {l l' : List (C → C)}
    (h : Agree setColumn texts bindings (applyAll l))
    (h' : Agree setColumn texts' bindings' (applyAll l')) :
    Agree setColumn (texts ++ texts') (bindings ++ bindings') (applyAll (l ++ l')) := by
  have := h.append h'
  simpa only [← applyAll_append] using this

/-- The names bound for a field, when there are any. -/
theorem names_ifPresent {field : Option α} {bound : α → List (String × SqlValue)}
    {names : List String} (h : ∀ v, (bound v).map Prod.fst = names) :
    ((bindIfPresent field bound).map Prod.fst).Sublist names := by
  cases field with
  | none => exact List.nil_sublist _
  | some v => exact (h v).symm ▸ List.Sublist.refl _

namespace SqliteUserRepository

def setClauseTexts (user : Dto.User) : List String :=
  pushIfPresent user.firstName ["firstName = :firstName"] ++
    pushIfPresent user.middleName ["middleName = :middleName"] ++
    pushIfPresent user.lastName ["lastName = :lastName"] ++
    pushIfPresent user.email ["email = :email"] ++
    pushIfPresent user.needChangePassword ["needChangePassword = :needChangePassword"] ++
    pushIfPresent user.isBlocked ["isBlocked = :isBlocked"] ++
    pushIfPresent user.isSuperAdmin ["isSuperAdmin = :isSuperAdmin"] ++
    pushIfPresent user.isHidden ["isHidden = :isHidden"]

def bindings (user : Dto.User) : List (String × SqlValue) :=
  bindIfPresent user.firstName (fun v => [boundString "firstName" v]) ++
    bindIfPresent user.middleName (fun v => [boundString "middleName" v]) ++
    bindIfPresent user.lastName (fun v => [boundString "lastName" v]) ++
    bindIfPresent user.email (fun v => [boundString "email" v]) ++
    bindIfPresent user.needChangePassword (fun v => [boundInt64 "needChangePassword" (bindBool v)]) ++
    bindIfPresent user.isBlocked (fun v => [boundInt64 "isBlocked" (bindBool v)]) ++
    bindIfPresent user.isSuperAdmin (fun v => [boundInt64 "isSuperAdmin" (bindBool v)]) ++
    bindIfPresent user.isHidden (fun v => [boundInt64 "isHidden" (bindBool v)])

def setColumn (column : String) (value : SqlValue) (c : UserRow) : Option UserRow :=
  match column, value with
  | "firstName", .text s => some { c with firstName := some s }
  | "middleName", .text s => some { c with middleName := some s }
  | "lastName", .text s => some { c with lastName := some s }
  | "email", .text s => some { c with email := s }
  | "needChangePassword", .integer n => some { c with needChangePassword := n }
  | "isBlocked", .integer n => some { c with isBlocked := n }
  | "isSuperAdmin", .integer n => some { c with isSuperAdmin := n }
  | "isHidden", .integer n => some { c with isHidden := n }
  | _, _ => none

theorem agree_update (user : Dto.User) :
    Agree setColumn (setClauseTexts user) (bindings user) (applyAll (setClauses user)) := by
  refine agree_applyAll (agree_applyAll (agree_applyAll (agree_applyAll (agree_applyAll
    (agree_applyAll (agree_applyAll ?_ ?_) ?_) ?_) ?_) ?_) ?_) ?_
  all_goals exact agree_ifPresent fun v => .single (by decide +kernel) fun c => rfl

theorem names_sublist (user : Dto.User) : ((bindings user).map Prod.fst).Sublist
    (["firstName"] ++ ["middleName"] ++ ["lastName"] ++ ["email"] ++ ["needChangePassword"] ++
      ["isBlocked"] ++ ["isSuperAdmin"] ++ ["isHidden"]) := by
  simp only [bindings, List.map_append]
  refine ((((((List.Sublist.append ?_ ?_).append ?_).append ?_).append ?_).append ?_).append
    ?_).append ?_
  all_goals exact names_ifPresent fun v => rfl

end SqliteUserRepository

namespace SqliteWorkflowRepository

def setClauseTexts (workflow : Dto.Workflow) : List String :=
  pushIfPresent workflow.caption ["caption = :caption"] ++
    pushIfPresent workflow.description ["description = :description"]

def bindings (workflow : Dto.Workflow) : List (String × SqlValue) :=
  bindIfPresent workflow.caption (fun v => [boundString "caption" v]) ++
    bindIfPresent workflow.description (fun v => [boundString "description" v])

def setColumn (column : String) (value : SqlValue) (c : WorkflowRow) : Option WorkflowRow :=
  match column, value with
  | "caption", .text s => some { c with caption := s }
  | "description", .text s => some { c with description := some s }
  | _, _ => none

theorem agree_update (workflow : Dto.Workflow) :
    Agree setColumn (setClauseTexts workflow) (bindings workflow)
      (applyAll (setClauses workflow)) := by
  apply agree_applyAll
  all_goals exact agree_ifPresent fun v => .single (by decide +kernel) fun c => rfl

theorem names_sublist (workflow : Dto.Workflow) :
    ((bindings workflow).map Prod.fst).Sublist (["caption"] ++ ["description"]) := by
  simp only [bindings, List.map_append]
  apply List.Sublist.append
  all_goals exact names_ifPresent fun v => rfl

end SqliteWorkflowRepository

namespace SqliteStateRepository

def setClauseTexts (state : Dto.State) : List String :=
  pushIfPresent state.caption ["caption = :caption"] ++
    pushIfPresent state.description ["description = :description"] ++
    pushIfPresent state.weight ["weight = :weight"] ++
    pushIfPresent state.orderNumber ["orderNumber = :orderNumber"] ++
    pushIfPresent state.isArchive ["isArchive = :isArchive"] ++
    pushIfPresent state.isQueue ["isQueue = :isQueue"]

def bindings (state : Dto.State) : List (String × SqlValue) :=
  bindIfPresent state.caption (fun v => [boundString "caption" v]) ++
    bindIfPresent state.description (fun v => [boundString "description" v]) ++
    bindIfPresent state.weight (fun v => [boundInt64 "weight" v]) ++
    bindIfPresent state.orderNumber (fun v => [boundInt64 "orderNumber" v]) ++
    bindIfPresent state.isArchive (fun v => [boundInt64 "isArchive" (bindBool v)]) ++
    bindIfPresent state.isQueue (fun v => [boundInt64 "isQueue" (bindBool v)])

def setColumn (column : String) (value : SqlValue) (c : StateRow) : Option StateRow :=
  match column, value with
  | "caption", .text s => some { c with caption := s }
  | "description", .text s => some { c with description := some s }
  | "weight", .integer n => some { c with weight := some n }
  | "orderNumber", .integer n => some { c with orderNumber := some n }
  | "isArchive", .integer n => some { c with isArchive := n }
  | "isQueue", .integer n => some { c with isQueue := n }
  | _, _ => none

theorem agree_update (state : Dto.State) :
    Agree setColumn (setClauseTexts state) (bindings state) (applyAll (setClauses state)) := by
  refine agree_applyAll (agree_applyAll (agree_applyAll (agree_applyAll (agree_applyAll
    ?_ ?_) ?_) ?_) ?_) ?_
  all_goals exact agree_ifPresent fun v => .single (by decide +kernel) fun c => rfl

theorem names_sublist (state : Dto.State) : ((bindings state).map Prod.fst).Sublist
    (["caption"] ++ ["description"] ++ ["weight"] ++ ["orderNumber"] ++ ["isArchive"] ++
      ["isQueue"]) := by
  simp only [bindings, List.map_append]
  refine ((((List.Sublist.append ?_ ?_).append ?_).append ?_).append ?_).append ?_
  all_goals exact names_ifPresent fun v => rfl

end SqliteStateRepository

namespace SqliteProjectRepository

def setClauseTexts (project : Dto.Project) : List String :=
  pushIfPresent project.parentId ["parentId = :parentId"] ++
    pushIfPresent project.caption ["caption = :caption", "searchCaption = :searchCaption"] ++
    pushIfPresent project.description
      ["description = :description", "searchDescription = :searchDescription"] ++
    pushIfPresent project.isArchive ["isArchive = :isArchive"] ++
    ["updatedAt = :updatedAt"]

def bindings (env : Environment) (now : Int) (project : Dto.Project) : List (String × SqlValue) :=
  bindIfPresent project.parentId (fun v => [boundInt64 "parentId" v]) ++
    bindIfPresent project.caption (fun v =>
      [boundString "caption" v, boundString "searchCaption" (toLowerCase env v)]) ++
    bindIfPresent project.description (fun v =>
      [boundString "description" v, boundString "searchDescription" (toLowerCase env v)]) ++
    bindIfPresent project.isArchive (fun v => [boundInt64 "isArchive" (bindBool v)]) ++
    [boundInt64 "updatedAt" (Dto.timePointToSeconds now)]

def setColumn (column : String) (value : SqlValue) (c : ProjectRow) : Option ProjectRow :=
  match column, value with
  | "parentId", .integer n => some { c with parentId := some n }
  | "caption", .text s => some { c with caption := s }
  | "searchCaption", .text s => some { c with searchCaption := some s }
  | "description", .text s => some { c with description := some s }
  | "searchDescription", .text s => some { c with searchDescription := some s }
  | "isArchive", .integer n => some { c with isArchive := n }
  | "updatedAt", .integer n => some { c with updatedAt := n }
  | _, _ => none

theorem agree_update (env : Environment) (now : Int) (project : Dto.Project) :
    Agree setColumn (setClauseTexts project) (bindings env now project)
      (applyAll (setClauses env now project)) := by
  refine agree_applyAll (agree_applyAll (agree_applyAll (agree_applyAll ?parentId ?caption)
    ?description) ?isArchive) ?updatedAt
  case caption | description =>
    -- the two clauses of a text are one step of `setClauses`
    exact agree_ifPresent fun v => .pair (by decide +kernel) (by decide +kernel)
      (fun c => rfl) (fun c => rfl) fun c => rfl
  case updatedAt => exact .single (by decide +kernel) fun c => rfl
  all_goals exact agree_ifPresent fun v => .single (by decide +kernel) fun c => rfl

theorem names_sublist (env : Environment) (now : Int) (project : Dto.Project) :
    ((bindings env now project).map Prod.fst).Sublist
      (["parentId"] ++ ["caption", "searchCaption"] ++ ["description", "searchDescription"] ++
        ["isArchive"] ++ ["updatedAt"]) := by
  simp only [bindings, List.map_append]
  refine (((List.Sublist.append ?_ ?_).append ?_).append ?_).append (List.Sublist.refl _)
  all_goals exact names_ifPresent fun v => rfl

end SqliteProjectRepository

namespace SqlitePhaseRepository

def setClauseTexts (phase : Dto.Phase) : List String :=
  pushIfPresent phase.projectId ["projectId = :projectId"] ++
    pushIfPresent phase.caption ["caption = :caption", "searchCaption = :searchCaption"] ++
    pushIfPresent phase.description
      ["description = :description", "searchDescription = :searchDescription"] ++
    pushIfPresent phase.beginDate ["beginDate = :beginDate"] ++
    pushIfPresent phase.endDate ["endDate = :endDate"] ++
    pushIfPresent phase.isArchive ["isArchive = :isArchive"]

def bindings (env : Environment) (phase : Dto.Phase) : List (String × SqlValue) :=
  bindIfPresent phase.projectId (fun v => [boundInt64 "projectId" v]) ++
    bindIfPresent phase.caption (fun v =>
      [boundString "caption" v, boundString "searchCaption" (toLowerCase env v)]) ++
    bindIfPresent phase.description (fun v =>
      [boundString "description" v, boundString "searchDescription" (toLowerCase env v)]) ++
    bindIfPresent phase.beginDate (fun v =>
      [boundInt64 "beginDate" (Dto.timePointToSeconds v)]) ++
    bindIfPresent phase.endDate (fun v => [boundInt64 "endDate" (Dto.timePointToSeconds v)]) ++
    bindIfPresent phase.isArchive (fun v => [boundInt64 "isArchive" (bindBool v)])

def setColumn (column : String) (value : SqlValue) (c : PhaseRow) : Option PhaseRow :=
  match column, value with
  | "projectId", .integer n => some { c with projectId := n }
  | "caption", .text s => some { c with caption := s }
  | "searchCaption", .text s => some { c with searchCaption := some s }
  | "description", .text s => some { c with description := some s }
  | "searchDescription", .text s => some { c with searchDescription := some s }
  | "beginDate", .integer n => some { c with beginDate := some n }
  | "endDate", .integer n => some { c with endDate := some n }
  | "isArchive", .integer n => some { c with isArchive := n }
  | _, _ => none

theorem agree_update (env : Environment) (phase : Dto.Phase) :
    Agree setColumn (setClauseTexts phase) (bindings env phase)
      (applyAll (setClauses env phase)) := by
  refine agree_applyAll (agree_applyAll (agree_applyAll (agree_applyAll (agree_applyAll
    ?projectId ?caption) ?description) ?beginDate) ?endDate) ?isArchive
  case caption | description =>
    exact agree_ifPresent fun v => .pair (by decide +kernel) (by decide +kernel)
      (fun c => rfl) (fun c => rfl) fun c => rfl
  all_goals exact agree_ifPresent fun v => .single (by decide +kernel) fun c => rfl

theorem names_sublist (env : Environment) (phase : Dto.Phase) :
    ((bindings env phase).map Prod.fst).Sublist
      (["projectId"] ++ ["caption", "searchCaption"] ++ ["description", "searchDescription"] ++
        ["beginDate"] ++ ["endDate"] ++ ["isArchive"]) := by
  simp only [bindings, List.map_append]
  refine ((((List.Sublist.append ?_ ?_).append ?_).append ?_).append ?_).append ?_
  all_goals exact names_ifPresent fun v => rfl

end SqlitePhaseRepository

namespace SqliteItemTypeRepository

def setClauseTexts (itemType : Dto.ItemType) : List String :=
  pushIfPresent itemType.workflowId ["workflowId = :workflowId"] ++
    pushIfPresent itemType.defaultStateId ["defaultStateId = :defaultStateId"] ++
    pushIfPresent itemType.caption ["caption = :caption"] ++
    pushIfPresent itemType.kind ["kind = :kind"] ++
    pushIfPresent itemType.defaultContent ["defaultContent = :defaultContent"]

def bindings (itemType : Dto.ItemType) : List (String × SqlValue) :=
  bindIfPresent itemType.workflowId (fun v => [boundInt64 "workflowId" v]) ++
    bindIfPresent itemType.defaultStateId (fun v => [boundInt64 "defaultStateId" v]) ++
    bindIfPresent itemType.caption (fun v => [boundString "caption" v]) ++
    bindIfPresent itemType.kind (fun v => [boundString "kind" v]) ++
    bindIfPresent itemType.defaultContent (fun v => [boundString "defaultContent" v])

def setColumn (column : String) (value : SqlValue) (c : ItemTypeRow) : Option ItemTypeRow :=
  match column, value with
  | "workflowId", .integer n => some { c with workflowId := n }
  | "defaultStateId", .integer n => some { c with defaultStateId := some n }
  | "caption", .text s => some { c with caption := s }
  | "kind", .text s => some { c with kind := s }
  | "defaultContent", .text s => some { c with defaultContent := some s }
  | _, _ => none

theorem agree_update (itemType : Dto.ItemType) :
    Agree setColumn (setClauseTexts itemType) (bindings itemType)
      (applyAll (setClauses itemType)) := by
  refine agree_applyAll (agree_applyAll (agree_applyAll (agree_applyAll ?_ ?_) ?_) ?_) ?_
  all_goals exact agree_ifPresent fun v => .single (by decide +kernel) fun c => rfl

theorem names_sublist (itemType : Dto.ItemType) : ((bindings itemType).map Prod.fst).Sublist
    (["workflowId"] ++ ["defaultStateId"] ++ ["caption"] ++ ["kind"] ++ ["defaultContent"]) := by
  simp only [bindings, List.map_append]
  refine (((List.Sublist.append ?_ ?_).append ?_).append ?_).append ?_
  all_goals exact names_ifPresent fun v => rfl

end SqliteItemTypeRepository

namespace SqliteFieldTypeRepository

def setClauseTexts (fieldType : Dto.FieldType) : List String :=
  pushIfPresent fieldType.itemTypeId ["itemTypeId = :itemTypeId"] ++
    pushIfPresent fieldType.caption ["caption = :caption"] ++
    pushIfPresent fieldType.description ["description = :description"] ++
    pushIfPresent fieldType.valueType ["valueType = :valueType"] ++
    pushIfPresent fieldType.isBoardVisible ["isBoardVisible = :isBoardVisible"]

def bindings (fieldType : Dto.FieldType) : List (String × SqlValue) :=
  bindIfPresent fieldType.itemTypeId (fun v => [boundInt64 "itemTypeId" v]) ++
    bindIfPresent fieldType.caption (fun v => [boundString "caption" v]) ++
    bindIfPresent fieldType.description (fun v => [boundString "description" v]) ++
    bindIfPresent fieldType.valueType (fun v => [boundString "valueType" v]) ++
    bindIfPresent fieldType.isBoardVisible (fun v => [boundInt64 "isBoardVisible" (bindBool v)])

def setColumn (column : String) (value : SqlValue) (c : FieldTypeRow) : Option FieldTypeRow :=
  match column, value with
  | "itemTypeId", .integer n => some { c with itemTypeId := n }
  | "caption", .text s => some { c with caption := s }
  | "description", .text s => some { c with description := some s }
  | "valueType", .text s => some { c with valueType := s }
  | "isBoardVisible", .integer n => some { c with isBoardVisible := n }
  | _, _ => none

theorem agree_update (fieldType : Dto.FieldType) :
    Agree setColumn (setClauseTexts fieldType) (bindings fieldType)
      (applyAll (setClauses fieldType)) := by
  refine agree_applyAll (agree_applyAll (agree_applyAll (agree_applyAll ?_ ?_) ?_) ?_) ?_
  all_goals exact agree_ifPresent fun v => .single (by decide +kernel) fun c => rfl

theorem names_sublist (fieldType : Dto.FieldType) : ((bindings fieldType).map Prod.fst).Sublist
    (["itemTypeId"] ++ ["caption"] ++ ["description"] ++ ["valueType"] ++ ["isBoardVisible"]) := by
  simp only [bindings, List.map_append]
  refine (((List.Sublist.append ?_ ?_).append ?_).append ?_).append ?_
  all_goals exact names_ifPresent fun v => rfl

end SqliteFieldTypeRepository

end Farado
