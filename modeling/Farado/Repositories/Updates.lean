import Farado.Projects.SearchColumns
import Farado.Repositories.RoundTrip
import Farado.Repositories.Statements

/-!
# What the updates do

An object that is handed to `update` may have any of its fields. Those that are present and can be
updated override the columns of the row; the other columns, the other rows and the other tables stay
as they are.
-/

namespace Farado

open Relational Steps Prepared

/-- No text has a NUL, where binding would cut it. -/
def NulFree (texts : List (Option Bytes)) : Prop := ∀ text ∈ texts, ∀ b ∈ text, 0 ∉ b

instance NulFree.decidable (texts : List (Option Bytes)) : Decidable (NulFree texts) :=
  inferInstanceAs (Decidable (∀ text ∈ texts, ∀ b ∈ text, 0 ∉ b))

theorem NulFree.map_bindString {texts : List (Option Bytes)} (h : NulFree texts)
    {t : Option Bytes} (ht : t ∈ texts) : t.map bindString = t := by
  cases t with
  | none => rfl
  | some b => rw [Option.map_some, bindString, cString_eq_self_iff.mpr (h _ ht b rfl)]

/-! ## The overridden rows -/

/-- The login is never updated. -/
def UserRow.override (c : UserRow) (user : Dto.User) : UserRow where
  login := c.login
  firstName := user.firstName.or c.firstName
  middleName := user.middleName.or c.middleName
  lastName := user.lastName.or c.lastName
  email := user.email.getD c.email
  passwordHash := c.passwordHash
  needChangePassword := (user.needChangePassword.map bindBool).getD c.needChangePassword
  isBlocked := (user.isBlocked.map bindBool).getD c.isBlocked
  isSuperAdmin := (user.isSuperAdmin.map bindBool).getD c.isSuperAdmin
  isHidden := (user.isHidden.map bindBool).getD c.isHidden

theorem UserRow.applyAll_setClauses {user : Dto.User} (h : NulFree (userReader.texts user))
    (c : UserRow) : applyAll (SqliteUserRepository.setClauses user) c = c.override user := by
  obtain ⟨id, login, firstName, middleName, lastName, email, needChangePassword, isBlocked,
    isSuperAdmin, isHidden⟩ := user
  have hfirstName := h.map_bindString (t := firstName) (by simp [userReader])
  have hmiddleName := h.map_bindString (t := middleName) (by simp [userReader])
  have hlastName := h.map_bindString (t := lastName) (by simp [userReader])
  have hemail := h.map_bindString (t := email) (by simp [userReader])
  unfold UserRow.override
  conv_rhs => rw [← hfirstName, ← hmiddleName, ← hlastName, ← hemail]
  simp only [SqliteUserRepository.setClauses, applyAll_append, applyAll_setIfPresent]
  cases firstName <;> cases middleName <;> cases lastName <;> cases email <;>
    cases needChangePassword <;> cases isBlocked <;> cases isSuperAdmin <;> cases isHidden <;> rfl

def WorkflowRow.override (c : WorkflowRow) (workflow : Dto.Workflow) : WorkflowRow where
  caption := workflow.caption.getD c.caption
  description := workflow.description.or c.description

theorem WorkflowRow.applyAll_setClauses {workflow : Dto.Workflow}
    (h : NulFree (workflowReader.texts workflow)) (c : WorkflowRow) :
    applyAll (SqliteWorkflowRepository.setClauses workflow) c = c.override workflow := by
  obtain ⟨id, caption, description⟩ := workflow
  have hcaption := h.map_bindString (t := caption) (by simp [workflowReader])
  have hdescription := h.map_bindString (t := description) (by simp [workflowReader])
  unfold WorkflowRow.override
  conv_rhs => rw [← hcaption, ← hdescription]
  simp only [SqliteWorkflowRepository.setClauses, applyAll_append, applyAll_setIfPresent]
  cases caption <;> cases description <;> rfl

/-- A state stays in its workflow. -/
def StateRow.override (c : StateRow) (state : Dto.State) : StateRow where
  workflowId := c.workflowId
  caption := state.caption.getD c.caption
  description := state.description.or c.description
  weight := state.weight.or c.weight
  orderNumber := state.orderNumber.or c.orderNumber
  isArchive := (state.isArchive.map bindBool).getD c.isArchive
  isQueue := (state.isQueue.map bindBool).getD c.isQueue

theorem StateRow.applyAll_setClauses {state : Dto.State} (h : NulFree (stateReader.texts state))
    (c : StateRow) : applyAll (SqliteStateRepository.setClauses state) c = c.override state := by
  obtain ⟨id, workflowId, caption, description, weight, orderNumber, isArchive, isQueue⟩ := state
  have hcaption := h.map_bindString (t := caption) (by simp [stateReader])
  have hdescription := h.map_bindString (t := description) (by simp [stateReader])
  unfold StateRow.override
  conv_rhs => rw [← hcaption, ← hdescription]
  simp only [SqliteStateRepository.setClauses, applyAll_append, applyAll_setIfPresent]
  cases caption <;> cases description <;> cases weight <;> cases orderNumber <;>
    cases isArchive <;> cases isQueue <;> rfl

/-- `createdAt` is never updated and `updatedAt` always. -/
def ProjectRow.override (env : Environment) (now : Int) (c : ProjectRow) (project : Dto.Project) :
    ProjectRow where
  parentId := project.parentId.or c.parentId
  caption := project.caption.getD c.caption
  description := project.description.or c.description
  searchCaption := (project.caption.map (toLowerCase env)).or c.searchCaption
  searchDescription := (project.description.map (toLowerCase env)).or c.searchDescription
  createdAt := c.createdAt
  updatedAt := Dto.timePointToSeconds now
  isArchive := (project.isArchive.map bindBool).getD c.isArchive

def PhaseRow.override (env : Environment) (c : PhaseRow) (phase : Dto.Phase) : PhaseRow where
  projectId := phase.projectId.getD c.projectId
  caption := phase.caption.getD c.caption
  description := phase.description.or c.description
  beginDate := (phase.beginDate.map Dto.timePointToSeconds).or c.beginDate
  endDate := (phase.endDate.map Dto.timePointToSeconds).or c.endDate
  isArchive := (phase.isArchive.map bindBool).getD c.isArchive
  searchCaption := (phase.caption.map (toLowerCase env)).or c.searchCaption
  searchDescription := (phase.description.map (toLowerCase env)).or c.searchDescription

section
variable {env : Environment} (hfold : ∀ text, 0 ∉ text → 0 ∉ env.foldCase text)

theorem map_toLowerCase_bindString (env : Environment) (text : Option Bytes) :
    (text.map bindString).map (toLowerCase env) = text.map (toLowerCase env) := by
  rw [Option.map_map]
  congr 1
  exact funext (toLowerCase_bindString env)

include hfold

theorem ProjectRow.applyAll_setClauses {now : Int} {project : Dto.Project}
    (h : NulFree (projectReader.texts project)) (c : ProjectRow) :
    applyAll (SqliteProjectRepository.setClauses env now project) c =
      c.override env now project := by
  obtain ⟨id, parentId, caption, description, createdAt, updatedAt, isArchive⟩ := project
  have hcaption := h.map_bindString (t := caption) (by simp [projectReader])
  have hdescription := h.map_bindString (t := description) (by simp [projectReader])
  unfold ProjectRow.override
  conv_rhs => rw [← hcaption, ← hdescription]
  simp only [SqliteProjectRepository.setClauses, applyAll_append, applyAll_setIfPresent,
    bindString_toLowerCase hfold, map_toLowerCase_bindString]
  cases parentId <;> cases caption <;> cases description <;> cases isArchive <;> rfl

theorem PhaseRow.applyAll_setClauses {phase : Dto.Phase} (h : NulFree (phaseReader.texts phase))
    (c : PhaseRow) :
    applyAll (SqlitePhaseRepository.setClauses env phase) c = c.override env phase := by
  obtain ⟨id, projectId, caption, description, beginDate, endDate, isArchive⟩ := phase
  have hcaption := h.map_bindString (t := caption) (by simp [phaseReader])
  have hdescription := h.map_bindString (t := description) (by simp [phaseReader])
  unfold PhaseRow.override
  conv_rhs => rw [← hcaption, ← hdescription]
  simp only [SqlitePhaseRepository.setClauses, applyAll_append, applyAll_setIfPresent,
    bindString_toLowerCase hfold, map_toLowerCase_bindString]
  cases projectId <;> cases caption <;> cases description <;> cases beginDate <;>
    cases endDate <;> cases isArchive <;> rfl

end

def ItemTypeRow.override (c : ItemTypeRow) (itemType : Dto.ItemType) : ItemTypeRow where
  workflowId := itemType.workflowId.getD c.workflowId
  defaultStateId := itemType.defaultStateId.or c.defaultStateId
  caption := itemType.caption.getD c.caption
  kind := itemType.kind.getD c.kind
  defaultContent := itemType.defaultContent.or c.defaultContent

theorem ItemTypeRow.applyAll_setClauses {itemType : Dto.ItemType}
    (h : NulFree (itemTypeReader.texts itemType)) (c : ItemTypeRow) :
    applyAll (SqliteItemTypeRepository.setClauses itemType) c = c.override itemType := by
  obtain ⟨id, workflowId, defaultStateId, caption, kind, defaultContent⟩ := itemType
  have hcaption := h.map_bindString (t := caption) (by simp [itemTypeReader])
  have hkind := h.map_bindString (t := kind) (by simp [itemTypeReader])
  have hdefaultContent := h.map_bindString (t := defaultContent) (by simp [itemTypeReader])
  unfold ItemTypeRow.override
  conv_rhs => rw [← hcaption, ← hkind, ← hdefaultContent]
  simp only [SqliteItemTypeRepository.setClauses, applyAll_append, applyAll_setIfPresent]
  cases workflowId <;> cases defaultStateId <;> cases caption <;> cases kind <;>
    cases defaultContent <;> rfl

def FieldTypeRow.override (c : FieldTypeRow) (fieldType : Dto.FieldType) : FieldTypeRow where
  itemTypeId := fieldType.itemTypeId.getD c.itemTypeId
  caption := fieldType.caption.getD c.caption
  description := fieldType.description.or c.description
  valueType := fieldType.valueType.getD c.valueType
  isBoardVisible := (fieldType.isBoardVisible.map bindBool).getD c.isBoardVisible

theorem FieldTypeRow.applyAll_setClauses {fieldType : Dto.FieldType}
    (h : NulFree (fieldTypeReader.texts fieldType)) (c : FieldTypeRow) :
    applyAll (SqliteFieldTypeRepository.setClauses fieldType) c = c.override fieldType := by
  obtain ⟨id, itemTypeId, caption, description, valueType, isBoardVisible⟩ := fieldType
  have hcaption := h.map_bindString (t := caption) (by simp [fieldTypeReader])
  have hdescription := h.map_bindString (t := description) (by simp [fieldTypeReader])
  have hvalueType := h.map_bindString (t := valueType) (by simp [fieldTypeReader])
  unfold FieldTypeRow.override
  conv_rhs => rw [← hcaption, ← hdescription, ← hvalueType]
  simp only [SqliteFieldTypeRepository.setClauses, applyAll_append, applyAll_setIfPresent]
  cases itemTypeId <;> cases caption <;> cases description <;> cases valueType <;>
    cases isBoardVisible <;> rfl

/-! ## All seven -/

namespace Stored

/-- The table, as the statement names it. -/
def tableName : Stored → String
  | workflow => "Workflow"
  | state => "State"
  | project => "Project"
  | phase => "Phase"
  | itemType => "ItemType"
  | fieldType => "FieldType"
  | user => "User"

def id : (s : Stored) → s.Dto → Option Int
  | workflow, d => Dto.Workflow.id d
  | state, d => Dto.State.id d
  | project, d => Dto.Project.id d
  | phase, d => Dto.Phase.id d
  | itemType, d => Dto.ItemType.id d
  | fieldType, d => Dto.FieldType.id d
  | user, d => Dto.User.id d

/-- `update`; the one for projects reads the clock. -/
def update (env : Environment) (now : Int) : (s : Stored) → s.Dto → Db Bool
  | workflow, d => SqliteWorkflowRepository.update d
  | state, d => SqliteStateRepository.update d
  | project, d => SqliteProjectRepository.update env now d
  | phase, d => SqlitePhaseRepository.update env d
  | itemType, d => SqliteItemTypeRepository.update d
  | fieldType, d => SqliteFieldTypeRepository.update d
  | user, d => SqliteUserRepository.update d

def setClauses (env : Environment) (now : Int) :
    (s : Stored) → s.Dto → List (Columns s.table → Columns s.table)
  | workflow, d => SqliteWorkflowRepository.setClauses d
  | state, d => SqliteStateRepository.setClauses d
  | project, d => SqliteProjectRepository.setClauses env now d
  | phase, d => SqlitePhaseRepository.setClauses env d
  | itemType, d => SqliteItemTypeRepository.setClauses d
  | fieldType, d => SqliteFieldTypeRepository.setClauses d
  | user, d => SqliteUserRepository.setClauses d

def setClauseTexts : (s : Stored) → s.Dto → List String
  | workflow, d => SqliteWorkflowRepository.setClauseTexts d
  | state, d => SqliteStateRepository.setClauseTexts d
  | project, d => SqliteProjectRepository.setClauseTexts d
  | phase, d => SqlitePhaseRepository.setClauseTexts d
  | itemType, d => SqliteItemTypeRepository.setClauseTexts d
  | fieldType, d => SqliteFieldTypeRepository.setClauseTexts d
  | user, d => SqliteUserRepository.setClauseTexts d

/-- The text that is prepared. -/
def statement (s : Stored) (d : s.Dto) : String := updateText s.tableName (s.setClauseTexts d)

/-- What is bound for the fields. -/
def fieldBindings (env : Environment) (now : Int) :
    (s : Stored) → s.Dto → List (String × SqlValue)
  | workflow, d => SqliteWorkflowRepository.bindings d
  | state, d => SqliteStateRepository.bindings d
  | project, d => SqliteProjectRepository.bindings env now d
  | phase, d => SqlitePhaseRepository.bindings env d
  | itemType, d => SqliteItemTypeRepository.bindings d
  | fieldType, d => SqliteFieldTypeRepository.bindings d
  | user, d => SqliteUserRepository.bindings d

/-- Everything that is bound: the id comes last. -/
def bindings (env : Environment) (now : Int) (s : Stored) (d : s.Dto) (id : Int) :
    List (String × SqlValue) :=
  s.fieldBindings env now d ++ [boundInt64 "id" id]

def setColumn :
    (s : Stored) → String → SqlValue → Columns s.table → Option (Columns s.table)
  | workflow => SqliteWorkflowRepository.setColumn
  | state => SqliteStateRepository.setColumn
  | project => SqliteProjectRepository.setColumn
  | phase => SqlitePhaseRepository.setColumn
  | itemType => SqliteItemTypeRepository.setColumn
  | fieldType => SqliteFieldTypeRepository.setColumn
  | user => SqliteUserRepository.setColumn

def override (env : Environment) (now : Int) :
    (s : Stored) → s.Dto → Columns s.table → Columns s.table
  | workflow, d, c => WorkflowRow.override c d
  | state, d, c => StateRow.override c d
  | project, d, c => ProjectRow.override env now c d
  | phase, d, c => PhaseRow.override env c d
  | itemType, d, c => ItemTypeRow.override c d
  | fieldType, d, c => FieldTypeRow.override c d
  | user, d, c => UserRow.override c d

/-- Some field is present that `update` writes. -/
def hasUpdate : (s : Stored) → s.Dto → Bool
  | workflow, (d : Dto.Workflow) => d.caption.isSome || d.description.isSome
  | state, (d : Dto.State) => d.caption.isSome || d.description.isSome || d.weight.isSome ||
      d.orderNumber.isSome || d.isArchive.isSome || d.isQueue.isSome
  | project, (d : Dto.Project) => d.parentId.isSome || d.caption.isSome || d.description.isSome ||
      d.isArchive.isSome
  | phase, (d : Dto.Phase) => d.projectId.isSome || d.caption.isSome || d.description.isSome ||
      d.beginDate.isSome || d.endDate.isSome || d.isArchive.isSome
  | itemType, (d : Dto.ItemType) => d.workflowId.isSome || d.defaultStateId.isSome ||
      d.caption.isSome || d.kind.isSome || d.defaultContent.isSome
  | fieldType, (d : Dto.FieldType) => d.itemTypeId.isSome || d.caption.isSome ||
      d.description.isSome || d.valueType.isSome || d.isBoardVisible.isSome
  | user, (d : Dto.User) => d.firstName.isSome || d.middleName.isSome || d.lastName.isSome ||
      d.email.isSome || d.needChangePassword.isSome || d.isBlocked.isSome ||
      d.isSuperAdmin.isSome || d.isHidden.isSome

/-! ### Text and bindings -/

theorem agree_update (env : Environment) (now : Int) (s : Stored) (d : s.Dto) :
    Agree s.setColumn (s.setClauseTexts d) (s.fieldBindings env now d)
      (applyAll (s.setClauses env now d)) := by
  cases s with
  | workflow => exact SqliteWorkflowRepository.agree_update d
  | state => exact SqliteStateRepository.agree_update d
  | project => exact SqliteProjectRepository.agree_update env now d
  | phase => exact SqlitePhaseRepository.agree_update env d
  | itemType => exact SqliteItemTypeRepository.agree_update d
  | fieldType => exact SqliteFieldTypeRepository.agree_update d
  | user => exact SqliteUserRepository.agree_update d

/-- No parameter is bound twice. -/
theorem nodup_bindings (env : Environment) (now : Int) (s : Stored) (d : s.Dto) (id : Int) :
    ((s.bindings env now d id).map Prod.fst).Nodup := by
  have happend {names : List String} (h : ((s.fieldBindings env now d).map Prod.fst).Sublist names)
      (hnodup : (names ++ ["id"]).Nodup) : ((s.bindings env now d id).map Prod.fst).Nodup := by
    rw [bindings, List.map_append]
    exact (h.append (.refl ["id"])).nodup hnodup
  cases s with
  | workflow => exact happend (SqliteWorkflowRepository.names_sublist d) (by decide)
  | state => exact happend (SqliteStateRepository.names_sublist d) (by decide)
  | project => exact happend (SqliteProjectRepository.names_sublist env now d) (by decide)
  | phase => exact happend (SqlitePhaseRepository.names_sublist env d) (by decide)
  | itemType => exact happend (SqliteItemTypeRepository.names_sublist d) (by decide)
  | fieldType => exact happend (SqliteFieldTypeRepository.names_sublist d) (by decide)
  | user => exact happend (SqliteUserRepository.names_sublist d) (by decide)

/-- The placeholders of the statement are the parameters that are bound. -/
theorem parameters_statement (env : Environment) (now : Int) (s : Stored) (d : s.Dto) (id : Int) :
    parameters (s.statement d).toList = (s.bindings env now d id).map Prod.fst := by
  have htable : ':' ∉ s.tableName.toList := by cases s <;> decide
  rw [statement, (s.agree_update env now d).parameters_updateText htable, bindings, List.map_append]
  rfl

/-- What the clauses of the present fields set. -/
theorem applyAll_setClauses {env : Environment} (hfold : ∀ text, 0 ∉ text → 0 ∉ env.foldCase text)
    (now : Int) (s : Stored) {d : s.Dto} (hnul : NulFree (s.reader.texts d))
    (c : Columns s.table) : applyAll (s.setClauses env now d) c = s.override env now d c := by
  cases s with
  | workflow => exact WorkflowRow.applyAll_setClauses hnul c
  | state => exact StateRow.applyAll_setClauses hnul c
  | project => exact ProjectRow.applyAll_setClauses hfold hnul c
  | phase => exact PhaseRow.applyAll_setClauses hfold hnul c
  | itemType => exact ItemTypeRow.applyAll_setClauses hnul c
  | fieldType => exact FieldTypeRow.applyAll_setClauses hnul c
  | user => exact UserRow.applyAll_setClauses hnul c

/-- An update without a field to write sets nothing; the one for projects sets the time. -/
theorem setClauses_eq_nil {env : Environment} {now : Int} {s : Stored} {d : s.Dto}
    (hs : s ≠ project) (h : s.hasUpdate d = false) : s.setClauses env now d = [] := by
  cases s with
  | project => exact absurd rfl hs
  | workflow =>
    simp only [hasUpdate, Bool.or_eq_false_iff, Option.isSome_eq_false_iff,
      Option.isNone_iff_eq_none] at h
    show SqliteWorkflowRepository.setClauses d = []
    simp [SqliteWorkflowRepository.setClauses, setIfPresent, h]
  | state =>
    simp only [hasUpdate, Bool.or_eq_false_iff, Option.isSome_eq_false_iff,
      Option.isNone_iff_eq_none] at h
    show SqliteStateRepository.setClauses d = []
    simp [SqliteStateRepository.setClauses, setIfPresent, h]
  | phase =>
    simp only [hasUpdate, Bool.or_eq_false_iff, Option.isSome_eq_false_iff,
      Option.isNone_iff_eq_none] at h
    show SqlitePhaseRepository.setClauses env d = []
    simp [SqlitePhaseRepository.setClauses, setIfPresent, h]
  | itemType =>
    simp only [hasUpdate, Bool.or_eq_false_iff, Option.isSome_eq_false_iff,
      Option.isNone_iff_eq_none] at h
    show SqliteItemTypeRepository.setClauses d = []
    simp [SqliteItemTypeRepository.setClauses, setIfPresent, h]
  | fieldType =>
    simp only [hasUpdate, Bool.or_eq_false_iff, Option.isSome_eq_false_iff,
      Option.isNone_iff_eq_none] at h
    show SqliteFieldTypeRepository.setClauses d = []
    simp [SqliteFieldTypeRepository.setClauses, setIfPresent, h]
  | user =>
    simp only [hasUpdate, Bool.or_eq_false_iff, Option.isSome_eq_false_iff,
      Option.isNone_iff_eq_none] at h
    show SqliteUserRepository.setClauses d = []
    simp [SqliteUserRepository.setClauses, setIfPresent, h]

/-- `update` refuses, or it is the common pattern. -/
theorem update_cases (env : Environment) (now : Int) (s : Stored) (d : s.Dto) :
    s.update env now d = pure false ∨
      s.update env now d = updateIn s.table (s.id d) (s.setClauses env now d) := by
  cases s with
  | itemType =>
    change SqliteItemTypeRepository.update d = _ ∨ SqliteItemTypeRepository.update d = _
    unfold SqliteItemTypeRepository.update
    split
    · exact .inl rfl
    · exact .inr rfl
  | fieldType =>
    change SqliteFieldTypeRepository.update d = _ ∨ SqliteFieldTypeRepository.update d = _
    unfold SqliteFieldTypeRepository.update
    split
    · exact .inl rfl
    · exact .inr rfl
  | workflow | state | project | phase | user => exact .inr rfl

/-- What `update` may do to the rows, and what it answers. -/
theorem run_update {env : Environment} (hfold : ∀ text, 0 ∉ text → 0 ∉ env.foldCase text)
    (now : Int) (s : Stored) {d : s.Dto} (hnul : NulFree (s.reader.texts d)) (c : Connection) :
    ((s.update env now d).result c = .ok false ∧
      ∀ t, ((s.update env now d).after c).db.rows t = c.db.rows t) ∨
    ((s.update env now d).result c = .ok true ∧ (s = project ∨ s.hasUpdate d = true) ∧
      ∃ id, s.id d = some id ∧ id ∈ c.db.ids s.table ∧
        ((s.update env now d).after c).db.rows s.table =
          (c.db.rows s.table).map (Database.updateRow id (s.override env now d)) ∧
        ∀ t, t ≠ s.table → ((s.update env now d).after c).db.rows t = c.db.rows t) := by
  rcases s.update_cases env now d with heq | heq
  · rw [heq]
    exact .inl ⟨rfl, fun t => rfl⟩
  · rw [heq]
    rcases run_updateIn (Prog.run_eq (updateIn s.table (s.id d) (s.setClauses env now d)) c) with
      ⟨hresult, hafter⟩ | ⟨id, affected, db, hid, hne, hupd, hresult, hafter⟩
    · rw [hafter]
      exact .inl ⟨hresult, fun t => rfl⟩
    · obtain ⟨-, -, -, hfound⟩ := Database.updateById_eq_some hupd
      have hrows : db.rows s.table =
          (c.db.rows s.table).map (Database.updateRow id (s.override env now d)) := by
        rw [Database.updateById_rows_self hupd]
        congr 2
        exact funext fun cols => applyAll_setClauses hfold now s hnul cols
      rw [hafter]
      by_cases haffected : 0 < affected
      · rw [decide_eq_true haffected] at hresult
        refine .inr ⟨hresult, ?_, id, hid, hfound.mp haffected, hrows,
          fun t ht => Database.updateById_rows_of_ne hupd ht⟩
        by_contra hcon
        rw [not_or, Bool.not_eq_true] at hcon
        exact hne (setClauses_eq_nil hcon.1 hcon.2)
      · rw [decide_eq_false haffected] at hresult
        refine .inl ⟨hresult, fun t => ?_⟩
        by_cases ht : t = s.table
        · -- there is no such row, so no row is changed
          subst ht
          rw [hrows]
          refine (List.map_congr_left fun row hrow => ?_).trans (List.map_id _)
          have : row.id ≠ id := fun h =>
            haffected (hfound.mpr (h ▸ Database.mem_ids.mpr ⟨row, hrow, rfl⟩))
          simp [Database.updateRow, this]
        · exact Database.updateById_rows_of_ne hupd ht

end Stored

/-- An `update` does what it is meant to. -/
structure UpdateRight (env : Environment) (now : Int) (s : Stored) (d : s.Dto) (c : Connection) :
    Prop where
  /-- The placeholders are the parameters that are bound. -/
  placeholders : ∀ id, s.id d = some id →
    parameters (s.statement d).toList = (s.bindings env now d id).map Prod.fst
  /-- With these parameters the statement overrides the columns of a row. -/
  overrides : ∀ id, s.id d = some id → ∀ columns : Columns s.table,
    assign s.setColumn .null (s.bindings env now d id) (s.setClauseTexts d) columns =
      some (s.override env now d columns)
  answers : ∃ updated, (s.update env now d).result c = .ok updated
  updated : (s.update env now d).result c = .ok true →
    ∃ id, s.id d = some id ∧ id ∈ c.db.ids s.table ∧
      ((s.update env now d).after c).db.rows s.table =
        (c.db.rows s.table).map (Database.updateRow id (s.override env now d)) ∧
      ∀ t, t ≠ s.table → ((s.update env now d).after c).db.rows t = c.db.rows t
  kept : (s.update env now d).result c = .ok false →
    ∀ t, ((s.update env now d).after c).db.rows t = c.db.rows t
  refused : (s.id d = none ∨ (∃ id, s.id d = some id ∧ id ∉ c.db.ids s.table) ∨
      (s ≠ .project ∧ s.hasUpdate d = false)) →
    (s.update env now d).result c = .ok false

/-- **Every update overrides one row by the present fields, or changes nothing.** -/
theorem update_overrides (env : Environment)
    (hfold : ∀ text, 0 ∉ text → 0 ∉ env.foldCase text) (now : Int) (s : Stored) (d : s.Dto)
    (hnul : NulFree (s.reader.texts d)) (c : Connection) : UpdateRight env now s d c where
  placeholders id _ := s.parameters_statement env now d id
  overrides id _ columns := by
    have hassign := (s.agree_update env now d).assign_eq .null (fun _ => List.mem_append_left _)
      (s.nodup_bindings env now d id) columns
    rw [← s.applyAll_setClauses hfold now hnul columns]
    exact hassign
  answers := by
    rcases s.run_update hfold now hnul c with ⟨h, -⟩ | ⟨h, -⟩
    · exact ⟨_, h⟩
    · exact ⟨_, h⟩
  updated h := by
    rcases s.run_update hfold now hnul c with ⟨hfalse, -⟩ | ⟨-, -, hrows⟩
    · rw [hfalse] at h
      cases h
    · exact hrows
  kept h := by
    rcases s.run_update hfold now hnul c with ⟨-, hrows⟩ | ⟨htrue, -⟩
    · exact hrows
    · rw [htrue] at h
      cases h
  refused h := by
    rcases s.run_update hfold now hnul c with ⟨hfalse, -⟩ | ⟨-, hsome, id, hid, hmem, -⟩
    · exact hfalse
    · rcases h with hnone | ⟨id', hid', hnotMem⟩ | ⟨hs, hfields⟩
      · rw [hnone] at hid
        cases hid
      · rw [hid'] at hid
        cases hid
        exact absurd hmem hnotMem
      · rcases hsome with rfl | hsome
        · exact absurd rfl hs
        · rw [hfields] at hsome
          cases hsome

/-- Two workflows, and a state in the first one. -/
def salesAndSupport : Connection :=
  let c := afterFirstWorkflow { caption := some (bytes "Sales") }
  let c := (SqliteWorkflowRepository.create { caption := some (bytes "Support") }).after c
  (SqliteStateRepository.create { workflowId := some 1, caption := some (bytes "New") }).after c

/-- The first workflow gets a description; the second one and the state stay as they are. -/
theorem update_overrides_sales : UpdateRight Environment.reference 0 .workflow
      { id := some 1, description := some (bytes "Leads") } salesAndSupport ∧
    (Stored.workflow.update Environment.reference 0
      { id := some 1, description := some (bytes "Leads") }).result salesAndSupport = .ok true :=
  ⟨update_overrides Environment.reference reference_foldCase_nulFree 0 .workflow
    { id := some 1, description := some (bytes "Leads") } (by decide) salesAndSupport, by decide⟩

end Farado
