import Farado.Lib.Relational.Schema
import Farado.Storage.Text

/-!
# The version 1 schema

The tables `V1_InitialSchema` creates, with their CHECK, UNIQUE and FOREIGN KEY constraints. The
tables that the server or the default data write have all their columns; of the others a row keeps
the columns a constraint names, and `rest` stands for the rest. All foreign keys cascade but the
four that say ON DELETE SET NULL.
-/

namespace Farado

open Relational

/-- The tables. -/
inductive Table where
  | user | team | role | userTeamRole | rule | ruleProject | ruleItemType | ruleState | roleMenuItem
  | project | phase | projectTeam
  | workflow | state | edge | itemType | fieldType | fieldTypePossibleValue
  | item | itemField | itemHistory | itemUserState
  | linkType | itemLink | document | itemDocument | comment | commentDocument
  | board | boardColumn | standardDay | specialDay | userDay
  | privateMessage | teamMessage | userNotification | userAction | userTodo | itemPlanning
  deriving DecidableEq, Repr

/-! ## Columns -/

structure UserRow where
  login : Bytes
  firstName : Option Bytes
  middleName : Option Bytes
  lastName : Option Bytes
  email : Bytes
  passwordHash : Bytes
  needChangePassword : Int
  isBlocked : Int
  isSuperAdmin : Int
  isHidden : Int
  deriving DecidableEq, Repr

structure ProjectRow where
  parentId : Option Int
  caption : Bytes
  description : Option Bytes
  searchCaption : Option Bytes
  searchDescription : Option Bytes
  createdAt : Int
  updatedAt : Int
  isArchive : Int
  deriving DecidableEq, Repr

structure PhaseRow where
  projectId : Int
  caption : Bytes
  description : Option Bytes
  beginDate : Option Int
  endDate : Option Int
  isArchive : Int
  searchCaption : Option Bytes
  searchDescription : Option Bytes
  deriving DecidableEq, Repr

structure WorkflowRow where
  caption : Bytes
  description : Option Bytes
  deriving DecidableEq, Repr

/-- `weight` and `orderNumber` have a default but are not NOT NULL. -/
structure StateRow where
  workflowId : Int
  caption : Bytes
  description : Option Bytes
  weight : Option Int
  orderNumber : Option Int
  isArchive : Int
  isQueue : Int
  deriving DecidableEq, Repr

structure EdgeRow where
  beginStateId : Int
  endStateId : Int
  deriving DecidableEq, Repr

/-- `defaultStateId` is a plain column, without a foreign key. -/
structure ItemTypeRow where
  workflowId : Int
  defaultStateId : Option Int
  caption : Bytes
  kind : Bytes
  defaultContent : Option Bytes
  deriving DecidableEq, Repr

structure FieldTypeRow where
  itemTypeId : Int
  caption : Bytes
  description : Option Bytes
  valueType : Bytes
  isBoardVisible : Int
  deriving DecidableEq, Repr

structure ItemRow where
  itemTypeId : Int
  parentId : Option Int
  stateId : Int
  phaseId : Option Int
  caption : Bytes
  content : Option Bytes
  searchCaption : Option Bytes
  searchContent : Option Bytes
  isDeleted : Int
  deriving DecidableEq, Repr

structure BoardRow where
  workflowId : Int
  projectId : Int
  phaseId : Option Int
  caption : Bytes
  description : Option Bytes
  deriving DecidableEq, Repr

structure StandardDayRow where
  weekDayNumber : Int
  weekOrder : Option Int
  isWorkDay : Int
  beginWorkTime : Option Bytes
  endWorkTime : Option Bytes
  breakDuration : Option Int
  deriving DecidableEq, Repr

structure SpecialDayRow where
  date : Int
  rest : List SqlValue
  deriving DecidableEq, Repr

structure UserDayRow where
  userId : Int
  date : Int
  rest : List SqlValue
  deriving DecidableEq, Repr

/-- A row of a table of which only the `n` references matter here, in the order of its columns. -/
structure RefRow (n : Nat) where
  refs : Vector Int n
  rest : List SqlValue
  deriving DecidableEq, Repr

/-- The columns of each table. -/
@[reducible] def Columns : Table → Type
  | .user => UserRow
  | .team | .role => RefRow 0
  | .userTeamRole => RefRow 3
  | .rule => RefRow 1
  | .ruleProject | .ruleItemType | .ruleState => RefRow 2
  | .roleMenuItem => RefRow 1
  | .project => ProjectRow
  | .phase => PhaseRow
  | .projectTeam => RefRow 2
  | .workflow => WorkflowRow
  | .state => StateRow
  | .edge => EdgeRow
  | .itemType => ItemTypeRow
  | .fieldType => FieldTypeRow
  | .fieldTypePossibleValue => RefRow 1
  | .item => ItemRow
  | .itemField => RefRow 2
  | .itemHistory => RefRow 2
  | .itemUserState => RefRow 3
  | .linkType => RefRow 2
  | .itemLink => RefRow 3
  | .document => RefRow 1
  | .itemDocument => RefRow 2
  | .comment => RefRow 2
  | .commentDocument => RefRow 2
  | .board => BoardRow
  | .boardColumn => RefRow 2
  | .standardDay => StandardDayRow
  | .specialDay => SpecialDayRow
  | .userDay => UserDayRow
  | .privateMessage => RefRow 2
  | .teamMessage => RefRow 2
  | .userNotification => RefRow 2
  | .userAction => RefRow 1
  | .userTodo => RefRow 1
  | .itemPlanning => RefRow 2

/-! ## Constraints -/

/-- `FOREIGN KEY (column) REFERENCES parent(id) ON DELETE CASCADE` -/
def cascade {C : Type} (parent : Table) (column : C → Int) : ForeignKey Table C :=
  ⟨parent, fun c => some (column c), .cascade⟩

/-- `FOREIGN KEY (column) REFERENCES parent(id) ON DELETE SET NULL` -/
def setNull {C : Type} (parent : Table) (column : C → Option Int) (clear : C → C) :
    ForeignKey Table C :=
  ⟨parent, column, .setNull clear⟩

def foreignKeys : (t : Table) → List (ForeignKey Table (Columns t))
  | .user | .team | .role => []
  | .userTeamRole =>
      [cascade .user (·.refs[0]), cascade .team (·.refs[1]), cascade .role (·.refs[2])]
  | .rule => [cascade .role (·.refs[0])]
  | .ruleProject => [cascade .rule (·.refs[0]), cascade .project (·.refs[1])]
  | .ruleItemType => [cascade .rule (·.refs[0]), cascade .itemType (·.refs[1])]
  | .ruleState => [cascade .rule (·.refs[0]), cascade .state (·.refs[1])]
  | .roleMenuItem => [cascade .role (·.refs[0])]
  | .project => [setNull .project ProjectRow.parentId fun c => { c with parentId := none }]
  | .phase => [cascade .project PhaseRow.projectId]
  | .projectTeam => [cascade .project (·.refs[0]), cascade .team (·.refs[1])]
  | .workflow => []
  | .state => [cascade .workflow StateRow.workflowId]
  | .edge => [cascade .state EdgeRow.beginStateId, cascade .state EdgeRow.endStateId]
  | .itemType => [cascade .workflow ItemTypeRow.workflowId]
  | .fieldType => [cascade .itemType FieldTypeRow.itemTypeId]
  | .fieldTypePossibleValue => [cascade .fieldType (·.refs[0])]
  | .item =>
      [cascade .itemType ItemRow.itemTypeId,
        setNull .item ItemRow.parentId fun c => { c with parentId := none },
        cascade .state ItemRow.stateId,
        setNull .phase ItemRow.phaseId fun c => { c with phaseId := none }]
  | .itemField => [cascade .item (·.refs[0]), cascade .fieldType (·.refs[1])]
  | .itemHistory => [cascade .item (·.refs[0]), cascade .user (·.refs[1])]
  | .itemUserState =>
      [cascade .item (·.refs[0]), cascade .user (·.refs[1]), cascade .state (·.refs[2])]
  | .linkType => [cascade .itemType (·.refs[0]), cascade .itemType (·.refs[1])]
  | .itemLink =>
      [cascade .linkType (·.refs[0]), cascade .item (·.refs[1]), cascade .item (·.refs[2])]
  | .document => [cascade .user (·.refs[0])]
  | .itemDocument => [cascade .item (·.refs[0]), cascade .document (·.refs[1])]
  | .comment => [cascade .user (·.refs[0]), cascade .item (·.refs[1])]
  | .commentDocument => [cascade .comment (·.refs[0]), cascade .document (·.refs[1])]
  | .board =>
      [cascade .workflow BoardRow.workflowId, cascade .project BoardRow.projectId,
        setNull .phase BoardRow.phaseId fun c => { c with phaseId := none }]
  | .boardColumn => [cascade .board (·.refs[0]), cascade .state (·.refs[1])]
  | .standardDay | .specialDay => []
  | .userDay => [cascade .user UserDayRow.userId]
  | .privateMessage => [cascade .user (·.refs[0]), cascade .user (·.refs[1])]
  | .teamMessage => [cascade .user (·.refs[0]), cascade .team (·.refs[1])]
  | .userNotification => [cascade .user (·.refs[0]), cascade .item (·.refs[1])]
  | .userAction | .userTodo => [cascade .user (·.refs[0])]
  | .itemPlanning => [cascade .item (·.refs[0]), cascade .user (·.refs[1])]

/-- `CHECK (kind IN …)` of `ItemType`. -/
def itemTypeKinds : List Bytes :=
  [bytes "issue", bytes "folder", bytes "test-case", bytes "test-cycle", bytes "test-execution",
    bytes "requirement"]

/-- `CHECK (valueType IN …)` of `FieldType`. -/
def fieldValueTypes : List Bytes :=
  [bytes "String", bytes "MarkdownText", bytes "Integer", bytes "Float", bytes "Bool",
    bytes "DateTime", bytes "Date", bytes "Uri", bytes "Select", bytes "SelectMulti",
    bytes "ItemId", bytes "UserId", bytes "ProjectId", bytes "PhaseId",
    bytes "ItemsIds", bytes "UsersIds", bytes "ProjectsIds", bytes "PhasesIds"]

def check : (t : Table) → Columns t → Bool
  | .itemType, c => itemTypeKinds.contains c.kind
  | .fieldType, c => fieldValueTypes.contains c.valueType
  | .standardDay, c => decide (0 ≤ c.weekDayNumber) && decide (c.weekDayNumber ≤ 6)
  | _, _ => true

/-- Would two rows agree on a UNIQUE key of their table? -/
def conflict : (t : Table) → Columns t → Columns t → Bool
  | .user, c, d => c.login == d.login || c.email == d.email
  | .edge, c, d => c.beginStateId == d.beginStateId && c.endStateId == d.endStateId
  | .userTeamRole, c, d => c.refs == d.refs
  | .ruleProject, c, d => c.refs == d.refs
  | .ruleItemType, c, d => c.refs == d.refs
  | .ruleState, c, d => c.refs == d.refs
  | .projectTeam, c, d => c.refs == d.refs
  | .itemField, c, d => c.refs == d.refs
  | .itemLink, c, d => c.refs == d.refs
  | .itemDocument, c, d => c.refs == d.refs
  | .commentDocument, c, d => c.refs == d.refs
  | .boardColumn, c, d => c.refs == d.refs
  | .userNotification, c, d => c.refs == d.refs
  | .itemPlanning, c, d => c.refs == d.refs
  | .specialDay, c, d => c.date == d.date
  | .userDay, c, d => c.userId == d.userId && c.date == d.date
  | _, _, _ => false

/-- The length of the longest chain of cascading references that starts at a table. -/
def depth : Table → Nat
  | .user | .team | .role | .workflow | .project | .standardDay | .specialDay => 0
  | .rule | .roleMenuItem | .phase | .projectTeam | .userTeamRole | .state | .itemType | .document
  | .userDay | .privateMessage | .teamMessage | .userAction | .userTodo | .board => 1
  | .ruleProject | .ruleItemType | .ruleState | .edge | .fieldType | .linkType | .item
  | .boardColumn => 2
  | .fieldTypePossibleValue | .itemField | .itemHistory | .itemUserState | .itemLink | .itemDocument
  | .comment | .userNotification | .itemPlanning => 3
  | .commentDocument => 4

/-! ## The laws of a schema -/

/-- All keys of the table cascade. -/
def allCascade (t : Table) : Bool := (foreignKeys t).all ForeignKey.cascades

theorem allCascade_or (t : Table) :
    allCascade t = true ∨ t = .project ∨ t = .item ∨ t = .board := by
  cases t with
  | project => exact .inr (.inl rfl)
  | item => exact .inr (.inr (.inl rfl))
  | board => exact .inr (.inr (.inr rfl))
  | _ => exact .inl rfl

theorem cascades_of_allCascade {t : Table} (h : allCascade t = true) :
    ∀ fk ∈ foreignKeys t, fk.cascades = true := List.all_eq_true.mp h

/-- In the other three tables, and only there, a reference can be cleared. -/
theorem onDelete_ne_setNull {t : Table} (h : allCascade t = true)
    {fk : ForeignKey Table (Columns t)} (hfk : fk ∈ foreignKeys t)
    (clear : Columns t → Columns t) : fk.onDelete ≠ .setNull clear := by
  intro hclear
  have hcascades := cascades_of_allCascade h fk hfk
  rw [ForeignKey.cascades, hclear] at hcascades
  cases hcascades

theorem conflict_comm (t : Table) (c d : Columns t) : conflict t c d = conflict t d c := by
  cases t <;> simp only [conflict, Bool.beq_comm]

theorem depth_lt (t : Table) :
    ∀ fk ∈ foreignKeys t, fk.cascades = true → depth fk.parent < depth t := by
  have hall : (foreignKeys t).all
      (fun fk => !fk.cascades || decide (depth fk.parent < depth t)) = true := by
    cases t <;> rfl
  intro fk hfk hcascades
  have hlt := List.all_eq_true.mp hall fk hfk
  simpa [hcascades] using hlt

theorem clear_column (t : Table) : ∀ fk ∈ foreignKeys t, ∀ clear, fk.onDelete = .setNull clear →
    ∀ c, fk.column (clear c) = none := by
  rcases allCascade_or t with h | rfl | rfl | rfl
  · intro fk hfk clear hclear
    exact absurd hclear (onDelete_ne_setNull h hfk clear)
  all_goals simp [foreignKeys, cascade, setNull]

theorem clear_columns (t : Table) : ∀ fk ∈ foreignKeys t, ∀ clear, fk.onDelete = .setNull clear →
    ∀ fk' ∈ foreignKeys t, ∀ c,
      fk'.column (clear c) = fk'.column c ∨ fk'.column (clear c) = none := by
  rcases allCascade_or t with h | rfl | rfl | rfl
  · intro fk hfk clear hclear
    exact absurd hclear (onDelete_ne_setNull h hfk clear)
  all_goals simp [foreignKeys, cascade, setNull]

theorem clear_check (t : Table) : ∀ fk ∈ foreignKeys t, ∀ clear, fk.onDelete = .setNull clear →
    ∀ c, check t (clear c) = check t c := by
  rcases allCascade_or t with h | rfl | rfl | rfl
  · intro fk hfk clear hclear
    exact absurd hclear (onDelete_ne_setNull h hfk clear)
  all_goals simp [check]

theorem clear_conflict (t : Table) : ∀ fk ∈ foreignKeys t, ∀ clear, fk.onDelete = .setNull clear →
    ∀ c d, conflict t (clear c) d = conflict t c d := by
  rcases allCascade_or t with h | rfl | rfl | rfl
  · intro fk hfk clear hclear
    exact absurd hclear (onDelete_ne_setNull h hfk clear)
  all_goals simp [conflict]

/-- **The version 1 schema.** -/
@[reducible] def V1 : Schema where
  Table := Table
  decEq := inferInstance
  Columns := Columns
  foreignKeys := foreignKeys
  check := check
  conflict := conflict
  depth := depth
  conflict_comm := conflict_comm
  depth_lt := depth_lt
  clear_column := clear_column
  clear_columns := clear_columns
  clear_check := clear_check
  clear_conflict := clear_conflict

/-- The tables all of whose references cascade: a deletion elsewhere can only remove their rows. -/
def OnlyCascades (t : Table) : Prop := ∀ fk ∈ V1.foreignKeys t, fk.cascades = true

theorem onlyCascades_of_allCascade {t : Table} (h : allCascade t = true) : OnlyCascades t :=
  cascades_of_allCascade h

theorem onlyCascades_workflow : OnlyCascades .workflow := onlyCascades_of_allCascade rfl

theorem onlyCascades_state : OnlyCascades .state := onlyCascades_of_allCascade rfl

theorem onlyCascades_edge : OnlyCascades .edge := onlyCascades_of_allCascade rfl

theorem onlyCascades_itemType : OnlyCascades .itemType := onlyCascades_of_allCascade rfl

theorem onlyCascades_user : OnlyCascades .user := onlyCascades_of_allCascade rfl

/-- A row of the version 1 schema. -/
abbrev Row (t : Table) := Record V1 t

end Farado
