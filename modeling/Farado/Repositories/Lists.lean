import Farado.Lib.Paging
import Farado.Repositories.Readers

/-!
# The lists the repositories give out

The eight `findAll`s differ in their table, their filters, their order and in whether they stop past
the end. A `ListRequest` is one of them with its filters; whoever reads a list asks for one page
after the other, each with a query of its own.
-/

namespace Farado

open Relational Steps

/-- Edges have no text, so every one of them can be read. -/
def edgeReader : RowReader .edge Dto.Edge where
  mapRow := SqliteEdgeRepository.mapRowToEdge
  texts _ := []
  columnTexts _ := []
  numbers _ := []
  dtoOf row := {
    id := some row.id, beginStateId := some row.cols.beginStateId,
    endStateId := some row.cols.endStateId }
  mapRow_ok row d := by
    constructor
    · intro h
      exact ⟨by simp, by simp, (Except.ok.inj h).symm⟩
    · rintro ⟨-, -, rfl⟩
      rfl
  texts_dtoOf row := rfl

/-- A `findAll` and its filters. -/
inductive ListRequest where
  | workflows
  | users
  | states (workflowId : Option Int)
  | edges (beginStateId endStateId : Option Int)
  | projects (parentId : Option Int) (isArchive : Option Bool) (searchCaption : Bytes)
  | phases (projectId : Option Int) (isArchive : Option Bool)
  | itemTypes (workflowId : Option Int) (kind : Option Bytes) (captionSearch : Bytes)
  | fieldTypes (itemTypeId : Option Int) (valueType : Option Bytes) (captionSearch : Bytes)

namespace ListRequest

@[reducible] def table : ListRequest → Table
  | workflows => .workflow
  | users => .user
  | states .. => .state
  | edges .. => .edge
  | projects .. => .project
  | phases .. => .phase
  | itemTypes .. => .itemType
  | fieldTypes .. => .fieldType

/-- What is listed. -/
@[reducible] def Item : ListRequest → Type
  | workflows => Dto.Workflow
  | users => Dto.User
  | states .. => Dto.State
  | edges .. => Dto.Edge
  | projects .. => Dto.Project
  | phases .. => Dto.Phase
  | itemTypes .. => Dto.ItemType
  | fieldTypes .. => Dto.FieldType

/-- `findAll` of the repository. -/
def findAll (env : Environment) : (q : ListRequest) → (page pageSize : Int) → Db (List q.Item × Int)
  | workflows => SqliteWorkflowRepository.findAll env
  | users => SqliteUserRepository.findAll env
  | states workflowId => fun page pageSize =>
      SqliteStateRepository.findAll env page pageSize workflowId
  | edges beginStateId endStateId => fun page pageSize =>
      SqliteEdgeRepository.findAll env page pageSize beginStateId endStateId
  | projects parentId isArchive searchCaption => fun page pageSize =>
      SqliteProjectRepository.findAll env page pageSize parentId isArchive searchCaption
  | phases projectId isArchive => fun page pageSize =>
      SqlitePhaseRepository.findAll env page pageSize projectId isArchive
  | itemTypes workflowId kind captionSearch => fun page pageSize =>
      SqliteItemTypeRepository.findAll env page pageSize workflowId kind captionSearch
  | fieldTypes itemTypeId valueType captionSearch => fun page pageSize =>
      SqliteFieldTypeRepository.findAll env page pageSize itemTypeId valueType captionSearch

/-- Its WHERE clause. -/
def filter (env : Environment) : (q : ListRequest) → Row q.table → Bool
  | workflows => fun _ => true
  | users => fun _ => true
  | states workflowId => SqliteStateRepository.filter workflowId
  | edges beginStateId endStateId => SqliteEdgeRepository.filter beginStateId endStateId
  | projects parentId isArchive searchCaption =>
      SqliteProjectRepository.filter env parentId isArchive searchCaption
  | phases projectId isArchive => SqlitePhaseRepository.filter projectId isArchive
  | itemTypes workflowId kind captionSearch =>
      SqliteItemTypeRepository.filter env workflowId kind captionSearch
  | fieldTypes itemTypeId valueType captionSearch =>
      SqliteFieldTypeRepository.filter env itemTypeId valueType captionSearch

/-- Its ORDER BY clause. -/
def le : (q : ListRequest) → Row q.table → Row q.table → Bool
  | workflows => byId
  | users => byId
  | states .. => SqliteStateRepository.byWorkflow
  | edges .. => byId
  | projects .. => byId
  | phases .. => SqlitePhaseRepository.byBeginDate
  | itemTypes .. => SqliteItemTypeRepository.byKind
  | fieldTypes .. => SqliteFieldTypeRepository.byCaption

/-- Does it compare the offset with the count? -/
def stopsPastEnd : ListRequest → Bool
  | workflows | users | states .. | edges .. => false
  | projects .. | phases .. | itemTypes .. | fieldTypes .. => true

def reader : (q : ListRequest) → RowReader q.table q.Item
  | workflows => workflowReader
  | users => userReader
  | states .. => stateReader
  | edges .. => edgeReader
  | projects .. => projectReader
  | phases .. => phaseReader
  | itemTypes .. => itemTypeReader
  | fieldTypes .. => fieldTypeReader

theorem findAll_eq (env : Environment) (q : ListRequest) :
    q.findAll env = findAllIn env q.table (q.filter env) q.le q.stopsPastEnd q.reader.mapRow := by
  cases q <;> rfl

/-- The rows a request is about. -/
def matching (env : Environment) (q : ListRequest) (db : Database V1) : List (Row q.table) :=
  (db.rows q.table).filter (q.filter env)

end ListRequest

/-! ## The orders -/

theorem keyOrder_byId {t : Table} : Paging.KeyOrder (byId : Row t → Row t → Bool) where
  trans a b c := by
    simp only [byId, decide_eq_true_eq]
    omega
  total a b := by
    simp only [byId, Bool.or_eq_true, decide_eq_true_eq]
    omega

theorem keyOrder_nullableLe : Paging.KeyOrder nullableLe where
  trans a b c := by
    cases a <;> cases b <;> cases c <;> simp [nullableLe]
    omega
  total a b := by
    cases a <;> cases b <;> simp [nullableLe]
    omega

theorem nullableLe_antisymm (a b : Option Int) (hab : nullableLe a b = true)
    (hba : nullableLe b a = true) : a = b := by
  cases a <;> cases b <;> simp_all [nullableLe]
  omega

theorem textLe_antisymm (s t : Bytes) (hst : textLe s t = true) (hts : textLe t s = true) :
    s = t := by
  induction s generalizing t with
  | nil =>
    cases t with
    | nil => rfl
    | cons b t => cases hts
  | cons a s ih =>
    cases t with
    | nil => cases hst
    | cons b t =>
      simp only [textLe, Bool.or_eq_true, Bool.and_eq_true, decide_eq_true_eq, beq_iff_eq] at hst hts
      rcases hst with hlt | ⟨rfl, hst⟩
      · rcases hts with hgt | ⟨rfl, -⟩
        · exact absurd (UInt8.lt_trans hlt hgt) (UInt8.lt_irrefl a)
        · exact absurd hlt (UInt8.lt_irrefl _)
      · rcases hts with hgt | ⟨-, hts⟩
        · exact absurd hgt (UInt8.lt_irrefl _)
        · rw [ih t hst hts]

theorem textLe_trans (s t u : Bytes) (hst : textLe s t = true) (htu : textLe t u = true) :
    textLe s u = true := by
  induction s generalizing t u with
  | nil => rfl
  | cons a s ih =>
    cases t with
    | nil => cases hst
    | cons b t =>
      cases u with
      | nil => cases htu
      | cons d u =>
        simp only [textLe, Bool.or_eq_true, Bool.and_eq_true, decide_eq_true_eq, beq_iff_eq] at *
        rcases hst with hab | ⟨rfl, hst⟩
        · rcases htu with hbd | ⟨rfl, -⟩
          · exact .inl (UInt8.lt_trans hab hbd)
          · exact .inl hab
        · rcases htu with hbd | ⟨rfl, htu⟩
          · exact .inl hbd
          · exact .inr ⟨rfl, ih t u hst htu⟩

theorem textLe_total (s t : Bytes) : (textLe s t || textLe t s) = true := by
  induction s generalizing t with
  | nil => rfl
  | cons a s ih =>
    cases t with
    | nil => rfl
    | cons b t =>
      have ih := ih t
      simp only [textLe, Bool.or_eq_true, Bool.and_eq_true, decide_eq_true_eq, beq_iff_eq] at ih ⊢
      by_cases hab : a = b
      · subst hab
        rcases ih with h | h
        · exact .inl (.inr ⟨rfl, h⟩)
        · exact .inr (.inr ⟨rfl, h⟩)
      · rcases UInt8.lt_or_lt_of_ne hab with hlt | hgt
        · exact .inl (.inl hlt)
        · exact .inr (.inl hgt)

theorem keyOrder_textLe : Paging.KeyOrder textLe where
  trans := textLe_trans
  total := textLe_total

theorem byWorkflow_eq : SqliteStateRepository.byWorkflow =
    Paging.thenBy (fun row : Row .state => row.cols.workflowId) (fun a b => decide (a ≤ b))
      SqliteStateRepository.byOrderNumber := by
  funext a b
  unfold SqliteStateRepository.byWorkflow SqliteStateRepository.byOrderNumber Paging.thenBy
  by_cases h : a.cols.workflowId = b.cols.workflowId
  · simp [h]
  · simp only [beq_eq_false_iff_ne.mpr h, Bool.false_and, Bool.or_false]
    congr 1
    apply propext
    omega

theorem keyOrder_int : Paging.KeyOrder fun a b : Int => decide (a ≤ b) where
  trans a b c := by
    simp only [decide_eq_true_eq]
    omega
  total a b := by
    simp only [Bool.or_eq_true, decide_eq_true_eq]
    omega

namespace ListRequest

theorem keyOrder (q : ListRequest) : Paging.KeyOrder q.le := by
  cases q with
  | workflows | users | edges | projects => exact keyOrder_byId
  | phases =>
    exact keyOrder_nullableLe.thenBy nullableLe_antisymm keyOrder_byId
      fun row : Row .phase => row.cols.beginDate
  | states =>
    show Paging.KeyOrder SqliteStateRepository.byWorkflow
    rw [byWorkflow_eq]
    refine keyOrder_int.thenBy ?_ (keyOrder_nullableLe.comap fun row : Row .state =>
      row.cols.orderNumber) fun row : Row .state => row.cols.workflowId
    intro a b
    simp only [decide_eq_true_eq]
    omega
  | itemTypes =>
    exact keyOrder_textLe.thenBy textLe_antisymm
      (keyOrder_textLe.comap fun row : Row .itemType => row.cols.caption)
      fun row : Row .itemType => row.cols.kind
  | fieldTypes => exact keyOrder_textLe.comap fun row : Row .fieldType => row.cols.caption

/-- The lists whose order has the id in it. -/
def breaksTies : ListRequest → Bool
  | workflows | users | edges .. | projects .. | phases .. => true
  | states .. | itemTypes .. | fieldTypes .. => false

/-- There different rows have different keys. -/
theorem id_eq_of_le {q : ListRequest} (hq : q.breaksTies = true) {a b : Row q.table}
    (hab : q.le a b = true) (hba : q.le b a = true) : a.id = b.id := by
  have hbyId : ∀ {t : Table} {a b : Row t}, byId a b = true → byId b a = true → a.id = b.id := by
    intro t a b hab hba
    simp only [byId, decide_eq_true_eq] at hab hba
    omega
  cases q with
  | workflows | users | edges | projects => exact hbyId hab hba
  | phases =>
    have hsplit : SqlitePhaseRepository.byBeginDate a b = true := hab
    have hsplit' : SqlitePhaseRepository.byBeginDate b a = true := hba
    unfold SqlitePhaseRepository.byBeginDate at hsplit hsplit'
    by_cases h : a.cols.beginDate = b.cols.beginDate
    · simp only [h, beq_self_eq_true, if_true] at hsplit hsplit'
      exact hbyId hsplit hsplit'
    · rw [if_neg (by simpa using h)] at hsplit
      rw [if_neg (by simpa using Ne.symm h)] at hsplit'
      exact absurd (nullableLe_antisymm _ _ hsplit hsplit') h
  | states | itemTypes | fieldTypes => cases hq

end ListRequest

end Farado
