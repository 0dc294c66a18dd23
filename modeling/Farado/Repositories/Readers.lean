import Farado.Repositories.Project
import Farado.Repositories.User
import Farado.Repositories.Workflow

/-!
# What the repositories read

A `RowReader` is the reading half of a repository with the proof of what it reads. The repositories
whose rows have texts have one each.
-/

namespace Farado

open Relational Steps

/-- How a repository reads a row: which text columns it selects, which nullable numbers it insists
on, and what it makes of the row if it can read it. -/
structure RowReader (t : Table) (Dto : Type) where
  mapRow : Row t → Except Error Dto
  texts : Dto → List (Option Bytes)
  columnTexts : Row t → List (Option Bytes)
  numbers : Row t → List (Option Int)
  dtoOf : Row t → Dto
  mapRow_ok : ∀ row d, mapRow row = .ok d ↔
    (∀ text ∈ columnTexts row, ∀ b ∈ text, looksLikeDateTime (cString b) = false) ∧
      (∀ n ∈ numbers row, n.isSome = true) ∧ d = dtoOf row
  texts_dtoOf : ∀ row, texts (dtoOf row) = (columnTexts row).map (Option.map cString)

namespace RowReader

variable {t : Table} {Dto : Type} (R : RowReader t Dto)

/-- No selected text is shaped like a date, and no number is NULL. -/
def Readable (row : Row t) : Prop :=
  (∀ text ∈ R.columnTexts row, ∀ b ∈ text, looksLikeDateTime (cString b) = false) ∧
    ∀ n ∈ R.numbers row, n.isSome = true

theorem readable_iff {row : Row t} : R.Readable row ↔ ∃ d, R.mapRow row = .ok d := by
  constructor
  · rintro ⟨htexts, hnumbers⟩
    exact ⟨_, (R.mapRow_ok row _).mpr ⟨htexts, hnumbers, rfl⟩⟩
  · rintro ⟨d, h⟩
    obtain ⟨htexts, hnumbers, -⟩ := (R.mapRow_ok row d).mp h
    exact ⟨htexts, hnumbers⟩

theorem mapRow_ok_iff {row : Row t} {d : Dto} :
    R.mapRow row = .ok d ↔ R.Readable row ∧ d = R.dtoOf row := by
  rw [R.mapRow_ok, Readable, and_assoc]

/-- A list of rows is read row by row. -/
theorem mapM_ok_iff {rows : List (Row t)} {items : List Dto} :
    rows.mapM R.mapRow = .ok items ↔
      (∀ row ∈ rows, R.Readable row) ∧ items = rows.map R.dtoOf := by
  induction rows generalizing items with
  | nil =>
    constructor
    · rintro ⟨⟩
      exact ⟨by simp, rfl⟩
    · rintro ⟨-, rfl⟩
      rfl
  | cons row rows ih =>
    simp only [List.mapM_cons, bind_eq_ok, mapRow_ok_iff, ih, List.forall_mem_cons, List.map_cons]
    constructor
    · rintro ⟨d, ⟨hrow, rfl⟩, ds, ⟨hrows, rfl⟩, h⟩
      exact ⟨⟨hrow, hrows⟩, (Except.ok.inj h).symm⟩
    · rintro ⟨⟨hrow, hrows⟩, rfl⟩
      exact ⟨_, ⟨hrow, rfl⟩, _, ⟨hrows, rfl⟩, rfl⟩

end RowReader

/-! ## The readers of the seven repositories -/

def workflowReader : RowReader .workflow Dto.Workflow where
  mapRow := SqliteWorkflowRepository.mapRowToWorkflow
  texts d := [d.caption, d.description]
  columnTexts row := [some row.cols.caption, row.cols.description]
  numbers _ := []
  dtoOf row := {
    id := some row.id, caption := some (cString row.cols.caption),
    description := row.cols.description.map cString }
  mapRow_ok row d := by
    simp only [SqliteWorkflowRepository.mapRowToWorkflow, bind_eq_ok, valueInt64_integer,
      valueString_text_ok, unlessNull_orNull_text_ok, Except.ok.injEq]
    constructor
    · rintro ⟨_, rfl, _, ⟨h1, rfl⟩, _, ⟨h2, rfl⟩, h⟩
      cases h
      simp_all
    · rintro ⟨h, -, rfl⟩
      exact ⟨_, rfl, _, ⟨h _ (by simp) _ rfl, rfl⟩, _, ⟨h _ (by simp), rfl⟩, rfl⟩
  texts_dtoOf row := rfl

def stateReader : RowReader .state Dto.State where
  mapRow := SqliteStateRepository.mapRowToState
  texts d := [d.caption, d.description]
  columnTexts row := [some row.cols.caption, row.cols.description]
  numbers row := [row.cols.weight, row.cols.orderNumber]
  dtoOf row := {
    id := some row.id, workflowId := some row.cols.workflowId,
    caption := some (cString row.cols.caption), description := row.cols.description.map cString,
    weight := some (row.cols.weight.getD 0), orderNumber := some (row.cols.orderNumber.getD 0),
    isArchive := some (row.cols.isArchive != 0), isQueue := some (row.cols.isQueue != 0) }
  mapRow_ok row d := by
    simp only [SqliteStateRepository.mapRowToState, bind_eq_ok, valueInt64_integer,
      valueString_text_ok, unlessNull_orNull_text_ok, valueInt64_orNull_ok, Except.ok.injEq]
    constructor
    · rintro ⟨_, rfl, _, rfl, _, ⟨h1, rfl⟩, _, ⟨h2, rfl⟩, _, h3, _, h4, _, rfl, _, rfl, h⟩
      cases h
      simp_all
    · rintro ⟨h, hn, rfl⟩
      obtain ⟨w, hw⟩ := Option.isSome_iff_exists.mp (hn row.cols.weight (by simp))
      obtain ⟨o, ho⟩ := Option.isSome_iff_exists.mp (hn row.cols.orderNumber (by simp))
      refine ⟨_, rfl, _, rfl, _, ⟨h _ (by simp) _ rfl, rfl⟩, _, ⟨h _ (by simp), rfl⟩, w, hw, o, ho,
        _, rfl, _, rfl, ?_⟩
      simp [hw, ho, pure, Except.pure]
  texts_dtoOf row := rfl

def projectReader : RowReader .project Dto.Project where
  mapRow := SqliteProjectRepository.mapRowToProject
  texts d := [d.caption, d.description]
  columnTexts row := [some row.cols.caption, row.cols.description]
  numbers _ := []
  dtoOf row := {
    id := some row.id, parentId := row.cols.parentId, caption := some (cString row.cols.caption),
    description := row.cols.description.map cString,
    createdAt := some (Dto.secondsToTimePoint row.cols.createdAt),
    updatedAt := some (Dto.secondsToTimePoint row.cols.updatedAt),
    isArchive := some (row.cols.isArchive != 0) }
  mapRow_ok row d := by
    simp only [SqliteProjectRepository.mapRowToProject, bind_eq_ok, valueInt64_integer,
      valueString_text_ok, unlessNull_orNull_text_ok, unlessNull_orNull_integer, unlessNull_int64,
      Except.ok.injEq]
    constructor
    · rintro ⟨_, rfl, _, rfl, _, ⟨h1, rfl⟩, _, ⟨h2, rfl⟩, _, rfl, _, rfl, _, rfl, h⟩
      cases h
      simp_all
    · rintro ⟨h, -, rfl⟩
      exact ⟨_, rfl, _, rfl, _, ⟨h _ (by simp) _ rfl, rfl⟩, _, ⟨h _ (by simp), rfl⟩, _, rfl, _, rfl,
        _, rfl, rfl⟩
  texts_dtoOf row := rfl

def phaseReader : RowReader .phase Dto.Phase where
  mapRow := SqlitePhaseRepository.mapRowToPhase
  texts d := [d.caption, d.description]
  columnTexts row := [some row.cols.caption, row.cols.description]
  numbers _ := []
  dtoOf row := {
    id := some row.id, projectId := some row.cols.projectId,
    caption := some (cString row.cols.caption), description := row.cols.description.map cString,
    beginDate := row.cols.beginDate.map Dto.secondsToTimePoint,
    endDate := row.cols.endDate.map Dto.secondsToTimePoint,
    isArchive := some (row.cols.isArchive != 0) }
  mapRow_ok row d := by
    simp only [SqlitePhaseRepository.mapRowToPhase, bind_eq_ok, valueInt64_integer,
      valueString_text_ok, unlessNull_orNull_text_ok, unlessNull_orNull_integer, Except.ok.injEq]
    constructor
    · rintro ⟨_, rfl, _, rfl, _, ⟨h1, rfl⟩, _, ⟨h2, rfl⟩, _, rfl, _, rfl, _, rfl, h⟩
      cases h
      simp_all
    · rintro ⟨h, -, rfl⟩
      exact ⟨_, rfl, _, rfl, _, ⟨h _ (by simp) _ rfl, rfl⟩, _, ⟨h _ (by simp), rfl⟩, _, rfl, _, rfl,
        _, rfl, rfl⟩
  texts_dtoOf row := rfl

def itemTypeReader : RowReader .itemType Dto.ItemType where
  mapRow := SqliteItemTypeRepository.mapRowToItemType
  texts d := [d.caption, d.kind, d.defaultContent]
  columnTexts row := [some row.cols.caption, some row.cols.kind, row.cols.defaultContent]
  numbers _ := []
  dtoOf row := {
    id := some row.id, workflowId := some row.cols.workflowId,
    defaultStateId := row.cols.defaultStateId, caption := some (cString row.cols.caption),
    kind := some (cString row.cols.kind), defaultContent := row.cols.defaultContent.map cString }
  mapRow_ok row d := by
    simp only [SqliteItemTypeRepository.mapRowToItemType, bind_eq_ok, valueInt64_integer,
      valueString_text_ok, unlessNull_orNull_text_ok, unlessNull_orNull_integer, Except.ok.injEq]
    constructor
    · rintro ⟨_, rfl, _, rfl, _, rfl, _, ⟨h1, rfl⟩, _, ⟨h2, rfl⟩, _, ⟨h3, rfl⟩, h⟩
      cases h
      simp_all
    · rintro ⟨h, -, rfl⟩
      exact ⟨_, rfl, _, rfl, _, rfl, _, ⟨h _ (by simp) _ rfl, rfl⟩, _, ⟨h _ (by simp) _ rfl, rfl⟩,
        _, ⟨h _ (by simp), rfl⟩, rfl⟩
  texts_dtoOf row := rfl

def fieldTypeReader : RowReader .fieldType Dto.FieldType where
  mapRow := SqliteFieldTypeRepository.mapRowToFieldType
  texts d := [d.caption, d.description, d.valueType]
  columnTexts row := [some row.cols.caption, row.cols.description, some row.cols.valueType]
  numbers _ := []
  dtoOf row := {
    id := some row.id, itemTypeId := some row.cols.itemTypeId,
    caption := some (cString row.cols.caption), description := row.cols.description.map cString,
    valueType := some (cString row.cols.valueType),
    isBoardVisible := some (row.cols.isBoardVisible != 0) }
  mapRow_ok row d := by
    simp only [SqliteFieldTypeRepository.mapRowToFieldType, bind_eq_ok, valueInt64_integer,
      valueString_text_ok, unlessNull_orNull_text_ok, Except.ok.injEq]
    constructor
    · rintro ⟨_, rfl, _, rfl, _, ⟨h1, rfl⟩, _, ⟨h2, rfl⟩, _, ⟨h3, rfl⟩, _, rfl, h⟩
      cases h
      simp_all
    · rintro ⟨h, -, rfl⟩
      exact ⟨_, rfl, _, rfl, _, ⟨h _ (by simp) _ rfl, rfl⟩, _, ⟨h _ (by simp), rfl⟩, _,
        ⟨h _ (by simp) _ rfl, rfl⟩, _, rfl, rfl⟩
  texts_dtoOf row := rfl

def userReader : RowReader .user Dto.User where
  mapRow := SqliteUserRepository.mapRowToUser
  texts d := [d.login, d.firstName, d.middleName, d.lastName, d.email]
  columnTexts row := [some row.cols.login, row.cols.firstName, row.cols.middleName,
    row.cols.lastName, some row.cols.email]
  numbers _ := []
  dtoOf row := {
    id := some row.id, login := some (cString row.cols.login),
    firstName := row.cols.firstName.map cString, middleName := row.cols.middleName.map cString,
    lastName := row.cols.lastName.map cString, email := some (cString row.cols.email),
    needChangePassword := some (row.cols.needChangePassword != 0),
    isBlocked := some (row.cols.isBlocked != 0), isSuperAdmin := some (row.cols.isSuperAdmin != 0),
    isHidden := some (row.cols.isHidden != 0) }
  mapRow_ok row d := by
    simp only [SqliteUserRepository.mapRowToUser, bind_eq_ok, valueInt64_integer,
      valueString_text_ok, unlessNull_orNull_text_ok, Except.ok.injEq]
    constructor
    · rintro ⟨_, rfl, _, ⟨h1, rfl⟩, _, ⟨h2, rfl⟩, _, ⟨h3, rfl⟩, _, ⟨h4, rfl⟩, _, ⟨h5, rfl⟩, _, rfl,
        _, rfl, _, rfl, _, rfl, h⟩
      cases h
      simp_all
    · rintro ⟨h, -, rfl⟩
      exact ⟨_, rfl, _, ⟨h _ (by simp) _ rfl, rfl⟩, _, ⟨h _ (by simp), rfl⟩, _,
        ⟨h _ (by simp), rfl⟩, _, ⟨h _ (by simp), rfl⟩, _, ⟨h _ (by simp) _ rfl, rfl⟩, _, rfl, _, rfl,
        _, rfl, _, rfl, rfl⟩
  texts_dtoOf row := rfl

end Farado
