import Farado.Repositories.Readers
import Farado.Storage.Reference

/-!
# Texts on their way through the repositories

`create` cuts a text at its first NUL, and a text that is shaped like a date cannot be read back:
`SqliteResultSet::value` makes a `DateTime` of it and `valueString` throws. So a created object comes
back with the texts it was given exactly when these have neither, and one row with a date-shaped text
breaks every page it is on.
-/

namespace Farado

open Relational Steps

/-- What a text must be to come back from its column. -/
def Survives (text : Bytes) : Prop := 0 ∉ text ∧ looksLikeDateTime text = false

instance (text : Bytes) : Decidable (Survives text) :=
  inferInstanceAs (Decidable (_ ∧ _))

/-- Texts that are stored, can be read and come back unchanged are those that survive. -/
theorem texts_survive_iff (texts : List (Option Bytes)) :
    ((∀ text ∈ texts.map (Option.map bindString), ∀ b ∈ text, looksLikeDateTime (cString b) = false)
      ∧ (texts.map (Option.map bindString)).map (Option.map cString) = texts) ↔
    ∀ text ∈ texts, ∀ b ∈ text, Survives b := by
  -- binding and reading cut at the first NUL, so unchanged means without NUL
  have hcut : (texts.map (Option.map bindString)).map (Option.map cString) = texts ↔
      ∀ text ∈ texts, ∀ b ∈ text, 0 ∉ b := by
    rw [List.map_map]
    conv_lhs => rhs; rw [← List.map_id texts]
    rw [List.map_inj_left]
    refine forall₂_congr fun text _ => ?_
    cases text with
    | none => simp
    | some b => simp [bindString, cString_eq_self_iff]
  rw [hcut]
  constructor
  · rintro ⟨hdate, hnul⟩ text htext b hb
    refine ⟨hnul text htext b hb, ?_⟩
    have hcut : cString b = b := cString_eq_self_iff.mpr (hnul text htext b hb)
    have := hdate _ (List.mem_map_of_mem htext) (bindString b)
      (by rw [Option.mem_def.mp hb]; rfl)
    rwa [bindString, cString_cString, hcut] at this
  · intro h
    refine ⟨?_, fun text htext b hb => (h text htext b hb).1⟩
    intro stored hstored b hb
    obtain ⟨text, htext, rfl⟩ := List.mem_map.mp hstored
    obtain ⟨a, ha, rfl⟩ := Option.mem_map.mp hb
    obtain ⟨hnul, hdate⟩ := h text htext a ha
    rw [bindString, cString_cString, cString_eq_self_iff.mpr hnul]
    exact hdate

/-! ## What `create` binds -/

theorem values_workflow {d : Dto.Workflow} {v : WorkflowRow}
    (h : SqliteWorkflowRepository.values d = some v) (id : Int) :
    workflowReader.columnTexts ⟨id, v⟩ = (workflowReader.texts d).map (Option.map bindString) ∧
      ∀ n ∈ workflowReader.numbers ⟨id, v⟩, n.isSome = true := by
  simp only [SqliteWorkflowRepository.values, Option.bind_eq_bind, Option.bind_eq_some_iff] at h
  obtain ⟨caption, hcaption, _, -, h⟩ := h
  cases h
  simp [workflowReader, hcaption]

theorem values_state {d : Dto.State} {v : StateRow}
    (h : SqliteStateRepository.values d = some v) (id : Int) :
    stateReader.columnTexts ⟨id, v⟩ = (stateReader.texts d).map (Option.map bindString) ∧
      ∀ n ∈ stateReader.numbers ⟨id, v⟩, n.isSome = true := by
  simp only [SqliteStateRepository.values, Option.bind_eq_bind, Option.bind_eq_some_iff] at h
  obtain ⟨_, -, caption, hcaption, _, -, h⟩ := h
  cases h
  simp [stateReader, hcaption]

theorem values_project {env : Environment} {now : Int} {d : Dto.Project} {v : ProjectRow}
    (h : SqliteProjectRepository.values env now d = some v) (id : Int) :
    projectReader.columnTexts ⟨id, v⟩ = (projectReader.texts d).map (Option.map bindString) ∧
      ∀ n ∈ projectReader.numbers ⟨id, v⟩, n.isSome = true := by
  simp only [SqliteProjectRepository.values, Option.bind_eq_bind, Option.bind_eq_some_iff] at h
  obtain ⟨caption, hcaption, _, -, h⟩ := h
  cases h
  simp [projectReader, hcaption]

theorem values_phase {env : Environment} {d : Dto.Phase} {v : PhaseRow}
    (h : SqlitePhaseRepository.values env d = some v) (id : Int) :
    phaseReader.columnTexts ⟨id, v⟩ = (phaseReader.texts d).map (Option.map bindString) ∧
      ∀ n ∈ phaseReader.numbers ⟨id, v⟩, n.isSome = true := by
  simp only [SqlitePhaseRepository.values, Option.bind_eq_bind, Option.bind_eq_some_iff] at h
  obtain ⟨caption, hcaption, _, -, _, -, h⟩ := h
  cases h
  simp [phaseReader, hcaption]

theorem values_itemType {d : Dto.ItemType} {v : ItemTypeRow}
    (h : SqliteItemTypeRepository.values d = some v) (id : Int) :
    itemTypeReader.columnTexts ⟨id, v⟩ = (itemTypeReader.texts d).map (Option.map bindString) ∧
      ∀ n ∈ itemTypeReader.numbers ⟨id, v⟩, n.isSome = true := by
  simp only [SqliteItemTypeRepository.values, Option.bind_eq_bind, Option.bind_eq_some_iff] at h
  obtain ⟨caption, hcaption, _, -, _, -, kind, hkind, _, -, h⟩ := h
  cases h
  simp [itemTypeReader, hcaption, hkind]

theorem values_fieldType {d : Dto.FieldType} {v : FieldTypeRow}
    (h : SqliteFieldTypeRepository.values d = some v) (id : Int) :
    fieldTypeReader.columnTexts ⟨id, v⟩ = (fieldTypeReader.texts d).map (Option.map bindString) ∧
      ∀ n ∈ fieldTypeReader.numbers ⟨id, v⟩, n.isSome = true := by
  simp only [SqliteFieldTypeRepository.values, Option.bind_eq_bind, Option.bind_eq_some_iff] at h
  obtain ⟨caption, hcaption, _, -, _, -, valueType, hvalueType, _, -, _, -, h⟩ := h
  cases h
  simp [fieldTypeReader, hcaption, hvalueType]

theorem values_user {d : Dto.User} {passwordHash : Bytes} {v : UserRow}
    (h : SqliteUserRepository.values d passwordHash = some v) (id : Int) :
    userReader.columnTexts ⟨id, v⟩ = (userReader.texts d).map (Option.map bindString) ∧
      ∀ n ∈ userReader.numbers ⟨id, v⟩, n.isSome = true := by
  simp only [SqliteUserRepository.values, Option.bind_eq_bind, Option.bind_eq_some_iff] at h
  obtain ⟨login, hlogin, _, -, email, hemail, _, -, _, -, h⟩ := h
  cases h
  simp [userReader, hlogin, hemail]

/-! ## One repository -/

section
variable {t : Table} {Dto : Type} (R : RowReader t Dto)

/-- The row a successful `create` inserted is there, and `findById` reads it. -/
theorem result_find_created {values : Option (Columns t)} {c c' : Connection} {id : Int}
    (hcreate : (createIn t values).run c = (.ok id, c')) (hid : 0 < id) {d : Dto} :
    ∃ v, values = some v ∧ ⟨id, v⟩ ∈ c'.db.rows t ∧
      ((findByIdIn t R.mapRow id).result c' = .ok (some d) ↔ R.mapRow ⟨id, v⟩ = .ok d) := by
  rcases run_createIn hcreate with ⟨-, h, -⟩ | ⟨v, hv, ⟨rowid, db, hi, h, rfl⟩ | ⟨-, h, -⟩⟩
  · cases h
    omega
  · cases h
    have hmem : (⟨id, v⟩ : Row t) ∈ db.rows t := by
      rw [Database.insert_rows_self hi]
      simp
    refine ⟨v, hv, hmem, ?_⟩
    rw [result_findByIdIn_some]
    constructor
    · rintro ⟨-, row, hrow, hrid, h⟩
      rwa [← db.integral.eq_of_id hrow hmem hrid]
    · intro h
      exact ⟨hid, _, hmem, rfl, h⟩
  · cases h

/-- The created object is read back with its texts exactly when they survive. -/
theorem find_texts_iff {values : Option (Columns t)} {given : Dto}
    (hvalues : ∀ v, values = some v → ∀ id,
      R.columnTexts ⟨id, v⟩ = (R.texts given).map (Option.map bindString) ∧
        ∀ n ∈ R.numbers ⟨id, v⟩, n.isSome = true)
    {c c' : Connection} {id : Int} (hcreate : (createIn t values).run c = (.ok id, c'))
    (hid : 0 < id) :
    (∃ d, (findByIdIn t R.mapRow id).result c' = .ok (some d) ∧ R.texts d = R.texts given) ↔
      ∀ text ∈ R.texts given, ∀ b ∈ text, Survives b := by
  obtain ⟨v, hv, -, -⟩ := result_find_created R hcreate hid (d := given)
  obtain ⟨htexts, hnumbers⟩ := hvalues v hv id
  rw [← texts_survive_iff, ← htexts, ← R.texts_dtoOf]
  constructor
  · rintro ⟨d, hfind, hd⟩
    obtain ⟨v', hv', -, hiff⟩ := result_find_created R hcreate hid (d := d)
    cases hv.symm.trans hv'
    obtain ⟨hread, -, rfl⟩ := (R.mapRow_ok _ _).mp (hiff.mp hfind)
    exact ⟨hread, hd⟩
  · rintro ⟨hread, hd⟩
    obtain ⟨v', hv', -, hiff⟩ := result_find_created R hcreate hid (d := R.dtoOf ⟨id, v⟩)
    cases hv.symm.trans hv'
    exact ⟨_, hiff.mpr ((R.mapRow_ok _ _).mpr ⟨hread, hnumbers, rfl⟩), hd⟩

/-- **Round trip of one repository.** `given` is what the caller passed; `hvalues` says that `create`
binds its texts and no NULL numbers. -/
theorem roundTrip_iff {values : Option (Columns t)} {given : Dto}
    (hvalues : ∀ v, values = some v → ∀ id,
      R.columnTexts ⟨id, v⟩ = (R.texts given).map (Option.map bindString) ∧
        ∀ n ∈ R.numbers ⟨id, v⟩, n.isSome = true)
    {c c' : Connection} {id : Int} (hcreate : (createIn t values).run c = (.ok id, c'))
    (hid : 0 < id) (env : Environment) (p : Row t → Bool) (le : Row t → Row t → Bool)
    (stopsPastEnd : Bool) (page pageSize : Int) :
    ((∃ d, (findByIdIn t R.mapRow id).result c' = .ok (some d) ∧ R.texts d = R.texts given) ∧
      (id ∈ (pageRows env c'.db t p le page pageSize).map (·.id) →
        ∃ r, (findAllIn env t p le stopsPastEnd R.mapRow page pageSize).result c' = .ok r)) ↔
    ((∀ text ∈ R.texts given, ∀ b ∈ text, Survives b) ∧
      (id ∈ (pageRows env c'.db t p le page pageSize).map (·.id) →
        ∀ row ∈ pageRows env c'.db t p le page pageSize, row.id ≠ id → R.Readable row)) := by
  obtain ⟨v, hv, hmem, -⟩ := result_find_created R hcreate hid (d := given)
  obtain ⟨htexts, hnumbers⟩ := hvalues v hv id
  rw [find_texts_iff R hvalues hcreate hid]
  refine and_congr_right fun hsurvive => forall_congr' fun honPage => ?_
  have hne : pageRows env c'.db t p le page pageSize ≠ [] := by
    rintro hnil
    rw [hnil] at honPage
    cases honPage
  rw [result_findAllIn hne]
  constructor
  · intro h row hrow _
    exact R.readable_iff.mpr (h row hrow)
  · intro h row hrow
    rw [← R.readable_iff]
    by_cases hrid : row.id = id
    · -- the row itself: its texts survive, so it can be read
      have hrow' : row ∈ c'.db.rows t := (List.mem_filter.mp (mem_pageRows hrow)).1
      rw [c'.db.integral.eq_of_id hrow' hmem hrid]
      refine ⟨?_, hnumbers⟩
      rw [htexts]
      exact ((texts_survive_iff _).mpr hsurvive).1
    · exact h row hrow hrid

end

/-! ## All seven -/

/-- The entities that are stored through a repository with texts. -/
inductive Stored where
  | workflow | state | project | phase | itemType | fieldType | user

namespace Stored

def table : Stored → Table
  | workflow => .workflow
  | state => .state
  | project => .project
  | phase => .phase
  | itemType => .itemType
  | fieldType => .fieldType
  | user => .user

def Dto : Stored → Type
  | workflow => Dto.Workflow
  | state => Dto.State
  | project => Dto.Project
  | phase => Dto.Phase
  | itemType => Dto.ItemType
  | fieldType => Dto.FieldType
  | user => Dto.User

/-- What `create` takes beside the object: the time for a project, the password hash for a user. -/
def Extra : Stored → Type
  | project => Int
  | user => Bytes
  | _ => Unit

def create (env : Environment) : (s : Stored) → s.Dto → s.Extra → Db Int
  | workflow, d, _ => SqliteWorkflowRepository.create d
  | state, d, _ => SqliteStateRepository.create d
  | project, d, now => SqliteProjectRepository.create env now d
  | phase, d, _ => SqlitePhaseRepository.create env d
  | itemType, d, _ => SqliteItemTypeRepository.create d
  | fieldType, d, _ => SqliteFieldTypeRepository.create d
  | user, d, passwordHash => SqliteUserRepository.create d passwordHash

def findById : (s : Stored) → Int → Db (Option s.Dto)
  | workflow => SqliteWorkflowRepository.findById
  | state => SqliteStateRepository.findById
  | project => SqliteProjectRepository.findById
  | phase => SqlitePhaseRepository.findById
  | itemType => SqliteItemTypeRepository.findById
  | fieldType => SqliteFieldTypeRepository.findById
  | user => SqliteUserRepository.findById

/-- The filters of `findAll`. -/
def Filters : Stored → Type
  | workflow | user => Unit
  | state => Option Int
  | project => Option Int × Option Bool × Bytes
  | phase => Option Int × Option Bool
  | itemType | fieldType => Option Int × Option Bytes × Bytes

def findAll (env : Environment) :
    (s : Stored) → s.Filters → (page pageSize : Int) → Db (List s.Dto × Int)
  | workflow, _, page, size => SqliteWorkflowRepository.findAll env page size
  | state, w, page, size => SqliteStateRepository.findAll env page size w
  | project, (p, a, search), page, size => SqliteProjectRepository.findAll env page size p a search
  | phase, (p, a), page, size => SqlitePhaseRepository.findAll env page size p a
  | itemType, (w, k, search), page, size =>
      SqliteItemTypeRepository.findAll env page size w k search
  | fieldType, (i, v, search), page, size =>
      SqliteFieldTypeRepository.findAll env page size i v search
  | user, _, page, size => SqliteUserRepository.findAll env page size

/-- The rows of the page that `findAll` is asked for. -/
def page (env : Environment) (db : Database V1) :
    (s : Stored) → s.Filters → (page pageSize : Int) → List (Row s.table)
  | workflow, _ => pageRows env db .workflow (fun _ => true) byId
  | state, w =>
      pageRows env db .state (SqliteStateRepository.filter w) SqliteStateRepository.byWorkflow
  | project, (p, a, search) =>
      pageRows env db .project (SqliteProjectRepository.filter env p a search) byId
  | phase, (p, a) =>
      pageRows env db .phase (SqlitePhaseRepository.filter p a) SqlitePhaseRepository.byBeginDate
  | itemType, (w, k, search) =>
      pageRows env db .itemType (SqliteItemTypeRepository.filter env w k search)
        SqliteItemTypeRepository.byKind
  | fieldType, (i, v, search) =>
      pageRows env db .fieldType (SqliteFieldTypeRepository.filter env i v search)
        SqliteFieldTypeRepository.byCaption
  | user, _ => pageRows env db .user (fun _ => true) byId

def reader : (s : Stored) → RowReader s.table s.Dto
  | workflow => workflowReader
  | state => stateReader
  | project => projectReader
  | phase => phaseReader
  | itemType => itemTypeReader
  | fieldType => fieldTypeReader
  | user => userReader

end Stored

/-- **Created objects come back with their texts, and the pages they are on can be read, exactly
when** the texts survive and no other row of the page has a date-shaped text (or a NULL number). -/
theorem created_texts_iff (env : Environment) (s : Stored) (d : s.Dto) (extra : s.Extra)
    (c c' : Connection) (id : Int) (hcreate : (s.create env d extra).run c = (.ok id, c'))
    (hid : 0 < id) (filters : s.Filters) (page pageSize : Int) :
    ((∃ found, (s.findById id).result c' = .ok (some found) ∧
        s.reader.texts found = s.reader.texts d) ∧
      (id ∈ (s.page env c'.db filters page pageSize).map (·.id) →
        ∃ r, (s.findAll env filters page pageSize).result c' = .ok r)) ↔
    ((∀ text ∈ s.reader.texts d, ∀ b ∈ text, Survives b) ∧
      (id ∈ (s.page env c'.db filters page pageSize).map (·.id) →
        ∀ row ∈ s.page env c'.db filters page pageSize, row.id ≠ id → s.reader.Readable row)) := by
  cases s with
  | workflow =>
    exact roundTrip_iff workflowReader (fun _ => values_workflow) hcreate hid env _ _ _ _ _
  | state => exact roundTrip_iff stateReader (fun _ => values_state) hcreate hid env _ _ _ _ _
  | project => exact roundTrip_iff projectReader (fun _ => values_project) hcreate hid env _ _ _ _ _
  | phase => exact roundTrip_iff phaseReader (fun _ => values_phase) hcreate hid env _ _ _ _ _
  | itemType =>
    exact roundTrip_iff itemTypeReader (fun _ => values_itemType) hcreate hid env _ _ _ _ _
  | fieldType =>
    exact roundTrip_iff fieldTypeReader (fun _ => values_fieldType) hcreate hid env _ _ _ _ _
  | user => exact roundTrip_iff userReader (fun _ => values_user) hcreate hid env _ _ _ _ _

/-- The connection after the first workflow of a new database has been created. -/
def afterFirstWorkflow (workflow : Dto.Workflow) : Connection :=
  (SqliteWorkflowRepository.create workflow).after Connection.fresh

/-- There is a workflow already when another one is created, and both are on the page. -/
theorem created_texts_iff_sales :
    let c := (SqliteWorkflowRepository.create { caption := some (bytes "Sales") }).after
      (afterFirstWorkflow { caption := some (bytes "Support") })
    (∃ found, (SqliteWorkflowRepository.findById 2).result c = .ok (some found) ∧
      workflowReader.texts found = [some (bytes "Sales"), none]) ∧
    (2 ∈ (Stored.page Environment.reference c.db .workflow () 1 20).map (·.id) →
      ∃ r, (SqliteWorkflowRepository.findAll Environment.reference 1 20).result c = .ok r) := by
  intro c
  exact (created_texts_iff Environment.reference .workflow { caption := some (bytes "Sales") } ()
    (afterFirstWorkflow { caption := some (bytes "Support") }) c 2 rfl (by decide) () 1 20).mpr
      ⟨by decide, fun _ => by simp only [RowReader.Readable]; decide⟩

/-- A workflow called `2024-01-01 00:00:00` is created, and `findById` throws on it. -/
theorem created_texts_lost : ¬ ∀ (s : Stored) (d : s.Dto) (extra : s.Extra) (c c' : Connection)
    (id : Int), (s.create Environment.reference d extra).run c = (.ok id, c') → 0 < id →
      ∃ found, (s.findById id).result c' = .ok (some found) ∧
        s.reader.texts found = s.reader.texts d := by
  intro h
  obtain ⟨found, hfound, -⟩ := h .workflow { caption := some (bytes "2024-01-01 00:00:00") } ()
    Connection.fresh _ 1 rfl (by decide)
  cases hfound

end Farado
