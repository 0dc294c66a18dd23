import Farado.Repositories.Project
import Farado.Storage.Reference

/-!
# The search columns

`searchCaption` and `searchDescription` keep the texts of a project or a phase in lower case. Eight
methods write these tables; those that write a text write its lower case with it, and the others
write neither, so the columns always mirror each other.
-/

namespace Farado

open Relational Steps

/-- The methods that write projects and phases, each with its reading of the clock where it has
one. -/
inductive TextWrite where
  | createProject (now : Int) (project : Dto.Project)
  | updateProject (now : Int) (project : Dto.Project)
  | archiveProject (now id : Int)
  | restoreProject (now id : Int)
  | createPhase (phase : Dto.Phase)
  | updatePhase (phase : Dto.Phase)
  | archivePhase (id : Int)
  | restorePhase (id : Int)

/-- The connection afterwards. -/
def TextWrite.exec (env : Environment) (c : Connection) : TextWrite → Connection
  | createProject now project => (SqliteProjectRepository.create env now project).after c
  | updateProject now project => (SqliteProjectRepository.update env now project).after c
  | archiveProject now id => (SqliteProjectRepository.archive now id).after c
  | restoreProject now id => (SqliteProjectRepository.restore now id).after c
  | createPhase phase => (SqlitePhaseRepository.create env phase).after c
  | updatePhase phase => (SqlitePhaseRepository.update env phase).after c
  | archivePhase id => (SqlitePhaseRepository.archive id).after c
  | restorePhase id => (SqlitePhaseRepository.restore id).after c

/-- A row's search columns are its texts in lower case, and NULL where the text is. -/
structure Mirrors (env : Environment) (caption : Bytes)
    (description searchCaption searchDescription : Option Bytes) : Prop where
  caption : searchCaption = some (toLowerCase env caption)
  description : searchDescription = description.map (toLowerCase env)

def ProjectRow.Mirrors (env : Environment) (row : ProjectRow) : Prop :=
  Farado.Mirrors env row.caption row.description row.searchCaption row.searchDescription

def PhaseRow.Mirrors (env : Environment) (row : PhaseRow) : Prop :=
  Farado.Mirrors env row.caption row.description row.searchCaption row.searchDescription

/-- All projects and phases do. -/
structure SearchColumnsMirror (env : Environment) (db : Database V1) : Prop where
  projects : ∀ row ∈ db.rows .project, row.cols.Mirrors env
  phases : ∀ row ∈ db.rows .phase, row.cols.Mirrors env

/-! ## What is bound -/

section
variable {env : Environment} (hfold : ∀ text, 0 ∉ text → 0 ∉ env.foldCase text)

theorem toLowerCase_bindString (env : Environment) (text : Bytes) :
    toLowerCase env (bindString text) = toLowerCase env text := by
  rw [toLowerCase, bindString, cString_cString, toLowerCase]

include hfold

/-- Binding does not cut a text in lower case. -/
theorem bindString_toLowerCase (text : Bytes) :
    bindString (toLowerCase env text) = toLowerCase env text := by
  rw [bindString, cString_eq_self_iff, toLowerCase]
  exact hfold _ (zero_not_mem_cString text)

theorem mirrors_bound (caption : Bytes) (description : Option Bytes) :
    Mirrors env (bindString caption) (description.map bindString)
      (some (bindString (toLowerCase env caption)))
      (description.map fun d => bindString (toLowerCase env d)) := by
  constructor
  · rw [bindString_toLowerCase hfold, toLowerCase_bindString]
  · cases description with
    | none => rfl
    | some d =>
      rw [Option.map_some, Option.map_some, Option.map_some, bindString_toLowerCase hfold,
        toLowerCase_bindString]

theorem Mirrors.setCaption {caption : Bytes}
    {description searchCaption searchDescription : Option Bytes}
    (h : Mirrors env caption description searchCaption searchDescription) (text : Bytes) :
    Mirrors env (bindString text) description (some (bindString (toLowerCase env text)))
      searchDescription :=
  ⟨(mirrors_bound hfold text none).caption, h.description⟩

theorem Mirrors.setDescription {caption : Bytes}
    {description searchCaption searchDescription : Option Bytes}
    (h : Mirrors env caption description searchCaption searchDescription) (text : Bytes) :
    Mirrors env caption (some (bindString text)) searchCaption
      (some (bindString (toLowerCase env text))) :=
  ⟨h.caption, (mirrors_bound hfold text (some text)).description⟩

/-! ## What the methods bind -/

theorem values_project_mirrors {now : Int} {project : Dto.Project} {v : ProjectRow}
    (h : SqliteProjectRepository.values env now project = some v) : v.Mirrors env := by
  simp only [SqliteProjectRepository.values, Option.bind_eq_bind, Option.bind_eq_some_iff] at h
  obtain ⟨caption, -, _, -, h⟩ := h
  cases h
  exact mirrors_bound hfold caption project.description

theorem values_phase_mirrors {phase : Dto.Phase} {v : PhaseRow}
    (h : SqlitePhaseRepository.values env phase = some v) : v.Mirrors env := by
  simp only [SqlitePhaseRepository.values, Option.bind_eq_bind, Option.bind_eq_some_iff] at h
  obtain ⟨caption, -, _, -, projectId, -, h⟩ := h
  cases h
  exact mirrors_bound hfold caption phase.description

theorem setClauses_project_mirrors {now : Int} {project : Dto.Project} :
    ∀ set ∈ SqliteProjectRepository.setClauses env now project, ∀ row : ProjectRow,
      row.Mirrors env → (set row).Mirrors env := by
  intro set hset row hrow
  simp only [SqliteProjectRepository.setClauses, List.mem_append, List.mem_singleton,
    mem_setIfPresent] at hset
  rcases hset with (((⟨v, -, rfl⟩ | ⟨v, -, rfl⟩) | ⟨v, -, rfl⟩) | ⟨v, -, rfl⟩) | rfl
  · exact hrow
  · exact hrow.setCaption hfold v
  · exact hrow.setDescription hfold v
  · exact hrow
  · exact hrow

theorem setClauses_phase_mirrors {phase : Dto.Phase} :
    ∀ set ∈ SqlitePhaseRepository.setClauses env phase, ∀ row : PhaseRow,
      row.Mirrors env → (set row).Mirrors env := by
  intro set hset row hrow
  simp only [SqlitePhaseRepository.setClauses, List.mem_append, mem_setIfPresent] at hset
  rcases hset with ((((⟨v, -, rfl⟩ | ⟨v, -, rfl⟩) | ⟨v, -, rfl⟩) | ⟨v, -, rfl⟩) | ⟨v, -, rfl⟩) |
    ⟨v, -, rfl⟩
  · exact hrow
  · exact hrow.setCaption hfold v
  · exact hrow.setDescription hfold v
  · exact hrow
  · exact hrow
  · exact hrow

end

/-! ## What the methods do -/

section
variable {env : Environment} {c : Connection}

theorem setArchive_phase_projects (id isArchive : Int) :
    ((SqlitePhaseRepository.setArchive id isArchive).after c).db.rows .project =
      c.db.rows .project := by
  unfold SqlitePhaseRepository.setArchive
  split
  · rfl
  · exact updateIn_rows_of_ne (by decide) c

theorem setArchive_project_phases (now id isArchive : Int) :
    ((SqliteProjectRepository.setArchive now id isArchive).after c).db.rows .phase =
      c.db.rows .phase := by
  unfold SqliteProjectRepository.setArchive
  split
  · rfl
  · exact updateIn_rows_of_ne (by decide) c

theorem setArchive_project_keeps {P : ProjectRow → Prop}
    (harchive : ∀ row isArchive updatedAt, P row → P { row with isArchive, updatedAt })
    (now id isArchive : Int) (h : ∀ row ∈ c.db.rows .project, P row.cols) :
    ∀ row ∈ ((SqliteProjectRepository.setArchive now id isArchive).after c).db.rows .project,
      P row.cols := by
  unfold SqliteProjectRepository.setArchive
  split
  · exact h
  · refine updateIn_keeps (t := .project) (fun set hset row hrow => ?_) h
    rw [List.mem_singleton.mp hset]
    exact harchive row isArchive _ hrow

theorem setArchive_phase_keeps {P : PhaseRow → Prop}
    (harchive : ∀ row isArchive, P row → P { row with isArchive }) (id isArchive : Int)
    (h : ∀ row ∈ c.db.rows .phase, P row.cols) :
    ∀ row ∈ ((SqlitePhaseRepository.setArchive id isArchive).after c).db.rows .phase,
      P row.cols := by
  unfold SqlitePhaseRepository.setArchive
  split
  · exact h
  · refine updateIn_keeps (t := .phase) (fun set hset row hrow => ?_) h
    rw [List.mem_singleton.mp hset]
    exact harchive row isArchive hrow

/-- What a write keeps true of the projects: that holds of what it creates and is kept by the clauses
of its update and by archiving. -/
theorem TextWrite.exec_keeps_projects {P : ProjectRow → Prop} (write : TextWrite)
    (hcreate : ∀ now project v, write = .createProject now project →
      SqliteProjectRepository.values env now project = some v → P v)
    (hupdate : ∀ now project, write = .updateProject now project →
      ∀ set ∈ SqliteProjectRepository.setClauses env now project, ∀ row, P row → P (set row))
    (harchive : ∀ row isArchive updatedAt, P row → P { row with isArchive, updatedAt })
    (h : ∀ row ∈ c.db.rows .project, P row.cols) :
    ∀ row ∈ (write.exec env c).db.rows .project, P row.cols := by
  cases write with
  | createProject now project =>
    exact createIn_keeps (t := .project) (fun v => hcreate now project v rfl) h
  | updateProject now project =>
    exact updateIn_keeps (t := .project) (hupdate now project rfl) h
  | archiveProject now id => exact setArchive_project_keeps harchive now id 1 h
  | restoreProject now id => exact setArchive_project_keeps harchive now id 0 h
  | createPhase phase =>
    show ∀ row ∈ ((createIn .phase _).after c).db.rows .project, _
    rw [createIn_rows_of_ne (by decide)]
    exact h
  | updatePhase phase =>
    show ∀ row ∈ ((updateIn .phase _ _).after c).db.rows .project, _
    rw [updateIn_rows_of_ne (by decide)]
    exact h
  | archivePhase id => exact (setArchive_phase_projects id 1).symm ▸ h
  | restorePhase id => exact (setArchive_phase_projects id 0).symm ▸ h

/-- The same for the phases. -/
theorem TextWrite.exec_keeps_phases {P : PhaseRow → Prop} (write : TextWrite)
    (hcreate : ∀ phase v, write = .createPhase phase →
      SqlitePhaseRepository.values env phase = some v → P v)
    (hupdate : ∀ phase, write = .updatePhase phase →
      ∀ set ∈ SqlitePhaseRepository.setClauses env phase, ∀ row, P row → P (set row))
    (harchive : ∀ row isArchive, P row → P { row with isArchive })
    (h : ∀ row ∈ c.db.rows .phase, P row.cols) :
    ∀ row ∈ (write.exec env c).db.rows .phase, P row.cols := by
  cases write with
  | createProject now project =>
    show ∀ row ∈ ((createIn .project _).after c).db.rows .phase, _
    rw [createIn_rows_of_ne (by decide)]
    exact h
  | updateProject now project =>
    show ∀ row ∈ ((updateIn .project _ _).after c).db.rows .phase, _
    rw [updateIn_rows_of_ne (by decide)]
    exact h
  | archiveProject now id => exact (setArchive_project_phases now id 1).symm ▸ h
  | restoreProject now id => exact (setArchive_project_phases now id 0).symm ▸ h
  | createPhase phase => exact createIn_keeps (t := .phase) (fun v => hcreate phase v rfl) h
  | updatePhase phase => exact updateIn_keeps (t := .phase) (hupdate phase rfl) h
  | archivePhase id => exact setArchive_phase_keeps harchive id 1 h
  | restorePhase id => exact setArchive_phase_keeps harchive id 0 h

/-- One write. -/
theorem TextWrite.exec_mirrors (hfold : ∀ text, 0 ∉ text → 0 ∉ env.foldCase text)
    (write : TextWrite) (h : SearchColumnsMirror env c.db) :
    SearchColumnsMirror env (write.exec env c).db where
  projects := by
    refine write.exec_keeps_projects (fun _ _ _ _ => values_project_mirrors hfold)
      (fun _ _ _ => setClauses_project_mirrors hfold) ?_ h.projects
    exact fun row isArchive updatedAt hrow => hrow
  phases := by
    refine write.exec_keeps_phases (fun _ _ _ => values_phase_mirrors hfold)
      (fun _ _ => setClauses_phase_mirrors hfold) ?_ h.phases
    exact fun row isArchive hrow => hrow

/-- A run of writes. -/
theorem foldl_exec_mirrors (hfold : ∀ text, 0 ∉ text → 0 ∉ env.foldCase text)
    (writes : List TextWrite) (h : SearchColumnsMirror env c.db) :
    SearchColumnsMirror env (writes.foldl (TextWrite.exec env) c).db := by
  induction writes generalizing c with
  | nil => exact h
  | cons write writes ih => exact ih (write.exec_mirrors hfold h)

/-- Before the first project and the first phase. -/
theorem searchColumnsMirror_of_nil (hprojects : c.db.rows .project = [])
    (hphases : c.db.rows .phase = []) : SearchColumnsMirror env c.db where
  projects := by simp [hprojects]
  phases := by simp [hphases]

end

/-- **After any run of the writing methods every search column mirrors its text.** All that is asked
of the conversion to lower case is that it makes no NUL bytes. -/
theorem search_columns_mirror (env : Environment) (hfold : ∀ text, 0 ∉ text → 0 ∉ env.foldCase text)
    (start : Connection) (hprojects : start.db.rows .project = [])
    (hphases : start.db.rows .phase = []) (writes : List TextWrite) :
    SearchColumnsMirror env (writes.foldl (TextWrite.exec env) start).db :=
  foldl_exec_mirrors hfold writes (searchColumnsMirror_of_nil hprojects hphases)

/-- ASCII lower case makes no NUL bytes. -/
theorem reference_foldCase_nulFree (text : Bytes) (h : 0 ∉ text) :
    0 ∉ Environment.reference.foldCase text := by
  intro hzero
  obtain ⟨b, hb, hlower⟩ := List.mem_map.mp hzero
  unfold lowerByte at hlower
  split at hlower
  · next hrange =>
    have hlow : 65 ≤ b.toNat := UInt8.le_iff_toNat_le.mp hrange.1
    have hhigh : b.toNat ≤ 90 := UInt8.le_iff_toNat_le.mp hrange.2
    have hsum : (b.toNat + 32) % 256 = 0 :=
      (UInt8.toNat_add b 0x20).symm.trans (congrArg UInt8.toNat hlower)
    omega
  · exact h (hlower ▸ hb)

theorem search_columns_mirror_alpha : SearchColumnsMirror Environment.reference
    ([TextWrite.createProject 0 { caption := some (bytes "Alpha") },
      .updateProject 1 { id := some 1, caption := some (bytes "Beta"), description := some [] },
      .archiveProject 2 1].foldl (TextWrite.exec Environment.reference) Connection.fresh).db :=
  search_columns_mirror Environment.reference reference_foldCase_nulFree Connection.fresh rfl rfl _

end Farado
