import Farado.Lib.Forest
import Farado.Lib.Steps.Runs
import Farado.Services.Effects
import Farado.Services.Project
import Farado.Storage.Reference

/-!
# The tree of projects

`Project.parentId` has to name a project that exists, and nothing else is asked of it. So an update
can move a project below itself, and since a foreign key is checked at the end of the statement a
new project can even name its own id as its parent. A run in which neither happens leaves a forest.
-/

namespace Farado

open Relational Steps Forest

/-- The parent of a project. -/
def parentOf (db : Database V1) (id : Int) : Option Int :=
  (db.find .project id).bind fun row => row.cols.parentId

/-- Every project reaches a root, and none is above itself. -/
structure ProjectForest (db : Database V1) : Prop where
  rooted : ∀ row ∈ db.rows .project, Rooted (parentOf db) row.id
  acyclic : ∀ row ∈ db.rows .project, ¬ Ancestor (parentOf db) row.id row.id

/-- The calls of `ProjectService` that write, each with its reading of the clock. -/
inductive ProjectCall where
  | createProject (now : Int) (project : Dto.Project)
  | updateProject (now : Int) (project : Dto.Project)
  | archiveProject (now id : Int)
  | restoreProject (now id : Int)

/-- The connection after a call. -/
def ProjectCall.exec (env : Environment) (c : Connection) : ProjectCall → Connection
  | createProject now project => (ProjectService.createProject env now project).after c
  | updateProject now project => (ProjectService.updateProject env now project).after c
  | archiveProject now id => (ProjectService.archiveProject now id).after c
  | restoreProject now id => (ProjectService.restoreProject now id).after c

/-- A new project does not name the id it is about to get, and no project is moved below itself. -/
def ParentNotBelow (c : Connection) : ProjectCall → Prop
  | .createProject _ project => project.caption.getD [] ≠ [] →
      project.parentId ≠ some (c.db.nextId .project)
  | .updateProject _ project => ∀ row ∈ c.db.rows .project, project.id = some row.id → 0 < row.id →
      ∀ p, project.parentId = some p → ¬ Reaches (parentOf c.db) p row.id
  | .archiveProject _ _ => True
  | .restoreProject _ _ => True

/-! ## Parents of rows -/

section
variable {db db' : Database V1}

theorem parentOf_of_mem {row : Row .project} (h : row ∈ db.rows .project) :
    parentOf db row.id = row.cols.parentId := by
  unfold parentOf
  rw [Database.find_eq_some.mpr ⟨h, rfl⟩, Option.bind_some]

theorem exists_of_parentOf {id p : Int} (h : parentOf db id = some p) :
    ∃ row ∈ db.rows .project, row.id = id ∧ row.cols.parentId = some p := by
  obtain ⟨row, hfind, hp⟩ := Option.bind_eq_some_iff.mp h
  obtain ⟨hrow, hid⟩ := Database.find_eq_some.mp hfind
  exact ⟨row, hrow, hid, hp⟩

/-- A parent is a project. -/
theorem exists_parent {id p : Int} (h : parentOf db id = some p) :
    ∃ row ∈ db.rows .project, row.id = p := by
  obtain ⟨row, hrow, -, hp⟩ := exists_of_parentOf h
  exact project_parent db hrow hp

/-- What is reached from another project, or has been reached, is a project. -/
theorem exists_of_reaches {p u : Int} (h : Reaches (parentOf db) p u) :
    p = u ∨ ∃ row ∈ db.rows .project, row.id = u := by
  rcases Relation.ReflTransGen.cases_tail h with rfl | ⟨x, -, hx⟩
  · exact .inl rfl
  · exact .inr (exists_parent hx)

/-- Ids that no project has count as roots. -/
theorem projectForest_iff : ProjectForest db ↔ ∀ id, Rooted (parentOf db) id := by
  constructor
  · intro h id
    cases hid : parentOf db id with
    | none => exact .root hid
    | some p =>
      obtain ⟨row, hrow, rfl, -⟩ := exists_of_parentOf hid
      exact h.rooted row hrow
  · intro h
    exact ⟨fun row _ => h row.id, fun row _ => (h row.id).not_ancestor⟩

theorem parentOf_insert {v : ProjectRow} {rowid : Int}
    (hi : db.insert .project v = some (rowid, db')) :
    parentOf db' = Function.update (parentOf db) rowid v.parentId := by
  funext id
  unfold parentOf
  by_cases hid : id = rowid
  · subst hid
    rw [Database.find_insert_self hi, Function.update_self]
    rfl
  · rw [Database.find_insert_of_ne hi hid, Function.update_of_ne hid]

theorem parentOf_update {row : Row .project} (hrow : row ∈ db.rows .project) {affected : Int}
    {f : ProjectRow → ProjectRow} (hupd : db.updateById .project row.id f = some (affected, db')) :
    parentOf db' = Function.update (parentOf db) row.id (f row.cols).parentId := by
  funext id
  by_cases hid : id = row.id
  · subst hid
    rw [Function.update_self]
    unfold parentOf
    rw [Database.find_updateById hupd, Database.find_eq_some.mpr ⟨hrow, rfl⟩]
    simp [Database.updateRow]
  · rw [Function.update_of_ne hid]
    unfold parentOf
    rw [Database.find_updateById hupd]
    cases hfind : db.find .project id with
    | none => rfl
    | some found =>
      have hne : found.id ≠ row.id := by
        rw [(Database.find_eq_some.mp hfind).2]
        exact hid
      simp [Database.updateRow, hne]

/-- **A new project** breaks the forest only by naming itself: nothing is above it yet. -/
theorem projectForest_insert_iff (h : ProjectForest db) {v : ProjectRow} {rowid : Int}
    (hi : db.insert .project v = some (rowid, db')) :
    ProjectForest db' ↔ v.parentId ≠ some rowid := by
  rw [projectForest_iff, parentOf_insert hi, rooted_update_iff (projectForest_iff.mp h)]
  constructor
  · intro hnot hself
    exact hnot rowid hself .refl
  · rintro hself p hp hreaches
    rcases exists_of_reaches hreaches with rfl | ⟨row, hrow, hid⟩
    · exact hself hp
    · have hlt := Database.id_lt_nextId hrow
      rw [hid, (Database.insert_eq_some hi).1] at hlt
      omega

/-- **A change of a project** breaks the forest exactly when the new parent is the project or below
it. -/
theorem projectForest_update_iff (h : ProjectForest db) {row : Row .project}
    (hrow : row ∈ db.rows .project) {affected : Int} {f : ProjectRow → ProjectRow}
    (hupd : db.updateById .project row.id f = some (affected, db')) :
    ProjectForest db' ↔
      ∀ p, (f row.cols).parentId = some p → ¬ Reaches (parentOf db) p row.id := by
  rw [projectForest_iff, parentOf_update hrow hupd, rooted_update_iff (projectForest_iff.mp h)]

/-- The schema asks nothing else of a new project than that its parent is there. -/
theorem admits_project {v : ProjectRow}
    (hp : ∀ p, v.parentId = some p → p = db.nextId .project ∨ p ∈ db.ids .project) :
    db.admits .project v = true := by
  have hrefs : refsResolve (db.insertRows .project v) .project v = true := by
    rw [refsResolve_iff]
    intro fk hfk p hcol
    obtain rfl := List.mem_singleton.mp hfk
    rcases hp p hcol with rfl | hmem
    · -- the new row itself
      refine ⟨⟨db.nextId .project, v⟩, ?_, rfl⟩
      show _ ∈ Database.insertRows db .project v .project
      rw [Database.insertRows, Function.update_self]
      exact List.mem_append_right _ (List.mem_singleton.mpr rfl)
    · obtain ⟨row, hrow, hid⟩ := Database.mem_ids.mp hmem
      exact ⟨row, Database.mem_insertRows_of_mem hrow, hid⟩
  have hunique : (db.rows .project).all (fun r => !conflict .project v r.cols) = true := by
    simp [conflict]
  unfold Database.admits
  rw [hrefs, hunique]
  rfl

theorem admitsUpdate_project {id : Int} {f : ProjectRow → ProjectRow}
    (hp : ∀ row ∈ db.rows .project, row.id = id → ∀ p, (f row.cols).parentId = some p →
      p ∈ db.ids .project) : db.admitsUpdate .project id f = true := by
  rw [Database.admitsUpdate_iff]
  intro row hrow hid
  refine ⟨rfl, fun _ _ _ => rfl, ?_⟩
  rw [refsResolve_iff]
  intro fk hfk p hcol
  obtain rfl := List.mem_singleton.mp hfk
  have hmem : p ∈ (db.updateRows .project id f .project).map (·.id) := by
    rw [Database.updateRows_ids]
    exact hp row hrow hid p hcol
  exact List.mem_map.mp hmem

end

/-! ## The calls -/

section
variable {env : Environment} {c : Connection}

theorem readOnly_findProject (id : Int) : Prog.ReadOnly (SqliteProjectRepository.findById id) :=
  readOnly_findByIdIn _ _ id

/-- What an update makes of the parent. -/
theorem applyAll_project_parentId (now : Int) (project : Dto.Project) (row : ProjectRow) :
    (applyAll (SqliteProjectRepository.setClauses env now project) row).parentId =
      project.parentId.or row.parentId := by
  unfold SqliteProjectRepository.setClauses setIfPresent applyAll
  cases project.parentId <;> cases project.caption <;> cases project.description <;>
    cases project.isArchive <;> rfl

theorem values_project_parentId {now : Int} {project : Dto.Project} {v : ProjectRow}
    (h : SqliteProjectRepository.values env now project = some v) :
    v.parentId = project.parentId := by
  unfold SqliteProjectRepository.values at h
  simp only [Option.bind_eq_bind, Option.bind_eq_some_iff] at h
  obtain ⟨_, -, _, -, h⟩ := h
  cases h
  rfl

/-- An UPDATE of a project that is there, by whatever call. -/
theorem projectForest_updateById_iff (h : ProjectForest c.db) {row : Row .project}
    (hrow : row ∈ c.db.rows .project) {f : ProjectRow → ProjectRow} {parent : Option Int}
    (hf : (f row.cols).parentId = parent.or row.cols.parentId) :
    ProjectForest ((c.db.updateById .project row.id f).elim c fun x => { c with db := x.2 }).db ↔
      ∀ p, parent = some p → ¬ Reaches (parentOf c.db) p row.id := by
  cases hupd : c.db.updateById .project row.id f with
  | some x =>
    rw [Option.elim_some, projectForest_update_iff h hrow hupd, hf]
    cases parent with
    | some p => simp
    | none =>
      rw [Option.none_or]
      constructor
      · rintro - p ⟨⟩
      · -- the old parent is not below the project
        intro _ p hp hreaches
        refine h.acyclic row hrow (Relation.TransGen.head' ?_ hreaches)
        rw [ChildOf, parentOf_of_mem hrow, hp]
  | none =>
    -- only a parent that does not exist is refused, and no way up leads from there
    refine ⟨fun _ => ?_, fun _ => h⟩
    rintro p rfl hreaches
    have hp : p ∈ c.db.ids .project := by
      rcases Relation.ReflTransGen.cases_head hreaches with rfl | ⟨x, hx, -⟩
      · exact Database.mem_ids.mpr ⟨row, hrow, rfl⟩
      · obtain ⟨q, hq, hqid, -⟩ := exists_of_parentOf hx
        exact Database.mem_ids.mpr ⟨q, hq, hqid⟩
    have hadmits : c.db.admitsUpdate .project row.id f = true := by
      refine admitsUpdate_project fun row' hrow' hid p' hp' => ?_
      rw [c.db.integral.eq_of_id hrow' hrow hid, hf, Option.some_or] at hp'
      exact Option.some.inj hp' ▸ hp
    unfold Database.updateById at hupd
    rw [dif_pos hadmits] at hupd
    cases hupd

/-- A service call that looks whether the project is there, and then goes on. -/
theorem after_ifExists {α : Type} (id : Int) (p q : Db α) (hq : q.after c = c) :
    (do if !(← SqliteProjectRepository.exists id) then q else p : Db α).after c =
      if 0 < id ∧ id ∈ c.db.ids .project then p.after c else c := by
  unfold Prog.after at hq ⊢
  unfold SqliteProjectRepository.exists
  rw [Prog.run_bind_of_readOnly (readOnly_existsIn .project id), result_existsIn]
  by_cases hid : 0 < id ∧ id ∈ c.db.ids .project
  · simp [hid]
  · simp [hid, hq]

theorem createProject_iff (h : ProjectForest c.db) (now : Int) (project : Dto.Project) :
    ProjectForest (ProjectCall.exec env c (.createProject now project)).db ↔
      ParentNotBelow c (.createProject now project) := by
  show ProjectForest ((ProjectService.createProject env now project).after c).db ↔
    (project.caption.getD [] ≠ [] → project.parentId ≠ some (c.db.nextId .project))
  unfold ProjectService.createProject
  by_cases hcaption : project.caption.getD [] = []
  · rw [if_pos (by simp [hcaption])]
    exact ⟨fun _ hne => absurd hcaption hne, fun _ => h⟩
  · rw [if_neg (by simpa using hcaption)]
    obtain ⟨v, hv⟩ : ∃ v, SqliteProjectRepository.values env now project = some v := by
      cases hc : project.caption with
      | none => simp [hc] at hcaption
      | some caption =>
        have hne : caption ≠ [] := by simpa [hc] using hcaption
        simp [SqliteProjectRepository.values, hc, hne]
    unfold SqliteProjectRepository.create
    rw [hv, after_createAndFind readOnly_findProject, ← values_project_parentId hv]
    cases hi : c.db.insert .project v with
    | some x =>
      rw [Option.elim_some, projectForest_insert_iff h hi, (Database.insert_eq_some hi).1]
      exact ⟨fun hne _ => hne, fun hne => hne hcaption⟩
    | none =>
      refine ⟨fun _ _ hself => ?_, fun _ => h⟩
      have hadmits : c.db.admits .project v = true := by
        refine admits_project fun p hp => .inl ?_
        exact Option.some.inj (hp.symm.trans hself)
      unfold Database.insert at hi
      rw [dif_pos hadmits] at hi
      cases hi

theorem updateProject_iff (h : ProjectForest c.db) (now : Int) (project : Dto.Project) :
    ProjectForest (ProjectCall.exec env c (.updateProject now project)).db ↔
      ParentNotBelow c (.updateProject now project) := by
  show ProjectForest ((ProjectService.updateProject env now project).after c).db ↔
    ∀ row ∈ c.db.rows .project, project.id = some row.id → 0 < row.id →
      ∀ p, project.parentId = some p → ¬ Reaches (parentOf c.db) p row.id
  unfold ProjectService.updateProject
  cases hpid : project.id with
  | none => exact ⟨fun _ _ _ hid => absurd hid (by simp), fun _ => h⟩
  | some id =>
    dsimp only
    rw [after_ifExists id _ _ rfl]
    by_cases hid : 0 < id ∧ id ∈ c.db.ids .project
    · obtain ⟨hpos, hmem⟩ := hid
      obtain ⟨row, hrow, rfl⟩ := Database.mem_ids.mp hmem
      rw [if_pos ⟨hpos, hmem⟩]
      unfold SqliteProjectRepository.update
      rw [hpid, after_updateAndFind (readOnly_findProject _)
          (by simp [SqliteProjectRepository.setClauses]),
        projectForest_updateById_iff h hrow (applyAll_project_parentId now project row.cols)]
      constructor
      · intro hnot row' hrow' hid' _
        rwa [c.db.integral.eq_of_id hrow' hrow (Option.some.inj hid').symm]
      · intro hnot
        exact hnot row hrow rfl hpos
    · rw [if_neg hid]
      refine ⟨fun _ row hrow hrid hpos => ?_, fun _ => h⟩
      obtain rfl := Option.some.inj hrid
      exact absurd ⟨hpos, Database.mem_ids.mpr ⟨row, hrow, rfl⟩⟩ hid

/-- Archiving and restoring leave the parents alone. -/
theorem projectForest_setArchive (h : ProjectForest c.db) (now id isArchive : Int) :
    ProjectForest
      ((do
        if !(← SqliteProjectRepository.exists id) then pure false
        else SqliteProjectRepository.setArchive now id isArchive : Db Bool).after c).db := by
  rw [after_ifExists id _ _ rfl]
  split
  case isFalse => exact h
  next hid =>
  obtain ⟨hpos, hmem⟩ := hid
  obtain ⟨row, hrow, rfl⟩ := Database.mem_ids.mp hmem
  have hparent : (applyAll [fun c : ProjectRow =>
      { c with isArchive, updatedAt := Dto.timePointToSeconds now }] row.cols).parentId =
        none.or row.cols.parentId := rfl
  unfold SqliteProjectRepository.setArchive
  rw [if_neg (by omega), after_updateIn (by simp)]
  exact (projectForest_updateById_iff h hrow hparent).mpr (by simp)

/-- **One call**, from a forest. -/
theorem projectForest_exec_iff (h : ProjectForest c.db) (call : ProjectCall) :
    ProjectForest (call.exec env c).db ↔ ParentNotBelow c call := by
  cases call with
  | createProject now project => exact createProject_iff h now project
  | updateProject now project => exact updateProject_iff h now project
  | archiveProject now id => exact iff_of_true (projectForest_setArchive h now id 1) trivial
  | restoreProject now id => exact iff_of_true (projectForest_setArchive h now id 0) trivial

end

/-- **Projects stay a forest** throughout a run exactly when none of its calls gives a project
itself or a project below it as its parent. -/
theorem projects_forest_iff (env : Environment) (c : Connection) (hc : ProjectForest c.db)
    (calls : List ProjectCall) :
    (∀ n, ProjectForest ((calls.take n).foldl (ProjectCall.exec env) c).db) ↔
      Along (ProjectCall.exec env) ParentNotBelow c calls :=
  (along_iff_take (I := fun c : Connection => ProjectForest c.db)
    (fun _ call h => projectForest_exec_iff h call) hc).symm

/-- Two projects, and the second moved below the first. -/
def twoProjects : List ProjectCall :=
  [.createProject 0 { caption := some (bytes "Server") },
    .createProject 0 { caption := some (bytes "Client") },
    .updateProject 0 { id := some 2, parentId := some 1 }]

theorem projectForest_fresh : ProjectForest Connection.fresh.db := by
  constructor <;> simp [Connection.fresh, Database.empty]

theorem projects_forest_twoProjects :
    ProjectForest (twoProjects.foldl (ProjectCall.exec .reference) .fresh).db := by
  refine (projects_forest_iff .reference .fresh projectForest_fresh twoProjects).mpr
    ⟨fun _ => by simp, fun _ => by simp, ?_, trivial⟩ 3
  intro row _ hid _ p hp hreaches
  obtain rfl : 1 = p := Option.some.inj hp
  have hroot : parentOf ((twoProjects.take 2).foldl (ProjectCall.exec .reference) .fresh).db 1 =
      none := by
    decide +kernel
  rcases Relation.ReflTransGen.cases_head hreaches with heq | ⟨x, hx, -⟩
  · rw [← heq] at hid
    exact absurd hid (by decide)
  · exact absurd (hroot.symm.trans hx) (by simp)

/-- The first is then moved below the second. -/
def movedInCircle : List ProjectCall :=
  twoProjects ++ [.updateProject 0 { id := some 1, parentId := some 2 }]

theorem projects_not_forest : ¬ ∀ calls : List ProjectCall,
    ProjectForest (calls.foldl (ProjectCall.exec .reference) .fresh).db := by
  intro h
  have hrun := h movedInCircle
  revert hrun
  generalize hdb : (movedInCircle.foldl (ProjectCall.exec .reference) .fresh).db = db
  intro hrun
  have hfirst : parentOf db 1 = some 2 := by
    rw [← hdb]
    decide +kernel
  have hsecond : parentOf db 2 = some 1 := by
    rw [← hdb]
    decide +kernel
  obtain ⟨row, hrow, hid, -⟩ := exists_of_parentOf hfirst
  apply hrun.acyclic row hrow
  rw [hid]
  exact .head hfirst (.single hsecond)

end Farado
