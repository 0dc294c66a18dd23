import Farado.Lib.Relational.Change
import Farado.Repositories.Removal
import Farado.Repositories.Updates
import Farado.Services.Auth
import Farado.Services.ConcurrentCreates

/-!
# What a service says and what it did

A service that creates or updates a row writes first and then reads the row back, so it can fail with
the row written. Everywhere else, a service that does not report success has not written anything.
-/

namespace Farado

open Relational Steps

variable {Dto : Type} {t : Table} {mapRow : Row t → Except Error Dto}

/-- Either nothing is written and nothing is returned, or the row of the id has been written, and what
is returned is what `findById` makes of it. -/
def Reports (t : Table) (i : Database V1 → Int) (mapRow : Row t → Except Error Dto)
    (p : Db (Option Dto)) : Prop :=
  ∀ c, ((p.after c).db = c.db ∧ ∀ x, p.result c ≠ .ok (some x)) ∨
    i c.db ∈ (p.after c).db.ids t ∧
      p.result c = (findByIdIn t mapRow (i c.db)).result (p.after c)

theorem none_ne_some (x : Dto) : (.ok none : Except Error (Option Dto)) ≠ .ok (some x) := by
  intro h
  cases h

theorem error_ne_some (e : Error) (x : Dto) :
    (.error e : Except Error (Option Dto)) ≠ .ok (some x) := by
  intro h
  cases h

/-- What is returned is the row, and its id is positive. -/
theorem Reports.row {i : Database V1 → Int} {p : Db (Option Dto)} (h : Reports t i mapRow p)
    {c : Connection} {x : Dto} (hx : p.result c = .ok (some x)) :
    0 < i c.db ∧ ∃ row ∈ (p.after c).db.rows t, row.id = i c.db ∧ mapRow row = .ok x := by
  rcases h c with ⟨-, hnone⟩ | ⟨-, hresult⟩
  · exact absurd hx (hnone x)
  · rw [hresult] at hx
    exact result_findByIdIn_some.mp hx

/-- Looking for a row that is there is reading it. -/
theorem result_findByIdIn_of_mem {row : Row t} {c : Connection} (hrow : row ∈ c.db.rows t)
    (hid : 0 < row.id) : (findByIdIn t mapRow row.id).result c = some <$> mapRow row := by
  unfold findByIdIn
  rw [if_neg (by omega), result_select, Database.find_eq_some.mpr ⟨hrow, rfl⟩]

/-- Where nothing is written, or the row that is written is the result. -/
theorem Reports.cases {i : Database V1 → Int} {p : Db (Option Dto)} (h : Reports t i mapRow p)
    (c : Connection) (hpos : ∀ j ∈ (p.after c).db.ids t, 0 < j) :
    ((p.after c).db = c.db ∧ ∀ x, p.result c ≠ .ok (some x)) ∨
      ∃ row ∈ (p.after c).db.rows t, row.id = i c.db ∧ p.result c = some <$> mapRow row := by
  refine (h c).imp_right fun ⟨hmem, hresult⟩ => ?_
  obtain ⟨row, hrow, hid⟩ := Database.mem_ids.mp hmem
  refine ⟨row, hrow, hid, ?_⟩
  rw [hresult, ← hid]
  exact result_findByIdIn_of_mem hrow (hpos row.id (hid ▸ hmem))

theorem Reports.readsThen {i : Database V1 → Int} {p q : Db (Option Dto)}
    (hq : Reports t i mapRow q) (hp : Prog.ReadsThen q p) : Reports t i mapRow p := by
  intro c
  rcases hp.run_cases c with ⟨hafter, hnone⟩ | hrun
  · exact .inl ⟨congrArg Connection.db hafter, hnone⟩
  · have hsame := hq c
    unfold Prog.after Prog.result at hsame ⊢
    rw [hrun]
    exact hsame

theorem reports_createAndFind (values : Option (Columns t)) :
    Reports t (·.nextId t) mapRow (createAndFind (createIn t values) (findByIdIn t mapRow)) := by
  intro c
  unfold Prog.after Prog.result createAndFind
  rcases run_createIn (Prog.run_eq (createIn t values) c) with
    ⟨-, hresult, hafter⟩ | ⟨v, -, ⟨rowid, db, hi, hresult, hafter⟩ | ⟨-, hresult, hafter⟩⟩
  · rw [Prog.run_bind_ok (Prod.ext hresult hafter)]
    exact .inl ⟨rfl, none_ne_some⟩
  · obtain ⟨hrowid, -⟩ := Database.insert_eq_some hi
    have hpos : 0 < rowid := hrowid ▸ Database.nextId_pos _ _
    rw [Prog.run_bind_ok (Prod.ext hresult hafter), if_neg (by omega),
      (readOnly_findByIdIn t mapRow rowid).run_eq]
    subst hrowid
    refine .inr ⟨?_, rfl⟩
    rw [Database.ids, Database.insert_rows_self hi]
    simp
  · rw [Prog.run_bind_error (Prod.ext hresult hafter)]
    exact .inl ⟨rfl, error_ne_some _⟩

theorem reports_updateAndFind (id : Option Int) {update : Db Bool}
    {setClauses : List (Columns t → Columns t)}
    (hupdate : update = pure false ∨ update = updateIn t id setClauses) :
    Reports t (fun _ => id.getD 0) mapRow
      (updateAndFind update (findByIdIn t mapRow (id.getD 0))) := by
  intro c
  unfold Prog.after Prog.result updateAndFind
  rcases hupdate with rfl | rfl
  · exact .inl ⟨rfl, none_ne_some⟩
  rcases run_updateIn (Prog.run_eq (updateIn t id setClauses) c) with
    ⟨hresult, hafter⟩ | ⟨i, affected, db, rfl, -, hupd, hresult, hafter⟩
  · rw [Prog.run_bind_ok (Prod.ext hresult hafter)]
    exact .inl ⟨rfl, none_ne_some⟩
  · rw [Prog.run_bind_ok (Prod.ext hresult hafter)]
    obtain ⟨-, hrows, -, haffected⟩ := Database.updateById_eq_some hupd
    by_cases hi : i ∈ c.db.ids t
    · rw [decide_eq_true (haffected.mpr hi), if_neg (by simp),
        (readOnly_findByIdIn t mapRow _).run_eq]
      refine .inr ⟨?_, rfl⟩
      rwa [Database.ids, hrows, Database.updateRows_ids]
    · rw [decide_eq_false fun h => hi (haffected.mp h)]
      exact .inl ⟨Database.updateById_of_not_mem hupd hi, none_ne_some⟩

/-! ## Creations and updates -/

theorem CreateRequest.reports_serve (r : CreateRequest) (env : Environment)
    (sha256 : Bytes → Bytes) : Reports r.table (·.nextId r.table) r.mapRow (r.serve env sha256) :=
  (reports_createAndFind _).readsThen (r.serve_readsThen env sha256)

/-- A creation that returns an object has inserted its values. -/
theorem CreateRequest.inserted {r : CreateRequest} {env : Environment} {sha256 : Bytes → Bytes}
    {c : Connection} {d : r.Dto} (h : (r.serve env sha256).result c = .ok (some d)) :
    ∃ v row, r.values env sha256 = some v ∧ row ∈ ((r.serve env sha256).after c).db.rows r.table ∧
      row.id = c.db.nextId r.table ∧ row.cols = v ∧ r.mapRow row = .ok d := by
  rcases (r.serve_readsThen env sha256).run_cases c with ⟨-, hnone⟩ | hrun
  · exact absurd h (hnone d)
  unfold Prog.result at h
  unfold Prog.after
  rw [hrun] at h ⊢
  unfold insertAndFind createAndFind at h ⊢
  rcases run_createIn (Prog.run_eq (createIn r.table (r.values env sha256)) c) with
    ⟨-, hresult, hafter⟩ | ⟨v, hv, ⟨rowid, db, hi, hresult, hafter⟩ | ⟨-, hresult, hafter⟩⟩
  · rw [Prog.run_bind_ok (Prod.ext hresult hafter)] at h
    cases h
  · obtain ⟨hrowid, -⟩ := Database.insert_eq_some hi
    have hpos : 0 < rowid := hrowid ▸ Database.nextId_pos _ _
    have hrow : (⟨rowid, v⟩ : Row r.table) ∈ db.rows r.table := by
      rw [Database.insert_rows_self hi]
      simp
    rw [Prog.run_bind_ok (Prod.ext hresult hafter), if_neg (by omega),
      (readOnly_findByIdIn r.table r.mapRow rowid).run_eq] at h ⊢
    obtain ⟨-, row, hfound, hid, hmap⟩ := result_findByIdIn_some.mp h
    obtain rfl : row = ⟨rowid, v⟩ := db.integral.eq_of_id hfound hrow hid
    exact ⟨v, _, hv, hrow, hrowid, rfl, hmap⟩
  · rw [Prog.run_bind_error (Prod.ext hresult hafter)] at h
    cases h

namespace Stored

/-- The service call that updates. -/
def serveUpdate (env : Environment) (now : Int) : (s : Stored) → s.Dto → Db (Option s.Dto)
  | workflow, d => WorkflowService.updateWorkflow d
  | state, d => StateService.updateState d
  | project, d => ProjectService.updateProject env now d
  | phase, d => PhaseService.updatePhase env d
  | itemType, d => ItemTypeService.updateItemType d
  | fieldType, d => FieldTypeService.updateFieldType d
  | user, d => UserService.updateUser d

theorem readsThen_existsIn {i : Int} {q : Db (Option Dto)} :
    Prog.ReadsThen q (do if !(← existsIn t i) then pure none else q) := by
  refine (readOnly_existsIn t i).readsThen fun found => ?_
  split
  · exact .giveUp
  · exact .goOn

/-- Before it writes, an update only checks. -/
theorem serveUpdate_readsThen (env : Environment) (now : Int) (s : Stored) (d : s.Dto) :
    Prog.ReadsThen (updateAndFind (s.update env now d) (s.findById ((s.id d).getD 0)))
      (s.serveUpdate env now d) := by
  cases s with
  | workflow =>
    show Prog.ReadsThen (updateAndFind (SqliteWorkflowRepository.update d)
      (SqliteWorkflowRepository.findById ((Dto.Workflow.id d).getD 0)))
        (WorkflowService.updateWorkflow d)
    unfold WorkflowService.updateWorkflow
    cases Dto.Workflow.id d with
    | none => exact .giveUp
    | some i =>
      refine (readOnly_findWorkflow i).readsThen fun found => ?_
      cases found with
      | none => exact .giveUp
      | some existing =>
        refine (readOnly_captionTaken d existing).readsThen fun taken => ?_
        split
        · exact .giveUp
        · exact .goOn
  | state =>
    show Prog.ReadsThen (updateAndFind (SqliteStateRepository.update d)
      (SqliteStateRepository.findById ((Dto.State.id d).getD 0))) (StateService.updateState d)
    unfold StateService.updateState
    cases Dto.State.id d with
    | none => exact .giveUp
    | some i =>
      refine (readOnly_findState i).readsThen fun found => ?_
      cases found with
      | none => exact .giveUp
      | some existing =>
        refine (readOnly_archivesUsedState d i).readsThen fun archives => ?_
        split
        · exact .giveUp
        · exact .goOn
  | project =>
    show Prog.ReadsThen (updateAndFind (SqliteProjectRepository.update env now d)
      (SqliteProjectRepository.findById ((Dto.Project.id d).getD 0)))
        (ProjectService.updateProject env now d)
    unfold ProjectService.updateProject
    cases Dto.Project.id d with
    | none => exact .giveUp
    | some i => exact readsThen_existsIn
  | phase =>
    show Prog.ReadsThen (updateAndFind (SqlitePhaseRepository.update env d)
      (SqlitePhaseRepository.findById ((Dto.Phase.id d).getD 0)))
        (PhaseService.updatePhase env d)
    unfold PhaseService.updatePhase
    cases Dto.Phase.id d with
    | none => exact .giveUp
    | some i => exact readsThen_existsIn
  | itemType =>
    show Prog.ReadsThen (updateAndFind (SqliteItemTypeRepository.update d)
      (SqliteItemTypeRepository.findById ((Dto.ItemType.id d).getD 0)))
        (ItemTypeService.updateItemType d)
    unfold ItemTypeService.updateItemType
    cases Dto.ItemType.id d with
    | none => exact .giveUp
    | some i => exact readsThen_existsIn
  | fieldType =>
    show Prog.ReadsThen (updateAndFind (SqliteFieldTypeRepository.update d)
      (SqliteFieldTypeRepository.findById ((Dto.FieldType.id d).getD 0)))
        (FieldTypeService.updateFieldType d)
    unfold FieldTypeService.updateFieldType
    cases Dto.FieldType.id d with
    | none => exact .giveUp
    | some i => exact readsThen_existsIn
  | user =>
    show Prog.ReadsThen (updateAndFind (SqliteUserRepository.update d)
      (SqliteUserRepository.findById ((Dto.User.id d).getD 0))) (UserService.updateUser d)
    unfold UserService.updateUser
    cases Dto.User.id d with
    | none => exact .giveUp
    | some i => exact .goOn

theorem findById_eq (s : Stored) : s.findById = findByIdIn s.table s.reader.mapRow := by
  cases s <;> rfl

theorem reports_serveUpdate (env : Environment) (now : Int) (s : Stored) (d : s.Dto) :
    Reports s.table (fun _ => (s.id d).getD 0) s.reader.mapRow (s.serveUpdate env now d) := by
  refine Reports.readsThen ?_ (serveUpdate_readsThen env now s d)
  rw [findById_eq]
  exact reports_updateAndFind (s.id d) (s.update_cases env now d)

end Stored

/-! ## What succeeds or does nothing -/

/-- Where the program does not end with what counts as done, the database is what it was. -/
def AllOrNothing {α : Type} (done : α → Prop) (p : Db α) : Prop :=
  ∀ c, (∀ x, p.result c = .ok x → ¬ done x) → (p.after c).db = c.db

section
variable {α β : Type} {done : α → Prop}

theorem allOrNothing_of_readOnly {p : Db α} (hp : Prog.ReadOnly p) : AllOrNothing done p := by
  intro c _
  unfold Prog.after
  rw [hp.run_eq]

theorem AllOrNothing.read {p : Db β} {k : β → Db α} (hp : Prog.ReadOnly p)
    (hk : ∀ x, AllOrNothing done (k x)) : AllOrNothing done (p >>= k) := by
  intro c hdone
  unfold Prog.result at hdone
  unfold Prog.after
  rw [Prog.run_bind_of_readOnly hp] at hdone ⊢
  cases hresult : p.result c with
  | error e => rfl
  | ok x =>
    rw [hresult] at hdone
    exact hk x c hdone

theorem AllOrNothing.ite {b : Prop} [Decidable b] {p q : Db α} (hp : AllOrNothing done p)
    (hq : AllOrNothing done q) : AllOrNothing done (if b then p else q) := by
  split
  · exact hp
  · exact hq

/-- Where the first part has done something, the rest says so. -/
theorem AllOrNothing.bind {done' : β → Prop} {p : Db β} {k : β → Db α} (hp : AllOrNothing done' p)
    (hk : ∀ x, ¬ done' x → Prog.ReadOnly (k x))
    (hdone : ∀ x c, done' x → ∃ y, (k x).result c = .ok y ∧ done y) :
    AllOrNothing done (p >>= k) := by
  intro c hnot
  unfold Prog.result at hnot
  unfold Prog.after
  cases hresult : p.result c with
  | error e =>
    have hrun : p.run c = (.error e, p.after c) := Prod.ext hresult rfl
    rw [Prog.run_bind_error hrun]
    refine hp c fun x hx => ?_
    rw [hresult] at hx
    cases hx
  | ok x =>
    have hrun : p.run c = (.ok x, p.after c) := Prod.ext hresult rfl
    rw [Prog.run_bind_ok hrun] at hnot ⊢
    have hx : ¬ done' x := by
      intro hx
      obtain ⟨y, hy, hdone⟩ := hdone x (p.after c) hx
      exact hnot y hy hdone
    rw [(hk x hx).run_eq]
    refine hp c fun x' hx' => ?_
    rw [hresult] at hx'
    cases hx'
    exact hx

end

theorem allOrNothing_updateIn {i : Option Int} {setClauses : List (Columns t → Columns t)} :
    AllOrNothing (· = true) (updateIn t i setClauses) := by
  intro c hnot
  rcases run_updateIn (Prog.run_eq (updateIn t i setClauses) c) with
    ⟨-, hafter⟩ | ⟨j, affected, db, -, -, hupd, hresult, hafter⟩
  · rw [hafter]
  · have hj : j ∉ c.db.ids t := by
      intro hj
      refine hnot _ hresult ?_
      rw [decide_eq_true ((Database.updateById_eq_some hupd).2.2.2.mpr hj)]
    rw [hafter]
    exact Database.updateById_of_not_mem hupd hj

theorem allOrNothing_removeIn (t : Table) (i : Int) : AllOrNothing (· = true) (removeIn t i) := by
  intro c hnot
  rcases run_removeIn_cases (Prog.run_eq (removeIn t i) c) with ⟨-, hafter⟩ | ⟨-, hresult, hafter⟩
  · rw [hafter]
  · rw [hafter]
    exact Database.deleteById_of_not_mem fun hi => hnot _ hresult (decide_eq_true hi)

theorem allOrNothing_removeUnusedIn (t : Table) (usages : Database V1 → Int → Nat) (i : Int) :
    AllOrNothing (· = true) (removeUnusedIn t usages i) := by
  intro c hnot
  unfold Prog.result at hnot
  unfold Prog.after
  by_cases hunused : 0 < i ∧ usages c.db i = 0
  · rw [run_removeUnusedIn_unused hunused.1 hunused.2] at hnot ⊢
    exact Database.deleteById_of_not_mem fun hi => hnot _ rfl (decide_eq_true hi)
  · rw [run_removeUnusedIn_used hunused]

/-- The end of a deletion that says why not. -/
theorem AllOrNothing.reported {p : Db Bool} {failed : ServiceResult}
    (hp : AllOrNothing (· = true) p) :
    AllOrNothing (fun result : ServiceResult => result.success = true)
      (do if !(← p) then pure failed else pure { success := true }) := by
  refine hp.bind (fun removed hremoved => ?_) fun removed c hremoved => ?_
  · exact .ite (Prog.readOnly_pure _) (Prog.readOnly_pure _)
  · subst hremoved
    exact ⟨_, rfl, rfl⟩

theorem answers_updateNeedChangePassword (userId : Int) (needChange : Bool) (c : Connection) :
    ∃ updated,
      (SqliteUserRepository.updateNeedChangePassword userId needChange).result c = .ok updated := by
  unfold SqliteUserRepository.updateNeedChangePassword
  split
  · exact ⟨false, rfl⟩
  · rcases run_updateIn (Prog.run_eq (updateIn .user (some userId)
        [fun cols : UserRow => { cols with needChangePassword := bindBool needChange }]) c) with
      ⟨hresult, -⟩ | ⟨_, _, _, -, -, -, hresult, -⟩
    · exact ⟨_, hresult⟩
    · exact ⟨_, hresult⟩

/-- A new password that is not reported is not written. -/
theorem allOrNothing_changePassword (sha256 : Bytes → Bytes) (userId : Int)
    (oldPassword newPassword : Bytes) :
    AllOrNothing (fun result : ChangePasswordResult => result.success = true)
      (AuthService.changePassword sha256 userId oldPassword newPassword) := by
  have hgiveUp : ∀ result, AllOrNothing (fun result : ChangePasswordResult => result.success = true)
      (pure result) := fun result => allOrNothing_of_readOnly (Prog.readOnly_pure result)
  unfold AuthService.changePassword
  refine .ite (hgiveUp _) (.read (readOnly_findByIdIn _ _ userId) fun found => ?_)
  cases found with
  | none => exact hgiveUp _
  | some user =>
    refine .read (AuthService.readOnly_verifyPassword userId oldPassword) fun matched => ?_
    refine .ite (hgiveUp _) (.ite (hgiveUp _) (.ite (hgiveUp _) ?_))
    have hupdate : AllOrNothing (· = true)
        (SqliteUserRepository.updatePassword userId (sha256 newPassword)) :=
      .ite (allOrNothing_of_readOnly (Prog.readOnly_pure _)) allOrNothing_updateIn
    refine hupdate.bind (fun updated hupdated => ?_) fun updated c hupdated => ?_
    · rw [if_pos (by simpa using hupdated)]
      exact Prog.readOnly_pure _
    · rw [if_neg (by simpa using hupdated)]
      obtain ⟨flagged, hflagged⟩ := answers_updateNeedChangePassword userId false c
      refine ⟨{ success := true }, ?_, rfl⟩
      unfold Prog.result
      rw [Prog.run_bind_ok (Prod.ext hflagged rfl)]
      rfl

end Farado
