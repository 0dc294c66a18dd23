import Farado.Lib.Relational.Cascade
import Farado.Lib.Steps.ReadOnly
import Farado.Storage.Schema
import Mathlib.Tactic.ByContra

/-!
# The connection

`SqliteDatabase::connection` hands every caller the same connection, so its state is the database
and the rowid of the last INSERT that anyone made on it. Each statement runs under the connection's
mutex and is one atomic step: a SELECT with all its rows, an INSERT, an UPDATE, a DELETE with its
cascades, and, apart from the INSERT before it, `lastInsertId`.
-/

namespace Farado

open Relational Steps

/-- The state of the shared connection. -/
structure Connection where
  db : Database V1
  lastInsertRowid : Int

/-- A connection to a database without rows. -/
def Connection.fresh : Connection := { db := .empty V1, lastInsertRowid := 0 }

/-- Database code. -/
abbrev Db := Prog Connection Error

/-- A SELECT, its rows read to the end. -/
def select {α : Type} (query : Database V1 → Except Error α) : Db α :=
  Prog.atomic .sqlFault fun c => (query c.db, c)

/-- `INSERT INTO t (…) VALUES (…)`; returns the number of inserted rows. -/
def insertInto (t : Table) (values : Columns t) : Db Int :=
  Prog.atomic .sqlFault fun c =>
    match c.db.insert t values with
    | some (rowid, db) => (.ok 1, { db := db, lastInsertRowid := rowid })
    | none => (.error .constraintFailed, c)

/-- `sqlite3_last_insert_rowid` -/
def lastInsertId : Db Int :=
  Prog.atomic .sqlFault fun c => (.ok c.lastInsertRowid, c)

/-- `UPDATE t SET … WHERE id = :id`; returns the number of matched rows. -/
def updateWhereId (t : Table) (id : Int) (set : Columns t → Columns t) : Db Int :=
  Prog.atomic .sqlFault fun c =>
    match c.db.updateById t id set with
    | some (affected, db) => (.ok affected, { c with db := db })
    | none => (.error .constraintFailed, c)

/-- `DELETE FROM t WHERE …`; returns the number of matched rows (`sqlite3_changes` does not count
the cascades). -/
def deleteWhere (t : Table) (p : Row t → Bool) : Db Int :=
  Prog.atomic .sqlFault fun c =>
    (.ok (c.db.deleteWhere t p).1, { c with db := (c.db.deleteWhere t p).2 })

/-- `DELETE FROM t WHERE id = :id` -/
def deleteWhereId (t : Table) (id : Int) : Db Int := deleteWhere t fun r => r.id == id

/-- What lies outside the program: how SQLite orders rows for ORDER BY (ties are its own business)
and matches LIKE patterns, and ICU's conversion to lower case. -/
structure Environment where
  arrange : {t : Table} → (Row t → Row t → Bool) → List (Row t) → List (Row t)
  arrange_perm : ∀ {t : Table} (le : Row t → Row t → Bool) (l : List (Row t)),
    (arrange le l).Perm l
  arrange_sorted : ∀ {t : Table} (le : Row t → Row t → Bool),
    (∀ a b c, le a b → le b c → le a c) → (∀ a b, le a b || le b a) →
      ∀ l : List (Row t), (arrange le l).Pairwise fun a b => le a b
  like : (pattern : Bytes) → (text : Bytes) → Bool
  foldCase : Bytes → Bytes

/-! ## What the foreign keys say -/

section
variable (db : Database V1)

theorem state_workflow {r : Row .state} (h : r ∈ db.rows .state) :
    ∃ w ∈ db.rows .workflow, w.id = r.cols.workflowId :=
  refsResolve_iff.mp (db.integral.refs .state r h) (cascade .workflow StateRow.workflowId)
    (by simp [foreignKeys]) _ rfl

theorem edge_beginState {r : Row .edge} (h : r ∈ db.rows .edge) :
    ∃ s ∈ db.rows .state, s.id = r.cols.beginStateId :=
  refsResolve_iff.mp (db.integral.refs .edge r h) (cascade .state EdgeRow.beginStateId)
    (by simp [foreignKeys]) _ rfl

theorem edge_endState {r : Row .edge} (h : r ∈ db.rows .edge) :
    ∃ s ∈ db.rows .state, s.id = r.cols.endStateId :=
  refsResolve_iff.mp (db.integral.refs .edge r h) (cascade .state EdgeRow.endStateId)
    (by simp [foreignKeys]) _ rfl

theorem itemType_workflow {r : Row .itemType} (h : r ∈ db.rows .itemType) :
    ∃ w ∈ db.rows .workflow, w.id = r.cols.workflowId :=
  refsResolve_iff.mp (db.integral.refs .itemType r h) (cascade .workflow ItemTypeRow.workflowId)
    (by simp [foreignKeys]) _ rfl

theorem item_itemType {r : Row .item} (h : r ∈ db.rows .item) :
    ∃ t ∈ db.rows .itemType, t.id = r.cols.itemTypeId :=
  refsResolve_iff.mp (db.integral.refs .item r h) (cascade .itemType ItemRow.itemTypeId)
    (by simp [foreignKeys]) _ rfl

theorem item_state {r : Row .item} (h : r ∈ db.rows .item) :
    ∃ s ∈ db.rows .state, s.id = r.cols.stateId :=
  refsResolve_iff.mp (db.integral.refs .item r h) (cascade .state ItemRow.stateId)
    (by simp [foreignKeys]) _ rfl

theorem project_parent {r : Row .project} (h : r ∈ db.rows .project) {p : Int}
    (hp : r.cols.parentId = some p) : ∃ q ∈ db.rows .project, q.id = p :=
  refsResolve_iff.mp (db.integral.refs .project r h)
    (setNull .project ProjectRow.parentId fun c => { c with parentId := none })
    (by simp [foreignKeys]) _ hp

end

/-! ## What a deletion takes along -/

section
variable {db : Database V1} {roots : Table → Int → Bool}

theorem doomed_state_iff {s : Row .state} (hs : s ∈ db.rows .state) :
    db.Doomed roots .state s.id ↔
      roots .state s.id = true ∨ db.Doomed roots .workflow s.cols.workflowId := by
  rw [Database.doomed_iff hs]
  simp [foreignKeys, cascade, ForeignKey.cascades]

theorem doomed_itemType_iff {t : Row .itemType} (ht : t ∈ db.rows .itemType) :
    db.Doomed roots .itemType t.id ↔
      roots .itemType t.id = true ∨ db.Doomed roots .workflow t.cols.workflowId := by
  rw [Database.doomed_iff ht]
  simp [foreignKeys, cascade, ForeignKey.cascades]

theorem doomed_item_iff {item : Row .item} (hitem : item ∈ db.rows .item) :
    db.Doomed roots .item item.id ↔ roots .item item.id = true ∨
      db.Doomed roots .itemType item.cols.itemTypeId ∨
        db.Doomed roots .state item.cols.stateId := by
  rw [Database.doomed_iff hitem]
  simp [foreignKeys, cascade, setNull, ForeignKey.cascades]

theorem doomed_project_iff {p : Row .project} (hp : p ∈ db.rows .project) :
    db.Doomed roots .project p.id ↔ roots .project p.id = true := by
  rw [Database.doomed_iff hp]
  simp [foreignKeys, setNull, ForeignKey.cascades]

theorem doomed_phase_iff {p : Row .phase} (hp : p ∈ db.rows .phase) :
    db.Doomed roots .phase p.id ↔
      roots .phase p.id = true ∨ db.Doomed roots .project p.cols.projectId := by
  rw [Database.doomed_iff hp]
  simp [foreignKeys, cascade, ForeignKey.cascades]

theorem doomed_workflow_iff {w : Row .workflow} (hw : w ∈ db.rows .workflow) :
    db.Doomed roots .workflow w.id ↔ roots .workflow w.id = true := by
  rw [Database.doomed_iff hw]
  simp [foreignKeys]

end

/-! ## Running the statements -/

theorem readOnly_select {α : Type} (query : Database V1 → Except Error α) :
    Prog.ReadOnly (select query) := Prog.readOnly_atomic fun _ => rfl

@[simp] theorem result_select {α : Type} (query : Database V1 → Except Error α) (c : Connection) :
    (select query).result c = query c.db := rfl

/-- An INSERT adds the row, or fails and changes nothing. -/
theorem run_insertInto (t : Table) (values : Columns t) (c : Connection) :
    (∃ rowid db, c.db.insert t values = some (rowid, db) ∧
      (insertInto t values).run c = (.ok 1, { db := db, lastInsertRowid := rowid })) ∨
    c.db.insert t values = none ∧ (insertInto t values).run c = (.error .constraintFailed, c) := by
  unfold insertInto
  rw [Prog.run_atomic]
  cases h : c.db.insert t values with
  | none => exact .inr ⟨rfl, rfl⟩
  | some x => exact .inl ⟨x.1, x.2, rfl, rfl⟩

/-- An UPDATE changes the row, or fails and changes nothing. -/
theorem run_updateWhereId (t : Table) (id : Int) (set : Columns t → Columns t) (c : Connection) :
    (∃ affected db, c.db.updateById t id set = some (affected, db) ∧
      (updateWhereId t id set).run c = (.ok affected, { c with db := db })) ∨
    c.db.updateById t id set = none ∧
      (updateWhereId t id set).run c = (.error .constraintFailed, c) := by
  unfold updateWhereId
  rw [Prog.run_atomic]
  cases h : c.db.updateById t id set with
  | none => exact .inr ⟨rfl, rfl⟩
  | some x => exact .inl ⟨x.1, x.2, rfl, rfl⟩

theorem ends_insertInto {t : Table} {values : Columns t} {c c' : Connection} {n : Int}
    (h : Prog.Ends (insertInto t values) c (.ok n) c') :
    ∃ rowid, c.db.insert t values = some (rowid, c'.db) := by
  rcases Prog.ends_atomic_iff.mp h with ⟨hr, hc'⟩ | ⟨herr, -⟩
  · cases hinsert : c.db.insert t values with
    | none =>
      rw [hinsert] at hr
      cases hr
    | some x =>
      rw [hinsert] at hc'
      rw [hc']
      exact ⟨x.1, rfl⟩
  · cases herr

theorem ends_deleteWhere {t : Table} {p : Row t → Bool} {c c' : Connection} {n : Int}
    (h : Prog.Ends (deleteWhere t p) c (.ok n) c') :
    c' = { c with db := (c.db.deleteWhere t p).2 } := by
  rcases Prog.ends_atomic_iff.mp h with ⟨-, hc'⟩ | ⟨herr, -⟩
  · exact hc'
  · cases herr

end Farado
