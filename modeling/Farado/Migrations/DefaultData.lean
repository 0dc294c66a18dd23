import Farado.Lib.Relational.Frame
import Farado.Lib.TextStream
import Farado.Migrations.Registry
import Farado.Storage.Connection

/-!
# The default data

`V2_DefaultData`: an administrator, a workflow with five states and six edges, and a week of
standard days. `up` inserts them row by row. `down` deletes the workflow by its caption and the
administrator by the login, and **of the other three tables everything**.

`digest` stands for SHA-256, of which OpenSSL is the implementation.
-/

namespace Farado

open Relational Steps

namespace V2_DefaultData

/-- The loop over the digest. The width is set again for every byte. -/
def hexStream (hash : Bytes) : TextStream.OStream :=
  hash.foldl (fun ss byte => ((ss.hex.setw 2).setfill 0x30).put byte.toNat) {}

def hashPassword (digest : Bytes → Bytes) (password : Bytes) : Bytes :=
  (hexStream (digest password)).text

/-! ## up -/

/-- `INSERT INTO User …` -/
def insertAdmin (passwordHash : Bytes) : Db Unit := do
  let _ ← insertInto .user {
    login := bindString (bytes "admin"),
    firstName := some (bindString (bytes "Системный")),
    middleName := none,
    lastName := some (bindString (bytes "Администратор")),
    email := bindString (bytes "admin@mail.local"),
    passwordHash := bindString passwordHash,
    needChangePassword := 1, isBlocked := 0, isSuperAdmin := 1, isHidden := 0 }

/-- `INSERT INTO Workflow …`, and its id. -/
def insertWorkflow : Db Int := do
  let _ ← insertInto .workflow {
    caption := bindString (bytes "Базовый процесс"),
    description :=
      some (bindString (bytes "Стандартный рабочий процесс с базовыми состояниями")) }
  lastInsertId

/-- `INSERT INTO State …`, and its id. -/
def insertState (workflowId : Int) (caption description : Bytes) (weight orderNumber : Int)
    (isArchive isQueue : Int) : Db Int := do
  let _ ← insertInto .state {
    workflowId, caption := bindString caption, description := some (bindString description),
    weight := some weight, orderNumber := some orderNumber, isArchive, isQueue }
  lastInsertId

/-- `INSERT INTO Edge …` -/
def insertEdge (beginStateId endStateId : Int) : Db Unit := do
  let _ ← insertInto .edge { beginStateId, endStateId }

/-- `INSERT INTO StandardDay …` -/
def insertStandardDay (weekDayNumber weekOrder isWorkDay : Int)
    (beginWorkTime endWorkTime : Option Bytes) (breakDuration : Int) : Db Unit := do
  let _ ← insertInto .standardDay {
    weekDayNumber, weekOrder := some weekOrder, isWorkDay,
    beginWorkTime := beginWorkTime.map bindString, endWorkTime := endWorkTime.map bindString,
    breakDuration := some breakDuration }

def insertEdges (newId inProgressId reviewId doneId archiveId : Int) : Db Unit := do
  insertEdge newId inProgressId
  insertEdge inProgressId reviewId
  insertEdge reviewId inProgressId
  insertEdge reviewId doneId
  insertEdge inProgressId doneId
  insertEdge doneId archiveId

/-- The workflow with its states and the edges between them. -/
def insertProcess : Db Unit := do
  let workflowId ← insertWorkflow
  let newId ← insertState workflowId (bytes "Новая")
    (bytes "Новая задача, ожидает начала работ") 0 1 0 0
  let inProgressId ← insertState workflowId (bytes "В работе")
    (bytes "Задача находится в процессе выполнения") 50 2 0 0
  let reviewId ← insertState workflowId (bytes "На проверке")
    (bytes "Задача ожидает проверки/ревью") 75 3 0 0
  let doneId ← insertState workflowId (bytes "Завершена")
    (bytes "Задача успешно завершена") 100 4 0 0
  let archiveId ← insertState workflowId (bytes "Архив")
    (bytes "Задача помещена в архив") 100 5 1 0
  insertEdges newId inProgressId reviewId doneId archiveId

/-- Monday to Friday, and the weekend. -/
def insertStandardDays : Db Unit := do
  insertStandardDay 1 0 1 (some (bytes "09:00")) (some (bytes "18:00")) 60
  insertStandardDay 2 0 1 (some (bytes "09:00")) (some (bytes "18:00")) 60
  insertStandardDay 3 0 1 (some (bytes "09:00")) (some (bytes "18:00")) 60
  insertStandardDay 4 0 1 (some (bytes "09:00")) (some (bytes "18:00")) 60
  insertStandardDay 5 0 1 (some (bytes "09:00")) (some (bytes "18:00")) 60
  insertStandardDay 6 0 0 none none 0
  insertStandardDay 0 0 0 none none 0

def up (digest : Bytes → Bytes) : Db Unit := do
  insertAdmin (hashPassword digest (bytes "password"))
  insertProcess
  insertStandardDays

/-! ## down -/

/-- `WHERE caption = 'Базовый процесс'` -/
def isDefaultWorkflow (r : Row .workflow) : Bool := r.cols.caption == bytes "Базовый процесс"

/-- `WHERE login = 'admin'` -/
def isAdmin (r : Row .user) : Bool := r.cols.login == bytes "admin"

def down : Db Unit := do
  let _ ← deleteWhere .standardDay fun _ => true
  let _ ← deleteWhere .edge fun _ => true
  let _ ← deleteWhere .state fun _ => true
  let _ ← deleteWhere .workflow isDefaultWorkflow
  let _ ← deleteWhere .user isAdmin

end V2_DefaultData

/-- The migration itself. -/
def V2_DefaultData (digest : Bytes → Bytes) : Migration Connection where
  version := 2
  description := bytes <| "Добавляет дефолтного супер-админа, базовый рабочий процесс " ++
    "и стандартные рабочие дни."
  up := V2_DefaultData.up digest
  down := V2_DefaultData.down

namespace V2_DefaultData

/-! ## What they do -/

/-- The rows that `up` can insert. -/
def IsDefault : (t : Table) → Columns t → Prop
  | .user, c => c.login = bytes "admin"
  | .workflow, c => c.caption = bytes "Базовый процесс"
  | .state, _ | .edge, _ | .standardDay, _ => True
  | _, _ => False

/-- An INSERT of an allowed row inserts it, or nothing. -/
theorem inserts_insertInto {allowed : (t : Table) → Columns t → Prop} {t : Table}
    {values : Columns t} (h : allowed t values) (c : Connection) :
    Database.Inserts (S := V1) allowed c.db ((insertInto t values).after c).db := by
  rcases run_insertInto t values c with ⟨i, db, hinsert, hrun⟩ | ⟨-, hrun⟩
  · rw [Prog.after, hrun]
    exact Relation.ReflTransGen.single ⟨t, values, i, h, hinsert⟩
  · rw [Prog.after, hrun]
    exact Relation.ReflTransGen.refl

/-- Some of these rows have been inserted, and nothing else has happened. -/
def Adds (c c' : Connection) : Prop := Database.Inserts (S := V1) IsDefault c.db c'.db

theorem adds_refl (c : Connection) : Adds c c := Relation.ReflTransGen.refl

theorem adds_trans {c c₁ c' : Connection} (h : Adds c c₁) (h' : Adds c₁ c') : Adds c c' :=
  Relation.ReflTransGen.trans h h'

theorem adds_insertInto {t : Table} {values : Columns t} (h : IsDefault t values) :
    Prog.Within Adds (insertInto t values) := by
  apply Prog.within_atomic adds_refl
  intro c
  exact inserts_insertInto h c

theorem adds_lastInsertId : Prog.Within Adds lastInsertId :=
  Prog.within_atomic adds_refl adds_refl

theorem adds_bind {α β : Type} {p : Db α} {k : α → Db β} (hp : Prog.Within Adds p)
    (hk : ∀ a, Prog.Within Adds (k a)) : Prog.Within Adds (p >>= k) := by
  apply Prog.Within.bind
  · intro c c₁ c' h h'
    exact adds_trans h h'
  · exact hp
  · exact hk

theorem adds_pure : Prog.Within Adds (pure () : Db Unit) := Prog.within_done adds_refl _

theorem adds_insertAdmin (passwordHash : Bytes) : Prog.Within Adds (insertAdmin passwordHash) := by
  apply adds_bind
  · apply adds_insertInto
    show bindString (bytes "admin") = bytes "admin"
    decide
  · intro _
    exact adds_pure

theorem adds_insertWorkflow : Prog.Within Adds insertWorkflow := by
  apply adds_bind
  · apply adds_insertInto
    show bindString (bytes "Базовый процесс") = bytes "Базовый процесс"
    decide
  · intro _
    exact adds_lastInsertId

theorem adds_insertState (workflowId : Int) (caption description : Bytes)
    (weight orderNumber isArchive isQueue : Int) :
    Prog.Within Adds
      (insertState workflowId caption description weight orderNumber isArchive isQueue) := by
  apply adds_bind
  · exact adds_insertInto (t := .state) trivial
  · intro _
    exact adds_lastInsertId

theorem adds_insertEdge (beginStateId endStateId : Int) :
    Prog.Within Adds (insertEdge beginStateId endStateId) := by
  apply adds_bind
  · exact adds_insertInto (t := .edge) trivial
  · intro _
    exact adds_pure

theorem adds_insertStandardDay (weekDayNumber weekOrder isWorkDay : Int)
    (beginWorkTime endWorkTime : Option Bytes) (breakDuration : Int) :
    Prog.Within Adds (insertStandardDay weekDayNumber weekOrder isWorkDay beginWorkTime endWorkTime
      breakDuration) := by
  apply adds_bind
  · exact adds_insertInto (t := .standardDay) trivial
  · intro _
    exact adds_pure

theorem adds_insertEdges (newId inProgressId reviewId doneId archiveId : Int) :
    Prog.Within Adds (insertEdges newId inProgressId reviewId doneId archiveId) := by
  unfold insertEdges
  iterate 5
    apply adds_bind (adds_insertEdge _ _)
    intro _
  exact adds_insertEdge _ _

theorem adds_insertStandardDays : Prog.Within Adds insertStandardDays := by
  unfold insertStandardDays
  iterate 6
    apply adds_bind (adds_insertStandardDay _ _ _ _ _ _)
    intro _
  exact adds_insertStandardDay _ _ _ _ _ _

theorem adds_insertProcess : Prog.Within Adds insertProcess := by
  apply adds_bind adds_insertWorkflow
  intro workflowId
  -- the five states
  iterate 5
    apply adds_bind (adds_insertState _ _ _ _ _ _ _)
    intro _
  exact adds_insertEdges _ _ _ _ _

/-- **`up` only inserts**, also when it fails on the way. -/
theorem adds_up (digest : Bytes → Bytes) : Prog.Within Adds (up digest) := by
  apply adds_bind (adds_insertAdmin _)
  intro _
  apply adds_bind adds_insertProcess
  intro _
  exact adds_insertStandardDays

/-- After `up` there is an administrator: new, not blocked, with the default password, and with texts
that read back. -/
theorem ends_up_account {digest : Bytes → Bytes} {c c' : Connection}
    (h : Prog.Ends (up digest) c (.ok ()) c') :
    ∃ r ∈ c'.db.rows .user, r.id ∉ c.db.ids .user ∧ 0 < r.id ∧ r.cols.login = bytes "admin" ∧
      r.cols.passwordHash = bindString (hashPassword digest (bytes "password")) ∧
      r.cols.isBlocked = 0 ∧
      ∀ text ∈ [some r.cols.login, r.cols.firstName, r.cols.middleName, r.cols.lastName,
        some r.cols.email], ∀ b ∈ text, looksLikeDateTime (cString b) = false := by
  rcases Prog.ends_bind_iff.mp h with ⟨_, c₁, hadmin, hrest⟩ | ⟨_, -, herr⟩
  swap
  · cases herr
  rcases Prog.ends_bind_iff.mp hadmin with ⟨_, c₂, hinsert, hpure⟩ | ⟨_, -, herr⟩
  swap
  · cases herr
  obtain ⟨-, rfl⟩ := Prog.ends_pure_iff.mp hpure
  obtain ⟨rowid, hrow⟩ := ends_insertInto hinsert
  have hid : rowid = c.db.nextId .user := (Database.insert_eq_some hrow).1
  -- the rest of `up` only adds to it
  have hadds : Adds c₁ c' := by
    have hwithin := adds_bind adds_insertProcess fun _ => adds_insertStandardDays
    exact hwithin _ _ _ hrest
  have hself := Database.insert_rows_self hrow
  refine ⟨_, (hadds.isPrefix .user).subset (hself ▸ List.mem_append_right _
    (List.mem_singleton.mpr rfl)), fun hold => ?_, ?_, ?_, rfl, rfl, ?_⟩
  · obtain ⟨q, hq, hqid⟩ := Database.mem_ids.mp hold
    have hlt := Database.id_lt_nextId hq
    rw [hqid, ← hid] at hlt
    exact Int.lt_irrefl _ hlt
  · show 0 < rowid
    rw [hid]
    exact Database.nextId_pos _ _
  · show bindString (bytes "admin") = bytes "admin"
    decide
  · dsimp only
    decide +kernel

/-- He is the administrator that the others look for. -/
theorem ends_up_admin {digest : Bytes → Bytes} {c c' : Connection}
    (h : Prog.Ends (up digest) c (.ok ()) c') :
    ∃ r ∈ c'.db.rows .user, isAdmin r = true ∧ r.id ∉ c.db.ids .user ∧
      r.cols.passwordHash = bindString (hashPassword digest (bytes "password")) := by
  obtain ⟨r, hr, hnew, -, hlogin, hhash, -⟩ := ends_up_account h
  exact ⟨r, hr, beq_iff_eq.mpr hlogin, hnew, hhash⟩

/-! The five deletions, one after the other. -/

def withoutDays (db : Database V1) : Database V1 := (db.deleteWhere .standardDay fun _ => true).2

def withoutEdges (db : Database V1) : Database V1 :=
  ((withoutDays db).deleteWhere .edge fun _ => true).2

def withoutStates (db : Database V1) : Database V1 :=
  ((withoutEdges db).deleteWhere .state fun _ => true).2

def withoutWorkflow (db : Database V1) : Database V1 :=
  ((withoutStates db).deleteWhere .workflow isDefaultWorkflow).2

/-- The database after `down`. -/
def cleared (db : Database V1) : Database V1 :=
  ((withoutWorkflow db).deleteWhere .user isAdmin).2

theorem ends_down {c c' : Connection} (h : Prog.Ends down c (.ok ()) c') :
    c' = { c with db := cleared c.db } := by
  have hthen : ∀ {t : Table} {p : Row t → Bool} {k : Int → Db Unit} {c c' : Connection},
      Prog.Ends (deleteWhere t p >>= k) c (.ok ()) c' →
        ∃ n, Prog.Ends (k n) { c with db := (c.db.deleteWhere t p).2 } (.ok ()) c' := by
    intro t p k c c' h
    rcases Prog.ends_bind_iff.mp h with ⟨n, c₁, hdelete, hrest⟩ | ⟨_, -, herr⟩
    · rw [ends_deleteWhere hdelete] at hrest
      exact ⟨n, hrest⟩
    · cases herr
  obtain ⟨_, h⟩ := hthen h
  obtain ⟨_, h⟩ := hthen h
  obtain ⟨_, h⟩ := hthen h
  obtain ⟨_, h⟩ := hthen h
  obtain ⟨_, h⟩ := hthen h
  exact (Prog.ends_pure_iff.mp h).2

end V2_DefaultData

end Farado
