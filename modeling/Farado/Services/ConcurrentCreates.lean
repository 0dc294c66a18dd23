import Farado.Lib.Steps.Interleave
import Farado.Lib.Steps.Runs
import Farado.Repositories.Readers
import Farado.Services.Effects
import Farado.Services.Project
import Farado.Storage.Reference

/-!
# Create requests on one connection

The threads of the server share one connection. A `createX` inserts its row in one step under the
connection's mutex and asks for the last rowid in another, so the INSERT of a different request,
into whatever table, can come in between; the request then returns the other's rowid and answers
with whatever row has that id in its own table. When that does not happen every request returns the
id of its own row.
-/

namespace Farado

open Relational Steps

/-- The first step of the writing part of a creation: the INSERT, or nothing; after it the program
asks for the id of its row. -/
theorem next_createAndFind {Dto : Type} {t : Table} (values : Option (Columns t))
    (find : Int → Db (Option Dto)) (c : Connection) :
    (∃ r : Except Error (Option Dto), (∀ d, r ≠ .ok (some d)) ∧
        Pool.next (createAndFind (createIn t values) find) c = (.done r, c) ∧
        ∀ v ∈ values, c.db.insert t v = none) ∨
      ∃ v n db, values = some v ∧ c.db.insert t v = some (n, db) ∧
        Pool.next (createAndFind (createIn t values) find) c =
          (lastInsertId >>= fun newId => if newId ≤ 0 then pure none else find newId,
            { db := db, lastInsertRowid := n }) := by
  cases values with
  | none => exact .inl ⟨.ok none, nofun, rfl, by simp⟩
  | some v =>
    have hnext : Pool.next (createAndFind (createIn t (some v)) find) c =
        ((Prog.done ((insertInto t v).run c).1 >>= fun _ => lastInsertId) >>= fun newId =>
          if newId ≤ 0 then pure none else find newId, ((insertInto t v).run c).2) := rfl
    rw [hnext]
    rcases run_insertInto t v c with ⟨n, db, hi, hrun⟩ | ⟨hi, hrun⟩
    · rw [hrun]
      exact .inr ⟨v, n, db, rfl, hi, rfl⟩
    · rw [hrun]
      exact .inl ⟨.error .constraintFailed, nofun, rfl, by simpa using hi⟩

/-- After the INSERT a creation only reads. -/
theorem readOnly_findCreated {Dto : Type} {find : Int → Db (Option Dto)}
    (hfind : ∀ id, Prog.ReadOnly (find id)) :
    Prog.ReadOnly (lastInsertId >>= fun newId => if newId ≤ 0 then pure none else find newId) :=
  (Prog.readOnly_atomic fun _ => rfl).bind fun newId =>
    .ite (Prog.readOnly_pure _) (hfind newId)

/-! ## Requests -/

/-- A create request of any entity kind. -/
inductive CreateRequest where
  | workflow (workflow : Dto.Workflow)
  | state (state : Dto.State)
  | edge (edge : Dto.Edge)
  | itemType (itemType : Dto.ItemType)
  | fieldType (fieldType : Dto.FieldType)
  | project (now : Int) (project : Dto.Project)
  | phase (phase : Dto.Phase)
  | user (user : Dto.User) (password : Bytes)

namespace CreateRequest

@[reducible] def table : CreateRequest → Table
  | workflow _ => .workflow
  | state _ => .state
  | edge _ => .edge
  | itemType _ => .itemType
  | fieldType _ => .fieldType
  | project _ _ => .project
  | phase _ => .phase
  | user _ _ => .user

@[reducible] def Dto : CreateRequest → Type
  | workflow _ => Dto.Workflow
  | state _ => Dto.State
  | edge _ => Dto.Edge
  | itemType _ => Dto.ItemType
  | fieldType _ => Dto.FieldType
  | project _ _ => Dto.Project
  | phase _ => Dto.Phase
  | user _ _ => Dto.User

/-- The `id` of a response. -/
def idOf : (r : CreateRequest) → r.Dto → Option Int
  | workflow _, d => d.id
  | state _, d => d.id
  | edge _, d => d.id
  | itemType _, d => d.id
  | fieldType _, d => d.id
  | project _ _, d => d.id
  | phase _, d => d.id
  | user _ _, d => d.id

def mapRow : (r : CreateRequest) → Row r.table → Except Error r.Dto
  | workflow _ => SqliteWorkflowRepository.mapRowToWorkflow
  | state _ => SqliteStateRepository.mapRowToState
  | edge _ => SqliteEdgeRepository.mapRowToEdge
  | itemType _ => SqliteItemTypeRepository.mapRowToItemType
  | fieldType _ => SqliteFieldTypeRepository.mapRowToFieldType
  | project _ _ => SqliteProjectRepository.mapRowToProject
  | phase _ => SqlitePhaseRepository.mapRowToPhase
  | user _ _ => SqliteUserRepository.mapRowToUser

variable (env : Environment) (sha256 : Bytes → Bytes)

/-- The service call that serves the request. -/
def serve : (r : CreateRequest) → Db (Option r.Dto)
  | workflow w => WorkflowService.createWorkflow w
  | state s => StateService.createState s
  | edge e => EdgeService.createEdge e
  | itemType t => ItemTypeService.createItemType t
  | fieldType t => FieldTypeService.createFieldType t
  | project now p => ProjectService.createProject env now p
  | phase p => PhaseService.createPhase env p
  | user u password => UserService.createUser sha256 u password

/-- What it inserts. -/
def values : (r : CreateRequest) → Option (Columns r.table)
  | workflow w => SqliteWorkflowRepository.values w
  | state s => SqliteStateRepository.values s
  | edge e => SqliteEdgeRepository.values e
  | itemType t => SqliteItemTypeRepository.values t
  | fieldType t => SqliteFieldTypeRepository.values t
  | project now p => SqliteProjectRepository.values env now p
  | phase p => SqlitePhaseRepository.values env p
  | user u password => SqliteUserRepository.values u (sha256 password)

/-- The part of the service call that writes. -/
def insertAndFind (r : CreateRequest) : Db (Option r.Dto) :=
  createAndFind (createIn r.table (r.values env sha256)) (findByIdIn r.table r.mapRow)

/-- Before that part, a service call only checks. -/
theorem serve_readsThen (r : CreateRequest) :
    Prog.ReadsThen (r.insertAndFind env sha256) (r.serve env sha256) := by
  cases r with
  | workflow w =>
    show Prog.ReadsThen _ (WorkflowService.createWorkflow w)
    unfold WorkflowService.createWorkflow
    split
    · exact .giveUp
    · refine (readOnly_existsByCaption _).readsThen fun taken => ?_
      split
      · exact .giveUp
      · exact .goOn
  | state s =>
    show Prog.ReadsThen _ (StateService.createState s)
    unfold StateService.createState
    split
    · exact .giveUp
    · refine (readOnly_findWorkflow _).readsThen fun found => ?_
      split
      · exact .giveUp
      · exact .goOn
  | edge e =>
    show Prog.ReadsThen _ (EdgeService.createEdge e)
    unfold EdgeService.createEdge
    split
    · refine (readOnly_validateEdge _ _).readsThen fun validation => ?_
      split
      · exact .giveUp
      · refine (readOnly_edgeExists _ _).readsThen fun taken => ?_
        split
        · exact .giveUp
        · exact .goOn
    · exact .giveUp
  | itemType t =>
    show Prog.ReadsThen _ (ItemTypeService.createItemType t)
    unfold ItemTypeService.createItemType
    split
    · exact .giveUp
    · exact .goOn
  | fieldType t =>
    show Prog.ReadsThen _ (FieldTypeService.createFieldType t)
    unfold FieldTypeService.createFieldType
    split
    · exact .giveUp
    · exact .goOn
  | project now p =>
    show Prog.ReadsThen _ (ProjectService.createProject env now p)
    unfold ProjectService.createProject
    split
    · exact .giveUp
    · exact .goOn
  | phase p =>
    show Prog.ReadsThen _ (PhaseService.createPhase env p)
    unfold PhaseService.createPhase
    split
    · exact .giveUp
    · exact .goOn
  | user u password =>
    show Prog.ReadsThen _ (UserService.createUser sha256 u password)
    unfold UserService.createUser
    split
    · exact .giveUp
    · refine (Prog.ReadOnly.ite (Prog.readOnly_pure _) (readOnly_anyIn _ _)).readsThen fun taken => ?_
      split
      · exact .giveUp
      · exact .goOn

/-- The id of a response is the id of the row it describes. -/
theorem idOf_mapRow {r : CreateRequest} {row : Row r.table} {d : r.Dto}
    (h : r.mapRow row = .ok d) : r.idOf d = some row.id := by
  cases r with
  | workflow w =>
    rw [((workflowReader.mapRow_ok _ _).mp h).2.2]
    rfl
  | state s =>
    rw [((stateReader.mapRow_ok _ _).mp h).2.2]
    rfl
  | edge e =>
    cases h
    rfl
  | itemType t =>
    rw [((itemTypeReader.mapRow_ok _ _).mp h).2.2]
    rfl
  | fieldType t =>
    rw [((fieldTypeReader.mapRow_ok _ _).mp h).2.2]
    rfl
  | project now p =>
    rw [((projectReader.mapRow_ok _ _).mp h).2.2]
    rfl
  | phase p =>
    rw [((phaseReader.mapRow_ok _ _).mp h).2.2]
    rfl
  | user u password =>
    rw [((userReader.mapRow_ok _ _).mp h).2.2]
    rfl

end CreateRequest

/-! ## Traffic

The requests run as a `Pool`. Beside it, three observations are kept, made from outside by comparing
the database before and after each step: `own i`, the id of the row that a step of `i` has inserted;
`awaiting i`, that this was the latest step of `i`; and `newest`, the id of the latest row that
anyone has inserted, into whatever table.
-/

/-- The requests under way and what has been observed of them. -/
structure Traffic {ι : Type} (request : ι → CreateRequest) where
  pool : Pool ι Connection Error fun i => Option (request i).Dto
  own : ι → Option Int
  awaiting : ι → Bool
  newest : Option Int

namespace Traffic

variable {ι : Type} [DecidableEq ι] {request : ι → CreateRequest}

/-- The row a step has inserted into `t`, by AUTOINCREMENT's counter. -/
def insertedRow (before after : Database V1) (t : Table) : Option Int :=
  if after.seq t = before.seq t then none else some (after.seq t)

/-- The row that the next step of `i` will insert. -/
def inserts (T : Traffic request) (i : ι) : Option Int :=
  insertedRow T.pool.state.db (T.pool.advance i).state.db (request i).table

/-- The request `i` does its next step. -/
def step (T : Traffic request) (i : ι) : Traffic request where
  pool := T.pool.advance i
  own := Function.update T.own i ((T.inserts i).or (T.own i))
  awaiting := Function.update T.awaiting i (T.inserts i).isSome
  newest := (T.inserts i).or T.newest

/-- All requests before their first step. -/
def start (env : Environment) (sha256 : Bytes → Bytes) (request : ι → CreateRequest)
    (c : Connection) : Traffic request where
  pool := { progs := fun i => (request i).serve env sha256, state := c }
  own := fun _ => none
  awaiting := fun _ => false
  newest := none

/-- The observations do not interfere. -/
theorem run_pool (T : Traffic request) (schedule : List ι) :
    (schedule.foldl step T).pool = T.pool.play schedule := by
  induction schedule generalizing T with
  | nil => rfl
  | cons i schedule ih => exact ih (T.step i)

/-- A request that has just inserted its row is scheduled again before any other row is inserted,
or at least with a newest row that happens to have the same id. -/
def Undisturbed (T : Traffic request) (i : ι) : Prop :=
  T.awaiting i = true → T.newest = T.own i

instance (T : Traffic request) (i : ι) : Decidable (T.Undisturbed i) :=
  inferInstanceAs (Decidable (_ → _))

/-- **What the callers expect**: a successful answer describes the row that its own request has
inserted, and two requests for one table never get the same id. -/
structure AnswersOwnRows (env : Environment) (sha256 : Bytes → Bytes) (T : Traffic request) :
    Prop where
  own_row : ∀ i d, T.pool.outcome i = some (.ok (some d)) →
    ∃ n v, T.own i = some n ∧ (request i).values env sha256 = some v ∧
      ⟨n, v⟩ ∈ T.pool.state.db.rows (request i).table ∧
      (request i).mapRow ⟨n, v⟩ = .ok d ∧ (request i).idOf d = some n
  distinct : ∀ i j d d', i ≠ j → (request i).table = (request j).table →
    T.pool.outcome i = some (.ok (some d)) → T.pool.outcome j = some (.ok (some d')) →
    (request i).idOf d ≠ (request j).idOf d'

end Traffic

/-! ## One step -/

/-- How far a request has come, with what has been observed of it. -/
inductive Phase (env : Environment) (sha256 : Bytes → Bytes) (r : CreateRequest) :
    Option Int → Bool → Db (Option r.Dto) → Prop
  | checking {p : Db (Option r.Dto)} : Prog.ReadsThen (r.insertAndFind env sha256) p →
      Phase env sha256 r none false p
  | inserted (n : Int) : Phase env sha256 r (some n) true
      (lastInsertId >>= fun newId =>
        if newId ≤ 0 then pure none else findByIdIn r.table r.mapRow newId)
  | asked (n : Int) : Phase env sha256 r (some n) false (findByIdIn r.table r.mapRow n)
  | finished {own : Option Int} {result : Except Error (Option r.Dto)} :
      (∀ d, result = .ok (some d) →
        ∃ n v, own = some n ∧ r.values env sha256 = some v ∧ r.mapRow ⟨n, v⟩ = .ok d) →
      Phase env sha256 r own false (.done result)

theorem Phase.own_of_awaiting {env : Environment} {sha256 : Bytes → Bytes} {r : CreateRequest}
    {own : Option Int} {awaiting : Bool} {p : Db (Option r.Dto)}
    (h : Phase env sha256 r own awaiting p) (haw : awaiting = true) : ∃ n, own = some n := by
  cases h with
  | inserted n => exact ⟨n, rfl⟩
  | checking | asked | finished => cases haw

/-- Only the last phase ends well. -/
theorem Phase.of_success {env : Environment} {sha256 : Bytes → Bytes} {r : CreateRequest}
    {own : Option Int} {awaiting : Bool} {p : Db (Option r.Dto)} {d : r.Dto}
    (h : Phase env sha256 r own awaiting p) (hp : p = .done (.ok (some d))) :
    ∃ n v, own = some n ∧ r.values env sha256 = some v ∧ r.mapRow ⟨n, v⟩ = .ok d := by
  cases h with
  | checking h =>
    cases h with
    | giveUp | throws | step => cases hp
    | goOn =>
      unfold CreateRequest.insertAndFind at hp
      cases hv : r.values env sha256 <;> rw [hv] at hp <;> cases hp
  | inserted n => cases hp
  | asked n =>
    unfold findByIdIn at hp
    split at hp <;> cases hp
  | finished h => exact h d (Prog.done.inj hp)

/-- What a step can do: nothing to the database, or the insertion of the request's own row. -/
def StepEffect (env : Environment) (sha256 : Bytes → Bytes) (r : CreateRequest) (c : Connection)
    (own : Option Int) (after : Db (Option r.Dto) × Connection) : Prop :=
  (after.2 = c ∧ Phase env sha256 r own false after.1) ∨
  ∃ n v db, own = none ∧ r.values env sha256 = some v ∧ c.db.insert r.table v = some (n, db) ∧
    after.2 = { db := db, lastInsertRowid := n } ∧ Phase env sha256 r (some n) true after.1

section
variable {env : Environment} {sha256 : Bytes → Bytes} {r : CreateRequest} {c : Connection}

/-- The INSERT itself. -/
theorem next_insertAndFind :
    StepEffect env sha256 r c none (Pool.next (r.insertAndFind env sha256) c) := by
  unfold CreateRequest.insertAndFind
  rcases next_createAndFind (r.values env sha256) (findByIdIn r.table r.mapRow) c with
    ⟨result, hresult, hnext, -⟩ | ⟨v, n, db, hv, hi, hnext⟩
  · rw [hnext]
    exact .inl ⟨rfl, .finished fun d hd => absurd hd (hresult d)⟩
  · rw [hnext]
    exact .inr ⟨n, v, db, rfl, hv, hi, rfl, .inserted n⟩

/-- **The step lemma**: a request that finds its own row's id as the last rowid goes from phase to
phase. -/
theorem Phase.next {own : Option Int} {awaiting : Bool} {p : Db (Option r.Dto)}
    (h : Phase env sha256 r own awaiting p)
    (hown : ∀ n, own = some n → 0 < n ∧ ∃ v, r.values env sha256 = some v ∧
      ⟨n, v⟩ ∈ c.db.rows r.table)
    (hlast : awaiting = true → own = some c.lastInsertRowid) :
    StepEffect env sha256 r c own (Pool.next p c) := by
  cases h with
  | checking h =>
    cases h with
    | giveUp => exact .inl ⟨rfl, .finished (by rintro d ⟨⟩)⟩
    | throws e => exact .inl ⟨rfl, .finished (by rintro d ⟨⟩)⟩
    | goOn => exact next_insertAndFind
    | step hu hn hf => exact .inl ⟨hu c, .checking (hn c)⟩
  | inserted n =>
    -- nobody else has inserted, so this is still the request's own rowid
    have hn : n = c.lastInsertRowid := Option.some.inj (hlast rfl)
    refine .inl ⟨rfl, ?_⟩
    show Phase env sha256 r (some n) false
      (if c.lastInsertRowid ≤ 0 then pure none else findByIdIn r.table r.mapRow c.lastInsertRowid)
    rw [← hn, if_neg (by have := (hown n rfl).1; omega)]
    exact .asked n
  | asked n =>
    obtain ⟨hpos, v, hv, hrow⟩ := hown n rfl
    -- creations only add rows, so its row is still there
    have hfind : c.db.find r.table n = some ⟨n, v⟩ := Database.find_eq_some.mpr ⟨hrow, rfl⟩
    unfold findByIdIn
    rw [if_neg (by omega)]
    refine .inl ⟨rfl, .finished ?_⟩
    intro d hd
    refine ⟨n, v, rfl, hv, ?_⟩
    simp only [hfind] at hd
    cases hm : r.mapRow ⟨n, v⟩ with
    | error e => simp [hm] at hd
    | ok d' => simpa [hm] using hd
  | finished h => exact .inl ⟨rfl, .finished h⟩

end

/-! ## All steps -/

namespace Traffic

variable {ι : Type} {request : ι → CreateRequest} {env : Environment} {sha256 : Bytes → Bytes}

/-- The invariant: every request is in a phase, its own row is in the table, and the connection
remembers the newest row. -/
structure Consistent (env : Environment) (sha256 : Bytes → Bytes) (T : Traffic request) :
    Prop where
  phase : ∀ i, Phase env sha256 (request i) (T.own i) (T.awaiting i) (T.pool.progs i)
  own_row : ∀ i n, T.own i = some n → 0 < n ∧ ∃ v, (request i).values env sha256 = some v ∧
    ⟨n, v⟩ ∈ T.pool.state.db.rows (request i).table
  newest_eq : ∀ n, T.newest = some n → T.pool.state.lastInsertRowid = n
  own_ne : ∀ i j, i ≠ j → (request i).table = (request j).table →
    ∀ n, T.own i = some n → T.own j ≠ some n

theorem consistent_start (request : ι → CreateRequest) (c : Connection) :
    Consistent env sha256 (start env sha256 request c) where
  phase i := .checking ((request i).serve_readsThen env sha256)
  own_row i n h := by cases h
  newest_eq n h := by cases h
  own_ne i j hij ht n h := by cases h

theorem insertedRow_self (db : Database V1) (t : Table) : insertedRow db db t = none := by
  simp [insertedRow]

theorem insertedRow_insert {db db' : Database V1} {t : Table} {v : Columns t} {n : Int}
    (h : db.insert t v = some (n, db')) : insertedRow db db' t = some n := by
  obtain ⟨rfl, -, -, hseq⟩ := Database.insert_eq_some h
  simp [insertedRow, hseq, Database.nextId]

theorem Consistent.id_lt {T : Traffic request} (h : Consistent env sha256 T) {i : ι} {n : Int}
    (hn : T.own i = some n) : n < T.pool.state.db.nextId (request i).table := by
  obtain ⟨-, v, -, hrow⟩ := h.own_row i n hn
  exact Database.id_lt_nextId hrow

/-- The invariant says what the callers expect. -/
theorem Consistent.answersOwnRows {T : Traffic request} (h : Consistent env sha256 T) :
    AnswersOwnRows env sha256 T := by
  have hown : ∀ i d, T.pool.outcome i = some (.ok (some d)) →
      ∃ n v, T.own i = some n ∧ (request i).values env sha256 = some v ∧
        ⟨n, v⟩ ∈ T.pool.state.db.rows (request i).table ∧
        (request i).mapRow ⟨n, v⟩ = .ok d ∧ (request i).idOf d = some n := by
    intro i d hd
    obtain ⟨n, v, hn, hv, hm⟩ := (h.phase i).of_success (Pool.outcome_eq_some.mp hd)
    obtain ⟨-, w, hw, hrow⟩ := h.own_row i n hn
    obtain rfl : v = w := Option.some.inj (hv.symm.trans hw)
    exact ⟨n, v, hn, hv, hrow, hm, CreateRequest.idOf_mapRow hm⟩
  refine ⟨hown, ?_⟩
  intro i j d d' hij ht hd hd' hid
  obtain ⟨n, -, hn, -, -, -, hdn⟩ := hown i d hd
  obtain ⟨m, -, hm, -, -, -, hdm⟩ := hown j d' hd'
  rw [hdn, hdm] at hid
  obtain rfl : n = m := Option.some.inj hid
  exact h.own_ne i j hij ht n hn hm

variable [DecidableEq ι]

/-- A step that leaves the database alone. -/
theorem step_of_quiet {T : Traffic request} {i : ι}
    (hstate : (T.pool.advance i).state = T.pool.state) :
    T.step i = { T with
      pool := T.pool.advance i
      awaiting := Function.update T.awaiting i false } := by
  have hins : T.inserts i = none := by rw [inserts, hstate, insertedRow_self]
  simp [step, hins]

/-- A step that inserts. -/
theorem step_of_insert {T : Traffic request} {i : ι} {v : Columns (request i).table} {n : Int}
    {db : Database V1} (hi : T.pool.state.db.insert (request i).table v = some (n, db))
    (hstate : (T.pool.advance i).state = { db := db, lastInsertRowid := n }) :
    T.step i = {
      pool := T.pool.advance i
      own := Function.update T.own i (some n)
      awaiting := Function.update T.awaiting i true
      newest := some n } := by
  have hins : T.inserts i = some n := by
    rw [inserts, hstate]
    exact insertedRow_insert hi
  simp [step, hins]

/-- Everybody's phase after a step of `i`. -/
theorem Consistent.phase_advance {T : Traffic request} (h : Consistent env sha256 T) {i : ι}
    {own : Option Int} {awaiting : Bool}
    (hphase : Phase env sha256 (request i) own awaiting ((T.pool.advance i).progs i)) (j : ι) :
    Phase env sha256 (request j) (Function.update T.own i own j)
      (Function.update T.awaiting i awaiting j) ((T.pool.advance i).progs j) := by
  by_cases hj : j = i
  · subst hj
    simpa using hphase
  · simpa [hj, Pool.advance_progs_of_ne hj] using h.phase j

/-- A step that leaves the database alone keeps the invariant. -/
theorem Consistent.quiet {T : Traffic request} (h : Consistent env sha256 T) {i : ι}
    (hstate : (T.pool.advance i).state = T.pool.state)
    (hphase : Phase env sha256 (request i) (T.own i) false ((T.pool.advance i).progs i)) :
    Consistent env sha256 (T.step i) := by
  rw [step_of_quiet hstate]
  constructor
  case phase =>
    intro j
    simpa using h.phase_advance hphase j
  case own_row => simpa only [hstate] using h.own_row
  case newest_eq => simpa only [hstate] using h.newest_eq
  case own_ne => exact h.own_ne

/-- The INSERT of a request keeps the invariant. -/
theorem Consistent.insert {T : Traffic request} (h : Consistent env sha256 T) {i : ι}
    {v : Columns (request i).table} {n : Int} {db : Database V1}
    (hv : (request i).values env sha256 = some v)
    (hi : T.pool.state.db.insert (request i).table v = some (n, db))
    (hstate : (T.pool.advance i).state = { db := db, lastInsertRowid := n })
    (hphase : Phase env sha256 (request i) (some n) true ((T.pool.advance i).progs i)) :
    Consistent env sha256 (T.step i) := by
  rw [step_of_insert hi hstate]
  have hn : n = T.pool.state.db.nextId (request i).table := (Database.insert_eq_some hi).1
  constructor
  case phase => exact h.phase_advance hphase
  case own_row =>
    -- the rows of the other requests are still there
    have hrows : ∀ t (row : Row t), row ∈ T.pool.state.db.rows t → row ∈ db.rows t := by
      intro t row hrow
      rw [(Database.insert_eq_some hi).2.2.1]
      exact Database.mem_insertRows_of_mem hrow
    intro j m hm
    simp only [hstate]
    by_cases hj : j = i
    · subst hj
      obtain rfl : n = m := by simpa using hm
      refine ⟨hn ▸ Database.nextId_pos _ _, v, hv, ?_⟩
      rw [Database.insert_rows_self hi]
      simp
    · obtain ⟨hpos, w, hw, hrow⟩ := h.own_row j m (by simpa [hj] using hm)
      exact ⟨hpos, w, hw, hrows _ _ hrow⟩
  case newest_eq =>
    intro m hm
    simpa [hstate] using hm
  case own_ne =>
    -- the new id is greater than the ids of the other requests' rows
    have hfresh : ∀ {k}, (request k).table = (request i).table → T.own k ≠ some n := by
      intro k ht hk
      have hlt := h.id_lt hk
      rw [ht] at hlt
      omega
    intro j k hjk ht m hj hk
    by_cases hji : j = i
    · subst hji
      obtain rfl : n = m := by simpa using hj
      exact hfresh ht.symm (by simpa [Ne.symm hjk] using hk)
    · by_cases hki : k = i
      · subst hki
        obtain rfl : n = m := by simpa using hk
        exact hfresh ht (by simpa [hji] using hj)
      · exact h.own_ne j k hjk ht m (by simpa [hji] using hj) (by simpa [hki] using hk)

/-- An undisturbed step keeps the invariant. -/
theorem consistent_step {T : Traffic request} {i : ι} (h : Consistent env sha256 T)
    (hu : T.Undisturbed i) : Consistent env sha256 (T.step i) := by
  have hlast : T.awaiting i = true → T.own i = some T.pool.state.lastInsertRowid := by
    intro haw
    obtain ⟨n, hn⟩ := (h.phase i).own_of_awaiting haw
    rw [hn, h.newest_eq n ((hu haw).trans hn)]
  have hadvance := T.pool.advance_eq i
  rcases (h.phase i).next (h.own_row i) hlast with
    ⟨hstate, hphase⟩ | ⟨n, v, db, -, hv, hi, hstate, hphase⟩
  · apply h.quiet
    · rw [hadvance]
      exact hstate
    · simpa [hadvance] using hphase
  · apply h.insert hv hi
    · rw [hadvance]
      exact hstate
    · simpa [hadvance] using hphase

/-- **Undisturbed creations answer with their own rows.** -/
theorem answers_own_rows (env : Environment) (sha256 : Bytes → Bytes) (request : ι → CreateRequest)
    (c : Connection) (schedule : List ι)
    (h : Along step Undisturbed (start env sha256 request c) schedule) :
    AnswersOwnRows env sha256 (schedule.foldl step (start env sha256 request c)) :=
  (h.invariant (fun _ _ => consistent_step) (consistent_start request c)).answersOwnRows

/-- Two workflows created at the same time. -/
def twoWorkflows (i : Bool) : CreateRequest :=
  .workflow { caption := some (if i then bytes "Sales" else bytes "Support") }

theorem answers_own_rows_twoWorkflows :
    AnswersOwnRows .reference id
        ([false, true, false, false, true, true, false, true].foldl step
          (start .reference id twoWorkflows .fresh)) ∧
      ((start .reference id twoWorkflows .fresh).pool.play
        [false, true, false, false, true, true, false, true]).outcome true =
          some (.ok (some { id := some 2, caption := some (bytes "Sales") })) :=
  ⟨answers_own_rows .reference id twoWorkflows .fresh _ (by decide), rfl⟩

/-- **Both INSERTs, then both questions**: the two requests answer with the same row. -/
theorem answers_not_own_row :
    ¬ AnswersOwnRows .reference id
      ([false, true, false, true, false, true, false, true].foldl step
        (start .reference id twoWorkflows .fresh)) := by
  intro h
  exact h.distinct false true { id := some 2, caption := some (bytes "Sales") }
    { id := some 2, caption := some (bytes "Sales") } (by decide) rfl rfl rfl rfl

end Traffic

end Farado
