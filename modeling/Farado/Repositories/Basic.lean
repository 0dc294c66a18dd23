import Farado.Storage.Connection

/-!
# What the repositories have in common

The SQLite repositories are written out class by class, but their methods follow six patterns. Each
pattern is a definition here, with the table and the columns as parameters; the classes apply them
to their own.

A read that fails is rethrown by `findById` and `findAll`; the other methods catch every exception
and answer `false`.
-/

namespace Farado

open Relational Steps

variable {α Dto : Type}

/-- `findById` -/
def findByIdIn (t : Table) (mapRow : Row t → Except Error Dto) (id : Int) : Db (Option Dto) :=
  if id ≤ 0 then pure none
  else select fun db =>
    match db.find t id with
    | some row => some <$> mapRow row
    | none => .ok none

/-- `create`: `values` is what it binds, and nothing where a required field is missing. -/
def createIn (t : Table) (values : Option (Columns t)) : Db Int :=
  match values with
  | none => pure 0
  | some values => do
      let _ ← insertInto t values
      lastInsertId

/-- One `field = :field` of an UPDATE, for a field that is present. -/
def setIfPresent {C : Type} (field : Option α) (set : α → C → C) : List (C → C) :=
  (field.map set).toList

/-- All of them. -/
def applyAll {C : Type} (setClauses : List (C → C)) (c : C) : C :=
  setClauses.foldl (fun c set => set c) c

theorem applyAll_append {C : Type} (l l' : List (C → C)) (c : C) :
    applyAll (l ++ l') c = applyAll l' (applyAll l c) := List.foldl_append

theorem applyAll_setIfPresent {C : Type} (field : Option α) (set : α → C → C) (c : C) :
    applyAll (setIfPresent field set) c = field.elim c fun a => set a c := by
  cases field <;> rfl

theorem mem_setIfPresent {C : Type} {field : Option α} {set : α → C → C} {clause : C → C} :
    clause ∈ setIfPresent field set ↔ ∃ a, field = some a ∧ set a = clause := by
  unfold setIfPresent
  rw [Option.mem_toList, Option.map_eq_some_iff]

/-- What every clause keeps, the update keeps. -/
theorem applyAll_induction {C : Type} {P : C → Prop} {l : List (C → C)}
    (h : ∀ set ∈ l, ∀ c, P c → P (set c)) {c : C} (hc : P c) : P (applyAll l c) := by
  unfold applyAll
  induction l generalizing c with
  | nil => exact hc
  | cons set l ih =>
    exact ih (fun set' hset' => h set' (List.mem_cons_of_mem _ hset')) (h set List.mem_cons_self c hc)

/-- A clause for another column. -/
theorem applyAll_setIfPresent_of_ne {C β : Type} (column : C → β) {field : Option α} {set : α → C → C}
    (h : ∀ a c, column (set a c) = column c) (c : C) :
    column (applyAll (setIfPresent field set) c) = column c := by
  cases field with
  | none => rfl
  | some a => exact h a c

/-- `update` -/
def updateIn (t : Table) (id : Option Int) (setClauses : List (Columns t → Columns t)) : Db Bool :=
  match id with
  | none => pure false
  | some id =>
      if setClauses.isEmpty then pure false
      else tryCatch
        (do
          let affected ← updateWhereId t id (applyAll setClauses)
          pure (decide (0 < affected)))
        fun _ => pure false

/-- `remove` -/
def removeIn (t : Table) (id : Int) : Db Bool :=
  if id ≤ 0 then pure false
  else tryCatch
    (do
      let affected ← deleteWhereId t id
      pure (decide (0 < affected)))
    fun _ => pure false

/-- `SELECT 1 FROM t WHERE … LIMIT 1`, as the existence checks use it. -/
def anyIn (t : Table) (p : Row t → Bool) : Db Bool :=
  tryCatch (select fun db => .ok ((db.rows t).any p)) fun _ => pure false

/-- `exists` -/
def existsIn (t : Table) (id : Int) : Db Bool :=
  if id ≤ 0 then pure false else anyIn t fun r => r.id == id

/-- `SELECT … FROM t WHERE … ORDER BY …` -/
def findWhereIn (env : Environment) (t : Table) (p : Row t → Bool) (le : Row t → Row t → Bool)
    (mapRow : Row t → Except Error Dto) : Db (List Dto) :=
  select fun db => (env.arrange le ((db.rows t).filter p)).mapM mapRow

/-! ## Pages -/

/-- `const int offset = (page - 1) * pageSize;` in 32 bits. -/
def pageOffset (page pageSize : Int) : Int := ((page - 1) * pageSize).bmod (2 ^ 32)

/-- `LIMIT :limit OFFSET :offset`: a negative limit is none, a negative offset is zero. -/
def limitRows (limit offset : Int) (rows : List α) : List α :=
  let rest := rows.drop offset.toNat
  if limit < 0 then rest else rest.take limit.toNat

/-- The rows of one page. -/
def pageRows (env : Environment) (db : Database V1) (t : Table) (p : Row t → Bool)
    (le : Row t → Row t → Bool) (page pageSize : Int) : List (Row t) :=
  limitRows pageSize (pageOffset page pageSize) (env.arrange le ((db.rows t).filter p))

/-- `findAll`: the count and then the page. Some repositories also stop where the offset is past
the end (`stopsPastEnd`). -/
def findAllIn (env : Environment) (t : Table) (p : Row t → Bool) (le : Row t → Row t → Bool)
    (stopsPastEnd : Bool) (mapRow : Row t → Except Error Dto) (page pageSize : Int) :
    Db (List Dto × Int) := do
  let totalCount : Int ← select fun db => .ok ((db.rows t).filter p).length
  if totalCount == 0 || (stopsPastEnd && decide (totalCount ≤ pageOffset page pageSize)) then
    pure ([], totalCount)
  else do
    -- one row that cannot be read, and the page is lost
    let rows ← select fun db => (pageRows env db t p le page pageSize).mapM mapRow
    pure (rows, totalCount)

/-- `ORDER BY id` -/
def byId {t : Table} (a b : Row t) : Bool := decide (a.id ≤ b.id)

/-- A nullable sort key: NULL comes first. -/
def nullableLe : Option Int → Option Int → Bool
  | none, _ => true
  | some _, none => false
  | some a, some b => decide (a ≤ b)

/-- Text is compared byte by byte. -/
def textLe : Bytes → Bytes → Bool
  | [], _ => true
  | _ :: _, [] => false
  | a :: s, b :: t => decide (a < b) || (a == b && textLe s t)

/-! ## Reading methods change nothing -/

theorem readOnly_findByIdIn (t : Table) (mapRow : Row t → Except Error Dto) (id : Int) :
    Prog.ReadOnly (findByIdIn t mapRow id) :=
  .ite (Prog.readOnly_pure _) (readOnly_select _)

theorem readOnly_anyIn (t : Table) (p : Row t → Bool) : Prog.ReadOnly (anyIn t p) :=
  (readOnly_select _).tryCatch fun _ => Prog.readOnly_pure _

theorem readOnly_existsIn (t : Table) (id : Int) : Prog.ReadOnly (existsIn t id) :=
  .ite (Prog.readOnly_pure _) (readOnly_anyIn t _)

theorem readOnly_findWhereIn (env : Environment) (t : Table) (p : Row t → Bool)
    (le : Row t → Row t → Bool) (mapRow : Row t → Except Error Dto) :
    Prog.ReadOnly (findWhereIn env t p le mapRow) := readOnly_select _

@[simp] theorem result_anyIn (t : Table) (p : Row t → Bool) (c : Connection) :
    (anyIn t p).result c = .ok ((c.db.rows t).any p) := rfl

theorem result_existsIn (t : Table) (id : Int) (c : Connection) :
    (existsIn t id).result c = .ok (decide (0 < id ∧ id ∈ c.db.ids t)) := by
  unfold existsIn
  split
  · next hid =>
    have hfalse : ¬ (0 < id ∧ id ∈ c.db.ids t) := fun h => absurd h.1 (by omega)
    rw [decide_eq_false hfalse]
    rfl
  · next hid =>
    rw [result_anyIn, Except.ok.injEq, Bool.eq_iff_iff, List.any_eq_true, decide_eq_true_eq,
      Database.mem_ids]
    constructor
    · rintro ⟨row, hrow, heq⟩
      exact ⟨by omega, row, hrow, by simpa using heq⟩
    · rintro ⟨-, row, hrow, heq⟩
      exact ⟨row, hrow, by simpa using heq⟩

@[simp] theorem result_findWhereIn (env : Environment) (t : Table) (p : Row t → Bool)
    (le : Row t → Row t → Bool) (mapRow : Row t → Except Error Dto) (c : Connection) :
    (findWhereIn env t p le mapRow).result c =
      (env.arrange le ((c.db.rows t).filter p)).mapM mapRow := rfl

/-- What a list of rows is read as includes something for every row. -/
theorem mem_of_mapM_ok {β : Type} {f : α → Except Error β} {l : List α} {l' : List β}
    (h : l.mapM f = .ok l') {a : α} (ha : a ∈ l) : ∃ b ∈ l', f a = .ok b := by
  induction l generalizing l' with
  | nil => cases ha
  | cons x l ih =>
    rw [List.mapM_cons] at h
    obtain ⟨b, hb, bs, hbs, hl'⟩ : ∃ b, f x = .ok b ∧ ∃ bs, l.mapM f = .ok bs ∧ b :: bs = l' := by
      obtain ⟨b, hb, h⟩ := bind_eq_ok.mp h
      obtain ⟨bs, hbs, h⟩ := bind_eq_ok.mp h
      exact ⟨b, hb, bs, hbs, Except.ok.inj h⟩
    subst hl'
    rcases List.mem_cons.mp ha with rfl | ha
    · exact ⟨b, List.mem_cons_self, hb⟩
    · obtain ⟨b', hb', hfa⟩ := ih hbs ha
      exact ⟨b', List.mem_cons_of_mem _ hb', hfa⟩

/-- A list of rows can be read when every row can. -/
theorem exists_mapM_ok {β : Type} {f : α → Except Error β} {l : List α} :
    (∃ l', l.mapM f = .ok l') ↔ ∀ a ∈ l, ∃ b, f a = .ok b := by
  constructor
  · rintro ⟨l', h⟩ a ha
    obtain ⟨b, -, hb⟩ := mem_of_mapM_ok h ha
    exact ⟨b, hb⟩
  · intro h
    induction l with
    | nil => exact ⟨[], rfl⟩
    | cons x l ih =>
      obtain ⟨b, hb⟩ := h x List.mem_cons_self
      obtain ⟨bs, hbs⟩ := ih fun a ha => h a (List.mem_cons_of_mem _ ha)
      refine ⟨b :: bs, ?_⟩
      rw [List.mapM_cons]
      exact bind_eq_ok.mpr ⟨b, hb, bind_eq_ok.mpr ⟨bs, hbs, rfl⟩⟩

/-- A query that can be read returns every row that matches. -/
theorem mem_result_findWhereIn {env : Environment} {t : Table} {p : Row t → Bool}
    {le : Row t → Row t → Bool} {mapRow : Row t → Except Error Dto} {c : Connection} {l : List Dto}
    (h : (findWhereIn env t p le mapRow).result c = .ok l) {row : Row t} (hrow : row ∈ c.db.rows t)
    (hp : p row = true) : ∃ d ∈ l, mapRow row = .ok d := by
  rw [result_findWhereIn] at h
  apply mem_of_mapM_ok h
  rw [(env.arrange_perm _ _).mem_iff, List.mem_filter]
  exact ⟨hrow, hp⟩

/-- What `findById` finds is the row with that id, as `mapRow` reads it. -/
theorem result_findByIdIn_some {t : Table} {mapRow : Row t → Except Error Dto} {id : Int}
    {c : Connection} {d : Dto} :
    (findByIdIn t mapRow id).result c = .ok (some d) ↔
      0 < id ∧ ∃ row ∈ c.db.rows t, row.id = id ∧ mapRow row = .ok d := by
  unfold findByIdIn
  by_cases hid : id ≤ 0
  · rw [if_pos hid]
    constructor
    · intro h
      cases h
    · rintro ⟨h, -⟩
      omega
  · rw [if_neg hid, result_select]
    constructor
    · intro h
      refine ⟨by omega, ?_⟩
      cases hf : c.db.find t id with
      | none => simp [hf] at h
      | some row =>
        obtain ⟨hrow, hrid⟩ := Database.find_eq_some.mp hf
        refine ⟨row, hrow, hrid, ?_⟩
        rw [hf] at h
        cases hm : mapRow row with
        | error e => simp [hm] at h
        | ok d' => simpa [hm] using h
    · rintro ⟨-, row, hrow, hrid, hm⟩
      rw [Database.find_eq_some.mpr ⟨hrow, hrid⟩]
      simp [hm]

theorem mem_pageRows {env : Environment} {db : Database V1} {t : Table} {p : Row t → Bool}
    {le : Row t → Row t → Bool} {page pageSize : Int} {row : Row t}
    (h : row ∈ pageRows env db t p le page pageSize) : row ∈ (db.rows t).filter p := by
  unfold pageRows limitRows at h
  rw [← (env.arrange_perm le _).mem_iff]
  dsimp only at h
  split at h
  · exact List.mem_of_mem_drop h
  · exact List.mem_of_mem_drop (List.mem_of_mem_take h)

/-- On a page that has rows, `findAll` reads these rows. -/
theorem result_findAllIn {env : Environment} {t : Table} {p : Row t → Bool}
    {le : Row t → Row t → Bool} {stopsPastEnd : Bool} {mapRow : Row t → Except Error Dto}
    {page pageSize : Int} {c : Connection}
    (hne : pageRows env c.db t p le page pageSize ≠ []) :
    (∃ r, (findAllIn env t p le stopsPastEnd mapRow page pageSize).result c = .ok r) ↔
      ∀ row ∈ pageRows env c.db t p le page pageSize, ∃ d, mapRow row = .ok d := by
  obtain ⟨row, hrow⟩ := List.exists_mem_of_ne_nil _ hne
  -- a page that has rows begins before the end, so `findAll` does not stop early
  have hlength : (pageOffset page pageSize).toNat < ((c.db.rows t).filter p).length := by
    unfold pageRows limitRows at hrow
    have hdrop : row ∈ (env.arrange le ((c.db.rows t).filter p)).drop
        (pageOffset page pageSize).toNat := by
      dsimp only at hrow
      split at hrow
      · exact hrow
      · exact List.mem_of_mem_take hrow
    have := List.length_pos_of_mem hdrop
    rw [List.length_drop, (env.arrange_perm le _).length_eq] at this
    omega
  have hgo : ¬ (((((c.db.rows t).filter p).length : Int) == 0 || (stopsPastEnd &&
      decide ((((c.db.rows t).filter p).length : Int) ≤ pageOffset page pageSize))) = true) := by
    simp only [Bool.or_eq_true, Bool.and_eq_true, beq_iff_eq, decide_eq_true_eq]
    omega
  rw [← exists_mapM_ok]
  unfold findAllIn
  simp only [(readOnly_select _).result_bind_ok, result_select, Except.ok.injEq]
  constructor
  · rintro ⟨r, n, rfl, h⟩
    rw [if_neg hgo] at h
    obtain ⟨rows, hrows, -⟩ := (readOnly_select _).result_bind_ok.mp h
    exact ⟨rows, hrows⟩
  · rintro ⟨rows, hrows⟩
    refine ⟨(rows, (((c.db.rows t).filter p).length : Int)), _, rfl, ?_⟩
    rw [if_neg hgo]
    exact (readOnly_select _).result_bind_ok.mpr ⟨rows, hrows, rfl⟩

/-! ## What the writing methods do -/

/-- `create` inserts the bound values and returns the connection's last rowid, refuses with 0, or
throws; nothing else happens to the database. -/
theorem run_createIn {t : Table} {values : Option (Columns t)} {c c' : Connection}
    {r : Except Error Int} (h : (createIn t values).run c = (r, c')) :
    (values = none ∧ r = .ok 0 ∧ c' = c) ∨
    ∃ v, values = some v ∧
      ((∃ rowid db, c.db.insert t v = some (rowid, db) ∧ r = .ok rowid ∧
          c' = { db := db, lastInsertRowid := rowid }) ∨
        (c.db.insert t v = none ∧ r = .error .constraintFailed ∧ c' = c)) := by
  cases values with
  | none =>
    cases h
    exact .inl ⟨rfl, rfl, rfl⟩
  | some v =>
    refine .inr ⟨v, rfl, ?_⟩
    unfold createIn at h
    dsimp only at h
    rcases run_insertInto t v c with ⟨rowid, db, hi, hrun⟩ | ⟨hi, hrun⟩
    · rw [Prog.run_bind_ok hrun] at h
      cases h
      exact .inl ⟨rowid, db, hi, rfl, rfl⟩
    · rw [Prog.run_bind_error hrun] at h
      cases h
      exact .inr ⟨hi, rfl, rfl⟩

/-- `update` changes the row with that id, or nothing; it never throws. -/
theorem run_updateIn {t : Table} {id : Option Int} {setClauses : List (Columns t → Columns t)}
    {c c' : Connection} {r : Except Error Bool} (h : (updateIn t id setClauses).run c = (r, c')) :
    (r = .ok false ∧ c' = c) ∨
    ∃ i affected db, id = some i ∧ setClauses ≠ [] ∧
      c.db.updateById t i (applyAll setClauses) = some (affected, db) ∧
      r = .ok (decide (0 < affected)) ∧ c' = { c with db := db } := by
  unfold updateIn at h
  split at h
  · cases h
    exact .inl ⟨rfl, rfl⟩
  · next i =>
    split at h
    · cases h
      exact .inl ⟨rfl, rfl⟩
    · next hne =>
      rw [Prog.run_tryCatch] at h
      rcases run_updateWhereId t i (applyAll setClauses) c with
        ⟨affected, db, hu, hrun⟩ | ⟨hu, hrun⟩
      · rw [Prog.run_bind_ok hrun] at h
        cases h
        exact .inr ⟨i, affected, db, rfl, by simpa using hne, hu, rfl, rfl⟩
      · rw [Prog.run_bind_error hrun] at h
        cases h
        exact .inl ⟨rfl, rfl⟩

/-- Where there is something to write, it is the schema that decides. -/
theorem run_updateIn_some {t : Table} {id : Int} {setClauses : List (Columns t → Columns t)}
    (hne : setClauses ≠ []) (c : Connection) :
    (updateIn t (some id) setClauses).run c =
      match c.db.updateById t id (applyAll setClauses) with
      | some (affected, db) => (.ok (decide (0 < affected)), { c with db := db })
      | none => (.ok false, c) := by
  unfold updateIn
  dsimp only
  rw [if_neg (by simpa using hne), Prog.run_tryCatch]
  rcases run_updateWhereId t id (applyAll setClauses) c with ⟨affected, db, hu, hrun⟩ | ⟨hu, hrun⟩
  · rw [Prog.run_bind_ok hrun, hu]
    rfl
  · rw [Prog.run_bind_error hrun, hu]
    rfl

theorem after_updateIn {t : Table} {id : Int} {setClauses : List (Columns t → Columns t)}
    (hne : setClauses ≠ []) (c : Connection) :
    (updateIn t (some id) setClauses).after c =
      (c.db.updateById t id (applyAll setClauses)).elim c fun x => { c with db := x.2 } := by
  unfold Prog.after
  rw [run_updateIn_some hne]
  cases c.db.updateById t id (applyAll setClauses) <;> rfl

/-- What the inserted values satisfy, `create` keeps true of all rows. -/
theorem createIn_keeps {t : Table} {P : Columns t → Prop} {values : Option (Columns t)}
    (hv : ∀ v, values = some v → P v) {c : Connection} (h : ∀ row ∈ c.db.rows t, P row.cols) :
    ∀ row ∈ ((createIn t values).after c).db.rows t, P row.cols := by
  rcases run_createIn (Prog.run_eq (createIn t values) c) with
    ⟨-, -, hsame⟩ | ⟨v, hvalues, ⟨rowid, db, hi, -, hafter⟩ | ⟨-, -, hsame⟩⟩
  · rw [hsame]
    exact h
  · rw [hafter]
    exact (Database.forall_mem_insert hi).mpr ⟨h, hv v hvalues⟩
  · rw [hsame]
    exact h

theorem createIn_rows_of_ne {t u : Table} {values : Option (Columns t)} (hu : u ≠ t)
    (c : Connection) : ((createIn t values).after c).db.rows u = c.db.rows u := by
  rcases run_createIn (Prog.run_eq (createIn t values) c) with
    ⟨-, -, hsame⟩ | ⟨v, -, ⟨rowid, db, hi, -, hafter⟩ | ⟨-, -, hsame⟩⟩
  · rw [hsame]
  · rw [hafter]
    exact Database.insert_rows_of_ne hi hu
  · rw [hsame]

/-- What every clause keeps, `update` keeps true of all rows. -/
theorem updateIn_keeps {t : Table} {P : Columns t → Prop} {id : Option Int}
    {setClauses : List (Columns t → Columns t)}
    (hset : ∀ set ∈ setClauses, ∀ cols, P cols → P (set cols)) {c : Connection}
    (h : ∀ row ∈ c.db.rows t, P row.cols) :
    ∀ row ∈ ((updateIn t id setClauses).after c).db.rows t, P row.cols := by
  rcases run_updateIn (Prog.run_eq (updateIn t id setClauses) c) with
    ⟨-, hsame⟩ | ⟨i, affected, db, -, -, hupd, -, hafter⟩
  · rw [hsame]
    exact h
  · rw [hafter, Database.updateById_rows_self hupd]
    exact Database.forall_mem_updateRow h fun cols => applyAll_induction hset

theorem updateIn_rows_of_ne {t u : Table} {id : Option Int}
    {setClauses : List (Columns t → Columns t)} (hu : u ≠ t) (c : Connection) :
    ((updateIn t id setClauses).after c).db.rows u = c.db.rows u := by
  rcases run_updateIn (Prog.run_eq (updateIn t id setClauses) c) with
    ⟨-, hsame⟩ | ⟨i, affected, db, -, -, hupd, -, hafter⟩
  · rw [hsame]
  · rw [hafter]
    exact Database.updateById_rows_of_ne hupd hu

/-- What every UPDATE of the row does, `update` does, in the whole and where it is cut off. -/
theorem within_updateIn {R : Connection → Connection → Prop} (hrefl : ∀ c, R c c)
    (htrans : ∀ c c₁ c', R c c₁ → R c₁ c' → R c c') {t : Table} {i : Int}
    {setClauses : List (Columns t → Columns t)}
    (hupdate : ∀ c affected db, c.db.updateById t i (applyAll setClauses) = some (affected, db) →
      R c { c with db := db }) : Prog.Within R (updateIn t (some i) setClauses) := by
  unfold updateIn
  dsimp only
  split
  · exact Prog.within_done hrefl _
  refine Prog.Within.tryCatch htrans (Prog.Within.bind htrans ?_ fun affected => ?_) fun e => ?_
  · refine Prog.within_atomic hrefl fun c => ?_
    cases hupd : c.db.updateById t i (applyAll setClauses) with
    | none => exact hrefl c
    | some updated => exact hupdate c updated.1 updated.2 hupd
  · exact Prog.within_done hrefl _
  · exact Prog.within_done hrefl _

/-- `remove` deletes the row with that id and what hangs on it, and says whether there was one. -/
theorem run_removeIn (t : Table) (id : Int) (c : Connection) :
    (removeIn t id).run c =
      if id ≤ 0 then (.ok false, c)
      else (.ok (decide (0 < (c.db.deleteById t id).1)),
        { c with db := (c.db.deleteById t id).2 }) := by
  unfold removeIn
  split <;> rfl

end Farado
