import Farado.Lib.Relational.Schema

/-!
# Databases and single-row statements

A `Database` is the contents of all tables together with the proof that the schema's constraints
hold of them, so a statement that would break one has no result. `insert` and `updateById` are the
statements `INSERT INTO t (…) VALUES (…)` and `UPDATE t SET … WHERE id = …`; the engine checks
foreign keys at the end of the statement, so a new row may reference itself.
-/

namespace Relational

variable {S : Schema}

/-- The contents of a database: rows, AUTOINCREMENT counters, and the constraints they satisfy. -/
structure Database (S : Schema) where
  rows : Tables S
  seq : S.Table → Nat
  integral : Integral rows seq

namespace Database

/-- The database without rows. -/
def empty (S : Schema) : Database S where
  rows := fun _ => []
  seq := fun _ => 0
  integral := by constructor <;> simp

/-- The ids of a table. -/
def ids (db : Database S) (t : S.Table) : List Int := (db.rows t).map (·.id)

theorem mem_ids {db : Database S} {t : S.Table} {i : Int} :
    i ∈ db.ids t ↔ ∃ r ∈ db.rows t, r.id = i := List.mem_map

theorem not_mem_ids_of_empty {db : Database S} {t : S.Table} (h : ∀ r, r ∉ db.rows t) (i : Int) :
    i ∉ db.ids t := by
  intro hi
  obtain ⟨r, hr, -⟩ := mem_ids.mp hi
  exact h r hr

/-- The id AUTOINCREMENT gives to the next row of `t`. -/
def nextId (db : Database S) (t : S.Table) : Int := (db.seq t : Int) + 1

theorem nextId_pos (db : Database S) (t : S.Table) : 0 < db.nextId t := by
  unfold nextId; omega

/-- The next id is used by no row. -/
theorem id_lt_nextId {db : Database S} {t : S.Table} {r : Record S t} (h : r ∈ db.rows t) :
    r.id < db.nextId t := by
  have := db.integral.ids_le_seq t r h
  unfold nextId; omega

/-! ## Lookup by id -/

/-- The row with the given id. -/
def find (db : Database S) (t : S.Table) (i : Int) : Option (Record S t) :=
  (db.rows t).find? fun r => r.id == i

theorem find_eq_some {db : Database S} {t : S.Table} {i : Int} {r : Record S t} :
    db.find t i = some r ↔ r ∈ db.rows t ∧ r.id = i := by
  constructor
  · intro h
    exact ⟨List.mem_of_find?_eq_some h, by simpa using List.find?_some h⟩
  · rintro ⟨hr, rfl⟩
    cases h : db.find t r.id with
    | none =>
      have := List.find?_eq_none.mp h r hr
      simp at this
    | some r' =>
      have hr' : r' ∈ db.rows t := List.mem_of_find?_eq_some h
      have hid : r'.id = r.id := by simpa using List.find?_some h
      rw [db.integral.eq_of_id hr' hr hid]

/-- A table has one row with a given id, if any. -/
theorem filter_id_eq {db : Database S} {t : S.Table} {r : Record S t} (hr : r ∈ db.rows t) :
    (db.rows t).filter (fun q => q.id == r.id) = [r] := by
  have hnodup := db.integral.ids_nodup t
  generalize db.rows t = rows at hr hnodup
  induction rows with
  | nil => cases hr
  | cons x rows ih =>
    rw [List.map_cons, List.nodup_cons] at hnodup
    obtain ⟨hx, hnodup⟩ := hnodup
    -- ids are distinct: the rest has no such row, or the head is another one
    rcases List.mem_cons.mp hr with rfl | hr
    · have hrest : rows.filter (fun q => q.id == r.id) = [] := by
        rw [List.filter_eq_nil_iff]
        intro q hq hid
        exact hx (List.mem_map.mpr ⟨q, hq, by simpa using hid⟩)
      simp [hrest]
    · have hne : x.id ≠ r.id := fun hid => hx (hid ▸ List.mem_map_of_mem hr)
      simp [hne, ih hr hnodup]

/-! ## INSERT -/

/-- The rows after the insertion of a row with the columns `c`, before any constraint is checked. -/
def insertRows (db : Database S) (t : S.Table) (c : S.Columns t) : Tables S :=
  Function.update db.rows t (db.rows t ++ [⟨db.nextId t, c⟩])

/-- The constraints on a new row. -/
def admits (db : Database S) (t : S.Table) (c : S.Columns t) : Bool :=
  S.check t c && (db.rows t).all (fun r => !S.conflict t c r.cols) &&
    refsResolve (db.insertRows t c) t c

theorem mem_insertRows {db : Database S} {t u : S.Table} {c : S.Columns t} {r : Record S u}
    (h : r ∈ db.insertRows t c u) :
    r ∈ db.rows u ∨ ∃ e : u = t, e ▸ r = ⟨db.nextId t, c⟩ := by
  by_cases e : u = t
  · subst e
    simp only [insertRows, Function.update_self, List.mem_append, List.mem_singleton] at h
    rcases h with h | h
    · exact .inl h
    · exact .inr ⟨rfl, h⟩
  · rw [insertRows, Function.update_of_ne e] at h
    exact .inl h

theorem mem_insertRows_of_mem {db : Database S} {t u : S.Table} {c : S.Columns t} {r : Record S u}
    (h : r ∈ db.rows u) : r ∈ db.insertRows t c u := by
  by_cases e : u = t
  · subst e
    simp [insertRows, h]
  · rwa [insertRows, Function.update_of_ne e]

theorem integral_insert (db : Database S) (t : S.Table) (c : S.Columns t)
    (h : db.admits t c = true) :
    Integral (db.insertRows t c) (Function.update db.seq t (db.seq t + 1)) := by
  simp only [admits, Bool.and_eq_true, List.all_eq_true, Bool.not_eq_true'] at h
  obtain ⟨⟨hcheck, hconf⟩, hrefs⟩ := h
  have hseq : ∀ u, db.seq u ≤ Function.update db.seq t (db.seq t + 1) u := by
    intro u
    by_cases e : u = t
    · subst e; simp
    · simp [Function.update_of_ne e]
  constructor
  case ids_nodup =>
    intro u
    by_cases e : u = t
    · subst e
      simp only [insertRows, Function.update_self, List.map_append, List.map_cons, List.map_nil]
      rw [List.nodup_append]
      refine ⟨db.integral.ids_nodup u, List.nodup_singleton _, ?_⟩
      intro a ha b hb
      obtain ⟨r, hr, rfl⟩ := List.mem_map.mp ha
      rw [List.mem_singleton.mp hb]
      exact Int.ne_of_lt (id_lt_nextId hr)
    · rw [insertRows, Function.update_of_ne e]
      exact db.integral.ids_nodup u
  case ids_le_seq =>
    intro u r hr
    rcases mem_insertRows hr with hr | ⟨rfl, rfl⟩
    · have h1 := db.integral.ids_le_seq u r hr
      have h2 := hseq u
      omega
    · simp [nextId]
  case refs =>
    intro u r hr
    rcases mem_insertRows hr with hr | ⟨rfl, rfl⟩
    · -- the references of the old rows still resolve: no row has gone
      refine refsResolve_mono ?_ (db.integral.refs u r hr)
      intro v q hq
      exact ⟨q, mem_insertRows_of_mem hq, rfl⟩
    · exact hrefs
  case unique =>
    intro u
    by_cases e : u = t
    · subst e
      simp only [insertRows, Function.update_self]
      rw [List.pairwise_append]
      refine ⟨db.integral.unique u, List.pairwise_singleton _ _, ?_⟩
      intro a ha b hb
      rw [List.mem_singleton.mp hb, S.conflict_comm]
      exact hconf a ha
    · rw [insertRows, Function.update_of_ne e]
      exact db.integral.unique u
  case checked =>
    intro u r hr
    rcases mem_insertRows hr with hr | ⟨rfl, rfl⟩
    · exact db.integral.checked u r hr
    · exact hcheck

/-- `INSERT INTO t (…) VALUES (…)`: the id of the new row and the new database, or nothing when a
constraint forbids the row. -/
def insert (db : Database S) (t : S.Table) (c : S.Columns t) : Option (Int × Database S) :=
  if h : db.admits t c = true then
    some (db.nextId t, ⟨db.insertRows t c, _, db.integral_insert t c h⟩)
  else none

/-- What an insertion does, in full. -/
theorem insert_eq_some {db db' : Database S} {t : S.Table} {c : S.Columns t} {i : Int}
    (h : db.insert t c = some (i, db')) :
    i = db.nextId t ∧ db.admits t c = true ∧ db'.rows = db.insertRows t c ∧
      db'.seq = Function.update db.seq t (db.seq t + 1) := by
  unfold insert at h
  split at h
  · next hadm =>
    obtain ⟨rfl, rfl⟩ : db.nextId t = i ∧ _ = db' := by simpa using h
    exact ⟨rfl, hadm, rfl, rfl⟩
  · cases h

theorem insert_rows_self {db db' : Database S} {t : S.Table} {c : S.Columns t} {i : Int}
    (h : db.insert t c = some (i, db')) : db'.rows t = db.rows t ++ [⟨i, c⟩] := by
  obtain ⟨rfl, -, hrows, -⟩ := insert_eq_some h
  simp [hrows, insertRows]

theorem insert_rows_of_ne {db db' : Database S} {t u : S.Table} {c : S.Columns t} {i : Int}
    (h : db.insert t c = some (i, db')) (hu : u ≠ t) : db'.rows u = db.rows u := by
  obtain ⟨-, -, hrows, -⟩ := insert_eq_some h
  rw [hrows, insertRows, Function.update_of_ne hu]

theorem insert_id_pos {db db' : Database S} {t : S.Table} {c : S.Columns t} {i : Int}
    (h : db.insert t c = some (i, db')) : 0 < i := by
  rw [(insert_eq_some h).1]
  exact db.nextId_pos t

/-- What holds of all rows after an insertion. -/
theorem forall_mem_insert {db db' : Database S} {t : S.Table} {c : S.Columns t} {i : Int}
    (h : db.insert t c = some (i, db')) {P : Record S t → Prop} :
    (∀ r ∈ db'.rows t, P r) ↔ (∀ r ∈ db.rows t, P r) ∧ P ⟨i, c⟩ := by
  rw [insert_rows_self h, List.forall_mem_append, List.forall_mem_singleton]

/-- The new row's id is new: a row with the id of an old one was there before. -/
theorem mem_of_mem_insert {db db' : Database S} {t : S.Table} {c : S.Columns t} {i : Int}
    (h : db.insert t c = some (i, db')) {r q : Record S t} (hr : r ∈ db'.rows t)
    (hq : q ∈ db.rows t) (hid : q.id = r.id) : r ∈ db.rows t := by
  rw [insert_rows_self h] at hr
  rcases List.mem_append.mp hr with hr | hr
  · exact hr
  · rw [List.mem_singleton.mp hr] at hid
    have hnew : q.id = db.nextId t := hid.trans (insert_eq_some h).1
    have hlt := id_lt_nextId hq
    omega

/-- The new row shows. -/
theorem ne_of_insert {db db' : Database S} {t : S.Table} {c : S.Columns t} {i : Int}
    (h : db.insert t c = some (i, db')) : db' ≠ db := by
  rintro rfl
  have hlength := congrArg List.length (insert_rows_self h)
  rw [List.length_append, List.length_singleton] at hlength
  omega

theorem seq_le_of_insert {db db' : Database S} {t : S.Table} {c : S.Columns t} {i : Int}
    (h : db.insert t c = some (i, db')) (u : S.Table) : db.seq u ≤ db'.seq u := by
  rw [(insert_eq_some h).2.2.2, Function.update_apply]
  split
  · next hu =>
    subst hu
    omega
  · omega

/-- AUTOINCREMENT does not give an id away twice. -/
theorem mem_ids_insert_iff {db db' : Database S} {t u : S.Table} {c : S.Columns t} {i n : Int}
    (h : db.insert t c = some (i, db')) (hn : n ≤ db.seq u) : n ∈ db'.ids u ↔ n ∈ db.ids u := by
  by_cases hu : u = t
  · subst hu
    have hi : i = db.seq u + 1 := (insert_eq_some h).1
    have hne : n ≠ i := by omega
    simp [ids, insert_rows_self h, hne]
  · rw [ids, ids, insert_rows_of_ne h hu]

theorem find_insert_self {db db' : Database S} {t : S.Table} {c : S.Columns t} {i : Int}
    (h : db.insert t c = some (i, db')) : db'.find t i = some ⟨i, c⟩ := by
  rw [find_eq_some, insert_rows_self h]
  simp

theorem find_insert_of_ne {db db' : Database S} {t : S.Table} {c : S.Columns t} {i j : Int}
    (h : db.insert t c = some (i, db')) (hj : j ≠ i) : db'.find t j = db.find t j := by
  unfold find
  rw [insert_rows_self h, List.find?_append]
  simp [Ne.symm hj]

/-! ## UPDATE … WHERE id = … -/

/-- The row `r` after `SET f WHERE id = i`. -/
def updateRow {t : S.Table} (i : Int) (f : S.Columns t → S.Columns t) (r : Record S t) :
    Record S t :=
  if r.id = i then ⟨r.id, f r.cols⟩ else r

@[simp] theorem updateRow_id {t : S.Table} (i : Int) (f : S.Columns t → S.Columns t)
    (r : Record S t) : (updateRow i f r).id = r.id := by
  unfold updateRow; split <;> rfl

/-- What `f` leaves alone, the update leaves alone. -/
theorem updateRow_keeps {t : S.Table} {β : Type} {g : S.Columns t → β} {i : Int}
    {f : S.Columns t → S.Columns t} (hf : ∀ c, g (f c) = g c) (r : Record S t) :
    g (updateRow i f r).cols = g r.cols := by
  unfold updateRow
  split
  · exact hf r.cols
  · rfl

/-- What holds of all rows and is kept by `f` holds of all rows after the update. -/
theorem forall_mem_updateRow {t : S.Table} {P : S.Columns t → Prop} {l : List (Record S t)}
    {i : Int} {f : S.Columns t → S.Columns t} (h : ∀ r ∈ l, P r.cols) (hf : ∀ c, P c → P (f c)) :
    ∀ r ∈ l.map (updateRow i f), P r.cols := by
  intro r hr
  obtain ⟨q, hq, rfl⟩ := List.mem_map.mp hr
  unfold updateRow
  split
  · exact hf q.cols (h q hq)
  · exact h q hq

/-- The rows after an update, before any constraint is checked. -/
def updateRows (db : Database S) (t : S.Table) (i : Int) (f : S.Columns t → S.Columns t) :
    Tables S :=
  Function.update db.rows t ((db.rows t).map (updateRow i f))

/-- The constraints on the changed row. -/
def admitsUpdate (db : Database S) (t : S.Table) (i : Int) (f : S.Columns t → S.Columns t) : Bool :=
  (db.rows t).all fun r =>
    r.id != i ||
      (S.check t (f r.cols) &&
        (db.rows t).all (fun q => q.id == i || !S.conflict t (f r.cols) q.cols) &&
        refsResolve (db.updateRows t i f) t (f r.cols))

theorem admitsUpdate_iff {db : Database S} {t : S.Table} {i : Int}
    {f : S.Columns t → S.Columns t} :
    db.admitsUpdate t i f = true ↔ ∀ r ∈ db.rows t, r.id = i →
      S.check t (f r.cols) = true ∧
      (∀ q ∈ db.rows t, q.id ≠ i → S.conflict t (f r.cols) q.cols = false) ∧
      refsResolve (db.updateRows t i f) t (f r.cols) = true := by
  simp only [admitsUpdate, List.all_eq_true, Bool.or_eq_true, Bool.and_eq_true, bne_iff_ne,
    beq_iff_eq, Bool.not_eq_true']
  constructor
  · intro h r hr hid
    obtain ⟨⟨h1, h2⟩, h3⟩ := (h r hr).resolve_left (fun hne => hne hid)
    exact ⟨h1, fun q hq hne => (h2 q hq).resolve_left hne, h3⟩
  · intro h r hr
    by_cases hid : r.id = i
    · obtain ⟨h1, h2, h3⟩ := h r hr hid
      refine .inr ⟨⟨h1, fun q hq => ?_⟩, h3⟩
      by_cases hq' : q.id = i
      · exact .inl hq'
      · exact .inr (h2 q hq hq')
    · exact .inl hid

theorem mem_updateRows {db : Database S} {t u : S.Table} {i : Int}
    {f : S.Columns t → S.Columns t} {r : Record S u} (h : r ∈ db.updateRows t i f u) :
    r ∈ db.rows u ∨ ∃ e : u = t, ∃ q ∈ db.rows t, q.id = i ∧ e ▸ r = ⟨q.id, f q.cols⟩ := by
  by_cases e : u = t
  · subst e
    simp only [updateRows, Function.update_self] at h
    obtain ⟨q, hq, rfl⟩ := List.mem_map.mp h
    by_cases hid : q.id = i
    · exact .inr ⟨rfl, q, hq, hid, by simp [updateRow, hid]⟩
    · exact .inl (by simpa [updateRow, hid] using hq)
  · rw [updateRows, Function.update_of_ne e] at h
    exact .inl h

theorem updateRows_ids {db : Database S} {t u : S.Table} {i : Int}
    {f : S.Columns t → S.Columns t} : (db.updateRows t i f u).map (·.id) = db.ids u := by
  by_cases e : u = t
  · subst e
    simp only [updateRows, Function.update_self, List.map_map]
    exact List.map_congr_left fun r _ => updateRow_id i f r
  · rw [updateRows, Function.update_of_ne e]
    rfl

/-- An update that leaves alone what the constraints are about is admitted. -/
theorem admitsUpdate_of_keeps {db : Database S} {t : S.Table} {i : Int}
    {f : S.Columns t → S.Columns t} (hcheck : ∀ c, S.check t (f c) = S.check t c)
    (hconflict : ∀ c d, S.conflict t (f c) d = S.conflict t c d)
    (hcolumn : ∀ fk ∈ S.foreignKeys t, ∀ c, fk.column (f c) = fk.column c) :
    db.admitsUpdate t i f = true := by
  rw [admitsUpdate_iff]
  intro r hr hid
  refine ⟨?_, ?_, ?_⟩
  · rw [hcheck]
    exact db.integral.checked t r hr
  · intro q hq hne
    rw [hconflict]
    exact db.integral.no_conflict hr hq fun heq => hne (heq ▸ hid)
  · rw [refsResolve_iff]
    intro fk hfk p hp
    rw [hcolumn fk hfk] at hp
    obtain ⟨q, hq, rfl⟩ := refsResolve_iff.mp (db.integral.refs t r hr) fk hfk p hp
    -- an update gives nobody a new id
    have hmem : q.id ∈ (db.updateRows t i f fk.parent).map (·.id) := by
      rw [updateRows_ids]
      exact mem_ids.mpr ⟨q, hq, rfl⟩
    exact List.mem_map.mp hmem

theorem integral_update (db : Database S) (t : S.Table) (i : Int)
    (f : S.Columns t → S.Columns t) (h : db.admitsUpdate t i f = true) :
    Integral (db.updateRows t i f) db.seq := by
  rw [admitsUpdate_iff] at h
  constructor
  case ids_nodup =>
    intro u
    rw [updateRows_ids]
    exact db.integral.ids_nodup u
  case ids_le_seq =>
    intro u r hr
    rcases mem_updateRows hr with hr | ⟨rfl, q, hq, -, rfl⟩
    · exact db.integral.ids_le_seq u r hr
    · exact db.integral.ids_le_seq u q hq
  case refs =>
    intro u r hr
    rcases mem_updateRows hr with hr | ⟨rfl, q, hq, hid, rfl⟩
    · refine refsResolve_mono ?_ (db.integral.refs u r hr)
      intro v q hq
      have : q.id ∈ (db.updateRows t i f v).map (·.id) := by
        rw [updateRows_ids]
        exact List.mem_map_of_mem hq
      exact List.mem_map.mp this
    · exact (h q hq hid).2.2
  case unique =>
    intro u
    by_cases e : u = t
    · subst e
      simp only [updateRows, Function.update_self]
      rw [List.pairwise_map]
      -- the changed row was compared with the rows of other ids only, so these have to differ
      have hne : (db.rows u).Pairwise fun a b => a.id ≠ b.id :=
        List.pairwise_map.mp (db.integral.ids_nodup u)
      apply (hne.and (db.integral.unique u)).imp_of_mem
      rintro a b ha hb ⟨hab, hconf⟩
      unfold updateRow
      split <;> split
      · next h1 h2 => exact absurd (h1.trans h2.symm) hab
      · next h1 h2 => exact (h a ha h1).2.1 b hb h2
      · next h1 h2 =>
        rw [S.conflict_comm]
        exact (h b hb h2).2.1 a ha h1
      · exact hconf
    · rw [updateRows, Function.update_of_ne e]
      exact db.integral.unique u
  case checked =>
    intro u r hr
    rcases mem_updateRows hr with hr | ⟨rfl, q, hq, hid, rfl⟩
    · exact db.integral.checked u r hr
    · exact (h q hq hid).1

/-- `UPDATE t SET f WHERE id = i`: the number of changed rows and the new database, or nothing when
a constraint forbids the change. -/
def updateById (db : Database S) (t : S.Table) (i : Int) (f : S.Columns t → S.Columns t) :
    Option (Int × Database S) :=
  if h : db.admitsUpdate t i f = true then
    some (((db.rows t).filter (fun r => r.id == i)).length,
      ⟨db.updateRows t i f, _, db.integral_update t i f h⟩)
  else none

/-- What an update does, in full. -/
theorem updateById_eq_some {db db' : Database S} {t : S.Table} {i n : Int}
    {f : S.Columns t → S.Columns t} (h : db.updateById t i f = some (n, db')) :
    db.admitsUpdate t i f = true ∧ db'.rows = db.updateRows t i f ∧ db'.seq = db.seq ∧
      (0 < n ↔ i ∈ db.ids t) := by
  unfold updateById at h
  split at h
  · next hadm =>
    obtain ⟨rfl, rfl⟩ : _ = n ∧ _ = db' := by simpa using h
    refine ⟨hadm, rfl, rfl, ?_⟩
    rw [Int.natCast_pos, List.length_pos_iff_exists_mem, mem_ids]
    simp
  · cases h

theorem updateById_rows_of_ne {db db' : Database S} {t u : S.Table} {i n : Int}
    {f : S.Columns t → S.Columns t} (h : db.updateById t i f = some (n, db')) (hu : u ≠ t) :
    db'.rows u = db.rows u := by
  obtain ⟨-, hrows, -, -⟩ := updateById_eq_some h
  rw [hrows, updateRows, Function.update_of_ne hu]

theorem updateById_rows_self {db db' : Database S} {t : S.Table} {i n : Int}
    {f : S.Columns t → S.Columns t} (h : db.updateById t i f = some (n, db')) :
    db'.rows t = (db.rows t).map (updateRow i f) := by
  obtain ⟨-, hrows, -, -⟩ := updateById_eq_some h
  simp [hrows, updateRows]

theorem find_updateById {db db' : Database S} {t : S.Table} {i n : Int}
    {f : S.Columns t → S.Columns t} (h : db.updateById t i f = some (n, db')) (j : Int) :
    db'.find t j = (db.find t j).map (updateRow i f) := by
  have hid : ((fun r : Record S t => r.id == j) ∘ updateRow i f) = fun r => r.id == j := by
    funext r
    rw [Function.comp_apply, updateRow_id]
  unfold find
  rw [updateById_rows_self h, List.find?_map, hid]

/-- An update that would write into a row what is there already changes nothing, and no other update
of a row does. -/
theorem updateById_eq_self_iff {db : Database S} {t : S.Table} {row : Record S t}
    (hrow : row ∈ db.rows t) {f : S.Columns t → S.Columns t} :
    (∃ n, db.updateById t row.id f = some (n, db)) ↔ f row.cols = row.cols := by
  constructor
  · rintro ⟨n, h⟩
    have hmap : (db.rows t).map (updateRow row.id f) = (db.rows t).map id := by
      rw [List.map_id]
      exact (updateById_rows_self h).symm
    have hself := List.map_inj_left.mp hmap row hrow
    rw [updateRow, if_pos rfl] at hself
    exact congrArg Record.cols hself
  · intro hfix
    have hone : ∀ r ∈ db.rows t, r.id = row.id → r = row := fun r hr => db.integral.eq_of_id hr hrow
    have hself : db.updateRows t row.id f = db.rows := by
      unfold updateRows
      rw [Function.update_eq_self_iff]
      refine (List.map_congr_left fun r hr => ?_).trans (List.map_id _)
      unfold updateRow
      split
      · next hid =>
        obtain rfl := hone r hr hid
        rw [hfix]
        rfl
      · rfl
    have hadm : db.admitsUpdate t row.id f = true := by
      rw [admitsUpdate_iff]
      intro r hr hid
      obtain rfl := hone r hr hid
      rw [hfix, hself]
      exact ⟨db.integral.checked t r hr,
        fun q hq hne => db.integral.no_conflict hr hq fun heq => hne (heq ▸ rfl),
        db.integral.refs t r hr⟩
    refine ⟨((db.rows t).filter fun r => r.id == row.id).length, ?_⟩
    unfold updateById
    rw [dif_pos hadm]
    simp only [hself]

end Database

end Relational
