import Farado.Lib.Relational.Cascade
import Mathlib.Logic.Relation

/-!
# What insertions add and what deletions leave

`Inserts` are insertions one after the other: the rows that were there keep their places
(`Inserts.isPrefix`). If a database has another one as such a prefix, a deletion that matches no row
of the part **leaves the part as it is** (`prefix_deleteWhere`): its rows reference only each other.

`Left db' db` says that the rows of `db'` are rows of `db` that may have lost references. It holds of
any sequence of deletions, and a row that goes later would have gone at once (`Doomed.of_left`).
-/

namespace Relational

variable {S : Schema}

namespace Database

/-! ## Insertions -/

/-- One row of the allowed ones is inserted. -/
def InsertsOne (allowed : (t : S.Table) → S.Columns t → Prop) (db db' : Database S) : Prop :=
  ∃ t c i, allowed t c ∧ db.insert t c = some (i, db')

/-- Rows of the allowed ones are inserted, one after the other. -/
def Inserts (allowed : (t : S.Table) → S.Columns t → Prop) : Database S → Database S → Prop :=
  Relation.ReflTransGen (InsertsOne allowed)

theorem insert_keeps {db db' : Database S} {t : S.Table} {c : S.Columns t} {i : Int}
    (h : db.insert t c = some (i, db')) (u : S.Table) : db.rows u <+: db'.rows u := by
  by_cases hu : u = t
  · subst hu
    rw [insert_rows_self h]
    exact List.prefix_append _ _
  · have hsame : db'.rows u = db.rows u := insert_rows_of_ne h hu
    exact hsame ▸ List.prefix_refl _

section
variable {allowed : (t : S.Table) → S.Columns t → Prop} {db db' : Database S}

theorem Inserts.isPrefix (h : Inserts allowed db db') (t : S.Table) :
    db.rows t <+: db'.rows t := by
  induction h with
  | refl => exact List.prefix_refl _
  | tail _ hone ih =>
    obtain ⟨_, _, _, -, hinsert⟩ := hone
    exact ih.trans (insert_keeps hinsert t)

/-- A row is old or an allowed one. -/
theorem Inserts.mem (h : Inserts allowed db db') {t : S.Table} {r : Record S t}
    (hr : r ∈ db'.rows t) : r ∈ db.rows t ∨ allowed t r.cols := by
  induction h with
  | refl => exact .inl hr
  | @tail db₁ db₂ _ hone ih =>
    obtain ⟨u, c, i, hallowed, hinsert⟩ := hone
    by_cases htu : t = u
    · subst htu
      rw [insert_rows_self hinsert] at hr
      rcases List.mem_append.mp hr with hr | hr
      · exact ih hr
      · rw [List.mem_singleton.mp hr]
        exact .inr hallowed
    · rw [insert_rows_of_ne hinsert htu] at hr
      exact ih hr

end

/-! ## A part that is left alone -/

section
variable {base db : Database S}

/-- A row of the part is the only one with its id. -/
theorem mem_base_of_id (h : ∀ t, base.rows t <+: db.rows t) {t : S.Table} {r : Record S t}
    (hr : r ∈ db.rows t) (hid : r.id ∈ base.ids t) : r ∈ base.rows t := by
  obtain ⟨q, hq, hqid⟩ := mem_ids.mp hid
  rw [← db.integral.eq_of_id ((h t).subset hq) hr hqid]
  exact hq

/-- The references of the part stay in it, so no deletion outside reaches it. -/
theorem not_doomed_of_part {roots : S.Table → Int → Bool} (h : ∀ t, base.rows t <+: db.rows t)
    (hroots : ∀ t, ∀ i ∈ base.ids t, roots t i = false) {t : S.Table} {i : Int}
    (hi : i ∈ base.ids t) : ¬ db.Doomed roots t i := by
  intro hdoomed
  induction hdoomed with
  | root hroot =>
    rw [hroots _ _ hi] at hroot
    cases hroot
  | @cascade t r fk p hr hfk _ hp _ ih =>
    have hbase := mem_base_of_id h hr hi
    have hparent := refsResolve_iff.mp (base.integral.refs t r hbase) fk hfk p hp
    exact ih (mem_ids.mpr hparent)

theorem prefix_remaining {roots : S.Table → Int → Bool} (h : ∀ t, base.rows t <+: db.rows t)
    (hroots : ∀ t, ∀ i ∈ base.ids t, roots t i = false) (t : S.Table) :
    base.rows t <+: db.remaining roots t := by
  have hgone : ∀ {u : S.Table} {i : Int}, i ∈ base.ids u → db.gone roots u i = false := by
    intro u i hi
    have hkept := not_doomed_of_part h hroots hi
    rw [← gone_iff_doomed] at hkept
    simpa using hkept
  obtain ⟨rest, hrest⟩ := h t
  have hfilter : (base.rows t).filter (fun r => !db.gone roots t r.id) = base.rows t := by
    rw [List.filter_eq_self]
    intro r hr
    rw [hgone (mem_ids.mpr ⟨r, hr, rfl⟩)]
    rfl
  have hmap : (base.rows t).map (fun r => (⟨r.id, clearRefs (db.gone roots) r.cols⟩ : Record S t)) =
      base.rows t := by
    conv_rhs => rw [← List.map_id (base.rows t)]
    apply List.map_congr_left
    intro r hr
    rw [clearRefs_eq_self]
    · rfl
    · intro fk hfk _ p hp
      exact hgone (mem_ids.mpr (refsResolve_iff.mp (base.integral.refs t r hr) fk hfk p hp))
  unfold remaining
  rw [← hrest, List.filter_append, List.map_append, hfilter, hmap]
  exact List.prefix_append _ _

/-- **A deletion that matches no row of a part leaves the part alone.** -/
theorem prefix_deleteWhere {t : S.Table} {p : Record S t → Bool}
    (h : ∀ u, base.rows u <+: db.rows u) (hp : ∀ r ∈ base.rows t, p r = false) (u : S.Table) :
    base.rows u <+: (db.deleteWhere t p).2.rows u := by
  apply prefix_remaining h
  intro v i hi
  apply Bool.eq_false_iff.mpr
  intro hroot
  obtain ⟨rfl, r, hr, hpr, rfl⟩ := rootsOf_iff.mp hroot
  rw [hp r (mem_base_of_id h hr hi)] at hpr
  cases hpr

end

/-! ## Several deletions -/

/-- Every row of `db'` is a row of `db`, perhaps with fewer references. -/
def Left (db' db : Database S) : Prop :=
  ∀ t, ∀ r' ∈ db'.rows t, ∃ r ∈ db.rows t, r.id = r'.id ∧
    ∀ fk ∈ S.foreignKeys t, ∀ p, fk.column r'.cols = some p → fk.column r.cols = some p

theorem left_refl (db : Database S) : Left db db :=
  fun _ r hr => ⟨r, hr, rfl, fun _ _ _ h => h⟩

theorem Left.trans {db db' db'' : Database S} (h : Left db'' db') (h' : Left db' db) :
    Left db'' db := by
  intro t r'' hr''
  obtain ⟨r', hr', hid', hrefs'⟩ := h t r'' hr''
  obtain ⟨r, hr, hid, hrefs⟩ := h' t r' hr'
  exact ⟨r, hr, hid.trans hid', fun fk hfk p hp => hrefs fk hfk p (hrefs' fk hfk p hp)⟩

theorem left_deleteWhere (db : Database S) (t : S.Table) (p : Record S t → Bool) :
    Left (db.deleteWhere t p).2 db := by
  intro u r' hr'
  rw [deleteWhere_rows] at hr'
  obtain ⟨r, hr, -, rfl⟩ := mem_remaining.mp hr'
  refine ⟨r, hr, rfl, ?_⟩
  intro fk hfk i hi
  rcases clearRefs_column (db.gone (db.rootsOf t p)) hfk r.cols with hsame | hnull
  · rw [← hsame]
    exact hi
  · rw [hnull] at hi
    cases hi

theorem Left.ids {db db' : Database S} (h : Left db' db) {t : S.Table} {i : Int}
    (hi : i ∈ db'.ids t) : i ∈ db.ids t := by
  obtain ⟨r', hr', rfl⟩ := mem_ids.mp hi
  obtain ⟨r, hr, hid, -⟩ := h t r' hr'
  exact mem_ids.mpr ⟨r, hr, hid⟩

/-- What is doomed later is doomed before. -/
theorem Doomed.of_left {db db' : Database S} (hleft : Left db' db)
    {roots roots' : S.Table → Int → Bool} (hroots : ∀ t i, roots t i = true → db.Doomed roots' t i)
    {t : S.Table} {i : Int} (h : db'.Doomed roots t i) : db.Doomed roots' t i := by
  induction h with
  | root h => exact hroots _ _ h
  | cascade hr' hfk hcascades hp _ ih =>
    obtain ⟨r, hr, hid, hrefs⟩ := hleft _ _ hr'
    rw [← hid]
    exact .cascade hr hfk hcascades (hrefs _ hfk _ hp) ih

/-- One more deletion takes only what is doomed, if its own rows are. -/
theorem doomed_of_deleteWhere {db db' : Database S} (hleft : Left db' db)
    {roots : S.Table → Int → Bool} {t : S.Table} {p : Record S t → Bool}
    (hp : ∀ r ∈ db'.rows t, p r = true → db.Doomed roots t r.id) {u : S.Table} {i : Int}
    (hi : i ∈ db'.ids u) (hgone : i ∉ (db'.deleteWhere t p).2.ids u) : db.Doomed roots u i := by
  obtain ⟨r, hr, rfl⟩ := mem_ids.mp hi
  by_cases hdoomed : db'.Doomed (db'.rootsOf t p) u r.id
  · apply hdoomed.of_left hleft
    intro v j hj
    obtain ⟨rfl, q, hq, hpq, rfl⟩ := rootsOf_iff.mp hj
    exact hp q hq hpq
  · exfalso
    apply hgone
    rw [mem_ids, deleteWhere_rows]
    exact ⟨_, mem_remaining.mpr ⟨r, hr, hdoomed, rfl⟩, rfl⟩

/-- No matching row is left, and none was made. -/
theorem not_matching_of_mem_deleteWhere {db : Database S} {t : S.Table} {p : Record S t → Bool}
    (hcascades : ∀ fk ∈ S.foreignKeys t, fk.cascades = true) {r : Record S t}
    (hr : r ∈ (db.deleteWhere t p).2.rows t) : p r = false := by
  have hbefore := (deleteWhere_sublist hcascades).subset hr
  rw [deleteWhere_rows, remaining_eq_filter hcascades] at hr
  have hkept := (List.mem_filter.mp hr).2
  apply Bool.eq_false_iff.mpr
  intro hpr
  have hgone : db.gone (db.rootsOf t p) t r.id = true :=
    gone_iff_doomed.mpr (.root ((rootsOf_self hbefore).mpr hpr))
  rw [hgone] at hkept
  cases hkept

end Database

end Relational
