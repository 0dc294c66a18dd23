import Farado.Lib.Relational.Cascade

/-!
# Row by row

The changes that a program makes to single rows: one is inserted, the one with an id is updated, the
one with an id is deleted and takes along what depends on it. However many such changes follow each
other, an id that was given once is not given again, and a row is what it was until a change names it
or it is gone.
-/

namespace Relational

variable {S : Schema}

/-- A change to one row. -/
inductive Change (S : Schema) where
  | insert (t : S.Table)
  | update (t : S.Table) (i : Int)
  | delete (t : S.Table) (i : Int)

namespace Change

/-- The second database is what the change makes of the first. -/
def Does (change : Change S) (db db' : Database S) : Prop :=
  match change with
  | insert t => ∃ c i, db.insert t c = some (i, db')
  | update t i => ∃ f n, db.updateById t i f = some (n, db')
  | delete t i => db' = (db.deleteById t i).2

/-- A deletion that the change is leaves no row in the table that was not there. -/
def Spares (change : Change S) (t : S.Table) : Prop :=
  ∀ u i, change = delete u i → ∀ db : Database S, (db.deleteById u i).2.rows t ⊆ db.rows t

theorem spares_of_cascades {t : S.Table} (h : ∀ fk ∈ S.foreignKeys t, fk.cascades = true)
    (change : Change S) : change.Spares t :=
  fun _ _ _ _ => (Database.deleteWhere_sublist h).subset

/-- A deletion that the change is leaves this row as it is. -/
def Leaves (change : Change S) (t : S.Table) (i : Int) : Prop :=
  ∀ u j, change = delete u j → ∀ (db : Database S), ∀ r ∈ db.rows t, r.id = i →
    r ∈ (db.deleteById u j).2.rows t

theorem leaves_of_ne_delete {t : S.Table} {i : Int} {change : Change S}
    (h : ∀ u j, change ≠ delete u j) : change.Leaves t i :=
  fun u j hdelete => absurd hdelete (h u j)

/-- A row without references only goes by its own id. -/
theorem leaves_of_no_references {t : S.Table} {i : Int} {change : Change S}
    (hfree : S.foreignKeys t = []) (h : change ≠ delete t i) : change.Leaves t i := by
  rintro u j rfl db r hr rfl
  refine Database.mem_remaining.mpr ⟨r, hr, fun hdoomed => ?_, ?_⟩
  · rw [Database.doomed_iff hr] at hdoomed
    rcases hdoomed with hroot | ⟨fk, hfk, -⟩
    · obtain ⟨rfl, q, -, hq, hid⟩ := Database.rootsOf_iff.mp hroot
      exact h (by rw [← hid, eq_of_beq hq])
    · rw [hfree] at hfk
      cases hfk
  · have hkept : Database.clearRefs (db.gone (db.rootsOf u fun r => r.id == j)) r.cols = r.cols := by
      apply Database.clearRefs_eq_self
      intro fk hfk
      rw [hfree] at hfk
      cases hfk
    rw [hkept]

/-- Where a reference can be cleared, it is the deletion of another row of the parent's table that
clears it; nothing takes rows of that table along. -/
theorem spares_of_setNull {t : S.Table} {change : Change S}
    (h : ∀ fk ∈ S.foreignKeys t, fk.cascades = false →
      (∀ fk' ∈ S.foreignKeys fk.parent, fk'.cascades = false) ∧
        ∀ i, change ≠ delete fk.parent i) : change.Spares t := by
  intro u i hdelete db r hr
  obtain ⟨q, hq, -, rfl⟩ := Database.mem_remaining.mp hr
  have hkept : Database.clearRefs (db.gone (db.rootsOf u fun r => r.id == i)) q.cols = q.cols := by
    apply Database.clearRefs_eq_self
    intro fk hfk hclears p _
    obtain ⟨hparent, hother⟩ := h fk hfk hclears
    rw [← Bool.not_eq_true, Database.gone_iff_doomed]
    intro hdoomed
    cases hdoomed with
    | root hroot =>
      obtain ⟨rfl, -⟩ := Database.rootsOf_iff.mp hroot
      exact hother i hdelete
    | cascade _ hfk' hcascades =>
      rw [hparent _ hfk'] at hcascades
      cases hcascades
  rw [hkept]
  exact hq

variable {change : Change S} {db db' : Database S}

theorem Does.seq_le (h : change.Does db db') (t : S.Table) : db.seq t ≤ db'.seq t := by
  cases change with
  | insert u =>
    obtain ⟨c, i, hi⟩ := h
    exact Database.seq_le_of_insert hi t
  | update u i =>
    obtain ⟨f, n, hupd⟩ := h
    exact Nat.le_of_eq (congrFun (Database.updateById_eq_some hupd).2.2.1 t).symm
  | delete u i =>
    obtain rfl := h
    exact Nat.le_refl _

/-- An id that is there afterwards was there or is new. -/
theorem Does.mem_ids (h : change.Does db db') {t : S.Table} {i : Int} (hi : i ∈ db'.ids t) :
    i ∈ db.ids t ∨ (db.seq t : Int) < i := by
  by_cases hle : i ≤ db.seq t
  · left
    cases change with
    | insert u =>
      obtain ⟨c, n, hinsert⟩ := h
      exact (Database.mem_ids_insert_iff hinsert hle).mp hi
    | update u n =>
      obtain ⟨f, k, hupd⟩ := h
      obtain ⟨-, hrows, -, -⟩ := Database.updateById_eq_some hupd
      rw [Database.ids, hrows, Database.updateRows_ids] at hi
      exact hi
    | delete u n =>
      obtain rfl := h
      exact Database.mem_ids_of_mem_deleteById hi
  · right
    omega

/-- A row of an id that was there is what it was, if the change does not update it. -/
theorem Does.mem_rows (h : change.Does db db') {t : S.Table} {r : Record S t}
    (hr : r ∈ db'.rows t) (hid : r.id ∈ db.ids t) (hspares : change.Spares t)
    (hother : change ≠ update t r.id) : r ∈ db.rows t := by
  cases change with
  | insert u =>
    obtain ⟨c, i, hi⟩ := h
    by_cases hu : t = u
    · subst hu
      obtain ⟨q, hq, hqid⟩ := Database.mem_ids.mp hid
      exact Database.mem_of_mem_insert hi hr hq hqid
    · rwa [Database.insert_rows_of_ne hi hu] at hr
  | update u i =>
    obtain ⟨f, n, hupd⟩ := h
    by_cases hu : t = u
    · subst hu
      rw [Database.updateById_rows_self hupd] at hr
      obtain ⟨q, hq, rfl⟩ := List.mem_map.mp hr
      rw [Database.updateRow_id] at hother
      have hne : q.id ≠ i := by
        rintro rfl
        exact hother rfl
      unfold Database.updateRow
      rwa [if_neg hne]
    · rwa [Database.updateById_rows_of_ne hupd hu] at hr
  | delete u i =>
    obtain rfl := h
    exact hspares u i rfl db hr

/-- A row stays, if the change does not update it and leaves it. -/
theorem Does.rows_mem (h : change.Does db db') {t : S.Table} {r : Record S t}
    (hr : r ∈ db.rows t) (hother : change ≠ update t r.id) (hleaves : change.Leaves t r.id) :
    r ∈ db'.rows t := by
  cases change with
  | insert u =>
    obtain ⟨c, i, hi⟩ := h
    by_cases hu : t = u
    · subst hu
      rw [Database.insert_rows_self hi]
      exact List.mem_append_left _ hr
    · rwa [Database.insert_rows_of_ne hi hu]
  | update u i =>
    obtain ⟨f, n, hupd⟩ := h
    by_cases hu : t = u
    · subst hu
      rw [Database.updateById_rows_self hupd]
      have hne : r.id ≠ i := by
        rintro rfl
        exact hother rfl
      have hsame : Database.updateRow i f r = r := by
        unfold Database.updateRow
        rw [if_neg hne]
      rw [← hsame]
      exact List.mem_map_of_mem hr
    · rwa [Database.updateById_rows_of_ne hupd hu]
  | delete u i =>
    obtain rfl := h
    exact hleaves u i rfl db r hr rfl

end Change

/-- Where the rows after an UPDATE come from. -/
theorem Database.mem_of_updateById {db db' : Database S} {t : S.Table} {i n : Int}
    {f : S.Columns t → S.Columns t} (h : db.updateById t i f = some (n, db')) {r' : Record S t}
    (hr' : r' ∈ db'.rows t) :
    ∃ r ∈ db.rows t, r.id = r'.id ∧ (r' = r ∨ r'.id = i ∧ r'.cols = f r.cols) := by
  rw [updateById_rows_self h] at hr'
  obtain ⟨r, hr, rfl⟩ := List.mem_map.mp hr'
  refine ⟨r, hr, (updateRow_id _ _ _).symm, ?_⟩
  rw [updateRow_id]
  unfold updateRow
  split
  · next hid => exact .inr ⟨hid, rfl⟩
  · exact .inl rfl

/-- Where there is no such row, nothing is updated. -/
theorem Database.updateById_of_not_mem {db db' : Database S} {t : S.Table} {i n : Int}
    {f : S.Columns t → S.Columns t} (h : db.updateById t i f = some (n, db')) (hi : i ∉ db.ids t) :
    db' = db := by
  obtain ⟨-, hrows, hseq, -⟩ := updateById_eq_some h
  have hself : db.updateRows t i f = db.rows := by
    unfold updateRows
    rw [Function.update_eq_self_iff]
    refine (List.map_congr_left fun r hr => ?_).trans (List.map_id _)
    have hne : r.id ≠ i := by
      rintro rfl
      exact hi (mem_ids.mpr ⟨r, hr, rfl⟩)
    simp [updateRow, hne]
  rw [hself] at hrows
  cases db
  cases db'
  cases hrows
  cases hseq
  rfl

/-- Allowed changes, one after the other. -/
def Changes (allowed : Change S → Prop) : Database S → Database S → Prop :=
  Relation.ReflTransGen fun db db' => ∃ change, allowed change ∧ change.Does db db'

namespace Changes

variable {allowed : Change S → Prop} {db db' : Database S}

theorem mono {allowed' : Change S → Prop} (h : Changes allowed db db')
    (hle : ∀ change, allowed change → allowed' change) : Changes allowed' db db' := by
  induction h with
  | refl => exact .refl
  | tail _ hstep ih =>
    obtain ⟨change, hallowed, hdoes⟩ := hstep
    exact ih.tail ⟨change, hle change hallowed, hdoes⟩

theorem single {change : Change S} (hallowed : allowed change) (h : change.Does db db') :
    Changes allowed db db' := Relation.ReflTransGen.single ⟨change, hallowed, h⟩

theorem seq_le (h : Changes allowed db db') (t : S.Table) : db.seq t ≤ db'.seq t := by
  induction h with
  | refl => exact Nat.le_refl _
  | tail _ hstep ih =>
    obtain ⟨change, -, hdoes⟩ := hstep
    exact Nat.le_trans ih (hdoes.seq_le t)

/-- **No id is used again.** -/
theorem mem_ids (h : Changes allowed db db') {t : S.Table} {i : Int} (hi : i ∈ db'.ids t) :
    i ∈ db.ids t ∨ (db.seq t : Int) < i := by
  induction h with
  | refl => exact .inl hi
  | @tail db₁ db₂ hrun hstep ih =>
    obtain ⟨change, -, hdoes⟩ := hstep
    rcases hdoes.mem_ids hi with hi | hlt
    · exact ih hi
    · have hle : db.seq t ≤ db₁.seq t := seq_le hrun t
      right
      omega

/-- **A row is what it was**, as long as it is there and no change updates it. -/
theorem mem_rows (h : Changes allowed db db') {t : S.Table} {r : Record S t}
    (hr : r ∈ db'.rows t) (hid : r.id ≤ db.seq t)
    (hallowed : ∀ change, allowed change → change.Spares t ∧ change ≠ .update t r.id) :
    r ∈ db.rows t := by
  induction h with
  | refl => exact hr
  | @tail db₁ db₂ hrun hstep ih =>
    obtain ⟨change, hchange, hdoes⟩ := hstep
    obtain ⟨hspares, hother⟩ := hallowed change hchange
    have hle : db.seq t ≤ db₁.seq t := seq_le hrun t
    rcases hdoes.mem_ids (Database.mem_ids.mpr ⟨r, hr, rfl⟩) with hmem | hlt
    · exact ih (hdoes.mem_rows hr hmem hspares hother)
    · omega

/-- And it is there, as long as no change deletes it. -/
theorem rows_mem (h : Changes allowed db db') {t : S.Table} {r : Record S t} (hr : r ∈ db.rows t)
    (hallowed : ∀ change, allowed change → change ≠ .update t r.id ∧ change.Leaves t r.id) :
    r ∈ db'.rows t := by
  induction h with
  | refl => exact hr
  | tail _ hstep ih =>
    obtain ⟨change, hchange, hdoes⟩ := hstep
    obtain ⟨hother, hleaves⟩ := hallowed change hchange
    exact hdoes.rows_mem ih hother hleaves

end Changes

end Relational
