import Farado.Lib.Relational.Database
import Mathlib.Tactic.ByContra

/-!
# Deletion with referential actions

`DELETE FROM t WHERE …` removes the matching rows, every row that references a removed row through
a cascading key (and so on), and writes NULL into the references of the remaining rows that SET NULL
covers. `Doomed` says which rows go, as a least fixed point; `gone` computes it by walking from a
row up its cascading references, which ends because they do not form a cycle of tables. The two
agree (`gone_iff_doomed`), and what is left satisfies the constraints again (`deleteWhere`).
-/

namespace Relational

variable {S : Schema}

namespace Database

/-- The rows a deletion of `roots` takes with it: the roots, and the rows that reference one of
them through a cascading key. -/
inductive Doomed (db : Database S) (roots : S.Table → Int → Bool) : S.Table → Int → Prop
  | root {t i} : roots t i = true → Doomed db roots t i
  | cascade {t} {r : Record S t} {fk : ForeignKey S.Table (S.Columns t)} {p : Int} :
      r ∈ db.rows t → fk ∈ S.foreignKeys t → fk.cascades = true → fk.column r.cols = some p →
      Doomed db roots fk.parent p → Doomed db roots t r.id

/-- Is the row `i` of `t` within `n` cascading references of a root? -/
def goneWithin (db : Database S) (roots : S.Table → Int → Bool) :
    Nat → S.Table → Int → Bool
  | 0, t, i => roots t i
  | n + 1, t, i =>
      roots t i || (db.rows t).any fun r => r.id == i && (S.foreignKeys t).any fun fk =>
        fk.cascades && match fk.column r.cols with
          | none => false
          | some p => db.goneWithin roots n fk.parent p

/-- Does the deletion of `roots` remove the row `i` of `t`? Cascading references descend in
`depth`, so `depth t` of them are enough. -/
def gone (db : Database S) (roots : S.Table → Int → Bool) (t : S.Table) (i : Int) : Bool :=
  db.goneWithin roots (S.depth t) t i

theorem goneWithin_succ_iff {db : Database S} {roots : S.Table → Int → Bool} {n : Nat}
    {t : S.Table} {i : Int} :
    db.goneWithin roots (n + 1) t i = true ↔
      roots t i = true ∨ ∃ r ∈ db.rows t, r.id = i ∧ ∃ fk ∈ S.foreignKeys t,
        fk.cascades = true ∧ ∃ p, fk.column r.cols = some p ∧
          db.goneWithin roots n fk.parent p = true := by
  simp only [goneWithin, Bool.or_eq_true, List.any_eq_true, Bool.and_eq_true, beq_iff_eq]
  constructor
  · rintro (h | ⟨r, hr, hid, fk, hfk, hc, h⟩)
    · exact .inl h
    · refine .inr ⟨r, hr, hid, fk, hfk, hc, ?_⟩
      cases hp : fk.column r.cols with
      | none => simp [hp] at h
      | some p => exact ⟨p, rfl, by simpa [hp] using h⟩
  · rintro (h | ⟨r, hr, hid, fk, hfk, hc, p, hp, h⟩)
    · exact .inl h
    · exact .inr ⟨r, hr, hid, fk, hfk, hc, by simpa [hp] using h⟩

theorem doomed_of_goneWithin {db : Database S} {roots : S.Table → Int → Bool} (n : Nat) :
    ∀ {t : S.Table} {i : Int}, db.goneWithin roots n t i = true → db.Doomed roots t i := by
  induction n with
  | zero => intro t i h; exact .root h
  | succ n ih =>
    intro t i h
    rcases goneWithin_succ_iff.mp h with h | ⟨r, hr, rfl, fk, hfk, hc, p, hp, h⟩
    · exact .root h
    · exact .cascade hr hfk hc hp (ih h)

theorem goneWithin_of_doomed {db : Database S} {roots : S.Table → Int → Bool} {t : S.Table}
    {i : Int} (h : db.Doomed roots t i) :
    ∀ n, S.depth t ≤ n → db.goneWithin roots n t i = true := by
  induction h with
  | @root t i h =>
    intro n _
    cases n with
    | zero => exact h
    | succ n => exact goneWithin_succ_iff.mpr (.inl h)
  | @cascade t r fk p hr hfk hc hp _ ih =>
    intro n hn
    -- the parent's table lies lower, so one reference less is enough for it
    have hlt := S.depth_lt t fk hfk hc
    cases n with
    | zero => omega
    | succ n =>
      exact goneWithin_succ_iff.mpr (.inr ⟨r, hr, rfl, fk, hfk, hc, p, hp, ih n (by omega)⟩)

/-- The computed closure is the least fixed point. -/
theorem gone_iff_doomed {db : Database S} {roots : S.Table → Int → Bool} {t : S.Table} {i : Int} :
    db.gone roots t i = true ↔ db.Doomed roots t i :=
  ⟨doomed_of_goneWithin _, fun h => goneWithin_of_doomed h _ (Nat.le_refl _)⟩

/-- A row that is not a root goes exactly when one of its cascading references goes. -/
theorem doomed_iff {db : Database S} {roots : S.Table → Int → Bool} {t : S.Table}
    {r : Record S t} (hr : r ∈ db.rows t) :
    db.Doomed roots t r.id ↔ roots t r.id = true ∨ ∃ fk ∈ S.foreignKeys t, fk.cascades = true ∧
      ∃ p, fk.column r.cols = some p ∧ db.Doomed roots fk.parent p := by
  constructor
  · generalize hi : r.id = i
    intro h
    cases h with
    | root h => exact .inl h
    | @cascade _ r' fk p hr' hfk hc hp h =>
      rw [db.integral.eq_of_id hr hr' hi]
      exact .inr ⟨fk, hfk, hc, p, hp, h⟩
  · rintro (h | ⟨fk, hfk, hc, p, hp, h⟩)
    · exact .root h
    · exact .cascade hr hfk hc hp h

/-! ## SET NULL -/

/-- SET NULL on one key of a row. -/
def clearRef (gone : S.Table → Int → Bool) {t : S.Table} (c : S.Columns t)
    (fk : ForeignKey S.Table (S.Columns t)) : S.Columns t :=
  match fk.onDelete, fk.column c with
  | .setNull clear, some p => if gone fk.parent p then clear c else c
  | _, _ => c

/-- SET NULL on all keys of a row. -/
def clearRefs (gone : S.Table → Int → Bool) {t : S.Table} (c : S.Columns t) : S.Columns t :=
  (S.foreignKeys t).foldl (clearRef gone) c

/-- One SET NULL either leaves the row alone or clears a reference to a row that goes. -/
theorem clearRef_cases (gone : S.Table → Int → Bool) {t : S.Table} (c : S.Columns t)
    (fk : ForeignKey S.Table (S.Columns t)) :
    (clearRef gone c fk = c ∧
      ∀ clear, fk.onDelete = .setNull clear → ∀ p, fk.column c = some p → gone fk.parent p = false) ∨
    ∃ clear, fk.onDelete = .setNull clear ∧ clearRef gone c fk = clear c := by
  unfold clearRef
  split
  · next clear p hdel hcol =>
    split
    · exact .inr ⟨clear, hdel, rfl⟩
    · next hg =>
      refine .inl ⟨rfl, fun _ _ q hq => ?_⟩
      rw [hcol] at hq
      cases hq
      simpa using hg
  · next hx =>
    refine .inl ⟨rfl, fun clear hdel p hp => ?_⟩
    exact absurd hp (by intro h; exact hx clear p hdel h)

section
variable (gone : S.Table → Int → Bool) {t : S.Table}

theorem clearRef_column {fk fk' : ForeignKey S.Table (S.Columns t)} (hfk : fk ∈ S.foreignKeys t)
    (hfk' : fk' ∈ S.foreignKeys t) (c : S.Columns t) :
    fk'.column (clearRef gone c fk) = fk'.column c ∨ fk'.column (clearRef gone c fk) = none := by
  rcases clearRef_cases gone c fk with ⟨h, -⟩ | ⟨clear, hdel, h⟩
  · exact .inl (by rw [h])
  · rw [h]
    exact S.clear_columns t fk hfk clear hdel fk' hfk' c

theorem foldl_clearRef_column (l : List (ForeignKey S.Table (S.Columns t)))
    (hl : ∀ fk ∈ l, fk ∈ S.foreignKeys t) {fk' : ForeignKey S.Table (S.Columns t)}
    (hfk' : fk' ∈ S.foreignKeys t) (c : S.Columns t) :
    fk'.column (l.foldl (clearRef gone) c) = fk'.column c ∨
      fk'.column (l.foldl (clearRef gone) c) = none := by
  induction l generalizing c with
  | nil => exact .inl rfl
  | cons fk l ih =>
    have hfk := hl fk List.mem_cons_self
    rcases ih (fun x hx => hl x (List.mem_cons_of_mem _ hx)) (clearRef gone c fk) with h | h
    · rcases clearRef_column gone hfk hfk' c with h' | h'
      · exact .inl (h.trans h')
      · exact .inr (h.trans h')
    · exact .inr h

/-- Clearing changes a reference only to NULL. -/
theorem clearRefs_column {fk : ForeignKey S.Table (S.Columns t)} (hfk : fk ∈ S.foreignKeys t)
    (c : S.Columns t) :
    fk.column (clearRefs gone c) = fk.column c ∨ fk.column (clearRefs gone c) = none :=
  foldl_clearRef_column gone _ (fun _ h => h) hfk c

/-- After clearing, no SET NULL reference names a row that goes. -/
theorem clearRefs_not_gone {fk : ForeignKey S.Table (S.Columns t)} (hfk : fk ∈ S.foreignKeys t)
    (hset : fk.cascades = false) (c : S.Columns t) {p : Int}
    (hp : fk.column (clearRefs gone c) = some p) : gone fk.parent p = false := by
  obtain ⟨pre, post, hsplit⟩ := List.append_of_mem hfk
  have hpost : ∀ x ∈ post, x ∈ S.foreignKeys t := by
    intro x hx
    rw [hsplit]
    simp [hx]
  unfold clearRefs at hp
  rw [hsplit, List.foldl_append, List.foldl_cons] at hp
  -- what the key's own turn leaves is kept, or becomes NULL, by the later turns
  generalize pre.foldl (clearRef gone) c = c₁ at hp
  rcases foldl_clearRef_column gone post hpost hfk (clearRef gone c₁ fk) with h | h
  · rw [h] at hp
    rcases clearRef_cases gone c₁ fk with ⟨h', hng⟩ | ⟨clear, hdel, h'⟩
    · rw [h'] at hp
      cases hdel : fk.onDelete with
      | cascade => simp [ForeignKey.cascades, hdel] at hset
      | setNull clear => exact hng clear hdel p hp
    · rw [h', S.clear_column t fk hfk clear hdel] at hp
      cases hp
  · rw [h] at hp
    cases hp

theorem foldl_clearRef_inv (l : List (ForeignKey S.Table (S.Columns t)))
    (hl : ∀ fk ∈ l, fk ∈ S.foreignKeys t) {β : Type} (g : S.Columns t → β)
    (hg : ∀ fk ∈ S.foreignKeys t, ∀ clear, fk.onDelete = .setNull clear → ∀ c, g (clear c) = g c)
    (c : S.Columns t) : g (l.foldl (clearRef gone) c) = g c := by
  induction l generalizing c with
  | nil => rfl
  | cons fk l ih =>
    rw [List.foldl_cons, ih (fun x hx => hl x (List.mem_cons_of_mem _ hx))]
    rcases clearRef_cases gone c fk with ⟨h, -⟩ | ⟨clear, hdel, h⟩
    · rw [h]
    · rw [h]
      exact hg fk (hl fk List.mem_cons_self) clear hdel c

theorem clearRefs_check (c : S.Columns t) : S.check t (clearRefs gone c) = S.check t c :=
  foldl_clearRef_inv gone _ (fun _ h => h) (S.check t)
    (fun fk hfk clear hdel c => S.clear_check t fk hfk clear hdel c) c

theorem clearRefs_conflict (c d : S.Columns t) :
    S.conflict t (clearRefs gone c) d = S.conflict t c d :=
  foldl_clearRef_inv gone _ (fun _ h => h) (fun x => S.conflict t x d)
    (fun fk hfk clear hdel c => S.clear_conflict t fk hfk clear hdel c d) c

/-- A row none of whose references goes is left alone. -/
theorem clearRefs_eq_self {c : S.Columns t}
    (h : ∀ fk ∈ S.foreignKeys t, fk.cascades = false → ∀ p, fk.column c = some p →
      gone fk.parent p = false) : clearRefs gone c = c := by
  have key : ∀ l : List (ForeignKey S.Table (S.Columns t)), (∀ fk ∈ l, fk ∈ S.foreignKeys t) →
      l.foldl (clearRef gone) c = c := by
    intro l
    induction l with
    | nil => intro _; rfl
    | cons fk l ih =>
      intro hl
      have hstep : clearRef gone c fk = c := by
        unfold clearRef
        split
        · next clear p hdel hcol =>
          rw [h fk (hl fk List.mem_cons_self) (by simp [ForeignKey.cascades, hdel]) p hcol]
          rfl
        · rfl
      rw [List.foldl_cons, hstep]
      exact ih fun x hx => hl x (List.mem_cons_of_mem _ hx)
  exact key _ fun _ hx => hx

end

/-! ## DELETE -/

/-- The rows that `DELETE FROM t WHERE p` names. -/
def rootsOf (db : Database S) (t : S.Table) (p : Record S t → Bool) (u : S.Table) (i : Int) :
    Bool :=
  u == t && (db.rows t).any fun r => p r && r.id == i

theorem rootsOf_iff {db : Database S} {t u : S.Table} {p : Record S t → Bool} {i : Int} :
    db.rootsOf t p u i = true ↔ u = t ∧ ∃ r ∈ db.rows t, p r = true ∧ r.id = i := by
  simp [rootsOf]

/-- A row of the statement's own table is named by it exactly when it matches. -/
theorem rootsOf_self {db : Database S} {t : S.Table} {p : Record S t → Bool} {r : Record S t}
    (hr : r ∈ db.rows t) : db.rootsOf t p t r.id = true ↔ p r = true := by
  rw [rootsOf_iff]
  constructor
  · rintro ⟨-, r', hr', hp, hid⟩
    rwa [← db.integral.eq_of_id hr' hr hid]
  · intro hp
    exact ⟨rfl, r, hr, hp, rfl⟩

/-- The rows that are left, with their references cleared. -/
def remaining (db : Database S) (roots : S.Table → Int → Bool) : Tables S := fun u =>
  ((db.rows u).filter fun r => !db.gone roots u r.id).map fun r =>
    ⟨r.id, clearRefs (db.gone roots) r.cols⟩

theorem mem_remaining {db : Database S} {roots : S.Table → Int → Bool} {u : S.Table}
    {r : Record S u} : r ∈ db.remaining roots u ↔
      ∃ q ∈ db.rows u, ¬ db.Doomed roots u q.id ∧ r = ⟨q.id, clearRefs (db.gone roots) q.cols⟩ := by
  simp only [remaining, List.mem_map, List.mem_filter, Bool.not_eq_true', ← gone_iff_doomed,
    Bool.not_eq_true]
  constructor
  · rintro ⟨q, ⟨hq, hg⟩, rfl⟩
    exact ⟨q, hq, hg, rfl⟩
  · rintro ⟨q, hq, hg, rfl⟩
    exact ⟨q, ⟨hq, hg⟩, rfl⟩

/-- No reference of a remaining row dangles: a cascading one would have taken the row along, and
SET NULL has cleared the others. -/
theorem refsResolve_remaining {db : Database S} {roots : S.Table → Int → Bool} {u : S.Table}
    {q : Record S u} (hq : q ∈ db.rows u) (hd : ¬ db.Doomed roots u q.id) :
    refsResolve (db.remaining roots) u (clearRefs (db.gone roots) q.cols) = true := by
  rw [refsResolve_iff]
  intro fk hfk p hp
  have hcol : fk.column q.cols = some p := by
    rcases clearRefs_column (db.gone roots) hfk q.cols with h | h
    · rw [← h, hp]
    · rw [h] at hp
      cases hp
  -- the row it names is not doomed: the key either cascades or has been cleared
  have hkept : ¬ db.Doomed roots fk.parent p := by
    intro hp'
    cases hc : fk.cascades with
    | true => exact hd (.cascade hq hfk hc hcol hp')
    | false =>
      have := clearRefs_not_gone (db.gone roots) hfk hc q.cols hp
      rw [gone_iff_doomed.mpr hp'] at this
      cases this
  obtain ⟨q', hq', rfl⟩ := refsResolve_iff.mp (db.integral.refs u q hq) fk hfk p hcol
  exact ⟨_, mem_remaining.mpr ⟨q', hq', hkept, rfl⟩, rfl⟩

theorem remaining_ids_sublist (db : Database S) (roots : S.Table → Int → Bool) (u : S.Table) :
    ((db.remaining roots u).map (·.id)).Sublist (db.ids u) := by
  rw [remaining, List.map_map, ids]
  exact List.Sublist.map (fun r : Record S u => r.id) List.filter_sublist

theorem integral_remaining (db : Database S) (roots : S.Table → Int → Bool) :
    Integral (db.remaining roots) db.seq := by
  constructor
  case ids_nodup =>
    intro u
    exact (db.integral.ids_nodup u).sublist (remaining_ids_sublist db roots u)
  case ids_le_seq =>
    intro u r hr
    obtain ⟨q, hq, -, rfl⟩ := mem_remaining.mp hr
    exact db.integral.ids_le_seq u q hq
  case refs =>
    intro u r hr
    obtain ⟨q, hq, hd, rfl⟩ := mem_remaining.mp hr
    exact refsResolve_remaining hq hd
  case unique =>
    intro u
    unfold remaining
    rw [List.pairwise_map]
    apply ((db.integral.unique u).filter _).imp
    intro a b hab
    rw [clearRefs_conflict, S.conflict_comm, clearRefs_conflict, S.conflict_comm]
    exact hab
  case checked =>
    intro u r hr
    obtain ⟨q, hq, -, rfl⟩ := mem_remaining.mp hr
    rw [clearRefs_check]
    exact db.integral.checked u q hq

/-- `DELETE FROM t WHERE p`: the number of matching rows and the new database. All referential
actions being CASCADE or SET NULL, no constraint can forbid it. -/
def deleteWhere (db : Database S) (t : S.Table) (p : Record S t → Bool) : Int × Database S :=
  (((db.rows t).filter p).length,
    ⟨db.remaining (db.rootsOf t p), db.seq, db.integral_remaining _⟩)

/-- `DELETE FROM t WHERE id = i`. -/
def deleteById (db : Database S) (t : S.Table) (i : Int) : Int × Database S :=
  db.deleteWhere t fun r => r.id == i

@[simp] theorem deleteWhere_seq (db : Database S) (t : S.Table) (p : Record S t → Bool) :
    (db.deleteWhere t p).2.seq = db.seq := rfl

theorem deleteWhere_rows (db : Database S) (t : S.Table) (p : Record S t → Bool) :
    (db.deleteWhere t p).2.rows = db.remaining (db.rootsOf t p) := rfl

theorem deleteById_count_pos {db : Database S} {t : S.Table} {i : Int} :
    0 < (db.deleteById t i).1 ↔ i ∈ db.ids t := by
  rw [deleteById, deleteWhere, Int.natCast_pos, List.length_pos_iff_exists_mem, mem_ids]
  simp

/-- Where all keys of a table cascade, deletion only filters it. -/
theorem remaining_eq_filter {db : Database S} {roots : S.Table → Int → Bool} {u : S.Table}
    (hu : ∀ fk ∈ S.foreignKeys u, fk.cascades = true) :
    db.remaining roots u = (db.rows u).filter fun r => !db.gone roots u r.id := by
  unfold remaining
  conv_rhs => rw [← List.map_id ((db.rows u).filter fun r => !db.gone roots u r.id)]
  refine List.map_congr_left fun r _ => ?_
  rw [clearRefs_eq_self]
  · rfl
  · intro fk hfk hc
    rw [hu fk hfk] at hc
    cases hc

/-- There a deletion keeps the rows that it does not take along. -/
theorem mem_deleteWhere_iff {db : Database S} {t u : S.Table} {p : Record S t → Bool}
    (hu : ∀ fk ∈ S.foreignKeys u, fk.cascades = true) {r : Record S u} :
    r ∈ (db.deleteWhere t p).2.rows u ↔ r ∈ db.rows u ∧ ¬ db.Doomed (db.rootsOf t p) u r.id := by
  rw [deleteWhere_rows, remaining_eq_filter hu, List.mem_filter, Bool.not_eq_true',
    ← gone_iff_doomed, Bool.not_eq_true]

/-- A deletion leaves no row that was not there. -/
theorem deleteWhere_sublist {db : Database S} {t u : S.Table} {p : Record S t → Bool}
    (hu : ∀ fk ∈ S.foreignKeys u, fk.cascades = true) :
    ((db.deleteWhere t p).2.rows u).Sublist (db.rows u) := by
  rw [deleteWhere_rows, remaining_eq_filter hu]
  exact List.filter_sublist

/-- It gives no row another id. -/
theorem mem_ids_of_mem_deleteById {db : Database S} {t u : S.Table} {i n : Int}
    (h : n ∈ (db.deleteById t i).2.ids u) : n ∈ db.ids u :=
  (remaining_ids_sublist db _ u).subset h

/-- The row is gone from its table. -/
theorem id_ne_of_mem_deleteById {db : Database S} {t : S.Table} {i : Int} {r : Record S t}
    (h : r ∈ (db.deleteById t i).2.rows t) : r.id ≠ i := by
  rw [deleteById, deleteWhere_rows] at h
  obtain ⟨q, hq, hd, rfl⟩ := mem_remaining.mp h
  intro hid
  exact hd (.root ((rootsOf_self hq).mpr (by simpa using hid)))

/-- A table no row of which goes, and none of whose SET NULL references goes, is unchanged. -/
theorem remaining_eq_rows {db : Database S} {roots : S.Table → Int → Bool} {u : S.Table}
    (hkeep : ∀ r ∈ db.rows u, ¬ db.Doomed roots u r.id)
    (hrefs : ∀ r ∈ db.rows u, ∀ fk ∈ S.foreignKeys u, fk.cascades = false →
      ∀ p, fk.column r.cols = some p → ¬ db.Doomed roots fk.parent p) :
    db.remaining roots u = db.rows u := by
  unfold remaining
  have hfilter : (db.rows u).filter (fun r => !db.gone roots u r.id) = db.rows u := by
    rw [List.filter_eq_self]
    intro r hr
    have := hkeep r hr
    rw [← gone_iff_doomed] at this
    simpa using this
  rw [hfilter]
  conv_rhs => rw [← List.map_id (db.rows u)]
  refine List.map_congr_left fun r hr => ?_
  rw [clearRefs_eq_self]
  · rfl
  · intro fk hfk hc p hp
    have := hrefs r hr fk hfk hc p hp
    rw [← gone_iff_doomed] at this
    simpa using this

/-- Where there is no such row, nothing is deleted. -/
theorem deleteById_of_not_mem {db : Database S} {t : S.Table} {i : Int} (h : i ∉ db.ids t) :
    (db.deleteById t i).2 = db := by
  have hdoomed : ∀ {u j}, ¬ db.Doomed (db.rootsOf t fun r => r.id == i) u j := by
    intro u j hd
    induction hd with
    | root hroot =>
      obtain ⟨-, r, hr, hid, -⟩ := rootsOf_iff.mp hroot
      exact h (mem_ids.mpr ⟨r, hr, by simpa using hid⟩)
    | cascade _ _ _ _ _ ih => exact ih
  have hrows : (db.deleteById t i).2.rows = db.rows := by
    funext u
    exact remaining_eq_rows (fun _ _ => hdoomed) fun _ _ _ _ _ _ _ => hdoomed
  generalize hdb : (db.deleteById t i).2 = db' at hrows
  have hseq : db'.seq = db.seq := by rw [← hdb]; rfl
  cases db
  cases db'
  cases hrows
  cases hseq
  rfl

/-! ## A row that nothing references -/

/-- No row of any table references the row `i` of `t`. -/
def Unreferenced (db : Database S) (t : S.Table) (i : Int) : Prop :=
  ∀ u, ∀ r ∈ db.rows u, ∀ fk ∈ S.foreignKeys u, fk.parent = t → fk.column r.cols ≠ some i

/-- One row is gone, the row `i` of `t`, and nothing else has changed. -/
structure RemovesRow (db db' : Database S) (t : S.Table) (i : Int) : Prop where
  row : i ∈ db.ids t
  own : db'.rows t = (db.rows t).filter fun r => !(r.id == i)
  others : ∀ u, u ≠ t → db'.rows u = db.rows u

/-- The row that nothing references goes alone. -/
theorem doomed_of_unreferenced {db : Database S} {t u : S.Table} {i j : Int}
    (h : db.Unreferenced t i)
    (hdoomed : db.Doomed (db.rootsOf t fun r => r.id == i) u j) : u = t ∧ j = i := by
  induction hdoomed with
  | root hroot =>
    obtain ⟨hu, r, -, hr, hid⟩ := rootsOf_iff.mp hroot
    exact ⟨hu, hid ▸ by simpa using hr⟩
  | @cascade u r fk p hr hfk _ hp _ ih =>
    -- the parent would be the row itself
    obtain ⟨hparent, rfl⟩ := ih
    exact absurd hp (h u r hr fk hfk hparent)

theorem removesRow_of_unreferenced {db : Database S} {t : S.Table} {i : Int} (hi : i ∈ db.ids t)
    (h : db.Unreferenced t i) : RemovesRow db (db.deleteById t i).2 t i := by
  have hrefs : ∀ u, ∀ r ∈ db.rows u, ∀ fk ∈ S.foreignKeys u, ∀ p, fk.column r.cols = some p →
      ¬ db.Doomed (db.rootsOf t fun r => r.id == i) fk.parent p := by
    intro u r hr fk hfk p hp hdoomed
    obtain ⟨hparent, rfl⟩ := doomed_of_unreferenced h hdoomed
    exact h u r hr fk hfk hparent hp
  refine ⟨hi, ?own, fun u hu => ?others⟩
  case own =>
    rw [deleteById, deleteWhere_rows, remaining]
    have hgone : ∀ r ∈ db.rows t, db.gone (db.rootsOf t fun r => r.id == i) t r.id = (r.id == i) := by
      intro r hr
      rw [Bool.eq_iff_iff, gone_iff_doomed, beq_iff_eq]
      constructor
      · intro hdoomed
        exact (doomed_of_unreferenced h hdoomed).2
      · intro hid
        exact .root ((rootsOf_self hr).mpr (by simpa using hid))
    rw [List.filter_congr fun r hr => congrArg (!·) (hgone r hr)]
    conv_rhs => rw [← List.map_id ((db.rows t).filter fun r => !(r.id == i))]
    refine List.map_congr_left fun r hr => ?_
    rw [clearRefs_eq_self]
    · rfl
    · intro fk hfk _ p hp
      have := hrefs t r (List.mem_of_mem_filter hr) fk hfk p hp
      rwa [← gone_iff_doomed, Bool.not_eq_true] at this
  case others =>
    rw [deleteById, deleteWhere_rows]
    refine remaining_eq_rows ?_ fun r hr fk hfk _ p hp => hrefs u r hr fk hfk p hp
    intro r _ hdoomed
    exact hu (doomed_of_unreferenced h hdoomed).1

/-- A row that references it through a cascading key goes too. -/
theorem not_removesRow {db : Database S} {t u : S.Table} {i : Int} {r : Record S u}
    {fk : ForeignKey S.Table (S.Columns u)} (hr : r ∈ db.rows u) (hfk : fk ∈ S.foreignKeys u)
    (hc : fk.cascades = true) (hparent : fk.parent = t) (hp : fk.column r.cols = some i) :
    ¬ RemovesRow db (db.deleteById t i).2 t i := by
  rintro ⟨hi, -, hothers⟩
  obtain ⟨row, hrow, rfl⟩ := mem_ids.mp hi
  -- cascading references descend, so it lies in another table
  have hu : u ≠ t := by
    rintro rfl
    have := S.depth_lt u fk hfk hc
    rw [hparent] at this
    omega
  have hdoomed : db.Doomed (db.rootsOf t fun q => q.id == row.id) u r.id := by
    refine .cascade hr hfk hc hp ?_
    rw [hparent]
    exact .root ((rootsOf_self hrow).mpr (by simp))
  have hkept := hothers u hu
  rw [deleteById, deleteWhere_rows] at hkept
  obtain ⟨q, hq, hqkept, heq⟩ := mem_remaining.mp (hkept ▸ hr)
  have hid : r.id = q.id := by rw [heq]
  exact hqkept (hid ▸ hdoomed)

/-- Where all references to a table cascade, a deletion removes the one row exactly when nothing
references it. -/
theorem removesRow_deleteById_iff {db : Database S} {t : S.Table} {i : Int} (hi : i ∈ db.ids t)
    (hcascades : ∀ u, ∀ fk ∈ S.foreignKeys u, fk.parent = t → fk.cascades = true) :
    RemovesRow db (db.deleteById t i).2 t i ↔ db.Unreferenced t i := by
  constructor
  · intro h u r hr fk hfk hparent hp
    exact not_removesRow hr hfk (hcascades u fk hfk hparent) hparent hp h
  · exact removesRow_of_unreferenced hi

end Database

end Relational
