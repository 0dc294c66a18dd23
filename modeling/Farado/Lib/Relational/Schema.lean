import Mathlib.Logic.Function.Basic
import Mathlib.Data.List.Nodup
import Mathlib.Data.List.Pairwise

/-!
# Relational schemas with foreign keys

A `Schema` lists tables, the columns of each, and the constraints a relational engine enforces on
them: CHECK, UNIQUE and FOREIGN KEY with ON DELETE CASCADE or ON DELETE SET NULL. Every table has an
integer primary key `id`; the other columns of a row are a value of a type of the table's own, so a
row of one table cannot be mistaken for a row of another.

`Integral` is what the engine keeps true of the contents. `Database` (in `Relational.Database`)
carries it as a field.
-/

namespace Relational

/-- What happens to a referencing row when the row it references is deleted. `clear` writes NULL
into the referencing column. -/
inductive OnDelete (C : Type) where
  | cascade
  | setNull (clear : C → C)

/-- A foreign key of a table with columns `C`: `column` is the reference (`none` when it is NULL)
to the `id` of the table `parent`. -/
structure ForeignKey (T C : Type) where
  parent : T
  column : C → Option Int
  onDelete : OnDelete C

/-- A deletion of the parent row reaches the child row. -/
def ForeignKey.cascades {T C : Type} (fk : ForeignKey T C) : Bool :=
  match fk.onDelete with
  | .cascade => true
  | .setNull _ => false

/-- A schema. `conflict t c d` says that rows with the columns `c` and `d` would agree on some
UNIQUE key of `t`. The cascading keys must not form a cycle of tables: `depth` grows along them.
The `clear_*` laws say that SET NULL touches nothing but its own reference. -/
structure Schema where
  Table : Type
  decEq : DecidableEq Table
  Columns : Table → Type
  foreignKeys : (t : Table) → List (ForeignKey Table (Columns t))
  check : (t : Table) → Columns t → Bool
  conflict : (t : Table) → Columns t → Columns t → Bool
  depth : Table → Nat
  conflict_comm : ∀ t c d, conflict t c d = conflict t d c
  depth_lt : ∀ t, ∀ fk ∈ foreignKeys t, fk.cascades = true → depth fk.parent < depth t
  clear_column : ∀ t, ∀ fk ∈ foreignKeys t, ∀ clear, fk.onDelete = .setNull clear →
    ∀ c, fk.column (clear c) = none
  clear_columns : ∀ t, ∀ fk ∈ foreignKeys t, ∀ clear, fk.onDelete = .setNull clear →
    ∀ fk' ∈ foreignKeys t, ∀ c,
      fk'.column (clear c) = fk'.column c ∨ fk'.column (clear c) = none
  clear_check : ∀ t, ∀ fk ∈ foreignKeys t, ∀ clear, fk.onDelete = .setNull clear →
    ∀ c, check t (clear c) = check t c
  clear_conflict : ∀ t, ∀ fk ∈ foreignKeys t, ∀ clear, fk.onDelete = .setNull clear →
    ∀ c d, conflict t (clear c) d = conflict t c d

instance (S : Schema) : DecidableEq S.Table := S.decEq

/-- A row: its primary key and its other columns. -/
structure Record (S : Schema) (t : S.Table) where
  id : Int
  cols : S.Columns t

/-- The contents of all tables, each in insertion order. -/
abbrev Tables (S : Schema) := (t : S.Table) → List (Record S t)

variable {S : Schema}

/-- Every reference in the columns `c` of a row of `t` names a row that is there. -/
def refsResolve (rows : Tables S) (t : S.Table) (c : S.Columns t) : Bool :=
  (S.foreignKeys t).all fun fk =>
    match fk.column c with
    | none => true
    | some p => (rows fk.parent).any fun r => r.id == p

theorem refsResolve_iff {rows : Tables S} {t : S.Table} {c : S.Columns t} :
    refsResolve rows t c = true ↔
      ∀ fk ∈ S.foreignKeys t, ∀ p, fk.column c = some p → ∃ q ∈ rows fk.parent, q.id = p := by
  rw [refsResolve, List.all_eq_true]
  constructor
  · intro h fk hfk p hp
    have := h fk hfk
    rw [hp] at this
    simpa using this
  · intro h fk hfk
    cases hc : fk.column c with
    | none => rfl
    | some p => simpa using h fk hfk p hc

/-- References stay resolved when no id disappears. -/
theorem refsResolve_mono {rows rows' : Tables S} {t : S.Table} {c : S.Columns t}
    (h : ∀ u, ∀ q ∈ rows u, ∃ q' ∈ rows' u, q'.id = q.id) (hc : refsResolve rows t c = true) :
    refsResolve rows' t c = true := by
  rw [refsResolve_iff] at hc ⊢
  intro fk hfk p hp
  obtain ⟨q, hq, rfl⟩ := hc fk hfk p hp
  exact h fk.parent q hq

/-- The constraints of the schema, and AUTOINCREMENT's: `seq t` is at least every id of `t`. -/
structure Integral (rows : Tables S) (seq : S.Table → Nat) : Prop where
  ids_nodup : ∀ t, ((rows t).map (·.id)).Nodup
  ids_le_seq : ∀ t, ∀ r ∈ rows t, r.id ≤ seq t
  refs : ∀ t, ∀ r ∈ rows t, refsResolve rows t r.cols = true
  unique : ∀ t, (rows t).Pairwise fun a b => S.conflict t a.cols b.cols = false
  checked : ∀ t, ∀ r ∈ rows t, S.check t r.cols = true

/-- Rows of one table with the same id are the same row. -/
theorem Integral.eq_of_id {rows : Tables S} {seq : S.Table → Nat} (h : Integral rows seq)
    {t : S.Table} {a b : Record S t} (ha : a ∈ rows t) (hb : b ∈ rows t) (hid : a.id = b.id) :
    a = b :=
  List.inj_on_of_nodup_map (h.ids_nodup t) ha hb hid

/-- Two different rows of a table do not agree on a UNIQUE key. -/
theorem Integral.no_conflict {rows : Tables S} {seq : S.Table → Nat} (h : Integral rows seq)
    {t : S.Table} {a b : Record S t} (ha : a ∈ rows t) (hb : b ∈ rows t) (hab : a ≠ b) :
    S.conflict t a.cols b.cols = false := by
  have hsymm : Std.Symm fun x y : Record S t => S.conflict t x.cols y.cols = false :=
    ⟨fun x y hxy => by rw [S.conflict_comm]; exact hxy⟩
  exact (h.unique t).forall ha hb hab

end Relational
