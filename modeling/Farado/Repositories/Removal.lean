import Farado.Repositories.ItemType
import Farado.Storage.Reference

/-!
# Removing what nothing uses

`SqliteItemTypeRepository::remove` and `SqliteFieldTypeRepository::remove` count the rows that use
the row they are about to delete. The tables they count in are written out in their SQL, the foreign
keys are in the schema, and the two lists agree: a row is deleted exactly when no row of the database
references it, so the cascades take nothing along.
-/

namespace Farado

open Relational Steps

/-! ## Who references whom -/

/-- A list of the tables that reference `parent` is complete when the others do not. -/
theorem mem_referrers {parent : Table} {l : List Table}
    (hl : ∀ u, u ∉ l → (foreignKeys u).all (fun fk => fk.parent != parent) = true) {u : Table}
    {fk : ForeignKey Table (Columns u)} (hfk : fk ∈ foreignKeys u) (hparent : fk.parent = parent) :
    u ∈ l := by
  by_contra hu
  have := List.all_eq_true.mp (hl u hu) fk hfk
  simp [hparent] at this

theorem referrers_itemType {u : Table} {fk : ForeignKey Table (Columns u)}
    (hfk : fk ∈ foreignKeys u) (hparent : fk.parent = .itemType) :
    u ∈ [Table.fieldType, .item, .linkType, .ruleItemType] :=
  mem_referrers (by intro u; cases u <;> decide) hfk hparent

theorem referrers_fieldType {u : Table} {fk : ForeignKey Table (Columns u)}
    (hfk : fk ∈ foreignKeys u) (hparent : fk.parent = .fieldType) :
    u ∈ [Table.itemField, .fieldTypePossibleValue] :=
  mem_referrers (by intro u; cases u <;> decide) hfk hparent

/-- Where nothing references a row, no mandatory column holds its id. -/
theorem ne_of_unreferenced {parent : Table} {db : Database V1} {id : Int}
    (h : db.Unreferenced parent id) (t : Table) (column : Columns t → Int)
    (hfk : cascade parent column ∈ foreignKeys t) : ∀ r ∈ db.rows t, column r.cols ≠ id := by
  intro r hr hid
  exact h t r hr (cascade parent column) hfk rfl (congrArg some hid)

theorem unreferenced_itemType_iff (db : Database V1) (id : Int) :
    db.Unreferenced .itemType id ↔
      (∀ r ∈ db.rows .item, r.cols.itemTypeId ≠ id) ∧
      (∀ r ∈ db.rows .fieldType, r.cols.itemTypeId ≠ id) ∧
      (∀ r ∈ db.rows .linkType, r.cols.refs.get 0 ≠ id ∧ r.cols.refs.get 1 ≠ id) ∧
      ∀ r ∈ db.rows .ruleItemType, r.cols.refs.get 1 ≠ id := by
  constructor
  · intro h
    refine ⟨?_, ?_, fun r hr => ⟨?_, ?_⟩, ?_⟩
    · exact ne_of_unreferenced h .item ItemRow.itemTypeId (by simp [foreignKeys])
    · exact ne_of_unreferenced h .fieldType FieldTypeRow.itemTypeId (by simp [foreignKeys])
    · exact ne_of_unreferenced h .linkType (·.refs[0]) (by simp [foreignKeys]) r hr
    · exact ne_of_unreferenced h .linkType (·.refs[1]) (by simp [foreignKeys]) r hr
    · exact ne_of_unreferenced h .ruleItemType (·.refs[1]) (by simp [foreignKeys])
  · rintro ⟨hitem, hfieldType, hlinkType, hrule⟩ u r hr fk hfk hparent hp
    have hu := referrers_itemType hfk hparent
    simp only [List.mem_cons, List.not_mem_nil, or_false] at hu
    rcases hu with rfl | rfl | rfl | rfl
    · simp only [foreignKeys, List.mem_singleton] at hfk
      subst hfk
      exact hfieldType r hr (Option.some.inj hp)
    · simp only [foreignKeys, List.mem_cons, List.not_mem_nil, or_false] at hfk
      rcases hfk with rfl | rfl | rfl | rfl
      · exact hitem r hr (Option.some.inj hp)
      all_goals cases hparent
    · simp only [foreignKeys, List.mem_cons, List.not_mem_nil, or_false] at hfk
      rcases hfk with rfl | rfl
      · exact (hlinkType r hr).1 (Option.some.inj hp)
      · exact (hlinkType r hr).2 (Option.some.inj hp)
    · simp only [foreignKeys, List.mem_cons, List.not_mem_nil, or_false] at hfk
      rcases hfk with rfl | rfl
      · cases hparent
      · exact hrule r hr (Option.some.inj hp)

theorem unreferenced_fieldType_iff (db : Database V1) (id : Int) :
    db.Unreferenced .fieldType id ↔
      (∀ r ∈ db.rows .itemField, r.cols.refs.get 1 ≠ id) ∧
      ∀ r ∈ db.rows .fieldTypePossibleValue, r.cols.refs.get 0 ≠ id := by
  constructor
  · intro h
    refine ⟨?_, ?_⟩
    · exact ne_of_unreferenced h .itemField (·.refs[1]) (by simp [foreignKeys])
    · exact ne_of_unreferenced h .fieldTypePossibleValue (·.refs[0]) (by simp [foreignKeys])
  · rintro ⟨hitemField, hpossibleValue⟩ u r hr fk hfk hparent hp
    have hu := referrers_fieldType hfk hparent
    simp only [List.mem_cons, List.not_mem_nil, or_false] at hu
    rcases hu with rfl | rfl
    · simp only [foreignKeys, List.mem_cons, List.not_mem_nil, or_false] at hfk
      rcases hfk with rfl | rfl
      · cases hparent
      · exact hitemField r hr (Option.some.inj hp)
    · simp only [foreignKeys, List.mem_singleton] at hfk
      subst hfk
      exact hpossibleValue r hr (Option.some.inj hp)

/-! ## What `usageCount` counts -/

theorem length_filter_eq_zero {t : Table} {db : Database V1} {p : Row t → Bool} :
    ((db.rows t).filter p).length = 0 ↔ ∀ r ∈ db.rows t, p r = false := by
  rw [List.length_eq_zero_iff, List.filter_eq_nil_iff]
  simp

/-- The four counts cover every foreign key to an item type. -/
theorem usages_itemType_eq_zero_iff (db : Database V1) (id : Int) :
    SqliteItemTypeRepository.usages db id = 0 ↔ db.Unreferenced .itemType id := by
  rw [unreferenced_itemType_iff]
  simp only [SqliteItemTypeRepository.usages, Nat.add_eq_zero_iff, length_filter_eq_zero,
    Bool.or_eq_false_iff, beq_eq_false_iff_ne, and_assoc]

/-- And the two counts every foreign key to a field type. -/
theorem usages_fieldType_eq_zero_iff (db : Database V1) (id : Int) :
    SqliteFieldTypeRepository.usages db id = 0 ↔ db.Unreferenced .fieldType id := by
  rw [unreferenced_fieldType_iff]
  simp only [SqliteFieldTypeRepository.usages, Nat.add_eq_zero_iff, length_filter_eq_zero,
    beq_eq_false_iff_ne]

/-! ## `remove` -/

section
variable {t : Table} {usages : Database V1 → Int → Nat} {id : Int}

theorem run_usageCountIn (hid : 0 < id) (c : Connection) :
    (usageCountIn usages id).run c = (.ok (usages c.db id : Int), c) := by
  unfold usageCountIn
  rw [if_neg (by omega)]
  rfl

/-- A row that is not counted anywhere is deleted. -/
theorem run_removeUnusedIn_unused (hid : 0 < id) {c : Connection} (hzero : usages c.db id = 0) :
    (removeUnusedIn t usages id).run c =
      (.ok (decide (id ∈ c.db.ids t)), { c with db := (c.db.deleteById t id).2 }) := by
  unfold removeUnusedIn
  rw [if_neg (by omega), Prog.run_tryCatch, Prog.run_bind_ok (run_usageCountIn hid c), hzero,
    if_neg (by omega)]
  simp only [← Database.deleteById_count_pos]
  rfl

/-- Otherwise nothing happens. -/
theorem run_removeUnusedIn_used {c : Connection} (h : ¬ (0 < id ∧ usages c.db id = 0)) :
    (removeUnusedIn t usages id).run c = (.ok false, c) := by
  unfold removeUnusedIn
  by_cases hid : id ≤ 0
  · rw [if_pos hid]
    rfl
  · have hcount : (0 : Int) < usages c.db id := by omega
    rw [if_neg hid, Prog.run_tryCatch, Prog.run_bind_ok (run_usageCountIn (by omega) c),
      if_pos hcount]
    rfl

end

/-- What the removal of a row is meant to do, where the row may be removed when `Removable` holds. -/
structure RemovesUnused (t : Table) (remove : Db Bool) (id : Int) (c : Connection)
    (Removable : Prop) : Prop where
  answers : ∃ removed, remove.result c = .ok removed
  removed : remove.result c = .ok true → Database.RemovesRow c.db (remove.after c).db t id
  kept : remove.result c = .ok false → (remove.after c) = c
  removed_iff : remove.result c = .ok true ↔ Removable

/-- The count has to be zero exactly where nothing references the row. -/
theorem removesUnused_of_usages {t : Table} {usages : Database V1 → Int → Nat}
    (husages : ∀ db id, usages db id = 0 ↔ db.Unreferenced t id) (id : Int) (c : Connection) :
    RemovesUnused t (removeUnusedIn t usages id) id c
      (0 < id ∧ id ∈ c.db.ids t ∧ c.db.Unreferenced t id) := by
  by_cases h : 0 < id ∧ usages c.db id = 0
  · have hrun := run_removeUnusedIn_unused (t := t) h.1 h.2
    have hresult : (removeUnusedIn t usages id).result c = .ok (decide (id ∈ c.db.ids t)) :=
      congrArg Prod.fst hrun
    have hafter : (removeUnusedIn t usages id).after c =
        { c with db := (c.db.deleteById t id).2 } := congrArg Prod.snd hrun
    have hunreferenced := (husages c.db id).mp h.2
    refine ⟨⟨_, hresult⟩, fun htrue => ?_, fun hfalse => ?_, ?_⟩
    · rw [hresult, Except.ok.injEq, decide_eq_true_iff] at htrue
      rw [hafter]
      exact Database.removesRow_of_unreferenced htrue hunreferenced
    · -- there was no such row
      rw [hresult, Except.ok.injEq, decide_eq_false_iff_not] at hfalse
      rw [hafter, Database.deleteById_of_not_mem hfalse]
    · rw [hresult, Except.ok.injEq, decide_eq_true_iff]
      exact ⟨fun hmem => ⟨h.1, hmem, hunreferenced⟩, fun hremovable => hremovable.2.1⟩
  · have hrun := run_removeUnusedIn_used (t := t) h
    have hresult : (removeUnusedIn t usages id).result c = .ok false := congrArg Prod.fst hrun
    refine ⟨⟨_, hresult⟩, fun htrue => ?_, fun _ => congrArg Prod.snd hrun, ?_⟩
    · rw [hresult] at htrue
      cases htrue
    · rw [hresult]
      constructor
      · intro htrue
        cases htrue
      · rintro ⟨hid, -, hunreferenced⟩
        exact absurd ⟨hid, (husages c.db id).mpr hunreferenced⟩ h

theorem itemType_remove_eq (id : Int) : SqliteItemTypeRepository.remove id =
    removeUnusedIn .itemType SqliteItemTypeRepository.usages id := rfl

/-- **Item types and field types are removed exactly when they are there and nothing references
them, and they go alone.** Ids below 1 are refused. -/
theorem remove_iff_unreferenced (id : Int) (c : Connection) :
    RemovesUnused .itemType (SqliteItemTypeRepository.remove id) id c
        (0 < id ∧ id ∈ c.db.ids .itemType ∧ c.db.Unreferenced .itemType id) ∧
      RemovesUnused .fieldType (SqliteFieldTypeRepository.remove id) id c
        (0 < id ∧ id ∈ c.db.ids .fieldType ∧ c.db.Unreferenced .fieldType id) := by
  constructor
  · rw [itemType_remove_eq]
    exact removesUnused_of_usages usages_itemType_eq_zero_iff id c
  · exact removesUnused_of_usages usages_fieldType_eq_zero_iff id c

/-- A database whose one item type has been inserted with the id 0. -/
def itemTypeZero : Connection where
  db :=
    { rows := fun
        | .workflow => [⟨1, { caption := bytes "Sales", description := none }⟩]
        | .itemType => [⟨0, {
            workflowId := 1, defaultStateId := none, caption := bytes "Issue"
            kind := bytes "issue", defaultContent := none }⟩]
        | _ => []
      seq := fun t => if t = .workflow then 1 else 0
      integral := by
        constructor
        case ids_nodup => intro t; cases t <;> decide
        case ids_le_seq => intro t; cases t <;> decide
        case refs => intro t; cases t <;> decide
        case unique => intro t; cases t <;> decide
        case checked => intro t; cases t <;> decide }
  lastInsertRowid := 0

/-- It is there and unreferenced, and is not removed. -/
theorem remove_refuses_zero : ¬ ∀ (id : Int) (c : Connection),
    RemovesUnused .itemType (SqliteItemTypeRepository.remove id) id c
      (id ∈ c.db.ids .itemType ∧ c.db.Unreferenced .itemType id) := by
  intro h
  have hunreferenced : itemTypeZero.db.Unreferenced .itemType 0 := by
    rw [unreferenced_itemType_iff]
    decide
  have hremoved := (h 0 itemTypeZero).removed_iff.mpr ⟨by decide, hunreferenced⟩
  cases hremoved

end Farado
