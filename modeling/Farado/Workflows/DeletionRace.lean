import Farado.Services.ConcurrentCreates

/-!
# Deletions and creations at the same time

A guarded deletion looks for dependants in one step and deletes in another. A dependant that is
inserted in between has been created, as its request is told, and goes with the cascade. The
deletion of a workflow never looks for states, so there the gap is as wide as the whole past.
-/

namespace Farado

open Relational Steps

/-- A guarded deletion. -/
inductive Deletion where
  | itemType (id : Int)
  | state (id : Int)
  | workflow (id : Int)

namespace Deletion

@[reducible] def table : Deletion → Table
  | itemType _ => .itemType
  | state _ => .state
  | workflow _ => .workflow

@[reducible] def id : Deletion → Int
  | itemType id => id
  | state id => id
  | workflow id => id

/-- What the service answers. -/
@[reducible] def Answer : Deletion → Type
  | itemType _ => Bool
  | state _ => ServiceResult
  | workflow _ => ServiceResult

/-- The service call. -/
def serve (env : Environment) : (d : Deletion) → Db d.Answer
  | itemType id => ItemTypeService.deleteItemType id
  | state id => StateService.deleteState env id
  | workflow id => WorkflowService.deleteWorkflow env id

/-- The table of the entities that hang on the target: the fields of an item type, the edges of a
state, the states of a workflow. -/
@[reducible] def child : Deletion → Table
  | itemType _ => .fieldType
  | state _ => .edge
  | workflow _ => .state

/-- Does this row hang on the target? -/
def HasRow : (d : Deletion) → Columns d.child → Prop
  | itemType id, c => c.itemTypeId = id
  | state id, c => c.beginStateId = id ∨ c.endStateId = id
  | workflow id, c => c.workflowId = id

/-- Is this the creation of such an entity? -/
def HasDependant : Deletion → CreateRequest → Prop
  | itemType id, .fieldType dto => dto.itemTypeId = some id
  | state id, .edge dto => dto.beginStateId = some id ∨ dto.endStateId = some id
  | workflow id, .state dto => dto.workflowId = some id
  | _, _ => False

instance : (d : Deletion) → (r : CreateRequest) → Decidable (d.HasDependant r) := by
  intro d r
  cases d <;> cases r <;> unfold HasDependant <;> infer_instance

/-- Does the guard look for them? `canDeleteWorkflow` reads the states of the workflow, but only to
look for their items. -/
def looks : Deletion → Bool
  | itemType _ => true
  | state _ => true
  | workflow _ => false

/-- What the guard wants to find. -/
def Clear (d : Deletion) (c : Connection) : Prop :=
  d.looks = true → ∀ row ∈ c.db.rows d.child, ¬ d.HasRow row.cols

/-- The next step is the DELETE of the target, after which nothing is left to do. -/
def Ready (d : Deletion) (p : Db d.Answer) : Prop :=
  ∀ c, ∃ r, Pool.next p c = (.done r, { c with db := (c.db.deleteById d.table d.id).2 })

/-! ## The services -/

/-- `remove` and what is made of its answer. -/
theorem ready_remove {d : Deletion} (hid : 0 < d.id) {k : Bool → Db d.Answer}
    (hk : ∀ removed, ∃ r, k removed = .done r) : d.Ready (removeIn d.table d.id >>= k) := by
  intro c
  obtain ⟨r, hr⟩ := hk (decide (0 < (c.db.deleteById d.table d.id).1))
  refine ⟨r, ?_⟩
  unfold removeIn
  rw [if_neg (by omega), ← hr]
  rfl

/-- The guard of `deleteItemType`. -/
theorem guarded_deleteItemType (id : Int) :
    Prog.GuardedBy (itemType id).Clear (itemType id).Ready False
      (ItemTypeService.deleteItemType id) := by
  unfold ItemTypeService.deleteItemType
  refine (readOnly_existsIn .itemType id).guardedBy (fun _ h => h.elim) fun found => ?_
  split
  · exact .done _
  unfold SqliteItemTypeRepository.remove
  split
  · exact .done _
  next hid =>
  unfold SqliteItemTypeRepository.usageCount
  rw [if_neg hid]
  refine .step (fun _ => rfl) fun c => ?_
  show Prog.GuardedBy _ _ _ (Prog.catchWith
    (if 0 < (SqliteItemTypeRepository.usages c.db id : Int) then pure false else _) _)
  split
  · exact .done _
  next hunused =>
  refine .ready (fun _ row hrow hdependant => ?_) fun c => ⟨_, rfl⟩
  have hunreferenced := (usages_itemType_eq_zero_iff c.db id).mp (by omega)
  exact ((unreferenced_itemType_iff c.db id).mp hunreferenced).2.1 row hrow hdependant

/-- The guard of `deleteState`: items, and then edges. -/
theorem guarded_deleteState (env : Environment) (id : Int) :
    Prog.GuardedBy (state id).Clear (state id).Ready False (StateService.deleteState env id) := by
  unfold StateService.deleteState
  by_cases hid : 0 < id
  swap
  · unfold SqliteStateRepository.findById findByIdIn
    rw [if_pos (by omega)]
    exact .done _
  refine (readOnly_findState id).guardedBy (fun _ h => h.elim) fun found => ?_
  split
  · exact .done _
  unfold StateService.canDeleteState
  rw [Prog.bind_assoc]
  refine (readOnly_isUsedByItems id).guardedBy (fun _ h => h.elim) fun used => ?_
  cases used with
  | true => exact .done _
  | false =>
    -- the last look: the edges of the state
    rw [if_neg (by simp), Prog.bind_assoc]
    have hquery : SqliteEdgeRepository.findByStateId env id = findWhereIn env .edge
        (fun row => row.cols.beginStateId == id || row.cols.endStateId == id) byId
        SqliteEdgeRepository.mapRowToEdge := by
      unfold SqliteEdgeRepository.findByStateId
      rw [if_neg (by omega)]
    rw [hquery]
    refine .step (fun _ => rfl) fun c => ?_
    show Prog.GuardedBy _ _ _ (Prog.bind (.done ((findWhereIn env .edge _ byId
      SqliteEdgeRepository.mapRowToEdge).result c)) _)
    cases hedges : (findWhereIn env .edge
        (fun row => row.cols.beginStateId == id || row.cols.endStateId == id) byId
        SqliteEdgeRepository.mapRowToEdge).result c with
    | error e => exact .done _
    | ok edges =>
      cases edges with
      | cons edge edges => exact .done _
      | nil =>
        refine .ready (fun _ row hrow hdependant => ?_)
          (ready_remove (d := state id) hid fun removed => ?_)
        · obtain ⟨_, hnil, -⟩ := mem_result_findWhereIn hedges hrow
            (by simpa [HasRow] using hdependant)
          cases hnil
        · cases removed <;> exact ⟨_, rfl⟩

/-- The guard of `deleteWorkflow` has nothing to find. -/
theorem guarded_deleteWorkflow (env : Environment) (id : Int) :
    Prog.GuardedBy (workflow id).Clear (workflow id).Ready True
      (WorkflowService.deleteWorkflow env id) := by
  have hclear : ∀ c, True → (workflow id).Clear c := fun _ _ h => by cases h
  unfold WorkflowService.deleteWorkflow
  by_cases hid : 0 < id
  swap
  · unfold SqliteWorkflowRepository.findById findByIdIn
    rw [if_pos (by omega)]
    exact .done _
  refine (readOnly_findWorkflow id).guardedBy hclear fun found => ?_
  split
  · exact .done _
  refine (readOnly_canDeleteWorkflow env id).guardedBy hclear fun free => ?_
  split
  · exact .done _
  refine .ready trivial (ready_remove (d := workflow id) hid fun removed => ?_)
  cases removed <;> exact ⟨_, rfl⟩

/-- **What a guarded deletion does**: it looks, and deletes directly after a look that has found no
dependants, as far as it looks for them. -/
theorem guarded_serve (env : Environment) (d : Deletion) :
    Prog.GuardedBy d.Clear d.Ready (d.looks = false) (d.serve env) := by
  cases d with
  | itemType id => exact (guarded_deleteItemType id).mono fun h => h.elim
  | state id => exact (guarded_deleteState env id).mono fun h => h.elim
  | workflow id => exact (guarded_deleteWorkflow env id).mono fun _ => rfl

/-! ## Dependants -/

theorem values_fieldType_itemTypeId {dto : Dto.FieldType} {v : FieldTypeRow}
    (h : SqliteFieldTypeRepository.values dto = some v) : dto.itemTypeId = some v.itemTypeId := by
  simp only [SqliteFieldTypeRepository.values, Option.bind_eq_bind, Option.bind_eq_some_iff] at h
  obtain ⟨_, -, _, -, itemTypeId, hid, _, -, _, -, _, -, h⟩ := h
  cases h
  exact hid

theorem values_edge_states {dto : Dto.Edge} {v : EdgeRow}
    (h : SqliteEdgeRepository.values dto = some v) :
    dto.beginStateId = some v.beginStateId ∧ dto.endStateId = some v.endStateId := by
  simp only [SqliteEdgeRepository.values, Option.bind_eq_bind, Option.bind_eq_some_iff] at h
  obtain ⟨_, hbegin, _, hend, h⟩ := h
  cases h
  exact ⟨hbegin, hend⟩

theorem values_state_workflowId {dto : Dto.State} {v : StateRow}
    (h : SqliteStateRepository.values dto = some v) : dto.workflowId = some v.workflowId := by
  simp only [SqliteStateRepository.values, Option.bind_eq_bind, Option.bind_eq_some_iff] at h
  obtain ⟨_, hid, _, -, _, -, h⟩ := h
  cases h
  exact hid

theorem table_of_hasDependant {d : Deletion} {r : CreateRequest} (h : d.HasDependant r) :
    r.table = d.child := by
  cases d <;> cases r <;> first | rfl | exact h.elim

/-- The row of such a creation hangs on the target. -/
theorem hasRow_of_hasDependant {env : Environment} {sha256 : Bytes → Bytes} {d : Deletion}
    {r : CreateRequest} {v : Columns r.table} {n : Int} {db : Database V1} (h : d.HasDependant r)
    (hv : r.values env sha256 = some v) (hrow : ⟨n, v⟩ ∈ db.rows r.table) :
    ∃ row ∈ db.rows d.child, row.id = n ∧ d.HasRow row.cols := by
  cases d with
  | itemType id =>
    cases r with
    | fieldType dto =>
      refine ⟨_, hrow, rfl, ?_⟩
      exact Option.some.inj ((values_fieldType_itemTypeId hv).symm.trans h)
    | _ => exact h.elim
  | state id =>
    cases r with
    | edge dto =>
      obtain ⟨hbegin, hend⟩ := values_edge_states hv
      refine ⟨_, hrow, rfl, h.imp (fun h => ?_) fun h => ?_⟩
      · exact Option.some.inj (hbegin.symm.trans h)
      · exact Option.some.inj (hend.symm.trans h)
    | _ => exact h.elim
  | workflow id =>
    cases r with
    | state dto =>
      refine ⟨_, hrow, rfl, ?_⟩
      exact Option.some.inj ((values_state_workflowId hv).symm.trans h)
    | _ => exact h.elim

theorem onlyCascades_child (d : Deletion) : OnlyCascades d.child := by
  cases d <;> exact onlyCascades_of_allCascade rfl

/-- The reference by which it hangs there is a cascading foreign key. -/
theorem foreignKey_of_hasRow {d : Deletion} {c : Columns d.child} (h : d.HasRow c) :
    ∃ fk ∈ foreignKeys d.child, fk.cascades = true ∧ fk.parent = d.table ∧
      fk.column c = some d.id := by
  cases d with
  | itemType id =>
    exact ⟨cascade .itemType FieldTypeRow.itemTypeId, by simp [foreignKeys], rfl, rfl,
      congrArg some h⟩
  | state id =>
    rcases h with h | h
    · exact ⟨cascade .state EdgeRow.beginStateId, by simp [foreignKeys], rfl, rfl,
        congrArg some h⟩
    · exact ⟨cascade .state EdgeRow.endStateId, by simp [foreignKeys], rfl, rfl, congrArg some h⟩
  | workflow id =>
    exact ⟨cascade .workflow StateRow.workflowId, by simp [foreignKeys], rfl, rfl,
      congrArg some h⟩

/-- So the target is there, and its deletion takes the row along. -/
theorem hasRow_gone {d : Deletion} {db : Database V1} {row : Row d.child}
    (hrow : row ∈ db.rows d.child) (h : d.HasRow row.cols) :
    d.id ∈ db.ids d.table ∧ row.id ∉ (db.deleteById d.table d.id).2.ids d.child := by
  obtain ⟨⟨parent, column, onDelete⟩, hfk, hcascades, hparent, hcolumn⟩ := foreignKey_of_hasRow h
  obtain rfl : parent = d.table := hparent
  obtain ⟨target, htarget, hid⟩ : ∃ target ∈ db.rows d.table, target.id = d.id :=
    refsResolve_iff.mp (db.integral.refs d.child row hrow) _ hfk _ hcolumn
  refine ⟨Database.mem_ids.mpr ⟨target, htarget, hid⟩, fun hleft => ?_⟩
  have hroot : db.rootsOf d.table (fun q => q.id == d.id) d.table d.id = true :=
    Database.rootsOf_iff.mpr ⟨rfl, target, htarget, by simpa using hid, hid⟩
  obtain ⟨q, hq, hqid⟩ := Database.mem_ids.mp hleft
  apply ((Database.mem_deleteWhere_iff d.onlyCascades_child).mp hq).2
  rw [hqid]
  exact .cascade hrow hfk hcascades hcolumn (.root hroot)

end Deletion

/-! ## The race -/

/-- Deletions and creations under way. From outside it is observed which row a creation has
inserted, and which creations have inserted theirs since the latest step of a deletion. -/
structure DeletionRace {ι κ : Type} (deletion : ι → Deletion) (creation : κ → CreateRequest) where
  pool : Pool (ι ⊕ κ) Connection Error
    (Sum.elim (fun i => (deletion i).Answer) fun j => Option (creation j).Dto)
  own : κ → Option Int
  fresh : ι → κ → Bool

namespace DeletionRace

variable {ι κ : Type} [DecidableEq ι] [DecidableEq κ] {deletion : ι → Deletion}
  {creation : κ → CreateRequest}

/-- The row that the next step of the creation `j` will insert. -/
def inserts (T : DeletionRace deletion creation) (j : κ) : Option Int :=
  Traffic.insertedRow T.pool.state.db (T.pool.advance (.inr j)).state.db (creation j).table

/-- One of them does its next step. -/
def step (T : DeletionRace deletion creation) : ι ⊕ κ → DeletionRace deletion creation
  | .inl i => {
      pool := T.pool.advance (.inl i)
      own := T.own
      fresh := Function.update T.fresh i fun _ => false }
  | .inr j => {
      pool := T.pool.advance (.inr j)
      own := Function.update T.own j ((T.inserts j).or (T.own j))
      fresh := fun i => Function.update (T.fresh i) j ((T.inserts j).isSome || T.fresh i j) }

/-- All of them before their first step. -/
def start (env : Environment) (sha256 : Bytes → Bytes) (deletion : ι → Deletion)
    (creation : κ → CreateRequest) (c : Connection) : DeletionRace deletion creation where
  pool := {
    progs := Sum.rec (fun i => (deletion i).serve env) fun j => (creation j).serve env sha256
    state := c }
  own := fun _ => none
  fresh := fun _ _ => false

/-- The creation has answered with an entity. -/
def Acknowledged (T : DeletionRace deletion creation) (j : κ) : Prop :=
  ∃ dto, T.pool.outcome (.inr j) = some (.ok (some dto))

/-- Is the row of the creation in the database? -/
def stored (T : DeletionRace deletion creation) (c : Connection) (j : κ) : Bool :=
  (T.own j).any fun n => decide (n ∈ c.db.ids (creation j).table)

/-- Does the next step of the deletion `i` delete its target? -/
def deletes (T : DeletionRace deletion creation) (i : ι) : Bool :=
  decide ((deletion i).id ∈ T.pool.state.db.ids (deletion i).table) &&
    !decide ((deletion i).id ∈ (T.pool.advance (.inl i)).state.db.ids (deletion i).table)

/-- **What the clients expect**: a step of a deletion takes away no dependant of its target whose
creation has been acknowledged. -/
def Spares (T : DeletionRace deletion creation) : ι ⊕ κ → Prop
  | .inl i => ∀ j, (deletion i).HasDependant (creation j) → T.Acknowledged j →
      T.stored T.pool.state j = true → T.stored (T.pool.advance (.inl i)).state j = true
  | .inr _ => True

/-- A deletion deletes its target only where no acknowledged dependant has been inserted since its
latest step, which was the look of its guard; and where the guard does not look for dependants,
only where there is none at all. -/
def Unrivalled (T : DeletionRace deletion creation) : ι ⊕ κ → Prop
  | .inl i => T.deletes i = true → ∀ j, (deletion i).HasDependant (creation j) →
      T.Acknowledged j → T.stored T.pool.state j = true →
        (deletion i).looks = true ∧ T.fresh i j = false
  | .inr _ => True

/-! ## One step -/

end DeletionRace

/-- A deletion that is under way looks, or deletes. -/
theorem Deletion.next_cases {d : Deletion} {found : Prop} {p : Db d.Answer}
    (h : Prog.GuardedBy d.Clear d.Ready found p) (c : Connection) :
    (∃ p', Pool.next p c = (p', c) ∧ Prog.GuardedBy d.Clear d.Ready (d.Clear c) p') ∨
      found ∧ ∃ r, Pool.next p c = (.done r, { c with db := (c.db.deleteById d.table d.id).2 }) := by
  cases h with
  | done r => exact .inl ⟨_, rfl, .done r⟩
  | ready hfound hp => exact .inr ⟨hfound, hp c⟩
  | @step _ u n f hu hn =>
    refine .inl ⟨n c, ?_, hn c⟩
    show (n c, u c) = _
    rw [hu]

/-- A creation that is under way: it checks, or has its INSERT behind it. -/
inductive Creating (env : Environment) (sha256 : Bytes → Bytes) (r : CreateRequest) :
    Db (Option r.Dto) → Prop
  | checking {p : Db (Option r.Dto)} : Prog.ReadsThen (r.insertAndFind env sha256) p →
      Creating env sha256 r p
  | inserted {p : Db (Option r.Dto)} : Prog.ReadOnly p → Creating env sha256 r p

/-- Whatever a creation answers, it inserts its own row or nothing. -/
theorem Creating.next_cases {env : Environment} {sha256 : Bytes → Bytes} {r : CreateRequest}
    {p : Db (Option r.Dto)} (h : Creating env sha256 r p) (c : Connection) :
    (∃ p', Pool.next p c = (p', c) ∧ Creating env sha256 r p') ∨
      ∃ p' n v db, r.values env sha256 = some v ∧ c.db.insert r.table v = some (n, db) ∧
        Pool.next p c = (p', { db := db, lastInsertRowid := n }) ∧ Creating env sha256 r p' := by
  have hread : ∀ {p : Db (Option r.Dto)}, Prog.ReadOnly p →
      ∃ p', Pool.next p c = (p', c) ∧ Creating env sha256 r p' := by
    intro p hp
    cases hp with
    | done result => exact ⟨_, rfl, .inserted (.done result)⟩
    | @step u n f hu hn hf =>
      refine ⟨n c, ?_, .inserted (hn c)⟩
      show (n c, u c) = _
      rw [hu]
  cases h with
  | inserted hp => exact .inl (hread hp)
  | checking h =>
    cases h with
    | giveUp => exact .inl (hread (.done _))
    | throws e => exact .inl (hread (.done _))
    | @step u n f hu hn hf =>
      refine .inl ⟨n c, ?_, .checking (hn c)⟩
      show (n c, u c) = _
      rw [hu]
    | goOn =>
      rcases next_createAndFind (r.values env sha256) (findByIdIn r.table r.mapRow) c with
        ⟨result, -, hnext, -⟩ | ⟨v, n, db, hv, hi, hnext⟩
      · exact .inl ⟨_, hnext, .inserted (.done result)⟩
      · have hread := readOnly_findCreated (readOnly_findByIdIn r.table r.mapRow)
        exact .inr ⟨_, n, v, db, hv, hi, hnext, .inserted hread⟩

namespace DeletionRace

variable {ι κ : Type} {deletion : ι → Deletion} {creation : κ → CreateRequest}
  {env : Environment} {sha256 : Bytes → Bytes} {T : DeletionRace deletion creation}

/-- The dependants that are there have been inserted since the latest step of the deletion, as far
as its guard looks for them. -/
def OnlyFresh (T : DeletionRace deletion creation) (i : ι) : Prop :=
  (deletion i).looks = true → ∀ j, (deletion i).HasDependant (creation j) →
    T.stored T.pool.state j = true → T.fresh i j = true

/-- The invariant: a deletion comes to its DELETE only where the dependants are fresh. -/
structure Consistent (env : Environment) (sha256 : Bytes → Bytes)
    (T : DeletionRace deletion creation) : Prop where
  deletions : ∀ i, Prog.GuardedBy (deletion i).Clear (deletion i).Ready (T.OnlyFresh i)
    (T.pool.progs (.inl i))
  creations : ∀ j, Creating env sha256 (creation j) (T.pool.progs (.inr j))
  own_row : ∀ j n, T.own j = some n → n ≤ T.pool.state.db.seq (creation j).table ∧
    (OnlyCascades (creation j).table → n ∈ T.pool.state.db.ids (creation j).table →
      ∃ v, (creation j).values env sha256 = some v ∧
        ⟨n, v⟩ ∈ T.pool.state.db.rows (creation j).table)

theorem consistent_start [DecidableEq ι] [DecidableEq κ] (c : Connection) :
    Consistent env sha256 (start env sha256 deletion creation c) where
  deletions i := by
    refine ((deletion i).guarded_serve env).mono fun hlooks h => ?_
    rw [hlooks] at h
    cases h
  creations j := .checking ((creation j).serve_readsThen env sha256)
  own_row j n h := by cases h

/-- A dependant that is there hangs on the target. -/
theorem Consistent.hasRow (h : Consistent env sha256 T) {i : ι} {j : κ}
    (hdependant : (deletion i).HasDependant (creation j))
    (hstored : T.stored T.pool.state j = true) :
    ∃ row ∈ T.pool.state.db.rows (deletion i).child, T.own j = some row.id ∧
      (deletion i).HasRow row.cols := by
  obtain ⟨n, hown, hn⟩ : ∃ n, T.own j = some n ∧ n ∈ T.pool.state.db.ids (creation j).table := by
    simpa [stored, Option.any_eq_true] using hstored
  have hcascades : OnlyCascades (creation j).table := by
    rw [Deletion.table_of_hasDependant hdependant]
    exact (deletion i).onlyCascades_child
  obtain ⟨v, hv, hrow⟩ := (h.own_row j n hown).2 hcascades hn
  obtain ⟨row, hrow', hid, hhas⟩ := Deletion.hasRow_of_hasDependant hdependant hv hrow
  exact ⟨row, hrow', hid ▸ hown, hhas⟩

/-- What a deletion leaves of a database. -/
structure Shrinks (db db' : Database V1) : Prop where
  ids : ∀ {t n}, n ∈ db'.ids t → n ∈ db.ids t
  seq : db'.seq = db.seq
  rows : ∀ {t}, OnlyCascades t → ∀ row ∈ db.rows t, row.id ∈ db'.ids t → row ∈ db'.rows t

theorem Shrinks.refl (db : Database V1) : Shrinks db db := ⟨id, rfl, fun _ _ h _ => h⟩

theorem Shrinks.delete (db : Database V1) (t : Table) (id : Int) :
    Shrinks db (db.deleteById t id).2 where
  ids := Database.mem_ids_of_mem_deleteById
  seq := rfl
  rows := by
    intro u hu row hrow hid
    obtain ⟨row', hrow', heq⟩ := Database.mem_ids.mp hid
    have hold := ((Database.mem_deleteWhere_iff hu).mp hrow').1
    rwa [← db.integral.eq_of_id hold hrow heq]

variable [DecidableEq ι] [DecidableEq κ]

/-- A step of a deletion that leaves its program where it should be. -/
theorem Consistent.shrink (h : Consistent env sha256 T) {i : ι} {p : Db (deletion i).Answer}
    {c : Connection} (hnext : Pool.next (T.pool.progs (.inl i)) T.pool.state = (p, c))
    (hc : Shrinks T.pool.state.db c.db)
    (hp : Prog.GuardedBy (deletion i).Clear (deletion i).Ready
      ((T.step (.inl i)).OnlyFresh i) p) : Consistent env sha256 (T.step (.inl i)) := by
  have hadvance : T.pool.advance (.inl i) = ⟨Function.update T.pool.progs (.inl i) p, c⟩ := by
    rw [Pool.advance_eq]
    exact congrArg₂ Pool.mk (by rw [hnext]) (by rw [hnext])
  have hstate : (T.step (.inl i)).pool.state = c := by
    show (T.pool.advance (.inl i)).state = c
    rw [hadvance]
  have hself : (T.step (.inl i)).pool.progs (.inl i) = p := by
    show (T.pool.advance (.inl i)).progs (.inl i) = p
    rw [hadvance]
    exact Function.update_self _ _ _
  have hstored : ∀ j, (T.step (.inl i)).stored c j = true → T.stored T.pool.state j = true := by
    intro j hj
    simp only [stored, Option.any_eq_true, decide_eq_true_eq] at hj ⊢
    obtain ⟨n, hown, hn⟩ := hj
    exact ⟨n, hown, hc.ids hn⟩
  constructor
  case deletions =>
    intro k
    by_cases hk : k = i
    · subst hk
      rw [hself]
      exact hp
    · have hprog : (T.step (.inl i)).pool.progs (.inl k) = T.pool.progs (.inl k) :=
        Pool.advance_progs_of_ne (by simpa using hk)
      have hfresh : (T.step (.inl i)).fresh k = T.fresh k := Function.update_of_ne hk _ _
      rw [hprog]
      refine (h.deletions k).mono fun honly hlooks j hdependant hj => ?_
      rw [hstate] at hj
      rw [hfresh]
      exact honly hlooks j hdependant (hstored j hj)
  case creations =>
    intro j
    have hprog : (T.step (.inl i)).pool.progs (.inr j) = T.pool.progs (.inr j) :=
      Pool.advance_progs_of_ne (by simp)
    rw [hprog]
    exact h.creations j
  case own_row =>
    intro j n hn
    obtain ⟨hle, hrow⟩ := h.own_row j n hn
    rw [hstate, hc.seq]
    refine ⟨hle, fun hcascades hid => ?_⟩
    obtain ⟨v, hv, hmem⟩ := hrow hcascades (hc.ids hid)
    exact ⟨v, hv, hc.rows hcascades _ hmem hid⟩

/-- A step of a deletion. -/
theorem consistent_step_deletion (h : Consistent env sha256 T) (i : ι) :
    Consistent env sha256 (T.step (.inl i)) := by
  rcases Deletion.next_cases (h.deletions i) T.pool.state with
    ⟨p, hnext, hp⟩ | ⟨-, r, hnext⟩
  · refine h.shrink hnext (.refl _) (hp.mono fun hclear hlooks j hdependant hj => ?_)
    -- the look has found no dependant
    have hstate : (T.step (.inl i)).pool.state = T.pool.state := by
      show (T.pool.advance (.inl i)).state = T.pool.state
      rw [Pool.advance_eq]
      exact congrArg Prod.snd hnext
    rw [hstate] at hj
    obtain ⟨row, hrow, -, hhas⟩ := h.hasRow hdependant hj
    exact absurd hhas (hclear hlooks row hrow)
  · exact h.shrink hnext (.delete _ _ _) (.done r)

theorem step_of_quiet {j : κ} (hstate : (T.pool.advance (.inr j)).state = T.pool.state) :
    T.step (.inr j) = { pool := T.pool.advance (.inr j), own := T.own, fresh := T.fresh } := by
  have hins : T.inserts j = none := by rw [inserts, hstate, Traffic.insertedRow_self]
  simp [step, hins]

theorem step_of_insert {j : κ} {v : Columns (creation j).table} {n : Int} {db : Database V1}
    (hi : T.pool.state.db.insert (creation j).table v = some (n, db))
    (hstate : (T.pool.advance (.inr j)).state = { db := db, lastInsertRowid := n }) :
    T.step (.inr j) = {
      pool := T.pool.advance (.inr j)
      own := Function.update T.own j (some n)
      fresh := fun i => Function.update (T.fresh i) j true } := by
  have hins : T.inserts j = some n := by
    rw [inserts, hstate, Traffic.insertedRow_insert hi]
  simp [step, hins]

/-- The programs after the step of a creation. -/
theorem advance_creation {j : κ} {p : Db (Option (creation j).Dto)} {c : Connection}
    (hnext : Pool.next (T.pool.progs (.inr j)) T.pool.state = (p, c)) :
    (T.pool.advance (.inr j)).state = c ∧ (T.pool.advance (.inr j)).progs (.inr j) = p := by
  rw [Pool.advance_eq]
  exact ⟨congrArg Prod.snd hnext, (Function.update_self _ _ _).trans (congrArg Prod.fst hnext)⟩

/-- A step of a creation leaves the others where they are. -/
theorem Consistent.creations_advance (h : Consistent env sha256 T) {j : κ}
    {p : Db (Option (creation j).Dto)} {c : Connection}
    (hnext : Pool.next (T.pool.progs (.inr j)) T.pool.state = (p, c))
    (hp : Creating env sha256 (creation j) p) (k : κ) :
    Creating env sha256 (creation k) ((T.pool.advance (.inr j)).progs (.inr k)) := by
  by_cases hk : k = j
  · subst hk
    rw [(advance_creation hnext).2]
    exact hp
  · rw [Pool.advance_progs_of_ne (by simpa using hk)]
    exact h.creations k

theorem advance_creation_deletion (j : κ) (i : ι) :
    (T.pool.advance (.inr j)).progs (.inl i) = T.pool.progs (.inl i) :=
  Pool.advance_progs_of_ne (by simp)

/-- A step of a creation that does not insert. -/
theorem Consistent.quiet (h : Consistent env sha256 T) {j : κ}
    {p : Db (Option (creation j).Dto)}
    (hnext : Pool.next (T.pool.progs (.inr j)) T.pool.state = (p, T.pool.state))
    (hp : Creating env sha256 (creation j) p) : Consistent env sha256 (T.step (.inr j)) := by
  have hstate := (advance_creation hnext).1
  rw [step_of_quiet hstate]
  refine ⟨fun i => ?_, h.creations_advance hnext hp, ?_⟩
  · rw [advance_creation_deletion]
    refine (h.deletions i).mono fun honly hlooks k hdependant hk => ?_
    rw [hstate] at hk
    exact honly hlooks k hdependant hk
  · simpa only [hstate] using h.own_row

/-- The INSERT of a creation. -/
theorem Consistent.insert (h : Consistent env sha256 T) {j : κ}
    {p : Db (Option (creation j).Dto)} {n : Int} {v : Columns (creation j).table} {db : Database V1}
    (hv : (creation j).values env sha256 = some v)
    (hi : T.pool.state.db.insert (creation j).table v = some (n, db))
    (hnext : Pool.next (T.pool.progs (.inr j)) T.pool.state =
      (p, { db := db, lastInsertRowid := n }))
    (hp : Creating env sha256 (creation j) p) : Consistent env sha256 (T.step (.inr j)) := by
  have hstate := (advance_creation hnext).1
  have hn : n = T.pool.state.db.seq (creation j).table + 1 := (Database.insert_eq_some hi).1
  have hseq := (Database.insert_eq_some hi).2.2.2
  rw [step_of_insert hi hstate]
  refine ⟨fun i => ?_, h.creations_advance hnext hp, fun k m hm => ?_⟩
  · rw [advance_creation_deletion]
    refine (h.deletions i).mono fun honly hlooks k hdependant hk => ?_
    by_cases hkj : k = j
    · subst hkj
      exact Function.update_self _ _ _
    · -- the rows of the other creations are where they were
      rw [hstate] at hk
      simp only [stored, Function.update_of_ne hkj] at hk ⊢
      apply honly hlooks k hdependant
      simp only [stored, Option.any_eq_true, decide_eq_true_eq] at hk ⊢
      obtain ⟨m, hm, hid⟩ := hk
      exact ⟨m, hm, (Database.mem_ids_insert_iff hi (h.own_row k m hm).1).mp hid⟩
  · simp only [hstate]
    by_cases hkj : k = j
    · subst hkj
      obtain rfl : n = m := by simpa using hm
      refine ⟨by simp [hseq, hn], fun _ _ => ⟨v, hv, ?_⟩⟩
      rw [Database.insert_rows_self hi]
      simp
    · have hown : T.own k = some m := by simpa [hkj] using hm
      obtain ⟨hle, hrow⟩ := h.own_row k m hown
      have hseq' := Database.seq_le_of_insert hi (creation k).table
      refine ⟨by omega, fun hcascades hid => ?_⟩
      obtain ⟨w, hw, hmem⟩ := hrow hcascades ((Database.mem_ids_insert_iff hi hle).mp hid)
      refine ⟨w, hw, ?_⟩
      rw [(Database.insert_eq_some hi).2.2.1]
      exact Database.mem_insertRows_of_mem hmem

/-- A step of a creation. -/
theorem consistent_step_creation (h : Consistent env sha256 T) (j : κ) :
    Consistent env sha256 (T.step (.inr j)) := by
  rcases (h.creations j).next_cases T.pool.state with
    ⟨p, hnext, hp⟩ | ⟨p, n, v, db, hv, hi, hnext, hp⟩
  · exact h.quiet hnext hp
  · exact h.insert hv hi hnext hp

/-- **The step lemma.** -/
theorem consistent_step (h : Consistent env sha256 T) (x : ι ⊕ κ) :
    Consistent env sha256 (T.step x) := by
  cases x with
  | inl i => exact consistent_step_deletion h i
  | inr j => exact consistent_step_creation h j

/-- Where every deletion comes to its DELETE as the invariant says, what it takes is what was
inserted after the look. -/
theorem Consistent.spares_iff (h : Consistent env sha256 T) (x : ι ⊕ κ) :
    T.Spares x ↔ T.Unrivalled x := by
  cases x with
  | inr j => exact Iff.rfl
  | inl i =>
    have hadvance : (T.pool.advance (.inl i)).state =
        (Pool.next (T.pool.progs (.inl i)) T.pool.state).2 := by rw [Pool.advance_eq]
    rcases Deletion.next_cases (h.deletions i) T.pool.state with
      ⟨p, hnext, -⟩ | ⟨honly, r, hnext⟩
    · -- a look
      have hstate : (T.pool.advance (.inl i)).state = T.pool.state :=
        hadvance.trans (congrArg Prod.snd hnext)
      simp [Spares, Unrivalled, deletes, hstate]
    · -- the DELETE
      have hstate := hadvance.trans (congrArg Prod.snd hnext)
      constructor
      · intro hspares _ j hdependant hack hstored
        have hleft := hspares j hdependant hack hstored
        obtain ⟨row, hrow, hown, hhas⟩ := h.hasRow hdependant hstored
        refine absurd ?_ (Deletion.hasRow_gone hrow hhas).2
        rw [hstate, stored, hown] at hleft
        simpa [Deletion.table_of_hasDependant hdependant] using hleft
      · intro hunrivalled j hdependant hack hstored
        obtain ⟨row, hrow, -, hhas⟩ := h.hasRow hdependant hstored
        have hgone : (deletion i).id ∉
            (T.pool.state.db.deleteById (deletion i).table (deletion i).id).2.ids
              (deletion i).table := by
          rw [Database.mem_ids]
          rintro ⟨q, hq, hid⟩
          exact Database.id_ne_of_mem_deleteById hq hid
        have hdeletes : T.deletes i = true := by
          rw [deletes, hstate]
          simp [(Deletion.hasRow_gone hrow hhas).1, hgone]
        obtain ⟨hlooks, hfresh⟩ := hunrivalled hdeletes j hdependant hack hstored
        rw [honly hlooks j hdependant hstored] at hfresh
        cases hfresh

/-- **Which runs lose a dependant**: every step of a run spares the dependants whose creations have
been acknowledged exactly when every deletion of the run is unrivalled. -/
theorem deletions_spare_iff (env : Environment) (sha256 : Bytes → Bytes) (deletion : ι → Deletion)
    (creation : κ → CreateRequest) (c : Connection) (schedule : List (ι ⊕ κ)) :
    Along step Spares (start env sha256 deletion creation c) schedule ↔
      Along step Unrivalled (start env sha256 deletion creation c) schedule :=
  along_congr (J := Consistent env sha256) (fun _ x h => consistent_step h x)
    (fun _ x h => h.spares_iff x) (consistent_start c)

/-- An item type without fields. -/
def oneItemTypeStore : Connection :=
  [.createWorkflow { caption := some (bytes "Sales") },
    .createItemType {
      workflowId := some 1, caption := some (bytes "Deal"), kind := some (bytes "issue") }].foldl
    (Call.exec .reference) .fresh

/-- Its deletion and the creation of a field, one of each. -/
def deleteItemTypeOne (_ : Unit) : Deletion := .itemType 1

def createFieldOfOne (_ : Unit) : CreateRequest :=
  .fieldType {
    itemTypeId := some 1, caption := some (bytes "Sum"), valueType := some (bytes "Integer") }

/-- The guard looks, the field is created and its creation answered, and then the item type is
deleted with the field. -/
theorem deletion_takes_acknowledged_field :
    ¬ Along step Spares (start .reference id deleteItemTypeOne createFieldOfOne oneItemTypeStore)
      [.inl (), .inl (), .inr (), .inr (), .inr (), .inl ()] := by
  rintro ⟨-, -, -, -, -, hspares, -⟩
  have hleft := hspares () rfl ⟨{
    id := some 1, itemTypeId := some 1, caption := some (bytes "Sum"),
    valueType := some (bytes "Integer"), isBoardVisible := some false }, by rfl⟩ (by decide +kernel)
  revert hleft
  decide +kernel

end DeletionRace

end Farado
