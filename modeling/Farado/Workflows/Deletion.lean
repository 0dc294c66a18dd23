import Farado.Lib.Steps.Runs
import Farado.Services.Effects
import Farado.Storage.Reference
import Farado.Workflows.Graph

/-!
# Deleting a workflow and the items that hang on it

An item hangs on a workflow in two ways: through its state and through its item type. The guard of
`deleteWorkflow` looks at the first, the cascades of the DELETE follow both. Where every item's
state is in the workflow of its item type the two agree, and a deletion that succeeds spares all
items. `updateItemType` is the one call that can part them: it writes any `workflowId`, whatever
items the type has.
-/

namespace Farado

open Relational Steps

/-! ## Steps of a run -/

/-- A call of a service, or the insertion of an item. -/
inductive StoreStep where
  | call (operation : Call)
  | insertItem (item : ItemRow)

def StoreStep.exec (env : Environment) (c : Connection) : StoreStep → Connection
  | .call operation => operation.exec env c
  | .insertItem item => (insertInto .item item).after c

/-- The state of an inserted item belongs to the workflow of its item type. -/
def ItemFits (c : Connection) : StoreStep → Prop
  | .insertItem item => ∀ s ∈ c.db.rows .state, ∀ t ∈ c.db.rows .itemType,
      s.id = item.stateId → t.id = item.itemTypeId → s.cols.workflowId = t.cols.workflowId
  | .call _ => True

/-- An item type is moved to a workflow only where the states of all its items are in that
workflow. -/
def MovesWithItems (c : Connection) : StoreStep → Prop
  | .call (.updateItemType itemType) =>
      ∀ id ∈ itemType.id, ∀ w ∈ c.db.rows .workflow, itemType.workflowId = some w.id →
        ∀ item ∈ c.db.rows .item, item.cols.itemTypeId = id →
          ∀ s ∈ c.db.rows .state, s.id = item.cols.stateId → s.cols.workflowId = w.id
  | _ => True

instance (c : Connection) : ∀ step, Decidable (ItemFits c step)
  | .insertItem item => inferInstanceAs (Decidable
      (∀ s ∈ c.db.rows .state, ∀ t ∈ c.db.rows .itemType,
        s.id = item.stateId → t.id = item.itemTypeId → s.cols.workflowId = t.cols.workflowId))
  | .call _ => isTrue trivial

instance (c : Connection) (step : StoreStep) : Decidable (MovesWithItems c step) := by
  unfold MovesWithItems
  split <;> infer_instance

/-- Every item's state is in the workflow of its item type. -/
structure ItemInvariant (db : Database V1) : Prop where
  sameWorkflow : ∀ item ∈ db.rows .item, ∀ s ∈ db.rows .state, ∀ t ∈ db.rows .itemType,
    s.id = item.cols.stateId → t.id = item.cols.itemTypeId → s.cols.workflowId = t.cols.workflowId
  state_pos : ∀ s ∈ db.rows .state, 0 < s.id

/-! ## What a deletion leaves of the items -/

section
variable {db : Database V1} {roots : Table → Int → Bool}

/-- SET NULL touches neither the state nor the type of an item. -/
theorem mem_remaining_item {r : Row .item} (h : r ∈ db.remaining roots .item) :
    ∃ q ∈ db.rows .item, r.id = q.id ∧ r.cols.stateId = q.cols.stateId ∧
      r.cols.itemTypeId = q.cols.itemTypeId := by
  obtain ⟨q, hq, -, rfl⟩ := Database.mem_remaining.mp h
  -- the keys that SET NULL covers are `parentId` and `phaseId`
  have hkeep : ∀ {β : Type} (g : ItemRow → β), (∀ c p, g { c with parentId := p } = g c) →
      (∀ c p, g { c with phaseId := p } = g c) →
        g (Database.clearRefs (db.gone roots) (t := Table.item) q.cols) = g q.cols := by
    intro β g hparent hphase
    refine Database.foldl_clearRef_inv (S := V1) (t := Table.item) _ _ (fun _ hfk => hfk) g ?_ _
    intro fk hfk clear hclear c
    simp only [foreignKeys, List.mem_cons, List.not_mem_nil, or_false] at hfk
    rcases hfk with rfl | rfl | rfl | rfl <;> cases hclear
    · exact hparent c none
    · exact hphase c none
  exact ⟨q, hq, rfl, hkeep ItemRow.stateId (fun _ _ => rfl) (fun _ _ => rfl),
    hkeep ItemRow.itemTypeId (fun _ _ => rfl) (fun _ _ => rfl)⟩

end

/-- A deletion of a workflow on which no item hangs, either way, spares all items. -/
theorem items_spared {db : Database V1} {id : Int}
    (hstates : ∀ item ∈ db.rows .item, ∀ s ∈ db.rows .state, s.id = item.cols.stateId →
      s.cols.workflowId ≠ id)
    (htypes : ∀ item ∈ db.rows .item, ∀ t ∈ db.rows .itemType, t.id = item.cols.itemTypeId →
      t.cols.workflowId ≠ id) :
    (db.deleteById .workflow id).2.rows .item = db.rows .item := by
  have hroots : ∀ (t : Table) (i : Int), t ≠ .workflow →
      db.rootsOf .workflow (fun r => r.id == id) t i ≠ true := by
    intro t i ht h
    exact ht (Database.rootsOf_iff.mp h).1
  have hworkflow : ∀ i, db.Doomed (db.rootsOf .workflow fun r => r.id == id) .workflow i →
      (∃ w ∈ db.rows .workflow, w.id = i) → i = id := by
    rintro i h ⟨w, hw, rfl⟩
    obtain ⟨-, r, -, hr, hrid⟩ := Database.rootsOf_iff.mp ((doomed_workflow_iff hw).mp h)
    rw [← hrid]
    simpa using hr
  -- an item goes with its type or its state, and these go with their workflow
  have hitem : ∀ item ∈ db.rows .item,
      ¬ db.Doomed (db.rootsOf .workflow fun r => r.id == id) .item item.id := by
    intro item hmem h
    obtain ⟨t, ht, htid⟩ := item_itemType db hmem
    obtain ⟨s, hs, hsid⟩ := item_state db hmem
    rw [doomed_item_iff hmem, ← htid, doomed_itemType_iff ht, ← hsid, doomed_state_iff hs] at h
    rcases h with h | (h | h) | (h | h)
    · exact hroots _ _ (by decide) h
    · exact hroots _ _ (by decide) h
    · exact htypes item hmem t ht htid (hworkflow _ h (itemType_workflow db ht))
    · exact hroots _ _ (by decide) h
    · exact hstates item hmem s hs hsid (hworkflow _ h (state_workflow db hs))
  -- and none of its references is cleared: neither items nor phases go
  refine Database.remaining_eq_rows hitem fun item hmem fk hfk hset p hp hdoomed => ?_
  obtain ⟨q, hq, rfl⟩ := refsResolve_iff.mp (db.integral.refs .item item hmem) fk hfk p hp
  simp only [foreignKeys, List.mem_cons, List.not_mem_nil, or_false] at hfk
  rcases hfk with rfl | rfl | rfl | rfl
  · cases hset
  · exact hitem q hq hdoomed
  · cases hset
  · obtain ⟨project, hproject, hpid⟩ := refsResolve_iff.mp (db.integral.refs .phase q hq)
      (cascade .project PhaseRow.projectId) (by simp [foreignKeys]) _ rfl
    rcases (doomed_phase_iff hq).mp hdoomed with h | h
    · exact hroots _ _ (by decide) h
    · rw [← hpid] at h
      exact hroots _ _ (by decide) ((doomed_project_iff hproject).mp h)

/-! ## The invariant -/

namespace ItemInvariant

variable {db db' : Database V1}

/-- What keeps the workflow of every state and item type, and adds no item, keeps the invariant. -/
theorem of_rows (h : ItemInvariant db)
    (hs : ∀ s ∈ db'.rows .state, ∃ q ∈ db.rows .state, s.id = q.id ∧
      s.cols.workflowId = q.cols.workflowId)
    (ht : ∀ t ∈ db'.rows .itemType, ∃ q ∈ db.rows .itemType, t.id = q.id ∧
      t.cols.workflowId = q.cols.workflowId)
    (hi : ∀ i ∈ db'.rows .item, ∃ q ∈ db.rows .item, i.id = q.id ∧
      i.cols.stateId = q.cols.stateId ∧ i.cols.itemTypeId = q.cols.itemTypeId) :
    ItemInvariant db' := by
  constructor
  case sameWorkflow =>
    intro item hitem s hstate t htype hsid htid
    obtain ⟨item₀, hitem₀, -, hstateId, htypeId⟩ := hi item hitem
    obtain ⟨s₀, hs₀, hsid₀, hsw⟩ := hs s hstate
    obtain ⟨t₀, ht₀, htid₀, htw⟩ := ht t htype
    rw [hsw, htw]
    exact h.sameWorkflow item₀ hitem₀ s₀ hs₀ t₀ ht₀ (by rw [← hsid₀, hsid, hstateId])
      (by rw [← htid₀, htid, htypeId])
  case state_pos =>
    intro s hstate
    obtain ⟨s₀, hs₀, hsid₀, -⟩ := hs s hstate
    rw [hsid₀]
    exact h.state_pos s₀ hs₀

/-- A statement on a table outside keeps it. -/
theorem of_frame (h : ItemInvariant db) {t : Table} (hrows : ∀ u, u ≠ t → db'.rows u = db.rows u)
    (hs : Table.state ≠ t) (ht : Table.itemType ≠ t) (hi : Table.item ≠ t) : ItemInvariant db' := by
  refine h.of_rows ?_ ?_ ?_
  · rw [hrows _ hs]
    exact fun s hs => ⟨s, hs, rfl, rfl⟩
  · rw [hrows _ ht]
    exact fun t ht => ⟨t, ht, rfl, rfl⟩
  · rw [hrows _ hi]
    exact fun i hi => ⟨i, hi, rfl, rfl, rfl⟩

/-- A deletion in any table keeps it. -/
theorem delete (h : ItemInvariant db) (t : Table) (id : Int) :
    ItemInvariant (db.deleteById t id).2 := by
  refine h.of_rows ?_ ?_ fun i hi => mem_remaining_item hi
  · exact fun s hs => ⟨s, (Database.deleteWhere_sublist onlyCascades_state).subset hs, rfl, rfl⟩
  · exact fun t ht => ⟨t, (Database.deleteWhere_sublist onlyCascades_itemType).subset ht, rfl, rfl⟩

/-- No item knows a new state yet. -/
theorem insertState (h : ItemInvariant db) {v : StateRow} {rowid : Int}
    (hins : db.insert .state v = some (rowid, db')) : ItemInvariant db' := by
  have ht : db'.rows .itemType = db.rows .itemType := Database.insert_rows_of_ne hins (by simp)
  have hi : db'.rows .item = db.rows .item := Database.insert_rows_of_ne hins (by simp)
  constructor
  case sameWorkflow =>
    rw [ht, hi]
    intro item hitem s hs t htype hsid htid
    obtain ⟨q, hq, hqid⟩ := item_state db hitem
    have hs' := Database.mem_of_mem_insert hins hs hq (hqid.trans hsid.symm)
    exact h.sameWorkflow item hitem s hs' t htype hsid htid
  case state_pos =>
    exact (Database.forall_mem_insert hins).mpr ⟨h.state_pos, Database.insert_id_pos hins⟩

/-- No item has a new item type yet. -/
theorem insertItemType (h : ItemInvariant db) {v : ItemTypeRow} {rowid : Int}
    (hins : db.insert .itemType v = some (rowid, db')) : ItemInvariant db' := by
  have hs : db'.rows .state = db.rows .state := Database.insert_rows_of_ne hins (by simp)
  have hi : db'.rows .item = db.rows .item := Database.insert_rows_of_ne hins (by simp)
  constructor
  case sameWorkflow =>
    rw [hs, hi]
    intro item hitem s hstate t htype hsid htid
    obtain ⟨q, hq, hqid⟩ := item_itemType db hitem
    have ht' := Database.mem_of_mem_insert hins htype hq (hqid.trans htid.symm)
    exact h.sameWorkflow item hitem s hstate t ht' hsid htid
  case state_pos =>
    rw [hs]
    exact h.state_pos

/-- An inserted item has to fit. -/
theorem insertItem (h : ItemInvariant db) {v : ItemRow} {rowid : Int}
    (hfits : ∀ s ∈ db.rows .state, ∀ t ∈ db.rows .itemType,
      s.id = v.stateId → t.id = v.itemTypeId → s.cols.workflowId = t.cols.workflowId)
    (hins : db.insert .item v = some (rowid, db')) : ItemInvariant db' := by
  have hs : db'.rows .state = db.rows .state := Database.insert_rows_of_ne hins (by simp)
  have ht : db'.rows .itemType = db.rows .itemType := Database.insert_rows_of_ne hins (by simp)
  constructor
  case sameWorkflow =>
    rw [hs, ht]
    exact (Database.forall_mem_insert hins).mpr ⟨h.sameWorkflow, hfits⟩
  case state_pos =>
    rw [hs]
    exact h.state_pos

/-- An update that leaves `workflowId` alone moves no state. -/
theorem updateState (h : ItemInvariant db) {id affected : Int} {f : StateRow → StateRow}
    (hf : ∀ c, (f c).workflowId = c.workflowId)
    (hupd : db.updateById .state id f = some (affected, db')) : ItemInvariant db' := by
  have ht : db'.rows .itemType = db.rows .itemType :=
    Database.updateById_rows_of_ne hupd (by simp)
  have hi : db'.rows .item = db.rows .item := Database.updateById_rows_of_ne hupd (by simp)
  refine h.of_rows ?_ ?_ ?_
  · rw [Database.updateById_rows_self hupd]
    intro s hs
    obtain ⟨q, hq, rfl⟩ := List.mem_map.mp hs
    exact ⟨q, hq, Database.updateRow_id _ _ _,
      Database.updateRow_keeps (g := StateRow.workflowId) hf q⟩
  · rw [ht]
    exact fun t ht => ⟨t, ht, rfl, rfl⟩
  · rw [hi]
    exact fun i hi => ⟨i, hi, rfl, rfl, rfl⟩

/-- An update of an item type has to take the items along. -/
theorem updateItemType (h : ItemInvariant db) {id affected : Int} {f : ItemTypeRow → ItemTypeRow}
    (hf : ∀ item ∈ db.rows .item, item.cols.itemTypeId = id → ∀ s ∈ db.rows .state,
      s.id = item.cols.stateId → ∀ t ∈ db.rows .itemType, t.id = id →
        s.cols.workflowId = (f t.cols).workflowId)
    (hupd : db.updateById .itemType id f = some (affected, db')) : ItemInvariant db' := by
  have hs : db'.rows .state = db.rows .state := Database.updateById_rows_of_ne hupd (by simp)
  have hi : db'.rows .item = db.rows .item := Database.updateById_rows_of_ne hupd (by simp)
  constructor
  case sameWorkflow =>
    rw [hs, hi, Database.updateById_rows_self hupd]
    intro item hitem s hstate t htype hsid htid
    obtain ⟨t₀, ht₀, rfl⟩ := List.mem_map.mp htype
    rw [Database.updateRow_id] at htid
    by_cases hid : t₀.id = id
    · simp only [Database.updateRow, if_pos hid]
      exact hf item hitem (htid.symm.trans hid) s hstate hsid t₀ ht₀ hid
    · simp only [Database.updateRow, if_neg hid]
      exact h.sameWorkflow item hitem s hstate t₀ ht₀ hsid htid
  case state_pos =>
    rw [hs]
    exact h.state_pos

/-- **A deletion that the guard lets through spares all items.** -/
theorem items_spared (h : ItemInvariant db) {id : Int} (hguard : NoItemInStatesOf db id) :
    (db.deleteById .workflow id).2.rows .item = db.rows .item := by
  have hstates : ∀ item ∈ db.rows .item, ∀ s ∈ db.rows .state, s.id = item.cols.stateId →
      s.cols.workflowId ≠ id := by
    intro item hitem s hs hsid hw
    exact hguard s hs hw (h.state_pos s hs) item hitem hsid.symm
  refine Farado.items_spared hstates fun item hitem t ht htid => ?_
  obtain ⟨s, hs, hsid⟩ := item_state db hitem
  rw [← h.sameWorkflow item hitem s hs t ht hsid htid]
  exact hstates item hitem s hs hsid

end ItemInvariant

/-- What an update makes of the workflow of an item type. -/
theorem applyAll_itemType_workflowId (itemType : Dto.ItemType) (c : ItemTypeRow) :
    (applyAll (SqliteItemTypeRepository.setClauses itemType) c).workflowId =
      itemType.workflowId.getD c.workflowId := by
  unfold SqliteItemTypeRepository.setClauses setIfPresent applyAll
  cases itemType.workflowId <;> cases itemType.defaultStateId <;> cases itemType.caption <;>
    cases itemType.kind <;> cases itemType.defaultContent <;> rfl

/-- An UPDATE leaves an item type in a workflow that was there before. -/
theorem updated_itemType_workflow {db db' : Database V1} {id affected : Int}
    {f : ItemTypeRow → ItemTypeRow} (hupd : db.updateById .itemType id f = some (affected, db'))
    {t : Row .itemType} (ht : t ∈ db.rows .itemType) (htid : t.id = id) :
    ∃ w ∈ db.rows .workflow, w.id = (f t.cols).workflowId := by
  have hrow : Database.updateRow id f t ∈ db'.rows .itemType := by
    rw [Database.updateById_rows_self hupd]
    exact List.mem_map_of_mem ht
  obtain ⟨w, hw, hwid⟩ := itemType_workflow db' hrow
  rw [Database.updateById_rows_of_ne hupd (by simp)] at hw
  rw [Database.updateRow, if_pos htid] at hwid
  exact ⟨w, hw, hwid⟩

/-- **One call.** -/
theorem ItemInvariant.exec_call {env : Environment} {c : Connection} {operation : Call}
    (h : ItemInvariant c.db) (hmoves : MovesWithItems c (.call operation)) :
    ItemInvariant (operation.exec env c).db := by
  have heffect := operation.exec_effect env c
  revert heffect
  generalize (operation.exec env c).db = db'
  generalize hdb : c.db = db at h
  intro heffect
  cases heffect with
  | none => exact h
  | createWorkflow _ _ hi =>
    exact h.of_frame (fun _ => Database.insert_rows_of_ne hi) (by decide) (by decide) (by decide)
  | updateWorkflow _ _ _ hupd =>
    exact h.of_frame (fun _ => Database.updateById_rows_of_ne hupd) (by decide) (by decide)
      (by decide)
  | deleteWorkflow => exact h.delete _ _
  | createState _ hi => exact h.insertState hi
  | updateState hupd => exact h.updateState (applyAll_state_workflowId _) hupd
  | deleteState => exact h.delete _ _
  | createEdge _ _ _ hi =>
    exact h.of_frame (fun _ => Database.insert_rows_of_ne hi) (by decide) (by decide) (by decide)
  | deleteEdge => exact h.delete _ _
  | createItemType _ hi => exact h.insertItemType hi
  | @updateItemType itemType id _ _ _ hid hupd =>
    subst hdb
    refine h.updateItemType ?_ hupd
    intro item hitem hitemType s hs hsid t ht htid
    rw [applyAll_itemType_workflowId]
    cases hw : itemType.workflowId with
    | none => exact h.sameWorkflow item hitem s hs t ht hsid (htid.trans hitemType.symm)
    | some workflowId =>
      -- the foreign key admits the update only where the new workflow exists
      obtain ⟨w, hmem, hwid⟩ := updated_itemType_workflow hupd ht htid
      rw [applyAll_itemType_workflowId, hw] at hwid
      obtain rfl : w.id = workflowId := hwid
      exact hmoves id hid w hmem hw item hitem hitemType s hs hsid
  | deleteItemType => exact h.delete _ _

/-- **One step.** -/
theorem ItemInvariant.exec {env : Environment} {c : Connection} {step : StoreStep}
    (h : ItemInvariant c.db) (hfits : ItemFits c step) (hmoves : MovesWithItems c step) :
    ItemInvariant (step.exec env c).db := by
  cases step with
  | call operation => exact h.exec_call hmoves
  | insertItem item =>
    show ItemInvariant ((insertInto .item item).run c).2.db
    rcases run_insertInto .item item c with ⟨rowid, db, hi, hrun⟩ | ⟨-, hrun⟩
    · rw [hrun]
      exact h.insertItem hfits hi
    · rw [hrun]
      exact h

/-- Whenever `deleteWorkflow` succeeds, all items are still there and unchanged. -/
def DeletionSparesItems (env : Environment) (c : Connection) : Prop :=
  ∀ (id : Int) (result : ServiceResult) (c' : Connection),
    (WorkflowService.deleteWorkflow env id).run c = (.ok result, c') → result.success = true →
      c'.db.rows .item = c.db.rows .item

theorem ItemInvariant.deletionSparesItems {env : Environment} {c : Connection}
    (h : ItemInvariant c.db) : DeletionSparesItems env c := by
  intro id result c' hrun _
  have heffect := deleteWorkflow_effect hrun
  revert heffect
  generalize hdb' : c'.db = db'
  generalize hdb : c.db = db at h
  intro heffect
  cases heffect with
  | none => rfl
  | deleteWorkflow _ hguard => exact h.items_spared hguard

/-- **Deleting a workflow destroys no item**, in every state of every run that starts without items
and moves item types only together with their items. -/
theorem deletion_spares_items (env : Environment) (c : Connection) (steps : List StoreStep)
    (hitems : c.db.rows .item = []) (hids : ∀ s ∈ c.db.rows .state, 0 < s.id)
    (hfits : Along (StoreStep.exec env) ItemFits c steps)
    (hmoves : Along (StoreStep.exec env) MovesWithItems c steps) :
    DeletionSparesItems env (steps.foldl (StoreStep.exec env) c) := by
  have hinit : ItemInvariant c.db := ⟨by simp [hitems], hids⟩
  have hinv : ItemInvariant (steps.foldl (StoreStep.exec env) c).db :=
    Along.invariant (I := fun c : Connection => ItemInvariant c.db)
      (fun _ _ h hok => h.exec hok.1 hok.2) hinit (hfits.and hmoves)
  exact hinv.deletionSparesItems

/-- Two workflows, a state, an item type and an item in the first one. -/
def oneItem : List StoreStep :=
  [.call (.createWorkflow { caption := some (bytes "Sales") }),
    .call (.createWorkflow { caption := some (bytes "Support") }),
    .call (.createState { workflowId := some 1, caption := some (bytes "New") }),
    .call (.createItemType {
      workflowId := some 1, caption := some (bytes "Task"), kind := some (bytes "issue") }),
    .insertItem {
      itemTypeId := 1, parentId := none, stateId := 1, phaseId := none, caption := bytes "Call back",
      content := none, searchCaption := none, searchContent := none, isDeleted := 0 }]

/-- Then an item type that has no items yet moves to the second workflow, and the other one is sent
its own workflow with a new caption. -/
def movedItemType : List StoreStep :=
  oneItem ++ [
    .call (.createItemType {
      workflowId := some 1, caption := some (bytes "Bug"), kind := some (bytes "issue") }),
    .call (.updateItemType { id := some 2, workflowId := some 2 }),
    .call (.updateItemType {
      id := some 1, workflowId := some 1, caption := some (bytes "Request") })]

theorem deletion_spares_items_oneItem : DeletionSparesItems Environment.reference
    (movedItemType.foldl (StoreStep.exec Environment.reference) Connection.fresh) :=
  deletion_spares_items Environment.reference Connection.fresh movedItemType rfl (by decide)
    (by decide) (by decide)

/-- Once the item type has been moved to the second workflow, deleting that one succeeds and takes
the item along. -/
theorem deletion_destroys_item : ¬ ∀ steps : List StoreStep,
    Along (StoreStep.exec Environment.reference) ItemFits Connection.fresh steps →
      DeletionSparesItems Environment.reference
        (steps.foldl (StoreStep.exec Environment.reference) Connection.fresh) := by
  intro h
  have hspared := h (oneItem ++ [.call (.updateItemType { id := some 1, workflowId := some 2 })])
    (by decide) 2 { success := true } _ rfl rfl
  have hlength := congrArg List.length hspared
  revert hlength
  decide

end Farado
