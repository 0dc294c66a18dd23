import Farado.Lib.Steps.Runs
import Farado.Services.Effects
import Farado.Storage.Reference
import Farado.Workflows.Graph

/-!
# The default state of an item type

`ItemType.defaultStateId` is a reference without a foreign key, and no service checks it: an item
type can name any number as its default state, or move to another workflow and keep the state, and
a state can be deleted while item types name it. Only the deletion of a workflow is harmless, since
it takes the item types of the workflow along with the states.
-/

namespace Farado

open Relational Steps

/-- The default state, if there is one, is a state of the item type's workflow. -/
def DefaultFits (db : Database V1) (itemType : ItemTypeRow) : Prop :=
  ∀ d ∈ itemType.defaultStateId,
    ∃ s ∈ db.rows .state, s.id = d ∧ s.cols.workflowId = itemType.workflowId

/-- Every item type's default state is a state of its workflow. -/
def DefaultStatesFit (db : Database V1) : Prop :=
  ∀ t ∈ db.rows .itemType, DefaultFits db t.cols

instance (db : Database V1) (itemType : ItemTypeRow) : Decidable (DefaultFits db itemType) :=
  inferInstanceAs (Decidable (∀ d ∈ itemType.defaultStateId,
    ∃ s ∈ db.rows .state, s.id = d ∧ s.cols.workflowId = itemType.workflowId))

instance (db : Database V1) : Decidable (DefaultStatesFit db) :=
  inferInstanceAs (Decidable (∀ t ∈ db.rows .itemType, DefaultFits db t.cols))

/-- An item type is created and changed with a default state that fits, as far as its kind is valid
and its workflow exists; a state that no item is in and no edge touches is deleted only when no item
type names it. -/
def NamesOwnState (c : Connection) : Call → Prop
  | .createItemType itemType => ∀ v, SqliteItemTypeRepository.values itemType = some v →
      v.workflowId ∈ c.db.ids .workflow → DefaultFits c.db v
  | .updateItemType itemType =>
      (∀ kind ∈ itemType.kind, SqliteItemTypeRepository.validKinds.contains kind = true) →
      ∀ t ∈ c.db.rows .itemType, itemType.id = some t.id →
      ∀ v, v = applyAll (SqliteItemTypeRepository.setClauses itemType) t.cols →
        v.workflowId ∈ c.db.ids .workflow → DefaultFits c.db v
  | .deleteState id => (∀ item ∈ c.db.rows .item, item.cols.stateId ≠ id) →
      (∀ edge ∈ c.db.rows .edge, edge.cols.beginStateId ≠ id ∧ edge.cols.endStateId ≠ id) →
      ∀ t ∈ c.db.rows .itemType, t.cols.defaultStateId ≠ some id
  | _ => True

namespace DefaultStatesFit

variable {db db' : Database V1}

/-- More states, and no other item types. -/
theorem mono (h : DefaultStatesFit db) (ht : db'.rows .itemType = db.rows .itemType)
    (hs : ∀ s ∈ db.rows .state, ∃ s' ∈ db'.rows .state, s'.id = s.id ∧
      s'.cols.workflowId = s.cols.workflowId) : DefaultStatesFit db' := by
  rw [DefaultStatesFit, ht]
  intro t hmem d hd
  obtain ⟨s, hstate, rfl, hw⟩ := h t hmem d hd
  obtain ⟨s', hs', hid, hw'⟩ := hs s hstate
  exact ⟨s', hs', hid, hw'.trans hw⟩

theorem of_eq (h : DefaultStatesFit db) (ht : db'.rows .itemType = db.rows .itemType)
    (hs : db'.rows .state = db.rows .state) : DefaultStatesFit db' :=
  h.mono ht fun s hmem => ⟨s, hs ▸ hmem, rfl, rfl⟩

/-- A deletion that takes no default state of an item type it leaves. -/
theorem delete (h : DefaultStatesFit db) {t : Table} {id : Int}
    (hkeep : ∀ r ∈ db.rows .itemType, ∀ s ∈ db.rows .state, r.cols.defaultStateId = some s.id →
      s.cols.workflowId = r.cols.workflowId →
      db.Doomed (db.rootsOf t fun q => q.id == id) .state s.id →
      db.Doomed (db.rootsOf t fun q => q.id == id) .itemType r.id) :
    DefaultStatesFit (db.deleteById t id).2 := by
  intro r hr d hd
  obtain ⟨hr, hdoomed⟩ := (Database.mem_deleteWhere_iff onlyCascades_itemType).mp hr
  obtain ⟨s, hs, rfl, hw⟩ := h r hr d hd
  refine ⟨s, (Database.mem_deleteWhere_iff onlyCascades_state).mpr ⟨hs, ?_⟩, rfl, hw⟩
  intro hstate
  exact hdoomed (hkeep r hr s hs hd hw hstate)

/-- A deletion elsewhere than among workflows and states takes no state. -/
theorem deleteOther (h : DefaultStatesFit db) {t : Table} (id : Int) (hw : t ≠ .workflow)
    (hs : t ≠ .state) : DefaultStatesFit (db.deleteById t id).2 := by
  refine h.delete fun r _ s hmem _ _ hdoomed => ?_
  have hroot : ∀ u i, db.rootsOf t (fun q => q.id == id) u i = true → u = t :=
    fun u i hroot => (Database.rootsOf_iff.mp hroot).1
  rcases (doomed_state_iff hmem).mp hdoomed with hself | hworkflow
  · exact absurd (hroot _ _ hself).symm hs
  · obtain ⟨w, hwmem, hwid⟩ := state_workflow db hmem
    rw [← hwid, doomed_workflow_iff hwmem] at hworkflow
    exact absurd (hroot _ _ hworkflow).symm hw

/-- The states and the item types of a workflow go together. -/
theorem deleteWorkflow (h : DefaultStatesFit db) (id : Int) :
    DefaultStatesFit (db.deleteById .workflow id).2 := by
  refine h.delete fun r hr s hs _ hw hdoomed => ?_
  rw [doomed_itemType_iff hr, ← hw]
  refine ((doomed_state_iff hs).mp hdoomed).imp_left fun hroot => ?_
  exact absurd (Database.rootsOf_iff.mp hroot).1 (by simp)

theorem deleteState (h : DefaultStatesFit db) {id : Int}
    (hid : ∀ t ∈ db.rows .itemType, t.cols.defaultStateId ≠ some id) :
    DefaultStatesFit (db.deleteById .state id).2 := by
  refine h.delete fun r hr s hs hd _ hdoomed => ?_
  rcases (doomed_state_iff hs).mp hdoomed with hself | hworkflow
  · rw [Database.rootsOf_self hs] at hself
    obtain rfl : s.id = id := by simpa using hself
    exact absurd hd (hid r hr)
  · obtain ⟨w, hwmem, hwid⟩ := state_workflow db hs
    rw [← hwid, doomed_workflow_iff hwmem] at hworkflow
    exact absurd (Database.rootsOf_iff.mp hworkflow).1 (by simp)

theorem insertItemType (h : DefaultStatesFit db) {v : ItemTypeRow} {rowid : Int}
    (hv : DefaultFits db v) (hi : db.insert .itemType v = some (rowid, db')) :
    DefaultStatesFit db' := by
  have hs : db'.rows .state = db.rows .state := Database.insert_rows_of_ne hi (by simp)
  unfold DefaultStatesFit DefaultFits
  rw [hs]
  exact (Database.forall_mem_insert hi).mpr ⟨h, hv⟩

theorem insertState (h : DefaultStatesFit db) {v : StateRow} {rowid : Int}
    (hi : db.insert .state v = some (rowid, db')) : DefaultStatesFit db' := by
  refine h.mono (Database.insert_rows_of_ne hi (by simp)) fun s hs => ⟨s, ?_, rfl, rfl⟩
  rw [Database.insert_rows_self hi]
  exact List.mem_append_left _ hs

/-- No update moves a state to another workflow. -/
theorem updateState (h : DefaultStatesFit db) {id affected : Int} {f : StateRow → StateRow}
    (hf : ∀ c, (f c).workflowId = c.workflowId)
    (hupd : db.updateById .state id f = some (affected, db')) : DefaultStatesFit db' := by
  refine h.mono (Database.updateById_rows_of_ne hupd (by simp)) fun s hs => ?_
  rw [Database.updateById_rows_self hupd]
  exact ⟨_, List.mem_map_of_mem hs, Database.updateRow_id id f s,
    Database.updateRow_keeps (g := StateRow.workflowId) hf s⟩

theorem updateItemType (h : DefaultStatesFit db) {id affected : Int}
    {f : ItemTypeRow → ItemTypeRow}
    (hf : ∀ t ∈ db.rows .itemType, t.id = id → DefaultFits db (f t.cols))
    (hupd : db.updateById .itemType id f = some (affected, db')) : DefaultStatesFit db' := by
  have hs : db'.rows .state = db.rows .state := Database.updateById_rows_of_ne hupd (by simp)
  unfold DefaultStatesFit DefaultFits
  rw [hs, Database.updateById_rows_self hupd]
  intro t ht
  obtain ⟨old, hold, rfl⟩ := List.mem_map.mp ht
  by_cases hid : old.id = id
  · simp only [Database.updateRow, if_pos hid]
    exact hf old hold hid
  · simp only [Database.updateRow, if_neg hid]
    exact h old hold

end DefaultStatesFit

/-- An item type is written only where its workflow exists. -/
theorem workflow_of_insertItemType {db db' : Database V1} {v : ItemTypeRow} {rowid : Int}
    (hi : db.insert .itemType v = some (rowid, db')) : v.workflowId ∈ db.ids .workflow := by
  have hnew : (⟨rowid, v⟩ : Row .itemType) ∈ db'.rows .itemType := by
    rw [Database.insert_rows_self hi]
    simp
  have hw := itemType_workflow db' hnew
  rw [Database.insert_rows_of_ne hi (by simp)] at hw
  exact Database.mem_ids.mpr hw

theorem workflow_of_updateItemType {db db' : Database V1} {t : Row .itemType}
    (ht : t ∈ db.rows .itemType) {affected : Int} {f : ItemTypeRow → ItemTypeRow}
    (hupd : db.updateById .itemType t.id f = some (affected, db')) :
    (f t.cols).workflowId ∈ db.ids .workflow := by
  have hnew : (⟨t.id, f t.cols⟩ : Row .itemType) ∈ db'.rows .itemType := by
    rw [Database.updateById_rows_self hupd]
    refine List.mem_map.mpr ⟨t, ht, ?_⟩
    simp [Database.updateRow]
  have hw := itemType_workflow db' hnew
  rw [Database.updateById_rows_of_ne hupd (by simp)] at hw
  exact Database.mem_ids.mpr hw

/-- A kind that is not valid is refused. -/
theorem updateItemType_refused {itemType : Dto.ItemType} {kind : Bytes}
    (hkind : itemType.kind = some kind)
    (hvalid : SqliteItemTypeRepository.validKinds.contains kind = false) (c : Connection) :
    (ItemTypeService.updateItemType itemType).after c = c := by
  unfold ItemTypeService.updateItemType
  cases hid : itemType.id with
  | none => rfl
  | some id =>
    have hupdate : SqliteItemTypeRepository.update itemType = pure false := by
      unfold SqliteItemTypeRepository.update
      rw [hid, hkind]
      simp only [Option.isSome_some, Option.any_some, hvalid]
      rfl
    unfold Prog.after SqliteItemTypeRepository.exists
    dsimp only
    rw [Prog.run_bind_of_readOnly (readOnly_existsIn .itemType id), result_existsIn, hupdate]
    dsimp only
    split <;> rfl

/-- **One call.** -/
theorem DefaultStatesFit.exec {env : Environment} {c : Connection} {call : Call}
    (h : DefaultStatesFit c.db) (hok : NamesOwnState c call) :
    DefaultStatesFit (call.exec env c).db := by
  by_cases hrefused : ∃ itemType kind, call = .updateItemType itemType ∧
      itemType.kind = some kind ∧ SqliteItemTypeRepository.validKinds.contains kind = false
  · obtain ⟨itemType, kind, rfl, hkind, hvalid⟩ := hrefused
    show DefaultStatesFit ((ItemTypeService.updateItemType itemType).after c).db
    rwa [updateItemType_refused hkind hvalid]
  have heffect := call.exec_effect env c
  revert heffect
  generalize (call.exec env c).db = db'
  generalize hdb : c.db = db at h
  intro heffect
  cases heffect with
  | none => exact h
  | createWorkflow _ _ hi =>
    exact h.of_eq (Database.insert_rows_of_ne hi (by simp)) (Database.insert_rows_of_ne hi (by simp))
  | updateWorkflow _ _ _ hupd =>
    exact h.of_eq (Database.updateById_rows_of_ne hupd (by simp))
      (Database.updateById_rows_of_ne hupd (by simp))
  | deleteWorkflow => exact h.deleteWorkflow _
  | createState _ hi => exact h.insertState hi
  | updateState hupd => exact h.updateState (applyAll_state_workflowId _) hupd
  | deleteState hitems hedges =>
    subst hdb
    exact h.deleteState (hok hitems hedges)
  | createEdge _ _ _ hi =>
    exact h.of_eq (Database.insert_rows_of_ne hi (by simp)) (Database.insert_rows_of_ne hi (by simp))
  | deleteEdge => exact h.deleteOther _ (by simp) (by simp)
  | createItemType hv hi =>
    subst hdb
    exact h.insertItemType (hok _ hv (workflow_of_insertItemType hi)) hi
  | @updateItemType itemType _ _ _ _ hid hupd =>
    subst hdb
    have hkinds : ∀ kind ∈ itemType.kind,
        SqliteItemTypeRepository.validKinds.contains kind = true := by
      intro kind hkind
      by_contra hvalid
      exact hrefused ⟨itemType, kind, rfl, hkind, by simpa using hvalid⟩
    refine h.updateItemType (fun t ht htid => ?_) hupd
    subst htid
    exact hok hkinds t ht hid _ rfl (workflow_of_updateItemType ht hupd)
  | deleteItemType => exact h.deleteOther _ (by simp) (by simp)

/-- **Default states stay states of their workflow** in every run in which item types name states of
their own workflow and no named state is deleted. -/
theorem default_states_fit (env : Environment) (c : Connection) (hc : DefaultStatesFit c.db)
    (calls : List Call) (hok : Along (Call.exec env) NamesOwnState c calls) :
    DefaultStatesFit (calls.foldl (Call.exec env) c).db :=
  hok.invariant (I := fun c : Connection => DefaultStatesFit c.db)
    (fun _ _ h hcall => h.exec hcall) hc

/-- A workflow with a state, and an item type with a default state. -/
def oneItemType (defaultStateId : Int) : List Call :=
  [.createWorkflow { caption := some (bytes "Sales") },
    .createState { workflowId := some 1, caption := some (bytes "Open") },
    .createItemType {
      workflowId := some 1, defaultStateId := some defaultStateId, caption := some (bytes "Deal"),
      kind := some (bytes "issue") }]

/-- The item type gets another default state, and the first state is deleted. -/
def anotherDefaultState : List Call :=
  oneItemType 1 ++ [
    .createState { workflowId := some 1, caption := some (bytes "Won") },
    .updateItemType { id := some 1, defaultStateId := some 2 },
    .deleteState 1]

theorem default_states_fit_oneItemType :
    DefaultStatesFit (anotherDefaultState.foldl (Call.exec .reference) .fresh).db := by
  refine default_states_fit .reference .fresh (by simp [DefaultStatesFit, Connection.fresh,
    Database.empty]) _ ⟨trivial, trivial, ?created, trivial, ?updated, ?deleted, trivial⟩
  case created =>
    intro v hv _
    obtain rfl := Option.some.inj hv
    decide +kernel
  case updated =>
    rintro - t ht - v rfl -
    revert t
    decide +kernel
  case deleted =>
    intro _ _
    decide +kernel

/-- A default state that does not exist is stored as well. -/
theorem default_state_dangles : ¬ ∀ calls : List Call,
    DefaultStatesFit (calls.foldl (Call.exec .reference) .fresh).db := by
  intro h
  have hrun := h (oneItemType 7)
  revert hrun
  decide +kernel

end Farado
