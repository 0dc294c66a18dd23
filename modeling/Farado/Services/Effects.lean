import Farado.Repositories.Readers
import Farado.Repositories.Removal
import Farado.Services.ItemType
import Mathlib.Tactic.Tauto
import Mathlib.Data.Option.Basic

/-!
# What one call can do to the database

`Call` lists the calls of the workflow, state, edge and item type services that can write.
`Effect` says, case by case, what each of them may do, with the facts its guards have established
by then; `Call.exec_effect` proves that it does nothing else. Whatever the calls keep invariant is
read off `Effect`, without looking at the services again.
-/

namespace Farado

open Relational Steps

/-- The writing calls. -/
inductive Call where
  | createWorkflow (workflow : Dto.Workflow)
  | updateWorkflow (workflow : Dto.Workflow)
  | deleteWorkflow (id : Int)
  | createState (state : Dto.State)
  | updateState (state : Dto.State)
  | deleteState (id : Int)
  | createEdge (edge : Dto.Edge)
  | deleteEdge (id : Int)
  | createItemType (itemType : Dto.ItemType)
  | updateItemType (itemType : Dto.ItemType)
  | deleteItemType (id : Int)

/-- The connection after a call, whatever the call returns or throws. -/
def Call.exec (env : Environment) (c : Connection) : Call → Connection
  | .createWorkflow workflow => (WorkflowService.createWorkflow workflow).after c
  | .updateWorkflow workflow => (WorkflowService.updateWorkflow workflow).after c
  | .deleteWorkflow id => (WorkflowService.deleteWorkflow env id).after c
  | .createState state => (StateService.createState state).after c
  | .updateState state => (StateService.updateState state).after c
  | .deleteState id => (StateService.deleteState env id).after c
  | .createEdge edge => (EdgeService.createEdge edge).after c
  | .deleteEdge id => (EdgeService.deleteEdge id).after c
  | .createItemType itemType => (ItemTypeService.createItemType itemType).after c
  | .updateItemType itemType => (ItemTypeService.updateItemType itemType).after c
  | .deleteItemType id => (ItemTypeService.deleteItemType id).after c

/-- No workflow row has this caption stored. -/
def CaptionFree (db : Database V1) (caption : Bytes) : Prop :=
  ∀ row ∈ db.rows .workflow, row.cols.caption ≠ caption

/-- No item is in a state of the workflow (the guard passes over states with ids below 1, which
AUTOINCREMENT never assigns). -/
def NoItemInStatesOf (db : Database V1) (workflowId : Int) : Prop :=
  ∀ state ∈ db.rows .state, state.cols.workflowId = workflowId → 0 < state.id →
    ∀ item ∈ db.rows .item, item.cols.stateId ≠ state.id

/-- What a call may do. -/
inductive Effect : Call → Database V1 → Database V1 → Prop
  | none (call : Call) (db : Database V1) : Effect call db db
  | createWorkflow {workflow : Dto.Workflow} {v : WorkflowRow} {rowid : Int} {db db' : Database V1} :
      SqliteWorkflowRepository.values workflow = some v → CaptionFree db v.caption →
      db.insert .workflow v = some (rowid, db') → Effect (.createWorkflow workflow) db db'
  | updateWorkflow {workflow : Dto.Workflow} {old : Row .workflow} {affected : Int}
      {db db' : Database V1} :
      workflow.id = some old.id → old ∈ db.rows .workflow →
      (∀ caption, workflow.caption = some caption →
        caption = cString old.cols.caption ∨ caption = [] ∨ CaptionFree db (bindString caption)) →
      db.updateById .workflow old.id (applyAll (SqliteWorkflowRepository.setClauses workflow)) =
        some (affected, db') → Effect (.updateWorkflow workflow) db db'
  | deleteWorkflow {id : Int} {db : Database V1} : 0 < id → NoItemInStatesOf db id →
      Effect (.deleteWorkflow id) db (db.deleteById .workflow id).2
  | createState {state : Dto.State} {v : StateRow} {rowid : Int} {db db' : Database V1} :
      SqliteStateRepository.values state = some v →
      db.insert .state v = some (rowid, db') → Effect (.createState state) db db'
  | updateState {state : Dto.State} {id affected : Int} {db db' : Database V1} :
      db.updateById .state id (applyAll (SqliteStateRepository.setClauses state)) =
        some (affected, db') → Effect (.updateState state) db db'
  | deleteState {id : Int} {db : Database V1} :
      (∀ item ∈ db.rows .item, item.cols.stateId ≠ id) →
      (∀ edge ∈ db.rows .edge, edge.cols.beginStateId ≠ id ∧ edge.cols.endStateId ≠ id) →
      Effect (.deleteState id) db (db.deleteById .state id).2
  | createEdge {edge : Dto.Edge} {b e : Row .state} {rowid : Int} {db db' : Database V1} :
      b ∈ db.rows .state → e ∈ db.rows .state → b.cols.workflowId = e.cols.workflowId →
      db.insert .edge { beginStateId := b.id, endStateId := e.id } = some (rowid, db') →
      Effect (.createEdge edge) db db'
  | deleteEdge {id : Int} {db : Database V1} :
      Effect (.deleteEdge id) db (db.deleteById .edge id).2
  | createItemType {itemType : Dto.ItemType} {v : ItemTypeRow} {rowid : Int}
      {db db' : Database V1} :
      SqliteItemTypeRepository.values itemType = some v →
      db.insert .itemType v = some (rowid, db') → Effect (.createItemType itemType) db db'
  | updateItemType {itemType : Dto.ItemType} {id affected : Int} {db db' : Database V1} :
      itemType.id = some id →
      db.updateById .itemType id (applyAll (SqliteItemTypeRepository.setClauses itemType)) =
        some (affected, db') → Effect (.updateItemType itemType) db db'
  | deleteItemType {id : Int} {db : Database V1} :
      (∀ item ∈ db.rows .item, item.cols.itemTypeId ≠ id) →
      Effect (.deleteItemType id) db (db.deleteById .itemType id).2

/-! ## The common tails -/

section
variable {Dto : Type} {t : Table} {c c' : Connection} {r : Except Error (Option Dto)}

/-- `createAndFind` inserts the bound values or leaves the connection alone. -/
theorem run_createAndFind {values : Option (Columns t)} {find : Int → Db (Option Dto)}
    (hfind : ∀ id, Prog.ReadOnly (find id))
    (h : (createAndFind (createIn t values) find).run c = (r, c')) :
    c' = c ∨ ∃ v rowid db, values = some v ∧ c.db.insert t v = some (rowid, db) ∧
      c' = { db := db, lastInsertRowid := rowid } := by
  have hkeep : ∀ id : Int, Prog.ReadOnly (if id ≤ 0 then pure none else find id) :=
    fun id => .ite (Prog.readOnly_pure _) (hfind id)
  rcases Prog.run_bind_cases h with ⟨newId, c₁, hc, hk⟩ | ⟨e, hc, -⟩
  · rw [(hkeep newId).run_eq] at hk
    cases hk
    rcases run_createIn hc with ⟨-, -, rfl⟩ | ⟨v, hv, ⟨rowid, db, hi, -, rfl⟩ | ⟨-, -, rfl⟩⟩
    · exact .inl rfl
    · exact .inr ⟨v, rowid, db, hv, hi, rfl⟩
    · exact .inl rfl
  · rcases run_createIn hc with ⟨-, -, rfl⟩ | ⟨v, hv, ⟨rowid, db, hi, -, rfl⟩ | ⟨-, -, rfl⟩⟩
    · exact .inl rfl
    · exact .inr ⟨v, rowid, db, hv, hi, rfl⟩
    · exact .inl rfl

/-- `updateAndFind` changes the row or leaves the connection alone. -/
theorem run_updateAndFind {id : Option Int} {setClauses : List (Columns t → Columns t)}
    {find : Db (Option Dto)} (hfind : Prog.ReadOnly find)
    (h : (updateAndFind (updateIn t id setClauses) find).run c = (r, c')) :
    c' = c ∨ ∃ i affected db, id = some i ∧
      c.db.updateById t i (applyAll setClauses) = some (affected, db) ∧
      c' = { c with db := db } := by
  have hcase : ∀ {r : Except Error Bool} {c₁ : Connection},
      (updateIn t id setClauses).run c = (r, c₁) → c' = c₁ →
        c' = c ∨ ∃ i affected db, id = some i ∧
          c.db.updateById t i (applyAll setClauses) = some (affected, db) ∧
          c' = { c with db := db } := by
    rintro r c₁ hu rfl
    rcases run_updateIn hu with ⟨-, rfl⟩ | ⟨i, affected, db, hi, -, hupd, -, rfl⟩
    · exact .inl rfl
    · exact .inr ⟨i, affected, db, hi, hupd, rfl⟩
  rcases Prog.run_bind_cases h with ⟨done, c₁, hu, hk⟩ | ⟨e, hu, -⟩
  · rw [(Prog.ReadOnly.ite (Prog.readOnly_pure _) hfind).run_eq] at hk
    cases hk
    exact hcase hu rfl
  · exact hcase hu rfl

/-- Where the values can be bound, it is the schema that decides. -/
theorem after_createAndFind {v : Columns t} {find : Int → Db (Option Dto)}
    (hfind : ∀ id, Prog.ReadOnly (find id)) (c : Connection) :
    (createAndFind (createIn t (some v)) find).after c =
      (c.db.insert t v).elim c fun x => { db := x.2, lastInsertRowid := x.1 } := by
  have hkeep : ∀ id : Int, Prog.ReadOnly (if id ≤ 0 then pure none else find id) :=
    fun id => .ite (Prog.readOnly_pure _) (hfind id)
  unfold Prog.after createAndFind
  rw [Prog.run_bind]
  unfold createIn
  dsimp only
  rcases run_insertInto t v c with ⟨rowid, db, hi, hrun⟩ | ⟨hi, hrun⟩
  · rw [Prog.run_bind_ok hrun, hi]
    show ((if rowid ≤ 0 then pure none else find rowid).run _).2 = _
    rw [(hkeep rowid).run_eq, Option.elim_some]
  · rw [Prog.run_bind_error hrun, hi, Option.elim_none]

/-- The same of an update that writes something. -/
theorem after_updateAndFind {id : Int} {setClauses : List (Columns t → Columns t)}
    {find : Db (Option Dto)} (hfind : Prog.ReadOnly find) (hne : setClauses ≠ [])
    (c : Connection) :
    (updateAndFind (updateIn t (some id) setClauses) find).after c =
      (c.db.updateById t id (applyAll setClauses)).elim c fun x => { c with db := x.2 } := by
  have hrest : ∀ done : Bool, Prog.ReadOnly (if !done then pure none else find) :=
    fun done => .ite (Prog.readOnly_pure _) hfind
  rw [← after_updateIn hne]
  unfold Prog.after updateAndFind
  rw [Prog.run_bind, run_updateIn_some hne]
  cases c.db.updateById t id (applyAll setClauses) with
  | none => rfl
  | some x =>
    dsimp only
    rw [(hrest _).run_eq]

/-- `remove` deletes the row and what hangs on it, or leaves the connection alone. -/
theorem run_removeIn_cases {id : Int} {r : Except Error Bool}
    (h : (removeIn t id).run c = (r, c')) :
    (r = .ok false ∧ c' = c) ∨
      0 < id ∧ r = .ok (decide (id ∈ c.db.ids t)) ∧
        c' = { c with db := (c.db.deleteById t id).2 } := by
  rw [run_removeIn] at h
  split at h
  · cases h
    exact .inl ⟨rfl, rfl⟩
  · next hid =>
    cases h
    refine .inr ⟨by omega, ?_, rfl⟩
    simp only [Database.deleteById_count_pos]

end

/-! ## Reads of the guards -/

section
variable {c : Connection}

theorem readOnly_findWorkflow (id : Int) : Prog.ReadOnly (SqliteWorkflowRepository.findById id) :=
  readOnly_findByIdIn _ _ id

theorem readOnly_findState (id : Int) : Prog.ReadOnly (SqliteStateRepository.findById id) :=
  readOnly_findByIdIn _ _ id

theorem readOnly_findEdge (id : Int) : Prog.ReadOnly (SqliteEdgeRepository.findById id) :=
  readOnly_findByIdIn _ _ id

theorem readOnly_findItemType (id : Int) : Prog.ReadOnly (SqliteItemTypeRepository.findById id) :=
  readOnly_findByIdIn _ _ id

theorem readOnly_existsByCaption (caption : Bytes) :
    Prog.ReadOnly (SqliteWorkflowRepository.existsByCaption caption) :=
  .ite (Prog.readOnly_pure _) (readOnly_anyIn _ _)

theorem readOnly_isUsedByItems (stateId : Int) :
    Prog.ReadOnly (SqliteStateRepository.isUsedByItems stateId) :=
  .ite (Prog.readOnly_pure _) (readOnly_anyIn _ _)

theorem readOnly_findByWorkflowId (env : Environment) (id : Int) :
    Prog.ReadOnly (SqliteStateRepository.findByWorkflowId env id) :=
  .ite (Prog.readOnly_pure _) (readOnly_findWhereIn _ _ _ _ _)

theorem readOnly_findByStateId (env : Environment) (id : Int) :
    Prog.ReadOnly (SqliteEdgeRepository.findByStateId env id) :=
  .ite (Prog.readOnly_pure _) (readOnly_findWhereIn _ _ _ _ _)

/-- A caption that the lookup does not find is empty or stored by no row. -/
theorem existsByCaption_false {caption : Bytes}
    (h : (SqliteWorkflowRepository.existsByCaption caption).result c = .ok false) :
    caption = [] ∨ CaptionFree c.db (bindString caption) := by
  unfold SqliteWorkflowRepository.existsByCaption at h
  split at h
  · next hempty => exact .inl (by simpa using hempty)
  · rw [result_anyIn] at h
    refine .inr fun row hrow heq => ?_
    have hany := Except.ok.inj h
    rw [List.any_eq_false] at hany
    exact hany row hrow (by simpa using heq)

/-- A state that the lookup calls unused is used by no item (ids of states are positive). -/
theorem isUsedByItems_false {stateId : Int} (hid : 0 < stateId)
    (h : (SqliteStateRepository.isUsedByItems stateId).result c = .ok false) :
    ∀ item ∈ c.db.rows .item, item.cols.stateId ≠ stateId := by
  unfold SqliteStateRepository.isUsedByItems at h
  rw [if_neg (by omega), result_anyIn] at h
  intro item hitem heq
  have hany := Except.ok.inj h
  rw [List.any_eq_false] at hany
  exact hany item hitem (by simpa using heq)

theorem readOnly_anyUsedByItems (states : List Dto.State) :
    Prog.ReadOnly (WorkflowService.anyUsedByItems states) := by
  induction states with
  | nil => exact Prog.readOnly_pure _
  | cons state states ih =>
    exact (readOnly_isUsedByItems _).bind fun used => .ite (Prog.readOnly_pure _) ih

theorem readOnly_canDeleteWorkflow (env : Environment) (id : Int) :
    Prog.ReadOnly (WorkflowService.canDeleteWorkflow env id) :=
  (readOnly_findByWorkflowId env id).bind fun states =>
    (readOnly_anyUsedByItems states).bind fun _ => Prog.readOnly_pure _

theorem readOnly_captionTaken (workflow existing : Dto.Workflow) :
    Prog.ReadOnly (WorkflowService.captionTaken workflow existing) := by
  unfold WorkflowService.captionTaken
  split
  · exact Prog.readOnly_pure _
  · exact .ite (Prog.readOnly_pure _) (readOnly_existsByCaption _)

theorem readOnly_archivesUsedState (state : Dto.State) (id : Int) :
    Prog.ReadOnly (StateService.archivesUsedState state id) :=
  .ite (readOnly_isUsedByItems id) (Prog.readOnly_pure _)

theorem readOnly_canDeleteState (env : Environment) (id : Int) :
    Prog.ReadOnly (StateService.canDeleteState env id) :=
  (readOnly_isUsedByItems id).bind fun _ =>
    .ite (Prog.readOnly_pure _) ((readOnly_findByStateId env id).bind fun _ => Prog.readOnly_pure _)

theorem readOnly_validateEdge (beginStateId endStateId : Int) :
    Prog.ReadOnly (EdgeService.validateEdge beginStateId endStateId) := by
  refine (readOnly_findState beginStateId).bind fun b => ?_
  cases b with
  | none => exact Prog.readOnly_pure _
  | some b =>
    refine (readOnly_findState endStateId).bind fun e => ?_
    cases e with
    | none => exact Prog.readOnly_pure _
    | some e => exact Prog.readOnly_pure _

theorem readOnly_edgeExists (beginStateId endStateId : Int) :
    Prog.ReadOnly (SqliteEdgeRepository.exists beginStateId endStateId) :=
  .ite (Prog.readOnly_pure _) (readOnly_anyIn _ _)

end

/-! ## What the guards establish -/

section
variable {c : Connection}

theorem mapRowToWorkflow_ok {row : Row .workflow} {workflow : Dto.Workflow}
    (h : SqliteWorkflowRepository.mapRowToWorkflow row = .ok workflow) :
    workflow.caption = some (cString row.cols.caption) := by
  rw [((workflowReader.mapRow_ok _ _).mp h).2.2]
  rfl

/-- A valid workflow has a caption that is not empty. -/
theorem validateWorkflow_ok {workflow : Dto.Workflow} {caption : Bytes}
    (h : WorkflowService.validateWorkflow workflow = .ok caption) :
    workflow.caption = some caption ∧ caption ≠ [] := by
  unfold WorkflowService.validateWorkflow validateCaption at h
  cases hw : workflow.caption with
  | none =>
    rw [hw] at h
    cases h
  | some w =>
    simp only [hw] at h
    split at h
    · cases h
    · next hne =>
      split at h
      · cases h
      · cases hd : validateDescription workflow.description
            (bytes "Описание рабочего процесса не может превышать 1000 символов") with
        | error e =>
          rw [hd] at h
          cases h
        | ok u =>
          rw [hd] at h
          cases h
          exact ⟨rfl, by simpa using hne⟩

/-- `create` stores the caption up to its first NUL. -/
theorem values_workflow_caption {workflow : Dto.Workflow} {caption : Bytes} {v : WorkflowRow}
    (hcaption : workflow.caption = some caption)
    (h : SqliteWorkflowRepository.values workflow = some v) : v.caption = bindString caption := by
  unfold SqliteWorkflowRepository.values at h
  rw [hcaption] at h
  simp only [Option.bind_eq_bind, Option.bind_some, Option.bind_eq_some_iff] at h
  obtain ⟨_, -, h⟩ := h
  cases h
  rfl

theorem mapRowToState_ok {row : Row .state} {state : Dto.State}
    (h : SqliteStateRepository.mapRowToState row = .ok state) :
    state.id = some row.id ∧ state.workflowId = some row.cols.workflowId := by
  rw [((stateReader.mapRow_ok _ _).mp h).2.2]
  exact ⟨rfl, rfl⟩

/-- A caption that `updateWorkflow` lets pass is the old one, empty, or stored by no row. -/
theorem captionTaken_false {workflow existing : Dto.Workflow}
    (h : (WorkflowService.captionTaken workflow existing).result c = .ok false) :
    ∀ caption, workflow.caption = some caption →
      caption = existing.caption.getD [] ∨ caption = [] ∨ CaptionFree c.db (bindString caption) := by
  intro caption hcaption
  unfold WorkflowService.captionTaken at h
  rw [hcaption] at h
  dsimp only at h
  split at h
  · next heq => exact .inl (by simpa using heq)
  · exact .inr (existsByCaption_false h)

/-- When the loop finds no used state, none of them is used. -/
theorem anyUsedByItems_false {states : List Dto.State}
    (h : (WorkflowService.anyUsedByItems states).result c = .ok false) :
    ∀ state ∈ states,
      (SqliteStateRepository.isUsedByItems (state.id.getD 0)).result c = .ok false := by
  induction states with
  | nil => simp
  | cons state states ih =>
    obtain ⟨used, hused, hrest⟩ := (readOnly_isUsedByItems _).result_bind_ok.mp h
    cases used with
    | true => cases hrest
    | false =>
      intro s hs
      rcases List.mem_cons.mp hs with rfl | hs
      · exact hused
      · exact ih hrest s hs

/-- The guard of `deleteWorkflow`. -/
theorem canDeleteWorkflow_true {env : Environment} {id : Int} (hid : 0 < id)
    (h : (WorkflowService.canDeleteWorkflow env id).result c = .ok true) :
    NoItemInStatesOf c.db id := by
  obtain ⟨states, hstates, h⟩ := (readOnly_findByWorkflowId env id).result_bind_ok.mp h
  obtain ⟨used, hused, h⟩ := (readOnly_anyUsedByItems states).result_bind_ok.mp h
  have hfalse : used = false := by
    have := Except.ok.inj h
    simpa using this
  subst hfalse
  unfold SqliteStateRepository.findByWorkflowId at hstates
  rw [if_neg (by omega)] at hstates
  intro row hrow hw hpos
  -- every state of the workflow was read, so the loop has come to it
  obtain ⟨state, hstate, hread⟩ := mem_result_findWhereIn hstates hrow (by simpa using hw)
  have hunused := anyUsedByItems_false hused state hstate
  rw [(mapRowToState_ok hread).1] at hunused
  exact isUsedByItems_false hpos hunused

/-- The guard of `deleteState`. -/
theorem canDeleteState_true {env : Environment} {id : Int} (hid : 0 < id)
    (h : (StateService.canDeleteState env id).result c = .ok true) :
    (∀ item ∈ c.db.rows .item, item.cols.stateId ≠ id) ∧
      ∀ edge ∈ c.db.rows .edge, edge.cols.beginStateId ≠ id ∧ edge.cols.endStateId ≠ id := by
  obtain ⟨used, hused, h⟩ := (readOnly_isUsedByItems id).result_bind_ok.mp h
  cases used with
  | true => cases h
  | false =>
    refine ⟨isUsedByItems_false hid hused, ?_⟩
    obtain ⟨edges, hedges, h⟩ := (readOnly_findByStateId env id).result_bind_ok.mp h
    -- no edge was read, and none was passed over
    have hempty : edges = [] := by
      have := Except.ok.inj h
      simpa using this
    subst hempty
    unfold SqliteEdgeRepository.findByStateId at hedges
    rw [if_neg (by omega)] at hedges
    intro edge hedge
    by_contra hne
    have hmatch : (edge.cols.beginStateId == id || edge.cols.endStateId == id) = true := by
      simp only [Bool.or_eq_true, beq_iff_eq]
      tauto
    obtain ⟨_, hnil, -⟩ := mem_result_findWhereIn hedges hedge hmatch
    cases hnil

/-- The checks of `createEdge`. -/
theorem validateEdge_success {beginStateId endStateId : Int} {result : ServiceResult}
    (h : (EdgeService.validateEdge beginStateId endStateId).result c = .ok result)
    (hs : result.success = true) :
    ∃ b ∈ c.db.rows .state, ∃ e ∈ c.db.rows .state, b.id = beginStateId ∧ e.id = endStateId ∧
      b.cols.workflowId = e.cols.workflowId := by
  obtain ⟨beginState, hb, h⟩ := (readOnly_findState beginStateId).result_bind_ok.mp h
  cases beginState with
  | none =>
    cases h
    cases hs
  | some beginState =>
    obtain ⟨endState, he, h⟩ := (readOnly_findState endStateId).result_bind_ok.mp h
    cases endState with
    | none =>
      cases h
      cases hs
    | some endState =>
      obtain ⟨-, b, hbmem, hbid, hbread⟩ := result_findByIdIn_some.mp hb
      obtain ⟨-, e, hemem, heid, heread⟩ := result_findByIdIn_some.mp he
      refine ⟨b, hbmem, e, hemem, hbid, heid, ?_⟩
      -- the workflows that were compared are those of the rows
      have hcheck : EdgeService.checkStates beginState endState = result := Except.ok.inj h
      unfold EdgeService.checkStates at hcheck
      rw [(mapRowToState_ok hbread).2, (mapRowToState_ok heread).2] at hcheck
      split at hcheck
      · subst hcheck
        cases hs
      · next heq => simpa using heq

end

/-! ## The calls -/

section
variable {c c' : Connection}

/-- The end of `deleteWorkflow`, `deleteState` and `deleteEdge`. -/
theorem remove_effect {call : Call} {t : Table} {id : Int} {failed : ServiceResult}
    {r : Except Error ServiceResult}
    (hdelete : Effect call c.db (c.db.deleteById t id).2)
    (h : (do
      if !(← removeIn t id) then pure failed
      else pure { success := true } : Db ServiceResult).run c = (r, c')) :
    Effect call c.db c'.db := by
  have hcase : ∀ {r : Except Error Bool} {c₁ : Connection}, (removeIn t id).run c = (r, c₁) →
      Effect call c.db c₁.db := by
    intro r c₁ hr
    rcases run_removeIn_cases hr with ⟨-, rfl⟩ | ⟨-, -, rfl⟩
    · exact .none _ _
    · exact hdelete
  rcases Prog.run_bind_cases h with ⟨removed, c₁, hr, hk⟩ | ⟨e, hr, -⟩
  · rw [(Prog.ReadOnly.ite (Prog.readOnly_pure _) (Prog.readOnly_pure _)).run_eq] at hk
    cases hk
    exact hcase hr
  · exact hcase hr

/-- `SqliteItemTypeRepository::remove` deletes only an item type that no item has. -/
theorem run_removeItemType {id : Int} {r : Except Error Bool}
    (h : (SqliteItemTypeRepository.remove id).run c = (r, c')) :
    c' = c ∨ (∀ item ∈ c.db.rows .item, item.cols.itemTypeId ≠ id) ∧
      c' = { c with db := (c.db.deleteById .itemType id).2 } := by
  rw [itemType_remove_eq] at h
  by_cases hunused : 0 < id ∧ SqliteItemTypeRepository.usages c.db id = 0
  · rw [run_removeUnusedIn_unused hunused.1 hunused.2] at h
    cases h
    have hunreferenced := (usages_itemType_eq_zero_iff c.db id).mp hunused.2
    exact .inr ⟨((unreferenced_itemType_iff c.db id).mp hunreferenced).1, rfl⟩
  · rw [run_removeUnusedIn_used hunused] at h
    cases h
    exact .inl rfl

/-- A guard that throws ends the call; otherwise the call goes on with what the guard has read. -/
theorem effect_of_read {α β : Type} {call : Call} {p : Db α} {k : α → Db β} {r : Except Error β}
    (hp : Prog.ReadOnly p) (h : (p >>= k).run c = (r, c'))
    (hk : ∀ a, p.result c = .ok a → (k a).run c = (r, c') → Effect call c.db c'.db) :
    Effect call c.db c'.db := by
  rcases hp.run_bind_cases h with ⟨a, ha, h⟩ | ⟨e, -, -, rfl⟩
  · exact hk a ha h
  · exact .none _ _

theorem createWorkflow_effect {workflow : Dto.Workflow} {r : Except Error (Option Dto.Workflow)}
    (h : (WorkflowService.createWorkflow workflow).run c = (r, c')) :
    Effect (.createWorkflow workflow) c.db c'.db := by
  unfold WorkflowService.createWorkflow at h
  split at h
  · cases h
    exact .none _ _
  next caption hvalid =>
  refine effect_of_read (readOnly_existsByCaption caption) h fun taken htaken h => ?_
  cases taken with
  | true =>
    cases h
    exact .none _ _
  | false =>
    rcases run_createAndFind readOnly_findWorkflow h with rfl | ⟨v, rowid, db, hv, hi, rfl⟩
    · exact .none _ _
    · obtain ⟨hcaption, hne⟩ := validateWorkflow_ok hvalid
      have hvcaption := values_workflow_caption hcaption hv
      rcases existsByCaption_false htaken with rfl | hfree
      · exact absurd rfl hne
      · exact .createWorkflow hv (hvcaption ▸ hfree) hi

theorem updateWorkflow_effect {workflow : Dto.Workflow} {r : Except Error (Option Dto.Workflow)}
    (h : (WorkflowService.updateWorkflow workflow).run c = (r, c')) :
    Effect (.updateWorkflow workflow) c.db c'.db := by
  unfold WorkflowService.updateWorkflow at h
  split at h
  · cases h
    exact .none _ _
  next id hid =>
  refine effect_of_read (readOnly_findWorkflow id) h fun found hfound h => ?_
  cases found with
  | none =>
    cases h
    exact .none _ _
  | some existing =>
    obtain ⟨-, old, hold, rfl, hread⟩ := result_findByIdIn_some.mp hfound
    refine effect_of_read (readOnly_captionTaken workflow existing) h fun taken htaken h => ?_
    cases taken with
    | true =>
      cases h
      exact .none _ _
    | false =>
      rcases run_updateAndFind (readOnly_findWorkflow _) h with
        rfl | ⟨i, affected, db, hi, hupd, rfl⟩
      · exact .none _ _
      · cases hid.symm.trans hi
        refine .updateWorkflow hid hold (fun caption hcaption => ?_) hupd
        have := captionTaken_false htaken caption hcaption
        rwa [mapRowToWorkflow_ok hread] at this

theorem deleteWorkflow_effect {env : Environment} {id : Int} {r : Except Error ServiceResult}
    (h : (WorkflowService.deleteWorkflow env id).run c = (r, c')) :
    Effect (.deleteWorkflow id) c.db c'.db := by
  refine effect_of_read (readOnly_findWorkflow id) h fun found hfound h => ?_
  cases found with
  | none =>
    cases h
    exact .none _ _
  | some existing =>
    obtain ⟨hid, -⟩ := result_findByIdIn_some.mp hfound
    refine effect_of_read (readOnly_canDeleteWorkflow env id) h fun can hcan h => ?_
    cases can with
    | false =>
      cases h
      exact .none _ _
    | true => exact remove_effect (.deleteWorkflow hid (canDeleteWorkflow_true hid hcan)) h

theorem createState_effect {state : Dto.State} {r : Except Error (Option Dto.State)}
    (h : (StateService.createState state).run c = (r, c')) :
    Effect (.createState state) c.db c'.db := by
  unfold StateService.createState at h
  split at h
  · cases h
    exact .none _ _
  next workflowId _ =>
  refine effect_of_read (readOnly_findWorkflow workflowId) h fun found _ h => ?_
  cases found with
  | none =>
    cases h
    exact .none _ _
  | some workflow =>
    rcases run_createAndFind readOnly_findState h with rfl | ⟨v, rowid, db, hv, hi, rfl⟩
    · exact .none _ _
    · exact .createState hv hi

theorem updateState_effect {state : Dto.State} {r : Except Error (Option Dto.State)}
    (h : (StateService.updateState state).run c = (r, c')) :
    Effect (.updateState state) c.db c'.db := by
  unfold StateService.updateState at h
  split at h
  · cases h
    exact .none _ _
  next id hid =>
  refine effect_of_read (readOnly_findState id) h fun found _ h => ?_
  cases found with
  | none =>
    cases h
    exact .none _ _
  | some existing =>
    refine effect_of_read (readOnly_archivesUsedState state id) h fun refused _ h => ?_
    cases refused with
    | true =>
      cases h
      exact .none _ _
    | false =>
      rcases run_updateAndFind (readOnly_findState _) h with
        rfl | ⟨i, affected, db, -, hupd, rfl⟩
      · exact .none _ _
      · exact .updateState hupd

theorem deleteState_effect {env : Environment} {id : Int} {r : Except Error ServiceResult}
    (h : (StateService.deleteState env id).run c = (r, c')) :
    Effect (.deleteState id) c.db c'.db := by
  refine effect_of_read (readOnly_findState id) h fun found hfound h => ?_
  cases found with
  | none =>
    cases h
    exact .none _ _
  | some existing =>
    obtain ⟨hid, -⟩ := result_findByIdIn_some.mp hfound
    refine effect_of_read (readOnly_canDeleteState env id) h fun can hcan h => ?_
    cases can with
    | false =>
      cases h
      exact .none _ _
    | true =>
      obtain ⟨hitems, hedges⟩ := canDeleteState_true hid hcan
      exact remove_effect (.deleteState hitems hedges) h

theorem createEdge_effect {edge : Dto.Edge} {r : Except Error (Option Dto.Edge)}
    (h : (EdgeService.createEdge edge).run c = (r, c')) :
    Effect (.createEdge edge) c.db c'.db := by
  unfold EdgeService.createEdge at h
  split at h
  case h_2 =>
    -- one of the two states is missing in the request
    cases h
    exact .none _ _
  next beginStateId endStateId hb he =>
  refine effect_of_read (readOnly_validateEdge beginStateId endStateId) h
    fun validation hvalid h => ?_
  cases hsuccess : validation.success with
  | false =>
    simp only [hsuccess, Bool.not_false, if_true] at h
    cases h
    exact .none _ _
  | true =>
    simp only [hsuccess, Bool.not_true, Bool.false_eq_true, if_false] at h
    refine effect_of_read (readOnly_edgeExists beginStateId endStateId) h fun taken _ h => ?_
    cases taken with
    | true =>
      cases h
      exact .none _ _
    | false =>
      rcases run_createAndFind readOnly_findEdge h with rfl | ⟨v, rowid, db, hv, hi, rfl⟩
      · exact .none _ _
      · obtain ⟨b, hbmem, e, hemem, rfl, rfl, hsame⟩ := validateEdge_success hvalid hsuccess
        rw [SqliteEdgeRepository.values, hb, he] at hv
        cases hv
        exact .createEdge hbmem hemem hsame hi

theorem deleteEdge_effect {id : Int} {r : Except Error ServiceResult}
    (h : (EdgeService.deleteEdge id).run c = (r, c')) :
    Effect (.deleteEdge id) c.db c'.db := by
  refine effect_of_read (readOnly_findEdge id) h fun found _ h => ?_
  cases found with
  | none =>
    cases h
    exact .none _ _
  | some existing => exact remove_effect .deleteEdge h

theorem createItemType_effect {itemType : Dto.ItemType} {r : Except Error (Option Dto.ItemType)}
    (h : (ItemTypeService.createItemType itemType).run c = (r, c')) :
    Effect (.createItemType itemType) c.db c'.db := by
  unfold ItemTypeService.createItemType at h
  split at h
  · cases h
    exact .none _ _
  · rcases run_createAndFind readOnly_findItemType h with rfl | ⟨v, rowid, db, hv, hi, rfl⟩
    · exact .none _ _
    · exact .createItemType hv hi

theorem updateItemType_effect {itemType : Dto.ItemType} {r : Except Error (Option Dto.ItemType)}
    (h : (ItemTypeService.updateItemType itemType).run c = (r, c')) :
    Effect (.updateItemType itemType) c.db c'.db := by
  unfold ItemTypeService.updateItemType at h
  split at h
  · cases h
    exact .none _ _
  next id hid =>
  refine effect_of_read (readOnly_existsIn .itemType id) h fun found _ h => ?_
  cases found with
  | false =>
    cases h
    exact .none _ _
  | true =>
    -- `SqliteItemTypeRepository::update` also refuses a kind that is not valid
    have hcase : c' = c ∨ ∃ i affected db, itemType.id = some i ∧
        c.db.updateById .itemType i (applyAll (SqliteItemTypeRepository.setClauses itemType)) =
          some (affected, db) ∧ c' = { c with db := db } := by
      simp only [Bool.not_true, Bool.false_eq_true, if_false, SqliteItemTypeRepository.update] at h
      split at h
      · cases h
        exact .inl rfl
      · exact run_updateAndFind (readOnly_findItemType _) h
    rcases hcase with rfl | ⟨i, affected, db, hi, hupd, rfl⟩
    · exact .none _ _
    · exact .updateItemType hi hupd

theorem deleteItemType_effect {id : Int} {r : Except Error Bool}
    (h : (ItemTypeService.deleteItemType id).run c = (r, c')) :
    Effect (.deleteItemType id) c.db c'.db := by
  refine effect_of_read (readOnly_existsIn .itemType id) h fun found _ h => ?_
  cases found with
  | false =>
    cases h
    exact .none _ _
  | true =>
    rcases run_removeItemType h with rfl | ⟨hunused, rfl⟩
    · exact .none _ _
    · exact .deleteItemType hunused

end

/-- **A call does what `Effect` says and nothing else.** -/
theorem Call.exec_effect (env : Environment) (c : Connection) (call : Call) :
    Effect call c.db (call.exec env c).db := by
  cases call with
  | createWorkflow workflow => exact createWorkflow_effect (Prog.run_eq _ c)
  | updateWorkflow workflow => exact updateWorkflow_effect (Prog.run_eq _ c)
  | deleteWorkflow id => exact deleteWorkflow_effect (Prog.run_eq _ c)
  | createState state => exact createState_effect (Prog.run_eq _ c)
  | updateState state => exact updateState_effect (Prog.run_eq _ c)
  | deleteState id => exact deleteState_effect (Prog.run_eq _ c)
  | createEdge edge => exact createEdge_effect (Prog.run_eq _ c)
  | deleteEdge id => exact deleteEdge_effect (Prog.run_eq _ c)
  | createItemType itemType => exact createItemType_effect (Prog.run_eq _ c)
  | updateItemType itemType => exact updateItemType_effect (Prog.run_eq _ c)
  | deleteItemType id => exact deleteItemType_effect (Prog.run_eq _ c)

end Farado
