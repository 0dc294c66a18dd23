import Farado.Lib.Steps.Faults
import Farado.Repositories.Removal
import Farado.Services.Effects
import Farado.Workflows.StateDeletion

/-!
# Guards that fail

Before the DELETE with its cascades, `deleteItemType`, `deleteFieldType`, `deleteState` and
`deleteWorkflow` ask whether the row is there and whether it is in use. A query can raise an
exception. Some of the guards pass it on and others answer it with "not in use", and where one of
the latter raises, the DELETE is reached although nobody has looked.
-/

namespace Farado

open Relational Steps Prog

/-! ## The guards -/

/-- `exists` -/
def existsGuard (t : Table) (id : Int) : Guard Connection where
  passes c := decide (0 < id ∧ id ∈ c.db.ids t)
  whenFailed := false

/-- `findById`, which passes an exception on: the row is there and can be read. -/
def foundGuard {Dto : Type} (t : Table) (mapRow : Row t → Except Error Dto) (id : Int) :
    Guard Connection where
  passes c := decide (0 < id) && ((c.db.find t id).any fun row => (mapRow row).toBool)
  whenFailed := false

/-- `usageCount`: a count that fails is taken for zero. -/
def unusedGuard (usages : Database V1 → Int → Nat) (id : Int) : Guard Connection where
  passes c := usages c.db id == 0
  whenFailed := true

/-- `isUsedByItems`: here too a failure means that no item uses the state. -/
def noItemGuard (stateId : Int) : Guard Connection where
  passes c := !(c.db.rows .item).any fun item => item.cols.stateId == stateId
  whenFailed := true

/-- `findByStateId`, which passes an exception on. -/
def noEdgeGuard (stateId : Int) : Guard Connection where
  passes c := !(c.db.rows .edge).any fun edge =>
    edge.cols.beginStateId == stateId || edge.cols.endStateId == stateId
  whenFailed := false

/-- The states of a workflow, in the order of `findByWorkflowId`. -/
def statesOf (env : Environment) (c : Connection) (workflowId : Int) : List (Row .state) :=
  env.arrange SqliteStateRepository.byOrderNumber
    ((c.db.rows .state).filter fun row => row.cols.workflowId == workflowId)

/-- `findByWorkflowId`, which passes an exception on: the states of the workflow can be read. -/
def statesReadGuard (env : Environment) (workflowId : Int) : Guard Connection where
  passes c := (statesOf env c workflowId).all fun row =>
    (SqliteStateRepository.mapRowToState row).toBool
  whenFailed := false

/-! ## The queries behind them -/

theorem asks_select {α : Type} (query : Database V1 → Except Error α) (c : Connection) :
    Asks (select query) c fun failed => if failed then .error .sqlFault else query c.db :=
  asks_atomic rfl

theorem asks_anyIn (t : Table) (p : Row t → Bool) (c : Connection) :
    Asks (anyIn t p) c fun failed => .ok (!failed && (c.db.rows t).any p) := by
  intro faults
  rw [anyIn, (asks_select (fun db => .ok ((db.rows t).any p)) c).caught false faults]
  cases faults 0 <;> rfl

theorem asks_existsIn {t : Table} {id : Int} (hid : 0 < id) (c : Connection) :
    Asks (existsIn t id) c fun failed => .ok ((existsGuard t id).lets failed c == true) := by
  have hany : (c.db.rows t).any (fun r => r.id == id) = decide (0 < id ∧ id ∈ c.db.ids t) := by
    rw [Bool.eq_iff_iff]
    simp [Database.mem_ids, hid]
  unfold existsIn
  rw [if_neg (by omega)]
  intro faults
  rw [asks_anyIn, hany]
  cases faults 0 <;> simp [Guard.lets, existsGuard]

theorem asks_isUsedByItems {stateId : Int} (hid : 0 < stateId) (c : Connection) :
    Asks (SqliteStateRepository.isUsedByItems stateId) c fun failed =>
      .ok ((noItemGuard stateId).lets failed c == false) := by
  unfold SqliteStateRepository.isUsedByItems
  rw [if_neg (by omega)]
  intro faults
  rw [asks_anyIn]
  cases faults 0 <;> simp [Guard.lets, noItemGuard]

theorem asks_usageCountIn {usages : Database V1 → Int → Nat} {id : Int} (hid : 0 < id)
    (c : Connection) : Asks (usageCountIn usages id) c fun failed =>
      .ok (if failed then 0 else (usages c.db id : Int)) := by
  unfold usageCountIn
  rw [if_neg (by omega)]
  intro faults
  rw [(asks_select (fun db => .ok (usages db id : Int)) c).caught 0 faults]
  cases faults 0 <;> rfl

theorem asks_findByIdIn {Dto : Type} {t : Table} {mapRow : Row t → Except Error Dto} {id : Int}
    (hid : 0 < id) (c : Connection) : Asks (findByIdIn t mapRow id) c fun failed =>
      if failed then .error .sqlFault else (findByIdIn t mapRow id).result c := by
  unfold findByIdIn
  rw [if_neg (by omega)]
  exact asks_select _ c

/-! ## From the guards to the DELETE -/

/-- `DELETE FROM … WHERE id = :id` on a connection. -/
def deleteRow (t : Table) (id : Int) (c : Connection) : Connection :=
  { c with db := (c.db.deleteById t id).2 }

section
variable {t : Table} {id : Int} {c : Connection}

theorem guarded_deleteWhereId : Guarded (deleteWhereId t id) c [] (deleteRow t id) :=
  guarded_atomic _ _ c

theorem guarded_removeIn (hid : 0 < id) : Guarded (removeIn t id) c [] (deleteRow t id) := by
  unfold removeIn
  rw [if_neg (by omega)]
  exact (guarded_deleteWhereId.andThen fun _ => readOnly_pure _).caught fun _ => readOnly_pure _

theorem guarded_removeUnusedIn {usages : Database V1 → Int → Nat} (hid : 0 < id) :
    Guarded (removeUnusedIn t usages id) c [unusedGuard usages id] (deleteRow t id) := by
  unfold removeUnusedIn
  rw [if_neg (by omega)]
  refine Guarded.caught (.ask (asks_usageCountIn hid c) ?lets ?refuses) fun _ => readOnly_pure _
  case lets =>
    intro failed hlets
    refine ⟨0, ?_, guarded_deleteWhereId.andThen fun _ => readOnly_pure _⟩
    cases failed with
    | true => rfl
    | false =>
      have hzero : usages c.db id = 0 := by simpa [Guard.lets, unusedGuard] using hlets
      rw [hzero]
      rfl
  case refuses =>
    intro failed hrefuses count hcount
    cases failed with
    | true => cases hrefuses
    | false =>
      have hused : usages c.db id ≠ 0 := by simpa [Guard.lets, unusedGuard] using hrefuses
      cases hcount
      rw [if_pos (by simp; omega)]
      exact readOnly_pure _

/-- `deleteItemType` and `deleteFieldType` -/
theorem guarded_deleteUnused (t : Table) (usages : Database V1 → Int → Nat) (id : Int)
    (c : Connection) :
    Guarded (do if !(← existsIn t id) then pure false else removeUnusedIn t usages id : Db Bool) c
      [existsGuard t id, unusedGuard usages id] (deleteRow t id) := by
  by_cases hid : 0 < id
  · exact .askBool true (asks_existsIn hid c) (guarded_removeUnusedIn hid) (readOnly_pure _)
  · have hrefuses : ∀ failed, (existsGuard t id).lets failed c = false := by
      intro failed
      cases failed <;> simp [Guard.lets, existsGuard, hid]
    unfold existsIn
    rw [if_pos (by omega)]
    exact .refused (readOnly_pure false) hrefuses

/-- `findById` finds a row exactly where its guard passes. -/
theorem foundGuard_passes {Dto : Type} {mapRow : Row t → Except Error Dto} :
    (foundGuard t mapRow id).passes c = true ↔
      ∃ d, (findByIdIn t mapRow id).result c = .ok (some d) := by
  simp only [foundGuard, Bool.and_eq_true, decide_eq_true_eq, Option.any_eq_true,
    result_findByIdIn_some]
  constructor
  · rintro ⟨hid, row, hfind, hread⟩
    obtain ⟨hrow, hrid⟩ := Database.find_eq_some.mp hfind
    cases hd : mapRow row with
    | error e =>
      rw [hd] at hread
      cases hread
    | ok d => exact ⟨d, hid, row, hrow, hrid, hd⟩
  · rintro ⟨d, hid, row, hrow, hrid, hd⟩
    exact ⟨hid, row, Database.find_eq_some.mpr ⟨hrow, hrid⟩, by rw [hd]; rfl⟩

/-- `findById` and what is done with the row: nothing where there is none. -/
theorem guarded_found {Dto β : Type} {u : Table} {mapRow : Row t → Except Error Dto}
    {k : Option Dto → Db β} {guards : List (Guard Connection)} (hmissing : ReadOnly (k none))
    (hk : 0 < id → ∀ d, Guarded (k (some d)) c guards (deleteRow u id)) :
    Guarded (findByIdIn t mapRow id >>= k) c (foundGuard t mapRow id :: guards)
      (deleteRow u id) := by
  by_cases hid : 0 < id
  · refine .ask (asks_findByIdIn hid c) ?lets ?refuses
    case lets =>
      intro failed hlets
      cases failed with
      | true => cases hlets
      | false =>
        obtain ⟨d, hd⟩ := foundGuard_passes.mp hlets
        exact ⟨some d, hd, hk hid d⟩
    case refuses =>
      intro failed hrefuses found hfound
      cases failed with
      | true => cases hfound
      | false =>
        cases found with
        | none => exact hmissing
        | some d =>
          rw [Guard.lets, foundGuard_passes.mpr ⟨d, hfound⟩] at hrefuses
          cases hrefuses
  · have hrefuses : ∀ failed, (foundGuard t mapRow id).lets failed c = false := by
      intro failed
      cases failed <;> simp [Guard.lets, foundGuard, hid]
    unfold findByIdIn
    rw [if_pos (by omega)]
    exact .refused hmissing hrefuses

/-- `findByStateId` finds no edge exactly where its guard passes. -/
theorem noEdgeGuard_passes {env : Environment} {stateId : Int} (hid : 0 < stateId) :
    (noEdgeGuard stateId).passes c = true ↔
      (SqliteEdgeRepository.findByStateId env stateId).result c = .ok [] := by
  unfold SqliteEdgeRepository.findByStateId
  rw [if_neg (by omega)]
  simp only [noEdgeGuard, Bool.not_eq_true', ← Bool.not_eq_true, List.any_eq_true]
  constructor
  · intro hnone
    have hfilter : (c.db.rows .edge).filter (fun edge =>
        edge.cols.beginStateId == stateId || edge.cols.endStateId == stateId) = [] :=
      List.filter_eq_nil_iff.mpr fun edge hedge hmatch => hnone ⟨edge, hedge, hmatch⟩
    rw [result_findWhereIn, hfilter, List.Perm.eq_nil (env.arrange_perm byId [])]
    rfl
  · rintro hread ⟨edge, hedge, hmatch⟩
    obtain ⟨d, hd, -⟩ := mem_result_findWhereIn hread hedge hmatch
    cases hd

theorem asks_findByStateId {env : Environment} {stateId : Int} (hid : 0 < stateId)
    (c : Connection) : Asks (SqliteEdgeRepository.findByStateId env stateId) c fun failed =>
      if failed then .error .sqlFault
      else (SqliteEdgeRepository.findByStateId env stateId).result c := by
  unfold SqliteEdgeRepository.findByStateId
  rw [if_neg (by omega)]
  exact asks_select _ c

theorem guarded_deleteState (env : Environment) (id : Int) (c : Connection) :
    Guarded (StateService.deleteState env id) c
      [foundGuard .state SqliteStateRepository.mapRowToState id, noItemGuard id, noEdgeGuard id]
      (deleteRow .state id) := by
  refine guarded_found (readOnly_pure _) fun hid state => ?_
  show Guarded (StateService.canDeleteState env id >>= fun can => _) c _ _
  unfold StateService.canDeleteState
  rw [bind_assoc]
  refine .askBool false (asks_isUsedByItems hid c) ?_ (readOnly_pure _)
  rw [if_neg Bool.false_ne_true, bind_assoc]
  refine .ask (asks_findByStateId hid c) ?lets ?refuses
  case lets =>
    intro failed hlets
    cases failed with
    | true => cases hlets
    | false =>
      have hremove : Guarded (removeIn .state id) c [] (deleteRow .state id) := guarded_removeIn hid
      exact ⟨[], (noEdgeGuard_passes hid).mp hlets,
        hremove.andThen fun removed => .ite (readOnly_pure _) (readOnly_pure _)⟩
  case refuses =>
    intro failed hrefuses edges hedges
    cases failed with
    | true => cases hedges
    | false =>
      cases edges with
      | nil =>
        rw [Guard.lets, (noEdgeGuard_passes hid).mpr hedges] at hrefuses
        cases hrefuses
      | cons edge edges => exact readOnly_pure _

end

/-! ## The states of a workflow -/

/-- The guards of the loop of `canDeleteWorkflow`: a state with an id below 1 is not asked about. -/
def itemGuards (stateIds : List Int) : List (Guard Connection) :=
  (stateIds.filter fun stateId => decide (0 < stateId)).map noItemGuard

theorem itemGuards_cons_of_pos {stateId : Int} (h : 0 < stateId) (stateIds : List Int) :
    itemGuards (stateId :: stateIds) = noItemGuard stateId :: itemGuards stateIds := by
  simp [itemGuards, h]

theorem itemGuards_cons_of_not_pos {stateId : Int} (h : ¬ 0 < stateId) (stateIds : List Int) :
    itemGuards (stateId :: stateIds) = itemGuards stateIds := by
  simp [itemGuards, h]

theorem guarded_anyUsedByItems {β : Type} {c : Connection} {k : Bool → Db β}
    {guards : List (Guard Connection)} {act : Connection → Connection} (states : List Dto.State)
    (hunused : Guarded (k false) c guards act) (hused : ReadOnly (k true)) :
    Guarded (WorkflowService.anyUsedByItems states >>= k) c
      (itemGuards (states.map fun state => state.id.getD 0) ++ guards) act := by
  induction states with
  | nil => exact hunused
  | cons state states ih =>
    unfold WorkflowService.anyUsedByItems
    rw [bind_assoc]
    by_cases hid : 0 < state.id.getD 0
    · rw [List.map_cons, itemGuards_cons_of_pos hid]
      refine .askBool false (asks_isUsedByItems hid c) ?_ hused
      exact ih
    · have hskip : SqliteStateRepository.isUsedByItems (state.id.getD 0) = pure false := by
        unfold SqliteStateRepository.isUsedByItems
        rw [if_pos (by omega)]
      rw [List.map_cons, itemGuards_cons_of_not_pos hid, hskip]
      exact ih

/-- The states that are read have the ids of their rows. -/
theorem ids_of_statesRead {rows : List (Row .state)} {states : List Dto.State}
    (h : rows.mapM SqliteStateRepository.mapRowToState = .ok states) :
    (states.map fun state => state.id.getD 0) = rows.map (·.id) := by
  obtain ⟨-, rfl⟩ := stateReader.mapM_ok_iff.mp h
  rw [List.map_map]
  rfl

theorem statesReadGuard_passes {env : Environment} {id : Int} {c : Connection} :
    (statesReadGuard env id).passes c = true ↔
      ∃ states, (statesOf env c id).mapM SqliteStateRepository.mapRowToState = .ok states := by
  rw [exists_mapM_ok]
  simp only [statesReadGuard, List.all_eq_true]
  refine forall₂_congr fun row _ => ?_
  cases SqliteStateRepository.mapRowToState row with
  | error e => simp [Except.toBool]
  | ok state => simp [Except.toBool]

theorem guarded_deleteWorkflow (env : Environment) (id : Int) (c : Connection) :
    Guarded (WorkflowService.deleteWorkflow env id) c
      (foundGuard .workflow SqliteWorkflowRepository.mapRowToWorkflow id ::
        statesReadGuard env id :: itemGuards ((statesOf env c id).map (·.id)))
      (deleteRow .workflow id) := by
  refine guarded_found (readOnly_pure _) fun hid workflow => ?_
  show Guarded (WorkflowService.canDeleteWorkflow env id >>= fun can => _) c _ _
  unfold WorkflowService.canDeleteWorkflow
  rw [bind_assoc]
  unfold SqliteStateRepository.findByWorkflowId
  rw [if_neg (by omega)]
  refine .ask (asks_select _ c) ?lets ?refuses
  case lets =>
    intro failed hlets
    cases failed with
    | true => cases hlets
    | false =>
      obtain ⟨states, hstates⟩ := statesReadGuard_passes.mp hlets
      refine ⟨states, hstates, ?_⟩
      have hremove : Guarded (removeIn .workflow id) c [] (deleteRow .workflow id) :=
        guarded_removeIn hid
      rw [bind_assoc, ← ids_of_statesRead hstates, ← List.append_nil (itemGuards _)]
      exact guarded_anyUsedByItems states
        (hremove.andThen fun removed => .ite (readOnly_pure _) (readOnly_pure _)) (readOnly_pure _)
  case refuses =>
    intro failed hrefuses states hstates
    cases failed with
    | true => cases hstates
    | false =>
      rw [Guard.lets, statesReadGuard_passes.mpr ⟨states, hstates⟩] at hrefuses
      cases hrefuses

/-! ## What a pattern of faults does -/

/-- The guarded deletions. -/
inductive GuardedDeletion where
  | itemType | fieldType | state | workflow

namespace GuardedDeletion

def table : GuardedDeletion → Table
  | itemType => .itemType
  | fieldType => .fieldType
  | state => .state
  | workflow => .workflow

/-- The connection after the deletion under a pattern of faults. -/
def exec (env : Environment) (faults : Faults) (c : Connection) (id : Int) :
    GuardedDeletion → Connection
  | itemType => ((ItemTypeService.deleteItemType id).runUnder faults c).1.2
  | fieldType => ((FieldTypeService.deleteFieldType id).runUnder faults c).1.2
  | state => ((StateService.deleteState env id).runUnder faults c).1.2
  | workflow => ((WorkflowService.deleteWorkflow env id).runUnder faults c).1.2

/-- The queries before the DELETE, in the order in which they are asked. -/
def guards (env : Environment) (c : Connection) (id : Int) :
    GuardedDeletion → List (Guard Connection)
  | itemType => [existsGuard .itemType id, unusedGuard SqliteItemTypeRepository.usages id]
  | fieldType => [existsGuard .fieldType id, unusedGuard SqliteFieldTypeRepository.usages id]
  | state =>
      [foundGuard .state SqliteStateRepository.mapRowToState id, noItemGuard id, noEdgeGuard id]
  | workflow =>
      foundGuard .workflow SqliteWorkflowRepository.mapRowToWorkflow id ::
        statesReadGuard env id :: itemGuards ((statesOf env c id).map (·.id))

/-- A guard that raises leaves the store as it is. -/
def FailsSafe (env : Environment) (faults : Faults) (c : Connection) (id : Int)
    (d : GuardedDeletion) : Prop :=
  (∃ i < (d.guards env c id).length, faults i = true) → d.exec env faults c id = c

/-- Some guard raises, those that raise count it as "not in use", the others find nothing against
the deletion, and the DELETE does not fail. -/
structure SlipsThrough (env : Environment) (faults : Faults) (c : Connection) (id : Int)
    (d : GuardedDeletion) : Prop where
  raised : ∃ i < (d.guards env c id).length, faults i = true
  allLet : allLet (d.guards env c id) faults c = true
  deletes : faults (d.guards env c id).length = false

/-- The guards decide. -/
theorem exec_eq (env : Environment) (faults : Faults) (c : Connection) (id : Int)
    (d : GuardedDeletion) : d.exec env faults c id =
      if Prog.allLet (d.guards env c id) faults c = true ∧
          faults (d.guards env c id).length = false then
        deleteRow d.table id c
      else c := by
  cases d with
  | itemType =>
    exact guarded_deleteUnused .itemType SqliteItemTypeRepository.usages id c faults
  | fieldType =>
    exact guarded_deleteUnused .fieldType SqliteFieldTypeRepository.usages id c faults
  | state => exact guarded_deleteState env id c faults
  | workflow => exact guarded_deleteWorkflow env id c faults

/-- The first guard asks whether the row is there, and is never passed by an exception. -/
theorem mem_ids_of_allLet {env : Environment} {faults : Faults} {c : Connection} {id : Int}
    {d : GuardedDeletion} (h : Prog.allLet (d.guards env c id) faults c = true) :
    id ∈ c.db.ids d.table := by
  have hexists : ∀ {t : Table}, (existsGuard t id).lets (faults 0) c = true → id ∈ c.db.ids t := by
    intro t hlets
    cases hfault : faults 0 with
    | true => simp [hfault, Guard.lets, existsGuard] at hlets
    | false =>
      simp only [hfault, Guard.lets, existsGuard, Bool.false_eq_true, if_false,
        decide_eq_true_eq] at hlets
      exact hlets.2
  have hfound : ∀ {t : Table} {Dto : Type} {mapRow : Row t → Except Error Dto},
      (foundGuard t mapRow id).lets (faults 0) c = true → id ∈ c.db.ids t := by
    intro t Dto mapRow hlets
    cases hfault : faults 0 with
    | true => simp [hfault, Guard.lets, foundGuard] at hlets
    | false =>
      rw [hfault] at hlets
      obtain ⟨d, hd⟩ := foundGuard_passes.mp hlets
      obtain ⟨-, row, hrow, hrid, -⟩ := result_findByIdIn_some.mp hd
      exact Database.mem_ids.mpr ⟨row, hrow, hrid⟩
  cases d with
  | itemType | fieldType => exact hexists (Bool.and_eq_true_iff.mp h).1
  | state | workflow => exact hfound (Bool.and_eq_true_iff.mp h).1

/-- Deleting a row that is there changes the store. -/
theorem deleteRow_ne {t : Table} {id : Int} {c : Connection} (h : id ∈ c.db.ids t) :
    deleteRow t id c ≠ c := by
  intro heq
  obtain ⟨row, hrow, rfl⟩ := Database.mem_ids.mp h
  have hdb : (c.db.deleteById t row.id).2 = c.db := congrArg Connection.db heq
  rw [← hdb] at hrow
  exact Database.id_ne_of_mem_deleteById hrow rfl

end GuardedDeletion

/-- **A deletion with a guard that raises leaves the store unchanged unless it slips through.** -/
theorem deletion_failsSafe_iff (env : Environment) (faults : Faults) (c : Connection) (id : Int)
    (d : GuardedDeletion) : d.FailsSafe env faults c id ↔ ¬ d.SlipsThrough env faults c id := by
  constructor
  · rintro hsafe ⟨hraised, hlet, hdeletes⟩
    have hexec := hsafe hraised
    rw [GuardedDeletion.exec_eq, if_pos ⟨hlet, hdeletes⟩] at hexec
    exact GuardedDeletion.deleteRow_ne (GuardedDeletion.mem_ids_of_allLet hlet) hexec
  · intro hslips hraised
    rw [GuardedDeletion.exec_eq, if_neg]
    rintro ⟨hlet, hdeletes⟩
    exact hslips ⟨hraised, hlet, hdeletes⟩

/-- The count of the uses of an item type raises, and the item type is deleted with its item. -/
theorem not_deletion_failsSafe : ¬ ∀ (faults : Faults) (c : Connection) (id : Int)
    (d : GuardedDeletion), d.FailsSafe Environment.reference faults c id := by
  intro h
  have hsame := h (fun i => i == 1) (itemMoved false) 1 .itemType ⟨1, by decide, rfl⟩
  have hitems : (GuardedDeletion.itemType.exec Environment.reference (fun i => i == 1)
      (itemMoved false) 1).db.rows .item = [] := rfl
  rw [hsame] at hitems
  cases hitems

end Farado
