import Farado.Repositories.Removal
import Farado.Services.Effects

/-!
# Deleting a state

Five tables reference states, all with ON DELETE CASCADE. The guard of `deleteState` looks into two
of them, items and edges. Rows of the other three (the history of the items, the columns of the
boards and the rules on states) let the deletion pass and disappear with the state.
-/

namespace Farado

open Relational Steps

theorem referrers_state {u : Table} {fk : ForeignKey Table (Columns u)}
    (hfk : fk ∈ foreignKeys u) (hparent : fk.parent = .state) :
    u ∈ [Table.item, .edge, .itemUserState, .boardColumn, .ruleState] :=
  mem_referrers (by intro u; cases u <;> decide) hfk hparent

theorem cascades_state {u : Table} {fk : ForeignKey Table (Columns u)}
    (hfk : fk ∈ foreignKeys u) (hparent : fk.parent = .state) : fk.cascades = true := by
  have hall : (foreignKeys u).all (fun fk => fk.parent != .state || fk.cascades) = true := by
    cases u <;> rfl
  have := List.all_eq_true.mp hall fk hfk
  simpa [hparent] using this

/-- No row of the three tables that the guard leaves out references the state. -/
structure Unrecorded (db : Database V1) (id : Int) : Prop where
  itemUserStates : ∀ r ∈ db.rows .itemUserState, r.cols.refs.get 2 ≠ id
  boardColumns : ∀ r ∈ db.rows .boardColumn, r.cols.refs.get 1 ≠ id
  ruleStates : ∀ r ∈ db.rows .ruleState, r.cols.refs.get 1 ≠ id

theorem unreferenced_state_iff {db : Database V1} {id : Int}
    (hitem : ∀ item ∈ db.rows .item, item.cols.stateId ≠ id)
    (hedge : ∀ edge ∈ db.rows .edge, edge.cols.beginStateId ≠ id ∧ edge.cols.endStateId ≠ id) :
    db.Unreferenced .state id ↔ Unrecorded db id := by
  constructor
  · intro h
    refine ⟨?_, ?_, ?_⟩
    · exact ne_of_unreferenced h .itemUserState (·.refs[2]) (by simp [foreignKeys])
    · exact ne_of_unreferenced h .boardColumn (·.refs[1]) (by simp [foreignKeys])
    · exact ne_of_unreferenced h .ruleState (·.refs[1]) (by simp [foreignKeys])
  · rintro ⟨hitemUserState, hboardColumn, hruleState⟩ u r hr fk hfk hparent hp
    have hu := referrers_state hfk hparent
    simp only [List.mem_cons, List.not_mem_nil, or_false] at hu
    rcases hu with rfl | rfl | rfl | rfl | rfl <;>
      simp only [foreignKeys, List.mem_cons, List.not_mem_nil, or_false] at hfk
    · rcases hfk with rfl | rfl | rfl | rfl
      · cases hparent
      · cases hparent
      · exact hitem r hr (Option.some.inj hp)
      · cases hparent
    · rcases hfk with rfl | rfl
      · exact (hedge r hr).1 (Option.some.inj hp)
      · exact (hedge r hr).2 (Option.some.inj hp)
    · rcases hfk with rfl | rfl | rfl
      · cases hparent
      · cases hparent
      · exact hitemUserState r hr (Option.some.inj hp)
    · rcases hfk with rfl | rfl
      · cases hparent
      · exact hboardColumn r hr (Option.some.inj hp)
    · rcases hfk with rfl | rfl
      · cases hparent
      · exact hruleState r hr (Option.some.inj hp)

/-- The end of a deletion that succeeds. -/
theorem run_remove_success {t : Table} {id : Int} {failed : ServiceResult} {c c' : Connection}
    {result : ServiceResult} (hfailed : failed.success = false)
    (h : (do
      if !(← removeIn t id) then pure failed
      else pure { success := true } : Db ServiceResult).run c = (.ok result, c'))
    (hs : result.success = true) :
    0 < id ∧ id ∈ c.db.ids t ∧ c' = { c with db := (c.db.deleteById t id).2 } := by
  rcases Prog.run_bind_cases h with ⟨removed, c₁, hremove, hk⟩ | ⟨e, -, he⟩
  · cases removed with
    | false =>
      cases hk
      rw [hfailed] at hs
      cases hs
    | true =>
      cases hk
      rcases run_removeIn_cases hremove with ⟨hfalse, -⟩ | ⟨hid, hmem, hdb⟩
      · cases hfalse
      · have hmem := Except.ok.inj hmem
        exact ⟨hid, of_decide_eq_true hmem.symm, hdb⟩
  · cases he

/-- What is known when `deleteState` reports success. -/
theorem run_deleteState_success {env : Environment} {id : Int} {c c' : Connection}
    {result : ServiceResult} (h : (StateService.deleteState env id).run c = (.ok result, c'))
    (hs : result.success = true) :
    id ∈ c.db.ids .state ∧ (∀ item ∈ c.db.rows .item, item.cols.stateId ≠ id) ∧
      (∀ edge ∈ c.db.rows .edge, edge.cols.beginStateId ≠ id ∧ edge.cols.endStateId ≠ id) ∧
      c'.db = (c.db.deleteById .state id).2 := by
  rcases (readOnly_findState id).run_bind_cases h with ⟨found, -, hk⟩ | ⟨e, -, he, -⟩
  · cases found with
    | none =>
      cases hk
      cases hs
    | some state =>
      rcases (readOnly_canDeleteState env id).run_bind_cases hk with ⟨can, hcan, hk⟩ | ⟨e, -, he, -⟩
      · cases can with
        | false =>
          cases hk
          cases hs
        | true =>
          obtain ⟨hid, hmem, hafter⟩ := run_remove_success rfl hk hs
          obtain ⟨hitem, hedge⟩ := canDeleteState_true hid hcan
          exact ⟨hmem, hitem, hedge, congrArg Connection.db hafter⟩
      · cases he
  · cases he

/-- **A deletion of a state that succeeds removes only that row exactly when** the state is in no
history, on no board and in no rule. -/
theorem deleteState_removes_iff (env : Environment) (id : Int) (c : Connection)
    (result : ServiceResult) (h : (StateService.deleteState env id).result c = .ok result)
    (hs : result.success = true) :
    Database.RemovesRow c.db ((StateService.deleteState env id).after c).db .state id ↔
      Unrecorded c.db id := by
  have hrun := Prog.run_eq (StateService.deleteState env id) c
  rw [h] at hrun
  obtain ⟨hmem, hitem, hedge, hafter⟩ := run_deleteState_success hrun hs
  rw [hafter, Database.removesRow_deleteById_iff hmem fun u fk => cascades_state,
    unreferenced_state_iff hitem hedge]

/-- A workflow with two states and an item that has moved on to the second one; the move has been
recorded or not. -/
def itemMoved (recorded : Bool) : Connection where
  db :=
    { rows := fun
        | .user => [⟨1, {
            login := bytes "anna", firstName := none, middleName := none, lastName := none
            email := bytes "anna@example.com", passwordHash := bytes "00"
            needChangePassword := 0, isBlocked := 0, isSuperAdmin := 0, isHidden := 0 }⟩]
        | .workflow => [⟨1, { caption := bytes "Sales", description := none }⟩]
        | .state => [
            ⟨1, {
              workflowId := 1, caption := bytes "New", description := none, weight := some 0
              orderNumber := some 1, isArchive := 0, isQueue := 0 }⟩,
            ⟨2, {
              workflowId := 1, caption := bytes "Done", description := none, weight := some 100
              orderNumber := some 2, isArchive := 0, isQueue := 0 }⟩]
        | .itemType => [⟨1, {
            workflowId := 1, defaultStateId := none, caption := bytes "Issue"
            kind := bytes "issue", defaultContent := none }⟩]
        | .item => [⟨1, {
            itemTypeId := 1, parentId := none, stateId := 2, phaseId := none
            caption := bytes "Call", content := none, searchCaption := none
            searchContent := none, isDeleted := 0 }⟩]
        | .itemUserState => if recorded then [⟨1, { refs := #v[1, 1, 1], rest := [] }⟩] else []
        | _ => []
      seq := fun _ => 2
      integral := by
        constructor
        case ids_nodup => intro t; cases recorded <;> cases t <;> decide
        case ids_le_seq => intro t; cases recorded <;> cases t <;> decide
        case refs => intro t; cases recorded <;> cases t <;> decide
        case unique => intro t; cases recorded <;> cases t <;> decide
        case checked => intro t; cases recorded <;> cases t <;> decide }
  lastInsertRowid := 0

theorem deleteState_removes_iff_moved :
    Database.RemovesRow (itemMoved false).db
      ((StateService.deleteState Environment.reference 1).after (itemMoved false)).db .state 1 :=
  (deleteState_removes_iff Environment.reference 1 (itemMoved false) { success := true }
    rfl rfl).mpr ⟨by decide, by decide, by decide⟩

/-- The record of the move disappears with the state. -/
theorem not_deleteState_removes : ¬ ∀ (id : Int) (c : Connection) (result : ServiceResult),
    (StateService.deleteState Environment.reference id).result c = .ok result →
      result.success = true → Database.RemovesRow c.db
        ((StateService.deleteState Environment.reference id).after c).db .state id := by
  intro h
  have hothers := (h 1 (itemMoved true) { success := true } rfl rfl).others .itemUserState
    (by decide)
  have hgone : ((StateService.deleteState Environment.reference 1).after
      (itemMoved true)).db.rows .itemUserState = [] := rfl
  rw [hgone] at hothers
  cases hothers

end Farado
