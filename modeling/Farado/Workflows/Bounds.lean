import Farado.Lib.Steps.Runs
import Farado.Services.Effects
import Farado.Storage.Reference

/-!
# The bounds on stored workflows and states

`validateWorkflow` and `validateState` look at the transfer object of a creation. An update is not
validated at all, and what a creation stores is the text up to its first NUL, which can be empty
where the text is not. Apart from these two, every stored row is within the bounds.
-/

namespace Farado

open Relational Steps

/-- A caption has 1 to 255 bytes. -/
def CaptionInBounds (caption : Bytes) : Prop := 1 ≤ caption.length ∧ caption.length ≤ 255

/-- A description has at most 1000 bytes. -/
def DescriptionInBounds (description : Bytes) : Prop := description.length ≤ 1000

/-- A weight is a percentage. -/
def WeightInBounds (weight : Int) : Prop := 0 ≤ weight ∧ weight ≤ 100

/-- What `validateWorkflow` demands, of a row. -/
structure WorkflowInBounds (row : WorkflowRow) : Prop where
  caption : CaptionInBounds row.caption
  description : ∀ d ∈ row.description, DescriptionInBounds d

/-- What `validateState` demands, of a row. -/
structure StateInBounds (row : StateRow) : Prop where
  caption : CaptionInBounds row.caption
  description : ∀ d ∈ row.description, DescriptionInBounds d
  weight : ∃ w, row.weight = some w ∧ WeightInBounds w

/-- Every stored workflow and state is within its bounds. -/
structure RowsInBounds (db : Database V1) : Prop where
  workflows : ∀ row ∈ db.rows .workflow, WorkflowInBounds row.cols
  states : ∀ row ∈ db.rows .state, StateInBounds row.cols

/-- A creation that is valid does not begin its caption with a NUL, and an update of a row that is
there sends nothing whose stored form is out of bounds. -/
def StoresInBounds (c : Connection) : Call → Prop
  | .createWorkflow workflow => (∃ caption, WorkflowService.validateWorkflow workflow = .ok caption) →
      workflow.caption.all (fun caption => caption.head? != some 0) = true
  | .createState state => (∃ id, StateService.validateState state = .ok id) →
      state.caption.all (fun caption => caption.head? != some 0) = true
  | .updateWorkflow workflow => (∃ old ∈ c.db.rows .workflow, workflow.id = some old.id) →
      (∀ caption ∈ workflow.caption, CaptionInBounds (bindString caption)) ∧
        ∀ d ∈ workflow.description, DescriptionInBounds (bindString d)
  | .updateState state => (∃ old ∈ c.db.rows .state, state.id = some old.id) →
      (∀ caption ∈ state.caption, CaptionInBounds (bindString caption)) ∧
        (∀ d ∈ state.description, DescriptionInBounds (bindString d)) ∧
          ∀ w ∈ state.weight, WeightInBounds w
  | _ => True

/-! ## Creations -/

theorem length_bindString_le (s : Bytes) : (bindString s).length ≤ s.length :=
  (List.takeWhile_prefix _).length_le

/-- A text of which something is stored. -/
theorem captionInBounds_bindString {caption : Bytes} (hlong : caption.length ≤ 255)
    (hne : caption ≠ []) (hnul : caption.head? ≠ some 0) : CaptionInBounds (bindString caption) := by
  refine ⟨?_, (length_bindString_le caption).trans hlong⟩
  cases caption with
  | nil => exact absurd rfl hne
  | cons b rest =>
    have hb : b ≠ 0 := by simpa using hnul
    simp [bindString, cString, hb]

/-- What the caption check lets pass. -/
theorem validateCaption_ok {caption : Option Bytes} {required tooLong c : Bytes}
    (h : validateCaption caption required tooLong = .ok c) :
    caption = some c ∧ c ≠ [] ∧ c.length ≤ 255 := by
  unfold validateCaption at h
  split at h
  · cases h
  · next text =>
    split at h
    · cases h
    next hne =>
    split at h
    · cases h
    next hlong =>
    cases h
    exact ⟨rfl, by simpa using hne, by omega⟩

theorem validateDescription_ok {description : Option Bytes} {tooLong : Bytes} {u : Unit}
    (h : validateDescription description tooLong = .ok u) :
    ∀ d ∈ description.map bindString, DescriptionInBounds d := by
  unfold validateDescription at h
  split at h
  · cases h
  next hlong =>
  intro d hd
  obtain ⟨text, htext, rfl⟩ := Option.mem_map.mp hd
  have hle : text.length ≤ 1000 := by
    have := htext
    rw [Option.mem_def] at this
    simpa [this] using hlong
  exact (length_bindString_le text).trans hle

/-- A valid workflow is stored within the bounds. -/
theorem values_workflow_inBounds {workflow : Dto.Workflow} {caption : Bytes} {v : WorkflowRow}
    (hvalid : WorkflowService.validateWorkflow workflow = .ok caption)
    (hnul : workflow.caption.all (fun caption => caption.head? != some 0) = true)
    (hv : SqliteWorkflowRepository.values workflow = some v) : WorkflowInBounds v := by
  unfold WorkflowService.validateWorkflow at hvalid
  obtain ⟨c, hc, hrest⟩ := bind_eq_ok.mp hvalid
  obtain ⟨_, hd, -⟩ := bind_eq_ok.mp hrest
  obtain ⟨hcaption, hne, hlong⟩ := validateCaption_ok hc
  have hbound := validateDescription_ok hd
  have hnul' : c.head? ≠ some 0 := by simpa [hcaption] using hnul
  obtain rfl :
      { caption := bindString c, description := workflow.description.map bindString } = v := by
    simpa [SqliteWorkflowRepository.values, hcaption, hne] using hv
  exact ⟨captionInBounds_bindString hlong hne hnul', hbound⟩

/-- What the checks of a state let pass. -/
theorem validateState_ok {state : Dto.State} {id : Int}
    (h : StateService.validateState state = .ok id) :
    ∃ caption, state.workflowId = some id ∧ state.caption = some caption ∧ caption ≠ [] ∧
      caption.length ≤ 255 ∧ (∀ d ∈ state.description.map bindString, DescriptionInBounds d) ∧
        ∀ w ∈ state.weight, WeightInBounds w := by
  unfold StateService.validateState at h
  cases hw : state.workflowId with
  | none =>
    rw [hw] at h
    cases h
  | some workflowId =>
    rw [hw] at h
    obtain ⟨w, hok, h⟩ := bind_eq_ok.mp h
    obtain ⟨caption, hc, h⟩ := bind_eq_ok.mp h
    obtain ⟨_, hd, h⟩ := bind_eq_ok.mp h
    obtain ⟨hcaption, hne, hlong⟩ := validateCaption_ok hc
    split at h
    · cases h
    next hout =>
    obtain rfl : workflowId = w := Except.ok.inj hok
    obtain rfl : workflowId = id := Except.ok.inj h
    refine ⟨caption, rfl, hcaption, hne, hlong, validateDescription_ok hd, fun weight hweight => ?_⟩
    rw [Option.mem_def.mp hweight] at hout
    simp only [Option.any_some, Bool.or_eq_true, decide_eq_true_eq, not_or] at hout
    exact ⟨by omega, by omega⟩

/-- A valid state is stored within the bounds; a weight that is not given becomes 0. -/
theorem values_state_inBounds {state : Dto.State} {id : Int} {v : StateRow}
    (hvalid : StateService.validateState state = .ok id)
    (hnul : state.caption.all (fun caption => caption.head? != some 0) = true)
    (hv : SqliteStateRepository.values state = some v) : StateInBounds v := by
  obtain ⟨caption, hw, hcaption, hne, hlong, hdescription, hweight⟩ := validateState_ok hvalid
  have hnul' : caption.head? ≠ some 0 := by simpa [hcaption] using hnul
  have hstored : WeightInBounds (state.weight.getD 0) := by
    cases hwt : state.weight with
    | none => exact ⟨Int.le_refl 0, by simp⟩
    | some weight => exact hweight weight hwt
  simp only [SqliteStateRepository.values, hw, hcaption, Option.bind_eq_bind, Option.bind_some,
    Option.bind_eq_some_iff] at hv
  obtain ⟨_, -, hv⟩ := hv
  cases hv
  exact ⟨captionInBounds_bindString hlong hne hnul', hdescription, _, rfl, hstored⟩

/-! ## Updates -/

theorem applyAll_workflow_inBounds {workflow : Dto.Workflow} {row : WorkflowRow}
    (h : WorkflowInBounds row)
    (hcaption : ∀ caption ∈ workflow.caption, CaptionInBounds (bindString caption))
    (hdescription : ∀ d ∈ workflow.description, DescriptionInBounds (bindString d)) :
    WorkflowInBounds (applyAll (SqliteWorkflowRepository.setClauses workflow) row) := by
  refine applyAll_induction (fun set hset row h => ?_) h
  simp only [SqliteWorkflowRepository.setClauses, List.mem_append, mem_setIfPresent] at hset
  rcases hset with ⟨v, hv, rfl⟩ | ⟨v, hv, rfl⟩
  · exact { h with caption := hcaption v hv }
  · exact { h with description := by simpa using hdescription v hv }

theorem applyAll_state_inBounds {state : Dto.State} {row : StateRow} (h : StateInBounds row)
    (hcaption : ∀ caption ∈ state.caption, CaptionInBounds (bindString caption))
    (hdescription : ∀ d ∈ state.description, DescriptionInBounds (bindString d))
    (hweight : ∀ w ∈ state.weight, WeightInBounds w) :
    StateInBounds (applyAll (SqliteStateRepository.setClauses state) row) := by
  refine applyAll_induction (fun set hset row h => ?_) h
  simp only [SqliteStateRepository.setClauses, List.mem_append, mem_setIfPresent] at hset
  rcases hset with ((((⟨v, hv, rfl⟩ | ⟨v, hv, rfl⟩) | ⟨v, hv, rfl⟩) | ⟨v, -, rfl⟩) | ⟨v, -, rfl⟩) |
    ⟨v, -, rfl⟩
  · exact { h with caption := hcaption v hv }
  · exact { h with description := by simpa using hdescription v hv }
  · exact { h with weight := ⟨v, rfl, hweight v hv⟩ }
  -- the order number and the two flags have no bounds
  all_goals exact { h with }

/-- A state that is not found is not updated. -/
theorem updateState_missing {state : Dto.State} {c : Connection}
    (h : ¬ ∃ old ∈ c.db.rows .state, state.id = some old.id) :
    (StateService.updateState state).after c = c := by
  unfold StateService.updateState
  cases hid : state.id with
  | none => rfl
  | some id =>
    unfold Prog.after
    dsimp only
    rw [Prog.run_bind_of_readOnly (readOnly_findState id)]
    cases hfound : (SqliteStateRepository.findById id).result c with
    | error e => rfl
    | ok found =>
      cases found with
      | none => rfl
      | some d =>
        obtain ⟨-, old, hold, rfl, -⟩ := result_findByIdIn_some.mp hfound
        exact absurd ⟨old, hold, hid⟩ h

namespace RowsInBounds

variable {db db' : Database V1}

/-- What happens in other tables, or takes rows away. -/
theorem of_subset (h : RowsInBounds db) (hw : db'.rows .workflow ⊆ db.rows .workflow)
    (hs : db'.rows .state ⊆ db.rows .state) : RowsInBounds db' :=
  ⟨fun row hrow => h.workflows row (hw hrow), fun row hrow => h.states row (hs hrow)⟩

theorem delete (h : RowsInBounds db) (t : Table) (id : Int) : RowsInBounds (db.deleteById t id).2 :=
  h.of_subset (Database.deleteWhere_sublist onlyCascades_workflow).subset
    (Database.deleteWhere_sublist onlyCascades_state).subset

theorem insertOther (h : RowsInBounds db) {t : Table} {v : Columns t} {rowid : Int}
    (hi : db.insert t v = some (rowid, db')) (hw : Table.workflow ≠ t) (hs : Table.state ≠ t) :
    RowsInBounds db' := by
  constructor
  · rw [Database.insert_rows_of_ne hi hw]
    exact h.workflows
  · rw [Database.insert_rows_of_ne hi hs]
    exact h.states

theorem insertWorkflow (h : RowsInBounds db) {v : WorkflowRow} {rowid : Int}
    (hv : WorkflowInBounds v) (hi : db.insert .workflow v = some (rowid, db')) :
    RowsInBounds db' := by
  constructor
  case workflows => exact (Database.forall_mem_insert hi).mpr ⟨h.workflows, hv⟩
  case states =>
    rw [Database.insert_rows_of_ne hi (by simp)]
    exact h.states

theorem insertState (h : RowsInBounds db) {v : StateRow} {rowid : Int} (hv : StateInBounds v)
    (hi : db.insert .state v = some (rowid, db')) : RowsInBounds db' := by
  constructor
  case workflows =>
    rw [Database.insert_rows_of_ne hi (by simp)]
    exact h.workflows
  case states => exact (Database.forall_mem_insert hi).mpr ⟨h.states, hv⟩

theorem updateWorkflow (h : RowsInBounds db) {id affected : Int} {f : WorkflowRow → WorkflowRow}
    (hf : ∀ row, WorkflowInBounds row → WorkflowInBounds (f row))
    (hupd : db.updateById .workflow id f = some (affected, db')) : RowsInBounds db' := by
  constructor
  case workflows =>
    rw [Database.updateById_rows_self hupd]
    exact Database.forall_mem_updateRow h.workflows hf
  case states =>
    rw [Database.updateById_rows_of_ne hupd (by simp)]
    exact h.states

theorem updateState (h : RowsInBounds db) {id affected : Int} {f : StateRow → StateRow}
    (hf : ∀ row, StateInBounds row → StateInBounds (f row))
    (hupd : db.updateById .state id f = some (affected, db')) : RowsInBounds db' := by
  constructor
  case workflows =>
    rw [Database.updateById_rows_of_ne hupd (by simp)]
    exact h.workflows
  case states =>
    rw [Database.updateById_rows_self hupd]
    exact Database.forall_mem_updateRow h.states hf

theorem updateOther (h : RowsInBounds db) {t : Table} {id affected : Int}
    {f : Columns t → Columns t} (hupd : db.updateById t id f = some (affected, db'))
    (hw : Table.workflow ≠ t) (hs : Table.state ≠ t) : RowsInBounds db' := by
  constructor
  · rw [Database.updateById_rows_of_ne hupd hw]
    exact h.workflows
  · rw [Database.updateById_rows_of_ne hupd hs]
    exact h.states

end RowsInBounds

/-- Only a valid workflow is created. -/
theorem createWorkflow_invalid {workflow : Dto.Workflow} {c : Connection} {message : Bytes}
    (h : WorkflowService.validateWorkflow workflow = .error message) :
    (WorkflowService.createWorkflow workflow).after c = c := by
  unfold WorkflowService.createWorkflow
  rw [h]
  rfl

theorem createState_invalid {state : Dto.State} {c : Connection} {message : Bytes}
    (h : StateService.validateState state = .error message) :
    (StateService.createState state).after c = c := by
  unfold StateService.createState
  rw [h]
  rfl

/-- **One call.** -/
theorem RowsInBounds.exec {env : Environment} {c : Connection} {call : Call}
    (h : RowsInBounds c.db) (hok : StoresInBounds c call) : RowsInBounds (call.exec env c).db := by
  have heffect := call.exec_effect env c
  revert heffect
  generalize hdb' : (call.exec env c).db = db'
  generalize hdb : c.db = db at h
  intro heffect
  cases heffect with
  | none => exact h
  | @createWorkflow workflow v _ _ _ hv _ hi =>
    cases hvalid : WorkflowService.validateWorkflow workflow with
    | ok caption =>
      exact h.insertWorkflow (values_workflow_inBounds hvalid (hok ⟨caption, hvalid⟩) hv) hi
    | error message =>
      rw [← hdb', show Call.exec env c (.createWorkflow workflow) = c from
        createWorkflow_invalid hvalid, hdb]
      exact h
  | @updateWorkflow workflow old _ _ _ hid hold _ hupd =>
    subst hdb
    obtain ⟨hcaption, hdescription⟩ := hok ⟨old, hold, hid⟩
    exact h.updateWorkflow
      (fun row hrow => applyAll_workflow_inBounds hrow hcaption hdescription) hupd
  | deleteWorkflow => exact h.delete _ _
  | @createState state v _ _ _ hv hi =>
    cases hvalid : StateService.validateState state with
    | ok id => exact h.insertState (values_state_inBounds hvalid (hok ⟨id, hvalid⟩) hv) hi
    | error message =>
      rw [← hdb', show Call.exec env c (.createState state) = c from createState_invalid hvalid,
        hdb]
      exact h
  | @updateState state _ _ _ _ hupd =>
    subst hdb
    by_cases htarget : ∃ old ∈ c.db.rows .state, state.id = some old.id
    · obtain ⟨hcaption, hdescription, hweight⟩ := hok htarget
      exact h.updateState
        (fun row hrow => applyAll_state_inBounds hrow hcaption hdescription hweight) hupd
    · rw [← hdb', show Call.exec env c (.updateState state) = c from updateState_missing htarget]
      exact h
  | deleteState => exact h.delete _ _
  | createEdge _ _ _ hi => exact h.insertOther hi (by simp) (by simp)
  | deleteEdge => exact h.delete _ _
  | createItemType _ hi => exact h.insertOther hi (by simp) (by simp)
  | updateItemType _ hupd => exact h.updateOther hupd (by simp) (by simp)
  | deleteItemType => exact h.delete _ _

/-- **Rows stay within their bounds** in every run from empty tables in which updates send only what
is within them and no created caption begins with a NUL. -/
theorem rows_in_bounds (env : Environment) (c : Connection) (hw : c.db.rows .workflow = [])
    (hs : c.db.rows .state = []) (calls : List Call)
    (hok : Along (Call.exec env) StoresInBounds c calls) :
    RowsInBounds (calls.foldl (Call.exec env) c).db := by
  have hinit : RowsInBounds c.db := by
    constructor
    · simp [hw]
    · simp [hs]
  exact hok.invariant (I := fun c : Connection => RowsInBounds c.db)
    (fun _ _ h hcall => h.exec hcall) hinit

/-- A workflow whose state gets another weight. -/
def reweighted (weight : Int) : List Call :=
  [.createWorkflow { caption := some (bytes "Sales") },
    .createState { workflowId := some 1, caption := some (bytes "Open") },
    .updateState { id := some 1, weight := some weight }]

theorem rows_in_bounds_reweighted :
    RowsInBounds ((reweighted 40).foldl (Call.exec .reference) .fresh).db :=
  rows_in_bounds .reference .fresh rfl rfl _
    ⟨fun _ => by decide, fun _ => by decide, fun _ => by simp [WeightInBounds], trivial⟩

/-- An update can give any weight. -/
theorem rows_out_of_bounds : ¬ ∀ calls : List Call,
    RowsInBounds (calls.foldl (Call.exec .reference) .fresh).db := by
  intro h
  have hrun := (h (reweighted 101)).states
  have hmem : ∃ row ∈ ((reweighted 101).foldl (Call.exec .reference) .fresh).db.rows .state,
      row.cols.weight = some 101 := by
    decide +kernel
  obtain ⟨row, hrow, hweight⟩ := hmem
  obtain ⟨w, hw, -, hle⟩ := (hrun row hrow).weight
  rw [hweight] at hw
  obtain rfl := Option.some.inj hw
  omega

end Farado
