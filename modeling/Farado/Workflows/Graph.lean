import Farado.Lib.Steps.Runs
import Farado.Services.Effects
import Farado.Storage.Reference

/-!
# The graph of a workflow

An edge joins two states of one workflow. `createEdge` checks it once; it stays true because no call
ever moves a state to another workflow and because a state never disappears from under an edge. So
`getWorkflowEdges`, whose join asks for both states, lists every edge in one workflow and once.
-/

namespace Farado

open Relational Steps

/-- What the workflow, state and edge services keep true of their tables. -/
structure GraphInvariant (db : Database V1) : Prop where
  sameWorkflow : ∀ edge ∈ db.rows .edge, ∀ b ∈ db.rows .state, ∀ e ∈ db.rows .state,
    b.id = edge.cols.beginStateId → e.id = edge.cols.endStateId →
      b.cols.workflowId = e.cols.workflowId
  workflow_pos : ∀ workflow ∈ db.rows .workflow, 0 < workflow.id

namespace GraphInvariant

variable {db db' : Database V1}

/-- Fewer rows keep it. -/
theorem of_subset (h : GraphInvariant db) (hw : db'.rows .workflow ⊆ db.rows .workflow)
    (hs : db'.rows .state ⊆ db.rows .state) (he : db'.rows .edge ⊆ db.rows .edge) :
    GraphInvariant db' :=
  ⟨fun edge hedge b hb e hend => h.sameWorkflow edge (he hedge) b (hs hb) e (hs hend),
    fun workflow hworkflow => h.workflow_pos workflow (hw hworkflow)⟩

/-- A deletion in any table keeps it. -/
theorem delete (h : GraphInvariant db) (t : Table) (id : Int) :
    GraphInvariant (db.deleteById t id).2 :=
  h.of_subset (Database.deleteWhere_sublist onlyCascades_workflow).subset
    (Database.deleteWhere_sublist onlyCascades_state).subset
    (Database.deleteWhere_sublist onlyCascades_edge).subset

/-- A statement on a table outside the graph keeps it. -/
theorem of_frame (h : GraphInvariant db) {t : Table} (hrows : ∀ u, u ≠ t → db'.rows u = db.rows u)
    (hw : t ≠ .workflow) (hs : t ≠ .state) (he : t ≠ .edge) : GraphInvariant db' := by
  refine h.of_subset ?_ ?_ ?_
  · rw [hrows _ hw.symm]
    exact List.Subset.refl _
  · rw [hrows _ hs.symm]
    exact List.Subset.refl _
  · rw [hrows _ he.symm]
    exact List.Subset.refl _

theorem insertWorkflow (h : GraphInvariant db) {v : WorkflowRow} {rowid : Int}
    (hi : db.insert .workflow v = some (rowid, db')) : GraphInvariant db' := by
  have hs : db'.rows .state = db.rows .state := Database.insert_rows_of_ne hi (by simp)
  have he : db'.rows .edge = db.rows .edge := Database.insert_rows_of_ne hi (by simp)
  constructor
  case sameWorkflow =>
    rw [hs, he]
    exact h.sameWorkflow
  case workflow_pos =>
    exact (Database.forall_mem_insert hi).mpr ⟨h.workflow_pos, Database.insert_id_pos hi⟩

/-- No edge knows a new state yet. -/
theorem insertState (h : GraphInvariant db) {v : StateRow} {rowid : Int}
    (hi : db.insert .state v = some (rowid, db')) : GraphInvariant db' := by
  have hw : db'.rows .workflow = db.rows .workflow := Database.insert_rows_of_ne hi (by simp)
  have he : db'.rows .edge = db.rows .edge := Database.insert_rows_of_ne hi (by simp)
  constructor
  case sameWorkflow =>
    rw [he]
    intro edge hedge b hb e hend hbid heid
    obtain ⟨q, hq, hqid⟩ := edge_beginState db hedge
    obtain ⟨q', hq', hqid'⟩ := edge_endState db hedge
    -- the states of an old edge are old states
    have hb' := Database.mem_of_mem_insert hi hb hq (hqid.trans hbid.symm)
    have he' := Database.mem_of_mem_insert hi hend hq' (hqid'.trans heid.symm)
    exact h.sameWorkflow edge hedge b hb' e he' hbid heid
  case workflow_pos =>
    rw [hw]
    exact h.workflow_pos

theorem insertEdge (h : GraphInvariant db) {b e : Row .state} (hb : b ∈ db.rows .state)
    (he : e ∈ db.rows .state) (hsame : b.cols.workflowId = e.cols.workflowId) {rowid : Int}
    (hi : db.insert .edge { beginStateId := b.id, endStateId := e.id } = some (rowid, db')) :
    GraphInvariant db' := by
  have hw : db'.rows .workflow = db.rows .workflow := Database.insert_rows_of_ne hi (by simp)
  have hs : db'.rows .state = db.rows .state := Database.insert_rows_of_ne hi (by simp)
  constructor
  case sameWorkflow =>
    rw [hs]
    refine (Database.forall_mem_insert hi).mpr ⟨h.sameWorkflow, ?_⟩
    intro b' hb' e' he' hbid heid
    rw [db.integral.eq_of_id hb' hb hbid, db.integral.eq_of_id he' he heid]
    exact hsame
  case workflow_pos =>
    rw [hw]
    exact h.workflow_pos

theorem updateWorkflow (h : GraphInvariant db) {id affected : Int} {f : WorkflowRow → WorkflowRow}
    (hupd : db.updateById .workflow id f = some (affected, db')) : GraphInvariant db' := by
  have hs : db'.rows .state = db.rows .state := Database.updateById_rows_of_ne hupd (by simp)
  have he : db'.rows .edge = db.rows .edge := Database.updateById_rows_of_ne hupd (by simp)
  constructor
  case sameWorkflow =>
    rw [hs, he]
    exact h.sameWorkflow
  case workflow_pos =>
    rw [Database.updateById_rows_self hupd]
    intro workflow hworkflow
    obtain ⟨old, hold, rfl⟩ := List.mem_map.mp hworkflow
    rw [Database.updateRow_id]
    exact h.workflow_pos old hold

/-- An update that leaves `workflowId` alone moves no state to another workflow. -/
theorem updateState (h : GraphInvariant db) {id affected : Int} {f : StateRow → StateRow}
    (hf : ∀ c, (f c).workflowId = c.workflowId)
    (hupd : db.updateById .state id f = some (affected, db')) : GraphInvariant db' := by
  have hw : db'.rows .workflow = db.rows .workflow :=
    Database.updateById_rows_of_ne hupd (by simp)
  have he : db'.rows .edge = db.rows .edge := Database.updateById_rows_of_ne hupd (by simp)
  have hkeep : ∀ s : Row .state,
      (Database.updateRow id f s).cols.workflowId = s.cols.workflowId := by
    intro s
    exact Database.updateRow_keeps (g := StateRow.workflowId) hf s
  constructor
  case sameWorkflow =>
    rw [he, Database.updateById_rows_self hupd]
    intro edge hedge b hb e hend hbid heid
    obtain ⟨b₀, hb₀, rfl⟩ := List.mem_map.mp hb
    obtain ⟨e₀, he₀, rfl⟩ := List.mem_map.mp hend
    rw [hkeep, hkeep]
    rw [Database.updateRow_id] at hbid heid
    exact h.sameWorkflow edge hedge b₀ hb₀ e₀ he₀ hbid heid
  case workflow_pos =>
    rw [hw]
    exact h.workflow_pos

end GraphInvariant

/-- `workflowId` is not among the fields of an UPDATE of a state. -/
theorem applyAll_state_workflowId (state : Dto.State) (c : StateRow) :
    (applyAll (SqliteStateRepository.setClauses state) c).workflowId = c.workflowId := by
  unfold SqliteStateRepository.setClauses
  simp only [applyAll_append]
  repeat rw [applyAll_setIfPresent_of_ne StateRow.workflowId]
  all_goals intros; rfl

/-- **One call.** -/
theorem GraphInvariant.exec {env : Environment} {c : Connection} {call : Call}
    (h : GraphInvariant c.db) : GraphInvariant (call.exec env c).db := by
  have heffect := call.exec_effect env c
  revert heffect
  generalize (call.exec env c).db = db'
  generalize c.db = db at h
  intro heffect
  cases heffect with
  | none => exact h
  | createWorkflow _ _ hi => exact h.insertWorkflow hi
  | updateWorkflow _ _ _ hupd => exact h.updateWorkflow hupd
  | deleteWorkflow => exact h.delete _ _
  | createState _ hi => exact h.insertState hi
  | updateState hupd => exact h.updateState (applyAll_state_workflowId _) hupd
  | deleteState => exact h.delete _ _
  | createEdge hb he hsame hi => exact h.insertEdge hb he hsame hi
  | deleteEdge => exact h.delete _ _
  | createItemType _ hi =>
    exact h.of_frame (fun _ => Database.insert_rows_of_ne hi) (by decide) (by decide) (by decide)
  | updateItemType _ hupd =>
    exact h.of_frame (fun _ => Database.updateById_rows_of_ne hupd) (by decide) (by decide)
      (by decide)
  | deleteItemType => exact h.delete _ _

/-! ## The listing -/

/-- An edge, as it is listed. -/
def edgeDto (edge : Row .edge) : Dto.Edge :=
  { id := some edge.id, beginStateId := some edge.cols.beginStateId,
    endStateId := some edge.cols.endStateId }

theorem edgeDto_injective_on {db : Database V1} {a b : Row .edge} (ha : a ∈ db.rows .edge)
    (hb : b ∈ db.rows .edge) (h : edgeDto a = edgeDto b) : a = b :=
  db.integral.eq_of_id ha hb (Option.some.inj (congrArg Dto.Edge.id h))

/-- A foreign key and a condition on the workflow select one state or none. -/
theorem joined_eq {db : Database V1} {s : Row .state} (hs : s ∈ db.rows .state)
    (workflowId : Int) : SqliteEdgeRepository.joined db s.id workflowId =
      if s.cols.workflowId = workflowId then [s] else [] := by
  have hsplit : SqliteEdgeRepository.joined db s.id workflowId =
      ((db.rows .state).filter fun q => q.id == s.id).filter fun q =>
        q.cols.workflowId == workflowId := by
    rw [SqliteEdgeRepository.joined, List.filter_filter]
    exact List.filter_congr fun q _ => Bool.and_comm _ _
  rw [hsplit, Database.filter_id_eq hs]
  by_cases hw : s.cols.workflowId = workflowId <;> simp [hw]

theorem flatMap_eq_filter {α : Type} {l : List α} {f : α → List α} {p : α → Bool}
    (h : ∀ x ∈ l, f x = if p x then [x] else []) : l.flatMap f = l.filter p := by
  induction l with
  | nil => rfl
  | cons x l ih =>
    rw [List.flatMap_cons, h x List.mem_cons_self,
      ih fun y hy => h y (List.mem_cons_of_mem _ hy), List.filter_cons]
    split <;> rfl

/-- Does the edge start in the workflow? -/
def startsIn (db : Database V1) (workflowId : Int) (edge : Row .edge) : Bool :=
  !(SqliteEdgeRepository.joined db edge.cols.beginStateId workflowId).isEmpty

theorem startsIn_iff {db : Database V1} {edge : Row .edge} {b : Row .state}
    (hb : b ∈ db.rows .state) (hid : b.id = edge.cols.beginStateId) (workflowId : Int) :
    startsIn db workflowId edge = true ↔ b.cols.workflowId = workflowId := by
  rw [startsIn, ← hid, joined_eq hb]
  split <;> simp_all

/-- As an edge also ends where it starts, the join lists it once or not at all. -/
theorem joinStates_eq {db : Database V1} (h : GraphInvariant db) (workflowId : Int) :
    SqliteEdgeRepository.joinStates db workflowId = (db.rows .edge).filter (startsIn db workflowId)
    := by
  refine flatMap_eq_filter fun edge hedge => ?_
  obtain ⟨b, hb, hbid⟩ := edge_beginState db hedge
  obtain ⟨e, he, heid⟩ := edge_endState db hedge
  have hsame := h.sameWorkflow edge hedge b hb e he hbid heid
  have hiff := startsIn_iff hb hbid workflowId
  rw [← hbid, ← heid, joined_eq hb, joined_eq he, ← hsame]
  by_cases hw : b.cols.workflowId = workflowId
  · rw [if_pos hw, if_pos hw, if_pos (hiff.mpr hw)]
    rfl
  · rw [if_neg hw, if_neg hw, if_neg fun hs => hw (hiff.mp hs)]
    rfl

/-- `getWorkflowEdges` lists the edges that start in the workflow. -/
theorem getWorkflowEdges_result {env : Environment} {c : Connection} (h : GraphInvariant c.db)
    {workflowId : Int} (hpos : 0 < workflowId) :
    (EdgeService.getWorkflowEdges env workflowId).result c =
      .ok ((env.arrange byId ((c.db.rows .edge).filter (startsIn c.db workflowId))).map edgeDto)
    := by
  unfold EdgeService.getWorkflowEdges SqliteEdgeRepository.findByWorkflowId
  rw [if_neg (by omega), result_select, joinStates_eq h]
  exact List.mapM_pure

/-- It lists no edge twice. -/
theorem nodup_listed (env : Environment) (db : Database V1) (workflowId : Int) :
    ((env.arrange byId ((db.rows .edge).filter (startsIn db workflowId))).map edgeDto).Nodup := by
  have hrows : (db.rows .edge).Nodup := List.Nodup.of_map _ (db.integral.ids_nodup .edge)
  have hnodup : (env.arrange byId ((db.rows .edge).filter (startsIn db workflowId))).Nodup :=
    (env.arrange_perm _ _).nodup_iff.mpr (hrows.filter _)
  refine hnodup.map_on fun a ha b hb heq => ?_
  rw [(env.arrange_perm _ _).mem_iff, List.mem_filter] at ha hb
  exact edgeDto_injective_on ha.1 hb.1 heq

/-- It lists an edge exactly where the edge starts. -/
theorem mem_listed_iff {env : Environment} {db : Database V1} {edge : Row .edge}
    (hedge : edge ∈ db.rows .edge) {workflowId : Int} :
    edgeDto edge ∈
        (env.arrange byId ((db.rows .edge).filter (startsIn db workflowId))).map edgeDto ↔
      startsIn db workflowId edge = true := by
  rw [List.mem_map]
  constructor
  · rintro ⟨edge', hedge', heq⟩
    rw [(env.arrange_perm _ _).mem_iff, List.mem_filter] at hedge'
    rw [← edgeDto_injective_on hedge'.1 hedge heq]
    exact hedge'.2
  · intro hstarts
    refine ⟨edge, ?_, rfl⟩
    rw [(env.arrange_perm _ _).mem_iff, List.mem_filter]
    exact ⟨hedge, hstarts⟩

/-- What the graph looks like from outside. `getWorkflowEdges` lists every edge in the workflow of
its states, once, and in no other. -/
structure GraphConsistent (env : Environment) (c : Connection) : Prop where
  sameWorkflow : ∀ edge ∈ c.db.rows .edge, ∃ b ∈ c.db.rows .state, ∃ e ∈ c.db.rows .state,
    b.id = edge.cols.beginStateId ∧ e.id = edge.cols.endStateId ∧
      b.cols.workflowId = e.cols.workflowId
  pairsDistinct : (c.db.rows .edge).Pairwise fun a b =>
    ¬(a.cols.beginStateId = b.cols.beginStateId ∧ a.cols.endStateId = b.cols.endStateId)
  listedOnce : ∀ edge ∈ c.db.rows .edge, ∃ workflow ∈ c.db.rows .workflow,
    (∃ edges, (EdgeService.getWorkflowEdges env workflow.id).result c = .ok edges ∧
      edges.count (edgeDto edge) = 1) ∧
    ∀ other, other ≠ workflow.id →
      ∃ edges, (EdgeService.getWorkflowEdges env other).result c = .ok edges ∧ edgeDto edge ∉ edges

theorem GraphInvariant.consistent {env : Environment} {c : Connection} (h : GraphInvariant c.db) :
    GraphConsistent env c := by
  constructor
  case sameWorkflow =>
    intro edge hedge
    obtain ⟨b, hb, hbid⟩ := edge_beginState c.db hedge
    obtain ⟨e, he, heid⟩ := edge_endState c.db hedge
    exact ⟨b, hb, e, he, hbid, heid, h.sameWorkflow edge hedge b hb e he hbid heid⟩
  case pairsDistinct =>
    refine (c.db.integral.unique .edge).imp fun {a b} hab hpair => ?_
    simp [conflict, hpair] at hab
  case listedOnce =>
    intro edge hedge
    obtain ⟨b, hb, hbid⟩ := edge_beginState c.db hedge
    obtain ⟨workflow, hworkflow, hwid⟩ := state_workflow c.db hb
    have hstarts := startsIn_iff hb hbid
    refine ⟨workflow, hworkflow, ⟨_, getWorkflowEdges_result h (h.workflow_pos _ hworkflow), ?_⟩, ?_⟩
    · apply List.count_eq_one_of_mem (nodup_listed env c.db workflow.id)
      exact (mem_listed_iff hedge).mpr ((hstarts workflow.id).mpr hwid.symm)
    · intro other hother
      by_cases hpos : 0 < other
      · refine ⟨_, getWorkflowEdges_result h hpos, ?_⟩
        rw [mem_listed_iff hedge, hstarts, ← hwid]
        exact hother.symm
      · -- no workflow has such an id, and the repository does not even ask
        refine ⟨[], ?_, List.not_mem_nil⟩
        unfold EdgeService.getWorkflowEdges SqliteEdgeRepository.findByWorkflowId
        rw [if_pos (by omega)]
        rfl

/-- **The graph is consistent** after every run from empty workflow, state and edge tables. -/
theorem graph_consistent (env : Environment) (c : Connection) (calls : List Call)
    (hworkflow : c.db.rows .workflow = []) (hstate : c.db.rows .state = [])
    (hedge : c.db.rows .edge = []) : GraphConsistent env (calls.foldl (Call.exec env) c) := by
  have hinit : GraphInvariant c.db := by
    constructor <;> simp [hworkflow, hstate, hedge]
  have hinv : GraphInvariant (calls.foldl (Call.exec env) c).db :=
    run_invariant (I := fun c : Connection => GraphInvariant c.db) (fun _ _ h => h.exec) hinit calls
  exact hinv.consistent

theorem graph_consistent_fresh : GraphConsistent Environment.reference
    ([.createWorkflow { caption := some (bytes "Sales") },
      .createState { workflowId := some 1, caption := some (bytes "New") },
      .createState { workflowId := some 1, caption := some (bytes "Done") },
      .createEdge { beginStateId := some 1, endStateId := some 2 }].foldl
        (Call.exec Environment.reference) Connection.fresh) :=
  graph_consistent Environment.reference Connection.fresh _ rfl rfl rfl

end Farado
