import Farado.Lib.Steps.Runs
import Farado.Services.Effects
import Farado.Storage.Reference

/-!
# Workflow captions stay distinct

The schema does not make `Workflow.caption` UNIQUE; the service looks a caption up before it writes
it. The lookup never looks for the empty caption, and `updateWorkflow` does not validate what it is
given, so the empty caption can be written twice. In a run without that, captions stay distinct.
-/

namespace Farado

open Relational Steps

/-- No two workflows have the same caption. -/
def DistinctCaptions (db : Database V1) : Prop :=
  ∀ a ∈ db.rows .workflow, ∀ b ∈ db.rows .workflow, a.cols.caption = b.cols.caption → a.id = b.id

instance (db : Database V1) : Decidable (DistinctCaptions db) :=
  inferInstanceAs (Decidable (∀ a ∈ db.rows .workflow, ∀ b ∈ db.rows .workflow,
    a.cols.caption = b.cols.caption → a.id = b.id))

/-- An update of a workflow to the empty caption finds no other row that has it. -/
def EmptyCaptionUnused (c : Connection) : Call → Prop
  | .updateWorkflow workflow => workflow.caption = some [] →
      ∀ old ∈ c.db.rows .workflow, workflow.id = some old.id →
        ∀ row ∈ c.db.rows .workflow, row.cols.caption = [] → row.id = old.id
  | _ => True

instance (c : Connection) (call : Call) : Decidable (EmptyCaptionUnused c call) := by
  unfold EmptyCaptionUnused
  split <;> infer_instance

/-- Captions are distinct, and none has a NUL in it. -/
structure CaptionInvariant (db : Database V1) : Prop where
  distinct : DistinctCaptions db
  noNul : ∀ row ∈ db.rows .workflow, cString row.cols.caption = row.cols.caption

namespace CaptionInvariant

variable {db db' : Database V1}

/-- Fewer workflows keep it. -/
theorem of_subset (h : CaptionInvariant db) (hsub : db'.rows .workflow ⊆ db.rows .workflow) :
    CaptionInvariant db' :=
  ⟨fun a ha b hb => h.distinct a (hsub ha) b (hsub hb), fun row hrow => h.noNul row (hsub hrow)⟩

theorem of_eq (h : CaptionInvariant db) (heq : db'.rows .workflow = db.rows .workflow) :
    CaptionInvariant db' :=
  h.of_subset (heq ▸ List.Subset.refl _)

/-- A deletion in any table keeps it. -/
theorem delete (h : CaptionInvariant db) (t : Table) (id : Int) :
    CaptionInvariant (db.deleteById t id).2 :=
  h.of_subset (Database.deleteWhere_sublist onlyCascades_workflow).subset

/-- An INSERT of a caption that is free keeps it. -/
theorem insert (h : CaptionInvariant db) {v : WorkflowRow} {rowid : Int}
    (hfree : CaptionFree db v.caption) (hv : cString v.caption = v.caption)
    (hi : db.insert .workflow v = some (rowid, db')) : CaptionInvariant db' := by
  constructor
  case distinct =>
    intro a ha b hb heq
    rw [Database.insert_rows_self hi, List.mem_append, List.mem_singleton] at ha hb
    -- of two rows with one caption at most one is new, and its caption was free
    rcases ha with ha | rfl <;> rcases hb with hb | rfl
    · exact h.distinct a ha b hb heq
    · exact absurd heq (hfree a ha)
    · exact absurd heq.symm (hfree b hb)
    · rfl
  case noNul => exact (Database.forall_mem_insert hi).mpr ⟨h.noNul, hv⟩

/-- An UPDATE keeps it when the caption it writes belongs to no other row. -/
theorem update (h : CaptionInvariant db) {id affected : Int} {f : WorkflowRow → WorkflowRow}
    (hfree : ∀ old ∈ db.rows .workflow, old.id = id →
      ∀ row ∈ db.rows .workflow, row.id ≠ id → (f old.cols).caption ≠ row.cols.caption)
    (hf : ∀ old ∈ db.rows .workflow, old.id = id →
      cString (f old.cols).caption = (f old.cols).caption)
    (hupd : db.updateById .workflow id f = some (affected, db')) : CaptionInvariant db' := by
  have hrows : db'.rows .workflow = (db.rows .workflow).map (Database.updateRow id f) :=
    Database.updateById_rows_self hupd
  constructor
  case distinct =>
    intro a ha b hb heq
    rw [hrows] at ha hb
    obtain ⟨p, hp, rfl⟩ := List.mem_map.mp ha
    obtain ⟨q, hq, rfl⟩ := List.mem_map.mp hb
    simp only [Database.updateRow_id]
    by_cases hpid : p.id = id <;> by_cases hqid : q.id = id
    · rw [hpid, hqid]
    · simp only [Database.updateRow, if_pos hpid, if_neg hqid] at heq
      exact absurd heq (hfree p hp hpid q hq hqid)
    · simp only [Database.updateRow, if_neg hpid, if_pos hqid] at heq
      exact absurd heq.symm (hfree q hq hqid p hp hpid)
    · simp only [Database.updateRow, if_neg hpid, if_neg hqid] at heq
      exact h.distinct p hp q hq heq
  case noNul =>
    intro row hrow
    rw [hrows] at hrow
    obtain ⟨p, hp, rfl⟩ := List.mem_map.mp hrow
    by_cases hpid : p.id = id
    · simp only [Database.updateRow, if_pos hpid]
      exact hf p hp hpid
    · simp only [Database.updateRow, if_neg hpid]
      exact h.noNul p hp

end CaptionInvariant

/-- What an update makes of the caption. -/
theorem applyAll_workflow_caption (workflow : Dto.Workflow) (c : WorkflowRow) :
    (applyAll (SqliteWorkflowRepository.setClauses workflow) c).caption =
      match workflow.caption with
      | some caption => bindString caption
      | none => c.caption := by
  unfold SqliteWorkflowRepository.setClauses setIfPresent applyAll
  cases workflow.caption <;> cases workflow.description <;> rfl

/-- `create` binds a text without NUL. -/
theorem values_workflow_noNul {workflow : Dto.Workflow} {v : WorkflowRow}
    (h : SqliteWorkflowRepository.values workflow = some v) : cString v.caption = v.caption := by
  cases hw : workflow.caption with
  | none => simp [SqliteWorkflowRepository.values, hw] at h
  | some caption =>
    rw [values_workflow_caption hw h]
    exact cString_cString caption

/-- What `updateWorkflow` lets pass keeps captions distinct, the empty one apart. -/
theorem CaptionInvariant.updateWorkflow {db db' : Database V1} (h : CaptionInvariant db)
    {workflow : Dto.Workflow} {old : Row .workflow} {affected : Int} (hold : old ∈ db.rows .workflow)
    (hcaption : ∀ caption, workflow.caption = some caption →
      caption = cString old.cols.caption ∨ caption = [] ∨ CaptionFree db (bindString caption))
    (hempty : workflow.caption = some [] → ∀ row ∈ db.rows .workflow,
      row.cols.caption = [] → row.id = old.id)
    (hupd : db.updateById .workflow old.id
      (applyAll (SqliteWorkflowRepository.setClauses workflow)) = some (affected, db')) :
    CaptionInvariant db' := by
  refine h.update ?_ ?_ hupd
  · intro p hp hpid row hrow hne
    rw [db.integral.eq_of_id hp hold hpid, applyAll_workflow_caption]
    cases hw : workflow.caption with
    | none => exact fun heq => hne (h.distinct old hold row hrow heq).symm
    | some caption =>
      intro heq
      rcases hcaption caption hw with rfl | rfl | hfree
      · -- the old caption again
        have heq' : bindString (cString old.cols.caption) = row.cols.caption := heq
        rw [bindString, cString_cString, h.noNul old hold] at heq'
        exact hne (h.distinct old hold row hrow heq').symm
      · -- the empty caption, which was not looked up
        exact hne (hempty hw row hrow heq.symm)
      · exact hfree row hrow heq.symm
  · intro p hp _
    rw [applyAll_workflow_caption]
    cases workflow.caption with
    | none => exact h.noNul p hp
    | some caption => exact cString_cString caption

/-- **One call.** -/
theorem CaptionInvariant.exec {env : Environment} {c : Connection} {call : Call}
    (h : CaptionInvariant c.db) (hok : EmptyCaptionUnused c call) :
    CaptionInvariant (call.exec env c).db := by
  have heffect := call.exec_effect env c
  revert heffect
  generalize (call.exec env c).db = db'
  generalize hdb : c.db = db at h
  intro heffect
  cases heffect with
  | none => exact h
  | createWorkflow hv hfree hi => exact h.insert hfree (values_workflow_noNul hv) hi
  | @updateWorkflow workflow old affected _ _ hid hold hcaption hupd =>
    subst hdb
    exact h.updateWorkflow hold hcaption (fun hw => hok hw old hold hid) hupd
  | deleteWorkflow => exact h.delete _ _
  | createState _ hi => exact h.of_eq (Database.insert_rows_of_ne hi (by simp))
  | updateState hupd => exact h.of_eq (Database.updateById_rows_of_ne hupd (by simp))
  | deleteState => exact h.delete _ _
  | createEdge _ _ _ hi => exact h.of_eq (Database.insert_rows_of_ne hi (by simp))
  | deleteEdge => exact h.delete _ _
  | createItemType _ hi => exact h.of_eq (Database.insert_rows_of_ne hi (by simp))
  | updateItemType _ hupd => exact h.of_eq (Database.updateById_rows_of_ne hupd (by simp))
  | deleteItemType => exact h.delete _ _

/-- **Captions stay distinct** in every run from an empty Workflow table in which no update writes
the empty caption while another row has it. -/
theorem captions_distinct (env : Environment) (c : Connection) (calls : List Call)
    (hempty : c.db.rows .workflow = []) (hok : Along (Call.exec env) EmptyCaptionUnused c calls) :
    DistinctCaptions (calls.foldl (Call.exec env) c).db := by
  have hinit : CaptionInvariant c.db := by
    constructor <;> simp [DistinctCaptions, hempty]
  have hinv : CaptionInvariant (calls.foldl (Call.exec env) c).db :=
    Along.invariant (I := fun c => CaptionInvariant c.db) (fun _ _ h hcall => h.exec hcall) hinit hok
  exact hinv.distinct

/-- The empty caption goes from one workflow to another one. -/
def passedOn : List Call :=
  [.createWorkflow { caption := some (bytes "Sales") },
    .createWorkflow { caption := some (bytes "Support") },
    .updateWorkflow { id := some 1, caption := some [] },
    .updateWorkflow { id := some 1, caption := some (bytes "Delivery") },
    .updateWorkflow { id := some 2, caption := some [] }]

theorem captions_distinct_renamed :
    DistinctCaptions (passedOn.foldl (Call.exec Environment.reference) Connection.fresh).db :=
  captions_distinct Environment.reference Connection.fresh passedOn rfl (by decide +kernel)

/-- Two workflows can both be renamed to the empty caption. -/
theorem captions_not_distinct : ¬ ∀ calls : List Call,
    DistinctCaptions (calls.foldl (Call.exec Environment.reference) Connection.fresh).db := by
  intro h
  have hrun := h [.createWorkflow { caption := some (bytes "Sales") },
    .createWorkflow { caption := some (bytes "Support") },
    .updateWorkflow { id := some 1, caption := some [] },
    .updateWorkflow { id := some 2, caption := some [] }]
  revert hrun
  decide

end Farado
