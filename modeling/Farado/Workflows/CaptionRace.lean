import Farado.Services.ConcurrentCreates
import Farado.Workflows.Captions

/-!
# Workflows created at the same time

`createWorkflow` looks a caption up in one step and inserts its row in another, without a
transaction around the two and without a UNIQUE constraint behind them. Between the two steps
another request can insert the caption that was found free. Captions stay distinct exactly when no
request that was overtaken in this way inserts its row.
-/

namespace Farado

open Relational Steps

/-- The caption as `create` stores it. -/
def storedCaption (workflow : Dto.Workflow) : Option Bytes := workflow.caption.map bindString

theorem storedCaption_of_values {workflow : Dto.Workflow} {v : WorkflowRow}
    (h : SqliteWorkflowRepository.values workflow = some v) :
    storedCaption workflow = some v.caption := by
  cases hcaption : workflow.caption with
  | none =>
    unfold SqliteWorkflowRepository.values at h
    rw [hcaption] at h
    cases h
  | some caption =>
    unfold storedCaption
    rw [hcaption, values_workflow_caption hcaption h]
    rfl

/-- The requests under way, and what can be observed of them from outside: who has looked its
caption up, who has inserted its row, and who has been overtaken, that is: since it looked, another
request has inserted a workflow with the caption it is about to store. -/
structure Race {ι : Type} (workflow : ι → Dto.Workflow) where
  pool : Pool ι Connection Error fun _ => Option Dto.Workflow
  looked : ι → Bool
  inserted : ι → Bool
  overtaken : ι → Bool

namespace Race

variable {ι : Type} [DecidableEq ι] {workflow : ι → Dto.Workflow}

/-- Does the next step of `i` insert its row? -/
def inserts (T : Race workflow) (i : ι) : Bool :=
  (Traffic.insertedRow T.pool.state.db (T.pool.advance i).state.db .workflow).isSome

/-- Does the next step of `i` overtake `j`? -/
def overtakes (T : Race workflow) (i j : ι) : Bool :=
  T.inserts i && decide (j ≠ i) && T.looked j &&
    decide (storedCaption (workflow j) = storedCaption (workflow i))

/-- The request `i` does its next step. -/
def step (T : Race workflow) (i : ι) : Race workflow where
  pool := T.pool.advance i
  looked := Function.update T.looked i true
  inserted := Function.update T.inserted i (T.inserted i || T.inserts i)
  overtaken := fun j => T.overtaken j || T.overtakes i j

/-- All requests before their first step. -/
def start (workflow : ι → Dto.Workflow) (c : Connection) : Race workflow where
  pool := { progs := fun i => WorkflowService.createWorkflow (workflow i), state := c }
  looked := fun _ => false
  inserted := fun _ => false
  overtaken := fun _ => false

/-- The observations do not interfere. -/
theorem run_pool (T : Race workflow) (schedule : List ι) :
    (schedule.foldl step T).pool = T.pool.play schedule := by
  induction schedule generalizing T with
  | nil => rfl
  | cons i schedule ih => exact ih (T.step i)

/-- A request that is scheduled after it was overtaken has its INSERT behind it, or has given up. -/
def Unraced (T : Race workflow) (i : ι) : Prop :=
  T.overtaken i = true → T.inserted i = true ∨ (T.pool.outcome i).isSome = true

instance (T : Race workflow) (i : ι) : Decidable (T.Unraced i) :=
  inferInstanceAs (Decidable (_ → _))

end Race

/-! ## One step -/

/-- How far a request has come, with what has been observed of it. -/
inductive CreationPhase (w : Dto.Workflow) (db : Database V1) :
    Bool → Bool → Bool → Db (Option Dto.Workflow) → Prop
  | asking : CreationPhase w db false false false (WorkflowService.createWorkflow w)
  /-- The caption was free when it was looked up, and still is unless the request was overtaken. -/
  | cleared {v : WorkflowRow} {overtaken : Bool} : SqliteWorkflowRepository.values w = some v →
      (overtaken = false ↔ CaptionFree db v.caption) →
      CreationPhase w db true false overtaken
        (createAndFind (SqliteWorkflowRepository.create w) SqliteWorkflowRepository.findById)
  | inserted {p : Db (Option Dto.Workflow)} {looked overtaken : Bool} : Prog.ReadOnly p →
      CreationPhase w db looked true overtaken p
  | finished {r : Except Error (Option Dto.Workflow)} {looked inserted overtaken : Bool} :
      CreationPhase w db looked inserted overtaken (.done r)

/-- The schema has nothing against a workflow. -/
theorem exists_insert_workflow (db : Database V1) (v : WorkflowRow) :
    ∃ n db', db.insert .workflow v = some (n, db') := by
  unfold Database.insert
  have hadmits : db.admits .workflow v = true := by
    simp [Database.admits, V1, check, conflict, refsResolve, foreignKeys]
  rw [dif_pos hadmits]
  exact ⟨_, _, rfl⟩

/-- An insertion keeps captions distinct exactly when the new caption is free. -/
theorem distinctCaptions_insert_iff {db db' : Database V1} {v : WorkflowRow} {n : Int}
    (h : DistinctCaptions db) (hi : db.insert .workflow v = some (n, db')) :
    DistinctCaptions db' ↔ CaptionFree db v.caption := by
  have hrows : db'.rows .workflow = db.rows .workflow ++ [⟨n, v⟩] := Database.insert_rows_self hi
  constructor
  · intro h' row hrow heq
    have hid : row.id = n := h' row (by simp [hrows, hrow]) ⟨n, v⟩ (by simp [hrows]) heq
    have hlt := Database.id_lt_nextId hrow
    have hn := (Database.insert_eq_some hi).1
    omega
  · intro hfree a ha b hb heq
    rw [hrows, List.mem_append, List.mem_singleton] at ha hb
    rcases ha with ha | rfl <;> rcases hb with hb | rfl
    · exact h a ha b hb heq
    · exact absurd heq (hfree a ha)
    · exact absurd heq.symm (hfree b hb)
    · rfl

/-- What an insertion does to a caption that is free. -/
theorem captionFree_insert_iff {db db' : Database V1} {v : WorkflowRow} {n : Int} {caption : Bytes}
    (hi : db.insert .workflow v = some (n, db')) :
    CaptionFree db' caption ↔ CaptionFree db caption ∧ v.caption ≠ caption :=
  Database.forall_mem_insert hi

/-- Only the INSERT changes anything, and it comes only from a request whose lookup has found the
caption free. -/
inductive CreationStep (w : Dto.Workflow) (c : Connection) (inserted overtaken : Bool)
    (p : Db (Option Dto.Workflow)) : Db (Option Dto.Workflow) × Connection → Prop
  | quiet {p' : Db (Option Dto.Workflow)} : CreationPhase w c.db true inserted overtaken p' →
      (overtaken = true → inserted = true ∨ ∃ r, p = .done r) →
      CreationStep w c inserted overtaken p (p', c)
  | insert {v : WorkflowRow} {n : Int} {db : Database V1} {p' : Db (Option Dto.Workflow)} :
      SqliteWorkflowRepository.values w = some v → inserted = false → (∀ r, p ≠ .done r) →
      (overtaken = false ↔ CaptionFree c.db v.caption) →
      c.db.insert .workflow v = some (n, db) → Prog.ReadOnly p' →
      CreationStep w c inserted overtaken p (p', { db := db, lastInsertRowid := n })

section
variable {w : Dto.Workflow} {c : Connection}

/-- The lookup. -/
theorem creationStep_asking :
    CreationStep w c false false (WorkflowService.createWorkflow w)
      (Pool.next (WorkflowService.createWorkflow w) c) := by
  unfold WorkflowService.createWorkflow
  cases hvalid : WorkflowService.validateWorkflow w with
  | error message => exact .quiet .finished (by simp)
  | ok caption =>
    obtain ⟨hcaption, hne⟩ := validateWorkflow_ok hvalid
    obtain ⟨v, hv⟩ : ∃ v, SqliteWorkflowRepository.values w = some v := by
      simp [SqliteWorkflowRepository.values, hcaption, hne]
    -- the lookup is one step, and never fails
    have hnext : ∀ k : Bool → Db (Option Dto.Workflow),
        Pool.next (SqliteWorkflowRepository.existsByCaption caption >>= k) c =
          (k ((c.db.rows .workflow).any fun row => row.cols.caption == bindString caption), c) := by
      intro k
      unfold SqliteWorkflowRepository.existsByCaption
      rw [if_neg (by simpa using hne)]
      rfl
    dsimp only
    rw [hnext]
    refine .quiet ?_ (by simp)
    split
    · exact .finished
    next hfree =>
    refine .cleared hv ⟨fun _ row hrow heq => hfree ?_, fun _ => rfl⟩
    rw [values_workflow_caption hcaption hv] at heq
    exact List.any_eq_true.mpr ⟨row, hrow, by simpa using heq⟩

/-- The INSERT. -/
theorem creationStep_cleared {v : WorkflowRow} {overtaken : Bool}
    (hv : SqliteWorkflowRepository.values w = some v)
    (hfree : overtaken = false ↔ CaptionFree c.db v.caption) :
    CreationStep w c false overtaken
      (createAndFind (SqliteWorkflowRepository.create w) SqliteWorkflowRepository.findById)
      (Pool.next
        (createAndFind (SqliteWorkflowRepository.create w) SqliteWorkflowRepository.findById) c) := by
  unfold SqliteWorkflowRepository.create
  rw [hv]
  rcases next_createAndFind (t := .workflow) (some v) SqliteWorkflowRepository.findById c with
    ⟨r, -, -, hi⟩ | ⟨v', n, db, hv', hi, hnext⟩
  · obtain ⟨n, db, hi'⟩ := exists_insert_workflow c.db v
    rw [hi v rfl] at hi'
    cases hi'
  · obtain rfl := Option.some.inj hv'
    rw [hnext]
    exact .insert hv rfl (by rintro r ⟨⟩) hfree hi (readOnly_findCreated readOnly_findWorkflow)

/-- **The step lemma.** -/
theorem CreationPhase.next {looked inserted overtaken : Bool} {p : Db (Option Dto.Workflow)}
    (h : CreationPhase w c.db looked inserted overtaken p) :
    CreationStep w c inserted overtaken p (Pool.next p c) := by
  cases h with
  | asking => exact creationStep_asking
  | cleared hv hfree => exact creationStep_cleared hv hfree
  | inserted hp =>
    cases hp with
    | done r => exact .quiet .finished fun _ => .inl rfl
    | @step u n f hu hn hf =>
      show CreationStep w c true overtaken _ (n c, u c)
      rw [hu c]
      exact .quiet (.inserted (hn c)) fun _ => .inl rfl
  | finished => exact .quiet .finished fun _ => .inr ⟨_, rfl⟩

end

/-- What the insertion of another request's row means for a request. -/
theorem CreationPhase.insertOther {w w' : Dto.Workflow} {db db' : Database V1} {v : WorkflowRow}
    {n : Int} {looked inserted overtaken : Bool} {p : Db (Option Dto.Workflow)}
    (h : CreationPhase w db looked inserted overtaken p)
    (hv : SqliteWorkflowRepository.values w' = some v)
    (hi : db.insert .workflow v = some (n, db')) :
    CreationPhase w db' looked inserted
      (overtaken || (looked && decide (storedCaption w = storedCaption w'))) p := by
  cases h with
  | asking => exact .asking
  | @cleared u _ hu hfree =>
    refine .cleared hu ?_
    rw [captionFree_insert_iff hi, ← hfree, storedCaption_of_values hu, storedCaption_of_values hv]
    simp only [Bool.true_and, Bool.or_eq_false_iff, decide_eq_false_iff_not, Option.some.injEq]
    exact and_congr_right fun _ => not_congr eq_comm
  | inserted hp => exact .inserted hp
  | finished => exact .finished

/-! ## All steps -/

namespace Race

variable {ι : Type} {workflow : ι → Dto.Workflow}

/-- Every request is in a phase. -/
def Consistent (T : Race workflow) : Prop :=
  ∀ i, CreationPhase (workflow i) T.pool.state.db (T.looked i) (T.inserted i) (T.overtaken i)
    (T.pool.progs i)

theorem consistent_start (c : Connection) : Consistent (start workflow c) := fun _ => .asking

variable [DecidableEq ι] {T : Race workflow} {i : ι}

/-- A step that changes nothing in the database overtakes nobody. -/
theorem step_of_quiet (h : (T.pool.advance i).state = T.pool.state) :
    T.step i = {
      pool := T.pool.advance i
      looked := Function.update T.looked i true
      inserted := T.inserted
      overtaken := T.overtaken } := by
  have hins : T.inserts i = false := by
    rw [inserts, h, Traffic.insertedRow_self]
    rfl
  simp [step, overtakes, hins]

/-- The step that inserts. -/
theorem step_of_insert {v : WorkflowRow} {n : Int} {db : Database V1}
    (hi : T.pool.state.db.insert .workflow v = some (n, db))
    (h : (T.pool.advance i).state = { db := db, lastInsertRowid := n }) :
    T.step i = {
      pool := T.pool.advance i
      looked := Function.update T.looked i true
      inserted := Function.update T.inserted i true
      overtaken := fun j => T.overtaken j || (decide (j ≠ i) && T.looked j &&
        decide (storedCaption (workflow j) = storedCaption (workflow i))) } := by
  have hins : T.inserts i = true := by
    rw [inserts, h, Traffic.insertedRow_insert hi]
    rfl
  simp [step, overtakes, hins]

/-- What a step does: it keeps the phases, and it either changes nothing or inserts a caption, one
that is free exactly when the step is not raced. -/
theorem consistent_step (h : Consistent T) (i : ι) : Consistent (T.step i) ∧
    (((T.step i).pool.state = T.pool.state ∧ T.Unraced i) ∨
      ∃ v n db, T.pool.state.db.insert .workflow v = some (n, db) ∧
        (T.step i).pool.state.db = db ∧ (T.Unraced i ↔ CaptionFree T.pool.state.db v.caption)) := by
  have hnext := (h i).next
  have hadvance := T.pool.advance_eq i
  generalize Pool.next (T.pool.progs i) T.pool.state = after at hnext hadvance
  cases hnext with
  | @quiet p hphase hunraced =>
    have hstate : (T.pool.advance i).state = T.pool.state := by rw [hadvance]
    rw [step_of_quiet hstate]
    refine ⟨fun j => ?_, .inl ⟨hstate, fun hov => (hunraced hov).imp_right ?_⟩⟩
    · by_cases hj : j = i
      · subst hj
        simpa [hadvance] using hphase
      · simpa [hj, hstate, Pool.advance_progs_of_ne hj] using h j
    · rintro ⟨r, hr⟩
      simp [Pool.outcome_eq_some.mpr hr]
  | @insert v n db p hv hins hrunning hfree hi hp =>
    have hstate : (T.pool.advance i).state = { db := db, lastInsertRowid := n } := by rw [hadvance]
    rw [step_of_insert hi hstate]
    refine ⟨fun j => ?_, .inr ⟨v, n, db, hi, by rw [hstate], ?_⟩⟩
    · by_cases hj : j = i
      · subst hj
        simpa [hadvance] using CreationPhase.inserted hp
      · simpa [hj, hstate, Pool.advance_progs_of_ne hj] using (h j).insertOther hv hi
    · -- the request has its INSERT before it
      have houtcome : (T.pool.outcome i).isSome ≠ true := by
        intro hsome
        obtain ⟨r, hr⟩ := Option.isSome_iff_exists.mp hsome
        exact hrunning r (Pool.outcome_eq_some.mp hr)
      rw [← hfree, Unraced, hins]
      simp [houtcome]

/-- **Captions stay distinct exactly when no request inserts after it was overtaken.** -/
theorem created_captions_iff (workflow : ι → Dto.Workflow) (c : Connection)
    (hc : DistinctCaptions c.db) (schedule : List ι) :
    DistinctCaptions ((start workflow c).pool.play schedule).state.db ↔
      Along step Unraced (start workflow c) schedule := by
  rw [← run_pool]
  refine (along_iff_foldl (I := fun T : Race workflow => DistinctCaptions T.pool.state.db)
    (J := Consistent) (fun T i h => (consistent_step h i).1) ?_ ?_ (consistent_start c) hc).symm
  · intro T i h hdistinct
    rcases (consistent_step h i).2 with ⟨hstate, hunraced⟩ | ⟨v, n, db, hi, hdb, hunraced⟩
    · rw [hstate]
      exact iff_of_true hdistinct hunraced
    · rw [hdb, hunraced]
      exact distinctCaptions_insert_iff hdistinct hi
  · intro T i h hdistinct
    rcases (consistent_step h i).2 with ⟨hstate, -⟩ | ⟨v, n, db, hi, hdb, -⟩
    · rwa [hstate] at hdistinct
    · rw [hdb] at hdistinct
      have hmem : ∀ row ∈ T.pool.state.db.rows .workflow, row ∈ db.rows .workflow := by
        intro row hrow
        simp [Database.insert_rows_self hi, hrow]
      exact fun a ha b hb => hdistinct a (hmem a ha) b (hmem b hb)

/-- Two requests for one caption. -/
def twoSales (_ : Bool) : Dto.Workflow := { caption := some (bytes "Sales") }

theorem created_captions_iff_twoSales : DistinctCaptions
    ((start twoSales .fresh).pool.play [false, false, true, true]).state.db :=
  (created_captions_iff twoSales .fresh (by decide) [false, false, true, true]).mpr (by decide)

/-- Both lookups, then both INSERTs: two workflows with one caption. -/
theorem created_captions_clash :
    ¬ DistinctCaptions ((start twoSales .fresh).pool.play [false, true, false, true]).state.db := by
  decide

end Race

end Farado
