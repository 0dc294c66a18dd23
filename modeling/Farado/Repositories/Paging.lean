import Farado.Repositories.Lists
import Farado.Storage.Reference
import Mathlib.Algebra.Group.Int.Defs

/-!
# Reading a whole list

Whoever reads a list asks for page 1, page 2 and so on. Each answer is cut from a list that this
query has ordered, so the pages fit together only as far as the order says which row comes first.
Where the id is part of the order they always do, and `findAll` fails only on a row that cannot be
read (`pages_right_iff`). The other three orders leave ties, and paging is reliable only while no
page boundary splits one (`pages_complete_iff`).
-/

namespace Farado

open Relational Steps

/-- The other environment has the same LIKE and the same lower case; only ties may be ordered in
another way. -/
def Environment.DiffersInTies (env env' : Environment) : Prop :=
  env'.like = env.like ∧ env'.foldCase = env.foldCase

/-- The environment that exchanges the rows at positions `i` and `i + 1` where their keys are
equal. -/
def Environment.swappingTie (env : Environment) (i : Nat) : Environment where
  arrange le l := Paging.swapTie le i (env.arrange le l)
  arrange_perm le l := (Paging.swapTie_perm le i _).trans (env.arrange_perm le l)
  arrange_sorted le htrans htotal l := Paging.swapTie_sorted (env.arrange_sorted le htrans htotal l)
  like := env.like
  foldCase := env.foldCase

namespace ListRequest

variable {env : Environment} {q : ListRequest} {c : Connection}

/-- Pages 1 to `count`; `envs page` is how the query of that page orders its rows. -/
def allPages (envs : Nat → Environment) (q : ListRequest) (pageSize : Int) : Nat → Db (List q.Item)
  | 0 => pure []
  | count + 1 => do
      let listed ← q.allPages envs pageSize count
      let (items, _) ← q.findAll (envs (count + 1)) ((count + 1 : Nat) : Int) pageSize
      pure (listed ++ items)

/-- The number of the last page that has rows. -/
def lastPage (env : Environment) (q : ListRequest) (db : Database V1) (pageSize : Int) : Nat :=
  Paging.pageCount (q.matching env db).length pageSize.toNat

theorem filter_congr {env' : Environment} (h : env.DiffersInTies env') :
    q.filter env' = q.filter env := by
  obtain ⟨hlike, hfold⟩ := h
  cases q with
  | workflows | users | states | edges | phases => rfl
  | projects parentId isArchive searchCaption =>
    funext row
    simp only [filter, SqliteProjectRepository.filter, toLowerCase, hlike, hfold]
  | itemTypes workflowId kind captionSearch =>
    funext row
    simp only [filter, SqliteItemTypeRepository.filter, hlike]
  | fieldTypes itemTypeId valueType captionSearch =>
    funext row
    simp only [filter, SqliteFieldTypeRepository.filter, hlike]

theorem matching_congr {env' : Environment} (h : env.DiffersInTies env') (db : Database V1) :
    q.matching env' db = q.matching env db := by rw [matching, filter_congr h, matching]

theorem readOnly_findAll (env : Environment) (q : ListRequest) (page pageSize : Int) :
    Prog.ReadOnly (q.findAll env page pageSize) := by
  rw [findAll_eq]
  refine (readOnly_select _).bind fun totalCount => ?_
  exact .ite (Prog.readOnly_pure _) ((readOnly_select _).bind fun rows => Prog.readOnly_pure _)

theorem readOnly_allPages (envs : Nat → Environment) (q : ListRequest) (pageSize : Int)
    (count : Nat) : Prog.ReadOnly (q.allPages envs pageSize count) := by
  induction count with
  | zero => exact Prog.readOnly_pure _
  | succ count ih =>
    exact ih.bind fun _ => (readOnly_findAll ..).bind fun _ => Prog.readOnly_pure _

/-! ## One page -/

theorem pageOffset_of_inRange {page pageSize : Int} (hpage : 1 ≤ page) (hsize : 1 ≤ pageSize)
    (hrange : (page - 1) * pageSize < 2 ^ 31) : pageOffset page pageSize = (page - 1) * pageSize := by
  have hpos : 0 ≤ (page - 1) * pageSize := Int.mul_nonneg (by omega) (by omega)
  unfold pageOffset
  apply Int.bmod_eq_of_le
  · omega
  · omega

/-- The rows of a page whose offset is an int. -/
theorem pageRows_eq {t : Table} {p : Row t → Bool} {le : Row t → Row t → Bool} {db : Database V1}
    {page pageSize : Int} (hpage : 1 ≤ page) (hsize : 1 ≤ pageSize)
    (hrange : (page - 1) * pageSize < 2 ^ 31) :
    pageRows env db t p le page pageSize =
      Paging.page pageSize.toNat (env.arrange le ((db.rows t).filter p)) (page - 1).toNat := by
  unfold pageRows limitRows Paging.page
  dsimp only
  rw [if_neg (by omega), pageOffset_of_inRange hpage hsize hrange,
    Int.toNat_mul (by omega) (by omega)]

/-- What a page answers: its rows, as far as they can be read, and the count. -/
theorem result_findAll {page pageSize : Int} (hpage : 1 ≤ page) (hsize : 1 ≤ pageSize)
    (hrange : (page - 1) * pageSize < 2 ^ 31) {items : List q.Item} {total : Int} :
    (q.findAll env page pageSize).result c = .ok (items, total) ↔
      (Paging.page pageSize.toNat (env.arrange q.le (q.matching env c.db)) (page - 1).toNat).mapM
        q.reader.mapRow = .ok items ∧ total = (q.matching env c.db).length := by
  have hrows : pageRows env c.db q.table (q.filter env) q.le page pageSize =
      Paging.page pageSize.toNat (env.arrange q.le (q.matching env c.db)) (page - 1).toNat :=
    pageRows_eq hpage hsize hrange
  rw [findAll_eq, findAllIn, (readOnly_select _).result_bind_ok]
  simp only [result_select, Except.ok.injEq, exists_eq_left']
  by_cases hstop : ((((c.db.rows q.table).filter (q.filter env)).length : Int) == 0 ||
      (q.stopsPastEnd && decide ((((c.db.rows q.table).filter (q.filter env)).length : Int) ≤
        pageOffset page pageSize))) = true
  · -- `findAll` stops early only where the page has no rows
    rw [if_pos hstop]
    have hlength : (env.arrange q.le (q.matching env c.db)).length ≤
        (page - 1).toNat * pageSize.toNat := by
      rw [(env.arrange_perm _ _).length_eq, ← Int.toNat_mul (by omega) (by omega)]
      rw [pageOffset_of_inRange hpage hsize hrange] at hstop
      simp only [Bool.or_eq_true, Bool.and_eq_true, beq_iff_eq, decide_eq_true_eq] at hstop
      unfold matching
      omega
    rw [Paging.page_eq_nil hlength]
    constructor
    · intro h
      cases h
      exact ⟨rfl, rfl⟩
    · rintro ⟨h, rfl⟩
      cases h
      rfl
  · rw [if_neg hstop, (readOnly_select _).result_bind_ok]
    simp only [result_select, hrows]
    constructor
    · rintro ⟨rows, h, hret⟩
      cases hret
      exact ⟨h, rfl⟩
    · rintro ⟨h, rfl⟩
      exact ⟨items, h, rfl⟩

/-- What the pages answer together. -/
theorem result_allPages {envs : Nat → Environment} (henvs : ∀ n, env.DiffersInTies (envs n))
    {pageSize : Int} (hsize : 1 ≤ pageSize) {count : Nat}
    (hrange : ((count : Int) - 1) * pageSize < 2 ^ 31) {items : List q.Item} :
    (q.allPages envs pageSize count).result c = .ok items ↔
      (Paging.pages pageSize.toNat
        (fun n => (envs (n + 1)).arrange q.le (q.matching env c.db)) count).mapM
          q.reader.mapRow = .ok items := by
  induction count generalizing items with
  | zero => rfl
  | succ count ih =>
    have hlast : ((count + 1 : Nat) : Int) - 1 = count := by omega
    have hprev : ((count : Int) - 1) * pageSize < 2 ^ 31 := by
      have : ((count : Int) - 1) * pageSize ≤ (((count + 1 : Nat) : Int) - 1) * pageSize :=
        Int.mul_le_mul_of_nonneg_right (by omega) (by omega)
      omega
    rw [allPages, (readOnly_allPages ..).result_bind_ok, Paging.pages_succ, List.mapM_append,
      bind_eq_ok]
    refine exists_congr fun listed => ?_
    rw [ih hprev, and_congr_right_iff]
    intro _
    rw [(readOnly_findAll ..).result_bind_ok, bind_eq_ok]
    constructor
    · rintro ⟨⟨rows, total⟩, hfound, hret⟩
      obtain ⟨hrows, -⟩ := (result_findAll (by omega) hsize hrange).mp hfound
      rw [matching_congr (henvs _), hlast] at hrows
      exact ⟨rows, hrows, hret⟩
    · rintro ⟨rows, hrows, hret⟩
      refine ⟨(rows, _), (result_findAll (by omega) hsize hrange).mpr ⟨?_, rfl⟩, hret⟩
      rw [matching_congr (henvs _), hlast]
      exact hrows

/-- What a page answers where every row can be read. -/
theorem run_findAll {page pageSize : Int} (hpage : 1 ≤ page) (hsize : 1 ≤ pageSize)
    (hrange : (page - 1) * pageSize < 2 ^ 31)
    (hreadable : ∀ row ∈ q.matching env c.db, q.reader.Readable row) :
    (q.findAll env page pageSize).run c =
      (.ok ((Paging.page pageSize.toNat (env.arrange q.le (q.matching env c.db))
        (page - 1).toNat).map q.reader.dtoOf, ((q.matching env c.db).length : Int)), c) := by
  rw [(readOnly_findAll ..).run_eq, Prod.mk.injEq]
  refine ⟨(result_findAll hpage hsize hrange).mpr ⟨?_, rfl⟩, rfl⟩
  rw [q.reader.mapM_ok_iff]
  refine ⟨fun row hrow => hreadable row ?_, rfl⟩
  rw [← (env.arrange_perm q.le _).mem_iff]
  exact List.mem_of_mem_drop (List.mem_of_mem_take hrow)

theorem arrange_sorted (env : Environment) (q : ListRequest) (rows : List (Row q.table)) :
    (env.arrange q.le rows).Pairwise fun a b => q.le a b :=
  env.arrange_sorted q.le q.keyOrder.trans q.keyOrder.total rows

/-! ## Orders that name every row -/

/-- Paging is right: the pages up to the last one list the matching rows in the order of the query,
every page gives their number, and a page after the last one is empty. -/
structure PagesRight (env : Environment) (envs : Nat → Environment) (q : ListRequest)
    (pageSize : Int) (c : Connection) : Prop where
  listed : ∃ (rows : List (Row q.table)) (items : List q.Item), rows.Perm (q.matching env c.db) ∧
    (rows.Pairwise fun a b => q.le a b) ∧ rows.mapM q.reader.mapRow = .ok items ∧
      (q.allPages envs pageSize (q.lastPage env c.db pageSize)).run c = (.ok items, c)
  counted : ∀ page : Nat, 1 ≤ page → ((page : Int) - 1) * pageSize < 2 ^ 31 →
    ∃ items : List q.Item, (q.findAll (envs page) page pageSize).run c =
        (.ok (items, ((q.matching env c.db).length : Int)), c) ∧
      (q.lastPage env c.db pageSize < page → items = [])

/-- There every query has the rows in the same order. -/
theorem arrange_eq (hq : q.breaksTies = true) (env env' : Environment) (db : Database V1)
    {rows : List (Row q.table)} (hrows : ∀ row ∈ rows, row ∈ db.rows q.table) :
    env'.arrange q.le rows = env.arrange q.le rows := by
  have hperm : (env'.arrange q.le rows).Perm (env.arrange q.le rows) :=
    (env'.arrange_perm _ _).trans (env.arrange_perm _ _).symm
  refine List.Perm.eq_of_pairwise (fun a b ha hb hab hba => ?_) (arrange_sorted env' q rows)
    (arrange_sorted env q rows) hperm
  have ha' := hrows a ((env'.arrange_perm _ _).mem_iff.mp ha)
  have hb' := hrows b ((env.arrange_perm _ _).mem_iff.mp hb)
  exact db.integral.eq_of_id ha' hb' (id_eq_of_le hq hab hba)

/-- **Paging through a list whose order names every row is right exactly when** every matching row
can be read. -/
theorem pages_right_iff (q : ListRequest) (hq : q.breaksTies = true) (env : Environment)
    (envs : Nat → Environment) (henvs : ∀ n, env.DiffersInTies (envs n)) (c : Connection)
    (pageSize : Int) (hsize : 1 ≤ pageSize)
    (hrange : ((q.lastPage env c.db pageSize : Int) - 1) * pageSize < 2 ^ 31) :
    PagesRight env envs q pageSize c ↔ ∀ row ∈ q.matching env c.db, q.reader.Readable row := by
  have hsize' : 0 < pageSize.toNat := by omega
  constructor
  · intro h row hrow
    obtain ⟨rows, items, hperm, -, hread, -⟩ := h.listed
    exact (q.reader.mapM_ok_iff.mp hread).1 row (hperm.mem_iff.mpr hrow)
  · intro hreadable
    have hperm := env.arrange_perm q.le (q.matching env c.db)
    have hread : (env.arrange q.le (q.matching env c.db)).mapM q.reader.mapRow =
        .ok ((env.arrange q.le (q.matching env c.db)).map q.reader.dtoOf) :=
      q.reader.mapM_ok_iff.mpr ⟨fun row hrow => hreadable row (hperm.mem_iff.mp hrow), rfl⟩
    -- whatever the query of a page does with ties: there are none
    have hsame : ∀ n, (envs n).arrange q.le (q.matching env c.db) =
        env.arrange q.le (q.matching env c.db) :=
      fun n => arrange_eq hq env (envs n) c.db fun row hrow => (List.mem_filter.mp hrow).1
    constructor
    case listed =>
      refine ⟨_, _, hperm, arrange_sorted env q _, hread, ?_⟩
      rw [(readOnly_allPages ..).run_eq, Prod.mk.injEq]
      refine ⟨(result_allPages henvs hsize hrange).mpr ?_, rfl⟩
      simp only [hsame]
      rw [lastPage, ← hperm.length_eq, Paging.pages_pageCount hsize']
      exact hread
    case counted =>
      intro page hpage hin
      have hmatching := matching_congr (q := q) (henvs page) c.db
      have hrun : (q.findAll (envs page) page pageSize).run c = _ :=
        run_findAll (by omega) hsize hin (by rwa [hmatching])
      rw [hmatching, hsame] at hrun
      refine ⟨_, hrun, ?_⟩
      intro hlast
      rw [Paging.page_eq_nil, List.map_nil]
      have hlt : q.lastPage env c.db pageSize ≤ ((page : Int) - 1).toNat := by omega
      rw [hperm.length_eq]
      exact Nat.le_trans (Paging.le_pageCount_mul hsize' _) (Nat.mul_le_mul_right _ hlt)

/-- A connection after the creation of one workflow. -/
def oneWorkflow (caption : Bytes) : Connection :=
  (SqliteWorkflowRepository.create { caption := some caption }).after Connection.fresh

/-- A connection after the creation of several workflows. -/
def moreWorkflows (captions : List Bytes) : Connection :=
  captions.foldl
    (fun c caption => (SqliteWorkflowRepository.create { caption := some caption }).after c)
    (oneWorkflow (bytes "Sales"))

/-- Three workflows on two pages. -/
theorem pages_right_iff_sales : PagesRight Environment.reference (fun _ => Environment.reference)
    .workflows 2 (moreWorkflows [bytes "Support", bytes "Delivery"]) :=
  (pages_right_iff .workflows rfl Environment.reference (fun _ => Environment.reference)
    (fun _ => ⟨rfl, rfl⟩) (moreWorkflows [bytes "Support", bytes "Delivery"]) 2 (by decide)
    (by decide +kernel)).mpr (by simp only [RowReader.Readable]; decide +kernel)

/-- A workflow called `2024-01-01 00:00:00` is the only one, and page 1 throws. -/
theorem not_pages_right : ¬ ∀ (q : ListRequest) (c : Connection), q.breaksTies = true →
    PagesRight Environment.reference (fun _ => Environment.reference) q 20 c := by
  intro h
  have hright := h .workflows (oneWorkflow (bytes "2024-01-01 00:00:00")) rfl
  obtain ⟨items, hrun, -⟩ := hright.counted 1 (by decide) (by decide)
  cases hrun

/-! ## Orders with ties -/

/-- However each query orders the ties, the pages up to the last one have every matching row once. -/
def PagesComplete (env : Environment) (q : ListRequest) (pageSize : Int) (c : Connection) : Prop :=
  ∀ envs : Nat → Environment, (∀ n, env.DiffersInTies (envs n)) →
    ∃ (rows : List (Row q.table)) (items : List q.Item), rows.Perm (q.matching env c.db) ∧
      rows.mapM q.reader.mapRow = .ok items ∧
        (q.allPages envs pageSize (q.lastPage env c.db pageSize)).run c = (.ok items, c)

/-- The id in an item. -/
def itemId : (q : ListRequest) → q.Item → Option Int
  | workflows => Dto.Workflow.id
  | users => Dto.User.id
  | states .. => Dto.State.id
  | edges .. => Dto.Edge.id
  | projects .. => Dto.Project.id
  | phases .. => Dto.Phase.id
  | itemTypes .. => Dto.ItemType.id
  | fieldTypes .. => Dto.FieldType.id

theorem itemId_dtoOf (q : ListRequest) (row : Row q.table) :
    q.itemId (q.reader.dtoOf row) = some row.id := by cases q <;> rfl

/-- Rows that are read as the same items are the same rows, up to order. -/
theorem nodup_of_map_dtoOf {rows rows' : List (Row q.table)} (hnodup : (rows.map (·.id)).Nodup)
    (h : rows'.map q.reader.dtoOf = rows.map q.reader.dtoOf) : rows'.Nodup := by
  have hids : rows'.map (fun row => some row.id) = rows.map fun row => some row.id := by
    have := congrArg (List.map q.itemId) h
    simpa only [List.map_map, Function.comp_def, itemId_dtoOf] using this
  have hsome : (rows.map fun row => some row.id).Nodup := by
    have := hnodup.map (Option.some_injective Int)
    rwa [List.map_map] at this
  rw [← hids] at hsome
  exact hsome.of_map

/-- Where a page boundary splits a tie, the queries of the two pages may order it differently and
list a row twice. -/
theorem tiesTogether_of_pagesComplete {q : ListRequest} {env : Environment} {c : Connection}
    {pageSize : Int} (hsize : 1 ≤ pageSize)
    (hrange : ((q.lastPage env c.db pageSize : Int) - 1) * pageSize < 2 ^ 31)
    (h : PagesComplete env q pageSize c) :
    Paging.TiesTogether q.le pageSize.toNat (q.matching env c.db) := by
  by_contra hties
  obtain ⟨k, i, hdouble⟩ := Paging.exists_not_nodup_pages q.keyOrder (by omega)
    (env.arrange_perm q.le _) (arrange_sorted env q _) hties
  -- only the query of page `k + 1` has the two tied rows the other way round
  let envs : Nat → Environment := fun n => if n = k + 1 then env.swappingTie i else env
  have henvs : ∀ n, env.DiffersInTies (envs n) := by
    intro n
    unfold envs
    split
    · exact ⟨rfl, rfl⟩
    · exact ⟨rfl, rfl⟩
  obtain ⟨rows, items, hperm, hread, hrun⟩ := h envs henvs
  have hresult : (q.allPages envs pageSize (q.lastPage env c.db pageSize)).result c =
      .ok items := congrArg Prod.fst hrun
  have hpages := (result_allPages henvs hsize hrange).mp hresult
  rw [q.reader.mapM_ok_iff] at hread hpages
  have hids : (rows.map (·.id)).Nodup := by
    rw [(hperm.map _).nodup_iff]
    exact (c.db.integral.ids_nodup q.table).sublist (List.filter_sublist.map _)
  have hnodup := nodup_of_map_dtoOf hids (hpages.2.symm.trans hread.2)
  have hlists : ∀ n, (envs (n + 1)).arrange q.le (q.matching env c.db) =
      if n = k then Paging.swapTie q.le i (env.arrange q.le (q.matching env c.db))
      else env.arrange q.le (q.matching env c.db) := by
    intro n
    by_cases hn : n = k
    · simp [envs, hn, Environment.swappingTie]
    · simp [envs, hn]
  simp only [hlists] at hnodup
  exact hdouble hnodup

/-- **Paging is complete whatever the order of the ties exactly when** no page boundary splits a
tie among the matching rows and each of them can be read. -/
theorem pages_complete_iff (q : ListRequest) (env : Environment) (c : Connection) (pageSize : Int)
    (hsize : 1 ≤ pageSize)
    (hrange : ((q.lastPage env c.db pageSize : Int) - 1) * pageSize < 2 ^ 31) :
    PagesComplete env q pageSize c ↔
      Paging.TiesTogether q.le pageSize.toNat (q.matching env c.db) ∧
        ∀ row ∈ q.matching env c.db, q.reader.Readable row := by
  constructor
  · intro h
    refine ⟨tiesTogether_of_pagesComplete hsize hrange h, fun row hrow => ?_⟩
    obtain ⟨rows, items, hperm, hread, -⟩ := h (fun _ => env) fun _ => ⟨rfl, rfl⟩
    exact (q.reader.mapM_ok_iff.mp hread).1 row (hperm.mem_iff.mpr hrow)
  · rintro ⟨hties, hreadable⟩ envs henvs
    have hperm : (Paging.pages pageSize.toNat
        (fun n => (envs (n + 1)).arrange q.le (q.matching env c.db))
          (q.lastPage env c.db pageSize)).Perm (q.matching env c.db) :=
      Paging.pages_perm q.keyOrder (by omega) (fun n => (envs (n + 1)).arrange_perm q.le _)
        (fun n => arrange_sorted (envs (n + 1)) q _) hties
    have hread := q.reader.mapM_ok_iff.mpr
      ⟨fun row hrow => hreadable row (hperm.mem_iff.mp hrow), rfl⟩
    refine ⟨_, _, hperm, hread, ?_⟩
    rw [(readOnly_allPages ..).run_eq, Prod.mk.injEq]
    exact ⟨(result_allPages henvs hsize hrange).mpr hread, rfl⟩

/-- A connection after the creation of one workflow and of states in it. -/
def statesOfOneWorkflow (states : List Dto.State) : Connection :=
  states.foldl (fun c state => (SqliteStateRepository.create state).after c)
    (oneWorkflow (bytes "Sales"))

/-- Four states on two pages; the two that tie are both on the first one. -/
theorem pages_complete_iff_open : PagesComplete Environment.reference (.states none) 2
    (statesOfOneWorkflow [
      { workflowId := some 1, caption := some (bytes "Done"), orderNumber := some 2 },
      { workflowId := some 1, caption := some (bytes "Open"), orderNumber := some 1 },
      { workflowId := some 1, caption := some (bytes "Filed"), orderNumber := some 3 },
      { workflowId := some 1, caption := some (bytes "Waiting"), orderNumber := some 1 }]) :=
  (pages_complete_iff (.states none) Environment.reference _ 2 (by decide)
    (by decide +kernel)).mpr
      ⟨by decide +kernel, by simp only [RowReader.Readable]; decide +kernel⟩

/-- Two states are created without an order number, and a page has room for one. The query of page
1 happens to put the second state first, that of page 2 the first: page 1 and page 2 show the same
state. -/
theorem not_pages_complete : ¬ ∀ (q : ListRequest) (c : Connection),
    PagesComplete Environment.reference q 1 c := by
  intro h
  obtain ⟨rows, items, hperm, hread, hrun⟩ := h (.states none)
    (statesOfOneWorkflow [{ workflowId := some 1, caption := some (bytes "Open") },
      { workflowId := some 1, caption := some (bytes "Done") }])
    (fun n => if n = 1 then Environment.reference.swappingTie 0 else Environment.reference)
    (fun n => by split <;> exact ⟨rfl, rfl⟩)
  have hlisted : items.map Dto.State.id = [some 2, some 2] := by
    have := Except.ok.inj (congrArg Prod.fst hrun)
    rw [← this]
    decide +kernel
  have hids : items.map Dto.State.id = rows.map fun row => some row.id := by
    rw [((ListRequest.states none).reader.mapM_ok_iff.mp hread).2, List.map_map]
    rfl
  have hnodup := (hperm.map fun row => some row.id).nodup_iff
  rw [← hids, hlisted] at hnodup
  exact absurd (hnodup.mpr (by decide +kernel)) (by decide)

end ListRequest

end Farado
