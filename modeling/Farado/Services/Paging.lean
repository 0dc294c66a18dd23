import Farado.Repositories.Paging
import Farado.Services.ItemType
import Farado.Services.Project

/-!
# Page numbers of a request

`page` and `pageSize` come from the request as 32-bit numbers. The services raise what is below 1,
and the repositories compute the offset in 32 bits too, so a large page wraps around to an earlier
one.
-/

namespace Farado

open Relational Steps

namespace ListRequest

/-- The listing function of the service. -/
def list (env : Environment) : (q : ListRequest) → (page pageSize : Int) → Db (List q.Item × Int)
  | workflows => WorkflowService.workflows env
  | users => UserService.users env
  | states workflowId => fun page pageSize => StateService.states env page pageSize workflowId
  | edges beginStateId endStateId => fun page pageSize =>
      EdgeService.edges env page pageSize beginStateId endStateId
  | projects parentId isArchive searchCaption => fun page pageSize =>
      ProjectService.projects env page pageSize parentId isArchive searchCaption
  | phases projectId isArchive => fun page pageSize =>
      PhaseService.phases env page pageSize projectId isArchive
  | itemTypes workflowId kind searchCaption => fun page pageSize =>
      ItemTypeService.itemTypes env page pageSize workflowId kind searchCaption
  | fieldTypes itemTypeId valueType searchCaption => fun page pageSize =>
      FieldTypeService.fieldTypes env page pageSize itemTypeId valueType searchCaption

theorem list_eq (env : Environment) (q : ListRequest) (page pageSize : Int) :
    q.list env page pageSize =
      q.findAll env (normalizedPage page pageSize).1 (normalizedPage page pageSize).2 := by
  cases q <;> rfl

end ListRequest

/-- The offset the request asks for, before any arithmetic of the machine. -/
def requestedOffset (page pageSize : Int) : Int :=
  ((normalizedPage page pageSize).1 - 1) * (normalizedPage page pageSize).2

theorem one_le_normalizedPage (page pageSize : Int) :
    1 ≤ (normalizedPage page pageSize).1 ∧ 1 ≤ (normalizedPage page pageSize).2 := by
  unfold normalizedPage
  constructor <;> dsimp only <;> split <;> omega

theorem requestedOffset_nonneg (page pageSize : Int) : 0 ≤ requestedOffset page pageSize := by
  obtain ⟨hpage, hsize⟩ := one_le_normalizedPage page pageSize
  exact Int.mul_nonneg (by omega) (by omega)

/-- A list request is paged by the number it carries: the offset handed to SQL and compared with the
count is the requested one, and a page that begins past the end is empty. -/
def PagedAsRequested (page pageSize : Int) : Prop :=
  pageOffset (normalizedPage page pageSize).1 (normalizedPage page pageSize).2 =
      requestedOffset page pageSize ∧
    ∀ (q : ListRequest) (env : Environment) (c : Connection),
      ((q.matching env c.db).length : Int) ≤ requestedOffset page pageSize →
        (q.list env page pageSize).run c = (.ok ([], ((q.matching env c.db).length : Int)), c)

theorem pageOffset_eq_iff {page pageSize : Int} (h : 0 ≤ (page - 1) * pageSize) :
    pageOffset page pageSize = (page - 1) * pageSize ↔ (page - 1) * pageSize < 2 ^ 31 := by
  unfold pageOffset
  constructor
  · intro heq
    have := Int.bmod_lt (x := (page - 1) * pageSize) (m := 2 ^ 32) (by decide)
    omega
  · intro hlt
    apply Int.bmod_eq_of_le
    · omega
    · omega

/-- **A list request is paged as requested exactly when** its offset is less than 2^31. -/
theorem pagedAsRequested_iff (page pageSize : Int) :
    PagedAsRequested page pageSize ↔ requestedOffset page pageSize < 2 ^ 31 := by
  obtain ⟨hpage, hsize⟩ := one_le_normalizedPage page pageSize
  have hoffset := pageOffset_eq_iff (requestedOffset_nonneg page pageSize)
  constructor
  · rintro ⟨heq, -⟩
    exact hoffset.mp heq
  · intro hlt
    refine ⟨hoffset.mpr hlt, ?_⟩
    intro q env c hpast
    rw [ListRequest.list_eq, (ListRequest.readOnly_findAll ..).run_eq, Prod.mk.injEq]
    refine ⟨(ListRequest.result_findAll hpage hsize hlt).mpr ⟨?_, rfl⟩, rfl⟩
    rw [Paging.page_eq_nil]
    · rfl
    · rw [(env.arrange_perm _ _).length_eq, ← Int.toNat_mul (by omega) (by omega)]
      unfold requestedOffset at hpast
      omega

/-- Page 65537 with 65536 rows a page begins at row 2^32, which is row 0 in 32 bits: it shows the
one workflow of page 1 again. -/
theorem not_pagedAsRequested : ¬ ∀ page pageSize : Int, -2 ^ 31 ≤ page → page < 2 ^ 31 →
    -2 ^ 31 ≤ pageSize → pageSize < 2 ^ 31 → PagedAsRequested page pageSize := by
  intro h
  have hpaged := h 65537 65536 (by decide) (by decide) (by decide) (by decide)
  have hempty := hpaged.2 .workflows Environment.reference
    (ListRequest.oneWorkflow (bytes "Sales")) (by decide)
  have hlisted := congrArg (fun r => r.1.toOption.map (·.1.length)) hempty
  exact absurd hlisted (by decide +kernel)

end Farado
