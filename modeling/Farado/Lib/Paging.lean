import Mathlib.Data.List.Nodup
import Mathlib.Data.List.Perm.Basic
import Mathlib.Data.Nat.Basic
import Mathlib.Tactic.ByContra
import Mathlib.Tactic.Push

/-!
# Reading an ordered list page by page

`page size l n` is page `n` of `l`, counted from 0. The pages of one list are the list again
(`pages_pageCount`).

A reader who asks for one page after the other does not see one list: each answer is cut from a list
of its own, sorted by the same keys, with equal keys in whatever order they came. The pages then
make up the list in every case if and only if **no elements with equal keys stand on both sides of a
page boundary** (`pages_perm`, `exists_not_nodup_pages`).
-/

namespace Paging

variable {α : Type}

/-- Page `n` of `l`. -/
def page (size : Nat) (l : List α) (n : Nat) : List α := (l.drop (n * size)).take size

/-- The first `count` pages; page `n` is cut from `lists n`. -/
def pages (size : Nat) (lists : Nat → List α) (count : Nat) : List α :=
  (List.range count).flatMap fun n => page size (lists n) n

/-- `total / size`, rounded up. -/
def pageCount (total size : Nat) : Nat := (total + size - 1) / size

/-! ## The pages of one list -/

theorem take_append_page (size : Nat) (l : List α) (n : Nat) :
    l.take (n * size) ++ page size l n = l.take ((n + 1) * size) := by
  rw [page, Nat.succ_mul, List.take_add]

theorem pages_succ (size : Nat) (lists : Nat → List α) (count : Nat) :
    pages size lists (count + 1) = pages size lists count ++ page size (lists count) count := by
  rw [pages, List.range_succ, List.flatMap_append, List.flatMap_singleton]
  rfl

theorem pages_same (size : Nat) (l : List α) (count : Nat) :
    pages size (fun _ => l) count = l.take (count * size) := by
  induction count with
  | zero => simp [pages]
  | succ count ih => rw [pages_succ, ih, take_append_page]

theorem le_pageCount_mul {size : Nat} (hsize : 0 < size) (total : Nat) :
    total ≤ pageCount total size * size := by
  have hdiv := Nat.div_add_mod (total + size - 1) size
  have hmod := Nat.mod_lt (total + size - 1) hsize
  rw [pageCount, Nat.mul_comm]
  omega

/-- **The pages of a list are the list.** -/
theorem pages_pageCount {size : Nat} (hsize : 0 < size) (l : List α) :
    pages size (fun _ => l) (pageCount l.length size) = l := by
  rw [pages_same]
  apply List.take_of_length_le
  exact le_pageCount_mul hsize l.length

/-- A page after the last one. -/
theorem page_eq_nil {size n : Nat} {l : List α} (h : l.length ≤ n * size) : page size l n = [] := by
  rw [page, List.drop_of_length_le h, List.take_nil]

theorem lt_pageCount {size n total : Nat} (hsize : 0 < size) (h : n * size < total) :
    n < pageCount total size := by
  apply Nat.lt_of_mul_lt_mul_right (a := size)
  exact Nat.lt_of_lt_of_le h (le_pageCount_mul hsize total)

theorem mem_page {size n i : Nat} {l : List α} (hi : i < l.length) (hfrom : n * size ≤ i)
    (hto : i < (n + 1) * size) : l[i] ∈ page size l n := by
  rw [Nat.succ_mul] at hto
  have hlength : i - n * size < (page size l n).length := by
    rw [page, List.length_take, List.length_drop]
    omega
  have hget : (page size l n)[i - n * size] = l[i] := by
    simp only [page, List.getElem_take, List.getElem_drop]
    congr 1
    omega
  rw [← hget]
  exact List.getElem_mem hlength

/-! ## Orders by keys -/

/-- An ORDER BY: elements with equal keys are each before the other. -/
structure KeyOrder (le : α → α → Bool) : Prop where
  trans : ∀ a b c, le a b → le b c → le a c
  total : ∀ a b, le a b || le b a

/-- By one key, and where that is equal by another order. -/
def thenBy {β : Type} [BEq β] (key : α → β) (le₁ : β → β → Bool) (le₂ : α → α → Bool) (a b : α) :
    Bool :=
  if key a == key b then le₂ a b else le₁ (key a) (key b)

namespace KeyOrder

variable {β : Type}

theorem comap {le : β → β → Bool} (h : KeyOrder le) (key : α → β) :
    KeyOrder fun a b => le (key a) (key b) where
  trans a b c := h.trans (key a) (key b) (key c)
  total a b := h.total (key a) (key b)

theorem thenBy [BEq β] [LawfulBEq β] {le₁ : β → β → Bool} (h₁ : KeyOrder le₁)
    (hantisymm : ∀ x y, le₁ x y → le₁ y x → x = y) {le₂ : α → α → Bool} (h₂ : KeyOrder le₂)
    (key : α → β) : KeyOrder (Paging.thenBy key le₁ le₂) where
  trans a b c := by
    intro hab hbc
    unfold Paging.thenBy at *
    by_cases hkab : key a = key b
    · rw [hkab] at hab ⊢
      by_cases hkbc : key b = key c
      · rw [hkbc] at hab hbc ⊢
        simp only [beq_self_eq_true, if_true] at hab hbc ⊢
        exact h₂.trans a b c hab hbc
      · rw [if_neg (by simpa using hkbc)] at hbc ⊢
        exact hbc
    · by_cases hkbc : key b = key c
      · rw [hkbc] at hab hkab
        rw [if_neg (by simpa using hkab)] at hab ⊢
        exact hab
      · rw [if_neg (by simpa using hkab)] at hab
        rw [if_neg (by simpa using hkbc)] at hbc
        have hac := h₁.trans _ _ _ hab hbc
        -- equal outer keys would make all three equal
        have hkac : key a ≠ key c := fun h => hkab (hantisymm _ _ hab (h ▸ hbc))
        rw [if_neg (by simpa using hkac)]
        exact hac
  total a b := by
    unfold Paging.thenBy
    by_cases hk : key a = key b
    · rw [hk]
      simpa using h₂.total a b
    · rw [if_neg (by simpa using hk), if_neg (by simpa using Ne.symm hk)]
      exact h₁.total (key a) (key b)

end KeyOrder

/-! ## Lists sorted by the same keys -/

variable {le : α → α → Bool}

/-- How many elements come before `r` in every order of the ties. -/
def before (le : α → α → Bool) (l : List α) (r : α) : Nat := l.countP fun x => !le r x

/-- How many elements can stand up to `r`, ties included. -/
def upTo (le : α → α → Bool) (l : List α) (r : α) : Nat := l.countP fun x => le x r

/-- No page boundary falls between two elements with equal keys. -/
def TiesTogether (le : α → α → Bool) (size : Nat) (l : List α) : Prop :=
  ∀ r ∈ l, ∀ n, ¬ (before le l r < n * size ∧ n * size < upTo le l r)

/-- A boundary inside a tie is one inside the list, so only finitely many are to be checked. -/
theorem tiesTogether_iff {size : Nat} {l : List α} : TiesTogether le size l ↔
    ∀ r ∈ l, ∀ n < l.length, ¬ (before le l r < n * size ∧ n * size < upTo le l r) := by
  constructor
  · intro h r hr n _
    exact h r hr n
  · rintro h r hr n ⟨hbefore, hupTo⟩
    have hsize : 0 < size := Nat.pos_of_mul_pos_left (Nat.zero_lt_of_lt hbefore)
    have hlength : n * size < l.length := Nat.lt_of_lt_of_le hupTo List.countP_le_length
    exact h r hr n (Nat.lt_of_le_of_lt (Nat.le_mul_of_pos_right n hsize) hlength) ⟨hbefore, hupTo⟩

instance (size : Nat) (l : List α) : Decidable (TiesTogether le size l) :=
  decidable_of_iff _ tiesTogether_iff.symm

/-- In a sorted list the elements before `r` come first. -/
theorem eq_filter_append_filter (hle : KeyOrder le) {l : List α}
    (hsorted : l.Pairwise fun a b => le a b) (r : α) :
    l = l.filter (fun x => !le r x) ++ l.filter fun x => le r x := by
  induction l with
  | nil => rfl
  | cons x l ih =>
    obtain ⟨hx, hl⟩ := List.pairwise_cons.mp hsorted
    cases hrx : le r x with
    | true =>
      -- then the whole list is after `r`
      have hall : ∀ y ∈ x :: l, le r y = true := by
        intro y hy
        rcases List.mem_cons.mp hy with rfl | hy
        · exact hrx
        · exact hle.trans r x y hrx (hx y hy)
      have hnone : (x :: l).filter (fun y => !le r y) = [] := by
        rw [List.filter_eq_nil_iff]
        intro y hy
        simp [hall y hy]
      rw [hnone, List.nil_append, List.filter_eq_self.mpr hall]
    | false =>
      rw [List.filter_cons_of_pos (by simp [hrx]), List.filter_cons_of_neg (by simp [hrx]),
        List.cons_append]
      exact congrArg (x :: ·) (ih hl)

theorem take_before (hle : KeyOrder le) {l : List α}
    (hsorted : l.Pairwise fun a b => le a b) (r : α) :
    l.take (before le l r) = l.filter fun x => !le r x := by
  have hlength : (l.filter fun x => !le r x).length = before le l r :=
    List.countP_eq_length_filter.symm
  calc l.take (before le l r)
      = (l.filter (fun x => !le r x) ++ l.filter fun x => le r x).take (before le l r) := by
        rw [← eq_filter_append_filter hle hsorted r]
    _ = l.filter fun x => !le r x := List.take_left' hlength

theorem countP_le_of_drop {p : α → Bool} {l : List α} {b : Nat} (h : ∀ y ∈ l.drop b, p y = false) :
    l.countP p ≤ b := by
  have hrest : (l.drop b).countP p = 0 := by
    rw [List.countP_eq_zero]
    intro y hy
    simp [h y hy]
  have hfirst := List.countP_le_length (p := p) (l := l.take b)
  rw [List.length_take] at hfirst
  calc l.countP p = (l.take b).countP p + (l.drop b).countP p := by
        rw [← List.countP_append, List.take_append_drop]
    _ ≤ b := by omega

theorem le_countP_of_take {p : α → Bool} {l : List α} {b : Nat} (hb : b ≤ l.length)
    (h : ∀ y ∈ l.take b, p y = true) : b ≤ l.countP p := by
  have hfirst : (l.take b).countP p = b := by
    rw [List.countP_eq_length.mpr h, List.length_take]
    omega
  calc b = (l.take b).countP p := hfirst.symm
    _ ≤ l.countP p := (List.take_sublist b l).countP_le

theorem le_getElem (hle : KeyOrder le) {l : List α} (hsorted : l.Pairwise fun a b => le a b)
    {i j : Nat} (hij : i ≤ j) (hi : i < l.length) (hj : j < l.length) : le l[i] l[j] = true := by
  rcases Nat.lt_or_eq_of_le hij with hlt | rfl
  · exact List.pairwise_iff_getElem.mp hsorted i j hi hj hlt
  · simpa using hle.total l[i] l[i]

/-- What stands at position `b` has at most `b` elements before it, and could stand further on. -/
theorem before_le_and_lt_upTo (hle : KeyOrder le) {l : List α}
    (hsorted : l.Pairwise fun a b => le a b) {b : Nat} (hb : b < l.length) :
    before le l l[b] ≤ b ∧ b < upTo le l l[b] := by
  constructor
  · apply countP_le_of_drop
    intro y hy
    obtain ⟨j, hj, rfl⟩ := List.mem_drop_iff_getElem.mp hy
    simp [le_getElem hle hsorted (Nat.le_add_right b j) hb (by omega)]
  · apply le_countP_of_take hb
    intro y hy
    obtain ⟨j, hj, rfl⟩ := List.mem_take_iff_getElem.mp hy
    exact le_getElem hle hsorted (by omega) (by omega) hb

/-- Where the ties stay together, every order of them has the same elements on the first pages. -/
theorem take_perm (hle : KeyOrder le) {size n : Nat} {l s : List α} (hperm : l.Perm s)
    (hl : l.Pairwise fun a b => le a b) (hs : s.Pairwise fun a b => le a b)
    (hties : TiesTogether le size l) : (l.take (n * size)).Perm (s.take (n * size)) := by
  by_cases hb : n * size < l.length
  · obtain ⟨hbefore, hupTo⟩ := before_le_and_lt_upTo hle hl hb
    generalize hr : l[n * size] = r at hbefore hupTo
    have hmem : r ∈ l := hr ▸ List.getElem_mem hb
    -- no tie crosses this boundary, so exactly the elements before `r` are in front of it
    have hexact : before le l r = n * size := by
      have := hties r hmem n
      omega
    have hsame : before le s r = n * size := by
      rw [← hexact]
      exact (hperm.countP_eq _).symm
    rw [← hexact, take_before hle hl, hexact, ← hsame, take_before hle hs]
    exact hperm.filter _
  · have hlength := hperm.length_eq
    rw [List.take_of_length_le (by omega), List.take_of_length_le (by omega)]
    exact hperm

theorem page_perm (hle : KeyOrder le) {size n : Nat} {l s : List α} (hperm : l.Perm s)
    (hl : l.Pairwise fun a b => le a b) (hs : s.Pairwise fun a b => le a b)
    (hties : TiesTogether le size l) : (page size l n).Perm (page size s n) := by
  have hnext : (l.take (n * size) ++ page size l n).Perm (s.take (n * size) ++ page size s n) := by
    rw [take_append_page, take_append_page]
    exact take_perm hle hperm hl hs hties
  have hfirst : (l.take (n * size)).Perm (s.take (n * size)) :=
    take_perm hle hperm hl hs hties
  rw [← List.perm_append_left_iff (s.take (n * size))]
  exact (hfirst.symm.append_right _).trans hnext

/-- **Where the ties stay together, the pages make up the list in whatever order each page finds
them.** -/
theorem pages_perm (hle : KeyOrder le) {size : Nat} (hsize : 0 < size) {l : List α}
    {lists : Nat → List α} (hperm : ∀ n, (lists n).Perm l)
    (hsorted : ∀ n, (lists n).Pairwise fun a b => le a b) (hties : TiesTogether le size l) :
    (pages size lists (pageCount l.length size)).Perm l := by
  have hties' : TiesTogether le size (lists 0) := by
    intro r hr n
    rw [before, upTo, (hperm 0).countP_eq, (hperm 0).countP_eq]
    exact hties r ((hperm 0).mem_iff.mp hr) n
  have hpage : (pages size lists (pageCount l.length size)).Perm
      (pages size (fun _ => lists 0) (pageCount l.length size)) := by
    apply List.Perm.flatMap_left
    intro n _
    exact (page_perm hle ((hperm 0).trans (hperm n).symm) (hsorted 0) (hsorted n)
      hties').symm
  rw [← (hperm 0).length_eq] at hpage ⊢
  rw [pages_pageCount hsize] at hpage
  exact hpage.trans (hperm 0)

/-! ## An order of the ties that repeats an element -/

/-- The list with the elements at positions `i` and `i + 1` exchanged, if their keys are equal. -/
def swapTie (le : α → α → Bool) : Nat → List α → List α
  | 0, a :: b :: l => if le b a then b :: a :: l else a :: b :: l
  | i + 1, a :: l => a :: swapTie le i l
  | _, l => l

theorem swapTie_perm (le : α → α → Bool) (i : Nat) (l : List α) : (swapTie le i l).Perm l := by
  fun_induction swapTie le i l with
  | case1 a b l h => exact List.Perm.swap a b l
  | case2 a b l h => exact List.Perm.refl _
  | case3 i a l ih => exact ih.cons a
  | case4 i l h h' => exact List.Perm.refl _

theorem swapTie_sorted {i : Nat} {l : List α} (h : l.Pairwise fun a b => le a b) :
    (swapTie le i l).Pairwise fun a b => le a b := by
  fun_induction swapTie le i l with
  | case1 a b l hba =>
    obtain ⟨ha, hrest⟩ := List.pairwise_cons.mp h
    obtain ⟨hb, hl⟩ := List.pairwise_cons.mp hrest
    refine List.pairwise_cons.mpr ⟨?_, List.pairwise_cons.mpr ⟨?_, hl⟩⟩
    · exact List.forall_mem_cons.mpr ⟨hba, hb⟩
    · exact fun y hy => ha y (List.mem_cons_of_mem _ hy)
  | case2 a b l hba => exact h
  | case3 i a l ih =>
    obtain ⟨ha, hl⟩ := List.pairwise_cons.mp h
    refine List.pairwise_cons.mpr ⟨?_, ih hl⟩
    exact fun y hy => ha y ((swapTie_perm le i l).mem_iff.mp hy)
  | case4 i l h' h'' => exact h

theorem swapTie_getElem? {i : Nat} {l : List α} (hi : i + 1 < l.length)
    (htie : le l[i + 1] l[i] = true) : (swapTie le i l)[i]? = some l[i + 1] := by
  fun_induction swapTie le i l with
  | case1 a b l hba => rfl
  | case2 a b l hba => exact absurd htie hba
  | case3 i a l ih => exact ih (by simpa using hi) htie
  | case4 i l hzero hsucc =>
    -- a list that has a position `i + 1` is not shorter than the two patterns
    match i, l with
    | 0, a :: b :: l => exact absurd rfl (hzero a b l rfl)
    | i + 1, a :: l => exact absurd rfl (hsucc i a l rfl)

/-- At a boundary that splits a tie, the two neighbours have equal keys. -/
theorem tie_of_between (hle : KeyOrder le) {l : List α} (hsorted : l.Pairwise fun a b => le a b)
    {r : α} {b : Nat} (hbefore : before le l r < b + 1) (hupTo : b + 1 < upTo le l r)
    (hb : b < l.length) (hb' : b + 1 < l.length) : le l[b + 1] l[b] = true := by
  have hlow : le r l[b] = true := by
    by_contra hnot
    -- otherwise all elements up to position `b` are before `r`
    have hall : ∀ y ∈ l.take (b + 1), (!le r y) = true := by
      intro y hy
      obtain ⟨j, hj, rfl⟩ := List.mem_take_iff_getElem.mp hy
      have hjb : le l[j] l[b] = true := le_getElem hle hsorted (by omega) (by omega) hb
      by_contra hr
      exact hnot (hle.trans r _ _ (by simpa using hr) hjb)
    have := le_countP_of_take (b := b + 1) hb hall
    unfold before at hbefore
    omega
  have hhigh : le l[b + 1] r = true := by
    by_contra hnot
    -- otherwise all elements from position `b + 1` on are after `r`
    have hall : ∀ y ∈ l.drop (b + 1), le y r = false := by
      intro y hy
      obtain ⟨j, hj, rfl⟩ := List.mem_drop_iff_getElem.mp hy
      have hbj : le l[b + 1] l[b + 1 + j] = true :=
        le_getElem hle hsorted (Nat.le_add_right _ j) hb' (by omega)
      by_contra hr
      exact hnot (hle.trans _ _ r hbj (by simpa using hr))
    have := countP_le_of_drop hall
    unfold upTo at hupTo
    omega
  exact hle.trans _ r _ hhigh hlow

/-- **Where a boundary splits a tie, an order of the ties for each page repeats an element.** -/
theorem exists_not_nodup_pages (hle : KeyOrder le) {size : Nat} (hsize : 0 < size) {l s : List α}
    (hperm : s.Perm l) (hsorted : s.Pairwise fun a b => le a b)
    (hties : ¬ TiesTogether le size l) : ∃ k i, ¬ (pages size
      (fun n => if n = k then swapTie le i s else s) (pageCount l.length size)).Nodup := by
  unfold TiesTogether at hties
  push Not at hties
  obtain ⟨r, -, n, hbefore, hupTo⟩ := hties
  obtain ⟨k, rfl⟩ : ∃ k, n = k + 1 := ⟨n - 1, by rcases n with _ | n <;> omega⟩
  rw [before, ← hperm.countP_eq] at hbefore
  rw [upTo, ← hperm.countP_eq] at hupTo
  rw [← hperm.length_eq]
  have hlength : (k + 1) * size < s.length :=
    Nat.lt_of_lt_of_le hupTo List.countP_le_length
  -- `b` is the last position of page `k`, and `b + 1` the first one of the page after it
  obtain ⟨b, hb⟩ : ∃ b, (k + 1) * size = b + 1 := ⟨(k + 1) * size - 1, by rw [Nat.succ_mul]; omega⟩
  have hstart : k * size + size = b + 1 := by rw [← hb, Nat.succ_mul]
  have hend : (k + 1 + 1) * size = b + 1 + size := by rw [Nat.succ_mul, hb]
  rw [hb] at hbefore hupTo
  have hb' : b + 1 < s.length := by omega
  have htie : le s[b + 1] s[b] = true :=
    tie_of_between hle hsorted hbefore hupTo (by omega) hb'
  have hfirst : s[b + 1] ∈ page size (swapTie le b s) k := by
    have hswap : b < (swapTie le b s).length := by
      rw [(swapTie_perm le b s).length_eq]
      omega
    have hget : (swapTie le b s)[b] = s[b + 1] := by
      have := swapTie_getElem? hb' htie
      rwa [List.getElem?_eq_getElem hswap, Option.some.injEq] at this
    rw [← hget]
    exact mem_page hswap (by omega) (by omega)
  have hsecond : s[b + 1] ∈ page size s (k + 1) := mem_page hb' (by omega) (by omega)
  refine ⟨k, b, ?_⟩
  intro hnodup
  have hlast : k + 1 < pageCount s.length size := lt_pageCount hsize hlength
  have hdisjoint := (List.nodup_flatMap.mp hnodup).2
  rw [List.pairwise_iff_getElem] at hdisjoint
  have := hdisjoint k (k + 1) (by simpa using by omega) (by simpa using hlast) (by omega)
  simp only [List.getElem_range, Function.onFun, if_true, Nat.succ_ne_self, if_false] at this
  exact this hfirst hsecond

end Paging
