import Mathlib.Logic.Function.Basic
import Mathlib.Logic.Relation

/-!
# Forests by parent pointers

A function `parent : α → Option α` is a forest when the way up from every node ends at a root.
Giving one node another parent keeps that exactly when the node is not met on the way up from its
new parent (`rooted_update_iff`).
-/

namespace Forest

variable {α : Type}

/-- `b` is the parent of `a`. -/
def ChildOf (parent : α → Option α) (a b : α) : Prop := parent a = some b

/-- `b` is `a` or is met on the way up from it. -/
def Reaches (parent : α → Option α) : α → α → Prop := Relation.ReflTransGen (ChildOf parent)

/-- `b` is met on the way up from `a`, after a step at least. -/
def Ancestor (parent : α → Option α) : α → α → Prop := Relation.TransGen (ChildOf parent)

/-- The way up ends at a root. -/
inductive Rooted (parent : α → Option α) : α → Prop
  | root {a : α} : parent a = none → Rooted parent a
  | child {a b : α} : parent a = some b → Rooted parent b → Rooted parent a

variable {parent : α → Option α}

/-- Whoever reaches a root is not above itself. -/
theorem Rooted.not_ancestor {a : α} (h : Rooted parent a) : ¬ Ancestor parent a a := by
  induction h with
  | root hroot =>
    intro hself
    obtain ⟨b, hb, -⟩ := Relation.TransGen.head'_iff.mp hself
    rw [ChildOf, hroot] at hb
    cases hb
  | @child a b hab _ ih =>
    intro hself
    obtain ⟨c, hc, hca⟩ := Relation.TransGen.head'_iff.mp hself
    obtain rfl : b = c := Option.some.inj (hab.symm.trans hc)
    -- the cycle through `a` goes through its parent as well
    exact ih (Relation.TransGen.tail' hca hab)

section
variable [DecidableEq α] {u : α} {v : Option α}

/-- A way up that does not meet `u` stays the same when `u` gets another parent. -/
theorem Rooted.update_of_not_reaches {p : α} (h : Rooted parent p) (hp : ¬ Reaches parent p u) :
    Rooted (Function.update parent u v) p := by
  induction h with
  | @root a hroot =>
    have hne : a ≠ u := by
      rintro rfl
      exact hp .refl
    exact .root (by rw [Function.update_of_ne hne, hroot])
  | @child a b hab _ ih =>
    have hne : a ≠ u := by
      rintro rfl
      exact hp .refl
    refine .child (by rw [Function.update_of_ne hne, hab]) (ih ?_)
    intro hbu
    exact hp (.head hab hbu)

/-- A way up to `u` is still there when `u` gets another parent. -/
theorem Reaches.update {p : α} (h : Reaches parent p u) :
    Reaches (Function.update parent u v) p u := by
  induction h using Relation.ReflTransGen.head_induction_on with
  | refl => exact .refl
  | @head a b hab _ ih =>
    by_cases ha : a = u
    · rw [ha]
      exact .refl
    · refine .head ?_ ih
      rw [ChildOf, Function.update_of_ne ha]
      exact hab

/-- **Giving a node another parent**, or none. -/
theorem rooted_update_iff (h : ∀ a, Rooted parent a) :
    (∀ a, Rooted (Function.update parent u v) a) ↔ ∀ p, v = some p → ¬ Reaches parent p u := by
  constructor
  · rintro hall p rfl hp
    -- the way up from the new parent comes back to `u`
    refine (hall u).not_ancestor (Relation.TransGen.head' ?_ hp.update)
    exact Function.update_self u (some p) parent
  · intro hv a
    have hu : Rooted (Function.update parent u v) u := by
      cases v with
      | none => exact .root (Function.update_self u none parent)
      | some p =>
        exact .child (Function.update_self u (some p) parent)
          ((h p).update_of_not_reaches (hv p rfl))
    induction h a with
    | @root a hroot =>
      by_cases ha : a = u
      · rwa [ha]
      · exact .root (by rw [Function.update_of_ne ha, hroot])
    | @child a b hab _ ih =>
      by_cases ha : a = u
      · rwa [ha]
      · exact .child (by rw [Function.update_of_ne ha, hab]) ih

end

end Forest
