import Mathlib.Logic.Basic

/-!
# While loops

A loop is given by its step: there is none from a state in which the condition is false, and from
any other it is the state after the body. A loop whose steps make something smaller ends, and what
its steps keep it keeps.
-/

namespace While

variable {σ α : Type} {step : σ → Option σ}

/-- The loop begun in a state ends in another. -/
inductive Ends (step : σ → Option σ) : σ → σ → Prop
  | exit {s : σ} : step s = none → Ends step s s
  | body {s s' t : σ} : step s = some s' → Ends step s' t → Ends step s t

/-- The loop, as long as the condition is looked at `fuel` times at most. -/
def loop (step : σ → Option σ) : Nat → σ → Option σ
  | 0, _ => none
  | fuel + 1, s =>
      match step s with
      | none => some s
      | some s' => loop step fuel s'

namespace Ends

/-- After the loop the condition is false. -/
theorem step_eq_none {s t : σ} (h : Ends step s t) : step t = none := by
  induction h with
  | exit hnone => exact hnone
  | body _ _ ih => exact ih

/-- What no step changes. -/
theorem apply_eq {f : σ → α} (hf : ∀ s s', step s = some s' → f s' = f s) {s t : σ}
    (h : Ends step s t) : f t = f s := by
  induction h with
  | exit => rfl
  | body hstep _ ih => exact ih.trans (hf _ _ hstep)

end Ends

section
variable {size : σ → Nat} (hsize : ∀ s s', step s = some s' → size s' < size s)
include hsize

/-- A loop that makes something smaller ends. -/
theorem exists_ends (s : σ) : ∃ t, Ends step s t := by
  induction hn : size s using Nat.strongRecOn generalizing s with
  | ind n ih =>
    cases hstep : step s with
    | none => exact ⟨s, .exit hstep⟩
    | some s' =>
      obtain ⟨t, ht⟩ := ih (size s') (hn ▸ hsize s s' hstep) s' rfl
      exact ⟨t, .body hstep ht⟩

/-- There is no need to look at the condition more often than the size and once again. -/
theorem Ends.loop_eq {s t : σ} (h : Ends step s t) {fuel : Nat} (hfuel : size s < fuel) :
    loop step fuel s = some t := by
  induction h generalizing fuel with
  | exit hnone =>
    cases fuel with
    | zero => exact absurd hfuel (Nat.not_lt_zero _)
    | succ fuel => simp only [loop, hnone]
  | body hstep _ ih =>
    cases fuel with
    | zero => exact absurd hfuel (Nat.not_lt_zero _)
    | succ fuel =>
      have hlt := hsize _ _ hstep
      simp only [loop, hstep]
      exact ih (by omega)

end

end While
