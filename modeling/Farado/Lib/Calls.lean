import Mathlib.Tactic.Common

/-!
# Objects and calls

An object is a state and what every call makes of it: something it returns, and the state after the
call. Two objects that cannot be told apart by one call cannot be told apart by any number of them.
Methods are the programs behind the calls, with exceptions that leave the state as it is by then.
-/

namespace Calls

/-! ## Methods -/

section
variable {ε σ α β : Type}

/-- Programs that may throw and change a state. -/
abbrev Method (ε σ α : Type) := ExceptT ε (StateM σ) α

/-- What a method returns or throws, and the state after it. -/
def exec (m : Method ε σ α) (s : σ) : Except ε α × σ := m.run.run s

theorem exec_mk (f : σ → Except ε α × σ) (s : σ) : exec (ExceptT.mk f) s = f s := rfl

theorem exec_bind (m : Method ε σ α) (k : α → Method ε σ β) (s : σ) :
    exec (m >>= k) s =
      match exec m s with
      | (.ok a, s') => exec (k a) s'
      | (.error e, s') => (.error e, s') := by
  show (ExceptT.bindCont k (exec m s).1).run (exec m s).2 = _
  rcases exec m s with ⟨_ | _, s'⟩ <;> rfl

end

/-! ## Calls -/

variable {Op σ ρ : Type} (call : Op → σ → ρ × σ)

/-- The state after the calls. -/
def after : List Op → σ → σ
  | [], s => s
  | op :: ops, s => after ops (call op s).2

/-- The calls with what they returned. -/
def trace : List Op → σ → List (Op × ρ)
  | [], _ => []
  | op :: ops, s => (op, (call op s).1) :: trace ops (call op s).2

variable {call}

/-- **Objects that cannot be told apart.** -/
theorem trace_congr {R : σ → σ → Prop}
    (hcall : ∀ op s t, R s t → (call op s).1 = (call op t).1 ∧ R (call op s).2 (call op t).2)
    {s t : σ} (h : R s t) (ops : List Op) :
    trace call ops s = trace call ops t ∧ R (after call ops s) (after call ops t) := by
  induction ops generalizing s t with
  | nil => exact ⟨rfl, h⟩
  | cons op ops ih =>
    obtain ⟨hresult, hafter⟩ := hcall op s t h
    obtain ⟨htrace, hafter⟩ := ih hafter
    exact ⟨by rw [trace, trace, hresult, htrace], hafter⟩

/-- What somebody knows of the state who only sees the calls and what they return. -/
theorem monitor {μ : Type} {see : μ → Op × ρ → μ} {A : μ → σ → Prop}
    (hcall : ∀ m op s, A m s → A (see m (op, (call op s).1)) (call op s).2) {m : μ} {s : σ}
    (h : A m s) (ops : List Op) : A ((trace call ops s).foldl see m) (after call ops s) := by
  induction ops generalizing m s with
  | nil => exact h
  | cons op ops ih => exact ih (hcall m op s h)

end Calls
