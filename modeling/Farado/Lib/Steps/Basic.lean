import Mathlib.Tactic.Common

/-!
# Programs of atomic steps

A `Prog σ ε α` is a program over a shared state `σ`: a tree whose nodes are **atomic steps** and
whose leaves are results, either a value or an exception. A step reads the state and writes it in
one go; between two steps of one program anything may happen to the state. Because the steps are
data, one definition of a program has several meanings:

* `run` — the steps of one program in sequence, nothing in between, none of them failing;
* `Ends` — the same, but every step may fail with an exception instead of taking effect;
* `Passes` — the states such a run goes through, for a program that is cut off;
* `Pool` (in `Steps.Interleave`) — the steps of many programs in any order.

A failing step leaves the state as it was and hands control to its `fault` branch, which is where
`tryCatch` catches it.
-/

namespace Steps

/-- A part `σ` of a larger state `τ`: it can be read and replaced, and nothing else changes. -/
structure Lens (τ σ : Type) where
  get : τ → σ
  set : σ → τ → τ
  get_set : ∀ s t, get (set s t) = s
  set_get : ∀ t, set (get t) t = t
  set_set : ∀ s s' t, set s' (set s t) = set s' t

/-- A program over the state `σ`, with exceptions `ε` and results `α`. In a `step`, `next` is given
the state in which the step ran (the one `update` was applied to). -/
inductive Prog (σ ε α : Type) where
  | done (result : Except ε α)
  | step (update : σ → σ) (next : σ → Prog σ ε α) (fault : Prog σ ε α)

namespace Prog

variable {σ τ ε ε' α β : Type}

/-- Sequencing: a raised exception skips the rest. -/
def bind : Prog σ ε α → (α → Prog σ ε β) → Prog σ ε β
  | done (.ok a), k => k a
  | done (.error e), _ => done (.error e)
  | step u n f, k => step u (fun s => (n s).bind k) (f.bind k)

/-- `try p catch h`: an exception of `p`, raised or injected, goes to `h`; the state stays. -/
def catchWith : Prog σ ε α → (ε → Prog σ ε α) → Prog σ ε α
  | done (.ok a), _ => done (.ok a)
  | done (.error e), h => h e
  | step u n f, h => step u (fun s => (n s).catchWith h) (f.catchWith h)

instance : Monad (Prog σ ε) where
  pure a := done (.ok a)
  bind := bind

instance : MonadExceptOf ε (Prog σ ε) where
  throw e := done (.error e)
  tryCatch := catchWith

/-- A single step: `act` gives the result and the new state; the injected exception is `onFault`. -/
def atomic (onFault : ε) (act : σ → Except ε α × σ) : Prog σ ε α :=
  step (fun s => (act s).2) (fun s => done (act s).1) (done (.error onFault))

/-- The same program over a larger state of which its own is a part; what it throws is translated
by `raise`. -/
def zoom (part : Lens τ σ) (raise : ε → ε') : Prog σ ε α → Prog τ ε' α
  | done r => done (r.mapError raise)
  | step u n f =>
      step (fun t => part.set (u (part.get t)) t) (fun t => (n (part.get t)).zoom part raise)
        (f.zoom part raise)

/-! ## Running a program alone -/

/-- Run the steps one after the other, without interference and without faults. -/
def run : Prog σ ε α → σ → Except ε α × σ
  | done r, s => (r, s)
  | step u n _, s => (n s).run (u s)

/-- What a run returns. -/
def result (p : Prog σ ε α) (s : σ) : Except ε α := (p.run s).1

/-- The state a run leaves. -/
def after (p : Prog σ ε α) (s : σ) : σ := (p.run s).2

theorem run_eq (p : Prog σ ε α) (s : σ) : p.run s = (p.result s, p.after s) := rfl

@[simp] theorem run_done (r : Except ε α) (s : σ) : (done r : Prog σ ε α).run s = (r, s) := rfl

@[simp] theorem run_atomic (e : ε) (act : σ → Except ε α × σ) (s : σ) :
    (atomic e act).run s = act s := rfl

theorem bind_assoc {γ : Type} (p : Prog σ ε α) (k : α → Prog σ ε β) (k' : β → Prog σ ε γ) :
    p >>= k >>= k' = p >>= fun a => k a >>= k' := by
  show (p.bind k).bind k' = p.bind fun a => (k a).bind k'
  induction p with
  | done r => cases r <;> rfl
  | step u n f ihn ihf =>
    show Prog.step u _ _ = Prog.step u _ _
    rw [ihf]
    congr 1
    funext s
    exact ihn s

theorem run_bind (p : Prog σ ε α) (k : α → Prog σ ε β) (s : σ) :
    (p >>= k).run s =
      match p.run s with
      | (.ok a, s') => (k a).run s'
      | (.error e, s') => (.error e, s') := by
  show (p.bind k).run s = _
  induction p generalizing s with
  | done r => cases r <;> rfl
  | step u n f ihn _ => exact ihn s (u s)

theorem run_tryCatch (p : Prog σ ε α) (h : ε → Prog σ ε α) (s : σ) :
    (tryCatch p h).run s =
      match p.run s with
      | (.ok a, s') => (.ok a, s')
      | (.error e, s') => (h e).run s' := by
  show (p.catchWith h).run s = _
  induction p generalizing s with
  | done r => cases r <;> rfl
  | step u n f ihn _ => exact ihn s (u s)

/-- Peeling a finished first part off a sequence. -/
theorem run_bind_ok {p : Prog σ ε α} {k : α → Prog σ ε β} {s s' : σ} {a : α}
    (h : p.run s = (.ok a, s')) : (p >>= k).run s = (k a).run s' := by
  rw [run_bind, h]

/-- An exception in the first part is the exception of the sequence. -/
theorem run_bind_error {p : Prog σ ε α} {k : α → Prog σ ε β} {s s' : σ} {e : ε}
    (h : p.run s = (.error e, s')) : (p >>= k).run s = (.error e, s') := by
  rw [run_bind, h]

theorem run_zoom (part : Lens τ σ) (raise : ε → ε') (p : Prog σ ε α) (t : τ) :
    (p.zoom part raise).run t =
      ((p.run (part.get t)).1.mapError raise, part.set (p.run (part.get t)).2 t) := by
  induction p generalizing t with
  | done r => simp [zoom, part.set_get]
  | step u n f ihn _ =>
    show ((n (part.get t)).zoom part raise).run (part.set (u (part.get t)) t) = _
    rw [ihn, part.get_set, part.set_set]
    rfl

/-! ## Runs in which steps may fail -/

/-- `Ends p s r s'`: started in `s`, the program can end with result `r` in state `s'` when any of
its steps may fail instead of taking effect. -/
inductive Ends : Prog σ ε α → σ → Except ε α → σ → Prop
  | done {r s} : Ends (.done r) s r s
  | step {u n f s r s'} : Ends (n s) (u s) r s' → Ends (.step u n f) s r s'
  | fault {u n f s r s'} : Ends f s r s' → Ends (.step u n f) s r s'

/-- The run without faults is one of them. -/
theorem ends_run (p : Prog σ ε α) (s : σ) : Ends p s (p.run s).1 (p.run s).2 := by
  induction p generalizing s with
  | done r => exact .done
  | step u n f ihn _ => exact .step (ihn s (u s))

theorem ends_done_iff {r r' : Except ε α} {s s' : σ} :
    Ends (done r) s r' s' ↔ r' = r ∧ s' = s := by
  constructor
  · rintro ⟨⟩
    exact ⟨rfl, rfl⟩
  · rintro ⟨rfl, rfl⟩
    exact .done

theorem ends_pure_iff {a : α} {r : Except ε α} {s s' : σ} :
    Ends (pure a) s r s' ↔ r = .ok a ∧ s' = s := ends_done_iff

theorem ends_throw_iff {e : ε} {r : Except ε α} {s s' : σ} :
    Ends (throw e) s r s' ↔ r = .error e ∧ s' = s := ends_done_iff

/-- A step either takes effect or fails and changes nothing. -/
theorem ends_atomic_iff {e : ε} {act : σ → Except ε α × σ} {r : Except ε α} {s s' : σ} :
    Ends (atomic e act) s r s' ↔ (r = (act s).1 ∧ s' = (act s).2) ∨ (r = .error e ∧ s' = s) := by
  constructor
  · intro h
    cases h with
    | step h => exact .inl (ends_done_iff.mp h)
    | fault h => exact .inr (ends_done_iff.mp h)
  · rintro (⟨rfl, rfl⟩ | ⟨rfl, rfl⟩)
    · exact .step .done
    · exact .fault .done

theorem ends_bind_iff {p : Prog σ ε α} {k : α → Prog σ ε β} {r : Except ε β} {s s' : σ} :
    Ends (p >>= k) s r s' ↔
      (∃ a s₁, Ends p s (.ok a) s₁ ∧ Ends (k a) s₁ r s') ∨
      (∃ e, Ends p s (.error e) s' ∧ r = .error e) := by
  show Ends (p.bind k) s r s' ↔ _
  constructor
  · intro h
    induction p generalizing s with
    | done r₀ =>
      cases r₀ with
      | ok a => exact .inl ⟨a, s, .done, h⟩
      | error e =>
        obtain ⟨rfl, rfl⟩ := ends_done_iff.mp h
        exact .inr ⟨e, .done, rfl⟩
    | step u n f ihn ihf =>
      cases h with
      | step h =>
        rcases ihn _ h with ⟨a, s₁, h₁, h₂⟩ | ⟨e, h₁, rfl⟩
        · exact .inl ⟨a, s₁, .step h₁, h₂⟩
        · exact .inr ⟨e, .step h₁, rfl⟩
      | fault h =>
        rcases ihf h with ⟨a, s₁, h₁, h₂⟩ | ⟨e, h₁, rfl⟩
        · exact .inl ⟨a, s₁, .fault h₁, h₂⟩
        · exact .inr ⟨e, .fault h₁, rfl⟩
  · intro h
    induction p generalizing s with
    | done r₀ =>
      rcases h with ⟨a, s₁, h₁, h₂⟩ | ⟨e, h₁, rfl⟩
      · obtain ⟨rfl, rfl⟩ := ends_done_iff.mp h₁
        exact h₂
      · obtain ⟨rfl, rfl⟩ := ends_done_iff.mp h₁
        exact .done
    | step u n f ihn ihf =>
      rcases h with ⟨a, s₁, h₁, h₂⟩ | ⟨e, h₁, rfl⟩
      · cases h₁ with
        | step h₁ => exact .step (ihn _ (.inl ⟨a, s₁, h₁, h₂⟩))
        | fault h₁ => exact .fault (ihf (.inl ⟨a, s₁, h₁, h₂⟩))
      · cases h₁ with
        | step h₁ => exact .step (ihn _ (.inr ⟨e, h₁, rfl⟩))
        | fault h₁ => exact .fault (ihf (.inr ⟨e, h₁, rfl⟩))

theorem ends_tryCatch_iff {p : Prog σ ε α} {h : ε → Prog σ ε α} {r : Except ε α} {s s' : σ} :
    Ends (tryCatch p h) s r s' ↔
      (∃ a, Ends p s (.ok a) s' ∧ r = .ok a) ∨
      (∃ e s₁, Ends p s (.error e) s₁ ∧ Ends (h e) s₁ r s') := by
  show Ends (p.catchWith h) s r s' ↔ _
  constructor
  · intro hp
    induction p generalizing s with
    | done r₀ =>
      cases r₀ with
      | ok a =>
        obtain ⟨rfl, rfl⟩ := ends_done_iff.mp hp
        exact .inl ⟨a, .done, rfl⟩
      | error e => exact .inr ⟨e, s, .done, hp⟩
    | step u n f ihn ihf =>
      cases hp with
      | step hp =>
        rcases ihn _ hp with ⟨a, h₁, rfl⟩ | ⟨e, s₁, h₁, h₂⟩
        · exact .inl ⟨a, .step h₁, rfl⟩
        · exact .inr ⟨e, s₁, .step h₁, h₂⟩
      | fault hp =>
        rcases ihf hp with ⟨a, h₁, rfl⟩ | ⟨e, s₁, h₁, h₂⟩
        · exact .inl ⟨a, .fault h₁, rfl⟩
        · exact .inr ⟨e, s₁, .fault h₁, h₂⟩
  · intro hp
    induction p generalizing s with
    | done r₀ =>
      rcases hp with ⟨a, h₁, rfl⟩ | ⟨e, s₁, h₁, h₂⟩
      · obtain ⟨rfl, rfl⟩ := ends_done_iff.mp h₁
        exact .done
      · obtain ⟨rfl, rfl⟩ := ends_done_iff.mp h₁
        exact h₂
    | step u n f ihn ihf =>
      rcases hp with ⟨a, h₁, rfl⟩ | ⟨e, s₁, h₁, h₂⟩
      · cases h₁ with
        | step h₁ => exact .step (ihn _ (.inl ⟨a, h₁, rfl⟩))
        | fault h₁ => exact .fault (ihf (.inl ⟨a, h₁, rfl⟩))
      · cases h₁ with
        | step h₁ => exact .step (ihn _ (.inr ⟨e, s₁, h₁, h₂⟩))
        | fault h₁ => exact .fault (ihf (.inr ⟨e, s₁, h₁, h₂⟩))

theorem ends_zoom {part : Lens τ σ} {raise : ε → ε'} {p : Prog σ ε α} {r : Except ε' α} {t t' : τ}
    (h : Ends (p.zoom part raise) t r t') :
    ∃ r₀ s', Ends p (part.get t) r₀ s' ∧ r = r₀.mapError raise ∧ t' = part.set s' t := by
  induction p generalizing t with
  | done r₀ =>
    obtain ⟨hr, rfl⟩ := ends_done_iff.mp h
    exact ⟨r₀, part.get t', .done, hr, (part.set_get t').symm⟩
  | step u n f ihn ihf =>
    cases h with
    | step h =>
      obtain ⟨r₀, s', hs', hr, ht'⟩ := ihn _ h
      rw [part.get_set] at hs'
      rw [part.set_set] at ht'
      exact ⟨r₀, s', .step hs', hr, ht'⟩
    | fault h =>
      obtain ⟨r₀, s', hs', hr, ht'⟩ := ihf h
      exact ⟨r₀, s', .fault hs', hr, ht'⟩

/-- Every run of the program, however it ends, relates the state it found to the one it leaves. -/
def Within (R : σ → σ → Prop) (p : Prog σ ε α) : Prop := ∀ s r s', Ends p s r s' → R s s'

section
variable {R : σ → σ → Prop}

theorem within_done (hrefl : ∀ s, R s s) (r : Except ε α) : Within R (done r) := by
  intro s r' s' h
  rw [(ends_done_iff.mp h).2]
  exact hrefl s

theorem within_atomic (hrefl : ∀ s, R s s) {e : ε} {act : σ → Except ε α × σ}
    (hact : ∀ s, R s (act s).2) : Within R (atomic e act) := by
  intro s r s' h
  rcases ends_atomic_iff.mp h with ⟨-, rfl⟩ | ⟨-, rfl⟩
  · exact hact s
  · exact hrefl s'

theorem Within.bind (htrans : ∀ s s₁ s', R s s₁ → R s₁ s' → R s s') {p : Prog σ ε α}
    {k : α → Prog σ ε β} (hp : Within R p) (hk : ∀ a, Within R (k a)) : Within R (p >>= k) := by
  intro s r s' h
  rcases ends_bind_iff.mp h with ⟨a, s₁, h₁, h₂⟩ | ⟨e, h₁, -⟩
  · exact htrans s s₁ s' (hp s _ s₁ h₁) (hk a s₁ r s' h₂)
  · exact hp s _ s' h₁

theorem Within.tryCatch (htrans : ∀ s s₁ s', R s s₁ → R s₁ s' → R s s') {p : Prog σ ε α}
    {h : ε → Prog σ ε α} (hp : Within R p) (hh : ∀ e, Within R (h e)) : Within R (tryCatch p h) := by
  intro s r s' hends
  rcases ends_tryCatch_iff.mp hends with ⟨a, h₁, -⟩ | ⟨e, s₁, h₁, h₂⟩
  · exact hp s _ s' h₁
  · exact htrans s s₁ s' (hp s _ s₁ h₁) (hh e s₁ r s' h₂)

end

/-! ## Runs that are cut off -/

/-- `Passes p s s'`: started in `s`, a run of the program (with or without failing steps) passes
through `s'`. If the program is cut off there, `s'` is the state it leaves behind. -/
inductive Passes : Prog σ ε α → σ → σ → Prop
  | here {p s} : Passes p s s
  | step {u n f s s'} : Passes (n s) (u s) s' → Passes (.step u n f) s s'
  | fault {u n f s s'} : Passes f s s' → Passes (.step u n f) s s'

/-- The state a run ends in is one it passes through. -/
theorem Ends.passes {p : Prog σ ε α} {s s' : σ} {r : Except ε α} (h : Ends p s r s') :
    Passes p s s' := by
  induction h with
  | done => exact .here
  | step _ ih => exact .step ih
  | fault _ ih => exact .fault ih

theorem passes_done_iff {r : Except ε α} {s s' : σ} : Passes (done r) s s' ↔ s' = s := by
  constructor
  · rintro ⟨⟩
    rfl
  · rintro rfl
    exact .here

theorem passes_atomic_iff {e : ε} {act : σ → Except ε α × σ} {s s' : σ} :
    Passes (atomic e act) s s' ↔ s' = s ∨ s' = (act s).2 := by
  constructor
  · intro h
    cases h with
    | here => exact .inl rfl
    | step h => exact .inr (passes_done_iff.mp h)
    | fault h => exact .inl (passes_done_iff.mp h)
  · rintro (rfl | rfl)
    · exact .here
    · exact .step .here

/-- A sequence passes through the states of its first part and, where that part ends well, through
those of the second. -/
theorem passes_bind {p : Prog σ ε α} {k : α → Prog σ ε β} {s s' : σ}
    (h : Passes (p >>= k) s s') :
    Passes p s s' ∨ ∃ a s₁, Ends p s (.ok a) s₁ ∧ Passes (k a) s₁ s' := by
  have h' : Passes (p.bind k) s s' := h
  clear h
  induction p generalizing s with
  | done r₀ =>
    cases r₀ with
    | ok a => exact .inr ⟨a, s, .done, h'⟩
    | error e => exact .inl (passes_done_iff.mpr (passes_done_iff.mp h'))
  | step u n f ihn ihf =>
    cases h' with
    | here => exact .inl .here
    | step h' =>
      rcases ihn _ h' with h₁ | ⟨a, s₁, h₁, h₂⟩
      · exact .inl (.step h₁)
      · exact .inr ⟨a, s₁, .step h₁, h₂⟩
    | fault h' =>
      rcases ihf h' with h₁ | ⟨a, s₁, h₁, h₂⟩
      · exact .inl (.fault h₁)
      · exact .inr ⟨a, s₁, .fault h₁, h₂⟩

end Prog

end Steps
