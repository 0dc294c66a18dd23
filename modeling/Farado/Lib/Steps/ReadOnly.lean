import Farado.Lib.Steps.Basic

/-!
# Programs that only read

A program none of whose steps changes the state. It commutes with everything else in the sense that
matters for sequential reasoning: running it first leaves the rest to run in the same state.
-/

namespace Steps

namespace Prog

variable {σ ε α β : Type}

/-- No step changes the state, on whatever branch. -/
inductive ReadOnly : Prog σ ε α → Prop
  | done (r : Except ε α) : ReadOnly (.done r)
  | step {u : σ → σ} {n : σ → Prog σ ε α} {f : Prog σ ε α} (hu : ∀ s, u s = s)
      (hn : ∀ s, ReadOnly (n s)) (hf : ReadOnly f) : ReadOnly (.step u n f)

theorem readOnly_pure (a : α) : ReadOnly (pure a : Prog σ ε α) := .done _

theorem readOnly_throw (e : ε) : ReadOnly (throw e : Prog σ ε α) := .done _

theorem readOnly_atomic {e : ε} {act : σ → Except ε α × σ} (h : ∀ s, (act s).2 = s) :
    ReadOnly (atomic e act) := .step h (fun _ => .done _) (.done _)

theorem ReadOnly.bind {p : Prog σ ε α} {k : α → Prog σ ε β} (hp : ReadOnly p)
    (hk : ∀ a, ReadOnly (k a)) : ReadOnly (p >>= k) := by
  show ReadOnly (Prog.bind p k)
  induction hp with
  | done r =>
    cases r with
    | ok a => exact hk a
    | error e => exact .done _
  | step hu _ _ ihn ihf => exact .step hu ihn ihf

theorem ReadOnly.tryCatch {p : Prog σ ε α} {h : ε → Prog σ ε α} (hp : ReadOnly p)
    (hh : ∀ e, ReadOnly (h e)) : ReadOnly (tryCatch p h) := by
  show ReadOnly (Prog.catchWith p h)
  induction hp with
  | done r =>
    cases r with
    | ok a => exact .done _
    | error e => exact hh e
  | step hu _ _ ihn ihf => exact .step hu ihn ihf

theorem ReadOnly.map {p : Prog σ ε α} (g : α → β) (hp : ReadOnly p) : ReadOnly (g <$> p) :=
  hp.bind fun _ => readOnly_pure _

theorem ReadOnly.ite {c : Prop} [Decidable c] {p q : Prog σ ε α} (hp : ReadOnly p)
    (hq : ReadOnly q) : ReadOnly (if c then p else q) := by
  split
  · exact hp
  · exact hq

/-- `p` first reads; then it gives up (returns `none` or throws) or goes on as `q`. -/
inductive ReadsThen (q : Prog σ ε (Option α)) : Prog σ ε (Option α) → Prop
  | giveUp : ReadsThen q (.done (.ok none))
  | throws (e : ε) : ReadsThen q (.done (.error e))
  | goOn : ReadsThen q q
  | step {u : σ → σ} {n : σ → Prog σ ε (Option α)} {f : Prog σ ε (Option α)} (hu : ∀ s, u s = s)
      (hn : ∀ s, ReadsThen q (n s)) (hf : ReadsThen q f) : ReadsThen q (.step u n f)

theorem ReadOnly.readsThen {p : Prog σ ε β} {k : β → Prog σ ε (Option α)} {q : Prog σ ε (Option α)}
    (hp : ReadOnly p) (hk : ∀ b, ReadsThen q (k b)) : ReadsThen q (p >>= k) := by
  show ReadsThen q (Prog.bind p k)
  induction hp with
  | done r =>
    cases r with
    | ok b => exact hk b
    | error e => exact .throws e
  | step hu _ _ ihn ihf => exact .step hu ihn ihf

/-- Either nothing has been written and nothing is returned, or it has gone on. -/
theorem ReadsThen.run_cases {p q : Prog σ ε (Option α)} (hp : ReadsThen q p) (s : σ) :
    p.after s = s ∧ (∀ a, p.result s ≠ .ok (some a)) ∨ p.run s = q.run s := by
  induction hp generalizing s with
  | giveUp => exact .inl ⟨rfl, nofun⟩
  | throws e => exact .inl ⟨rfl, nofun⟩
  | goOn => exact .inr rfl
  | @step u n f hu hn hf ihn ihf =>
    have hnext := ihn s s
    show ((n s).run (u s)).2 = s ∧ (∀ a, ((n s).run (u s)).1 ≠ .ok (some a)) ∨
      (n s).run (u s) = q.run s
    rw [hu]
    exact hnext

/-- `p` only reads, and gives up or comes to a program of `D`: either at once, where `found` holds,
or directly after a look, which has found `G` of the state it saw. -/
inductive GuardedBy (G : σ → Prop) (D : Prog σ ε α → Prop) : Prop → Prog σ ε α → Prop
  | done {found : Prop} (r : Except ε α) : GuardedBy G D found (.done r)
  | ready {found : Prop} {p : Prog σ ε α} : found → D p → GuardedBy G D found p
  | step {found : Prop} {u : σ → σ} {n : σ → Prog σ ε α} {f : Prog σ ε α} (hu : ∀ s, u s = s)
      (hn : ∀ s, GuardedBy G D (G s) (n s)) : GuardedBy G D found (.step u n f)

theorem GuardedBy.mono {G : σ → Prop} {D : Prog σ ε α → Prop} {found found' : Prop}
    {p : Prog σ ε α} (h : GuardedBy G D found p) (himp : found → found') :
    GuardedBy G D found' p := by
  cases h with
  | done r => exact .done r
  | ready hfound hp => exact .ready (himp hfound) hp
  | step hu hn => exact .step hu hn

/-- Looks that come before the last one, or that have nothing to find. -/
theorem ReadOnly.guardedBy {G : σ → Prop} {D : Prog σ ε α → Prop} {found : Prop} {p : Prog σ ε β}
    {k : β → Prog σ ε α} (hp : ReadOnly p) (hfound : ∀ s, found → G s)
    (hk : ∀ b, GuardedBy G D found (k b)) : GuardedBy G D found (p >>= k) := by
  show GuardedBy G D found (Prog.bind p k)
  induction hp with
  | done r =>
    cases r with
    | ok b => exact hk b
    | error e => exact .done _
  | step hu _ _ ihn _ => exact .step hu fun s => (ihn s).mono (hfound s)

theorem ReadOnly.run_eq {p : Prog σ ε α} (hp : ReadOnly p) (s : σ) :
    p.run s = (p.result s, s) := by
  suffices h : (p.run s).2 = s from Prod.ext rfl h
  induction hp generalizing s with
  | done r => rfl
  | @step u n f hu _ _ ihn _ =>
    show ((n s).run (u s)).2 = s
    rw [hu, ihn]

theorem ReadOnly.ends {p : Prog σ ε α} (hp : ReadOnly p) {s s' : σ} {r : Except ε α}
    (h : Ends p s r s') : s' = s := by
  induction hp generalizing s with
  | done r => exact (ends_done_iff.mp h).2
  | @step u n f hu _ _ ihn ihf =>
    cases h with
    | step h => rw [ihn s h, hu]
    | fault h => exact ihf h

theorem ReadOnly.within {R : σ → σ → Prop} (hrefl : ∀ s, R s s) {p : Prog σ ε α} (hp : ReadOnly p) :
    Within R p := by
  intro s r s' h
  rw [hp.ends h]
  exact hrefl s

theorem ReadOnly.passes {p : Prog σ ε α} (hp : ReadOnly p) {s s' : σ} (h : Passes p s s') :
    s' = s := by
  induction hp generalizing s with
  | done r => exact passes_done_iff.mp h
  | @step u n f hu _ _ ihn ihf =>
    cases h with
    | here => rfl
    | step h => rw [ihn s h, hu]
    | fault h => exact ihf h

/-- Running a reading program first. -/
theorem run_bind_of_readOnly {p : Prog σ ε α} (hp : ReadOnly p) (k : α → Prog σ ε β) (s : σ) :
    (p >>= k).run s =
      match p.result s with
      | .ok a => (k a).run s
      | .error e => (.error e, s) := by
  rw [run_bind, hp.run_eq]
  cases p.result s <;> rfl

/-- The two ways a sequence can end. -/
theorem run_bind_cases {p : Prog σ ε α} {k : α → Prog σ ε β} {s s' : σ} {r : Except ε β}
    (h : (p >>= k).run s = (r, s')) :
    (∃ a s₁, p.run s = (.ok a, s₁) ∧ (k a).run s₁ = (r, s')) ∨
      ∃ e, p.run s = (.error e, s') ∧ r = .error e := by
  rw [run_bind] at h
  rcases hp : p.run s with ⟨e | a, s₁⟩
  · rw [hp] at h
    cases h
    exact .inr ⟨e, rfl, rfl⟩
  · rw [hp] at h
    exact .inl ⟨a, s₁, rfl, h⟩

/-- The two ways a sequence that starts by reading can end. -/
theorem ReadOnly.run_bind_cases {p : Prog σ ε α} (hp : ReadOnly p) {k : α → Prog σ ε β} {s s' : σ}
    {r : Except ε β} (h : (p >>= k).run s = (r, s')) :
    (∃ a, p.result s = .ok a ∧ (k a).run s = (r, s')) ∨
      ∃ e, p.result s = .error e ∧ r = .error e ∧ s' = s := by
  rw [run_bind_of_readOnly hp] at h
  cases hr : p.result s with
  | ok a =>
    rw [hr] at h
    exact .inl ⟨a, rfl, h⟩
  | error e =>
    rw [hr] at h
    cases h
    exact .inr ⟨e, rfl, rfl, rfl⟩

/-- What a sequence that starts by reading returns. -/
theorem ReadOnly.result_bind_ok {p : Prog σ ε α} (hp : ReadOnly p) {k : α → Prog σ ε β} {s : σ}
    {b : β} : (p >>= k).result s = .ok b ↔ ∃ a, p.result s = .ok a ∧ (k a).result s = .ok b := by
  rw [result, run_bind_of_readOnly hp]
  cases p.result s with
  | ok a => simp [result]
  | error e => simp

end Prog

end Steps
