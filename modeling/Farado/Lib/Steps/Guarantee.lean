import Farado.Lib.Steps.Interleave

/-!
# Rely and guarantee

What a program keeps to while others run beside it. `R` says how the shared state may change: between
two of its steps a program relies on it, and with each of its steps it keeps to it. Programs that all
keep to `R` do so in every interleaving, and each of them ends as it has promised.
-/

namespace Steps

variable {σ ε α β : Type} {R : σ → σ → Prop}

namespace Prog

/-- From the state on: every step keeps to `R` if the others do, and the result is as `Q` has it from
then on. -/
def Guarantees (R : σ → σ → Prop) (Q : Except ε α → σ → Prop) : Prog σ ε α → σ → Prop
  | .done r, s => ∀ s', R s s' → Q r s'
  | .step u n _, s => ∀ s', R s s' → R s' (u s') ∧ Guarantees R Q (n s') (u s')

section
variable {Q : Except ε α → σ → Prop} {s : σ}

/-- What the others do takes no guarantee back. -/
theorem Guarantees.later (htrans : ∀ s s₁ s', R s s₁ → R s₁ s' → R s s') {p : Prog σ ε α} {s' : σ}
    (h : p.Guarantees R Q s) (hR : R s s') : p.Guarantees R Q s' := by
  cases p with
  | done r => exact fun s'' hR' => h s'' (htrans s s' s'' hR hR')
  | step u n f => exact fun s'' hR' => h s'' (htrans s s' s'' hR hR')

theorem Guarantees.weaken {Q' : Except ε α → σ → Prop} (hQ : ∀ r s, Q r s → Q' r s)
    {p : Prog σ ε α} (h : p.Guarantees R Q s) : p.Guarantees R Q' s := by
  induction p generalizing s with
  | done r => exact fun s' hR => hQ r s' (h s' hR)
  | step u n f ihn _ =>
    intro s' hR
    obtain ⟨hstep, hnext⟩ := h s' hR
    exact ⟨hstep, ihn s' hnext⟩

theorem guarantees_pure {a : α} (h : ∀ s', R s s' → Q (.ok a) s') :
    (pure a : Prog σ ε α).Guarantees R Q s := h

theorem guarantees_atomic {e : ε} {act : σ → Except ε α × σ}
    (h : ∀ s', R s s' → R s' (act s').2 ∧ ∀ s'', R (act s').2 s'' → Q (act s').1 s'') :
    (atomic e act).Guarantees R Q s := h

/-- One after the other, where the first does not raise an exception. -/
theorem Guarantees.bind {Q : Except ε β → σ → Prop} (hrefl : ∀ s, R s s) {p : Prog σ ε α}
    {k : α → Prog σ ε β}
    (h : p.Guarantees R (fun r s' => ∃ a, r = .ok a ∧ (k a).Guarantees R Q s') s) :
    (p >>= k).Guarantees R Q s := by
  induction p generalizing s with
  | done r =>
    obtain ⟨a, rfl, hk⟩ := h s (hrefl s)
    exact hk
  | step u n f ihn _ =>
    intro s' hR
    obtain ⟨hstep, hnext⟩ := h s' hR
    exact ⟨hstep, ihn s' hnext⟩

/-- A step, and what comes after it. -/
theorem guarantees_atomic_bind {Q : Except ε β → σ → Prop} {e : ε} {act : σ → Except ε α × σ}
    {k : α → Prog σ ε β} (value : σ → α) (hvalue : ∀ s', (act s').1 = .ok (value s'))
    (h : ∀ s', R s s' → R s' (act s').2 ∧ (k (value s')).Guarantees R Q (act s').2) :
    (atomic e act >>= k).Guarantees R Q s := by
  intro s' hR
  obtain ⟨hstep, hnext⟩ := h s' hR
  refine ⟨hstep, ?_⟩
  show ((Prog.done (act s').1).bind k).Guarantees R Q (act s').2
  rw [hvalue]
  exact hnext

/-- What `R` leaves true is true at the end. -/
theorem Guarantees.stable {J : σ → Prop} (hJ : ∀ s s', R s s' → J s → J s') {p : Prog σ ε α}
    (h : p.Guarantees R Q s) (hs : J s) : p.Guarantees R (fun r s' => Q r s' ∧ J s') s := by
  induction p generalizing s with
  | done r => exact fun s' hR => ⟨h s' hR, hJ s s' hR hs⟩
  | step u n f ihn _ =>
    intro s' hR
    obtain ⟨hstep, hnext⟩ := h s' hR
    exact ⟨hstep, ihn s' hnext (hJ _ _ hstep (hJ s s' hR hs))⟩

end

/-! How long a program takes is a matter of its own steps. -/

/-- After so many steps the program has ended, whatever it finds. -/
def EndsWithin : Nat → Prog σ ε α → Prop
  | _, .done _ => True
  | 0, .step _ _ _ => False
  | n + 1, .step _ next _ => ∀ s, (next s).EndsWithin n

theorem endsWithin_done (n : Nat) (r : Except ε α) : (done r : Prog σ ε α).EndsWithin n := by
  cases n <;> trivial

theorem endsWithin_atomic_bind {n : Nat} {e : ε} {act : σ → Except ε α × σ} {k : α → Prog σ ε β}
    (value : σ → α) (hvalue : ∀ s, (act s).1 = .ok (value s))
    (h : ∀ s, (k (value s)).EndsWithin n) : (atomic e act >>= k).EndsWithin (n + 1) := by
  intro s
  show ((Prog.done (act s).1).bind k).EndsWithin n
  rw [hvalue]
  exact h s

end Prog

namespace Pool

variable {ι : Type} {α : ι → Type} [DecidableEq ι] {Q : (i : ι) → Except ε (α i) → σ → Prop}
  {P : Pool ι σ ε α}

/-- All programs of the pool keep to `R`, each with a promise of its own. -/
def Guarantees (P : Pool ι σ ε α) (R : σ → σ → Prop) (Q : (i : ι) → Except ε (α i) → σ → Prop) :
    Prop := ∀ i, (P.progs i).Guarantees R (Q i) P.state

/-- **One step of one program.** -/
theorem Guarantees.advance (hrefl : ∀ s, R s s) (htrans : ∀ s s₁ s', R s s₁ → R s₁ s' → R s s')
    (h : P.Guarantees R Q) (i : ι) :
    (P.advance i).Guarantees R Q ∧ R P.state (P.advance i).state := by
  have hi := h i
  cases hp : P.progs i with
  | done r =>
    rw [advance_of_done hp]
    exact ⟨h, hrefl P.state⟩
  | step u n f =>
    rw [hp] at hi
    obtain ⟨hstep, hnext⟩ := hi P.state (hrefl P.state)
    rw [advance_of_step hp]
    refine ⟨fun j => ?_, hstep⟩
    by_cases hj : j = i
    · subst hj
      show (Function.update P.progs j (n P.state) j).Guarantees R (Q j) (u P.state)
      rw [Function.update_self]
      exact hnext
    · show (Function.update P.progs i (n P.state) j).Guarantees R (Q j) (u P.state)
      rw [Function.update_of_ne hj]
      exact (h j).later htrans hstep

/-- A program that is not scheduled does not begin. -/
theorem play_progs_of_not_mem {i : ι} {schedule : List ι} (h : i ∉ schedule) :
    (P.play schedule).progs i = P.progs i := by
  induction schedule generalizing P with
  | nil => rfl
  | cons j schedule ih =>
    rw [List.mem_cons, not_or] at h
    obtain ⟨hj, hrest⟩ := h
    show ((P.advance j).play schedule).progs i = P.progs i
    rw [ih hrest, advance_progs_of_ne hj]

theorem play_append (P : Pool ι σ ε α) (schedule later : List ι) :
    P.play (schedule ++ later) = (P.play schedule).play later := List.foldl_append

/-- A program that gets its turns ends. -/
theorem outcome_ne_none {i : ι} {n : Nat} {schedule : List ι} (h : (P.progs i).EndsWithin n)
    (hturns : n ≤ schedule.count i) : (P.play schedule).outcome i ≠ none := by
  have hdone : ∀ {P : Pool ι σ ε α} {r : Except ε (α i)} (schedule : List ι), P.progs i = .done r →
      (P.play schedule).outcome i ≠ none := by
    intro P r schedule
    induction schedule generalizing P with
    | nil =>
      intro hr
      rw [show (P.play []).outcome i = some r from outcome_eq_some.mpr hr]
      exact Option.some_ne_none r
    | cons j schedule ih =>
      intro hr
      refine ih ?_
      by_cases hj : i = j
      · rw [← hj, advance_of_done hr]
        exact hr
      · rw [advance_progs_of_ne hj]
        exact hr
  induction schedule generalizing P n with
  | nil =>
    cases hp : P.progs i with
    | done r => exact hdone [] hp
    | step u next f =>
      rw [hp, Nat.le_zero.mp hturns] at h
      exact h.elim
  | cons j schedule ih =>
    cases hp : P.progs i with
    | done r => exact hdone (j :: schedule) hp
    | step u next f =>
      by_cases hj : i = j
      · subst hj
        rw [List.count_cons_self] at hturns
        rw [hp] at h
        cases n with
        | zero => exact h.elim
        | succ n =>
          refine ih (P := P.advance i) (n := n) ?_ (by omega)
          rw [advance_of_step hp]
          show (Function.update P.progs i (next P.state) i).EndsWithin n
          rw [Function.update_self]
          exact h P.state
      · rw [List.count_cons_of_ne (Ne.symm hj)] at hturns
        refine ih (P := P.advance j) ?_ hturns
        rw [advance_progs_of_ne hj]
        exact h

/-- **Every interleaving.** -/
theorem Guarantees.play (hrefl : ∀ s, R s s) (htrans : ∀ s s₁ s', R s s₁ → R s₁ s' → R s s')
    (h : P.Guarantees R Q) (schedule : List ι) :
    (P.play schedule).Guarantees R Q ∧ R P.state (P.play schedule).state := by
  induction schedule generalizing P with
  | nil => exact ⟨h, hrefl P.state⟩
  | cons i schedule ih =>
    obtain ⟨hadvance, hstep⟩ := h.advance hrefl htrans i
    obtain ⟨hplay, hrest⟩ := ih hadvance
    exact ⟨hplay, htrans _ _ _ hstep hrest⟩

omit [DecidableEq ι] in
/-- A program that has ended has kept its promise. -/
theorem Guarantees.outcome (hrefl : ∀ s, R s s) (h : P.Guarantees R Q) {i : ι} {r : Except ε (α i)}
    (hr : P.outcome i = some r) : Q i r P.state := by
  have hi := h i
  rw [outcome_eq_some.mp hr] at hi
  exact hi P.state (hrefl P.state)

/-- **One program's promise**, where the others only keep to `R`. -/
theorem Guarantees.outcome_play (hrefl : ∀ s, R s s)
    (htrans : ∀ s s₁ s', R s s₁ → R s₁ s' → R s s') (h : P.Guarantees R fun _ _ _ => True) {i : ι}
    {Q : Except ε (α i) → σ → Prop} (hi : (P.progs i).Guarantees R Q P.state) {schedule : List ι}
    {r : Except ε (α i)} (hr : (P.play schedule).outcome i = some r) :
    Q r (P.play schedule).state := by
  have hall : P.Guarantees R fun j r s => ∀ hj : j = i, Q (hj ▸ r) s := by
    intro j
    by_cases hj : j = i
    · subst hj
      exact hi.weaken fun _ _ hQ _ => hQ
    · exact (h j).weaken fun _ _ _ hj' => absurd hj' hj
  exact (hall.play hrefl htrans schedule).1.outcome hrefl hr rfl

end Pool

end Steps
