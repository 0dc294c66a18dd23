import Mathlib.Tactic.Common

/-!
# Sequential runs

A run feeds a list of events to a step function, one after the other. `Along ok` says that every
event meets the condition `ok` in the state it finds; a property that every such step keeps holds in
every state of the run.
-/

namespace Steps

variable {σ ε : Type}

/-- Every event of the run meets `ok`, which sees the state before the event. -/
def Along (step : σ → ε → σ) (ok : σ → ε → Prop) : σ → List ε → Prop
  | _, [] => True
  | s, e :: es => ok s e ∧ Along step ok (step s e) es

instance Along.decidable {step : σ → ε → σ} {ok : σ → ε → Prop} [∀ s e, Decidable (ok s e)] :
    ∀ s es, Decidable (Along step ok s es)
  | _, [] => isTrue trivial
  | s, e :: es =>
    have : Decidable (Along step ok (step s e) es) := Along.decidable (step s e) es
    inferInstanceAs (Decidable (ok s e ∧ Along step ok (step s e) es))

/-- **The invariant rule for runs.** -/
theorem Along.invariant {step : σ → ε → σ} {ok : σ → ε → Prop} {I : σ → Prop}
    (hstep : ∀ s e, I s → ok s e → I (step s e)) {s : σ} {es : List ε}
    (hs : I s) (h : Along step ok s es) : I (es.foldl step s) := by
  induction es generalizing s with
  | nil => exact hs
  | cons e es ih => exact ih (hstep s e hs h.1) h.2

/-- A condition on the events alone. -/
theorem along_of_forall {step : σ → ε → σ} {ok : ε → Prop} {es : List ε} (h : ∀ e ∈ es, ok e)
    (s : σ) : Along step (fun _ e => ok e) s es := by
  induction es generalizing s with
  | nil => trivial
  | cons e es ih =>
    exact ⟨h e List.mem_cons_self, ih (fun e' he' => h e' (List.mem_cons_of_mem _ he')) (step s e)⟩

/-- The condition, event by event. -/
theorem along_of_split {step : σ → ε → σ} {ok : σ → ε → Prop} {s : σ} {es : List ε}
    (h : ∀ before e after, es = before ++ e :: after → ok (before.foldl step s) e) :
    Along step ok s es := by
  induction es generalizing s with
  | nil => trivial
  | cons e es ih =>
    refine ⟨h [] e es rfl, ih fun before e' after hes => ?_⟩
    exact h (e :: before) e' after (by rw [hes]; rfl)

/-- What holds along a run holds along its beginning. -/
theorem Along.of_append {step : σ → ε → σ} {ok : σ → ε → Prop} {s : σ} {es es' : List ε}
    (h : Along step ok s (es ++ es')) : Along step ok s es := by
  induction es generalizing s with
  | nil => trivial
  | cons e es ih => exact ⟨h.1, ih h.2⟩

/-- Two conditions along one run. -/
theorem Along.and {step : σ → ε → σ} {ok ok' : σ → ε → Prop} {s : σ} {es : List ε}
    (h : Along step ok s es) (h' : Along step ok' s es) :
    Along step (fun s e => ok s e ∧ ok' s e) s es := by
  induction es generalizing s with
  | nil => trivial
  | cons e es ih => exact ⟨⟨h.1, h'.1⟩, ih h.2 h'.2⟩

/-- **Where the condition is exact**: it holds along a run exactly when no state of the run breaks
the property. -/
theorem along_iff_take {step : σ → ε → σ} {ok : σ → ε → Prop} {I : σ → Prop}
    (hstep : ∀ s e, I s → (I (step s e) ↔ ok s e)) {s : σ} {es : List ε} (hs : I s) :
    Along step ok s es ↔ ∀ n, I ((es.take n).foldl step s) := by
  induction es generalizing s with
  | nil =>
    constructor
    · intro _ n
      rwa [List.take_nil]
    · intro _
      trivial
  | cons e es ih =>
    constructor
    · rintro ⟨he, hes⟩ n
      cases n with
      | zero => exact hs
      | succ n => exact (ih ((hstep s e hs).mpr he)).mp hes n
    · intro h
      have he : I (step s e) := h 1
      exact ⟨(hstep s e hs).mp he, (ih he).mpr fun n => h (n + 1)⟩

/-- Where a broken property stays broken, the last state of the run tells; `J` is what every step
keeps, whether or not it meets the condition. -/
theorem along_iff_foldl {step : σ → ε → σ} {ok : σ → ε → Prop} {I J : σ → Prop}
    (hkeeps : ∀ s e, J s → J (step s e)) (hstep : ∀ s e, J s → I s → (I (step s e) ↔ ok s e))
    (hback : ∀ s e, J s → I (step s e) → I s) {s : σ} {es : List ε} (hj : J s) (hs : I s) :
    Along step ok s es ↔ I (es.foldl step s) := by
  have hback' : ∀ (es : List ε) (s : σ), J s → I (es.foldl step s) → I s := by
    intro es
    induction es with
    | nil => exact fun _ _ h => h
    | cons e es ih => exact fun s hj h => hback s e hj (ih _ (hkeeps s e hj) h)
  induction es generalizing s with
  | nil => exact ⟨fun _ => hs, fun _ => trivial⟩
  | cons e es ih =>
    constructor
    · rintro ⟨he, hes⟩
      exact (ih (hkeeps s e hj) ((hstep s e hj hs).mpr he)).mp hes
    · intro h
      have he : I (step s e) := hback' es _ (hkeeps s e hj) h
      exact ⟨(hstep s e hj hs).mp he, (ih (hkeeps s e hj) he).mpr h⟩

/-- Two conditions that come to the same wherever the run can be. -/
theorem along_congr {step : σ → ε → σ} {ok ok' : σ → ε → Prop} {J : σ → Prop}
    (hkeeps : ∀ s e, J s → J (step s e)) (h : ∀ s e, J s → (ok s e ↔ ok' s e)) {s : σ}
    {es : List ε} (hj : J s) : Along step ok s es ↔ Along step ok' s es := by
  induction es generalizing s with
  | nil => exact Iff.rfl
  | cons e es ih => exact and_congr (h s e hj) (ih (hkeeps s e hj))

/-- A property that every step keeps holds after every run. -/
theorem run_invariant {step : σ → ε → σ} {I : σ → Prop} (hstep : ∀ s e, I s → I (step s e))
    {s : σ} (hs : I s) (es : List ε) : I (es.foldl step s) := by
  induction es generalizing s with
  | nil => exact hs
  | cons e es ih => exact ih (hstep s e hs)

/-! ## What a run has done

An event may do one thing to a part of the state, or leave it alone; what it does depends on the
state it finds.
-/

section
variable {τ κ : Type} {step : σ → ε → σ} {deed : σ → ε → Option κ}

/-- What the events of a run do, in their order. -/
def deeds (step : σ → ε → σ) (deed : σ → ε → Option κ) : σ → List ε → List (ε × κ)
  | _, [] => []
  | s, e :: es =>
      ((deed s e).map fun k => (e, k)).toList ++ deeds step deed (step s e) es

/-- The part of the state is what the deeds make of it. -/
theorem foldl_deeds (part : σ → τ) (act : ε → κ → τ → τ)
    (hstep : ∀ s e, part (step s e) = (deed s e).elim (part s) fun k => act e k (part s))
    (s : σ) (es : List ε) :
    part (es.foldl step s) =
      (deeds step deed s es).foldl (fun t d => act d.1 d.2 t) (part s) := by
  induction es generalizing s with
  | nil => rfl
  | cons e es ih =>
    have hhead := hstep s e
    unfold deeds
    rw [List.foldl_cons, List.foldl_append, ih (step s e), hhead]
    cases deed s e <;> rfl

theorem mem_deeds {s : σ} {es : List ε} {d : ε × κ} :
    d ∈ deeds step deed s es ↔
      ∃ before after, es = before ++ d.1 :: after ∧ deed (before.foldl step s) d.1 = some d.2 := by
  induction es generalizing s with
  | nil => simp [deeds]
  | cons e es ih =>
    unfold deeds
    rw [List.mem_append, ih]
    constructor
    · rintro (h | ⟨before, after, rfl, h⟩)
      · obtain ⟨k, hk, rfl⟩ : ∃ k, deed s e = some k ∧ (e, k) = d := by simpa using h
        exact ⟨[], es, rfl, hk⟩
      · exact ⟨e :: before, after, rfl, h⟩
    · rintro ⟨before, after, hes, h⟩
      cases before with
      | nil =>
        obtain ⟨rfl, rfl⟩ : e = d.1 ∧ es = after := by simpa using hes
        left
        rw [List.foldl_nil] at h
        simp [h]
      | cons e' before =>
        obtain ⟨rfl, rfl⟩ : e = e' ∧ es = before ++ d.1 :: after := by simpa using hes
        exact .inr ⟨before, after, rfl, h⟩

end

end Steps
