import Farado.Lib.Steps.ReadOnly

/-!
# Patterns of faults and guards

`runUnder` runs a program under a pattern of faults, which says of each step whether it fails. The
patterns are exactly the ways a program can end (`ends_iff_runUnder`).

A destructive statement is often preceded by queries that may forbid it. `Guarded` says that a
program asks a list of guards, one step each, and performs the statement in the step after them if
all let it. What such a program does under a pattern can be read off the list, and the rules below
build the list along the program.
-/

namespace Steps

/-- Does the first step fail, does the second, and so on? -/
abbrev Faults := Nat → Bool

namespace Faults

def tail (faults : Faults) : Faults := fun i => faults (i + 1)

def cons (fault : Bool) (faults : Faults) : Faults
  | 0 => fault
  | i + 1 => faults i

end Faults

namespace Prog

variable {σ ε α β : Type}

/-- The run under a pattern, and what it has left of the pattern. -/
def runUnder : Prog σ ε α → Faults → σ → (Except ε α × σ) × Faults
  | done r, faults, s => ((r, s), faults)
  | step u n f, faults, s =>
      if faults 0 then f.runUnder faults.tail s else (n s).runUnder faults.tail (u s)

/-- The patterns are the ways to end. -/
theorem ends_iff_runUnder {p : Prog σ ε α} {s s' : σ} {r : Except ε α} :
    Ends p s r s' ↔ ∃ faults, (p.runUnder faults s).1 = (r, s') := by
  constructor
  · intro h
    induction h with
    | done => exact ⟨fun _ => false, rfl⟩
    | step _ ih =>
      obtain ⟨faults, hrun⟩ := ih
      exact ⟨faults.cons false, hrun⟩
    | fault _ ih =>
      obtain ⟨faults, hrun⟩ := ih
      exact ⟨faults.cons true, hrun⟩
  · rintro ⟨faults, hrun⟩
    induction p generalizing faults s with
    | done r₀ =>
      cases hrun
      exact .done
    | step u n f ihn ihf =>
      unfold runUnder at hrun
      split at hrun
      · exact .fault (ihf _ hrun)
      · exact .step (ihn _ _ hrun)

theorem runUnder_atomic (e : ε) (act : σ → Except ε α × σ) (faults : Faults) (s : σ) :
    (atomic e act).runUnder faults s =
      (if faults 0 then (.error e, s) else act s, faults.tail) := by
  show (if faults 0 then _ else _) = _
  split <;> rfl

theorem runUnder_bind (p : Prog σ ε α) (k : α → Prog σ ε β) (faults : Faults) (s : σ) :
    (p >>= k).runUnder faults s =
      match p.runUnder faults s with
      | ((.ok a, s'), rest) => (k a).runUnder rest s'
      | ((.error e, s'), rest) => ((.error e, s'), rest) := by
  show (p.bind k).runUnder faults s = _
  induction p generalizing faults s with
  | done r => cases r <;> rfl
  | step u n f ihn ihf =>
    show (if faults 0 then (f.bind k).runUnder faults.tail s
      else ((n s).bind k).runUnder faults.tail (u s)) = _
    rw [runUnder]
    split
    · exact ihf _ _
    · exact ihn _ _ _

theorem runUnder_tryCatch (p : Prog σ ε α) (h : ε → Prog σ ε α) (faults : Faults) (s : σ) :
    (tryCatch p h).runUnder faults s =
      match p.runUnder faults s with
      | ((.ok a, s'), rest) => ((.ok a, s'), rest)
      | ((.error e, s'), rest) => (h e).runUnder rest s' := by
  show (p.catchWith h).runUnder faults s = _
  induction p generalizing faults s with
  | done r => cases r <;> rfl
  | step u n f ihn ihf =>
    show (if faults 0 then (f.catchWith h).runUnder faults.tail s
      else ((n s).catchWith h).runUnder faults.tail (u s)) = _
    rw [runUnder]
    split
    · exact ihf _ _
    · exact ihn _ _ _

/-- What only reads changes nothing under any pattern. -/
theorem ReadOnly.runUnder_state {p : Prog σ ε α} (hp : ReadOnly p) (faults : Faults) (s : σ) :
    (p.runUnder faults s).1.2 = s :=
  hp.ends (ends_iff_runUnder.mpr ⟨faults, rfl⟩)

/-! ## Queries -/

/-- `q` is one query: it answers with `answer`, which is told whether the query has failed. -/
def Asks (q : Prog σ ε β) (s : σ) (answer : Bool → Except ε β) : Prop :=
  ∀ faults, q.runUnder faults s = ((answer (faults 0), s), faults.tail)

theorem asks_atomic {e : ε} {act : σ → Except ε β × σ} {s : σ} (h : (act s).2 = s) :
    Asks (atomic e act) s fun failed => if failed then .error e else (act s).1 := by
  intro faults
  rw [runUnder_atomic]
  cases faults 0 with
  | true => rfl
  | false => exact congrArg (·, faults.tail) (Prod.ext rfl h)

/-- A query whose failure is caught and answered by a value. -/
theorem Asks.caught {q : Prog σ ε β} {s : σ} {answer : Bool → Except ε β} (h : Asks q s answer)
    (b : β) :
    Asks (tryCatch q fun _ => pure b) s fun failed => .ok ((answer failed).toOption.getD b) := by
  intro faults
  rw [runUnder_tryCatch, h faults]
  dsimp only
  cases answer (faults 0) <;> rfl

theorem Asks.map {q : Prog σ ε α} {s : σ} {answer : Bool → Except ε α} (h : Asks q s answer)
    (f : α → β) : Asks (q >>= fun a => pure (f a)) s fun failed => (answer failed).map f := by
  intro faults
  rw [runUnder_bind, h faults]
  dsimp only
  cases answer (faults 0) <;> rfl

/-! ## Guards -/

/-- A query that decides whether the program goes on: what it says of a state, and what is taken for
its answer when it fails. -/
structure Guard (σ : Type) where
  passes : σ → Bool
  whenFailed : Bool

def Guard.lets (g : Guard σ) (failed : Bool) (s : σ) : Bool :=
  if failed then g.whenFailed else g.passes s

/-- Under the pattern, all guards let the program go on. -/
def allLet : List (Guard σ) → Faults → σ → Bool
  | [], _, _ => true
  | g :: guards, faults, s => g.lets (faults 0) s && allLet guards faults.tail s

/-- The program asks the guards one after the other, and performs `act` in the next step if all of
them let it. -/
def Guarded (p : Prog σ ε α) (s : σ) (guards : List (Guard σ)) (act : σ → σ) : Prop :=
  ∀ faults, (p.runUnder faults s).1.2 =
    if allLet guards faults s = true ∧ faults guards.length = false then act s else s

theorem guarded_atomic (e : ε) (act : σ → Except ε α × σ) (s : σ) :
    Guarded (atomic e act) s [] fun s => (act s).2 := by
  intro faults
  rw [runUnder_atomic]
  cases faults 0 <;> simp [allLet]

namespace Guarded

variable {s : σ} {guards : List (Guard σ)} {act : σ → σ}

/-- A guard comes before the others. -/
theorem ask {q : Prog σ ε β} {k : β → Prog σ ε α} {g : Guard σ} {answer : Bool → Except ε β}
    (hq : Asks q s answer)
    (hlets : ∀ failed, g.lets failed s = true →
      ∃ b, answer failed = .ok b ∧ Guarded (k b) s guards act)
    (hrefuses : ∀ failed, g.lets failed s = false →
      ∀ b, answer failed = .ok b → ReadOnly (k b)) :
    Guarded (q >>= k) s (g :: guards) act := by
  intro faults
  rw [runUnder_bind, hq faults]
  cases hg : g.lets (faults 0) s with
  | true =>
    obtain ⟨b, hb, hk⟩ := hlets _ hg
    rw [hb]
    rw [allLet, hg, Bool.true_and]
    exact hk faults.tail
  | false =>
    rw [if_neg (by simp [allLet, hg])]
    cases hb : answer (faults 0) with
    | error e => rfl
    | ok b => exact (hrefuses _ hg b hb).runUnder_state _ _

/-- A guard that answers yes or no, and answers `yes` where it lets. -/
theorem askBool {q : Prog σ ε Bool} {k : Bool → Prog σ ε α} {g : Guard σ} (yes : Bool)
    (hq : Asks q s fun failed => .ok (g.lets failed s == yes))
    (hyes : Guarded (k yes) s guards act) (hno : ReadOnly (k !yes)) :
    Guarded (q >>= k) s (g :: guards) act := by
  refine ask hq (fun failed hlets => ⟨yes, ?_, hyes⟩) fun failed hrefuses b hb => ?_
  · rw [hlets]
    cases yes <;> rfl
  · rw [hrefuses] at hb
    cases hb
    cases yes <;> exact hno

/-- A program that only reads, where a guard never lets. -/
theorem refused {p : Prog σ ε α} {g : Guard σ} (hp : ReadOnly p)
    (hg : ∀ failed, g.lets failed s = false) : Guarded p s (g :: guards) act := by
  intro faults
  rw [hp.runUnder_state, if_neg (by simp [allLet, hg])]

theorem andThen {p : Prog σ ε α} {k : α → Prog σ ε β} (h : Guarded p s guards act)
    (hk : ∀ a, ReadOnly (k a)) : Guarded (p >>= k) s guards act := by
  intro faults
  rw [runUnder_bind, ← h faults]
  rcases hrun : p.runUnder faults s with ⟨⟨e | a, s'⟩, rest⟩
  · rfl
  · exact (hk a).runUnder_state _ _

theorem caught {p : Prog σ ε α} {handler : ε → Prog σ ε α} (h : Guarded p s guards act)
    (hhandler : ∀ e, ReadOnly (handler e)) : Guarded (tryCatch p handler) s guards act := by
  intro faults
  rw [runUnder_tryCatch, ← h faults]
  rcases hrun : p.runUnder faults s with ⟨⟨e | a, s'⟩, rest⟩
  · exact (hhandler e).runUnder_state _ _
  · rfl

end Guarded

end Prog

end Steps
