import Farado.Lib.Steps.Basic
import Mathlib.Logic.Function.Basic

/-!
# Interleaved programs

A `Pool` is a family of programs over one shared state, each with a result type of its own. A
**schedule** lists which program does the next atomic step; `play` carries it out. No fairness is
assumed: a schedule is any list, it may stop with programs half done, and a finished program that is
scheduled again does nothing.
-/

namespace Steps

/-- Programs under way, one for each `i : ι`, and the state they share. -/
structure Pool (ι σ ε : Type) (α : ι → Type) where
  progs : (i : ι) → Prog σ ε (α i)
  state : σ

namespace Pool

variable {ι σ ε : Type} {α : ι → Type}

/-- What the program `i` has returned, once it is finished. -/
def outcome (P : Pool ι σ ε α) (i : ι) : Option (Except ε (α i)) :=
  match P.progs i with
  | .done r => some r
  | .step _ _ _ => none

theorem outcome_eq_some {P : Pool ι σ ε α} {i : ι} {r : Except ε (α i)} :
    P.outcome i = some r ↔ P.progs i = .done r := by
  unfold outcome
  cases P.progs i <;> simp

variable [DecidableEq ι]

/-- The program `i` does its next step. -/
def advance (P : Pool ι σ ε α) (i : ι) : Pool ι σ ε α :=
  match P.progs i with
  | .done _ => P
  | .step u n _ => ⟨Function.update P.progs i (n P.state), u P.state⟩

/-- Carry out a schedule. -/
def play (P : Pool ι σ ε α) (schedule : List ι) : Pool ι σ ε α := schedule.foldl advance P

theorem advance_of_done {P : Pool ι σ ε α} {i : ι} {r : Except ε (α i)} (h : P.progs i = .done r) :
    P.advance i = P := by
  unfold advance
  rw [h]

theorem advance_of_step {P : Pool ι σ ε α} {i : ι} {u : σ → σ}
    {n : σ → Prog σ ε (α i)} {f : Prog σ ε (α i)} (h : P.progs i = .step u n f) :
    P.advance i = ⟨Function.update P.progs i (n P.state), u P.state⟩ := by
  unfold advance
  rw [h]

/-- Its next step, for a program and the state it finds; a finished program stays. -/
def next {β : Type} : Prog σ ε β → σ → Prog σ ε β × σ
  | .done r, s => (.done r, s)
  | .step u n _, s => (n s, u s)

theorem advance_eq (P : Pool ι σ ε α) (i : ι) :
    P.advance i =
      ⟨Function.update P.progs i (next (P.progs i) P.state).1, (next (P.progs i) P.state).2⟩ := by
  cases h : P.progs i with
  | done r =>
    rw [advance_of_done h]
    show P = ⟨Function.update P.progs i (.done r), P.state⟩
    rw [← h, Function.update_eq_self]
  | step u n f => exact advance_of_step h

/-- A step of one program does not move another. -/
theorem advance_progs_of_ne {P : Pool ι σ ε α} {i j : ι} (h : j ≠ i) :
    (P.advance i).progs j = P.progs j := by
  unfold advance
  split
  · rfl
  · exact Function.update_of_ne h _ _

end Pool

end Steps
