import Mathlib.Data.List.Basic

/-!
# Shared mutexes

A lock for readers or one writer, as a value: who has it, what an attempt to take it comes to, and
what is left when it is given back. A thread that waits for itself is told so.
-/

/-- The two ways to hold the lock. -/
inductive LockKind where
  | shared
  | exclusive
  deriving DecidableEq, Repr

/-- Who holds the lock. -/
inductive SharedMutex (Thread : Type) where
  | shared (readers : List Thread)
  | exclusive (owner : Thread)
  deriving DecidableEq, Repr

/-- What comes of an attempt to take the lock. -/
inductive LockAttempt (Thread : Type) where
  | acquired (m : SharedMutex Thread)
  | blocked
  | deadlock
  deriving DecidableEq, Repr

namespace SharedMutex

variable {Thread : Type}

/-- The lock that nobody holds. -/
def free : SharedMutex Thread := .shared []

/-- The thread is one of those who hold the lock in this way. -/
def Holds (m : SharedMutex Thread) : LockKind → Thread → Prop
  | .shared, t => ∃ readers, m = .shared readers ∧ t ∈ readers
  | .exclusive, t => m = .exclusive t

/-- The writer is alone. -/
theorem Holds.eq_of_exclusive {m : SharedMutex Thread} {kind : LockKind} {t u : Thread}
    (h : m.Holds .exclusive t) (hu : m.Holds kind u) : u = t := by
  obtain rfl : m = .exclusive t := h
  cases kind with
  | shared =>
    obtain ⟨readers, hreaders, -⟩ := hu
    cases hreaders
  | exclusive =>
    cases hu
    rfl

variable [DecidableEq Thread]

def acquire (m : SharedMutex Thread) (kind : LockKind) (t : Thread) : LockAttempt Thread :=
  match m, kind with
  | .exclusive owner, _ => if owner = t then .deadlock else .blocked
  | .shared readers, .shared => .acquired (.shared (t :: readers))
  | .shared [], .exclusive => .acquired (.exclusive t)
  | .shared (_ :: _), .exclusive => .blocked

def release (m : SharedMutex Thread) (kind : LockKind) (t : Thread) : SharedMutex Thread :=
  match m, kind with
  | .shared readers, .shared => .shared (readers.erase t)
  | .exclusive owner, .exclusive => if owner = t then free else .exclusive owner
  | m, _ => m

/-- Whoever takes the lock has it, those who have it keep it, and there is no writer among them. -/
theorem acquire_eq_acquired {m m' : SharedMutex Thread} {kind : LockKind} {t : Thread}
    (h : m.acquire kind t = .acquired m') :
    m'.Holds kind t ∧ (∀ k u, m.Holds k u → m'.Holds k u) ∧ ∀ u, ¬ m.Holds .exclusive u := by
  unfold acquire at h
  split at h
  · split at h <;> cases h
  · next readers =>
    cases h
    refine ⟨⟨_, rfl, List.mem_cons_self⟩, ?_, nofun⟩
    intro k u hu
    cases k with
    | shared =>
      obtain ⟨_, ⟨⟩, hmem⟩ := hu
      exact ⟨_, rfl, List.mem_cons_of_mem _ hmem⟩
    | exclusive => cases hu
  · cases h
    refine ⟨rfl, ?_, nofun⟩
    intro k u hu
    cases k with
    | shared =>
      obtain ⟨_, ⟨⟩, hmem⟩ := hu
      cases hmem
    | exclusive => cases hu
  · cases h

/-- Giving the lock back takes it from nobody else. -/
theorem Holds.release {m : SharedMutex Thread} {kind k : LockKind} {t u : Thread}
    (ht : m.Holds kind t) (hu : m.Holds k u) (hne : u ≠ t) : (m.release kind t).Holds k u := by
  cases kind with
  | exclusive => exact absurd (ht.eq_of_exclusive hu) hne
  | shared =>
    obtain ⟨readers, rfl, -⟩ := ht
    cases k with
    | shared =>
      obtain ⟨_, ⟨⟩, hmem⟩ := hu
      exact ⟨_, rfl, (List.mem_erase_of_ne hne).mpr hmem⟩
    | exclusive => cases hu

end SharedMutex
