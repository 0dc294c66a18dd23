import Mathlib.Logic.Basic

/-!
# Programs that answer once

A program with exceptions that asks around and answers somebody. A question can turn out in any way,
and differently each time it is put; an answer cannot be taken back.

A program is `Silent` if it answers nothing, `AnswersOrThrows` if it has answered once when it
returns and not at all when it throws, and `Answers` if it returns, having answered once. The rules
below follow the ways of putting programs together.
-/

namespace Answering

variable {ε ω α β : Type}

/-- How far an exchange has come: how many questions have been put and what has been answered. -/
structure Exchange (ω : Type) where
  asked : Nat := 0
  answers : List ω := []

/-- Programs that may throw, ask and answer. -/
abbrev Handling (ε ω α : Type) := ExceptT ε (StateM (Exchange ω)) α

namespace Handling

/-- What a program returns or throws, and the exchange after it. -/
def exec (p : Handling ε ω α) (s : Exchange ω) : Except ε α × Exchange ω := p.run.run s

/-- Put a question; `outcome` tells how it turns out, each time. -/
def ask (outcome : Nat → Except ε α) : Handling ε ω α :=
  ExceptT.mk fun s => (outcome s.asked, { s with asked := s.asked + 1 })

/-- Give an answer. To answer again is an error, but the answer is out. -/
def answer (again : ε) (a : ω) : Handling ε ω Unit :=
  ExceptT.mk fun s =>
    (if s.answers.isEmpty then .ok () else .error again, { s with answers := s.answers ++ [a] })

/-- Run a program and look at what it threw. -/
def attempt (p : Handling ε ω α) : Handling ε ω (Except ε α) :=
  tryCatch (Except.ok <$> p) fun e => pure (.error e)

theorem exec_bind (p : Handling ε ω α) (k : α → Handling ε ω β) (s : Exchange ω) :
    (p >>= k).exec s =
      match p.exec s with
      | (.ok a, s') => (k a).exec s'
      | (.error e, s') => (.error e, s') := by
  show (ExceptT.bindCont k (p.exec s).1).run (p.exec s).2 = _
  rcases p.exec s with ⟨_ | _, s'⟩ <;> rfl

theorem exec_ask_bind (outcome : Nat → Except ε α) (k : α → Handling ε ω β) (s : Exchange ω) :
    (ask outcome >>= k).exec s =
      match outcome s.asked with
      | .ok a => (k a).exec { s with asked := s.asked + 1 }
      | .error e => (.error e, { s with asked := s.asked + 1 }) := by
  have hask : (ask outcome : Handling ε ω α).exec s =
    (outcome s.asked, { s with asked := s.asked + 1 }) := rfl
  rw [exec_bind, hask]
  cases outcome s.asked <;> rfl

theorem exec_tryCatch (p : Handling ε ω α) (h : ε → Handling ε ω α) (s : Exchange ω) :
    (tryCatch p h).exec s =
      match p.exec s with
      | (.ok a, s') => (.ok a, s')
      | (.error e, s') => (h e).exec s' := by
  show (match (p.exec s).1 with
    | .ok a => pure (Except.ok a) | .error e => (h e).run : StateM (Exchange ω) (Except ε α)).run
      (p.exec s).2 = _
  rcases p.exec s with ⟨_ | _, s'⟩ <;> rfl

/-- No answer is given. -/
def Silent (p : Handling ε ω α) : Prop := ∀ s, (p.exec s).2.answers = s.answers

/-- Begun in `s`, the program leaves `post` when it returns, and no answer when it throws. -/
def LeavesAt (s : Exchange ω) (post : α → List ω → Prop) (p : Handling ε ω α) : Prop :=
  (∀ a, (p.exec s).1 = .ok a → post a (p.exec s).2.answers) ∧
    ∀ e, (p.exec s).1 = .error e → (p.exec s).2.answers = []

/-- The same whenever it begins before any answer was given. -/
def Leaves (post : α → List ω → Prop) (p : Handling ε ω α) : Prop :=
  ∀ s, s.answers = [] → LeavesAt s post p

/-- One answer, or an exception before it. -/
def AnswersOrThrows (p : Handling ε ω α) : Prop := Leaves (fun _ answers => answers.length = 1) p

/-- One answer, and no exception. -/
def Answers (p : Handling ε ω α) : Prop :=
  ∀ s, s.answers = [] → (∃ a, (p.exec s).1 = .ok a) ∧ (p.exec s).2.answers.length = 1

/-! ## Asking -/

theorem silent_pure (a : α) : Silent (pure a : Handling ε ω α) := fun _ => rfl

theorem silent_throw (e : ε) : Silent (throw e : Handling ε ω α) := fun _ => rfl

theorem silent_ask (outcome : Nat → Except ε α) : Silent (ask outcome : Handling ε ω α) :=
  fun _ => rfl

theorem Silent.bind {p : Handling ε ω α} {k : α → Handling ε ω β} (hp : Silent p)
    (hk : ∀ a, Silent (k a)) : Silent (p >>= k) := by
  intro s
  have hs := hp s
  rw [exec_bind]
  generalize p.exec s = x at hs ⊢
  rcases x with ⟨e | a, s'⟩
  · exact hs
  · exact (hk a s').trans hs

theorem Silent.attempt {p : Handling ε ω α} (hp : Silent p) : Silent (attempt p) := by
  intro s
  have hs : ((Except.ok <$> p : Handling ε ω (Except ε α)).exec s).2.answers = s.answers :=
    (hp.bind fun a => silent_pure (Except.ok a)) s
  unfold Handling.attempt
  rw [exec_tryCatch]
  generalize (Except.ok <$> p : Handling ε ω (Except ε α)).exec s = x at hs ⊢
  rcases x with ⟨e | a, s'⟩
  · exact hs
  · exact hs

theorem silent_mapM {f : α → Handling ε ω β} (hf : ∀ a, Silent (f a)) (l : List α) :
    Silent (l.mapM f) := by
  induction l with
  | nil => exact silent_pure []
  | cons a l ih =>
    rw [List.mapM_cons]
    exact (hf a).bind fun b => ih.bind fun bs => silent_pure _

/-! ## Answering -/

theorem answers_answer (again : ε) (a : ω) : Answers (answer again a) := by
  intro s hs
  unfold answer exec
  rw [ExceptT.run_mk]
  refine ⟨⟨(), ?_⟩, ?_⟩
  · show (if s.answers.isEmpty then Except.ok () else .error again) = _
    rw [hs]
    rfl
  · show (s.answers ++ [a]).length = 1
    rw [hs]
    rfl

theorem Answers.orThrows {p : Handling ε ω α} (hp : Answers p) : AnswersOrThrows p := by
  intro s hs
  obtain ⟨⟨a, ha⟩, hlength⟩ := hp s hs
  refine ⟨fun _ _ => hlength, ?_⟩
  intro e he
  rw [ha] at he
  cases he

/-- Questions first, then whatever is made of them. -/
theorem Silent.leavesAt_bind {post : β → List ω → Prop} {p : Handling ε ω α}
    {k : α → Handling ε ω β} {s : Exchange ω} (hp : Silent p) (hs : s.answers = [])
    (hk : ∀ a s', p.exec s = (.ok a, s') → s'.answers = [] → LeavesAt s' post (k a)) :
    LeavesAt s post (p >>= k) := by
  have hsilent := (hp s).trans hs
  unfold LeavesAt
  rw [exec_bind]
  generalize p.exec s = x at hsilent hk ⊢
  rcases x with ⟨e | a, s'⟩
  · exact ⟨nofun, fun _ _ => hsilent⟩
  · exact hk a s' rfl hsilent

theorem Silent.leaves_bind {post : β → List ω → Prop} {p : Handling ε ω α}
    {k : α → Handling ε ω β} (hp : Silent p) (hk : ∀ a, Leaves post (k a)) :
    Leaves post (p >>= k) :=
  fun _ hs => hp.leavesAt_bind hs fun a s' _ => hk a s'

/-- Whatever is thrown before the answer is answered by the handler. -/
theorem LeavesAt.tryCatch {p : Handling ε ω α} {h : ε → Handling ε ω α} {s : Exchange ω}
    (hp : LeavesAt s (fun _ answers => answers.length = 1) p) (hh : ∀ e, Answers (h e)) :
    (∃ a, ((tryCatch p h).exec s).1 = .ok a) ∧ ((tryCatch p h).exec s).2.answers.length = 1 := by
  obtain ⟨hok, herror⟩ := hp
  rw [exec_tryCatch]
  generalize p.exec s = x at hok herror ⊢
  rcases x with ⟨e | a, s'⟩
  · exact hh e s' (herror e rfl)
  · exact ⟨⟨a, rfl⟩, hok a rfl⟩

theorem AnswersOrThrows.tryCatch {p : Handling ε ω α} {h : ε → Handling ε ω α}
    (hp : AnswersOrThrows p) (hh : ∀ e, Answers (h e)) : Answers (tryCatch p h) :=
  fun s hs => (hp s hs).tryCatch hh

/-- A check that answers itself where it says no. -/
def Gate (p : Handling ε ω (Option α)) : Prop :=
  Leaves (fun a answers => answers.length = if a.isSome then 0 else 1) p

theorem gate_some (a : α) : Gate (pure (some a) : Handling ε ω (Option α)) := by
  intro s hs
  refine ⟨?_, nofun⟩
  rintro _ ⟨⟩
  exact List.length_eq_zero_iff.mpr hs

theorem Answers.gate {p : Handling ε ω β} (hp : Answers p) :
    Gate (p >>= fun _ => pure (none : Option α)) := by
  intro s hs
  obtain ⟨⟨b, hb⟩, hlength⟩ := hp s hs
  unfold LeavesAt
  rw [exec_bind]
  generalize p.exec s = x at hb hlength ⊢
  obtain ⟨r, s'⟩ := x
  obtain rfl : r = .ok b := hb
  refine ⟨?_, nofun⟩
  rintro _ ⟨⟩
  exact hlength

theorem Gate.answersOrThrows {p : Handling ε ω (Option α)} (hp : Gate p)
    {k : α → Handling ε ω Unit} (hk : ∀ a, AnswersOrThrows (k a)) :
    AnswersOrThrows (p >>= fun a => a.elim (pure ()) k) := by
  intro s hs
  obtain ⟨hok, herror⟩ := hp s hs
  unfold LeavesAt
  rw [exec_bind]
  generalize p.exec s = x at hok herror ⊢
  rcases x with ⟨e | (_ | a), s'⟩
  · exact ⟨nofun, fun _ _ => herror e rfl⟩
  · exact ⟨fun _ _ => hok none rfl, nofun⟩
  · exact hk a s' (List.length_eq_zero_iff.mp (hok (some a) rfl))

/-! ## The answer that is given -/

/-- Begun before any answer was given, the program returns, having given the answer `r`, or throws
what `r` is and has answered nothing. -/
def Gives (p : Handling ε ω Unit) (r : Except ε ω) : Prop :=
  ∀ s, s.answers = [] →
    (p.exec s).1 = r.map (fun _ => ()) ∧ (p.exec s).2.answers = r.toOption.toList

theorem gives_answer (again : ε) (a : ω) : Gives (answer again a) (.ok a) := by
  intro s hs
  constructor
  · show (if s.answers.isEmpty then Except.ok () else .error again) = _
    rw [hs]
    rfl
  · show s.answers ++ [a] = [a]
    rw [hs]
    rfl

section
variable {outcome : Nat → Except ε α} {k : α → Handling ε ω Unit}

/-- A question that turns out the same whenever it is put. -/
theorem gives_ask_bind {x : Except ε α} {f : α → Except ε ω} (hx : ∀ n, outcome n = x)
    (hk : ∀ a, Gives (k a) (f a)) : Gives (ask outcome >>= k) (x >>= f) := by
  intro s hs
  rw [exec_ask_bind, hx]
  cases x with
  | ok a => exact hk a { s with asked := s.asked + 1 } hs
  | error e => exact ⟨rfl, hs⟩

theorem Gives.ask {r : Except ε ω} {a : α} (hk : Gives (k a) r) (hx : ∀ n, outcome n = .ok a) :
    Gives (ask outcome >>= k) r := by
  intro s hs
  rw [exec_ask_bind, hx]
  exact hk { s with asked := s.asked + 1 } hs

theorem gives_ask_error {e : ε} (hx : ∀ n, outcome n = .error e) :
    Gives (ask outcome >>= k) (.error e) := by
  intro s hs
  rw [exec_ask_bind, hx]
  exact ⟨rfl, hs⟩

end

/-- What the program throws is the handler's. -/
theorem Gives.tryCatch {p : Handling ε ω Unit} {h : ε → Handling ε ω Unit} {r : Except ε ω}
    {g : ε → Except ε ω} (hp : Gives p r) (hh : ∀ e, Gives (h e) (g e)) :
    Gives (tryCatch p h) (r.tryCatch g) := by
  intro s hs
  obtain ⟨hresult, hanswers⟩ := hp s hs
  rw [exec_tryCatch]
  generalize p.exec s = x at hresult hanswers ⊢
  obtain ⟨result, s'⟩ := x
  obtain rfl : result = r.map fun _ => () := hresult
  cases r with
  | ok a => exact ⟨rfl, hanswers⟩
  | error e => exact hh e s' hanswers

end Handling

end Answering
