import Farado.Lib.Answering
import Mathlib.Tactic.Common

/-!
# Programs that act

The other reading of a program with exceptions: what it asks for is done, on a state, and what it
answers is what it returns. `Follows` says that a program which asks gives the answers of a program
which acts; the rules go through the two side by side.

Most programs of this kind look at what they were given, do one thing, and report. `Keeps` says that
a program leaves the state alone, `Does` how what it returns and the state after it go together.
-/

namespace Acting

open Answering Handling

variable {ε σ ω α β : Type}

/-- Programs that may throw, on a state. -/
abbrev Program (ε σ α : Type) := ExceptT ε (StateM σ) α

namespace Program

/-- What a program returns or throws, and the state after it. -/
def exec (p : Program ε σ α) (s : σ) : Except ε α × σ := p.run.run s

/-- Do something to the state. -/
def act (f : σ → Except ε α × σ) : Program ε σ α := ExceptT.mk f

/-- A value or an exception that was there before. -/
def known (r : Except ε α) : Program ε σ α := ExceptT.mk fun s => (r, s)

@[simp] theorem exec_act (f : σ → Except ε α × σ) (s : σ) : (act f).exec s = f s := rfl

@[simp] theorem exec_known (r : Except ε α) (s : σ) : (known r : Program ε σ α).exec s = (r, s) :=
  rfl

@[simp] theorem exec_pure (a : α) (s : σ) : (pure a : Program ε σ α).exec s = (.ok a, s) := rfl

theorem exec_bind (p : Program ε σ α) (k : α → Program ε σ β) (s : σ) :
    (p >>= k).exec s =
      match p.exec s with
      | (.ok a, s') => (k a).exec s'
      | (.error e, s') => (.error e, s') := by
  show (ExceptT.bindCont k (p.exec s).1).run (p.exec s).2 = _
  rcases p.exec s with ⟨_ | _, s'⟩ <;> rfl

theorem exec_bind_ok {p : Program ε σ α} {k : α → Program ε σ β} {s s' : σ} {a : α}
    (h : p.exec s = (.ok a, s')) : (p >>= k).exec s = (k a).exec s' := by
  rw [exec_bind, h]

theorem exec_bind_error {p : Program ε σ α} {k : α → Program ε σ β} {s s' : σ} {e : ε}
    (h : p.exec s = (.error e, s')) : (p >>= k).exec s = (.error e, s') := by
  rw [exec_bind, h]

theorem exec_tryCatch (p : Program ε σ α) (h : ε → Program ε σ α) (s : σ) :
    (tryCatch p h).exec s =
      match p.exec s with
      | (.ok a, s') => (.ok a, s')
      | (.error e, s') => (h e).exec s' := by
  have hrun : (ExceptT.tryCatch p h).run.run s = (tryCatch p h).exec s := rfl
  rw [← hrun]
  unfold ExceptT.tryCatch
  rw [ExceptT.run_mk, StateT.run_bind]
  rcases hx : p.exec s with ⟨r, s'⟩
  have hresult : StateT.run p s = (r, s') := hx
  rw [hresult]
  cases r <;> rfl

/-! ## Leaving the state alone -/

/-- The state is left alone. -/
def Keeps (p : Program ε σ α) : Prop := ∀ s, (p.exec s).2 = s

theorem keeps_known (r : Except ε α) : Keeps (known r : Program ε σ α) := fun _ => rfl

theorem keeps_pure (a : α) : Keeps (pure a : Program ε σ α) := fun _ => rfl

theorem Keeps.bind {p : Program ε σ α} {k : α → Program ε σ β} (hp : Keeps p)
    (hk : ∀ a, Keeps (k a)) : Keeps (p >>= k) := by
  intro s
  have hs := hp s
  rw [exec_bind]
  generalize p.exec s = x at hs ⊢
  rcases x with ⟨e | a, s'⟩
  · exact hs
  · exact (hk a s').trans hs

/-! ## What is done -/

/-- From every state, what is returned and the state after it are related as `R` says. -/
def Does (R : σ → Except ε α → σ → Prop) (p : Program ε σ α) : Prop :=
  ∀ s, R s (p.exec s).1 (p.exec s).2

variable {R R' : σ → Except ε α → σ → Prop}

theorem Does.mono {p : Program ε σ α} (hp : Does R p) (h : ∀ s r s', R s r s' → R' s r s') :
    Does R' p := fun s => h _ _ _ (hp s)

theorem Keeps.does {p : Program ε σ α} (hp : Keeps p) (h : ∀ s r, R s r s) : Does R p := by
  intro s
  rw [hp s]
  exact h s _

/-- What is known is used, or was thrown before anything was done. -/
theorem does_known_bind {r : Except ε α} {k : α → Program ε σ β}
    {R : σ → Except ε β → σ → Prop} (herror : ∀ s e, r = .error e → R s (.error e) s)
    (hk : ∀ a, r = .ok a → Does R (k a)) : Does R (known r >>= k) := by
  intro s
  rw [exec_bind, exec_known]
  cases r with
  | error e => exact herror s e rfl
  | ok a => exact hk a rfl s

/-- What is thrown is the handler's to deal with. -/
theorem Does.tryCatch {p : Program ε σ α} {h : ε → Program ε σ α} (hp : Does R p)
    (hok : ∀ s a s', R s (.ok a) s' → R' s (.ok a) s')
    (herror : ∀ s e s', R s (.error e) s' → R' s ((h e).exec s').1 ((h e).exec s').2) :
    Does R' (tryCatch p h) := by
  intro s
  have hs := hp s
  rw [exec_tryCatch]
  generalize p.exec s = x at hs ⊢
  rcases x with ⟨e | a, s'⟩
  · exact herror s e s' hs
  · exact hok s a s' hs

end Program

/-! ## Asking and acting -/

/-- Whenever it is run, the program returns or throws the same, and answers nothing. -/
def Tells (p : Handling ε ω α) (r : Except ε α) : Prop :=
  ∀ s, (p.exec s).1 = r ∧ (p.exec s).2.answers = s.answers

theorem tells_pure (a : α) : Tells (pure a : Handling ε ω α) (.ok a) := fun _ => ⟨rfl, rfl⟩

theorem tells_ask {outcome : Nat → Except ε α} {r : Except ε α} (h : ∀ n, outcome n = r) :
    Tells (ask outcome : Handling ε ω α) r := fun s => ⟨h s.asked, rfl⟩

theorem Tells.bind {p : Handling ε ω α} {k : α → Handling ε ω β} {r : Except ε α}
    {f : α → Except ε β} (hp : Tells p r) (hk : ∀ a, Tells (k a) (f a)) :
    Tells (p >>= k) (r >>= f) := by
  intro s
  obtain ⟨hresult, hanswers⟩ := hp s
  rw [Handling.exec_bind]
  generalize p.exec s = x at hresult hanswers ⊢
  obtain ⟨result, s'⟩ := x
  obtain rfl : result = r := hresult
  cases result with
  | error e => exact ⟨rfl, hanswers⟩
  | ok a => exact ⟨(hk a s').1, (hk a s').2.trans hanswers⟩

/-- The same, told in another form. -/
theorem Tells.bind_map {γ : Type} {p : Handling ε ω α} {k : α → Handling ε ω γ} {r : Except ε α}
    {f : α → Except ε β} {g : β → γ} (hp : Tells p r) (hk : ∀ a, Tells (k a) ((f a).map g)) :
    Tells (p >>= k) ((r >>= f).map g) := by
  have hbind := hp.bind hk
  cases r with
  | error e => exact hbind
  | ok a => exact hbind

theorem tells_mapM {f : α → Handling ε ω β} {g : α → Except ε β} (h : ∀ a, Tells (f a) (g a))
    (l : List α) : Tells (l.mapM f) (l.mapM g) := by
  induction l with
  | nil => exact tells_pure []
  | cons a l ih =>
    rw [List.mapM_cons, List.mapM_cons]
    exact (h a).bind fun b => ih.bind fun bs => tells_pure _

/-- An attempt tells what comes of it. -/
theorem Tells.attempt {p : Handling ε ω α} {r : Except ε α} (hp : Tells p r) :
    Tells (Handling.attempt p) (.ok r) := by
  intro s
  have hok : ((Except.ok <$> p : Handling ε ω (Except ε α)).exec s).1 = r.map Except.ok ∧
      ((Except.ok <$> p : Handling ε ω (Except ε α)).exec s).2.answers = s.answers := by
    have hmap : Tells (p >>= fun a => pure (Except.ok a : Except ε α))
        (r >>= fun a => .ok (.ok a)) := hp.bind fun a => tells_pure _
    refine ⟨(hmap s).1.trans ?_, (hmap s).2⟩
    cases r <;> rfl
  unfold Handling.attempt
  rw [Handling.exec_tryCatch]
  generalize (Except.ok <$> p : Handling ε ω (Except ε α)).exec s = x at hok ⊢
  obtain ⟨result, s'⟩ := x
  obtain rfl : result = r.map Except.ok := hok.1
  cases r with
  | error e => exact ⟨rfl, hok.2⟩
  | ok a => exact ⟨rfl, hok.2⟩

/-- What is told is there for the rest. -/
theorem Tells.gives_bind {p : Handling ε ω α} {k : α → Handling ε ω Unit} {a : α}
    {r : Except ε ω} (hp : Tells p (.ok a)) (hk : Gives (k a) r) : Gives (p >>= k) r := by
  intro s hs
  obtain ⟨hresult, hanswers⟩ := hp s
  rw [Handling.exec_bind]
  generalize p.exec s = x at hresult hanswers ⊢
  obtain ⟨result, s'⟩ := x
  obtain rfl : result = .ok a := hresult
  exact hk s' (hanswers.trans hs)

/-- A check that has answered itself ends the program. -/
theorem refuses {p : Handling ε ω Unit} {a : ω} (hp : Gives p (.ok a))
    (k : α → Handling ε ω Unit) :
    Gives ((p >>= fun _ => pure none) >>= fun x => x.elim (pure ()) k) (.ok a) := by
  intro s hs
  obtain ⟨hresult, hanswers⟩ := hp s hs
  rw [Handling.exec_bind, Handling.exec_bind]
  generalize p.exec s = x at hresult hanswers ⊢
  obtain ⟨result, s'⟩ := x
  obtain rfl : result = .ok () := hresult
  exact ⟨rfl, hanswers⟩

/-- The program that asks gives the answer that the program that acts returns in this state, or
throws what that one throws. -/
def Follows (s : σ) (p : Handling ε ω Unit) (q : Program ε σ ω) : Prop := Gives p (q.exec s).1

section
variable {s : σ}

theorem follows_answer (again : ε) (a : ω) : Follows s (answer again a) (pure a) :=
  gives_answer again a

/-- A question is answered by what is done. -/
theorem follows_ask_bind {outcome : Nat → Except ε α} {k : α → Handling ε ω Unit}
    {q : Program ε σ α} {f : α → Program ε σ ω} (hq : ∀ n, outcome n = (q.exec s).1)
    (hk : ∀ a, Follows (q.exec s).2 (k a) (f a)) : Follows s (ask outcome >>= k) (q >>= f) := by
  unfold Follows
  rw [Program.exec_bind]
  rcases hx : q.exec s with ⟨e | a, s'⟩
  · apply gives_ask_error
    intro n
    rw [hq, hx]
  · have ha := hk a
    rw [hx] at ha
    apply Gives.ask ha
    intro n
    rw [hq, hx]

/-- What is asked about may be known, in another form. -/
theorem Tells.follows_map {γ : Type} {p : Handling ε ω α} {k : α → Handling ε ω Unit}
    {r : Except ε γ} {g : γ → α} {f : γ → Program ε σ ω} (hp : Tells p (r.map g))
    (hk : ∀ c, r = .ok c → Follows s (k (g c)) (f c)) :
    Follows s (p >>= k) (Program.known r >>= f) := by
  intro t ht
  obtain ⟨hresult, hanswers⟩ := hp t
  rw [Handling.exec_bind, Program.exec_bind]
  generalize p.exec t = x at hresult hanswers ⊢
  obtain ⟨result, t'⟩ := x
  obtain rfl : result = r.map g := hresult
  cases r with
  | error e => exact ⟨rfl, hanswers.trans ht⟩
  | ok c => exact hk c rfl t' (hanswers.trans ht)

theorem Tells.follows_bind {p : Handling ε ω α} {k : α → Handling ε ω Unit} {r : Except ε α}
    {f : α → Program ε σ ω} (hp : Tells p r) (hk : ∀ a, r = .ok a → Follows s (k a) (f a)) :
    Follows s (p >>= k) (Program.known r >>= f) := by
  apply Tells.follows_map (g := id)
  · rwa [Except.map_id]
  · exact hk

theorem Follows.tryCatch {p : Handling ε ω Unit} {q : Program ε σ ω}
    {h : ε → Handling ε ω Unit} {g : ε → Program ε σ ω} (hp : Follows s p q)
    (hh : ∀ e, Follows (q.exec s).2 (h e) (g e)) : Follows s (tryCatch p h) (tryCatch q g) := by
  have hcatch : Gives (MonadExcept.tryCatch p h)
      ((q.exec s).1.tryCatch fun e => ((g e).exec (q.exec s).2).1) := Gives.tryCatch hp hh
  unfold Follows
  rw [Program.exec_tryCatch]
  generalize q.exec s = x at hcatch ⊢
  rcases x with ⟨e | a, s'⟩ <;> exact hcatch

end

end Acting
