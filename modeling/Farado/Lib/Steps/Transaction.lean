import Farado.Lib.Steps.Basic

/-!
# Transactions

A `Session` is what one connection sees of a store: the `live` contents, and, while a transaction is
open, the contents that a rollback returns to. `durable` is what is left if the connection goes away.

`transaction body` is the usual pattern of an object that begins the transaction when it is made,
commits at the end of the body, rolls back in the handler, and tries to roll back once more when it
is destroyed. **Whatever fails in it, the rollback included, the durable contents are either those
that the completed body left or the ones from before.**
-/

namespace Steps

/-- A connection to a store with contents `L`. -/
structure Session (L : Type) where
  live : L
  saved : Option L := none

namespace Session

variable {L ε α : Type}

/-- What the store has for everyone else. -/
def durable (s : Session L) : L := s.saved.getD s.live

theorem durable_eq_live {s : Session L} (h : s.saved = none) : s.durable = s.live := by
  rw [durable, h, Option.getD_none]

/-- The live contents as a part of the session. -/
def liveLens : Lens (Session L) L where
  get := live
  set l s := { s with live := l }
  get_set _ _ := rfl
  set_get _ := rfl
  set_set _ _ _ := rfl

/-- Code that does not touch transactions. -/
def onLive (p : Prog L ε α) : Prog (Session L) ε α := p.zoom liveLens id

variable (fault : ε)

def beginTransaction : Prog (Session L) ε Unit :=
  Prog.atomic fault fun s =>
    match s.saved with
    | none => (.ok (), { s with saved := some s.live })
    | some _ => (.error fault, s)

def commit : Prog (Session L) ε Unit :=
  Prog.atomic fault fun s =>
    match s.saved with
    | none => (.error fault, s)
    | some _ => (.ok (), { s with saved := none })

def rollback : Prog (Session L) ε Unit :=
  Prog.atomic fault fun s =>
    match s.saved with
    | none => (.error fault, s)
    | some l => (.ok (), { live := l, saved := none })

/-- A failed body: roll back, and where that throws, let the destructor try again. -/
def abort : Prog (Session L) ε Unit :=
  tryCatch (rollback fault) fun e => do
    tryCatch (rollback fault) fun _ => pure ()
    throw e

/-- The body in a transaction; `wrap` is what becomes of its exception. -/
def transaction (wrap : ε → ε) (body : Prog L ε Unit) : Prog (Session L) ε Unit := do
  beginTransaction fault
  tryCatch
    (do
      onLive body
      commit fault)
    fun e => do
      abort fault
      throw (wrap e)

/-! ## What can happen -/

section
variable {fault : ε} {s s' : Session L}

theorem ends_onLive {p : Prog L ε α} {r : Except ε α} (h : Prog.Ends (onLive p) s r s') :
    ∃ l, Prog.Ends p s.live r l ∧ s' = { s with live := l } := by
  obtain ⟨r₀, l, hl, hr, hs'⟩ := Prog.ends_zoom h
  have hr₀ : r = r₀ := by rw [hr]; cases r₀ <;> rfl
  rw [hr₀]
  exact ⟨l, hl, hs'⟩

theorem run_onLive (p : Prog L ε α) (s : Session L) :
    (onLive p).run s = ((p.run s.live).1, { s with live := (p.run s.live).2 }) := by
  unfold onLive
  rw [Prog.run_zoom]
  show (((p.run s.live).1.mapError id), _) = _
  cases (p.run s.live).1 <;> rfl

/-- A commit that succeeds makes the live contents durable; one that fails changes nothing. -/
theorem ends_commit {l : L} {r : Except ε Unit} (hs : s.saved = some l)
    (h : Prog.Ends (commit fault) s r s') :
    (r = .ok () ∧ s' = { live := s.live, saved := none }) ∨ r = .error fault ∧ s' = s := by
  rcases Prog.ends_atomic_iff.mp h with ⟨hr, hs'⟩ | hfault
  · left
    rw [hs] at hr hs'
    exact ⟨hr, hs'⟩
  · right
    exact hfault

/-- A rollback restores what was saved, or leaves the transaction open; both times the same is
durable. -/
theorem ends_rollback {l : L} {r : Except ε Unit} (hs : s.saved = some l)
    (h : Prog.Ends (rollback fault) s r s') :
    (r = .ok () ∧ s' = { live := l, saved := none }) ∨ r = .error fault ∧ s' = s := by
  rcases Prog.ends_atomic_iff.mp h with ⟨hr, hs'⟩ | hfault
  · left
    rw [hs] at hr hs'
    exact ⟨hr, hs'⟩
  · right
    exact hfault

/-- After an abort the old contents are durable, whether it throws or not. -/
theorem ends_abort {l : L} {r : Except ε Unit} (hs : s.saved = some l)
    (h : Prog.Ends (abort fault) s r s') : (r = .ok () ∨ r = .error fault) ∧ s'.durable = l := by
  have hopen : s.durable = l := by rw [durable, hs, Option.getD_some]
  rcases Prog.ends_tryCatch_iff.mp h with ⟨_, hroll, hr⟩ | ⟨e, s₁, hroll, hagain⟩
  · rcases ends_rollback hs hroll with ⟨-, rfl⟩ | ⟨herr, -⟩
    · exact ⟨.inl hr, rfl⟩
    · cases herr
  · rcases ends_rollback hs hroll with ⟨hok, -⟩ | ⟨he, rfl⟩
    · cases hok
    obtain rfl := Except.error.inj he
    -- the rollback has thrown: now it is the destructor's turn
    rcases Prog.ends_bind_iff.mp hagain with ⟨_, s₂, htry, hthrow⟩ | ⟨_, htry, -⟩
    · obtain ⟨hr, rfl⟩ := Prog.ends_throw_iff.mp hthrow
      refine ⟨.inr hr, ?_⟩
      rcases Prog.ends_tryCatch_iff.mp htry with ⟨_, hroll', -⟩ | ⟨_, s₃, hroll', hpure⟩
      · rcases ends_rollback hs hroll' with ⟨-, rfl⟩ | ⟨herr, -⟩
        · rfl
        · cases herr
      · obtain ⟨-, rfl⟩ := Prog.ends_pure_iff.mp hpure
        rcases ends_rollback hs hroll' with ⟨hok, -⟩ | ⟨-, rfl⟩
        · cases hok
        · exact hopen
    · rcases Prog.ends_tryCatch_iff.mp htry with ⟨_, -, hok⟩ | ⟨_, s₃, -, hpure⟩
      · cases hok
      · cases (Prog.ends_pure_iff.mp hpure).1

theorem ends_beginTransaction {r : Except ε Unit} (hs : s.saved = none)
    (h : Prog.Ends (beginTransaction fault) s r s') :
    (r = .ok () ∧ s' = { live := s.live, saved := some s.live }) ∨ r = .error fault ∧ s' = s := by
  rcases Prog.ends_atomic_iff.mp h with ⟨hr, hs'⟩ | hfault
  · left
    rw [hs] at hr hs'
    exact ⟨hr, hs'⟩
  · right
    exact hfault

/-- The handler: it always throws, and what was saved is durable again. -/
theorem ends_handler {wrap : ε → ε} {e : ε} {l : L} {r : Except ε Unit} (hs : s.saved = some l)
    (h : Prog.Ends (abort fault >>= fun _ => throw (wrap e)) s r s') :
    (r = .error (wrap e) ∨ r = .error fault) ∧ s'.durable = l := by
  rcases Prog.ends_bind_iff.mp h with ⟨_, s₁, habort, hthrow⟩ | ⟨e', habort, hr⟩
  · obtain ⟨hr, rfl⟩ := Prog.ends_throw_iff.mp hthrow
    exact ⟨.inl hr, (ends_abort hs habort).2⟩
  · obtain ⟨hok | herr, hdurable⟩ := ends_abort hs habort
    · cases hok
    · obtain rfl := Except.error.inj herr
      exact ⟨.inr hr, hdurable⟩

/-- **Atomicity.** A transaction either returns with the body completed and its result durable, or
throws, a wrapped exception or its own, with the old contents durable. -/
theorem ends_transaction {wrap : ε → ε} {body : Prog L ε Unit} {r : Except ε Unit}
    (hs : s.saved = none) (h : Prog.Ends (transaction fault wrap body) s r s') :
    (r = .ok () ∧ ∃ l, Prog.Ends body s.live (.ok ()) l ∧ s' = { live := l, saved := none }) ∨
      ((∃ e, r = .error (wrap e)) ∨ r = .error fault) ∧ s'.durable = s.durable := by
  rcases Prog.ends_bind_iff.mp h with ⟨_, s₁, hbegin, hrest⟩ | ⟨e, hbegin, hr⟩
  · rcases ends_beginTransaction hs hbegin with ⟨-, rfl⟩ | ⟨herr, -⟩
    swap
    · cases herr
    rcases Prog.ends_tryCatch_iff.mp hrest with ⟨_, hbody, hr⟩ | ⟨e, s₂, hbody, hhandler⟩
    · -- the body and the commit have gone through
      rcases Prog.ends_bind_iff.mp hbody with ⟨_, s₂, hlive, hcommit⟩ | ⟨_, -, herr⟩
      swap
      · cases herr
      obtain ⟨l, hl, rfl⟩ := ends_onLive hlive
      rcases ends_commit rfl hcommit with ⟨-, rfl⟩ | ⟨herr, -⟩
      · exact .inl ⟨hr, l, hl, rfl⟩
      · cases herr
    · -- one of them has thrown, with the transaction still open
      rw [durable_eq_live hs]
      have hopen : s₂.saved = some s.live := by
        rcases Prog.ends_bind_iff.mp hbody with ⟨_, s₃, hlive, hcommit⟩ | ⟨_, hlive, -⟩
        · obtain ⟨l, -, rfl⟩ := ends_onLive hlive
          rcases ends_commit rfl hcommit with ⟨hok, -⟩ | ⟨-, rfl⟩
          · cases hok
          · rfl
        · obtain ⟨l, -, rfl⟩ := ends_onLive hlive
          rfl
      obtain ⟨hr | hr, hdurable'⟩ := ends_handler hopen hhandler
      · exact .inr ⟨.inl ⟨e, hr⟩, hdurable'⟩
      · exact .inr ⟨.inr hr, hdurable'⟩
  · right
    rcases ends_beginTransaction hs hbegin with ⟨hok, -⟩ | ⟨he, rfl⟩
    · cases hok
    · obtain rfl := Except.error.inj he
      exact ⟨.inr hr, rfl⟩

/-- The transaction, when nothing fails but the body itself. -/
theorem run_transaction {wrap : ε → ε} {body : Prog L ε Unit} (hs : s.saved = none) :
    (transaction fault wrap body).run s =
      match body.run s.live with
      | (.ok (), l) => (.ok (), { live := l, saved := none })
      | (.error e, _) => (.error (wrap e), s) := by
  obtain ⟨live, saved⟩ := s
  obtain rfl : saved = none := hs
  unfold transaction
  have hbegin : (beginTransaction fault).run { live := live, saved := none } =
      (.ok (), { live := live, saved := some live }) := rfl
  rw [Prog.run_bind_ok hbegin, Prog.run_tryCatch]
  have hlive := run_onLive body { live := live, saved := some live }
  rcases hbody : body.run live with ⟨_ | _, l⟩
  · rw [hbody] at hlive
    rw [Prog.run_bind_error hlive]
    rfl
  · rw [hbody] at hlive
    rw [Prog.run_bind_ok hlive]
    rfl

end

end Session

end Steps
