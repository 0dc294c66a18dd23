import Farado.Lib.Steps.Guarantee
import Farado.Sessions.Logout

/-!
# The middleware under several threads

The listener calls the middleware from several threads. The lock is held for one access to the
blacklist at a time: a token is verified without it, the cleaning reads the clock before it takes it,
and the count of the invalidations has none. Still, once an invalidation has returned, every check
that begins later rejects the token, however the threads take turns; and nobody else is kept out.
-/

namespace Farado

open Steps

namespace AuthMiddleware

/-- What a thread does, step by step. Nothing here fails. -/
abbrev Threaded (α : Type) := Prog AuthMiddleware Unit α

/-- What a thread does in one go: it holds the lock, or takes one look at the clock. -/
def alone {α : Type} (p : StateM AuthMiddleware α) : Threaded α :=
  .atomic () fun m => (.ok (p.run m).1, (p.run m).2)

namespace Threaded

variable (jwt : Jwt) (clock : Nat → Int) (secretKey : Bytes)

/-- The clock is read, and then the lock is taken. -/
def cleanBlacklist : Threaded Unit := do
  let now ← alone (now clock)
  alone (modify (eraseExpired now))

/-- `if (++invalidateCount % 10 == 0)`, which is not atomic: the count is loaded and then stored. -/
def countInvalidation : Threaded Unit := do
  let count ← alone ((·.invalidateCount) <$> get)
  alone (modify fun m => { m with invalidateCount := count + 1 })
  if (count + 1) % 10 = 0 then cleanBlacklist clock else pure ()

def invalidateToken (token : Bytes) : Threaded Unit := do
  match ← alone (verifyToken jwt clock secretKey token) with
  | none => pure ()
  | some jwtToken => do
      alone (modify (put token jwtToken.expiresAt))
      countInvalidation clock

def validateRequest (authHeader : Bytes) : Threaded (Option Bytes) := do
  if authHeader.isEmpty then pure none
  else
    let token := extractBearerToken authHeader
    if token.isEmpty then pure none
    else if ← alone (isTokenInvalidated clock token) then pure none
    else
      let jwtToken ← alone (verifyToken jwt clock secretKey token)
      pure (jwtToken.map (·.userId))

end Threaded

/-- An operation as a thread carries it out, with the user it lets in, if it does. -/
def Op.program (jwt : Jwt) (clock : Nat → Int) (secretKey : Bytes) : Op → Threaded (Option Bytes)
  | .generateToken userId expiresInSeconds => do
      let _ ← alone (AuthMiddleware.generateToken jwt clock secretKey userId expiresInSeconds)
      pure none
  | .invalidateToken token => do
      Threaded.invalidateToken jwt clock secretKey token
      pure none
  | .isTokenInvalidated token => do
      let _ ← alone (AuthMiddleware.isTokenInvalidated clock token)
      pure none
  | .cleanBlacklist => do
      Threaded.cleanBlacklist clock
      pure none
  | .validateRequest authHeader => Threaded.validateRequest jwt clock secretKey authHeader
  | .handleLogout authHeader =>
      match authHeader.bind matchBearer with
      | none => pure none
      | some token => do
          Threaded.invalidateToken jwt clock secretKey token
          pure none

/-! ## One thread alone -/

section
variable {jwt : Jwt} {clock : Nat → Int} {secretKey : Bytes}

theorem run_alone_bind {α β : Type} (p : StateM AuthMiddleware α) (k : α → Threaded β)
    (m : AuthMiddleware) : (alone p >>= k).run m = (k (p.run m).1).run (p.run m).2 :=
  Prog.run_bind_ok rfl

theorem run_invalidateToken_alone (token : Bytes) (m : AuthMiddleware) :
    (Threaded.invalidateToken jwt clock secretKey token).run m =
      (.ok (), ((AuthMiddleware.invalidateToken jwt clock secretKey token).run m).2) := by
  unfold Threaded.invalidateToken
  rw [run_alone_bind, run_verifyToken, run_invalidateToken]
  dsimp only
  cases verifiedAt jwt secretKey (clock m.readings) token with
  | none => rfl
  | some jwtToken =>
    dsimp only
    unfold Threaded.countInvalidation
    rw [run_alone_bind, run_alone_bind, run_alone_bind]
    show (if (m.invalidateCount + 1) % 10 = 0 then Threaded.cleanBlacklist clock
      else pure ()).run _ = _
    show _ = (_, (if (m.invalidateCount + 1) % 10 = 0 then _ else _ : Unit × AuthMiddleware).2)
    split <;> rfl

/-- A header that is not `Bearer` and a token is turned away at once. -/
theorem validateRequest_none {authHeader : Bytes} (h : matchBearer authHeader = none) :
    Threaded.validateRequest jwt clock secretKey authHeader = pure none := by
  unfold Threaded.validateRequest extractBearerToken
  rw [h]
  split <;> rfl

/-- Otherwise the token is looked up and then verified. -/
theorem validateRequest_some {authHeader token : Bytes} (h : matchBearer authHeader = some token) :
    Threaded.validateRequest jwt clock secretKey authHeader = (do
      if ← alone (isTokenInvalidated clock token) then pure none
      else
        let jwtToken ← alone (verifyToken jwt clock secretKey token)
        pure (jwtToken.map (·.userId))) := by
  have hheader : authHeader.isEmpty = false := by
    cases authHeader with
    | nil => cases h
    | cons b rest => rfl
  have htoken : token.isEmpty = false := by simpa using ne_nil_of_matchBearer h
  unfold Threaded.validateRequest extractBearerToken
  rw [h, hheader]
  dsimp only [Option.getD_some]
  rw [htoken]
  rfl

/-- **Alone, a thread does what the operation does.** -/
theorem Op.after_program (op : Op) (m : AuthMiddleware) :
    (op.program jwt clock secretKey).after m = op.exec jwt clock secretKey m := by
  unfold Prog.after
  cases op with
  | generateToken userId expiresInSeconds => rfl
  | isTokenInvalidated token => rfl
  | cleanBlacklist => rfl
  | invalidateToken token =>
    show ((Threaded.invalidateToken jwt clock secretKey token >>= fun _ => pure none).run m).2 = _
    rw [Prog.run_bind_ok (run_invalidateToken_alone token m)]
    rfl
  | validateRequest authHeader =>
    show ((Threaded.validateRequest jwt clock secretKey authHeader).run m).2 =
      ((AuthMiddleware.validateRequest jwt clock secretKey authHeader).run m).2
    cases hm : matchBearer authHeader with
    | none =>
      rw [validateRequest_none hm, run_validateRequest_none jwt clock secretKey m hm]
      rfl
    | some token =>
      rw [validateRequest_some hm, run_validateRequest jwt clock secretKey m hm, run_alone_bind]
      rcases (AuthMiddleware.isTokenInvalidated clock token).run m with ⟨_ | _, m'⟩ <;> rfl
  | handleLogout authHeader =>
    show _ = ((AuthHandler.handleLogout jwt clock secretKey authHeader).run m).2
    rw [AuthHandler.run_handleLogout]
    unfold Op.program
    dsimp only
    cases authHeader.bind matchBearer with
    | none => rfl
    | some token =>
      dsimp only
      rw [Prog.run_bind_ok (run_invalidateToken_alone token m)]
      rfl

/-! ## What every step keeps -/

/-- The clock goes forward, and `I` stays. -/
def Keeps (I : AuthMiddleware → Prop) (m m' : AuthMiddleware) : Prop :=
  m.readings ≤ m'.readings ∧ (I m → I m')

/-- What the accesses to the blacklist keep, as long as only these tokens are put on it. -/
structure Kept (jwt : Jwt) (clock : Nat → Int) (allowed : Bytes → Prop)
    (I : AuthMiddleware → Prop) : Prop where
  tick : ∀ m, I m → I m.tick
  count : ∀ m count, I m → I { m with invalidateCount := count }
  put : ∀ m other expiresAt, allowed other → jwt.expiry other = some expiresAt → I m →
    I (m.put other expiresAt)
  lookup : ∀ m other, I m → I ((AuthMiddleware.isTokenInvalidated clock other).run m).2
  clean : ∀ m k, k < m.readings → I m → I (m.eraseExpired (clock k))

variable {I : AuthMiddleware → Prop} {allowed : Bytes → Prop}

theorem Keeps.refl (m : AuthMiddleware) : Keeps I m m := ⟨Nat.le_refl _, id⟩

theorem Keeps.trans (m m₁ m' : AuthMiddleware) (h : Keeps I m m₁) (h' : Keeps I m₁ m') :
    Keeps I m m' := ⟨h.1.trans h'.1, h'.2 ∘ h.2⟩

theorem Kept.keeps_tick (hI : Kept jwt clock allowed I) (m : AuthMiddleware) : Keeps I m m.tick :=
  ⟨Nat.le_succ _, hI.tick m⟩

theorem Kept.keeps_lookup (hI : Kept jwt clock allowed I) (m : AuthMiddleware) (token : Bytes) :
    Keeps I m ((AuthMiddleware.isTokenInvalidated clock token).run m).2 :=
  ⟨le_readings_isTokenInvalidated clock m token, hI.lookup m token⟩

/-- A step of a thread and what it goes on with. -/
theorem guarantees_alone_bind {α β : Type} {Q : Except Unit β → AuthMiddleware → Prop}
    {p : StateM AuthMiddleware α} {k : α → Threaded β} {m : AuthMiddleware}
    (h : ∀ m', Keeps I m m' → Keeps I m' (p.run m').2 ∧
      (k (p.run m').1).Guarantees (Keeps I) Q (p.run m').2) :
    (alone p >>= k).Guarantees (Keeps I) Q m :=
  Prog.guarantees_atomic_bind (fun m' => (p.run m').1) (fun _ => rfl) h

theorem guarantees_cleanBlacklist (hI : Kept jwt clock allowed I) (m : AuthMiddleware) :
    (Threaded.cleanBlacklist clock).Guarantees (Keeps I) (fun r _ => r = .ok ()) m := by
  refine guarantees_alone_bind fun m₁ _ => ⟨hI.keeps_tick m₁, ?_⟩
  -- the time it goes on with is one that the clock has shown
  refine Prog.guarantees_atomic fun m' hkeeps => ⟨⟨Nat.le_refl _, ?_⟩, fun _ _ => rfl⟩
  exact hI.clean m' m₁.readings (Nat.lt_of_lt_of_le (Nat.lt_succ_self _) hkeeps.1)

theorem guarantees_countInvalidation (hI : Kept jwt clock allowed I) (m : AuthMiddleware) :
    (Threaded.countInvalidation clock).Guarantees (Keeps I) (fun r _ => r = .ok ()) m := by
  refine guarantees_alone_bind fun m₁ _ => ⟨.refl m₁, ?_⟩
  refine guarantees_alone_bind fun m₂ _ => ⟨⟨Nat.le_refl _, hI.count m₂ _⟩, ?_⟩
  split
  · exact guarantees_cleanBlacklist hI _
  · exact Prog.guarantees_pure fun _ _ => rfl

/-- What is put on the blacklist is a token that verified, with its own expiry. -/
theorem guarantees_invalidateToken (hI : Kept jwt clock allowed I) {token : Bytes}
    (htoken : allowed token) (m : AuthMiddleware) :
    (Threaded.invalidateToken jwt clock secretKey token).Guarantees (Keeps I)
      (fun r _ => r = .ok ()) m := by
  refine guarantees_alone_bind fun m₁ _ => ⟨hI.keeps_tick m₁, ?_⟩
  rw [run_verifyToken]
  dsimp only
  cases hv : verifiedAt jwt secretKey (clock m₁.readings) token with
  | none => exact Prog.guarantees_pure fun _ _ => rfl
  | some jwtToken =>
    refine guarantees_alone_bind fun m₂ _ => ⟨⟨Nat.le_refl _, ?_⟩, ?_⟩
    · exact hI.put m₂ token jwtToken.expiresAt htoken (expiry_of_verifiedAt hv)
    · exact guarantees_countInvalidation hI _

theorem guarantees_validateRequest (hI : Kept jwt clock allowed I) (authHeader : Bytes)
    (m : AuthMiddleware) :
    (Threaded.validateRequest jwt clock secretKey authHeader).Guarantees (Keeps I)
      (fun _ _ => True) m := by
  cases hm : matchBearer authHeader with
  | none =>
    rw [validateRequest_none hm]
    exact Prog.guarantees_pure fun _ _ => trivial
  | some token =>
    rw [validateRequest_some hm]
    refine guarantees_alone_bind fun m₁ _ => ⟨hI.keeps_lookup m₁ token, ?_⟩
    split
    · exact Prog.guarantees_pure fun _ _ => trivial
    · refine guarantees_alone_bind fun m₂ _ => ⟨hI.keeps_tick m₂, ?_⟩
      exact Prog.guarantees_pure fun _ _ => trivial

/-- **Every operation, step by step.** -/
theorem Op.guarantees_program (hI : Kept jwt clock allowed I) (op : Op)
    (hop : ∀ token, op.Invalidates token → allowed token) (m : AuthMiddleware) :
    (op.program jwt clock secretKey).Guarantees (Keeps I) (fun _ _ => True) m := by
  have hdone : ∀ {α : Type} {p : Threaded α} {m : AuthMiddleware},
      p.Guarantees (Keeps I) (fun r _ => ∃ a, r = .ok a) m →
      (p >>= fun _ => pure none : Threaded (Option Bytes)).Guarantees (Keeps I)
        (fun _ _ => True) m := by
    intro α p m h
    refine Prog.Guarantees.bind Keeps.refl (h.weaken fun r s hr => ?_)
    obtain ⟨a, rfl⟩ := hr
    exact ⟨a, rfl, Prog.guarantees_pure fun _ _ => trivial⟩
  cases op with
  | generateToken userId expiresInSeconds =>
    refine guarantees_alone_bind fun m₁ _ => ⟨hI.keeps_tick m₁, ?_⟩
    exact Prog.guarantees_pure fun _ _ => trivial
  | isTokenInvalidated token =>
    refine guarantees_alone_bind fun m₁ _ => ⟨hI.keeps_lookup m₁ token, ?_⟩
    exact Prog.guarantees_pure fun _ _ => trivial
  | cleanBlacklist =>
    exact hdone ((guarantees_cleanBlacklist hI m).weaken fun r _ hr => ⟨(), hr⟩)
  | invalidateToken token =>
    have hallowed := hop token (.inl rfl)
    exact hdone ((guarantees_invalidateToken hI hallowed m).weaken fun r _ hr => ⟨(), hr⟩)
  | validateRequest authHeader => exact guarantees_validateRequest hI authHeader m
  | handleLogout authHeader =>
    unfold Op.program
    dsimp only
    cases hheader : authHeader.bind matchBearer with
    | none => exact Prog.guarantees_pure fun _ _ => trivial
    | some token =>
      obtain ⟨header, rfl, hm⟩ := Option.bind_eq_some_iff.mp hheader
      have hallowed := hop token (.inr ⟨header, rfl, hm⟩)
      exact hdone ((guarantees_invalidateToken hI hallowed m).weaken fun r _ hr => ⟨(), hr⟩)

/-! ## Many threads -/

/-- Threads at the beginning of their operations, and the middleware they share. -/
def threads {ι : Type} (jwt : Jwt) (clock : Nat → Int) (secretKey : Bytes) (ops : ι → Op)
    (m : AuthMiddleware) : Pool ι AuthMiddleware Unit fun _ => Option Bytes where
  progs i := (ops i).program jwt clock secretKey
  state := m

variable {ι : Type} [DecidableEq ι] {ops : ι → Op} {token : Bytes}

theorem kept_barred : Kept jwt clock (fun _ => True) (Barred jwt clock token) where
  tick _ h := h.tick
  count _ _ h := h
  put _ _ _ _ hother h := h.put hother
  lookup _ other h := h.isTokenInvalidated other
  clean _ _ hk h := h.eraseExpired hk

theorem kept_absent : Kept jwt clock (· ≠ token) fun m => m.blacklist token = none where
  tick _ h := h
  count _ _ h := h
  put m other expiresAt hne _ h := by
    rw [put_blacklist, Function.update_of_ne hne.symm]
    exact h
  lookup _ other h := blacklist_isTokenInvalidated h other
  clean m k _ h := by
    rw [eraseExpired_blacklist, h]
    rfl

theorem next_alone_bind {α β : Type} (p : StateM AuthMiddleware α) (k : α → Threaded β)
    (m : AuthMiddleware) : Pool.next (alone p >>= k) m = (k (p.run m).1, (p.run m).2) := rfl

/-- The thread that has just found the token valid goes on to put it on the blacklist. -/
theorem next_of_verified {op : Op} (hop : op.Invalidates token) {m : AuthMiddleware}
    {jwtToken : JWTToken} (hv : verifiedAt jwt secretKey (clock m.readings) token = some jwtToken) :
    Pool.next (op.program jwt clock secretKey) m =
      ((do
        alone (modify (put token jwtToken.expiresAt))
        Threaded.countInvalidation clock
        pure none), m.tick) := by
  have hprogram : op.program jwt clock secretKey = (do
      Threaded.invalidateToken jwt clock secretKey token
      pure none) := by
    rcases hop with rfl | ⟨header, rfl, hm⟩
    · rfl
    · unfold Op.program
      dsimp only
      rw [Option.bind_some, hm]
  rw [hprogram, Threaded.invalidateToken, Prog.bind_assoc, next_alone_bind, run_verifyToken, hv]
  dsimp only
  rw [Prog.bind_assoc]

theorem guarantees_put {jwtToken : JWTToken}
    (hexpiry : jwt.expiry token = some jwtToken.expiresAt) (m : AuthMiddleware) :
    (do
      alone (modify (put token jwtToken.expiresAt))
      Threaded.countInvalidation clock
      pure none : Threaded (Option Bytes)).Guarantees (Keeps (Barred jwt clock token))
        (fun _ m' => Barred jwt clock token m') m := by
  refine guarantees_alone_bind fun m₁ _ => ?_
  have hput : Barred jwt clock token (m₁.put token jwtToken.expiresAt) :=
    ⟨jwtToken.expiresAt, hexpiry, .inl (Function.update_self ..)⟩
  refine ⟨⟨Nat.le_refl _, fun _ => hput⟩, ?_⟩
  have hstable : ∀ m m', Keeps (Barred jwt clock token) m m' → Barred jwt clock token m →
      Barred jwt clock token m' := fun _ _ hkeeps => hkeeps.2
  have hcount := (guarantees_countInvalidation kept_barred (m₁.put token jwtToken.expiresAt)).stable
    hstable hput
  refine Prog.Guarantees.bind Keeps.refl (hcount.weaken fun r m' h => ?_)
  obtain ⟨rfl, hbarred⟩ := h
  exact ⟨(), rfl, fun m'' hkeeps => hkeeps.2 hbarred⟩

/-- A lookup that lets a barred token pass has found it expired. -/
theorem Barred.expired_of_lookup {m : AuthMiddleware} (h : Barred jwt clock token m)
    (hpassed : ((AuthMiddleware.isTokenInvalidated clock token).run m).1 = false) :
    ∃ expiresAt k, jwt.expiry token = some expiresAt ∧
      k < ((AuthMiddleware.isTokenInvalidated clock token).run m).2.readings ∧
      expiresAt < clock k := by
  obtain ⟨e, he, h⟩ := h
  rw [run_isTokenInvalidated] at hpassed ⊢
  cases hb : m.blacklist token with
  | none =>
    rcases h with h | ⟨k, hk, hlt⟩
    · rw [hb] at h
      cases h
    · exact ⟨e, k, he, hk, hlt⟩
  | some e' =>
    rw [hb] at hpassed
    dsimp only at hpassed ⊢
    by_cases hlt : e' < clock m.readings
    · rw [if_pos hlt]
      rcases h with h | ⟨k, hk, hlt'⟩
      · obtain rfl : e' = e := Option.some.inj (hb.symm.trans h)
        exact ⟨e', m.readings, he, Nat.lt_succ_self _, hlt⟩
      · exact ⟨e, k, he, hk.trans (Nat.lt_succ_self _), hlt'⟩
    · rw [if_neg hlt] at hpassed
      cases hpassed

/-- A check that begins when the token is barred. -/
theorem guarantees_rejected (hjwt : jwt.RejectsExpired) (hclock : NeverBack clock)
    {authHeader : Bytes} (hheader : extractBearerToken authHeader = token) {m : AuthMiddleware}
    (hbarred : Barred jwt clock token m) :
    (Threaded.validateRequest jwt clock secretKey authHeader).Guarantees
      (Keeps (Barred jwt clock token)) (fun r _ => r = .ok none) m := by
  cases hm : matchBearer authHeader with
  | none =>
    rw [validateRequest_none hm]
    exact Prog.guarantees_pure fun _ _ => rfl
  | some other =>
    rw [extractBearerToken, hm, Option.getD_some] at hheader
    subst hheader
    rw [validateRequest_some hm]
    refine guarantees_alone_bind fun m₁ hkeeps => ⟨kept_barred.keeps_lookup m₁ other, ?_⟩
    split
    · exact Prog.guarantees_pure fun _ _ => rfl
    · next hpassed =>
      obtain ⟨e, k, he, hk, hlt⟩ :=
        (hkeeps.2 hbarred).expired_of_lookup (by simpa using hpassed)
      refine guarantees_alone_bind fun m₂ hlater => ⟨kept_barred.keeps_tick m₂, ?_⟩
      have hexpired : verifiedAt jwt secretKey (clock m₂.readings) other = none :=
        verifiedAt_expired hjwt he (Int.lt_of_lt_of_le hlt (hclock (hk.le.trans hlater.1)))
      rw [run_verifyToken, hexpired]
      exact Prog.guarantees_pure fun _ _ => rfl

/-- A check takes a lookup and a verification. -/
theorem endsWithin_validateRequest (authHeader : Bytes) :
    (Threaded.validateRequest jwt clock secretKey authHeader).EndsWithin 2 := by
  cases hm : matchBearer authHeader with
  | none =>
    rw [validateRequest_none hm]
    exact Prog.endsWithin_done 2 _
  | some token =>
    rw [validateRequest_some hm]
    refine Prog.endsWithin_atomic_bind _ (fun _ => rfl) fun m => ?_
    split
    · exact Prog.endsWithin_done 1 _
    · exact Prog.endsWithin_atomic_bind _ (fun _ => rfl) fun m' => Prog.endsWithin_done 0 _

omit [DecidableEq ι] in
/-- The threads keep what no operation of theirs touches. -/
theorem guarantees_threads (hI : Kept jwt clock allowed I)
    (hops : ∀ i other, (ops i).Invalidates other → allowed other) (m : AuthMiddleware) :
    (threads jwt clock secretKey ops m).Guarantees (Keeps I) fun _ _ _ => True :=
  fun i => (ops i).guarantees_program hI (hops i) m

/-- A thread that has had no turn is where it was. -/
theorem progs_of_not_mem {m : AuthMiddleware} {schedule : List ι} {i : ι} (h : i ∉ schedule) :
    ((threads jwt clock secretKey ops m).play schedule).progs i =
      (ops i).program jwt clock secretKey := Pool.play_progs_of_not_mem h

/-- Where a thread has found the token valid and has returned from invalidating it, it is barred. -/
theorem barred_of_returned {m : AuthMiddleware} {before between : List ι} {i : ι}
    (hop : (ops i).Invalidates token) (hi : i ∉ before)
    (hvalid : (verifiedAt jwt secretKey
      (clock ((threads jwt clock secretKey ops m).play before).state.readings) token).isSome)
    (hreturned : ((threads jwt clock secretKey ops m).play
      (before ++ i :: between)).outcome i ≠ none) :
    Barred jwt clock token
      ((threads jwt clock secretKey ops m).play (before ++ i :: between)).state := by
  have hbegins : ((threads jwt clock secretKey ops m).play before).progs i =
      (ops i).program jwt clock secretKey := progs_of_not_mem hi
  have hstart : (threads jwt clock secretKey ops m).Guarantees (Keeps (Barred jwt clock token))
      fun _ _ _ => True := guarantees_threads kept_barred (fun _ _ _ => trivial) m
  obtain ⟨hbefore, -⟩ := hstart.play Keeps.refl Keeps.trans before
  obtain ⟨jwtToken, hv⟩ := Option.isSome_iff_exists.mp hvalid
  obtain ⟨r, hr⟩ := Option.ne_none_iff_exists'.mp hreturned
  rw [Pool.play_append] at hr ⊢
  generalize (threads jwt clock secretKey ops m).play before = P at *
  -- the thread verifies the token, and goes on with the blacklist
  obtain ⟨hverified, -⟩ := hbefore.advance Keeps.refl Keeps.trans i
  have hput : ((P.advance i).progs i).Guarantees (Keeps (Barred jwt clock token))
      (fun _ m' => Barred jwt clock token m') (P.advance i).state := by
    rw [Pool.advance_eq, hbegins, next_of_verified hop hv]
    show (Function.update P.progs i _ i).Guarantees _ _ _
    rw [Function.update_self]
    exact guarantees_put (expiry_of_verifiedAt hv) _
  exact hverified.outcome_play Keeps.refl Keeps.trans hput hr

/-- **An invalidation that has returned is final**, however the threads take turns: where the thread
`i` has found the token valid and has returned from invalidating it, a check of the token that has
not begun by then rejects it, and it does so once it has had its two turns. -/
theorem invalidated_rejected_threads (hjwt : jwt.RejectsExpired) (hclock : NeverBack clock)
    (ops : ι → Op) (m : AuthMiddleware) (token : Bytes) (before between later : List ι) (i j : ι)
    (hop : (ops i).Invalidates token) (hi : i ∉ before)
    (hvalid : (verifiedAt jwt secretKey
      (clock ((threads jwt clock secretKey ops m).play before).state.readings) token).isSome)
    (hreturned : ((threads jwt clock secretKey ops m).play
      (before ++ i :: between)).outcome i ≠ none)
    (authHeader : Bytes) (hvalidate : ops j = .validateRequest authHeader)
    (hheader : extractBearerToken authHeader = token) (hj : j ∉ before ++ i :: between) :
    (∀ r ∈ ((threads jwt clock secretKey ops m).play (before ++ i :: between ++ later)).outcome j,
        r = .ok none) ∧
      (2 ≤ later.count j →
        ((threads jwt clock secretKey ops m).play (before ++ i :: between ++ later)).outcome j =
          some (.ok none)) := by
  have hbarred : Barred jwt clock token
      ((threads jwt clock secretKey ops m).play (before ++ i :: between)).state :=
    barred_of_returned hop hi hvalid hreturned
  have hbegins : ((threads jwt clock secretKey ops m).play (before ++ i :: between)).progs j =
      Threaded.validateRequest jwt clock secretKey authHeader := by
    rw [progs_of_not_mem hj, hvalidate, Op.program]
  have hstart : (threads jwt clock secretKey ops m).Guarantees (Keeps (Barred jwt clock token))
      fun _ _ _ => True := guarantees_threads kept_barred (fun _ _ _ => trivial) m
  obtain ⟨hbetween, -⟩ := hstart.play Keeps.refl Keeps.trans (before ++ i :: between)
  rw [Pool.play_append]
  generalize (threads jwt clock secretKey ops m).play (before ++ i :: between) = P at *
  have hcheck : (P.progs j).Guarantees (Keeps (Barred jwt clock token)) (fun r _ => r = .ok none)
      P.state := by
    rw [hbegins]
    exact guarantees_rejected hjwt hclock hheader hbarred
  have hrejected : ∀ r ∈ (P.play later).outcome j, r = .ok none :=
    fun r hr => hbetween.outcome_play Keeps.refl Keeps.trans hcheck hr
  refine ⟨hrejected, fun hturns => ?_⟩
  have hends : (P.progs j).EndsWithin 2 := by
    rw [hbegins]
    exact endsWithin_validateRequest authHeader
  obtain ⟨r, hr⟩ := Option.ne_none_iff_exists'.mp (Pool.outcome_ne_none hends hturns)
  rw [hr, hrejected r hr]

/-- One thread ends the session, another one checks its token. -/
def sampleOps : Bool → Op
  | true => .validateRequest sampleHeader
  | false => .invalidateToken sampleToken

theorem invalidated_rejected_threads_sample :
    ((threads sampleJwt sampleClock sampleSecret sampleOps initial).play
      ([] ++ false :: List.replicate 3 false ++ [true, true])).outcome true = some (.ok none) :=
  (invalidated_rejected_threads (Jwt.single_rejectsExpired _ _ _) sampleClock_neverBack sampleOps
    initial sampleToken [] (List.replicate 3 false) [true, true] false true (.inl rfl) (by decide)
    (by decide +kernel) (by decide +kernel) sampleHeader rfl
    (by rw [extractBearerToken, matchBearer_sampleHeader]; rfl) (by decide)).2 (by decide)

/-! ## Nobody else is kept out -/

/-- A check of a token that is not on the blacklist says what the verification says. -/
theorem guarantees_accepted {authHeader : Bytes} (hm : matchBearer authHeader = some token)
    {m : AuthMiddleware} (hnone : m.blacklist token = none) :
    (Threaded.validateRequest jwt clock secretKey authHeader).Guarantees
      (Keeps fun m => m.blacklist token = none)
      (fun r m' => ∃ k, m.readings ≤ k ∧ k < m'.readings ∧
        r = .ok ((verifiedAt jwt secretKey (clock k) token).map (·.userId))) m := by
  rw [validateRequest_some hm]
  have hkept : Kept jwt clock (· ≠ token) fun m => m.blacklist token = none := kept_absent
  refine guarantees_alone_bind fun m₁ hkeeps => ⟨hkept.keeps_lookup m₁ token, ?_⟩
  rw [run_isTokenInvalidated, hkeeps.2 hnone]
  dsimp only
  rw [if_neg (by simp)]
  refine guarantees_alone_bind fun m₂ hlater => ⟨hkept.keeps_tick m₂, ?_⟩
  rw [run_verifyToken]
  refine Prog.guarantees_pure fun m' hend => ⟨m₂.readings, hkeeps.1.trans hlater.1, ?_, rfl⟩
  exact Nat.lt_of_lt_of_le (Nat.lt_succ_self _) hend.1

/-- **Nobody is kept out by the others**: as long as no thread invalidates the token, a check of it
says what the verification says at some time between its beginning and its end, however the threads
take turns, and says so once it has had its two turns. -/
theorem accepted_threads (ops : ι → Op) (m : AuthMiddleware) (token : Bytes)
    (hnone : m.blacklist token = none) (hno : ∀ i, ¬ (ops i).Invalidates token)
    (before later : List ι) (j : ι) (authHeader : Bytes)
    (hvalidate : ops j = .validateRequest authHeader) (hm : matchBearer authHeader = some token)
    (hj : j ∉ before) :
    (∀ r ∈ ((threads jwt clock secretKey ops m).play (before ++ later)).outcome j, ∃ k,
        ((threads jwt clock secretKey ops m).play before).state.readings ≤ k ∧
        k < ((threads jwt clock secretKey ops m).play (before ++ later)).state.readings ∧
        r = .ok ((verifiedAt jwt secretKey (clock k) token).map (·.userId))) ∧
      (2 ≤ later.count j →
        ((threads jwt clock secretKey ops m).play (before ++ later)).outcome j ≠ none) := by
  have hkept : Kept jwt clock (· ≠ token) fun m => m.blacklist token = none := kept_absent
  have hops : ∀ i other, (ops i).Invalidates other → other ≠ token := by
    rintro i other hother rfl
    exact hno i hother
  have hstart : (threads jwt clock secretKey ops m).Guarantees
      (Keeps fun m => m.blacklist token = none) fun _ _ _ => True :=
    guarantees_threads hkept hops m
  obtain ⟨hbefore, hkeeps⟩ := hstart.play Keeps.refl Keeps.trans before
  have hbegins : ((threads jwt clock secretKey ops m).play before).progs j =
      Threaded.validateRequest jwt clock secretKey authHeader := by
    rw [progs_of_not_mem hj, hvalidate, Op.program]
  have habsent := hkeeps.2 hnone
  rw [Pool.play_append]
  generalize (threads jwt clock secretKey ops m).play before = P at *
  constructor
  · intro r hr
    have hcheck : (P.progs j).Guarantees (Keeps fun m => m.blacklist token = none)
        (fun r m' => ∃ k, P.state.readings ≤ k ∧ k < m'.readings ∧
          r = .ok ((verifiedAt jwt secretKey (clock k) token).map (·.userId))) P.state := by
      rw [hbegins]
      exact guarantees_accepted hm habsent
    exact hbefore.outcome_play Keeps.refl Keeps.trans hcheck hr
  · intro hturns
    refine Pool.outcome_ne_none (n := 2) ?_ hturns
    rw [hbegins]
    exact endsWithin_validateRequest authHeader

/-- The token is checked while another thread cleans the blacklist. -/
def sampleCleaning : Bool → Op
  | true => .validateRequest sampleHeader
  | false => .cleanBlacklist

theorem accepted_threads_sample :
    ∃ r ∈ ((threads sampleJwt sampleClock sampleSecret sampleCleaning initial).play
        ([false] ++ [true, false, true])).outcome true, ∃ k, 1 ≤ k ∧
      r = .ok ((verifiedAt sampleJwt sampleSecret (sampleClock k) sampleToken).map (·.userId)) := by
  have hno : ∀ b, ¬ (sampleCleaning b).Invalidates sampleToken := by
    rintro (_ | _) (h | ⟨_, h, -⟩) <;> cases h
  obtain ⟨haccepted, hends⟩ := accepted_threads sampleCleaning initial sampleToken rfl hno [false]
    [true, false, true] true sampleHeader rfl matchBearer_sampleHeader (by decide)
  obtain ⟨r, hr⟩ := Option.ne_none_iff_exists'.mp (hends (by decide))
  obtain ⟨k, hk, -, hverified⟩ := haccepted r hr
  exact ⟨r, hr, k, hk, hverified⟩

end

end AuthMiddleware

end Farado
