import Farado.Api.Reference
import Farado.Lib.Steps.Runs
import Farado.Services.Auth

/-!
# A token that was invalidated stays rejected

The blacklist forgets a token once it has expired. From then on it is the verification that rejects
it, provided that the clock does not go back: the time at which the entry was found to be expired is
one that the clock has already shown.
-/

namespace Farado

open Steps

namespace AuthMiddleware

/-- The operations on the middleware, a logout request included. -/
inductive Op where
  | generateToken (userId : Bytes) (expiresInSeconds : Int)
  | invalidateToken (token : Bytes)
  | isTokenInvalidated (token : Bytes)
  | cleanBlacklist
  | validateRequest (authHeader : Bytes)
  | handleLogout (authHeader : Option Bytes)
  deriving DecidableEq, Repr

variable (jwt : Jwt) (clock : Nat → Int) (secretKey : Bytes)

/-- The middleware after an operation. -/
def Op.exec (m : AuthMiddleware) : Op → AuthMiddleware
  | .generateToken userId expiresInSeconds =>
      ((AuthMiddleware.generateToken jwt clock secretKey userId expiresInSeconds).run m).2
  | .invalidateToken token => ((AuthMiddleware.invalidateToken jwt clock secretKey token).run m).2
  | .isTokenInvalidated token => ((AuthMiddleware.isTokenInvalidated clock token).run m).2
  | .cleanBlacklist => ((AuthMiddleware.cleanBlacklist clock).run m).2
  | .validateRequest authHeader =>
      ((AuthMiddleware.validateRequest jwt clock secretKey authHeader).run m).2
  | .handleLogout authHeader => ((AuthHandler.handleLogout jwt clock secretKey authHeader).run m).2

/-- A run from the construction of the middleware. -/
def Op.run (ops : List Op) : AuthMiddleware := ops.foldl (Op.exec jwt clock secretKey) initial

/-- The operation is meant to end the token: it is given the token itself, or a header with it. -/
def Op.Invalidates (op : Op) (token : Bytes) : Prop :=
  op = .invalidateToken token ∨
    ∃ authHeader, op = .handleLogout (some authHeader) ∧ matchBearer authHeader = some token

/-- The invariant of an invalidated token: it is on the blacklist with its own expiry, or the clock
has shown a later time. -/
def Barred (token : Bytes) (m : AuthMiddleware) : Prop :=
  ∃ expiresAt, jwt.expiry token = some expiresAt ∧
    (m.blacklist token = some expiresAt ∨ ∃ k < m.readings, expiresAt < clock k)

section
variable {jwt : Jwt} {clock : Nat → Int} {secretKey : Bytes} {token : Bytes} {m : AuthMiddleware}

theorem Barred.tick (h : Barred jwt clock token m) : Barred jwt clock token m.tick := by
  obtain ⟨e, he, h | ⟨k, hk, hlt⟩⟩ := h
  · exact ⟨e, he, .inl h⟩
  · exact ⟨e, he, .inr ⟨k, by simp only [tick_readings]; omega, hlt⟩⟩

theorem Barred.countInvalidation (h : Barred jwt clock token m) :
    Barred jwt clock token m.countInvalidation := h

/-- Whatever is put on the blacklist goes there with its own expiry. -/
theorem Barred.put (h : Barred jwt clock token m) {other : Bytes} {e' : Int}
    (hother : jwt.expiry other = some e') : Barred jwt clock token (m.put other e') := by
  obtain ⟨e, he, h⟩ := h
  refine ⟨e, he, h.imp_left fun h => ?_⟩
  rw [put_blacklist]
  by_cases ht : token = other
  · subst ht
    rw [Function.update_self, ← hother, he]
  · rw [Function.update_of_ne ht, h]

/-- What is erased as expired is older than a reading. -/
theorem Barred.erase (h : Barred jwt clock token m) {other : Bytes} {e' : Int} {k : Nat}
    (hother : m.blacklist other = some e') (hk : k < m.readings) (hlt : e' < clock k) :
    Barred jwt clock token (m.erase other) := by
  obtain ⟨e, he, h | h⟩ := h
  · refine ⟨e, he, ?_⟩
    by_cases ht : token = other
    · subst ht
      obtain rfl : e' = e := Option.some.inj (hother.symm.trans h)
      exact .inr ⟨k, hk, hlt⟩
    · left
      rw [erase_blacklist, Function.update_of_ne ht, h]
  · exact ⟨e, he, .inr h⟩

theorem Barred.eraseExpired (h : Barred jwt clock token m) {k : Nat} (hk : k < m.readings) :
    Barred jwt clock token (m.eraseExpired (clock k)) := by
  obtain ⟨e, he, h | h⟩ := h
  · refine ⟨e, he, ?_⟩
    by_cases hlt : e < clock k
    · exact .inr ⟨k, hk, hlt⟩
    · left
      simp [h, hlt]
  · exact ⟨e, he, .inr h⟩

theorem Barred.isTokenInvalidated (h : Barred jwt clock token m) (other : Bytes) :
    Barred jwt clock token ((AuthMiddleware.isTokenInvalidated clock other).run m).2 := by
  rw [run_isTokenInvalidated]
  cases hb : m.blacklist other with
  | none => exact h
  | some e =>
    dsimp only
    split
    · next hlt => exact h.tick.erase hb (Nat.lt_succ_self _) hlt
    · exact h.tick

/-- The end of an invalidation, with or without the cleaning. -/
theorem Barred.cleaned (h : Barred jwt clock token m) :
    Barred jwt clock token
      (if m.invalidateCount % 10 = 0 then ((), m.tick.eraseExpired (clock m.readings))
        else ((), m)).2 := by
  split
  · exact h.tick.eraseExpired (Nat.lt_succ_self _)
  · exact h

theorem Barred.invalidateToken (h : Barred jwt clock token m) (other : Bytes) :
    Barred jwt clock token ((AuthMiddleware.invalidateToken jwt clock secretKey other).run m).2 := by
  rw [run_invalidateToken]
  cases hv : verifiedAt jwt secretKey (clock m.readings) other with
  | none => exact h.tick
  | some jwtToken => exact (h.tick.put (expiry_of_verifiedAt hv)).countInvalidation.cleaned

theorem Barred.validateRequest (h : Barred jwt clock token m) (authHeader : Bytes) :
    Barred jwt clock token
      ((AuthMiddleware.validateRequest jwt clock secretKey authHeader).run m).2 := by
  cases hm : matchBearer authHeader with
  | none => rwa [run_validateRequest_none jwt clock secretKey m hm]
  | some other =>
    rw [run_validateRequest jwt clock secretKey m hm]
    have := h.isTokenInvalidated other
    rcases hi : (AuthMiddleware.isTokenInvalidated clock other).run m with ⟨_ | _, m'⟩
    · rw [hi] at this
      exact this.tick
    · rw [hi] at this
      exact this

/-- **The step lemma**: no operation brings the token back. -/
theorem Barred.exec (h : Barred jwt clock token m) (op : Op) :
    Barred jwt clock token (op.exec jwt clock secretKey m) := by
  cases op with
  | generateToken userId expiresInSeconds => exact h.tick
  | invalidateToken other => exact h.invalidateToken other
  | isTokenInvalidated other => exact h.isTokenInvalidated other
  | cleanBlacklist => exact h.tick.eraseExpired (Nat.lt_succ_self _)
  | validateRequest authHeader => exact h.validateRequest authHeader
  | handleLogout authHeader =>
    show Barred jwt clock token ((AuthHandler.handleLogout jwt clock secretKey authHeader).run m).2
    rw [AuthHandler.run_handleLogout]
    split
    · exact h.invalidateToken _
    · exact h

/-- What the invalidation of another token, or of one that does not verify, leaves alone. -/
theorem blacklist_invalidateToken (h : m.blacklist token = none) {other : Bytes}
    (hother : other = token → verifiedAt jwt secretKey (clock m.readings) token = none) :
    ((AuthMiddleware.invalidateToken jwt clock secretKey other).run m).2.blacklist token = none := by
  rw [run_invalidateToken]
  cases hv : verifiedAt jwt secretKey (clock m.readings) other with
  | none => exact h
  | some jwtToken =>
    have hne : token ≠ other := by
      rintro rfl
      rw [hother rfl] at hv
      cases hv
    dsimp only
    split <;> simp [Function.update_of_ne hne, h]

/-- A lookup only removes. -/
theorem blacklist_isTokenInvalidated (h : m.blacklist token = none) (other : Bytes) :
    ((AuthMiddleware.isTokenInvalidated clock other).run m).2.blacklist token = none := by
  rw [run_isTokenInvalidated]
  cases m.blacklist other with
  | none => exact h
  | some expiresAt =>
    dsimp only
    split
    · rw [erase_blacklist, Function.update_apply]
      split
      · rfl
      · exact h
    · exact h

theorem blacklist_validateRequest (h : m.blacklist token = none) (authHeader : Bytes) :
    ((AuthMiddleware.validateRequest jwt clock secretKey authHeader).run m).2.blacklist token =
      none := by
  cases hm : matchBearer authHeader with
  | none => rwa [run_validateRequest_none jwt clock secretKey m hm]
  | some other =>
    have hlooked : ((AuthMiddleware.isTokenInvalidated clock other).run m).2.blacklist token = none :=
      blacklist_isTokenInvalidated h other
    rw [run_validateRequest jwt clock secretKey m hm]
    rcases hi : (AuthMiddleware.isTokenInvalidated clock other).run m with ⟨_ | _, m'⟩
    · rw [hi] at hlooked
      exact hlooked
    · rw [hi] at hlooked
      exact hlooked

/-- **What keeps a token off the blacklist**: no operation puts a token there but the invalidation
of a token that verifies. -/
theorem exec_blacklist_none (h : m.blacklist token = none) (op : Op)
    (hop : op.Invalidates token → verifiedAt jwt secretKey (clock m.readings) token = none) :
    (op.exec jwt clock secretKey m).blacklist token = none := by
  cases op with
  | generateToken userId expiresInSeconds => exact h
  | invalidateToken other =>
    refine blacklist_invalidateToken h fun heq => hop (.inl ?_)
    rw [heq]
  | isTokenInvalidated other => exact blacklist_isTokenInvalidated h other
  | cleanBlacklist =>
    show (eraseExpired (clock m.readings) m.tick).blacklist token = none
    simp [h]
  | validateRequest authHeader => exact blacklist_validateRequest h authHeader
  | handleLogout authHeader =>
    show ((AuthHandler.handleLogout jwt clock secretKey authHeader).run m).2.blacklist token = none
    rw [AuthHandler.run_handleLogout]
    cases authHeader with
    | none => exact h
    | some header =>
      rw [Option.bind_some]
      cases hm : matchBearer header with
      | none => exact h
      | some other =>
        refine blacklist_invalidateToken h fun heq => hop (.inr ⟨header, rfl, ?_⟩)
        rw [hm, heq]

/-- A verified token that is invalidated is barred from then on. -/
theorem barred_of_invalidateToken {jwtToken : JWTToken}
    (hv : verifiedAt jwt secretKey (clock m.readings) token = some jwtToken) :
    Barred jwt clock token
      ((AuthMiddleware.invalidateToken jwt clock secretKey token).run m).2 := by
  rw [run_invalidateToken, hv]
  have hput : Barred jwt clock token (m.tick.put token jwtToken.expiresAt) :=
    ⟨jwtToken.expiresAt, expiry_of_verifiedAt hv, .inl (by simp)⟩
  exact hput.countInvalidation.cleaned

/-- A barred token is rejected. -/
theorem Barred.rejected (h : Barred jwt clock token m) (hjwt : jwt.RejectsExpired)
    (hclock : NeverBack clock) {authHeader : Bytes} (hm : matchBearer authHeader = some token) :
    ((AuthMiddleware.validateRequest jwt clock secretKey authHeader).run m).1 = none := by
  obtain ⟨e, he, h⟩ := h
  rw [run_validateRequest jwt clock secretKey m hm, run_isTokenInvalidated]
  -- once a reading has passed the expiry, `verify` rejects the token
  have hlater : ∀ {m' : AuthMiddleware} {k : Nat}, k ≤ m'.readings → e < clock k →
      (verifiedAt jwt secretKey (clock m'.readings) token).map (·.userId) = none := by
    intro m' k hk hlt
    rw [verifiedAt_expired hjwt he (Int.lt_of_lt_of_le hlt (hclock hk))]
    rfl
  cases hb : m.blacklist token with
  | none =>
    rcases h with h | ⟨k, hk, hlt⟩
    · rw [hb] at h
      cases h
    · exact hlater hk.le hlt
  | some e' =>
    dsimp only
    by_cases hlt : e' < clock m.readings
    · -- the entry is erased here
      rw [if_pos hlt]
      rcases h with h | ⟨k, hk, hlt'⟩
      · obtain rfl : e' = e := Option.some.inj (hb.symm.trans h)
        exact hlater (Nat.le_succ _) hlt
      · exact hlater (hk.le.trans (Nat.le_succ _)) hlt'
    · rw [if_neg hlt]

/-- Until it expires, it is the blacklist that rejects it. -/
theorem Barred.rejected_of_live (h : Barred jwt clock token m) (hclock : NeverBack clock)
    (hlive : ∀ expiresAt ∈ jwt.expiry token, clock m.readings ≤ expiresAt) {authHeader : Bytes}
    (hm : matchBearer authHeader = some token) :
    ((AuthMiddleware.validateRequest jwt clock secretKey authHeader).run m).1 = none := by
  obtain ⟨e, he, h⟩ := h
  have hnow := hlive e he
  have hb : m.blacklist token = some e := by
    rcases h with h | ⟨k, hk, hlt⟩
    · exact h
    · have hlater : clock k ≤ clock m.readings := hclock hk.le
      omega
  rw [run_validateRequest jwt clock secretKey m hm, run_isTokenInvalidated, hb]
  dsimp only
  rw [if_neg (by omega)]

/-- A token that is not on the blacklist is only verified. -/
theorem accepted_of_blacklist_none (h : m.blacklist token = none) {authHeader : Bytes}
    (hm : matchBearer authHeader = some token) :
    ((AuthMiddleware.validateRequest jwt clock secretKey authHeader).run m).1 =
      (verifiedAt jwt secretKey (clock m.readings) token).map (·.userId) := by
  rw [run_validateRequest jwt clock secretKey m hm, run_isTokenInvalidated, h]

/-- Whatever comes after the invalidation. -/
theorem barred_run {before later : List Op} {op : Op} (hop : op.Invalidates token)
    (hvalid : ((verifyToken jwt clock secretKey token).run
      (Op.run jwt clock secretKey before)).1.isSome) :
    Barred jwt clock token (Op.run jwt clock secretKey (before ++ op :: later)) := by
  obtain ⟨jwtToken, hv⟩ := Option.isSome_iff_exists.mp hvalid
  rw [run_verifyToken] at hv
  -- both ways to invalidate put the token on the blacklist
  have hbarred : Barred jwt clock token
      (op.exec jwt clock secretKey (Op.run jwt clock secretKey before)) := by
    rcases hop with rfl | ⟨header, rfl, hm⟩
    · exact barred_of_invalidateToken hv
    · show Barred jwt clock token
        ((AuthHandler.handleLogout jwt clock secretKey (some header)).run _).2
      rw [AuthHandler.run_handleLogout, Option.bind_some, hm]
      exact barred_of_invalidateToken hv
  have hstep : ∀ m op, Barred jwt clock token m →
      Barred jwt clock token (Op.exec jwt clock secretKey m op) := fun _ op h => h.exec op
  unfold Op.run
  rw [List.foldl_append]
  exact run_invariant hstep hbarred later

end

/-- **An invalidated token stays rejected**, in every run from the construction of the
middleware. -/
theorem invalidated_rejected (hjwt : jwt.RejectsExpired) (hclock : NeverBack clock)
    (before : List Op) (op : Op) (token : Bytes) (hop : op.Invalidates token)
    (hvalid : ((verifyToken jwt clock secretKey token).run
      (Op.run jwt clock secretKey before)).1.isSome)
    (later : List Op) (authHeader : Bytes) (hheader : extractBearerToken authHeader = token) :
    ((AuthMiddleware.validateRequest jwt clock secretKey authHeader).run
      (Op.run jwt clock secretKey (before ++ op :: later))).1 = none := by
  have hrun : Barred jwt clock token (Op.run jwt clock secretKey (before ++ op :: later)) :=
    barred_run hop hvalid
  cases hm : matchBearer authHeader with
  | none => rw [run_validateRequest_none jwt clock secretKey _ hm]
  | some token' =>
    obtain rfl : token' = token := by rw [← hheader, extractBearerToken, hm, Option.getD_some]
    exact hrun.rejected hjwt hclock hm

/-- A logout, then a cleaning that finds the token expired, then the token again. -/
theorem invalidated_rejected_sample :
    ((AuthMiddleware.validateRequest sampleJwt sampleClock sampleSecret sampleHeader).run
      (Op.run sampleJwt sampleClock sampleSecret
        ([.generateToken (bytes "1") 3600, .validateRequest sampleHeader] ++
          .handleLogout (some (bytes "Bearer  " ++ sampleToken)) ::
            List.replicate 60 .cleanBlacklist))).1 = none :=
  invalidated_rejected sampleJwt sampleClock sampleSecret (Jwt.single_rejectsExpired _ _ _)
    sampleClock_neverBack _ _ sampleToken (.inr ⟨_, rfl, by decide +kernel⟩) (by decide +kernel) _
    sampleHeader (by rw [extractBearerToken, matchBearer_sampleHeader]; rfl)

end AuthMiddleware

end Farado
