import Farado.Api.Reference
import Farado.Sessions.Logout

/-!
# Spellings of a token

A token is verified by what its signature decodes to, and blacklisted by how it is spelled. The last
character of an HS256 signature has two bits that the decoder ignores, so each token has four
spellings; the logout of one of them leaves the others as they were.
-/

namespace Farado

open Steps

/-- The alphabet of base64url. -/
def base64urlValue (b : UInt8) : Option Nat :=
  if 0x41 ≤ b && b ≤ 0x5a then some (b.toNat - 0x41)
  else if 0x61 ≤ b && b ≤ 0x7a then some (b.toNat - 0x61 + 26)
  else if 0x30 ≤ b && b ≤ 0x39 then some (b.toNat - 0x30 + 52)
  else if b == 0x2d then some 62
  else if b == 0x5f then some 63
  else none

/-- base64url without padding. Of the last character, the bits that do not make up a byte are
ignored. -/
def base64urlDecode : Bytes → Option Bytes
  | [] => some []
  | [_] => none
  | [a, b] => do
      let x ← base64urlValue a
      let y ← base64urlValue b
      return [UInt8.ofNat (4 * x + y / 16)]
  | [a, b, c] => do
      let x ← base64urlValue a
      let y ← base64urlValue b
      let z ← base64urlValue c
      return [UInt8.ofNat (4 * x + y / 16), UInt8.ofNat (16 * (y % 16) + z / 4)]
  | a :: b :: c :: d :: rest => do
      let x ← base64urlValue a
      let y ← base64urlValue b
      let z ← base64urlValue c
      let w ← base64urlValue d
      let decoded ← base64urlDecode rest
      return UInt8.ofNat (4 * x + y / 16) :: UInt8.ofNat (16 * (y % 16) + z / 4) ::
        UInt8.ofNat (64 * (z % 4) + w) :: decoded

/-- The text before the first dot, and the text after it. -/
def splitAtDot (s : Bytes) : Option (Bytes × Bytes) :=
  match s.dropWhile (· != 0x2e) with
  | [] => none
  | _ :: rest => some (s.takeWhile (· != 0x2e), rest)

/-- What a token denotes: its header and payload as they are spelled, and its signature decoded. -/
def tokenForm (token : Bytes) : Option (Bytes × Bytes × Bytes) := do
  let (header, rest) ← splitAtDot token
  let (payload, signature) ← splitAtDot rest
  let signature ← base64urlDecode signature
  return (header, payload, signature)

/-- Two strings denote the same token. -/
def SameToken (token token' : Bytes) : Prop :=
  ∃ form, tokenForm token = some form ∧ tokenForm token' = some form

/-- jwt-cpp compares the HMAC of the first two segments with the decoded third one, so that tokens
that denote the same are read and verified alike. -/
def Jwt.ReadsForm (jwt : Jwt) : Prop :=
  ∀ token token' decoded, SameToken token token' → jwt.decode token = some decoded →
    ∃ decoded', jwt.decode token' = some decoded' ∧ jwt.userId decoded' = jwt.userId decoded ∧
      jwt.expiresAt decoded' = jwt.expiresAt decoded ∧
      ∀ secret issuer now, jwt.verify secret issuer now decoded' =
        jwt.verify secret issuer now decoded

/-- A token that verifies does so until it expires. -/
def Jwt.LastsUntilExpiry (jwt : Jwt) : Prop :=
  ∀ secret issuer now now' decoded expiresAt, jwt.expiresAt decoded = some expiresAt →
    jwt.verify secret issuer now decoded = true → now ≤ now' → now' ≤ expiresAt →
      jwt.verify secret issuer now' decoded = true

namespace AuthMiddleware

variable {jwt : Jwt} {clock : Nat → Int} {secretKey : Bytes} {token token' : Bytes}

/-- What it takes to verify. -/
theorem verifiedAt_isSome_iff {now : Int} :
    (verifiedAt jwt secretKey now token).isSome = true ↔
      ∃ decoded userId expiresAt, jwt.decode token = some decoded ∧
        jwt.verify secretKey issuer now decoded = true ∧ jwt.userId decoded = some userId ∧
        jwt.expiresAt decoded = some expiresAt := by
  unfold verifiedAt
  cases hd : jwt.decode token with
  | none => simp
  | some decoded =>
    simp only [Option.bind_eq_bind, Option.bind_some, Option.some.injEq, exists_and_left]
    split
    · next hverify =>
      cases hu : jwt.userId decoded <;> cases he : jwt.expiresAt decoded <;> simp [hverify, hu, he]
    · next hverify => simp [hverify]

/-- **Verification does not see the spelling.** -/
theorem verifiedAt_sameToken (hreads : jwt.ReadsForm) (hlasts : jwt.LastsUntilExpiry)
    (hsame : SameToken token token') {now now' : Int}
    (hvalid : (verifiedAt jwt secretKey now token).isSome = true) (hle : now ≤ now')
    (hlive : ∀ expiresAt ∈ jwt.expiry token', now' ≤ expiresAt) :
    (verifiedAt jwt secretKey now' token').isSome = true := by
  obtain ⟨decoded, userId, expiresAt, hdecoded, hverify, huser, hexpires⟩ :=
    verifiedAt_isSome_iff.mp hvalid
  obtain ⟨decoded', hdecoded', huser', hexpires', hverify'⟩ := hreads _ _ _ hsame hdecoded
  rw [huser] at huser'
  rw [hexpires] at hexpires'
  have hexpiry : jwt.expiry token' = some expiresAt := by
    unfold Jwt.expiry
    rw [hdecoded']
    exact hexpires'
  refine verifiedAt_isSome_iff.mpr ⟨decoded', userId, expiresAt, hdecoded', ?_, huser', hexpires'⟩
  rw [hverify']
  exact hlasts _ _ _ _ _ _ hexpires hverify hle (hlive expiresAt hexpiry)

theorem le_readings_exec (m : AuthMiddleware) (op : Op) :
    m.readings ≤ (op.exec jwt clock secretKey m).readings := by
  cases op with
  | generateToken userId expiresInSeconds => exact Nat.le_succ _
  | invalidateToken other => exact le_readings_invalidateToken _ _ _ _ _
  | isTokenInvalidated other => exact le_readings_isTokenInvalidated _ _ _
  | cleanBlacklist => exact Nat.le_succ _
  | validateRequest authHeader => exact le_readings_validateRequest _ _ _ _ _
  | handleLogout authHeader =>
    show m.readings ≤ ((AuthHandler.handleLogout jwt clock secretKey authHeader).run m).2.readings
    rw [AuthHandler.run_handleLogout]
    split
    · exact le_readings_invalidateToken _ _ _ _ _
    · exact Nat.le_refl _

/-- In the run, this very string is invalidated at a moment at which it verifies. -/
def Invalidated (jwt : Jwt) (clock : Nat → Int) (secretKey : Bytes) (ops : List Op)
    (token : Bytes) : Prop :=
  ∃ before op later, ops = before ++ op :: later ∧ op.Invalidates token ∧
    ((verifyToken jwt clock secretKey token).run (Op.run jwt clock secretKey before)).1.isSome

/-- By the end of the run the token has expired. -/
def Expired (jwt : Jwt) (clock : Nat → Int) (secretKey : Bytes) (ops : List Op)
    (token : Bytes) : Prop :=
  ∃ expiresAt ∈ jwt.expiry token, expiresAt < clock (Op.run jwt clock secretKey ops).readings

/-- What is not invalidated does not get on the blacklist. -/
theorem blacklist_none_of_not_invalidated {ops : List Op}
    (h : ¬ Invalidated jwt clock secretKey ops token) :
    (Op.run jwt clock secretKey ops).blacklist token = none := by
  have hquiet : Along (Op.exec jwt clock secretKey)
      (fun m op => op.Invalidates token →
        verifiedAt jwt secretKey (clock m.readings) token = none) initial ops := by
    refine along_of_split fun before op later hsplit hop => ?_
    by_contra hverified
    exact h ⟨before, op, later, hsplit, hop, Option.isSome_iff_ne_none.mpr hverified⟩
  exact hquiet.invariant (I := fun m : AuthMiddleware => m.blacklist token = none)
    (fun m op hm hop => exec_blacklist_none hm op hop) rfl

/-- **When a respelled token is rejected.** Once a token has been invalidated under one spelling,
another spelling of it is rejected exactly when it has been invalidated itself or has expired. -/
theorem respelled_rejected_iff (hrejects : jwt.RejectsExpired) (hreads : jwt.ReadsForm)
    (hlasts : jwt.LastsUntilExpiry) (hclock : NeverBack clock) (ops : List Op) (token : Bytes)
    (hinvalidated : Invalidated jwt clock secretKey ops token) (token' : Bytes)
    (hsame : SameToken token token') (authHeader : Bytes)
    (hheader : matchBearer authHeader = some token') :
    ((validateRequest jwt clock secretKey authHeader).run (Op.run jwt clock secretKey ops)).1 =
        none ↔
      Invalidated jwt clock secretKey ops token' ∨ Expired jwt clock secretKey ops token' := by
  constructor
  · intro hrejected
    by_contra hneither
    obtain ⟨hnot, hlive⟩ := not_or.mp hneither
    rw [accepted_of_blacklist_none (blacklist_none_of_not_invalidated hnot) hheader] at hrejected
    -- the first spelling verified before, so the second one does now
    obtain ⟨before, op, later, hsplit, -, hvalid⟩ := hinvalidated
    rw [run_verifyToken] at hvalid
    have hreadings : (Op.run jwt clock secretKey before).readings ≤
        (Op.run jwt clock secretKey ops).readings := by
      rw [hsplit]
      unfold Op.run
      rw [List.foldl_append]
      exact run_invariant (I := fun m : AuthMiddleware =>
        (before.foldl (Op.exec jwt clock secretKey) initial).readings ≤ m.readings)
        (fun m op h => h.trans (le_readings_exec m op)) (Nat.le_refl _) _
    have hlive' : ∀ expiresAt ∈ jwt.expiry token',
        clock (Op.run jwt clock secretKey ops).readings ≤ expiresAt := by
      intro expiresAt he
      by_contra hlt
      exact hlive ⟨expiresAt, he, by omega⟩
    have hverified := verifiedAt_sameToken hreads hlasts hsame hvalid (hclock hreadings) hlive'
    rw [Option.map_eq_none_iff] at hrejected
    rw [hrejected] at hverified
    cases hverified
  · rintro (⟨before, op, later, rfl, hop, hvalid⟩ | ⟨expiresAt, he, hlt⟩)
    · exact (barred_run hop hvalid).rejected hrejects hclock hheader
    · refine rejected_of_expired _ hrejects hclock fun expiresAt' he' => ?_
      rw [extractBearerToken, hheader, Option.getD_some] at he'
      rw [Option.mem_def.mp he] at he'
      obtain rfl := Option.some.inj he'
      exact hlt

/-! A library that reads tokens by what they denote. -/

/-- The made-up spelling denotes nothing. -/
theorem unspell_eq_none {form : Bytes × Bytes × Bytes} (h : tokenForm token = some form) :
    SignedTokens.unspell token = none := by
  unfold SignedTokens.unspell
  rw [if_neg]
  intro hzero
  have hdrop : token.dropWhile (· != 0x2e) = [] := by
    rw [List.dropWhile_eq_nil_iff]
    intro b hb
    have hb0 : b = 0 := by simpa using List.all_eq_true.mp hzero b hb
    rw [hb0]
    rfl
  unfold tokenForm splitAtDot at h
  rw [hdrop] at h
  cases h

theorem known_readsForm (known : SignedTokens) : (Jwt.known tokenForm known).ReadsForm := by
  rintro token token' decoded ⟨form, h, h'⟩ hdecoded
  refine ⟨decoded, ?_, rfl, rfl, fun _ _ _ => rfl⟩
  have hdecode : ∀ t, tokenForm t = some form → (Jwt.known tokenForm known).decode t =
      (known.find? fun k => tokenForm k.2 = some form).map (·.1) := by
    intro t ht
    show SignedTokens.decode tokenForm known t = _
    unfold SignedTokens.decode
    rw [ht]
    cases known.find? fun k => tokenForm k.2 = some form with
    | none => exact unspell_eq_none ht
    | some k => rfl
  rw [hdecode token' h', ← hdecode token h]
  exact hdecoded

theorem known_lastsUntilExpiry (known : SignedTokens) :
    (Jwt.known tokenForm known).LastsUntilExpiry := by
  intro secret issuer now now' decoded expiresAt he hverify hle hlive
  obtain rfl : decoded.2.expiresAt = expiresAt := Option.some.inj he
  simp only [Jwt.known, Bool.and_eq_true, decide_eq_true_eq] at hverify ⊢
  exact ⟨⟨hverify.1.1, hverify.1.2.trans hle⟩, hlive⟩

/-- The sample token with another last character. -/
def respelledToken : Bytes := sampleToken.dropLast ++ bytes "l"

def respelledHeader : Bytes := bytes "Bearer " ++ respelledToken

theorem matchBearer_respelledHeader : matchBearer respelledHeader = some respelledToken := by
  decide +kernel

theorem sameToken_respelled : SameToken sampleToken respelledToken :=
  ⟨(tokenForm sampleToken).get (by decide +kernel), by simp, by decide +kernel⟩

/-- A login and logouts with these headers. -/
def logouts (headers : List Bytes) : List Op :=
  .generateToken (bytes "1") 3600 :: headers.map fun header => .handleLogout (some header)

theorem invalidated_sample (headers : List Bytes) :
    Invalidated (Jwt.known tokenForm sampleTokens) sampleClock sampleSecret
      (logouts (sampleHeader :: headers)) sampleToken :=
  ⟨logouts [], _, _, rfl, .inr ⟨_, rfl, matchBearer_sampleHeader⟩, by decide +kernel⟩

/-- Both spellings are logged out. -/
theorem respelled_rejected_iff_sample :
    ((validateRequest (Jwt.known tokenForm sampleTokens) sampleClock sampleSecret
      respelledHeader).run (Op.run (Jwt.known tokenForm sampleTokens) sampleClock sampleSecret
        (logouts [sampleHeader, respelledHeader]))).1 = none :=
  (respelled_rejected_iff Jwt.known_rejectsExpired (known_readsForm _) (known_lastsUntilExpiry _)
    sampleClock_neverBack _ sampleToken (invalidated_sample [respelledHeader]) respelledToken
    sameToken_respelled respelledHeader matchBearer_respelledHeader).mpr
    (.inl ⟨logouts [sampleHeader], _, _, rfl, .inr ⟨_, rfl, matchBearer_respelledHeader⟩,
      by decide +kernel⟩)

/-- The other spelling of a token that was logged out is accepted. -/
theorem respelled_accepted :
    SameToken sampleToken respelledToken ∧
      Invalidated (Jwt.known tokenForm sampleTokens) sampleClock sampleSecret
        (logouts [sampleHeader]) sampleToken ∧
      ((validateRequest (Jwt.known tokenForm sampleTokens) sampleClock sampleSecret
        respelledHeader).run (Op.run (Jwt.known tokenForm sampleTokens) sampleClock sampleSecret
          (logouts [sampleHeader]))).1 = some (bytes "1") :=
  ⟨sameToken_respelled, invalidated_sample [], by decide +kernel⟩

end AuthMiddleware

end Farado
