import Farado.Common.Crypto
import Farado.Migrations.DefaultData
import Farado.Services.Auth

/-!
# The administrator's password

The migration has its own code to write a digest down, and the server compares its hash with the
server's. The two encoders agree on every digest, so the administrator can log in.
-/

namespace Farado

open Steps TextStream

namespace Crypto

theorem toHexChar_true (byte : UInt8) :
    toHexChar byte true = OStream.hexDigit (byte.toNat / 16) := by
  show hex.getD (half byte true) 0 = _
  have hdigits : ∀ n < 16, hex.getD n 0 = OStream.hexDigit n := by decide
  rw [hdigits _ (half_lt byte true), half_true]

theorem toHexChar_false (byte : UInt8) :
    toHexChar byte false = OStream.hexDigit (byte.toNat % 16) := by
  show hex.getD (half byte false) 0 = _
  have hdigits : ∀ n < 16, hex.getD n 0 = OStream.hexDigit n := by decide
  rw [hdigits _ (half_lt byte false), half_false]

theorem length_toHex (data : Bytes) : (toHex data).length = 2 * data.length := by
  induction data with
  | nil => rfl
  | cons byte data ih =>
    simp only [toHex, List.flatMap_cons, List.length_append] at ih ⊢
    simp [ih]
    omega

end Crypto

namespace V2_DefaultData

/-- Whatever the stream has so far, the bytes come after it two digits each. -/
theorem text_foldl_hexStream (hash : Bytes) (ss : OStream) :
    (hash.foldl (fun ss byte => ((ss.hex.setw 2).setfill 0x30).put byte.toNat) ss).text =
      ss.text ++ Crypto.toHex hash := by
  induction hash generalizing ss with
  | nil => simp [Crypto.toHex]
  | cons byte hash ih =>
    rw [List.foldl_cons, ih, OStream.text_put_hex ss byte.toNat_lt]
    simp [Crypto.toHex, Crypto.toHexChar_true, Crypto.toHexChar_false]

theorem text_hexStream (hash : Bytes) : (hexStream hash).text = Crypto.toHex hash :=
  text_foldl_hexStream hash {}

variable (digest : Bytes → Bytes)

theorem hashPassword_eq (password : Bytes) :
    hashPassword digest password = Crypto.sha256 digest password := text_hexStream _

/-- A hash is stored as it is. -/
theorem bindString_sha256 (password : Bytes) :
    bindString (Crypto.sha256 digest password) = Crypto.sha256 digest password :=
  cString_eq_self_iff.mpr (Crypto.zero_not_mem_sha256 password)

theorem checkPassword_hashPassword (password : Bytes) :
    AuthService.checkPassword (Crypto.sha256 digest) password
      (bindString (hashPassword digest password)) = true := by
  rw [hashPassword_eq, bindString_sha256]
  simp [AuthService.checkPassword]

/-- What the two encoders have in common, and what follows for the stored hashes. -/
structure EncodersAgree : Prop where
  same : ∀ data, (hexStream data).text = Crypto.toHex data
  length : ∀ data, (Crypto.toHex data).length = 2 * data.length
  injective : Function.Injective Crypto.toHex
  /-- The administrator that a run of the migration inserts can log in. -/
  seeded : ∀ c c', Prog.Ends (up digest) c (.ok ()) c' →
    ∃ r ∈ c'.db.rows .user, isAdmin r = true ∧ r.id ∉ c.db.ids .user ∧
      AuthService.checkPassword (Crypto.sha256 digest) (bytes "password") r.cols.passwordHash = true
  checked : ∀ password, AuthService.checkPassword (Crypto.sha256 digest) password
    (bindString (hashPassword digest password)) = true
  stored : ∀ password other, bindString (hashPassword digest password) =
    bindString (Crypto.sha256 digest other) → digest password = digest other

/-- **The migration and the server write digests down in the same way.** -/
theorem encodersAgree : EncodersAgree digest where
  same := text_hexStream
  length := Crypto.length_toHex
  injective := Crypto.toHex_injective
  seeded c c' h := by
    obtain ⟨r, hr, hadmin, hnew, hhash⟩ := ends_up_admin h
    refine ⟨r, hr, hadmin, hnew, ?_⟩
    rw [hhash]
    exact checkPassword_hashPassword digest _
  checked := checkPassword_hashPassword digest
  stored password other h := by
    rw [hashPassword_eq, bindString_sha256, bindString_sha256] at h
    exact Crypto.toHex_injective h

end V2_DefaultData

end Farado
