import Farado.Storage.Text
import Mathlib.Tactic.ByContra

/-!
# Hashes

`crypto_helper.hpp`. The algorithm is OpenSSL's and comes as a function on bytes; how its digest is
written down is the program's.
-/

namespace Farado.Crypto

def hex : Bytes := bytes "0123456789abcdef"

def toHexChar (byte : UInt8) (high : Bool) : UInt8 :=
  hex.getD (if high then byte >>> 4 else byte &&& 0x0f).toNat 0

/-- Two characters a byte, the high half first. -/
def toHex (data : Bytes) : Bytes :=
  data.flatMap fun byte => [toHexChar byte true, toHexChar byte false]

def computeHash (input : Bytes) (algorithm : Bytes → Bytes) : Bytes := toHex (algorithm input)

/-- `digest` is `EVP_sha256()`. -/
def sha256 (digest : Bytes → Bytes) (input : Bytes) : Bytes := computeHash input digest

/-! ## What a hash looks like -/

/-- The half of a byte that a digit stands for. -/
def half (byte : UInt8) (high : Bool) : Nat := (if high then byte >>> 4 else byte &&& 0x0f).toNat

theorem half_true (byte : UInt8) : half byte true = byte.toNat / 16 := by
  show (byte >>> 4).toNat = _
  rw [UInt8.toNat_shiftRight]
  exact Nat.shiftRight_eq_div_pow _ 4

theorem half_false (byte : UInt8) : half byte false = byte.toNat % 16 := by
  show (byte &&& 0x0f).toNat = _
  rw [UInt8.toNat_and]
  exact Nat.and_two_pow_sub_one_eq_mod _ 4

theorem half_lt (byte : UInt8) (high : Bool) : half byte high < 16 := by
  have := byte.toNat_lt
  cases high with
  | true => rw [half_true]; omega
  | false => rw [half_false]; omega

/-- The sixteen digits are different, and none of them is a NUL or a dash. -/
theorem hex_digits : (∀ n < 16, hex.getD n 0 ≠ 0 ∧ hex.getD n 0 ≠ 0x2d) ∧
    ∀ n < 16, ∀ m < 16, hex.getD n 0 = hex.getD m 0 → n = m := by decide

theorem mem_toHex {data : Bytes} {b : UInt8} (h : b ∈ toHex data) :
    ∃ byte high, b = toHexChar byte high := by
  obtain ⟨byte, -, hb⟩ := List.mem_flatMap.mp h
  simp only [List.mem_cons, List.not_mem_nil, or_false] at hb
  rcases hb with hb | hb
  · exact ⟨byte, true, hb⟩
  · exact ⟨byte, false, hb⟩

theorem toHexChar_ne (byte : UInt8) (high : Bool) :
    toHexChar byte high ≠ 0 ∧ toHexChar byte high ≠ 0x2d :=
  hex_digits.1 _ (half_lt byte high)

theorem zero_not_mem_toHex (data : Bytes) : 0 ∉ toHex data := by
  intro h
  obtain ⟨byte, high, hb⟩ := mem_toHex h
  exact (toHexChar_ne byte high).1 hb.symm

/-- A date has dashes. -/
theorem not_looksLikeDateTime_toHex (data : Bytes) : looksLikeDateTime (toHex data) = false := by
  by_contra h
  simp only [Bool.not_eq_false, looksLikeDateTime, Bool.and_eq_true, beq_iff_eq] at h
  obtain ⟨byte, high, hb⟩ := mem_toHex (List.mem_of_getElem? h.1.1.1.1.2)
  exact (toHexChar_ne byte high).2 hb.symm

theorem toHex_injective : Function.Injective toHex := by
  intro data data' h
  induction data generalizing data' with
  | nil =>
    cases data' with
    | nil => rfl
    | cons byte data' => cases h
  | cons byte data ih =>
    cases data' with
    | nil => cases h
    | cons byte' data' =>
      obtain ⟨hhigh, hlow, hrest⟩ : toHexChar byte true = toHexChar byte' true ∧
          toHexChar byte false = toHexChar byte' false ∧ toHex data = toHex data' := by
        simpa [toHex] using h
      -- the two digits give the two halves back, and these the byte
      have hdiv := hex_digits.2 _ (half_lt byte true) _ (half_lt byte' true) hhigh
      have hmod := hex_digits.2 _ (half_lt byte false) _ (half_lt byte' false) hlow
      rw [half_true, half_true] at hdiv
      rw [half_false, half_false] at hmod
      have hbyte : byte = byte' := UInt8.toNat_inj.mp (by omega)
      rw [hbyte, ih hrest]

section
variable {digest : Bytes → Bytes}

theorem zero_not_mem_sha256 (input : Bytes) : 0 ∉ sha256 digest input := zero_not_mem_toHex _

theorem not_looksLikeDateTime_sha256 (input : Bytes) :
    looksLikeDateTime (sha256 digest input) = false := not_looksLikeDateTime_toHex _

theorem sha256_injective (hdigest : Function.Injective digest) :
    Function.Injective (sha256 digest) := toHex_injective.comp hdigest

theorem sha256_ne_nil {input : Bytes} (h : digest input ≠ []) : sha256 digest input ≠ [] := by
  intro hnil
  have hnil' : toHex (digest input) = toHex [] := hnil
  exact h (toHex_injective hnil')

end

end Farado.Crypto
