import Mathlib.Tactic.Ring

/-!
# Single and double precision

The two formats of IEEE 754 by their bits: sign, exponent and fraction. A single is widened as it
is; a double is narrowed to the nearest single, a tie to the even one.
-/

namespace Floats

/-! ## Fields -/

def exponent32 (bits : UInt32) : Nat := bits.toNat / 2 ^ 23 % 2 ^ 8

def fraction32 (bits : UInt32) : Nat := bits.toNat % 2 ^ 23

def exponent64 (bits : UInt64) : Nat := bits.toNat / 2 ^ 52 % 2 ^ 11

def fraction64 (bits : UInt64) : Nat := bits.toNat % 2 ^ 52

/-- Neither an infinity nor a NaN. -/
def Finite32 (bits : UInt32) : Prop := exponent32 bits ≠ 255

def Finite64 (bits : UInt64) : Prop := exponent64 bits ≠ 2047

/-! ## Equality -/

def isNaN32 (bits : UInt32) : Bool := exponent32 bits == 255 && fraction32 bits != 0

def isNaN64 (bits : UInt64) : Bool := exponent64 bits == 2047 && fraction64 bits != 0

/-- `==`: a NaN is not equal to itself, and the two zeros are equal. -/
def equal32 (a b : UInt32) : Bool :=
  !isNaN32 a && !isNaN32 b && (a == b || a.toNat % 2 ^ 31 == 0 && b.toNat % 2 ^ 31 == 0)

def equal64 (a b : UInt64) : Bool :=
  !isNaN64 a && !isNaN64 b && (a == b || a.toNat % 2 ^ 63 == 0 && b.toNat % 2 ^ 63 == 0)

theorem equal32_self {bits : UInt32} (h : Finite32 bits) : equal32 bits bits = true := by
  have hnan : isNaN32 bits = false := by
    rw [isNaN32, beq_false_of_ne h, Bool.false_and]
  simp [equal32, hnan]

theorem equal64_self {bits : UInt64} (h : Finite64 bits) : equal64 bits bits = true := by
  have hnan : isNaN64 bits = false := by
    rw [isNaN64, beq_false_of_ne h, Bool.false_and]
  simp [equal64, hnan]

/-! ## Conversions -/

/-- A subnormal single is a normal double: its first one is the hidden bit. -/
def widenMagnitude (exponent fraction : Nat) : Nat :=
  if exponent = 255 then 2047 * 2 ^ 52 + fraction * 2 ^ 29
  else if exponent ≠ 0 then (exponent + 896) * 2 ^ 52 + fraction * 2 ^ 29
  else if fraction = 0 then 0
  else (fraction.log2 + 874) * 2 ^ 52 + (fraction - 2 ^ fraction.log2) * 2 ^ (52 - fraction.log2)

/-- `float` to `double` -/
def widen (bits : UInt32) : UInt64 :=
  .ofNat (bits.toNat / 2 ^ 31 * 2 ^ 63 + widenMagnitude (exponent32 bits) (fraction32 bits))

/-- A number without its last bits, rounded to the nearest and to even. -/
def roundHalfEven (n shift : Nat) : Nat :=
  if 2 ^ shift < 2 * (n % 2 ^ shift) ∨
      2 ^ shift = 2 * (n % 2 ^ shift) ∧ n / 2 ^ shift % 2 = 1 then n / 2 ^ shift + 1
  else n / 2 ^ shift

/-- What rounds up to the next power of two carries into the exponent, and at last to infinity. -/
def narrowMagnitude (exponent fraction : Nat) : Nat :=
  if exponent = 2047 then
    if fraction = 0 then 255 * 2 ^ 23 else 255 * 2 ^ 23 + 2 ^ 22 + fraction / 2 ^ 29 % 2 ^ 22
  else
    min (255 * 2 ^ 23)
      ((exponent - 897) * 2 ^ 23 + roundHalfEven (2 ^ 52 + fraction) (29 + (897 - exponent)))

/-- `double` to `float` -/
def narrow (bits : UInt64) : UInt32 :=
  .ofNat (bits.toNat / 2 ^ 63 * 2 ^ 31 + narrowMagnitude (exponent64 bits) (fraction64 bits))

/-! ## Widening loses nothing -/

theorem roundHalfEven_mul_pow (n shift : Nat) : roundHalfEven (n * 2 ^ shift) shift = n := by
  have hpos : 0 < 2 ^ shift := Nat.two_pow_pos shift
  rw [roundHalfEven, Nat.mul_mod_left, Nat.mul_div_cancel n hpos, if_neg (by omega)]

theorem roundHalfEven_of_lt {n k shift : Nat} (hn : n < 2 ^ k) (hk : k < shift) :
    roundHalfEven n shift = 0 := by
  have hle : 2 ^ (k + 1) ≤ 2 ^ shift := Nat.pow_le_pow_right (by decide) hk
  rw [Nat.pow_succ] at hle
  have hmod : n % 2 ^ shift = n := Nat.mod_eq_of_lt (by omega)
  have hdiv : n / 2 ^ shift = 0 := Nat.div_eq_of_lt (by omega)
  rw [roundHalfEven, hmod, hdiv, if_neg (by omega)]

theorem narrowMagnitude_zero : narrowMagnitude 0 0 = 0 := by
  rw [narrowMagnitude, if_neg (by decide),
    roundHalfEven_of_lt (k := 53) (by decide) (by decide)]
  rfl

/-- A double whose significand is a single's. -/
theorem narrowMagnitude_of_exact {exponent fraction n : Nat} (hexponent : exponent ≠ 2047)
    (h : 2 ^ 52 + fraction = n * 2 ^ (29 + (897 - exponent)))
    (hle : (exponent - 897) * 2 ^ 23 + n ≤ 255 * 2 ^ 23) :
    narrowMagnitude exponent fraction = (exponent - 897) * 2 ^ 23 + n := by
  rw [narrowMagnitude, if_neg hexponent, h, roundHalfEven_mul_pow, min_eq_right hle]

/-- What widening makes of the fields is narrowed to them. -/
theorem widenMagnitude_fields {exponent fraction : Nat} (hexponent : exponent < 255)
    (hfraction : fraction < 2 ^ 23) :
    ∃ exponent' fraction', widenMagnitude exponent fraction = exponent' * 2 ^ 52 + fraction' ∧
      exponent' < 2047 ∧ fraction' < 2 ^ 52 ∧
      narrowMagnitude exponent' fraction' = exponent * 2 ^ 23 + fraction := by
  rw [widenMagnitude, if_neg (by omega)]
  split
  · next hne =>
    refine ⟨exponent + 896, fraction * 2 ^ 29, rfl, by omega, by omega, ?_⟩
    have hshift : 29 + (897 - (exponent + 896)) = 29 := by omega
    rw [narrowMagnitude_of_exact (n := 2 ^ 23 + fraction) (by omega) (by rw [hshift]; ring)
      (by omega)]
    omega
  · next hzero =>
    have hexponent0 : exponent = 0 := by omega
    subst hexponent0
    split
    · next hfraction0 =>
      subst hfraction0
      exact ⟨0, 0, rfl, by decide, by decide, narrowMagnitude_zero⟩
    · next hpos =>
      have hle : 2 ^ fraction.log2 ≤ fraction := Nat.log2_self_le hpos
      have hlt : fraction < 2 ^ (fraction.log2 + 1) := Nat.lt_log2_self
      have hlog : fraction.log2 < 23 := (Nat.log2_lt hpos).mpr hfraction
      generalize fraction.log2 = k at hle hlt hlog
      have hpow : 2 ^ k * 2 ^ (52 - k) = 2 ^ 52 := by
        rw [← Nat.pow_add]
        congr 1
        omega
      refine ⟨k + 874, (fraction - 2 ^ k) * 2 ^ (52 - k), rfl, by omega, ?_, ?_⟩
      · rw [← hpow]
        apply Nat.mul_lt_mul_of_pos_right _ (Nat.two_pow_pos _)
        rw [Nat.pow_succ] at hlt
        omega
      · have hshift : 29 + (897 - (k + 874)) = 52 - k := by omega
        have hexact : 2 ^ 52 + (fraction - 2 ^ k) * 2 ^ (52 - k) =
            fraction * 2 ^ (29 + (897 - (k + 874))) := by
          rw [hshift, ← hpow, ← Nat.add_mul, Nat.add_sub_cancel' hle]
        rw [narrowMagnitude_of_exact (n := fraction) (by omega) hexact (by omega)]
        omega

/-- **A finite single that is widened and narrowed again is the same.** -/
theorem narrow_widen {bits : UInt32} (h : Finite32 bits) : narrow (widen bits) = bits := by
  have hbits : bits.toNat < 2 ^ 32 := bits.toNat_lt
  have hexponent : exponent32 bits < 255 := by
    have : exponent32 bits < 2 ^ 8 := Nat.mod_lt _ (by decide)
    unfold Finite32 at h
    omega
  have hfraction : fraction32 bits < 2 ^ 23 := Nat.mod_lt _ (by decide)
  obtain ⟨exponent, fraction, hwiden, hexp, hfrac, hnarrow⟩ :=
    widenMagnitude_fields hexponent hfraction
  have hsign : bits.toNat / 2 ^ 31 < 2 := by omega
  have hwide : (widen bits).toNat =
      bits.toNat / 2 ^ 31 * 2 ^ 63 + (exponent * 2 ^ 52 + fraction) := by
    have hlt : bits.toNat / 2 ^ 31 * 2 ^ 63 + (exponent * 2 ^ 52 + fraction) < 2 ^ 64 := by omega
    rw [widen, hwiden]
    exact UInt64.toNat_ofNat_of_lt' hlt
  have hexp64 : exponent64 (widen bits) = exponent := by
    rw [exponent64, hwide]
    omega
  have hfrac64 : fraction64 (widen bits) = fraction := by
    rw [fraction64, hwide]
    omega
  apply UInt32.toNat_inj.mp
  rw [narrow, hexp64, hfrac64, hnarrow, hwide]
  have hsign64 : (bits.toNat / 2 ^ 31 * 2 ^ 63 + (exponent * 2 ^ 52 + fraction)) / 2 ^ 63 =
      bits.toNat / 2 ^ 31 := by omega
  rw [hsign64]
  have hfields : bits.toNat / 2 ^ 31 * 2 ^ 31 +
      (exponent32 bits * 2 ^ 23 + fraction32 bits) = bits.toNat := by
    unfold exponent32 fraction32
    omega
  rw [hfields]
  exact UInt32.toNat_ofNat_of_lt' hbits

end Floats
