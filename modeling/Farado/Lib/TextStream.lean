import Mathlib.Data.Nat.Notation

/-!
# Formatted output

A stream that integers are written to, with the manipulators of C++. A base stays until another one
is chosen, and so does the fill character; a width is for the next item only.
-/

namespace TextStream

structure OStream where
  text : List UInt8 := []
  base : Nat := 10
  width : Nat := 0
  fill : UInt8 := 0x20
  deriving DecidableEq, Repr

namespace OStream

/-- `std::hex` -/
def hex (s : OStream) : OStream := { s with base := 16 }

/-- `std::setw` -/
def setw (s : OStream) (width : Nat) : OStream := { s with width }

/-- `std::setfill` -/
def setfill (s : OStream) (fill : UInt8) : OStream := { s with fill }

/-- The digits of a number, letters in lower case. -/
def digits (base n : Nat) : List UInt8 := (Nat.toDigits base n).map fun c => c.toNat.toUInt8

/-- An integer that is not negative, with the fill character before it if it is too short. -/
def put (s : OStream) (n : Nat) : OStream :=
  let item := digits s.base n
  { s with text := s.text ++ List.replicate (s.width - item.length) s.fill ++ item, width := 0 }

/-! ## Two hexadecimal digits -/

def hexDigit (n : Nat) : UInt8 := (Nat.digitChar n).toNat.toUInt8

theorem digits_of_lt {base n : Nat} (h : n < base) : digits base n = [hexDigit n] := by
  simp [digits, hexDigit, Nat.toDigits_of_lt_base h]

theorem digits_of_lt_mul {base n : Nat} (hbase : 1 < base) (hle : base ≤ n) (h : n < base * base) :
    digits base n = [hexDigit (n / base), hexDigit (n % base)] := by
  have hdiv : n / base < base := Nat.div_lt_of_lt_mul h
  simp [digits, hexDigit, Nat.toDigits_of_base_le hbase hle, Nat.toDigits_of_lt_base hdiv]

/-- A number of at most two digits comes as two, whatever base, width and fill were before. -/
theorem text_put_hex {n : Nat} (s : OStream) (h : n < 256) :
    (((s.hex.setw 2).setfill 0x30).put n).text =
      s.text ++ [hexDigit (n / 16), hexDigit (n % 16)] := by
  rcases Nat.lt_or_ge n 16 with hlt | hge
  · -- the fill character is the missing digit
    have hzero : hexDigit (n / 16) = 0x30 := by
      rw [Nat.div_eq_of_lt hlt]
      rfl
    rw [hzero, Nat.mod_eq_of_lt hlt]
    simp [put, hex, setw, setfill, digits_of_lt hlt]
  · simp [put, hex, setw, setfill, digits_of_lt_mul (by decide : 1 < 16) hge h]

end OStream

end TextStream
