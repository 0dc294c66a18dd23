import Mathlib.Data.List.TakeWhile
import Mathlib.Algebra.Group.Nat.Defs

/-!
# Values between the program and SQLite

A string goes into a statement through `bindString` and comes back through `SqliteResultSet::value`,
which looks at the storage class of the column and, for text, at the text itself: what is shaped
like `YYYY-MM-DD HH:MM:SS` becomes a `DateTime`. The readers `valueInt64` and `valueString` then
insist on the type they want.
-/

namespace Farado

/-- A `std::string`: any bytes, NUL included. -/
abbrev Bytes := List UInt8

/-- The bytes of a literal. -/
def bytes (s : String) : Bytes := s.toByteArray.data.toList

theorem bytes_injective {s t : String} (h : bytes s = bytes t) : s = t :=
  String.toByteArray_inj.mp (ByteArray.ext (Array.toList_inj.mp h))

theorem bytes_append (s t : String) : bytes (s ++ t) = bytes s ++ bytes t := by
  simp [bytes]

/-- What reaches a C function that reads up to the first NUL. -/
def cString (s : Bytes) : Bytes := s.takeWhile (· != 0)

theorem cString_eq_self_iff {s : Bytes} : cString s = s ↔ 0 ∉ s := by
  induction s with
  | nil => simp [cString]
  | cons b s ih =>
    unfold cString at ih ⊢
    by_cases hb : b = 0
    · simp [hb]
    · simp [hb, ih, Ne.symm hb]

theorem zero_not_mem_cString (s : Bytes) : 0 ∉ cString s := by
  intro h
  have := List.mem_takeWhile_imp h
  simp at this

@[simp] theorem cString_cString (s : Bytes) : cString (cString s) = cString s :=
  cString_eq_self_iff.mpr (zero_not_mem_cString s)

/-- Exceptions that reach the repositories: `std::runtime_error` from `FieldValue`, a violated
constraint, or any other SQL error. -/
inductive Error where
  | notAnInt64
  | notAString
  | constraintFailed
  | sqlFault
  deriving DecidableEq, Repr

/-- `std::exception::what`. The text of an SQL error is SQLite's own. -/
def Error.what : Error → Option Bytes
  | .notAnInt64 => some (bytes "Not an Int64")
  | .notAString => some (bytes "Not a String")
  | .constraintFailed => none
  | .sqlFault => none

/-- A stored value, by SQLite's storage classes. A real is its bit pattern. -/
inductive SqlValue where
  | null
  | integer (n : Int)
  | real (bits : UInt64)
  | text (s : Bytes)
  | blob (b : Bytes)
  deriving DecidableEq, Repr

/-- A nullable column. -/
def SqlValue.orNull {α : Type} (mk : α → SqlValue) : Option α → SqlValue
  | some a => mk a
  | none => .null

def SqlValue.isNull : SqlValue → Bool
  | .null => true
  | _ => false

/-- `FieldValue`. A `DateTime` is kept as the text it was parsed from: `stringToDateTime` accepts
every string. -/
inductive FieldValue where
  | null
  | int64 (n : Int)
  | double (bits : UInt64)
  | string (s : Bytes)
  | blob (b : Bytes)
  | dateTime (s : Bytes)
  deriving DecidableEq, Repr

namespace FieldValue

def asInt64 : FieldValue → Except Error Int
  | int64 n => .ok n
  | _ => .error .notAnInt64

def asString : FieldValue → Except Error Bytes
  | string s => .ok s
  | _ => .error .notAString

end FieldValue

/-- The separators of `YYYY-MM-DD HH:MM:SS` stand where they should; nothing else is looked at. -/
def looksLikeDateTime (s : Bytes) : Bool :=
  decide (19 ≤ s.length) && s[4]? == some 0x2d && s[7]? == some 0x2d && s[10]? == some 0x20 &&
    s[13]? == some 0x3a && s[16]? == some 0x3a

/-- `SqliteResultSet::value`. -/
def resultValue : SqlValue → FieldValue
  | .null => .null
  | .integer n => .int64 n
  | .real bits => .double bits
  | .text s =>
      -- std::string(const char*) stops at the first NUL
      let strValue := cString s
      if looksLikeDateTime strValue then .dateTime strValue else .string strValue
  | .blob b => if b.length > 0 then .blob b else .null

def valueInt64 (v : SqlValue) : Except Error Int := (resultValue v).asInt64

def valueString (v : SqlValue) : Except Error Bytes := (resultValue v).asString

/-- `if (!rs.isNull(c)) field = read(c);` -/
def unlessNull {α : Type} (read : SqlValue → Except Error α) (v : SqlValue) :
    Except Error (Option α) :=
  if v.isNull then .ok none else some <$> read v

/-- `SqliteStatement::bindString` passes `c_str()` and length -1. -/
def bindString (s : Bytes) : Bytes := cString s

/-- `bindInt64("…", flag ? 1 : 0)` -/
def bindBool (b : Bool) : Int := if b then 1 else 0

@[simp] theorem valueInt64_integer (n : Int) : valueInt64 (.integer n) = .ok n := rfl

@[simp] theorem unlessNull_int64 (n : Int) :
    unlessNull valueInt64 (.integer n) = .ok (some n) := rfl

theorem unlessNull_text (s : Bytes) :
    unlessNull valueString (.text s) = some <$> valueString (.text s) := rfl

@[simp] theorem unlessNull_orNull_integer (n : Option Int) :
    unlessNull valueInt64 (.orNull .integer n) = .ok n := by
  cases n <;> rfl

/-- Reading a text column gives its text, unless that is shaped like a date. -/
theorem valueString_text (s : Bytes) :
    valueString (.text s) =
      if looksLikeDateTime (cString s) then .error .notAString else .ok (cString s) := by
  unfold valueString resultValue
  dsimp only
  split <;> rfl

theorem valueString_text_ok {s x : Bytes} :
    valueString (.text s) = .ok x ↔ looksLikeDateTime (cString s) = false ∧ x = cString s := by
  rw [valueString_text]
  split
  · next h => simp [h]
  · next h =>
    constructor
    · rintro ⟨⟩
      exact ⟨by simpa using h, rfl⟩
    · rintro ⟨-, rfl⟩
      rfl

theorem unlessNull_orNull_text_ok {s x : Option Bytes} :
    unlessNull valueString (.orNull .text s) = .ok x ↔
      (∀ b ∈ s, looksLikeDateTime (cString b) = false) ∧ x = s.map cString := by
  cases s with
  | none =>
    constructor
    · rintro ⟨⟩
      exact ⟨by simp, rfl⟩
    · rintro ⟨-, rfl⟩
      rfl
  | some b =>
    rw [SqlValue.orNull, unlessNull_text]
    constructor
    · intro h
      cases hv : valueString (.text b) with
      | error e =>
        rw [hv] at h
        cases h
      | ok y =>
        rw [hv] at h
        cases h
        obtain ⟨hd, rfl⟩ := valueString_text_ok.mp hv
        exact ⟨by simpa using hd, rfl⟩
    · rintro ⟨hd, rfl⟩
      rw [valueString_text_ok.mpr ⟨hd b rfl, rfl⟩]
      rfl

theorem valueInt64_orNull_ok {n : Option Int} {x : Int} :
    valueInt64 (.orNull .integer n) = .ok x ↔ n = some x := by
  cases n with
  | none => simp [SqlValue.orNull, valueInt64, resultValue, FieldValue.asInt64]
  | some n => simp [SqlValue.orNull]

/-- Reading a whole row succeeds when every column does. -/
theorem bind_eq_ok {ε α β : Type} {x : Except ε α} {f : α → Except ε β} {b : β} :
    (x >>= f) = .ok b ↔ ∃ a, x = .ok a ∧ f a = .ok b := by
  cases x with
  | ok a => simp [bind, Except.bind]
  | error e => simp [bind, Except.bind]

example : valueString (.text (bindString (bytes "2024-01-01 00:00:00"))) = .error .notAString := by
  decide

end Farado
