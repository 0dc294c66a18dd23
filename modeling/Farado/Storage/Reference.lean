import Farado.Storage.Connection
import Mathlib.Data.List.Sort

/-!
# A concrete environment

Rows sorted by insertion, ties in their stored order; LIKE and lower case for ASCII. Anything that
is proved of every environment can be run in this one.
-/

namespace Farado

/-- ASCII lower case. -/
def lowerByte (b : UInt8) : UInt8 := if 0x41 ≤ b ∧ b ≤ 0x5a then b + 0x20 else b

/-- Does the rest of the text match at this position or a later one? -/
def anySuffix (p : Bytes → Bool) : Bytes → Bool
  | [] => p []
  | b :: s => p (b :: s) || anySuffix p s

/-- LIKE on ASCII text: `%` is any run, `_` any one byte, letters match in either case. -/
def likeAscii : Bytes → Bytes → Bool
  | [], s => s.isEmpty
  | c :: pattern, s =>
      if c == 0x25 then anySuffix (likeAscii pattern) s
      else match s with
        | [] => false
        | b :: s => (c == 0x5f || lowerByte c == lowerByte b) && likeAscii pattern s

def Environment.reference : Environment where
  arrange le l := l.insertionSort fun a b => le a b = true
  arrange_perm _ l := List.perm_insertionSort _ l
  arrange_sorted {t} le htrans htotal l := by
    have : IsTrans (Row t) fun a b => le a b = true := ⟨htrans⟩
    have : Std.Total fun a b : Row t => le a b = true :=
      ⟨fun a b => by simpa using htotal a b⟩
    exact List.pairwise_insertionSort _ l
  like := likeAscii
  foldCase s := s.map lowerByte

end Farado
