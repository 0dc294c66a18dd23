import Farado.Lib.While
import Farado.Storage.Text

/-!
# The path of the database

`normalizePath`, which the constructor of `SqliteConnection` applies to what it is given. Runs of
slashes are collapsed in a loop, and after that a `./` in front is removed, once.
-/

namespace Farado

/-! ## Strings -/

namespace StdString

/-- `std::string::find`: the first position. -/
def find (needle : Bytes) : Bytes → Option Nat
  | [] => if needle.isEmpty then some 0 else none
  | b :: text =>
      if needle.isPrefixOf (b :: text) then some 0 else (find needle text).map (· + 1)

/-- `std::string::replace` -/
def replace (text : Bytes) (pos count : Nat) (replacement : Bytes) : Bytes :=
  text.take pos ++ replacement ++ text.drop (pos + count)

/-- Where the needle is found, it stands. -/
theorem eq_of_find {needle text : Bytes} {pos : Nat} (h : find needle text = some pos) :
    text = text.take pos ++ needle ++ text.drop (pos + needle.length) := by
  induction text generalizing pos with
  | nil =>
    unfold find at h
    split at h
    · next hempty => simpa using List.isEmpty_iff.mp hempty
    · cases h
  | cons b text ih =>
    unfold find at h
    split at h
    · next hstarts =>
      cases h
      obtain ⟨rest, hrest⟩ := List.isPrefixOf_iff_prefix.mp hstarts
      simp [← hrest]
    · obtain ⟨pos, hpos, rfl⟩ := Option.map_eq_some_iff.mp h
      have htext := ih hpos
      rw [List.take_succ_cons, Nat.add_right_comm, List.drop_succ_cons, List.cons_append,
        List.cons_append, ← htext]

theorem find_eq_none {needle text : Bytes} : find needle text = none ↔ ¬ needle <:+: text := by
  induction text with
  | nil => cases needle <;> simp [find]
  | cons b text ih =>
    rw [List.infix_cons_iff, not_or, ← ih, ← List.isPrefixOf_iff_prefix, find]
    split
    · next hstarts => simp [hstarts]
    · next hstarts => simp [hstarts]

theorem find_eq_zero {needle text : Bytes} : find needle text = some 0 ↔ needle <+: text := by
  cases text with
  | nil => cases needle <;> simp [find]
  | cons b text =>
    rw [← List.isPrefixOf_iff_prefix, find]
    split
    · next hstarts => simp [hstarts]
    · next hstarts => simp [hstarts]

end StdString

/-! ## The normalisation -/

def slash : UInt8 := 0x2F

def dot : UInt8 := 0x2E

/-- One turn of the loop over the slashes. -/
def collapse (result : Bytes) : Option Bytes :=
  (StdString.find [slash, slash] result).map fun pos => StdString.replace result pos 2 [slash]

/-- What comes after the loop. -/
def removeDot (result : Bytes) : Bytes :=
  if StdString.find [dot, slash] result = some 0 then result.drop 2 else result

/-- `normalizePath`, as long as the loop looks for slashes `fuel` times at most. -/
def normalizePath (fuel : Nat) (dbPath : Bytes) : Option Bytes :=
  (While.loop collapse fuel dbPath).map removeDot

/-! ## Files -/

/-- The names on the way to a file. -/
def components (path : Bytes) : List Bytes :=
  (path.splitOn slash).filter fun name => name != [] && name != [dot]

def isAbsolute (path : Bytes) : Bool := path.head? == some slash

theorem components_append_slash (front rest : Bytes) :
    components (front ++ slash :: rest) = components front ++ components rest := by
  unfold components
  rw [List.splitOn_append_cons_self, List.filter_append]

theorem components_slash (rest : Bytes) : components (slash :: rest) = components rest :=
  components_append_slash [] rest

theorem components_dot_slash (rest : Bytes) :
    components (dot :: slash :: rest) = components rest :=
  components_append_slash [dot] rest

/-! ## Runs of slashes -/

/-- The text with one slash for every run of slashes. -/
def squeeze : Bytes → Bytes
  | [] => []
  | b :: text =>
      if b = slash ∧ text.head? = some slash then squeeze text else b :: squeeze text

theorem squeeze_slash_slash (text : Bytes) :
    squeeze (slash :: slash :: text) = squeeze (slash :: text) := by
  rw [squeeze, if_pos ⟨rfl, rfl⟩]

theorem squeeze_cons {b : UInt8} {text : Bytes} (h : ¬ (b = slash ∧ text.head? = some slash)) :
    squeeze (b :: text) = b :: squeeze text := by
  rw [squeeze, if_neg h]

theorem squeeze_append_slash_slash (front rest : Bytes) :
    squeeze (front ++ slash :: slash :: rest) = squeeze (front ++ slash :: rest) := by
  induction front with
  | nil => exact squeeze_slash_slash rest
  | cons b front ih =>
    have hhead : (front ++ slash :: slash :: rest).head? = (front ++ slash :: rest).head? := by
      cases front <;> rfl
    rw [List.cons_append, List.cons_append, squeeze, squeeze, hhead, ih]

theorem head?_squeeze (text : Bytes) : (squeeze text).head? = text.head? := by
  induction text with
  | nil => rfl
  | cons b text ih =>
    rw [squeeze]
    split
    · next h => rw [ih, h.1, h.2, List.head?_cons]
    · rfl

/-- Without two slashes in a row there is nothing to squeeze. -/
theorem squeeze_eq_self {text : Bytes} (h : ¬ [slash, slash] <:+: text) : squeeze text = text := by
  induction text with
  | nil => rfl
  | cons b text ih =>
    rw [List.infix_cons_iff, not_or] at h
    obtain ⟨hstart, hslashes⟩ := h
    rw [squeeze_cons, ih hslashes]
    rintro ⟨rfl, hhead⟩
    cases text with
    | nil => cases hhead
    | cons c text =>
      cases hhead
      exact hstart ⟨text, rfl⟩

/-- A run of slashes and what follows it. -/
theorem squeeze_slashes (n : Nat) {rest : Bytes} (h : rest.head? ≠ some slash) :
    squeeze (List.replicate (n + 1) slash ++ rest) = slash :: squeeze rest := by
  induction n with
  | zero => exact squeeze_cons fun hslash => h hslash.2
  | succ n ih =>
    rw [← ih]
    exact squeeze_slash_slash _

/-- What begins with a slash begins with a run of slashes. -/
theorem exists_slashes (text : Bytes) :
    ∃ n rest, text = List.replicate n slash ++ rest ∧ rest.head? ≠ some slash := by
  induction text with
  | nil => exact ⟨0, [], rfl, nofun⟩
  | cons b text ih =>
    obtain ⟨n, rest, htext, hrest⟩ := ih
    by_cases hb : b = slash
    · exact ⟨n + 1, rest, by rw [hb, htext, List.replicate_succ, List.cons_append], hrest⟩
    · exact ⟨0, b :: text, rfl, by simpa using hb⟩

/-! ## The loop -/

/-- What one turn does. -/
theorem collapse_eq_some {result next : Bytes} (h : collapse result = some next) :
    ∃ front rest, result = front ++ slash :: slash :: rest ∧ next = front ++ slash :: rest := by
  obtain ⟨pos, hpos, rfl⟩ := Option.map_eq_some_iff.mp h
  refine ⟨result.take pos, result.drop (pos + 2), ?_, ?_⟩
  · simpa using StdString.eq_of_find hpos
  · simp [StdString.replace]

theorem collapse_eq_none {result : Bytes} :
    collapse result = none ↔ ¬ [slash, slash] <:+: result := by
  rw [collapse, Option.map_eq_none_iff, StdString.find_eq_none]

theorem length_collapse (result next : Bytes) (h : collapse result = some next) :
    next.length < result.length := by
  obtain ⟨front, rest, rfl, rfl⟩ := collapse_eq_some h
  simp

/-- The loop squeezes the path. -/
theorem ends_collapse (path : Bytes) : While.Ends collapse path (squeeze path) := by
  obtain ⟨result, hends⟩ := While.exists_ends length_collapse path
  have hsame : squeeze result = squeeze path := by
    refine hends.apply_eq fun s s' hstep => ?_
    obtain ⟨front, rest, rfl, rfl⟩ := collapse_eq_some hstep
    exact (squeeze_append_slash_slash front rest).symm
  rwa [← hsame, squeeze_eq_self (collapse_eq_none.mp hends.step_eq_none)]

theorem not_slashes_squeeze (path : Bytes) : ¬ [slash, slash] <:+: squeeze path :=
  collapse_eq_none.mp (ends_collapse path).step_eq_none

theorem components_squeeze (path : Bytes) : components (squeeze path) = components path := by
  refine (ends_collapse path).apply_eq fun s s' hstep => ?_
  obtain ⟨front, rest, rfl, rfl⟩ := collapse_eq_some hstep
  rw [components_append_slash, components_append_slash, components_slash]

theorem normalizePath_eq {path : Bytes} {fuel : Nat} (hfuel : path.length < fuel) :
    normalizePath fuel path = some (removeDot (squeeze path)) := by
  rw [normalizePath, (ends_collapse path).loop_eq length_collapse hfuel]
  rfl

/-! ## After the loop -/

theorem removeDot_dot_slash (rest : Bytes) : removeDot (dot :: slash :: rest) = rest := by
  have hfind : StdString.find [dot, slash] (dot :: slash :: rest) = some 0 :=
    StdString.find_eq_zero.mpr ⟨rest, rfl⟩
  rw [removeDot, if_pos hfind]
  rfl

theorem removeDot_eq_self {text : Bytes} (h : ¬ [dot, slash] <+: text) : removeDot text = text := by
  rw [removeDot, if_neg (mt StdString.find_eq_zero.mp h)]

/-- Where there is a `./` to remove, the path begins with a dot and slashes. -/
theorem dot_slash_squeeze {path : Bytes} (h : [dot, slash] <+: squeeze path) :
    ∃ n rest, path = dot :: (List.replicate (n + 1) slash ++ rest) ∧
      squeeze path = dot :: slash :: squeeze rest := by
  cases path with
  | nil => exact absurd h (by decide)
  | cons b path =>
    have hb : b = dot := by
      have hhead := head?_squeeze (b :: path)
      obtain ⟨rest, hrest⟩ := h
      rw [← hrest] at hhead
      exact (Option.some.inj hhead).symm
    subst hb
    have hcons : squeeze (dot :: path) = dot :: squeeze path :=
      squeeze_cons fun hslash => absurd hslash.1 (by decide)
    obtain ⟨n, rest, rfl, hrest⟩ := exists_slashes path
    cases n with
    | zero =>
      obtain ⟨tail, htail⟩ := h
      rw [hcons] at htail
      have hslash : slash :: tail = squeeze rest := (List.cons.inj htail).2
      have hhead := head?_squeeze rest
      rw [← hslash] at hhead
      exact absurd hhead.symm hrest
    | succ n => exact ⟨n, rest, rfl, by rw [hcons, squeeze_slashes n hrest]⟩

theorem squeeze_dot_slashes (n : Nat) (rest : Bytes) :
    ∃ tail, squeeze (dot :: (List.replicate (n + 1) slash ++ rest)) = dot :: slash :: tail := by
  have hhead := head?_squeeze (List.replicate (n + 1) slash ++ rest)
  rw [squeeze_cons fun hslash => absurd hslash.1 (by decide)]
  cases hsqueeze : squeeze (List.replicate (n + 1) slash ++ rest) with
  | nil =>
    rw [hsqueeze] at hhead
    cases hhead
  | cons b tail =>
    rw [hsqueeze] at hhead
    cases hhead
    exact ⟨tail, rfl⟩

/-! ## What is promised -/

/-- The path in its normal form. -/
structure IsNormalized (path result : Bytes) : Prop where
  no_slashes : ¬ [slash, slash] <:+: result
  no_dot : ¬ [dot, slash] <+: result
  same_components : components result = components path
  same_root : isAbsolute result = isAbsolute path
  idempotent : ∀ fuel, result.length < fuel → normalizePath fuel result = some result

/-- The loop comes to its end, and the result is normalised. -/
def Normalizes (path : Bytes) : Prop :=
  ∃ result, (∀ fuel, path.length < fuel → normalizePath fuel path = some result) ∧
    IsNormalized path result

/-- Whatever the path, only a `./` can be left in front, and then a second run removes it. -/
theorem isNormalized_removeDot {path : Bytes} (h : ¬ [dot, slash] <+: removeDot (squeeze path)) :
    IsNormalized path (removeDot (squeeze path)) := by
  have hslashes : ¬ [slash, slash] <:+: removeDot (squeeze path) := by
    intro hslashes
    refine not_slashes_squeeze path (hslashes.trans ?_)
    unfold removeDot
    split
    · exact (List.drop_suffix 2 _).isInfix
    · exact List.infix_rfl
  have hfile : components (removeDot (squeeze path)) = components (squeeze path) ∧
      isAbsolute (removeDot (squeeze path)) = isAbsolute (squeeze path) := by
    by_cases hdot : [dot, slash] <+: squeeze path
    · obtain ⟨rest, hrest⟩ := hdot
      have hsqueeze : squeeze path = dot :: slash :: rest := hrest.symm
      rw [hsqueeze, removeDot_dot_slash]
      refine ⟨(components_dot_slash rest).symm, ?_⟩
      have hroot : rest.head? ≠ some slash := by
        intro hhead
        obtain ⟨tail, rfl⟩ := List.head?_eq_some_iff.mp hhead
        exact not_slashes_squeeze path (hsqueeze ▸ ⟨[dot], tail, rfl⟩)
      have hleft : isAbsolute rest = false := by simpa [isAbsolute] using hroot
      rw [hleft]
      rfl
    · rw [removeDot_eq_self hdot]
      exact ⟨rfl, rfl⟩
  refine ⟨hslashes, h, hfile.1.trans (components_squeeze path), hfile.2.trans ?_, ?_⟩
  · rw [isAbsolute, head?_squeeze]
    rfl
  · intro fuel hfuel
    rw [normalizePath_eq hfuel, squeeze_eq_self hslashes, removeDot_eq_self h]

/-- A dot and slashes twice over. -/
def DottedTwice (path : Bytes) : Prop :=
  ∃ m n rest, path = dot :: (List.replicate (m + 1) slash ++
    dot :: (List.replicate (n + 1) slash ++ rest))

theorem dot_slash_removeDot_iff {path : Bytes} :
    [dot, slash] <+: removeDot (squeeze path) ↔ DottedTwice path := by
  constructor
  · intro h
    by_cases hdot : [dot, slash] <+: squeeze path
    · obtain ⟨m, rest, hpath, hsqueeze⟩ := dot_slash_squeeze hdot
      rw [hsqueeze, removeDot_dot_slash] at h
      obtain ⟨n, rest', hrest, -⟩ := dot_slash_squeeze h
      exact ⟨m, n, rest', by rw [hpath, hrest]⟩
    · rw [removeDot_eq_self hdot] at h
      exact absurd h hdot
  · rintro ⟨m, n, rest, rfl⟩
    have hhead : (dot :: (List.replicate (n + 1) slash ++ rest)).head? ≠ some slash := by
      simpa using (by decide : dot ≠ slash)
    obtain ⟨tail, htail⟩ := squeeze_dot_slashes n rest
    rw [squeeze_cons fun hslash => absurd hslash.1 (by decide), squeeze_slashes m hhead,
      removeDot_dot_slash, htail]
    exact ⟨tail, rfl⟩

theorem not_normalizes_of_dottedTwice {path : Bytes} (h : DottedTwice path) :
    ¬ Normalizes path := by
  rintro ⟨result, hresult, hnormalized⟩
  have heq := hresult (path.length + 1) (Nat.lt_succ_self _)
  rw [normalizePath_eq (Nat.lt_succ_self _)] at heq
  cases heq
  exact hnormalized.no_dot (dot_slash_removeDot_iff.mpr h)

/-- **A path is normalised unless it begins with `./` twice.** -/
theorem normalizes_iff (path : Bytes) : Normalizes path ↔ ¬ DottedTwice path := by
  constructor
  · intro h htwice
    exact not_normalizes_of_dottedTwice htwice h
  · intro h
    refine ⟨removeDot (squeeze path), fun fuel => normalizePath_eq, ?_⟩
    apply isNormalized_removeDot
    rwa [dot_slash_removeDot_iff]

/-- A directory that was put in front of a path with a dot of its own. -/
theorem not_normalizes : ¬ ∀ path, Normalizes path := by
  intro hall
  have htwice : DottedTwice (bytes "././farado.db") := ⟨0, 0, bytes "farado.db", by decide⟩
  exact not_normalizes_of_dottedTwice htwice (hall _)

end Farado
