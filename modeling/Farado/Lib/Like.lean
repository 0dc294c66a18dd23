import Mathlib.Data.List.Infix

/-!
# The LIKE operator

`like pattern text` is SQL's `text LIKE pattern` without an ESCAPE clause: `%` stands for any run of
characters and `_` for any one, and ASCII letters match in either case.

A program that wants to know whether a text contains another one asks for `%other%`. That is the
right question if and only if `other` has no wildcard in it (`like_contains`, `like_fill`).
-/

namespace Like

def like : List Char → List Char → Bool
  | [], text => text.isEmpty
  | c :: pattern, text =>
      if c == '%' then text.tails.any fun rest => like pattern rest
      else match text with
        | [] => false
        | d :: text => (c == '_' || c.toLower == d.toLower) && like pattern text

/-- The pattern `%text%`. -/
def containing (text : List Char) : List Char := '%' :: (text ++ ['%'])

/-- No character of the text is a wildcard. -/
def WildcardFree (text : List Char) : Prop := '%' ∉ text ∧ '_' ∉ text

instance (text : List Char) : Decidable (WildcardFree text) := inferInstanceAs (Decidable (_ ∧ _))

theorem wildcardFree_cons {c : Char} {text : List Char} :
    WildcardFree (c :: text) ↔ (c ≠ '%' ∧ c ≠ '_') ∧ WildcardFree text := by
  simp only [WildcardFree, List.mem_cons, not_or]
  constructor
  · rintro ⟨⟨h1, h2⟩, h3, h4⟩
    exact ⟨⟨Ne.symm h1, Ne.symm h3⟩, h2, h4⟩
  · rintro ⟨⟨h1, h2⟩, h3, h4⟩
    exact ⟨⟨Ne.symm h1, h3⟩, Ne.symm h2, h4⟩

theorem like_percent {pattern text : List Char} :
    like ('%' :: pattern) text = true ↔ ∃ rest, rest <:+ text ∧ like pattern rest = true := by
  simp only [like, beq_self_eq_true, if_true, List.any_eq_true, List.mem_tails]

theorem like_cons {c : Char} (hc : c ≠ '%') {pattern text : List Char} :
    like (c :: pattern) text = true ↔ ∃ d rest, text = d :: rest ∧
      (c = '_' ∨ c.toLower = d.toLower) ∧ like pattern rest = true := by
  cases text with
  | nil => simp [like, hc]
  | cons d text =>
    simp only [like, beq_iff_eq, hc, if_false, Bool.and_eq_true, Bool.or_eq_true, List.cons.injEq]
    constructor
    · rintro ⟨hd, hrest⟩
      exact ⟨d, text, ⟨rfl, rfl⟩, hd, hrest⟩
    · rintro ⟨_, _, ⟨rfl, rfl⟩, hd, hrest⟩
      exact ⟨hd, hrest⟩

/-! ## Patterns without wildcards -/

theorem like_append_percent {text : List Char} (hfree : WildcardFree text) {whole : List Char} :
    like (text ++ ['%']) whole = true ↔ text.map Char.toLower <+: whole.map Char.toLower := by
  induction text generalizing whole with
  | nil =>
    simp only [List.nil_append, List.map_nil, List.nil_prefix, iff_true, like_percent]
    exact ⟨[], List.nil_suffix, rfl⟩
  | cons c text ih =>
    obtain ⟨⟨hpercent, hunderscore⟩, hfree⟩ := wildcardFree_cons.mp hfree
    rw [List.cons_append, like_cons hpercent]
    constructor
    · rintro ⟨d, rest, rfl, hd, hrest⟩
      rw [List.map_cons, List.map_cons, List.cons_prefix_cons]
      exact ⟨hd.resolve_left hunderscore, (ih hfree).mp hrest⟩
    · intro h
      cases whole with
      | nil => simp at h
      | cons d rest =>
        rw [List.map_cons, List.map_cons, List.cons_prefix_cons] at h
        exact ⟨d, rest, rfl, .inr h.1, (ih hfree).mpr h.2⟩

/-- **Without a wildcard the pattern means "contains", in either case of the letters.** -/
theorem like_contains {text : List Char} (hfree : WildcardFree text) {whole : List Char} :
    like (containing text) whole = true ↔ text.map Char.toLower <:+: whole.map Char.toLower := by
  rw [containing, like_percent, List.infix_iff_prefix_suffix]
  constructor
  · rintro ⟨rest, hsuffix, hlike⟩
    exact ⟨rest.map Char.toLower, (like_append_percent hfree).mp hlike, hsuffix.map _⟩
  · rintro ⟨lowered, hprefix, before, hbefore⟩
    -- the suffix of the lowered text begins where a suffix of the text does
    obtain ⟨first, rest, rfl, -, rfl⟩ := List.map_eq_append_iff.mp hbefore.symm
    exact ⟨rest, List.suffix_append _ _, (like_append_percent hfree).mpr hprefix⟩

/-! ## Patterns with wildcards -/

/-- Every wildcard replaced by the letter `a`. -/
def fill (text : List Char) : List Char := text.map fun c => if c == '%' || c == '_' then 'a' else c

theorem like_fill_percent (text : List Char) : like (text ++ ['%']) (fill text) = true := by
  induction text with
  | nil =>
    rw [List.nil_append, like_percent]
    exact ⟨[], List.nil_suffix, rfl⟩
  | cons c text ih =>
    rw [List.cons_append]
    by_cases hpercent : c = '%'
    · subst hpercent
      -- the run is the one letter that stands for the wildcard
      exact like_percent.mpr ⟨fill text, List.suffix_cons _ _, ih⟩
    · rw [like_cons hpercent]
      refine ⟨_, fill text, rfl, ?_, ih⟩
      by_cases hunderscore : c = '_'
      · exact .inl hunderscore
      · simp [hpercent, hunderscore]

/-- **A wildcard finds a text that does not contain the pattern's own.** -/
theorem like_fill (text : List Char) : like (containing text) (fill text) = true :=
  like_percent.mpr ⟨fill text, List.suffix_refl _, like_fill_percent text⟩

theorem wildcardFree_fill (text : List Char) : WildcardFree (fill text) := by
  unfold WildcardFree fill
  simp only [List.mem_map, not_exists, not_and]
  constructor <;> intro c _ h <;> split at h <;> simp_all

theorem not_infix_fill {text : List Char} (h : ¬ WildcardFree text) : ¬ text <:+: fill text := by
  intro hinfix
  have hlength : text.length = (fill text).length := (List.length_map _).symm
  have hsame : text = fill text := hinfix.eq_of_length hlength
  rw [hsame] at h
  exact h (wildcardFree_fill text)

end Like
