import Farado.Migrations.Manager

/-!
# Upgrades that fail on the way

An upgrade may fail in the middle of a migration, at the write of the version, at the commit, or
because a version is missing. What it leaves should then be exactly the migrations that were
completed, with the version of the last of them recorded.

The loop of `upgradeAll` counts in 32 bits, and after version 2^32 - 1 it goes on with version 0. So
there is one way for it to go wrong: **the greatest version is 2^32 - 1, all versions on the way are
there, and so is version 0**, which is then applied on top.
-/

namespace Farado

open Steps (Prog)
open MigrationManager

variable {C : Type}

/-- `Upgraded completes migrations k c k' c'`: the `up` of the versions `k + 1` to `k'`, one after
the other, takes the contents from `c` to `c'`. -/
inductive Upgraded (completes : Prog C Error Unit → C → C → Prop)
    (migrations : List (Migration C)) : Nat → C → Nat → C → Prop
  | here {k c} : Upgraded completes migrations k c k c
  | step {m k c c₁ k' c'} : m ∈ migrations → m.version.toNat = k + 1 → completes m.up c c₁ →
      Upgraded completes migrations (k + 1) c₁ k' c' → Upgraded completes migrations k c k' c'

/-- The code can be brought to its end, with or without steps that fail. -/
def CanComplete (code : Prog C Error Unit) (c c' : C) : Prop := Prog.Ends code c (.ok ()) c'

/-- The code completes when no step fails. -/
def Completes (code : Prog C Error Unit) (c c' : C) : Prop := code.run c = (.ok (), c')

/-- Durably the contents are `c` and the recorded version is `k`. -/
def Holds (s : Session C) (c : C) (k : Nat) : Prop :=
  ∃ w rows, s.durable = { content := c, schema := some (w :: rows) } ∧ (toUnsigned w).toNat = k

/-- What the manager owes where the version `v` is recorded beside the contents `c`. -/
structure Exact (given : List (Migration C)) (registry : Registry C) (v : UInt32) (s : Session C)
    (c : C) : Prop where
  /-- `upgradeAll`: whatever fails, a number of migrations is done, and that is recorded. -/
  all : ∀ {iterations : Nat} {r : Except MigrationError Unit} {s' : Session C},
    Prog.Ends (upgradeAll registry iterations) s r s' → r ≠ .error .unfinished →
      ∃ k c', Upgraded CanComplete given v.toNat c k c' ∧ Holds s' c' k ∧
        (r = .ok () → k = (maxVersion registry).toNat)
  /-- When nothing fails and no version is missing, it is all of them. -/
  latest : ∀ {iterations : Nat} {c' : C}, 2 ^ 32 ≤ iterations →
    Upgraded Completes given v.toNat c (maxVersion registry).toNat c' →
      Holds ((upgradeAll registry iterations).after s) c' (maxVersion registry).toNat
  /-- The loop comes to an end. -/
  ends : ∀ {iterations : Nat} {r : Except MigrationError Unit} {s' : Session C},
    2 ^ 32 ≤ iterations → Prog.Ends (upgradeAll registry iterations) s r s' →
      r ≠ .error .unfinished
  /-- `upgradeOne`: the next migration with its version, or nothing. -/
  up : ∀ {r : Except MigrationError Unit} {s' : Session C},
    Prog.Ends (upgradeOne registry) s r s' →
      (r = .ok () ∧ ∃ m ∈ given, m.version.toNat = v.toNat + 1 ∧
        ∃ c', CanComplete m.up c c' ∧ Holds s' c' (v.toNat + 1)) ∨
      (∃ e, r = .error e) ∧ s'.durable = s.durable
  /-- `downgradeOne`: the last migration taken back with its version, or nothing. -/
  down : ∀ {r : Except MigrationError Unit} {s' : Session C},
    Prog.Ends (downgradeOne registry) s r s' →
      (r = .ok () ∧ ∃ m ∈ given, m.version = v ∧
        ∃ c' k, CanComplete m.down c c' ∧ Holds s' c' k ∧ v.toNat = k + 1) ∨
      (∃ e, r = .error e) ∧ s'.durable = s.durable

/-- The manager is exact for migrations of these versions, given in this order, and any database
that records the version `v`. -/
def UpgradesExactly (versions : List UInt32) (v : UInt32) : Prop :=
  ∀ {C : Type} {given : List (Migration C)} {registry : Registry C} {s : Session C} {c : C},
    given.map Migration.version = versions → registerAll given = .ok registry →
    s.saved = none → Holds s c v.toNat → Exact given registry v s c

/-- The loop counter can wrap around and find a migration there. -/
def Wraps (versions : List UInt32) (v : UInt32) : Prop :=
  0 ∈ versions ∧ v < 4294967295 ∧ ∀ u, v < u → u ∈ versions

/-! ## What a migration leaves -/

theorem toUnsigned_natCast (v : UInt32) : toUnsigned (v.toNat : Int) = v := by
  apply UInt32.toNat_inj.mp
  unfold toUnsigned UInt32.ofInt
  have hlt := v.toNat_lt
  simp
  omega

theorem Holds.live {s : Session C} {c : C} {k : Nat} (hs : s.saved = none) (h : Holds s c k) :
    s.live.content = c ∧ ∃ w rows, s.live.schema = some (w :: rows) ∧ (toUnsigned w).toNat = k := by
  obtain ⟨w, rows, hdurable, hk⟩ := h
  rw [Steps.Session.durable_eq_live hs] at hdurable
  rw [hdurable]
  exact ⟨rfl, w, rows, rfl, hk⟩

/-- What the manager reads is the recorded version. -/
theorem Holds.versionOf_eq {s : Session C} {c : C} {v : UInt32} {rows : List Int}
    (hs : s.saved = none) (h : Holds s c v.toNat) (hrows : s.live.schema = some rows) :
    versionOf rows = v := by
  obtain ⟨-, w, rows', hrows', hw⟩ := h.live hs
  rw [hrows] at hrows'
  rw [Option.some.inj hrows']
  exact UInt32.toNat_inj.mp hw

/-- The content moves on, and the recorded version with it. -/
theorem Holds.applies {s s' : Session C} {c : C} {k : Nat} {code : Prog C Error Unit} {v : UInt32}
    (hs : s.saved = none) (h : Holds s c k) (happlies : Applies code v s s') :
    ∃ c', CanComplete code c c' ∧ Holds s' c' v.toNat := by
  obtain ⟨rfl, w, rows, hrows, -⟩ := h.live hs
  obtain ⟨c', rows', hcode, hrows', rfl⟩ := happlies
  rw [hrows] at hrows'
  obtain rfl := Option.some.inj hrows'
  refine ⟨c', hcode, v.toNat, rows.map fun _ => (v.toNat : Int), rfl, ?_⟩
  rw [toUnsigned_natCast]

/-- `Holds` is about durable contents only. -/
theorem Holds.of_durable_eq {s s' : Session C} {c : C} {k : Nat} (h : Holds s c k)
    (hdurable : s'.durable = s.durable) : Holds s' c k := by
  obtain ⟨w, rows, hs, hk⟩ := h
  exact ⟨w, rows, hdurable.trans hs, hk⟩

/-- There is one content and one recorded version. -/
theorem Holds.unique {s : Session C} {c c' : C} {k k' : Nat} (h : Holds s c k)
    (h' : Holds s c' k') : c = c' ∧ k = k' := by
  obtain ⟨w, rows, hs, rfl⟩ := h
  obtain ⟨w', rows', hs', rfl⟩ := h'
  rw [hs] at hs'
  cases hs'
  exact ⟨rfl, rfl⟩

theorem Upgraded.le {completes : Prog C Error Unit → C → C → Prop}
    {migrations : List (Migration C)} {k k' : Nat} {c c' : C}
    (h : Upgraded completes migrations k c k' c') : k ≤ k' := by
  induction h with
  | here => exact Nat.le_refl _
  | step _ _ _ _ ih => exact Nat.le_of_succ_le ih

/-- A chain that leads no higher is empty. -/
theorem Upgraded.content_eq {completes : Prog C Error Unit → C → C → Prop}
    {migrations : List (Migration C)} {k k' : Nat} {c c' : C}
    (h : Upgraded completes migrations k c k' c') (hle : k' ≤ k) : c' = c := by
  cases h with
  | here => rfl
  | step _ _ _ hrest =>
    have hback := hrest.le
    omega

/-- The counter, for as long as it has not wrapped around. -/
theorem toNat_succ {u : UInt32} (h : u.toNat + 1 < 2 ^ 32) : (u + 1).toNat = u.toNat + 1 := by
  rw [UInt32.toNat_add]
  exact Nat.mod_eq_of_lt h

theorem succ_eq_zero {u : UInt32} (h : u.toNat + 1 = 2 ^ 32) : u + 1 = 0 := by
  apply UInt32.toNat_inj.mp
  rw [UInt32.toNat_add]
  show (u.toNat + 1) % 2 ^ 32 = 0
  rw [h, Nat.mod_self]

/-! ## The loop -/

section
variable {given : List (Migration C)} {registry : Registry C} {v : UInt32}

/-- The versions above `v` up to `k` are all there. -/
def Registered (registry : Registry C) (v : UInt32) (k : Nat) : Prop :=
  ∀ u : UInt32, v < u → u.toNat ≤ k → u ∈ registry.versions

theorem registered_self : Registered registry v v.toNat := by
  intro u hlt hle
  exact absurd (UInt32.lt_iff_toNat_lt.mp hlt) (Nat.not_lt.mpr hle)

theorem Registered.step {m : Migration C} {k : Nat} (h : Registered registry v k)
    (hm : m ∈ registry.migrations) (hversion : m.version.toNat = k + 1) :
    Registered registry v (k + 1) := by
  intro u hlt hle
  by_cases hk : u.toNat ≤ k
  · exact h u hlt hk
  · have hu : u = m.version := by
      apply UInt32.toNat_inj.mp
      omega
    rw [hu]
    exact Registry.mem_versions hm

/-- Once the counter has wrapped around, there is no migration for it. -/
theorem Registered.no_zero {k : Nat} (h : Registered registry v k)
    (hwraps : ¬ Wraps registry.versions v) (hv : v.toNat < k) (hk : k + 1 = 2 ^ 32) :
    0 ∉ registry.versions := by
  intro hzero
  apply hwraps
  refine ⟨hzero, ?_, ?_⟩
  · apply UInt32.lt_iff_toNat_lt.mpr
    show v.toNat < 4294967295
    omega
  · intro u hlt
    have hu := u.toNat_lt
    exact h u hlt (by omega)

/-- The migrations the loop goes through are those of consecutive versions. -/
theorem upgraded_of_climb (hgiven : ∀ m ∈ registry.migrations, m ∈ given)
    (hwraps : ¬ Wraps registry.versions v) {u u' : UInt32} {s s' : Session C} {c : C} {k : Nat}
    (hs : s.saved = none) (hholds : Holds s c k) (hu : u.toNat = k + 1) (hv : v.toNat ≤ k)
    (hmax : k ≤ (maxVersion registry).toNat) (hreg : Registered registry v k)
    (h : Climb registry u s u' s') :
    ∃ k' c', Upgraded CanComplete given k c k' c' ∧ Holds s' c' k' ∧
      (maxVersion registry < u' → k' = (maxVersion registry).toNat) := by
  induction h generalizing c k with
  | here =>
    refine ⟨k, c, .here, hholds, fun hlt => ?_⟩
    have hlt' := UInt32.lt_iff_toNat_lt.mp hlt
    omega
  | @step m u s s₁ u' s' hm hversion happlies hrest ih =>
    obtain ⟨c₁, hcode, hholds₁⟩ := hholds.applies hs happlies
    rw [hu] at hholds₁
    have hk : m.version.toNat = k + 1 := by rw [hversion, hu]
    have hreg₁ := hreg.step hm hk
    have hle : k + 1 ≤ (maxVersion registry).toNat := by
      have hm' := UInt32.le_iff_toNat_le.mp (le_maxVersion (Registry.mem_versions hm))
      omega
    by_cases hlast : u.toNat + 1 = 2 ^ 32
    · -- this was version 2^32 - 1: the counter is 0 now, and no migration is found
      have hzero := hreg₁.no_zero hwraps (by omega) (by omega)
      cases hrest with
      | here =>
        refine ⟨k + 1, c₁, .step (hgiven m hm) hk hcode .here, hholds₁, fun hlt => ?_⟩
        rw [succ_eq_zero hlast] at hlt
        exact absurd hlt (UInt32.not_lt_zero)
      | step hm' hversion' _ _ =>
        have hmem := Registry.mem_versions hm'
        rw [hversion', succ_eq_zero hlast] at hmem
        exact absurd hmem hzero
    · have hlt := u.toNat_lt
      have hu₁ : (u + 1).toNat = k + 1 + 1 := by
        rw [toNat_succ (by omega), hu]
      obtain ⟨k', c', hupgraded, hrest'⟩ :=
        ih happlies.saved hholds₁ hu₁ (by omega) hle hreg₁
      exact ⟨k', c', .step (hgiven m hm) hk hcode hupgraded, hrest'⟩

/-- Nothing fails: the loop takes every migration there is. -/
theorem after_upgradeLoop (hgiven : ∀ m ∈ given, m ∈ registry.migrations)
    (hwraps : ¬ Wraps registry.versions v) {u : UInt32} {s : Session C} {c c' : C} {k : Nat}
    {iterations : Nat} (hs : s.saved = none) (hholds : Holds s c k)
    (hu : u.toNat = (k + 1) % 2 ^ 32) (hv : v.toNat ≤ k) (hvmax : v < maxVersion registry)
    (hreg : Registered registry v k) (hiterations : 2 ^ 32 ≤ iterations + k)
    (h : Upgraded Completes given k c (maxVersion registry).toNat c') :
    Holds ((upgradeLoop registry iterations u).after s) c' (maxVersion registry).toNat := by
  generalize hK : (maxVersion registry).toNat = K at h
  have hKlt := (maxVersion registry).toNat_lt
  have hvmax' := UInt32.lt_iff_toNat_lt.mp hvmax
  induction h generalizing u s iterations with
  | @here k c =>
    obtain ⟨n, rfl⟩ : ∃ n, iterations = n + 1 := ⟨iterations - 1, by omega⟩
    by_cases hlast : k + 1 = 2 ^ 32
    · -- the counter has wrapped around
      have hzero := hreg.no_zero hwraps (by omega) hlast
      have hu0 : u = 0 := by
        apply UInt32.toNat_inj.mp
        rw [hu, hlast]
        rfl
      rw [hu0, upgradeLoop_missing UInt32.zero_le hzero]
      exact hholds
    · have hmax : maxVersion registry < u := by
        apply UInt32.lt_iff_toNat_lt.mpr
        rw [hu, hK, Nat.mod_eq_of_lt (by omega)]
        exact Nat.lt_succ_self k
      rw [upgradeLoop_done hmax]
      exact hholds
  | @step m k c c₁ K c' hm hversion hcode hrest ih =>
    obtain ⟨n, rfl⟩ : ∃ n, iterations = n + 1 := ⟨iterations - 1, by have := hrest.le; omega⟩
    have hm' := hgiven m hm
    have hlt := m.version.toNat_lt
    have hum : u = m.version := by
      apply UInt32.toNat_inj.mp
      rw [hu, hversion, Nat.mod_eq_of_lt (by omega)]
    obtain ⟨hcontent, w, rows, hrows, -⟩ := hholds.live hs
    rw [← hcontent] at hcode
    have hfirst := run_inTransaction (.upgrade u) u hs hcode hrows
    have hafter := Prog.run_bind_ok (k := fun _ => upgradeLoop registry n (u + 1)) hfirst
    rw [hum] at hafter ⊢
    rw [Prog.after, upgradeLoop_found hm', hafter]
    apply ih rfl
    · exact ⟨m.version.toNat, _, rfl, by rw [toUnsigned_natCast, hversion]⟩
    · rw [UInt32.toNat_add, hversion]
      rfl
    · omega
    · exact hreg.step hm' hversion
    · omega
    · exact hK

/-- A transaction fails with an exception of the code's own. -/
theorem ne_unfinished_of_inTransaction {code : Prog C Error Unit} {u u' : UInt32}
    {s s' : Session C} {e : MigrationError} (hs : s.saved = none)
    (h : Prog.Ends (inTransaction (.upgrade u) code u') s (.error e) s') : e ≠ .unfinished := by
  rcases ends_inTransaction hs h with ⟨hok, -⟩ | ⟨⟨_, herr⟩ | herr, -⟩
  · cases hok
  · rw [Except.error.inj herr]
    rintro ⟨⟩
  · rw [Except.error.inj herr]
    rintro ⟨⟩

/-- 2^32 iterations are enough. -/
theorem ends_of_iterations (hwraps : ¬ Wraps registry.versions v) {u : UInt32} {s s' : Session C}
    {r : Except MigrationError Unit} {iterations k : Nat} (hs : s.saved = none)
    (hu : u.toNat = (k + 1) % 2 ^ 32) (hv : v.toNat ≤ k) (hvmax : v < maxVersion registry)
    (hk : k < 2 ^ 32) (hreg : Registered registry v k) (hiterations : 2 ^ 32 ≤ iterations + k)
    (h : Prog.Ends (upgradeLoop registry iterations u) s r s') : r ≠ .error .unfinished := by
  induction iterations generalizing u s k with
  | zero => omega
  | succ n ih =>
    have hvmax' := UInt32.lt_iff_toNat_lt.mp hvmax
    have hmaxlt := (maxVersion registry).toNat_lt
    rcases upgradeLoop_cases registry u with ⟨m, hm, rfl⟩ | ⟨hle, hmissing⟩ | hmax
    · rw [upgradeLoop_found hm] at h
      -- a migration was found, so the counter has not wrapped around
      have hlast : k + 1 ≠ 2 ^ 32 := by
        intro hlast
        apply hreg.no_zero hwraps (by omega) hlast
        have hzero : m.version = 0 := by
          apply UInt32.toNat_inj.mp
          rw [hu, hlast]
          rfl
        rw [← hzero]
        exact Registry.mem_versions hm
      have hversion : m.version.toNat = k + 1 := by
        rw [hu, Nat.mod_eq_of_lt (by omega)]
      rcases Prog.ends_bind_iff.mp h with ⟨_, s₁, hfirst, hrest⟩ | ⟨e, hfirst, hr⟩
      · rcases ends_inTransaction hs hfirst with ⟨-, happlies⟩ | ⟨⟨_, herr⟩ | herr, -⟩
        · apply ih happlies.saved ?_ (Nat.le_succ_of_le hv) ?_ (hreg.step hm hversion) ?_ hrest
          · rw [UInt32.toNat_add, hversion]
            rfl
          · omega
          · omega
        · cases herr
        · cases herr
      · rw [hr]
        exact fun herr => ne_unfinished_of_inTransaction hs hfirst (Except.error.inj herr)
    · rw [upgradeLoop_missing hle hmissing] at h
      rw [(Prog.ends_throw_iff.mp h).1]
      rintro ⟨⟩
    · rw [upgradeLoop_done hmax] at h
      rw [(Prog.ends_pure_iff.mp h).1]
      rintro ⟨⟩

theorem toNat_next (h : v < maxVersion registry) : (v + 1).toNat = v.toNat + 1 := by
  have hlt := UInt32.lt_iff_toNat_lt.mp h
  have hmax := (maxVersion registry).toNat_lt
  exact toNat_succ (by omega)

/-! ## The calls -/

section
variable {s s' : Session C} {c c' : C} {r : Except MigrationError Unit} {iterations : Nat}
variable (hperm : registry.migrations.Perm given) (hs : s.saved = none)
variable (hholds : Holds s c v.toNat)

include hs hholds

/-- What `upgradeAll` starts the loop with. -/
theorem ends_upgradeAll_loop (h : Prog.Ends (upgradeAll registry iterations) s r s') :
    ((∃ e, r = .error e ∧ e ≠ .unfinished) ∧ s' = s) ∨
      v < maxVersion registry ∧ Prog.Ends (upgradeLoop registry iterations (v + 1)) s r s' := by
  rcases ends_upgradeAll h with hearly | ⟨rows, hrows, hlt, hloop⟩
  · exact .inl hearly
  · rw [hholds.versionOf_eq hs hrows] at hlt hloop
    exact .inr ⟨hlt, hloop⟩

include hperm

theorem upgradeAll_exact (hwraps : ¬ Wraps registry.versions v)
    (h : Prog.Ends (upgradeAll registry iterations) s r s') :
    ∃ k c', Upgraded CanComplete given v.toNat c k c' ∧ Holds s' c' k ∧
      (r = .ok () → k = (maxVersion registry).toNat) := by
  rcases ends_upgradeAll_loop hs hholds h with ⟨⟨e, hr, -⟩, rfl⟩ | ⟨hlt, hloop⟩
  · refine ⟨v.toNat, c, .here, hholds, fun hok => ?_⟩
    rw [hr] at hok
    cases hok
  · have hle := Nat.le_of_lt (UInt32.lt_iff_toNat_lt.mp hlt)
    obtain ⟨u, s₁, hclimb, hend⟩ := ends_upgradeLoop hs hloop
    obtain ⟨k, c', hupgraded, hholds', hk⟩ :=
      upgraded_of_climb (fun m => hperm.mem_iff.mp) hwraps hs hholds (toNat_next hlt)
        (Nat.le_refl _) hle registered_self hclimb
    refine ⟨k, c', hupgraded, ?_⟩
    rcases hend with ⟨-, rfl, -, hu⟩ | ⟨⟨e, hr⟩, hs'⟩
    · exact ⟨hholds', fun _ => hk hu⟩
    · refine ⟨hholds'.of_durable_eq hs', fun hok => ?_⟩
      rw [hr] at hok
      cases hok

theorem upgradeAll_latest (hwraps : ¬ Wraps registry.versions v) (hiterations : 2 ^ 32 ≤ iterations)
    (h : Upgraded Completes given v.toNat c (maxVersion registry).toNat c') :
    Holds ((upgradeAll registry iterations).after s) c' (maxVersion registry).toNat := by
  obtain ⟨-, w, rows, hrows, -⟩ := hholds.live hs
  have hread := run_readVersion hrows
  rw [hholds.versionOf_eq hs hrows] at hread
  by_cases hle : maxVersion registry ≤ v
  · -- nothing to do
    have hrun : (upgradeAll registry iterations).run s = (.error (.alreadyLatest v), s) := by
      unfold upgradeAll
      rw [Prog.run_bind_ok hread, if_pos hle]
      rfl
    have hle' := UInt32.le_iff_toNat_le.mp hle
    have hsame : (maxVersion registry).toNat = v.toNat := Nat.le_antisymm hle' h.le
    rw [Prog.after, hrun, h.content_eq hle', hsame]
    exact hholds
  · have hlt := UInt32.not_le.mp hle
    have hrun : (upgradeAll registry iterations).run s =
        (upgradeLoop registry iterations (v + 1)).run s := by
      unfold upgradeAll
      rw [Prog.run_bind_ok hread, if_neg hle]
    have hnext : (v + 1).toNat = (v.toNat + 1) % 2 ^ 32 := by
      rw [UInt32.toNat_add]
      rfl
    rw [Prog.after, hrun]
    exact after_upgradeLoop (fun m => hperm.mem_iff.mpr) hwraps hs hholds hnext (Nat.le_refl _) hlt
      registered_self (by omega) h

theorem upgradeOne_exact (h : Prog.Ends (upgradeOne registry) s r s') :
    (r = .ok () ∧ ∃ m ∈ given, m.version.toNat = v.toNat + 1 ∧
      ∃ c', CanComplete m.up c c' ∧ Holds s' c' (v.toNat + 1)) ∨
    (∃ e, r = .error e) ∧ s'.durable = s.durable := by
  rcases ends_upgradeOne hs h with ⟨hr, rows, hrows, hlt, m, hm, hversion, happlies⟩ | hfailed
  · rw [hholds.versionOf_eq hs hrows] at hlt hversion happlies
    have hnext := toNat_next hlt
    obtain ⟨c', hcode, hholds'⟩ := hholds.applies hs happlies
    rw [hnext] at hholds'
    rw [← hversion] at hnext
    exact .inl ⟨hr, m, hperm.mem_iff.mp hm, hnext, c', hcode, hholds'⟩
  · exact .inr hfailed

theorem downgradeOne_exact (h : Prog.Ends (downgradeOne registry) s r s') :
    (r = .ok () ∧ ∃ m ∈ given, m.version = v ∧
      ∃ c' k, CanComplete m.down c c' ∧ Holds s' c' k ∧ v.toNat = k + 1) ∨
    (∃ e, r = .error e) ∧ s'.durable = s.durable := by
  rcases ends_downgradeOne hs h with ⟨hr, rows, hrows, hne, m, hm, hversion, happlies⟩ | hfailed
  · rw [hholds.versionOf_eq hs hrows] at hne hversion happlies
    obtain ⟨c', hcode, hholds'⟩ := hholds.applies hs happlies
    have hpos : v.toNat ≠ 0 := fun hzero => hne (UInt32.toNat_inj.mp hzero)
    have hprevious : v.toNat = (v - 1).toNat + 1 := by
      have hone : (1 : UInt32) ≤ v := UInt32.le_iff_toNat_le.mpr (Nat.one_le_iff_ne_zero.mpr hpos)
      rw [UInt32.toNat_sub_of_le v 1 hone]
      exact (Nat.succ_pred hpos).symm
    exact .inl ⟨hr, m, hperm.mem_iff.mp hm, hversion, c', _, hcode, hholds', hprevious⟩
  · exact .inr hfailed

/-- Unless the counter can run into a migration again, the manager is exact. -/
theorem exact_of_not_wraps (hwraps : ¬ Wraps registry.versions v) :
    Exact given registry v s c where
  all h _ := upgradeAll_exact hperm hs hholds hwraps h
  latest hiterations h := upgradeAll_latest hperm hs hholds hwraps hiterations h
  ends hiterations h := by
    rcases ends_upgradeAll_loop hs hholds h with ⟨⟨e, hr, he⟩, -⟩ | ⟨hlt, hloop⟩
    · rw [hr]
      exact fun herr => he (Except.error.inj herr)
    · have hnext : (v + 1).toNat = (v.toNat + 1) % 2 ^ 32 := by
        rw [UInt32.toNat_add]
        rfl
      exact ends_of_iterations hwraps hs hnext (Nat.le_refl _) hlt v.toNat_lt registered_self
        (by omega) hloop
  up h := upgradeOne_exact hperm hs hholds h
  down h := downgradeOne_exact hperm hs hholds h

end

end

/-! ## Around and on -/

/-- A migration that notes down that it has been applied. -/
def noting (u : UInt32) : Migration (List UInt32) where
  version := u
  up := Prog.atomic .sqlFault fun noted => (.ok (), noted ++ [u])
  down := pure ()

theorem run_noting {m : Migration (List UInt32)} (hm : m = noting m.version)
    (noted : List UInt32) : m.up.run noted = (.ok (), noted ++ [m.version]) := by
  rw [hm]
  rfl

/-- `BEGIN` can fail. -/
theorem fault_inTransaction {wrap : MigrationError → MigrationError} {code : Prog C Error Unit}
    {v : UInt32} {s : Session C} :
    Prog.Ends (inTransaction wrap code v) s (.error (.statement .sqlFault)) s :=
  Prog.ends_bind_iff.mpr (.inr ⟨_, Prog.ends_atomic_iff.mpr (.inr ⟨rfl, rfl⟩), rfl⟩)

section
variable {registry : Registry (List UInt32)} {s : Session (List UInt32)}
variable (hnoting : ∀ m ∈ registry.migrations, m = noting m.version)

include hnoting

/-- One iteration that goes well. -/
theorem step_noting {v : UInt32} (hv : v ∈ registry.versions) (hs : s.saved = none) {w : Int}
    {rows : List Int} (hrows : s.live.schema = some (w :: rows)) {iterations : Nat}
    {r : Except MigrationError Unit} {s' s₁ : Session (List UInt32)}
    (hs₁ : s₁ = { live := { content := s.live.content ++ [v],
                            schema := some (setVersionOf v (w :: rows)) } })
    (h : Prog.Ends (upgradeLoop registry iterations (v + 1)) s₁ r s') :
    Prog.Ends (upgradeLoop registry (iterations + 1) v) s r s' := by
  obtain ⟨m, hm, rfl⟩ := List.mem_map.mp hv
  have hrun := run_inTransaction (.upgrade m.version) m.version hs
    (run_noting (hnoting m hm) s.live.content) hrows
  have hends := Prog.ends_run (inTransaction (.upgrade m.version) m.up m.version) s
  rw [hrun] at hends
  rw [upgradeLoop_found hm]
  rw [hs₁] at h
  exact Prog.ends_bind_iff.mpr (.inl ⟨(), _, hends, h⟩)

/-- The counter is 0, and so there is a migration for it once more. The next iteration ends the
upgrade: its version is missing, or its transaction cannot be begun. -/
theorem apply_zero (hzero : 0 ∈ registry.versions) (hlast : 4294967295 ∈ registry.versions)
    (hs : s.saved = none) {w : Int} {rows : List Int} (hrows : s.live.schema = some (w :: rows)) :
    ∃ r s', Prog.Ends (upgradeLoop registry 2 0) s r s' ∧ r ≠ .error .unfinished ∧
      Holds s' (s.live.content ++ [0]) 0 := by
  have hmax := UInt32.le_iff_toNat_le.mp (le_maxVersion hlast)
  have hholds : Holds { live := { content := s.live.content ++ [0],
                                  schema := some (setVersionOf 0 (w :: rows)) } }
      (s.live.content ++ [0]) 0 := ⟨0, _, rfl, rfl⟩
  -- whether version 1 is there, is missing, or lies above the greatest version
  rcases upgradeLoop_cases registry 1 with ⟨m, hm, hone⟩ | ⟨hle, hone⟩ | hdone
  · refine ⟨.error (.statement .sqlFault), _, step_noting hnoting hzero hs hrows rfl ?_, ?_, hholds⟩
    · show Prog.Ends (upgradeLoop registry 1 1) _ _ _
      rw [← hone, upgradeLoop_found hm]
      exact Prog.ends_bind_iff.mpr (.inr ⟨_, fault_inTransaction, rfl⟩)
    · rintro ⟨⟩
  · refine ⟨.error (.notFound 1), _, step_noting hnoting hzero hs hrows rfl ?_, ?_, hholds⟩
    · show Prog.Ends (upgradeLoop registry 1 1) _ _ _
      rw [upgradeLoop_missing hle hone]
      exact Prog.ends_throw_iff.mpr ⟨rfl, rfl⟩
    · rintro ⟨⟩
  · have hdone' := UInt32.lt_iff_toNat_lt.mp hdone
    have hone : (1 : UInt32).toNat = 1 := rfl
    have hbig : (4294967295 : UInt32).toNat = 4294967295 := rfl
    omega

/-- From any version on whose successors are all there, the loop comes to 0. -/
theorem wraps_around (hzero : 0 ∈ registry.versions) (remaining : Nat) {u : UInt32}
    (hu : u.toNat + remaining = 4294967295) (hall : ∀ u', u ≤ u' → u' ∈ registry.versions)
    (hs : s.saved = none) {w : Int} {rows : List Int} (hrows : s.live.schema = some (w :: rows)) :
    ∃ r s' noted, Prog.Ends (upgradeLoop registry (remaining + 3) u) s r s' ∧
      r ≠ .error .unfinished ∧ Holds s' noted 0 ∧ noted ≠ [] := by
  have hlast : 4294967295 ∈ registry.versions := by
    apply hall
    apply UInt32.le_iff_toNat_le.mpr
    show u.toNat ≤ 4294967295
    omega
  induction remaining generalizing u s w rows with
  | zero =>
    obtain ⟨r, s', hends, hr, hholds⟩ := apply_zero hnoting hzero hlast
      (s := { live := { content := s.live.content ++ [u],
                        schema := some (setVersionOf u (w :: rows)) } }) rfl rfl
    rw [← succ_eq_zero (u := u) (by omega)] at hends
    have hfirst := step_noting hnoting (hall u (UInt32.le_refl u)) hs hrows rfl hends
    refine ⟨r, s', _, hfirst, hr, hholds, ?_⟩
    simp
  | succ remaining ih =>
    have hnext : (u + 1).toNat = u.toNat + 1 := toNat_succ (by omega)
    have habove : ∀ u', u + 1 ≤ u' → u' ∈ registry.versions := by
      intro u' hle
      apply hall
      have hle' := UInt32.le_iff_toNat_le.mp hle
      apply UInt32.le_iff_toNat_le.mpr
      omega
    obtain ⟨r, s', noted, hends, hrest⟩ := ih (u := u + 1)
      (s := { live := { content := s.live.content ++ [u],
                        schema := some (setVersionOf u (w :: rows)) } })
      (by omega) habove rfl rfl
    exact ⟨r, s', noted, step_noting hnoting (hall u (UInt32.le_refl u)) hs hrows rfl hends, hrest⟩

end

theorem versions_noting (versions : List UInt32) :
    (versions.map noting).map Migration.version = versions := by
  rw [List.map_map]
  exact List.map_id _

/-- Migrations of any distinct versions that note down that they have been applied. -/
theorem exists_registry_noting {versions : List UInt32} (hnodup : versions.Nodup) :
    ∃ registry, registerAll (versions.map noting) = .ok registry ∧
      (∀ u, u ∈ registry.versions ↔ u ∈ versions) ∧
      ∀ m ∈ registry.migrations, m = noting m.version := by
  obtain ⟨registry, hregistry⟩ : ∃ registry, registerAll (versions.map noting) = .ok registry := by
    apply registerAll_ok
    rw [versions_noting]
    exact hnodup
  have hperm := registerAll_perm hregistry
  refine ⟨registry, hregistry, ?_, ?_⟩
  · intro u
    have hmem := (hperm.map Migration.version).mem_iff (a := u)
    rw [versions_noting] at hmem
    exact hmem
  · intro m hm
    obtain ⟨u, -, rfl⟩ := List.mem_map.mp (hperm.mem_iff.mp hm)
    rfl

/-- The loop, as `upgradeAll` starts it. -/
theorem upgradeAll_of_loop {registry : Registry C} {v : UInt32} {s s' : Session C}
    {r : Except MigrationError Unit} {iterations : Nat} {rows : List Int}
    (hrows : s.live.schema = some rows) (hv : versionOf rows = v) (hlt : v < maxVersion registry)
    (h : Prog.Ends (upgradeLoop registry iterations (v + 1)) s r s') :
    Prog.Ends (upgradeAll registry iterations) s r s' := by
  have hread := Prog.ends_run (Steps.Session.onLive currentVersion) s
  rw [run_readVersion hrows, hv] at hread
  refine Prog.ends_bind_iff.mpr (.inl ⟨v, s, hread, ?_⟩)
  rw [if_neg (UInt32.not_le.mpr hlt)]
  exact h

/-- Where the counter wraps around, the manager is not exact. -/
theorem not_upgradesExactly {versions : List UInt32} {v : UInt32} (hnodup : versions.Nodup)
    (hwraps : Wraps versions v) : ¬ UpgradesExactly versions v := by
  intro hexact
  obtain ⟨hzero, hlt, hall⟩ := hwraps
  have hlt' : v.toNat < 4294967295 := UInt32.lt_iff_toNat_lt.mp hlt
  obtain ⟨registry, hregistry, hversions, hnoting⟩ := exists_registry_noting hnodup
  -- an empty database that records `v`
  let s : Session (List UInt32) := { live := { content := [], schema := some [(v.toNat : Int)] } }
  have hholds : Holds s [] v.toNat := ⟨v.toNat, [], rfl, by rw [toUnsigned_natCast]⟩
  have hnext : (v + 1).toNat = v.toNat + 1 := toNat_succ (by omega)
  have habove : ∀ u, v + 1 ≤ u → u ∈ registry.versions := by
    intro u hle
    have hle' := UInt32.le_iff_toNat_le.mp hle
    apply (hversions u).mpr
    apply hall
    apply UInt32.lt_iff_toNat_lt.mpr
    omega
  obtain ⟨r, s', noted, hends, hr, hholds', hnoted⟩ := wraps_around hnoting
    ((hversions 0).mpr hzero) (4294967295 - (v.toNat + 1)) (u := v + 1) (by omega) habove
    (s := s) rfl rfl
  have hmax : v < maxVersion registry :=
    UInt32.lt_of_lt_of_le hlt (le_maxVersion ((hversions _).mpr (hall _ hlt)))
  have hupgrade := upgradeAll_of_loop (s := s) rfl (toUnsigned_natCast v) hmax hends
  obtain ⟨k, c', hupgraded, hagain, -⟩ :=
    (hexact (versions_noting versions) hregistry rfl hholds).all hupgrade hr
  -- the chain from `v` up to 0 would have to be empty
  obtain ⟨rfl, rfl⟩ := hholds'.unique hagain
  exact hnoted (hupgraded.content_eq (Nat.zero_le _))

/-- **An upgrade is exact unless the version counter can wrap around.** -/
theorem upgradesExactly_iff {versions : List UInt32} {v : UInt32} (h : versions.Nodup) :
    UpgradesExactly versions v ↔ ¬ Wraps versions v := by
  constructor
  · intro hexact hwraps
    exact not_upgradesExactly h hwraps hexact
  · intro hwraps C given registry s c hgiven hregistry hs hholds
    have hperm := registerAll_perm hregistry
    apply exact_of_not_wraps hperm hs hholds
    intro hwraps'
    apply hwraps
    have hmem : ∀ u, u ∈ registry.versions → u ∈ versions := by
      intro u hu
      rw [← hgiven]
      exact (hperm.map Migration.version).mem_iff.mp hu
    exact ⟨hmem _ hwraps'.1, hwraps'.2.1, fun u hlt => hmem _ (hwraps'.2.2 u hlt)⟩

/-- The versions of the repository, registered the wrong way round, on a fresh database. -/
theorem upgradesExactly_fresh : UpgradesExactly [2, 1] 0 := by
  apply (upgradesExactly_iff (by decide)).mpr
  rintro ⟨hzero, -, -⟩
  exact absurd hzero (by decide)

/-- With versions 0 and 2^32 - 1 and the version before recorded, version 0 is applied last, and it
is recorded. -/
theorem upgrade_runs_past_latest :
    ¬ UpgradesExactly [0, 4294967295] 4294967294 ∧
    ∃ registry : Registry (List UInt32),
      registerAll [noting 0, noting 4294967295] = .ok registry ∧
      (upgradeAll registry 3).run
          { live := { content := [], schema := some [4294967294] } } =
        (.error (.notFound 1), { live := { content := [4294967295, 0], schema := some [0] } }) := by
  constructor
  · apply not_upgradesExactly (by decide)
    refine ⟨by decide, by decide, ?_⟩
    intro u hlt
    have hlt' : 4294967294 < u.toNat := UInt32.lt_iff_toNat_lt.mp hlt
    have hu := u.toNat_lt
    have hlast : u = 4294967295 := by
      apply UInt32.toNat_inj.mp
      show u.toNat = 4294967295
      omega
    rw [hlast]
    decide
  · exact ⟨_, registerAll_sorted (by decide), rfl⟩

end Farado
