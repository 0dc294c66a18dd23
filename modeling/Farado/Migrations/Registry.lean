import Farado.Lib.Steps.Basic
import Farado.Storage.Text
import Mathlib.Data.List.Sort
import Mathlib.Data.UInt

/-!
# The registered migrations

`MigrationManager` keeps its migrations in a list that is sorted again after each registration, and
refuses a version that it has. Versions are 32-bit unsigned, as in the source.
-/

namespace Farado

open Steps

/-- `IMigration` -/
structure Migration (C : Type) where
  version : UInt32
  description : Bytes := []
  up : Prog C Error Unit
  down : Prog C Error Unit

/-- The exceptions of the manager, with what they were thrown for. -/
inductive MigrationError where
  | statement (e : Error)
  | alreadyRegistered (version : UInt32)
  | getVersion (cause : MigrationError)
  | setVersion (version : UInt32) (cause : MigrationError)
  | alreadyLatest (version : UInt32)
  | notFound (version : UInt32)
  | upgrade (version : UInt32) (cause : MigrationError)
  | cannotDowngrade
  | downgrade (version : UInt32) (cause : MigrationError)
  /-- Not an exception: the loop has been followed for as long as it was asked. -/
  | unfinished
  deriving DecidableEq, Repr

/-- `what()`; the text of an SQL error is SQLite's own. -/
def MigrationError.what (sqlText : Bytes) : MigrationError → Bytes
  | .statement e => e.what.getD sqlText
  | .alreadyRegistered version =>
      bytes "Migration version " ++ bytes (toString version) ++ bytes " already registered"
  | .getVersion cause => bytes "Failed to get current version: " ++ cause.what sqlText
  | .setVersion version cause =>
      bytes "Failed to set version to " ++ bytes (toString version) ++ bytes ": " ++
        cause.what sqlText
  | .alreadyLatest version =>
      bytes "Already at latest version (" ++ bytes (toString version) ++ bytes ")"
  | .notFound version =>
      bytes "Migration version " ++ bytes (toString version) ++ bytes " not found"
  | .upgrade version cause =>
      bytes "Failed to upgrade to version " ++ bytes (toString version) ++ bytes ": " ++
        cause.what sqlText
  | .cannotDowngrade => bytes "Cannot downgrade: already at version 0"
  | .downgrade version cause =>
      bytes "Failed to downgrade from version " ++ bytes (toString version) ++ bytes ": " ++
        cause.what sqlText
  | .unfinished => []

namespace MigrationManager

variable {C : Type}

/-- The comparison that `registerMigration` sorts by. -/
def byVersion (a b : Migration C) : Bool := decide (a.version ≤ b.version)

/-- Sorting migrations of pairwise distinct versions leaves no two equal versions behind. -/
theorem pairwise_lt_mergeSort {migrations : List (Migration C)}
    (h : (migrations.map Migration.version).Nodup) :
    (migrations.mergeSort byVersion).Pairwise fun a b => a.version < b.version := by
  have htrans : ∀ a b c : Migration C, byVersion a b → byVersion b c → byVersion a c := by
    intro a b c hab hbc
    have hab' : a.version ≤ b.version := of_decide_eq_true hab
    have hbc' : b.version ≤ c.version := of_decide_eq_true hbc
    apply decide_eq_true
    exact UInt32.le_trans hab' hbc'
  have htotal : ∀ a b : Migration C, byVersion a b || byVersion b a := by
    intro a b
    have hab : a.version ≤ b.version ∨ b.version ≤ a.version := UInt32.le_total a.version b.version
    simpa [byVersion] using hab
  have hsorted := List.pairwise_mergeSort htrans htotal migrations
  have hdistinct : ((migrations.mergeSort byVersion).map Migration.version).Nodup :=
    ((List.mergeSort_perm migrations byVersion).map Migration.version).nodup_iff.mpr h
  have hne := List.pairwise_map.mp hdistinct
  apply (hsorted.and hne).imp
  rintro a b ⟨hle, hab⟩
  exact UInt32.lt_of_le_of_ne (of_decide_eq_true hle) hab

/-- The migrations a manager has: sorted, no version twice. -/
structure Registry (C : Type) where
  migrations : List (Migration C) := []
  sorted : migrations.Pairwise fun a b => a.version < b.version := by simp

namespace Registry

/-- `m_migrations[i]->version()`, in order. -/
def versions (registry : Registry C) : List UInt32 := registry.migrations.map Migration.version

theorem nodup_versions (registry : Registry C) : registry.versions.Nodup := by
  apply List.pairwise_map.mpr
  apply registry.sorted.imp
  intro a b hab
  exact UInt32.ne_of_lt hab

theorem mem_versions {registry : Registry C} {m : Migration C} (h : m ∈ registry.migrations) :
    m.version ∈ registry.versions := List.mem_map_of_mem h

end Registry

/-- The manager after the migration has been added and the list sorted by version. -/
def registerMigration (registry : Registry C) (migration : Migration C) :
    Except MigrationError (Registry C) :=
  if h : migration.version ∈ registry.versions then
    .error (.alreadyRegistered migration.version)
  else
    .ok {
      migrations := (registry.migrations ++ [migration]).mergeSort byVersion
      sorted := pairwise_lt_mergeSort <| by
        have hconcat := registry.nodup_versions.concat h
        rw [List.concat_eq_append] at hconcat
        rw [List.map_append]
        exact hconcat }

/-- A manager on which `registerMigration` has been called for each of these. -/
def registerAll (given : List (Migration C)) : Except MigrationError (Registry C) :=
  given.foldlM registerMigration {}

def maxVersion (registry : Registry C) : UInt32 :=
  match registry.migrations.getLast? with
  | none => 0
  | some m => m.version

def findMigration (registry : Registry C) (version : UInt32) : Option (Migration C) :=
  registry.migrations.find? fun m => m.version == version

theorem mem_of_findMigration {registry : Registry C} {m : Migration C} {v : UInt32}
    (h : findMigration registry v = some m) : m ∈ registry.migrations ∧ m.version = v := by
  have hfound := List.find?_some h
  exact ⟨List.mem_of_find?_eq_some h, eq_of_beq hfound⟩

theorem findMigration_eq_none_iff {registry : Registry C} {v : UInt32} :
    findMigration registry v = none ↔ v ∉ registry.versions := by
  constructor
  · intro h hv
    obtain ⟨m, hm, rfl⟩ := List.mem_map.mp hv
    have hne := List.find?_eq_none.mp h m hm
    simp at hne
  · intro h
    apply List.find?_eq_none.mpr
    intro m hm hversion
    rw [← eq_of_beq hversion] at h
    exact h (Registry.mem_versions hm)

/-- No two migrations have one version, so the search finds any of them. -/
theorem findMigration_of_mem {registry : Registry C} {m : Migration C}
    (h : m ∈ registry.migrations) : findMigration registry m.version = some m := by
  cases hfind : findMigration registry m.version with
  | none => exact absurd (Registry.mem_versions h) (findMigration_eq_none_iff.mp hfind)
  | some m' =>
    obtain ⟨hm', hversion⟩ := mem_of_findMigration hfind
    have hsame := List.inj_on_of_nodup_map registry.nodup_versions hm' h hversion
    rw [hsame]

/-- The last migration of the list has the greatest version. -/
theorem le_maxVersion {registry : Registry C} {v : UInt32} (h : v ∈ registry.versions) :
    v ≤ maxVersion registry := by
  obtain ⟨m, hm, rfl⟩ := List.mem_map.mp h
  unfold maxVersion
  obtain ⟨init, last, hlast⟩ := List.eq_nil_or_concat registry.migrations |>.resolve_left
    (List.ne_nil_of_mem hm)
  have hsorted := registry.sorted
  rw [List.concat_eq_append] at hlast
  rw [hlast] at hsorted hm ⊢
  rw [List.getLast?_concat]
  rcases List.mem_append.mp hm with hinit | hm
  · have hlt := (List.pairwise_append.mp hsorted).2.2 m hinit last (List.mem_singleton.mpr rfl)
    exact UInt32.le_of_lt hlt
  · rw [List.mem_singleton.mp hm]
    exact UInt32.le_refl _

/-- Registering keeps what is there and adds the new version. -/
theorem registerMigration_ok {registry registry' : Registry C} {m : Migration C}
    (h : registerMigration registry m = .ok registry') :
    registry'.migrations.Perm (registry.migrations ++ [m]) := by
  unfold registerMigration at h
  split at h
  · cases h
  · obtain rfl := Except.ok.inj h
    exact List.mergeSort_perm _ _

theorem foldlM_registerMigration {given : List (Migration C)} {registry registry' : Registry C}
    (h : given.foldlM registerMigration registry = .ok registry') :
    registry'.migrations.Perm (registry.migrations ++ given) := by
  induction given generalizing registry with
  | nil =>
    obtain rfl := Except.ok.inj h
    rw [List.append_nil]
  | cons m given ih =>
    rw [List.foldlM_cons] at h
    cases hm : registerMigration registry m with
    | error e =>
      rw [hm] at h
      cases h
    | ok next =>
      rw [hm] at h
      have hnext := (registerMigration_ok hm).append_right given
      rw [List.append_assoc] at hnext
      exact (ih h).trans hnext

/-- In whichever order they are given, the same migrations are registered. -/
theorem registerAll_perm {given : List (Migration C)} {registry : Registry C}
    (h : registerAll given = .ok registry) : registry.migrations.Perm given :=
  foldlM_registerMigration h

/-- Distinct versions are all accepted. -/
theorem registerAll_ok {given : List (Migration C)} (h : (given.map Migration.version).Nodup) :
    ∃ registry, registerAll given = .ok registry := by
  have hfrom : ∀ registry : Registry C,
      (registry.versions ++ given.map Migration.version).Nodup →
        ∃ registry', given.foldlM registerMigration registry = .ok registry' := by
    clear h
    induction given with
    | nil =>
      intro registry _
      exact ⟨registry, rfl⟩
    | cons m given ih =>
      intro registry hnodup
      have hnew : m.version ∉ registry.versions := by
        intro hm
        have hdisjoint := (List.nodup_append.mp hnodup).2.2 _ hm m.version (List.mem_cons_self ..)
        exact hdisjoint rfl
      obtain ⟨next, hnext⟩ : ∃ next, registerMigration registry m = .ok next := by
        unfold registerMigration
        rw [dif_neg hnew]
        exact ⟨_, rfl⟩
      rw [List.foldlM_cons, hnext]
      apply ih
      have hperm := (registerMigration_ok hnext).map Migration.version
      rw [List.map_append] at hperm
      have hall := hperm.append_right (given.map Migration.version)
      rw [List.append_assoc] at hall
      exact hall.nodup_iff.mpr hnodup
  exact hfrom {} h

/-- Migrations given in their order are kept as they are. -/
theorem registerAll_sorted {given : List (Migration C)}
    (h : given.Pairwise fun a b => a.version < b.version) :
    registerAll given = .ok { migrations := given, sorted := h } := by
  have hnodup : (given.map Migration.version).Nodup := by
    apply List.pairwise_map.mpr
    exact h.imp fun hab => UInt32.ne_of_lt hab
  obtain ⟨⟨migrations, sorted⟩, hregistry⟩ := registerAll_ok hnodup
  have hsame : migrations = given := by
    apply (registerAll_perm hregistry).eq_of_pairwise ?_ sorted h
    intro a b _ _ hab hba
    exact absurd (UInt32.lt_trans hab hba) (UInt32.lt_irrefl _)
  subst hsame
  exact hregistry

end MigrationManager

end Farado
