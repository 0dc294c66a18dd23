import Farado.Lib.Steps.Transaction
import Farado.Migrations.Registry

/-!
# The migration manager

`MigrationManager` takes the database from one version to the next, each migration in a transaction
of its own together with the write of the new version number. The contents `C` that migrations work
on are left open; beside them there is the `.schema` table, of which only the rows matter here.
-/

namespace Farado

open Steps

/-- What the migrator's connection finds in the database. Without a `.schema` table there is no list
of its rows. -/
structure Versioned (C : Type) where
  content : C
  schema : Option (List Int)

namespace MigrationManager

variable {C : Type}

/-! ## The version table -/

/-- A statement on the `.schema` table: nothing but its rows can change, and it fails where there
is no such table. -/
def onSchema {α : Type} (act : List Int → α × List Int) : Prog (Versioned C) MigrationError α :=
  Prog.atomic (.statement .sqlFault) fun s =>
    match s.schema with
    | none => (.error (.statement .sqlFault), s)
    | some rows => (.ok (act rows).1, { s with schema := some (act rows).2 })

/-- `static_cast<unsigned int>` -/
def toUnsigned (n : Int) : UInt32 := UInt32.ofInt n

/-- What `SELECT version FROM ".schema" LIMIT 1` tells: an empty table reads as 0. -/
def versionOf : List Int → UInt32
  | [] => 0
  | version :: _ => toUnsigned version

def currentVersion : Prog (Versioned C) MigrationError UInt32 :=
  tryCatch (onSchema fun rows => (versionOf rows, rows)) fun e => throw (.getVersion e)

/-- `UPDATE ".schema" SET version = …` -/
def setVersionOf (version : UInt32) (rows : List Int) : List Int :=
  rows.map fun _ => (version.toNat : Int)

def setCurrentVersion (version : UInt32) : Prog (Versioned C) MigrationError Unit :=
  tryCatch (onSchema fun rows => ((), setVersionOf version rows)) fun e =>
    throw (.setVersion version e)

/-- The two queries of the existence check: the first is not SQL that SQLite accepts, the second
fails where there is no table. -/
def schemaTableExists : Prog (Versioned C) MigrationError Bool :=
  tryCatch (throw (.statement .sqlFault)) fun _ =>
    tryCatch (onSchema fun rows => (true, rows)) fun _ => pure false

/-- `CREATE TABLE ".schema" (version INTEGER NOT NULL DEFAULT 0)` -/
def createSchemaTable : Prog (Versioned C) MigrationError Unit :=
  Prog.atomic (.statement .sqlFault) fun s =>
    match s.schema with
    | none => (.ok (), { s with schema := some [] })
    | some _ => (.error (.statement .sqlFault), s)

/-- Two statements, not in a transaction. -/
def initializeSchemaTable : Prog (Versioned C) MigrationError Unit := do
  if ← schemaTableExists then pure ()
  else
    createSchemaTable
    -- INSERT INTO ".schema" (version) VALUES (0)
    onSchema fun rows => ((), rows ++ [0])

/-! ## Up and down -/

/-- The migrations' own part of the database. -/
def contentLens : Lens (Versioned C) C where
  get := Versioned.content
  set c s := { s with content := c }
  get_set _ _ := rfl
  set_get _ := rfl
  set_set _ _ _ := rfl

/-- What runs in the transaction: `up` or `down`, and the write of the version. -/
def migrate (code : Prog C Error Unit) (targetVersion : UInt32) :
    Prog (Versioned C) MigrationError Unit := do
  code.zoom contentLens .statement
  setCurrentVersion targetVersion

/-- The connection of the migrator. -/
abbrev Session (C : Type) := Steps.Session (Versioned C)

/-- Code of the manager. -/
abbrev Manager (C : Type) := Prog (Session C) MigrationError

/-- The transaction of one migration. -/
def inTransaction (wrap : MigrationError → MigrationError) (code : Prog C Error Unit)
    (targetVersion : UInt32) : Manager C Unit :=
  Steps.Session.transaction (.statement .sqlFault) wrap (migrate code targetVersion)

def upgradeOne (registry : Registry C) : Manager C Unit := do
  let currentVersion ← Steps.Session.onLive currentVersion
  if maxVersion registry ≤ currentVersion then throw (.alreadyLatest currentVersion)
  else
    let targetVersion := currentVersion + 1
    match findMigration registry targetVersion with
    | none => throw (.notFound targetVersion)
    | some migration => inTransaction (.upgrade targetVersion) migration.up targetVersion

/-- `for (targetVersion = …; targetVersion <= maxVersion; ++targetVersion)`, followed for a number
of iterations. -/
def upgradeLoop (registry : Registry C) : Nat → UInt32 → Manager C Unit
  | 0, _ => throw .unfinished
  | iterations + 1, targetVersion =>
      if targetVersion ≤ maxVersion registry then
        match findMigration registry targetVersion with
        | none => throw (.notFound targetVersion)
        | some migration => do
            inTransaction (.upgrade targetVersion) migration.up targetVersion
            -- ++targetVersion wraps around after 2^32 - 1
            upgradeLoop registry iterations (targetVersion + 1)
      else pure ()

def upgradeAll (registry : Registry C) (iterations : Nat) : Manager C Unit := do
  let currentVersion ← Steps.Session.onLive currentVersion
  if maxVersion registry ≤ currentVersion then throw (.alreadyLatest currentVersion)
  else upgradeLoop registry iterations (currentVersion + 1)

def downgradeOne (registry : Registry C) : Manager C Unit := do
  let currentVersion ← Steps.Session.onLive currentVersion
  if currentVersion = 0 then throw .cannotDowngrade
  else
    let targetVersion := currentVersion - 1
    match findMigration registry currentVersion with
    | none => throw (.notFound currentVersion)
    | some migration => inTransaction (.downgrade currentVersion) migration.down targetVersion

/-! ## What the parts do -/

section
variable {v : UInt32} {α : Type}

/-- A statement on the version table that succeeds has found it. -/
theorem ends_onSchema {act : List Int → α × List Int} {s s' : Versioned C}
    {r : Except MigrationError α} (h : Prog.Ends (onSchema act) s r s') :
    (∃ rows, s.schema = some rows ∧ r = .ok (act rows).1 ∧
        s' = { s with schema := some (act rows).2 }) ∨
      r = .error (.statement .sqlFault) ∧ s' = s := by
  rcases Prog.ends_atomic_iff.mp h with ⟨hr, hs'⟩ | hfault
  · cases hs : s.schema with
    | none =>
      rw [hs] at hr hs'
      exact .inr ⟨hr, hs'⟩
    | some rows =>
      rw [hs] at hr hs'
      exact .inl ⟨rows, rfl, hr, hs'⟩
  · exact .inr hfault

theorem ends_currentVersion {s s' : Versioned C} {r : Except MigrationError UInt32}
    (h : Prog.Ends currentVersion s r s') :
    s' = s ∧ ((∃ rows, s.schema = some rows ∧ r = .ok (versionOf rows)) ∨
      r = .error (.getVersion (.statement .sqlFault))) := by
  rcases Prog.ends_tryCatch_iff.mp h with ⟨_, hread, hr⟩ | ⟨e, s₁, hread, hthrow⟩
  · rcases ends_onSchema hread with ⟨rows, hrows, hok, rfl⟩ | ⟨herr, -⟩
    · have hsame : ({ s with schema := some rows } : Versioned C) = s := by rw [← hrows]
      obtain rfl := Except.ok.inj hok
      exact ⟨hsame, .inl ⟨rows, hrows, hr⟩⟩
    · cases herr
  · obtain ⟨hr, rfl⟩ := Prog.ends_throw_iff.mp hthrow
    rcases ends_onSchema hread with ⟨_, _, hok, -⟩ | ⟨herr, rfl⟩
    · cases hok
    · obtain rfl := Except.error.inj herr
      exact ⟨rfl, .inr hr⟩

/-- A statement on a version table that is there. -/
theorem run_onSchema {act : List Int → α × List Int} {s : Versioned C} {rows : List Int}
    (h : s.schema = some rows) :
    (onSchema act).run s = (.ok (act rows).1, { s with schema := some (act rows).2 }) := by
  unfold onSchema
  rw [Prog.run_atomic, h]

theorem run_currentVersion {s : Versioned C} {rows : List Int} (h : s.schema = some rows) :
    currentVersion.run s = (.ok (versionOf rows), s) := by
  unfold currentVersion
  rw [Prog.run_tryCatch, run_onSchema h, ← h]

theorem ends_setCurrentVersion {s s' : Versioned C}
    (h : Prog.Ends (setCurrentVersion v) s (.ok ()) s') :
    ∃ rows, s.schema = some rows ∧ s' = { s with schema := some (setVersionOf v rows) } := by
  rcases Prog.ends_tryCatch_iff.mp h with ⟨_, hwrite, -⟩ | ⟨e, s₁, -, hthrow⟩
  · rcases ends_onSchema hwrite with ⟨rows, hrows, -, hs'⟩ | ⟨herr, -⟩
    · exact ⟨rows, hrows, hs'⟩
    · cases herr
  · cases (Prog.ends_throw_iff.mp hthrow).1

theorem run_setCurrentVersion {s : Versioned C} {rows : List Int} (h : s.schema = some rows) :
    (setCurrentVersion v).run s = (.ok (), { s with schema := some (setVersionOf v rows) }) := by
  unfold setCurrentVersion
  rw [Prog.run_tryCatch, run_onSchema h]

/-- `up` or `down` has completed, and the version is written. -/
theorem ends_migrate {code : Prog C Error Unit} {s s' : Versioned C}
    (h : Prog.Ends (migrate code v) s (.ok ()) s') :
    ∃ c rows, Prog.Ends code s.content (.ok ()) c ∧ s.schema = some rows ∧
      s' = { content := c, schema := some (setVersionOf v rows) } := by
  rcases Prog.ends_bind_iff.mp h with ⟨_, s₁, hcode, hset⟩ | ⟨_, -, herr⟩
  · obtain ⟨r, c, hc, hr, rfl⟩ := Prog.ends_zoom hcode
    obtain ⟨rows, hrows, rfl⟩ := ends_setCurrentVersion hset
    cases r with
    | ok u => exact ⟨c, rows, hc, hrows, rfl⟩
    | error e => cases hr
  · cases herr

/-- A migration has gone through: its code has completed, the version is written, and nothing of it
is pending. -/
def Applies (code : Prog C Error Unit) (version : UInt32) (s s' : Session C) : Prop :=
  ∃ c rows, Prog.Ends code s.live.content (.ok ()) c ∧ s.live.schema = some rows ∧
    s' = { live := { content := c, schema := some (setVersionOf version rows) }, saved := none }

theorem Applies.saved {code : Prog C Error Unit} {s s' : Session C} (h : Applies code v s s') :
    s'.saved = none := by
  obtain ⟨_, _, _, _, rfl⟩ := h
  rfl

/-- The transaction of one migration: all of it, or nothing. -/
theorem ends_inTransaction {wrap : MigrationError → MigrationError} {code : Prog C Error Unit}
    {s s' : Session C} {r : Except MigrationError Unit} (hs : s.saved = none)
    (h : Prog.Ends (inTransaction wrap code v) s r s') :
    (r = .ok () ∧ Applies code v s s') ∨
      ((∃ e, r = .error (wrap e)) ∨ r = .error (.statement .sqlFault)) ∧
        s'.durable = s.durable := by
  rcases Steps.Session.ends_transaction hs h with ⟨hr, l, hl, rfl⟩ | hfailed
  · obtain ⟨c, rows, hc, hrows, rfl⟩ := ends_migrate hl
    exact .inl ⟨hr, c, rows, hc, hrows, rfl⟩
  · exact .inr hfailed

/-- The same, when nothing fails. -/
theorem run_inTransaction (wrap : MigrationError → MigrationError) (v : UInt32)
    {code : Prog C Error Unit} {s : Session C} {c : C} {rows : List Int} (hs : s.saved = none)
    (hcode : code.run s.live.content = (.ok (), c)) (hrows : s.live.schema = some rows) :
    (inTransaction wrap code v).run s =
      (.ok (),
        { live := { content := c, schema := some (setVersionOf v rows) }, saved := none }) := by
  have hzoom : (code.zoom contentLens MigrationError.statement).run s.live =
      (.ok (), { s.live with content := c }) := by
    have hcode' : code.run (contentLens.get s.live) = (.ok (), c) := hcode
    rw [Prog.run_zoom, hcode']
    rfl
  have hset := run_setCurrentVersion (v := v) (s := { s.live with content := c }) hrows
  have hmigrate : (migrate code v).run s.live =
      (.ok (), { content := c, schema := some (setVersionOf v rows) }) := by
    unfold migrate
    rw [Prog.run_bind_ok hzoom, hset]
  unfold inTransaction
  rw [Steps.Session.run_transaction hs, hmigrate]

/-- Code that starts by reading the version: it goes on with what the table says, or does
nothing. -/
theorem ends_readVersion {k : UInt32 → Manager C α} {s s' : Session C}
    {r : Except MigrationError α}
    (h : Prog.Ends (Steps.Session.onLive currentVersion >>= k) s r s') :
    (∃ rows, s.live.schema = some rows ∧ Prog.Ends (k (versionOf rows)) s r s') ∨
      r = .error (.getVersion (.statement .sqlFault)) ∧ s' = s := by
  have hread : ∀ {r : Except MigrationError UInt32} {s₁ : Session C},
      Prog.Ends (Steps.Session.onLive currentVersion) s r s₁ →
        s₁ = s ∧ ((∃ rows, s.live.schema = some rows ∧ r = .ok (versionOf rows)) ∨
          r = .error (.getVersion (.statement .sqlFault))) := by
    intro r s₁ hends
    obtain ⟨l, hl, rfl⟩ := Steps.Session.ends_onLive hends
    obtain ⟨rfl, hr⟩ := ends_currentVersion hl
    exact ⟨rfl, hr⟩
  rcases Prog.ends_bind_iff.mp h with ⟨v, s₁, hends, hrest⟩ | ⟨e, hends, hr⟩
  · obtain ⟨rfl, ⟨rows, hrows, hv⟩ | hv⟩ := hread hends
    · obtain rfl := Except.ok.inj hv
      exact .inl ⟨rows, hrows, hrest⟩
    · cases hv
  · obtain ⟨rfl, ⟨rows, hrows, hv⟩ | hv⟩ := hread hends
    · cases hv
    · obtain rfl := Except.error.inj hv
      exact .inr ⟨hr, rfl⟩

theorem run_readVersion {s : Session C} {rows : List Int} (h : s.live.schema = some rows) :
    (Steps.Session.onLive currentVersion).run s = (.ok (versionOf rows), s) := by
  rw [Steps.Session.run_onLive, run_currentVersion h]

/-- The migration of this version is looked up and gone through. -/
theorem ends_found {registry : Registry C} {wrap : MigrationError → MigrationError}
    {code : Migration C → Prog C Error Unit} {target : UInt32} {s s' : Session C}
    {r : Except MigrationError Unit} (hs : s.saved = none)
    (h : Prog.Ends
      (match findMigration registry v with
        | none => throw (.notFound v)
        | some m => inTransaction wrap (code m) target) s r s') :
    (r = .ok () ∧ ∃ m ∈ registry.migrations, m.version = v ∧ Applies (code m) target s s') ∨
      (∃ e, r = .error e) ∧ s'.durable = s.durable := by
  cases hfind : findMigration registry v with
  | none =>
    rw [hfind] at h
    obtain ⟨hr, rfl⟩ := Prog.ends_throw_iff.mp h
    exact .inr ⟨⟨_, hr⟩, rfl⟩
  | some m =>
    rw [hfind] at h
    obtain ⟨hm, hversion⟩ := mem_of_findMigration hfind
    rcases ends_inTransaction hs h with ⟨hr, happlies⟩ | ⟨⟨e, hr⟩ | hr, hs'⟩
    · exact .inl ⟨hr, m, hm, hversion, happlies⟩
    · exact .inr ⟨⟨_, hr⟩, hs'⟩
    · exact .inr ⟨⟨_, hr⟩, hs'⟩

theorem ends_upgradeOne {registry : Registry C} {s s' : Session C}
    {r : Except MigrationError Unit} (hs : s.saved = none)
    (h : Prog.Ends (upgradeOne registry) s r s') :
    (r = .ok () ∧ ∃ rows, s.live.schema = some rows ∧ versionOf rows < maxVersion registry ∧
        ∃ m ∈ registry.migrations, m.version = versionOf rows + 1 ∧
          Applies m.up (versionOf rows + 1) s s') ∨
      (∃ e, r = .error e) ∧ s'.durable = s.durable := by
  rcases ends_readVersion h with ⟨rows, hrows, hrest⟩ | ⟨hr, rfl⟩
  · split at hrest
    · -- already at the latest version
      obtain ⟨hr, rfl⟩ := Prog.ends_throw_iff.mp hrest
      exact .inr ⟨⟨_, hr⟩, rfl⟩
    · rename_i hlatest
      rcases ends_found hs hrest with ⟨hr, hfound⟩ | hfailed
      · exact .inl ⟨hr, rows, hrows, UInt32.not_le.mp hlatest, hfound⟩
      · exact .inr hfailed
  · exact .inr ⟨⟨_, hr⟩, rfl⟩

theorem ends_downgradeOne {registry : Registry C} {s s' : Session C}
    {r : Except MigrationError Unit} (hs : s.saved = none)
    (h : Prog.Ends (downgradeOne registry) s r s') :
    (r = .ok () ∧ ∃ rows, s.live.schema = some rows ∧ versionOf rows ≠ 0 ∧
        ∃ m ∈ registry.migrations, m.version = versionOf rows ∧
          Applies m.down (versionOf rows - 1) s s') ∨
      (∃ e, r = .error e) ∧ s'.durable = s.durable := by
  rcases ends_readVersion h with ⟨rows, hrows, hrest⟩ | ⟨hr, rfl⟩
  · split at hrest
    · -- already at version 0
      obtain ⟨hr, rfl⟩ := Prog.ends_throw_iff.mp hrest
      exact .inr ⟨⟨_, hr⟩, rfl⟩
    · rename_i hzero
      rcases ends_found hs hrest with ⟨hr, hfound⟩ | hfailed
      · exact .inl ⟨hr, rows, hrows, hzero, hfound⟩
      · exact .inr hfailed
  · exact .inr ⟨⟨_, hr⟩, rfl⟩

theorem upgradeLoop_found {registry : Registry C} {iterations : Nat} {m : Migration C}
    (h : m ∈ registry.migrations) :
    upgradeLoop registry (iterations + 1) m.version = (do
      inTransaction (.upgrade m.version) m.up m.version
      upgradeLoop registry iterations (m.version + 1)) := by
  have hle := le_maxVersion (Registry.mem_versions h)
  rw [upgradeLoop, if_pos hle, findMigration_of_mem h]

theorem upgradeLoop_missing {registry : Registry C} {iterations : Nat}
    (hle : v ≤ maxVersion registry) (h : v ∉ registry.versions) :
    upgradeLoop registry (iterations + 1) v = throw (.notFound v) := by
  rw [upgradeLoop, if_pos hle, findMigration_eq_none_iff.mpr h]

theorem upgradeLoop_done {registry : Registry C} {iterations : Nat} (h : maxVersion registry < v) :
    upgradeLoop registry (iterations + 1) v = pure () := by
  rw [upgradeLoop, if_neg (UInt32.not_le.mpr h)]

/-- An iteration of the loop finds the next migration, misses it, or is the last. -/
theorem upgradeLoop_cases (registry : Registry C) (v : UInt32) :
    (∃ m ∈ registry.migrations, m.version = v) ∨
      (v ≤ maxVersion registry ∧ v ∉ registry.versions) ∨ maxVersion registry < v := by
  by_cases hv : v ∈ registry.versions
  · exact .inl (List.mem_map.mp hv)
  · rcases UInt32.le_total v (maxVersion registry) with hle | hle
    · exact .inr (.inl ⟨hle, hv⟩)
    · by_cases heq : v = maxVersion registry
      · exact .inr (.inl ⟨heq ▸ UInt32.le_refl _, hv⟩)
      · exact .inr (.inr (UInt32.lt_of_le_of_ne hle (Ne.symm heq)))

/-- Migrations of the registry that the loop goes through, from the version that is next at first to
the one that is next afterwards. -/
inductive Climb (registry : Registry C) : UInt32 → Session C → UInt32 → Session C → Prop
  | here {v s} : Climb registry v s v s
  | step {m v s s₁ v' s'} : m ∈ registry.migrations → m.version = v → Applies m.up v s s₁ →
      Climb registry (v + 1) s₁ v' s' → Climb registry v s v' s'

/-- The loop: it ends above the greatest version, or with an exception after so many migrations. -/
theorem ends_upgradeLoop {registry : Registry C} {iterations : Nat} {s s' : Session C}
    {r : Except MigrationError Unit} (hs : s.saved = none)
    (h : Prog.Ends (upgradeLoop registry iterations v) s r s') :
    ∃ v' s₁, Climb registry v s v' s₁ ∧
      ((r = .ok () ∧ s' = s₁ ∧ s₁.saved = none ∧ maxVersion registry < v') ∨
        (∃ e, r = .error e) ∧ s'.durable = s₁.durable) := by
  induction iterations generalizing v s with
  | zero =>
    obtain ⟨hr, rfl⟩ := Prog.ends_throw_iff.mp h
    exact ⟨v, s', .here, .inr ⟨⟨_, hr⟩, rfl⟩⟩
  | succ iterations ih =>
    rcases upgradeLoop_cases registry v with ⟨m, hm, rfl⟩ | ⟨hle, hv⟩ | hmax
    · rw [upgradeLoop_found hm] at h
      rcases Prog.ends_bind_iff.mp h with ⟨_, s₁, hfirst, hrest⟩ | ⟨e, hfirst, hr⟩
      · -- one more migration is done, and the loop goes on
        rcases ends_inTransaction hs hfirst with ⟨-, happlies⟩ | ⟨⟨_, herr⟩ | herr, -⟩
        · obtain ⟨v', s₂, hclimb, hend⟩ := ih happlies.saved hrest
          exact ⟨v', s₂, .step hm rfl happlies hclimb, hend⟩
        · cases herr
        · cases herr
      · rcases ends_inTransaction hs hfirst with ⟨hok, -⟩ | ⟨-, hs'⟩
        · cases hok
        · exact ⟨m.version, s, .here, .inr ⟨⟨e, hr⟩, hs'⟩⟩
    · rw [upgradeLoop_missing hle hv] at h
      obtain ⟨hr, rfl⟩ := Prog.ends_throw_iff.mp h
      exact ⟨v, s', .here, .inr ⟨⟨_, hr⟩, rfl⟩⟩
    · rw [upgradeLoop_done hmax] at h
      obtain ⟨hr, rfl⟩ := Prog.ends_pure_iff.mp h
      exact ⟨v, s', .here, .inl ⟨hr, rfl, hs, hmax⟩⟩

/-- Before the loop nothing changes. -/
theorem ends_upgradeAll {registry : Registry C} {iterations : Nat} {s s' : Session C}
    {r : Except MigrationError Unit}
    (h : Prog.Ends (upgradeAll registry iterations) s r s') :
    ((∃ e, r = .error e ∧ e ≠ .unfinished) ∧ s' = s) ∨
      ∃ rows, s.live.schema = some rows ∧ versionOf rows < maxVersion registry ∧
        Prog.Ends (upgradeLoop registry iterations (versionOf rows + 1)) s r s' := by
  rcases ends_readVersion h with ⟨rows, hrows, hrest⟩ | ⟨hr, rfl⟩
  · split at hrest
    · obtain ⟨hr, rfl⟩ := Prog.ends_throw_iff.mp hrest
      refine .inl ⟨⟨_, hr, ?_⟩, rfl⟩
      rintro ⟨⟩
    · rename_i hlatest
      exact .inr ⟨rows, hrows, UInt32.not_le.mp hlatest, hrest⟩
  · refine .inl ⟨⟨_, hr, ?_⟩, rfl⟩
    rintro ⟨⟩

end

end MigrationManager

end Farado
