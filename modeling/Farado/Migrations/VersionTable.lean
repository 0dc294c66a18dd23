import Farado.Lib.Steps.ReadOnly
import Farado.Migrations.Upgrade
import Mathlib.Logic.Relation

/-!
# A version table without its row

`initializeSchemaTable` creates the `.schema` table with one statement and puts the row with version
0 into it with another. If it is cut off in between, or the second statement fails, the table stays
behind empty, and **every later start takes it for initialized**. From then on `setCurrentVersion`
updates no row, the version reads as 0 for ever, and the first migration is applied again and again.

In every other state of the table the recorded version follows the migrations.
-/

namespace Farado

open Steps (Prog)
open MigrationManager

variable {C : Type}

/-! ## What an initialization leaves -/

theorem readOnly_schemaTableExists : Prog.ReadOnly (schemaTableExists (C := C)) := by
  have hread : Prog.ReadOnly (σ := Versioned C) (onSchema fun rows => (true, rows)) := by
    apply Prog.readOnly_atomic
    intro s
    cases hs : s.schema with
    | none => rfl
    | some rows =>
      show { s with schema := some rows } = s
      rw [← hs]
  apply (Prog.readOnly_throw _).tryCatch
  intro _
  exact hread.tryCatch fun _ => Prog.readOnly_pure _

theorem ends_schemaTableExists {s s' : Versioned C}
    (h : Prog.Ends schemaTableExists s (.ok true) s') : s' = s ∧ ∃ rows, s.schema = some rows := by
  refine ⟨readOnly_schemaTableExists.ends h, ?_⟩
  rcases Prog.ends_tryCatch_iff.mp h with ⟨_, hthrow, -⟩ | ⟨_, s₁, hthrow, hselect⟩
  · cases (Prog.ends_throw_iff.mp hthrow).1
  · obtain ⟨-, rfl⟩ := Prog.ends_throw_iff.mp hthrow
    rcases Prog.ends_tryCatch_iff.mp hselect with ⟨_, hread, -⟩ | ⟨_, s₂, -, hpure⟩
    · rcases ends_onSchema hread with ⟨rows, hrows, -⟩ | ⟨herr, -⟩
      · exact ⟨rows, hrows⟩
      · cases herr
    · cases (Prog.ends_pure_iff.mp hpure).1

theorem ends_createSchemaTable {s s' : Versioned C}
    (h : Prog.Ends createSchemaTable s (.ok ()) s') :
    s.schema = none ∧ s' = { s with schema := some [] } := by
  rcases Prog.ends_atomic_iff.mp h with ⟨hr, hs'⟩ | ⟨herr, -⟩
  · cases hs : s.schema with
    | none =>
      rw [hs] at hs'
      exact ⟨rfl, hs'⟩
    | some rows =>
      rw [hs] at hr
      cases hr
  · cases herr

/-- A table that is there is left alone, whether it has a row or not. -/
theorem ends_initializeSchemaTable {s s' : Versioned C}
    (h : Prog.Ends initializeSchemaTable s (.ok ()) s') :
    (∃ rows, s.schema = some rows ∧ s' = s) ∨
      s.schema = none ∧ s' = { s with schema := some [0] } := by
  rcases Prog.ends_bind_iff.mp h with ⟨found, s₁, hexists, hrest⟩ | ⟨_, -, herr⟩
  swap
  · cases herr
  cases found with
  | true =>
    obtain ⟨rfl, hrows⟩ := ends_schemaTableExists hexists
    obtain ⟨-, rfl⟩ := Prog.ends_pure_iff.mp hrest
    obtain ⟨rows, hrows⟩ := hrows
    exact .inl ⟨rows, hrows, rfl⟩
  | false =>
    obtain rfl := readOnly_schemaTableExists.ends hexists
    rcases Prog.ends_bind_iff.mp hrest with ⟨_, s₂, hcreate, hinsert⟩ | ⟨_, -, herr⟩
    swap
    · cases herr
    obtain ⟨hnone, rfl⟩ := ends_createSchemaTable hcreate
    rcases ends_onSchema hinsert with ⟨rows, hrows, -, rfl⟩ | ⟨herr, -⟩
    · obtain rfl := Option.some.inj hrows
      exact .inr ⟨hnone, rfl⟩
    · cases herr

/-- Cut off anywhere, an initialization has done nothing, or one statement, or both. -/
theorem passes_initializeSchemaTable {s s' : Versioned C}
    (h : Prog.Passes initializeSchemaTable s s') :
    s' = s ∨ s.schema = none ∧
      (s' = { s with schema := some [] } ∨ s' = { s with schema := some [0] }) := by
  rcases Prog.passes_bind h with hexists | ⟨found, s₁, hexists, hrest⟩
  · exact .inl (readOnly_schemaTableExists.passes hexists)
  obtain rfl := readOnly_schemaTableExists.ends hexists
  cases found with
  | true => exact .inl (Prog.passes_done_iff.mp hrest)
  | false =>
    rcases Prog.passes_bind hrest with hcreate | ⟨_, s₂, hcreate, hinsert⟩
    · rcases Prog.passes_atomic_iff.mp hcreate with rfl | hs'
      · exact .inl rfl
      · cases hs : s₁.schema with
        | none =>
          rw [hs] at hs'
          exact .inr ⟨rfl, .inl hs'⟩
        | some rows =>
          rw [hs] at hs'
          exact .inl hs'
    · obtain ⟨hnone, rfl⟩ := ends_createSchemaTable hcreate
      rcases Prog.passes_atomic_iff.mp hinsert with hs' | hs'
      · exact .inr ⟨hnone, .inl hs'⟩
      · exact .inr ⟨hnone, .inr hs'⟩

/-! ## Migrations that were applied -/

/-- The code of a migration, run to its end. -/
inductive MigrationEvent where
  | up (version : UInt32)
  | down (version : UInt32)
  deriving DecidableEq

/-- The code that ran, in this order, takes the contents from `c` to `c'`. -/
inductive Applied (migrations : List (Migration C)) : C → List MigrationEvent → C → Prop
  | nil {c} : Applied migrations c [] c
  | up {m c c₁ events c'} : m ∈ migrations → CanComplete m.up c c₁ →
      Applied migrations c₁ events c' → Applied migrations c (.up m.version :: events) c'
  | down {m c c₁ events c'} : m ∈ migrations → CanComplete m.down c c₁ →
      Applied migrations c₁ events c' → Applied migrations c (.down m.version :: events) c'

/-- The version that an applied migration stands for. -/
def MigrationEvent.after : MigrationEvent → UInt32
  | .up version => version
  | .down version => version - 1

/-- The version of the last of them; where there is none, the one from before. -/
def versionAfter (v : UInt32) (events : List MigrationEvent) : UInt32 :=
  events.foldl (fun _ event => event.after) v

/-- No migration is applied a second time without having been taken back. -/
def NoneTwice (events : List MigrationEvent) : Prop :=
  ∀ version before between rest,
    events = before ++ .up version :: (between ++ .up version :: rest) → .down version ∈ between

/-- One successful call of the migrator, or the initialization of another start. -/
def Succeeds (registry : Registry C) (s s' : Session C) : Prop :=
  Prog.Ends (Steps.Session.onLive initializeSchemaTable) s (.ok ()) s' ∨
  Prog.Ends (upgradeOne registry) s (.ok ()) s' ∨
  (∃ iterations, Prog.Ends (upgradeAll registry iterations) s (.ok ()) s') ∨
  Prog.Ends (downgradeOne registry) s (.ok ()) s'

/-- With this version table, the recorded version can be relied on. -/
structure Faithful (table : Option (List Int)) : Prop where
  /-- What is written is what is read. -/
  reads_back : ∀ {C : Type} {s s₁ s₂ s₃ : Versioned C} {v read : UInt32}, s.schema = table →
    Prog.Ends initializeSchemaTable s (.ok ()) s₁ →
    Prog.Ends (setCurrentVersion v) s₁ (.ok ()) s₂ →
    Prog.Ends currentVersion s₂ (.ok read) s₃ → read = v
  /-- It is the version of the last migration applied, and no migration is applied twice. -/
  follows : ∀ {C : Type} {registry : Registry C} {s s₁ : Versioned C} {s' : Session C},
    s.schema = table → Prog.Ends initializeSchemaTable s (.ok ()) s₁ →
    Relation.ReflTransGen (Succeeds registry) { live := s₁ } s' →
      ∃ v events, Prog.Ends currentVersion s₁ (.ok v) s₁ ∧
        Applied registry.migrations s₁.content events s'.live.content ∧
        (∀ read s'', Prog.Ends currentVersion s'.live (.ok read) s'' →
          read = versionAfter v events) ∧
        NoneTwice events

/-! ## Up and down, one version at a time -/

/-- Applied migrations that lead from version `k` to version `k'`. -/
inductive Walk (migrations : List (Migration C)) : Nat → C → List MigrationEvent → Nat → C → Prop
  | here {k c} : Walk migrations k c [] k c
  | up {m k c c₁ events k' c'} : m ∈ migrations → m.version.toNat = k + 1 →
      CanComplete m.up c c₁ → Walk migrations (k + 1) c₁ events k' c' →
      Walk migrations k c (.up m.version :: events) k' c'
  | down {m k c c₁ events k' c'} : m ∈ migrations → m.version.toNat = k + 1 →
      CanComplete m.down c c₁ → Walk migrations k c₁ events k' c' →
      Walk migrations (k + 1) c (.down m.version :: events) k' c'

namespace Walk

variable {migrations : List (Migration C)} {k k' : Nat} {c c' : C} {events : List MigrationEvent}

theorem applied (h : Walk migrations k c events k' c') : Applied migrations c events c' := by
  induction h with
  | here => exact .nil
  | up hm _ hcode _ ih => exact .up hm hcode ih
  | down hm _ hcode _ ih => exact .down hm hcode ih

theorem trans {k₁ : Nat} {c₁ : C} {events' : List MigrationEvent}
    (h : Walk migrations k c events k₁ c₁) (h' : Walk migrations k₁ c₁ events' k' c') :
    Walk migrations k c (events ++ events') k' c' := by
  induction h with
  | here => exact h'
  | up hm hversion hcode _ ih => exact .up hm hversion hcode (ih h')
  | down hm hversion hcode _ ih => exact .down hm hversion hcode (ih h')

/-- A walk can be cut anywhere. -/
theorem split {events' : List MigrationEvent} (h : Walk migrations k c (events ++ events') k' c') :
    ∃ k₁ c₁, Walk migrations k c events k₁ c₁ ∧ Walk migrations k₁ c₁ events' k' c' := by
  induction events generalizing k c with
  | nil => exact ⟨k, c, .here, h⟩
  | cons event events ih =>
    cases h with
    | up hm hversion hcode hrest =>
      obtain ⟨k₁, c₁, hfirst, hsecond⟩ := ih hrest
      exact ⟨k₁, c₁, .up hm hversion hcode hfirst, hsecond⟩
    | down hm hversion hcode hrest =>
      obtain ⟨k₁, c₁, hfirst, hsecond⟩ := ih hrest
      exact ⟨k₁, c₁, .down hm hversion hcode hfirst, hsecond⟩

/-- The version reached is the one that the last migration stands for. -/
theorem versionAfter_eq {v : UInt32} (h : Walk migrations k c events k' c') (hv : v.toNat = k) :
    (versionAfter v events).toNat = k' := by
  induction h generalizing v with
  | here => exact hv
  | up _ hversion _ _ ih => exact ih hversion
  | @down m k c c₁ events k' c' _ hversion _ _ ih =>
    apply ih
    have hone : (1 : UInt32) ≤ m.version := by
      apply UInt32.le_iff_toNat_le.mpr
      show 1 ≤ m.version.toNat
      omega
    show (m.version - 1).toNat = k
    rw [UInt32.toNat_sub_of_le _ _ hone, hversion]
    rfl

/-- The walk gets below a version only by taking that version back. -/
theorem le_of_not_mem {v : UInt32} (h : Walk migrations k c events k' c') (hv : v.toNat ≤ k)
    (hdown : MigrationEvent.down v ∉ events) : v.toNat ≤ k' := by
  induction h with
  | here => exact hv
  | up _ _ _ _ ih => exact ih (Nat.le_succ_of_le hv) (fun h => hdown (List.mem_cons_of_mem _ h))
  | @down m k c c₁ events k' c' _ hversion _ _ ih =>
    apply ih _ (fun h => hdown (List.mem_cons_of_mem _ h))
    by_contra hlt
    have hsame : v = m.version := by
      apply UInt32.toNat_inj.mp
      omega
    apply hdown
    rw [hsame]
    exact List.mem_cons_self

/-- A version is applied from the one before. -/
theorem head_up {v : UInt32} (h : Walk migrations k c (.up v :: events) k' c') :
    v.toNat = k + 1 ∧ ∃ c₁, Walk migrations (k + 1) c₁ events k' c' := by
  cases h with
  | up _ hversion _ hrest => exact ⟨hversion, _, hrest⟩

theorem noneTwice (h : Walk migrations k c events k' c') : NoneTwice events := by
  rintro version before between rest rfl
  obtain ⟨k₁, c₁, -, hfrom⟩ := h.split
  obtain ⟨hfirst, c₂, hrest⟩ := hfrom.head_up
  obtain ⟨k₂, c₃, hbetween, hagain⟩ := hrest.split
  obtain ⟨hsecond, -⟩ := hagain.head_up
  -- after the first time the version is recorded, before the second it is not
  by_contra hdown
  have hle := hbetween.le_of_not_mem (Nat.le_of_eq hfirst) hdown
  omega

end Walk

theorem Upgraded.walk {migrations : List (Migration C)} {k k' : Nat} {c c' : C}
    (h : Upgraded CanComplete migrations k c k' c') :
    ∃ events, Walk migrations k c events k' c' := by
  induction h with
  | here => exact ⟨[], .here⟩
  | step hm hversion hcode _ ih =>
    obtain ⟨events, hwalk⟩ := ih
    exact ⟨_, .up hm hversion hcode hwalk⟩

/-! ## A table with a row -/

theorem Holds.initialized {s s' : Session C} {c : C} {k : Nat} (hs : s.saved = none)
    (hholds : Holds s c k)
    (h : Prog.Ends (Steps.Session.onLive initializeSchemaTable) s (.ok ()) s') : s' = s := by
  obtain ⟨-, w, rows, hrows, -⟩ := hholds.live hs
  obtain ⟨l, hl, rfl⟩ := Steps.Session.ends_onLive h
  rcases ends_initializeSchemaTable hl with ⟨_, -, rfl⟩ | ⟨hnone, -⟩
  · rfl
  · rw [hrows] at hnone
    cases hnone

section
variable {registry : Registry C} {s s' : Session C} {c : C} {k : Nat}

/-- The loop is only left when the counter is above the greatest version. -/
theorem not_wraps_of_upgradeAll {iterations : Nat} {v : UInt32} (hs : s.saved = none)
    (h : Prog.Ends (upgradeAll registry iterations) s (.ok ()) s') :
    s'.saved = none ∧ ¬ Wraps registry.versions v := by
  rcases ends_upgradeAll h with ⟨⟨_, herr, -⟩, -⟩ | ⟨rows, -, -, hloop⟩
  · cases herr
  obtain ⟨u, s₁, -, ⟨-, rfl, hsaved, hlt⟩ | ⟨⟨_, herr⟩, -⟩⟩ := ends_upgradeLoop hs hloop
  swap
  · cases herr
  refine ⟨hsaved, ?_⟩
  rintro ⟨-, hv, hall⟩
  -- with version 2^32 - 1 registered no counter is above the greatest version
  have hle := UInt32.le_iff_toNat_le.mp (le_maxVersion (hall _ hv))
  have hlt' := UInt32.lt_iff_toNat_lt.mp hlt
  have hu := u.toNat_lt
  have hbig : (4294967295 : UInt32).toNat = 4294967295 := rfl
  omega

/-- **One successful call** continues the walk, and the new version is recorded. -/
theorem Succeeds.walk (h : Succeeds registry s s') (hs : s.saved = none) (hholds : Holds s c k) :
    s'.saved = none ∧ ∃ events k' c', Walk registry.migrations k c events k' c' ∧
      Holds s' c' k' := by
  obtain ⟨v, rfl⟩ : ∃ v : UInt32, v.toNat = k := by
    obtain ⟨-, w, -, -, hk⟩ := hholds.live hs
    exact ⟨_, hk⟩
  have hperm := List.Perm.refl registry.migrations
  rcases h with hinit | hone | ⟨iterations, hall⟩ | hdown
  · obtain rfl := hholds.initialized hs hinit
    exact ⟨hs, [], _, c, .here, hholds⟩
  · have hsaved : s'.saved = none := by
      rcases ends_upgradeOne hs hone with ⟨-, _, -, -, m, -, -, happlies⟩ | ⟨⟨_, herr⟩, -⟩
      · exact happlies.saved
      · cases herr
    rcases upgradeOne_exact hperm hs hholds hone with
      ⟨-, m, hm, hversion, c', hcode, hholds'⟩ | ⟨⟨_, herr⟩, -⟩
    · exact ⟨hsaved, _, _, c', .up hm hversion hcode .here, hholds'⟩
    · cases herr
  · obtain ⟨hsaved, hwraps⟩ := not_wraps_of_upgradeAll hs hall
    obtain ⟨k', c', hupgraded, hholds', -⟩ := upgradeAll_exact hperm hs hholds hwraps hall
    obtain ⟨events, hwalk⟩ := hupgraded.walk
    exact ⟨hsaved, events, k', c', hwalk, hholds'⟩
  · have hsaved : s'.saved = none := by
      rcases ends_downgradeOne hs hdown with ⟨-, _, -, -, m, -, -, happlies⟩ | ⟨⟨_, herr⟩, -⟩
      · exact happlies.saved
      · cases herr
    rcases downgradeOne_exact hperm hs hholds hdown with
      ⟨-, m, hm, rfl, c', k', hcode, hholds', hk⟩ | ⟨⟨_, herr⟩, -⟩
    · rw [hk]
      exact ⟨hsaved, _, k', c', .down hm hk hcode .here, hholds'⟩
    · cases herr

/-- **Any sequence of successful calls.** -/
theorem walk_of_succeeds (h : Relation.ReflTransGen (Succeeds registry) s s') (hs : s.saved = none)
    (hholds : Holds s c k) :
    s'.saved = none ∧ ∃ events k' c', Walk registry.migrations k c events k' c' ∧
      Holds s' c' k' := by
  induction h with
  | refl => exact ⟨hs, [], k, c, .here, hholds⟩
  | tail _ hcall ih =>
    obtain ⟨hs₁, events, k₁, c₁, hwalk, hholds₁⟩ := ih
    obtain ⟨hs₂, events', k₂, c₂, hwalk', hholds₂⟩ := hcall.walk hs₁ hholds₁
    exact ⟨hs₂, _, k₂, c₂, hwalk.trans hwalk', hholds₂⟩

end

/-- What `currentVersion` reads is what `Holds` says. -/
theorem Holds.read {s : Session C} {l : Versioned C} {c : C} {k : Nat} {read : UInt32}
    (hholds : Holds s c k) (hs : s.saved = none)
    (h : Prog.Ends currentVersion s.live (.ok read) l) : read.toNat = k := by
  obtain ⟨-, w, rows, hrows, hk⟩ := hholds.live hs
  obtain ⟨-, ⟨rows', hrows', hread⟩ | herr⟩ := ends_currentVersion h
  · rw [hrows] at hrows'
    obtain rfl := Option.some.inj hrows'
    rw [Except.ok.inj hread]
    exact hk
  · cases herr

/-- An initialized table has a row, unless it was found empty. -/
theorem row_of_initialized {s s₁ : Versioned C} (hempty : s.schema ≠ some [])
    (h : Prog.Ends initializeSchemaTable s (.ok ()) s₁) :
    ∃ w rows, s₁.schema = some (w :: rows) := by
  rcases ends_initializeSchemaTable h with ⟨rows, hrows, rfl⟩ | ⟨-, rfl⟩
  · cases rows with
    | nil => exact absurd hrows hempty
    | cons w rows => exact ⟨w, rows, hrows⟩
  · exact ⟨0, [], rfl⟩

theorem faithful_of_ne {table : Option (List Int)} (hempty : table ≠ some []) : Faithful table where
  reads_back := by
    rintro C s s₁ s₂ s₃ v read rfl hinit hset hread
    obtain ⟨w, rows, hrows⟩ := row_of_initialized hempty hinit
    obtain ⟨rows', hrows', rfl⟩ := ends_setCurrentVersion hset
    rw [hrows] at hrows'
    obtain rfl := Option.some.inj hrows'
    -- the UPDATE has touched the row, and the SELECT finds it
    obtain ⟨-, ⟨rows'', hrows'', hr⟩ | herr⟩ := ends_currentVersion hread
    · obtain rfl := Option.some.inj hrows''
      rw [Except.ok.inj hr]
      exact toUnsigned_natCast v
    · cases herr
  follows := by
    rintro C registry s s₁ s' rfl hinit hcalls
    obtain ⟨w, rows, hrows⟩ := row_of_initialized hempty hinit
    have hread := Prog.ends_run currentVersion s₁
    rw [run_currentVersion hrows] at hread
    have hholds : Holds { live := s₁ } s₁.content (toUnsigned w).toNat :=
      ⟨w, rows, by rw [← hrows]; rfl, rfl⟩
    obtain ⟨hs', events, k', c', hwalk, hholds'⟩ := walk_of_succeeds hcalls rfl hholds
    refine ⟨_, events, hread, ?_, ?_, hwalk.noneTwice⟩
    · rw [(hholds'.live hs').1]
      exact hwalk.applied
    · intro read s'' hread'
      apply UInt32.toNat_inj.mp
      rw [hholds'.read hs' hread']
      exact (hwalk.versionAfter_eq rfl).symm

/-- On an empty table, version 1 is written and version 0 is read. -/
theorem not_faithful_empty : ¬ Faithful (some []) := by
  intro h
  let s : Versioned Unit := { content := (), schema := some [] }
  have hinit : Prog.Ends initializeSchemaTable s (.ok ()) s := Prog.ends_run _ s
  have hset : Prog.Ends (setCurrentVersion 1) s (.ok ()) s := Prog.ends_run _ s
  have hread : Prog.Ends currentVersion s (.ok 0) s := Prog.ends_run _ s
  have hsame := h.reads_back rfl hinit hset hread
  exact absurd hsame (by decide)

/-- **The recorded version can be relied on unless an initialization found the table empty, or was
stopped after it had created it.** -/
theorem faithful_iff {s s' : Versioned C} (h : Prog.Passes initializeSchemaTable s s') :
    Faithful s'.schema ↔ ¬ (s.schema = some [] ∨ s.schema = none ∧ s'.schema = some []) := by
  constructor
  · intro hfaithful hstopped
    have hempty : s'.schema = some [] := by
      rcases hstopped with hempty | ⟨-, hempty⟩
      · rcases passes_initializeSchemaTable h with rfl | ⟨hnone, -⟩
        · exact hempty
        · rw [hempty] at hnone
          cases hnone
      · exact hempty
    rw [hempty] at hfaithful
    exact not_faithful_empty hfaithful
  · intro hstopped
    apply faithful_of_ne
    intro hempty
    apply hstopped
    rcases passes_initializeSchemaTable h with rfl | ⟨hnone, -⟩
    · exact .inl hempty
    · exact .inr ⟨hnone, hempty⟩

/-- An initialization that is not disturbed. -/
theorem faithful_seeded : Faithful (some [0]) := by
  let fresh : Versioned Unit := { content := (), schema := none }
  have hrun := Prog.ends_run initializeSchemaTable fresh
  apply (faithful_iff hrun.passes).mpr
  rintro (hempty | ⟨-, hempty⟩)
  · cases hempty
  · cases hempty

/-- The power fails between the two statements. The next start finds the table, and the migrator
applies version 1 twice. -/
theorem applied_twice :
    Prog.Passes initializeSchemaTable ({ content := [], schema := none } : Versioned (List UInt32))
        { content := [], schema := some [] } ∧
    ¬ Faithful (some []) ∧
    ∃ registry, registerAll [noting 1] = .ok registry ∧
      (do
          Steps.Session.onLive initializeSchemaTable
          upgradeOne registry
          Steps.Session.onLive initializeSchemaTable
          upgradeOne registry
          Steps.Session.onLive currentVersion).run
          { live := { content := [], schema := some [] } } =
        (.ok 0, { live := { content := [1, 1], schema := some [] } }) := by
  refine ⟨?_, not_faithful_empty, _, registerAll_sorted (by simp), rfl⟩
  -- the existence check, and the creation
  exact .step (.step .here)

end Farado
