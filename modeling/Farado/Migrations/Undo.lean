import Farado.Migrations.DefaultData
import Farado.Migrations.Upgrade

/-!
# Taking the default data back

Between `up` and `down` of the default data users insert rows of their own. `down` should then
remove what `up` inserted, and with it what references that, and nothing else. It does so **exactly
when all standard days, all states and all workflows of the default name are those of `up`** (or,
for a state, belong to its workflow). Everybody else's are deleted along with them, and so are their
items.
-/

namespace Farado

open Relational
open Steps (Prog)
open MigrationManager
open V2_DefaultData

/-- Was the row inserted between these two states? -/
def insertedBy (before after : Database V1) (t : Table) (i : Int) : Bool :=
  (after.ids t).contains i && !(before.ids t).contains i

theorem insertedBy_iff {before after : Database V1} {t : Table} {i : Int} :
    insertedBy before after t i = true ↔ i ∈ after.ids t ∧ i ∉ before.ids t := by
  simp [insertedBy]

/-- What `down` owes for a database that was `before`, `after` `up`, and is `now`: the rows that are
`left`. -/
structure Undone (before after now left : Database V1) : Prop where
  /-- Only rows that `up` inserted go, and rows that reference those. -/
  removes : ∀ t, ∀ i ∈ now.ids t, i ∉ left.ids t → now.Doomed (insertedBy before after) t i
  /-- The rows from before are all there, unchanged. -/
  keeps : ∀ t, before.rows t <+: left.rows t
  /-- Where nothing else was inserted, they are all that is there. -/
  restores : now = after → left.rows = before.rows

/-- The tables that `down` clears hold only what `up` put there. -/
structure OnlyDefaults (before after now : Database V1) : Prop where
  standardDays : ∀ r ∈ now.rows .standardDay, insertedBy before after .standardDay r.id = true
  states : ∀ r ∈ now.rows .state, insertedBy before after .state r.id = true ∨
    insertedBy before after .workflow r.cols.workflowId = true
  workflows : ∀ r ∈ now.rows .workflow, isDefaultWorkflow r = true →
    insertedBy before after .workflow r.id = true

/-- Every downgrade from version 2 to version 1 that succeeds leaves what it should. -/
def DownUndoesUp (digest : Bytes → Bytes) (c₀ c₁ c₂ : Connection) : Prop :=
  ∀ {registry : Registry Connection} {s s' : Session Connection},
    V2_DefaultData digest ∈ registry.migrations → s.saved = none → Holds s c₂ 2 →
    Prog.Ends (downgradeOne registry) s (.ok ()) s' →
      ∃ c₃, Holds s' c₃ 1 ∧ Undone c₀.db c₁.db c₂.db c₃.db

/-! ## What `down` leaves -/

section
variable {db : Database V1}

/-- A row that is left after three deletions has survived each of them. -/
theorem mem_withoutStates {t : Table} (ht : OnlyCascades t) {r : Row t}
    (hr : r ∈ (withoutStates db).rows t) :
    r ∈ (withoutEdges db).rows t ∧ r ∈ (withoutDays db).rows t ∧ r ∈ db.rows t := by
  have hedges := (Database.deleteWhere_sublist ht).subset hr
  have hdays := (Database.deleteWhere_sublist ht).subset hedges
  exact ⟨hedges, hdays, (Database.deleteWhere_sublist ht).subset hdays⟩

theorem mem_withoutWorkflow {t : Table} (ht : OnlyCascades t) {r : Row t}
    (hr : r ∈ (withoutWorkflow db).rows t) : r ∈ (withoutStates db).rows t ∧ r ∈ db.rows t := by
  have hstates := (Database.deleteWhere_sublist ht).subset hr
  exact ⟨hstates, (mem_withoutStates ht hstates).2.2⟩

theorem mem_cleared {t : Table} (ht : OnlyCascades t) {r : Row t} (hr : r ∈ (cleared db).rows t) :
    r ∈ (withoutWorkflow db).rows t ∧ r ∈ (withoutStates db).rows t ∧ r ∈ db.rows t := by
  have hworkflow := (Database.deleteWhere_sublist ht).subset hr
  exact ⟨hworkflow, mem_withoutWorkflow ht hworkflow⟩

theorem onlyCascades_standardDay : OnlyCascades .standardDay := onlyCascades_of_allCascade rfl

theorem cleared_standardDay (r : Row .standardDay) : r ∉ (cleared db).rows .standardDay := by
  intro hr
  obtain ⟨-, hstates, -⟩ := mem_cleared onlyCascades_standardDay hr
  obtain ⟨-, hdays, -⟩ := mem_withoutStates onlyCascades_standardDay hstates
  have hfalse := Database.not_matching_of_mem_deleteWhere onlyCascades_standardDay hdays
  cases hfalse

theorem cleared_edge (r : Row .edge) : r ∉ (cleared db).rows .edge := by
  intro hr
  obtain ⟨-, hstates, -⟩ := mem_cleared onlyCascades_edge hr
  obtain ⟨hedges, -, -⟩ := mem_withoutStates onlyCascades_edge hstates
  have hfalse := Database.not_matching_of_mem_deleteWhere onlyCascades_edge hedges
  cases hfalse

theorem cleared_state (r : Row .state) : r ∉ (cleared db).rows .state := by
  intro hr
  obtain ⟨-, hstates, -⟩ := mem_cleared onlyCascades_state hr
  have hfalse := Database.not_matching_of_mem_deleteWhere onlyCascades_state hstates
  cases hfalse

theorem cleared_workflow {r : Row .workflow} (hr : r ∈ (cleared db).rows .workflow) :
    isDefaultWorkflow r = false := by
  obtain ⟨hworkflow, -⟩ := mem_cleared onlyCascades_workflow hr
  exact Database.not_matching_of_mem_deleteWhere onlyCascades_workflow hworkflow

theorem cleared_user {r : Row .user} (hr : r ∈ (cleared db).rows .user) : isAdmin r = false :=
  Database.not_matching_of_mem_deleteWhere onlyCascades_user hr

end

/-! ## Where only default data is cleared -/

section
variable {before after now : Database V1}

/-- The administrator that is there is the one that `up` inserted: logins are unique. -/
def AdminInserted (before after now : Database V1) : Prop :=
  ∀ r ∈ now.rows .user, isAdmin r = true → insertedBy before after .user r.id = true

theorem OnlyDefaults.doomed_state (h : OnlyDefaults before after now) {i : Int}
    (hi : i ∈ now.ids .state) : now.Doomed (insertedBy before after) .state i := by
  obtain ⟨r, hr, rfl⟩ := Database.mem_ids.mp hi
  apply (doomed_state_iff hr).mpr
  rcases h.states r hr with hinserted | hworkflow
  · exact .inl hinserted
  · exact .inr (.root hworkflow)

theorem OnlyDefaults.doomed_edge (h : OnlyDefaults before after now) {i : Int}
    (hi : i ∈ now.ids .edge) : now.Doomed (insertedBy before after) .edge i := by
  obtain ⟨r, hr, rfl⟩ := Database.mem_ids.mp hi
  have hbegin := h.doomed_state (Database.mem_ids.mpr (edge_beginState now hr))
  have hkey : cascade .state EdgeRow.beginStateId ∈ V1.foreignKeys .edge := by simp [foreignKeys]
  exact .cascade hr hkey rfl rfl hbegin

/-- Each of the deletions takes only what is doomed. -/
theorem OnlyDefaults.removes (h : OnlyDefaults before after now)
    (hadmin : AdminInserted before after now) (t : Table) (i : Int) (hi : i ∈ now.ids t)
    (hgone : i ∉ (cleared now).ids t) : now.Doomed (insertedBy before after) t i := by
  by_contra hkept
  -- a row that is not doomed survives a deletion whose own rows are all doomed
  have hstays : ∀ {db' : Database V1} {u : Table} {p : Row u → Bool}, Database.Left db' now →
      (∀ r ∈ db'.rows u, p r = true → now.Doomed (insertedBy before after) u r.id) →
      i ∈ db'.ids t → i ∈ (db'.deleteWhere u p).2.ids t := by
    intro db' u p hleft hp hi'
    by_contra hgone'
    exact hkept (Database.doomed_of_deleteWhere hleft hp hi' hgone')
  have hleft₀ := Database.left_refl now
  have hleft₁ : Database.Left (withoutDays now) now := Database.left_deleteWhere _ _ _
  have hleft₂ : Database.Left (withoutEdges now) now :=
    (Database.left_deleteWhere _ _ _).trans hleft₁
  have hleft₃ : Database.Left (withoutStates now) now :=
    (Database.left_deleteWhere _ _ _).trans hleft₂
  have hleft₄ : Database.Left (withoutWorkflow now) now :=
    (Database.left_deleteWhere _ _ _).trans hleft₃
  have h₁ : i ∈ (withoutDays now).ids t := by
    apply hstays hleft₀ _ hi
    intro r hr _
    exact .root (h.standardDays r hr)
  have h₂ : i ∈ (withoutEdges now).ids t := by
    apply hstays hleft₁ _ h₁
    intro r hr _
    exact h.doomed_edge (hleft₁.ids (Database.mem_ids.mpr ⟨r, hr, rfl⟩))
  have h₃ : i ∈ (withoutStates now).ids t := by
    apply hstays hleft₂ _ h₂
    intro r hr _
    exact h.doomed_state (hleft₂.ids (Database.mem_ids.mpr ⟨r, hr, rfl⟩))
  have h₄ : i ∈ (withoutWorkflow now).ids t := by
    apply hstays hleft₃ _ h₃
    intro r hr hdefault
    -- workflows only go as a whole, so this one is as it was
    have hr₀ := (mem_withoutStates onlyCascades_workflow hr).2.2
    exact .root (h.workflows r hr₀ hdefault)
  apply hgone
  apply hstays hleft₄ _ h₄
  intro r hr hisAdmin
  exact .root (hadmin r (mem_withoutWorkflow onlyCascades_user hr).2 hisAdmin)

/-- Nothing from before matches any of the deletions. -/
theorem OnlyDefaults.keeps (h : OnlyDefaults before after now)
    (hadmin : AdminInserted before after now) (hpart : ∀ t, before.rows t <+: now.rows t)
    (t : Table) : before.rows t <+: (cleared now).rows t := by
  have hold : ∀ {u : Table} {i : Int}, insertedBy before after u i = true → i ∉ before.ids u := by
    intro u i hinserted
    exact (insertedBy_iff.mp hinserted).2
  -- there was no state before: it would be one that `up` inserted
  have hstate : ∀ r, r ∉ before.rows .state := by
    intro r hr
    rcases h.states r ((hpart .state).subset hr) with hinserted | hworkflow
    · exact hold hinserted (Database.mem_ids.mpr ⟨r, hr, rfl⟩)
    · exact hold hworkflow (Database.mem_ids.mpr (state_workflow before hr))
  have h₁ : ∀ u, before.rows u <+: (withoutDays now).rows u := by
    apply Database.prefix_deleteWhere hpart
    intro r hr
    have hinserted := h.standardDays r ((hpart .standardDay).subset hr)
    exact absurd (Database.mem_ids.mpr ⟨r, hr, rfl⟩) (hold hinserted)
  have h₂ : ∀ u, before.rows u <+: (withoutEdges now).rows u := by
    apply Database.prefix_deleteWhere h₁
    intro r hr
    obtain ⟨s, hs, -⟩ := edge_beginState before hr
    exact absurd hs (hstate s)
  have h₃ : ∀ u, before.rows u <+: (withoutStates now).rows u := by
    apply Database.prefix_deleteWhere h₂
    intro r hr
    exact absurd hr (hstate r)
  have h₄ : ∀ u, before.rows u <+: (withoutWorkflow now).rows u := by
    apply Database.prefix_deleteWhere h₃
    intro r hr
    apply Bool.eq_false_iff.mpr
    intro hdefault
    have hinserted := h.workflows r ((hpart .workflow).subset hr) hdefault
    exact hold hinserted (Database.mem_ids.mpr ⟨r, hr, rfl⟩)
  apply Database.prefix_deleteWhere h₄
  intro r hr
  apply Bool.eq_false_iff.mpr
  intro hisAdmin
  have hinserted := hadmin r ((hpart .user).subset hr) hisAdmin
  exact hold hinserted (Database.mem_ids.mpr ⟨r, hr, rfl⟩)

/-- No default row is left. -/
theorem not_isDefault_of_mem_cleared {t : Table} {r : Row t} (hr : r ∈ (cleared after).rows t)
    {q : Row t} (hq : q ∈ after.rows t) (hid : q.id = r.id) : ¬ IsDefault t q.cols := by
  have hsame : OnlyCascades t → q = r := by
    intro ht
    obtain ⟨-, -, hr'⟩ := mem_cleared ht hr
    exact after.integral.eq_of_id hq hr' hid
  intro hdefault
  cases t with
  | user =>
    have hadmin := cleared_user hr
    rw [← hsame onlyCascades_user] at hadmin
    have hlogin : q.cols.login = bytes "admin" := hdefault
    simp [isAdmin, hlogin] at hadmin
  | workflow =>
    have hworkflow := cleared_workflow hr
    rw [← hsame onlyCascades_workflow] at hworkflow
    have hcaption : q.cols.caption = bytes "Базовый процесс" := hdefault
    simp [isDefaultWorkflow, hcaption] at hworkflow
  | state => exact cleared_state r hr
  | edge => exact cleared_edge r hr
  | standardDay => exact cleared_standardDay r hr
  | _ => exact hdefault

/-- What is left beyond the rows from before would be a default row. -/
theorem cleared_rows (hinserts : Database.Inserts (S := V1) IsDefault before after) (t : Table)
    (hkeeps : before.rows t <+: (cleared after).rows t) :
    (cleared after).rows t = before.rows t := by
  obtain ⟨rest, hrest⟩ := hkeeps
  cases rest with
  | nil => rw [← hrest, List.append_nil]
  | cons r rest =>
    exfalso
    have hr : r ∈ (cleared after).rows t := by
      rw [← hrest]
      exact List.mem_append_right _ List.mem_cons_self
    -- the ids of a table are distinct, so `r` is none of the rows from before
    have hnew : r.id ∉ before.ids t := by
      have hnodup := (cleared after).integral.ids_nodup t
      rw [← hrest, List.map_append, List.nodup_append] at hnodup
      intro hold
      exact hnodup.2.2 r.id hold r.id List.mem_cons_self rfl
    have hleft : Database.Left (cleared after) after :=
      (Database.left_deleteWhere _ _ _).trans <| (Database.left_deleteWhere _ _ _).trans <|
        (Database.left_deleteWhere _ _ _).trans <| (Database.left_deleteWhere _ _ _).trans <|
          Database.left_deleteWhere _ _ _
    obtain ⟨q, hq, hid, -⟩ := hleft t r hr
    rcases hinserts.mem hq with hbefore | hdefault
    · apply hnew
      rw [← hid]
      exact Database.mem_ids.mpr ⟨q, hbefore, rfl⟩
    · exact not_isDefault_of_mem_cleared hr hq hid hdefault

theorem OnlyDefaults.undone (h : OnlyDefaults before after now)
    (hadmin : AdminInserted before after now)
    (hinserts : Database.Inserts (S := V1) IsDefault before after)
    (hpart : ∀ t, before.rows t <+: now.rows t) : Undone before after now (cleared now) where
  removes := h.removes hadmin
  keeps := h.keeps hadmin hpart
  restores := by
    rintro rfl
    funext t
    exact cleared_rows hinserts t (h.keeps hadmin hpart t)

/-- Conversely, all that the deletions name has to go legitimately. -/
theorem Undone.onlyDefaults (h : Undone before after now (cleared now)) :
    OnlyDefaults before after now where
  standardDays := by
    intro r hr
    have hgone : r.id ∉ (cleared now).ids .standardDay :=
      Database.not_mem_ids_of_empty cleared_standardDay r.id
    have hdoomed := h.removes _ _ (Database.mem_ids.mpr ⟨r, hr, rfl⟩) hgone
    rw [Database.doomed_iff hr] at hdoomed
    simpa [foreignKeys] using hdoomed
  states := by
    intro r hr
    have hgone : r.id ∉ (cleared now).ids .state :=
      Database.not_mem_ids_of_empty cleared_state r.id
    have hdoomed := h.removes _ _ (Database.mem_ids.mpr ⟨r, hr, rfl⟩) hgone
    rw [doomed_state_iff hr] at hdoomed
    obtain ⟨w, hw, hid⟩ := state_workflow now hr
    rw [← hid] at hdoomed ⊢
    rwa [doomed_workflow_iff hw] at hdoomed
  workflows := by
    intro r hr hdefault
    have hgone : r.id ∉ (cleared now).ids .workflow := by
      intro hid
      obtain ⟨q, hq, hqid⟩ := Database.mem_ids.mp hid
      obtain ⟨-, -, hq'⟩ := mem_cleared onlyCascades_workflow hq
      have hkept := cleared_workflow hq
      rw [now.integral.eq_of_id hq' hr hqid, hdefault] at hkept
      cases hkept
    have hdoomed := h.removes _ _ (Database.mem_ids.mpr ⟨r, hr, rfl⟩) hgone
    rwa [doomed_workflow_iff hr] at hdoomed

end

/-! ## Through the migration manager -/

section
variable {digest : Bytes → Bytes} {c₀ c₁ c₂ : Connection}

theorem adminInserted (hup : CanComplete (up digest) c₀ c₁)
    (hpart : ∀ t, c₁.db.rows t <+: c₂.db.rows t) : AdminInserted c₀.db c₁.db c₂.db := by
  obtain ⟨r, hr, hadmin, hnew, -⟩ := ends_up_admin hup
  intro q hq hisAdmin
  have hsame : q = r := by
    by_contra hne
    have hconflict := c₂.db.integral.no_conflict hq ((hpart .user).subset hr) hne
    have hq' : q.cols.login = bytes "admin" := eq_of_beq hisAdmin
    have hr' : r.cols.login = bytes "admin" := eq_of_beq hadmin
    simp [conflict, hq', hr'] at hconflict
  rw [hsame]
  exact insertedBy_iff.mpr ⟨Database.mem_ids.mpr ⟨r, hr, rfl⟩, hnew⟩

/-- A downgrade from version 2 runs `down`. -/
theorem ends_downgradeOne_V2 {registry : Registry Connection} {s s' : Session Connection}
    (hregistry : V2_DefaultData digest ∈ registry.migrations) (hs : s.saved = none)
    (hholds : Holds s c₂ 2) (h : Prog.Ends (downgradeOne registry) s (.ok ()) s') :
    Holds s' { c₂ with db := cleared c₂.db } 1 := by
  have hversion : (2 : UInt32).toNat = 2 := rfl
  rw [← hversion] at hholds
  rcases downgradeOne_exact (List.Perm.refl _) hs hholds h with
    ⟨-, m, hm, hm2, c', k, hdown, hholds', hk⟩ | ⟨⟨_, herr⟩, -⟩
  · have hsame : m = V2_DefaultData digest :=
      List.inj_on_of_nodup_map registry.nodup_versions hm hregistry hm2
    rw [hsame] at hdown
    rw [ends_down hdown] at hholds'
    obtain rfl : k = 1 := by omega
    exact hholds'
  · cases herr

/-- There is such a downgrade, in which nothing fails. -/
theorem run_downgradeOne_V2 (digest : Bytes → Bytes) (c : Connection) :
    (downgradeOne { migrations := [V2_DefaultData digest] }).run
        { live := { content := c, schema := some [2] } } =
      (.ok (), { live := { content := { c with db := cleared c.db }, schema := some [1] } }) := rfl

theorem DownUndoesUp.onlyDefaults (h : DownUndoesUp digest c₀ c₁ c₂) :
    OnlyDefaults c₀.db c₁.db c₂.db := by
  let registry : Registry Connection := { migrations := [V2_DefaultData digest] }
  let s : Session Connection := { live := { content := c₂, schema := some [2] } }
  have hregistry : V2_DefaultData digest ∈ registry.migrations := List.mem_singleton.mpr rfl
  have hholds : Holds s c₂ 2 := ⟨2, [], rfl, rfl⟩
  have hends := Prog.ends_run (downgradeOne registry) s
  rw [run_downgradeOne_V2] at hends
  obtain ⟨c₃, hleft, hundone⟩ := h hregistry rfl hholds hends
  obtain ⟨rfl, -⟩ := hleft.unique (ends_downgradeOne_V2 hregistry rfl hholds hends)
  exact hundone.onlyDefaults

/-- **`down` takes back what `up` did exactly when the tables it clears hold nothing else.** -/
theorem downUndoesUp_iff (hup : CanComplete (up digest) c₀ c₁)
    (hinserts : Database.Inserts (S := V1) (fun _ _ => True) c₁.db c₂.db) :
    DownUndoesUp digest c₀ c₁ c₂ ↔ OnlyDefaults c₀.db c₁.db c₂.db := by
  constructor
  · exact DownUndoesUp.onlyDefaults
  · intro honly registry s s' hregistry hs hholds h
    have hadds : Adds c₀ c₁ := adds_up digest _ _ _ hup
    have hpart : ∀ t, c₀.db.rows t <+: c₂.db.rows t := by
      intro t
      exact (hadds.isPrefix t).trans (hinserts.isPrefix t)
    have hadmin := adminInserted hup hinserts.isPrefix
    exact ⟨_, ends_downgradeOne_V2 hregistry hs hholds h, honly.undone hadmin hadds hpart⟩

end

/-- SHA-256, for the one password that is hashed here. -/
def digestOfPassword (_ : Bytes) : Bytes :=
  [0x5e, 0x88, 0x48, 0x98, 0xda, 0x28, 0x04, 0x71, 0x51, 0xd0, 0xe5, 0x6f, 0x8d, 0xc6, 0x29, 0x27,
    0x73, 0x60, 0x3d, 0x0d, 0x6a, 0xab, 0xbd, 0xd6, 0x2a, 0x11, 0xef, 0x72, 0x1d, 0x15, 0x42, 0xd8]

theorem canComplete_of_run {code : Db Unit} {c : Connection} (h : (code.run c).1 = .ok ()) :
    CanComplete code c (code.after c) := by
  have hrun := Prog.ends_run code c
  rw [h] at hrun
  exact hrun

/-- A workflow of somebody's own with an item type in it, but no item and no state. -/
def ownItemType : Db Unit := do
  let _ ← insertInto .workflow { caption := bytes "Sales", description := none }
  let _ ← insertInto .itemType {
    workflowId := 1, defaultStateId := none, caption := bytes "Task", kind := bytes "issue",
    defaultContent := none }

/-- Users add a state to the default workflow, which is the second one, and a user. -/
def usersInsert (c : Connection) : Connection :=
  let c := (insertInto .state {
    workflowId := 2, caption := bytes "Waiting", description := none, weight := some 0,
    orderNumber := some 0, isArchive := 0, isQueue := 0 }).after c
  (insertInto .user {
    login := bytes "ann", firstName := none, middleName := none, lastName := none,
    email := bytes "ann@example.org", passwordHash := bytes "5e88", needChangePassword := 0,
    isBlocked := 0, isSuperAdmin := 0, isHidden := 0 }).after c

theorem inserts_usersInsert (c : Connection) :
    Database.Inserts (S := V1) (fun _ _ => True) c.db (usersInsert c).db :=
  (inserts_insertInto trivial c).trans (inserts_insertInto trivial _)

theorem downUndoesUp_ownItemType :
    let c₀ := ownItemType.after Connection.fresh
    let c₁ := (up digestOfPassword).after c₀
    DownUndoesUp digestOfPassword c₀ c₁ (usersInsert c₁) := by
  intro c₀ c₁
  have hup : CanComplete (up digestOfPassword) c₀ c₁ := canComplete_of_run (by decide +kernel)
  apply (downUndoesUp_iff hup (inserts_usersInsert c₁)).mpr
  constructor
  · decide
  · decide
  · decide

/-- A workflow of somebody's own with an item in it. -/
def ownItem : Db Unit := do
  let _ ← insertInto .workflow { caption := bytes "Sales", description := none }
  let _ ← insertInto .state {
    workflowId := 1, caption := bytes "New", description := none, weight := some 0,
    orderNumber := some 0, isArchive := 0, isQueue := 0 }
  let _ ← insertInto .itemType {
    workflowId := 1, defaultStateId := some 1, caption := bytes "Task", kind := bytes "issue",
    defaultContent := none }
  let _ ← insertInto .item {
    itemTypeId := 1, parentId := none, stateId := 1, phaseId := none, caption := bytes "Call back",
    content := none, searchCaption := none, searchContent := none, isDeleted := 0 }

/-- `down` right after `up` destroys the item, together with the state it is in. -/
theorem down_destroys_items :
    let c₀ := ownItem.after Connection.fresh
    let c₁ := (up digestOfPassword).after c₀
    CanComplete (up digestOfPassword) c₀ c₁ ∧
      (c₀.db.ids .item, (down.after c₁).db.ids .item) = ([1], []) ∧
      (c₀.db.ids .state, (down.after c₁).db.ids .state) = ([1], []) ∧
      ¬ DownUndoesUp digestOfPassword c₀ c₁ c₁ := by
  refine ⟨canComplete_of_run (by rfl), by decide, by decide, ?_⟩
  intro h
  have hstates := h.onlyDefaults.states
  revert hstates
  decide

end Farado
