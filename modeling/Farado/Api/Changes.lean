import Farado.Api.Calls
import Farado.Lib.Relational.Change

/-!
# What the calls change

Every call of a service that a request can come to changes one row, if it changes any: it inserts one
into its table, updates the one it names, or deletes it with what depends on it. This holds however
the statements in it turn out.
-/

namespace Farado

open Relational Steps

/-- All that the program can do to the rows is this change, also where statements fail. -/
def Changing {α : Type} (change : Change V1) (p : Db α) : Prop :=
  Prog.Within (fun c c' => Changes (· = change) c.db c'.db) p

namespace Changing

variable {α β : Type} {change : Change V1}

theorem after {p : Db α} (h : Changing change p) (c : Connection) :
    Changes (· = change) c.db (p.after c).db := h c _ _ (Prog.ends_run p c)

theorem of_readOnly {p : Db α} (hp : Prog.ReadOnly p) : Changing change p :=
  hp.within fun _ => .refl

theorem pure (a : α) : Changing change (Pure.pure a : Db α) := of_readOnly (Prog.readOnly_pure a)

theorem bind {p : Db α} {k : α → Db β} (hp : Changing change p) (hk : ∀ a, Changing change (k a)) :
    Changing change (p >>= k) := Prog.Within.bind (fun _ _ _ h h' => h.trans h') hp hk

/-- A query first. -/
theorem read {p : Db α} {k : α → Db β} (hp : Prog.ReadOnly p) (hk : ∀ a, Changing change (k a)) :
    Changing change (p >>= k) := (of_readOnly hp).bind hk

theorem tryCatch {p : Db α} {h : Error → Db α} (hp : Changing change p)
    (hh : ∀ e, Changing change (h e)) : Changing change (MonadExcept.tryCatch p h) :=
  Prog.Within.tryCatch (fun _ _ _ h h' => h.trans h') hp hh

theorem ite {b : Prop} [Decidable b] {p q : Db α} (hp : Changing change p)
    (hq : Changing change q) : Changing change (if b then p else q) := by
  split
  · exact hp
  · exact hq

theorem insertInto (t : Table) (values : Columns t) :
    Changing (.insert t) (Farado.insertInto t values) := by
  refine Prog.within_atomic (fun _ => .refl) fun c => ?_
  cases hinsert : c.db.insert t values with
  | none => exact .refl
  | some inserted => exact .single rfl ⟨values, inserted.1, hinsert⟩

theorem updateWhereId (t : Table) (id : Int) (set : Columns t → Columns t) :
    Changing (.update t id) (Farado.updateWhereId t id set) := by
  refine Prog.within_atomic (fun _ => .refl) fun c => ?_
  cases hupdate : c.db.updateById t id set with
  | none => exact .refl
  | some updated => exact .single rfl ⟨set, updated.1, hupdate⟩

theorem deleteWhereId (t : Table) (id : Int) : Changing (.delete t id) (Farado.deleteWhereId t id) :=
  Prog.within_atomic (fun _ => .refl) fun _ => .single rfl rfl

/-! ## The patterns -/

theorem createAndFind {Dto : Type} {t : Table} (values : Option (Columns t))
    {find : Int → Db (Option Dto)} (hfind : ∀ id, Prog.ReadOnly (find id)) :
    Changing (.insert t) (Farado.createAndFind (createIn t values) find) := by
  refine bind ?_ fun newId => of_readOnly (.ite (Prog.readOnly_pure _) (hfind newId))
  cases values with
  | none => exact pure 0
  | some values =>
    exact (insertInto t values).bind fun _ => of_readOnly (Prog.readOnly_atomic fun _ => rfl)

theorem updateIn {t : Table} (id : Option Int) (setClauses : List (Columns t → Columns t)) :
    Changing (.update t (id.getD 0)) (Farado.updateIn t id setClauses) := by
  cases id with
  | none => exact pure false
  | some id =>
    refine ite (pure false) (tryCatch ?_ fun _ => pure false)
    exact (updateWhereId t id _).bind fun affected => pure _

theorem updateAndFind {Dto : Type} {update : Db Bool} {find : Db (Option Dto)}
    (hupdate : Changing change update) (hfind : Prog.ReadOnly find) :
    Changing change (Farado.updateAndFind update find) :=
  hupdate.bind fun _ => ite (pure none) (of_readOnly hfind)

theorem removeIn (t : Table) (id : Int) : Changing (.delete t id) (Farado.removeIn t id) :=
  ite (pure false) (tryCatch ((deleteWhereId t id).bind fun _ => pure _) fun _ => pure false)

/-- The removal of what nothing uses. -/
theorem removeUnusedIn (t : Table) (usages : Database V1 → Int → Nat) (id : Int) :
    Changing (.delete t id) (Farado.removeUnusedIn t usages id) := by
  have husage : Prog.ReadOnly (usageCountIn usages id) :=
    .ite (Prog.readOnly_pure _) (.tryCatch (readOnly_select _) fun _ => Prog.readOnly_pure 0)
  refine ite (pure false) (tryCatch (read husage fun count => ?_) fun _ => pure false)
  exact ite (pure false) ((deleteWhereId t id).bind fun _ => pure _)

end Changing

namespace ServiceCall

/-- The change that the call makes, if it makes one. -/
def change : ServiceCall → Change V1
  | graph (.createWorkflow _) => .insert .workflow
  | graph (.updateWorkflow workflow) => .update .workflow (workflow.id.getD 0)
  | graph (.deleteWorkflow id) => .delete .workflow id
  | graph (.createState _) => .insert .state
  | graph (.updateState state) => .update .state (state.id.getD 0)
  | graph (.deleteState id) => .delete .state id
  | graph (.createEdge _) => .insert .edge
  | graph (.deleteEdge id) => .delete .edge id
  | graph (.createItemType _) => .insert .itemType
  | graph (.updateItemType itemType) => .update .itemType (itemType.id.getD 0)
  | graph (.deleteItemType id) => .delete .itemType id
  | createUser _ _ => .insert .user
  | updateUser user => .update .user (user.id.getD 0)
  | deleteUser id => .delete .user id
  | changePassword userId _ _ => .update .user userId
  | createProject _ => .insert .project
  | updateProject project => .update .project (project.id.getD 0)
  | archiveProject id => .update .project id
  | createPhase _ => .insert .phase
  | updatePhase phase => .update .phase (phase.id.getD 0)
  | archivePhase id => .update .phase id
  | createFieldType _ => .insert .fieldType
  | updateFieldType fieldType => .update .fieldType (fieldType.id.getD 0)
  | deleteFieldType id => .delete .fieldType id

theorem changing_graph (env : Environment) (c : Connection) (call : Call) :
    Changes (· = (graph call).change) c.db (call.exec env c).db := by
  have hfind : ∀ (t : Table) {Dto : Type} (mapRow : Row t → Except Error Dto) (id : Int),
      Prog.ReadOnly (findByIdIn t mapRow id) := fun t _ mapRow id => readOnly_findByIdIn t mapRow id
  cases call with
  | createWorkflow workflow =>
    apply Changing.after (p := WorkflowService.createWorkflow workflow)
    unfold WorkflowService.createWorkflow
    cases WorkflowService.validateWorkflow workflow with
    | error e => exact .pure none
    | ok caption =>
      refine .read (readOnly_existsByCaption caption) fun taken => ?_
      exact .ite (.pure none) (.createAndFind _ (hfind _ _))
  | updateWorkflow workflow =>
    apply Changing.after (p := WorkflowService.updateWorkflow workflow)
    unfold WorkflowService.updateWorkflow
    cases hid : workflow.id with
    | none => exact .pure none
    | some id =>
      refine .read (readOnly_findWorkflow id) fun found => ?_
      cases found with
      | none => exact .pure none
      | some existing =>
        refine .read (readOnly_captionTaken workflow existing) fun taken => ?_
        exact .ite (.pure none) (.updateAndFind (.updateIn _ _) (hfind _ _ id))
  | deleteWorkflow id =>
    apply Changing.after (p := WorkflowService.deleteWorkflow env id)
    refine .read (readOnly_findWorkflow id) fun found => ?_
    cases found with
    | none => exact .pure _
    | some workflow =>
      refine .read (readOnly_canDeleteWorkflow env id) fun deletable => .ite (.pure _) ?_
      exact (Changing.removeIn _ _).bind fun removed => .ite (.pure _) (.pure _)
  | createState state =>
    apply Changing.after (p := StateService.createState state)
    unfold StateService.createState
    cases StateService.validateState state with
    | error e => exact .pure none
    | ok workflowId =>
      refine .read (readOnly_findWorkflow workflowId) fun found => ?_
      cases found with
      | none => exact .pure none
      | some workflow => exact .createAndFind _ (hfind _ _)
  | updateState state =>
    apply Changing.after (p := StateService.updateState state)
    unfold StateService.updateState
    cases hid : state.id with
    | none => exact .pure none
    | some id =>
      refine .read (readOnly_findState id) fun found => ?_
      cases found with
      | none => exact .pure none
      | some existing =>
        refine .read (readOnly_archivesUsedState state id) fun used => ?_
        exact .ite (.pure none) (.updateAndFind (.updateIn _ _) (hfind _ _ id))
  | deleteState id =>
    apply Changing.after (p := StateService.deleteState env id)
    refine .read (readOnly_findState id) fun found => ?_
    cases found with
    | none => exact .pure _
    | some state =>
      refine .read (readOnly_canDeleteState env id) fun deletable => .ite (.pure _) ?_
      exact (Changing.removeIn _ _).bind fun removed => .ite (.pure _) (.pure _)
  | createEdge edge =>
    apply Changing.after (p := EdgeService.createEdge edge)
    obtain ⟨id, beginStateId, endStateId⟩ := edge
    cases beginStateId with
    | none => exact .pure none
    | some beginStateId =>
      cases endStateId with
      | none => exact .pure none
      | some endStateId =>
        refine .read (readOnly_validateEdge beginStateId endStateId) fun validation => ?_
        refine .ite (.pure none) (.read (readOnly_edgeExists beginStateId endStateId) fun taken => ?_)
        exact .ite (.pure none) (.createAndFind _ (hfind _ _))
  | deleteEdge id =>
    apply Changing.after (p := EdgeService.deleteEdge id)
    refine .read (readOnly_findEdge id) fun found => ?_
    cases found with
    | none => exact .pure _
    | some edge => exact (Changing.removeIn _ _).bind fun removed => .ite (.pure _) (.pure _)
  | createItemType itemType =>
    exact (Changing.ite (.pure none) (.createAndFind _ (hfind _ _))).after c
  | updateItemType itemType =>
    refine Changing.after (p := ItemTypeService.updateItemType itemType) ?_ c
    unfold ItemTypeService.updateItemType
    cases hid : itemType.id with
    | none => exact .pure none
    | some id =>
      refine .read (readOnly_existsIn .itemType id) fun found => .ite (.pure none) ?_
      exact .updateAndFind (.ite (.pure false) (.updateIn _ _)) (hfind _ _ id)
  | deleteItemType id =>
    refine Changing.after (p := ItemTypeService.deleteItemType id) ?_ c
    refine .read (readOnly_existsIn .itemType id) fun found => .ite (.pure false) ?_
    exact .removeUnusedIn _ _ _

/-- **What a call may change.** -/
theorem changes (host : Host) (c : Connection) (call : ServiceCall) :
    Changes (· = call.change) c.db (call.exec host c).db := by
  have hfind : ∀ (t : Table) {Dto : Type} (mapRow : Row t → Except Error Dto) (id : Int),
      Prog.ReadOnly (findByIdIn t mapRow id) := fun t _ mapRow id => readOnly_findByIdIn t mapRow id
  cases call with
  | graph call => exact changing_graph host.env c call
  | createUser user password =>
    refine (Changing.ite (.pure none) (.read ?_ fun taken => ?_)).after c
    · exact .ite (Prog.readOnly_pure _) (readOnly_anyIn _ _)
    · exact .ite (.pure none) (.createAndFind _ (hfind _ _))
  | updateUser user =>
    refine Changing.after (p := UserService.updateUser user) ?_ c
    unfold UserService.updateUser
    cases hid : user.id with
    | none => exact .pure none
    | some id => exact .updateAndFind (.updateIn _ _) (hfind _ _ id)
  | deleteUser id => exact (Changing.removeIn _ _).after c
  | changePassword userId oldPassword newPassword =>
    refine Changing.after
      (p := AuthService.changePassword host.sha256 userId oldPassword newPassword) ?_ c
    refine .ite (.pure _) (.read (hfind _ _ userId) fun found => ?_)
    cases found with
    | none => exact .pure _
    | some user =>
      refine .read (AuthService.readOnly_verifyPassword userId oldPassword) fun verified => ?_
      refine .ite (.pure _) (.ite (.pure _) (.ite (.pure _) ?_))
      refine (Changing.ite (.pure false) (.updateIn (some userId) _)).bind fun updated => ?_
      refine .ite (.pure _) ((Changing.ite (.pure false) ?_).bind fun _ => .pure _)
      exact .updateIn (some userId) _
  | createProject project =>
    exact (Changing.ite (.pure none) (.createAndFind _ (hfind _ _))).after c
  | updateProject project =>
    refine Changing.after (p := ProjectService.updateProject host.env host.now project) ?_ c
    unfold ProjectService.updateProject
    cases hid : project.id with
    | none => exact .pure none
    | some id =>
      refine .read (readOnly_existsIn .project id) fun found => .ite (.pure none) ?_
      exact .updateAndFind (.updateIn _ _) (hfind _ _ id)
  | archiveProject id =>
    refine Changing.after (p := ProjectService.archiveProject host.now id) ?_ c
    refine .read (readOnly_existsIn .project id) fun found => .ite (.pure false) ?_
    exact .ite (.pure false) (.updateIn (some id) _)
  | createPhase phase =>
    exact (Changing.ite (.pure none) (.createAndFind _ (hfind _ _))).after c
  | updatePhase phase =>
    refine Changing.after (p := PhaseService.updatePhase host.env phase) ?_ c
    unfold PhaseService.updatePhase
    cases hid : phase.id with
    | none => exact .pure none
    | some id =>
      refine .read (readOnly_existsIn .phase id) fun found => .ite (.pure none) ?_
      exact .updateAndFind (.updateIn _ _) (hfind _ _ id)
  | archivePhase id =>
    refine Changing.after (p := PhaseService.archivePhase id) ?_ c
    refine .read (readOnly_existsIn .phase id) fun found => .ite (.pure false) ?_
    exact .ite (.pure false) (.updateIn (some id) _)
  | createFieldType fieldType =>
    exact (Changing.ite (.pure none) (.createAndFind _ (hfind _ _))).after c
  | updateFieldType fieldType =>
    refine Changing.after (p := FieldTypeService.updateFieldType fieldType) ?_ c
    unfold FieldTypeService.updateFieldType
    cases hid : fieldType.id with
    | none => exact .pure none
    | some id =>
      refine .read (readOnly_existsIn .fieldType id) fun found => .ite (.pure none) ?_
      exact .updateAndFind (.ite (.pure false) (.updateIn _ _)) (hfind _ _ id)
  | deleteFieldType id =>
    refine Changing.after (p := FieldTypeService.deleteFieldType id) ?_ c
    refine .read (readOnly_existsIn .fieldType id) fun found => .ite (.pure false) ?_
    exact .removeUnusedIn _ _ _

end ServiceCall

end Farado
