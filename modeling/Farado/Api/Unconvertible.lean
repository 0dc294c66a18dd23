import Farado.Api.Bodies
import Farado.Repositories.Updates
import Farado.Services.Plans
import Farado.Storage.Reference

/-!
# Bodies with a field that cannot be converted

The converting constructor forgets what `fromJson` returns, so a handler cannot tell such a field
from one that is missing. A request with one is rejected when what is left of it would be rejected
too, which depends on the fields that are required, on the plan of the service and on the store.
-/

namespace Farado

open Http Relational Steps

/-! ## Updates that change nothing -/

namespace Stored

/-- The check on an enumerated column that `update` begins with. -/
def accepts : (s : Stored) → s.Dto → Bool
  | itemType, d => (Dto.ItemType.kind d).all SqliteItemTypeRepository.validKinds.contains
  | fieldType, d => (Dto.FieldType.valueType d).all SqliteFieldTypeRepository.validValueTypes.contains
  | _, _ => true

section
variable (env : Environment) (now : Int) {s : Stored} {d : s.Dto} (c : Connection)

theorem run_checked {id : Option Int} (hid : id.isSome = true) (value : Option Bytes)
    (valid : List Bytes) (p : Db Bool) :
    (if id.isSome && value.any fun v => !valid.contains v then pure false else p : Db Bool).run c =
      if value.all valid.contains then p.run c else (.ok false, c) := by
  rw [hid, Bool.true_and]
  cases value with
  | none => rfl
  | some v =>
    rw [Option.any_some, Option.all_some]
    cases valid.contains v <;> rfl

/-- Where the check accepts, `update` is the common pattern; otherwise it answers false. -/
theorem run_update_eq (hid : (s.id d).isSome = true) :
    (s.update env now d).run c =
      if s.accepts d then (updateIn s.table (s.id d) (s.setClauses env now d)).run c
      else (.ok false, c) := by
  cases s with
  | itemType => exact run_checked c hid (Dto.ItemType.kind d) SqliteItemTypeRepository.validKinds _
  | fieldType =>
    exact run_checked c hid (Dto.FieldType.valueType d) SqliteFieldTypeRepository.validValueTypes _
  | workflow | state | project | phase | user => rfl

/-- `update` answers true when it has found the row; nothing is changed by it when the row has all
the values already. -/
theorem run_update_eq_self {id : Int} (hid : s.id d = some id) :
    (s.update env now d).run c = (.ok true, c) ↔
      s.accepts d = true ∧ s.setClauses env now d ≠ [] ∧ ∃ row ∈ c.db.rows s.table,
        row.id = id ∧ applyAll (s.setClauses env now d) row.cols = row.cols := by
  rw [run_update_eq env now c (by rw [hid]; rfl), hid]
  cases haccepts : s.accepts d with
  | false => exact iff_of_false (by simp) (by simp)
  | true =>
    rw [if_pos rfl]
    constructor
    · intro hrun
      refine ⟨rfl, ?_⟩
      rcases run_updateIn hrun with ⟨hfalse, -⟩ | ⟨_, affected, db, hi, hne, hupd, htrue, hsame⟩
      · cases hfalse
      · cases hi
        obtain rfl : c.db = db := congrArg Connection.db hsame
        have haffected : 0 < affected := of_decide_eq_true (Except.ok.inj htrue).symm
        obtain ⟨-, -, -, hfound⟩ := Database.updateById_eq_some hupd
        obtain ⟨row, hrow, rfl⟩ := Database.mem_ids.mp (hfound.mp haffected)
        exact ⟨hne, row, hrow, rfl, (Database.updateById_eq_self_iff hrow).mp ⟨affected, hupd⟩⟩
    · rintro ⟨-, hne, row, hrow, rfl, hfix⟩
      obtain ⟨affected, hupd⟩ := (Database.updateById_eq_self_iff hrow).mpr hfix
      obtain ⟨-, -, -, hfound⟩ := Database.updateById_eq_some hupd
      have haffected : 0 < affected := hfound.mpr (Database.mem_ids.mpr ⟨row, hrow, rfl⟩)
      rw [run_updateIn_some hne, hupd]
      dsimp only
      rw [decide_eq_true haffected]

/-- `update` never throws, and leaves the last rowid alone. -/
theorem run_update_ok (hid : (s.id d).isSome = true) :
    ∃ updated db, (s.update env now d).run c = (.ok updated, { c with db := db }) := by
  rw [run_update_eq env now c hid]
  split
  · rcases run_updateIn (Prog.run_eq (updateIn s.table (s.id d) (s.setClauses env now d)) c) with
      ⟨hresult, hafter⟩ | ⟨_, affected, db, -, -, -, hresult, hafter⟩
    · exact ⟨false, c.db, Prod.ext hresult hafter⟩
    · exact ⟨_, db, Prod.ext hresult hafter⟩
  · exact ⟨false, c.db, rfl⟩

end

end Stored

namespace Bodies

/-- 400, and the store is as it was. -/
def Rejects (answered : Answered) (c : Connection) : Prop :=
  answered.1.statusCode = 400 ∧ answered.2.db = c.db

section
variable {host : Host} {Dto : Type} {failed : Int × Bytes}
  {replyWith : Dto → Except StdException HttpResponse} {c : Connection} {plan : Plan}

/-- Only what cannot be returned is answered with 400. -/
def Succeeds (replyWith : Dto → Except StdException HttpResponse) : Prop :=
  ∀ x response, replyWith x = .ok response → response.statusCode ≠ 400

theorem statusCode_caught (hreply : Succeeds replyWith) {x : Dto} :
    (caught (replyWith x)).statusCode = 400 ↔ ∃ e, replyWith x = .error e := by
  cases h : replyWith x with
  | error e => exact iff_of_true rfl ⟨e, rfl⟩
  | ok response =>
    apply iff_of_false (hreply x response h)
    rintro ⟨e, he⟩
    cases he

theorem succeeds_replyObject {toJson : Dto → Json} {statusCode : Int} (h : statusCode ≠ 400) :
    Succeeds (replyObject host toJson statusCode) := by
  intro x response hx
  unfold replyObject at hx
  cases hjson : host.json.toWebJson (toJson x) with
  | error e =>
    rw [hjson] at hx
    cases hx
  | ok json =>
    rw [hjson] at hx
    cases hx
    exact h

/-- The service creates nothing, and the reply to that is 400. -/
def NotCreated (t : Table) (failed : Int) (plan : Plan) (values : Option (Columns t))
    (c : Connection) : Prop :=
  match plan, values with
  | .throws, _ => True
  | .refuses, _ => failed = 400
  | .writes, none => failed = 400
  | .writes, some v => c.db.insert t v = none

theorem run_createAndFind_of_insert {t : Table} {v : Columns t} {find : Int → Db (Option Dto)}
    (h : c.db.insert t v = none) :
    (createAndFind (createIn t (some v)) find).run c = (.error .constraintFailed, c) := by
  apply Prog.run_bind_error
  rcases run_insertInto t v c with ⟨_, _, hinsert, -⟩ | ⟨-, hrun⟩
  · rw [h] at hinsert
    cases hinsert
  · exact Prog.run_bind_error hrun

theorem rejects_create_iff {t : Table} {create : Db (Option Dto)} {values : Option (Columns t)}
    {find : Int → Db (Option Dto)} (hfind : ∀ id, Prog.ReadOnly (find id))
    (hfollows : Follows create c plan (createAndFind (createIn t values) find)) :
    Rejects (caught (replyTo host failed replyWith (create.result c)), create.after c) c ↔
      NotCreated t failed.1 plan values c := by
  unfold Rejects Prog.result Prog.after
  cases plan with
  | throws =>
    obtain ⟨e, hrun⟩ := hfollows
    rw [hrun]
    exact iff_of_true ⟨rfl, rfl⟩ trivial
  | refuses =>
    have hrun : create.run c = (.ok none, c) := hfollows
    rw [hrun]
    exact and_iff_left rfl
  | writes =>
    have hrun : create.run c = (createAndFind (createIn t values) find).run c := hfollows
    rw [hrun]
    cases values with
    | none => exact and_iff_left rfl
    | some v =>
      unfold NotCreated
      dsimp only
      cases hinsert : c.db.insert t v with
      | none =>
        rw [run_createAndFind_of_insert hinsert]
        exact iff_of_true ⟨rfl, rfl⟩ rfl
      | some x =>
        refine iff_of_false ?_ (by simp)
        rintro ⟨-, hsame⟩
        have hafter := after_createAndFind (v := v) hfind c
        unfold Prog.after at hafter
        rw [hafter, hinsert] at hsame
        exact Database.ne_of_insert hinsert hsame

/-- The UPDATE would write what the row has already, and then the row cannot be returned. -/
def RewriteUnanswered (host : Host) (s : Stored) (x : s.Dto)
    (replyWith : s.Dto → Except StdException HttpResponse) (c : Connection) : Prop :=
  s.accepts x = true ∧ s.setClauses host.env host.now x ≠ [] ∧
    ∃ row ∈ c.db.rows s.table, s.id x = some row.id ∧ 0 < row.id ∧
      applyAll (s.setClauses host.env host.now x) row.cols = row.cols ∧
      (s.reader.Readable row → ∃ e, replyWith (s.reader.dtoOf row) = .error e)

/-- The service throws, or the update changes nothing and cannot be answered. -/
def NotUpdated (host : Host) (s : Stored) (x : s.Dto)
    (replyWith : s.Dto → Except StdException HttpResponse) (plan : Plan) (c : Connection) : Prop :=
  match plan with
  | .throws => True
  | .refuses => False
  | .writes => RewriteUnanswered host s x replyWith c

end

section
variable {host : Host} {s : Stored} {x : s.Dto} {failed : Bytes}
  {replyWith : s.Dto → Except StdException HttpResponse} {c : Connection} {plan : Plan}

/-- `updateX` of a service that has decided to write. -/
abbrev written (host : Host) (s : Stored) (x : s.Dto) : Db (Option s.Dto) :=
  updateAndFind (s.update host.env host.now x)
    (findByIdIn s.table s.reader.mapRow ((s.id x).getD 0))

theorem result_findByIdIn_of_mem {t : Table} {Dto : Type} {mapRow : Row t → Except Error Dto}
    {row : Row t} (hrow : row ∈ c.db.rows t) (hid : 0 < row.id) :
    (findByIdIn t mapRow row.id).result c = some <$> mapRow row := by
  unfold findByIdIn
  rw [if_neg (by omega), result_select, Database.find_eq_some.mpr ⟨hrow, rfl⟩]

/-- Reading a row back and returning it fails where the row cannot be read or its object cannot be
returned. -/
theorem statusCode_replyTo_find (hreply : Succeeds replyWith) {row : Row s.table}
    (hrow : row ∈ c.db.rows s.table) :
    (caught (replyTo host (404, failed) replyWith
        ((findByIdIn s.table s.reader.mapRow row.id).result c))).statusCode = 400 ↔
      0 < row.id ∧ (s.reader.Readable row → ∃ e, replyWith (s.reader.dtoOf row) = .error e) := by
  by_cases hid : 0 < row.id
  · rw [result_findByIdIn_of_mem hrow hid, and_iff_right hid]
    cases hread : s.reader.mapRow row with
    | error e =>
      refine iff_of_true rfl fun hreadable => ?_
      obtain ⟨d, hd⟩ := s.reader.readable_iff.mp hreadable
      rw [hread] at hd
      cases hd
    | ok d =>
      obtain ⟨hreadable, rfl⟩ := s.reader.mapRow_ok_iff.mp hread
      exact (statusCode_caught hreply).trans (imp_iff_right hreadable).symm
  · have hnone : (findByIdIn s.table s.reader.mapRow row.id).result c = .ok none := by
      unfold findByIdIn
      rw [if_pos (by omega)]
      rfl
    rw [hnone]
    exact iff_of_false (show ¬ (404 : Int) = 400 by decide) fun h => hid h.1

theorem rejects_written_iff (hreply : Succeeds replyWith) (hsome : (s.id x).isSome = true) :
    Rejects (caught (replyTo host (404, failed) replyWith ((written host s x).result c)),
      (written host s x).after c) c ↔ RewriteUnanswered host s x replyWith c := by
  obtain ⟨id, hid⟩ := Option.isSome_iff_exists.mp hsome
  obtain ⟨updated, db, hrun⟩ := Stored.run_update_ok host.env host.now c hsome
  have hself := Stored.run_update_eq_self host.env host.now c hid
  have hfind := readOnly_findByIdIn s.table s.reader.mapRow id
  unfold Rejects Prog.result Prog.after written updateAndFind
  rw [Prog.run_bind_ok hrun, hid, Option.getD_some]
  rw [hrun] at hself
  cases updated with
  | false =>
    refine iff_of_false (fun h => absurd (show (404 : Int) = 400 from h.1) (by decide)) ?_
    rintro ⟨haccepts, hne, row, hrow, hrid, -, hfix, -⟩
    obtain rfl : id = row.id := Option.some.inj (hid.symm.trans hrid)
    cases hself.mpr ⟨haccepts, hne, row, hrow, rfl, hfix⟩
  | true =>
    simp only [Bool.not_true, Bool.false_eq_true, if_false]
    rw [hfind.run_eq]
    constructor
    · rintro ⟨hstatus, hsame⟩
      obtain rfl : db = c.db := hsame
      obtain ⟨haccepts, hne, row, hrow, rfl, hfix⟩ := hself.mp rfl
      obtain ⟨hpos, hfails⟩ := (statusCode_replyTo_find hreply hrow).mp hstatus
      exact ⟨haccepts, hne, row, hrow, hid, hpos, hfix, hfails⟩
    · rintro ⟨haccepts, hne, row, hrow, hrid, hpos, hfix, hfails⟩
      obtain rfl : id = row.id := Option.some.inj (hid.symm.trans hrid)
      have hsame := hself.mpr ⟨haccepts, hne, row, hrow, rfl, hfix⟩
      obtain rfl : db = c.db := congrArg (fun r => r.2.db) hsame
      exact ⟨(statusCode_replyTo_find hreply hrow).mpr ⟨hpos, hfails⟩, rfl⟩

theorem rejects_update_iff (hreply : Succeeds replyWith) (hid : (s.id x).isSome = true)
    {update : Db (Option s.Dto)} (hfollows : Follows update c plan (written host s x)) :
    Rejects (caught (replyTo host (404, failed) replyWith (update.result c)), update.after c) c ↔
      NotUpdated host s x replyWith plan c := by
  cases plan with
  | throws =>
    obtain ⟨e, hrun⟩ := hfollows
    unfold Rejects Prog.result Prog.after
    rw [hrun]
    exact iff_of_true ⟨rfl, rfl⟩ trivial
  | refuses =>
    have hrun : update.run c = (.ok none, c) := hfollows
    unfold Rejects Prog.result Prog.after
    rw [hrun]
    exact iff_of_false (fun h => absurd (show (404 : Int) = 400 from h.1) (by decide)) id
  | writes =>
    have hrun : update.run c = (written host s x).run c := hfollows
    rw [Prog.result, Prog.after, hrun]
    exact rejects_written_iff hreply hid

end

/-! ## The patterns -/

section
variable (host : Host)

/-- A creation that is refused for what is left of the body: the handler finds that something is
missing, or nothing is created. -/
def CreateRefused (t : Table) {Dto : Type} (fromJson : Json → Dto × Bool)
    (check : Dto → Option Bytes) (failed : Int) (plan : Dto → Plan)
    (values : Dto → Option (Columns t)) (jsonBody : Json) (c : Connection) : Prop :=
  ∀ json, host.json.toNlohmannJson jsonBody = .ok json →
    (check (fromJson json).1).isSome = true ∨
      NotCreated t failed (plan (fromJson json).1) (values (fromJson json).1) c

/-- An update that is refused for what is left of the body. -/
def UpdateRefused (s : Stored) (fromJson : Json → s.Dto × Bool) (plan : s.Dto → Plan)
    (replyWith : s.Dto → Except StdException HttpResponse) (id : Int) (jsonBody : Json)
    (c : Connection) : Prop :=
  id ≤ 0 ∨ ∀ json, host.json.toNlohmannJson jsonBody = .ok json →
    ∀ named, json.set "id" (.number id) = some named →
      NotUpdated host s (fromJson named).1 replyWith (plan (fromJson named).1) c

end

section
variable {host : Host} {jsonBody : Json} {c : Connection}

theorem rejects_handleCreate_iff {t : Table} {Dto : Type} {fromJson : Json → Dto × Bool}
    {toJson : Dto → Json} {check : Dto → Option Bytes} {create : Dto → Db (Option Dto)}
    {failed : Int × Bytes} {plan : Dto → Plan} {values : Dto → Option (Columns t)}
    {find : Int → Db (Option Dto)} (hfind : ∀ id, Prog.ReadOnly (find id))
    (hfollows : ∀ x, Follows (create x) c (plan x) (createAndFind (createIn t (values x)) find)) :
    Rejects (handleCreate host fromJson toJson check create failed jsonBody c) c ↔
      CreateRefused host t fromJson check failed.1 plan values jsonBody c := by
  unfold handleCreate CreateRefused
  cases host.json.toNlohmannJson jsonBody with
  | error e => exact iff_of_true ⟨rfl, rfl⟩ nofun
  | ok json =>
    simp only [Except.ok.injEq, forall_eq']
    cases check (fromJson json).1 with
    | some message => exact iff_of_true ⟨rfl, rfl⟩ (.inl rfl)
    | none => simpa using rejects_create_iff hfind (hfollows (fromJson json).1)

theorem rejects_handleUpdate_iff {s : Stored} {fromJson : Json → s.Dto × Bool}
    {update : s.Dto → Db (Option s.Dto)} {invalidId failed : Bytes}
    {replyWith : s.Dto → Except StdException HttpResponse} {id : Int} {plan : s.Dto → Plan}
    (hreply : Succeeds replyWith)
    (hid : ∀ json, s.id (fromJson json).1 = (json.field "id" (Json.getInt64 host.json)).1)
    (hfollows : ∀ x, Follows (update x) c (plan x) (written host s x)) :
    Rejects (handleUpdate host fromJson update invalidId failed replyWith id jsonBody c) c ↔
      UpdateRefused host s fromJson plan replyWith id jsonBody c := by
  unfold handleUpdate UpdateRefused
  by_cases hpos : id ≤ 0
  · rw [if_pos hpos]
    exact iff_of_true ⟨rfl, rfl⟩ (.inl hpos)
  rw [if_neg hpos, or_iff_right hpos]
  cases host.json.toNlohmannJson jsonBody with
  | error e => exact iff_of_true ⟨rfl, rfl⟩ nofun
  | ok json =>
    simp only [Except.ok.injEq, forall_eq']
    cases hset : json.set "id" (.number id) with
    | none => exact iff_of_true ⟨rfl, rfl⟩ nofun
    | some named =>
      simp only [Option.some.injEq, forall_eq']
      refine rejects_update_iff hreply ?_ (hfollows (fromJson named).1)
      rw [hid, Json.field, Json.get?_set hset]
      rfl

end

/-! ## The requests -/

section
variable (host : Host)

/-- The body becomes JSON that `fromJson` cannot convert. -/
def Unread {Dto : Type} (fromJson : Json → Dto × Bool) (jsonBody : Json) : Prop :=
  ∃ json, host.json.toNlohmannJson jsonBody = .ok json ∧ (fromJson json).2 = false

/-- Some field of the entity is in the body with a value that cannot be converted. -/
def Request.Unconvertible : Request → Prop
  | .createUser jsonBody | .updateUser _ jsonBody =>
      Unread host (Dto.User.fromJson host.json) jsonBody
  | .createWorkflow jsonBody | .updateWorkflow _ jsonBody =>
      Unread host (Dto.Workflow.fromJson host.json) jsonBody
  | .createState jsonBody | .updateState _ jsonBody =>
      Unread host (Dto.State.fromJson host.json) jsonBody
  | .createEdge jsonBody => Unread host (Dto.Edge.fromJson host.json) jsonBody
  | .createProject jsonBody | .updateProject _ jsonBody =>
      Unread host (Dto.Project.fromJson host.json) jsonBody
  | .createPhase jsonBody | .updatePhase _ jsonBody =>
      Unread host (Dto.Phase.fromJson host.json) jsonBody
  | .createItemType jsonBody | .updateItemType _ jsonBody =>
      Unread host (Dto.ItemType.fromJson host.json) jsonBody
  | .createFieldType jsonBody | .updateFieldType _ jsonBody =>
      Unread host (Dto.FieldType.fromJson host.json) jsonBody

/-- A user cannot be created from what is left of the body. -/
def UserRefused (jsonBody : Json) (c : Connection) : Prop :=
  ∀ json, host.json.toNlohmannJson jsonBody = .ok json →
    ∀ password, UsersHandler.password jsonBody = some password →
      let user := (Dto.User.fromJson host.json json).1
      user.login = none ∨ user.email = none ∨ password = [] ∨
        NotCreated .user 409 (UserService.createPlan c user password)
          (SqliteUserRepository.values user (host.sha256 password)) c

/-- The request is refused for what is left of its body. -/
def Request.Refused (c : Connection) : Request → Prop
  | .createUser jsonBody => UserRefused host jsonBody c
  | .createWorkflow jsonBody =>
      CreateRefused host .workflow (Dto.Workflow.fromJson host.json) WorkflowsHandler.check 409
        (WorkflowService.createPlan c) SqliteWorkflowRepository.values jsonBody c
  | .createState jsonBody =>
      CreateRefused host .state (Dto.State.fromJson host.json) StatesHandler.check 400
        (StateService.createPlan c) SqliteStateRepository.values jsonBody c
  | .createEdge jsonBody =>
      CreateRefused host .edge (Dto.Edge.fromJson host.json) EdgesHandler.check 409
        (EdgeService.createPlan c) SqliteEdgeRepository.values jsonBody c
  | .createProject jsonBody =>
      CreateRefused host .project (Dto.Project.fromJson host.json) (fun _ => none) 400
        ProjectService.createPlan (SqliteProjectRepository.values host.env host.now) jsonBody c
  | .createPhase jsonBody =>
      CreateRefused host .phase (Dto.Phase.fromJson host.json) (fun _ => none) 400
        PhaseService.createPlan (SqlitePhaseRepository.values host.env) jsonBody c
  | .createItemType jsonBody =>
      CreateRefused host .itemType (Dto.ItemType.fromJson host.json) (fun _ => none) 400
        ItemTypeService.createPlan SqliteItemTypeRepository.values jsonBody c
  | .createFieldType jsonBody =>
      CreateRefused host .fieldType (Dto.FieldType.fromJson host.json) (fun _ => none) 400
        FieldTypeService.createPlan SqliteFieldTypeRepository.values jsonBody c
  | .updateUser id jsonBody =>
      UpdateRefused host .user (Dto.User.fromJson host.json) UserService.updatePlan
        (fun _ => .ok { statusCode := statusNoContent, body := none }) id jsonBody c
  | .updateWorkflow id jsonBody =>
      UpdateRefused host .workflow (Dto.Workflow.fromJson host.json) (WorkflowService.updatePlan c)
        (replyObject host Dto.Workflow.toJson statusOk) id jsonBody c
  | .updateState id jsonBody =>
      UpdateRefused host .state (Dto.State.fromJson host.json) (StateService.updatePlan c)
        (replyObject host Dto.State.toJson statusOk) id jsonBody c
  | .updateProject id jsonBody =>
      UpdateRefused host .project (Dto.Project.fromJson host.json)
        (fun project => updatePlanIn c .project project.id)
        (replyObject host Dto.Project.toJson statusOk) id jsonBody c
  | .updatePhase id jsonBody =>
      UpdateRefused host .phase (Dto.Phase.fromJson host.json)
        (fun phase => updatePlanIn c .phase phase.id)
        (replyObject host Dto.Phase.toJson statusOk) id jsonBody c
  | .updateItemType id jsonBody =>
      UpdateRefused host .itemType (Dto.ItemType.fromJson host.json)
        (fun itemType => updatePlanIn c .itemType itemType.id)
        (replyObject host Dto.ItemType.toJson statusOk) id jsonBody c
  | .updateFieldType id jsonBody =>
      UpdateRefused host .fieldType (Dto.FieldType.fromJson host.json)
        (fun fieldType => updatePlanIn c .fieldType fieldType.id)
        (replyObject host Dto.FieldType.toJson statusOk) id jsonBody c

end

theorem rejects_createUser_iff {host : Host} {user : Dto.User} {password : Bytes}
    {c : Connection} :
    Rejects (caught (UsersHandler.createUser host user password c).1,
        (UsersHandler.createUser host user password c).2) c ↔
      user.login = none ∨ user.email = none ∨ password = [] ∨
        NotCreated .user 409 (UserService.createPlan c user password)
          (SqliteUserRepository.values user (host.sha256 password)) c := by
  unfold UsersHandler.createUser
  split
  · next hmissing =>
    simp only [Bool.or_eq_true, Option.isNone_iff_eq_none, List.isEmpty_iff] at hmissing
    refine iff_of_true ⟨rfl, rfl⟩ ?_
    tauto
  · next hgiven =>
    simp only [Bool.or_eq_true, Option.isNone_iff_eq_none, List.isEmpty_iff] at hgiven
    refine (rejects_create_iff (t := .user) (readOnly_findByIdIn _ _)
      (UserService.createUser_follows c host.sha256 user password)).trans ?_
    tauto

theorem rejects_handleCreateUser_iff {host : Host} {jsonBody : Json} {c : Connection} :
    Rejects (UsersHandler.handleCreateUser host jsonBody c) c ↔ UserRefused host jsonBody c := by
  unfold UsersHandler.handleCreateUser UserRefused
  cases host.json.toNlohmannJson jsonBody with
  | error e => exact iff_of_true ⟨rfl, rfl⟩ nofun
  | ok json =>
    simp only [Except.ok.injEq, forall_eq']
    cases UsersHandler.password jsonBody with
    | none => exact iff_of_true ⟨rfl, rfl⟩ nofun
    | some password =>
      simp only [Option.some.injEq, forall_eq']
      exact rejects_createUser_iff

/-- A request is rejected when what is left of its body is refused. -/
theorem rejects_iff (host : Host) (c : Connection) (request : Request) :
    Rejects (request.handle host c) c ↔ request.Refused host c := by
  have hok {Dto : Type} (toJson : Dto → Json) : Succeeds (replyObject host toJson statusOk) :=
    succeeds_replyObject (by decide)
  cases request with
  | createUser jsonBody => exact rejects_handleCreateUser_iff
  | createWorkflow jsonBody =>
    exact rejects_handleCreate_iff (t := .workflow) readOnly_findWorkflow
      (WorkflowService.createWorkflow_follows c)
  | createState jsonBody =>
    exact rejects_handleCreate_iff (t := .state) readOnly_findState
      (StateService.createState_follows c)
  | createEdge jsonBody =>
    exact rejects_handleCreate_iff (t := .edge) readOnly_findEdge (EdgeService.createEdge_follows c)
  | createProject jsonBody =>
    exact rejects_handleCreate_iff (t := .project) (readOnly_findByIdIn _ _)
      (ProjectService.createProject_follows c host.env host.now)
  | createPhase jsonBody =>
    exact rejects_handleCreate_iff (t := .phase) (readOnly_findByIdIn _ _)
      (PhaseService.createPhase_follows c host.env)
  | createItemType jsonBody =>
    exact rejects_handleCreate_iff (t := .itemType) readOnly_findItemType
      (ItemTypeService.createItemType_follows c)
  | createFieldType jsonBody =>
    exact rejects_handleCreate_iff (t := .fieldType) (readOnly_findByIdIn _ _)
      (FieldTypeService.createFieldType_follows c)
  | updateUser id jsonBody =>
    refine rejects_handleUpdate_iff (s := .user) ?_ (fun json => ?_)
      (UserService.updateUser_follows c)
    · rintro x response ⟨⟩
      decide
    · rfl
  | updateWorkflow id jsonBody =>
    refine rejects_handleUpdate_iff (s := .workflow) (hok _) (fun json => ?_)
      (WorkflowService.updateWorkflow_follows c)
    rfl
  | updateState id jsonBody =>
    refine rejects_handleUpdate_iff (s := .state) (hok _) (fun json => ?_)
      (StateService.updateState_follows c)
    rfl
  | updateProject id jsonBody =>
    refine rejects_handleUpdate_iff (s := .project) (hok _) (fun json => ?_)
      (ProjectService.updateProject_follows c host.env host.now)
    rfl
  | updatePhase id jsonBody =>
    refine rejects_handleUpdate_iff (s := .phase) (hok _) (fun json => ?_)
      (PhaseService.updatePhase_follows c host.env)
    rfl
  | updateItemType id jsonBody =>
    refine rejects_handleUpdate_iff (s := .itemType) (hok _) (fun json => ?_)
      (ItemTypeService.updateItemType_follows c)
    rfl
  | updateFieldType id jsonBody =>
    refine rejects_handleUpdate_iff (s := .fieldType) (hok _) (fun json => ?_)
      (FieldTypeService.updateFieldType_follows c)
    rfl

/-- **A request with a field that cannot be converted is rejected exactly when what is left of it
is refused.** -/
theorem unconvertible_rejected_iff (host : Host) (c : Connection) (request : Request) :
    request.Unconvertible host →
      (Rejects (request.handle host c) c ↔ request.Refused host c) :=
  fun _ => rejects_iff host c request

/-- Conversions that keep a JSON value as it is. -/
def sampleHost : Host where
  json := {
    truncate := fun _ => 0
    toNlohmannJson := .ok
    toWebJson := .ok
    typeError := { what := bytes "type_error" }
    notAString := { what := bytes "not a string" } }
  env := Environment.reference
  now := 0
  sha256 := id
  thrown := fun _ => { what := bytes "SQL error" }

/-- A caption that is a number is as good as none, and a workflow needs one. -/
theorem unconvertible_rejected_caption :
    Rejects ((Request.createWorkflow (.object [(bytes "caption", .number 5)])).handle sampleHost
      Connection.fresh) Connection.fresh := by
  refine (unconvertible_rejected_iff sampleHost Connection.fresh
    (.createWorkflow (.object [(bytes "caption", .number 5)])) ⟨_, rfl, rfl⟩).mpr ?_
  rintro json ⟨⟩
  exact .inl (by decide)

/-- A description that is a number is dropped, and the workflow is created without one. -/
theorem not_unconvertible_rejected : ¬ ∀ (c : Connection) (request : Request),
    request.Unconvertible sampleHost → Rejects (request.handle sampleHost c) c := by
  intro h
  have hrejects := h Connection.fresh (.createWorkflow
    (.object [(bytes "caption", .string (bytes "Sales")), (bytes "description", .number 5)]))
    ⟨_, rfl, rfl⟩
  have hcreated : (201 : Int) = 400 := hrejects.1
  cases hcreated

end Bodies

end Farado
