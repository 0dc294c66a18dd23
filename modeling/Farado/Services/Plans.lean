import Farado.Services.Effects
import Farado.Services.Project

/-!
# What the checks of a service come to

Every `createX` and `updateX` asks some questions first and then writes, refuses, or throws what a
lookup has thrown. Its plan is that decision, as a function of the connection and the object;
`Follows` says that the service decides so.
-/

namespace Farado

open Relational Steps

inductive Plan where
  | throws | refuses | writes
  deriving DecidableEq

/-- The plan after a lookup. -/
def Plan.after {α : Type} (lookup : Except Error α) (plan : α → Plan) : Plan :=
  match lookup with
  | .error _ => .throws
  | .ok a => plan a

/-- The service does as planned, `write` being what it does to write. -/
def Follows {Dto : Type} (p : Db (Option Dto)) (c : Connection) (plan : Plan)
    (write : Db (Option Dto)) : Prop :=
  match plan with
  | .throws => ∃ e, p.run c = (.error e, c)
  | .refuses => p.run c = (.ok none, c)
  | .writes => p.run c = write.run c

namespace Follows

variable {Dto α : Type} {c : Connection} {write : Db (Option Dto)}

theorem refuses : Follows (pure none) c .refuses write := rfl

theorem writes : Follows write c .writes write := rfl

/-- A lookup that a service begins with. -/
theorem read {p : Db α} {k : α → Db (Option Dto)} {plan : α → Plan} (hp : Prog.ReadOnly p)
    (hk : ∀ a, Follows (k a) c (plan a) write) :
    Follows (p >>= k) c (Plan.after (p.result c) plan) write := by
  have hrun := Prog.run_bind_of_readOnly hp k c
  cases hresult : p.result c with
  | error e =>
    rw [hresult] at hrun
    exact ⟨e, hrun⟩
  | ok a =>
    rw [hresult] at hrun
    have := hk a
    unfold Follows at this ⊢
    rwa [hrun]

theorem ite {b : Prop} [Decidable b] {p q : Db (Option Dto)} {plan plan' : Plan}
    (hp : Follows p c plan write) (hq : Follows q c plan' write) :
    Follows (if b then p else q) c (if b then plan else plan') write := by
  split
  · exact hp
  · exact hq

end Follows

/-! ## Creating -/

section
variable (c : Connection)

def UserService.createPlan (user : Dto.User) (password : Bytes) : Plan :=
  if (user.login.getD []).isEmpty || (user.email.getD []).isEmpty || password.isEmpty then .refuses
  else .after ((SqliteUserRepository.existsByLogin (user.login.getD [])).result c) fun taken =>
    if taken then .refuses else .writes

theorem UserService.createUser_follows (sha256 : Bytes → Bytes) (user : Dto.User)
    (password : Bytes) :
    Follows (UserService.createUser sha256 user password) c (UserService.createPlan c user password)
      (createAndFind (SqliteUserRepository.create user (sha256 password))
        SqliteUserRepository.findById) :=
  .ite .refuses (.read (.ite (Prog.readOnly_pure _) (readOnly_anyIn _ _)) fun _ =>
    .ite .refuses .writes)

def WorkflowService.createPlan (workflow : Dto.Workflow) : Plan :=
  match WorkflowService.validateWorkflow workflow with
  | .error _ => .refuses
  | .ok caption =>
      .after ((SqliteWorkflowRepository.existsByCaption caption).result c) fun taken =>
        if taken then .refuses else .writes

theorem WorkflowService.createWorkflow_follows (workflow : Dto.Workflow) :
    Follows (WorkflowService.createWorkflow workflow) c (WorkflowService.createPlan c workflow)
      (createAndFind (SqliteWorkflowRepository.create workflow)
        SqliteWorkflowRepository.findById) := by
  unfold WorkflowService.createWorkflow WorkflowService.createPlan
  cases WorkflowService.validateWorkflow workflow with
  | error e => exact .refuses
  | ok caption => exact .read (readOnly_existsByCaption caption) fun _ => .ite .refuses .writes

def StateService.createPlan (state : Dto.State) : Plan :=
  match StateService.validateState state with
  | .error _ => .refuses
  | .ok workflowId =>
      .after ((SqliteWorkflowRepository.findById workflowId).result c) fun found =>
        if found.isNone then .refuses else .writes

theorem StateService.createState_follows (state : Dto.State) :
    Follows (StateService.createState state) c (StateService.createPlan c state)
      (createAndFind (SqliteStateRepository.create state) SqliteStateRepository.findById) := by
  unfold StateService.createState StateService.createPlan
  cases StateService.validateState state with
  | error e => exact .refuses
  | ok workflowId =>
    refine .read (readOnly_findWorkflow workflowId) fun found => ?_
    cases found with
    | none => exact .refuses
    | some workflow => exact .writes

def EdgeService.createPlan (edge : Dto.Edge) : Plan :=
  match edge.beginStateId, edge.endStateId with
  | some beginStateId, some endStateId =>
      .after ((EdgeService.validateEdge beginStateId endStateId).result c) fun validationResult =>
        if !validationResult.success then .refuses
        else .after ((SqliteEdgeRepository.exists beginStateId endStateId).result c) fun taken =>
          if taken then .refuses else .writes
  | _, _ => .refuses

theorem EdgeService.createEdge_follows (edge : Dto.Edge) :
    Follows (EdgeService.createEdge edge) c (EdgeService.createPlan c edge)
      (createAndFind (SqliteEdgeRepository.create edge) SqliteEdgeRepository.findById) := by
  obtain ⟨id, beginStateId, endStateId⟩ := edge
  cases beginStateId with
  | none => exact .refuses
  | some beginStateId =>
    cases endStateId with
    | none => exact .refuses
    | some endStateId =>
      refine .read (readOnly_validateEdge beginStateId endStateId) fun validationResult => ?_
      refine .ite .refuses ?_
      refine .read (readOnly_edgeExists beginStateId endStateId) fun taken => ?_
      exact .ite .refuses .writes

def ProjectService.createPlan (project : Dto.Project) : Plan :=
  if (project.caption.getD []).isEmpty then .refuses else .writes

theorem ProjectService.createProject_follows (env : Environment) (now : Int)
    (project : Dto.Project) :
    Follows (ProjectService.createProject env now project) c (ProjectService.createPlan project)
      (createAndFind (SqliteProjectRepository.create env now project)
        SqliteProjectRepository.findById) :=
  .ite .refuses .writes

def PhaseService.createPlan (phase : Dto.Phase) : Plan :=
  if (phase.caption.getD []).isEmpty || phase.projectId.isNone then .refuses else .writes

theorem PhaseService.createPhase_follows (env : Environment) (phase : Dto.Phase) :
    Follows (PhaseService.createPhase env phase) c (PhaseService.createPlan phase)
      (createAndFind (SqlitePhaseRepository.create env phase) SqlitePhaseRepository.findById) :=
  .ite .refuses .writes

def ItemTypeService.createPlan (itemType : Dto.ItemType) : Plan :=
  if (itemType.caption.getD []).isEmpty || itemType.workflowId.isNone || itemType.kind.isNone then
    .refuses
  else .writes

theorem ItemTypeService.createItemType_follows (itemType : Dto.ItemType) :
    Follows (ItemTypeService.createItemType itemType) c (ItemTypeService.createPlan itemType)
      (createAndFind (SqliteItemTypeRepository.create itemType)
        SqliteItemTypeRepository.findById) :=
  .ite .refuses .writes

def FieldTypeService.createPlan (fieldType : Dto.FieldType) : Plan :=
  if (fieldType.caption.getD []).isEmpty || fieldType.itemTypeId.isNone ||
      (fieldType.valueType.getD []).isEmpty then
    .refuses
  else .writes

theorem FieldTypeService.createFieldType_follows (fieldType : Dto.FieldType) :
    Follows (FieldTypeService.createFieldType fieldType) c (FieldTypeService.createPlan fieldType)
      (createAndFind (SqliteFieldTypeRepository.create fieldType)
        SqliteFieldTypeRepository.findById) :=
  .ite .refuses .writes

/-! ## Updating -/

def UserService.updatePlan (user : Dto.User) : Plan :=
  if user.id.isNone then .refuses else .writes

theorem UserService.updateUser_follows (user : Dto.User) :
    Follows (UserService.updateUser user) c (UserService.updatePlan user)
      (updateAndFind (SqliteUserRepository.update user)
        (SqliteUserRepository.findById (user.id.getD 0))) := by
  unfold UserService.updateUser UserService.updatePlan
  cases user.id with
  | none => exact .refuses
  | some id => exact .writes

def WorkflowService.updatePlan (workflow : Dto.Workflow) : Plan :=
  match workflow.id with
  | none => .refuses
  | some id =>
      .after ((SqliteWorkflowRepository.findById id).result c) fun found =>
        match found with
        | none => .refuses
        | some existing =>
            .after ((WorkflowService.captionTaken workflow existing).result c) fun taken =>
              if taken then .refuses else .writes

theorem WorkflowService.updateWorkflow_follows (workflow : Dto.Workflow) :
    Follows (WorkflowService.updateWorkflow workflow) c (WorkflowService.updatePlan c workflow)
      (updateAndFind (SqliteWorkflowRepository.update workflow)
        (SqliteWorkflowRepository.findById (workflow.id.getD 0))) := by
  unfold WorkflowService.updateWorkflow WorkflowService.updatePlan
  cases workflow.id with
  | none => exact .refuses
  | some id =>
    refine .read (readOnly_findWorkflow id) fun found => ?_
    cases found with
    | none => exact .refuses
    | some existing =>
      exact .read (readOnly_captionTaken workflow existing) fun _ => .ite .refuses .writes

def StateService.updatePlan (state : Dto.State) : Plan :=
  match state.id with
  | none => .refuses
  | some id =>
      .after ((SqliteStateRepository.findById id).result c) fun found =>
        if found.isNone then .refuses
        else .after ((StateService.archivesUsedState state id).result c) fun used =>
          if used then .refuses else .writes

theorem StateService.updateState_follows (state : Dto.State) :
    Follows (StateService.updateState state) c (StateService.updatePlan c state)
      (updateAndFind (SqliteStateRepository.update state)
        (SqliteStateRepository.findById (state.id.getD 0))) := by
  unfold StateService.updateState StateService.updatePlan
  cases state.id with
  | none => exact .refuses
  | some id =>
    refine .read (readOnly_findState id) fun found => ?_
    cases found with
    | none => exact .refuses
    | some existing =>
      exact .read (readOnly_archivesUsedState state id) fun _ => .ite .refuses .writes

/-- The plan of the four updates that only ask whether the row is there. -/
def updatePlanIn (t : Table) (id : Option Int) : Plan :=
  match id with
  | none => .refuses
  | some id =>
      .after ((existsIn t id).result c) fun found => if !found then .refuses else .writes

theorem ProjectService.updateProject_follows (env : Environment) (now : Int)
    (project : Dto.Project) :
    Follows (ProjectService.updateProject env now project) c (updatePlanIn c .project project.id)
      (updateAndFind (SqliteProjectRepository.update env now project)
        (SqliteProjectRepository.findById (project.id.getD 0))) := by
  unfold ProjectService.updateProject updatePlanIn
  cases project.id with
  | none => exact .refuses
  | some id => exact .read (readOnly_existsIn .project id) fun _ => .ite .refuses .writes

theorem PhaseService.updatePhase_follows (env : Environment) (phase : Dto.Phase) :
    Follows (PhaseService.updatePhase env phase) c (updatePlanIn c .phase phase.id)
      (updateAndFind (SqlitePhaseRepository.update env phase)
        (SqlitePhaseRepository.findById (phase.id.getD 0))) := by
  unfold PhaseService.updatePhase updatePlanIn
  cases phase.id with
  | none => exact .refuses
  | some id => exact .read (readOnly_existsIn .phase id) fun _ => .ite .refuses .writes

theorem ItemTypeService.updateItemType_follows (itemType : Dto.ItemType) :
    Follows (ItemTypeService.updateItemType itemType) c (updatePlanIn c .itemType itemType.id)
      (updateAndFind (SqliteItemTypeRepository.update itemType)
        (SqliteItemTypeRepository.findById (itemType.id.getD 0))) := by
  unfold ItemTypeService.updateItemType updatePlanIn
  cases itemType.id with
  | none => exact .refuses
  | some id => exact .read (readOnly_existsIn .itemType id) fun _ => .ite .refuses .writes

theorem FieldTypeService.updateFieldType_follows (fieldType : Dto.FieldType) :
    Follows (FieldTypeService.updateFieldType fieldType) c (updatePlanIn c .fieldType fieldType.id)
      (updateAndFind (SqliteFieldTypeRepository.update fieldType)
        (SqliteFieldTypeRepository.findById (fieldType.id.getD 0))) := by
  unfold FieldTypeService.updateFieldType updatePlanIn
  cases fieldType.id with
  | none => exact .refuses
  | some id => exact .read (readOnly_existsIn .fieldType id) fun _ => .ite .refuses .writes

end

end Farado
