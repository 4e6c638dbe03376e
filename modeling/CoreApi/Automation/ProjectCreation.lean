import CoreApi.Automation.TxRetry
import CoreApi.Automation.EntryPoints

/-!
# The creation of a project

`ProjectsService.create` runs its transaction up to four times. The body deletes
the process template from its argument and keeps the step to kick in a variable
outside, and a rollback restores neither: an attempt behind one that had begun
creates a project without a process.
-/

namespace CoreApi.Automation

open CoreApi.Foundation

namespace ProjectsService

/-! ## Rows and arguments -/

/-- `CreateProjectDto`, with the fields that `create` and the modelled columns read. -/
structure CreateProjectDto where
  name : String
  projectIdentifier : String
  tenantId : Nat
  processTemplateId : Option Nat
  status : Option ProjectStatus
  completedAt : Option String
  createdBy : Nat
deriving DecidableEq

/-- The columns of `projects` that the engine does not read. -/
structure ProjectColumns where
  projectId : Nat
  name : String
  projectIdentifier : String
  tenantId : Nat
  createdBy : Nat
deriving DecidableEq

/-- `ProjectEntity`. -/
structure ProjectEntity where
  row : Project
  columns : ProjectColumns

/-- `project_task_statuses`. -/
structure ProjectTaskStatus where
  projectTaskStatusId : Nat
  name : String
  tenantId : Nat
  projectId : Nat
  statusOrder : Nat
  color : String
  isSystem : Nat
  blocksCompletion : Nat
  createdBy : Nat
  updatedBy : Nat

instance : Keyed ProjectTaskStatus where
  key := ProjectTaskStatus.projectTaskStatusId
  withKey n row := { row with projectTaskStatusId := n }
  key_withKey _ _ := rfl

/-- An entry of `defaultStatuses`. -/
structure DefaultStatus where
  name : String
  statusOrder : Nat
  color : String
  isSystem : Nat
  blocksCompletion : Nat

/-- `defaultStatuses`: the columns of a new board. -/
def defaultStatuses : List DefaultStatus :=
  [⟨"To Do", 1, "#7f8c8d", 1, 1⟩, ⟨"Ready", 2, "#2980b9", 1, 1⟩,
    ⟨"In Progress", 3, "#8e44ad", 1, 1⟩, ⟨"Blocked", 4, "#c0392b", 1, 1⟩,
    ⟨"Done", 5, "#27ae60", 1, 0⟩]

/-- `replace(/\s+/g, '-')`; `inRun` tells whether a hyphen was just put. -/
def dashSpaces (inRun : Bool) : List Char → List Char
  | [] => []
  | c :: rest =>
      if Json.isSpace c = false then c :: dashSpaces false rest
      else if inRun then dashSpaces true rest
      else '-' :: dashSpaces true rest

/-- `generateUniqueProjectIdentifier`; `uniqueId` is the clock in base 36. -/
def generateUniqueProjectIdentifier (name uniqueId : String) : String :=
  let normalizedProjectName := dashSpaces false ((Json.trimmed name).flatMap ProjectHost.toLowerCase)
  "pro-" ++ String.ofList normalizedProjectName ++ "-" ++ uniqueId

/-! ## The state of a call -/

/-- The points where the transaction of an attempt can fail. -/
inductive FailurePoint where
  | start | save | status (statusOrder : Nat) | process | link | commit
deriving DecidableEq

/-- A failure of an attempt: where it happens, what was done there until then, and what is
thrown. -/
structure Interruption where
  point : FailurePoint
  during : World → World
  err : Thrown

/-- What a call of `create` works on: the tables, its argument and its variables, and the
failures of its coming attempts, the first of them in front. -/
structure Creation where
  world : World
  columns : List ProjectColumns
  taskStatuses : Table ProjectTaskStatus
  dto : CreateProjectDto
  firstStepIdToKick : Option Nat
  kicked : List Nat
  current : Option Interruption
  outlook : List Interruption

/-- A rollback restores the rows; the argument and the variables are not rows. -/
def Creation.rollback (before after : Creation) : Creation :=
  { after with
    world := before.world.rollback after.world
    columns := before.columns
    taskStatuses := before.taskStatuses.rollback after.taskStatuses }

/-- The point is reached: its failure, if it is the one of this attempt, is thrown. -/
def reach (point : FailurePoint) : Program Creation Thrown Unit := fun s =>
  match s.current with
  | some interruption =>
      if interruption.point = point then
        (.error interruption.err, { s with world := interruption.during s.world })
      else (.ok (), s)
  | none => (.ok (), s)

/-- A call into the engine; its exceptions have neither `code` nor `errno` of a lock. -/
def engine {α : Type} (call : Tx α) : Program Creation Thrown α := fun s =>
  match call s.world with
  | (.ok value, w) => (.ok value, { s with world := w })
  | (.error message, w) =>
      (.error { code := none, errno := none, message := message }, { s with world := w })

/-! ## The transaction -/

variable (deployment : Deployment) (userId : Nat)

/-- `projectRepo.save(projectRepo.create(createProjectDto))`. -/
def saveProject : Program Creation Thrown ProjectEntity :=
  Program.writeReturning fun s =>
    let row : Project :=
      { projectId := s.world.db.projects.autoIncrement, processInstanceId := none,
        status := s.dto.status.getD .active, completedAt := s.dto.completedAt }
    let columns : ProjectColumns :=
      { projectId := s.world.db.projects.autoIncrement, name := s.dto.name,
        projectIdentifier := s.dto.projectIdentifier, tenantId := s.dto.tenantId,
        createdBy := s.dto.createdBy }
    (⟨row, columns⟩,
      { s with
        world := { s.world with
          db := { s.world.db with projects := s.world.db.projects.insert row } }
        columns := s.columns ++ [columns] })

/-- The INSERT of one status; it returns the identifier of the row. -/
def insertStatus (projectId : Nat) (status : DefaultStatus) : Program Creation Thrown Nat :=
  Program.writeReturning fun s =>
    (s.taskStatuses.autoIncrement,
      { s with
        taskStatuses := s.taskStatuses.insert
          { projectTaskStatusId := 0, name := status.name, tenantId := s.dto.tenantId,
            projectId := projectId, statusOrder := status.statusOrder, color := status.color,
            isSystem := 1, blocksCompletion := status.blocksCompletion, createdBy := userId,
            updatedBy := userId } })

/-- The statuses of the board, as `statusIdByName` has them. -/
def seedStatuses (projectId : Nat) :
    List DefaultStatus → Program Creation Thrown (List (String × Nat))
  | [] => pure []
  | status :: rest => do
      reach (.status status.statusOrder)
      let statusId ← insertStatus userId projectId status
      let others ← seedStatuses projectId rest
      pure ((status.name, statusId) :: others)

/-- The parameters of `startProcessForProject`. -/
def startParams (tenantId templateId projectId : Nat) (statusIdByName : List (String × Nat)) :
    StartProcessParams where
  tenantId := tenantId
  createdBy := userId
  templateId := templateId
  subjectType := "project"
  subjectId := projectId
  subjectMetadata := none
  correlationId := none
  context := none
  hostData := some ⟨projectId, statusIdByName⟩
  parentInstanceId := none
  parentStepId := none
  onChildFailure := none
  skipHostOnStart := false

/-- `projectRepo.update(project.projectId, { processInstanceId })`. -/
def linkProcess (projectId processInstanceId : Nat) : Program Creation Thrown Unit :=
  Program.write fun s =>
    { s with
      world := { s.world with
        db := { s.world.db with
          projects := s.world.db.projects.updateAt projectId
            (fun row => { row with processInstanceId := some processInstanceId })
            (fun _ => rfl) } } }

/-- The process of the project, inside the same transaction; 0 without a template. -/
def startForProject (processTemplateId projectId : Nat) (statusIdByName : List (String × Nat)) :
    Program Creation Thrown Nat :=
  if processTemplateId = 0 then pure 0
  else do
    reach .process
    let tenantId ← Program.read fun s => s.dto.tenantId
    let processStart ← engine (ProcessLifecycle.startProcessIn deployment
      (startParams userId tenantId processTemplateId projectId statusIdByName))
    Program.write fun s => { s with firstStepIdToKick := processStart.firstStepInstanceId }
    reach .link
    linkProcess projectId processStart.processInstanceId
    pure processStart.processInstanceId

/-- The event of a created project. -/
def projectCreated (tenantId projectId processInstanceId : Nat) : DomainEvent where
  eventName := "six1-event.notification.project_created"
  entity := some ⟨"project", projectId⟩
  data := .obj [("projectId", .num projectId), ("processInstanceId", .num processInstanceId)]
  correlationId := none
  tenantId := some tenantId

/-- The argument of an attempt is given a new identifier and loses its template. -/
def takeTemplate : Program Creation Thrown Nat :=
  Program.writeReturning fun s =>
    (s.dto.processTemplateId.getD 0,
      { s with
        dto := { s.dto with
          projectIdentifier := generateUniqueProjectIdentifier s.dto.name s.world.now
          processTemplateId := none } })

/-- The body of the transaction. -/
def createIn : Program Creation Thrown ProjectEntity := do
  let processTemplateId ← takeTemplate
  reach .save
  let project ← saveProject
  let statusIdByName ← seedStatuses userId project.row.projectId defaultStatuses
  let piId ← startForProject deployment userId processTemplateId project.row.projectId
    statusIdByName
  let tenantId ← Program.read fun s => s.dto.tenantId
  engine (emit (projectCreated tenantId project.row.projectId piId))
  reach .commit
  pure project

/-- The next attempt, with the failure that is ahead of it. -/
def nextAttempt : Program Creation Thrown Unit :=
  Program.write fun s => { s with current := s.outlook.head?, outlook := s.outlook.tail }

/-- An attempt: `ds.transaction`, which may fail before it runs its callback. -/
def attemptCreate : Program Creation Thrown ProjectEntity := do
  nextAttempt
  Program.atomically Creation.rollback do
    reach .start
    createIn deployment userId

/-- `backoff`: the rest of the system goes on for that many milliseconds. -/
def backoff (elapse : Nat → World → World) (i : Nat) (s : Creation) : Creation :=
  { s with world := elapse (50 * i) s.world }

/-- The retry loop around the transaction. -/
def createCommitted (elapse : Nat → World → World) : Program Creation Thrown ProjectEntity :=
  Program.retry Thrown.isTransient (backoff elapse)
    { code := none, errno := none, message := "create() retry loop exited unexpectedly" } 4
    (attemptCreate deployment userId)

/-- One call of `attemptAdvance` after the commit. -/
def kickOnce (stepInstanceId : Nat) : Program Creation Thrown Unit := do
  Program.write fun s => { s with kicked := s.kicked ++ [stepInstanceId] }
  engine (StepOrchestrator.attemptAdvance deployment stepInstanceId
    { cause := some "event", correlationId := none, actorTenantUserId := none })

/-- The first step is advanced, in up to three tries; what they throw is logged. -/
def kick (elapse : Nat → World → World) : Program Creation Thrown Unit := do
  let firstStepIdToKick ← Program.read Creation.firstStepIdToKick
  match firstStepIdToKick with
  | none => pure ()
  | some stepInstanceId =>
      if stepInstanceId = 0 then pure ()
      else
        Program.attempt
          (Program.retry Thrown.isTransient (backoff elapse) .undefined 3
            (kickOnce deployment stepInstanceId))
          fun _ => pure ()

/-- `ProjectsService.create`. -/
def create (elapse : Nat → World → World) : Program Creation Thrown ProjectEntity := do
  let createdProject ← createCommitted deployment userId elapse
  kick deployment elapse
  pure createdProject

/-! ## What an attempt does to the argument and the variables -/

section Attempts

variable {s t : Creation}

theorem reach_struck {interruption : Interruption} (current : s.current = some interruption) :
    reach interruption.point s =
      (.error interruption.err, { s with world := interruption.during s.world }) := by
  unfold reach
  simp only [current, if_true]

theorem reach_passed {point : FailurePoint}
    (missed : ∀ interruption, s.current = some interruption → interruption.point ≠ point) :
    reach point s = (.ok (), s) := by
  unfold reach
  rcases current : s.current with _ | interruption
  · rfl
  · exact if_neg (missed interruption current)

/-- The two ways out of a point. -/
theorem wp_reach {point : FailurePoint} {passed : Unit → Creation → Prop}
    {struck : Thrown → Creation → Prop} (holds : passed () s)
    (raises : ∀ err w, struck err { s with world := w }) :
    Program.wp (reach point) passed struck s := by
  by_cases strikes : ∃ interruption, s.current = some interruption ∧ interruption.point = point
  · obtain ⟨interruption, current, rfl⟩ := strikes
    unfold Program.wp
    rw [reach_struck current]
    exact raises _ _
  · have missed := @reach_passed s point fun interruption current at_ =>
      strikes ⟨interruption, current, at_⟩
    unfold Program.wp
    rw [missed]
    exact holds

/-- What a call was given, and what it did besides the tables, is the same. -/
structure SameCall (s t : Creation) : Prop where
  dto : t.dto = s.dto
  kicked : t.kicked = s.kicked
  outlook : t.outlook = s.outlook

theorem SameCall.refl (s : Creation) : SameCall s s := ⟨rfl, rfl, rfl⟩

theorem SameCall.trans {u : Creation} (first : SameCall s t) (second : SameCall t u) :
    SameCall s u :=
  ⟨second.dto.trans first.dto, second.kicked.trans first.kicked,
    second.outlook.trans first.outlook⟩

/-- The program leaves the call as it is, whether it returns or raises. -/
def KeepsCall {α : Type} (program : Program Creation Thrown α) : Prop :=
  ∀ s, Program.wp program (fun _ t => SameCall s t) (fun _ t => SameCall s t) s

theorem KeepsCall.bind {α β : Type} {first : Program Creation Thrown α}
    {next : α → Program Creation Thrown β} (keeps : KeepsCall first)
    (others : ∀ x, KeepsCall (next x)) : KeepsCall (first >>= next) := by
  intro s
  rw [Program.wp_bind]
  refine Program.wp_mono (keeps s) ?_ (fun _ _ kept => kept)
  intro x t kept
  exact Program.wp_mono (others x t) (fun _ _ same => kept.trans same)
    (fun _ _ same => kept.trans same)

theorem KeepsCall.pure {α : Type} (value : α) :
    KeepsCall (Pure.pure value : Program Creation Thrown α) := fun s => .refl s

theorem KeepsCall.read {α : Type} (view : Creation → α) :
    KeepsCall (Program.read view : Program Creation Thrown α) := fun s => .refl s

theorem reach_keepsCall (point : FailurePoint) : KeepsCall (reach point) :=
  fun s => wp_reach (.refl s) fun _ _ => ⟨rfl, rfl, rfl⟩

theorem engine_keepsCall {α : Type} (call : Tx α) : KeepsCall (engine call) := by
  intro s
  unfold Program.wp engine
  rcases call s.world with ⟨_ | _, _⟩ <;> exact ⟨rfl, rfl, rfl⟩

theorem saveProject_keepsCall : KeepsCall saveProject := fun _ => ⟨rfl, rfl, rfl⟩

theorem seedStatuses_keepsCall (projectId : Nat) (statuses : List DefaultStatus) :
    KeepsCall (seedStatuses userId projectId statuses) := by
  induction statuses with
  | nil => exact .pure _
  | cons status rest ih =>
      refine (reach_keepsCall _).bind fun _ => ?_
      refine KeepsCall.bind (fun _ => ⟨rfl, rfl, rfl⟩) fun _ => ?_
      exact ih.bind fun _ => .pure _

theorem startForProject_keepsCall (processTemplateId projectId : Nat)
    (statusIdByName : List (String × Nat)) :
    KeepsCall (startForProject deployment userId processTemplateId projectId statusIdByName) := by
  unfold startForProject
  split
  · exact .pure _
  · refine (reach_keepsCall _).bind fun _ => ?_
    refine (KeepsCall.read _).bind fun _ => ?_
    refine (engine_keepsCall _).bind fun _ => ?_
    refine KeepsCall.bind (fun _ => ⟨rfl, rfl, rfl⟩) fun _ => ?_
    refine (reach_keepsCall _).bind fun _ => ?_
    exact KeepsCall.bind (fun _ => ⟨rfl, rfl, rfl⟩) fun _ => .pure _

/-- The argument has lost its template, and no step was kicked. -/
structure TemplateTaken (s t : Creation) : Prop where
  template : t.dto.processTemplateId = none
  kicked : t.kicked = s.kicked
  outlook : t.outlook = s.outlook

/-- Whatever becomes of it, a body that was run has taken the template. -/
theorem createIn_takesTemplate (s : Creation) :
    Program.wp (createIn deployment userId) (fun _ t => TemplateTaken s t)
      (fun _ t => TemplateTaken s t) s := by
  have taken : ∀ {t : Creation}, SameCall { s with
      dto := { s.dto with
        projectIdentifier := generateUniqueProjectIdentifier s.dto.name s.world.now
        processTemplateId := none } } t → TemplateTaken s t := fun kept =>
    ⟨congrArg CreateProjectDto.processTemplateId kept.dto, kept.kicked, kept.outlook⟩
  unfold createIn
  rw [Program.wp_bind, takeTemplate, Program.wp_writeReturning]
  refine Program.wp_mono ((reach_keepsCall .save).bind (fun _ => ?_) _) (fun _ _ => taken)
    (fun _ _ => taken)
  refine saveProject_keepsCall.bind fun project => ?_
  refine (seedStatuses_keepsCall userId _ _).bind fun _ => ?_
  refine (startForProject_keepsCall deployment userId _ _ _).bind fun _ => ?_
  refine (KeepsCall.read _).bind fun _ => ?_
  refine (engine_keepsCall _).bind fun _ => ?_
  exact (reach_keepsCall _).bind fun _ => .pure _

/-- The attempt ahead fails before its callback runs. -/
def FailsAtStart (s : Creation) : Prop :=
  ∃ interruption rest, s.outlook = interruption :: rest ∧ interruption.point = .start

/-- The call before an attempt that did not run its callback, and behind it. -/
structure NotBegun (s t : Creation) : Prop where
  dto : t.dto = s.dto
  firstStep : t.firstStepIdToKick = s.firstStepIdToKick
  kicked : t.kicked = s.kicked
  outlook : t.outlook = s.outlook.tail

/-- An attempt that fails at its start changes nothing in the call. -/
theorem attemptCreate_notBegun (fails : FailsAtStart s) :
    Program.wp (attemptCreate deployment userId) (fun _ _ => False)
      (fun _ t => NotBegun s t) s := by
  obtain ⟨interruption, rest, ahead, atStart⟩ := fails
  unfold attemptCreate
  rw [Program.wp_bind, nextAttempt, Program.wp_write, Program.wp_atomically, Program.wp_bind,
    ← atStart]
  unfold Program.wp
  rw [@reach_struck _ interruption (by rw [ahead]; rfl)]
  exact ⟨rfl, rfl, rfl, rfl⟩

theorem attemptCreate_begun (begins : ¬ FailsAtStart s) :
    Program.wp (attemptCreate deployment userId)
      (fun _ t => TemplateTaken { s with outlook := s.outlook.tail } t)
      (fun _ t => TemplateTaken { s with outlook := s.outlook.tail } t) s := by
  have passes : reach .start { s with current := s.outlook.head?, outlook := s.outlook.tail } =
      (.ok (), { s with current := s.outlook.head?, outlook := s.outlook.tail }) := by
    refine reach_passed fun interruption ahead atStart => begins ?_
    obtain ⟨rest, isAhead⟩ := List.head?_eq_some_iff.mp ahead
    exact ⟨interruption, rest, isAhead, atStart⟩
  unfold attemptCreate
  rw [Program.wp_bind, nextAttempt, Program.wp_write, Program.wp_atomically, Program.wp_bind]
  have passed : Program.wp (reach .start) (fun _ t => t = { s with
      current := s.outlook.head?, outlook := s.outlook.tail }) (fun _ _ => False)
      { s with current := s.outlook.head?, outlook := s.outlook.tail } := by
    unfold Program.wp
    rw [passes]
  refine Program.wp_mono passed ?_ fun _ _ => False.elim
  rintro _ _ rfl
  exact Program.wp_mono (createIn_takesTemplate deployment userId _)
    (fun _ _ taken => ⟨taken.template, taken.kicked, taken.outlook⟩)
    (fun _ _ taken => ⟨taken.template, taken.kicked, taken.outlook⟩)

end Attempts

/-! ## Starts leave the projects alone -/

section Projects

/-- Where it returns, the program has not changed the projects. -/
def KeepsProjects {α : Type} (program : Tx α) : Prop :=
  ∀ w, Program.wp program (fun _ w' => w'.db.projects = w.db.projects) (fun _ _ => True) w

theorem KeepsProjects.bind {α β : Type} {first : Tx α} {next : α → Tx β}
    (keeps : KeepsProjects first) (others : ∀ x, KeepsProjects (next x)) :
    KeepsProjects (first >>= next) := by
  intro w
  rw [Program.wp_bind]
  refine Program.wp_mono (keeps w) ?_ fun _ _ _ => trivial
  intro x w' kept
  exact Program.wp_mono (others x w') (fun _ _ same => same.trans kept) fun _ _ _ => trivial

theorem KeepsProjects.when {c : Prop} [Decidable c] {body : Tx Unit}
    (keeps : KeepsProjects body) : KeepsProjects (Program.when c body) := by
  intro w
  rw [Program.wp_when]
  exact ⟨fun _ => keeps w, fun _ => rfl⟩

theorem KeepsProjects.raise {α : Type} (message : String) :
    KeepsProjects (Program.raise message : Tx α) := fun _ => trivial

theorem KeepsProjects.forEach {β : Type} {body : β → Tx Unit}
    (keeps : ∀ x, KeepsProjects (body x)) (xs : List β) :
    KeepsProjects (Program.forEach body xs) := by
  induction xs with
  | nil => exact fun _ => rfl
  | cons x rest ih => exact (keeps x).bind fun _ => ih

theorem onProcessStarted_keepsProjects (adapter : ProcessHostAdapter) (ctx : ProcessHostContext) :
    KeepsProjects (adapter.onProcessStarted ctx) := by
  unfold ProcessHostAdapter.onProcessStarted
  refine KeepsProjects.bind (fun _ => rfl) fun _ => ?_
  cases adapter with
  | project =>
      simp only
      unfold ProjectHost.onProcessStarted
      split
      · exact .raise _
      · split
        · exact .raise _
        · refine (KeepsProjects.forEach (fun entry => ?_) _).bind fun _ => ?_
          · unfold ProjectHost.insertMapping
            split
            · exact .raise _
            · exact fun _ => rfl
          · refine KeepsProjects.bind (fun _ => rfl) fun steps => ?_
            by_cases nonempty : steps ≠ []
            · refine KeepsProjects.when fun w => ?_
              exact Program.wp_mono (ProjectHost.insertTasks_refused nonempty w)
                (fun _ _ => False.elim) fun _ _ _ => trivial
            · rw [Program.when, if_neg nonempty]
              exact fun _ => rfl
  | scheduledTask => exact fun _ => rfl
  | configurableInstance => exact fun _ => rfl
  | genericWorkflow =>
      simp only
      split <;> exact fun _ => rfl

theorem startProcessIn_keepsProjects (params : StartProcessParams) :
    KeepsProjects (ProcessLifecycle.startProcessIn deployment params) := by
  unfold ProcessLifecycle.startProcessIn
  split
  · exact .raise _
  · unfold ProcessLifecycle.startProcessInTransaction ProcessInstantiation.instantiateProcessIn
    refine KeepsProjects.bind ?_ fun processInstanceId => ?_
    · refine KeepsProjects.bind (fun _ => rfl) fun _ => ?_
      refine KeepsProjects.bind (fun _ => rfl) fun _ => ?_
      refine (KeepsProjects.when ?_).bind fun _ => ?_
      · exact fun _ => rfl
      refine KeepsProjects.bind (fun _ => rfl) fun _ => ?_
      refine KeepsProjects.bind (fun _ => rfl) fun _ => ?_
      exact KeepsProjects.bind (fun _ => rfl) fun _ => fun _ => rfl
    · refine (KeepsProjects.when ?_).bind fun _ => ?_
      · exact fun _ => rfl
      refine (onProcessStarted_keepsProjects _ _).when.bind fun _ => ?_
      refine KeepsProjects.bind (fun _ => rfl) fun _ => ?_
      refine (KeepsProjects.when ?_).bind fun _ => ?_
      · exact fun _ => rfl
      · exact fun _ => rfl

end Projects

/-! ## What a committed attempt leaves -/

section Committed

variable {s t : Creation}

/-- The project has a process of the template, and the step to kick is the first of it. -/
def StartedFor (templateId projectId : Nat) (firstStep : Option Nat) (db : Database) : Prop :=
  ∃ row ∈ db.projects.rows, row.projectId = projectId ∧
    ∃ started ∈ db.processInstances.rows,
      row.processInstanceId = some started.processInstanceId ∧
      started.processTemplateId = templateId ∧
      firstStep = ProcessLifecycle.resolveFirstStepInstanceId db started.processInstanceId

/-- The seeded statuses are the only thing that is written. -/
theorem seedStatuses_committed (projectId : Nat) (statuses : List DefaultStatus) (s : Creation) :
    Program.wp (seedStatuses userId projectId statuses)
      (fun _ t => t.world = s.world ∧ t.firstStepIdToKick = s.firstStepIdToKick)
      (fun _ _ => True) s := by
  induction statuses generalizing s with
  | nil => exact ⟨rfl, rfl⟩
  | cons status rest ih =>
      rw [seedStatuses, Program.wp_bind]
      refine wp_reach ?_ fun _ _ => trivial
      rw [Program.wp_bind, insertStatus, Program.wp_writeReturning, Program.wp_bind]
      exact Program.wp_mono (ih _) (fun _ _ kept => kept) fun _ _ _ => trivial

/-- A call into the engine that returned. -/
theorem wp_engine {α : Type} {call : Tx α} {post : α → World → Prop} {s : Creation}
    (holds : Program.wp call post (fun _ _ => True) s.world) :
    Program.wp (engine call) (fun value t => post value t.world ∧ t = { s with world := t.world })
      (fun _ _ => True) s := by
  unfold Program.wp engine
  unfold Program.wp at holds
  rcases run : call s.world with ⟨_ | value, w⟩
  · trivial
  · rw [run] at holds
    exact ⟨holds, rfl⟩

theorem startForProject_started {processTemplateId projectId : Nat} (named : processTemplateId ≠ 0)
    {statusIdByName : List (String × Nat)} {row : Project}
    (stored : row ∈ s.world.db.projects.rows) (isProject : row.projectId = projectId) :
    Program.wp (startForProject deployment userId processTemplateId projectId statusIdByName)
      (fun _ t => StartedFor processTemplateId projectId t.firstStepIdToKick t.world.db)
      (fun _ _ => True) s := by
  unfold startForProject
  rw [if_neg named, Program.wp_bind]
  refine wp_reach ?_ fun _ _ => trivial
  rw [Program.wp_bind, Program.wp_read, Program.wp_bind]
  refine Program.wp_mono (wp_engine (Program.wp_mono (Program.wp_and (Program.wp_and
    (ProcessLifecycle.startProcessIn_started deployment _ s.world)
    (ProcessLifecycle.startProcessIn_first _ s.world))
    (startProcessIn_keepsProjects deployment _ s.world)) (fun _ _ ends => ends)
    fun _ _ _ => trivial)) ?_ fun _ _ _ => trivial
  rintro result t ⟨⟨⟨⟨⟨started, starts, isStarted⟩, _⟩, isFirst⟩, projects⟩, _⟩
  rw [Program.wp_bind, Program.wp_write, Program.wp_bind]
  refine wp_reach ?_ fun _ _ => trivial
  rw [Program.wp_bind, linkProcess, Program.wp_write, Program.wp_pure]
  refine ⟨{ row with processInstanceId := some result.processInstanceId }, ?_, isProject, started,
    ?_, congrArg some isStarted, starts.fresh.template, ?_⟩
  · rw [Table.rows_updateAt]
    refine List.mem_map.mpr ⟨row, ?_, if_pos isProject⟩
    rw [projects]
    exact stored
  · show started ∈ t.world.db.processInstances.rows
    rw [starts.instances]
    exact List.mem_append_right _ (List.mem_singleton_self _)
  · rw [← isStarted]
    exact isFirst

/-- The event and the commit change neither the rows nor the step to kick. -/
theorem announced_committed (project : ProjectEntity) (piId : Nat)
    {holds : Option Nat → Database → Prop} (same : holds s.firstStepIdToKick s.world.db) :
    Program.wp (do
        let tenantId ← Program.read fun s : Creation => s.dto.tenantId
        engine (emit (projectCreated tenantId project.row.projectId piId))
        reach .commit
        pure project)
      (fun created t => created = project ∧ holds t.firstStepIdToKick t.world.db)
      (fun _ _ => True) s := by
  rw [Program.wp_bind, Program.wp_read, Program.wp_bind]
  refine Program.wp_mono (@wp_engine _ _ (fun _ w => w.db = s.world.db) s rfl) ?_
    fun _ _ _ => trivial
  rintro _ t ⟨rows, isT⟩
  rw [Program.wp_bind]
  refine wp_reach ?_ fun _ _ => trivial
  rw [Program.wp_pure]
  refine ⟨rfl, ?_⟩
  rw [rows, isT]
  exact same

theorem createIn_committed (s : Creation) :
    Program.wp (createIn deployment userId)
      (fun project t =>
        (s.dto.processTemplateId.getD 0 = 0 →
          t.world.db.projects = s.world.db.projects.insert project.row ∧
          project.row.processInstanceId = none ∧
          project.row.projectId = s.world.db.projects.autoIncrement) ∧
        (s.dto.processTemplateId.getD 0 ≠ 0 →
          StartedFor (s.dto.processTemplateId.getD 0) project.row.projectId t.firstStepIdToKick
            t.world.db))
      (fun _ _ => True) s := by
  unfold createIn
  rw [Program.wp_bind, takeTemplate, Program.wp_writeReturning, Program.wp_bind]
  refine wp_reach ?_ fun _ _ => trivial
  rw [Program.wp_bind, saveProject, Program.wp_writeReturning, Program.wp_bind]
  refine Program.wp_mono (seedStatuses_committed userId _ _ _) ?_ fun _ _ _ => trivial
  rintro statusIdByName t ⟨world, firstStep⟩
  rw [Program.wp_bind]
  by_cases named : s.dto.processTemplateId.getD 0 = 0
  · rw [named, startForProject, if_pos rfl, Program.wp_pure]
    refine Program.wp_mono (@announced_committed t _ 0
      (fun _ db => db.projects = t.world.db.projects) rfl) ?_ fun _ _ _ => trivial
    rintro _ u ⟨rfl, projects⟩
    refine ⟨fun _ => ⟨?_, rfl, rfl⟩, fun other => absurd rfl other⟩
    rw [projects, world]
  · let row : Project :=
      { projectId := s.world.db.projects.autoIncrement, processInstanceId := none,
        status := s.dto.status.getD .active, completedAt := s.dto.completedAt }
    have stored : row ∈ t.world.db.projects.rows := by
      rw [world]
      exact List.mem_append_right _ (List.mem_singleton_self _)
    refine Program.wp_mono (startForProject_started deployment userId named stored rfl) ?_
      fun _ _ _ => trivial
    intro piId u started
    refine Program.wp_mono (@announced_committed u _ piId (StartedFor _ _) started) ?_
      fun _ _ _ => trivial
    rintro _ v ⟨rfl, still⟩
    exact ⟨fun other => absurd other named, fun _ => still⟩

theorem attemptCreate_committed (s : Creation) :
    Program.wp (attemptCreate deployment userId)
      (fun project t =>
        (s.dto.processTemplateId.getD 0 = 0 →
          t.world.db.projects = s.world.db.projects.insert project.row ∧
          project.row.processInstanceId = none ∧
          project.row.projectId = s.world.db.projects.autoIncrement) ∧
        (s.dto.processTemplateId.getD 0 ≠ 0 →
          StartedFor (s.dto.processTemplateId.getD 0) project.row.projectId t.firstStepIdToKick
            t.world.db))
      (fun _ _ => True) s := by
  unfold attemptCreate
  rw [Program.wp_bind, nextAttempt, Program.wp_write, Program.wp_atomically, Program.wp_bind]
  exact wp_reach (createIn_committed deployment userId _) fun _ _ => trivial

theorem not_startedFor {project : ProjectEntity} {before after : Database} {templateId : Nat}
    {firstStep : Option Nat} (stored : after.projects = before.projects.insert project.row)
    (unlinked : project.row.processInstanceId = none)
    (isNew : project.row.projectId = before.projects.autoIncrement) :
    ¬ StartedFor templateId project.row.projectId firstStep after := by
  rintro ⟨row, member, isProject, started, _, linked, _⟩
  rw [stored, Table.rows_insert] at member
  rcases List.mem_append.mp member with old | new
  · have below := (before.projects.bounded row old).2
    rw [← isNew, ← isProject] at below
    exact absurd below (Nat.lt_irrefl _)
  · rw [List.mem_singleton.mp new] at linked
    exact absurd (unlinked.symm.trans linked) nofun

/-- The kicks of a call are of the step it was left with. -/
theorem kick_kicked (elapse : Nat → World → World) (s : Creation) :
    ∀ stepInstanceId ∈ (kick deployment elapse s).2.kicked,
      stepInstanceId ∈ s.kicked ∨ s.firstStepIdToKick = some stepInstanceId := by
  refine Program.wp_end (fun t : Creation => ∀ stepInstanceId ∈ t.kicked,
    stepInstanceId ∈ s.kicked ∨ s.firstStepIdToKick = some stepInstanceId) ?_
  unfold kick
  rw [Program.wp_bind, Program.wp_read]
  rcases first : s.firstStepIdToKick with _ | stepInstanceId
  · exact fun _ member => .inl member
  · simp only
    rw [Program.wp_ite]
    refine ⟨fun _ _ member => .inl member, fun _ => ?_⟩
    rw [Program.wp_attempt]
    refine Program.wp_mono (@Program.wp_retryFrom _ _ _ Thrown.isTransient (backoff elapse)
      .undefined (kickOnce deployment stepInstanceId) 1 3 s
      (fun t => ∀ id ∈ t.kicked, id ∈ s.kicked ∨ some stepInstanceId = some id) ?_
      (fun _ _ kept => kept) fun _ member => .inl member) (fun _ _ kept => kept)
      (fun _ _ kept => kept)
    intro t kept
    unfold kickOnce
    rw [Program.wp_bind, Program.wp_write]
    have added : ∀ id ∈ t.kicked ++ [stepInstanceId],
        id ∈ s.kicked ∨ some stepInstanceId = some id := by
      intro id member
      rcases List.mem_append.mp member with old | new
      · exact kept id old
      · exact .inr (congrArg some (List.mem_singleton.mp new).symm)
    refine Program.wp_mono (engine_keepsCall _ _) ?_ ?_
    · intro _ u same id member
      rw [same.kicked] at member
      exact added id member
    · intro _ u same id member
      rw [same.kicked] at member
      exact added id member

end Committed

/-! ## Retried creations -/

section Retried

variable {elapse : Nat → World → World} {s t : Creation} {i : Nat}

/-- Attempts that do not run their callback leave the call as it was. -/
theorem notBegun_of_failsFirst {k : Nat} {expected : Thrown → Prop}
    (failures : Program.FailsFirst expected (backoff elapse) (attemptCreate deployment userId) i k
      s t) (all : s.outlook.length = k) (atStart : ∀ ahead ∈ s.outlook, ahead.point = .start) :
    t.dto = s.dto ∧ t.firstStepIdToKick = s.firstStepIdToKick ∧ t.kicked = s.kicked ∧
      t.outlook = [] := by
  induction failures with
  | none => exact ⟨rfl, rfl, rfl, List.length_eq_zero_iff.mp all⟩
  | @more i k s t u e failed _ _ ih =>
      rcases ahead : s.outlook with _ | ⟨first, rest⟩
      · rw [ahead] at all
        cases all
      · rw [ahead] at all atStart
        have kept := Program.wp_error (attemptCreate_notBegun deployment userId
          ⟨first, rest, ahead, atStart first List.mem_cons_self⟩) failed
        have isRest : u.outlook = rest := by
          rw [kept.outlook, ahead]
          rfl
        have others := ih (by
          show u.outlook.length = k
          rw [isRest]
          exact Nat.succ.inj all) (by
          show ∀ ahead ∈ u.outlook, ahead.point = .start
          rw [isRest]
          exact fun other member => atStart other (List.mem_cons_of_mem _ member))
        exact ⟨others.1.trans kept.dto, others.2.1.trans kept.firstStep,
          others.2.2.1.trans kept.kicked, others.2.2.2⟩

/-- Once an attempt has run its callback the template is gone. -/
theorem taken_of_failsFirst {k : Nat} {expected : Thrown → Prop}
    (failures : Program.FailsFirst expected (backoff elapse) (attemptCreate deployment userId) i k
      s t) (all : s.outlook.length = k)
    (begun : s.dto.processTemplateId = none ∨ ∃ ahead ∈ s.outlook, ahead.point ≠ .start) :
    t.dto.processTemplateId = none := by
  induction failures with
  | none =>
      rcases begun with taken | ⟨ahead, member, _⟩
      · exact taken
      · rw [List.length_eq_zero_iff.mp all] at member
        cases member
  | @more i k s t u e failed _ _ ih =>
      rcases ahead : s.outlook with _ | ⟨first, rest⟩
      · rw [ahead] at all
        cases all
      · rw [ahead] at all begun
        by_cases atStart : first.point = .start
        · have kept := Program.wp_error (attemptCreate_notBegun deployment userId
            ⟨first, rest, ahead, atStart⟩) failed
          have isRest : u.outlook = rest := by
            rw [kept.outlook, ahead]
            rfl
          refine ih ?_ ?_
          · show u.outlook.length = k
            rw [isRest]
            exact Nat.succ.inj all
          · rcases begun with taken | ⟨other, member, begins⟩
            · exact .inl ((congrArg CreateProjectDto.processTemplateId kept.dto).trans taken)
            · rcases List.mem_cons.mp member with rfl | member
              · exact absurd atStart begins
              · exact .inr ⟨other, isRest ▸ member, begins⟩
        · obtain ⟨taken, _, isTail⟩ := Program.wp_error (attemptCreate_begun deployment userId (by
            rintro ⟨other, _, isAhead, isStart⟩
            rw [ahead] at isAhead
            obtain ⟨rfl, rfl⟩ := List.cons.inj isAhead
            exact atStart isStart)) failed
          refine ih ?_ (.inl taken)
          show u.outlook.length = k
          rw [isTail, ahead]
          exact Nat.succ.inj all

/-- The rows a call has committed, and what it returns. -/
structure SameRows (first second : Except Thrown ProjectEntity × Creation) : Prop where
  result : first.1 = second.1
  db : first.2.world.db = second.2.world.db
  columns : first.2.columns = second.2.columns
  taskStatuses : first.2.taskStatuses = second.2.taskStatuses

/-- The call with the argument of `s`, made in the state `t` and without failures. -/
def withoutFailures (s t : Creation) : Creation :=
  { t with dto := s.dto, firstStepIdToKick := none, kicked := s.kicked, outlook := [] }

variable (elapse) in
/-- The call from `s`, of which the attempt in `t` succeeds, does what a call without failures
does: it commits the same rows and kicks the same step, the project has a process of the
template, and nothing but the first step of that process is kicked. -/
structure Insensitive (templateId : Nat) (s t : Creation) : Prop where
  rows : SameRows (createCommitted deployment userId elapse s)
    (createCommitted deployment userId elapse (withoutFailures s t))
  kicked : (create deployment userId elapse s).2.kicked =
    (create deployment userId elapse (withoutFailures s t)).2.kicked
  linked : ∀ project after, createCommitted deployment userId elapse s = (.ok project, after) →
    ∃ firstStep, StartedFor templateId project.row.projectId firstStep after.world.db ∧
      ∀ stepInstanceId ∈ (create deployment userId elapse s).2.kicked,
        stepInstanceId ∈ s.kicked ∨ firstStep = some stepInstanceId

/-- A retried creation is that of a call without failures exactly where no failed attempt had
run its callback. -/
theorem create_insensitive_iff {templateId : Nat}
    (requested : s.dto.processTemplateId = some templateId) (named : templateId ≠ 0) (fresh : s.firstStepIdToKick = none) (few : s.outlook.length < 4)
    (failures : Program.FailsFirst (fun err => err.isTransient = true) (backoff elapse)
      (attemptCreate deployment userId) 1 s.outlook.length s t)
    (succeeds : (attemptCreate deployment userId).Returns t) :
    Insensitive deployment userId elapse templateId s t ↔
      ∀ ahead ∈ s.outlook, ahead.point = .start := by
  obtain ⟨project, isProject⟩ := succeeds
  have returned : attemptCreate deployment userId t =
      (.ok project, (attemptCreate deployment userId t).2) := by
    rw [← isProject]
  have committed := Program.wp_ok (attemptCreate_committed deployment userId t) returned
  have run : createCommitted deployment userId elapse s =
      (.ok project, (attemptCreate deployment userId t).2) := by
    unfold createCommitted Program.retry
    have left : 4 = s.outlook.length + ((3 - s.outlook.length) + 1) := by omega
    rw [left, Program.retryFrom_of_failsFirst failures, Program.retryFrom_of_ok returned]
  constructor
  · intro same ahead member
    by_contra begun
    have taken := taken_of_failsFirst deployment userId failures rfl (.inr ⟨ahead, member, begun⟩)
    obtain ⟨firstStep, started, _⟩ := same.linked _ _ run
    obtain ⟨stored, unlinked, isNew⟩ := committed.1 (by rw [taken]; rfl)
    exact not_startedFor stored unlinked isNew started
  · intro atStart
    obtain ⟨dto, firstStep, kicked, outlook⟩ :=
      notBegun_of_failsFirst deployment userId failures rfl atStart
    have isT : withoutFailures s t = t := by
      unfold withoutFailures
      rw [← dto, ← kicked, ← outlook, ← fresh, ← firstStep]
    have clean : createCommitted deployment userId elapse t =
        (.ok project, (attemptCreate deployment userId t).2) :=
      Program.retryFrom_of_ok returned
    have ends : ∀ u, createCommitted deployment userId elapse u =
        (.ok project, (attemptCreate deployment userId t).2) →
        (create deployment userId elapse u).2 =
          (kick deployment elapse (attemptCreate deployment userId t).2).2 := by
      intro u isRun
      unfold create
      simp only [bind, Program.andThen, isRun]
      rcases kick deployment elapse (attemptCreate deployment userId t).2 with ⟨_ | _, _⟩ <;> rfl
    refine ⟨?_, ?_, ?_⟩
    · rw [isT, run, clean]
      exact ⟨rfl, rfl, rfl, rfl⟩
    · rw [isT, ends s run, ends t clean]
    · intro created after isRun
      obtain ⟨rfl, rfl⟩ := Prod.mk.inj (run.symm.trans isRun) |>.imp_left Except.ok.inj
      have template : t.dto.processTemplateId.getD 0 = templateId := by
        rw [dto, requested]
        rfl
      refine ⟨_, template ▸ committed.2 (template ▸ named), ?_⟩
      rw [ends s run]
      intro stepInstanceId member
      rcases kick_kicked deployment elapse _ stepInstanceId member with old | first
      · obtain ⟨_, none, _⟩ := Program.wp_ok (attemptCreate_begun deployment userId (by
          rintro ⟨first, rest, isAhead, _⟩
          rw [outlook] at isAhead
          cases isAhead)) returned
        exact .inl (kicked ▸ none ▸ old)
      · exact .inr first

end Retried

/-- A deadlock as the retry test recognises it. -/
def recognisedDeadlock : Thrown := { deadlock with code := none }

/-- A call of `create` with a template without steps, of which the first attempt fails at the
given point. -/
def interruptedAt (point : FailurePoint) : Creation where
  world := (Engine.installed ⟨[], [], [], [], []⟩).world
  columns := []
  taskStatuses := .empty _
  dto :=
    { name := "Dock", projectIdentifier := "", tenantId := 1, processTemplateId := some 4,
      status := none, completedAt := none, createdBy := 3 }
  firstStepIdToKick := none
  kicked := []
  current := none
  outlook := [⟨point, id, recognisedDeadlock⟩]

/-- The state behind the failed attempt. -/
def behind (point : FailurePoint) : Creation :=
  (attemptCreate .allEnabled 3 (interruptedAt point)).2

theorem failsFirst_atStart :
    Program.FailsFirst (fun err => err.isTransient = true) (backoff fun _ w => w)
      (attemptCreate .allEnabled 3) 1 1 (interruptedAt .start)
      (backoff (fun _ w => w) 1 (behind .start)) :=
  .more rfl rfl .none

theorem failsFirst_atSave :
    Program.FailsFirst (fun err => err.isTransient = true) (backoff fun _ w => w)
      (attemptCreate .allEnabled 3) 1 1 (interruptedAt .save)
      (backoff (fun _ w => w) 1 (behind .save)) :=
  .more rfl rfl .none

theorem create_insensitive_atStart :
    Insensitive .allEnabled 3 (fun _ w => w) 4 (interruptedAt .start)
        (backoff (fun _ w => w) 1 (behind .start)) ↔
      ∀ ahead ∈ (interruptedAt .start).outlook, ahead.point = .start :=
  create_insensitive_iff .allEnabled 3 rfl (by decide) rfl (by decide) failsFirst_atStart
    (Program.returns_of_isOk (by decide +kernel))

/-- Refused once at the INSERT of the project, the creation commits a project without a
process. -/
theorem template_lost_atSave :
    Program.FailsFirst (fun err => err.isTransient = true) (backoff fun _ w => w)
        (attemptCreate .allEnabled 3) 1 1 (interruptedAt .save)
        (backoff (fun _ w => w) 1 (behind .save)) ∧
      (attemptCreate .allEnabled 3).Returns (backoff (fun _ w => w) 1 (behind .save)) ∧
      ¬ Insensitive .allEnabled 3 (fun _ w => w) 4 (interruptedAt .save)
        (backoff (fun _ w => w) 1 (behind .save)) := by
  refine ⟨failsFirst_atSave, Program.returns_of_isOk (by decide), fun same => ?_⟩
  have returned : (createCommitted .allEnabled 3 (fun _ w => w) (interruptedAt .save)).1.isOk =
      true := by decide
  obtain ⟨project, isProject⟩ := Program.returns_of_isOk returned
  obtain ⟨_, ⟨row, member, _, started, _, linked, _⟩, _⟩ := same.linked project
    (createCommitted .allEnabled 3 (fun _ w => w) (interruptedAt .save)).2 (by rw [← isProject])
  have unlinked : ∀ row ∈ (createCommitted .allEnabled 3 (fun _ w => w)
      (interruptedAt .save)).2.world.db.projects.rows, row.processInstanceId = none := by
    decide
  rw [unlinked row member] at linked
  cases linked

end ProjectsService

end CoreApi.Automation
