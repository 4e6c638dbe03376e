import CoreApi.Automation.HostReports
import CoreApi.Automation.InstalledTemplates

/-!
# The subject of a started process

A start names the subject of its process three times: in the stored row, in the
context of the host and in the announcement. A workflow is its own subject, but
only the last two say so of every workflow: the row keeps an identifier the
caller gave, and the host, which compares its context with the process, finds
nothing to repair.
-/

namespace CoreApi.Automation

open CoreApi.Foundation

namespace ProcessLifecycle

open ProcessInstantiation

/-- The subject a started process is announced with is the one its host got. -/
theorem processStartedEvent_subjectId (params : StartProcessParams) (subjectType : SubjectType)
    (processInstanceId : Nat) :
    (processStartedEvent params subjectType processInstanceId).data.field "subjectId" =
      .num (hostSubjectId params subjectType processInstanceId) := rfl

/-- What a start stored, told and announced of the subject is one identifier:
that of the row, of the context the host got, unless it was skipped, and of every
announcement of a started process. -/
def SubjectsAgree (params : StartProcessParams) (result : StartProcessResult)
    (before after : World) : Prop :=
  ∃ row, after.db.instance? result.processInstanceId = some row ∧
    (params.skipHostOnStart = false →
      (hostContext params row.subjectType result.processInstanceId).subjectId = row.subjectId) ∧
    ∀ event ∈ after.events.drop before.events.length,
      event.eventName = "six1-event.process_started" →
        event.data.field "subjectId" = .num row.subjectId

/-- The subject identifier of the stored row. -/
def storedSubjectId (params : StartProcessParams) (subjectType : SubjectType)
    (processInstanceId : Nat) : Nat :=
  if subjectType = .workflow ∧ params.subjectId = 0 then processInstanceId else params.subjectId

/-- The row of the process has the subject of a start. -/
def StoresSubject (params : StartProcessParams) (subjectType : SubjectType)
    (processInstanceId : Nat) (db : Database) : Prop :=
  ∃ row, db.instance? processInstanceId = some row ∧ row.subjectType = subjectType ∧
    row.subjectId = storedSubjectId params subjectType processInstanceId

variable {params : StartProcessParams} {subjectType : SubjectType} {processInstanceId : Nat}

/-- A write of the row that leaves its subject. -/
theorem StoresSubject.setInstance {db : Database}
    (stores : StoresSubject params subjectType processInstanceId db)
    (set : ProcessInstance → ProcessInstance)
    (keeps : ∀ row, (set row).processInstanceId = row.processInstanceId)
    (type : ∀ row, (set row).subjectType = row.subjectType)
    (id : ∀ row, (set row).subjectId = row.subjectId) :
    StoresSubject params subjectType processInstanceId
      (db.setInstance processInstanceId set keeps) := by
  obtain ⟨row, found, isType, isId⟩ := stores
  refine ⟨set row, ?_, (type row).trans isType, (id row).trans isId⟩
  have updated := @Table.find?_updateAt_self _ _ db.processInstances processInstanceId set keeps
  rw [Database.instance?] at found
  rw [found] at updated
  exact updated

/-! ## The three places -/

theorem needsSelfSubject_instantiationOptions :
    needsSelfSubject (instantiationOptions params subjectType) = true ↔
      subjectType = .workflow ∧ params.subjectId = 0 := by
  simp [needsSelfSubject, instantiationOptions]

/-- Instantiation stores the subject and announces nothing. -/
private theorem instantiateProcessIn_subject (params : StartProcessParams)
    (subjectType : SubjectType) (w : World) :
    Program.wp (instantiateProcessIn params.templateId params.tenantId params.createdBy
        (instantiationOptions params subjectType))
      (fun processInstanceId w' => processInstanceId = w.db.processInstances.autoIncrement ∧
        StoresSubject params subjectType processInstanceId w'.db ∧ w'.events = w.events)
      (fun _ _ => False) w := by
  have inserted := @Table.find?_insert_self _ _ w.db.processInstances (newProcessInstance
    params.templateId params.tenantId params.createdBy
    (instantiationOptions params subjectType) w.now)
  unfold instantiateProcessIn
  simp only [now, insertProcessInstance, insertSteps, insertStepRows, writeDb, Program.wp_bind,
    Program.wp_read, Program.wp_writeReturning, Program.wp_write, Program.wp_when,
    Program.wp_pure]
  constructor
  · intro needs
    have updated := @Table.find?_updateAt_self _ _
      (w.db.processInstances.insert (newProcessInstance params.templateId params.tenantId
        params.createdBy (instantiationOptions params subjectType) w.now))
      w.db.processInstances.autoIncrement
      (fun row => { row with subjectId := w.db.processInstances.autoIncrement }) (fun _ => rfl)
    rw [inserted] at updated
    refine ⟨trivial, ⟨_, updated, rfl, ?_⟩, trivial⟩
    rw [storedSubjectId, if_pos (needsSelfSubject_instantiationOptions.mp needs)]
  · intro needs
    refine ⟨trivial, ⟨_, inserted, rfl, ?_⟩, trivial⟩
    rw [storedSubjectId, if_neg (mt needsSelfSubject_instantiationOptions.mpr needs)]
    rfl

/-- A project that starts announces nothing: it only ever writes its mappings. -/
private theorem projectStarted_silent (ctx : ProcessHostContext) (w : World) :
    Program.wp (ProjectHost.onProcessStarted ctx) (fun _ w' => w'.events = w.events)
      (fun _ _ => True) w := by
  unfold ProjectHost.onProcessStarted
  cases ctx.hostData with
  | none => trivial
  | some hostData =>
      simp only
      rw [Program.wp_ite]
      refine ⟨fun _ => trivial, fun _ => ?_⟩
      rw [Program.wp_bind]
      have mapped : Program.wp
          (Program.forEach (ProjectHost.insertMapping hostData) ProjectHost.defaultMap)
          (fun _ w' => w'.events = w.events) (fun _ _ => True) w := by
        refine Program.wp_forEach (fun _ w' => w'.events = w.events) _ w rfl ?_
        intro entry _ w' same
        unfold ProjectHost.insertMapping
        cases ProjectHost.statusId hostData.statusIdByName entry.2 with
        | none => trivial
        | some taskStatusId => exact same
      refine Program.wp_mono mapped ?_ (fun _ _ _ => trivial)
      intro _ w' same
      rw [Program.wp_bind, Program.wp_read, Program.wp_when]
      refine ⟨fun steps => ?_, fun _ => same⟩
      exact Program.wp_mono (ProjectHost.insertTasks_refused steps w') (fun _ _ => False.elim)
        (fun _ _ _ => trivial)

/-- The host of a start leaves the stored subject as it is: the context of a
workflow already names the process, so its adapter writes nothing. -/
private theorem onProcessStarted_subject {adapter : ProcessHostAdapter} {w : World}
    (registered : ProcessHostRegistry.lookup subjectType = some adapter)
    (stores : StoresSubject params subjectType processInstanceId w.db) :
    Program.wp (adapter.onProcessStarted (hostContext params subjectType processInstanceId))
      (fun _ w' => StoresSubject params subjectType processInstanceId w'.db ∧
        w'.events = w.events)
      (fun _ _ => True) w := by
  unfold ProcessHostAdapter.onProcessStarted
  rw [Program.wp_bind, wp_callHost]
  cases adapter with
  | project =>
      refine Program.wp_mono (Program.wp_and (projectStarted_hosted _ _)
        (projectStarted_silent _ _)) ?_ (fun _ _ _ => trivial)
      rintro _ w' ⟨host, silent⟩
      obtain ⟨_, _, _, _, tables⟩ := host.tables
      refine ⟨?_, silent⟩
      rw [tables]
      exact stores
  | scheduledTask => exact ⟨stores, rfl⟩
  | configurableInstance => exact ⟨stores, rfl⟩
  | genericWorkflow =>
      have isWorkflow : subjectType = .workflow := by
        cases subjectType <;> simp [ProcessHostRegistry.lookup] at registered ⊢
      rw [Program.wp_ite]
      refine ⟨fun _ => ⟨stores, rfl⟩, fun differs => absurd ?_ differs⟩
      simp [hostContext, hostSubjectId, isWorkflow]

/-! ## A start -/

/-- What a start that returned stored and announced of its subject. -/
structure SubjectStarted (deployment : Deployment) (params : StartProcessParams)
    (processInstanceId : Nat) (subjectType : SubjectType) (before after : World) : Prop where
  type : params.subjectType = subjectType.text
  key : processInstanceId = before.db.processInstances.autoIncrement
  stores : StoresSubject params subjectType processInstanceId after.db
  events : after.events = before.events ++
    if deployment.flags.subjectModelEnabled = true then
      [processStartedEvent params subjectType processInstanceId] else []

private theorem startProcessInTransaction_subject {deployment : Deployment}
    {adapter : ProcessHostAdapter}
    (checked : checkSubject deployment params.subjectType = .ok (subjectType, adapter))
    (w : World) :
    Program.wp (startProcessInTransaction deployment params subjectType adapter)
      (fun result w' => SubjectStarted deployment params result.processInstanceId subjectType w w')
      (fun _ _ => True) w := by
  unfold startProcessInTransaction
  rw [Program.wp_bind]
  refine Program.wp_mono (instantiateProcessIn_subject params subjectType w) ?_
    (fun _ _ never => never.elim)
  rintro processInstanceId w₁ ⟨key, stores₁, events₁⟩
  have correlated : Program.wp (Program.when (params.correlationId.getD "" ≠ "") <|
        writeDb fun db => db.setInstance processInstanceId
          (fun row => { row with correlationId := params.correlationId }) (fun _ => rfl))
      (fun _ w' => StoresSubject params subjectType processInstanceId w'.db ∧
        w'.events = w.events)
      (fun _ _ => True) w₁ := by
    rw [Program.wp_when]
    exact ⟨fun _ => ⟨stores₁.setInstance
      (fun row => { row with correlationId := params.correlationId }) (fun _ => rfl)
      (fun _ => rfl) (fun _ => rfl), events₁⟩, fun _ => ⟨stores₁, events₁⟩⟩
  rw [Program.wp_bind]
  refine Program.wp_mono correlated ?_ (fun _ _ _ => trivial)
  rintro _ w₂ ⟨stores₂, events₂⟩
  have told : Program.wp (Program.when (params.skipHostOnStart = false) <|
        adapter.onProcessStarted (hostContext params subjectType processInstanceId))
      (fun _ w' => StoresSubject params subjectType processInstanceId w'.db ∧
        w'.events = w.events)
      (fun _ _ => True) w₂ := by
    rw [Program.wp_when]
    refine ⟨fun _ => ?_, fun _ => ⟨stores₂, events₂⟩⟩
    refine Program.wp_mono (onProcessStarted_subject (lookup_of_checkSubject checked) stores₂) ?_
      (fun _ _ _ => trivial)
    rintro _ w₃ ⟨stores₃, events₃⟩
    exact ⟨stores₃, events₃.trans events₂⟩
  rw [Program.wp_bind]
  refine Program.wp_mono told ?_ (fun _ _ _ => trivial)
  rintro _ w₃ ⟨stores₃, events₃⟩
  have type := text_of_checkSubject checked
  simp only [Program.wp_bind, Program.wp_read, Program.wp_when, wp_emit, Program.wp_pure]
  refine ⟨fun enabled => ⟨type, key, stores₃, ?_⟩, fun disabled => ⟨type, key, stores₃, ?_⟩⟩
  · rw [if_pos enabled, events₃]
  · rw [if_neg disabled, List.append_nil, events₃]

/-- What `startProcess` did with the subject when it returned. -/
theorem startProcessIn_subject (deployment : Deployment) (params : StartProcessParams)
    (w : World) :
    Program.wp (startProcessIn deployment params)
      (fun result w' => ∃ subjectType,
        SubjectStarted deployment params result.processInstanceId subjectType w w')
      (fun _ _ => True) w := by
  unfold startProcessIn
  cases checked : checkSubject deployment params.subjectType with
  | error message => trivial
  | ok accepted =>
      obtain ⟨subjectType, adapter⟩ := accepted
      exact Program.wp_mono (startProcessInTransaction_subject checked w)
        (fun _ _ started => ⟨subjectType, started⟩) (fun _ _ _ => trivial)

/-- The same of a start in a transaction of its own. -/
theorem startProcess_subject {deployment : Deployment} {result : StartProcessResult}
    {w after : World} (run : startProcess deployment params w = (.ok result, after)) :
    ∃ subjectType, SubjectStarted deployment params result.processInstanceId subjectType w after := by
  have opened : Program.wp (transaction (startProcessIn deployment params))
      (fun result after => ∃ subjectType,
        SubjectStarted deployment params result.processInstanceId subjectType w after)
      (fun _ _ => True) w := by
    rw [wp_transaction]
    exact startProcessIn_subject deployment params w
  exact Program.wp_ok opened run

namespace SubjectStarted

variable {deployment : Deployment} {result : StartProcessResult} {before after : World}

/-- The identifier that was told and announced is the stored one, or neither was. -/
theorem agree_iff (started : SubjectStarted deployment params result.processInstanceId subjectType
      before after) :
    SubjectsAgree params result before after ↔
      params.skipHostOnStart = true ∧ deployment.flags.subjectModelEnabled = false ∨
        hostSubjectId params subjectType result.processInstanceId =
          storedSubjectId params subjectType result.processInstanceId := by
  obtain ⟨row, found, isType, isId⟩ := started.stores
  have announced : after.events.drop before.events.length =
      if deployment.flags.subjectModelEnabled = true then
        [processStartedEvent params subjectType result.processInstanceId] else [] := by
    rw [started.events, List.drop_left]
  constructor
  · rintro ⟨other, isOther, told, published⟩
    rw [found] at isOther
    cases isOther
    by_cases skipped : params.skipHostOnStart = true
    · by_cases enabled : deployment.flags.subjectModelEnabled = true
      · rw [announced, if_pos enabled] at published
        have same := published _ (List.mem_singleton_self _) rfl
        rw [processStartedEvent_subjectId, Json.num.injEq, Int.ofNat_inj] at same
        exact .inr (same.trans isId)
      · exact .inl ⟨skipped, Bool.eq_false_of_not_eq_true enabled⟩
    · have same := told (Bool.eq_false_of_not_eq_true skipped)
      rw [isType] at same
      exact .inr (same.trans isId)
  · intro condition
    refine ⟨row, found, fun tells => ?_, fun event member isStart => ?_⟩
    · rcases condition with ⟨skipped, _⟩ | same
      · rw [skipped] at tells
        cases tells
      · rw [isType, isId]
        exact same
    · rw [announced] at member
      rcases condition with ⟨_, disabled⟩ | same
      · rw [disabled] at member
        exact absurd member List.not_mem_nil
      · split at member
        · rw [List.mem_singleton.mp member, isId, ← same, processStartedEvent_subjectId]
        · exact absurd member List.not_mem_nil

end SubjectStarted

/-- Told and stored identifiers differ for a workflow whose caller named another subject. -/
theorem hostSubjectId_eq_iff :
    hostSubjectId params subjectType processInstanceId =
        storedSubjectId params subjectType processInstanceId ↔
      subjectType ≠ .workflow ∨ params.subjectId = 0 ∨ params.subjectId = processInstanceId := by
  unfold hostSubjectId storedSubjectId
  by_cases workflow : subjectType = .workflow
  · by_cases zero : params.subjectId = 0
    · simp [workflow, zero]
    · simp [workflow, zero, eq_comm]
  · simp [workflow]

/-- The stored, the told and the announced subject of a start agree exactly if
nothing was told or announced, or the process is no workflow, or its caller left
the subject open or guessed the process. -/
theorem startProcess_subjectsAgree_iff {deployment : Deployment} {params : StartProcessParams}
    {result : StartProcessResult} {w after : World}
    (run : startProcess deployment params w = (.ok result, after) ∨
      startProcessIn deployment params w = (.ok result, after)) :
    SubjectsAgree params result w after ↔
      params.skipHostOnStart = true ∧ deployment.flags.subjectModelEnabled = false ∨
        params.subjectType ≠ "workflow" ∨ params.subjectId = 0 ∨
        params.subjectId = w.db.processInstances.autoIncrement := by
  obtain ⟨subjectType, started⟩ : ∃ subjectType, SubjectStarted deployment params
      result.processInstanceId subjectType w after := by
    rcases run with run | run
    · exact startProcess_subject run
    · exact Program.wp_ok (startProcessIn_subject deployment params w) run
  have isWorkflow : params.subjectType ≠ "workflow" ↔ subjectType ≠ .workflow := by
    rw [started.type]
    cases subjectType <;> decide
  rw [started.agree_iff, hostSubjectId_eq_iff, isWorkflow, started.key]

/-- A start whose caller leaves the subject open. -/
theorem startProcess_subjectsAgree_open :
    ∃ result after,
      startProcess .allEnabled (.workflow 1 1 .ignore) (Engine.installed nestedCalls).world =
        (.ok result, after) ∧
      SubjectsAgree (.workflow 1 1 .ignore) result (Engine.installed nestedCalls).world after := by
  obtain ⟨result, isResult⟩ := @Program.returns_of_isOk _ _ _ (Engine.installed nestedCalls).world
    (startProcess .allEnabled (.workflow 1 1 .ignore)) (by decide)
  have run : startProcess .allEnabled (.workflow 1 1 .ignore) (Engine.installed nestedCalls).world =
      (.ok result, _) := Prod.ext isResult rfl
  exact ⟨result, _, run, (startProcess_subjectsAgree_iff (.inl run)).mpr (.inr (.inr (.inl rfl)))⟩

/-- A workflow whose caller names a subject. -/
def namedWorkflow : StartProcessParams :=
  { StartProcessParams.workflow 1 1 .ignore with subjectId := 7 }

/-- The first process of an engine keeps the subject 7 that its caller named, and is
announced, as it was to its host, under its own identifier. -/
theorem startProcess_subjects_differ :
    ∃ result after,
      startProcess .allEnabled namedWorkflow (Engine.installed nestedCalls).world =
        (.ok result, after) ∧
      ¬ SubjectsAgree namedWorkflow result (Engine.installed nestedCalls).world after := by
  obtain ⟨result, isResult⟩ := @Program.returns_of_isOk _ _ _ (Engine.installed nestedCalls).world
    (startProcess .allEnabled namedWorkflow) (by decide)
  have run : startProcess .allEnabled namedWorkflow (Engine.installed nestedCalls).world =
      (.ok result, _) := Prod.ext isResult rfl
  refine ⟨result, _, run, ?_⟩
  obtain ⟨subjectType, started⟩ := startProcess_subject run
  have isWorkflow : subjectType = .workflow := by
    have text := started.type
    revert text
    cases subjectType <;> decide
  rw [started.agree_iff, hostSubjectId_eq_iff, isWorkflow, started.key]
  decide

end ProcessLifecycle

end CoreApi.Automation
