import CoreApi.Automation.Engine
import CoreApi.Automation.OperationEffects

/-!
# What a call does to the world

`Effect` lists, for every call of the engine, what it may have done when it
returns or raises. The invariants of the engine are proved from it: `perform`
and the functions below it are not unfolded again.
-/

namespace CoreApi.Automation

open CoreApi.Foundation StepOrchestrator ChildProcessOrchestration

variable {deployment : Deployment}

/-! ## Updates of an instance -/

/-- `set` maps the status by `next` and leaves what links and identifies the row. -/
structure SetsInstance (next : InstanceStatus → InstanceStatus)
    (set : ProcessInstance → ProcessInstance) : Prop where
  key : ∀ row, (set row).processInstanceId = row.processInstanceId
  template : ∀ row, (set row).processTemplateId = row.processTemplateId
  tenant : ∀ row, (set row).tenantId = row.tenantId
  subject : ∀ row, (set row).subjectType = row.subjectType
  parentInstance : ∀ row, (set row).parentInstanceId = row.parentInstanceId
  parentStep : ∀ row, (set row).parentStepId = row.parentStepId
  policy : ∀ row, (set row).onChildFailure = row.onChildFailure
  status : ∀ row, (set row).status = next row.status

/-- An active instance becomes completed; any other stays what it is. -/
def completeActive (status : InstanceStatus) : InstanceStatus :=
  if status = .active then .completed else status

/-- A status that an instance never leaves for an active one. -/
def IsTerminal (status : InstanceStatus) : Prop := status = .completed ∨ status = .canceled

instance (status : InstanceStatus) : Decidable (IsTerminal status) :=
  inferInstanceAs (Decidable (_ ∨ _))

theorem completeActive_of_terminal {status : InstanceStatus} (terminal : IsTerminal status) :
    completeActive status = status := by
  rcases terminal with rfl | rfl <;> rfl

theorem setsInstance_completed (time : String) :
    SetsInstance completeActive (completedInstance time) := by
  constructor <;> intro row <;> unfold completedInstance <;> split <;>
    simp_all [completeActive]

theorem setsInstance_context (context : Option Record) :
    SetsInstance id fun row => { row with context := context } :=
  ⟨fun _ => rfl, fun _ => rfl, fun _ => rfl, fun _ => rfl, fun _ => rfl, fun _ => rfl,
    fun _ => rfl, fun _ => rfl⟩

theorem setsInstance_canceled (time : String) :
    SetsInstance (fun _ => .canceled) (canceledInstance time) :=
  ⟨fun _ => rfl, fun _ => rfl, fun _ => rfl, fun _ => rfl, fun _ => rfl, fun _ => rfl,
    fun _ => rfl, fun _ => rfl⟩

/-! ## Terminal children -/

/-- What `handleChildTerminal` does for a child with a parent. -/
inductive ParentTold (before : World) (child parent : ProcessInstance) (parentStepId : Nat)
    (terminalStatus : TerminalStatus) : World → Prop
  | paused (context : Option Record) (opts : AdvanceOptions)
      (outcome : terminalOutcome terminalStatus parent.onChildFailure = .pause) :
      ParentTold before child parent parentStepId terminalStatus
        { before with
          db := before.db.setInstance parent.processInstanceId
            (fun row => { row with context := context }) (fun _ => rfl)
          events := before.events ++
            [childTerminalEvent child parent parentStepId terminalStatus opts false] }
  | failed (context : Option Record) (opts : AdvanceOptions)
      (outcome : terminalOutcome terminalStatus parent.onChildFailure = .fail) :
      ParentTold before child parent parentStepId terminalStatus
        { before with
          db := ((before.db.setInstance parent.processInstanceId
            (fun row => { row with context := context }) (fun _ => rfl)).setInstance
              parent.processInstanceId (canceledInstance before.now) (fun _ => rfl)).setStep
                parentStepId (canceledByChild before.now) (fun _ => rfl)
          events := before.events ++
            [childTerminalEvent child parent parentStepId terminalStatus opts false] }
  | resumed (context : Option Record) (opts : AdvanceOptions) (events : List DomainEvent)
      (outcome : terminalOutcome terminalStatus parent.onChildFailure = .resume)
      (quiet : QuietEvents events) :
      ParentTold before child parent parentStepId terminalStatus
        { before with
          db := (before.db.setInstance parent.processInstanceId
            (fun row => { row with context := context }) (fun _ => rfl)).setStep
              parentStepId (completedByChild before.now) (fun _ => rfl)
          events := before.events ++ events ++
            [childTerminalEvent child parent parentStepId terminalStatus opts true] }

/-- The link of a child consists of stored rows. -/
theorem childLink_eq_some {db : Database} {childProcessInstanceId : Nat}
    {child parent : ProcessInstance} {parentStepId : Nat}
    (link : childLink db childProcessInstanceId = some (child, parent, parentStepId)) :
    db.instance? childProcessInstanceId = some child ∧
      child.parentStepId = some parentStepId ∧
      child.parentInstanceId = some parent.processInstanceId ∧
      db.instance? parent.processInstanceId = some parent := by
  unfold childLink at link
  split at link
  · cases link
  · rename_i row found
    split at link
    · rename_i stepId instanceId hasStep hasInstance
      split at link
      · cases link
      · split at link
        · cases link
        · rename_i parentRow isParent
          cases link
          have key := Table.key_of_find? isParent
          exact ⟨found, hasStep, by rw [hasInstance]; exact congrArg some key.symm,
            by rw [← isParent]; exact congrArg db.instance? key⟩
    · cases link

private theorem mergeChildContext_effect {parent : ProcessInstance} {w : World}
    (found : w.db.instance? parent.processInstanceId = some parent)
    (childContext : Option Record) {ok : Unit → World → Prop} {err : String → World → Prop}
    (holds : ∀ context, ok () { w with
      db := w.db.setInstance parent.processInstanceId
        (fun row => { row with context := context }) (fun _ => rfl) }) :
    Program.wp (mergeChildContextIntoParent parent.processInstanceId childContext) ok err w := by
  unfold mergeChildContextIntoParent
  rw [Program.wp_bind, Program.wp_read, found]
  exact holds _

/-- `handleChildTerminal` tells the parent of a linked child, and never raises. -/
theorem handleChildTerminalIn_effect (childProcessInstanceId : Nat)
    (terminalStatus : TerminalStatus) (opts : AdvanceOptions) (w : World) :
    Program.wp (handleChildTerminalIn childProcessInstanceId terminalStatus opts)
      (fun _ w' => w' = w ∧ childLink w.db childProcessInstanceId = none ∨
        ∃ child parent parentStepId, childLink w.db childProcessInstanceId =
          some (child, parent, parentStepId) ∧
        ParentTold w child parent parentStepId terminalStatus w')
      (fun _ _ => False) w := by
  unfold handleChildTerminalIn
  rw [Program.wp_bind, Program.wp_read]
  split
  · rename_i unlinked
    exact .inl ⟨rfl, unlinked⟩
  · rename_i child parent parentStepId link
    obtain ⟨_, _, _, isParent⟩ := childLink_eq_some link
    rw [Program.wp_bind]
    refine mergeChildContext_effect isParent child.context fun context => ?_
    split
    · rename_i outcome
      exact .inr ⟨child, parent, parentStepId, link, .paused context opts outcome⟩
    · rename_i outcome
      exact .inr ⟨child, parent, parentStepId, link, .failed context opts outcome⟩
    · rename_i outcome
      unfold completeParentCallProcessStep
      simp only [Program.wp_bind, wp_now, wp_writeDb, Program.wp_read]
      split
      · have told : ParentTold w child parent parentStepId terminalStatus _ :=
          .resumed context opts [] outcome (by simp [QuietEvents])
        rw [List.append_nil] at told
        exact .inr ⟨child, parent, parentStepId, link, told⟩
      · refine .inr ⟨child, parent, parentStepId, link, .resumed context opts [_] outcome ?_⟩
        intro event member processInstanceId
        rw [List.mem_singleton.mp member]
        simp [DomainEvent.announces, parentStepCompletedEvent]

/-! ## Validation -/

open ConfigObjectStepExecutor in
/-- What `validateByCustomInstanceId` does for an instance that a step is linked to. -/
def Validated (configCustomObjectInstanceId : Nat) (before after : World) : Prop :=
  ∃ link error payload events,
    findLink before.db configCustomObjectInstanceId = some link ∧
    (∃ row, findCustomInstance before.db configCustomObjectInstanceId link.proc.tenantId =
        some row ∧ payload = row.payload.getD [] ∧ error = completionError before.db link row) ∧
    QuietEvents events ∧
    after = { before with
      db := before.db.setObjectInstance link.row.stepObjectInstanceId
        (recordVerdict error payload before.now) (recordVerdict_key error payload before.now)
      events := before.events ++ events }

open ConfigObjectStepExecutor in
/-- Validation never raises. -/
theorem validateInTransaction_effect (configCustomObjectInstanceId : Nat)
    (correlationId : Option String) (w : World) :
    Program.wp (validateInTransaction configCustomObjectInstanceId correlationId)
      (fun _ w' => w' = w ∨ Validated configCustomObjectInstanceId w w')
      (fun _ _ => False) w := by
  unfold validateInTransaction
  rw [Program.wp_bind, Program.wp_read]
  split
  · exact .inl rfl
  rename_i link isLink
  rw [Program.wp_bind, Program.wp_read]
  split
  · exact .inl rfl
  rename_i row isRow
  simp only [Program.wp_bind, Program.wp_read, wp_now, wp_writeDb, Program.wp_when, wp_emit,
    Program.wp_pure]
  constructor
  · intro _
    refine .inr ⟨link, _, _, [objectValidatedEvent link configCustomObjectInstanceId
      correlationId], isLink, ⟨row, isRow, rfl, rfl⟩, ?_, rfl⟩
    intro event member processInstanceId
    rw [List.mem_singleton.mp member]
    simp [DomainEvent.announces, objectValidatedEvent]
  · intro _
    exact .inr ⟨link, _, _, [], isLink, ⟨row, isRow, rfl, rfl⟩, by simp [QuietEvents],
      by rw [List.append_nil]⟩

/-! ## The other calls -/

/-- A world that differs in requirements, submissions, custom instances and
events only, none of them an announcement. -/
def OnlyEvidence (before after : World) : Prop :=
  ∃ requirements submissions customInstances events, QuietEvents events ∧
    after = { before with
      db := { before.db with
        requirements := requirements, submissions := submissions,
        customInstances := customInstances }
      events := before.events ++ events }

/-- Evidence written without an event. -/
theorem OnlyEvidence.of_tables (w : World) (requirements : Table StepRequirement)
    (submissions : Table RequirementSubmission) (customInstances : Table CustomObjectInstance) :
    OnlyEvidence w { w with
      db := { w.db with
        requirements := requirements, submissions := submissions,
        customInstances := customInstances } } :=
  ⟨requirements, submissions, customInstances, [], by simp [QuietEvents],
    by rw [List.append_nil]⟩

/-! ## Event triggers -/

/-- The triggers of a list that an event marks met: those whose where-rule
passes, up to the first one whose where-rule raises. -/
def EventBridge.metAmong (deployment : Deployment) (event : DomainEvent)
    (eventName : Option String) (time : String) : List StepTrigger → List StepTrigger
  | [] => []
  | trigger :: rest =>
      match passes deployment event eventName time trigger with
      | .error _ => []
      | .ok true => trigger :: metAmong deployment event eventName time rest
      | .ok false => metAmong deployment event eventName time rest

/-- The triggers that an event marks met. -/
def EventBridge.metTriggers (deployment : Deployment) (event : DomainEvent)
    (eventName : Option String) (w : World) : List StepTrigger :=
  metAmong deployment event eventName w.now (candidates w.db event eventName)

theorem metTrigger_key (time : String) (row : StepTrigger) :
    (metTrigger time row).triggerInstanceId = row.triggerInstanceId := rfl

/-- Mark triggers met. -/
def Database.markTriggers (db : Database) (time : String) : List StepTrigger → Database
  | [] => db
  | trigger :: rest =>
      (db.setTrigger trigger.triggerInstanceId (metTrigger time)
        (metTrigger_key time)).markTriggers time rest

/-- Marking triggers writes no other table. -/
theorem Database.markTriggers_shape (time : String) (marked : List StepTrigger) :
    ∀ db : Database, ∃ triggers, db.markTriggers time marked = { db with triggers := triggers } := by
  induction marked with
  | nil => exact fun db => ⟨_, rfl⟩
  | cons trigger rest ih =>
      intro db
      obtain ⟨triggers, eq⟩ := ih
        (db.setTrigger trigger.triggerInstanceId (metTrigger time) (fun _ => rfl))
      exact ⟨triggers, eq⟩

theorem Database.mem_markTriggers {time : String} {row : StepTrigger} (marked : List StepTrigger) :
    ∀ db : Database, row ∈ (db.markTriggers time marked).triggers.rows ↔
      ∃ old ∈ db.triggers.rows,
        row = if ∃ trigger ∈ marked, trigger.triggerInstanceId = old.triggerInstanceId then
          metTrigger time old else old := by
  induction marked with
  | nil => simp [Database.markTriggers]
  | cons trigger rest ih =>
      intro db
      rw [Database.markTriggers, ih]
      constructor
      · rintro ⟨old, member, rfl⟩
        rcases (mem_setTrigger (metTrigger_key time)).mp member with ⟨first, firstMember, same, rfl⟩ |
            ⟨untouched, different⟩
        · have here : ∃ other ∈ trigger :: rest,
              other.triggerInstanceId = first.triggerInstanceId :=
            ⟨trigger, List.mem_cons_self, same.symm⟩
          refine ⟨first, firstMember, ?_⟩
          rw [if_pos here]
          split <;> rfl
        · refine ⟨old, untouched, ?_⟩
          congr 1
          simp [Ne.symm different]
      · rintro ⟨old, member, rfl⟩
        by_cases same : old.triggerInstanceId = trigger.triggerInstanceId
        · have here : ∃ other ∈ trigger :: rest,
              other.triggerInstanceId = old.triggerInstanceId :=
            ⟨trigger, List.mem_cons_self, same.symm⟩
          refine ⟨metTrigger time old, (mem_setTrigger (metTrigger_key time)).mpr
            (.inl ⟨old, member, same, rfl⟩), ?_⟩
          rw [if_pos here]
          split <;> rfl
        · refine ⟨old, (mem_setTrigger (metTrigger_key time)).mpr (.inr ⟨member, same⟩), ?_⟩
          congr 1
          simp [Ne.symm same]

/-- The world after an event marked its triggers met. -/
def EventBridge.marked (deployment : Deployment) (event : DomainEvent)
    (eventName : Option String) (w : World) : World :=
  { w with db := w.db.markTriggers w.now (metTriggers deployment event eventName w) }

namespace Engine

/-- What the writes of evidence make of the requirements table. -/
def WritesRequirements (deployment : Deployment) (before : World) :
    Call → Table StepRequirement → Prop
  | .createSubmission _ requirementInstanceId submittedData, after =>
      ∃ requirement submissionId time,
        before.db.requirements.find? requirementInstanceId = some requirement ∧
        after = before.db.requirements.updateAt requirementInstanceId
          (RequirementSubmissions.submitted submissionId
            (RequirementSubmissions.validateSubmission deployment requirement.jsonSchema
              submittedData).2 time) (fun _ => rfl)
  | .approveSubmission _, after =>
      ∃ requirementInstanceId time,
        after = before.db.requirements.updateAt requirementInstanceId
          (RequirementSubmissions.approved time) (fun _ => rfl)
  | .updateRequirement requirementInstanceId status, after =>
      after = before.db.requirements.updateAt requirementInstanceId
        (fun row => { row with status := status }) (fun _ => rfl)
  | .writeSubmission _ _, after => after = before.db.requirements
  | .updateCustomObjectInstance _ _ _ _, after => after = before.db.requirements
  | _, _ => False

/-- The call writes more than once before it can raise, in a transaction. -/
def Transacts : Call → Prop
  | .startProcess _ | .attemptAdvance _ _ | .markCompleted _ _ | .resumeParent _ _ => True
  | _ => False

/-- What a call may do, whether it returns or raises. -/
inductive Effect (deployment : Deployment) (before : World) : Call → World → Prop
  | unchanged (call : Call) : Effect deployment before call before
  | raised {after : World} (call : Call) (later : Database)
      (rolledBack : after.db = before.db.rollback later) (log : QuietLog before after)
      (transacts : Transacts call) :
      Effect deployment before call after
  | started {after : World} (params : StartProcessParams) (row : ProcessInstance)
      (start : Started (rootParams params) row before after)
      (reported : ∃ subjectType adapter, StartReported deployment (rootParams params)
        row.processInstanceId subjectType adapter before after) :
      Effect deployment before (.startProcess params) after
  | advanced {after : World} (stepInstanceId : Nat) (opts : AdvanceOptions)
      (result : Option Nat) (outcome : Advanced deployment before stepInstanceId result after) :
      Effect deployment before (.attemptAdvance stepInstanceId opts) after
  | marked {after : World} (stepInstanceId : Nat) (opts : AdvanceOptions) (result : Option Nat)
      (outcome : Marked deployment before stepInstanceId result after) :
      Effect deployment before (.markCompleted stepInstanceId opts) after
  | resumed {after : World} (stepInstanceId : Nat) (opts : AdvanceOptions) (result : Option Nat)
      (outcome : Resumed deployment before stepInstanceId result after) :
      Effect deployment before (.resumeParent stepInstanceId opts) after
  | childTerminal {after : World} (childProcessInstanceId : Nat)
      (terminalStatus : TerminalStatus) (opts : AdvanceOptions)
      (child parent : ProcessInstance) (parentStepId : Nat)
      (enabled : isEnabled deployment = true)
      (link : childLink before.db childProcessInstanceId = some (child, parent, parentStepId))
      (told : ParentTold before child parent parentStepId terminalStatus after) :
      Effect deployment before (.handleChildTerminal childProcessInstanceId terminalStatus opts)
        after
  | eligible (processInstanceId : Nat)
      (eligible : isEligibleChild before.db processInstanceId = true) :
      Effect deployment before (.markProcessCompletedIfEligible processInstanceId)
        { before with
          db := before.db.setInstance processInstanceId (completedInstance before.now)
            (completedInstance_key before.now) }
  | validated {after : World} (configCustomObjectInstanceId : Nat)
      (correlationId : Option String) (advance : Option AdvanceOptions)
      (validated : Validated configCustomObjectInstanceId before after) :
      Effect deployment before
        (.validateByCustomInstanceId configCustomObjectInstanceId correlationId advance) after
  | evidence {after : World} (call : Call) (only : OnlyEvidence before after)
      (requirements : WritesRequirements deployment before call after.db.requirements) :
      Effect deployment before call after
  | triggersMarked (event : DomainEvent) :
      Effect deployment before (.listener .anyDomainEvent event)
        (EventBridge.marked deployment event none before)

/-- A call that raised inside its transaction. -/
theorem Effect.rolledBack {before after : World} (call : Call) (log : QuietLog before after)
    (transacts : Transacts call) : Effect deployment before call (before.rollback after) :=
  .raised call after.db rfl ⟨log.events, log.hostCalls⟩ transacts

/-- The loop of `onAnyDomainEvent` marks what `metAmong` lists, also where a
where-rule raises. -/
private theorem markAllMet_effect (event : DomainEvent) (eventName : Option String)
    (triggers : List StepTrigger) :
    ∀ w : World, Program.wp (EventBridge.markAllMet deployment event eventName triggers)
      (fun stepIds w' =>
        stepIds = (EventBridge.metAmong deployment event eventName w.now triggers).map
          StepTrigger.stepInstanceId ∧
        w' = { w with
          db := w.db.markTriggers w.now (EventBridge.metAmong deployment event eventName w.now triggers) })
      (fun _ w' => w' = { w with
        db := w.db.markTriggers w.now (EventBridge.metAmong deployment event eventName w.now triggers) })
      w := by
  induction triggers with
  | nil => exact fun w => ⟨rfl, rfl⟩
  | cons trigger rest ih =>
      intro w
      unfold EventBridge.markAllMet EventBridge.markMet EventBridge.metAmong
      rw [Program.wp_bind, Program.wp_bind, wp_now, Program.wp_bind]
      cases EventBridge.passes deployment event eventName w.now trigger with
      | error message => rfl
      | ok pass =>
          rw [Program.wp_lift_ok]
          cases pass with
          | false =>
              rw [if_neg Bool.false_ne_true, Program.wp_pure, Program.wp_bind]
              exact Program.wp_mono (ih w) (fun _ _ done => done)
                (fun _ _ raised => raised)
          | true =>
              rw [if_pos rfl, Program.wp_bind, wp_writeDb, Program.wp_pure, Program.wp_bind]
              refine Program.wp_mono (ih _) ?_ (fun _ _ raised => raised)
              rintro _ _ ⟨rfl, rfl⟩
              exact ⟨rfl, rfl⟩

theorem metStepIds_marks (event : DomainEvent) (eventName : Option String) (w : World) :
    Program.wp (EventBridge.metStepIds deployment event eventName)
      (fun stepIds w' => stepIds = ((EventBridge.metTriggers deployment event eventName w).map
          StepTrigger.stepInstanceId).eraseDups ∧
        w' = EventBridge.marked deployment event eventName w)
      (fun _ w' => w' = EventBridge.marked deployment event eventName w) w := by
  unfold EventBridge.metStepIds
  rw [Program.wp_bind, Program.wp_read, Program.wp_bind]
  refine Program.wp_mono (markAllMet_effect event eventName _ w) ?_ fun _ _ raised => raised
  rintro _ _ ⟨rfl, rfl⟩
  exact ⟨rfl, rfl⟩

private theorem listen_effect (listener : Listener) (event : DomainEvent) (w : World) :
    Program.wp (listen deployment listener event)
      (fun _ w' => Effect deployment w (.listener listener event) w')
      (fun _ w' => Effect deployment w (.listener listener event) w') w := by
  cases listener with
  | childCompleted =>
      simp only [listen]
      split <;> exact .unchanged _
  | objectValidated =>
      simp only [listen]
      split <;> exact .unchanged _
  | instanceUpdated =>
      simp only [listen]
      split <;> exact .unchanged _
  | requirement =>
      simp only [listen]
      rw [Program.wp_bind, Program.wp_read]
      split <;> exact .unchanged _
  | anyDomainEvent =>
      simp only [listen]
      rw [Program.wp_bind]
      refine Program.wp_mono (metStepIds_marks event none w) ?_ ?_
      · rintro _ _ ⟨_, rfl⟩
        exact .triggersMarked event
      · rintro _ _ rfl
        exact .triggersMarked event

private theorem requirementEvent_quiet (eventName : String) (requirement : StepRequirement)
    (submissionId processInstanceId : Nat) :
    (RequirementSubmissions.requirementEvent eventName requirement
      submissionId).announces processInstanceId = false := by
  simp [DomainEvent.announces, RequirementSubmissions.requirementEvent]

private theorem createIn_evidence (userId requirementInstanceId : Nat) (submittedData : Json)
    (w : World) :
    Program.wp (RequirementSubmissions.createIn deployment userId requirementInstanceId
        submittedData)
      (fun _ w' => OnlyEvidence w w' ∧ WritesRequirements deployment w
        (.createSubmission userId requirementInstanceId submittedData) w'.db.requirements)
      (fun _ w' => w' = w) w := by
  unfold RequirementSubmissions.createIn
  rw [Program.wp_bind, Program.wp_read]
  split
  · rfl
  rename_i requirement found
  simp only [RequirementSubmissions.saveSubmission, Program.wp_bind, Program.wp_writeReturning,
    wp_now, wp_writeDb, wp_emit, Program.wp_when, Program.wp_pure]
  constructor
  · intro _
    refine ⟨⟨_, _, _, [_, _], ?_, by rw [List.append_assoc]; rfl⟩, requirement, _, _, found, rfl⟩
    intro event member processInstanceId
    rcases List.mem_cons.mp member with rfl | member
    · exact requirementEvent_quiet _ _ _ _
    · rw [List.mem_singleton.mp member]
      exact requirementEvent_quiet _ _ _ _
  · intro _
    refine ⟨⟨_, _, _, [_], ?_, rfl⟩, requirement, _, _, found, rfl⟩
    intro event member processInstanceId
    rw [List.mem_singleton.mp member]
    exact requirementEvent_quiet _ _ _ _

private theorem approveIn_evidence (requirementSubmissionId : Nat) (w : World) :
    Program.wp (RequirementSubmissions.approveIn requirementSubmissionId)
      (fun _ w' => OnlyEvidence w w' ∧ WritesRequirements deployment w
        (.approveSubmission requirementSubmissionId) w'.db.requirements)
      (fun _ w' => w' = w) w := by
  unfold RequirementSubmissions.approveIn
  rw [Program.wp_bind, Program.wp_read]
  split
  · rfl
  rw [Program.wp_bind, Program.wp_read]
  split
  · rfl
  refine ⟨⟨_, _, _, [_], ?_, rfl⟩, _, _, rfl⟩
  intro event member processInstanceId
  rw [List.mem_singleton.mp member]
  exact requirementEvent_quiet _ _ _ _

variable (deployment) in
/-- Every call does what `Effect` lists for it. -/
theorem perform_effect (call : Call) (w : World) :
    Program.wp (perform deployment call) (fun _ w' => Effect deployment w call w')
      (fun _ w' => Effect deployment w call w') w := by
  cases call with
  | startProcess params =>
      unfold perform ProcessLifecycle.startProcess
      rw [Program.wp_bind, wp_transaction]
      refine Program.wp_mono (Program.wp_and
        (ProcessLifecycle.startProcessIn_started deployment _ w)
        (ProcessLifecycle.startProcessIn_reported deployment _ w)) ?_ ?_
      · rintro _ w' ⟨⟨⟨row, start, key⟩, _⟩, _, _, reported⟩
        exact .started params row start ⟨_, _, key ▸ reported⟩
      · rintro _ w' ⟨⟨⟨log, _⟩, _⟩, _⟩
        exact .rolledBack _ log trivial
  | attemptAdvance stepInstanceId opts =>
      unfold perform
      rw [Program.wp_bind, wp_transaction]
      exact Program.wp_mono (attemptAdvanceIn_advanced stepInstanceId opts w)
        (fun result _ outcome => .advanced stepInstanceId opts result outcome.1)
        (fun _ _ raised => .rolledBack _ raised.1 trivial)
  | markCompleted stepInstanceId opts =>
      unfold perform
      rw [Program.wp_bind, wp_transaction]
      exact Program.wp_mono (markCompletedIn_marked stepInstanceId opts w)
        (fun result _ outcome => .marked stepInstanceId opts result outcome.1)
        (fun _ _ log => .rolledBack _ log trivial)
  | resumeParent stepInstanceId opts =>
      unfold perform
      rw [Program.wp_bind, wp_transaction]
      exact Program.wp_mono (resumeParentIn_resumed stepInstanceId opts w)
        (fun result _ outcome => .resumed stepInstanceId opts result outcome.1)
        (fun _ _ log => .rolledBack _ log trivial)
  | handleChildTerminal childProcessInstanceId terminalStatus opts =>
      unfold perform handleChildTerminal
      rw [Program.wp_bind, Program.wp_ite]
      refine ⟨fun _ => .unchanged _, fun enabled => ?_⟩
      rw [wp_transaction]
      refine Program.wp_mono (handleChildTerminalIn_effect childProcessInstanceId terminalStatus
        opts w) ?_ (fun _ _ never => never.elim)
      rintro _ w' (⟨rfl, _⟩ | ⟨child, parent, parentStepId, link, told⟩)
      · exact .unchanged _
      · exact .childTerminal childProcessInstanceId terminalStatus opts child parent parentStepId
          (by simpa using enabled) link told
  | markProcessCompletedIfEligible processInstanceId =>
      unfold perform
      rw [Program.wp_bind]
      refine Program.wp_mono (markProcessCompletedIfEligible_effect processInstanceId w) ?_
        (fun _ _ never => never.elim)
      rintro _ _ rfl
      rw [Program.wp_pure]
      split
      · rename_i eligible
        exact .eligible processInstanceId eligible
      · exact .unchanged _
  | validateByCustomInstanceId configCustomObjectInstanceId correlationId advance =>
      unfold perform ConfigObjectStepExecutor.validateByCustomInstanceId
      rw [Program.wp_bind, Program.wp_ite]
      refine ⟨fun _ => .unchanged _, fun _ => ?_⟩
      rw [wp_transaction]
      refine Program.wp_mono (validateInTransaction_effect configCustomObjectInstanceId
        correlationId w) ?_ (fun _ _ never => never.elim)
      rintro result w' (rfl | validated)
      · exact .unchanged _
      · exact .validated configCustomObjectInstanceId correlationId advance validated
  | createSubmission userId requirementInstanceId submittedData =>
      unfold perform
      rw [Program.wp_bind]
      refine Program.wp_mono (createIn_evidence userId requirementInstanceId submittedData w)
        (fun _ _ wrote => .evidence _ wrote.1 wrote.2) ?_
      rintro _ _ rfl
      exact .unchanged _
  | approveSubmission requirementSubmissionId =>
      unfold perform
      rw [Program.wp_bind]
      refine Program.wp_mono (approveIn_evidence requirementSubmissionId w)
        (fun _ _ wrote => .evidence _ wrote.1 wrote.2) ?_
      rintro _ _ rfl
      exact .unchanged _
  | writeSubmission requirementSubmissionId status =>
      exact .evidence _ (.of_tables w _ _ _) rfl
  | updateRequirement requirementInstanceId status =>
      unfold perform RequirementSubmissions.updateRequirement
      rw [Program.wp_bind, Program.wp_bind, Program.wp_read]
      split
      · exact .unchanged _
      · exact .evidence _ (.of_tables w _ _ _) rfl
  | updateCustomObjectInstance tenantId configCustomObjectInstanceId payload status =>
      unfold perform updateCustomObjectInstance
      rw [Program.wp_bind, Program.wp_bind, Program.wp_read]
      split
      · exact .unchanged _
      · exact .evidence _ (.of_tables w _ _ _) rfl
  | listener listener event => exact listen_effect listener event w

/-! ## Steps of the engine -/

/-- Taking a turn changes the queue and the clock only. -/
theorem turn_world (state : State) (action : Action) :
    ∃ queue now, (turn state action).world =
      { state.world with queue := queue, now := now } := by
  unfold turn
  split
  · exact ⟨_, _, rfl⟩
  · split <;> exact ⟨_, _, rfl⟩
  · split <;> exact ⟨_, _, rfl⟩
  · exact ⟨_, _, rfl⟩
  · exact ⟨_, _, rfl⟩

theorem turn_db (state : State) (action : Action) :
    (turn state action).world.db = state.world.db := by
  obtain ⟨_, _, same⟩ := turn_world state action
  rw [same]

theorem execute_world (w : World) (call : Call) (rest : List Call) (others : List (List Call)) :
    (execute deployment w call rest others).world = (perform deployment call w).2 := by
  unfold execute
  split <;> rename_i performed <;> rw [performed]

theorem step_of_call {state : State} {action : Action} {call : Call}
    (isCall : (turn state action).call = some call) :
    step deployment state action = execute deployment (turn state action).world call
      (turn state action).rest (turn state action).others := by
  unfold step
  simp only [isCall]

theorem step_of_idle {state : State} {action : Action}
    (idle : (turn state action).call = none) :
    step deployment state action =
      { world := (turn state action).world, tasks := (turn state action).others } := by
  unfold step
  simp only [idle]

variable (deployment) in
/-- A step of the engine runs one call, or none. -/
theorem step_world (state : State) (action : Action) :
    (∃ call, (turn state action).call = some call ∧
      Effect deployment (turn state action).world call (step deployment state action).world) ∨
    ((turn state action).call = none ∧
      (step deployment state action).world = (turn state action).world) := by
  cases isCall : (turn state action).call with
  | none => exact .inr ⟨rfl, by rw [step_of_idle isCall]⟩
  | some call =>
      refine .inl ⟨call, rfl, ?_⟩
      rw [step_of_call isCall, execute_world]
      exact Program.wp_end _ (perform_effect deployment call (turn state action).world)

/-- A call that a step runs meets the guard in the world it runs in. -/
def Meets (guard : World → Call → Prop) (state : State) (action : Action) : Prop :=
  ∀ call, (turn state action).call = some call → guard (turn state action).world call

instance (guard : World → Call → Prop) [∀ w call, Decidable (guard w call)] (state : State)
    (action : Action) : Decidable (Meets guard state action) :=
  inferInstanceAs (Decidable (∀ call ∈ (turn state action).call, guard _ call))

variable (inv : World → Prop) in
/-- A property of the world that every guarded call keeps, and that does not
depend on the queue and the clock, holds after every run whose calls meet the guard. -/
theorem run_world {guard : World → Call → Prop}
    (turned : ∀ (w : World) queue now, inv w → inv { w with queue := queue, now := now })
    (kept : ∀ w call w', Effect deployment w call w' → guard w call → inv w → inv w')
    {start : State} (holds : inv start.world) {actions : List Action}
    (guarded : (system deployment).Guarded (Meets guard) start actions) :
    inv ((system deployment).run start actions).world := by
  refine @StepSystem.run_guarded _ _ _ (fun state => inv state.world) _ ?_ _ holds _ guarded
  intro state action before meets
  have inTurn : inv (turn state action).world := by
    obtain ⟨queue, now, same⟩ := turn_world state action
    rw [same]
    exact turned _ _ _ before
  rcases step_world deployment state action with ⟨call, isCall, effect⟩ | ⟨_, world⟩
  · exact kept _ call _ effect (meets call isCall) inTurn
  · show inv (step deployment state action).world
    rw [world]
    exact inTurn

/-- A property of the database that every guarded call keeps holds after every
run whose calls meet the guard. -/
theorem run_database {inv : Database → Prop} {guard : World → Call → Prop}
    (kept : ∀ w call w', Effect deployment w call w' → guard w call → inv w.db → inv w'.db)
    {start : State} (holds : inv start.world.db) {actions : List Action}
    (guarded : (system deployment).Guarded (Meets guard) start actions) :
    inv ((system deployment).run start actions).world.db :=
  run_world (fun w => inv w.db) (fun _ _ _ before => before) kept holds guarded

/-- Every run meets no guard at all. -/
theorem unguarded (start : State) (actions : List Action) :
    (system deployment).Guarded (Meets fun _ _ => True) start actions :=
  StepSystem.Guarded.all (system deployment) (fun _ _ _ _ => trivial) start actions

/-- A property of the database that every call keeps holds in every reachable state. -/
theorem reachable_database {inv : Database → Prop}
    (initial : ∀ state, Fresh state → inv state.world.db)
    (kept : ∀ w call w', Effect deployment w call w' → inv w.db → inv w'.db)
    {state : State} (reachable : Reachable deployment state) : inv state.world.db := by
  obtain ⟨start, actions, fresh, rfl⟩ := reachable
  exact run_database (fun w call w' effect _ => kept w call w' effect) (initial start fresh)
    (unguarded start actions)

end Engine

end CoreApi.Automation
