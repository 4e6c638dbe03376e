import CoreApi.Automation.CallEffects
import CoreApi.Automation.InstalledTemplates
import CoreApi.Automation.UnlockingSteps

/-!
# Provisioned objects

Every advance of a ready step provisions its bindings again. Provisioning works on
pending rows and leaves none of them pending, whatever the server answers, so each row
is worked on once: one instance is created for it at most, and it is the one the row
carries from then on.
-/

namespace CoreApi.Automation

open CoreApi.Foundation

namespace ConfigObjectStepExecutor

variable {deployment : Deployment}

/-! ## What the server answers -/

/-- The message the server refuses a statement of provisioning with, by object row. -/
structure Server where
  insertInstance : Nat → Option String
  activate : Nat → Option String
  markFailed : Nat → Option String

/-- No statement is refused. -/
def Server.willing : Server := ⟨fun _ => none, fun _ => none, fun _ => none⟩

/-- A statement with what the server answers to it. -/
def answered {α : Type} (refusal : Option String) (statement : Tx α) : Tx α :=
  match refusal with
  | none => statement
  | some message => Program.raise message

theorem activeObject_key (instanceId : Nat) (time : String) (row : StepObjectInstance) :
    (activeObject instanceId time row).stepObjectInstanceId = row.stepObjectInstanceId := rfl

/-- `activateObject` against a server. -/
def activateObjectOn (server : Server) (proc : ProcessInstance) (stepInstanceId : Nat)
    (row : StepObjectInstance) (correlationId : Option String) : Tx Unit := do
  let instanceId ← answered (server.insertInstance row.stepObjectInstanceId)
    (createStandaloneInstance proc.tenantId row.configObjectId proc.createdBy)
  let time ← now
  answered (server.activate row.stepObjectInstanceId)
    (writeDb fun db => db.setObjectInstance row.stepObjectInstanceId (activeObject instanceId time)
      (activeObject_key instanceId time))
  emit (objectCreatedEvent proc stepInstanceId row instanceId correlationId)

/-- `provisionRow` against a server. -/
def provisionRowOn (server : Server) (proc : ProcessInstance) (stepInstanceId : Nat)
    (correlationId : Option String) (entry : StepObjectBindingRow) : Tx Unit :=
  let fail := fun message => answered (server.markFailed entry.row.stepObjectInstanceId)
    (failObject entry.row.stepObjectInstanceId message)
  if entry.configObject.bindingMode ≠ .standalone then
    fail "Only standalone config objects are supported in Phase 5"
  else
    Program.attempt (activateObjectOn server proc stepInstanceId entry.row correlationId)
      fun message => fail (String.ofList (message.toList.take 2000))

theorem provisionRowOn_willing (proc : ProcessInstance) (stepInstanceId : Nat)
    (correlationId : Option String) (entry : StepObjectBindingRow) :
    provisionRowOn .willing proc stepInstanceId correlationId entry =
      provisionRow proc stepInstanceId correlationId entry := rfl

/-! ## A log of provisioning -/

/-- What provisioning did with an object row. -/
structure Provisioning where
  stepObjectInstanceId : Nat
  /-- The instances that were created. -/
  created : List Nat
  failed : Bool
deriving DecidableEq

/-- The instances of a later database that an earlier one has not. -/
def createdSince (before after : Database) : List Nat :=
  (after.customInstances.rows.map CustomObjectInstance.configCustomObjectInstanceId).filter
    fun id => (before.customInstances.find? id).isNone

/-- The entry of an object row. -/
def provisioning (before after : Database) (stepObjectInstanceId : Nat) : Provisioning where
  stepObjectInstanceId := stepObjectInstanceId
  created := createdSince before after
  failed := (after.objectInstances.find? stepObjectInstanceId).any fun row => row.status == .failed

/-- The provisioning loop, with its log. -/
def provisionRowsOn (server : Server) (proc : ProcessInstance) (stepInstanceId : Nat)
    (correlationId : Option String) : List StepObjectBindingRow → Tx (List Provisioning)
  | [] => pure []
  | entry :: rest => do
      let before ← Program.read World.db
      provisionRowOn server proc stepInstanceId correlationId entry
      let after ← Program.read World.db
      let others ← provisionRowsOn server proc stepInstanceId correlationId rest
      pure (provisioning before after entry.row.stepObjectInstanceId :: others)

/-- `provisionBindingsOnStepReady` against a server, with its log. -/
def provisionBindingsOn (deployment : Deployment) (server : Server) (stepInstanceId : Nat)
    (correlationId : Option String) : Tx (List Provisioning) :=
  if deployment.flags.configObjectStepsEnabled = false then pure []
  else do
    let proc ← Program.read fun w => loadProcessContext w.db stepInstanceId
    match proc with
    | none => pure []
    | some proc => do
        let pending ← Program.read fun w =>
          (loadBindingRows w.db stepInstanceId).filter isPendingCreateOnEnter
        provisionRowsOn server proc stepInstanceId correlationId pending

theorem provisionRowsOn_willing (proc : ProcessInstance) (stepInstanceId : Nat)
    (correlationId : Option String) (entries : List StepObjectBindingRow) (w : World) :
    (provisionRowsOn .willing proc stepInstanceId correlationId entries w).2 =
      (Program.forEach (provisionRow proc stepInstanceId correlationId) entries w).2 := by
  induction entries generalizing w with
  | nil => rfl
  | cons entry rest inductionHypothesis =>
      rw [provisionRowsOn, Program.forEach, provisionRowOn_willing]
      show (Program.andThen (provisionRow proc stepInstanceId correlationId entry) _ w).2 = _
      unfold Program.andThen
      rcases provisionRow proc stepInstanceId correlationId entry w with ⟨_ | _, t⟩
      · rfl
      · dsimp only
        rw [← inductionHypothesis t]
        show (Program.andThen (Program.read World.db) (fun _ => Program.andThen
          (provisionRowsOn .willing proc stepInstanceId correlationId rest) _) t).2 = _
        unfold Program.andThen Program.read
        dsimp only
        rcases provisionRowsOn .willing proc stepInstanceId correlationId rest t with ⟨_ | _, _⟩ <;>
          rfl

/-- Where nothing is refused, the log is all that is added to
`provisionBindingsOnStepReady`. -/
theorem provisionBindingsOn_willing (stepInstanceId : Nat) (correlationId : Option String)
    (w : World) :
    (provisionBindingsOn deployment .willing stepInstanceId correlationId w).2 =
      (provisionBindingsOnStepReady deployment stepInstanceId correlationId w).2 := by
  unfold provisionBindingsOn provisionBindingsOnStepReady
  split
  · rfl
  · show (Program.andThen (Program.read _) _ w).2 = (Program.andThen (Program.read _) _ w).2
    unfold Program.andThen Program.read
    dsimp only
    cases loadProcessContext w.db stepInstanceId with
    | none => rfl
    | some proc => exact provisionRowsOn_willing proc stepInstanceId correlationId _ w

/-! ## One row -/

theorem createdSince_self (db : Database) {after : Database}
    (same : after.customInstances = db.customInstances) : createdSince db after = [] := by
  unfold createdSince
  rw [same, List.filter_eq_nil_iff]
  intro id member
  obtain ⟨row, rowMember, rfl⟩ := List.mem_map.mp member
  have found := Table.find?_of_mem rowMember
  simp only [Option.isNone_iff_eq_none]
  intro absent
  exact absurd (found.symm.trans absent) (Option.some_ne_none row)

theorem createdSince_insert (db : Database) {after : Database} {row : CustomObjectInstance}
    (inserted : after.customInstances = db.customInstances.insert row) :
    createdSince db after = [db.customInstances.autoIncrement] := by
  have old := @createdSince_self db db rfl
  unfold createdSince at old ⊢
  rw [inserted, Table.rows_insert, List.map_append, List.filter_append, old]
  have absent : db.customInstances.find? db.customInstances.autoIncrement = none :=
    Table.find?_autoIncrement
  simp only [List.map_cons, List.map_nil, List.nil_append]
  exact List.filter_cons_of_pos (by
    show (db.customInstances.find? db.customInstances.autoIncrement).isNone = true
    rw [absent]
    rfl)

/-- What provisioning did with a row: it carries the one instance that was created, or it
failed and carries what it did before. -/
def Worked (stepObjectInstanceId : Nat) (before after : Database) : Prop :=
  ∃ set keeps,
    after.objectInstances = before.objectInstances.updateAt stepObjectInstanceId set keeps ∧
    ((∃ instanceId time, set = activeObject instanceId time ∧
        createdSince before after = [instanceId]) ∨
      ∃ message time, set = failedObject message time ∧ (createdSince before after).length ≤ 1)

/-- The instance that is created is the only new one; nothing is written otherwise. -/
theorem createStandaloneInstance_creates (tenantId configObjectId createdBy : Nat) (w : World) :
    Program.wp (createStandaloneInstance tenantId configObjectId createdBy)
      (fun instanceId w' => w'.db.objectInstances = w.db.objectInstances ∧
        createdSince w.db w'.db = [instanceId])
      (fun _ w' => w' = w) w := by
  unfold createStandaloneInstance
  rw [Program.wp_bind, Program.wp_read]
  split
  · rfl
  · split
    · rfl
    · exact ⟨rfl, createdSince_insert w.db rfl⟩

/-- A row is worked on, unless the server refuses to mark it failed. -/
theorem provisionRowOn_worked (server : Server) (proc : ProcessInstance) (stepInstanceId : Nat)
    (correlationId : Option String) (entry : StepObjectBindingRow) (w : World) :
    Program.wp (provisionRowOn server proc stepInstanceId correlationId entry)
      (fun _ w' => Worked entry.row.stepObjectInstanceId w.db w'.db) (fun _ _ => True) w := by
  have fails : ∀ message t, t.db.objectInstances = w.db.objectInstances →
      (createdSince w.db t.db).length ≤ 1 →
      Program.wp (answered (server.markFailed entry.row.stepObjectInstanceId)
        (failObject entry.row.stepObjectInstanceId message))
        (fun _ w' => Worked entry.row.stepObjectInstanceId w.db w'.db) (fun _ _ => True) t := by
    intro message t same created
    unfold answered
    cases server.markFailed entry.row.stepObjectInstanceId with
    | some _ => trivial
    | none =>
        refine ⟨failedObject message t.now, fun _ => rfl, ?_, .inr ⟨message, t.now, rfl, created⟩⟩
        rw [← same]
        rfl
  have none' : (createdSince w.db w.db).length ≤ 1 := by
    rw [createdSince_self w.db rfl]
    exact Nat.zero_le 1
  unfold provisionRowOn
  dsimp only
  split
  · exact fails _ w rfl none'
  · rw [Program.wp_attempt]
    unfold activateObjectOn
    rw [Program.wp_bind]
    unfold answered
    cases server.insertInstance entry.row.stepObjectInstanceId with
    | some _ => exact fails _ w rfl none'
    | none =>
        refine Program.wp_mono (createStandaloneInstance_creates _ _ _ w) ?_ ?_
        · rintro instanceId t ⟨same, created⟩
          rw [Program.wp_bind, wp_now, Program.wp_bind]
          cases server.activate entry.row.stepObjectInstanceId with
          | some _ => exact fails _ t same (by rw [created]; exact le_rfl)
          | none =>
              refine ⟨activeObject instanceId t.now, fun _ => rfl, ?_,
                .inl ⟨instanceId, t.now, rfl, created⟩⟩
              rw [← same]
              rfl
        · rintro _ t same
          exact fails _ t (by rw [same]) (by rw [same]; exact none')

/-! ## What the log says of the rows -/

/-- Provisioning is idempotent: a row is worked on once, with one instance at most. An
active or valid row carries the instance that was created for it, in the log or before it
began, and a row that could not be provisioned carries none. -/
structure Idempotent (start : Database) (log : List Provisioning) (db : Database) : Prop where
  once : (log.map Provisioning.stepObjectInstanceId).Nodup
  atMostOne : ∀ entry ∈ log, entry.created.length ≤ 1
  carries : ∀ row ∈ db.objectInstances.rows, row.status = .active ∨ row.status = .valid →
    ∃ instanceId, row.configCustomObjectInstanceId = some instanceId
  isCreated : ∀ row ∈ db.objectInstances.rows, ∀ instanceId,
    row.configCustomObjectInstanceId = some instanceId →
      (∃ entry ∈ log, entry.stepObjectInstanceId = row.stepObjectInstanceId ∧
        entry.created = [instanceId]) ∨
      ∃ old ∈ start.objectInstances.rows, old.stepObjectInstanceId = row.stepObjectInstanceId ∧
        old.configCustomObjectInstanceId = some instanceId
  failed : ∀ entry ∈ log, entry.failed = true → ∀ row ∈ db.objectInstances.rows,
    row.stepObjectInstanceId = entry.stepObjectInstanceId → row.configCustomObjectInstanceId = none

/-- The rows as they are stored and left: a pending row carries no instance, an active or
valid one does. -/
structure Consistent (db : Database) : Prop where
  pending : ∀ row ∈ db.objectInstances.rows, row.status = .pending →
    row.configCustomObjectInstanceId = none
  carries : ∀ row ∈ db.objectInstances.rows, row.status = .active ∨ row.status = .valid →
    ∃ instanceId, row.configCustomObjectInstanceId = some instanceId

/-- Rows that were just stored are consistent. -/
theorem Consistent.of_fresh {db : Database} (fresh : ∀ row ∈ db.objectInstances.rows,
    row.status = .pending ∧ row.configCustomObjectInstanceId = none) : Consistent db where
  pending := fun row member _ => (fresh row member).2
  carries := fun row member settled => by
    rw [(fresh row member).1] at settled
    rcases settled with active | valid
    · cases active
    · cases valid

/-- What every call keeps: also, no row of the log is pending again. -/
structure Kept (start : Database) (log : List Provisioning) (db : Database) : Prop
    extends Idempotent start log db where
  pending : ∀ row ∈ db.objectInstances.rows, row.status = .pending →
    row.configCustomObjectInstanceId = none
  workedOn : ∀ entry ∈ log, ∀ row ∈ db.objectInstances.rows,
    row.stepObjectInstanceId = entry.stepObjectInstanceId → row.status ≠ .pending

/-- The row that is left of one without an instance. -/
structure Left (db after : Database) (id : Nat) (left : StepObjectInstance) : Prop where
  isKey : left.stepObjectInstanceId = id
  others : ∀ other ∈ after.objectInstances.rows, other = left ∨
    (other ∈ db.objectInstances.rows ∧ other.stepObjectInstanceId ≠ id)
  notPending : left.status ≠ .pending
  carries : left.status = .active ∨ left.status = .valid →
    ∃ instanceId, left.configCustomObjectInstanceId = some instanceId
  created : ∀ instanceId, left.configCustomObjectInstanceId = some instanceId →
    (provisioning db after id).created = [instanceId]
  failed : (provisioning db after id).failed = true → left.configCustomObjectInstanceId = none
  atMostOne : (provisioning db after id).created.length ≤ 1

theorem Worked.left {db after : Database} {row : StepObjectInstance}
    (member : row ∈ db.objectInstances.rows) (none' : row.configCustomObjectInstanceId = none)
    (worked : Worked row.stepObjectInstanceId db after) :
    ∃ left, Left db after row.stepObjectInstanceId left := by
  obtain ⟨set, keeps, rows, outcome⟩ := worked
  have found : db.objectInstances.find? row.stepObjectInstanceId = some row :=
    Table.find?_of_mem member
  have isFound : after.objectInstances.find? row.stepObjectInstanceId = some (set row) := by
    rw [rows, Table.find?_updateAt_self, found]
    rfl
  have isLogged : (provisioning db after row.stepObjectInstanceId).failed =
      ((set row).status == .failed) := by
    unfold provisioning
    rw [isFound]
    rfl
  have others : ∀ other ∈ after.objectInstances.rows, other = set row ∨
      (other ∈ db.objectInstances.rows ∧
        other.stepObjectInstanceId ≠ row.stepObjectInstanceId) := by
    intro other otherMember
    rw [rows] at otherMember
    rcases Table.mem_updateAt.mp otherMember with ⟨old, oldMember, sameKey, rfl⟩ | untouched
    · rw [Table.eq_of_key_eq oldMember member sameKey]
      exact .inl rfl
    · exact .inr untouched
  rcases outcome with ⟨instanceId, time, rfl, isOne⟩ | ⟨message, time, rfl, few⟩
  · refine ⟨_, keeps row, others, nofun, fun _ => ⟨instanceId, rfl⟩, ?_, fun isFailed => ?_, ?_⟩
    · rintro _ ⟨⟩
      exact isOne
    · rw [isLogged] at isFailed
      cases isFailed
    · show (createdSince db after).length ≤ 1
      rw [isOne]
      exact le_rfl
  · refine ⟨_, keeps row, others, nofun, fun either => ?_, fun instanceId carried => ?_,
      fun _ => none', few⟩
    · rcases either with active | valid
      · cases active
      · cases valid
    · cases none'.symm.trans carried

namespace Kept

variable {start db after : Database} {log : List Provisioning}

theorem initial (consistent : Consistent start) : Kept start [] start where
  once := List.nodup_nil
  atMostOne := fun _ member => absurd member List.not_mem_nil
  carries := consistent.carries
  isCreated := fun row member _ carried => .inr ⟨row, member, rfl, carried⟩
  failed := fun _ member => absurd member List.not_mem_nil
  pending := consistent.pending
  workedOn := fun _ member => absurd member List.not_mem_nil

/-- Only the object rows matter. -/
theorem congr (kept : Kept start log db)
    (same : after.objectInstances.rows = db.objectInstances.rows) : Kept start log after where
  once := kept.once
  atMostOne := kept.atMostOne
  carries := by rw [same]; exact kept.carries
  isCreated := by rw [same]; exact kept.isCreated
  failed := by rw [same]; exact kept.failed
  pending := by rw [same]; exact kept.pending
  workedOn := by rw [same]; exact kept.workedOn

theorem worked (kept : Kept start log db) {row : StepObjectInstance}
    (member : row ∈ db.objectInstances.rows) (isPending : row.status = .pending)
    (worked : Worked row.stepObjectInstanceId db after) :
    Kept start (log ++ [provisioning db after row.stepObjectInstanceId]) after := by
  obtain ⟨left, isLeft⟩ := worked.left member (kept.pending row member isPending)
  have fresh : ∀ entry ∈ log, entry.stepObjectInstanceId ≠ row.stepObjectInstanceId :=
    fun entry entryMember same => kept.workedOn entry entryMember row member same.symm isPending
  constructor
  · constructor
    · rw [List.map_append, List.map_singleton, List.nodup_append]
      refine ⟨kept.once, List.nodup_singleton _, fun id idMember other otherMember => ?_⟩
      obtain ⟨entry, entryMember, rfl⟩ := List.mem_map.mp idMember
      rw [List.mem_singleton.mp otherMember]
      exact fresh entry entryMember
    · exact List.forall_mem_append.mpr
        ⟨kept.atMostOne, List.forall_mem_singleton.mpr isLeft.atMostOne⟩
    · intro other otherMember
      rcases isLeft.others other otherMember with rfl | ⟨untouched, _⟩
      · exact isLeft.carries
      · exact kept.carries other untouched
    · intro other otherMember instanceId carried
      rcases isLeft.others other otherMember with rfl | ⟨untouched, _⟩
      · exact .inl ⟨_, List.mem_append_right _ (List.mem_singleton_self _), isLeft.isKey.symm,
          isLeft.created instanceId carried⟩
      · exact (kept.isCreated other untouched instanceId carried).imp_left
          fun ⟨entry, entryMember, isEntry⟩ => ⟨entry, List.mem_append_left _ entryMember, isEntry⟩
    · refine List.forall_mem_append.mpr ⟨fun entry entryMember isFailed other otherMember sameKey => ?_,
        List.forall_mem_singleton.mpr fun isFailed other otherMember sameKey => ?_⟩
      · rcases isLeft.others other otherMember with rfl | ⟨untouched, _⟩
        · exact absurd (sameKey.symm.trans isLeft.isKey) (fresh entry entryMember)
        · exact kept.failed entry entryMember isFailed other untouched sameKey
      · rcases isLeft.others other otherMember with rfl | ⟨_, different⟩
        · exact isLeft.failed isFailed
        · exact absurd sameKey different
  · intro other otherMember isPending'
    rcases isLeft.others other otherMember with rfl | ⟨untouched, _⟩
    · exact absurd isPending' isLeft.notPending
    · exact kept.pending other untouched isPending'
  · refine List.forall_mem_append.mpr ⟨fun entry entryMember other otherMember sameKey => ?_,
      List.forall_mem_singleton.mpr fun other otherMember sameKey => ?_⟩
    · rcases isLeft.others other otherMember with rfl | ⟨untouched, _⟩
      · exact isLeft.notPending
      · exact kept.workedOn entry entryMember other untouched sameKey
    · rcases isLeft.others other otherMember with rfl | ⟨_, different⟩
      · exact isLeft.notPending
      · exact absurd sameKey different

theorem validated (kept : Kept start log db) {row : StepObjectInstance}
    (member : row ∈ db.objectInstances.rows) {instanceId : Nat}
    (carried : row.configCustomObjectInstanceId = some instanceId) {error : Option String}
    {payload : Record} {time : String}
    (rows : after.objectInstances = db.objectInstances.updateAt row.stepObjectInstanceId
      (recordVerdict error payload time) (recordVerdict_key error payload time)) :
    Kept start log after := by
  have verdict : (recordVerdict error payload time row).stepObjectInstanceId =
        row.stepObjectInstanceId ∧
      (recordVerdict error payload time row).configCustomObjectInstanceId = some instanceId ∧
      (recordVerdict error payload time row).status ≠ .pending := by
    cases error with
    | none => exact ⟨rfl, carried, nofun⟩
    | some message => exact ⟨rfl, carried, nofun⟩
  obtain ⟨isKey, isCarried, notPending⟩ := verdict
  have others : ∀ other ∈ after.objectInstances.rows,
      other = recordVerdict error payload time row ∨ other ∈ db.objectInstances.rows := by
    intro other otherMember
    rw [rows] at otherMember
    rcases Table.mem_updateAt.mp otherMember with ⟨old, oldMember, sameKey, rfl⟩ | ⟨untouched, _⟩
    · rw [Table.eq_of_key_eq oldMember member sameKey]
      exact .inl rfl
    · exact .inr untouched
  constructor
  · refine ⟨kept.once, kept.atMostOne, ?_, ?_, ?_⟩
    · intro other otherMember settled
      rcases others other otherMember with rfl | untouched
      · exact ⟨instanceId, isCarried⟩
      · exact kept.carries other untouched settled
    · intro other otherMember id otherCarried
      rcases others other otherMember with rfl | untouched
      · rw [isKey]
        exact kept.isCreated row member id (carried.trans (isCarried.symm.trans otherCarried))
      · exact kept.isCreated other untouched id otherCarried
    · intro entry entryMember isFailed other otherMember sameKey
      rcases others other otherMember with rfl | untouched
      · have absent := kept.failed entry entryMember isFailed row member (isKey.symm.trans sameKey)
        cases carried.symm.trans absent
      · exact kept.failed entry entryMember isFailed other untouched sameKey
  · intro other otherMember isPending
    rcases others other otherMember with rfl | untouched
    · exact absurd isPending notPending
    · exact kept.pending other untouched isPending
  · intro entry entryMember other otherMember sameKey
    rcases others other otherMember with rfl | untouched
    · exact notPending
    · exact kept.workedOn entry entryMember other untouched sameKey

end Kept

/-! ## Calls -/

/-- The loop works on pending rows, each of them once. -/
theorem provisionRowsOn_kept {start : Database} (server : Server) (proc : ProcessInstance)
    (stepInstanceId : Nat) (correlationId : Option String) (entries : List StepObjectBindingRow) :
    ∀ {log : List Provisioning} {w : World}, Kept start log w.db →
      (∀ entry ∈ entries, entry.row ∈ w.db.objectInstances.rows ∧ entry.row.status = .pending) →
      (entries.Pairwise fun a b => a.row.stepObjectInstanceId ≠ b.row.stepObjectInstanceId) →
      Program.wp (provisionRowsOn server proc stepInstanceId correlationId entries)
        (fun more w' => Kept start (log ++ more) w'.db) (fun _ _ => True) w := by
  induction entries with
  | nil =>
      intro log w kept _ _
      rw [provisionRowsOn, Program.wp_pure, List.append_nil]
      exact kept
  | cons entry rest ih =>
      intro log w kept pending distinct
      obtain ⟨member, isPending⟩ := pending entry List.mem_cons_self
      obtain ⟨different, restDistinct⟩ := List.pairwise_cons.mp distinct
      rw [provisionRowsOn, Program.wp_bind, Program.wp_read, Program.wp_bind]
      refine Program.wp_mono (provisionRowOn_worked server proc stepInstanceId correlationId entry w)
        ?_ (fun _ _ _ => trivial)
      intro _ t worked
      rw [Program.wp_bind, Program.wp_read, Program.wp_bind]
      have still : ∀ other ∈ rest, other.row ∈ t.db.objectInstances.rows ∧
          other.row.status = .pending := by
        intro other otherMember
        obtain ⟨stored, otherPending⟩ := pending other (List.mem_cons_of_mem _ otherMember)
        obtain ⟨set, keeps, rows, _⟩ := worked
        refine ⟨?_, otherPending⟩
        rw [rows]
        exact Table.mem_updateAt.mpr (.inr ⟨stored, (different other otherMember).symm⟩)
      refine Program.wp_mono
        (ih (kept.worked member isPending worked) still restDistinct) ?_
        (fun _ _ _ => trivial)
      intro more u keptAfter
      rw [Program.wp_pure]
      rwa [List.append_assoc] at keptAfter

theorem provisionBindingsOn_kept {start : Database} {log : List Provisioning} {w : World}
    (kept : Kept start log w.db) (server : Server) (stepInstanceId : Nat)
    (correlationId : Option String) :
    Program.wp (provisionBindingsOn deployment server stepInstanceId correlationId)
      (fun more w' => Kept start (log ++ more) w'.db) (fun _ _ => True) w := by
  have nothing : Kept start (log ++ []) w.db := by rwa [List.append_nil]
  unfold provisionBindingsOn
  rw [Program.wp_ite]
  refine ⟨fun _ => nothing, fun _ => ?_⟩
  rw [Program.wp_bind, Program.wp_read]
  split
  · exact nothing
  · rw [Program.wp_bind, Program.wp_read]
    refine provisionRowsOn_kept server _ stepInstanceId correlationId _ kept ?_
      ((loadBindingRows_distinct w.db stepInstanceId).filter _)
    intro entry entryMember
    obtain ⟨loaded, pending⟩ := List.mem_filter.mp entryMember
    simp only [isPendingCreateOnEnter, Bool.and_eq_true, beq_iff_eq] at pending
    exact ⟨(mem_loadBindingRows loaded).1, pending.1⟩

theorem findLink_row {db : Database} {configCustomObjectInstanceId : Nat} {link : ValidationLink}
    (found : findLink db configCustomObjectInstanceId = some link) :
    link.row ∈ db.objectInstances.rows ∧
      link.row.configCustomObjectInstanceId = some configCustomObjectInstanceId := by
  obtain ⟨row, selected, isLink⟩ := List.exists_of_findSome?_eq_some found
  obtain ⟨member, carried⟩ := Table.mem_select.mp selected
  have isRow : link.row = row := by
    simp only [linkOf, Option.bind_eq_some_iff, Option.map_eq_some_iff] at isLink
    obtain ⟨_, _, _, _, _, _, rfl⟩ := isLink
    rfl
  rw [isRow]
  exact ⟨member, by simpa using carried⟩

theorem validateByCustomInstanceId_kept {start : Database} {log : List Provisioning} {w : World}
    (kept : Kept start log w.db) (configCustomObjectInstanceId : Nat)
    (correlationId : Option String) :
    Kept start log
      (validateByCustomInstanceId deployment configCustomObjectInstanceId correlationId w).2.db := by
  refine Program.wp_end (fun (after : World) => Kept start log after.db) ?_
  unfold validateByCustomInstanceId
  rw [Program.wp_ite]
  refine ⟨fun _ => kept, fun _ => ?_⟩
  rw [wp_transaction]
  refine Program.wp_mono
    (validateInTransaction_effect configCustomObjectInstanceId correlationId w) ?_
    (fun _ _ never => never.elim)
  rintro _ w' (rfl | ⟨link, error, payload, events, isLink, _, _, rfl⟩)
  · exact kept
  · obtain ⟨member, carried⟩ := findLink_row isLink
    exact kept.validated member carried rfl

/-! ## Runs -/

/-- A call, or a change of an instance between two calls. -/
inductive ProvisioningCall where
  | provision (server : Server) (stepInstanceId : Nat) (correlationId : Option String)
  | validate (configCustomObjectInstanceId : Nat) (correlationId : Option String)
  | edit (configCustomObjectInstanceId : Nat) (payload : Option Record)
      (status : CustomInstanceStatus)

/-- The world, and what provisioning did in it. -/
structure Provisioned where
  world : World
  log : List Provisioning

/-- The payload and the status of an instance are written. -/
def World.edited (w : World) (configCustomObjectInstanceId : Nat) (payload : Option Record)
    (status : CustomInstanceStatus) : World :=
  { w with
    db := { w.db with
      customInstances := w.db.customInstances.updateAt configCustomObjectInstanceId
        (fun row => { row with payload := payload, status := status }) (fun _ => rfl) } }

/-- A call: provisioning that raises is rolled back with the transaction it is in. -/
def callStep (deployment : Deployment) (state : Provisioned) : ProvisioningCall → Provisioned
  | .provision server stepInstanceId correlationId =>
      match transaction (provisionBindingsOn deployment server stepInstanceId correlationId)
        state.world with
      | (.ok more, after) => ⟨after, state.log ++ more⟩
      | (.error _, after) => ⟨after, state.log⟩
  | .validate configCustomObjectInstanceId correlationId =>
      { state with
        world := (validateByCustomInstanceId deployment configCustomObjectInstanceId correlationId
          state.world).2 }
  | .edit configCustomObjectInstanceId payload status =>
      { state with world := World.edited state.world configCustomObjectInstanceId payload status }

/-- Sequences of calls. -/
def calls (deployment : Deployment) : StepSystem Provisioned ProvisioningCall :=
  ⟨callStep deployment⟩

theorem callStep_kept {start : Database} {state : Provisioned}
    (kept : Kept start state.log state.world.db) (call : ProvisioningCall) :
    Kept start (callStep deployment state call).log (callStep deployment state call).world.db := by
  cases call with
  | provision server stepInstanceId correlationId =>
      have meets := @provisionBindingsOn_kept deployment start state.log state.world kept server
        stepInstanceId correlationId
      have committed : Program.wp
          (transaction (provisionBindingsOn deployment server stepInstanceId correlationId))
          (fun more w' => Kept start (state.log ++ more) w'.db)
          (fun _ w' => Kept start state.log w'.db) state.world := by
        rw [wp_transaction]
        exact Program.wp_mono meets (fun _ _ done => done) fun _ after _ => kept.congr rfl
      unfold callStep
      dsimp only
      split
      · next more after run => exact Program.wp_ok committed run
      · next e after run => exact Program.wp_error committed run
  | validate configCustomObjectInstanceId correlationId =>
      exact validateByCustomInstanceId_kept kept configCustomObjectInstanceId correlationId
  | edit configCustomObjectInstanceId payload status => exact kept.congr rfl

/-- Over any calls, at most one instance is created for a row, an active or valid row
carries it, and a row that could not be provisioned carries none. -/
theorem run_idempotent {start : World} (consistent : Consistent start.db)
    (sequence : List ProvisioningCall) :
    Idempotent start.db ((calls deployment).run ⟨start, []⟩ sequence).log
      ((calls deployment).run ⟨start, []⟩ sequence).world.db := by
  have kept := @StepSystem.run_invariant _ _ (calls deployment)
    (fun state => Kept start.db state.log state.world.db)
    (fun state call kept => callStep_kept kept call) ⟨start, []⟩ (Kept.initial consistent) sequence
  exact kept.toIdempotent

/-- A step with two objects, of which the second cannot be provisioned. -/
def twoObjects : Templates where
  steps := [.row 1 .manual 1 none]
  requirements := []
  triggers := []
  bindings := [.row 1 1, .row 1 2]
  configObjects := [.row, { ConfigObject.row with bindingMode := .sorBound }]

/-- The process has been started, and its step is ready. -/
def twoObjectsStarted : World :=
  ((Engine.system .allEnabled).run (Engine.installed twoObjects)
    [.invoke (.startProcess (.workflow 1 1 .ignore))]).world

/-- The step advances, its object is filled in and validated, and the step advances again. -/
def advancedTwice : List ProvisioningCall :=
  [.provision .willing 1 none, .edit 1 (some [("field", .num 1)]) .draft, .validate 1 none,
    .provision .willing 1 none]

theorem run_idempotent_advancedTwice :
    Idempotent twoObjectsStarted.db
        ((calls .allEnabled).run ⟨twoObjectsStarted, []⟩ advancedTwice).log
        ((calls .allEnabled).run ⟨twoObjectsStarted, []⟩ advancedTwice).world.db ∧
      ((calls .allEnabled).run ⟨twoObjectsStarted, []⟩ advancedTwice).log =
        [⟨1, [1], false⟩, ⟨2, [], true⟩] :=
  ⟨run_idempotent (.of_fresh (by decide)) advancedTwice, by decide⟩

end ConfigObjectStepExecutor

end CoreApi.Automation
