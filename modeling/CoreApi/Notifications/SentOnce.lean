import CoreApi.Notifications.NotificationJob
import CoreApi.Foundation.StepSystem
import Mathlib.Data.List.Sort

/-!
# One message for each notification

`sendPendingNotifications` hands a notification to the dispatcher before it logs the
attempt and before it writes the status that takes the notification out of the
pending ones. A run that reads in between, or after one of these writes has failed,
sends the notification again.
-/

namespace CoreApi.Notifications

open CoreApi.Foundation

namespace SendPending

/-! ## A run, call by call -/

/-- A notification with its times. -/
structure ScheduledNotification extends NotificationEntity where
  createdAt : Nat
  scheduledAt : Option Nat
  sentAt : Option Nat
  deriving DecidableEq, Repr

instance : Keyed ScheduledNotification where
  key row := row.notificationId
  withKey n row := { row with notificationId := n }
  key_withKey _ _ := rfl

structure SendDb where
  notifications : Table ScheduledNotification
  notificationLogs : Table NotificationLogEntity

/-- Pending, and not scheduled for later. -/
def isDue (now : Nat) (row : ScheduledNotification) : Bool :=
  row.status == .pending && row.scheduledAt.all (· ≤ now)

/-- `getPendingNotifications`. -/
def getPendingNotifications (db : SendDb) (now limit : Nat) : List ScheduledNotification :=
  ((db.notifications.select (isDue now)).insertionSort fun first second =>
    first.createdAt ≤ second.createdAt).take (min limit 200)

/-- The call a run makes next, and the notifications it still has to send. -/
inductive SendPhase where
  | gettingPending
  | findingChannel (notification : ScheduledNotification) (rest : List ScheduledNotification)
  | sending (channelId : Nat) (notification : ScheduledNotification)
      (rest : List ScheduledNotification)
  | logging (result : NotificationSendResult) (channelId : Nat)
      (notification : ScheduledNotification) (rest : List ScheduledNotification)
  | updating (result : NotificationSendResult) (notification : ScheduledNotification)
      (rest : List ScheduledNotification)
  | ended

/-- On to the next notification. -/
def goOn : List ScheduledNotification → SendPhase
  | [] => .ended
  | notification :: rest => .findingChannel notification rest

/-- What an UPDATE of the status writes; the key stays. -/
def withStatus (status : NotificationStatus) (sentAt : Option Nat) (row : ScheduledNotification) :
    ScheduledNotification :=
  { row with
    status := status
    sentAt := sentAt }

theorem key_withStatus (status : NotificationStatus) (sentAt : Option Nat)
    (row : ScheduledNotification) :
    Keyed.key (withStatus status sentAt row) = Keyed.key row := rfl

/-- `updateStatus`. -/
def updateStatus (db : SendDb) (notificationId : Nat) (status : NotificationStatus)
    (sentAt : Option Nat) : SendDb :=
  { db with
    notifications := db.notifications.updateAt notificationId (withStatus status sentAt)
      (key_withStatus status sentAt) }

variable (channels : Table NotificationChannelEntity)

/-- The next call of `sendPendingNotifications`. It raises where there is no outcome, and the loop
catches that; the outcome is what a sender returns, and no other call looks at it. -/
def proceed (db : SendDb) (now : Nat) (outcome : Option NotificationSendResult) :
    SendPhase → SendDb × SendPhase
  | .gettingPending =>
      match outcome with
      | none => (db, .ended)
      | some _ => (db, goOn (getPendingNotifications db now 50))
  | .findingChannel notification rest =>
      match outcome.bind fun _ => channels.rows.find? fun channel =>
          channel.name == JobConfig.typeName notification.type with
      | none => (db, goOn rest)
      | some channel => (db, .sending channel.channelId notification rest)
  | .sending channelId notification rest =>
      match outcome with
      | none => (db, goOn rest)
      | some result => (db, .logging result channelId notification rest)
  | .logging result channelId notification rest =>
      match outcome with
      | none => (db, goOn rest)
      | some _ =>
          ({ db with
              notificationLogs := db.notificationLogs.insert
                (sendAttempt notification.toNotificationEntity channelId result) },
            .updating result notification rest)
  | .updating result notification rest =>
      match outcome with
      | none => (db, goOn rest)
      | some _ => (updateStatus db notification.notificationId result.status
          (if result.status = .sent then some now else none), goOn rest)
  | .ended => (db, .ended)

/-- The notification that the next call sends, where the dispatcher returns `sent`. -/
def dispatched (outcome : Option NotificationSendResult) : SendPhase → List Nat
  | .sending _ notification _ =>
      if outcome.map NotificationSendResult.status = some .sent then [notification.notificationId]
      else []
  | _ => []

/-! ## Interleaved runs -/

/-- The tables and the clock, where each run is, and the notifications for which the dispatcher
has returned `sent`, in order. -/
structure State where
  db : SendDb
  now : Nat
  runs : Nat → SendPhase
  sent : List Nat

/-- A run makes its next call, or time goes by. -/
inductive Action where
  | call (run : Nat) (outcome : Option NotificationSendResult)
  | tick (now : Nat)

/-- The state after an action. -/
def step (state : State) : Action → State
  | .call run outcome =>
      let (db, phase) := proceed channels state.db state.now outcome (state.runs run)
      { state with
        db := db
        runs := Function.update state.runs run phase
        sent := state.sent ++ dispatched outcome (state.runs run) }
  | .tick now => { state with now := now }

/-- Runs of the job, each of which is about to read. -/
def system : StepSystem State Action where
  step := step channels

/-- No run has started. -/
def beforeRuns (db : SendDb) (now : Nat) : State := ⟨db, now, fun _ => .gettingPending, []⟩

/-- The notifications that a run has read and not handed over yet. -/
def SendPhase.todo : SendPhase → List Nat
  | .findingChannel notification rest | .sending _ notification rest =>
      (notification :: rest).map fun row => row.notificationId
  | .logging _ _ _ rest | .updating _ _ rest => rest.map fun row => row.notificationId
  | .gettingPending | .ended => []

/-- A run reads no notification that was sent and is still pending, and sends none that another run
has read. -/
def SparesSent (state : State) : Action → Prop
  | .call run (some result) =>
      match state.runs run with
      | .gettingPending => ∀ row ∈ getPendingNotifications state.db state.now 50,
          row.notificationId ∉ state.sent
      | .sending _ notification _ => result.status = .sent → ∀ other, other ≠ run →
          notification.notificationId ∉ (state.runs other).todo
      | _ => True
  | _ => True

/-! ## What is sent once -/

/-- What was sent was sent once, and no run still has it before it. -/
structure Spared (state : State) : Prop where
  once : state.sent.Nodup
  ahead : ∀ run, ∀ notificationId ∈ (state.runs run).todo, notificationId ∉ state.sent
  distinct : ∀ run, (state.runs run).todo.Nodup

section

variable {channels : Table NotificationChannelEntity} {state : State} {db : SendDb} {now : Nat}
  {outcome : Option NotificationSendResult} {phase : SendPhase} {run : Nat}

@[simp] theorem todo_goOn (rest : List ScheduledNotification) :
    (goOn rest).todo = rest.map fun row => row.notificationId := by
  cases rest <;> rfl

/-- Once it has read, a run never has more before it. -/
theorem todo_proceed (hasRead : phase ≠ .gettingPending) :
    (proceed channels db now outcome phase).2.todo.Sublist phase.todo := by
  cases phase with
  | gettingPending => exact absurd rfl hasRead
  | findingChannel notification rest =>
      simp only [proceed]
      split
      · rw [todo_goOn]
        exact List.sublist_cons_self _ _
      · exact List.Sublist.refl _
  | sending channelId notification rest =>
      cases outcome with
      | none => exact todo_goOn rest ▸ List.sublist_cons_self _ _
      | some result => exact List.sublist_cons_self _ _
  | logging result channelId notification rest =>
      cases outcome with
      | none => exact todo_goOn rest ▸ List.Sublist.refl _
      | some _ => exact List.Sublist.refl _
  | updating result notification rest =>
      cases outcome with
      | none => exact todo_goOn rest ▸ List.Sublist.refl _
      | some _ => exact todo_goOn rest ▸ List.Sublist.refl _
  | ended => exact List.Sublist.refl _

/-- No notification is read twice at once. -/
theorem getPendingNotifications_nodup (limit : Nat) :
    ((getPendingNotifications db now limit).map fun row => row.notificationId).Nodup := by
  have due : ((db.notifications.select (isDue now)).map fun row => row.notificationId).Nodup :=
    db.notifications.distinct.sublist (List.filter_sublist.map _)
  have sorted := ((List.perm_insertionSort (fun first second : ScheduledNotification =>
    first.createdAt ≤ second.createdAt) (db.notifications.select (isDue now))).map
      fun row => row.notificationId).nodup_iff.mpr due
  exact sorted.sublist ((List.take_sublist _ _).map _)

namespace Spared

theorem beforeRuns : Spared (beforeRuns db now) :=
  ⟨List.nodup_nil, fun _ => nofun, fun _ => List.nodup_nil⟩

/-- A run goes on with what is new to nobody: nothing that was sent, and nothing twice. -/
theorem moves (spared : Spared state) {sent : List Nat} (once : sent.Nodup)
    (ahead : ∀ notificationId ∈ phase.todo, notificationId ∉ sent)
    (distinct : phase.todo.Nodup)
    (others : ∀ other, other ≠ run → ∀ notificationId ∈ (state.runs other).todo,
      notificationId ∉ sent) :
    Spared { state with
      db := db
      runs := Function.update state.runs run phase
      sent := sent } := by
  refine ⟨once, fun other => ?_, fun other => ?_⟩
  · by_cases same : other = run
    · subst same
      simpa only [Function.update_self] using ahead
    · simpa only [Function.update_of_ne same] using others other same
  · by_cases same : other = run
    · subst same
      simpa only [Function.update_self] using distinct
    · simpa only [Function.update_of_ne same] using spared.distinct other

/-- A call that sends nothing and leaves a run no more than it had. -/
theorem stays (spared : Spared state)
    (fewer : phase.todo.Sublist (state.runs run).todo) :
    Spared { state with
      db := db
      runs := Function.update state.runs run phase
      sent := state.sent ++ [] } := by
  rw [List.append_nil]
  exact spared.moves spared.once
    (fun notificationId member => spared.ahead run notificationId (fewer.subset member))
    ((spared.distinct run).sublist fewer) fun other _ => spared.ahead other

theorem step (spared : Spared state) {action : Action} (spares : SparesSent state action) :
    Spared (step channels state action) := by
  cases action with
  | tick time => exact ⟨spared.once, spared.ahead, spared.distinct⟩
  | call run outcome =>
      rcases isPhase : state.runs run with _ | _ | ⟨channelId, notification, rest⟩ | _ | _ | _
      case gettingPending =>
        cases outcome with
        | none =>
            simp only [SendPending.step, isPhase, proceed, dispatched]
            exact spared.stays (List.nil_sublist _)
        | some result =>
            simp only [SparesSent, isPhase] at spares
            simp only [SendPending.step, isPhase, proceed, dispatched, List.append_nil]
            refine spared.moves spared.once ?_ ?_ fun other _ => spared.ahead other
            · rw [todo_goOn]
              intro notificationId member
              obtain ⟨row, isRead, rfl⟩ := List.mem_map.mp member
              exact spares row isRead
            · rw [todo_goOn]
              exact getPendingNotifications_nodup 50
      case sending =>
        have fewer := @todo_proceed channels state.db state.now outcome
          (.sending channelId notification rest) nofun
        by_cases isSent : outcome.map NotificationSendResult.status = some .sent
        · obtain ⟨result, rfl, sends⟩ := Option.map_eq_some_iff.mp isSent
          simp only [SparesSent, isPhase] at spares
          have ahead := spared.ahead run
          have distinct := spared.distinct run
          rw [isPhase] at ahead distinct
          obtain ⟨new, others⟩ := List.nodup_cons.mp distinct
          simp only [SendPending.step, isPhase, proceed, dispatched, isSent, if_true]
          refine spared.moves ?_ ?_ others ?_
          · exact List.nodup_append.mpr ⟨spared.once, List.nodup_singleton _,
              fun earlier member last isLast same => ahead notification.notificationId
                List.mem_cons_self (List.mem_singleton.mp isLast ▸ same ▸ member)⟩
          · intro notificationId member
            rw [List.mem_append, List.mem_singleton]
            rintro (earlier | rfl)
            · exact ahead notificationId (List.mem_cons_of_mem _ member) earlier
            · exact new member
          · intro other different notificationId member
            rw [List.mem_append, List.mem_singleton]
            rintro (earlier | rfl)
            · exact spared.ahead other notificationId member earlier
            · exact spares sends other different member
        · simp only [SendPending.step, isPhase, dispatched, isSent, if_false]
          exact spared.stays (isPhase ▸ fewer)
      all_goals
        have fewer := @todo_proceed channels state.db state.now outcome (state.runs run)
          (by rw [isPhase]; nofun)
        simp only [SendPending.step, isPhase, dispatched] at fewer ⊢
        exact spared.stays (isPhase ▸ fewer)

end Spared

/-- Where every run spares what was sent and what others have read, the dispatcher returns `sent`
at most once for each notification. -/
theorem sent_at_most_once {actions : List Action}
    (spares : (system channels).Guarded SparesSent (beforeRuns db now) actions)
    (notificationId : Nat) :
    ((system channels).run (beforeRuns db now) actions).sent.count notificationId ≤ 1 := by
  have spared : Spared ((system channels).run (beforeRuns db now) actions) :=
    StepSystem.run_guarded (fun _ _ holds guard => holds.step guard) .beforeRuns spares
  exact List.nodup_iff_count_le_one.mp spared.once notificationId

/-! ## A run on its own -/

/-- A run reads once, at its start. -/
theorem proceed_ne_gettingPending :
    (proceed channels db now outcome phase).2 ≠ .gettingPending := by
  have next : ∀ rest, goOn rest ≠ .gettingPending := by
    rintro (_ | _) <;> nofun
  cases phase with
  | ended => nofun
  | findingChannel notification rest =>
      simp only [proceed]
      split
      · exact next rest
      · nofun
  | _ =>
      cases outcome with
      | none => first | exact next _ | nofun
      | some _ => first | exact next _ | nofun

/-- The action is of this run, if it is a call. -/
def Action.IsOf (run : Nat) : Action → Prop
  | .call other _ => other = run
  | .tick _ => True

/-- The other runs have not started, and this one sends nothing before it has read. -/
structure OnlyRun (run : Nat) (state : State) : Prop where
  others : ∀ other, other ≠ run → state.runs other = .gettingPending
  unread : state.runs run = .gettingPending → state.sent = []

theorem OnlyRun.step (only : OnlyRun run state) {action : Action} (isOf : action.IsOf run) :
    OnlyRun run (step channels state action) := by
  cases action with
  | tick time => exact ⟨only.others, only.unread⟩
  | call other outcome =>
      obtain rfl : other = run := isOf
      refine ⟨fun third different => ?_, fun reading => ?_⟩
      · exact (Function.update_of_ne different _ _).trans (only.others third different)
      · simp only [SendPending.step, Function.update_self] at reading
        exact absurd reading proceed_ne_gettingPending

theorem OnlyRun.spares (only : OnlyRun run state) {action : Action} (isOf : action.IsOf run) :
    SparesSent state action := by
  cases action with
  | tick time => trivial
  | call other outcome =>
      obtain rfl : other = run := isOf
      cases outcome with
      | none => trivial
      | some result =>
          rcases isPhase : state.runs other with _ | _ | _ | _ | _ | _
          case gettingPending =>
            simp only [SparesSent, isPhase, only.unread isPhase]
            exact fun _ _ => List.not_mem_nil
          case sending =>
            simp only [SparesSent, isPhase]
            intro _ third different
            rw [only.others third different]
            exact List.not_mem_nil
          all_goals simp only [SparesSent, isPhase]

/-- A run on its own, whatever fails, spares what was sent. -/
theorem spares_of_one_run {actions : List Action} (run : Nat)
    (alone : ∀ action ∈ actions, action.IsOf run) :
    (system channels).Guarded SparesSent (beforeRuns db now) actions := by
  have started : OnlyRun run (beforeRuns db now) := ⟨fun _ _ => rfl, fun _ => rfl⟩
  have isOf := (StepSystem.Guarded.all (system channels) (fun _ _ => trivial)
    (beforeRuns db now) actions).and_actions alone
  exact isOf.strengthen (fun _ _ only guard => only.step guard.2)
    (fun _ _ only guard => only.spares guard.2) started

end

/-- The channel for mail. -/
def mail : Table NotificationChannelEntity := .ofRows [{ channelId := 0, name := "email" }]

/-- One pending notification. -/
def onePending : SendDb where
  notifications := .ofRows
    [{ notificationId := 0, userId := 5, eventId := none, type := .email, subject := none,
       message := "Ready.", status := .pending, preparedFor := none, createdAt := 1,
       scheduledAt := none, sentAt := none }]
  notificationLogs := .empty _

/-- A run that reads the notification, sends it and logs that. -/
def sends (run : Nat) : List Action := List.replicate 4 (.call run (some ⟨.sent, none⟩))

/-- The update of the status fails at the end of the only run. -/
theorem sent_at_most_once_onePending :
    ((system mail).run (beforeRuns onePending 3) (sends 0 ++ [.call 0 none])).sent.count 1 ≤ 1 :=
  sent_at_most_once (spares_of_one_run 0 (by
    intro action member
    rcases List.mem_append.mp member with sending | failing
    · rw [List.eq_of_mem_replicate sending]
      rfl
    · rw [List.mem_singleton.mp failing]
      rfl)) 1

/-- After the failed update the next run finds the notification pending, and sends it again. -/
theorem sent_twice_after_failure :
    ¬ ((system mail).run (beforeRuns onePending 3)
      (sends 0 ++ .call 0 none :: sends 1)).sent.count 1 ≤ 1 := by
  decide

end SendPending

end CoreApi.Notifications
