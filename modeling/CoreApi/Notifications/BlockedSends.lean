import CoreApi.Foundation.StableSorting
import CoreApi.Foundation.WindowedQueue
import CoreApi.Notifications.SentOnce
import Mathlib.Logic.Function.Iterate

/-!
# Notifications that cannot be sent

A run takes the oldest 50 of the notifications that are due. A notification whose processing
raises stays pending, and as one of the oldest it is taken again in every run after, in the place
of another.
-/

namespace CoreApi.Notifications

open CoreApi.Foundation

namespace SendPending

/-! ## Runs in turn -/

/-- How the calls of a run go: what the clock shows, and what a call returns where it does not
raise. -/
structure Course where
  now : SendPhase → Nat
  outcome : SendPhase → Option NotificationSendResult

section

variable (channels : Table NotificationChannelEntity)

/-- The next call of a run. -/
def nextCall (course : Course) (state : SendDb × SendPhase) : SendDb × SendPhase :=
  proceed channels state.1 (course.now state.2) (course.outcome state.2) state.2

/-- A run reads once and makes at most four calls for each notification. -/
def callsOfRun : Nat := 4 * 50 + 1

/-- `sendPendingNotifications`, from its first call to its end. -/
def sendPendingNotifications (course : Course) (db : SendDb) : SendDb :=
  ((nextCall channels course)^[callsOfRun] (db, .gettingPending)).1

/-- Runs in turn. -/
def afterRuns (courses : Nat → Course) (db : SendDb) : Nat → SendDb
  | 0 => db
  | runs + 1 => sendPendingNotifications channels (courses runs) (afterRuns courses db runs)

end

/-- The notifications that are due, the oldest first. -/
def dueNotifications (db : SendDb) (now : Nat) : List ScheduledNotification :=
  (db.notifications.select (isDue now)).insertionSort fun first second =>
    first.createdAt ≤ second.createdAt

/-- `findOneByName`, by the type of a notification. -/
def channelOf (channels : Table NotificationChannelEntity) (row : ScheduledNotification) :
    Option NotificationChannelEntity :=
  channels.rows.find? fun channel => channel.name == JobConfig.typeName row.type

/-- The run reads when nothing else is due than at the start; processing a blocked notification
raises, since it has no channel or before its status is written, and that of another does not. -/
structure Course.Blocks (channels : Table NotificationChannelEntity) (db : SendDb) (now : Nat)
    (blocked : Nat → Bool) (course : Course) : Prop where
  reads : course.outcome .gettingPending ≠ none
  noArrivals : ∀ row ∈ db.notifications.rows,
    isDue (course.now .gettingPending) row = isDue now row
  raises : ∀ row ∈ dueNotifications db now, blocked row.notificationId = true →
    channelOf channels row = none ∨ ∀ result rest, course.outcome (.updating result row rest) = none
  finds : ∀ row ∈ dueNotifications db now, blocked row.notificationId = false →
    channelOf channels row ≠ none ∧ ∀ rest, course.outcome (.findingChannel row rest) ≠ none
  sends : ∀ row ∈ dueNotifications db now, blocked row.notificationId = false →
    ∀ channelId rest, ∃ result,
      course.outcome (.sending channelId row rest) = some result ∧ result.status ≠ .pending
  logs : ∀ row ∈ dueNotifications db now, blocked row.notificationId = false →
    ∀ result channelId rest, course.outcome (.logging result channelId row rest) ≠ none
  updates : ∀ row ∈ dueNotifications db now, blocked row.notificationId = false →
    ∀ result rest, course.outcome (.updating result row rest) ≠ none

/-! ## What a run settles -/

/-- Of the notifications that are due, those settled are no longer; what is still pending is as it
was. -/
structure Settles (settled : Nat → Bool) (before after : SendDb) : Prop where
  due : ∀ now, dueNotifications after now =
    (dueNotifications before now).filter fun row => !settled row.notificationId
  pending : ∀ row ∈ after.notifications.rows, row.status = .pending →
    row ∈ before.notifications.rows

section

variable {settled settled' : Nat → Bool} {before between after db : SendDb} {now : Nat}

theorem Settles.refl (db : SendDb) : Settles (fun _ => false) db db where
  due _ := (List.filter_eq_self.mpr fun _ _ => rfl).symm
  pending _ member _ := member

theorem Settles.trans (first : Settles settled before between)
    (second : Settles settled' between after) :
    Settles (fun id => settled id || settled' id) before after where
  due now := by
    rw [second.due, first.due, List.filter_filter]
    refine List.filter_congr fun row _ => ?_
    rw [Bool.not_or, Bool.and_comm]
  pending row member isPending := first.pending row (second.pending row member isPending) isPending

theorem Settles.congr (settles : Settles settled before after)
    (same : ∀ id, settled id = settled' id) : Settles settled' before after :=
  (funext same : settled = settled') ▸ settles

theorem mem_dueNotifications {row : ScheduledNotification} :
    row ∈ dueNotifications db now ↔ row ∈ db.notifications.rows ∧ isDue now row = true := by
  rw [dueNotifications, List.mem_insertionSort, Table.mem_select]

theorem pending_of_due {row : ScheduledNotification} (due : row ∈ dueNotifications db now) :
    row ∈ db.notifications.rows ∧ row.status = .pending := by
  obtain ⟨member, isRowDue⟩ := mem_dueNotifications.mp due
  rw [isDue, Bool.and_eq_true, beq_iff_eq] at isRowDue
  exact ⟨member, isRowDue.1⟩

theorem getPendingNotifications_eq (limit : Nat) :
    getPendingNotifications db now limit = (dueNotifications db now).take (min limit 200) := rfl

theorem dueNotifications_nodup :
    ((dueNotifications db now).map fun row => row.notificationId).Nodup := by
  have due : ((db.notifications.select (isDue now)).map fun row => row.notificationId).Nodup :=
    db.notifications.distinct.sublist (List.filter_sublist.map _)
  exact ((List.perm_insertionSort (fun first second : ScheduledNotification =>
    first.createdAt ≤ second.createdAt) (db.notifications.select (isDue now))).map
      fun row => row.notificationId).nodup_iff.mpr due

/-- A logged attempt leaves the notifications. -/
theorem Settles.of_notifications (same : after.notifications = before.notifications) :
    Settles (fun _ => false) before after where
  due now := by
    rw [dueNotifications, same]
    exact (List.filter_eq_self.mpr fun _ _ => rfl).symm
  pending row member _ := same ▸ member

theorem settles_updateStatus {status : NotificationStatus} (isSettled : status ≠ .pending)
    (notificationId : Nat) (sentAt : Option Nat) :
    Settles (fun id => id == notificationId) db (updateStatus db notificationId status sentAt) where
  due now := by
    have orders : OrdersOn (fun first second : ScheduledNotification =>
        first.createdAt ≤ second.createdAt) (db.notifications.select (isDue now)) :=
      ⟨fun _ _ _ _ => Nat.le_total _ _, fun _ _ _ _ _ _ => Nat.le_trans⟩
    rw [dueNotifications, dueNotifications, orders.filter_insertionSort]
    congr 1
    simp only [Table.select, updateStatus, Table.rows_updateAt]
    induction db.notifications.rows with
    | nil => rfl
    | cons row rest ih =>
        rw [List.map_cons, List.filter_cons, ih, List.filter_cons]
        by_cases isRow : row.notificationId = notificationId
        · have gone : isDue now (withStatus status sentAt row) = false := by
            simp [isDue, withStatus, isSettled]
          have taken : (!row.notificationId == notificationId) = false := by
            simpa using isRow
          rw [if_pos (show Keyed.key row = notificationId from isRow), gone,
            if_neg Bool.false_ne_true]
          split
          · rw [List.filter_cons, taken, if_neg Bool.false_ne_true]
          · rfl
        · have kept : (!row.notificationId == notificationId) = true := by
            simpa using isRow
          rw [if_neg (show ¬Keyed.key row = notificationId from isRow)]
          split
          · rw [List.filter_cons, kept, if_pos rfl]
          · rfl
  pending row member isPending := by
    simp only [updateStatus, Table.mem_updateAt] at member
    rcases member with ⟨old, _, _, rfl⟩ | ⟨old, _⟩
    · exact absurd isPending isSettled
    · exact old

/-! ## From call to call -/

variable {channels : Table NotificationChannelEntity} {course : Course} {blocked : Nat → Bool}
  {bound bound' : Nat} {phase next finish : SendPhase} {start : SendDb}

/-- Within so many calls the run comes to a phase, and has settled these notifications. -/
def Comes (channels : Table NotificationChannelEntity) (course : Course) (bound : Nat)
    (settled : Nat → Bool) (db : SendDb) (phase finish : SendPhase) : Prop :=
  ∃ calls ≤ bound, ∃ after,
    (nextCall channels course)^[calls] (db, phase) = (after, finish) ∧ Settles settled db after

theorem Comes.last {after : SendDb}
    (isNext : nextCall channels course (db, phase) = (after, finish))
    (settles : Settles settled db after) : Comes channels course 1 settled db phase finish :=
  ⟨1, Nat.le_refl 1, after, isNext, settles⟩

theorem Comes.call {after : SendDb}
    (isNext : nextCall channels course (db, phase) = (after, next))
    (same : after.notifications = db.notifications)
    (comes : Comes channels course bound settled after next finish) :
    Comes channels course (bound + 1) settled db phase finish := by
  obtain ⟨calls, few, last, reached, settles⟩ := comes
  refine ⟨calls + 1, Nat.succ_le_succ few, last, ?_, ?_⟩
  · rw [Function.iterate_succ_apply, isNext, reached]
  · exact ((Settles.of_notifications same).trans settles).congr fun _ => Bool.false_or _

theorem Comes.trans (first : Comes channels course bound settled db phase next)
    (second : ∀ after, Comes channels course bound' settled' after next finish) :
    Comes channels course (bound + bound') (fun id => settled id || settled' id) db phase finish := by
  obtain ⟨calls, few, after, reached, settles⟩ := first
  obtain ⟨calls', few', last, reached', settles'⟩ := second after
  refine ⟨calls' + calls, by omega, last, ?_, settles.trans settles'⟩
  rw [Function.iterate_add_apply, reached, reached']

theorem Comes.mono (comes : Comes channels course bound settled db phase finish)
    (fewer : bound ≤ bound') (same : ∀ id, settled id = settled' id) :
    Comes channels course bound' settled' db phase finish := by
  obtain ⟨calls, few, last, reached, settles⟩ := comes
  exact ⟨calls, few.trans fewer, last, reached, settles.congr same⟩

/-- What the processing of a notification settles: the notification, unless it is blocked. -/
def settledBy (blocked : Nat → Bool) (row : ScheduledNotification) (id : Nat) : Bool :=
  !blocked id && id == row.notificationId

theorem settledBy_of_blocked {row : ScheduledNotification}
    (isBlocked : blocked row.notificationId = true) (id : Nat) :
    false = settledBy blocked row id := by
  by_cases same : id = row.notificationId
  · rw [settledBy, same, isBlocked, Bool.not_true, Bool.false_and]
  · rw [settledBy, beq_false_of_ne same, Bool.and_false]

theorem settledBy_of_not_blocked {row : ScheduledNotification}
    (notBlocked : blocked row.notificationId = false) (id : Nat) :
    (id == row.notificationId) = settledBy blocked row id := by
  by_cases same : id = row.notificationId
  · rw [settledBy, same, notBlocked, Bool.not_false, Bool.true_and]
  · rw [settledBy, beq_false_of_ne same, Bool.and_false]

section Processing

variable (lawful : course.Blocks channels start now blocked) {row : ScheduledNotification}
  (member : row ∈ dueNotifications start now) (rest : List ScheduledNotification)

/-- A call that raises ends the processing of a blocked notification. -/
theorem comes_of_raised (db : SendDb) (isNext : nextCall channels course (db, phase) = (db, goOn rest))
    (isBlocked : blocked row.notificationId = true) :
    Comes channels course 1 (settledBy blocked row) db phase (goOn rest) :=
  .last isNext ((Settles.refl db).congr (settledBy_of_blocked isBlocked))

include lawful member in
theorem comes_of_updating (db : SendDb) (result : NotificationSendResult)
    (hasChannel : channelOf channels row ≠ none)
    (hasStatus : blocked row.notificationId = false → result.status ≠ .pending) :
    Comes channels course 1 (settledBy blocked row) db (.updating result row rest)
      (goOn rest) := by
  rcases isBlocked : blocked row.notificationId with _ | _
  · obtain ⟨written, isWritten⟩ :=
      Option.ne_none_iff_exists'.mp (lawful.updates row member isBlocked result rest)
    have isNext : nextCall channels course (db, .updating result row rest) =
        (updateStatus db row.notificationId result.status
          (if result.status = .sent then some (course.now (.updating result row rest)) else none),
          goOn rest) := by
      simp only [nextCall, proceed, isWritten]
    exact .last isNext ((settles_updateStatus (hasStatus isBlocked) row.notificationId _).congr
      (settledBy_of_not_blocked isBlocked))
  · refine comes_of_raised rest db ?_ isBlocked
    have raised := (lawful.raises row member isBlocked).resolve_left hasChannel
    simp only [nextCall, proceed, raised]

include lawful member in
theorem comes_of_logging (db : SendDb) (result : NotificationSendResult) (channelId : Nat)
    (hasChannel : channelOf channels row ≠ none)
    (hasStatus : blocked row.notificationId = false → result.status ≠ .pending) :
    Comes channels course 2 (settledBy blocked row) db (.logging result channelId row rest)
      (goOn rest) := by
  rcases isLogged : course.outcome (.logging result channelId row rest) with _ | logged
  · rcases isBlocked : blocked row.notificationId with _ | _
    · exact absurd isLogged (lawful.logs row member isBlocked result channelId rest)
    · refine (comes_of_raised rest db ?_ isBlocked).mono (Nat.le_succ 1) fun _ => rfl
      simp only [nextCall, proceed, isLogged]
  · have isNext : nextCall channels course (db, .logging result channelId row rest) =
        ({ db with
            notificationLogs := db.notificationLogs.insert
              (sendAttempt row.toNotificationEntity channelId result) },
          .updating result row rest) := by
      simp only [nextCall, proceed, isLogged]
    exact .call isNext rfl (comes_of_updating lawful member rest _ result hasChannel hasStatus)

include lawful member in
theorem comes_of_sending (db : SendDb) (channelId : Nat)
    (hasChannel : channelOf channels row ≠ none) :
    Comes channels course 3 (settledBy blocked row) db (.sending channelId row rest)
      (goOn rest) := by
  rcases isSent : course.outcome (.sending channelId row rest) with _ | result
  · rcases isBlocked : blocked row.notificationId with _ | _
    · obtain ⟨result, isResult, _⟩ := lawful.sends row member isBlocked channelId rest
      exact absurd (isSent.symm.trans isResult) nofun
    · refine (comes_of_raised rest db ?_ isBlocked).mono (by omega) fun _ => rfl
      simp only [nextCall, proceed, isSent]
  · have isNext : nextCall channels course (db, .sending channelId row rest) =
        (db, .logging result channelId row rest) := by
      simp only [nextCall, proceed, isSent]
    refine .call isNext rfl (comes_of_logging lawful member rest db result channelId hasChannel ?_)
    intro notBlocked
    obtain ⟨other, isOther, hasStatus⟩ := lawful.sends row member notBlocked channelId rest
    obtain rfl := Option.some.inj (isSent.symm.trans isOther)
    exact hasStatus

include lawful member in
/-- Processing a notification settles it, unless it is blocked. -/
theorem comes_of_findingChannel (db : SendDb) :
    Comes channels course 4 (settledBy blocked row) db (.findingChannel row rest)
      (goOn rest) := by
  rcases isFound : (course.outcome (.findingChannel row rest)).bind fun _ =>
      channelOf channels row with _ | channel
  · rcases isBlocked : blocked row.notificationId with _ | _
    · obtain ⟨hasChannel, answers⟩ := lawful.finds row member isBlocked
      obtain ⟨answer, isAnswer⟩ := Option.ne_none_iff_exists'.mp (answers rest)
      rw [isAnswer, Option.bind_some] at isFound
      exact absurd isFound hasChannel
    · refine (comes_of_raised rest db ?_ isBlocked).mono (by omega) fun _ => rfl
      unfold channelOf at isFound
      simp only [nextCall, proceed, isFound]
  · obtain ⟨_, _, isChannel⟩ := Option.bind_eq_some_iff.mp isFound
    have isNext : nextCall channels course (db, .findingChannel row rest) =
        (db, .sending channel.channelId row rest) := by
      unfold channelOf at isFound
      simp only [nextCall, proceed, isFound]
    exact .call isNext rfl (comes_of_sending lawful member rest db channel.channelId
      (Option.ne_none_iff_exists'.mpr ⟨channel, isChannel⟩))

end Processing

/-! ## From run to run -/

/-- What a run settles of the notifications it has read: those that are not blocked. -/
def settledOf (blocked : Nat → Bool) (read : List ScheduledNotification) (id : Nat) : Bool :=
  !blocked id && (read.map fun row => row.notificationId).contains id

theorem comes_of_goOn (lawful : course.Blocks channels start now blocked)
    (read : List ScheduledNotification) (due : ∀ row ∈ read, row ∈ dueNotifications start now)
    (db : SendDb) :
    Comes channels course (4 * read.length) (settledOf blocked read) db (goOn read) .ended := by
  induction read generalizing db with
  | nil =>
      refine ⟨0, Nat.le_refl 0, db, rfl, (Settles.refl db).congr fun id => ?_⟩
      rw [settledOf, List.map_nil, List.contains_nil, Bool.and_false]
  | cons row rest ih =>
      have others : ∀ other ∈ rest, other ∈ dueNotifications start now :=
        fun other member => due other (List.mem_cons_of_mem row member)
      have comes := (comes_of_findingChannel lawful (due row List.mem_cons_self) rest db).trans
        (ih others)
      refine comes.mono ?_ fun id => ?_
      · rw [List.length_cons]
        omega
      · rw [settledBy, settledOf, settledOf, List.map_cons, List.contains_cons,
          Bool.and_or_distrib_left]

/-- Once ended, a run makes no call. -/
theorem iterate_ended (calls : Nat) :
    (nextCall channels course)^[calls] (db, .ended) = (db, .ended) :=
  Function.iterate_fixed rfl calls

theorem settles_run (lawful : course.Blocks channels start now blocked) (db : SendDb)
    (due : ∀ row ∈ getPendingNotifications db (course.now .gettingPending) 50,
      row ∈ dueNotifications start now) :
    Settles (settledOf blocked (getPendingNotifications db (course.now .gettingPending) 50)) db
      (sendPendingNotifications channels course db) := by
  obtain ⟨answer, isAnswer⟩ := Option.ne_none_iff_exists'.mp lawful.reads
  have reads : nextCall channels course (db, .gettingPending) =
      (db, goOn (getPendingNotifications db (course.now .gettingPending) 50)) := by
    simp only [nextCall, proceed, isAnswer]
  obtain ⟨calls, few, after, reached, settles⟩ := comes_of_goOn lawful _ due db
  have isShort : (getPendingNotifications db (course.now .gettingPending) 50).length ≤ 50 :=
    List.length_take_le 50 _
  have split : 4 * 50 = (4 * 50 - calls) + calls := by
    omega
  have ended : (nextCall channels course)^[callsOfRun] (db, .gettingPending) = (after, .ended) := by
    rw [callsOfRun, Function.iterate_succ_apply, reads, split, Function.iterate_add_apply, reached,
      iterate_ended]
  rw [sendPendingNotifications, ended]
  exact settles

variable {courses : Nat → Course}

/-- At every reading of a run the same notifications are due. -/
theorem dueNotifications_of_settles (lawful : course.Blocks channels start now blocked)
    (settles : Settles settled start db) :
    dueNotifications db (course.now .gettingPending) = dueNotifications db now := by
  rw [settles.due, settles.due, dueNotifications, dueNotifications, Table.select, Table.select,
    List.filter_congr lawful.noArrivals]

/-- After some runs the queue of the start is left as so many rounds leave it. -/
theorem dueNotifications_afterRuns
    (lawful : ∀ run, (courses run).Blocks channels start now blocked) (runs : Nat) :
    (∃ settled, Settles settled start (afterRuns channels courses start runs)) ∧
      dueNotifications (afterRuns channels courses start runs) now =
        leftAfter 50 (fun row => blocked row.notificationId) (dueNotifications start now) runs := by
  induction runs with
  | zero => exact ⟨⟨_, Settles.refl start⟩, rfl⟩
  | succ runs ih =>
      obtain ⟨⟨settled, settles⟩, isLeft⟩ := ih
      have sameDue := dueNotifications_of_settles (lawful runs) settles
      have reads : getPendingNotifications (afterRuns channels courses start runs)
          ((courses runs).now .gettingPending) 50 =
            (dueNotifications (afterRuns channels courses start runs) now).take 50 := by
        rw [getPendingNotifications_eq, sameDue]
        rfl
      have due : ∀ row ∈ getPendingNotifications (afterRuns channels courses start runs)
          ((courses runs).now .gettingPending) 50, row ∈ dueNotifications start now := by
        intro row member
        rw [reads] at member
        have stillDue := List.mem_of_mem_take member
        rw [settles.due] at stillDue
        exact List.mem_of_mem_filter stillDue
      have step := settles_run (lawful runs) _ due
      rw [reads] at step
      refine ⟨⟨_, settles.trans step⟩, ?_⟩
      rw [leftAfter, ← isLeft, ← filter_eq_serveWindow (dueNotifications_nodup), afterRuns,
        step.due]
      refine List.filter_congr fun row _ => ?_
      rw [settledOf, Bool.not_and, Bool.not_not]

/-- With as many runs as the notifications fill windows, all that are not blocked leave the
pending status exactly when none of them lies behind the notifications that the runs get to. -/
theorem others_leave_iff (channels : Table NotificationChannelEntity) (courses : Nat → Course)
    (start : SendDb) (now : Nat) (blocked : Nat → Bool)
    (lawful : ∀ run, (courses run).Blocks channels start now blocked) :
    let queue := dueNotifications start now
    let runs := (queue.length + 49) / 50
    (∀ row ∈ queue, blocked row.notificationId = false →
      ∀ current ∈ (afterRuns channels courses start runs).notifications.rows,
        current.notificationId = row.notificationId → current.status ≠ .pending) ↔
      ∀ row ∈ queue.drop
        (passedAfter 50 (fun row => blocked row.notificationId) queue runs),
        blocked row.notificationId = true := by
  intro queue runs
  obtain ⟨⟨settled, settles⟩, isLeft⟩ := dueNotifications_afterRuns lawful runs
  rw [← blocked_of_leftAfter_iff, ← isLeft]
  constructor
  · intro leave row stillDue
    obtain ⟨current, pending⟩ := pending_of_due stillDue
    rw [settles.due] at stillDue
    by_contra notBlocked
    exact leave row (List.mem_of_mem_filter stillDue) (Bool.eq_false_iff.mpr notBlocked) row current
      rfl pending
  · intro left row due notBlocked current member sameKey isPending
    obtain ⟨old, isRowDue⟩ := mem_dueNotifications.mp due
    have same : current = row :=
      Table.eq_of_key_eq (settles.pending current member isPending) old sameKey
    have stillDue := left row (mem_dueNotifications.mpr ⟨same ▸ member, isRowDue⟩)
    rw [notBlocked] at stillDue
    cases stillDue

/-- Calls that find a channel return, and every message is sent. -/
def answered : Course where
  now _ := 0
  outcome _ := some ⟨.sent, none⟩

/-- Pending notifications of these types, one after another. -/
def pendingOf (types : List NotificationType) : SendDb where
  notifications := .ofRows (types.zipIdx.map fun (type, created) =>
    { notificationId := 0
      userId := 5
      eventId := none
      type := type
      subject := none
      message := ""
      status := .pending
      preparedFor := none
      createdAt := created
      scheduledAt := none
      sentAt := none })
  notificationLogs := .empty _

/-- Where only notifications without a channel are blocked, calls that return are as required. -/
theorem answered_blocks (isBlocked : ∀ row ∈ dueNotifications db 0,
    blocked row.notificationId = true ↔ channelOf channels row = none) :
    answered.Blocks channels db 0 blocked where
  reads := Option.some_ne_none _
  noArrivals _ _ := rfl
  raises row member blocks := .inl ((isBlocked row member).mp blocks)
  finds row member notBlocked := by
    refine ⟨fun noChannel => ?_, fun _ => Option.some_ne_none _⟩
    rw [(isBlocked row member).mpr noChannel] at notBlocked
    cases notBlocked
  sends _ _ _ _ _ := ⟨⟨.sent, none⟩, rfl, by decide⟩
  logs _ _ _ _ _ _ := Option.some_ne_none _
  updates _ _ _ _ _ := Option.some_ne_none _

/-- A mail behind a text message, for which there is no channel, is sent. -/
theorem mail_leaves :
    ∃ current ∈ (afterRuns mail (fun _ => answered) (pendingOf [.sms, .email])
        (((dueNotifications (pendingOf [.sms, .email]) 0).length + 49) / 50)).notifications.rows,
      current.notificationId = 2 ∧ current.status ≠ .pending := by
  obtain ⟨row, due, isMail⟩ :
      ∃ row ∈ dueNotifications (pendingOf [.sms, .email]) 0, row.notificationId = 2 := by
    decide
  obtain ⟨current, stored, sameKey⟩ :
      ∃ current ∈ (afterRuns mail (fun _ => answered) (pendingOf [.sms, .email])
          (((dueNotifications (pendingOf [.sms, .email]) 0).length + 49) / 50)).notifications.rows,
        current.notificationId = 2 := by
    decide +kernel
  have leaves := (others_leave_iff mail (fun _ => answered) (pendingOf [.sms, .email]) 0 (· == 1)
    fun _ => answered_blocks (by decide)).mpr (by decide)
  have notBlocked : (row.notificationId == 1) = false := by rw [isMail]; rfl
  exact ⟨current, stored, sameKey,
    leaves row due notBlocked current stored (sameKey.trans isMail.symm)⟩

/-- Fifty text messages before a mail. -/
def textsBeforeMail : SendDb := pendingOf (List.replicate 50 .sms ++ [.email])

/-- The mail behind them is never read. -/
theorem mail_starved :
    ¬∀ (channels : Table NotificationChannelEntity) (courses : Nat → Course) (start : SendDb)
      (now : Nat) (blocked : Nat → Bool),
      (∀ run, (courses run).Blocks channels start now blocked) →
        ∀ row ∈ dueNotifications start now, blocked row.notificationId = false →
          ∀ current ∈ (afterRuns channels courses start
              (((dueNotifications start now).length + 49) / 50)).notifications.rows,
            current.notificationId = row.notificationId → current.status ≠ .pending := by
  intro leaves
  have lawful : ∀ run : Nat, answered.Blocks mail textsBeforeMail 0 fun id => decide (id ≤ 50) :=
    fun _ => answered_blocks (by decide)
  have queued : ∃ row ∈ (dueNotifications textsBeforeMail 0).drop (passedAfter 50
      (fun row => decide (row.notificationId ≤ 50)) (dueNotifications textsBeforeMail 0) 2),
      row.notificationId = 51 := by
    decide
  have rounds : ((dueNotifications textsBeforeMail 0).length + 49) / 50 = 2 := by
    decide
  obtain ⟨row, behind, isMail⟩ := queued
  obtain ⟨-, isLeft⟩ := dueNotifications_afterRuns lawful 2
  have stillDue : row ∈ dueNotifications (afterRuns mail (fun _ => answered) textsBeforeMail 2) 0 := by
    rw [isLeft, leftAfter_eq]
    exact List.mem_append_right _ behind
  obtain ⟨current, isPending⟩ := pending_of_due stillDue
  have left := leaves mail (fun _ => answered) textsBeforeMail 0 (fun id => decide (id ≤ 50)) lawful
    row (List.mem_of_mem_drop behind) (by rw [isMail]; rfl) row
  rw [rounds] at left
  exact left current rfl isPending

end

end SendPending

end CoreApi.Notifications
