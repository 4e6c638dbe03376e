import Mathlib.Data.List.Basic
import Mathlib.Logic.Function.Basic
import CoreApi.Foundation.Json
import CoreApi.Foundation.Table

/-!
# The notification job

`NotificationJobService` prepares notifications for the event logs that are not
processed and sends the pending ones. A run of the job is a sequence of database
calls, each of which may fail; runs start every minute whether or not the last one
has ended, so their calls interleave.
-/

namespace CoreApi.Notifications

open CoreApi.Foundation

/-! ## Rows -/

inductive NotificationType where
  | push
  | sms
  | email
  | system
  deriving DecidableEq, Repr

inductive NotificationStatus where
  | pending
  | sent
  | failed
  deriving DecidableEq, Repr

/-- An event log beside the name of its event; status 0 is active, 1 is processed. -/
structure EventLogEntity where
  logId : Nat
  eventId : Nat
  userId : Nat
  status : Option Nat
  eventName : Option String
  deriving DecidableEq, Repr

/-- A listener beside the name of its channel and its template. -/
structure EventListenerEntity where
  listenerId : Nat
  eventId : Nat
  channelId : Nat
  isActive : Bool
  channelName : Option String
  templateSubject : Option String
  templateMessage : Option String
  deriving DecidableEq, Repr

structure UserNotificationPreferenceEntity where
  preferenceId : Nat
  userId : Nat
  channelId : Nat
  isEnabled : Bool
  deriving DecidableEq, Repr

structure NotificationChannelEntity where
  channelId : Nat
  name : String
  deriving DecidableEq, Repr

/-- A notification; the event log and the listener it was prepared for are not stored. -/
structure NotificationEntity where
  notificationId : Nat
  userId : Nat
  eventId : Option Nat
  type : NotificationType
  subject : Option String
  message : String
  status : NotificationStatus
  preparedFor : Option (Nat × Nat)
  deriving DecidableEq, Repr

structure NotificationLogEntity where
  logId : Nat
  notificationId : Nat
  channelId : Nat
  status : NotificationStatus
  response : Option String
  deriving DecidableEq, Repr

instance : Keyed EventLogEntity where
  key := EventLogEntity.logId
  withKey n row := { row with logId := n }
  key_withKey _ _ := rfl

instance : Keyed EventListenerEntity where
  key := EventListenerEntity.listenerId
  withKey n row := { row with listenerId := n }
  key_withKey _ _ := rfl

instance : Keyed UserNotificationPreferenceEntity where
  key := UserNotificationPreferenceEntity.preferenceId
  withKey n row := { row with preferenceId := n }
  key_withKey _ _ := rfl

instance : Keyed NotificationChannelEntity where
  key := NotificationChannelEntity.channelId
  withKey n row := { row with channelId := n }
  key_withKey _ _ := rfl

instance : Keyed NotificationEntity where
  key := NotificationEntity.notificationId
  withKey n row := { row with notificationId := n }
  key_withKey _ _ := rfl

instance : Keyed NotificationLogEntity where
  key := NotificationLogEntity.logId
  withKey n row := { row with logId := n }
  key_withKey _ _ := rfl

/-- The result of a rendered template. -/
structure RenderResult where
  subject : Option String
  message : String
  missingRequired : List String
  deriving DecidableEq, Repr

structure NotificationSendResult where
  status : NotificationStatus
  response : Option String
  deriving DecidableEq, Repr

/-- What the job reads and does not write, with the rendering of a template for an event log
and the senders. -/
structure JobConfig where
  listeners : Table EventListenerEntity
  preferences : Table UserNotificationPreferenceEntity
  channels : Table NotificationChannelEntity
  render : EventLogEntity → Option String → String → RenderResult
  send : NotificationEntity → NotificationSendResult

/-- What the job writes. -/
structure NotificationDb where
  eventLogs : Table EventLogEntity
  notifications : Table NotificationEntity
  notificationLogs : Table NotificationLogEntity

/-! ## What the job reads -/

/-- `getAllEventLogs`. -/
def getAllEventLogs (db : NotificationDb) : List EventLogEntity :=
  db.eventLogs.select fun log => log.status == some 0

/-- `getPendingNotifications`, which are never scheduled for later. -/
def getPendingNotifications (db : NotificationDb) : List NotificationEntity :=
  (db.notifications.select fun notification => notification.status == .pending).take 50

/-- `normalizeChannelType`. -/
def normalizeChannelType (channelName : Option String) : Option NotificationType :=
  match channelName with
  | none => none
  | some name =>
      let normalized := String.ofList (Json.trimmed name.toLower)
      if normalized = "email" then some .email
      else if normalized = "sms" then some .sms
      else if normalized = "push" then some .push
      else if normalized = "system" then some .system
      else none

namespace JobConfig

variable (config : JobConfig)

/-- `getListenersByEventId`. -/
def getListenersByEventId (eventId : Nat) : List EventListenerEntity :=
  config.listeners.select fun listener => listener.eventId == eventId && listener.isActive

/-- `isChannelEnabled`. -/
def isChannelEnabled (userId channelId : Nat) : Bool :=
  match config.preferences.rows.find? fun preference =>
      preference.userId == userId && preference.channelId == channelId with
  | none => true
  | some preference => preference.isEnabled

/-- The name of a notification's type, as a channel is looked up by it. -/
def typeName : NotificationType → String
  | .push => "push"
  | .sms => "sms"
  | .email => "email"
  | .system => "system"

/-- `findOneByName`. -/
def findOneByName (name : String) : Option NotificationChannelEntity :=
  config.channels.rows.find? fun channel => channel.name == name

/-- The template of a listener rendered for an event log. -/
def rendered (log : EventLogEntity) (listener : EventListenerEntity) : RenderResult :=
  config.render log listener.templateSubject
    (listener.templateMessage.getD
      ("Event " ++ log.eventName.getD (Nat.repr log.eventId) ++ " occurred."))

/-- The notification of an event log for a listener. -/
def notificationFor (log : EventLogEntity) (listener : EventListenerEntity)
    (type : NotificationType) : NotificationEntity :=
  let renderResult := config.rendered log listener
  { notificationId := 0
    userId := log.userId
    eventId := some log.eventId
    type := type
    subject := renderResult.subject
    message := renderResult.message
    status := if renderResult.missingRequired = [] then .pending else .failed
    preparedFor := some (log.logId, listener.listenerId) }

end JobConfig

/-! ## A run, call by call -/

/-- The database call a run makes next, or the message it sends, and what it still has to do. -/
inductive JobPhase where
  | gettingEventLogs
  | gettingListeners (log : EventLogEntity) (rest : List EventLogEntity)
  | checkingChannel (log : EventLogEntity) (listener : EventListenerEntity)
      (type : NotificationType) (todo : List EventListenerEntity) (rest : List EventLogEntity)
  | resolving (log : EventLogEntity) (listener : EventListenerEntity) (type : NotificationType)
      (todo : List EventListenerEntity) (rest : List EventLogEntity)
  | creating (log : EventLogEntity) (listener : EventListenerEntity) (type : NotificationType)
      (todo : List EventListenerEntity) (rest : List EventLogEntity)
  | reporting (failure : NotificationLogEntity) (log : EventLogEntity)
      (todo : List EventListenerEntity) (rest : List EventLogEntity)
  | marking (log : EventLogEntity) (rest : List EventLogEntity)
  | gettingPending
  | findingChannel (notification : NotificationEntity) (rest : List NotificationEntity)
  | sending (channelId : Nat) (notification : NotificationEntity) (rest : List NotificationEntity)
  | logging (result : NotificationSendResult) (channelId : Nat) (notification : NotificationEntity)
      (rest : List NotificationEntity)
  | updating (result : NotificationSendResult) (notification : NotificationEntity)
      (rest : List NotificationEntity)
  | ended

namespace JobPhase

/-- On to the next event log, or to sending. -/
def nextEventLog : List EventLogEntity → JobPhase
  | [] => .gettingPending
  | log :: rest => .gettingListeners log rest

/-- On to the next listener with a supported channel, or to marking the event log. -/
def nextListener (log : EventLogEntity) (rest : List EventLogEntity) :
    List EventListenerEntity → JobPhase
  | [] => .marking log rest
  | listener :: todo =>
      match normalizeChannelType listener.channelName with
      | none => nextListener log rest todo
      | some type => .checkingChannel log listener type todo rest

/-- On to the next pending notification. -/
def nextPending : List NotificationEntity → JobPhase
  | [] => .ended
  | notification :: rest => .findingChannel notification rest

end JobPhase

open JobPhase

variable (config : JobConfig)

/-- The failed attempt of a notification that misses variables. -/
def missingVariables (notificationId : Nat) (log : EventLogEntity)
    (listener : EventListenerEntity) : NotificationLogEntity :=
  { logId := 0
    notificationId := notificationId
    channelId := listener.channelId
    status := .failed
    response := some ("Missing required template variables: "
      ++ String.intercalate ", " (config.rendered log listener).missingRequired) }

/-- The attempt to send a notification. -/
def sendAttempt (notification : NotificationEntity) (channelId : Nat)
    (result : NotificationSendResult) : NotificationLogEntity :=
  { logId := 0
    notificationId := notification.notificationId
    channelId := channelId
    status := result.status
    response := result.response }

/-- The update of an event log to processed. -/
def marked (db : NotificationDb) (logId : Nat) : NotificationDb :=
  { db with
    eventLogs := db.eventLogs.updateAt logId (fun row => { row with status := some 1 }) fun _ => rfl }

/-- The next call of `prepareNotificationsFromEventLogs` and `sendPendingNotifications`: a call
that fails is caught by the loop and ends the event log or the notification it is for. -/
def proceed (db : NotificationDb) (succeeds : Bool) : JobPhase → NotificationDb × JobPhase
  | .gettingEventLogs =>
      if succeeds then (db, nextEventLog (getAllEventLogs db)) else (db, .ended)
  | .gettingListeners log rest =>
      if succeeds then (db, nextListener log rest (config.getListenersByEventId log.eventId))
      else (db, nextEventLog rest)
  | .checkingChannel log listener type todo rest =>
      if succeeds then
        if config.isChannelEnabled log.userId listener.channelId then
          (db, .resolving log listener type todo rest)
        else (db, nextListener log rest todo)
      else (db, nextEventLog rest)
  | .resolving log listener type todo rest =>
      if succeeds then (db, .creating log listener type todo rest) else (db, nextEventLog rest)
  | .creating log listener type todo rest =>
      if succeeds then
        ({ db with
            notifications := db.notifications.insert (config.notificationFor log listener type) },
          if (config.notificationFor log listener type).status = .failed then
            .reporting (missingVariables config db.notifications.autoIncrement log listener) log
              todo rest
          else nextListener log rest todo)
      else (db, nextEventLog rest)
  | .reporting failure log todo rest =>
      if succeeds then
        ({ db with notificationLogs := db.notificationLogs.insert failure },
          nextListener log rest todo)
      else (db, nextEventLog rest)
  | .marking log rest =>
      if succeeds then (marked db log.logId, nextEventLog rest) else (db, nextEventLog rest)
  | .gettingPending =>
      if succeeds then (db, nextPending (getPendingNotifications db)) else (db, .ended)
  | .findingChannel notification rest =>
      if succeeds then
        match config.findOneByName (JobConfig.typeName notification.type) with
        | none => (db, nextPending rest)
        | some channel => (db, .sending channel.channelId notification rest)
      else (db, nextPending rest)
  | .sending channelId notification rest =>
      if succeeds then (db, .logging (config.send notification) channelId notification rest)
      else (db, nextPending rest)
  | .logging result channelId notification rest =>
      if succeeds then
        ({ db with
            notificationLogs := db.notificationLogs.insert (sendAttempt notification channelId result) },
          .updating result notification rest)
      else (db, nextPending rest)
  | .updating result notification rest =>
      if succeeds then
        ({ db with
            notifications := db.notifications.updateAt notification.notificationId
              (fun row => { row with status := result.status }) fun _ => rfl },
          nextPending rest)
      else (db, nextPending rest)
  | .ended => (db, .ended)

/-- The tables, and where each run is; a run that has not started is about to read. -/
structure JobWorld where
  db : NotificationDb
  runs : Nat → JobPhase

/-- A run makes its next call, which succeeds or fails. -/
structure JobStep where
  run : Nat
  succeeds : Bool
  deriving DecidableEq, Repr

def performStep (w : JobWorld) (step : JobStep) : JobWorld :=
  let (db, phase) := proceed config w.db step.succeeds (w.runs step.run)
  { db := db, runs := Function.update w.runs step.run phase }

/-- Runs that have not started yet. -/
def beforeRuns (db : NotificationDb) : JobWorld where
  db := db
  runs := fun _ => .gettingEventLogs

def worldAfter (db : NotificationDb) (steps : List JobStep) : JobWorld :=
  steps.foldl (performStep config) (beforeRuns db)

end CoreApi.Notifications
