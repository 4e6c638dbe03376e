import CoreApi.Notifications.NotificationJob

/-!
# One notification for each event log and listener

Between the first notification of an event log and its mark a run may fail, and
another run may read the log; both prepare the notifications again. Where every run
reads event logs that no other run is at and that nothing was prepared for, there is
at most one notification for each listener, and exactly one once the log is marked.
-/

namespace CoreApi.Notifications

open CoreApi.Foundation JobPhase

variable {config : JobConfig} {db db' start : NotificationDb} {phase : JobPhase}
  {log : EventLogEntity} {listener : EventListenerEntity} {rest : List EventLogEntity}
  {todo : List EventListenerEntity}

/-! ## What is prepared, and what should be -/

/-- The event log and the listener of each notification. -/
def pairs (db : NotificationDb) : List (Nat × Nat) :=
  db.notifications.rows.filterMap NotificationEntity.preparedFor

/-- The listeners a notification was prepared for, in order. -/
def prepared (db : NotificationDb) (logId : Nat) : List Nat :=
  ((pairs db).filter fun pair => pair.1 == logId).map Prod.snd

/-- The listener's channel is supported, and enabled for the user of the event log. -/
def wanted (config : JobConfig) (log : EventLogEntity) (listener : EventListenerEntity) : Bool :=
  (normalizeChannelType listener.channelName).isSome &&
    config.isChannelEnabled log.userId listener.channelId

/-- The listeners among these that should get a notification of the event log. -/
def wantedIds (config : JobConfig) (log : EventLogEntity)
    (listeners : List EventListenerEntity) : List Nat :=
  (listeners.filter (wanted config log)).map EventListenerEntity.listenerId

/-- At most one notification for an event log and a listener that should get one, and exactly one
for an event log that was active at the start and is processed. -/
def ExactlyOnce (config : JobConfig) (start db : NotificationDb) : Prop :=
  ∀ log ∈ db.eventLogs.rows, ∀ listener ∈ config.getListenersByEventId log.eventId,
    wanted config log listener = true →
      (pairs db).count (log.logId, listener.listenerId) ≤ 1 ∧
        (log.status = some 1 →
          (∃ old ∈ start.eventLogs.rows, old.logId = log.logId ∧ old.status = some 0) →
            (pairs db).count (log.logId, listener.listenerId) = 1)

instance (config : JobConfig) (start db : NotificationDb) : Decidable (ExactlyOnce config start db) :=
  inferInstanceAs (Decidable (∀ log ∈ _, ∀ listener ∈ _, _ → _ ∧ (_ → (∃ old ∈ _, _) → _)))

theorem pairs_insert (notification : NotificationEntity) :
    pairs { db with notifications := db.notifications.insert notification } =
      pairs db ++ notification.preparedFor.toList := by
  simp only [pairs, Table.rows_insert, List.filterMap_append, List.filterMap_cons,
    List.filterMap_nil]
  cases notification.preparedFor <;> simp

theorem pairs_updateAt (notificationId : Nat) (status : NotificationStatus) :
    pairs { db with
        notifications := db.notifications.updateAt notificationId
          (fun row => { row with status := status }) fun _ => rfl } = pairs db := by
  simp only [pairs, Table.rows_updateAt, List.filterMap_map]
  refine List.filterMap_congr fun row _ => ?_
  dsimp only [Function.comp_apply]
  split <;> rfl

theorem count_pairs (logId listenerId : Nat) :
    (pairs db).count (logId, listenerId) = (prepared db logId).count listenerId := by
  unfold prepared
  induction pairs db with
  | nil => rfl
  | cons pair others ih =>
      obtain ⟨left, right⟩ := pair
      by_cases same : left = logId
      · subst same
        by_cases sameListener : right = listenerId <;>
          simp [ih, sameListener]
      · simp [ih, same]

theorem wantedIds_append (listeners others : List EventListenerEntity) :
    wantedIds config log (listeners ++ others) =
      wantedIds config log listeners ++ wantedIds config log others := by
  simp [wantedIds]

theorem wantedIds_nodup (eventId : Nat) :
    (wantedIds config log (config.getListenersByEventId eventId)).Nodup := by
  refine config.listeners.distinct.sublist ?_
  exact (List.filter_sublist.trans List.filter_sublist).map _

/-! ## The event logs of a run -/

/-- The event logs after the one the run is at. -/
def JobPhase.queue : JobPhase → List EventLogEntity
  | .gettingListeners _ rest => rest
  | .checkingChannel _ _ _ _ rest => rest
  | .resolving _ _ _ _ rest => rest
  | .creating _ _ _ _ rest => rest
  | .reporting _ _ _ rest => rest
  | .marking _ rest => rest
  | _ => []

/-- The event log the run is at, and the listeners it is not done with. -/
def JobPhase.current (config : JobConfig) :
    JobPhase → Option (EventLogEntity × List EventListenerEntity)
  | .gettingListeners log _ => some (log, config.getListenersByEventId log.eventId)
  | .checkingChannel log listener _ todo _ => some (log, listener :: todo)
  | .resolving log listener _ todo _ => some (log, listener :: todo)
  | .creating log listener _ todo _ => some (log, listener :: todo)
  | .reporting _ log todo _ => some (log, todo)
  | .marking log _ => some (log, [])
  | _ => none

/-- The event logs the run has read and is not done with. -/
def JobPhase.held (config : JobConfig) (phase : JobPhase) : List EventLogEntity :=
  ((phase.current config).map Prod.fst).toList ++ phase.queue

/-- What the run has found out about the listener it is at. -/
def JobPhase.Admits (config : JobConfig) : JobPhase → Prop
  | .checkingChannel _ listener type _ _ => normalizeChannelType listener.channelName = some type
  | .resolving log listener _ _ _ => wanted config log listener = true
  | .creating log listener _ _ _ => wanted config log listener = true
  | _ => True

/-- The run is done with the first listeners of its event log: those of them that should get a
notification have one. -/
def IsAt (config : JobConfig) (db : NotificationDb) (log : EventLogEntity)
    (todo : List EventListenerEntity) : Prop :=
  ∃ done, config.getListenersByEventId log.eventId = done ++ todo ∧
    prepared db log.logId = wantedIds config log done

/-- The run is at an active event log, as far as it is, and nothing is prepared for the later
ones. -/
structure Fits (config : JobConfig) (db : NotificationDb) (phase : JobPhase) : Prop where
  queued : ∀ log ∈ phase.queue, prepared db log.logId = []
  current : ∀ log todo, phase.current config = some (log, todo) → IsAt config db log todo
  admits : phase.Admits config
  active : ∀ log ∈ phase.held config, log ∈ db.eventLogs.rows ∧ log.status = some 0
  distinct : ((phase.held config).map EventLogEntity.logId).Nodup

/-- The later event logs are active, and nothing is prepared for them. -/
structure Fresh (db : NotificationDb) (logs : List EventLogEntity) : Prop where
  queued : ∀ log ∈ logs, prepared db log.logId = []
  active : ∀ log ∈ logs, log ∈ db.eventLogs.rows ∧ log.status = some 0
  distinct : (logs.map EventLogEntity.logId).Nodup

theorem Fresh.nextEventLog (fresh : Fresh db rest) : Fits config db (nextEventLog rest) := by
  cases rest with
  | nil => exact ⟨nofun, nofun, trivial, nofun, List.nodup_nil⟩
  | cons log rest =>
      refine ⟨fun later member => fresh.queued later (List.mem_cons_of_mem _ member), ?_, trivial,
        fresh.active, fresh.distinct⟩
      rintro _ _ ⟨⟩
      exact ⟨[], rfl, fresh.queued log List.mem_cons_self⟩

/-- Leaving out listeners that should not get a notification, a run goes on with its event log. -/
theorem fits_nextListener (isAt : IsAt config db log todo)
    (queued : ∀ later ∈ rest, prepared db later.logId = [])
    (active : ∀ held ∈ log :: rest, held ∈ db.eventLogs.rows ∧ held.status = some 0)
    (distinct : ((log :: rest).map EventLogEntity.logId).Nodup) :
    Fits config db (nextListener log rest todo) := by
  induction todo with
  | nil =>
      refine ⟨queued, ?_, trivial, active, distinct⟩
      rintro _ _ ⟨⟩
      exact isAt
  | cons listener todo ih =>
      unfold nextListener
      rcases supported : normalizeChannelType listener.channelName with _ | type
      · obtain ⟨done, split, sofar⟩ := isAt
        refine ih ⟨done ++ [listener], by simp [split], ?_⟩
        have unwanted : wanted config log listener = false := by simp [wanted, supported]
        rw [wantedIds_append, sofar]
        simp [wantedIds, unwanted]
      · refine ⟨queued, ?_, supported, active, distinct⟩
        rintro _ _ ⟨⟩
        exact isAt

theorem held_nextEventLog : (nextEventLog rest).held config = rest := by
  cases rest <;> rfl

theorem held_nextListener : (nextListener log rest todo).held config = log :: rest := by
  induction todo with
  | nil => rfl
  | cons listener todo ih =>
      unfold nextListener
      split
      · exact ih
      · rfl

/-! ## A call of a run -/

/-- Notifications are prepared in the order of the listeners, and for all that should get one once
an event log is processed. -/
structure Sound (config : JobConfig) (start db : NotificationDb) : Prop where
  ordered : ∀ row ∈ db.eventLogs.rows,
    prepared db row.logId <+: wantedIds config row (config.getListenersByEventId row.eventId)
  processed : ∀ row ∈ db.eventLogs.rows, row.status ≠ some 0 →
    (∃ old ∈ start.eventLogs.rows, old.logId = row.logId ∧ old.status = some 0) →
      prepared db row.logId = wantedIds config row (config.getListenersByEventId row.eventId)

/-- A call leaves the event logs but those it is at as they are. -/
structure Leaves (config : JobConfig) (start db : NotificationDb) (touched : List EventLogEntity)
    (db' : NotificationDb) : Prop where
  prepared : ∀ logId, (∀ log ∈ touched, log.logId ≠ logId) →
    prepared db' logId = prepared db logId
  rows : ∀ row : EventLogEntity, (∀ log ∈ touched, log.logId ≠ row.logId) →
    (row ∈ db'.eventLogs.rows ↔ row ∈ db.eventLogs.rows)
  sound : Sound config start db → Sound config start db'

theorem Leaves.refl (touched : List EventLogEntity) : Leaves config start db touched db :=
  ⟨fun _ _ => rfl, fun _ _ => Iff.rfl, id⟩

/-- The notification of the listener the run is at. -/
theorem prepared_create (type : NotificationType) (logId : Nat) :
    prepared { db with
        notifications := db.notifications.insert (config.notificationFor log listener type) } logId =
      prepared db logId ++ if log.logId = logId then [listener.listenerId] else [] := by
  unfold prepared
  rw [pairs_insert]
  by_cases same : log.logId = logId
  · simp [JobConfig.notificationFor, same]
  · simp [JobConfig.notificationFor, same]

theorem IsAt.created (isAt : IsAt config db log (listener :: todo))
    (isWanted : wanted config log listener = true) (type : NotificationType) :
    IsAt config { db with
      notifications := db.notifications.insert (config.notificationFor log listener type) }
      log todo := by
  obtain ⟨done, split, sofar⟩ := isAt
  refine ⟨done ++ [listener], by simp [split], ?_⟩
  rw [prepared_create, if_pos rfl, sofar, wantedIds_append]
  simp [wantedIds, isWanted]

theorem leaves_create (isAt : IsAt config db log (listener :: todo))
    (isWanted : wanted config log listener = true)
    (active : log ∈ db.eventLogs.rows ∧ log.status = some 0) (type : NotificationType) :
    Leaves config start db [log] { db with
      notifications := db.notifications.insert (config.notificationFor log listener type) } where
  prepared logId different := by
    rw [prepared_create, if_neg (different log List.mem_cons_self), List.append_nil]
  rows _ _ := Iff.rfl
  sound sound := by
    constructor
    · intro row member
      by_cases same : row.logId = log.logId
      · obtain rfl : row = log := Table.eq_of_key_eq member active.1 same
        obtain ⟨done, split, sofar⟩ := isAt.created isWanted type
        rw [sofar, split, wantedIds_append]
        exact List.prefix_append _ _
      · rw [prepared_create, if_neg (Ne.symm same), List.append_nil]
        exact sound.ordered row member
    · intro row member processed
      have different : row.logId ≠ log.logId := by
        intro same
        rw [Table.eq_of_key_eq member active.1 same] at processed
        exact processed active.2
      rw [prepared_create, if_neg (Ne.symm different), List.append_nil]
      exact sound.processed row member processed

theorem mem_marked {logId : Nat} {row : EventLogEntity} :
    row ∈ (marked db logId).eventLogs.rows ↔
      (∃ old ∈ db.eventLogs.rows, old.logId = logId ∧ row = { old with status := some 1 }) ∨
        (row ∈ db.eventLogs.rows ∧ row.logId ≠ logId) :=
  @Table.mem_updateAt _ _ db.eventLogs row logId (fun row => { row with status := some 1 })
    fun _ => rfl

theorem leaves_mark (isAt : IsAt config db log [])
    (active : log ∈ db.eventLogs.rows ∧ log.status = some 0) :
    Leaves config start db [log] (marked db log.logId) where
  prepared _ _ := rfl
  rows row different := by
    have other : row.logId ≠ log.logId := Ne.symm (different log List.mem_cons_self)
    rw [mem_marked]
    refine ⟨?_, fun member => .inr ⟨member, other⟩⟩
    rintro (⟨old, _, same, rfl⟩ | ⟨member, _⟩)
    · exact absurd same other
    · exact member
  sound sound := by
    have done : prepared db log.logId =
        wantedIds config log (config.getListenersByEventId log.eventId) := by
      obtain ⟨done, split, sofar⟩ := isAt
      rw [sofar, split, List.append_nil]
    constructor
    · intro row member
      rcases mem_marked.mp member with ⟨old, isOld, same, rfl⟩ | ⟨isOld, _⟩
      · exact sound.ordered old isOld
      · exact sound.ordered row isOld
    · intro row member processed
      rcases mem_marked.mp member with ⟨old, isOld, same, rfl⟩ | ⟨isOld, _⟩
      · obtain rfl : old = log := Table.eq_of_key_eq isOld active.1 same
        exact fun _ => done
      · exact sound.processed row isOld processed

/-- The event log the run is at. -/
def JobPhase.touched (config : JobConfig) (phase : JobPhase) : List EventLogEntity :=
  ((phase.current config).map Prod.fst).toList

theorem Fits.fresh (fits : Fits config db phase) : Fresh db phase.queue :=
  ⟨fits.queued, fun log member => fits.active log (List.mem_append_right _ member),
    fits.distinct.sublist ((List.sublist_append_right _ _).map _)⟩

/-- The later event logs stay fresh while a run is at another one. -/
theorem Fits.fresh_after (fits : Fits config db phase)
    (leaves : Leaves config start db (phase.touched config) db') : Fresh db' phase.queue := by
  have others : ∀ later ∈ phase.queue, ∀ log ∈ phase.touched config, log.logId ≠ later.logId := by
    intro later isLater log isLog
    have apart := fits.distinct
    rw [held, List.map_append, List.nodup_append] at apart
    exact apart.2.2 _ (List.mem_map_of_mem isLog) _ (List.mem_map_of_mem isLater)
  refine ⟨fun later isLater => ?_, fun later isLater => ?_, fits.fresh.distinct⟩
  · rw [leaves.prepared _ (others later isLater)]
    exact fits.queued later isLater
  · obtain ⟨member, active⟩ := fits.fresh.active later isLater
    exact ⟨(leaves.rows later (others later isLater)).mpr member, active⟩

/-- What a call leaves: a run that fits, at event logs it held before, and the others' event logs
as they were. -/
structure Proceeds (config : JobConfig) (start db : NotificationDb) (phase : JobPhase)
    (result : NotificationDb × JobPhase) : Prop where
  fits : Fits config result.1 result.2
  leaves : Leaves config start db (phase.touched config) result.1
  held : phase ≠ .gettingEventLogs → result.2.held config ⊆ phase.held config

/-- The run gives up its event log, or is done with it. -/
theorem Fits.nextEventLog (fits : Fits config db phase)
    (leaves : Leaves config start db (phase.touched config) db') :
    Proceeds config start db phase (db', nextEventLog phase.queue) where
  fits := (fits.fresh_after leaves).nextEventLog
  leaves := leaves
  held _ := by
    rw [held_nextEventLog]
    exact List.subset_append_right _ _

theorem Fits.goesOn (fits : Fits config db phase) {before : List EventListenerEntity}
    {phase' : JobPhase} (isCurrent : phase.current config = some (log, before))
    (leaves : Leaves config start db (phase.touched config) db')
    (sameLogs : db'.eventLogs = db.eventLogs) (isCurrent' : phase'.current config = some (log, todo))
    (sameQueue : phase'.queue = phase.queue) (isAt : IsAt config db' log todo)
    (admits : phase'.Admits config) : Proceeds config start db phase (db', phase') := by
  have sameHeld : phase'.held config = phase.held config := by
    rw [held, held, isCurrent, isCurrent', sameQueue]
    rfl
  refine ⟨⟨sameQueue ▸ (fits.fresh_after leaves).queued, ?_, admits, ?_, sameHeld ▸ fits.distinct⟩,
    leaves, fun _ => sameHeld ▸ List.Subset.refl _⟩
  · intro other others same
    cases isCurrent'.symm.trans same
    exact isAt
  · rw [sameHeld, sameLogs]
    exact fits.active

/-- The run goes on with the next listener of its event log. -/
theorem Fits.nextListener (fits : Fits config db phase) {before : List EventListenerEntity}
    (isCurrent : phase.current config = some (log, before))
    (leaves : Leaves config start db (phase.touched config) db')
    (sameLogs : db'.eventLogs = db.eventLogs) (isAt : IsAt config db' log todo) :
    Proceeds config start db phase (db', nextListener log phase.queue todo) := by
  have isHeld : phase.held config = log :: phase.queue := by
    rw [JobPhase.held, isCurrent]
    rfl
  have active := fits.active
  have distinct := fits.distinct
  rw [isHeld] at active distinct
  refine ⟨fits_nextListener isAt (fits.fresh_after leaves).queued (sameLogs ▸ active) distinct,
    leaves, fun _ => ?_⟩
  rw [held_nextListener, isHeld]
  exact List.Subset.refl _

/-- The run has read more about the listener it is at. -/
theorem Fits.proceed (fits : Fits config db phase) {phase' : JobPhase}
    (sameCurrent : phase'.current config = phase.current config)
    (sameQueue : phase'.queue = phase.queue) (admits : phase'.Admits config) :
    Proceeds config start db phase (db, phase') := by
  have sameHeld : phase'.held config = phase.held config := by
    rw [held, held, sameCurrent, sameQueue]
  exact ⟨⟨sameQueue ▸ fits.queued, sameCurrent ▸ fits.current, admits, sameHeld ▸ fits.active,
    sameHeld ▸ fits.distinct⟩, .refl _, fun _ => sameHeld ▸ List.Subset.refl _⟩

/-- A run that is at no event log. -/
theorem proceeds_idle {phase' : JobPhase} (leaves : Leaves config start db (phase.touched config) db')
    (none : phase'.held config = []) (admits : phase'.Admits config) :
    Proceeds config start db phase (db', phase') := by
  obtain ⟨noCurrent, noQueue⟩ := List.append_eq_nil_iff.mp none
  refine ⟨⟨?_, ?_, admits, ?_, ?_⟩, leaves, fun _ => ?_⟩
  · rw [noQueue]
    exact nofun
  · intro log todo isCurrent
    rw [isCurrent] at noCurrent
    cases noCurrent
  all_goals rw [none]
  · exact nofun
  · exact List.nodup_nil
  · exact List.nil_subset _

theorem held_nextPending {notifications : List NotificationEntity} :
    (nextPending notifications).held config = [] := by
  cases notifications <;> rfl

theorem admits_nextPending {notifications : List NotificationEntity} :
    (nextPending notifications).Admits config := by
  cases notifications <;> trivial

/-- A call that writes neither a notification's origin nor an event log. -/
theorem leaves_of_same {touched : List EventLogEntity} (samePairs : pairs db' = pairs db)
    (sameLogs : db'.eventLogs = db.eventLogs) : Leaves config start db touched db' := by
  have samePrepared : ∀ logId, prepared db' logId = prepared db logId := by
    intro logId
    rw [prepared, prepared, samePairs]
  refine ⟨fun logId _ => samePrepared logId, fun _ _ => by rw [sameLogs], fun sound => ⟨?_, ?_⟩⟩
  · intro row member
    rw [samePrepared]
    exact sound.ordered row (sameLogs ▸ member)
  · intro row member
    rw [samePrepared]
    exact sound.processed row (sameLogs ▸ member)

/-- Preparing: each call keeps the run fit and the other event logs as they were. -/
theorem proceed_spec (fits : Fits config db phase) (succeeds : Bool)
    (fresh : phase = .gettingEventLogs → succeeds = true → Fresh db (getAllEventLogs db)) :
    Proceeds config start db phase (proceed config db succeeds phase) := by
  have idle : ∀ {db'} {phase' : JobPhase}, pairs db' = pairs db → db'.eventLogs = db.eventLogs →
      phase'.held config = [] → phase'.Admits config →
        Proceeds config start db phase (db', phase') :=
    fun samePairs sameLogs => proceeds_idle (leaves_of_same samePairs sameLogs)
  cases phase with
  | gettingEventLogs =>
      cases succeeds with
      | false => exact idle rfl rfl rfl trivial
      | true => exact ⟨(fresh rfl rfl).nextEventLog, .refl _, fun other => absurd rfl other⟩
  | gettingListeners log rest =>
      cases succeeds with
      | false => exact fits.nextEventLog (.refl _)
      | true => exact fits.nextListener rfl (.refl _) rfl (fits.current log _ rfl)
  | checkingChannel log listener type todo rest =>
      cases succeeds with
      | false => exact fits.nextEventLog (.refl _)
      | true =>
          have supported : normalizeChannelType listener.channelName = some type := fits.admits
          obtain ⟨done, split, sofar⟩ := fits.current log _ rfl
          by_cases enabled : config.isChannelEnabled log.userId listener.channelId = true
          · simp only [proceed, ↓reduceIte, enabled]
            exact fits.proceed rfl rfl (by simp [Admits, wanted, supported, enabled])
          · simp only [proceed, ↓reduceIte, enabled]
            refine fits.nextListener rfl (.refl _) rfl ⟨done ++ [listener], by simp [split], ?_⟩
            rw [sofar, wantedIds_append]
            simp [wantedIds, wanted, enabled]
  | resolving log listener type todo rest =>
      cases succeeds with
      | false => exact fits.nextEventLog (.refl _)
      | true => exact fits.proceed rfl rfl fits.admits
  | creating log listener type todo rest =>
      cases succeeds with
      | false => exact fits.nextEventLog (.refl _)
      | true =>
          have isAt := fits.current log _ rfl
          have leaves := @leaves_create config db start _ _ _ isAt fits.admits
            (fits.active log List.mem_cons_self) type
          have after := isAt.created fits.admits type
          simp only [proceed, ↓reduceIte]
          split
          · exact fits.goesOn rfl leaves rfl rfl rfl after trivial
          · exact fits.nextListener rfl leaves rfl after
  | reporting failure log todo rest =>
      cases succeeds with
      | false => exact fits.nextEventLog (.refl _)
      | true =>
          exact fits.nextListener rfl (leaves_of_same rfl rfl) rfl (fits.current log _ rfl)
  | marking log rest =>
      cases succeeds with
      | false => exact fits.nextEventLog (.refl _)
      | true =>
          exact fits.nextEventLog (leaves_mark (fits.current log _ rfl)
            (fits.active log List.mem_cons_self))
  | gettingPending =>
      cases succeeds with
      | false => exact idle rfl rfl rfl trivial
      | true => exact idle rfl rfl held_nextPending admits_nextPending
  | findingChannel notification rest =>
      cases succeeds with
      | false => exact idle rfl rfl held_nextPending admits_nextPending
      | true =>
          simp only [proceed, ↓reduceIte]
          split
          · exact idle rfl rfl held_nextPending admits_nextPending
          · exact idle rfl rfl rfl trivial
  | sending channelId notification rest =>
      cases succeeds with
      | false => exact idle rfl rfl held_nextPending admits_nextPending
      | true => exact idle rfl rfl rfl trivial
  | logging result channelId notification rest =>
      cases succeeds with
      | false => exact idle rfl rfl held_nextPending admits_nextPending
      | true => exact idle rfl rfl rfl trivial
  | updating result notification rest =>
      cases succeeds with
      | false => exact idle rfl rfl held_nextPending admits_nextPending
      | true => exact idle (pairs_updateAt _ _) rfl held_nextPending admits_nextPending
  | ended => exact idle rfl rfl rfl trivial

/-! ## Interleaved runs -/

/-- A run that reads the active event logs reads none that another run holds, and none that
something was prepared for. -/
def ReadsFresh (config : JobConfig) (w : JobWorld) (step : JobStep) : Prop :=
  w.runs step.run = .gettingEventLogs → step.succeeds = true →
    ∀ log ∈ getAllEventLogs w.db, prepared w.db log.logId = [] ∧
      ∀ other, ∀ taken ∈ (w.runs other).held config, taken.logId ≠ log.logId

/-- Every step of the runs is such a one. -/
def Undisturbed (config : JobConfig) (db : NotificationDb) (steps : List JobStep) : Prop :=
  ∀ before step, before ++ [step] <+: steps → ReadsFresh config (worldAfter config db before) step

/-- Every run fits, no two runs hold one event log, and the notifications are sound. -/
structure Coherent (config : JobConfig) (start : NotificationDb) (w : JobWorld) : Prop where
  fits : ∀ run, Fits config w.db (w.runs run)
  apart : ∀ run other, run ≠ other → ∀ log ∈ (w.runs run).held config,
    ∀ taken ∈ (w.runs other).held config, log.logId ≠ taken.logId
  sound : Sound config start w.db

theorem held_of_touched (member : log ∈ phase.touched config) : log ∈ phase.held config :=
  List.mem_append_left _ member

/-- A run that holds none of the event logs touched fits as before. -/
theorem Fits.frame (fits : Fits config db phase) {touched : List EventLogEntity}
    (leaves : Leaves config start db touched db')
    (apart : ∀ log ∈ touched, ∀ taken ∈ phase.held config, log.logId ≠ taken.logId) :
    Fits config db' phase := by
  have same : ∀ taken ∈ phase.held config, prepared db' taken.logId = prepared db taken.logId :=
    fun taken isHeld => leaves.prepared _ fun log touches => apart log touches taken isHeld
  refine ⟨fun log member => ?_, fun log todo isCurrent => ?_, fits.admits, fun log isHeld => ?_,
    fits.distinct⟩
  · rw [same log (List.mem_append_right _ member)]
    exact fits.queued log member
  · obtain ⟨done, split, sofar⟩ := fits.current log todo isCurrent
    have isHeld : log ∈ phase.held config := by
      rw [held, isCurrent]
      exact List.mem_cons_self
    exact ⟨done, split, (same log isHeld).trans sofar⟩
  · obtain ⟨member, active⟩ := fits.active log isHeld
    exact ⟨(leaves.rows log fun other touches => apart other touches log isHeld).mpr member, active⟩

theorem fresh_getAllEventLogs (unprepared : ∀ log ∈ getAllEventLogs db, prepared db log.logId = []) :
    Fresh db (getAllEventLogs db) where
  queued := unprepared
  active log member := by
    obtain ⟨isRow, active⟩ := Table.mem_select.mp member
    exact ⟨isRow, beq_iff_eq.mp active⟩
  distinct := db.eventLogs.distinct.sublist (List.filter_sublist.map _)

theorem Coherent.step {w : JobWorld} (coherent : Coherent config start w) {step : JobStep}
    (readsFresh : ReadsFresh config w step) : Coherent config start (performStep config w step) := by
  have fresh : w.runs step.run = .gettingEventLogs → step.succeeds = true →
      Fresh w.db (getAllEventLogs w.db) := fun isReading succeeds =>
    fresh_getAllEventLogs fun log member => (readsFresh isReading succeeds log member).1
  have proceeds := @proceed_spec config w.db start _ (coherent.fits step.run) step.succeeds fresh
  have holds : ∀ log ∈ (proceed config w.db step.succeeds (w.runs step.run)).2.held config,
      ∀ other, other ≠ step.run → ∀ taken ∈ (w.runs other).held config, log.logId ≠ taken.logId := by
    intro log isHeld other isOther taken isTaken
    by_cases reading : w.runs step.run = .gettingEventLogs
    · rw [reading] at isHeld
      rcases succeeds : step.succeeds
      · rw [succeeds] at isHeld
        cases isHeld
      · simp only [succeeds, proceed, ↓reduceIte, held_nextEventLog] at isHeld
        exact Ne.symm ((readsFresh reading succeeds log isHeld).2 other taken isTaken)
    · exact coherent.apart _ _ (Ne.symm isOther) log (proceeds.held reading isHeld) taken isTaken
  unfold performStep
  refine ⟨fun run => ?_, fun run other different log isHeld taken isTaken => ?_,
    proceeds.leaves.sound coherent.sound⟩
  · by_cases same : run = step.run
    · subst same
      simpa only [Function.update_self] using proceeds.fits
    · simp only [Function.update_of_ne same]
      exact (coherent.fits run).frame proceeds.leaves fun log touches =>
        coherent.apart _ _ (Ne.symm same) log (held_of_touched touches)
  · dsimp only at isHeld isTaken
    by_cases same : run = step.run
    · subst same
      rw [Function.update_self] at isHeld
      rw [Function.update_of_ne (Ne.symm different)] at isTaken
      exact holds log isHeld other (Ne.symm different) taken isTaken
    · rw [Function.update_of_ne same] at isHeld
      by_cases sameOther : other = step.run
      · subst sameOther
        rw [Function.update_self] at isTaken
        exact Ne.symm (holds taken isTaken run same log isHeld)
      · rw [Function.update_of_ne sameOther] at isTaken
        exact coherent.apart run other different log isHeld taken isTaken

theorem prepared_eq_nil
    (unprepared : ∀ notification ∈ db.notifications.rows, notification.preparedFor = none)
    (logId : Nat) : prepared db logId = [] := by
  have noPairs : pairs db = [] := List.filterMap_eq_nil_iff.mpr unprepared
  rw [prepared, noPairs]
  rfl

theorem coherent_beforeRuns
    (unprepared : ∀ notification ∈ db.notifications.rows, notification.preparedFor = none) :
    Coherent config db (beforeRuns db) := by
  refine ⟨fun _ => ⟨nofun, nofun, trivial, nofun, List.nodup_nil⟩, fun _ _ _ => nofun, ?_, ?_⟩
  · intro row _
    rw [beforeRuns, prepared_eq_nil unprepared]
    exact List.nil_prefix
  · rintro row member processed ⟨old, isOld, same, active⟩
    obtain rfl : old = row := Table.eq_of_key_eq isOld member same
    exact absurd active processed

theorem coherent_worldAfter {steps : List JobStep}
    (unprepared : ∀ notification ∈ db.notifications.rows, notification.preparedFor = none)
    (undisturbed : Undisturbed config db steps) :
    Coherent config db (worldAfter config db steps) := by
  induction steps using List.reverseRecOn with
  | nil => exact coherent_beforeRuns unprepared
  | append_singleton before step ih =>
      have earlier : Undisturbed config db before := fun older other isPrefix =>
        undisturbed older other (isPrefix.trans (List.prefix_append _ _))
      rw [worldAfter, List.foldl_append]
      exact (ih earlier).step (undisturbed before step (List.prefix_refl _))

/-- Where every run reads event logs that are fresh, each state reached has exactly one
notification for each processed event log and listener, and at most one for the others. -/
theorem exactly_once {steps : List JobStep}
    (unprepared : ∀ notification ∈ db.notifications.rows, notification.preparedFor = none)
    (undisturbed : Undisturbed config db steps) :
    ExactlyOnce config db (worldAfter config db steps).db := by
  have sound := (coherent_worldAfter unprepared undisturbed).sound
  intro log member listener isListener isWanted
  rw [count_pairs]
  refine ⟨List.nodup_iff_count_le_one.mp
    ((sound.ordered log member).sublist.nodup (wantedIds_nodup _)) _, fun processed wasActive => ?_⟩
  rw [sound.processed log member (by simp [processed]) wasActive]
  refine List.count_eq_one_of_mem (wantedIds_nodup _) ?_
  exact List.mem_map_of_mem (List.mem_filter.mpr ⟨isListener, isWanted⟩)

/-! ## One run, and a run after a failed one -/

/-- A run reads the event logs once, at its start. -/
theorem proceed_ne_gettingEventLogs (succeeds : Bool) :
    (proceed config db succeeds phase).2 ≠ .gettingEventLogs := by
  have next : ∀ logs : List EventLogEntity, nextEventLog logs ≠ .gettingEventLogs := by
    rintro (_ | _) <;> nofun
  have listener : ∀ log rest listeners, nextListener log rest listeners ≠ .gettingEventLogs := by
    intro log rest listeners
    induction listeners with
    | nil => nofun
    | cons first others ih =>
        unfold nextListener
        split
        · exact ih
        · nofun
  have pending : ∀ notifications : List NotificationEntity,
      nextPending notifications ≠ .gettingEventLogs := by
    rintro (_ | _) <;> nofun
  cases phase with
  | ended => nofun
  | checkingChannel log first type todo rest =>
      simp only [proceed]
      split
      · split
        · nofun
        · exact listener _ _ _
      · exact next _
  | findingChannel notification rest =>
      simp only [proceed]
      split
      · split
        · exact pending _
        · nofun
      · exact pending _
  | creating log first type todo rest =>
      simp only [proceed]
      split
      · dsimp only
        split
        · nofun
        · exact listener _ _ _
      · exact next _
  | _ =>
      simp only [proceed]
      split <;> simp [next, listener, pending]

/-- A single run, whatever fails, reads event logs that are fresh. -/
theorem undisturbed_of_one_run {steps : List JobStep} (run : Nat)
    (unprepared : ∀ notification ∈ db.notifications.rows, notification.preparedFor = none)
    (oneRun : ∀ step ∈ steps, step.run = run) : Undisturbed config db steps := by
  intro before step isPrefix reading _
  have inSteps : ∀ other ∈ before ++ [step], other.run = run := fun other member =>
    oneRun other (isPrefix.subset member)
  rcases List.eq_nil_or_concat before with rfl | ⟨older, last, rfl⟩
  · exact fun log _ => ⟨prepared_eq_nil unprepared _, fun _ => nofun⟩
  · rw [List.concat_eq_append] at inSteps reading
    have sameRun : last.run = step.run :=
      (inSteps last (by simp)).trans (inSteps step (by simp)).symm
    have after : (worldAfter config db (older ++ [last])).runs step.run =
        (proceed config (worldAfter config db older).db last.succeeds
          ((worldAfter config db older).runs last.run)).2 := by
      simp only [worldAfter, List.foldl_append, List.foldl_cons, List.foldl_nil, performStep,
        sameRun, Function.update_self]
    rw [after] at reading
    exact absurd reading (proceed_ne_gettingEventLogs _)

/-- Two listeners of one event, by mail and in the system. -/
def twoListeners : JobConfig where
  listeners := .ofRows
    [{ listenerId := 0, eventId := 1, channelId := 1, isActive := true, channelName := some "Email"
       templateSubject := none, templateMessage := none },
     { listenerId := 0, eventId := 1, channelId := 2, isActive := true, channelName := some "system"
       templateSubject := none, templateMessage := none }]
  preferences := .empty _
  channels := .ofRows [{ channelId := 0, name := "email" }, { channelId := 0, name := "system" }]
  render _ subject message := { subject := subject, message := message, missingRequired := [] }
  send _ := { status := .sent, response := none }

/-- One event log that is not processed. -/
def oneEventLog : NotificationDb where
  eventLogs := .ofRows
    [{ logId := 0, eventId := 1, userId := 5, status := some 0, eventName := some "created" }]
  notifications := .empty _
  notificationLogs := .empty _

/-- Successful calls of a run. -/
def goes (run calls : Nat) : List JobStep := List.replicate calls { run := run, succeeds := true }

theorem exactly_once_oneEventLog :
    ExactlyOnce twoListeners oneEventLog (worldAfter twoListeners oneEventLog (goes 0 9)).db :=
  exactly_once (by decide) (undisturbed_of_one_run 0 (by decide)
    fun _ member => by rw [List.eq_of_mem_replicate member])

/-- The second listener's call fails after the first notification, and the next run prepares that
one again. -/
theorem prepared_twice_after_failure :
    ¬ ExactlyOnce twoListeners oneEventLog (worldAfter twoListeners oneEventLog
      (goes 0 5 ++ { run := 0, succeeds := false } :: goes 1 5)).db := by
  decide +kernel

end CoreApi.Notifications
