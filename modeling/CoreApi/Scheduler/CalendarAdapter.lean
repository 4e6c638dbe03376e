import CoreApi.Automation.ProcessHost
import CoreApi.Scheduler.Calendar

/-!
# The calendar adapter

The calendar behind the scheduler: timezones, days off and working hours of a user,
and those of its tenant where the user has none.
-/

namespace CoreApi.Scheduler

open Automation

/-- `tenant_working_hours` and `tenant_user_working_hours`; `ownerId` is the tenant or the
user, `dayOfWeek` is 1 (Monday) to 7. -/
structure WorkingHours where
  ownerId : Nat
  dayOfWeek : Nat
  startTime : ClockTime
  endTime : ClockTime
deriving DecidableEq

/-- `tenant_off_days` and `tenant_user_off_days`. -/
structure OffDay where
  ownerId : Nat
  offDate : Int
deriving DecidableEq

/-- The repositories of the adapter; a configuration is an owner and its timezone. -/
structure CalendarAdapter where
  tucRepo : List (Nat × Option String)
  tcRepo : List (Nat × Option String)
  tuwhRepo : List WorkingHours
  twhRepo : List WorkingHours
  tuodRepo : List OffDay
  todRepo : List OffDay

namespace CalendarAdapter

variable (adapter : CalendarAdapter)

/-- The user of a call; 0 is none. -/
def userOf (tenantUserId : Option Nat) : Option Nat := tenantUserId.filter (· != 0)

/-- The timezone in a configuration, unless it is empty. -/
def timezoneIn (configurations : List (Nat × Option String)) (ownerId : Nat) : Option String :=
  (configurations.lookup ownerId).join.filter (· != "")

/-- `getTimezone`. -/
def getTimezone (tenantId : Nat) (tenantUserId : Option Nat) : String :=
  (((userOf tenantUserId).bind (timezoneIn adapter.tucRepo)) <|>
    timezoneIn adapter.tcRepo tenantId).getD "UTC"

/-- `isOffDateLocal`. -/
def isOffDateLocal (tenantId : Nat) (tenantUserId : Option Nat) (isoDate : Int) : Bool :=
  (userOf tenantUserId).any (fun user => adapter.tuodRepo.contains ⟨user, isoDate⟩) ||
    adapter.todRepo.contains ⟨tenantId, isoDate⟩

/-- `startTime.slice(0, 5)`. -/
def sliced (time : ClockTime) : ClockTime := { time with second := 0 }

/-- The hours of an owner on a weekday, in the order of their start. -/
def hoursOf (rows : List WorkingHours) (ownerId weekday : Nat) : List TimeInterval :=
  (orderBy (fun row => row.startTime.millis)
    (rows.filter fun row => row.ownerId == ownerId && row.dayOfWeek == weekday)).map fun row =>
      ⟨sliced row.startTime, sliced row.endTime⟩

/-- `getWorkingIntervalsLocal`; the weekday decides, not the date. -/
def getWorkingIntervalsLocal (tenantId : Nat) (tenantUserId : Option Nat) (weekday : Nat) :
    List TimeInterval :=
  match userOf tenantUserId with
  | none => hoursOf adapter.twhRepo tenantId weekday
  | some user =>
      let userSlots := hoursOf adapter.tuwhRepo user weekday
      if userSlots.length = 0 then hoursOf adapter.twhRepo tenantId weekday else userSlots

theorem getTimezone_ne_empty (tenantId : Nat) (tenantUserId : Option Nat) :
    adapter.getTimezone tenantId tenantUserId ≠ "" := by
  have named : ∀ configurations ownerId timezone,
      timezoneIn configurations ownerId = some timezone → timezone ≠ "" := by
    intro configurations ownerId timezone found
    obtain ⟨_, nonempty⟩ := Option.filter_eq_some_iff.mp found
    simpa using nonempty
  unfold getTimezone
  cases ofUser : (userOf tenantUserId).bind (timezoneIn adapter.tucRepo) with
  | some timezone =>
      obtain ⟨_, _, found⟩ := Option.bind_eq_some_iff.mp ofUser
      exact named _ _ timezone found
  | none =>
      cases ofTenant : timezoneIn adapter.tcRepo tenantId with
      | some timezone => exact named _ _ timezone ofTenant
      | none => simp

/-- `CalendarAdapter` as a `CalendarProvider`. -/
def provider : CalendarProvider where
  getTimezone := adapter.getTimezone
  isOffDateLocal := adapter.isOffDateLocal
  getWorkingIntervalsLocal tenantId tenantUserId _ weekday :=
    adapter.getWorkingIntervalsLocal tenantId tenantUserId weekday
  named := adapter.getTimezone_ne_empty

/-- Cutting off the seconds keeps the order of clock readings. -/
theorem sliced_mono {a b : ClockTime} (ordered : a.millis ≤ b.millis) (ha : a.second < 60)
    (hb : b.second < 60) : (sliced a).millis ≤ (sliced b).millis := by
  simp only [ClockTime.millis, sliced] at ordered ⊢
  push_cast at ordered ⊢
  omega

theorem hoursOf_ordered {rows : List WorkingHours} (ownerId weekday : Nat)
    (clock : ∀ row ∈ rows, row.startTime.second < 60) :
    (hoursOf rows ownerId weekday).Pairwise fun a b => a.start.millis ≤ b.start.millis := by
  unfold hoursOf
  rw [List.pairwise_map]
  have sorted : (orderBy (fun row => row.startTime.millis) (rows.filter fun row =>
      row.ownerId == ownerId && row.dayOfWeek == weekday)).Pairwise
        fun a b => a.startTime.millis ≤ b.startTime.millis := List.pairwise_insertionSort _ _
  have members : ∀ row ∈ orderBy (fun row => row.startTime.millis) (rows.filter fun row =>
      row.ownerId == ownerId && row.dayOfWeek == weekday), row ∈ rows := by
    intro row member
    rw [mem_orderBy] at member
    exact List.mem_of_mem_filter member
  refine sorted.imp_of_mem fun first second ordered => ?_
  exact sliced_mono ordered (clock _ (members _ first)) (clock _ (members _ second))

/-- The slots of a day come in the order of their start. -/
theorem getWorkingIntervalsLocal_ordered (tenantId : Nat) (tenantUserId : Option Nat)
    (weekday : Nat) (userClock : ∀ row ∈ adapter.tuwhRepo, row.startTime.second < 60)
    (tenantClock : ∀ row ∈ adapter.twhRepo, row.startTime.second < 60) :
    (adapter.getWorkingIntervalsLocal tenantId tenantUserId weekday).Pairwise
      fun a b => a.start.millis ≤ b.start.millis := by
  unfold getWorkingIntervalsLocal
  split
  · exact hoursOf_ordered _ _ tenantClock
  · dsimp only
    split
    · exact hoursOf_ordered _ _ tenantClock
    · exact hoursOf_ordered _ _ userClock

end CalendarAdapter

end CoreApi.Scheduler
