import Mathlib.Data.List.Sort

/-!
# Working hours

Fitting instants and durations into the calendar of a tenant or a user, day by
day in its timezone. An instant is in milliseconds since the epoch, a local date in
days since it. `Zone` is the wall-clock arithmetic the scheduler takes from `luxon`,
`CalendarProvider` the interface behind which the calendar lies.
-/

namespace CoreApi.Scheduler

/-! ## Instants and timezones -/

/-- `minutes: 1`. -/
def oneMinute : Int := 60000

def millisPerDay : Int := 86400000

/-- A timezone. `instantOf base date time` is the instant at which its clocks show
`time` (in milliseconds since midnight) on `date`; where the clocks show it twice or
never, the offset at `base` decides. -/
structure Zone where
  dateOf : (instant : Int) → Int
  timeOf : (instant : Int) → Int
  instantOf : (base date time : Int) → Int

namespace Zone

/-- The timezone whose clocks are ahead of UTC by a fixed offset. -/
def fixedOffset (offset : Int) : Zone where
  dateOf instant := (instant + offset) / millisPerDay
  timeOf instant := (instant + offset) % millisPerDay
  instantOf _ date time := date * millisPerDay + time - offset

variable (zone : Zone)

/-- `startOf('day')`. -/
def startOfDay (instant : Int) : Int := zone.instantOf instant (zone.dateOf instant) 0

/-- `plus({ days: 1 })`. -/
def plusDay (instant : Int) : Int :=
  zone.instantOf instant (zone.dateOf instant + 1) (zone.timeOf instant)

end Zone

/-- `weekdayFromLuxon`: 1 (Monday) to 7; the epoch was a Thursday. -/
def weekday (date : Int) : Nat := ((date + 3) % 7 + 1).toNat

/-! ## The intervals of a day -/

/-- A clock reading, as working hours are stored. -/
structure ClockTime where
  hour : Nat
  minute : Nat
  second : Nat
deriving DecidableEq

/-- Milliseconds since midnight. -/
def ClockTime.millis (time : ClockTime) : Int :=
  ((time.hour * 60 + time.minute) * 60 + time.second) * 1000

/-- `TimeInterval`: working hours of a weekday. -/
structure TimeInterval where
  start : ClockTime
  stop : ClockTime
deriving DecidableEq

/-- A valid `Interval`: its end is not before its start. -/
structure Interval where
  start : Int
  stop : Int
  ordered : start ≤ stop

/-- `Interval.fromDateTimes`; an interval that ends before it starts is invalid. -/
def Interval.fromDateTimes (start stop : Int) : Option Interval :=
  if ordered : start ≤ stop then some ⟨start, stop, ordered⟩ else none

/-- `Interval.contains`: an interval contains its start and not its end. -/
def Interval.contains (interval : Interval) (instant : Int) : Bool :=
  decide (interval.start ≤ instant) && decide (instant < interval.stop)

/-- `buildIntervalsForDay`; `none` is an invalid interval. -/
def buildIntervalsForDay (zone : Zone) (dtLocal : Int) (slots : List TimeInterval) :
    List (Option Interval) :=
  slots.map fun slot => Interval.fromDateTimes
    (zone.instantOf dtLocal (zone.dateOf dtLocal) slot.start.millis)
    (zone.instantOf dtLocal (zone.dateOf dtLocal) slot.stop.millis)

/-- `isWithinAnyInterval`. -/
def isWithinAnyInterval (dtLocal : Int) (intervals : List (Option Interval)) : Bool :=
  intervals.any fun interval => interval.any fun valid => valid.contains dtLocal

/-- `nextStartAfter`. -/
def nextStartAfter (dtLocal : Int) (intervals : List (Option Interval)) : Option Int :=
  (((intervals.filterMap fun interval => interval.map Interval.start).filter
    fun start => decide (dtLocal < start)).insertionSort (· ≤ ·)).head?

/-- `CalendarProvider`; a timezone is always named, where there is no other it is UTC. -/
structure CalendarProvider where
  getTimezone : (tenantId : Nat) → (tenantUserId : Option Nat) → String
  isOffDateLocal : (tenantId : Nat) → (tenantUserId : Option Nat) → (isoDate : Int) → Bool
  getWorkingIntervalsLocal : (tenantId : Nat) → (tenantUserId : Option Nat) →
    (isoDate : Int) → (weekday : Nat) → List TimeInterval
  named : ∀ tenantId tenantUserId, getTimezone tenantId tenantUserId ≠ ""

/-- Whose calendar it is, and the timezone it is read in. -/
structure CalendarOf where
  calendar : CalendarProvider
  zone : Zone
  tenantId : Nat
  tenantUserId : Option Nat

namespace CalendarOf

variable (of : CalendarOf)

/-- The working intervals on the day of an instant: none on a day off. -/
def intervalsOn (dtLocal : Int) : List (Option Interval) :=
  let dateStr := of.zone.dateOf dtLocal
  let slots :=
    if of.calendar.isOffDateLocal of.tenantId of.tenantUserId dateStr then []
    else of.calendar.getWorkingIntervalsLocal of.tenantId of.tenantUserId dateStr (weekday dateStr)
  buildIntervalsForDay of.zone dtLocal slots

/-! ## Fitting an instant -/

/-- The days `nextAllowedUtc` looks at, from the one of the cursor on. -/
def searchDays (requestedUtc : Int) : Nat → Int → Int
  | 0, _ => requestedUtc
  | days + 1, cursor =>
      let intervals := of.intervalsOn cursor
      if isWithinAnyInterval cursor intervals then cursor
      else
        match nextStartAfter cursor intervals with
        | some next => next
        | none => searchDays requestedUtc days (of.zone.startOfDay (of.zone.plusDay cursor))

/-- `nextAllowedUtc`: the request itself where no day of the next year is worked. -/
def nextAllowedUtc (requestedUtc : Int) : Int := of.searchDays requestedUtc 366 requestedUtc

/-! ## Fitting a duration -/

/-- Work through the intervals of one day: the instant the work is done at, or the
work that remains. -/
def consume : List (Option Interval) → Int → Int → Int ⊕ Int
  | [], _, remaining => .inr remaining
  | none :: rest, pointer, remaining => consume rest pointer remaining
  | some interval :: rest, pointer, remaining =>
      let usableStart := if interval.start < pointer then pointer else interval.start
      if interval.stop ≤ usableStart then consume rest pointer remaining
      else
        let available := interval.stop - usableStart
        if remaining ≤ available then .inl (usableStart + remaining)
        else consume rest interval.stop (remaining - available)

/-- The days `addDurationWithinWorkingHours` works through. -/
def workDays (fallback : Int) : Nat → Int → Int → Int
  | 0, _, _ => fallback
  | days + 1, pointer, remaining =>
      if remaining ≤ 0 then fallback
      else
        match consume (of.intervalsOn pointer) pointer remaining with
        | .inl finish => finish
        | .inr left => workDays fallback days (of.zone.plusDay (of.zone.startOfDay pointer)) left

/-- `addDurationWithinWorkingHours`: wall-clock time where the work is not done
within a year. -/
def addDurationWithinWorkingHours (startUtc : Int) (durationMs : Int) : Int :=
  if durationMs ≤ 0 then startUtc
  else of.workDays (startUtc + durationMs) 366 startUtc durationMs

end CalendarOf

end CoreApi.Scheduler
