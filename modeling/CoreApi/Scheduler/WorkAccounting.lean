import CoreApi.Foundation.WorkingTime
import CoreApi.Scheduler.WorkingDays

/-!
# Accounting for work

`addDurationWithinWorkingHours` uses up the intervals of one day after another. Where
they come in order it ends at the first instant by which the duration was worked, if
that lies in the days it looks at; otherwise it adds wall-clock time.
-/

namespace CoreApi.Scheduler

open CoreApi.Foundation

namespace CalendarOf

variable {of : CalendarOf}

/-! ## One day -/

instance (intervals : List (Option Interval)) : DecidablePred (InIntervals intervals) := fun _ =>
  decidable_of_iff _ isWithinAnyInterval_iff

/-- The valid intervals of a list come in the order of their starts. -/
def InOrder (intervals : List (Option Interval)) : Prop :=
  intervals.Pairwise fun a b => ∀ first ∈ a, ∀ second ∈ b, first.start ≤ second.start

theorem inIntervals_none {rest : List (Option Interval)} {instant : Int} :
    InIntervals (none :: rest) instant ↔ InIntervals rest instant := by
  simp [InIntervals]

theorem inIntervals_some {interval : Interval} {rest : List (Option Interval)} {instant : Int} :
    InIntervals (some interval :: rest) instant ↔
      (interval.start ≤ instant ∧ instant < interval.stop) ∨ InIntervals rest instant := by
  unfold InIntervals
  constructor
  · rintro ⟨other, member, within⟩
    rcases List.mem_cons.mp member with same | behind
    · cases same
      exact .inl within
    · exact .inr ⟨other, behind, within⟩
  · rintro (within | ⟨other, behind, within⟩)
    · exact ⟨interval, List.mem_cons_self, within⟩
    · exact ⟨other, List.mem_cons_of_mem _ behind, within⟩

/-- What is left of a day's work is what the day did not take. -/
def Leaves (worked : Int → Prop) [DecidablePred worked] (pointer stop remaining : Int) :
    Int ⊕ Int → Prop
  | .inl finish => IsFinish worked pointer remaining finish ∧ finish ≤ stop
  | .inr left => 0 < left ∧ work worked pointer stop + left = remaining

theorem Leaves.congr {worked other : Int → Prop} [DecidablePred worked] [DecidablePred other]
    {pointer stop remaining : Int} {result : Int ⊕ Int}
    (leaves : Leaves worked pointer stop remaining result)
    (same : ∀ instant, pointer ≤ instant → instant < stop → (worked instant ↔ other instant)) :
    Leaves other pointer stop remaining result := by
  cases result with
  | inl finish =>
      obtain ⟨isFinish, early⟩ := leaves
      exact ⟨isFinish.congr fun instant later before => same instant later (before.trans_le early),
        early⟩
  | inr left =>
      obtain ⟨positive, accounted⟩ := leaves
      exact ⟨positive, by rwa [← work_congr same]⟩

section FirstInterval

variable {interval : Interval} {rest : List (Option Interval)} {pointer usableStart stop : Int}

/-- Nothing is worked before the first interval starts. -/
theorem idle_before_first
    (startsFirst : ∀ other, some other ∈ rest → interval.start ≤ other.start)
    (usable : usableStart = pointer ∨ usableStart = interval.start) (instant : Int)
    (notBefore : pointer ≤ instant) (early : instant < usableStart) :
    ¬InIntervals (some interval :: rest) instant := by
  rw [inIntervals_some]
  rintro (⟨lower, _⟩ | ⟨other, member, lower, _⟩)
  · omega
  · have := startsFirst other member
    omega

/-- Behind the first interval the others count. -/
theorem inIntervals_behind {instant : Int} (late : interval.stop ≤ instant) :
    InIntervals rest instant ↔ InIntervals (some interval :: rest) instant := by
  rw [inIntervals_some]
  exact ⟨.inr, fun either => either.resolve_left fun within => by omega⟩

/-- All of the first interval is worked. -/
theorem full_in_first {instant : Int} (starts : interval.start ≤ instant)
    (before : instant < interval.stop) : InIntervals (some interval :: rest) instant :=
  inIntervals_some.mpr (.inl ⟨starts, before⟩)

/-- The first interval is worked through from its usable start, where it is long enough, and
else taken whole before the others. -/
theorem consume_first
    (startsFirst : ∀ other, some other ∈ rest → interval.start ≤ other.start)
    (ends : interval.stop ≤ stop)
    (later : ∀ {pointer remaining : Int}, pointer ≤ stop → 0 < remaining →
      Leaves (InIntervals rest) pointer stop remaining (consume rest pointer remaining))
    {remaining : Int} (ahead : pointer ≤ stop) (positive : 0 < remaining) :
    Leaves (InIntervals (some interval :: rest)) pointer stop remaining
      (consume (some interval :: rest) pointer remaining) := by
  unfold consume
  dsimp only
  generalize isUsable : (if interval.start < pointer then pointer else interval.start) =
    usableStart
  have usable : pointer ≤ usableStart ∧ interval.start ≤ usableStart ∧
      (usableStart = pointer ∨ usableStart = interval.start) := by
    rw [← isUsable]
    split <;> omega
  have idle := idle_before_first startsFirst usable.2.2
  have full : ∀ instant, usableStart ≤ instant → instant < interval.stop →
      InIntervals (some interval :: rest) instant :=
    fun instant starts before => full_in_first (by omega) before
  split
  · next unusable =>
      refine (later ahead positive).congr fun instant notBefore _ => ?_
      rw [inIntervals_some]
      exact ⟨.inr, fun either => either.resolve_left fun within => by omega⟩
  · next open' =>
      split
      · next enough =>
          refine ⟨IsFinish.idle_before usable.1 positive idle ?_, by omega⟩
          exact IsFinish.full positive.le fun instant starts before =>
            full instant starts (by omega)
      · next short =>
          have taken : work (InIntervals (some interval :: rest)) pointer interval.stop =
              interval.stop - usableStart := by
            rw [work_add usable.1 (by omega), work_none idle, work_full (by omega) full, zero_add]
          have others := (@later interval.stop (remaining - (interval.stop - usableStart))
            ends (by omega)).congr fun instant behind _ => inIntervals_behind behind
          revert others
          generalize consume rest interval.stop (remaining - (interval.stop - usableStart)) = result
          intro others
          cases result with
          | inl finish =>
              exact ⟨others.1.resume (by omega) (by omega) (by rw [taken]; ring), others.2⟩
          | inr left =>
              refine ⟨others.1, ?_⟩
              rw [work_add (by omega : pointer ≤ interval.stop) ends, taken, add_assoc, others.2]
              ring

end FirstInterval

/-- The intervals of a day that come in order are worked through without a gap. -/
theorem consume_leaves {intervals : List (Option Interval)} (inOrder : InOrder intervals)
    {stop : Int} (within : ∀ interval, some interval ∈ intervals → interval.stop ≤ stop) :
    ∀ {pointer remaining : Int}, pointer ≤ stop → 0 < remaining →
      Leaves (InIntervals intervals) pointer stop remaining
        (consume intervals pointer remaining) := by
  induction intervals with
  | nil =>
      intro pointer remaining _ positive
      have idle : work (InIntervals []) pointer stop = 0 :=
        work_none fun _ _ _ => by simp [InIntervals]
      exact ⟨positive, by rw [idle, zero_add]⟩
  | cons first rest ih =>
      intro pointer remaining ahead positive
      obtain ⟨before, restInOrder⟩ := List.pairwise_cons.mp inOrder
      have later := @ih restInOrder fun interval member =>
        within interval (List.mem_cons_of_mem _ member)
      cases first with
      | none => exact (later ahead positive).congr fun _ _ _ => inIntervals_none.symm
      | some interval =>
          have startsFirst : ∀ other, some other ∈ rest → interval.start ≤ other.start :=
            fun other member => before _ member interval rfl other rfl
          exact consume_first startsFirst (within interval List.mem_cons_self) later ahead positive

/-! ## Day after day -/

variable (of) in
/-- The beginning of the day after. -/
def nextDay (instant : Int) : Int := of.zone.plusDay (of.zone.startOfDay instant)

variable (of) in
/-- The beginning of the day `days` after: the local days until then are the next `days`,
today from now on included. -/
def horizon (days : Nat) (now : Int) : Int := of.nextDay^[days] now

variable (of) in
/-- The working time from one instant to another. -/
def workingTime (start stop : Int) : Int := work of.IsWorking start stop

section Days

variable {first last pointer : Int}

/-- The intervals of a day come in order where its slots do. -/
theorem KeepsTime.inOrder (keeps : of.KeepsTime first last) (slots : of.SlotsInOrder)
    (from' : first ≤ of.zone.dateOf pointer) (before : of.zone.dateOf pointer < last) :
    InOrder (of.intervalsOn pointer) := by
  show ((of.slotsOn (of.zone.dateOf pointer)).map _).Pairwise _
  rw [List.pairwise_map]
  refine (slots (of.zone.dateOf pointer)).imp_of_mem ?_
  intro a b memberA memberB ordered interval isFirst other isSecond
  have starts : ∀ slot : TimeInterval, ∀ built : Interval,
      built ∈ Interval.fromDateTimes
        (of.zone.instantOf pointer (of.zone.dateOf pointer) slot.start.millis)
        (of.zone.instantOf pointer (of.zone.dateOf pointer) slot.stop.millis) →
      built.start = of.zone.instantOf pointer (of.zone.dateOf pointer) slot.start.millis := by
    intro slot built isBuilt
    unfold Interval.fromDateTimes at isBuilt
    split at isBuilt
    · cases isBuilt
      rfl
    · cases isBuilt
  rw [starts a interval isFirst, starts b other isSecond]
  have earlier := keeps.slotStart pointer from' before a memberA
  have later := keeps.slotStart pointer from' before b memberB
  rw [earlier]
  have shows := (later _).mp le_rfl
  unfold Zone.IsPast at shows ⊢
  omega

/-- An interval of a day ends before the next day begins. -/
theorem KeepsTime.stop_le_nextDay (keeps : of.KeepsTime first last)
    (from' : first ≤ of.zone.dateOf pointer) (before : of.zone.dateOf pointer < last)
    {interval : Interval} (member : some interval ∈ of.intervalsOn pointer) :
    interval.stop ≤ of.nextDay pointer := by
  obtain ⟨slot, slotMember, _, stop⟩ := mem_intervalsOn.mp member
  have tomorrow := (keeps.tomorrow pointer from' before).1
  rw [stop, keeps.slotStop pointer from' before slot slotMember]
  refine .inl ?_
  show _ < of.zone.dateOf (of.zone.plusDay (of.zone.startOfDay pointer))
  rw [tomorrow.date]
  omega

theorem KeepsTime.lt_nextDay (keeps : of.KeepsTime first last)
    (from' : first ≤ of.zone.dateOf pointer) (before : of.zone.dateOf pointer < last) :
    pointer < of.nextDay pointer := by
  have tomorrow := (keeps.tomorrow pointer from' before).1
  refine keeps.lt_of_date from' before ?_
  show _ < of.zone.dateOf (of.zone.plusDay (of.zone.startOfDay pointer))
  rw [tomorrow.date]
  omega

theorem KeepsTime.worked_today (keeps : of.KeepsTime first last)
    (from' : first ≤ of.zone.dateOf pointer) (before : of.zone.dateOf pointer < last)
    {instant : Int} (later : pointer ≤ instant) (today : instant < of.nextDay pointer) :
    InIntervals (of.intervalsOn pointer) instant ↔ of.IsWorking instant := by
  have tomorrow := (keeps.tomorrow pointer from' before).1.passes instant
  have dates := keeps.date_le from' before later
  have sameDay : of.zone.dateOf instant = of.zone.dateOf pointer := by
    unfold nextDay at today
    omega
  rw [keeps.inIntervals_iff from' before]
  exact and_iff_right sameDay

/-- The range of dates of a pointer that moves on by a day. -/
theorem KeepsTime.next {days : Nat}
    (keeps : of.KeepsTime (of.zone.dateOf pointer) (of.zone.dateOf pointer + (days + 1 : Nat))) :
    of.KeepsTime (of.zone.dateOf (of.nextDay pointer))
      (of.zone.dateOf (of.nextDay pointer) + days) := by
  have tomorrow := (keeps.tomorrow pointer le_rfl (by omega)).1.date
  have same : of.zone.dateOf (of.nextDay pointer) = of.zone.dateOf pointer + 1 := tomorrow
  rw [same]
  exact keeps.mono (by omega) (by omega)

theorem KeepsTime.le_horizon (days : Nat) :
    ∀ {pointer : Int},
      of.KeepsTime (of.zone.dateOf pointer) (of.zone.dateOf pointer + days) →
        pointer ≤ of.horizon days pointer := by
  induction days with
  | zero => exact fun _ => le_rfl
  | succ days ih =>
      intro pointer keeps
      have today := keeps.lt_nextDay le_rfl (by omega)
      exact today.le.trans (ih keeps.next)

/-- The work of a duration ends at the first instant by which it was worked, or at the
fallback where the days do not suffice. -/
theorem workDays_isFinish (slots : of.SlotsInOrder) (fallback : Int) (days : Nat) :
    ∀ {pointer remaining : Int},
      of.KeepsTime (of.zone.dateOf pointer) (of.zone.dateOf pointer + days) → 0 < remaining →
      (remaining ≤ of.workingTime pointer (of.horizon days pointer) →
        IsFinish of.IsWorking pointer remaining (of.workDays fallback days pointer remaining)) ∧
      (of.workingTime pointer (of.horizon days pointer) < remaining →
        of.workDays fallback days pointer remaining = fallback) := by
  induction days with
  | zero =>
      intro pointer remaining _ positive
      refine ⟨fun enough => ?_, fun _ => rfl⟩
      have none' : of.workingTime pointer (of.horizon 0 pointer) = 0 := work_self pointer
      omega
  | succ days ih =>
      intro pointer remaining keeps positive
      have before : of.zone.dateOf pointer < of.zone.dateOf pointer + (days + 1 : Nat) := by omega
      have ahead := keeps.lt_nextDay le_rfl before
      have behind : of.nextDay pointer ≤ of.horizon (days + 1) pointer :=
        KeepsTime.le_horizon days keeps.next
      have today := (consume_leaves (keeps.inOrder slots le_rfl before)
        (fun interval member => keeps.stop_le_nextDay le_rfl before member) ahead.le positive).congr
          fun instant later early => keeps.worked_today le_rfl before later early
      have split' : of.workingTime pointer (of.horizon (days + 1) pointer) =
          of.workingTime pointer (of.nextDay pointer) +
            of.workingTime (of.nextDay pointer) (of.horizon days (of.nextDay pointer)) :=
        work_add ahead.le behind
      unfold workDays
      rw [if_neg (by omega)]
      cases consumed : consume (of.intervalsOn pointer) pointer remaining with
      | inl finish =>
          rw [consumed] at today
          obtain ⟨isFinish, early⟩ := today
          refine ⟨fun _ => isFinish, fun short => ?_⟩
          have done : of.workingTime pointer finish = remaining := isFinish.done
          have more : of.workingTime pointer finish ≤
              of.workingTime pointer (of.horizon (days + 1) pointer) :=
            work_mono (early.trans behind)
          omega
      | inr left =>
          rw [consumed] at today
          obtain ⟨leftPositive, accounted⟩ := today
          have accounted' : of.workingTime pointer (of.nextDay pointer) + left = remaining :=
            accounted
          obtain ⟨finishes, falls⟩ := @ih (of.nextDay pointer) left keeps.next
            leftPositive
          refine ⟨fun enough => ?_, fun short => falls (by omega)⟩
          exact (finishes (by omega)).resume ahead.le leftPositive accounted

end Days

/-! ## Durations -/

section Durations

variable {start durationMs : Int}

/-- The finish of a duration, where the clock keeps time in the days that are looked at. -/
theorem KeepsTime.addDuration (slots : of.SlotsInOrder)
    (keeps : of.KeepsTime (of.zone.dateOf start) (of.zone.dateOf start + 366))
    (positive : 0 < durationMs) :
    (durationMs ≤ of.workingTime start (of.horizon 366 start) →
      IsFinish of.IsWorking start durationMs (of.addDurationWithinWorkingHours start durationMs)) ∧
    (of.workingTime start (of.horizon 366 start) < durationMs →
      of.addDurationWithinWorkingHours start durationMs = start + durationMs) := by
  unfold addDurationWithinWorkingHours
  rw [if_neg (by omega)]
  exact workDays_isFinish slots _ 366 keeps positive

theorem addDuration_of_nonpos (nonpositive : durationMs ≤ 0) :
    of.addDurationWithinWorkingHours start durationMs = start := by
  unfold addDurationWithinWorkingHours
  rw [if_pos nonpositive]

/-- A duration takes at least as much wall-clock time. -/
theorem KeepsTime.start_add_le (slots : of.SlotsInOrder)
    (keeps : of.KeepsTime (of.zone.dateOf start) (of.zone.dateOf start + 366)) :
    start + durationMs ≤ of.addDurationWithinWorkingHours start durationMs := by
  by_cases positive : 0 < durationMs
  · obtain ⟨finishes, falls⟩ := keeps.addDuration slots positive
    rcases le_or_gt durationMs (of.workingTime start (of.horizon 366 start)) with enough | short
    · exact (finishes enough).duration_le
    · exact (falls short).ge
  · rw [addDuration_of_nonpos (by omega)]
    omega

end Durations

end CalendarOf

/-! ## Clocks that are put forward -/

/-- A timezone by the offset from UTC at every instant. A reading is resolved as `luxon`
does it: the offset at `base` is tried, then the one at the instant found, and a reading
that the clock skips is moved behind the gap. -/
def Zone.ofOffsets (offsetAt : Int → Int) : Zone where
  dateOf instant := (instant + offsetAt instant) / millisPerDay
  timeOf instant := (instant + offsetAt instant) % millisPerDay
  instantOf base date time :=
    let localTs := date * millisPerDay + time
    let offset := offsetAt base
    let guess := localTs - offset
    let second := offsetAt guess
    if offset = second then guess
    else
      let corrected := guess - (second - offset)
      let third := offsetAt corrected
      if second = third then corrected else localTs - min second third

/-- New York in 2024: four hours behind UTC from March 10, 07:00 to November 3, 06:00, and
five hours otherwise. -/
def newYorkOffset (instant : Int) : Int :=
  if 1710054000000 ≤ instant ∧ instant < 1730613600000 then -14400000 else -18000000

def newYork : Zone := .ofOffsets newYorkOffset

/-- A reading of clocks that are behind UTC is found no earlier than they are behind. -/
theorem Zone.le_ofOffsets_instantOf {offsetAt : Int → Int} {bound : Int}
    (behind : ∀ instant, offsetAt instant ≤ bound) (base date time : Int) :
    date * millisPerDay + time - bound ≤ (Zone.ofOffsets offsetAt).instantOf base date time := by
  unfold Zone.ofOffsets
  dsimp only
  have first := behind base
  have second := behind (date * millisPerDay + time - offsetAt base)
  split
  · omega
  · split
    · omega
    · have := min_le_left (offsetAt (date * millisPerDay + time - offsetAt base))
        (offsetAt (date * millisPerDay + time - offsetAt base -
          (offsetAt (date * millisPerDay + time - offsetAt base) - offsetAt base)))
      omega

/-- From midnight after the clock was put forward on, no day begins before it. -/
theorem le_newYork_nextDay (of : CalendarOf) (sameZone : of.zone = newYork) {instant : Int}
    (late : 1710129600000 ≤ instant) : 1710129600000 ≤ of.nextDay instant := by
  have behind : ∀ instant, -18000000 ≤ newYorkOffset instant ∧
      newYorkOffset instant ≤ -14400000 := by
    intro instant
    unfold newYorkOffset
    split <;> omega
  have ofDay := Zone.le_ofOffsets_instantOf (fun instant => (behind instant).2) instant
    (newYork.dateOf instant) 0
  have ofNext := Zone.le_ofOffsets_instantOf (fun instant => (behind instant).2)
    (newYork.startOfDay instant) (newYork.dateOf (newYork.startOfDay instant) + 1)
    (newYork.timeOf (newYork.startOfDay instant))
  have date : 19793 ≤ newYork.dateOf instant := by
    show 19793 ≤ (instant + newYorkOffset instant) / millisPerDay
    have : 1710115200000 ≤ instant + newYorkOffset instant := by
      unfold newYorkOffset
      split <;> omega
    unfold millisPerDay
    omega
  have begins : newYork.dateOf (newYork.startOfDay instant) * millisPerDay +
      newYork.timeOf (newYork.startOfDay instant) =
        newYork.startOfDay instant + newYorkOffset (newYork.startOfDay instant) :=
    Int.ediv_mul_add_emod _ _
  have offset := (behind (newYork.startOfDay instant)).1
  unfold CalendarOf.nextDay
  rw [sameZone]
  have day : newYork.instantOf instant (newYork.dateOf instant) 0 =
    newYork.startOfDay instant := rfl
  have next : newYork.instantOf (newYork.startOfDay instant)
      (newYork.dateOf (newYork.startOfDay instant) + 1)
      (newYork.timeOf (newYork.startOfDay instant)) =
    newYork.plusDay (newYork.startOfDay instant) := rfl
  rw [show Zone.ofOffsets newYorkOffset = newYork from rfl] at ofDay ofNext
  rw [day] at ofDay
  rw [next] at ofNext
  unfold millisPerDay at ofDay ofNext begins
  omega

namespace CalendarAdapter

/-- Two shifts on Sunday nights, 02:30 to 04:00 and 03:00 to 05:00. -/
def sundayNights : CalendarAdapter where
  tucRepo := []
  tcRepo := []
  tuwhRepo := []
  twhRepo := [⟨1, 7, ⟨2, 30, 0⟩, ⟨4, 0, 0⟩⟩, ⟨1, 7, ⟨3, 0, 0⟩, ⟨5, 0, 0⟩⟩]
  tuodRepo := []
  todRepo := []

open CalendarOf in
/-- On March 10 the clock is put forward from 02:00 to 03:00, and 02:30 is read as 03:30. -/
theorem isWorking_sundayNights {instant : Int} (from' : 1710054000000 ≤ instant)
    (before : instant < 1710058200000) :
    (sundayNights.calendarOf newYork 1 none).IsWorking instant := by
  have shown : newYork.dateOf instant = 19792 ∧
      newYork.timeOf instant = instant - 14400000 - 19792 * 86400000 := by
    have summer : 1710054000000 ≤ instant ∧ instant < 1730613600000 := ⟨from', by omega⟩
    simp only [newYork, Zone.ofOffsets, newYorkOffset, if_pos summer, millisPerDay]
    omega
  have slot : (⟨⟨3, 0, 0⟩, ⟨5, 0, 0⟩⟩ : TimeInterval) ∈
      (sundayNights.calendarOf newYork 1 none).slotsOn 19792 := by decide
  refine ⟨_, shown.1 ▸ slot, ?_⟩
  rw [show (sundayNights.calendarOf newYork 1 none).zone.timeOf instant = _ from shown.2]
  simp only [ClockTime.millis]
  omega

open CalendarOf in
/-- On the second Monday of 1970 the morning is worked. -/
theorem isWorking_officeHours {instant : Int} (from' : 975600000 ≤ instant)
    (before : instant < 986400000) :
    (officeHours.calendarOf twoHoursAhead 1 none).IsWorking instant := by
  have shown : twoHoursAhead.dateOf instant = 11 ∧
      twoHoursAhead.timeOf instant = instant + 7200000 - 11 * 86400000 := by
    simp only [twoHoursAhead, Zone.fixedOffset, millisPerDay]
    omega
  have slot : (⟨⟨9, 0, 0⟩, ⟨12, 0, 0⟩⟩ : TimeInterval) ∈
      (officeHours.calendarOf twoHoursAhead 1 none).slotsOn 11 := by decide
  refine ⟨_, shown.1 ▸ slot, ?_⟩
  rw [show (officeHours.calendarOf twoHoursAhead 1 none).zone.timeOf instant = _ from shown.2]
  simp only [ClockTime.millis]
  omega

end CalendarAdapter

/-! ## More work -/

namespace CalendarOf

section Order

variable {of : CalendarOf} {start start' durationMs durationMs' : Int}

variable (of) in
/-- The working time of the days that are looked at from an instant on. -/
def capacity (start : Int) : Int := of.workingTime start (of.horizon 366 start)

/-- A longer duration ends no earlier, unless it alone exceeds the capacity and the shorter
one takes longer than the wall-clock time of the longer one. -/
theorem KeepsTime.addDuration_le_iff (slots : of.SlotsInOrder)
    (keeps : of.KeepsTime (of.zone.dateOf start) (of.zone.dateOf start + 366))
    (less : durationMs ≤ durationMs') :
    of.addDurationWithinWorkingHours start durationMs ≤
        of.addDurationWithinWorkingHours start durationMs' ↔
      durationMs' ≤ of.capacity start ∨ of.capacity start < durationMs ∨
        durationMs ≤ of.workingTime start (start + durationMs') := by
  have wallClock := @KeepsTime.start_add_le of _ durationMs' slots keeps
  rcases le_or_gt durationMs 0 with nothing | positive
  · have worked : 0 ≤ of.workingTime start (start + durationMs') := work_nonneg
    have after : start ≤ of.addDurationWithinWorkingHours start durationMs' := by
      rcases le_or_gt durationMs' 0 with nothing' | positive'
      · rw [addDuration_of_nonpos nothing']
      · omega
    rw [addDuration_of_nonpos nothing]
    exact iff_of_true after (.inr (.inr (nothing.trans worked)))
  · obtain ⟨finishes, falls⟩ := keeps.addDuration slots positive
    obtain ⟨finishes', falls'⟩ := keeps.addDuration slots (positive.trans_le less)
    rcases le_or_gt durationMs' (of.capacity start) with enough' | short'
    · have isFinish := finishes (less.trans enough')
      have isFinish' := finishes' enough'
      exact iff_of_true (isFinish.le_of_work isFinish'.after (by rwa [isFinish'.done]))
        (.inl enough')
    · rw [falls' short']
      rcases le_or_gt durationMs (of.capacity start) with enough | short
      · rw [(finishes enough).le_iff (by omega)]
        refine ⟨fun worked => .inr (.inr worked), ?_⟩
        rintro (enough' | short | worked)
        · omega
        · omega
        · exact worked
      · rw [falls short]
        exact iff_of_true (by omega) (.inr (.inl short))

/-- From a later start a duration ends no earlier, unless it exceeds the capacity only there
and takes longer from the first start than its wall-clock time from the second one. -/
theorem KeepsTime.addDuration_start_le_iff (slots : of.SlotsInOrder)
    (keeps : of.KeepsTime (of.zone.dateOf start) (of.zone.dateOf start + 366))
    (keeps' : of.KeepsTime (of.zone.dateOf start') (of.zone.dateOf start' + 366))
    (later : start ≤ start') :
    of.addDurationWithinWorkingHours start durationMs ≤
        of.addDurationWithinWorkingHours start' durationMs ↔
      durationMs ≤ of.capacity start' ∨ of.capacity start < durationMs ∨
        durationMs ≤ of.workingTime start (start' + durationMs) := by
  rcases le_or_gt durationMs 0 with nothing | positive
  · have worked : 0 ≤ of.workingTime start (start' + durationMs) := work_nonneg
    rw [addDuration_of_nonpos nothing, addDuration_of_nonpos nothing]
    exact iff_of_true later (.inr (.inr (nothing.trans worked)))
  · obtain ⟨finishes, falls⟩ := keeps.addDuration slots positive
    obtain ⟨finishes', falls'⟩ := keeps'.addDuration slots positive
    rcases lt_or_ge (of.capacity start) durationMs with short | enough
    · rw [falls short]
      have wallClock := @KeepsTime.start_add_le of _ durationMs slots keeps'
      exact iff_of_true (by omega) (.inr (.inl short))
    · have isFinish := finishes enough
      rcases le_or_gt durationMs (of.capacity start') with enough' | short'
      · have isFinish' := finishes' enough'
        have worked : durationMs ≤ work of.IsWorking start
            (of.addDurationWithinWorkingHours start' durationMs) := by
          calc durationMs = work of.IsWorking start' _ := isFinish'.done.symm
            _ ≤ _ := work_anti later
        exact iff_of_true (isFinish.le_of_work (later.trans isFinish'.after) worked) (.inl enough')
      · rw [falls' short', isFinish.le_iff (by omega)]
        refine ⟨fun worked => .inr (.inr worked), ?_⟩
        rintro (enough' | short | worked)
        · omega
        · omega
        · exact worked

end Order

end CalendarOf

namespace CalendarAdapter

/-- One hour a week is worked. -/
def mondayHour : CalendarAdapter where
  tucRepo := []
  tcRepo := []
  tuwhRepo := []
  twhRepo := [⟨1, 1, ⟨9, 0, 0⟩, ⟨10, 0, 0⟩⟩]
  tuodRepo := []
  todRepo := []

end CalendarAdapter

end CoreApi.Scheduler
