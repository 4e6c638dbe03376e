import Mathlib.Order.Bounds.Basic
import CoreApi.Scheduler.CalendarAdapter

/-!
# Working instants

An instant is worked when the clock then shows a time within a slot of a day that is
not off. The scheduler finds such instants through intervals it builds for one day after
another; where the clock passes every reading it asks for once, the two agree, and
`nextAllowedUtc` finds the first one.
-/

namespace CoreApi.Scheduler

open CalendarOf

/-! ## Clocks -/

namespace Zone

variable (zone : Zone)

/-- The clock shows `time` on `date` or has shown it. -/
def IsPast (date time instant : Int) : Prop :=
  date < zone.dateOf instant ∨ date = zone.dateOf instant ∧ time ≤ zone.timeOf instant

/-- The clock comes to `time` on `date` at the instant, and does not go back behind it. -/
def Passes (instant date time : Int) : Prop := ∀ other, instant ≤ other ↔ zone.IsPast date time other

/-- The instant is the first one of the date. -/
structure Begins (instant date : Int) : Prop where
  passes : ∀ other, instant ≤ other ↔ date ≤ zone.dateOf other
  date : zone.dateOf instant = date

end Zone

theorem ClockTime.millis_nonneg (time : ClockTime) : 0 ≤ time.millis := by
  unfold ClockTime.millis
  omega

namespace CalendarOf

variable (of : CalendarOf)

/-- The slots of a date: none on a day off. -/
def slotsOn (date : Int) : List TimeInterval :=
  if of.calendar.isOffDateLocal of.tenantId of.tenantUserId date then []
  else of.calendar.getWorkingIntervalsLocal of.tenantId of.tenantUserId date (weekday date)

/-- The instant lies in a slot of its day. -/
def IsWorking (instant : Int) : Prop :=
  ∃ slot ∈ of.slotsOn (of.zone.dateOf instant),
    slot.start.millis ≤ of.zone.timeOf instant ∧ of.zone.timeOf instant < slot.stop.millis

instance : DecidablePred of.IsWorking := fun instant =>
  inferInstanceAs (Decidable (∃ slot ∈ of.slotsOn (of.zone.dateOf instant), _ ∧ _))

/-- The slots of every date lie within it. -/
def WithinDays : Prop := ∀ date, ∀ slot ∈ of.slotsOn date,
  slot.start.millis ≤ millisPerDay ∧ slot.stop.millis ≤ millisPerDay

/-- No slot is empty. -/
def HasProperSlots : Prop := ∀ date, ∀ slot ∈ of.slotsOn date, slot.start.millis < slot.stop.millis

/-- The slots of every date come in the order of their starts. -/
def SlotsInOrder : Prop :=
  ∀ date, (of.slotsOn date).Pairwise fun a b => a.start.millis ≤ b.start.millis

/-- On the dates from `first` on, before `last`, the clock passes every reading the
scheduler asks for: the beginnings of the days, and the ends of the slots. -/
structure KeepsTime (first last : Int) : Prop where
  time : ∀ instant, 0 ≤ of.zone.timeOf instant ∧ of.zone.timeOf instant < millisPerDay
  today : ∀ base, first ≤ of.zone.dateOf base → of.zone.dateOf base < last →
    of.zone.Begins (of.zone.startOfDay base) (of.zone.dateOf base)
  tomorrow : ∀ base, first ≤ of.zone.dateOf base → of.zone.dateOf base < last →
    of.zone.Begins (of.zone.plusDay (of.zone.startOfDay base)) (of.zone.dateOf base + 1) ∧
      of.zone.Begins (of.zone.startOfDay (of.zone.plusDay base)) (of.zone.dateOf base + 1)
  slotStart : ∀ base, first ≤ of.zone.dateOf base → of.zone.dateOf base < last →
    ∀ slot ∈ of.slotsOn (of.zone.dateOf base),
      of.zone.Passes (of.zone.instantOf base (of.zone.dateOf base) slot.start.millis)
        (of.zone.dateOf base) slot.start.millis
  slotStop : ∀ base, first ≤ of.zone.dateOf base → of.zone.dateOf base < last →
    ∀ slot ∈ of.slotsOn (of.zone.dateOf base),
      of.zone.Passes (of.zone.instantOf base (of.zone.dateOf base) slot.stop.millis)
        (of.zone.dateOf base) slot.stop.millis
  shown : ∀ base, first ≤ of.zone.dateOf base → of.zone.dateOf base < last →
    ∀ slot ∈ of.slotsOn (of.zone.dateOf base), slot.start.millis < slot.stop.millis →
      of.zone.dateOf (of.zone.instantOf base (of.zone.dateOf base) slot.start.millis) =
          of.zone.dateOf base ∧
        of.zone.timeOf (of.zone.instantOf base (of.zone.dateOf base) slot.start.millis) =
          slot.start.millis

variable {of} {first last : Int}

theorem KeepsTime.mono {first' last' : Int} (keeps : of.KeepsTime first last)
    (later : first ≤ first') (earlier : last' ≤ last) : of.KeepsTime first' last' where
  time := keeps.time
  today base from' before := keeps.today base (later.trans from') (before.trans_le earlier)
  tomorrow base from' before := keeps.tomorrow base (later.trans from') (before.trans_le earlier)
  slotStart base from' before := keeps.slotStart base (later.trans from') (before.trans_le earlier)
  slotStop base from' before := keeps.slotStop base (later.trans from') (before.trans_le earlier)
  shown base from' before := keeps.shown base (later.trans from') (before.trans_le earlier)

/-- A clock at a fixed offset passes every reading. -/
theorem keepsTime_fixedOffset {offset : Int} (fixed : of.zone = .fixedOffset offset)
    (within : of.WithinDays) (first last : Int) : of.KeepsTime first last := by
  have begins : ∀ instant date, instant = date * millisPerDay - offset →
      of.zone.Begins instant date := by
    rintro _ date rfl
    rw [fixed]
    constructor
    · intro other
      simp only [Zone.fixedOffset, millisPerDay]
      omega
    · simp only [Zone.fixedOffset, millisPerDay]
      omega
  have passes : ∀ base date time, 0 ≤ time → time ≤ millisPerDay →
      of.zone.Passes (of.zone.instantOf base date time) date time := by
    intro base date time nonneg least other
    rw [fixed]
    simp only [Zone.IsPast, Zone.fixedOffset, millisPerDay] at least ⊢
    omega
  have start : ∀ slot : TimeInterval, 0 ≤ slot.start.millis := fun slot => slot.start.millis_nonneg
  have stop : ∀ slot : TimeInterval, 0 ≤ slot.stop.millis := fun slot => slot.stop.millis_nonneg
  constructor
  · intro instant
    rw [fixed]
    simp only [Zone.fixedOffset, millisPerDay]
    omega
  · intro base _ _
    refine begins _ _ ?_
    rw [fixed]
    simp only [Zone.startOfDay, Zone.fixedOffset, millisPerDay]
    omega
  · intro base _ _
    refine ⟨begins _ _ ?_, begins _ _ ?_⟩
    · rw [fixed]
      simp only [Zone.startOfDay, Zone.plusDay, Zone.fixedOffset, millisPerDay]
      omega
    · rw [fixed]
      simp only [Zone.startOfDay, Zone.plusDay, Zone.fixedOffset, millisPerDay]
      omega
  · intro base _ _ slot member
    exact passes _ _ _ (start slot) (within _ slot member).1
  · intro base _ _ slot member
    exact passes _ _ _ (stop slot) (within _ slot member).2
  · intro base _ _ slot member proper
    have stops := (within _ slot member).2
    have nonneg := start slot
    rw [fixed] at *
    simp only [Zone.fixedOffset, millisPerDay] at *
    omega

/-! ## The intervals of a day -/

/-- What the intervals that are built for a day contain. -/
def InIntervals (intervals : List (Option Interval)) (instant : Int) : Prop :=
  ∃ interval, some interval ∈ intervals ∧ interval.start ≤ instant ∧ instant < interval.stop

theorem isWithinAnyInterval_iff {intervals : List (Option Interval)} {instant : Int} :
    isWithinAnyInterval instant intervals = true ↔ InIntervals intervals instant := by
  unfold isWithinAnyInterval InIntervals
  rw [List.any_eq_true]
  constructor
  · rintro ⟨valid, member, contains⟩
    cases valid with
    | none => cases contains
    | some interval =>
        simp only [Option.any_some, Interval.contains, Bool.and_eq_true,
          decide_eq_true_eq] at contains
        exact ⟨interval, member, contains⟩
  · rintro ⟨interval, member, from', before⟩
    exact ⟨some interval, member, by simp [Interval.contains, from', before]⟩

/-- The intervals are built from the slots of the day. -/
theorem mem_intervalsOn {base : Int} {interval : Interval} :
    some interval ∈ of.intervalsOn base ↔ ∃ slot ∈ of.slotsOn (of.zone.dateOf base),
      interval.start = of.zone.instantOf base (of.zone.dateOf base) slot.start.millis ∧
        interval.stop = of.zone.instantOf base (of.zone.dateOf base) slot.stop.millis := by
  show some interval ∈ (of.slotsOn (of.zone.dateOf base)).map _ ↔ _
  rw [List.mem_map]
  refine exists_congr fun slot => and_congr_right fun _ => ?_
  unfold Interval.fromDateTimes
  constructor
  · intro built
    split at built
    · cases built
      exact ⟨rfl, rfl⟩
    · cases built
  · rintro ⟨start, stop⟩
    have ordered := interval.ordered
    rw [start, stop] at ordered
    rw [dif_pos ordered]
    cases interval
    simp_all

/-- The intervals of a day contain its working instants. -/
theorem KeepsTime.inIntervals_iff (keeps : of.KeepsTime first last) {base : Int}
    (from' : first ≤ of.zone.dateOf base) (before : of.zone.dateOf base < last) {instant : Int} :
    InIntervals (of.intervalsOn base) instant ↔
      of.zone.dateOf instant = of.zone.dateOf base ∧ of.IsWorking instant := by
  have reads : ∀ slot ∈ of.slotsOn (of.zone.dateOf base),
      (of.zone.instantOf base (of.zone.dateOf base) slot.start.millis ≤ instant ∧
        instant < of.zone.instantOf base (of.zone.dateOf base) slot.stop.millis) ↔
      (of.zone.dateOf instant = of.zone.dateOf base ∧
        slot.start.millis ≤ of.zone.timeOf instant ∧
          of.zone.timeOf instant < slot.stop.millis) := by
    intro slot member
    have start := keeps.slotStart base from' before slot member instant
    have stop := keeps.slotStop base from' before slot member instant
    unfold Zone.IsPast at start stop
    omega
  constructor
  · rintro ⟨interval, member, lower, upper⟩
    obtain ⟨slot, slotMember, start, stop⟩ := mem_intervalsOn.mp member
    rw [start] at lower
    rw [stop] at upper
    obtain ⟨sameDay, shown⟩ := (reads slot slotMember).mp ⟨lower, upper⟩
    exact ⟨sameDay, slot, sameDay ▸ slotMember, shown⟩
  · rintro ⟨sameDay, slot, slotMember, shown⟩
    rw [sameDay] at slotMember
    obtain ⟨lower, upper⟩ := (reads slot slotMember).mpr ⟨sameDay, shown⟩
    exact ⟨⟨_, _, (lower.trans_lt upper).le⟩, mem_intervalsOn.mpr ⟨slot, slotMember, rfl, rfl⟩,
      lower, upper⟩

theorem nextStartAfter_eq_some {intervals : List (Option Interval)} {instant next : Int}
    (found : nextStartAfter instant intervals = some next) :
    instant < next ∧ (∃ interval, some interval ∈ intervals ∧ interval.start = next) ∧
      ∀ interval, some interval ∈ intervals → instant < interval.start →
        next ≤ interval.start := by
  unfold nextStartAfter at found
  have starts : ∀ start, start ∈ ((intervals.filterMap fun interval =>
      interval.map Interval.start).filter fun start => decide (instant < start)) ↔
        (∃ interval, some interval ∈ intervals ∧ interval.start = start) ∧ instant < start := by
    intro start
    simp only [List.mem_filter, List.mem_filterMap, Option.map_eq_some_iff, decide_eq_true_eq]
    refine and_congr_left fun _ => ?_
    constructor
    · rintro ⟨_, member, interval, rfl, isStart⟩
      exact ⟨interval, member, isStart⟩
    · rintro ⟨interval, member, isStart⟩
      exact ⟨some interval, member, interval, rfl, isStart⟩
  generalize ((intervals.filterMap fun interval => interval.map Interval.start).filter
    fun start => decide (instant < start)) = candidates at found starts
  have sorted := List.pairwise_insertionSort (· ≤ ·) candidates
  have members : ∀ start, start ∈ candidates.insertionSort (· ≤ ·) ↔ start ∈ candidates :=
    fun start => List.mem_insertionSort _
  cases isSorted : candidates.insertionSort (· ≤ ·) with
  | nil =>
      rw [isSorted] at found
      cases found
  | cons head tail =>
      rw [isSorted] at found sorted members
      obtain rfl : head = next := Option.some.inj found
      obtain ⟨isStart, less⟩ := (starts head).mp ((members head).mp List.mem_cons_self)
      refine ⟨less, isStart, fun interval member later => ?_⟩
      have candidate := (members _).mpr ((starts _).mpr ⟨⟨interval, member, rfl⟩, later⟩)
      rcases List.mem_cons.mp candidate with same | behind
      · exact same.ge
      · exact List.rel_of_pairwise_cons sorted behind

theorem nextStartAfter_eq_none {intervals : List (Option Interval)} {instant : Int}
    (absent : nextStartAfter instant intervals = none) {interval : Interval}
    (member : some interval ∈ intervals) : interval.start ≤ instant := by
  unfold nextStartAfter at absent
  rw [List.head?_eq_none_iff] at absent
  by_contra later
  have candidate : interval.start ∈ (((intervals.filterMap fun interval =>
      interval.map Interval.start).filter fun start => decide (instant < start)).insertionSort
        (· ≤ ·)) := by
    rw [List.mem_insertionSort, List.mem_filter, List.mem_filterMap]
    exact ⟨⟨some interval, member, rfl⟩, by simpa using later⟩
  rw [absent] at candidate
  cases candidate

/-! ## The first working instant -/

variable (of) in
/-- Some instant of the next local days is worked, today from now on included. -/
def WorksWithin (days : Int) (now : Int) : Prop :=
  ∃ instant, now ≤ instant ∧ of.zone.dateOf instant < of.zone.dateOf now + days ∧
    of.IsWorking instant

variable (of) in
/-- The instant is the first one worked, from `now` on. -/
def IsNextWorking (now next : Int) : Prop :=
  IsLeast {instant | now ≤ instant ∧ of.IsWorking instant} next

section Search

variable {cursor : Int}

theorem KeepsTime.date_le (keeps : of.KeepsTime first last) (from' : first ≤ of.zone.dateOf cursor)
    (before : of.zone.dateOf cursor < last) {instant : Int} (later : cursor ≤ instant) :
    of.zone.dateOf cursor ≤ of.zone.dateOf instant := by
  have today := keeps.today cursor from' before
  have started := (today.passes cursor).mpr le_rfl
  exact (today.passes instant).mp (started.trans later)

theorem KeepsTime.lt_of_date (keeps : of.KeepsTime first last)
    (from' : first ≤ of.zone.dateOf cursor) (before : of.zone.dateOf cursor < last) {instant : Int}
    (later : of.zone.dateOf cursor < of.zone.dateOf instant) : cursor < instant := by
  have tomorrow := (keeps.tomorrow cursor from' before).1.passes
  have reached := (tomorrow instant).mpr later
  by_contra ahead
  have := (tomorrow cursor).mp (reached.trans (not_lt.mp ahead))
  omega

/-- The next start behind an idle instant is the first working instant. -/
theorem KeepsTime.isNextWorking_nextStart (keeps : of.KeepsTime first last)
    (proper : of.HasProperSlots) (from' : first ≤ of.zone.dateOf cursor)
    (before : of.zone.dateOf cursor < last) (idle : ¬of.IsWorking cursor) {next : Int}
    (found : nextStartAfter cursor (of.intervalsOn cursor) = some next) :
    of.zone.dateOf next = of.zone.dateOf cursor ∧ of.IsNextWorking cursor next := by
  obtain ⟨later, ⟨interval, member, rfl⟩, least⟩ := nextStartAfter_eq_some found
  obtain ⟨slot, slotMember, start, stop⟩ := mem_intervalsOn.mp member
  obtain ⟨sameDay, shown⟩ := keeps.shown cursor from' before slot slotMember
    (proper _ slot slotMember)
  rw [← start] at sameDay shown
  refine ⟨sameDay, ⟨later.le, slot, sameDay ▸ slotMember, shown.ge, ?_⟩, ?_⟩
  · rw [shown]
    exact proper _ slot slotMember
  · rintro instant ⟨notBefore, working⟩
    have dates := keeps.date_le from' before notBefore
    rcases dates.lt_or_eq with laterDay | sameDate
    · have from'' : first ≤ of.zone.dateOf interval.start := by rwa [sameDay]
      have before' : of.zone.dateOf interval.start < last := by rwa [sameDay]
      exact (keeps.lt_of_date from'' before' (sameDay ▸ laterDay)).le
    · obtain ⟨other, otherMember, lower, upper⟩ :=
        (keeps.inIntervals_iff from' before).mpr ⟨sameDate.symm, working⟩
      -- The interval does not contain the cursor, so it starts behind it.
      have behind : cursor < other.start := by
        by_contra ahead
        have contains : InIntervals (of.intervalsOn cursor) cursor :=
          ⟨other, otherMember, not_lt.mp ahead, notBefore.trans_lt upper⟩
        exact idle ((keeps.inIntervals_iff from' before).mp contains).2
      exact (least other otherMember behind).trans lower

theorem KeepsTime.tomorrow_of_noStart (keeps : of.KeepsTime first last)
    (from' : first ≤ of.zone.dateOf cursor) (before : of.zone.dateOf cursor < last)
    (idle : ¬of.IsWorking cursor)
    (absent : nextStartAfter cursor (of.intervalsOn cursor) = none) {instant : Int}
    (working : of.IsWorking instant) :
    cursor ≤ instant ↔ of.zone.startOfDay (of.zone.plusDay cursor) ≤ instant := by
  have tomorrow := (keeps.tomorrow cursor from' before).2.passes
  rw [tomorrow]
  constructor
  · intro later
    rcases (keeps.date_le from' before later).lt_or_eq with laterDay | sameDate
    · exact laterDay
    · obtain ⟨interval, member, lower, upper⟩ :=
        (keeps.inIntervals_iff from' before).mpr ⟨sameDate.symm, working⟩
      have started := nextStartAfter_eq_none absent member
      have contains : InIntervals (of.intervalsOn cursor) cursor :=
        ⟨interval, member, started, later.trans_lt upper⟩
      exact absurd ((keeps.inIntervals_iff from' before).mp contains).2 idle
  · intro laterDay
    exact (keeps.lt_of_date from' before laterDay).le

/-- The search ends at the first working instant of the days it looks at, or gives up. -/
theorem searchDays_next (proper : of.HasProperSlots) (requestedUtc : Int) (days : Nat) :
    ∀ {cursor : Int}, of.KeepsTime (of.zone.dateOf cursor) (of.zone.dateOf cursor + days) →
      (∀ instant, cursor ≤ instant → of.zone.dateOf cursor ≤ of.zone.dateOf instant) →
      (of.WorksWithin days cursor →
        of.IsNextWorking cursor (of.searchDays requestedUtc days cursor)) ∧
      (¬of.WorksWithin days cursor → of.searchDays requestedUtc days cursor = requestedUtc) := by
  induction days with
  | zero =>
      intro cursor _ dates
      refine ⟨?_, fun _ => rfl⟩
      rintro ⟨instant, later, early, _⟩
      have := dates instant later
      omega
  | succ days ih =>
      intro cursor keeps dates
      have before : of.zone.dateOf cursor < of.zone.dateOf cursor + (days + 1 : Nat) := by omega
      have today : isWithinAnyInterval cursor (of.intervalsOn cursor) = true ↔
          of.IsWorking cursor := by
        rw [isWithinAnyInterval_iff, keeps.inIntervals_iff le_rfl before]
        simp
      unfold searchDays
      dsimp only
      by_cases working : of.IsWorking cursor
      · rw [if_pos (today.mpr working)]
        refine ⟨fun _ => ⟨⟨le_rfl, working⟩, fun instant found => found.1⟩, fun idle => ?_⟩
        exact absurd ⟨cursor, le_rfl, before, working⟩ idle
      · rw [if_neg (mt today.mp working)]
        cases found : nextStartAfter cursor (of.intervalsOn cursor) with
        | some next =>
            obtain ⟨sameDay, isNext⟩ :=
              keeps.isNextWorking_nextStart proper le_rfl before working found
            refine ⟨fun _ => isNext, fun idle => ?_⟩
            exact absurd ⟨next, isNext.1.1, sameDay ▸ before, isNext.1.2⟩ idle
        | none =>
            have tomorrow := (keeps.tomorrow cursor le_rfl before).2
            have same := fun instant => @KeepsTime.tomorrow_of_noStart of _ _ cursor keeps le_rfl
              before working found instant
            have horizon : of.WorksWithin (days + 1 : Nat) cursor ↔
                of.WorksWithin days (of.zone.startOfDay (of.zone.plusDay cursor)) := by
              refine exists_congr fun instant => ?_
              rw [tomorrow.date, show of.zone.dateOf cursor + 1 + (days : Int) =
                of.zone.dateOf cursor + (days + 1 : Nat) by omega]
              constructor
              · rintro ⟨later, early, works⟩
                exact ⟨(same instant works).mp later, early, works⟩
              · rintro ⟨later, early, works⟩
                exact ⟨(same instant works).mpr later, early, works⟩
            have rest := @ih (of.zone.startOfDay (of.zone.plusDay cursor))
              (tomorrow.date ▸ keeps.mono (by omega) (by omega)) fun instant later => by
                rw [tomorrow.date]
                exact (tomorrow.passes instant).mp later
            rw [horizon]
            refine ⟨fun works => ?_, rest.2⟩
            obtain ⟨⟨later, works'⟩, least⟩ := rest.1 works
            refine ⟨⟨(same _ works').mpr later, works'⟩, fun instant found' => ?_⟩
            exact least ⟨(same instant found'.2).mp found'.1, found'.2⟩

variable {requested : Int}

/-- The fit of a request, where the clock keeps time in the days that are looked at. -/
theorem KeepsTime.nextAllowedUtc (proper : of.HasProperSlots)
    (keeps : of.KeepsTime (of.zone.dateOf requested) (of.zone.dateOf requested + 366)) :
    (of.WorksWithin 366 requested → of.IsNextWorking requested (of.nextAllowedUtc requested)) ∧
      (¬of.WorksWithin 366 requested → of.nextAllowedUtc requested = requested) :=
  searchDays_next proper requested 366 keeps fun _ later =>
    keeps.date_le le_rfl (by omega) later

theorem KeepsTime.le_nextAllowedUtc (proper : of.HasProperSlots)
    (keeps : of.KeepsTime (of.zone.dateOf requested) (of.zone.dateOf requested + 366)) :
    requested ≤ of.nextAllowedUtc requested := by
  obtain ⟨next, fallback⟩ := keeps.nextAllowedUtc proper
  by_cases works : of.WorksWithin 366 requested
  · exact (next works).1.1
  · exact (fallback works).ge

theorem KeepsTime.nextAllowedUtc_of_working (proper : of.HasProperSlots)
    (keeps : of.KeepsTime (of.zone.dateOf requested) (of.zone.dateOf requested + 366))
    (working : of.IsWorking requested) : of.nextAllowedUtc requested = requested := by
  have works : of.WorksWithin 366 requested := ⟨requested, le_rfl, by omega, working⟩
  obtain ⟨⟨later, _⟩, least⟩ := (keeps.nextAllowedUtc proper).1 works
  exact le_antisymm (least ⟨le_rfl, working⟩) later

/-- The first working instant lies in the days that are looked at. -/
theorem KeepsTime.nextWorking_early
    (keeps : of.KeepsTime (of.zone.dateOf requested) (of.zone.dateOf requested + 366))
    (works : of.WorksWithin 366 requested) {next : Int} (isNext : of.IsNextWorking requested next) :
    of.zone.dateOf next < of.zone.dateOf requested + 366 := by
  obtain ⟨instant, later, early, working⟩ := works
  by_contra late
  have dates := keeps.date_le le_rfl (by omega) later
  have behind := keeps.lt_of_date dates early (by omega : of.zone.dateOf instant < of.zone.dateOf next)
  exact absurd (isNext.2 ⟨later, working⟩) (not_le.mpr behind)

theorem KeepsTime.nextAllowedUtc_mono (proper : of.HasProperSlots) {requested' : Int}
    (keeps : of.KeepsTime (of.zone.dateOf requested) (of.zone.dateOf requested + 366))
    (keeps' : of.KeepsTime (of.zone.dateOf requested') (of.zone.dateOf requested' + 366))
    (later : requested ≤ requested') :
    of.nextAllowedUtc requested ≤ of.nextAllowedUtc requested' := by
  obtain ⟨next, fallback⟩ := keeps.nextAllowedUtc proper
  have notBefore := keeps'.le_nextAllowedUtc proper
  by_cases works : of.WorksWithin 366 requested
  · by_cases works' : of.WorksWithin 366 requested'
    · obtain ⟨⟨_, working⟩, _⟩ := (keeps'.nextAllowedUtc proper).1 works'
      exact (next works).2 ⟨later.trans notBefore, working⟩
    · -- Nothing is worked from the later request on, so the first instant lies before it.
      by_contra less
      have early := keeps.nextWorking_early works (next works)
      have dates := keeps.date_le le_rfl (by omega) later
      exact works' ⟨_, notBefore.trans (not_le.mp less).le, by omega, (next works).1.2⟩
  · rw [fallback works]
    exact later.trans notBefore

end Search

/-- In a timezone at a fixed offset a request is fitted to the first working instant from
it on, if there is one in the days that are looked at. Later requests are not fitted to
earlier instants, and a fitted request fits. -/
theorem nextAllowedUtc_isNextWorking {of : CalendarOf} {offset : Int}
    (fixed : of.zone = .fixedOffset offset) (within : of.WithinDays)
    (proper : of.HasProperSlots) :
    (∀ requested, of.WorksWithin 366 requested →
      of.IsNextWorking requested (of.nextAllowedUtc requested)) ∧
    (∀ requested requested', requested ≤ requested' →
      of.nextAllowedUtc requested ≤ of.nextAllowedUtc requested') ∧
    ∀ requested, of.nextAllowedUtc (of.nextAllowedUtc requested) = of.nextAllowedUtc requested := by
  have keeps : ∀ first last, of.KeepsTime first last := keepsTime_fixedOffset fixed within
  refine ⟨fun requested works => ((keeps _ _).nextAllowedUtc proper).1 works,
    fun requested requested' later => (keeps _ _).nextAllowedUtc_mono proper (keeps _ _) later,
    fun requested => ?_⟩
  obtain ⟨next, fallback⟩ := @KeepsTime.nextAllowedUtc of requested proper (keeps _ _)
  by_cases works : of.WorksWithin 366 requested
  · exact (keeps _ _).nextAllowedUtc_of_working proper (next works).1.2
  · rw [fallback works, fallback works]

end CalendarOf

/-! ## The calendar of the adapter -/

open CalendarAdapter in
/-- From a clock time to a later one of the same day, also after the seconds are cut off. -/
def WorkingHours.IsProper (row : WorkingHours) : Prop :=
  row.startTime.second < 60 ∧ (sliced row.startTime).millis < (sliced row.endTime).millis ∧
    (sliced row.endTime).millis ≤ millisPerDay

instance (row : WorkingHours) : Decidable row.IsProper := inferInstanceAs (Decidable (_ ∧ _ ∧ _))

namespace CalendarAdapter

variable {adapter : CalendarAdapter}

/-- All hours that are stored are proper. -/
def IsProper (adapter : CalendarAdapter) : Prop :=
  (∀ row ∈ adapter.tuwhRepo, row.IsProper) ∧ ∀ row ∈ adapter.twhRepo, row.IsProper

instance (adapter : CalendarAdapter) : Decidable adapter.IsProper :=
  inferInstanceAs (Decidable (_ ∧ _))

/-- The calendar of a tenant or one of its users. -/
def calendarOf (adapter : CalendarAdapter) (zone : Zone) (tenantId : Nat)
    (tenantUserId : Option Nat) : CalendarOf where
  calendar := adapter.provider
  zone := zone
  tenantId := tenantId
  tenantUserId := tenantUserId

theorem mem_hoursOf {rows : List WorkingHours} {ownerId weekday : Nat} {slot : TimeInterval}
    (member : slot ∈ hoursOf rows ownerId weekday) :
    ∃ row ∈ rows, slot = ⟨sliced row.startTime, sliced row.endTime⟩ := by
  unfold hoursOf at member
  obtain ⟨row, rowMember, rfl⟩ := List.mem_map.mp member
  rw [Automation.mem_orderBy] at rowMember
  exact ⟨row, List.mem_of_mem_filter rowMember, rfl⟩

/-- The slots of a day are stored hours. -/
theorem IsProper.slot (proper : adapter.IsProper) {zone : Zone} {tenantId : Nat}
    {tenantUserId : Option Nat} {date : Int} {slot : TimeInterval}
    (member : slot ∈ (adapter.calendarOf zone tenantId tenantUserId).slotsOn date) :
    slot.start.millis < slot.stop.millis ∧ slot.stop.millis ≤ millisPerDay := by
  have stored : ∀ rows : List WorkingHours, (∀ row ∈ rows, row.IsProper) → ∀ ownerId weekday,
      slot ∈ hoursOf rows ownerId weekday →
        slot.start.millis < slot.stop.millis ∧ slot.stop.millis ≤ millisPerDay := by
    intro rows allProper ownerId weekday inHours
    obtain ⟨row, rowMember, rfl⟩ := mem_hoursOf inHours
    exact (allProper row rowMember).2
  unfold CalendarOf.slotsOn at member
  split at member
  · cases member
  · simp only [calendarOf, provider, getWorkingIntervalsLocal] at member
    split at member
    · exact stored _ proper.2 _ _ member
    · split at member
      · exact stored _ proper.2 _ _ member
      · exact stored _ proper.1 _ _ member

theorem IsProper.properSlots (proper : adapter.IsProper) (zone : Zone) (tenantId : Nat)
    (tenantUserId : Option Nat) :
    (adapter.calendarOf zone tenantId tenantUserId).HasProperSlots :=
  fun _ _ member => (proper.slot member).1

theorem IsProper.withinDays (proper : adapter.IsProper) (zone : Zone) (tenantId : Nat)
    (tenantUserId : Option Nat) :
    (adapter.calendarOf zone tenantId tenantUserId).WithinDays := fun _ _ member =>
  ⟨(proper.slot member).1.le.trans (proper.slot member).2, (proper.slot member).2⟩

theorem IsProper.slotsInOrder (proper : adapter.IsProper) (zone : Zone) (tenantId : Nat)
    (tenantUserId : Option Nat) :
    (adapter.calendarOf zone tenantId tenantUserId).SlotsInOrder := by
  intro date
  unfold CalendarOf.slotsOn
  split
  · exact List.Pairwise.nil
  · exact adapter.getWorkingIntervalsLocal_ordered _ _ _ (fun row member => (proper.1 row member).1)
      fun row member => (proper.2 row member).1

/-- Tenant 1 works on Mondays in two halves, its user 5 on Tuesday afternoons; the first
Monday of 1970 is off. -/
def officeHours : CalendarAdapter where
  tucRepo := []
  tcRepo := []
  tuwhRepo := [⟨5, 2, ⟨14, 0, 0⟩, ⟨18, 0, 0⟩⟩]
  twhRepo := [⟨1, 1, ⟨13, 0, 0⟩, ⟨17, 0, 0⟩⟩, ⟨1, 1, ⟨9, 0, 0⟩, ⟨12, 0, 0⟩⟩]
  tuodRepo := []
  todRepo := [⟨1, 4⟩]

/-- Two hours ahead of UTC. -/
def twoHoursAhead : Zone := .fixedOffset 7200000

end CalendarAdapter

open CalendarAdapter in
/-- The second Monday of 1970 is the first day that is worked. -/
theorem nextAllowedUtc_isNextWorking_officeHours :
    (officeHours.calendarOf twoHoursAhead 1 none).IsNextWorking 0
        ((officeHours.calendarOf twoHoursAhead 1 none).nextAllowedUtc 0) ∧
      (officeHours.calendarOf twoHoursAhead 1 none).nextAllowedUtc 0 = 11 * millisPerDay + 25200000 := by
  have proper : officeHours.IsProper := by decide
  refine ⟨(CalendarOf.nextAllowedUtc_isNextWorking (show _ = Zone.fixedOffset 7200000 from rfl)
    (proper.withinDays _ _ _) (proper.properSlots _ _ _)).1 0 ?_, by decide⟩
  exact ⟨11 * millisPerDay + 25200000, by decide, by decide, by decide⟩

end CoreApi.Scheduler
