import Mathlib.Data.List.Basic
import Mathlib.Tactic.Ring
import Mathlib.Order.Lattice
import Mathlib.Algebra.Order.Ring.Int

/-!
# Working time

How much of a span of time is worked, where time is counted in whole units and
`worked` says which of them are. `work` counts them between two instants, and a
piece of work is finished at the first instant by which its duration was worked.
-/

namespace CoreApi.Foundation

/-- The units from `start` on, before `stop`, that are worked. -/
def work (worked : Int → Prop) [DecidablePred worked] (start stop : Int) : Int :=
  ((List.range (stop - start).toNat).countP fun unit : Nat => decide (worked (start + unit)) : Nat)

/-- The first instant by which `duration` was worked since `start`. -/
structure IsFinish (worked : Int → Prop) [DecidablePred worked] (start duration finish : Int) :
    Prop where
  after : start ≤ finish
  done : work worked start finish = duration
  least : ∀ instant, start ≤ instant → instant < finish → work worked start instant < duration

section Work

variable {worked other : Int → Prop} [DecidablePred worked] [DecidablePred other]
  {start middle stop : Int}

theorem work_nonneg : 0 ≤ work worked start stop := Int.natCast_nonneg _

/-- Nothing is worked in no time. -/
theorem work_of_le (empty : stop ≤ start) : work worked start stop = 0 := by
  unfold work
  rw [Int.toNat_of_nonpos (by omega)]
  rfl

@[simp] theorem work_self (start : Int) : work worked start start = 0 := work_of_le le_rfl

/-- A span is cut in two. -/
theorem work_add (first : start ≤ middle) (second : middle ≤ stop) :
    work worked start stop = work worked start middle + work worked middle stop := by
  have units : (stop - start).toNat = (middle - start).toNat + (stop - middle).toNat := by omega
  have later : ∀ unit : Nat, start + ((middle - start).toNat + unit : Nat) = middle + unit := by
    intro unit
    omega
  unfold work
  rw [units, List.range_add, List.countP_append, List.countP_map, Nat.cast_add]
  congr 2
  apply List.countP_congr
  intro unit _
  simp only [Function.comp_apply, later]

/-- Only what is worked in the span counts. -/
theorem work_congr (same : ∀ instant, start ≤ instant → instant < stop →
    (worked instant ↔ other instant)) : work worked start stop = work other start stop := by
  unfold work
  congr 1
  apply List.countP_congr
  intro unit member
  have inSpan := List.mem_range.mp member
  rw [decide_eq_true_iff, decide_eq_true_iff]
  exact same _ (by omega) (by omega)

/-- A span that is worked throughout. -/
theorem work_full (ordered : start ≤ stop)
    (full : ∀ instant, start ≤ instant → instant < stop → worked instant) :
    work worked start stop = stop - start := by
  unfold work
  rw [List.countP_eq_length.mpr fun unit member => ?_, List.length_range]
  · omega
  · have inSpan := List.mem_range.mp member
    exact decide_eq_true (full _ (by omega) (by omega))

/-- A span in which nothing is worked. -/
theorem work_none (idle : ∀ instant, start ≤ instant → instant < stop → ¬worked instant) :
    work worked start stop = 0 := by
  unfold work
  rw [List.countP_eq_zero.mpr fun unit member => ?_]
  · rfl
  · have inSpan := List.mem_range.mp member
    rw [decide_eq_true_iff]
    exact idle _ (by omega) (by omega)

/-- No more is worked than time passes. -/
theorem work_le (ordered : start ≤ stop) : work worked start stop ≤ stop - start := by
  have bound := @List.countP_le_length Nat (fun unit : Nat => decide (worked (start + unit)))
    (List.range (stop - start).toNat)
  rw [List.length_range] at bound
  unfold work
  omega

theorem work_mono (later : middle ≤ stop) : work worked start middle ≤ work worked start stop := by
  rcases le_total start middle with first | empty
  · rw [work_add first later]
    have := @work_nonneg worked _ middle stop
    omega
  · rw [work_of_le empty]
    exact work_nonneg

theorem work_anti (earlier : start ≤ middle) : work worked middle stop ≤ work worked start stop := by
  rcases le_total middle stop with second | empty
  · rw [work_add earlier second]
    have := @work_nonneg worked _ start middle
    omega
  · rw [work_of_le empty]
    exact work_nonneg

/-- A span that is worked all its length is worked throughout. -/
theorem worked_of_work (full : work worked start stop = stop - start) :
    ∀ instant, start ≤ instant → instant < stop → worked instant := by
  intro instant first second
  by_contra idle
  have before := @work_le worked _ start instant first
  have after := @work_le worked _ (instant + 1) stop (by omega)
  have here : work worked instant (instant + 1) = 0 := work_none fun other low high => by
    rw [show other = instant by omega]
    exact idle
  rw [work_add first second.le, work_add (by omega : instant ≤ instant + 1) second, here] at full
  omega

end Work

namespace IsFinish

variable {worked other : Int → Prop} [DecidablePred worked] [DecidablePred other]
  {start duration finish : Int}

theorem unique {finish' : Int} (first : IsFinish worked start duration finish)
    (second : IsFinish worked start duration finish') : finish = finish' := by
  rcases lt_trichotomy finish finish' with less | same | less
  · have := second.least finish first.after less
    have := first.done
    omega
  · exact same
  · have := first.least finish' second.after less
    have := second.done
    omega

theorem le_of_work {instant : Int} (isFinish : IsFinish worked start duration finish)
    (later : start ≤ instant) (done : duration ≤ work worked start instant) : finish ≤ instant := by
  by_contra less
  have := isFinish.least instant later (by omega)
  omega

theorem le_iff {instant : Int} (isFinish : IsFinish worked start duration finish)
    (later : start ≤ instant) : finish ≤ instant ↔ duration ≤ work worked start instant := by
  refine ⟨fun reached => ?_, isFinish.le_of_work later⟩
  rw [← isFinish.done]
  exact work_mono reached

/-- Work takes at least its duration. -/
theorem duration_le (isFinish : IsFinish worked start duration finish) :
    start + duration ≤ finish := by
  have := @work_le worked _ start finish isFinish.after
  have := isFinish.done
  omega

/-- What is done before the finish is known. -/
theorem congr (isFinish : IsFinish worked start duration finish)
    (same : ∀ instant, start ≤ instant → instant < finish → (worked instant ↔ other instant)) :
    IsFinish other start duration finish := by
  refine ⟨isFinish.after, ?_, fun instant first second => ?_⟩
  · rw [← work_congr same]
    exact isFinish.done
  · rw [← work_congr fun between low high => same between low (high.trans second)]
    exact isFinish.least instant first second

theorem resume {middle left : Int} (later : start ≤ middle) (positive : 0 < left)
    (before : work worked start middle + left = duration)
    (isFinish : IsFinish worked middle left finish) : IsFinish worked start duration finish := by
  refine ⟨later.trans isFinish.after, ?_, fun instant first second => ?_⟩
  · rw [work_add later isFinish.after, isFinish.done, before]
  · rcases le_total middle instant with behind | ahead
    · have := isFinish.least instant behind second
      rw [work_add later behind]
      omega
    · have := @work_mono worked _ start instant middle ahead
      omega

/-- In a span worked throughout, the work ends when its duration is over. -/
theorem full (nonneg : 0 ≤ duration)
    (worked' : ∀ instant, start ≤ instant → instant < start + duration → worked instant) :
    IsFinish worked start duration (start + duration) := by
  refine ⟨by omega, ?_, fun instant first second => ?_⟩
  · rw [work_full (by omega) worked']
    omega
  · have := @work_le worked _ start instant first
    omega

/-- Time in which nothing is worked does not matter. -/
theorem idle_before {middle : Int} (later : start ≤ middle) (positive : 0 < duration)
    (idle : ∀ instant, start ≤ instant → instant < middle → ¬worked instant)
    (isFinish : IsFinish worked middle duration finish) : IsFinish worked start duration finish :=
  isFinish.resume later positive (by rw [work_none idle, zero_add])

theorem worked_last (isFinish : IsFinish worked start duration finish) (positive : 0 < duration) :
    worked (finish - 1) := by
  have strict : start < finish := by
    rcases isFinish.after.lt_or_eq with less | same
    · exact less
    · have := isFinish.done
      rw [← same, work_self] at this
      omega
  by_contra idle
  have before := isFinish.least (finish - 1) (by omega) (by omega)
  have done := isFinish.done
  have here : work worked (finish - 1) finish = 0 := work_none fun other low high => by
    rw [show other = finish - 1 by omega]
    exact idle
  rw [work_add (by omega : start ≤ finish - 1) (by omega), here] at done
  omega

end IsFinish

end CoreApi.Foundation
