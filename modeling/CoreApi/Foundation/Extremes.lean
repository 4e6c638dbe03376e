import Mathlib.Data.List.Induction
import Mathlib.Order.Bounds.Basic

/-!
# The latest of a set

The greatest element of a set that may be empty, and the fold that finds it.
-/

namespace CoreApi.Foundation

/-- The greatest element of the set, or none where it is empty. -/
def IsLatest {α : Type*} [LE α] (s : Set α) : Option α → Prop
  | none => s = ∅
  | some latest => IsGreatest s latest

section Latest

variable {α β : Type*} [LinearOrder α] {s : Set α} {latest other : Option α}

theorem IsLatest.unique (first : IsLatest s latest) (second : IsLatest s other) :
    latest = other := by
  cases latest with
  | none =>
      cases other with
      | none => rfl
      | some greatest => exact absurd (first ▸ second.1 : greatest ∈ (∅ : Set α)) id
  | some greatest =>
      cases other with
      | none => exact absurd (second ▸ first.1 : greatest ∈ (∅ : Set α)) id
      | some greatest' => rw [IsGreatest.unique first second]

/-- What lies at or before the latest element lies at or before some element. -/
theorem IsLatest.exists_le_iff (isLatest : IsLatest s latest) {bound : α} :
    (∃ element ∈ latest, bound ≤ element) ↔ ∃ element ∈ s, bound ≤ element := by
  cases latest with
  | none =>
      rw [show s = ∅ from isLatest]
      simp
  | some greatest =>
      constructor
      · rintro ⟨element, isElement, before⟩
        cases isElement
        exact ⟨greatest, isLatest.1, before⟩
      · rintro ⟨element, member, before⟩
        exact ⟨greatest, rfl, before.trans (isLatest.2 member)⟩

/-- What the elements before them tell apart is equal. -/
theorem eq_of_exists_le_iff
    (same : ∀ bound : α, (∃ element ∈ latest, bound ≤ element) ↔
      ∃ element ∈ other, bound ≤ element) : latest = other := by
  cases latest with
  | none =>
      cases other with
      | none => rfl
      | some last => simpa using same last
  | some first =>
      cases other with
      | none => simpa using same first
      | some last =>
          have before := same first
          have after := same last
          simp only [Option.mem_def, Option.some.injEq, exists_eq_left', le_refl, true_iff,
            iff_true] at before after
          rw [le_antisymm before after]

/-- The later of a bound that may be missing and another one. -/
def later (latest : Option α) (bound : α) : Option α :=
  some (match latest with | none => bound | some latest => max latest bound)

theorem IsLatest.insert (isLatest : IsLatest s latest) (bound : α) :
    IsLatest (insert bound s) (later latest bound) := by
  cases latest with
  | none =>
      rw [show s = ∅ from isLatest, insert_empty_eq]
      exact isGreatest_singleton
  | some greatest =>
      rw [later, max_comm]
      exact IsGreatest.insert bound isLatest

/-- The later of a bound that may be missing and the bound of an element, if it has one. -/
def laterOf (boundOf : β → Option α) (latest : Option α) (element : β) : Option α :=
  match boundOf element with
  | none => latest
  | some bound => later latest bound

/-- A fold over the bounds of the elements that have one ends at the latest. -/
theorem isLatest_foldl (boundOf : β → Option α) (elements : List β) :
    IsLatest {bound | ∃ element ∈ elements, boundOf element = some bound}
      (elements.foldl (laterOf boundOf) none) := by
  induction elements using List.reverseRecOn with
  | nil => simp [IsLatest]
  | append_singleton elements element ih =>
      rw [List.foldl_append]
      simp only [List.foldl_cons, List.foldl_nil, laterOf]
      cases isBound : boundOf element with
      | none =>
          convert ih using 2
          ext bound
          simp [or_and_right, exists_or, isBound]
      | some bound =>
          convert ih.insert bound using 2
          ext bound'
          simp [or_and_right, exists_or, isBound, or_comm, eq_comm]

end Latest

end CoreApi.Foundation
