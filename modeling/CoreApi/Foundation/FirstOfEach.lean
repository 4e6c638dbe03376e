import Mathlib.Data.List.Nodup
import Mathlib.Data.Set.Basic

/-!
# The first row of each group

A loop that keeps a row when no row of its group has been kept takes, from rows that
are sorted, the leading row of each group.
-/

namespace CoreApi.Foundation

/-- The element comes before the whole set. -/
def Leads {α : Type*} (before : α → α → Prop) (s : Set α) (first : α) : Prop :=
  first ∈ s ∧ ∀ element ∈ s, before first element

section Leading

variable {α : Type*} {before before' : α → α → Prop} {s t : Set α} {first : α}

theorem leads_congr (same : ∀ element ∈ s, ∀ element' ∈ s,
    before element element' ↔ before' element element') :
    Leads before s first ↔ Leads before' s first := by
  constructor
  · rintro ⟨member, leads⟩
    exact ⟨member, fun element isElement =>
      (same first member element isElement).mp (leads element isElement)⟩
  · rintro ⟨member, leads⟩
    exact ⟨member, fun element isElement =>
      (same first member element isElement).mpr (leads element isElement)⟩

/-- Where one set comes before another, the first of both is that of the one set, and that of
the other only where the one is empty. -/
theorem leads_union (earlier : ∀ element ∈ s, ∀ element' ∈ t,
    before element element' ∧ ¬before element' element) :
    Leads before (s ∪ t) first ↔ Leads before s first ∨ s = ∅ ∧ Leads before t first := by
  constructor
  · rintro ⟨member | member, leads⟩
    · exact .inl ⟨member, fun element isElement => leads element (.inl isElement)⟩
    · refine .inr ⟨?_, member, fun element isElement => leads element (.inr isElement)⟩
      rw [Set.eq_empty_iff_forall_notMem]
      intro element isElement
      exact (earlier element isElement first member).2 (leads element (.inl isElement))
  · rintro (⟨member, leads⟩ | ⟨rfl, member, leads⟩)
    · refine ⟨.inl member, ?_⟩
      rintro element (isElement | isElement)
      · exact leads element isElement
      · exact (earlier first member element isElement).1
    · refine ⟨.inr member, ?_⟩
      rintro element (isElement | isElement)
      · exact absurd isElement (Set.notMem_empty element)
      · exact leads element isElement

end Leading

section Groups

variable {α κ : Type*} [DecidableEq κ] (group : α → κ)

/-- Keep the row unless a row of its group is kept already. -/
def keepFirst (kept : List α) (row : α) : List α :=
  if group row ∈ kept.map group then kept else kept ++ [row]

/-- The first row of each group, in the order in which the groups are met. -/
def firstOfEach (rows : List α) : List α := rows.foldl (keepFirst group) []

variable {group} {kept rows : List α} {row : α}

theorem nodup_keepFirst (distinct : (kept.map group).Nodup) :
    ((keepFirst group kept row).map group).Nodup := by
  unfold keepFirst
  split
  · exact distinct
  · next isNew =>
      rw [List.map_append]
      refine List.Nodup.append distinct (List.nodup_singleton _) ?_
      simpa using isNew

theorem nodup_foldl_keepFirst (distinct : (kept.map group).Nodup) :
    ((rows.foldl (keepFirst group) kept).map group).Nodup := by
  induction rows generalizing kept with
  | nil => exact distinct
  | cons first rest ih => exact ih (nodup_keepFirst distinct)

/-- No two rows of a group are kept. -/
theorem nodup_firstOfEach : ((firstOfEach group rows).map group).Nodup :=
  nodup_foldl_keepFirst List.nodup_nil

theorem mem_map_keepFirst {key : κ} :
    key ∈ (keepFirst group kept row).map group ↔ key ∈ kept.map group ∨ key = group row := by
  unfold keepFirst
  split
  · next isOld =>
      constructor
      · exact .inl
      · rintro (member | rfl)
        · exact member
        · exact isOld
  · simp

theorem mem_keepFirst {element : α} :
    element ∈ keepFirst group kept row ↔
      element ∈ kept ∨ element = row ∧ group row ∉ kept.map group := by
  unfold keepFirst
  split
  · next isOld => simp [isOld]
  · next isNew => simp [isNew]

/-- The loop keeps what was kept, and from rows in order the leading ones of the other groups. -/
theorem mem_foldl_keepFirst {before : α → α → Prop} (reflexive : ∀ row, before row row)
    (sorted : rows.Pairwise before)
    (antisymmetric : ∀ first ∈ rows, ∀ second ∈ rows,
      before first second → before second first → first = second) {element : α} :
    element ∈ rows.foldl (keepFirst group) kept ↔
      element ∈ kept ∨ group element ∉ kept.map group ∧
        Leads before {row | row ∈ rows ∧ group row = group element} element := by
  induction rows generalizing kept with
  | nil => simp [Leads]
  | cons first rest ih =>
      obtain ⟨firstBefore, restSorted⟩ := List.pairwise_cons.mp sorted
      have step := @ih (keepFirst group kept first) restSorted
        fun second isRest third isRest' => antisymmetric second (.tail _ isRest) third
          (.tail _ isRest')
      rw [List.foldl_cons, step, mem_keepFirst, mem_map_keepFirst]
      constructor
      · rintro ((isKept | ⟨rfl, isNew⟩) | ⟨isOther, ⟨isRest, _⟩, leads⟩)
        · exact .inl isKept
        · refine .inr ⟨isNew, ⟨.head _, rfl⟩, ?_⟩
          rintro row ⟨member, _⟩
          rcases List.mem_cons.mp member with rfl | isRest
          · exact reflexive row
          · exact firstBefore row isRest
        · rw [not_or] at isOther
          refine .inr ⟨isOther.1, ⟨.tail _ isRest, rfl⟩, ?_⟩
          rintro row ⟨member, sameGroup⟩
          rcases List.mem_cons.mp member with rfl | isRest'
          · exact absurd sameGroup.symm isOther.2
          · exact leads row ⟨isRest', sameGroup⟩
      · rintro (isKept | ⟨isNew, ⟨member, _⟩, leads⟩)
        · exact .inl (.inl isKept)
        · rcases List.mem_cons.mp member with rfl | isRest
          · exact .inl (.inr ⟨rfl, isNew⟩)
          · by_cases sameGroup : group element = group first
            · have isFirst : element = first :=
                antisymmetric element member first (.head _)
                  (leads first ⟨.head _, sameGroup.symm⟩) (firstBefore element isRest)
              exact .inl (.inr ⟨isFirst, isFirst ▸ isNew⟩)
            · refine .inr ⟨not_or.mpr ⟨isNew, sameGroup⟩, ⟨isRest, rfl⟩, ?_⟩
              rintro row ⟨isRest', ofGroup⟩
              exact leads row ⟨.tail _ isRest', ofGroup⟩

/-- From rows in order the loop keeps the leading row of each group. -/
theorem mem_firstOfEach {before : α → α → Prop} (reflexive : ∀ row, before row row)
    (sorted : rows.Pairwise before)
    (antisymmetric : ∀ first ∈ rows, ∀ second ∈ rows,
      before first second → before second first → first = second) {element : α} :
    element ∈ firstOfEach group rows ↔
      Leads before {row | row ∈ rows ∧ group row = group element} element := by
  unfold firstOfEach
  rw [mem_foldl_keepFirst reflexive sorted antisymmetric]
  simp

end Groups

end CoreApi.Foundation
