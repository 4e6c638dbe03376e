import Mathlib.Data.List.Basic

/-!
# Joins of tables

`innerJoin` pairs each row with every row of another table that it meets;
`leftJoin` also keeps a row that meets none, beside an empty partner. A
condition on the partner of a left join is not met by the empty partner, as SQL
does not take a comparison with NULL for true.
-/

namespace CoreApi.Foundation

variable {α β : Type} {meets : α → β → Bool} {rows : List α} {others : List β}

/-- `… INNER JOIN others ON meets`. -/
def innerJoin (meets : α → β → Bool) (rows : List α) (others : List β) : List (α × β) :=
  rows.flatMap fun row => (others.filter (meets row)).map fun other => (row, other)

/-- `… LEFT JOIN others ON meets`. -/
def leftJoin (meets : α → β → Bool) (rows : List α) (others : List β) : List (α × Option β) :=
  rows.flatMap fun row =>
    match others.filter (meets row) with
    | [] => [(row, none)]
    | first :: rest => (first :: rest).map fun other => (row, some other)

theorem innerJoin_filter (keep : α → Bool) :
    innerJoin meets (rows.filter keep) others =
      (innerJoin meets rows others).filter fun pair => keep pair.1 := by
  induction rows with
  | nil => rfl
  | cons row rest ih =>
      unfold innerJoin at ih ⊢
      rw [List.flatMap_cons, List.filter_append, ← ih, List.filter_map]
      rcases isKept : keep row with _ | _ <;> simp [isKept, Function.comp_def]

theorem leftJoin_filter (keep : α → Bool) :
    leftJoin meets (rows.filter keep) others =
      (leftJoin meets rows others).filter fun pair => keep pair.1 := by
  induction rows with
  | nil => rfl
  | cons row rest ih =>
      unfold leftJoin at ih ⊢
      rw [List.flatMap_cons, List.filter_append, ← ih]
      rcases isKept : keep row with _ | _ <;>
        rcases isMet : others.filter (meets row) with _ | ⟨first, others⟩ <;>
          simp [isKept, isMet, List.filter_map, Function.comp_def]

theorem mem_innerJoin {pair : α × β} :
    pair ∈ innerJoin meets rows others ↔
      pair.1 ∈ rows ∧ pair.2 ∈ others ∧ meets pair.1 pair.2 = true := by
  obtain ⟨row, other⟩ := pair
  simp only [innerJoin, List.mem_flatMap, List.mem_map, List.mem_filter, Prod.mk.injEq]
  constructor
  · rintro ⟨_, member, _, ⟨isOther, met⟩, rfl, rfl⟩
    exact ⟨member, isOther, met⟩
  · rintro ⟨member, isOther, met⟩
    exact ⟨row, member, other, ⟨isOther, met⟩, rfl, rfl⟩

/-- A left join has the pairs of the inner join. -/
theorem mem_leftJoin_some {row : α} {other : β} :
    (row, some other) ∈ leftJoin meets rows others ↔
      row ∈ rows ∧ other ∈ others ∧ meets row other = true := by
  simp only [leftJoin, List.mem_flatMap]
  constructor
  · rintro ⟨kept, member, inPairs⟩
    rcases isMet : others.filter (meets kept) with _ | ⟨first, rest⟩
    · rw [isMet] at inPairs
      simp at inPairs
    · rw [isMet] at inPairs
      obtain ⟨_, isOther, same⟩ := List.mem_map.mp inPairs
      obtain ⟨rfl, sameOther⟩ := Prod.mk.inj same
      cases sameOther
      rw [← isMet, List.mem_filter] at isOther
      exact ⟨member, isOther⟩
  · rintro ⟨member, isOther⟩
    refine ⟨row, member, ?_⟩
    have inMet : other ∈ others.filter (meets row) := List.mem_filter.mpr isOther
    rcases isMet : others.filter (meets row) with _ | ⟨first, rest⟩
    · rw [isMet] at inMet
      cases inMet
    · rw [isMet] at inMet
      exact List.mem_map.mpr ⟨other, inMet, rfl⟩

theorem exists_mem_leftJoin {row : α} :
    (∃ partner, (row, partner) ∈ leftJoin meets rows others) ↔ row ∈ rows := by
  simp only [leftJoin, List.mem_flatMap]
  constructor
  · rintro ⟨partner, kept, member, inPairs⟩
    rcases isMet : others.filter (meets kept) with _ | ⟨first, rest⟩
    · rw [isMet, List.mem_singleton] at inPairs
      exact (Prod.mk.inj inPairs).1 ▸ member
    · rw [isMet] at inPairs
      obtain ⟨_, _, same⟩ := List.mem_map.mp inPairs
      exact (Prod.mk.inj same).1 ▸ member
  · intro member
    rcases isMet : others.filter (meets row) with _ | ⟨first, rest⟩
    · exact ⟨none, row, member, by simp [isMet]⟩
    · exact ⟨some first, row, member, by simp [isMet]⟩

end CoreApi.Foundation
