import Mathlib.Data.List.Basic

/-!
# First of a ranking

`ORDER BY … LIMIT 1` returns a row that no other precedes. Rows of one rank tie, and which of them
comes first depends on the order in which they are read.
-/

namespace CoreApi.Foundation

variable {α : Type*}

/-- The comparison ranks its elements: what lies between two ranks is behind the one or before the
other. -/
structure IsRanking (before : α → α → Bool) : Prop where
  asymm : ∀ {a b}, before a b = true → before b a = false
  between : ∀ {a c} b, before a c = true → before a b = true ∨ before b c = true

/-- The first element, in the order of the list, that no element precedes. -/
def firstRanked (before : α → α → Bool) (rows : List α) : Option α :=
  rows.find? fun row => rows.all fun other => !before other row

/-- An order in which rows may be read. -/
structure Reading (α : Type*) where
  read : List α → List α
  perm : ∀ rows, (read rows).Perm rows

/-- One row before the others. -/
def Reading.starting [DecidableEq α] (row : α) : Reading α where
  read rows := if row ∈ rows then row :: rows.erase row else rows
  perm rows := by
    split
    · next member => exact (List.perm_cons_erase member).symm
    · exact List.Perm.refl rows

section

variable {before : α → α → Bool} {rows : List α} {row : α}

/-- No element precedes this one. -/
def IsFirst (before : α → α → Bool) (rows : List α) (row : α) : Prop :=
  row ∈ rows ∧ ∀ other ∈ rows, before other row = false

theorem IsRanking.trans (ranking : IsRanking before) {a b c : α} (first : before a b = true)
    (second : before b c = true) : before a c = true := by
  rcases ranking.between c first with known | backwards
  · exact known
  · rw [ranking.asymm second] at backwards
    cases backwards

/-- What ties with a first element is first. -/
theorem IsFirst.of_tie (ranking : IsRanking before) (isFirst : IsFirst before rows row) {other : α}
    (member : other ∈ rows) (tie : before row other = false) : IsFirst before rows other := by
  refine ⟨member, fun third isThird => Bool.eq_false_iff.mpr fun precedes => ?_⟩
  rcases ranking.between row precedes with ahead | behind
  · rw [isFirst.2 third isThird] at ahead
    cases ahead
  · rw [tie] at behind
    cases behind

theorem isFirst_of_firstRanked (found : firstRanked before rows = some row) :
    IsFirst before rows row := by
  have isFirst := List.find?_some found
  simp only [List.all_eq_true, Bool.not_eq_true'] at isFirst
  exact ⟨List.mem_of_find?_eq_some found, isFirst⟩

/-- A list that is not empty has a first element. -/
theorem exists_isFirst (ranking : IsRanking before) (member : row ∈ rows) :
    ∃ first, IsFirst before rows first := by
  induction rows generalizing row with
  | nil => cases member
  | cons head rest ih =>
      cases rest with
      | nil =>
          refine ⟨head, List.mem_singleton_self head, fun other isOther => ?_⟩
          rw [List.mem_singleton.mp isOther]
          exact Bool.eq_false_iff.mpr fun precedes =>
            Bool.eq_false_iff.mp (ranking.asymm precedes) precedes
      | cons next rest =>
          obtain ⟨first, isFirst⟩ := ih List.mem_cons_self
          rcases ahead : before head first with _ | _
          · refine ⟨first, List.mem_cons_of_mem head isFirst.1, fun other isOther => ?_⟩
            rcases List.mem_cons.mp isOther with rfl | isOther
            · exact ahead
            · exact isFirst.2 other isOther
          · refine ⟨head, List.mem_cons_self, fun other isOther => ?_⟩
            rcases List.mem_cons.mp isOther with rfl | isOther
            · exact Bool.eq_false_iff.mpr fun precedes =>
                Bool.eq_false_iff.mp (ranking.asymm precedes) precedes
            · refine Bool.eq_false_iff.mpr fun precedes => ?_
              have earlier := ranking.trans precedes ahead
              rw [isFirst.2 other isOther] at earlier
              cases earlier

/-- Some first element is found where there is an element. -/
theorem exists_firstRanked (ranking : IsRanking before) (member : row ∈ rows) :
    ∃ first, firstRanked before rows = some first := by
  obtain ⟨first, isFirst⟩ := exists_isFirst ranking member
  have isSome : (firstRanked before rows).isSome = true := by
    refine List.find?_isSome.mpr ⟨first, isFirst.1, ?_⟩
    simp only [List.all_eq_true, Bool.not_eq_true']
    exact isFirst.2
  exact Option.isSome_iff_exists.mp isSome

/-- What precedes every other element is found in whatever order they are read. -/
theorem firstRanked_of_ahead (ranking : IsRanking before) (member : row ∈ rows)
    (ahead : ∀ other ∈ rows, other ≠ row → before row other = true) (reading : Reading α) :
    firstRanked before (reading.read rows) = some row := by
  have isRow := (reading.perm rows).mem_iff.mpr member
  obtain ⟨first, found⟩ := exists_firstRanked ranking isRow
  have isFirst := isFirst_of_firstRanked found
  rw [found]
  by_contra different
  have precedes := ahead first ((reading.perm rows).mem_iff.mp isFirst.1)
    fun same => different (congrArg some same)
  rw [isFirst.2 row isRow] at precedes
  cases precedes

/-- Any first element is found when it is read first. -/
theorem firstRanked_starting [DecidableEq α] (isFirst : IsFirst before rows row) :
    firstRanked before ((Reading.starting row).read rows) = some row := by
  have reads : (Reading.starting row).read rows = row :: rows.erase row := if_pos isFirst.1
  rw [reads]
  refine List.find?_cons_of_pos ?_
  simp only [List.all_eq_true, Bool.not_eq_true']
  intro other member
  exact isFirst.2 other ((List.perm_cons_erase isFirst.1).mem_iff.mpr member)

end

end CoreApi.Foundation
