import CoreApi.Foundation.Table

/-!
# Changes of a table, row by row

`Images keeps before after` says that every row of `after` is what became of a row of
`before`, and `Keeps keeps before after` that something became of every row of `before`;
`keeps` relates a row to what became of it. `Pairwise related table` says that any two
rows of a table are related.
-/

namespace CoreApi.Foundation

namespace Table

open Keyed

variable {α : Type} [Keyed α]

/-- `DELETE … WHERE p`; the counter stays. -/
def remove (table : Table α) (p : α → Bool) : Table α where
  rows := table.rows.filter fun row => !p row
  autoIncrement := table.autoIncrement
  distinct := table.distinct.sublist (List.filter_sublist.map key)
  bounded := fun row member => table.bounded row (List.mem_filter.mp member).1
  positive := table.positive

theorem mem_remove {table : Table α} {p : α → Bool} {row : α} :
    row ∈ (table.remove p).rows ↔ row ∈ table.rows ∧ p row = false := by
  unfold remove
  simp

/-- A key finds the row it found, unless that row was removed. -/
theorem find?_remove {table : Table α} {p : α → Bool} {k : Nat} :
    (table.remove p).find? k = (table.find? k).filter fun row => !p row := by
  rcases found : table.find? k with _ | old
  · rw [Option.filter_none, find?_eq_none]
    exact fun row member => find?_eq_none.mp found row (mem_remove.mp member).1
  · obtain ⟨member, same⟩ := find?_eq_some.mp found
    rcases removed : p old with _ | _
    · rw [Option.filter_some, removed, Bool.not_false, if_pos rfl, find?_eq_some]
      exact ⟨mem_remove.mpr ⟨member, removed⟩, same⟩
    · rw [Option.filter_some, removed, Bool.not_true, if_neg Bool.false_ne_true, find?_eq_none]
      intro row isRow isKey
      obtain ⟨rowMember, kept⟩ := mem_remove.mp isRow
      rw [eq_of_key_eq rowMember member (isKey.trans same.symm), removed] at kept
      cases kept

/-- A row that was just stored and is removed again leaves the rows as they were. -/
theorem rows_remove_insert {table : Table α} {row : α} :
    ((table.insert row).remove fun other => key other == table.autoIncrement).rows =
      table.rows := by
  have older : ∀ other ∈ table.rows, (!key other == table.autoIncrement) = true := by
    intro other member
    simpa using Nat.ne_of_lt (table.bounded other member).2
  simp [remove, List.filter_append, List.filter_eq_self.mpr older, key_withKey]

/-- The same rows, as a query without ORDER BY may meet them. -/
def reordered (table : Table α) (rows : List α) (same : rows.Perm table.rows) : Table α where
  rows := rows
  autoIncrement := table.autoIncrement
  distinct := (same.map key).nodup_iff.mpr table.distinct
  bounded := fun row member => table.bounded row (same.subset member)
  positive := table.positive

/-- The rows seen as rows of another type under the same keys. -/
def seenAs {β : Type} [Keyed β] (table : Table α) (view : α → β)
    (keeps : ∀ row, key (view row) = key row) : Table β where
  rows := table.rows.map view
  autoIncrement := table.autoIncrement
  distinct := by
    have keys : (table.rows.map view).map key = table.rows.map key := by
      rw [List.map_map]
      exact List.map_congr_left fun row _ => keeps row
    rw [keys]
    exact table.distinct
  bounded := by
    intro row member
    obtain ⟨old, oldMember, rfl⟩ := List.mem_map.mp member
    rw [keeps]
    exact table.bounded old oldMember
  positive := table.positive

/-- A new row that queries meet before the others. -/
def insertFirst (table : Table α) (row : α) : Table α :=
  (table.insert row).reordered (withKey table.autoIncrement row :: table.rows)
    (List.perm_append_singleton _ _).symm

@[simp] theorem rows_insertFirst {table : Table α} {row : α} :
    (table.insertFirst row).rows = withKey table.autoIncrement row :: table.rows := rfl

/-- Every row of the later table is what became of a row of the earlier one. -/
def Images (keeps : α → α → Prop) (before after : Table α) : Prop :=
  ∀ row ∈ after.rows, ∃ old ∈ before.rows, key old = key row ∧ keeps old row

/-- Something became of every row of the earlier table. -/
def Keeps (keeps : α → α → Prop) (before after : Table α) : Prop :=
  ∀ old ∈ before.rows, ∃ row ∈ after.rows, key old = key row ∧ keeps old row

/-- Any two rows of the table are related. -/
def Pairwise (related : α → α → Prop) (table : Table α) : Prop :=
  ∀ row ∈ table.rows, ∀ other ∈ table.rows, key row ≠ key other → related row other

/-- A row was saved: it is there, beside the rows under other keys. -/
def Saves (before : Table α) (row : α) (after : Table α) : Prop :=
  ∀ other, other ∈ after.rows ↔ other = row ∨ other ∈ before.rows ∧ key other ≠ key row

section Changes

variable {keeps : α → α → Prop} {related : α → α → Prop} {before between after : Table α}
  {p : α → Bool} {set : α → α} {keepsKey : ∀ row, key (set row) = key row}

theorem images_update (reflexive : ∀ row, keeps row row)
    (each : ∀ row ∈ before.rows, p row = true → keeps row (set row)) :
    Images keeps before (before.update p set keepsKey) := by
  intro row member
  obtain ⟨old, oldMember, rfl⟩ := mem_update.mp member
  refine ⟨old, oldMember, ?_⟩
  split
  · next isRow => exact ⟨(keepsKey old).symm, each old oldMember isRow⟩
  · exact ⟨rfl, reflexive old⟩

theorem keeps_update (reflexive : ∀ row, keeps row row)
    (each : ∀ row ∈ before.rows, p row = true → keeps row (set row)) :
    Keeps keeps before (before.update p set keepsKey) := by
  intro old oldMember
  refine ⟨if p old then set old else old, mem_update.mpr ⟨old, oldMember, rfl⟩, ?_⟩
  split
  · next isRow => exact ⟨(keepsKey old).symm, each old oldMember isRow⟩
  · exact ⟨rfl, reflexive old⟩

theorem Keeps.refl (reflexive : ∀ row, keeps row row) (table : Table α) :
    Keeps keeps table table :=
  fun old member => ⟨old, member, rfl, reflexive old⟩

theorem Keeps.trans (transitive : ∀ {a b c}, keeps a b → keeps b c → keeps a c)
    (first : Keeps keeps before between) (second : Keeps keeps between after) :
    Keeps keeps before after := by
  intro old oldMember
  obtain ⟨middle, middleMember, sameMiddle, keepsMiddle⟩ := first old oldMember
  obtain ⟨row, member, same, keepsRow⟩ := second middle middleMember
  exact ⟨row, member, sameMiddle.trans same, transitive keepsMiddle keepsRow⟩

/-- Rows stored behind the others leave these alone. -/
theorem Keeps.append (reflexive : ∀ row, keeps row row) {added : List α}
    (rows : after.rows = before.rows ++ added) : Keeps keeps before after := by
  intro old oldMember
  exact ⟨old, rows ▸ List.mem_append_left added oldMember, rfl, reflexive old⟩

/-- Rows stay related where what becomes of them does. -/
theorem Pairwise.images (pairwise : before.Pairwise related)
    (images : Images keeps before after)
    (congr : ∀ {a b a' b'}, keeps a a' → keeps b b' → related a b → related a' b') :
    after.Pairwise related := by
  intro row member other otherMember different
  obtain ⟨old, oldMember, same, keepsRow⟩ := images row member
  obtain ⟨oldOther, oldOtherMember, sameOther, keepsOther⟩ := images other otherMember
  exact congr keepsRow keepsOther
    (pairwise old oldMember oldOther oldOtherMember (same ▸ sameOther ▸ different))

/-- A row stored behind the others is to be related to each of them. -/
theorem Pairwise.append (pairwise : before.Pairwise related)
    (symmetric : ∀ {a b}, related a b → related b a) {row : α}
    (rows : after.rows = before.rows ++ [row])
    (new : ∀ other ∈ before.rows, related other row) : after.Pairwise related := by
  intro first firstMember second secondMember different
  rw [rows] at firstMember secondMember
  rcases List.mem_append.mp firstMember with firstOld | firstNew
  · rcases List.mem_append.mp secondMember with secondOld | secondNew
    · exact pairwise first firstOld second secondOld different
    · rw [List.mem_singleton.mp secondNew]
      exact new first firstOld
  · rw [List.mem_singleton.mp firstNew] at different ⊢
    rcases List.mem_append.mp secondMember with secondOld | secondNew
    · exact symmetric (new second secondOld)
    · rw [List.mem_singleton.mp secondNew] at different
      exact absurd rfl different

theorem Pairwise.remove (pairwise : before.Pairwise related) :
    (before.remove p).Pairwise related := fun row member other otherMember different =>
  pairwise row (mem_remove.mp member).1 other (mem_remove.mp otherMember).1 different

theorem Pairwise.updateAt {k : Nat} (pairwise : before.Pairwise related)
    (symmetric : ∀ {a b}, related a b → related b a)
    (written : ∀ row ∈ before.rows, key row = k → ∀ other ∈ before.rows, key other ≠ k →
      related (set row) other) :
    (before.updateAt k set keepsKey).Pairwise related := by
  intro first firstMember second secondMember different
  rcases mem_updateAt.mp firstMember with ⟨old, oldMember, isKey, rfl⟩ | ⟨firstOld, notFirst⟩
  · rcases mem_updateAt.mp secondMember with ⟨other, _, isKey', rfl⟩ | ⟨secondOld, notSecond⟩
    · rw [keepsKey, keepsKey, isKey, isKey'] at different
      exact absurd rfl different
    · exact written old oldMember isKey second secondOld notSecond
  · rcases mem_updateAt.mp secondMember with ⟨other, otherMember, isKey', rfl⟩ | ⟨secondOld, _⟩
    · exact symmetric (written other otherMember isKey' first firstOld notFirst)
    · exact pairwise first firstOld second secondOld different

theorem saves_insert {row : α} :
    Saves before (withKey before.autoIncrement row) (before.insert row) := by
  intro other
  rw [rows_insert, List.mem_append, List.mem_singleton, key_withKey]
  constructor
  · rintro (old | isNew)
    · exact .inr ⟨old, Nat.ne_of_lt (before.bounded other old).2⟩
    · exact .inl isNew
  · rintro (isNew | ⟨old, -⟩)
    · exact .inr isNew
    · exact .inl old

theorem saves_updateAt {k : Nat} {row : α} (isKey : key row = k)
    (found : (before.find? k).isSome = true)
    (writes : ∀ old ∈ before.rows, key old = k → set old = row) :
    Saves before row (before.updateAt k set keepsKey) := by
  intro other
  rw [mem_updateAt, isKey]
  constructor
  · rintro (⟨old, isRow, isOld, rfl⟩ | old)
    · exact .inl (writes old isRow isOld)
    · exact .inr old
  · rintro (rfl | old)
    · obtain ⟨old, isFound⟩ := Option.isSome_iff_exists.mp found
      have isRow := mem_of_find? isFound
      have isOld := key_of_find? isFound
      exact .inl ⟨old, isRow, isOld, (writes old isRow isOld).symm⟩
    · exact .inr old

theorem Pairwise.saves_iff (pairwise : before.Pairwise related)
    (symmetric : ∀ {a b}, related a b → related b a) {row : α} (saves : Saves before row after) :
    after.Pairwise related ↔ ∀ other ∈ before.rows, key other ≠ key row → related other row := by
  constructor
  · intro later other member different
    exact later other ((saves other).mpr (.inr ⟨member, different⟩)) row
      ((saves row).mpr (.inl rfl)) different
  · intro new first firstMember second secondMember different
    rcases (saves first).mp firstMember with rfl | ⟨firstOld, firstOther⟩
    · rcases (saves second).mp secondMember with rfl | ⟨secondOld, secondOther⟩
      · exact absurd rfl different
      · exact symmetric (new second secondOld secondOther)
    · rcases (saves second).mp secondMember with rfl | ⟨secondOld, -⟩
      · exact new first firstOld firstOther
      · exact pairwise first firstOld second secondOld different

end Changes

end Table

end CoreApi.Foundation
