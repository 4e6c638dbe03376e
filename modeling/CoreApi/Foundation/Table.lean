import Mathlib.Data.List.Nodup
import Mathlib.Data.List.Basic

/-!
# Tables with an AUTO_INCREMENT primary key

A `Table` carries the facts a database keeps about a primary key: no two rows
share it, and every key lies strictly between zero and the counter the next
insert takes. `Table.rollback` brings back the rows of an earlier table but not
its counter, as aborted inserts leave gaps.
-/

namespace CoreApi.Foundation

/-- A row type with its primary key. -/
class Keyed (α : Type) where
  key : α → Nat
  withKey : Nat → α → α
  key_withKey : ∀ n row, key (withKey n row) = n

attribute [simp] Keyed.key_withKey

open Keyed

/-- Rows under distinct primary keys, all below the AUTO_INCREMENT counter. -/
structure Table (α : Type) [Keyed α] where
  rows : List α
  autoIncrement : Nat
  distinct : (rows.map key).Nodup
  bounded : ∀ row ∈ rows, 0 < key row ∧ key row < autoIncrement
  positive : 0 < autoIncrement

namespace Table

variable {α : Type} [Keyed α] {table : Table α} {row row' : α} {k : Nat}

/-- The table a CREATE TABLE leaves. -/
def empty (α : Type) [Keyed α] : Table α where
  rows := []
  autoIncrement := 1
  distinct := List.nodup_nil
  bounded := by simp
  positive := Nat.one_pos

/-- The row under a primary key. -/
def find? (table : Table α) (k : Nat) : Option α := table.rows.find? fun row => key row == k

/-- The rows that satisfy a WHERE clause, in key order of insertion. -/
def select (table : Table α) (p : α → Bool) : List α := table.rows.filter p

theorem eq_of_key_eq (member : row ∈ table.rows) (member' : row' ∈ table.rows)
    (same : key row = key row') : row = row' :=
  List.inj_on_of_nodup_map table.distinct member member' same

/-- Looking up a key finds exactly the row that has it. -/
theorem find?_eq_some : table.find? k = some row ↔ row ∈ table.rows ∧ key row = k := by
  constructor
  · intro found
    exact ⟨List.mem_of_find?_eq_some found, by simpa using List.find?_some found⟩
  · rintro ⟨member, rfl⟩
    rcases found : table.find? (key row) with _ | other
    · have none := List.find?_eq_none.mp found row member
      simp at none
    · have same : key other = key row := by simpa using List.find?_some found
      rw [eq_of_key_eq (List.mem_of_find?_eq_some found) member same]

theorem find?_of_mem (member : row ∈ table.rows) : table.find? (key row) = some row :=
  find?_eq_some.mpr ⟨member, rfl⟩

theorem mem_of_find? (found : table.find? k = some row) : row ∈ table.rows :=
  (find?_eq_some.mp found).1

theorem key_of_find? (found : table.find? k = some row) : key row = k :=
  (find?_eq_some.mp found).2

theorem find?_eq_none : table.find? k = none ↔ ∀ row ∈ table.rows, key row ≠ k := by
  simp [find?, List.find?_eq_none]

theorem mem_select {p : α → Bool} : row ∈ table.select p ↔ row ∈ table.rows ∧ p row = true :=
  List.mem_filter

/-! ## Updates -/

/-- `UPDATE … SET … WHERE p`; an update never writes the primary key. -/
def update (table : Table α) (p : α → Bool) (set : α → α)
    (keeps : ∀ row, key (set row) = key row) : Table α where
  rows := table.rows.map fun row => if p row then set row else row
  autoIncrement := table.autoIncrement
  distinct := by
    have keys : (table.rows.map fun row => if p row then set row else row).map key =
        table.rows.map key := by
      rw [List.map_map]
      apply List.map_congr_left
      intro row _
      simp only [Function.comp_apply]
      split
      · exact keeps row
      · rfl
    rw [keys]
    exact table.distinct
  bounded := by
    intro row member
    obtain ⟨old, oldMember, rfl⟩ := List.mem_map.mp member
    have bound := table.bounded old oldMember
    split
    · rw [keeps]
      exact bound
    · exact bound
  positive := table.positive

/-- `UPDATE … SET … WHERE primary key = k`. -/
def updateAt (table : Table α) (k : Nat) (set : α → α)
    (keeps : ∀ row, key (set row) = key row) : Table α :=
  table.update (fun row => key row == k) set keeps

section Update

variable {p : α → Bool} {set : α → α} {keeps : ∀ row, key (set row) = key row}

@[simp] theorem autoIncrement_updateAt :
    (table.updateAt k set keeps).autoIncrement = table.autoIncrement := rfl

theorem rows_update :
    (table.update p set keeps).rows = table.rows.map fun row => if p row then set row else row :=
  rfl

theorem rows_updateAt :
    (table.updateAt k set keeps).rows =
      table.rows.map fun row => if key row = k then set row else row := by
  simp [updateAt, rows_update]

theorem mem_update :
    row ∈ (table.update p set keeps).rows ↔
      ∃ old ∈ table.rows, row = if p old then set old else old := by
  rw [rows_update, List.mem_map]
  exact ⟨fun ⟨old, member, eq⟩ => ⟨old, member, eq.symm⟩,
    fun ⟨old, member, eq⟩ => ⟨old, member, eq.symm⟩⟩

theorem mem_updateAt :
    row ∈ (table.updateAt k set keeps).rows ↔
      (∃ old ∈ table.rows, key old = k ∧ row = set old) ∨ (row ∈ table.rows ∧ key row ≠ k) := by
  rw [updateAt, mem_update]
  constructor
  · rintro ⟨old, member, rfl⟩
    by_cases same : key old = k
    · exact .inl ⟨old, member, same, by simp [same]⟩
    · exact .inr (by simp [same, member])
  · rintro (⟨old, member, same, rfl⟩ | ⟨member, different⟩)
    · exact ⟨old, member, by simp [same]⟩
    · exact ⟨row, member, by simp [different]⟩

@[simp] theorem find?_updateAt_self :
    (table.updateAt k set keeps).find? k = (table.find? k).map set := by
  rcases found : table.find? k with _ | old
  · rw [Option.map_none, find?_eq_none]
    intro row member
    rcases mem_updateAt.mp member with ⟨old, oldMember, same, _⟩ | ⟨_, different⟩
    · exact absurd same (find?_eq_none.mp found old oldMember)
    · exact different
  · rw [Option.map_some, find?_eq_some]
    obtain ⟨member, same⟩ := find?_eq_some.mp found
    exact ⟨mem_updateAt.mpr (.inl ⟨old, member, same, rfl⟩), (keeps old).trans same⟩

theorem find?_updateAt_of_ne {j : Nat} (different : j ≠ k) :
    (table.updateAt k set keeps).find? j = table.find? j := by
  rcases found : table.find? j with _ | old
  · rw [find?_eq_none]
    intro row member
    rcases mem_updateAt.mp member with ⟨old, oldMember, same, rfl⟩ | ⟨oldMember, _⟩
    · rw [keeps, same]
      exact different.symm
    · exact find?_eq_none.mp found row oldMember
  · obtain ⟨member, same⟩ := find?_eq_some.mp found
    exact find?_eq_some.mpr ⟨mem_updateAt.mpr (.inr ⟨member, same ▸ different⟩), same⟩

theorem ext {table other : Table α} (rows : table.rows = other.rows)
    (autoIncrement : table.autoIncrement = other.autoIncrement) : table = other := by
  cases table
  cases other
  simp only at rows autoIncrement
  subst rows autoIncrement
  rfl

theorem updateAt_updateAt {set' : α → α} {keeps' : ∀ row, key (set' row) = key row}
    (keepsBoth : ∀ row, key (set' (set row)) = key row) :
    (table.updateAt k set keeps).updateAt k set' keeps' =
      table.updateAt k (fun row => set' (set row)) keepsBoth := by
  refine ext ?_ rfl
  rw [rows_updateAt, rows_updateAt, rows_updateAt, List.map_map]
  apply List.map_congr_left
  intro row _
  by_cases isKey : key row = k
  · simp [isKey, keeps]
  · simp [isKey]

/-- An update that changes no row changes nothing. -/
theorem updateAt_eq_self (same : ∀ row ∈ table.rows, key row = k → set row = row) :
    table.updateAt k set keeps = table := by
  refine ext ?_ rfl
  rw [rows_updateAt]
  conv_rhs => rw [← List.map_id table.rows]
  apply List.map_congr_left
  intro row member
  by_cases isKey : key row = k
  · rw [if_pos isKey, same row member isKey, id]
  · rw [if_neg isKey, id]

/-- An update changes nothing exactly when it leaves every row it is made of as it is. -/
theorem rows_update_eq_self_iff :
    (table.update p set keeps).rows = table.rows ↔
      ∀ row ∈ table.rows, p row = true → set row = row := by
  rw [rows_update]
  conv_lhs => rhs; rw [← List.map_id table.rows]
  rw [List.map_inj_left]
  refine forall₂_congr fun row _ => ?_
  by_cases affected : p row = true
  · simp [affected]
  · simp [affected]

theorem select_updateAt_of_unselected {q : α → Bool}
    (unselected : ∀ row ∈ table.rows, key row = k → q row = false ∧ q (set row) = false) :
    (table.updateAt k set keeps).select q = table.select q := by
  unfold select
  rw [rows_updateAt]
  revert unselected
  induction table.rows with
  | nil => exact fun _ => rfl
  | cons row rest ih =>
      intro unselected
      obtain ⟨first, others⟩ := List.forall_mem_cons.mp unselected
      rw [List.map_cons, List.filter_cons, List.filter_cons, ih others]
      by_cases isKey : key row = k
      · rw [if_pos isKey, (first isKey).1, (first isKey).2]
        rfl
      · rw [if_neg isKey]

end Update

/-! ## Inserts -/

/-- `INSERT`: the row takes the counter's value as its primary key. -/
def insert (table : Table α) (row : α) : Table α where
  rows := table.rows ++ [withKey table.autoIncrement row]
  autoIncrement := table.autoIncrement + 1
  distinct := by
    rw [List.map_append, List.map_singleton, key_withKey]
    apply List.Nodup.append table.distinct (List.nodup_singleton _)
    intro k member bound
    obtain ⟨old, oldMember, rfl⟩ := List.mem_map.mp member
    have := (table.bounded old oldMember).2
    rw [List.mem_singleton.mp bound] at this
    exact Nat.lt_irrefl _ this
  bounded := by
    intro other member
    rcases List.mem_append.mp member with old | new
    · have := table.bounded other old
      exact ⟨this.1, Nat.lt_succ_of_lt this.2⟩
    · rw [List.mem_singleton.mp new, key_withKey]
      exact ⟨table.positive, Nat.lt_succ_self _⟩
  positive := Nat.succ_pos _

/-- The rows of a multi-row INSERT under the keys from `n` on. -/
def stamp : Nat → List α → List α
  | _, [] => []
  | n, row :: rest => withKey n row :: stamp (n + 1) rest

/-- `INSERT … VALUES (…),(…)`. -/
def insertAll (table : Table α) : List α → Table α
  | [] => table
  | row :: rest => (table.insert row).insertAll rest

/-- A new table of rows, which take the keys from 1 on. -/
def ofRows (rows : List α) : Table α := (empty α).insertAll rows

@[simp] theorem rows_insert :
    (table.insert row).rows = table.rows ++ [withKey table.autoIncrement row] := rfl

@[simp] theorem autoIncrement_insert :
    (table.insert row).autoIncrement = table.autoIncrement + 1 := rfl

theorem rows_insertAll (rows : List α) :
    (table.insertAll rows).rows = table.rows ++ stamp table.autoIncrement rows := by
  induction rows generalizing table with
  | nil => simp [insertAll, stamp]
  | cons row rest ih =>
      rw [insertAll, ih]
      simp [stamp]

/-- A stamped row is one of the inserted rows under a key from `n` on. -/
theorem mem_stamp {n : Nat} {rows : List α} (member : row ∈ stamp n rows) :
    ∃ old ∈ rows, ∃ m, n ≤ m ∧ m < n + rows.length ∧ row = withKey m old := by
  induction rows generalizing n with
  | nil => simp [stamp] at member
  | cons head rest ih =>
      rcases List.mem_cons.mp member with rfl | member
      · exact ⟨head, List.mem_cons_self, n, Nat.le_refl n, by simp, rfl⟩
      · obtain ⟨old, oldMember, m, lower, upper, eq⟩ := ih member
        refine ⟨old, List.mem_cons_of_mem _ oldMember, m, by omega, ?_, eq⟩
        simp only [List.length_cons]
        omega

/-- Each inserted row is stored under some key. -/
theorem exists_mem_stamp {n : Nat} {rows : List α} (member : row ∈ rows) :
    ∃ m, withKey m row ∈ stamp n rows := by
  induction rows generalizing n with
  | nil => simp at member
  | cons head rest ih =>
      rcases List.mem_cons.mp member with rfl | member
      · exact ⟨n, List.mem_cons_self⟩
      · obtain ⟨m, found⟩ := ih (n := n + 1) member
        exact ⟨m, List.mem_cons_of_mem _ found⟩

/-- A field that stamping leaves alone reads the same through the stamped rows. -/
theorem map_stamp {β : Type} {field : α → β} (free : ∀ n row, field (withKey n row) = field row)
    (n : Nat) (rows : List α) : (stamp n rows).map field = rows.map field := by
  induction rows generalizing n with
  | nil => rfl
  | cons head rest ih => simp [stamp, free, ih]

@[simp] theorem find?_insert_self :
    (table.insert row).find? table.autoIncrement = some (withKey table.autoIncrement row) :=
  find?_eq_some.mpr ⟨by simp, key_withKey _ _⟩

theorem find?_autoIncrement : table.find? table.autoIncrement = none := by
  rw [find?_eq_none]
  intro row member
  exact Nat.ne_of_lt (table.bounded row member).2

theorem rows_updateAt_last {old : List α} (set : α → α) (keeps : ∀ row, key (set row) = key row)
    (rows : table.rows = old ++ [row]) :
    (table.updateAt (key row) set keeps).rows = old ++ [set row] := by
  rw [rows_updateAt, rows, List.map_append, List.map_singleton, if_pos rfl]
  congr 1
  have distinct := table.distinct
  rw [rows, List.map_append, List.nodup_append] at distinct
  rw [List.map_congr_left (g := id), List.map_id]
  intro other member
  have different : key other ≠ key row :=
    distinct.2.2 (key other) (List.mem_map_of_mem member) (key row) (by simp)
  simp [different]

/-! ## Rollback -/

/-- The rows of `before` under the counter that `after` has reached. -/
def rollback (before after : Table α) : Table α where
  rows := before.rows
  autoIncrement := max before.autoIncrement after.autoIncrement
  distinct := before.distinct
  bounded := fun row member =>
    ⟨(before.bounded row member).1,
      Nat.lt_of_lt_of_le (before.bounded row member).2 (Nat.le_max_left _ _)⟩
  positive := Nat.lt_of_lt_of_le before.positive (Nat.le_max_left _ _)

end Table

end CoreApi.Foundation
