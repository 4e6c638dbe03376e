import Mathlib.Data.List.Basic

/-!
# INSERT statements with many rows

`INSERT INTO … (columns) VALUES (…), (…)` is built by pushing a row of expressions
and the values for its placeholders, item by item. The values travel in one flat
list: the driver puts them in place of the placeholders from the left, and the
server takes the rows only if each has an expression for every column.
-/

namespace CoreApi.Foundation

/-- An expression of a row: a placeholder, or a value the statement spells out. -/
inductive Expression (α : Type) where
  | placeholder
  | literal (value : α)

/-- A statement, as the rows of expressions and the values pushed for each. -/
structure BulkInsert (α : Type) where
  columns : List String
  pushes : List (List (Expression α) × List α)

namespace BulkInsert

variable {α ι : Type}

/-- How many placeholders a row has. -/
def placeholders (row : List (Expression α)) : Nat :=
  row.countP fun expression => match expression with
    | .placeholder => true
    | .literal _ => false

/-- The values in the order in which they were pushed. -/
def values (statement : BulkInsert α) : List α := statement.pushes.flatMap Prod.snd

/-- The driver fills a row from the values that are left, and leaves the others. -/
def fillRow : List (Expression α) → List α → Option (List α × List α)
  | [], values => some ([], values)
  | .literal value :: row, values =>
      (fillRow row values).map fun filled => (value :: filled.1, filled.2)
  | .placeholder :: _, [] => none
  | .placeholder :: row, value :: values =>
      (fillRow row values).map fun filled => (value :: filled.1, filled.2)

/-- The driver fills the rows one after the other; values that are left are dropped. -/
def fillRows : List (List (Expression α)) → List α → Option (List (List α))
  | [], _ => some []
  | row :: rows, values =>
      (fillRow row values).bind fun filled =>
        (fillRows rows filled.2).map fun rest => filled.1 :: rest

/-- What the server takes from a statement: the rows, in the order of the columns. -/
def execute (statement : BulkInsert α) : Except String (List (List α)) :=
  match fillRows (statement.pushes.map Prod.fst) statement.values with
  | none => .error "ER_PARSE_ERROR"
  | some rows =>
      if ∀ row ∈ rows, row.length = statement.columns.length then .ok rows
      else .error "ER_WRONG_VALUE_COUNT_ON_ROW"

/-- Every row has an expression for each column, and a placeholder for each value
pushed with it. -/
def Aligned (statement : BulkInsert α) : Prop :=
  ∀ push ∈ statement.pushes, push.1.length = statement.columns.length ∧
    placeholders push.1 = push.2.length

instance (statement : BulkInsert α) : Decidable statement.Aligned :=
  inferInstanceAs (Decidable (∀ push ∈ statement.pushes, _ ∧ _))

/-- The row that a push stands for, where it is aligned. -/
def filled (push : List (Expression α) × List α) : List α :=
  match fillRow push.1 push.2 with
  | none => []
  | some (row, _) => row

/-- A row with as many placeholders as values takes these values and no others. -/
theorem fillRow_append {row : List (Expression α)} {own : List α}
    (aligned : placeholders row = own.length) (others : List α) :
    ∃ cells, fillRow row (own ++ others) = some (cells, others) ∧
      fillRow row own = some (cells, []) ∧ cells.length = row.length := by
  induction row generalizing own with
  | nil =>
      obtain rfl : own = [] := List.length_eq_zero_iff.mp aligned.symm
      exact ⟨[], rfl, rfl, rfl⟩
  | cons expression row ih =>
      cases expression with
      | literal value =>
          rw [placeholders, List.countP_cons_of_neg (by simp)] at aligned
          obtain ⟨cells, run, alone, length⟩ := ih aligned
          exact ⟨value :: cells, by simp [fillRow, run], by simp [fillRow, alone], by simp [length]⟩
      | placeholder =>
          rw [placeholders, List.countP_cons_of_pos rfl] at aligned
          cases own with
          | nil => simp at aligned
          | cons value own =>
              rw [List.length_cons, Nat.add_right_cancel_iff] at aligned
              obtain ⟨cells, run, alone, length⟩ := ih aligned
              exact ⟨value :: cells, by simp [fillRow, run], by simp [fillRow, alone],
                by simp [length]⟩

theorem fillRow_length {row : List (Expression α)} {values cells left : List α}
    (run : fillRow row values = some (cells, left)) : cells.length = row.length := by
  induction row, values using fillRow.induct generalizing cells left with
  | case1 values =>
      cases run
      rfl
  | case2 value row values ih =>
      obtain ⟨⟨cells, left⟩, behind, same⟩ := Option.map_eq_some_iff.mp run
      cases same
      simp [ih behind]
  | case3 => cases run
  | case4 row value values ih =>
      obtain ⟨⟨cells, left⟩, behind, same⟩ := Option.map_eq_some_iff.mp run
      cases same
      simp [ih behind]

theorem fillRows_lengths {rows : List (List (Expression α))} {values : List α}
    {cells : List (List α)} (run : fillRows rows values = some cells) :
    cells.map List.length = rows.map List.length := by
  induction rows generalizing values cells with
  | nil =>
      cases run
      rfl
  | cons row rows ih =>
      obtain ⟨⟨first, left⟩, one, others⟩ := Option.bind_eq_some_iff.mp run
      obtain ⟨rest, behind, rfl⟩ := Option.map_eq_some_iff.mp others
      simp [fillRow_length one, ih behind]

/-- Where every push is aligned, no value goes to the row of another push. -/
theorem fillRows_aligned {pushes : List (List (Expression α) × List α)}
    (aligned : ∀ push ∈ pushes, placeholders push.1 = push.2.length) :
    fillRows (pushes.map Prod.fst) (pushes.flatMap Prod.snd) = some (pushes.map filled) := by
  induction pushes with
  | nil => rfl
  | cons push pushes ih =>
      obtain ⟨cells, run, alone, _⟩ := fillRow_append (aligned push List.mem_cons_self)
        (pushes.flatMap Prod.snd)
      have rest := ih fun other member =>
        aligned other (List.mem_cons_of_mem _ member)
      have own : filled push = cells := by rw [filled, alone]
      rw [List.map_cons, List.flatMap_cons, fillRows, run, Option.bind_some, rest, List.map_cons,
        own]
      rfl

/-- An aligned statement stores each push as a row of its own. -/
theorem execute_of_aligned {statement : BulkInsert α} (aligned : statement.Aligned) :
    statement.execute = .ok (statement.pushes.map filled) := by
  have run := fillRows_aligned fun push member => (aligned push member).2
  have lengths : ∀ row ∈ statement.pushes.map filled,
      row.length = statement.columns.length := by
    intro row member
    obtain ⟨push, pushed, rfl⟩ := List.mem_map.mp member
    obtain ⟨cells, _, alone, length⟩ := fillRow_append (aligned push pushed).2 []
    rw [filled, alone, ← (aligned push pushed).1]
    exact length
  unfold execute values
  rw [run]
  exact if_pos lengths

/-- A statement with a row too short or too long for its columns is refused. -/
theorem execute_refused {statement : BulkInsert α} {push : List (Expression α) × List α}
    (pushed : push ∈ statement.pushes) (short : push.1.length ≠ statement.columns.length) :
    ∃ refusal, statement.execute = .error refusal := by
  unfold execute
  cases run : fillRows (statement.pushes.map Prod.fst) statement.values with
  | none => exact ⟨_, rfl⟩
  | some rows =>
      refine ⟨_, if_neg fun lengths => short ?_⟩
      have listed : push.1.length ∈ rows.map List.length := by
        rw [fillRows_lengths run, List.map_map]
        exact List.mem_map.mpr ⟨push, pushed, rfl⟩
      obtain ⟨row, member, same⟩ := List.mem_map.mp listed
      exact same ▸ lengths row member

end BulkInsert

end CoreApi.Foundation
