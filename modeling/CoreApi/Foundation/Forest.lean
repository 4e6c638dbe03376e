import Mathlib.Logic.Relation

/-!
# Parent links that lead to older nodes

A link from a child to its parent never closes a cycle if every parent has a
smaller rank than its children; following the links from a node ends in a root,
in exactly one if a node has one parent at most. What a link leaves alone, the
whole path leaves alone.
-/

namespace CoreApi.Foundation.Forest

open Relation

variable {α β : Type*} {parent : α → α → Prop} {rank : α → Nat}

/-- A node without a parent. -/
def IsRoot (parent : α → α → Prop) (node : α) : Prop := ∀ above, ¬parent node above

/-- Every parent has a smaller rank than its children. -/
def Older (parent : α → α → Prop) (rank : α → Nat) : Prop :=
  ∀ ⦃child above⦄, parent child above → rank above < rank child

theorem Older.path (older : Older parent rank) {child above : α}
    (path : TransGen parent child above) : rank above < rank child := by
  induction path with
  | single link => exact older link
  | tail _ link ih => exact Nat.lt_trans (older link) ih

/-- No node is above itself. -/
theorem Older.acyclic (older : Older parent rank) (node : α) : ¬TransGen parent node node := by
  intro path
  exact Nat.lt_irrefl _ (older.path path)

/-- The links lead from every node to a root; the induction is on its rank. -/
theorem Older.exists_root (older : Older parent rank) (node : α) :
    ∃ root, ReflTransGen parent node root ∧ IsRoot parent root := by
  generalize isRank : rank node = n
  induction n using Nat.strongRecOn generalizing node with
  | ind n ih =>
      by_cases linked : ∃ above, parent node above
      · obtain ⟨above, link⟩ := linked
        obtain ⟨root, path, rooted⟩ :=
          ih (rank above) (isRank ▸ older link) above rfl
        exact ⟨root, .head link path, rooted⟩
      · exact ⟨node, .refl, fun above link => linked ⟨above, link⟩⟩

theorem IsRoot.eq_of_path {root node : α} (isRoot : IsRoot parent root)
    (path : ReflTransGen parent root node) : node = root := by
  rcases path.cases_head with same | ⟨above, link, _⟩
  · exact same.symm
  · exact absurd link (isRoot above)

theorem root_unique (single : Relator.RightUnique parent) {node root root' : α}
    (path : ReflTransGen parent node root) (isRoot : IsRoot parent root)
    (path' : ReflTransGen parent node root') (isRoot' : IsRoot parent root') : root' = root := by
  rcases path.total_of_right_unique single path' with above | below
  · exact isRoot.eq_of_path above
  · exact (isRoot'.eq_of_path below).symm

/-- What every link leaves alone is the same at both ends of a path. -/
theorem eq_of_path {value : α → β} (kept : ∀ ⦃child above⦄, parent child above →
    value child = value above) {node above : α} (path : ReflTransGen parent node above) :
    value node = value above := by
  induction path with
  | refl => rfl
  | tail _ link ih => exact ih.trans (kept link)

end CoreApi.Foundation.Forest
