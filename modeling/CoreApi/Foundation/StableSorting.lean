import Mathlib.Data.List.Nodup
import Mathlib.Data.List.Sort

/-!
# Sorting by a comparison

A comparison that is handed to a sort need not order what it compares. It does so where
it is total and transitive on the elements, and exactly then every arrangement of them
is put in order. A selection may then be made before or after sorting.
-/

namespace CoreApi.Foundation

variable {α : Type*}

/-- The comparison orders the elements of the list. -/
structure OrdersOn (r : α → α → Prop) (l : List α) : Prop where
  total : ∀ a ∈ l, ∀ b ∈ l, r a b ∨ r b a
  trans : ∀ a ∈ l, ∀ b ∈ l, ∀ c ∈ l, r a b → r b c → r a c

variable {r : α → α → Prop} {l : List α} {a b c : α}

theorem OrdersOn.subset {l' : List α} (orders : OrdersOn r l) (sub : l' ⊆ l) : OrdersOn r l' where
  total a isA b isB := orders.total a (sub isA) b (sub isB)
  trans a isA b isB c isC := orders.trans a (sub isA) b (sub isB) c (sub isC)

/-- Elements of the list, told apart, may come last. -/
theorem exists_perm_append {part : List α} (distinct : part.Nodup) (sub : part ⊆ l) :
    ∃ rest, (rest ++ part).Perm l := by
  obtain ⟨found, arranged, isSublist⟩ := List.subperm_of_subset distinct sub
  obtain ⟨rest, split⟩ := isSublist.exists_perm_append
  exact ⟨rest, (List.perm_append_comm.trans (arranged.symm.append_right rest)).trans split.symm⟩

section Sorting

variable [DecidableRel r]

/-- What a comparison orders comes out sorted. -/
theorem OrdersOn.pairwise_insertionSort (orders : OrdersOn r l) : (l.insertionSort r).Pairwise r := by
  let onMembers (a b : {a // a ∈ l}) : Prop := r a.1 b.1
  have : DecidableRel onMembers := fun a b => inferInstanceAs (Decidable (r a.1 b.1))
  have : Std.Total onMembers := ⟨fun a b => orders.total a.1 a.2 b.1 b.2⟩
  have : IsTrans {a // a ∈ l} onMembers :=
    ⟨fun a b c => orders.trans a.1 a.2 b.1 b.2 c.1 c.2⟩
  have sorted : ((l.attach.insertionSort onMembers).map Subtype.val).Pairwise r :=
    List.pairwise_map.mpr (List.pairwise_insertionSort onMembers l.attach)
  rwa [List.map_insertionSort onMembers r Subtype.val l.attach fun _ _ _ _ => Iff.rfl,
    List.attach_map_subtype_val] at sorted

/-! ## Sorting and selecting -/

theorem orderedInsert_of_forall (before : ∀ b ∈ l, r a b) : l.orderedInsert r a = a :: l := by
  cases l with
  | nil => rfl
  | cons b l => exact List.orderedInsert_cons_of_le r l (before b (.head _))

theorem filter_orderedInsert {p : α → Bool} (sorted : l.Pairwise r)
    (trans : ∀ b ∈ l, ∀ c ∈ l, r a b → r b c → r a c) :
    (l.orderedInsert r a).filter p =
      if p a = true then (l.filter p).orderedInsert r a else l.filter p := by
  induction l with
  | nil => simp [List.filter_cons]
  | cons b l ih =>
      obtain ⟨bBefore, rest⟩ := List.pairwise_cons.mp sorted
      have onRest := ih rest fun c isC d isD => trans c (.tail _ isC) d (.tail _ isD)
      by_cases before : r a b
      · rw [List.orderedInsert_cons_of_le r l before, List.filter_cons]
        have beforeAll : ∀ c ∈ (b :: l).filter p, r a c := by
          intro c selected
          rcases List.mem_cons.mp (List.mem_of_mem_filter selected) with rfl | isC
          · exact before
          · exact trans b (.head _) c (.tail _ isC) before (bBefore c isC)
        rw [orderedInsert_of_forall beforeAll]
      · rw [List.orderedInsert_of_not_le r l before, List.filter_cons, List.filter_cons, onRest]
        by_cases keeps : p b = true
        · rw [if_pos keeps, if_pos keeps]
          split
          · rw [List.orderedInsert_of_not_le r _ before]
          · rfl
        · rw [if_neg keeps, if_neg keeps]

/-- A selection is sorted as it lies among all elements. -/
theorem OrdersOn.filter_insertionSort {p : α → Bool} (orders : OrdersOn r l) :
    (l.insertionSort r).filter p = (l.filter p).insertionSort r := by
  induction l with
  | nil => rfl
  | cons a l ih =>
      have onRest : OrdersOn r l := orders.subset (List.subset_cons_self a l)
      have isOld {b : α} (member : b ∈ l.insertionSort r) : b ∈ a :: l :=
        .tail _ ((List.mem_insertionSort r).mp member)
      rw [List.insertionSort_cons, filter_orderedInsert onRest.pairwise_insertionSort
        fun b isB c isC => orders.trans a (.head _) b (isOld isB) c (isOld isC), ih onRest,
        List.filter_cons]
      split
      · rw [List.insertionSort_cons]
      · rfl

/-! ## Every arrangement -/

/-- The last elements keep among themselves the places that they are given on their own. -/
theorem insertionSort_sublist_append (l l' : List α) :
    (l'.insertionSort r).Sublist ((l ++ l').insertionSort r) := by
  induction l with
  | nil => exact List.Sublist.refl _
  | cons a l ih => exact ih.trans (List.sublist_orderedInsert a _)

variable (reflexive : ∀ a, r a a)
  (sorts : ∀ l' : List α, l'.Perm l → (l'.insertionSort r).Pairwise r)

include sorts in
theorem pairwise_of_sorts {part : List α} (distinct : part.Nodup) (sub : part ⊆ l) :
    (part.insertionSort r).Pairwise r := by
  obtain ⟨rest, arranged⟩ := exists_perm_append distinct sub
  exact (sorts _ arranged).sublist (insertionSort_sublist_append rest part)

include reflexive sorts in
theorem total_of_sorts (isA : a ∈ l) (isB : b ∈ l) : r a b ∨ r b a := by
  by_cases same : a = b
  · exact .inl (same ▸ reflexive a)
  · have sorted : ([a, b].insertionSort r).Pairwise r :=
      pairwise_of_sorts sorts (by simpa using same) (by simp [isA, isB])
    by_cases before : r a b
    · exact .inl before
    · rw [List.insertionSort_cons, show [b].insertionSort r = [b] from rfl,
        List.orderedInsert_of_not_le r [] before] at sorted
      exact .inr (List.rel_of_pairwise_cons sorted (.head _))

include reflexive sorts in
theorem trans_of_sorts (isA : a ∈ l) (isB : b ∈ l) (isC : c ∈ l) (first : r a b)
    (second : r b c) : r a c := by
  by_cases distinct : [a, b, c].Nodup
  · have sorted : ([a, b, c].insertionSort r).Pairwise r :=
      pairwise_of_sorts sorts distinct (by simp [isA, isB, isC])
    rw [List.insertionSort_cons, List.insertionSort_cons,
      show [c].insertionSort r = [c] from rfl, List.orderedInsert_cons_of_le r [] second,
      List.orderedInsert_cons_of_le r [c] first] at sorted
    exact List.rel_of_pairwise_cons sorted (.tail _ (.head _))
  · simp only [List.nodup_cons, List.mem_cons, List.not_mem_nil, or_false, not_false_eq_true,
      List.nodup_nil, and_true, not_and_or, not_not] at distinct
    rcases distinct with (rfl | rfl) | rfl
    · exact second
    · exact reflexive a
    · exact first

/-- The comparison orders the elements exactly where it sorts each arrangement of them. -/
theorem ordersOn_iff (reflexive : ∀ a, r a a) :
    OrdersOn r l ↔ ∀ l' : List α, l'.Perm l → (l'.insertionSort r).Pairwise r := by
  constructor
  · intro orders l' arranged
    exact (orders.subset arranged.subset).pairwise_insertionSort
  · intro sorts
    exact ⟨fun _ isA _ isB => total_of_sorts reflexive sorts isA isB,
      fun _ isA _ isB _ isC => trans_of_sorts reflexive sorts isA isB isC⟩

end Sorting

end CoreApi.Foundation
