import Mathlib.Data.List.Basic

/-!
# Queues served in windows

A round serves the front of a queue, up to a bound, and what is blocked stays where it is. Blocked
elements gather at the front and take their places in every window after; how far the rounds get
follows from how many of them they have met.
-/

namespace CoreApi.Foundation

variable {α : Type*} (size : Nat) (blocked : α → Bool)

/-- One round. -/
def serveWindow (queue : List α) : List α := (queue.take size).filter blocked ++ queue.drop size

/-- The queue after so many rounds. -/
def leftAfter (queue : List α) : Nat → List α
  | 0 => queue
  | rounds + 1 => serveWindow size blocked (leftAfter queue rounds)

/-- How many elements so many rounds pass: a window has room for new ones beside the blocked
ones that were met before. -/
def passedAfter (queue : List α) : Nat → Nat
  | 0 => 0
  | rounds + 1 =>
      passedAfter queue rounds +
        (size - ((queue.take (passedAfter queue rounds)).filter blocked).length)

variable {size blocked}

/-- A window behind elements that are blocked. -/
theorem serveWindow_append {front rest : List α} (isBlocked : ∀ x ∈ front, blocked x = true) :
    serveWindow size blocked (front ++ rest) =
      front ++ ((rest.take (size - front.length)).filter blocked ++
        rest.drop (size - front.length)) := by
  rw [serveWindow, List.take_append, List.drop_append, List.filter_append,
    List.filter_eq_self.mpr fun x member => isBlocked x (List.mem_of_mem_take member)]
  rcases Nat.le_total size front.length with full | room
  · rw [Nat.sub_eq_zero_of_le full, List.take_zero, List.filter_nil, List.append_nil,
      ← List.append_assoc, List.take_append_drop, List.drop_zero, List.nil_append]
  · rw [List.take_of_length_le room, List.drop_of_length_le room, List.nil_append,
      List.append_assoc]

/-- After some rounds, the blocked ones among the passed elements stand before the others. -/
theorem leftAfter_eq (queue : List α) (rounds : Nat) :
    leftAfter size blocked queue rounds =
      (queue.take (passedAfter size blocked queue rounds)).filter blocked ++
        queue.drop (passedAfter size blocked queue rounds) := by
  induction rounds with
  | zero => rfl
  | succ rounds ih =>
      rw [leftAfter, ih,
        serveWindow_append fun x member => (List.mem_filter.mp member).2, passedAfter,
        List.take_add, List.filter_append, List.append_assoc, List.drop_drop]

/-- Only blocked elements are left exactly when no other lies behind the passed ones. -/
theorem blocked_of_leftAfter_iff {queue : List α} {rounds : Nat} :
    (∀ x ∈ leftAfter size blocked queue rounds, blocked x = true) ↔
      ∀ x ∈ queue.drop (passedAfter size blocked queue rounds), blocked x = true := by
  rw [leftAfter_eq]
  constructor
  · intro each x member
    exact each x (List.mem_append_right _ member)
  · intro each x member
    rcases List.mem_append.mp member with passed | behind
    · exact (List.mem_filter.mp passed).2
    · exact each x behind

/-- In a queue of distinct elements, a round takes out what is served of its window. -/
theorem filter_eq_serveWindow {β : Type*} [DecidableEq β] {key : α → β} {queue : List α}
    (distinct : (queue.map key).Nodup) :
    queue.filter (fun x => blocked x || !((queue.take size).map key).contains (key x)) =
      serveWindow size blocked queue := by
  have split : (((queue.take size).map key) ++ ((queue.drop size).map key)).Nodup := by
    rw [← List.map_append, List.take_append_drop]
    exact distinct
  have apart := (List.nodup_append.mp split).2.2
  rw [serveWindow]
  conv_lhs => arg 2; rw [← List.take_append_drop size queue]
  rw [List.filter_append]
  congr 1
  · refine List.filter_congr fun x member => ?_
    rw [List.contains_iff_mem.mpr (List.mem_map_of_mem member), Bool.not_true, Bool.or_false]
  · refine List.filter_eq_self.mpr fun x member => ?_
    have behind : ((queue.take size).map key).contains (key x) = false := by
      refine Bool.eq_false_iff.mpr fun inWindow => ?_
      exact apart _ (List.contains_iff_mem.mp inWindow) _ (List.mem_map_of_mem member) rfl
    rw [behind, Bool.not_false, Bool.or_true]

end CoreApi.Foundation
