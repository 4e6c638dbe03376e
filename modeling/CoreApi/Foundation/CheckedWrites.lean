import CoreApi.Foundation.ReadModifyWrite

/-!
# Read, modify, write with writes that may be refused

The cell of `ReadModifyWrite`, where a write is checked against the value its client
read and the one it would replace. A refused write leaves the value. `survivors` lists
the accepted writes that the value still contains, `written` all of them.
-/

namespace CoreApi.Foundation

universe u v w

/-- A cell, what each of its clients has read and not written back yet, and the accepted
writes. -/
structure CheckedCell (Client : Type u) (Value : Type v) (Label : Type w) where
  value : Value
  seen : Client → Option Value
  written : List (Client × Label)

/-- How a cell is written: whether a write is accepted, for the value its client read and the
one in place, and what it makes of the value that was read. -/
structure Writing (Client : Type u) (Value : Type v) (Label : Type w) where
  accepts : Client → Value → Value → Bool
  update : Client → Label → Value → Value

namespace CheckedCell

variable {Client : Type u} {Value : Type v} {Label : Type w}
  [DecidableEq Client]

/-- A cell that nobody has read. -/
def fresh (value : Value) : CheckedCell Client Value Label := ⟨value, fun _ => none, []⟩

/-- One access: a client that has read nothing writes nothing. -/
def access (writing : Writing Client Value Label) (cell : CheckedCell Client Value Label) :
    Access Client Label → CheckedCell Client Value Label
  | .read client => { cell with seen := Function.update cell.seen client (some cell.value) }
  | .write client label =>
      match cell.seen client with
      | none => cell
      | some value =>
          if writing.accepts client value cell.value = true then
            { value := writing.update client label value
              seen := Function.update cell.seen client none
              written := cell.written ++ [(client, label)] }
          else { cell with seen := Function.update cell.seen client none }

/-- The accesses to a cell, one after the other. -/
def system (writing : Writing Client Value Label) :
    StepSystem (CheckedCell Client Value Label) (Access Client Label) where
  step := access writing

section Access

variable {writing : Writing Client Value Label} {cell : CheckedCell Client Value Label}
  {client : Client} {value : Value} {label : Label}

theorem access_unread (unread : cell.seen client = none) :
    cell.access writing (.write client label) = cell := by
  simp only [access, unread]

theorem access_accepted (hasRead : cell.seen client = some value)
    (accepted : writing.accepts client value cell.value = true) :
    cell.access writing (.write client label) =
      { value := writing.update client label value
        seen := Function.update cell.seen client none
        written := cell.written ++ [(client, label)] } := by
  simp only [access, hasRead, accepted, if_true]

theorem access_refused (hasRead : cell.seen client = some value)
    (refused : writing.accepts client value cell.value = false) :
    cell.access writing (.write client label) =
      { cell with seen := Function.update cell.seen client none } := by
  simp only [access, hasRead, refused, Bool.false_eq_true, if_false]

end Access

/-! ## Surviving writes -/

section Survivors

/-- What tells for histories whether a write is accepted. -/
abbrev Acceptance (Client : Type u) (Label : Type w) :=
  Client → List (Client × Label) → List (Client × Label) → Bool

/-- Writes that add themselves to the history they are based on. -/
def recording (accepts : Acceptance Client Label) :
    Writing Client (List (Client × Label)) Label where
  accepts := accepts
  update := Cell.record

/-- What a run makes of the empty history. -/
def history (accepts : Acceptance Client Label) (accesses : List (Access Client Label)) :
    CheckedCell Client (List (Client × Label)) Label :=
  (system (recording accepts)).run (fresh []) accesses

/-- The start value with the writes of a history. -/
def contents (update : Client → Label → Value → Value) (start : Value)
    (writes : List (Client × Label)) : Value :=
  writes.foldl (fun value write => update write.1 write.2 value) start

theorem contents_concat (update : Client → Label → Value → Value) (start : Value)
    (writes : List (Client × Label)) (write : Client × Label) :
    contents update start (writes ++ [write]) =
      update write.1 write.2 (contents update start writes) := by
  unfold contents
  rw [List.foldl_append]
  rfl

/-- What the value contains, and what any client has read of it, was written. -/
structure Tracked (cell : CheckedCell Client (List (Client × Label)) Label) : Prop where
  value : cell.value ⊆ cell.written
  seen : ∀ client, ∀ seen ∈ cell.seen client, seen ⊆ cell.written

theorem Tracked.fresh : Tracked (fresh [] : CheckedCell Client (List (Client × Label)) Label) :=
  ⟨List.Subset.refl _, nofun⟩

theorem Tracked.access {accepts : Acceptance Client Label}
    {cell : CheckedCell Client (List (Client × Label)) Label} (tracked : Tracked cell)
    (access' : Access Client Label) : Tracked (cell.access (recording accepts) access') := by
  cases access' with
  | read client =>
      refine ⟨tracked.value, fun other seen isSeen => ?_⟩
      simp only [CheckedCell.access, Function.update_apply] at isSeen
      split at isSeen
      · exact Option.some.inj isSeen ▸ tracked.value
      · exact tracked.seen other seen isSeen
  | write client label =>
      rcases hasRead : cell.seen client with _ | seen
      · rw [access_unread hasRead]
        exact tracked
      · have others : ∀ other, ∀ later ∈ Function.update cell.seen client none other,
            later ⊆ cell.written := by
          intro other later isSeen
          rw [Function.update_apply] at isSeen
          split at isSeen
          · cases isSeen
          · exact tracked.seen other later isSeen
        rcases accepted : (recording accepts).accepts client seen cell.value with _ | _
        · rw [access_refused hasRead accepted]
          exact ⟨tracked.value, others⟩
        · rw [access_accepted hasRead accepted]
          refine ⟨?_, fun other later isSeen =>
            List.subset_append_of_subset_left _ (others other later isSeen)⟩
          exact List.append_subset.mpr
            ⟨List.subset_append_of_subset_left _ (tracked.seen client seen hasRead),
              List.subset_append_right _ _⟩

end Survivors

end CheckedCell

end CoreApi.Foundation
