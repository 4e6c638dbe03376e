import CoreApi.Foundation.StepSystem
import Mathlib.Logic.Function.Basic

/-!
# Read, modify, write without a lock

The clients of a cell read its value and later write what they make of the value
they read. A write replaces whatever was written since its client read.
`survivors` lists the writes that the value still contains, in their order; the
value is the start value with these writes folded over it.
-/

namespace CoreApi.Foundation

universe u v w x

/-- A cell, and what each of its clients has read and not written back yet. -/
structure Cell (Client : Type u) (Value : Type v) where
  value : Value
  seen : Client → Option Value

/-- What a client does with the cell; a write carries a label of its own. -/
inductive Access (Client : Type u) (Label : Type w) where
  | read (client : Client)
  | write (client : Client) (label : Label)

namespace Cell

variable {Client : Type u} {Value : Type v} {Image : Type x} {Label : Type w}
  [DecidableEq Client]

/-- A cell that nobody has read. -/
def fresh (value : Value) : Cell Client Value := ⟨value, fun _ => none⟩

/-- One access: a client that has read nothing writes nothing. -/
def access (update : Client → Label → Value → Value) (cell : Cell Client Value) :
    Access Client Label → Cell Client Value
  | .read client => { cell with seen := Function.update cell.seen client (some cell.value) }
  | .write client label =>
      match cell.seen client with
      | none => cell
      | some value =>
          { value := update client label value
            seen := Function.update cell.seen client none }

/-- The accesses to a cell, one after the other. -/
def system (update : Client → Label → Value → Value) :
    StepSystem (Cell Client Value) (Access Client Label) where
  step := access update

/-- The cell seen through a function. -/
def map (view : Value → Image) (cell : Cell Client Value) : Cell Client Image where
  value := view cell.value
  seen := fun client => (cell.seen client).map view

theorem map_access {update : Client → Label → Value → Value}
    {update' : Client → Label → Image → Image} {view : Value → Image}
    (commutes : ∀ client label value,
      view (update client label value) = update' client label (view value))
    (cell : Cell Client Value) (access' : Access Client Label) :
    (cell.access update access').map view = (cell.map view).access update' access' := by
  cases access' with
  | read client =>
      simp only [access, map, mk.injEq, true_and]
      funext other
      by_cases same : other = client
      · subst same
        simp
      · simp [Function.update_of_ne same]
  | write client label =>
      cases isSeen : cell.seen client with
      | none => simp [access, map, isSeen]
      | some value =>
          simp only [access, map, isSeen, Option.map_some, commutes, mk.injEq, true_and]
          funext other
          by_cases same : other = client
          · subst same
            simp
          · simp [Function.update_of_ne same]

theorem map_run {update : Client → Label → Value → Value}
    {update' : Client → Label → Image → Image} {view : Value → Image}
    (commutes : ∀ client label value,
      view (update client label value) = update' client label (view value))
    (cell : Cell Client Value) (accesses : List (Access Client Label)) :
    ((system update).run cell accesses).map view =
      (system update').run (cell.map view) accesses := by
  induction accesses generalizing cell with
  | nil => rfl
  | cons first rest ih =>
      rw [StepSystem.run_cons, StepSystem.run_cons, ih]
      exact congrArg (fun next => (system update').run next rest) (map_access commutes cell first)

/-! ## Surviving writes -/

/-- Add a write to a history. -/
def record (client : Client) (label : Label) (history : List (Client × Label)) :
    List (Client × Label) :=
  history ++ [(client, label)]

/-- The writes that are left in the value after a run. -/
def survivors (accesses : List (Access Client Label)) : List (Client × Label) :=
  ((system record).run (fresh []) accesses).value

/-- The value after a run contains the surviving writes, and no others. -/
theorem run_value (update : Client → Label → Value → Value) (start : Value)
    (accesses : List (Access Client Label)) :
    ((system update).run (fresh start) accesses).value =
      (survivors accesses).foldl (fun value write => update write.1 write.2 value) start := by
  have commutes : ∀ (client : Client) (label : Label) (history : List (Client × Label)),
      (record client label history).foldl (fun value write => update write.1 write.2 value) start =
        update client label
          (history.foldl (fun value write => update write.1 write.2 value) start) := by
    intro client label history
    rw [record, List.foldl_append]
    rfl
  have folded := @map_run _ _ _ _ _ _ update _ commutes (fresh []) accesses
  exact (congrArg Cell.value folded).symm

/-- Every entry of a history that is kept or read was written by one of the accesses. -/
private theorem run_recorded {holds : Client × Label → Prop}
    {accesses : List (Access Client Label)}
    (written : ∀ client label, .write client label ∈ accesses → holds (client, label)) :
    ∀ {cell : Cell Client (List (Client × Label))}, (∀ write ∈ cell.value, holds write) →
      (∀ client, ∀ history ∈ cell.seen client, ∀ write ∈ history, holds write) →
        ∀ write ∈ ((system record).run cell accesses).value, holds write := by
  induction accesses with
  | nil => exact fun kept _ => kept
  | cons first rest ih =>
      intro cell kept read
      refine ih (fun client label later => written client label
        (List.mem_cons_of_mem _ later)) ?_ ?_
      · cases first with
        | read => exact kept
        | write client label =>
            cases isSeen : cell.seen client with
            | none => simpa [system, access, isSeen] using kept
            | some history =>
                intro write member
                simp only [system, access, isSeen, record, List.mem_append,
                  List.mem_singleton] at member
                rcases member with earlier | rfl
                · exact read client history isSeen write earlier
                · exact written client label List.mem_cons_self
      · cases first with
        | read client =>
            intro other history isSeen
            simp only [system, access, Function.update_apply] at isSeen
            split at isSeen
            · cases isSeen
              exact kept
            · exact read other history isSeen
        | write client label =>
            cases hasRead : cell.seen client with
            | none => simpa [system, access, hasRead] using read
            | some _ =>
                intro other history isSeen
                simp only [system, access, hasRead, Function.update_apply] at isSeen
                split at isSeen
                · cases isSeen
                · exact read other history isSeen

theorem mem_survivors {accesses : List (Access Client Label)} {write : Client × Label}
    (survives : write ∈ survivors accesses) : .write write.1 write.2 ∈ accesses := by
  refine @run_recorded _ _ _ (fun write => .write write.1 write.2 ∈ accesses) accesses
    (fun _ _ member => member) (fresh []) ?_ ?_ write survives
  · simp [fresh]
  · simp [fresh]

/-- A write whose client has read before leaves a survivor behind. -/
theorem survivors_ne_nil {client : Client} {label : Label}
    {before between after : List (Access Client Label)}
    (alone : ∀ other, .write client other ∉ between) :
    survivors (before ++ .read client :: (between ++ .write client label :: after)) ≠ [] := by
  have seen : ∀ (accesses : List (Access Client Label))
      (cell : Cell Client (List (Client × Label))),
      (∀ other, .write client other ∉ accesses) → cell.seen client ≠ none →
        ((system record).run cell accesses).seen client ≠ none := by
    intro accesses
    induction accesses with
    | nil => exact fun _ _ hasRead => hasRead
    | cons first rest ih =>
        intro cell absent hasRead
        refine ih _ (fun other later => absent other
          (List.mem_cons_of_mem _ later)) ?_
        cases first with
        | read other =>
            by_cases same : client = other
            · subst same
              simp [system, access]
            · simpa [system, access, Function.update_of_ne same] using hasRead
        | write other label =>
            have different : client ≠ other := by
              rintro rfl
              exact absent label List.mem_cons_self
            cases isSeen : cell.seen other with
            | none => simpa [system, access, isSeen] using hasRead
            | some _ => simpa [system, access, isSeen, Function.update_of_ne different] using hasRead
  have nonempty : ∀ (accesses : List (Access Client Label))
      (cell : Cell Client (List (Client × Label))), cell.value ≠ [] →
        ((system record).run cell accesses).value ≠ [] := by
    intro accesses
    induction accesses with
    | nil => exact fun _ holds => holds
    | cons first rest ih =>
        intro cell holds
        refine ih _ ?_
        cases first with
        | read => exact holds
        | write other label =>
            cases isSeen : cell.seen other with
            | none => simpa [system, access, isSeen] using holds
            | some _ => simp [system, access, isSeen, record]
  rw [survivors, StepSystem.run_append, StepSystem.run_cons, StepSystem.run_append,
    StepSystem.run_cons]
  refine nonempty after _ ?_
  obtain ⟨history, isSeen⟩ := Option.ne_none_iff_exists'.mp (seen between
    ((system record).step ((system record).run (fresh []) before) (.read client)) alone
    (by simp [system, access]))
  simp only [system, access, record] at isSeen ⊢
  rw [isSeen]
  simp

/-- Where every client writes right after it has read, every write survives. -/
theorem survivors_serial (writes : List (Client × Label)) :
    survivors (writes.flatMap fun write => [.read write.1, .write write.1 write.2]) = writes := by
  suffices serial : ∀ (history : List (Client × Label)),
      ((system record).run (fresh history)
        (writes.flatMap fun write => [.read write.1, .write write.1 write.2])).value =
          history ++ writes from serial []
  induction writes with
  | nil => simp [fresh]
  | cons write rest ih =>
      intro history
      have stepped : (system record).run (fresh history)
          [.read write.1, .write write.1 write.2] = fresh (history ++ [write]) := by
        simp only [StepSystem.run_cons, StepSystem.run_nil, system, access, fresh, record,
          Function.update_self, mk.injEq, true_and]
        funext other
        by_cases same : other = write.1
        · subst same
          simp
        · simp [Function.update_of_ne same]
      rw [List.flatMap_cons, StepSystem.run_append, stepped, ih,
        List.append_assoc, List.singleton_append]

end Cell

end CoreApi.Foundation
