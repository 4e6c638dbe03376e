import CoreApi.Foundation.Program
import CoreApi.Foundation.StepSystem

/-!
# Writes one after another

A program that makes a list of writes, each in a statement of its own, stops at the first one that
is refused. The writes before it stay.
-/

namespace CoreApi.Foundation

variable {State Write ε : Type} (system : StepSystem State Write) (accepts : State → Write → Bool)
  (refusal : ε)

/-- A write that the store may refuse. -/
def Program.attemptWrite (write : Write) : Program State ε Unit := do
  let accepted ← Program.read fun state => accepts state write
  if accepted = true then Program.write fun state => system.step state write
  else Program.raise refusal

/-- The writes in turn, until one is refused. -/
def Program.writeAll (writes : List Write) : Program State ε Unit :=
  Program.forEach (Program.attemptWrite system accepts refusal) writes

/-- Every write is accepted where it is made. -/
def StepSystem.Accepted : State → List Write → Prop :=
  system.Guarded fun state write => accepts state write = true

variable {system accepts refusal}

theorem Program.writeAll_cons_of_accepted {state : State} {write : Write} {rest : List Write}
    (accepted : accepts state write = true) :
    Program.writeAll system accepts refusal (write :: rest) state =
      Program.writeAll system accepts refusal rest (system.step state write) := by
  have written : Program.attemptWrite system accepts refusal write state =
      (.ok (), system.step state write) := by
    simp [Program.attemptWrite, bind, Program.andThen, Program.read, accepted, Program.write]
  simp only [Program.writeAll, Program.forEach, Program.andThen, written]

theorem Program.writeAll_cons_of_refused {state : State} {write : Write} {rest : List Write}
    (refused : accepts state write = false) :
    Program.writeAll system accepts refusal (write :: rest) state = (.error refusal, state) := by
  have raised : Program.attemptWrite system accepts refusal write state =
      (.error refusal, state) := by
    simp [Program.attemptWrite, bind, Program.andThen, Program.read, refused, Program.raise]
  simp only [Program.writeAll, Program.forEach, Program.andThen, raised]

/-- Where every write is accepted, all are made. -/
theorem Program.writeAll_of_accepted {writes : List Write} {state : State}
    (accepted : system.Accepted accepts state writes) :
    Program.writeAll system accepts refusal writes state = (.ok (), system.run state writes) := by
  induction writes generalizing state with
  | nil => rfl
  | cons write rest ih =>
      rw [Program.writeAll_cons_of_accepted accepted.1, ih accepted.2]
      rfl

/-- Those before the first that is refused are made. -/
theorem Program.writeAll_of_refused {first rest : List Write} {write : Write} {state : State}
    (accepted : system.Accepted accepts state first)
    (refused : accepts (system.run state first) write = false) :
    Program.writeAll system accepts refusal (first ++ write :: rest) state =
      (.error refusal, system.run state first) := by
  induction first generalizing state with
  | nil => exact Program.writeAll_cons_of_refused refused
  | cons other first ih =>
      rw [List.cons_append, Program.writeAll_cons_of_accepted accepted.1,
        ih accepted.2 refused]
      rfl

theorem StepSystem.accepted_or_refused (state : State) (writes : List Write) :
    system.Accepted accepts state writes ∨
      ∃ first write rest, writes = first ++ write :: rest ∧
        system.Accepted accepts state first ∧
        accepts (system.run state first) write = false := by
  induction writes generalizing state with
  | nil => exact .inl trivial
  | cons write rest ih =>
      rcases answer : accepts state write with _ | _
      · exact .inr ⟨[], write, rest, rfl, trivial, answer⟩
      · rcases ih (system.step state write) with
          accepted | ⟨first, other, later, rfl, accepted, refused⟩
        · exact .inl ⟨answer, accepted⟩
        · exact .inr ⟨write :: first, other, later, rfl, ⟨answer, accepted⟩, refused⟩

theorem StepSystem.Accepted.not_refused {first rest : List Write} {write : Write} {state : State}
    (accepted : system.Accepted accepts state (first ++ write :: rest)) :
    accepts (system.run state first) write = true :=
  ((system.guarded_append _ state first (write :: rest)).mp accepted).2.1

theorem StepSystem.Accepted.first_eq {first first' rest rest' : List Write} {write write' : Write}
    {state : State} (same : first ++ write :: rest = first' ++ write' :: rest')
    (accepted : system.Accepted accepts state first)
    (refused : accepts (system.run state first) write = false)
    (accepted' : system.Accepted accepts state first')
    (refused' : accepts (system.run state first') write' = false) : first = first' := by
  rcases List.append_eq_append_iff.mp same with ⟨between, isLonger, tail⟩ | ⟨between, isLonger, tail⟩
  · cases between with
    | nil => exact (isLonger.trans (List.append_nil first)).symm
    | cons other between =>
        obtain ⟨rfl, -⟩ := List.cons.inj tail
        rw [isLonger] at accepted'
        rw [accepted'.not_refused] at refused
        cases refused
  · cases between with
    | nil => exact isLonger.trans (List.append_nil first')
    | cons other between =>
        obtain ⟨rfl, -⟩ := List.cons.inj tail
        rw [isLonger] at accepted
        rw [accepted.not_refused] at refused'
        cases refused'

end CoreApi.Foundation
