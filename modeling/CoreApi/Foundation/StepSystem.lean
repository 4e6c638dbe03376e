/-!
# Runs of a deterministic step system

`StepSystem.run` takes a list of actions, one after the other. A guard is a
condition on a state and the action taken in it; `Guarded` says that every step
of a run meets the guard where it is taken. The rules lift what one step does to
what a run does: an invariant, a relation between the ends, and an invariant
that guarded steps keep.
-/

namespace CoreApi.Foundation

universe u v

/-- A state machine: every action has exactly one effect in every state. -/
structure StepSystem (State : Type u) (Action : Type v) where
  step : State → Action → State

namespace StepSystem

variable {State : Type u} {Action : Type v} (system : StepSystem State Action)

/-- The state after a list of actions. -/
def run (start : State) (actions : List Action) : State := actions.foldl system.step start

@[simp] theorem run_nil (start : State) : system.run start [] = start := rfl

@[simp] theorem run_cons (start : State) (action : Action) (rest : List Action) :
    system.run start (action :: rest) = system.run (system.step start action) rest := rfl

theorem run_append (start : State) (first rest : List Action) :
    system.run start (first ++ rest) = system.run (system.run start first) rest :=
  List.foldl_append

/-- Every step of the run meets the guard in the state it is taken in. -/
def Guarded (guard : State → Action → Prop) : State → List Action → Prop
  | _, [] => True
  | state, action :: rest => guard state action ∧ Guarded guard (system.step state action) rest

instance decidableGuarded (guard : State → Action → Prop)
    [∀ state action, Decidable (guard state action)] :
    ∀ (start : State) (actions : List Action), Decidable (system.Guarded guard start actions)
  | _, [] => inferInstanceAs (Decidable True)
  | start, action :: rest =>
      have := decidableGuarded guard (system.step start action) rest
      inferInstanceAs (Decidable (guard start action ∧ _))

@[simp] theorem guarded_nil (guard : State → Action → Prop) (start : State) :
    system.Guarded guard start [] := trivial

@[simp] theorem guarded_cons (guard : State → Action → Prop) (start : State) (action : Action)
    (rest : List Action) :
    system.Guarded guard start (action :: rest) ↔
      guard start action ∧ system.Guarded guard (system.step start action) rest := Iff.rfl

theorem guarded_append (guard : State → Action → Prop) (start : State)
    (first rest : List Action) :
    system.Guarded guard start (first ++ rest) ↔
      system.Guarded guard start first ∧ system.Guarded guard (system.run start first) rest := by
  induction first generalizing start with
  | nil => simp
  | cons action first ih => simp [ih, and_assoc]

/-- A guard that always holds guards every run. -/
theorem Guarded.all {guard : State → Action → Prop} (holds : ∀ state action, guard state action) :
    ∀ (start : State) (actions : List Action), system.Guarded guard start actions
  | _, [] => trivial
  | start, action :: rest => ⟨holds start action, Guarded.all holds (system.step start action) rest⟩

/-- Guards may be weakened. -/
theorem Guarded.mono {system : StepSystem State Action} {guard guard' : State → Action → Prop}
    (weaker : ∀ state action, guard state action → guard' state action) :
    ∀ {start : State} {actions : List Action}, system.Guarded guard start actions →
      system.Guarded guard' start actions
  | _, [], _ => trivial
  | _, _ :: _, guarded => ⟨weaker _ _ guarded.1, Guarded.mono weaker guarded.2⟩

/-- A state that some run from a start state ends in. -/
def Reachable (Start : State → Prop) (state : State) : Prop :=
  ∃ start actions, Start start ∧ system.run start actions = state

/-- What holds of each action of a guarded run may join the guard. -/
theorem Guarded.and_actions {system : StepSystem State Action} {guard : State → Action → Prop}
    {calls : Action → Prop} : ∀ {start : State} {actions : List Action},
      system.Guarded guard start actions → (∀ action ∈ actions, calls action) →
      system.Guarded (fun state action => guard state action ∧ calls action) start actions
  | _, [], _, _ => trivial
  | _, action :: _, guarded, each => ⟨⟨guarded.1, each action List.mem_cons_self⟩,
      guarded.2.and_actions fun other member => each other (List.mem_cons_of_mem action member)⟩

variable {system}

/-- An invariant kept by every step holds at the end of every run. -/
theorem run_invariant {inv : State → Prop}
    (kept : ∀ state action, inv state → inv (system.step state action))
    {start : State} (holds : inv start) (actions : List Action) :
    inv (system.run start actions) := by
  induction actions generalizing start with
  | nil => exact holds
  | cons action rest ih => exact ih (kept _ action holds)

/-- An invariant kept by every guarded step holds at the end of every guarded run. -/
theorem run_guarded {inv : State → Prop} {guard : State → Action → Prop}
    (kept : ∀ state action, inv state → guard state action → inv (system.step state action))
    {start : State} (holds : inv start) {actions : List Action}
    (guarded : system.Guarded guard start actions) : inv (system.run start actions) := by
  induction actions generalizing start with
  | nil => exact holds
  | cons action rest ih =>
      exact ih (kept _ action holds guarded.1) guarded.2

theorem run_states_iff {inv : State → Prop} {guard : State → Action → Prop}
    (exact : ∀ state action, inv state → (inv (system.step state action) ↔ guard state action))
    {start : State} (holds : inv start) {actions : List Action} :
    (∀ first rest, actions = first ++ rest → inv (system.run start first)) ↔
      system.Guarded guard start actions := by
  induction actions generalizing start with
  | nil =>
      refine iff_of_true ?_ trivial
      intro first rest whole
      obtain ⟨rfl, -⟩ := List.append_eq_nil_iff.mp whole.symm
      exact holds
  | cons action later ih =>
      constructor
      · intro each
        have next : inv (system.step start action) := each [action] later rfl
        refine ⟨(exact start action holds).mp next, (ih next).mp ?_⟩
        intro first rest whole
        exact each (action :: first) rest (by rw [whole]; rfl)
      · rintro ⟨meets, guarded⟩ first rest whole
        have next : inv (system.step start action) := (exact start action holds).mpr meets
        cases first with
        | nil => exact holds
        | cons other first =>
            obtain ⟨rfl, after⟩ := List.cons.inj whole
            exact (ih next).mpr guarded first rest after

/-- What a guarded step meets from states with an invariant, every step of a guarded
run meets. -/
theorem Guarded.strengthen {inv : State → Prop} {guard guard' : State → Action → Prop}
    (kept : ∀ state action, inv state → guard state action → inv (system.step state action))
    (meets : ∀ state action, inv state → guard state action → guard' state action)
    {start : State} (holds : inv start) {actions : List Action}
    (guarded : system.Guarded guard start actions) : system.Guarded guard' start actions := by
  induction actions generalizing start with
  | nil => trivial
  | cons action rest ih =>
      exact ⟨meets _ action holds guarded.1,
        ih (kept _ action holds guarded.1) guarded.2⟩

theorem run_relation {inv : State → Prop} {guard : State → Action → Prop}
    {relation : State → State → Prop} (reflexive : ∀ state, relation state state)
    (transitive : ∀ {a b c}, relation a b → relation b c → relation a c)
    (kept : ∀ state action, inv state → inv (system.step state action))
    (meets : ∀ state action, inv state → guard state action →
      relation state (system.step state action))
    {start : State} (holds : inv start) {actions : List Action}
    (guarded : system.Guarded guard start actions) :
    relation start (system.run start actions) := by
  induction actions generalizing start with
  | nil => exact reflexive start
  | cons action rest ih =>
      exact transitive (meets _ action holds guarded.1)
        (ih (kept _ action holds) guarded.2)

/-- An invariant that holds at every start holds in every reachable state. -/
theorem Reachable.invariant {Start inv : State → Prop} (initial : ∀ state, Start state → inv state)
    (kept : ∀ state action, inv state → inv (system.step state action))
    {state : State} (reachable : system.Reachable Start state) : inv state := by
  obtain ⟨start, actions, isStart, rfl⟩ := reachable
  exact run_invariant kept (initial start isStart) actions

/-- A reachable state stays reachable under further actions. -/
theorem Reachable.run {Start : State → Prop} {state : State}
    (reachable : system.Reachable Start state) (actions : List Action) :
    system.Reachable Start (system.run state actions) := by
  obtain ⟨start, first, isStart, rfl⟩ := reachable
  exact ⟨start, first ++ actions, isStart, system.run_append start first actions⟩

end StepSystem

end CoreApi.Foundation
