import CoreApi.Automation.OperationEffects

/-!
# Reported changes

What the host calls between two worlds say about the steps: each call names a
state a step went through, and read in order they lead from its old status to
its new one.
-/

namespace CoreApi.Automation

open CoreApi.Foundation

/-! ## Reported states -/

/-- The states a list of host calls reports for a step, in order. -/
def reportedStates (stepInstanceId : Nat) : List HostCall → List StepStatus
  | [] => []
  | .stepStateChanged _ step state :: rest =>
      if step = stepInstanceId then state :: reportedStates stepInstanceId rest
      else reportedStates stepInstanceId rest
  | _ :: rest => reportedStates stepInstanceId rest

theorem reportedStates_append (stepInstanceId : Nat) (first second : List HostCall) :
    reportedStates stepInstanceId (first ++ second) =
      reportedStates stepInstanceId first ++ reportedStates stepInstanceId second := by
  induction first with
  | nil => rfl
  | cons call rest ih =>
      cases call with
      | stepStateChanged process step state =>
          simp only [List.cons_append, reportedStates, ih]
          split <;> rfl
      | processStarted => exact ih
      | processCompleted => exact ih

/-- The states are those a status goes through, one change after the other. -/
def ChangesTo : StepStatus → List StepStatus → StepStatus → Prop
  | status, [], last => last = status
  | status, state :: rest, last => state ≠ status ∧ ChangesTo state rest last

theorem ChangesTo.append {middle last : StepStatus} :
    ∀ {status : StepStatus} {first second : List StepStatus}, ChangesTo status first middle →
      ChangesTo middle second last → ChangesTo status (first ++ second) last
  | _, [], _, rfl, next => next
  | _, _ :: _, _, ⟨changes, rest⟩, next => ⟨changes, rest.append next⟩

instance : ∀ status states last, Decidable (ChangesTo status states last)
  | status, [], last => inferInstanceAs (Decidable (last = status))
  | status, state :: rest, last =>
      have := instDecidableChangesTo state rest last
      inferInstanceAs (Decidable (state ≠ status ∧ ChangesTo state rest last))

/-- Every change of a step between the two worlds was reported once, in order, under
the process of the step. -/
structure ReportedBy (calls : List HostCall) (before after : World) : Prop where
  appended : after.hostCalls = before.hostCalls ++ calls
  known : ∀ process step state, .stepStateChanged process step state ∈ calls →
    ∃ row ∈ after.db.steps.rows, row.stepInstanceId = step ∧ row.processInstanceId = process
  changes : ∀ step ∈ before.db.steps.rows, ∃ row ∈ after.db.steps.rows,
    row.stepInstanceId = step.stepInstanceId ∧
    row.processInstanceId = step.processInstanceId ∧
    ChangesTo step.status (reportedStates step.stepInstanceId calls) row.status

/-- The host calls between the two worlds report the changes of the steps. -/
def ChangesReported (before after : World) : Prop := ∃ calls, ReportedBy calls before after

namespace ChangesReported

theorem trans {a b c : World} (first : ChangesReported a b) (second : ChangesReported b c) :
    ChangesReported a c := by
  obtain ⟨calls, appended, known, changes⟩ := first
  obtain ⟨calls', appended', known', changes'⟩ := second
  refine ⟨calls ++ calls', by rw [appended', appended, List.append_assoc], ?_, ?_⟩
  · intro process step state member
    rcases List.mem_append.mp member with member | member
    · obtain ⟨row, rowMember, key, ofProcess⟩ := known process step state member
      obtain ⟨row', rowMember', key', process', _⟩ := changes' row rowMember
      exact ⟨row', rowMember', key'.trans key, process'.trans ofProcess⟩
    · exact known' process step state member
  · intro step member
    obtain ⟨row, rowMember, key, process, first⟩ := changes step member
    obtain ⟨row', rowMember', key', process', second⟩ := changes' row rowMember
    refine ⟨row', rowMember', key'.trans key, process'.trans process, ?_⟩
    rw [reportedStates_append]
    exact first.append (key ▸ second)

theorem silent {before after : World} {calls : List HostCall}
    (hostCalls : after.hostCalls = before.hostCalls ++ calls)
    (none : ∀ process step state, .stepStateChanged process step state ∉ calls)
    (steps : ∀ step ∈ before.db.steps.rows, step ∈ after.db.steps.rows) :
    ChangesReported before after := by
  have nothing : ∀ stepInstanceId, reportedStates stepInstanceId calls = [] := by
    intro stepInstanceId
    clear hostCalls
    induction calls with
    | nil => rfl
    | cons call rest ih =>
        have rest := ih fun process step state member =>
          none process step state (List.mem_cons_of_mem _ member)
        cases call with
        | stepStateChanged process step state =>
            exact absurd List.mem_cons_self (none process step state)
        | processStarted => exact rest
        | processCompleted => exact rest
  refine ⟨calls, hostCalls, fun process step state member =>
    absurd member (none process step state), fun step member =>
      ⟨step, steps step member, rfl, rfl, ?_⟩⟩
  rw [nothing]
  rfl

theorem refl (w : World) : ChangesReported w w :=
  silent (by rw [List.append_nil]) (by simp) fun _ member => member

/-- The states reported between the two worlds lead from the old status to the new one. -/
theorem states {before after : World} (reported : ChangesReported before after) :
    ∀ step ∈ before.db.steps.rows, ∀ row ∈ after.db.steps.rows,
      row.stepInstanceId = step.stepInstanceId →
        ChangesTo step.status (reportedStates step.stepInstanceId
          (after.hostCalls.drop before.hostCalls.length)) row.status := by
  obtain ⟨calls, appended, _, changes⟩ := reported
  intro step member row rowMember key
  obtain ⟨image, imageMember, imageKey, _, changesTo⟩ := changes step member
  rw [appended, List.drop_left, Table.eq_of_key_eq rowMember imageMember (key.trans imageKey.symm)]
  exact changesTo

theorem changed {before told after : World} {step row : StepInstance} {state : StepStatus}
    {set : StepInstance → StepInstance} (sets : SetsStatus state set)
    (member : row ∈ before.db.steps.rows) (key : row.stepInstanceId = step.stepInstanceId)
    (process : row.processInstanceId = step.processInstanceId) (changes : state ≠ row.status)
    (tables : HostTables (before.db.setStep step.stepInstanceId set sets.key) told.db)
    (call : told.hostCalls = before.hostCalls ++
      [.stepStateChanged step.processInstanceId step.stepInstanceId state])
    (rest : HostTables told.db after.db) (kept : after.hostCalls = told.hostCalls) :
    ChangesReported before after := by
  obtain ⟨_, _, _, _, tables⟩ := tables.trans rest
  have written : set row ∈ after.db.steps.rows := by
    rw [tables]
    exact (mem_setStep sets.key).mpr (.inl ⟨row, member, key, rfl⟩)
  refine ⟨_, kept.trans call, ?_, fun other otherMember => ?_⟩
  · intro otherProcess other otherState reported
    cases List.mem_singleton.mp reported
    exact ⟨set row, written, (sets.key row).trans key, (sets.process row).trans process⟩
  · by_cases same : other.stepInstanceId = step.stepInstanceId
    · have isRow : other = row := Table.eq_of_key_eq otherMember member (same.trans key.symm)
      subst isRow
      refine ⟨set other, written, sets.key other, sets.process other, ?_⟩
      rw [reportedStates, if_pos same.symm]
      exact ⟨changes, sets.status other⟩
    · refine ⟨other, ?_, rfl, rfl, ?_⟩
      · rw [tables]
        exact (mem_setStep sets.key).mpr (.inr ⟨otherMember, same⟩)
      · rw [reportedStates, if_neg (Ne.symm same)]
        rfl

end ChangesReported

theorem Changed.reported {before after : World} {step row : StepInstance} {state : StepStatus}
    {proc : ProcessInstance} (changed : Changed step state before after)
    (found : before.db.instance? step.processInstanceId = some proc)
    (member : row ∈ before.db.steps.rows) (key : row.stepInstanceId = step.stepInstanceId)
    (process : row.processInstanceId = step.processInstanceId) (changes : state ≠ row.status) :
    ChangesReported before after := by
  obtain ⟨set, sets, told, host, report, rest, kept⟩ := changed
  have call := (report.told found).hostCalls
  have ofProcess : proc.processInstanceId = step.processInstanceId := Table.key_of_find? found
  rw [ofProcess] at call
  exact .changed sets member key process changes host.tables call rest.tables kept.hostCalls

end CoreApi.Automation
