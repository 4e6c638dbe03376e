import Mathlib.Data.List.Nodup
import Mathlib.Logic.Function.Basic

/-!
# Filling a store by rules

A rule gives a key the value of a formula over other keys. One pass over a list of rules
fills the keys that have no value. A rule whose sources are filled before it holds in the
store that the pass leaves, and rules that read none of each other's keys leave the same
store in every order.
-/

namespace CoreApi.Foundation

/-- A rule for a key, whose formula reads the sources and nothing else. -/
structure Rule (κ ν : Type*) where
  target : κ
  sources : List κ
  formula : (κ → Option ν) → ν
  reads : ∀ store other, (∀ key ∈ sources, store key = other key) → formula store = formula other

variable {κ ν : Type*} [DecidableEq κ]

/-- Give the target the value of the formula, unless it has one. -/
def Rule.fill (rule : Rule κ ν) (store : κ → Option ν) : κ → Option ν :=
  if (store rule.target).isSome = true then store
  else Function.update store rule.target (some (rule.formula store))

/-- One pass over the rules. -/
def fillAll (rules : List (Rule κ ν)) (store : κ → Option ν) : κ → Option ν :=
  rules.foldl (fun store rule => rule.fill store) store

section Passes

variable {rule : Rule κ ν} {rules before after : List (Rule κ ν)} {store : κ → Option ν} {key : κ}

theorem Rule.fill_of_ne (rule : Rule κ ν) (different : key ≠ rule.target) : rule.fill store key = store key := by
  unfold Rule.fill
  split
  · rfl
  · exact Function.update_of_ne different _ _

theorem Rule.fill_eq_self (rule : Rule κ ν) (given : (store rule.target).isSome = true) :
    rule.fill store = store :=
  if_pos given

theorem Rule.fill_of_isSome (rule : Rule κ ν) (given : (store key).isSome = true) :
    rule.fill store key = store key := by
  by_cases same : key = rule.target
  · rw [Rule.fill_eq_self rule (same ▸ given)]
  · exact fill_of_ne rule same

theorem Rule.fill_target (rule : Rule κ ν) (missing : store rule.target = none) :
    rule.fill store rule.target = some (rule.formula store) := by
  unfold Rule.fill
  rw [missing, if_neg (by simp), Function.update_self]

/-- A pass leaves keys alone that are no rule's target. -/
theorem fillAll_of_not_target (notTarget : key ∉ rules.map Rule.target) :
    fillAll rules store key = store key := by
  induction rules generalizing store with
  | nil => rfl
  | cons rule rest ih =>
      rw [List.map_cons, List.mem_cons, not_or] at notTarget
      obtain ⟨different, notInRest⟩ := notTarget
      exact (ih notInRest).trans (Rule.fill_of_ne rule different)

/-- A pass leaves values alone that are given. -/
theorem fillAll_of_isSome (given : (store key).isSome = true) :
    fillAll rules store key = store key := by
  induction rules generalizing store with
  | nil => rfl
  | cons rule rest ih =>
      have kept : rule.fill store key = store key := Rule.fill_of_isSome rule given
      have stillGiven : (rule.fill store key).isSome = true := kept ▸ given
      exact (ih stillGiven).trans kept

theorem fillAll_append :
    fillAll (before ++ after) store = fillAll after (fillAll before store) :=
  List.foldl_append

/-- A missing key gets the value of its formula at the place of its rule. -/
theorem fillAll_target (distinct : ((before ++ rule :: after).map Rule.target).Nodup)
    (missing : store rule.target = none) :
    fillAll (before ++ rule :: after) store rule.target =
      some (rule.formula (fillAll before store)) := by
  rw [List.map_append, List.map_cons, List.nodup_append'] at distinct
  obtain ⟨_, ofRule, apart⟩ := distinct
  have notBefore : rule.target ∉ before.map Rule.target := fun isBefore =>
    apart isBefore (.head _)
  have filled : rule.fill (fillAll before store) rule.target =
      some (rule.formula (fillAll before store)) :=
    Rule.fill_target rule ((fillAll_of_not_target notBefore).trans missing)
  rw [fillAll_append]
  exact (fillAll_of_not_target (List.nodup_cons.mp ofRule).1).trans filled

/-- No rule reads the target of a rule. -/
def ReadNoTargets (rules : List (Rule κ ν)) : Prop :=
  ∀ rule ∈ rules, ∀ key ∈ rule.sources, key ∉ rules.map Rule.target

theorem fillAll_of_readNoTargets (distinct : (rules.map Rule.target).Nodup)
    (readNone : ReadNoTargets rules) (member : rule ∈ rules)
    (missing : store rule.target = none) :
    fillAll rules store rule.target = some (rule.formula store) := by
  obtain ⟨before, after, rfl⟩ := List.append_of_mem member
  rw [fillAll_target distinct missing]
  congr 1
  refine rule.reads _ _ fun key isSource => fillAll_of_not_target fun isBefore => ?_
  refine readNone rule member key isSource ?_
  rw [List.map_append]
  exact List.mem_append_left _ isBefore

/-- Rules that read no targets leave the same store in every order. -/
theorem fillAll_perm {rules' : List (Rule κ ν)} (same : rules'.Perm rules)
    (distinct : (rules.map Rule.target).Nodup) (readNone : ReadNoTargets rules) :
    fillAll rules' store = fillAll rules store := by
  have sameTargets : (rules'.map Rule.target).Perm (rules.map Rule.target) := same.map _
  have readNone' : ReadNoTargets rules' := fun rule member key isSource isTarget =>
    readNone rule (same.subset member) key isSource (sameTargets.subset isTarget)
  funext key
  by_cases isTarget : key ∈ rules.map Rule.target
  · cases given : store key with
    | some value =>
        have isSome : (store key).isSome = true := by rw [given]; rfl
        rw [fillAll_of_isSome isSome, fillAll_of_isSome isSome]
    | none =>
        obtain ⟨rule, member, rfl⟩ := List.mem_map.mp isTarget
        rw [fillAll_of_readNoTargets distinct readNone member given,
          fillAll_of_readNoTargets (sameTargets.nodup_iff.mpr distinct) readNone'
            (same.mem_iff.mpr member) given]
  · rw [fillAll_of_not_target isTarget,
      fillAll_of_not_target fun isTarget' => isTarget (sameTargets.subset isTarget')]

end Passes

end CoreApi.Foundation
