/-!
# Texts that keys are made of

Numbers are told apart by their digits, and a part of a key that ends with a colon by
where the first colon is.
-/

namespace CoreApi.Foundation

theorem digits_injective {i j : Nat} (same : Nat.toDigits 10 i = Nat.toDigits 10 j) : i = j := by
  have values := congrArg (fun digits => Nat.ofDigitChars 10 digits 0) same
  simpa using values

theorem digits_of_repr {number : Nat} {c : Char} (member : c ∈ (Nat.repr number).toList) :
    c.isDigit = true := by
  rw [Nat.toList_repr] at member
  exact Nat.isDigit_of_mem_toDigits (by decide) (by decide) member

theorem repr_noColon (number : Nat) : ':' ∉ (Nat.repr number).toList :=
  fun member => absurd (digits_of_repr member) (by decide)

theorem repr_injective {i j : Nat} (same : Nat.repr i = Nat.repr j) : i = j := by
  have letters := congrArg String.toList same
  rw [Nat.toList_repr, Nat.toList_repr] at letters
  exact digits_injective letters

/-- Texts that go on with a colon are split there in one way. -/
theorem eq_of_colon {first second rest rest' : List Char} (noColon : ':' ∉ first)
    (noColon' : ':' ∉ second) (same : first ++ ':' :: rest = second ++ ':' :: rest') :
    first = second ∧ rest = rest' := by
  induction first generalizing second with
  | nil =>
      rcases second with _ | ⟨letter, second⟩
      · exact ⟨rfl, (List.cons.inj same).2⟩
      · exact absurd ((List.cons.inj same).1 ▸ List.mem_cons_self) noColon'
  | cons letter first ih =>
      rcases second with _ | ⟨letter', second⟩
      · exact absurd ((List.cons.inj same).1 ▸ List.mem_cons_self) noColon
      · obtain ⟨sameLetter, sameRest⟩ := List.cons.inj same
        obtain ⟨rfl, sameEnd⟩ := ih
          (fun member => noColon (List.mem_cons_of_mem _ member))
          (fun member => noColon' (List.mem_cons_of_mem _ member)) sameRest
        exact ⟨sameLetter ▸ rfl, sameEnd⟩

end CoreApi.Foundation
