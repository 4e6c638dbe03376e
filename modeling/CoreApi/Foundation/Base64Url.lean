import Mathlib.Data.List.Basic

/-!
# base64url

Three bytes are written as four characters, and one or two at the end as two or
three, without padding. Texts whose bytes begin alike are written alike, as far as
whole groups of three reach.
-/

namespace CoreApi.Foundation.Base64Url

/-- The character of six bits. -/
def digit (n : Nat) : Char :=
  if n < 26 then Char.ofNat ('A'.toNat + n)
  else if n < 52 then Char.ofNat ('a'.toNat + (n - 26))
  else if n < 62 then Char.ofNat ('0'.toNat + (n - 52))
  else if n = 62 then '-' else '_'

/-- The base64url text of bytes. -/
def encode : List UInt8 → List Char
  | [] => []
  | [a] => [digit (a.toNat / 4), digit (a.toNat % 4 * 16)]
  | [a, b] =>
      [digit (a.toNat / 4), digit (a.toNat % 4 * 16 + b.toNat / 16), digit (b.toNat % 16 * 4)]
  | a :: b :: c :: rest =>
      digit (a.toNat / 4) :: digit (a.toNat % 4 * 16 + b.toNat / 16) ::
        digit (b.toNat % 16 * 4 + c.toNat / 64) :: digit (c.toNat % 64) :: encode rest

/-- Whole groups of three are written on their own. -/
theorem encode_append {front : List UInt8} {groups : Nat} (whole : front.length = 3 * groups)
    (rest : List UInt8) :
    encode (front ++ rest) = encode front ++ encode rest ∧
      (encode front).length = 4 * groups := by
  induction groups generalizing front with
  | zero =>
      obtain rfl : front = [] := List.length_eq_zero_iff.mp (by omega)
      exact ⟨rfl, rfl⟩
  | succ groups ih =>
      match front, whole with
      | a :: b :: c :: later, whole =>
          have shorter : later.length = 3 * groups := by
            simp only [List.length_cons] at whole
            omega
          obtain ⟨splits, length⟩ := ih shorter
          refine ⟨?_, ?_⟩
          · simp only [List.cons_append, encode, splits]
          · simp only [encode, List.length_cons, length]
            omega

/-- Texts that agree on their first groups are written alike that far. -/
theorem take_encode {bytes others : List UInt8} {groups : Nat}
    (long : 3 * groups ≤ bytes.length) (alike : bytes.take (3 * groups) = others.take (3 * groups)) :
    (encode bytes).take (4 * groups) = (encode others).take (4 * groups) := by
  have whole : (bytes.take (3 * groups)).length = 3 * groups := by
    rw [List.length_take, Nat.min_eq_left long]
  have starts : ∀ text : List UInt8, text.take (3 * groups) = bytes.take (3 * groups) →
      (encode text).take (4 * groups) = encode (bytes.take (3 * groups)) := by
    intro text same
    obtain ⟨splits, length⟩ := encode_append whole (text.drop (3 * groups))
    rw [← same, List.take_append_drop, same] at splits
    rw [splits, ← length, List.take_left']
    rfl
  rw [starts bytes rfl, starts others alike.symm]

example : String.ofList (encode ("\x7b\"alg\":\"HS256\"".toList.flatMap String.utf8EncodeChar)) =
    "eyJhbGciOiJIUzI1NiI" := by decide

end CoreApi.Foundation.Base64Url
