import Mathlib.Data.List.Basic
import Mathlib.Data.List.Infix

/-!
# Patterns of `LIKE`

A pattern is read character by character: `%` stands for any run, `_` for any
one character, and a backslash takes the next character as it is. Characters
are compared by a test of the caller's choice.
-/

namespace CoreApi.LikePattern

/-- What one place of a pattern asks for. -/
inductive Place where
  | anyRun
  | anyOne
  | exactly (c : Char)
  deriving DecidableEq, Repr

/-- The places of a pattern; a backslash at the very end stands for itself. -/
def places : List Char → List Place
  | [] => []
  | c :: rest =>
      if c = '%' then .anyRun :: places rest
      else if c = '_' then .anyOne :: places rest
      else if c = '\\' then
        match rest with
        | [] => [.exactly c]
        | next :: later => .exactly next :: places later
      else .exactly c :: places rest

/-- The text meets the places, with characters compared by `same`. -/
def meets (same : Char → Char → Bool) : List Place → List Char → Bool
  | [], text => text.isEmpty
  | .anyRun :: rest, text => text.tails.any (meets same rest)
  | .anyOne :: _, [] => false
  | .anyOne :: rest, _ :: text => meets same rest text
  | .exactly _ :: _, [] => false
  | .exactly c :: rest, d :: text => same c d && meets same rest text

/-- `text LIKE pattern`. -/
def like (same : Char → Char → Bool) (pattern text : List Char) : Bool :=
  meets same (places pattern) text

end CoreApi.LikePattern
