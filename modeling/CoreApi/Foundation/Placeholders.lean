import Mathlib.Data.List.TakeWhile

/-!
# Placeholders in a template

A placeholder is a key between two opening and two closing marks, with blanks around the
key. Read from the left, a template splits into placeholders and the letters between them,
and it splits in one way only.
-/

namespace CoreApi.Foundation

/-- The marks of placeholders, the letters of their keys and the blanks around these. -/
structure Marks (α : Type) where
  opening : α
  closing : α
  isBlank : α → Bool
  isLetter : α → Bool
  blank_of_letter : ∀ letter, isLetter letter = true → isBlank letter = false
  closing_notBlank : isBlank closing = false
  closing_notLetter : isLetter closing = false

/-- What stands between the marks of a placeholder. -/
structure Hole (α : Type) where
  before : List α
  key : List α
  after : List α
  deriving DecidableEq, Repr

/-- A part of a template. -/
inductive Piece (α : Type) where
  | text (letter : α)
  | hole (hole : Hole α)
  deriving DecidableEq, Repr

namespace Marks

variable {α : Type} (marks : Marks α)

/-- The key of a placeholder is not empty. -/
structure Fits (hole : Hole α) : Prop where
  before : ∀ letter ∈ hole.before, marks.isBlank letter = true
  key : ∀ letter ∈ hole.key, marks.isLetter letter = true
  key_ne_nil : hole.key ≠ []
  after : ∀ letter ∈ hole.after, marks.isBlank letter = true

/-- A placeholder as it is written. -/
def writeHole (hole : Hole α) : List α :=
  marks.opening :: marks.opening ::
    (hole.before ++ (hole.key ++ (hole.after ++ [marks.closing, marks.closing])))

def writePiece : Piece α → List α
  | .text letter => [letter]
  | .hole hole => marks.writeHole hole

/-- A template from its parts. -/
def write (pieces : List (Piece α)) : List α := pieces.flatMap marks.writePiece

/-- A text that starts with a placeholder. -/
def StartsHole (text : List α) : Prop :=
  ∃ hole rest, marks.Fits hole ∧ text = marks.writeHole hole ++ rest

/-- The parts of a template as they are read from the left: no letter of text starts a
placeholder. -/
def IsReading : List (Piece α) → Prop
  | [] => True
  | .text letter :: rest => ¬ marks.StartsHole (letter :: marks.write rest) ∧ IsReading rest
  | .hole hole :: rest => marks.Fits hole ∧ IsReading rest

/-- A template with each placeholder replaced by the value of its key. -/
def fill (value : List α → List α) (pieces : List (Piece α)) : List α :=
  pieces.flatMap fun
    | .text letter => [letter]
    | .hole hole => value hole.key

variable {marks}

@[simp]
theorem write_nil : marks.write [] = [] := rfl

@[simp]
theorem write_text (letter : α) (rest : List (Piece α)) :
    marks.write (.text letter :: rest) = letter :: marks.write rest := rfl

@[simp]
theorem write_hole (hole : Hole α) (rest : List (Piece α)) :
    marks.write (.hole hole :: rest) = marks.writeHole hole ++ marks.write rest := rfl

/-- A run of letters ends where the next one is of another kind. -/
theorem takeWhile_run {p : α → Bool} {run : List α} {next : α} (rest : List α)
    (inRun : ∀ letter ∈ run, p letter = true) (ends : p next = false) :
    (run ++ next :: rest).takeWhile p = run ∧ (run ++ next :: rest).dropWhile p = next :: rest := by
  constructor
  · rw [List.takeWhile_append_of_pos inRun, List.takeWhile_cons_of_neg (by simp [ends]),
      List.append_nil]
  · rw [List.dropWhile_append_of_pos inRun, List.dropWhile_cons_of_neg (by simp [ends])]

variable [DecidableEq α]

variable (marks) in
/-- The placeholder a text starts with. -/
def hole? : List α → Option (Hole α)
  | first :: second :: rest =>
      let fromKey := rest.dropWhile marks.isBlank
      let afterKey := fromKey.dropWhile marks.isLetter
      let hole : Hole α :=
        ⟨rest.takeWhile marks.isBlank, fromKey.takeWhile marks.isLetter,
          afterKey.takeWhile marks.isBlank⟩
      if first = marks.opening ∧ second = marks.opening ∧ hole.key ≠ [] ∧
          (afterKey.dropWhile marks.isBlank).take 2 = [marks.closing, marks.closing] then
        some hole
      else none
  | _ => none

variable (marks) in
/-- The parts of a template after `skip` letters. -/
def piecesAfter : Nat → List α → List (Piece α)
  | _, [] => []
  | skip + 1, _ :: rest => piecesAfter skip rest
  | 0, letter :: rest =>
      match marks.hole? (letter :: rest) with
      | some hole => .hole hole :: piecesAfter ((marks.writeHole hole).length - 1) rest
      | none => .text letter :: piecesAfter 0 rest

variable (marks) in
/-- The parts of a template, read from the left. -/
def pieces (template : List α) : List (Piece α) := marks.piecesAfter 0 template

/-- A text starts with the placeholder that is read there. -/
theorem hole?_writeHole {hole : Hole α} (fits : marks.Fits hole) (rest : List α) :
    marks.hole? (marks.writeHole hole ++ rest) = some hole := by
  obtain ⟨before, key, after⟩ := hole
  obtain ⟨letter, key, rfl⟩ : ∃ letter tail, key = letter :: tail :=
    List.exists_cons_of_ne_nil fits.key_ne_nil
  have notBlank := marks.blank_of_letter letter (fits.key letter List.mem_cons_self)
  obtain ⟨beforeTaken, beforeDropped⟩ := takeWhile_run
    (key ++ (after ++ marks.closing :: marks.closing :: rest)) fits.before notBlank
  have afterRun := takeWhile_run (marks.closing :: rest) fits.after marks.closing_notBlank
  -- the key ends at a blank or at the closing mark
  have keyRun : (letter :: key ++ (after ++ marks.closing :: marks.closing :: rest)).takeWhile
        marks.isLetter = letter :: key ∧
      (letter :: key ++ (after ++ marks.closing :: marks.closing :: rest)).dropWhile
        marks.isLetter = after ++ marks.closing :: marks.closing :: rest := by
    cases after with
    | nil => exact takeWhile_run _ fits.key marks.closing_notLetter
    | cons blank after =>
        apply takeWhile_run _ fits.key
        by_contra isLetter
        have := marks.blank_of_letter blank (by simpa using isLetter)
        simp [fits.after blank List.mem_cons_self] at this
  have spelled : marks.writeHole ⟨before, letter :: key, after⟩ ++ rest =
      marks.opening :: marks.opening ::
        (before ++ letter :: (key ++ (after ++ marks.closing :: marks.closing :: rest))) := by
    simp [writeHole]
  rw [spelled]
  simp only [hole?, beforeTaken, beforeDropped]
  rw [List.cons_append] at keyRun
  simp [keyRun.1, keyRun.2, afterRun.1, afterRun.2]

theorem startsHole_of_hole? {text : List α} {hole : Hole α} (found : marks.hole? text = some hole) :
    marks.Fits hole ∧ ∃ rest, text = marks.writeHole hole ++ rest := by
  match text, found with
  | first :: second :: rest, found =>
      simp only [hole?, Option.ite_none_right_eq_some, Option.some.injEq] at found
      obtain ⟨⟨rfl, rfl, hasKey, closed⟩, rfl⟩ := found
      refine ⟨⟨?_, ?_, hasKey, ?_⟩, ?_⟩
      · exact fun letter member => List.mem_takeWhile_imp member
      · exact fun letter member => List.mem_takeWhile_imp member
      · exact fun letter member => List.mem_takeWhile_imp member
      · refine ⟨(((rest.dropWhile marks.isBlank).dropWhile marks.isLetter).dropWhile
          marks.isBlank).drop 2, ?_⟩
        have split := List.take_append_drop 2
          (((rest.dropWhile marks.isBlank).dropWhile marks.isLetter).dropWhile marks.isBlank)
        rw [closed] at split
        simp only [writeHole, List.cons_append, List.append_assoc, List.nil_append] at split ⊢
        rw [split, List.takeWhile_append_dropWhile, List.takeWhile_append_dropWhile,
          List.takeWhile_append_dropWhile]

theorem hole?_eq_none_iff {text : List α} : marks.hole? text = none ↔ ¬ marks.StartsHole text := by
  constructor
  · rintro none ⟨hole, rest, fits, rfl⟩
    rw [hole?_writeHole fits rest] at none
    cases none
  · intro noHole
    cases found : marks.hole? text with
    | none => rfl
    | some hole =>
        obtain ⟨fits, rest, same⟩ := startsHole_of_hole? found
        exact absurd ⟨hole, rest, fits, same⟩ noHole

theorem piecesAfter_eq (skip : Nat) (template : List α) :
    marks.piecesAfter skip template = marks.pieces (template.drop skip) := by
  induction skip generalizing template with
  | zero => rfl
  | succ skip ih =>
      cases template with
      | nil => simp [piecesAfter, pieces]
      | cons letter rest => simpa [piecesAfter] using ih rest

theorem pieces_text {letter : α} {rest : List α} (noHole : ¬ marks.StartsHole (letter :: rest)) :
    marks.pieces (letter :: rest) = .text letter :: marks.pieces rest := by
  simp only [pieces, piecesAfter, hole?_eq_none_iff.mpr noHole]

theorem pieces_hole {hole : Hole α} (fits : marks.Fits hole) (rest : List α) :
    marks.pieces (marks.writeHole hole ++ rest) = .hole hole :: marks.pieces rest := by
  have found := hole?_writeHole fits rest
  rw [writeHole, List.cons_append] at found ⊢
  simp only [pieces, piecesAfter, found]
  rw [piecesAfter_eq, pieces]
  congr 2
  simp [writeHole]

theorem pieces_write {parts : List (Piece α)} (reading : marks.IsReading parts) :
    marks.pieces (marks.write parts) = parts := by
  induction parts with
  | nil => rfl
  | cons part rest ih =>
      cases part with
      | text letter =>
          obtain ⟨noHole, restReading⟩ := reading
          rw [write_text, pieces_text noHole, ih restReading]
      | hole hole =>
          obtain ⟨fits, restReading⟩ := reading
          rw [write_hole, pieces_hole fits, ih restReading]

/-- Reading loses nothing, and finds every placeholder. -/
theorem reads_pieces (template : List α) :
    marks.IsReading (marks.pieces template) ∧ marks.write (marks.pieces template) = template := by
  induction isSize : template.length using Nat.strongRecOn generalizing template with
  | ind size ih =>
      cases template with
      | nil => exact ⟨trivial, rfl⟩
      | cons letter rest =>
          cases found : marks.hole? (letter :: rest) with
          | none =>
              have noHole := hole?_eq_none_iff.mp found
              obtain ⟨reading, same⟩ := ih rest.length (by simp [← isSize]) rest rfl
              rw [pieces_text noHole, write_text, same]
              exact ⟨⟨by rwa [same], reading⟩, rfl⟩
          | some hole =>
              obtain ⟨fits, tail, same⟩ := startsHole_of_hole? found
              have shorter : tail.length < size := by
                rw [← isSize, same, writeHole]
                simp
                omega
              obtain ⟨reading, tailSame⟩ := ih tail.length shorter tail rfl
              rw [same, pieces_hole fits, write_hole, tailSame]
              exact ⟨⟨fits, reading⟩, rfl⟩

/-- A template is read in one way. -/
theorem isReading_iff {parts : List (Piece α)} {template : List α} :
    marks.IsReading parts ∧ marks.write parts = template ↔ parts = marks.pieces template := by
  constructor
  · rintro ⟨reading, rfl⟩
    exact (pieces_write reading).symm
  · rintro rfl
    exact reads_pieces template

end Marks

end CoreApi.Foundation
