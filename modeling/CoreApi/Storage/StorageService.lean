import CoreApi.Foundation.Json
import CoreApi.Storage.LocalProvider

/-!
# Keys and the base directory

`StorageService` builds keys of what the caller names; the local provider joins a key to the
base directory without looking at it. A key leads out of the base directory when its `..`
lead up more levels than its names lead down, unless the names that follow are those of the
base directory again.
-/

namespace CoreApi.Storage

open CoreApi.Foundation PosixPath

/-! ## Keys that are generated -/

/-- `String.prototype.toLowerCase`, on the characters of a text. -/
structure LetterCasing where
  toLowerCase : List Char → List Char
  /-- No letter becomes a slash. -/
  keepsSlashes : ∀ text, '/' ∈ toLowerCase text → '/' ∈ text

/-- What `crypto.randomUUID()` gives. -/
structure Uuid where
  text : List Char
  hexDigits : ∀ char ∈ text, char ∈ "0123456789abcdef-".toList
  length_eq : text.length = 36

structure GenerateKeyInput where
  filename : String
  tenantId : Option String
  userId : Option String
  keyPrefix : Option String

/-- `path.extname`. -/
def extname (path : Path) : Path :=
  let base := ((path.rdropWhile (· == '/')).splitOn '/').getLastD []
  let extension := base.rtakeWhile (· != '.')
  let before := base.take (base.length - extension.length - 1)
  if '.' ∉ base ∨ before = [] ∨ base = ['.', '.'] then [] else '.' :: extension

/-- `.replace(/^\./, '')`. -/
def withoutDot : Path → Path
  | '.' :: letters => letters
  | letters => letters

namespace StorageService

/-- The extension of a generated key. -/
def extension (casing : LetterCasing) (filename : String) : List Char :=
  let lowered := casing.toLowerCase (withoutDot (extname filename.toList))
  if lowered = [] then "bin".toList else lowered

def fileName (casing : LetterCasing) (uuid : Uuid) (input : GenerateKeyInput) : Segment :=
  uuid.text ++ '.' :: extension casing input.filename

/-- The parts of a key that the caller names, where they are not blank. -/
def namedParts (input : GenerateKeyInput) : List Path :=
  ([input.tenantId, input.userId, input.keyPrefix].map fun part =>
    (part.map Json.trimmed).getD []).filter (· ≠ [])

def generateKey (casing : LetterCasing) (uuid : Uuid) (input : GenerateKeyInput) : Path :=
  squeeze (['/'].intercalate (namedParts input ++ [fileName casing uuid input]))

end StorageService

/-! ## What a call accesses -/

/-- A call with a key, or with a prefix. -/
inductive Operation where
  | put (key : Path) (file : StoredFile)
  | delete (key : Path)
  | head (key : Path)
  | list (under : Path)

/-- What a call answers; none where it is rejected. -/
inductive Response where
  | stored (key : Option Path)
  | deleted (succeeded : Bool)
  | found (output : HeadOutput)
  | keys (keys : List Path)

namespace Operation

variable (process : Process) (provider : LocalProvider)

def key : Operation → Path
  | put key _ => key
  | delete key => key
  | head key => key
  | list under => under

/-- The same call with another key. -/
def withKey (key : Path) : Operation → Operation
  | put _ file => put key file
  | delete _ => delete key
  | head _ => head key
  | list _ => list key

@[simp] theorem key_withKey (operation : Operation) (key : Path) :
    (operation.withKey key).key = key := by
  cases operation <;> rfl

def run (files : FileTree) : Operation → FileTree × Response
  | put key file =>
      let (files, stored) := provider.put process files key file
      (files, .stored stored)
  | delete key =>
      let (files, succeeded) := provider.delete process files key
      (files, .deleted succeeded)
  | head key => (files, .found (provider.head process files key))
  | list under => (files, .keys (provider.list process files under))

/-- The texts that a call hands to the file functions. -/
def texts (operation : Operation) : List Path :=
  let path := provider.fullPath operation.key
  match operation with
  | put _ _ => [dirname path, path]
  | _ => [path]

/-- The file functions take nothing of a call for a path. -/
def isRejected (operation : Operation) : Bool := (operation.texts provider).all Process.refuses

/-- The path of a call leads into the base directory, or the call is rejected. -/
def StaysInside (operation : Operation) : Prop :=
  operation.isRejected provider = true ∨
    resolve process.cwd provider.baseDir <+:
      resolve process.cwd (provider.fullPath operation.key)

end Operation

/-! ## Where keys lead -/

variable {process : Process} {provider : LocalProvider}

/-- A way up from a place and down through names leads back to the place. -/
def LeadsBack (place : Place) (climbed : Nat × List Segment) : Prop :=
  place.drop (place.length - climbed.1) <+: climbed.2

/-- Segments of a key lead up no further from the base directory than they lead back. What
begins with a slash leads up to the root where there is no base directory to join it to. -/
def SegmentsStay (process : Process) (provider : LocalProvider) (absolute : Bool)
    (segments : List Segment) : Prop :=
  LeadsBack (resolve process.cwd provider.baseDir)
    (if provider.baseDir = [] ∧ absolute = true then
      ((resolve process.cwd provider.baseDir).length, (climb segments).2)
    else climb segments)

theorem prefix_resolve_fullPath_iff (key : Path) :
    resolve process.cwd provider.baseDir <+: resolve process.cwd (provider.fullPath key) ↔
      SegmentsStay process provider (isAbsolute key) (key.splitOn '/') := by
  rw [resolve_fullPath, SegmentsStay, LeadsBack]
  split
  · rw [followAll_eq_climb, List.take_nil, List.nil_append, Nat.sub_self, List.drop_zero]
  · exact prefix_followAll_iff

/-! ## Where generated keys lead -/

/-- Squeezing leaves out empty segments, and none at the beginning. -/
theorem splitOn_squeeze (path : Path) :
    ((squeeze path).splitOn '/').head? = (path.splitOn '/').head? ∧
      ((squeeze path).splitOn '/').tail.filter (· ≠ []) =
        (path.splitOn '/').tail.filter (· ≠ []) := by
  induction path with
  | nil => exact ⟨rfl, rfl⟩
  | cons char rest ih =>
      obtain ⟨heads, tails⟩ := ih
      rcases isSplit : rest.splitOn '/' with _ | ⟨first, later⟩
      · exact absurd isSplit (List.splitOn_ne_nil _ _)
      rcases isSqueezed : (squeeze rest).splitOn '/' with _ | ⟨first', later'⟩
      · exact absurd isSqueezed (List.splitOn_ne_nil _ _)
      rw [isSplit, isSqueezed] at heads tails
      cases heads
      rw [squeeze]
      split
      · next slashes =>
          obtain ⟨rfl, slash⟩ := slashes
          obtain ⟨rest, rfl⟩ : ∃ others, rest = '/' :: others := by
            cases rest with
            | nil => cases slash
            | cons other others => exact ⟨others, by rw [Option.some.inj slash]⟩
          rw [splitOn_cons_slash] at isSplit
          cases isSplit
          rw [splitOn_cons_slash, splitOn_cons_slash, isSqueezed]
          exact ⟨rfl, by simpa using tails⟩
      · by_cases isSlash : char = '/'
        · subst isSlash
          rw [splitOn_cons_slash, splitOn_cons_slash, isSplit, isSqueezed]
          exact ⟨rfl, by simp only [List.tail_cons, List.filter_cons] at tails ⊢; rw [tails]⟩
        · have other : (char == '/') = false := beq_false_of_ne isSlash
          rw [List.splitOn_cons_eq_if_modifyHead, List.splitOn_cons_eq_if_modifyHead, other,
            isSplit, isSqueezed]
          exact ⟨rfl, tails⟩

theorem filter_splitOn_squeeze (path : Path) :
    ((squeeze path).splitOn '/').filter (· ≠ []) = (path.splitOn '/').filter (· ≠ []) := by
  obtain ⟨heads, tails⟩ := splitOn_squeeze path
  generalize (squeeze path).splitOn '/' = squeezed at *
  generalize path.splitOn '/' = segments at *
  cases squeezed <;> cases segments <;> cases heads
  · rfl
  · rw [List.tail_cons, List.tail_cons] at tails
    rw [List.filter_cons, List.filter_cons, tails]

theorem isAbsolute_squeeze (path : Path) : isAbsolute (squeeze path) = isAbsolute path := by
  cases path with
  | nil => rfl
  | cons char rest =>
      rw [squeeze]
      split
      · next slashes =>
          obtain ⟨rfl, slash⟩ := slashes
          induction rest with
          | nil => cases slash
          | cons second rest ih =>
              cases slash
              rw [squeeze]
              split
              · next again => exact ih again.2
              · rfl
      · rfl

/-- Segments without anything in them lead nowhere. -/
theorem climb_filter (segments : List Segment) : climb (segments.filter (· ≠ [])) = climb segments := by
  unfold climb
  generalize ((0, []) : Nat × List Segment) = climbed
  induction segments generalizing climbed with
  | nil => rfl
  | cons first rest ih =>
      rw [List.filter_cons]
      split
      · exact ih _
      · next isEmpty =>
          obtain rfl : first = [] := by simpa using isEmpty
          exact ih _

theorem splitOn_intercalate_parts {parts : List Path} (some : parts ≠ []) :
    (['/'].intercalate parts).splitOn '/' = parts.flatMap (·.splitOn '/') := by
  induction parts with
  | nil => exact absurd rfl some
  | cons first rest ih =>
      cases rest with
      | nil => simp
      | cons second rest =>
          rw [List.intercalate_cons_cons, List.append_assoc, List.singleton_append,
            List.splitOn_append_cons_self, ih (List.cons_ne_nil _ _)]
          rfl

namespace StorageService

variable {casing : LetterCasing} {uuid : Uuid} {input : GenerateKeyInput}

theorem slash_not_mem_extension (filename : String) : '/' ∉ extension casing filename := by
  have inName : '/' ∉ extname filename.toList := by
    rw [extname]
    split
    · exact List.not_mem_nil
    · intro member
      have inExtension := (List.mem_cons.mp member).resolve_left (by decide)
      have isSuffix := List.rtakeWhile_suffix (· != '.')
        (((filename.toList.rdropWhile (· == '/')).splitOn '/').getLastD [])
      have inBase := isSuffix.subset inExtension
      rcases isLast : ((filename.toList.rdropWhile (· == '/')).splitOn '/').getLast? with _ | last
      · rw [List.getLastD_eq_getLast?, isLast] at inBase
        cases inBase
      · rw [List.getLastD_eq_getLast?, isLast] at inBase
        exact not_mem_of_mem_splitOn (List.mem_of_getLast? isLast) inBase
  have inLetters : '/' ∉ withoutDot (extname filename.toList) := by
    rw [withoutDot.eq_def]
    split
    · next isName => exact fun member => inName (isName ▸ List.mem_cons_of_mem _ member)
    · exact inName
  simp only [extension]
  split
  · simp
  · exact fun member => inLetters (casing.keepsSlashes _ member)

theorem slash_not_mem_fileName : '/' ∉ fileName casing uuid input := by
  intro member
  rcases List.mem_append.mp member with inUuid | inExtension
  · exact absurd (uuid.hexDigits _ inUuid) (by decide)
  · exact slash_not_mem_extension _ ((List.mem_cons.mp inExtension).resolve_left (by decide))

/-- The segments of a generated key: those of the parts that the caller names, and the name of
the file. -/
def keySegments (casing : LetterCasing) (uuid : Uuid) (input : GenerateKeyInput) : List Segment :=
  (namedParts input).flatMap (·.splitOn '/') ++ [fileName casing uuid input]

/-- The first part that the caller names begins with a slash. -/
def startsWithSlash (input : GenerateKeyInput) : Bool := (namedParts input).head?.any isAbsolute

theorem isAbsolute_generateKey :
    isAbsolute (generateKey casing uuid input) = startsWithSlash input := by
  have named : ∀ part ∈ namedParts input, part ≠ [] := by
    intro part member
    simpa using (List.mem_filter.mp member).2
  rw [generateKey, isAbsolute_squeeze, startsWithSlash]
  rcases isNamed : namedParts input with _ | ⟨first, rest⟩
  · have isFile := @isAbsolute_normalString [fileName casing uuid input] (by
      intro segment member
      rw [List.mem_singleton.mp member]
      exact ⟨by simp [fileName], slash_not_mem_fileName⟩)
    exact isFile
  · obtain ⟨char, letters, rfl⟩ :=
      List.exists_cons_of_ne_nil (named first (isNamed ▸ List.mem_cons_self))
    rw [List.cons_append, List.intercalate_cons_of_ne_nil (by simp)]
    rfl

theorem climb_generateKey :
    climb ((generateKey casing uuid input).splitOn '/') =
      climb (keySegments casing uuid input) := by
  have some : namedParts input ++ [fileName casing uuid input] ≠ [] := by simp
  have isFile : (fileName casing uuid input).splitOn '/' = [fileName casing uuid input] :=
    List.splitOn_eq_singleton slash_not_mem_fileName
  have isJoined := splitOn_intercalate_parts some
  rw [List.flatMap_append, List.flatMap_singleton, isFile] at isJoined
  rw [keySegments, ← isJoined, generateKey, ← climb_filter, filter_splitOn_squeeze, climb_filter]

end StorageService

open StorageService in
/-- A call that is not rejected stays inside the base directory exactly when the segments of its
key do; a key that is generated has the segments that the caller names. -/
theorem keys_stayInside_iff (process : Process) (provider : LocalProvider)
    (operation : Operation) :
    (operation.StaysInside process provider ↔
      operation.isRejected provider = true ∨
        SegmentsStay process provider (isAbsolute operation.key) (operation.key.splitOn '/')) ∧
    ∀ (casing : LetterCasing) (uuid : Uuid) (input : GenerateKeyInput),
      ((operation.withKey (generateKey casing uuid input)).StaysInside process provider ↔
        (operation.withKey (generateKey casing uuid input)).isRejected provider = true ∨
          SegmentsStay process provider (startsWithSlash input)
            (keySegments casing uuid input)) := by
  refine ⟨or_congr_right (prefix_resolve_fullPath_iff _), fun casing uuid input => or_congr_right ?_⟩
  rw [prefix_resolve_fullPath_iff, Operation.key_withKey, SegmentsStay, SegmentsStay,
    climb_generateKey, isAbsolute_generateKey]

/-- A process in `/srv` whose provider stores below `/srv/storage`. -/
def server : Process where
  cwd := ["srv".toList]
  properCwd := by decide
  md5 := fun _ => ""
  directoryStat := fun _ => (0, 0)

def serverStorage : LocalProvider where
  baseDir := "storage".toList

/-- The parent directory of the one that keys are joined to is written. -/
theorem put_leaves_storage :
    ¬(Operation.put "../config.json".toList ⟨[], 0⟩).StaysInside server serverStorage := by
  unfold Operation.StaysInside
  decide

end CoreApi.Storage
