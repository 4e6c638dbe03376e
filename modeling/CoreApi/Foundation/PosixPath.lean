import Mathlib.Data.List.Basic
import Mathlib.Data.List.DropRight
import Mathlib.Data.List.Infix

/-!
# POSIX paths

What the `path` module does to the text of a path, and the place that a path leads to
where nothing on the way is a symbolic link. A place is the list of names from the root
down to it. Normalizing a path leaves the place it leads to as it is; a path that is
joined to a directory leads where its own segments lead from there.
-/

namespace CoreApi.Foundation.PosixPath

/-- The text of a path. -/
abbrev Path := List Char

/-- What stands between two slashes. -/
abbrev Segment := List Char

/-- The names from the root down to a file or directory. -/
abbrev Place := List Segment

/-- A segment that names something in the directory it is looked up in. -/
def IsName (segment : Segment) : Prop :=
  segment ≠ [] ∧ segment ≠ ['.'] ∧ segment ≠ ['.', '.'] ∧ '/' ∉ segment

instance : DecidablePred IsName := fun _ => by unfold IsName; infer_instance

/-! ## Places -/

/-- One segment further: `..` leads to the directory above, and the root is above itself. -/
def follow (place : Place) (segment : Segment) : Place :=
  if segment = [] ∨ segment = ['.'] then place
  else if segment = ['.', '.'] then place.dropLast
  else place ++ [segment]

/-- Some segments further. -/
def followAll (place : Place) (segments : List Segment) : Place := segments.foldl follow place

def isAbsolute (path : Path) : Bool := path.head? == some '/'

/-- The place that a path leads to from a working directory. -/
def resolve (cwd : Place) (path : Path) : Place :=
  followAll (if isAbsolute path then [] else cwd) (path.splitOn '/')

/-! ## The texts -/

/-- One segment of `normalizeString`. -/
def normalizeStep (allowAboveRoot : Bool) (parts : List Segment) (segment : Segment) :
    List Segment :=
  if segment = [] ∨ segment = ['.'] then parts
  else if segment = ['.', '.'] then
    match parts.getLast? with
    | none => if allowAboveRoot then parts ++ [segment] else parts
    | some last =>
        if last ≠ ['.', '.'] then parts.dropLast
        else if allowAboveRoot then parts ++ [segment] else parts
  else parts ++ [segment]

/-- The segments that `normalizeString` keeps. -/
def normalParts (allowAboveRoot : Bool) (segments : List Segment) : List Segment :=
  segments.foldl (normalizeStep allowAboveRoot) []

def normalizeString (path : Path) (allowAboveRoot : Bool) : Path :=
  ['/'].intercalate (normalParts allowAboveRoot (path.splitOn '/'))

/-- `path.normalize`. -/
def normalize (path : Path) : Path :=
  if path = [] then ['.']
  else
    let trailing := path.getLast? == some '/'
    let normal := normalizeString path (!isAbsolute path)
    if normal = [] then
      if isAbsolute path then ['/'] else if trailing then ['.', '/'] else ['.']
    else
      (if isAbsolute path then ['/'] else []) ++ normal ++ (if trailing then ['/'] else [])

/-- `path.join` of two. -/
def join (directory path : Path) : Path :=
  if directory = [] then normalize path
  else if path = [] then normalize directory
  else normalize (directory ++ '/' :: path)

/-- What two lists do not begin with in common. -/
def afterCommon : Place → Place → Place × Place
  | a :: as, b :: bs => if a = b then afterCommon as bs else (a :: as, b :: bs)
  | as, bs => (as, bs)

/-- `path.relative`. -/
def relative (cwd : Place) (base path : Path) : Path :=
  let (up, down) := afterCommon (resolve cwd base) (resolve cwd path)
  ['/'].intercalate (up.map (fun _ => ['.', '.']) ++ down)

/-- `path.dirname`. -/
def dirname (path : Path) : Path :=
  let trimmed := path.rdropWhile (· == '/')
  if trimmed = [] then if path = [] then ['.'] else ['/']
  else
    match trimmed.splitOn '/' with
    | [_] => ['.']
    | segments =>
        let above := ['/'].intercalate segments.dropLast
        if above = [] then ['/'] else if above = ['/'] then ['/', '/'] else above

/-! ## Where texts lead -/

variable {cwd place : Place} {path directory : Path} {segments : List Segment} {segment : Segment}

@[simp] theorem follow_nil : follow place [] = place := if_pos (.inl rfl)

@[simp] theorem follow_dot : follow place ['.'] = place := if_pos (.inr rfl)

@[simp] theorem follow_dotdot : follow place ['.', '.'] = place.dropLast := rfl

theorem follow_name (name : IsName segment) : follow place segment = place ++ [segment] := by
  obtain ⟨notEmpty, notDot, notDotdot, _⟩ := name
  rw [follow, if_neg (not_or.mpr ⟨notEmpty, notDot⟩), if_neg notDotdot]

@[simp] theorem followAll_nil : followAll place [] = place := rfl

@[simp] theorem followAll_cons :
    followAll place (segment :: segments) = followAll (follow place segment) segments := rfl

@[simp] theorem followAll_append (more : List Segment) :
    followAll place (segments ++ more) = followAll (followAll place segments) more :=
  List.foldl_append

/-- Names lead down, one after the other. -/
theorem followAll_names (names : ∀ segment ∈ segments, IsName segment) :
    followAll place segments = place ++ segments := by
  induction segments generalizing place with
  | nil => rw [followAll_nil, List.append_nil]
  | cons first rest ih =>
      rw [followAll_cons, follow_name (names first List.mem_cons_self),
        ih fun segment member => names segment (List.mem_cons_of_mem _ member),
        List.append_assoc, List.singleton_append]

/-! ## Up and down -/

/-- One segment after others that lead some levels up and then down through names. -/
def climbStep (climbed : Nat × List Segment) (segment : Segment) : Nat × List Segment :=
  if segment = [] ∨ segment = ['.'] then climbed
  else if segment = ['.', '.'] then
    if climbed.2 = [] then (climbed.1 + 1, []) else (climbed.1, climbed.2.dropLast)
  else (climbed.1, climbed.2 ++ [segment])

/-- How many levels up segments lead, and through which names down from there. -/
def climb (segments : List Segment) : Nat × List Segment := segments.foldl climbStep (0, [])

theorem climb_concat : climb (segments ++ [segment]) = climbStep (climb segments) segment :=
  List.foldl_concat ..

theorem normalParts_concat (allowAboveRoot : Bool) :
    normalParts allowAboveRoot (segments ++ [segment]) =
      normalizeStep allowAboveRoot (normalParts allowAboveRoot segments) segment :=
  List.foldl_concat ..

/-- The names that segments lead down through are names. -/
theorem climb_names (noSlash : ∀ segment ∈ segments, '/' ∉ segment) :
    ∀ name ∈ (climb segments).2, IsName name := by
  induction segments using List.reverseRecOn with
  | nil => exact fun name member => absurd member List.not_mem_nil
  | append_singleton before last ih =>
      have names := ih fun segment member =>
        noSlash segment (List.mem_append_left _ member)
      rw [climb_concat, climbStep]
      split
      · exact names
      · next moves =>
          split
          · split
            · exact fun name member => absurd member List.not_mem_nil
            · exact fun name member => names name (List.mem_of_mem_dropLast member)
          · next notDotdot =>
              intro name member
              rcases List.mem_append.mp member with old | new
              · exact names name old
              · rw [List.mem_singleton.mp new]
                exact ⟨fun isEmpty => moves (.inl isEmpty), fun isDot => moves (.inr isDot),
                  notDotdot, noSlash last (List.mem_append_right _ List.mem_cons_self)⟩

/-- Segments lead up first, as far as they do, and then down. -/
theorem followAll_eq_climb :
    followAll place segments =
      place.take (place.length - (climb segments).1) ++ (climb segments).2 := by
  induction segments using List.reverseRecOn with
  | nil => simp [climb]
  | append_singleton before last ih =>
      rw [followAll_append, followAll_cons, followAll_nil, ih, climb_concat,
        follow, climbStep]
      split
      · rfl
      · split
        · split
          · next none =>
              rw [none, List.append_nil, List.append_nil, List.dropLast_eq_take, List.take_take,
                List.length_take]
              congr 1
              omega
          · next some => rw [List.dropLast_append_of_ne_nil some]
        · rw [List.append_assoc]

/-- `normalizeString` keeps the way up, where it may, and the names. -/
theorem normalParts_eq_climb (allowAboveRoot : Bool)
    (noSlash : ∀ segment ∈ segments, '/' ∉ segment) :
    normalParts allowAboveRoot segments =
      List.replicate (if allowAboveRoot then (climb segments).1 else 0) ['.', '.'] ++
        (climb segments).2 := by
  induction segments using List.reverseRecOn with
  | nil => cases allowAboveRoot <;> rfl
  | append_singleton before last ih =>
      have noSlashBefore : ∀ segment ∈ before, '/' ∉ segment :=
        fun segment member => noSlash segment (List.mem_append_left _ member)
      rw [normalParts_concat, ih noSlashBefore, climb_concat, normalizeStep,
        climbStep]
      split
      · rfl
      · split
        · next isDotdot =>
            subst isDotdot
            rcases List.eq_nil_or_concat' (climb before).2 with none | ⟨names, last, isDown⟩
            · cases allowAboveRoot with
              | false => simp [none]
              | true =>
                  rcases isUp : (climb before).1 with _ | up
                  · simp [none]
                  · simp [none, List.replicate_succ', List.getLast?_append]
            · have name : IsName last := climb_names noSlashBefore last (by simp [isDown])
              have notDotdot := name.2.2.1
              simp [isDown, ← List.append_assoc, notDotdot]
        · cases allowAboveRoot <;> simp [← List.append_assoc]

/-- What is kept is no empty segment and no dot. -/
theorem normalParts_kept {allowAboveRoot : Bool} (noSlash : ∀ segment ∈ segments, '/' ∉ segment) :
    ∀ part ∈ normalParts allowAboveRoot segments, IsName part ∨ part = ['.', '.'] := by
  intro part member
  rw [normalParts_eq_climb _ noSlash] at member
  rcases List.mem_append.mp member with isUp | isDown
  · exact .inr (List.eq_of_mem_replicate isUp)
  · exact .inl (climb_names noSlash part isDown)

theorem climb_replicate_append (up : Nat) (names : ∀ segment ∈ segments, IsName segment) :
    climb (List.replicate up ['.', '.'] ++ segments) = (up, segments) := by
  induction segments using List.reverseRecOn with
  | nil =>
      rw [List.append_nil]
      induction up with
      | zero => rfl
      | succ up ih =>
          rw [List.replicate_succ', climb_concat, ih]
          rfl
  | append_singleton before last ih =>
      obtain ⟨notEmpty, notDot, notDotdot, _⟩ :=
        names last (List.mem_append_right _ List.mem_cons_self)
      rw [← List.append_assoc, climb_concat,
        ih fun segment member => names segment (List.mem_append_left _ member),
        climbStep, if_neg (not_or.mpr ⟨notEmpty, notDot⟩), if_neg notDotdot]

/-- `normalizeString` keeps the place, from the root or where going up is allowed. -/
theorem followAll_normalParts {allowAboveRoot : Bool} (start : allowAboveRoot = true ∨ place = [])
    (noSlash : ∀ segment ∈ segments, '/' ∉ segment) :
    followAll place (normalParts allowAboveRoot segments) = followAll place segments := by
  rw [normalParts_eq_climb _ noSlash, followAll_eq_climb,
    climb_replicate_append _ (climb_names noSlash), followAll_eq_climb]
  rcases start with rfl | rfl
  · rfl
  · simp

/-! ## The texts of places -/

theorem not_mem_of_mem_splitOn (member : segment ∈ path.splitOn '/') : '/' ∉ segment := by
  induction path generalizing segment with
  | nil =>
      rw [List.splitOn_nil, List.mem_singleton] at member
      rw [member]
      exact List.not_mem_nil
  | cons char rest ih =>
      rw [List.splitOn_cons_eq_if_modifyHead] at member
      split at member
      · rcases List.mem_cons.mp member with rfl | later
        · exact List.not_mem_nil
        · exact ih later
      · next other =>
          rcases isSplit : rest.splitOn '/' with _ | ⟨first, later⟩
          · exact absurd isSplit (List.splitOn_ne_nil _ _)
          · rw [isSplit] at member ih
            rcases List.mem_cons.mp member with rfl | inLater
            · rintro (_ | ⟨_, inFirst⟩)
              · exact other (beq_self_eq_true _)
              · exact ih List.mem_cons_self inFirst
            · exact ih (List.mem_cons_of_mem _ inLater)

theorem splitOn_cons_slash : ('/' :: path).splitOn '/' = [] :: path.splitOn '/' :=
  List.splitOn_append_cons_self [] path

theorem splitOn_concat_slash : (path ++ ['/']).splitOn '/' = path.splitOn '/' ++ [[]] :=
  List.splitOn_append_cons_self path []

/-- A relative text leads somewhere from every place. -/
theorem resolve_eq (start : isAbsolute path = false) :
    resolve cwd path = followAll cwd (path.splitOn '/') := by
  rw [resolve, start, if_neg Bool.false_ne_true]

@[simp] theorem isAbsolute_cons_slash : isAbsolute ('/' :: path) = true := rfl

theorem resolve_cons_slash : resolve cwd ('/' :: path) = followAll [] (path.splitOn '/') := by
  rw [resolve, isAbsolute_cons_slash, if_pos rfl, splitOn_cons_slash, followAll_cons, follow_nil]

/-- A slash at the end leads nowhere. -/
theorem resolve_concat_slash (some : path ≠ []) :
    resolve cwd (path ++ ['/']) = resolve cwd path := by
  have start : isAbsolute (path ++ ['/']) = isAbsolute path := by
    cases path with
    | nil => exact absurd rfl some
    | cons => rfl
  rw [resolve, start, splitOn_concat_slash, followAll_append, followAll_cons, follow_nil,
    followAll_nil, resolve]

theorem splitOn_normalString (some : segments ≠ [])
    (noSlash : ∀ segment ∈ segments, '/' ∉ segment) :
    (['/'].intercalate segments).splitOn '/' = segments :=
  List.splitOn_intercalate '/' noSlash some

theorem isAbsolute_normalString
    (kept : ∀ segment ∈ segments, segment ≠ [] ∧ '/' ∉ segment) :
    isAbsolute (['/'].intercalate segments) = false := by
  cases segments with
  | nil => rfl
  | cons first rest =>
      obtain ⟨notEmpty, noSlash⟩ := kept first List.mem_cons_self
      obtain ⟨char, letters, rfl⟩ := List.exists_cons_of_ne_nil notEmpty
      have other : char ≠ '/' := fun same => noSlash (same ▸ List.mem_cons_self)
      have head : (['/'].intercalate ((char :: letters) :: rest)).head? = some char := by
        cases rest <;> rfl
      rw [isAbsolute, head]
      exact beq_false_of_ne fun same => other (Option.some.inj same)

theorem normalString_ne_nil (some : segments ≠ [])
    (kept : ∀ segment ∈ segments, segment ≠ [] ∧ '/' ∉ segment) :
    ['/'].intercalate segments ≠ [] := by
  intro isEmpty
  have same := splitOn_normalString some fun segment member => (kept segment member).2
  rw [isEmpty, List.splitOn_nil] at same
  exact (kept [] (same ▸ List.mem_cons_self)).1 rfl

/-- The place that a normalized text leads to, with a slash at either end or none. -/
theorem resolve_normalText (absolute trailing : Bool) (some : segments ≠ [])
    (kept : ∀ segment ∈ segments, segment ≠ [] ∧ '/' ∉ segment) :
    resolve cwd ((if absolute then ['/'] else []) ++ ['/'].intercalate segments ++
        (if trailing then ['/'] else [])) =
      followAll (if absolute then [] else cwd) segments := by
  have isSplit := splitOn_normalString some fun segment member => (kept segment member).2
  have notEmpty := normalString_ne_nil some kept
  have withoutTrailing : ∀ text : Path, text ≠ [] →
      resolve cwd (text ++ if trailing then ['/'] else []) = resolve cwd text := by
    intro text some
    cases trailing with
    | false => rw [if_neg Bool.false_ne_true, List.append_nil]
    | true => exact resolve_concat_slash some
  cases absolute with
  | false =>
      rw [if_neg Bool.false_ne_true, List.nil_append, withoutTrailing _ notEmpty,
        resolve_eq (isAbsolute_normalString kept), isSplit, if_neg Bool.false_ne_true]
  | true =>
      rw [if_pos rfl, withoutTrailing _ (List.append_ne_nil_of_left_ne_nil
        (List.cons_ne_nil _ _) _), List.singleton_append, resolve_cons_slash, isSplit, if_pos rfl]

/-- Normalizing keeps the place a path leads to. -/
theorem resolve_normalize : resolve cwd (normalize path) = resolve cwd path := by
  have noSlash : ∀ segment ∈ path.splitOn '/', '/' ∉ segment :=
    fun segment => not_mem_of_mem_splitOn
  have kept : ∀ part ∈ normalParts (!isAbsolute path) (path.splitOn '/'),
      part ≠ [] ∧ '/' ∉ part := by
    intro part member
    rcases normalParts_kept noSlash part member with name | rfl
    · exact ⟨name.1, name.2.2.2⟩
    · decide
  have start : (!isAbsolute path) = true ∨ (if isAbsolute path then [] else cwd) = [] := by
    cases isAbsolute path with
    | false => exact .inl rfl
    | true => exact .inr rfl
  have same := followAll_normalParts start noSlash
  rw [normalize]
  split
  · next isEmpty => rw [isEmpty]; rfl
  · dsimp only
    split
    · next noParts =>
        have none : normalParts (!isAbsolute path) (path.splitOn '/') = [] := by
          by_contra some
          exact normalString_ne_nil some kept noParts
        rw [none, followAll_nil] at same
        rw [resolve.eq_def cwd path, ← same]
        cases isAbsolute path with
        | true => rfl
        | false =>
            rw [if_neg Bool.false_ne_true]
            split <;> rfl
    · next someParts =>
        have some : normalParts (!isAbsolute path) (path.splitOn '/') ≠ [] := by
          intro none
          exact someParts (by rw [normalizeString, none]; rfl)
        rw [resolve.eq_def cwd path, ← same]
        exact resolve_normalText _ _ some kept

/-- A path joined to a directory leads where its segments lead from there. -/
theorem resolve_join (some : directory ≠ []) :
    resolve cwd (join directory path) = followAll (resolve cwd directory) (path.splitOn '/') := by
  rw [join, if_neg some]
  split
  · next isEmpty =>
      rw [resolve_normalize, isEmpty, List.splitOn_nil, followAll_cons, follow_nil, followAll_nil]
  · have start : isAbsolute (directory ++ '/' :: path) = isAbsolute directory := by
      cases directory with
      | nil => exact absurd rfl some
      | cons => rfl
    rw [resolve_normalize, resolve, start, List.splitOn_append_cons_self, followAll_append, resolve]

/-- Joined to no directory, a path leads where it leads by itself. -/
theorem resolve_join_nil : resolve cwd (join [] path) = resolve cwd path := by
  rw [join, if_pos rfl, resolve_normalize]

/-- The place of a path is one of names, where the working directory is. -/
theorem resolve_names (properCwd : ∀ name ∈ cwd, IsName name) :
    ∀ name ∈ resolve cwd path, IsName name := by
  intro name member
  rw [resolve, followAll_eq_climb] at member
  rcases List.mem_append.mp member with isAbove | isBelow
  · have inStart := List.mem_of_mem_take isAbove
    split at inStart
    · cases inStart
    · exact properCwd name inStart
  · exact climb_names (fun segment => not_mem_of_mem_splitOn) name isBelow

/-- From above a place down to it only its own names lead. -/
theorem afterCommon_append (place below : Place) :
    afterCommon place (place ++ below) = ([], below) := by
  induction place with
  | nil => cases below <;> rfl
  | cons first rest ih =>
      rw [List.cons_append, afterCommon, if_pos rfl, ih]

theorem relative_below {below : Place}
    (isBelow : resolve cwd path = resolve cwd directory ++ below) :
    relative cwd directory path = ['/'].intercalate below := by
  rw [relative, isBelow, afterCommon_append]
  rfl

/-! ## Below a directory -/

/-- Segments stay below a place when they lead down through the names they led up. -/
theorem prefix_followAll_iff :
    place <+: followAll place segments ↔
      place.drop (place.length - (climb segments).1) <+: (climb segments).2 := by
  rw [followAll_eq_climb]
  generalize place.length - (climb segments).1 = kept
  have same := List.take_append_drop kept place
  have cut : place.take kept ++ place.drop kept <+: place.take kept ++ (climb segments).2 ↔ _ :=
    List.prefix_append_right_inj _
  rwa [same] at cut

/-! ## Characters of normalized texts -/

theorem mem_intercalate_iff {char : Char} (other : char ≠ '/') :
    char ∈ ['/'].intercalate segments ↔ ∃ segment ∈ segments, char ∈ segment := by
  induction segments with
  | nil => simp
  | cons first rest ih =>
      cases rest with
      | nil => simp
      | cons second rest =>
          rw [List.intercalate_cons_cons, List.append_assoc, List.mem_append, List.mem_append,
            ih, List.mem_singleton]
          simp [other]

/-- A character that is no part of dots and slashes stands in a name. -/
theorem mem_normalize_iff {char : Char} (notSlash : char ≠ '/') (notDot : char ≠ '.') :
    char ∈ normalize path ↔ ∃ name ∈ (climb (path.splitOn '/')).2, char ∈ name := by
  have noSlash : ∀ segment ∈ path.splitOn '/', '/' ∉ segment :=
    fun segment => not_mem_of_mem_splitOn
  have inParts : char ∈ normalizeString path (!isAbsolute path) ↔
      ∃ name ∈ (climb (path.splitOn '/')).2, char ∈ name := by
    rw [normalizeString, mem_intercalate_iff notSlash, normalParts_eq_climb _ noSlash]
    constructor
    · rintro ⟨part, member, inPart⟩
      rcases List.mem_append.mp member with isUp | isDown
      · rw [List.eq_of_mem_replicate isUp] at inPart
        simp [notDot] at inPart
      · exact ⟨part, isDown, inPart⟩
    · rintro ⟨name, isDown, inName⟩
      exact ⟨name, List.mem_append_right _ isDown, inName⟩
  rw [← inParts, normalize]
  split
  · next isEmpty =>
      subst isEmpty
      simp [normalizeString, normalParts, normalizeStep, notDot]
  · dsimp only
    split
    · next none =>
        rw [none]
        split
        · simp [notSlash]
        · split <;> simp [notSlash, notDot]
    · split <;> split <;> simp [notSlash]

theorem normalize_ne_nil : normalize path ≠ [] := by
  rw [normalize]
  split
  · exact List.cons_ne_nil _ _
  · dsimp only
    split
    · split
      · exact List.cons_ne_nil _ _
      · split <;> exact List.cons_ne_nil _ _
    · next some => simp [some]

theorem join_ne_nil : join directory path ≠ [] := by
  rw [join]
  split
  · exact normalize_ne_nil
  · split <;> exact normalize_ne_nil

/-! ## Paths that end in a name -/

variable {before : List Segment} {name : Segment}

theorem intercalate_append {more : List Segment} (some : segments ≠ []) (someMore : more ≠ []) :
    ['/'].intercalate (segments ++ more) =
      ['/'].intercalate segments ++ '/' :: ['/'].intercalate more := by
  induction segments with
  | nil => exact absurd rfl some
  | cons first rest ih =>
      cases rest with
      | nil =>
          rw [List.singleton_append, List.intercalate_cons_of_ne_nil someMore,
            List.intercalate_singleton, List.append_assoc, List.singleton_append]
      | cons second rest =>
          have someRest : second :: rest ++ more ≠ [] := List.cons_ne_nil _ _
          rw [List.cons_append, List.intercalate_cons_of_ne_nil someRest,
            ih (List.cons_ne_nil _ _),
            List.intercalate_cons_of_ne_nil (List.cons_ne_nil _ _)]
          simp only [List.append_assoc]

/-- A text whose last segment is a name is that name, or ends in a slash and the name. -/
theorem eq_of_splitOn (isSplit : path.splitOn '/' = before ++ [name]) :
    path = if before = [] then name else ['/'].intercalate before ++ '/' :: name := by
  have whole : path = ['/'].intercalate (before ++ [name]) := by
    rw [← isSplit, List.intercalate_splitOn]
  rw [whole]
  split
  · next none => rw [none, List.nil_append, List.intercalate_singleton]
  · next some => rw [intercalate_append some (List.cons_ne_nil _ _), List.intercalate_singleton]

theorem IsName.getLast?_ne_slash (isName : IsName name) : name.getLast? ≠ some '/' :=
  fun last => isName.2.2.2 (List.mem_of_getLast? last)

theorem getLast?_of_splitOn (isSplit : path.splitOn '/' = before ++ [name]) (isName : IsName name) :
    path.getLast? = name.getLast? := by
  rw [eq_of_splitOn isSplit]
  split
  · rfl
  · obtain ⟨letters, last, rfl⟩ := (List.eq_nil_or_concat' name).resolve_left isName.1
    simp [List.getLast?_append, List.getLast?_cons]

/-- A text that ends in a name still does when it is normalized. -/
theorem splitOn_normalize (isSplit : path.splitOn '/' = before ++ [name]) (isName : IsName name) :
    ∃ above, (normalize path).splitOn '/' = above ++ [name] := by
  have noSlash : ∀ segment ∈ path.splitOn '/', '/' ∉ segment :=
    fun segment => not_mem_of_mem_splitOn
  have ⟨notEmpty, notDot, notDotdot, _⟩ := isName
  have isNormal : normalParts (!isAbsolute path) (path.splitOn '/') =
      normalParts (!isAbsolute path) before ++ [name] := by
    rw [isSplit, normalParts_concat, normalizeStep, if_neg (not_or.mpr ⟨notEmpty, notDot⟩),
      if_neg notDotdot]
  have kept : ∀ part ∈ normalParts (!isAbsolute path) before ++ [name],
      part ≠ [] ∧ '/' ∉ part := by
    intro part member
    rcases normalParts_kept noSlash part (isNormal ▸ member) with isName | rfl
    · exact ⟨isName.1, isName.2.2.2⟩
    · decide
  have some : path ≠ [] := by
    rintro rfl
    have lasts := congrArg List.getLast? isSplit
    rw [List.splitOn_nil, List.getLast?_concat] at lasts
    exact notEmpty (Option.some.inj lasts).symm
  have noTrailing : (path.getLast? == Option.some '/') = false := by
    rw [getLast?_of_splitOn isSplit isName]
    exact beq_false_of_ne isName.getLast?_ne_slash
  have someParts : normalParts (!isAbsolute path) before ++ [name] ≠ [] := by simp
  have isText := splitOn_normalString someParts fun part member => (kept part member).2
  rw [normalize, if_neg some]
  dsimp only
  rw [normalizeString, isNormal, if_neg (normalString_ne_nil someParts kept), noTrailing,
    if_neg Bool.false_ne_true, List.append_nil]
  revert isText
  cases isAbsolute path with
  | false => exact fun isText => ⟨_, isText⟩
  | true =>
      intro isText
      refine ⟨[] :: normalParts (!true) before, ?_⟩
      rw [if_pos rfl, List.singleton_append, splitOn_cons_slash, isText, List.cons_append]

end CoreApi.Foundation.PosixPath
