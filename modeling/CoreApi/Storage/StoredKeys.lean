import CoreApi.Storage.StorageService

/-!
# Listing stored keys

The files below the base directory are the keys that are stored. `list` walks the directory
of a prefix and takes the names relative to the base directory, so the prefix is in them
already; then it puts the prefix before them once more.
-/

namespace CoreApi.Storage

open CoreApi.Foundation PosixPath Directory

/-- Names with slashes between them. -/
def IsKey (key : Path) : Prop := ∀ segment ∈ key.splitOn '/', IsName segment

instance : DecidablePred IsKey := fun _ => by unfold IsKey; infer_instance

/-- The key begins with the prefix and a slash. -/
def IsUnder (under key : Path) : Prop := under ++ ['/'] <+: key

instance (under : Path) : DecidablePred (IsUnder under) := fun _ => by
  unfold IsUnder
  infer_instance

/-! ## What is stored -/

/-- The files, and the keys that are stored by what the calls answered. -/
structure KeyStore where
  files : FileTree
  stored : List Path

def keysAfter : Operation → Response → List Path → List Path
  | .put key _, .stored (some _), stored => stored.insert key
  | .delete key, .deleted true, stored => stored.filter (· ≠ key)
  | _, _, stored => stored

namespace KeyStore

variable (process : Process) (provider : LocalProvider)

def step (store : KeyStore) (operation : Operation) : KeyStore :=
  let (files, response) := operation.run process provider store.files
  { files, stored := keysAfter operation response store.stored }

def run (store : KeyStore) (operations : List Operation) : KeyStore :=
  operations.foldl (step process provider) store

/-- `list` gives the keys that are stored under a prefix, each once, and `head` finds them. -/
structure ListsStored (store : KeyStore) (under : Path) : Prop where
  keys : (provider.list process store.files under).Perm
    (store.stored.filter fun key => decide (IsUnder under key))
  found : ∀ key ∈ provider.list process store.files under,
    (provider.head process store.files key).isThere = true

/-- The stored keys are the files below the base directory. -/
structure Keeps (store : KeyStore) : Prop where
  proper : store.files.Proper IsName
  areKeys : ∀ key ∈ store.stored, IsKey key
  distinct : store.stored.Nodup
  accepted : ∀ key ∈ store.stored, Process.refuses (provider.fullPath key) = false
  files : ∀ below ≠ [],
    (∃ file, store.files.fileAt? (resolve process.cwd provider.baseDir ++ below) = some file) ↔
      ∃ key ∈ store.stored, key.splitOn '/' = below

end KeyStore

/-! ## Keys -/

variable {process : Process} {provider : LocalProvider} {key under : Path}

theorem splitOn_injective {other : Path} (same : key.splitOn '/' = other.splitOn '/') :
    key = other := by
  calc key = ['/'].intercalate (key.splitOn '/') := (List.intercalate_splitOn '/').symm
    _ = other := by rw [same, List.intercalate_splitOn]

theorem IsKey.isAbsolute (isKey : IsKey key) : isAbsolute key = false := by
  cases key with
  | nil => rfl
  | cons char rest =>
      refine beq_false_of_ne fun slash => ?_
      cases slash
      have isEmpty := isKey [] (by rw [splitOn_cons_slash]; exact List.mem_cons_self)
      exact isEmpty.1 rfl

/-- The place of a key is below the base directory, under the names of the key. -/
theorem IsKey.resolve_fullPath (isKey : IsKey key) :
    resolve process.cwd (provider.fullPath key) =
      resolve process.cwd provider.baseDir ++ key.splitOn '/' := by
  rw [CoreApi.Storage.resolve_fullPath,
    if_neg fun both => Bool.noConfusion (isKey.isAbsolute.symm.trans both.2), followAll_names isKey]

/-! ## What calls keep -/

namespace KeyStore

variable {store : KeyStore}

theorem Keeps.change (keeps : store.Keeps process provider) (isKey : IsKey key)
    {files : FileTree} {stored : List Path} (isThere : Bool) (proper : files.Proper IsName)
    (distinct : stored.Nodup)
    (accepted : isThere = true → Process.refuses (provider.fullPath key) = false)
    (atPlace : ∀ asked, (∃ file, files.fileAt? asked = some file) ↔
      if asked = resolve process.cwd (provider.fullPath key) then isThere = true
      else ∃ file, store.files.fileAt? asked = some file)
    (members : ∀ other, other ∈ stored ↔
      if other = key then isThere = true else other ∈ store.stored) :
    (KeyStore.mk files stored).Keeps process provider where
  proper := proper
  areKeys other member := by
    by_cases same : other = key
    · rwa [same]
    · exact keeps.areKeys other (by simpa [same] using (members other).mp member)
  distinct := distinct
  accepted other member := by
    have kept := (members other).mp member
    by_cases same : other = key
    · rw [if_pos same] at kept
      rw [same]
      exact accepted kept
    · rw [if_neg same] at kept
      exact keeps.accepted other kept
  files below some := by
    rw [atPlace, isKey.resolve_fullPath]
    by_cases isPlace : below = key.splitOn '/'
    · rw [if_pos (by rw [isPlace])]
      constructor
      · intro isThere
        exact ⟨key, (members key).mpr (by rwa [if_pos rfl]), isPlace.symm⟩
      · rintro ⟨other, member, isBelow⟩
        have same := splitOn_injective (isBelow.trans isPlace)
        rw [members, if_pos same] at member
        exact member
    · rw [if_neg fun same => isPlace (List.append_cancel_left same), keeps.files below some]
      have others : ∀ other, other.splitOn '/' = below →
          (other ∈ stored ↔ other ∈ store.stored) := by
        intro other isBelow
        rw [members, if_neg]
        rintro rfl
        exact isPlace isBelow.symm
      constructor
      · rintro ⟨other, member, isBelow⟩
        exact ⟨other, (others other isBelow).mpr member, isBelow⟩
      · rintro ⟨other, member, isBelow⟩
        exact ⟨other, (others other isBelow).mp member, isBelow⟩

/-- New directories are no new files. -/
theorem Keeps.sameFiles (keeps : store.Keeps process provider) {files : FileTree}
    (proper : files.Proper IsName) (same : ∀ asked, files.fileAt? asked = store.files.fileAt? asked) :
    (KeyStore.mk files store.stored).Keeps process provider :=
  { keeps with
    proper
    files := fun below some => by
      rw [same]
      exact keeps.files below some }

theorem Keeps.put (keeps : store.Keeps process provider) (isKey : IsKey key) (file : StoredFile) :
    (store.step process provider (.put key file)).Keeps process provider := by
  simp only [step, Operation.run, LocalProvider.put]
  rcases isMade : process.mkdir store.files (dirname (provider.fullPath key)) with _ | made
  · exact keeps
  have properMade : made.Proper IsName := by
    rw [Process.mkdir] at isMade
    split at isMade
    · cases isMade
    · exact keeps.proper.mkdir (resolve_names process.properCwd) isMade
  have sameMade : ∀ asked, made.fileAt? asked = store.files.fileAt? asked := by
    intro asked
    rw [Process.mkdir] at isMade
    split at isMade
    · cases isMade
    · exact fileAt?_mkdir isMade
  dsimp only
  rcases isWritten : process.writeFile made (provider.fullPath key) file with _ | written
  · exact keeps.sameFiles properMade sameMade
  rw [Process.writeFile] at isWritten
  split at isWritten
  · cases isWritten
  next accepted =>
  rw [Bool.or_eq_true, not_or, Bool.not_eq_true] at accepted
  refine keeps.change isKey true (properMade.writeFile (resolve_names process.properCwd) isWritten)
    (keeps.distinct.insert) (fun _ => accepted.1) (fun asked => ?_) (fun other => ?_)
  · rw [fileAt?_writeFile isWritten, sameMade]
    split <;> simp
  · simp only [keysAfter, List.mem_insert_iff]
    split <;> simp [*]

theorem Keeps.delete (keeps : store.Keeps process provider) (isKey : IsKey key) :
    (store.step process provider (.delete key)).Keeps process provider := by
  simp only [step, Operation.run, LocalProvider.delete]
  rcases isRemoved : process.rm store.files (provider.fullPath key) with _ | removed
  · exact keeps
  rw [Process.rm] at isRemoved
  split at isRemoved
  · cases isRemoved
  refine keeps.change isKey false (keeps.proper.rm (resolve_names process.properCwd) isRemoved)
    (keeps.distinct.filter _) (fun impossible => by cases impossible) (fun asked => ?_)
    (fun other => ?_)
  · rw [fileAt?_rm keeps.proper isRemoved]
    split <;> simp
  · simp only [keysAfter, List.mem_filter]
    split <;> simp [*]

theorem Keeps.step (keeps : store.Keeps process provider) {operation : Operation}
    (isKey : IsKey operation.key) : (store.step process provider operation).Keeps process provider := by
  cases operation with
  | put key file => exact keeps.put isKey file
  | delete key => exact keeps.delete isKey
  | head key => exact keeps
  | list under => exact keeps

/-- The files below the base directory stay the stored keys, through any calls with keys. -/
theorem Keeps.run (keeps : store.Keeps process provider) {operations : List Operation}
    (areKeys : ∀ operation ∈ operations, IsKey operation.key) :
    (store.run process provider operations).Keeps process provider := by
  induction operations generalizing store with
  | nil => exact keeps
  | cons first rest ih =>
      exact ih (keeps.step (areKeys first List.mem_cons_self))
        fun operation member => areKeys operation (List.mem_cons_of_mem _ member)

/-- Nothing is stored where there is no file below the base directory. -/
theorem keeps_of_clear {files : FileTree} (proper : files.Proper IsName)
    (clear : ∀ below ≠ [], files.fileAt? (resolve process.cwd provider.baseDir ++ below) = none) :
    (KeyStore.mk files []).Keeps process provider where
  proper := proper
  areKeys _ member := absurd member List.not_mem_nil
  distinct := List.nodup_nil
  accepted _ member := absurd member List.not_mem_nil
  files below some := by simp [clear below some]

end KeyStore

/-! ## Walks -/

theorem fullPath_ne_nil : provider.fullPath key ≠ [] := join_ne_nil

theorem walk_eq {directory : Path} {files : FileTree} {above : Place} (some : directory ≠ [])
    (isPlace : resolve process.cwd directory = resolve process.cwd provider.baseDir ++ above)
    (proper : files.Proper IsName) :
    LocalProvider.walk process provider.baseDir directory files =
      files.paths.map fun below => withSlashes (['/'].intercalate (above ++ below)) := by
  have below : ∀ {directory : Path} {above : Place} {name : Segment}, directory ≠ [] →
      resolve process.cwd directory = resolve process.cwd provider.baseDir ++ above →
      IsName name → resolve process.cwd (join directory name) =
        resolve process.cwd provider.baseDir ++ (above ++ [name]) := by
    intro directory above name some isPlace isName
    rw [resolve_join some, isPlace, List.splitOn_eq_singleton isName.2.2.2, followAll_cons,
      follow_name isName, followAll_nil, List.append_assoc]
  induction files generalizing directory above with
  | empty => rfl
  | file name content rest ih =>
      obtain ⟨⟨isName, _⟩, properRest⟩ := proper
      rw [LocalProvider.walk, relative_below (below some isPlace isName),
        ih some isPlace properRest]
      rfl
  | sub name inside rest insideHypothesis ih =>
      obtain ⟨⟨isName, _⟩, properInside, properRest⟩ := proper
      rw [LocalProvider.walk, insideHypothesis join_ne_nil (below some isPlace isName) properInside,
        ih some isPlace properRest, paths, List.map_append, List.map_map]
      simp [Function.comp_def]

theorem isUnder_iff :
    IsUnder under key ↔ ∃ below ≠ [], key.splitOn '/' = under.splitOn '/' ++ below := by
  constructor
  · rintro ⟨rest, rfl⟩
    refine ⟨rest.splitOn '/', List.splitOn_ne_nil _ _, ?_⟩
    rw [List.append_assoc, List.singleton_append, List.splitOn_append_cons_self]
  · rintro ⟨below, some, isSplit⟩
    have whole : key = ['/'].intercalate (under.splitOn '/' ++ below) := by
      rw [← isSplit, List.intercalate_splitOn]
    refine ⟨['/'].intercalate below, ?_⟩
    rw [whole, intercalate_append (List.splitOn_ne_nil _ _) some, List.intercalate_splitOn,
      List.append_assoc, List.singleton_append]

/-- The prefix is put before a key that has it already. -/
def listed (under key : Path) : Path := squeeze (under ++ '/' :: withSlashes key)

namespace KeyStore

variable {store : KeyStore}

/-- The keys that are stored under a prefix. -/
def keysUnder (store : KeyStore) (under : Path) : List Path :=
  store.stored.filter fun key => decide (IsUnder under key)

theorem mem_keysUnder : key ∈ store.keysUnder under ↔ key ∈ store.stored ∧ IsUnder under key := by
  rw [keysUnder, List.mem_filter, decide_eq_true_iff]

theorem Keeps.perm_keysUnder (keeps : store.Keeps process provider) {places : List Place}
    (distinct : places.Nodup)
    (members : ∀ below, below ∈ places ↔ below ≠ [] ∧
      ∃ key ∈ store.stored, key.splitOn '/' = under.splitOn '/' ++ below) :
    (places.map fun below => ['/'].intercalate (under.splitOn '/' ++ below)).Perm
      (store.keysUnder under) := by
  have isSplit : ∀ below ∈ places,
      (['/'].intercalate (under.splitOn '/' ++ below)).splitOn '/' = under.splitOn '/' ++ below := by
    intro below member
    obtain ⟨_, key, _, isKey⟩ := (members below).mp member
    rw [← isKey, List.intercalate_splitOn]
  refine (List.perm_ext_iff_of_nodup (distinct.map_on ?_) (keeps.distinct.filter _)).mpr ?_
  · intro below member other memberOther same
    have sameSplit := congrArg (List.splitOn '/') same
    rw [isSplit below member, isSplit other memberOther] at sameSplit
    exact List.append_cancel_left sameSplit
  · intro key
    rw [List.mem_map]
    refine Iff.trans ?_ mem_keysUnder.symm
    constructor
    · rintro ⟨below, member, rfl⟩
      obtain ⟨some, key, stored, isKey⟩ := (members below).mp member
      have same := splitOn_injective ((isSplit below member).trans isKey.symm)
      rw [same]
      exact ⟨stored, isUnder_iff.mpr ⟨below, some, isKey⟩⟩
    · rintro ⟨stored, isUnder⟩
      obtain ⟨below, some, isKey⟩ := isUnder_iff.mp isUnder
      exact ⟨below, (members below).mpr ⟨some, key, stored, isKey⟩, by
        rw [← isKey, List.intercalate_splitOn]⟩

/-- A prefix that is refused has no keys. -/
theorem Keeps.keysUnder_of_refused (keeps : store.Keeps process provider)
    (refused : Process.refuses (provider.fullPath under) = true) (isKey : IsKey under) :
    store.keysUnder under = [] := by
  have names : ∀ {segments : List Segment} (before : List Segment),
      (∀ segment ∈ segments, IsName segment) →
        (climb (before ++ segments)).2 = (climb before).2 ++ segments := by
    intro segments before names
    induction segments using List.reverseRecOn with
    | nil => rw [List.append_nil, List.append_nil]
    | append_singleton earlier last ih =>
        obtain ⟨notEmpty, notDot, notDotdot, _⟩ :=
          names last (List.mem_append_right _ List.mem_cons_self)
        rw [← List.append_assoc, climb_concat, climbStep, if_neg (not_or.mpr ⟨notEmpty, notDot⟩),
          if_neg notDotdot, ih fun segment member =>
            names segment (List.mem_append_left _ member), List.append_assoc]
  rw [List.eq_nil_iff_forall_not_mem]
  intro key member
  obtain ⟨stored, isUnder⟩ := mem_keysUnder.mp member
  obtain ⟨below, _, isSplit⟩ := isUnder_iff.mp isUnder
  have accepted := keeps.accepted key stored
  refine Bool.noConfusion (accepted.symm.trans (refuses_fullPath.mpr ?_))
  obtain ⟨name, isName, hasNul⟩ := refuses_fullPath.mp refused
  rw [names _ isKey] at isName
  rw [names _ (keeps.areKeys key stored), isSplit]
  refine ⟨name, ?_, hasNul⟩
  rcases List.mem_append.mp isName with inBase | inPrefix
  · exact List.mem_append_left _ inBase
  · exact List.mem_append_right _ (List.mem_append_left _ inPrefix)

/-- A prefix that is no directory has no keys. -/
theorem Keeps.keysUnder_of_noDirectory (keeps : store.Keeps process provider)
    (noDirectory : ∀ inside, store.files.at?
      (resolve process.cwd provider.baseDir ++ under.splitOn '/') ≠ some (.directory inside)) :
    store.keysUnder under = [] := by
  rw [List.eq_nil_iff_forall_not_mem]
  intro key member
  obtain ⟨stored, isUnder⟩ := mem_keysUnder.mp member
  obtain ⟨below, some, isSplit⟩ := isUnder_iff.mp isUnder
  have notEmpty : under.splitOn '/' ++ below ≠ [] := List.append_ne_nil_of_right_ne_nil _ some
  obtain ⟨file, isFile⟩ := (keeps.files _ notEmpty).mpr ⟨key, stored, isSplit⟩
  rw [← List.append_assoc, fileAt?_append_eq_none noDirectory some] at isFile
  cases isFile

/-- What is listed under a prefix are the stored keys, with the prefix before them. -/
theorem Keeps.list_perm (keeps : store.Keeps process provider) (isKey : IsKey under) :
    (provider.list process store.files under).Perm ((store.keysUnder under).map (listed under)) := by
  simp only [LocalProvider.list, Process.readdir]
  rcases refused : Process.refuses (provider.fullPath under) with _ | _
  · rw [if_neg Bool.false_ne_true, isKey.resolve_fullPath]
    rcases isAt : store.files.at?
        (resolve process.cwd provider.baseDir ++ under.splitOn '/') with _ | file | inside
    · rw [keeps.keysUnder_of_noDirectory fun inside same => by rw [isAt] at same; cases same]
      exact List.Perm.refl _
    · rw [keeps.keysUnder_of_noDirectory fun inside same => by rw [isAt] at same; cases same]
      exact List.Perm.refl _
    · have proper := keeps.proper.at? isAt
      have files : ∀ below, (∃ file, inside.fileAt? below = some file) ↔
          ∃ key ∈ store.stored, key.splitOn '/' = under.splitOn '/' ++ below := by
        intro below
        rw [← fileAt?_append isAt, List.append_assoc]
        exact keeps.files _ (List.append_ne_nil_of_left_ne_nil (List.splitOn_ne_nil _ _) _)
      have places := keeps.perm_keysUnder (nodup_paths proper) fun below => by
        rw [mem_paths proper, ← files, and_iff_right_of_imp]
        rintro ⟨file, isFile⟩ rfl
        cases isFile
      have isPlace := @IsKey.resolve_fullPath process provider _ isKey
      have isWalked := walk_eq fullPath_ne_nil isPlace proper
      dsimp only
      rw [Option.map_some, Option.getD_some, isWalked, List.map_map]
      refine List.Perm.trans (List.Perm.of_eq ?_) (places.map (listed under))
      rw [List.map_map]
      rfl
  · rw [keeps.keysUnder_of_refused refused isKey]
    exact List.Perm.refl _

end KeyStore

/-! ## Texts that are listed -/

/-- What `list` takes for a separator. -/
def isSeparator (char : Char) : Bool := char == '/' || char == '\\'

/-- How many stretches without a separator a text has, each counted at its end. -/
def stretches : Path → Nat
  | [] => 0
  | char :: rest =>
      (if isSeparator char = false ∧ rest.head?.all isSeparator = true then 1 else 0) +
        stretches rest

@[simp] theorem stretches_cons_slash (rest : Path) : stretches ('/' :: rest) = stretches rest := by
  rw [stretches, if_neg fun both => Bool.noConfusion both.1, Nat.zero_add]

theorem stretches_append_slash (path rest : Path) :
    stretches (path ++ '/' :: rest) = stretches path + stretches rest := by
  induction path with
  | nil => rw [List.nil_append, stretches_cons_slash, stretches, Nat.zero_add]
  | cons char path ih =>
      have sameHead : (path ++ '/' :: rest).head?.all isSeparator = path.head?.all isSeparator := by
        cases path <;> rfl
      rw [List.cons_append, stretches, stretches, sameHead, ih, Nat.add_assoc]

theorem head?_squeeze (path : Path) : (squeeze path).head? = path.head? := by
  induction path with
  | nil => rfl
  | cons char rest ih =>
      rw [squeeze]
      split
      · next slashes => rw [ih, slashes.1, slashes.2]; rfl
      · rfl

theorem stretches_squeeze (path : Path) : stretches (squeeze path) = stretches path := by
  induction path with
  | nil => rfl
  | cons char rest ih =>
      rw [squeeze]
      split
      · next slashes => rw [ih, slashes.1, stretches_cons_slash]
      · rw [stretches, stretches, head?_squeeze, ih]

theorem stretches_withSlashes (path : Path) : stretches (withSlashes path) = stretches path := by
  have same : ∀ char : Char, isSeparator (if char = '\\' then '/' else char) = isSeparator char := by
    intro char
    split
    · next backslash => rw [backslash]; rfl
    · rfl
  induction path with
  | nil => rfl
  | cons char rest ih =>
      have sameHead : (withSlashes rest).head?.all isSeparator = rest.head?.all isSeparator := by
        cases rest with
        | nil => rfl
        | cons => exact same _
      rw [stretches, ← ih, ← sameHead, ← same char]
      rfl

theorem stretches_eq_zero {path : Path} (none : stretches path = 0) :
    path.all isSeparator = true := by
  induction path with
  | nil => rfl
  | cons char rest ih =>
      rw [stretches, Nat.add_eq_zero_iff] at none
      have restAll := ih none.2
      have headAll : rest.head?.all isSeparator = true := by
        cases rest with
        | nil => rfl
        | cons => exact (Bool.and_eq_true_iff.mp restAll).1
      rw [List.all_cons, restAll, Bool.and_true]
      by_contra isLetter
      rw [Bool.not_eq_true] at isLetter
      simp [isLetter, headAll] at none

/-- Listed keys have the stretches of the prefix once more. -/
theorem stretches_listed : stretches (listed under key) = stretches under + stretches key := by
  rw [listed, stretches_squeeze, stretches_append_slash, stretches_withSlashes]

theorem count_squeeze (path : Path) : (squeeze path).count '\\' = path.count '\\' := by
  induction path with
  | nil => rfl
  | cons char rest ih =>
      rw [squeeze]
      split
      · next slashes => simp [slashes.1, ih]
      · simp [List.count_cons, ih]

/-- Listed keys have no backslash but those of the prefix. -/
theorem count_listed : (listed under key).count '\\' = under.count '\\' := by
  have none : (withSlashes key).count '\\' = 0 := by
    rw [List.count_eq_zero]
    intro member
    obtain ⟨char, _, isBackslash⟩ := List.mem_map.mp member
    split at isBackslash
    · cases isBackslash
    · next other => exact other isBackslash
  rw [listed, count_squeeze, List.count_append, List.count_cons, none]
  rfl

theorem squeeze_eq_self {path : Path} (some : ∀ segment ∈ (path.splitOn '/').tail, segment ≠ []) :
    squeeze path = path := by
  induction path with
  | nil => rfl
  | cons char rest ih =>
      rw [squeeze]
      by_cases slash : char = '/'
      · subst slash
        rw [splitOn_cons_slash, List.tail_cons] at some
        have noSlash : rest.head? ≠ Option.some '/' := by
          intro again
          obtain ⟨others, rfl⟩ : ∃ others, rest = '/' :: others := by
            cases rest with
            | nil => cases again
            | cons other others => exact ⟨others, by rw [Option.some.inj again]⟩
          exact some [] (by rw [splitOn_cons_slash]; exact List.mem_cons_self) rfl
        rw [if_neg fun both => noSlash both.2,
          ih fun segment member => some segment (List.mem_of_mem_tail member)]
      · rw [if_neg fun both => slash both.1, ih]
        intro segment member
        refine some segment ?_
        rw [List.splitOn_cons_eq_if_modifyHead, beq_false_of_ne slash]
        rwa [if_neg Bool.false_ne_true, List.tail_modifyHead]

theorem squeeze_append_congr {rest other : Path} (heads : rest.head? = other.head?)
    (same : squeeze rest = squeeze other) (path : Path) :
    squeeze (path ++ rest) = squeeze (path ++ other) := by
  induction path with
  | nil => exact same
  | cons char path ih =>
      have sameHead : (path ++ rest).head? = (path ++ other).head? := by
        cases path with
        | nil => exact heads
        | cons => rfl
      rw [List.cons_append, List.cons_append, squeeze, squeeze, sameHead, ih]

theorem squeeze_slashes (count : Nat) (rest : Path) :
    squeeze (List.replicate count '/' ++ '/' :: rest) = squeeze ('/' :: rest) := by
  induction count with
  | zero => rfl
  | succ count ih =>
      have slash : (List.replicate count '/' ++ '/' :: rest).head? = some '/' := by
        cases count <;> rfl
      rw [List.replicate_succ, List.cons_append, squeeze, if_pos ⟨rfl, slash⟩, ih]

theorem listed_eq_self {rest : Path} (isKey : IsKey (under ++ '/' :: rest))
    (separators : under.all isSeparator = true) (noBackslash : '\\' ∉ rest) :
    listed under (under ++ '/' :: rest) = under ++ '/' :: rest := by
  have slashes : withSlashes under = List.replicate under.length '/' := by
    refine List.eq_replicate_iff.mpr ⟨List.length_map _, fun char member => ?_⟩
    obtain ⟨other, isOther, rfl⟩ := List.mem_map.mp member
    have separator := List.all_eq_true.mp separators other isOther
    split
    · rfl
    · next notBackslash => simpa [isSeparator, notBackslash] using separator
  have same : withSlashes rest = rest := by
    refine (List.map_congr_left fun char member => ?_).trans (List.map_id rest)
    refine if_neg fun backslash => noBackslash ?_
    rwa [← backslash]
  have isText : withSlashes (under ++ '/' :: rest) =
      List.replicate under.length '/' ++ '/' :: rest := by
    rw [← slashes]
    conv_rhs => rw [← same]
    exact List.map_append
  have joined : '/' :: (List.replicate under.length '/' ++ '/' :: rest) =
      List.replicate (under.length + 1) '/' ++ '/' :: rest := rfl
  have heads : (List.replicate (under.length + 1) '/' ++ '/' :: rest).head? =
      ('/' :: rest).head? := rfl
  rw [listed, isText, joined]
  calc squeeze (under ++ (List.replicate (under.length + 1) '/' ++ '/' :: rest))
      = squeeze (under ++ '/' :: rest) := squeeze_append_congr heads (squeeze_slashes _ rest) under
    _ = under ++ '/' :: rest :=
        squeeze_eq_self fun segment member => (isKey segment (List.mem_of_mem_tail member)).1

/-! ## Lists that agree -/

namespace KeyStore

variable {store : KeyStore}

/-- A stored key is found. -/
theorem Keeps.head_isThere (keeps : store.Keeps process provider) (stored : key ∈ store.stored) :
    (provider.head process store.files key).isThere = true := by
  have isKey := keeps.areKeys key stored
  obtain ⟨file, isFile⟩ :=
    (keeps.files _ (List.splitOn_ne_nil '/' key)).mpr ⟨key, stored, rfl⟩
  obtain ⟨before, name, isSplit⟩ :=
    (List.eq_nil_or_concat' (key.splitOn '/')).resolve_left (List.splitOn_ne_nil '/' key)
  have isName : IsName name := isKey name (isSplit ▸ List.mem_append_right _ List.mem_cons_self)
  obtain ⟨above, isPath⟩ := @splitOn_fullPath provider key before name isSplit isName
  have noSlash : Process.endsInSlash (provider.fullPath key) = false := by
    rw [Process.endsInSlash, getLast?_of_splitOn isPath isName]
    exact beq_false_of_ne isName.getLast?_ne_slash
  have isStat : process.stat store.files (provider.fullPath key) =
      some (file.body.length, file.modified) := by
    rw [Process.stat, keeps.accepted key stored, isKey.resolve_fullPath,
      fileAt?_eq_some.mp isFile, noSlash]
    rfl
  rw [LocalProvider.head, isStat]

/-- Where keys are listed with the prefix before them once more, and are still the same, the
prefix has nothing but separators. -/
theorem separators_of_perm {keys : List Path} (some : keys ≠ [])
    (same : (keys.map (listed under)).Perm keys) : under.all isSeparator = true := by
  refine stretches_eq_zero ?_
  have sums := (same.map stretches).sum_nat
  have added : ((keys.map (listed under)).map stretches).sum =
      keys.length * stretches under + (keys.map stretches).sum := by
    rw [List.map_map]
    clear same sums some
    induction keys with
    | nil => simp
    | cons first rest ih =>
        rw [List.map_cons, List.sum_cons, ih, Function.comp_apply,
          stretches_listed, List.map_cons, List.sum_cons, List.length_cons, Nat.succ_mul]
        omega
  rw [added] at sums
  have none : keys.length * stretches under = 0 := by omega
  exact (Nat.mul_eq_zero.mp none).resolve_left fun isEmpty => some (List.length_eq_zero_iff.mp isEmpty)

/-- The list of a prefix is right exactly where nothing is stored under the prefix, or the prefix
has nothing but separators and the rests of the keys have no backslash. -/
theorem Keeps.listsStored_iff (keeps : store.Keeps process provider) (isKey : IsKey under) :
    store.ListsStored process provider under ↔
      (∀ key ∈ store.stored, ¬IsUnder under key) ∨
        under.all isSeparator = true ∧
          ∀ rest, under ++ '/' :: rest ∈ store.stored → '\\' ∉ rest := by
  have isListed := keeps.list_perm isKey
  constructor
  · intro lists
    by_cases none : store.keysUnder under = []
    · refine .inl fun key stored isUnder => ?_
      have member := mem_keysUnder.mpr ⟨stored, isUnder⟩
      rw [none] at member
      cases member
    · have same := isListed.symm.trans lists.keys
      refine .inr ⟨separators_of_perm none same, fun rest stored backslash => ?_⟩
      have isUnder : IsUnder under (under ++ '/' :: rest) := ⟨rest, by simp⟩
      have member := same.mem_iff.mpr (mem_keysUnder.mpr ⟨stored, isUnder⟩)
      obtain ⟨key, _, isKeyOf⟩ := List.mem_map.mp member
      have counts := congrArg (List.count '\\') isKeyOf
      rw [count_listed, List.count_append, List.count_cons] at counts
      have positive := List.count_pos_iff.mpr backslash
      omega
  · intro either
    have same : (store.keysUnder under).map (listed under) = store.keysUnder under := by
      refine (List.map_congr_left fun key member => ?_).trans (List.map_id _)
      obtain ⟨stored, isUnder⟩ := mem_keysUnder.mp member
      rcases either with none | ⟨separators, noBackslash⟩
      · exact absurd isUnder (none key stored)
      · obtain ⟨rest, rfl⟩ := isUnder
        rw [List.append_assoc, List.singleton_append] at stored ⊢
        exact listed_eq_self (keeps.areKeys _ stored) separators (noBackslash rest stored)
    rw [same] at isListed
    exact ⟨isListed, fun key member =>
      keeps.head_isThere (mem_keysUnder.mp (isListed.mem_iff.mp member)).1⟩

/-- After any calls with keys, from a base directory without files: the list of a prefix is right
exactly where nothing is stored under the prefix, or the prefix has nothing but separators and the
rests of the keys have no backslash. -/
theorem run_listsStored_iff {files : FileTree} (proper : files.Proper IsName)
    (clear : ∀ below ≠ [], files.fileAt? (resolve process.cwd provider.baseDir ++ below) = none)
    {operations : List Operation} (areKeys : ∀ operation ∈ operations, IsKey operation.key)
    (isKey : IsKey under) :
    ((KeyStore.mk files []).run process provider operations).ListsStored process provider under ↔
      (∀ key ∈ ((KeyStore.mk files []).run process provider operations).stored,
        ¬IsUnder under key) ∨
      under.all isSeparator = true ∧
        ∀ rest,
          under ++ '/' :: rest ∈ ((KeyStore.mk files []).run process provider operations).stored →
            '\\' ∉ rest :=
  ((keeps_of_clear proper clear).run areKeys).listsStored_iff isKey

/-- What was stored and deleted is not listed. -/
theorem deleted_notListed :
    ((KeyStore.mk .empty []).run server serverStorage
      [.put "docs/a.txt".toList ⟨[], 0⟩, .delete "docs/a.txt".toList]).ListsStored server
        serverStorage "docs".toList := by
  have proper : (Directory.empty : FileTree).Proper IsName := trivial
  exact (run_listsStored_iff proper (fun _ _ => fileAt?_empty) (by decide) (by decide)).mpr
    (.inl (by decide))

/-- The one key under `docs` is listed with `docs` twice. -/
theorem listed_twice :
    ¬((KeyStore.mk .empty []).run server serverStorage
      [.put "docs/a.txt".toList ⟨[], 0⟩]).ListsStored server serverStorage "docs".toList := by
  intro lists
  have isListed : serverStorage.list server ((KeyStore.mk .empty []).run server serverStorage
      [.put "docs/a.txt".toList ⟨[], 0⟩]).files "docs".toList = ["docs/docs/a.txt".toList] := by
    decide
  have isStored : ((KeyStore.mk .empty []).run server serverStorage
      [.put "docs/a.txt".toList ⟨[], 0⟩]).stored = ["docs/a.txt".toList] := by
    decide
  have keys := lists.keys
  rw [isListed, isStored] at keys
  exact absurd (keys.mem_iff.mp List.mem_cons_self) (by decide)

end KeyStore

end CoreApi.Storage
