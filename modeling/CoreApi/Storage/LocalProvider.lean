import CoreApi.Foundation.DirectoryTree
import CoreApi.Foundation.PosixPath

/-!
# The local storage provider

`LocalProvider` keeps what is stored under a key in a file whose path is the key joined to
the base directory. Its file functions take the text of a path, find its place from the
working directory, and refuse a text with a NUL; of links between files it makes none.
-/

namespace CoreApi.Storage

open CoreApi.Foundation PosixPath

structure StoredFile where
  body : List UInt8
  modified : Nat
  deriving DecidableEq, Repr

abbrev FileTree := Directory Segment StoredFile

/-- The process that the provider runs in: its working directory, and what it asks of the system. -/
structure Process where
  cwd : Place
  properCwd : ∀ name ∈ cwd, IsName name
  /-- `createHash('md5')` of a text, as hex digits. -/
  md5 : Path → String
  /-- The size and the time of the last change that `stat` gives for a directory. -/
  directoryStat : FileTree → Nat × Nat

/-! ## File functions -/

namespace Process

variable (process : Process)

/-- A text that the file functions take for no path. -/
def refuses (path : Path) : Bool := path.contains '\x00'

def endsInSlash (path : Path) : Bool := path.getLast? == some '/'

/-- `fs.mkdir(path, { recursive: true })`. -/
def mkdir (files : FileTree) (path : Path) : Option FileTree :=
  if refuses path then none else files.mkdir (resolve process.cwd path)

/-- `fs.writeFile`. -/
def writeFile (files : FileTree) (path : Path) (file : StoredFile) : Option FileTree :=
  if refuses path || endsInSlash path then none
  else files.writeFile file (resolve process.cwd path)

/-- `fs.rm(path, { force: true })`. -/
def rm (files : FileTree) (path : Path) : Option FileTree :=
  if refuses path || (endsInSlash path && (files.fileAt? (resolve process.cwd path)).isSome) then
    none
  else files.rm (resolve process.cwd path)

/-- `fs.stat`: the size and the time of the last change. -/
def stat (files : FileTree) (path : Path) : Option (Nat × Nat) :=
  if refuses path then none
  else
    match files.at? (resolve process.cwd path) with
    | none => none
    | some (.file file) =>
        if endsInSlash path then none else some (file.body.length, file.modified)
    | some (.directory inside) => some (process.directoryStat inside)

/-- `fs.readdir`. -/
def readdir (files : FileTree) (path : Path) : Option FileTree :=
  if refuses path then none
  else
    match files.at? (resolve process.cwd path) with
    | some (.directory inside) => some inside
    | _ => none

end Process

/-! ## The provider -/

structure HeadOutput where
  contentLength : Option Nat
  contentType : Option String
  etag : Option String
  lastModified : Option Nat
  metadata : List (String × String)
  isThere : Bool
  deriving DecidableEq, Repr

structure LocalProvider where
  baseDir : Path

/-- `.replace(/\/+/g, '/')`. -/
def squeeze : Path → Path
  | [] => []
  | char :: rest =>
      if char = '/' ∧ rest.head? = some '/' then squeeze rest else char :: squeeze rest

/-- `.replaceAll('\\', '/')`. -/
def withSlashes (path : Path) : Path := path.map fun char => if char = '\\' then '/' else char

namespace LocalProvider

variable (process : Process) (provider : LocalProvider)

def fullPath (key : Path) : Path := join provider.baseDir key

/-- `put`: the files it leaves, and the key unless the system refuses. -/
def put (files : FileTree) (key : Path) (file : StoredFile) : FileTree × Option Path :=
  let path := provider.fullPath key
  match process.mkdir files (dirname path) with
  | none => (files, none)
  | some made =>
      match process.writeFile made path file with
      | none => (made, none)
      | some written => (written, some key)

/-- `delete`, and whether it succeeds. -/
def delete (files : FileTree) (key : Path) : FileTree × Bool :=
  match process.rm files (provider.fullPath key) with
  | none => (files, false)
  | some removed => (removed, true)

def head (files : FileTree) (key : Path) : HeadOutput :=
  let path := provider.fullPath key
  match process.stat files path with
  | some (size, modified) =>
      { contentLength := some size, contentType := none, etag := some (process.md5 path),
        lastModified := some modified, metadata := [], isThere := true }
  | none =>
      { contentLength := none, contentType := none, etag := none, lastModified := none,
        metadata := [], isThere := false }

/-- `walk(directory, base)`, with the entries that `readdir` gives for the directory. -/
def walk (base directory : Path) : FileTree → List Path
  | .empty => []
  | .file name _ rest =>
      withSlashes (relative process.cwd base (join directory name)) :: walk base directory rest
  | .sub name inside rest => walk base (join directory name) inside ++ walk base directory rest

/-- `list`. -/
def list (files : FileTree) (under : Path) : List Path :=
  let directory := provider.fullPath under
  let out := ((process.readdir files directory).map
    (walk process provider.baseDir directory)).getD []
  out.map fun key => squeeze (under ++ '/' :: key)

end LocalProvider

/-! ## Paths of keys -/

variable {process : Process} {provider : LocalProvider} {key : Path}

theorem climb_cons_nil {segments : List Segment} : climb ([] :: segments) = climb segments := rfl

theorem climb_concat_nil {segments : List Segment} : climb (segments ++ [[]]) = climb segments := by
  rw [climb_concat]
  exact if_pos (.inl rfl)

/-- The path of a key is refused for a NUL in a name that it leads through. -/
theorem refuses_fullPath :
    Process.refuses (provider.fullPath key) = true ↔
      ∃ name ∈ (climb (provider.baseDir.splitOn '/' ++ key.splitOn '/')).2, '\x00' ∈ name := by
  have inText : ∀ path : Path, Process.refuses (normalize path) = true ↔
      ∃ name ∈ (climb (path.splitOn '/')).2, '\x00' ∈ name := by
    intro path
    rw [Process.refuses, List.contains_iff_mem]
    exact mem_normalize_iff (by decide) (by decide)
  rw [LocalProvider.fullPath, join]
  split
  · next noBase =>
      rw [inText, noBase, List.splitOn_nil, List.singleton_append, climb_cons_nil]
  · split
    · next noKey => rw [inText, noKey, List.splitOn_nil, climb_concat_nil]
    · rw [inText, List.splitOn_append_cons_self]

theorem resolve_fullPath :
    resolve process.cwd (provider.fullPath key) =
      if provider.baseDir = [] ∧ isAbsolute key = true then followAll [] (key.splitOn '/')
      else followAll (resolve process.cwd provider.baseDir) (key.splitOn '/') := by
  by_cases noBase : provider.baseDir = []
  · rw [LocalProvider.fullPath, noBase, resolve_join_nil, resolve]
    cases isAbsolute key <;> rfl
  · rw [if_neg fun both => noBase both.1, LocalProvider.fullPath, resolve_join noBase]

/-- The path of a key that ends in a name ends in that name. -/
theorem splitOn_fullPath {before : List Segment} {name : Segment}
    (isSplit : key.splitOn '/' = before ++ [name]) (isName : IsName name) :
    ∃ above, (provider.fullPath key).splitOn '/' = above ++ [name] := by
  rw [LocalProvider.fullPath, join]
  split
  · exact splitOn_normalize isSplit isName
  · split
    · next noKey =>
        have lasts := congrArg List.getLast? isSplit
        rw [noKey, List.splitOn_nil, List.getLast?_concat] at lasts
        exact absurd (Option.some.inj lasts).symm isName.1
    · have joined : (provider.baseDir ++ '/' :: key).splitOn '/' =
          provider.baseDir.splitOn '/' ++ before ++ [name] := by
        rw [List.splitOn_append_cons_self, isSplit, List.append_assoc]
      exact splitOn_normalize joined isName

end CoreApi.Storage
