import Mathlib.Data.List.Nodup
import Mathlib.Data.List.Basic

/-!
# Directory trees

A directory is a list of entries, each a file or a directory below, under distinct names.
What an operation does is said of the files: `mkdir` leaves them, `writeFile` and `rm`
change the one at their place.
-/

namespace CoreApi.Foundation

/-- A directory of files with some content. -/
inductive Directory (Name Content : Type) where
  | empty
  | file (name : Name) (content : Content) (rest : Directory Name Content)
  | sub (name : Name) (inside rest : Directory Name Content)

/-- What stands under a name. -/
inductive Node (Name Content : Type) where
  | file (content : Content)
  | directory (inside : Directory Name Content)

namespace Directory

variable {Name Content : Type}

def names : Directory Name Content → List Name
  | empty => []
  | file name _ rest => name :: rest.names
  | sub name _ rest => name :: rest.names

/-- Names are distinct in each directory, and names as the system has them. -/
def Proper (isName : Name → Prop) : Directory Name Content → Prop
  | empty => True
  | file name _ rest => (isName name ∧ name ∉ rest.names) ∧ rest.Proper isName
  | sub name inside rest =>
      (isName name ∧ name ∉ rest.names) ∧ inside.Proper isName ∧ rest.Proper isName

/-- The places of the files, as `readdir` comes to them one directory after the other. -/
def paths : Directory Name Content → List (List Name)
  | empty => []
  | file name _ rest => [name] :: rest.paths
  | sub name inside rest => inside.paths.map (name :: ·) ++ rest.paths

variable [DecidableEq Name]

def node? : Directory Name Content → Name → Option (Node Name Content)
  | empty, _ => none
  | file other content rest, name => if other = name then some (.file content) else rest.node? name
  | sub other inside rest, name =>
      if other = name then some (.directory inside) else rest.node? name

/-- An entry before others. -/
def place (name : Name) (node : Node Name Content) (rest : Directory Name Content) :
    Directory Name Content :=
  match node with
  | .file content => file name content rest
  | .directory inside => sub name inside rest

/-- The entry under a name, put there or added. -/
def withEntry (name : Name) (node : Node Name Content) :
    Directory Name Content → Directory Name Content
  | empty => place name node empty
  | file other content rest =>
      if other = name then place name node rest else file other content (rest.withEntry name node)
  | sub other inside rest =>
      if other = name then place name node rest else sub other inside (rest.withEntry name node)

def without (name : Name) : Directory Name Content → Directory Name Content
  | empty => empty
  | file other content rest => if other = name then rest else file other content (rest.without name)
  | sub other inside rest => if other = name then rest else sub other inside (rest.without name)

/-! ## Operations -/

/-- What is at a place. -/
def at? : Directory Name Content → List Name → Option (Node Name Content)
  | root, [] => some (.directory root)
  | root, name :: rest =>
      match root.node? name with
      | none => none
      | some (.file content) => if rest = [] then some (.file content) else none
      | some (.directory inside) => inside.at? rest

/-- The file at a place. -/
def fileAt? (root : Directory Name Content) (path : List Name) : Option Content :=
  match root.at? path with
  | some (.file content) => some content
  | _ => none

/-- `mkdir -p`; none where a file is in the way. -/
def mkdir : Directory Name Content → List Name → Option (Directory Name Content)
  | root, [] => some root
  | root, name :: rest =>
      match root.node? name with
      | none => (mkdir empty rest).map fun inside => root.withEntry name (.directory inside)
      | some (.file _) => none
      | some (.directory inside) =>
          (inside.mkdir rest).map fun inside => root.withEntry name (.directory inside)

/-- A file is written; none where its directory is missing or the place is a directory. -/
def writeFile (content : Content) : Directory Name Content → List Name →
    Option (Directory Name Content)
  | _, [] => none
  | root, name :: rest =>
      match root.node? name with
      | none => if rest = [] then some (root.withEntry name (.file content)) else none
      | some (.file _) => if rest = [] then some (root.withEntry name (.file content)) else none
      | some (.directory inside) =>
          (inside.writeFile content rest).map fun inside => root.withEntry name (.directory inside)

/-- A file is removed if there is one; none where a file is on the way or the place is a
directory. -/
def rm : Directory Name Content → List Name → Option (Directory Name Content)
  | _, [] => none
  | root, name :: rest =>
      match root.node? name with
      | none => some root
      | some (.file _) => if rest = [] then some (root.without name) else none
      | some (.directory inside) =>
          (inside.rm rest).map fun inside => root.withEntry name (.directory inside)

/-! ## Entries -/

variable {name other : Name} {node : Node Name Content} {root rest : Directory Name Content}
  {isName : Name → Prop}

omit [DecidableEq Name] in
/-- Induction over the entries of a directory, of either kind. -/
@[elab_as_elim] theorem entriesInduction {motive : Directory Name Content → Prop}
    (root : Directory Name Content) (none : motive empty)
    (entry : ∀ name node rest, motive rest → motive (place name node rest)) : motive root := by
  induction root with
  | empty => exact none
  | file name content rest ih =>
      exact entry name (.file content) rest ih
  | sub name inside rest _ ih =>
      exact entry name (.directory inside) rest ih

omit [DecidableEq Name] in
@[simp] theorem names_place : (place name node rest).names = name :: rest.names := by
  cases node <;> rfl

@[simp] theorem node?_place :
    (place name node rest).node? other = if name = other then some node else rest.node? other := by
  cases node <;> rfl

@[simp] theorem withEntry_place {added : Node Name Content} :
    (place name node rest).withEntry other added =
      if name = other then place other added rest
      else place name node (rest.withEntry other added) := by
  cases node <;> rfl

@[simp] theorem without_place :
    (place name node rest).without other =
      if name = other then rest else place name node (rest.without other) := by
  cases node <;> rfl

theorem node?_withEntry {asked : Name} :
    (root.withEntry name node).node? asked =
      if name = asked then some node else root.node? asked := by
  induction root using entriesInduction with
  | none => exact node?_place
  | entry first other rest ih =>
      rw [withEntry_place, node?_place]
      by_cases same : first = name
      · rw [if_pos same, node?_place, same]
        split <;> rfl
      · rw [if_neg same, node?_place, ih]
        by_cases isFirst : first = asked
        · rw [if_pos isFirst, if_pos isFirst, if_neg fun isName => same (isFirst.trans isName.symm)]
        · rw [if_neg isFirst, if_neg isFirst]

theorem node?_eq_none_iff : root.node? name = none ↔ name ∉ root.names := by
  induction root using entriesInduction with
  | none => simp [node?, names]
  | entry first node rest ih =>
      rw [node?_place, names_place, List.mem_cons, not_or, ← ih]
      by_cases same : first = name
      · simp [same]
      · simp [same, Ne.symm same]

theorem mem_names_withEntry :
    other ∈ (root.withEntry name node).names ↔ other = name ∨ other ∈ root.names := by
  rw [← not_iff_not, ← node?_eq_none_iff, node?_withEntry, not_or, ← node?_eq_none_iff]
  by_cases same : name = other
  · simp [same]
  · simp [same, Ne.symm same]

theorem mem_names_without (member : other ∈ (root.without name).names) : other ∈ root.names := by
  induction root using entriesInduction with
  | none => exact member
  | entry first node rest ih =>
      rw [without_place] at member
      rw [names_place]
      split at member
      · exact List.mem_cons_of_mem _ member
      · rw [names_place] at member
        rcases List.mem_cons.mp member with rfl | later
        · exact List.mem_cons_self
        · exact List.mem_cons_of_mem _ (ih later)

/-! ## Proper directories -/

/-- What stands under a name is proper. -/
def IsProperNode (isName : Name → Prop) : Node Name Content → Prop
  | .file _ => True
  | .directory inside => inside.Proper isName

omit [DecidableEq Name] in
theorem proper_place :
    (place name node rest).Proper isName ↔
      (isName name ∧ name ∉ rest.names) ∧ IsProperNode isName node ∧ rest.Proper isName := by
  cases node with
  | file content => simp [place, Proper, IsProperNode]
  | directory inside => rfl

theorem Proper.entry (proper : root.Proper isName) (isEntry : root.node? name = some node) :
    IsProperNode isName node := by
  induction root using entriesInduction with
  | none => cases isEntry
  | entry first other rest ih =>
      rw [node?_place] at isEntry
      obtain ⟨_, properNode, properRest⟩ := proper_place.mp proper
      split at isEntry
      · cases isEntry
        exact properNode
      · exact ih properRest isEntry

theorem Proper.withEntry (proper : root.Proper isName) (named : isName name)
    (properNode : IsProperNode isName node) : (root.withEntry name node).Proper isName := by
  induction root using entriesInduction with
  | none => exact proper_place.mpr ⟨⟨named, List.not_mem_nil⟩, properNode, trivial⟩
  | entry first other rest ih =>
      obtain ⟨⟨firstNamed, missing⟩, properOther, properRest⟩ := proper_place.mp proper
      rw [withEntry_place]
      split
      · next same =>
          subst same
          exact proper_place.mpr ⟨⟨named, missing⟩, properNode, properRest⟩
      · next different =>
          refine proper_place.mpr ⟨⟨firstNamed, ?_⟩, properOther, ih properRest⟩
          rw [mem_names_withEntry, not_or]
          exact ⟨different, missing⟩

theorem Proper.without (proper : root.Proper isName) : (root.without name).Proper isName := by
  induction root using entriesInduction with
  | none => trivial
  | entry first other rest ih =>
      obtain ⟨⟨firstNamed, missing⟩, properOther, properRest⟩ := proper_place.mp proper
      rw [without_place]
      split
      · exact properRest
      · exact proper_place.mpr
          ⟨⟨firstNamed, fun member => missing (mem_names_without member)⟩, properOther,
            ih properRest⟩

theorem node?_without (proper : root.Proper isName) {asked : Name} :
    (root.without name).node? asked = if name = asked then none else root.node? asked := by
  induction root using entriesInduction with
  | none => split <;> rfl
  | entry first other rest ih =>
      obtain ⟨⟨_, missing⟩, _, properRest⟩ := proper_place.mp proper
      rw [without_place, node?_place]
      by_cases same : first = name
      · subst same
        rw [if_pos rfl]
        by_cases isFirst : first = asked
        · subst isFirst
          rw [if_pos rfl, node?_eq_none_iff.mpr missing]
        · rw [if_neg isFirst, if_neg isFirst]
      · rw [if_neg same, node?_place, ih properRest]
        by_cases isFirst : first = asked
        · rw [if_pos isFirst, if_pos isFirst, if_neg fun isName => same (isFirst.trans isName.symm)]
        · rw [if_neg isFirst, if_neg isFirst]

/-! ## Files -/

variable {root' : Directory Name Content} {path asked : List Name} {content : Content}

/-- The file at a place below what stands under a name. -/
def fileBelow? (node : Node Name Content) (path : List Name) : Option Content :=
  match node with
  | .file content => if path = [] then some content else none
  | .directory inside => inside.fileAt? path

@[simp] theorem fileAt?_nil : root.fileAt? [] = none := rfl

theorem fileAt?_cons : root.fileAt? (name :: path) = (root.node? name).bind (fileBelow? · path) := by
  rw [fileAt?, at?]
  rcases root.node? name with _ | content | inside
  · rfl
  · by_cases isEnd : path = []
    · simp [fileBelow?, isEnd]
    · simp [fileBelow?, isEnd]
  · rfl

theorem fileAt?_eq_some :
    root.fileAt? path = some content ↔ root.at? path = some (.file content) := by
  rw [fileAt?]
  rcases root.at? path with _ | file | inside <;> simp

theorem fileAt?_empty : (empty : Directory Name Content).fileAt? asked = none := by
  cases asked <;> rfl

theorem fileAt?_withEntry :
    (root.withEntry name node).fileAt? (other :: path) =
      if name = other then fileBelow? node path else root.fileAt? (other :: path) := by
  rw [fileAt?_cons, node?_withEntry, fileAt?_cons]
  split <;> rfl

/-- Making directories leaves the files. -/
theorem fileAt?_mkdir (made : root.mkdir path = some root') :
    root'.fileAt? asked = root.fileAt? asked := by
  induction path generalizing root root' asked with
  | nil => rw [← Option.some.inj made]
  | cons name rest ih =>
      have replaced : ∀ inside inside' : Directory Name Content,
          (∀ below, inside'.fileAt? below = (root.node? name).bind (fileBelow? · below)) →
          (root.withEntry name (.directory inside')).fileAt? asked = root.fileAt? asked := by
        intro inside inside' below
        cases asked with
        | nil => rfl
        | cons first asked =>
            rw [fileAt?_withEntry]
            split
            · next same => rw [fileAt?_cons, ← same]; exact below asked
            · rfl
      rw [mkdir] at made
      rcases isEntry : root.node? name with _ | content | inside <;> rw [isEntry] at made replaced
      · obtain ⟨inside', isMade, rfl⟩ := Option.map_eq_some_iff.mp made
        exact replaced empty inside' fun below =>
          (ih isMade).trans fileAt?_empty
      · cases made
      · obtain ⟨inside', isMade, rfl⟩ := Option.map_eq_some_iff.mp made
        exact replaced inside inside' fun below => ih isMade

/-- Writing a file changes what is at its place. -/
theorem fileAt?_writeFile (written : root.writeFile content path = some root') :
    root'.fileAt? asked = if asked = path then some content else root.fileAt? asked := by
  induction path generalizing root root' asked with
  | nil => cases written
  | cons name rest ih =>
      have replaced : ∀ node : Node Name Content,
          (∀ below, fileBelow? node below =
            if below = rest then some content else (root.node? name).bind (fileBelow? · below)) →
          (root.withEntry name node).fileAt? asked =
            if asked = name :: rest then some content else root.fileAt? asked := by
        intro node below
        cases asked with
        | nil => rfl
        | cons first asked =>
            rw [fileAt?_withEntry]
            by_cases same : name = first
            · subst same
              simp [below, fileAt?_cons]
            · rw [if_neg same, if_neg fun isPath => same (List.cons.inj isPath).1.symm]
      rw [writeFile] at written
      rcases isEntry : root.node? name with _ | old | inside <;>
        rw [isEntry] at written replaced
      · dsimp only at written
        split at written
        · next isEnd =>
            cases written
            exact replaced (.file content) fun below => by simp [fileBelow?, isEnd]
        · cases written
      · dsimp only at written
        split at written
        · next isEnd =>
            cases written
            refine replaced (.file content) fun below => ?_
            by_cases isPath : below = [] <;> simp [fileBelow?, isEnd, isPath]
        · cases written
      · obtain ⟨inside', isWritten, rfl⟩ := Option.map_eq_some_iff.mp written
        exact replaced (.directory inside') fun below => ih isWritten

/-- Removing a file leaves the others. -/
theorem fileAt?_rm (proper : root.Proper isName) (removed : root.rm path = some root') :
    root'.fileAt? asked = if asked = path then none else root.fileAt? asked := by
  induction path generalizing root root' asked with
  | nil => cases removed
  | cons name rest ih =>
      rw [rm] at removed
      cases asked with
      | nil =>
          rw [if_neg (List.cons_ne_nil _ _).symm]
          rfl
      | cons first asked =>
          rcases isEntry : root.node? name with _ | old | inside <;> rw [isEntry] at removed
          · cases removed
            split
            · next isPath => rw [isPath, fileAt?_cons, isEntry]; rfl
            · rfl
          · dsimp only at removed
            split at removed
            · next isEnd =>
                cases removed
                rw [fileAt?_cons, node?_without proper, fileAt?_cons]
                by_cases same : name = first
                · subst same
                  by_cases isPath : asked = [] <;> simp [isEntry, fileBelow?, isEnd, isPath]
                · rw [if_neg same, if_neg fun isPath => same (List.cons.inj isPath).1.symm]
            · cases removed
          · obtain ⟨inside', isRemoved, rfl⟩ := Option.map_eq_some_iff.mp removed
            have below := @ih inside inside' asked (proper.entry isEntry) isRemoved
            rw [fileAt?_withEntry]
            by_cases same : name = first
            · subst same
              simp [fileBelow?, below, fileAt?_cons, isEntry]
            · rw [if_neg same, if_neg fun isPath => same (List.cons.inj isPath).1.symm]

/-! ## Proper directories stay proper -/

theorem Proper.mkdir (proper : root.Proper isName) (names : ∀ name ∈ path, isName name)
    (made : root.mkdir path = some root') : root'.Proper isName := by
  induction path generalizing root root' with
  | nil => exact Option.some.inj made ▸ proper
  | cons name rest ih =>
      have namesRest : ∀ name ∈ rest, isName name :=
        fun name member => names name (List.mem_cons_of_mem _ member)
      rw [Directory.mkdir] at made
      rcases isEntry : root.node? name with _ | content | inside <;> rw [isEntry] at made
      · obtain ⟨inside', isMade, rfl⟩ := Option.map_eq_some_iff.mp made
        have properInside := @ih empty inside' trivial namesRest isMade
        exact proper.withEntry (names name List.mem_cons_self) properInside
      · cases made
      · obtain ⟨inside', isMade, rfl⟩ := Option.map_eq_some_iff.mp made
        exact proper.withEntry (names name List.mem_cons_self)
          (ih (proper.entry isEntry) namesRest isMade)

theorem Proper.writeFile (proper : root.Proper isName) (names : ∀ name ∈ path, isName name)
    (written : root.writeFile content path = some root') : root'.Proper isName := by
  induction path generalizing root root' with
  | nil => cases written
  | cons name rest ih =>
      have named := names name List.mem_cons_self
      rw [Directory.writeFile] at written
      rcases isEntry : root.node? name with _ | old | inside <;> rw [isEntry] at written
      · dsimp only at written
        split at written
        · cases written
          exact proper.withEntry named trivial
        · cases written
      · dsimp only at written
        split at written
        · cases written
          exact proper.withEntry named trivial
        · cases written
      · obtain ⟨inside', isWritten, rfl⟩ := Option.map_eq_some_iff.mp written
        exact proper.withEntry named (ih (proper.entry isEntry)
          (fun name member => names name (List.mem_cons_of_mem _ member)) isWritten)

theorem Proper.rm (proper : root.Proper isName) (names : ∀ name ∈ path, isName name)
    (removed : root.rm path = some root') : root'.Proper isName := by
  induction path generalizing root root' with
  | nil => cases removed
  | cons name rest ih =>
      rw [Directory.rm] at removed
      rcases isEntry : root.node? name with _ | old | inside <;> rw [isEntry] at removed
      · exact Option.some.inj removed ▸ proper
      · dsimp only at removed
        split at removed
        · cases removed
          exact proper.without
        · cases removed
      · obtain ⟨inside', isRemoved, rfl⟩ := Option.map_eq_some_iff.mp removed
        exact proper.withEntry (names name List.mem_cons_self)
          (ih (proper.entry isEntry)
            (fun name member => names name (List.mem_cons_of_mem _ member)) isRemoved)

/-! ## Listings -/

omit [DecidableEq Name] in
theorem head_of_mem_paths (member : path ∈ root.paths) :
    ∃ name ∈ root.names, ∃ rest, path = name :: rest := by
  induction root with
  | empty => cases member
  | file name content rest ih =>
      rcases List.mem_cons.mp member with rfl | later
      · exact ⟨name, List.mem_cons_self, [], rfl⟩
      · obtain ⟨other, isOther, below⟩ := ih later
        exact ⟨other, List.mem_cons_of_mem _ isOther, below⟩
  | sub name inside rest _ ih =>
      rcases List.mem_append.mp member with inSub | later
      · obtain ⟨below, _, rfl⟩ := List.mem_map.mp inSub
        exact ⟨name, List.mem_cons_self, below, rfl⟩
      · obtain ⟨other, isOther, below⟩ := ih later
        exact ⟨other, List.mem_cons_of_mem _ isOther, below⟩

/-- The listed places are those of the files. -/
theorem mem_paths (proper : root.Proper isName) :
    path ∈ root.paths ↔ ∃ content, root.fileAt? path = some content := by
  induction root generalizing path with
  | empty => simp [paths, fileAt?_empty]
  | file name content rest ih =>
      obtain ⟨⟨_, missing⟩, properRest⟩ := proper
      rw [paths, List.mem_cons, ih properRest]
      cases path with
      | nil => simp
      | cons first below =>
          rw [fileAt?_cons, fileAt?_cons, node?]
          by_cases same : name = first
          · subst same
            rw [node?_eq_none_iff.mpr missing, if_pos rfl]
            by_cases isEnd : below = [] <;> simp [fileBelow?, isEnd]
          · rw [if_neg same]
            simp [Ne.symm same]
  | sub name inside rest insideHypothesis ih =>
      obtain ⟨⟨_, missing⟩, properInside, properRest⟩ := proper
      rw [paths, List.mem_append, List.mem_map, ih properRest]
      cases path with
      | nil => simp
      | cons first below =>
          rw [fileAt?_cons, fileAt?_cons, node?]
          by_cases same : name = first
          · subst same
            rw [node?_eq_none_iff.mpr missing, if_pos rfl]
            simp [fileBelow?, insideHypothesis properInside]
          · rw [if_neg same]
            simp [same]

omit [DecidableEq Name] in
/-- Each file is listed once. -/
theorem nodup_paths (proper : root.Proper isName) : root.paths.Nodup := by
  have apart : ∀ {name : Name} {rest : Directory Name Content}, name ∉ rest.names →
      ∀ below : List Name, name :: below ∉ rest.paths := by
    intro name rest missing below member
    obtain ⟨other, isOther, _, same⟩ := head_of_mem_paths member
    exact missing ((List.cons.inj same).1 ▸ isOther)
  induction root with
  | empty => exact List.nodup_nil
  | file name content rest ih =>
      obtain ⟨⟨_, missing⟩, properRest⟩ := proper
      exact List.nodup_cons.mpr ⟨apart missing [], ih properRest⟩
  | sub name inside rest insideHypothesis ih =>
      obtain ⟨⟨_, missing⟩, properInside, properRest⟩ := proper
      refine List.nodup_append.mpr
        ⟨(insideHypothesis properInside).map fun _ _ same => (List.cons.inj same).2,
          ih properRest, ?_⟩
      rintro path inFirst other inRest rfl
      obtain ⟨below, _, rfl⟩ := List.mem_map.mp inFirst
      exact apart missing below inRest

variable {inside : Directory Name Content}

theorem Proper.at? (proper : root.Proper isName) (isAt : root.at? path = some (.directory inside)) :
    inside.Proper isName := by
  induction path generalizing root with
  | nil =>
      cases isAt
      exact proper
  | cons name rest ih =>
      rw [Directory.at?] at isAt
      rcases isEntry : root.node? name with _ | content | below <;> rw [isEntry] at isAt
      · cases isAt
      · dsimp only at isAt
        split at isAt <;> cases isAt
      · exact ih (proper.entry isEntry) isAt

/-- The files below a directory are those that it has. -/
theorem fileAt?_append (isAt : root.at? path = some (.directory inside)) :
    root.fileAt? (path ++ asked) = inside.fileAt? asked := by
  induction path generalizing root with
  | nil =>
      cases isAt
      rfl
  | cons name rest ih =>
      rw [at?] at isAt
      rw [List.cons_append, fileAt?_cons]
      rcases isEntry : root.node? name with _ | content | below <;> rw [isEntry] at isAt
      · cases isAt
      · dsimp only at isAt
        split at isAt <;> cases isAt
      · exact ih isAt

theorem fileAt?_append_eq_none (noDirectory : ∀ inside, root.at? path ≠ some (.directory inside))
    (below : asked ≠ []) : root.fileAt? (path ++ asked) = none := by
  induction path generalizing root with
  | nil => exact absurd rfl (noDirectory root)
  | cons name rest ih =>
      rw [List.cons_append, fileAt?_cons]
      rw [at?] at noDirectory
      rcases isEntry : root.node? name with _ | content | inside <;> rw [isEntry] at noDirectory
      · rfl
      · simp [fileBelow?, below]
      · exact ih noDirectory

end Directory

end CoreApi.Foundation
