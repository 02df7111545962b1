/-
**Trees of files.**

A file system is a finite tree of directories, files and symbolic links.  Every node has a location,
the names that lead to it from the root, in bytes.  Following a path goes from location to location;
a link on the way sends it to the link's target, at most forty times.  Paths and the names in them
cannot be of any length, and no path holds a null character.

Main definitions:

* `QueryWeave.Location`, `QueryWeave.Node`, `QueryWeave.FileTree` — the tree;
* `QueryWeave.FileTree.node?`, `QueryWeave.FileTree.entryNames` — what it holds;
* `QueryWeave.LookupError`, `QueryWeave.checkPath` — why a path leads nowhere, and what can be said
  of that without a tree;
* `QueryWeave.FileTree.follow` — where steps lead;
* `QueryWeave.FileTree.locate`, `QueryWeave.FileTree.isFile` — where a path leads;
* `QueryWeave.FileTree.place` — the tree with one more node, and the directories it needs.
-/

import QueryWeave.Files.Path
import QueryWeave.KeyOrder

set_option relaxedAutoImplicit false
set_option autoImplicit false

namespace QueryWeave

/-- The names that lead to a node from the root. -/
abbrev Location : Type := List RawText

/-- The path of a location. -/
def Location.path (location : Location) : RawText :=
  Path.slash :: [Path.slash].intercalate location

/-- What stands at a location. -/
inductive Node where
  | file (bytes : List UInt8)
  | directory
  | link (target : RawText)
  deriving DecidableEq, Repr

/-- The nodes of a tree other than its root, with their locations, and the location of the directory
that relative paths start from. -/
structure FileTree where
  nodes : List (Location × Node)
  workingDirectory : Location

/-! ### Failing lookups -/

/-- Why a path leads nowhere. -/
inductive LookupError where
  | notFound
  | notDirectory
  | nameTooLong
  | tooManyLinks
  | nullInPath
  deriving DecidableEq, Repr

/-- How the failure is told to the user. -/
def LookupError.message : LookupError → String
  | .notFound => "No such file or directory (os error 2)"
  | .notDirectory => "Not a directory (os error 20)"
  | .nameTooLong => "File name too long (os error 36)"
  | .tooManyLinks => "Too many levels of symbolic links (os error 40)"
  | .nullInPath => "file name contained an unexpected NUL byte"

/-- The number of links that following a path may meet. -/
def maxLinks : Nat := 40

/-- The number of bytes that a name in a directory may have. -/
def maxNameBytes : Nat := 255

/-- The number of bytes that a path may have. -/
def maxPathBytes : Nat := 4095

/-- Refuses a path that cannot be looked up, whatever the tree. -/
def checkPath (path : RawText) : Except LookupError Unit :=
  if path.contains 0 then .error .nullInPath
  else if path = [] then .error .notFound
  else if maxPathBytes < path.length then .error .nameTooLong
  else .ok ()

namespace FileTree

/-- The node at a location; the root is a directory. -/
def node? (tree : FileTree) (location : Location) : Option Node :=
  if location = [] then some .directory else tree.nodes.lookup location

/-- The locations of all directories. -/
def directories (tree : FileTree) : List Location :=
  [] :: tree.nodes.map Prod.fst

/-- A bound for the lengths of all locations. -/
def depth (tree : FileTree) : Nat :=
  (tree.nodes.map fun node => node.1.length).foldr max 0

/-- The name of a location that lies directly in a directory. -/
def nameIn : Location → Location → Option RawText
  | [], [name] => some name
  | step :: directory, step' :: location =>
      if step = step' then nameIn directory location else none
  | _, _ => none

/-- The names of the entries of a directory, in ascending order. -/
def entryNames (tree : FileTree) (directory : Location) : List RawText :=
  KeyOrder.sorted (tree.nodes.filterMap fun node => nameIn directory node.1)

theorem mem_directories_of_node? {tree : FileTree} {location : Location} {node : Node}
    (h : tree.node? location = some node) : location ∈ tree.directories := by
  unfold node? at h
  split at h
  · next h' => simp [directories, h']
  · have hmem : location ∈ tree.nodes.map Prod.fst := by
      generalize tree.nodes = nodes at h
      induction nodes with
      | nil => simp at h
      | cons entry nodes ih =>
          rw [List.lookup_cons] at h
          split at h
          · next heq => simp_all
          · simp [ih h]
    exact List.mem_cons_of_mem _ hmem

theorem length_le_depth {tree : FileTree} {location : Location} {node : Node}
    (h : tree.node? location = some node) : location.length ≤ tree.depth := by
  rcases List.mem_cons.1 (mem_directories_of_node? h) with rfl | hmem
  · simp
  · unfold depth
    generalize tree.nodes = nodes at hmem
    induction nodes with
    | nil => simp at hmem
    | cons entry nodes ih =>
        simp only [List.map_cons, List.foldr_cons]
        rcases List.mem_cons.1 hmem with rfl | hmem
        · exact Nat.le_max_left _ _
        · exact Nat.le_trans (ih hmem) (Nat.le_max_right _ _)

/-! ### Following paths -/

/-- Where `steps` lead from a location.  Links are followed; `links` more of them may be met.  For a
file about to be made (`creating`) the last name may be missing. -/
def follow (tree : FileTree) (creating : Bool) (links : Nat) (location : Location)
    (steps : List Path.Step) : Except LookupError Location :=
  match steps with
  | [] => .ok location
  | step :: steps =>
      -- even a step that stays needs a directory to stay in
      if tree.node? location ≠ some .directory then .error .notDirectory
      else
        match step with
        | .stay => tree.follow creating links location steps
        | .up => tree.follow creating links location.dropLast steps
        | .down name =>
            if maxNameBytes < name.length then .error .nameTooLong
            else
              match tree.node? (location ++ [name]) with
              | none =>
                  if creating ∧ steps = [] then .ok (location ++ [name]) else .error .notFound
              | some (.link target) =>
                  match links with
                  | 0 => .error .tooManyLinks
                  | links + 1 =>
                      let start := if Path.isAbsolute target then [] else location
                      tree.follow creating links start (Path.steps target ++ steps)
              | some _ => tree.follow creating links (location ++ [name]) steps
termination_by (links, steps.length)

/-- The location that a path starts from. -/
def origin (tree : FileTree) (path : RawText) : Location :=
  if Path.isAbsolute path then [] else tree.workingDirectory

/-- Where a path leads. -/
def locate (tree : FileTree) (path : RawText) : Except LookupError Location :=
  match checkPath path with
  | .error error => .error error
  | .ok () => tree.follow false maxLinks (tree.origin path) (Path.steps path)

/-- The bytes of the file that a path leads to, if it leads to a file. -/
def fileBytes? (tree : FileTree) (path : RawText) : Option (List UInt8) :=
  match tree.locate path with
  | .error _ => none
  | .ok location =>
      match tree.node? location with
      | some (.file bytes) => some bytes
      | _ => none

/-- Whether a path leads to a file. -/
def isFile (tree : FileTree) (path : RawText) : Bool :=
  (tree.fileBytes? path).isSome

/-! ### Building trees -/

/-- The tree of the root and a working directory. -/
def empty (workingDirectory : Location) : FileTree :=
  ⟨(List.range workingDirectory.length).map fun n =>
    (workingDirectory.take (n + 1), .directory), workingDirectory⟩

/-- The tree with a node at the given location, in place of the one that was there. -/
def set (tree : FileTree) (location : Location) (node : Node) : FileTree :=
  { tree with nodes := (location, node) :: tree.nodes.filter fun entry => entry.1 ≠ location }

/-- The tree with all directories that `steps` go down to, and where they lead. -/
def makeDirectories (tree : FileTree) (location : Location) :
    List Path.Step → Option (FileTree × Location)
  | [] => some (tree, location)
  | .stay :: steps => tree.makeDirectories location steps
  | .up :: steps => tree.makeDirectories location.dropLast steps
  | .down name :: steps =>
      match tree.node? (location ++ [name]) with
      -- the directory is missing and is made
      | none =>
          (tree.set (location ++ [name]) .directory).makeDirectories (location ++ [name]) steps
      | some _ =>
          match tree.follow false maxLinks location [.down name] with
          | .error _ => none
          | .ok location' =>
              if tree.node? location' = some .directory then tree.makeDirectories location' steps
              else none

/-- The tree with a node made in a directory.  A file is made where the links of that name lead, and
overwrites a file that is there already; nothing else gives way. -/
def put (tree : FileTree) (directory : Location) (name : RawText) (node : Node) : FileTree :=
  let spot :=
    match node with
    | .file _ => tree.follow true maxLinks directory [.down name]
    | _ => .ok (directory ++ [name])
  match spot with
  | .error _ => tree
  | .ok location =>
      match tree.node? location, node with
      | none, _ => tree.set location node
      | some (.file _), .file _ => tree.set location node
      | some _, _ => tree

/-- The tree with a node made at a path, and the directories above it as needed.  Where a node
cannot be made the tree stays as it is. -/
def place (tree : FileTree) (path : RawText) (node : Node) : FileTree :=
  let steps := (Path.steps path).filter (· ≠ .stay)
  match node with
  | .directory => ((tree.makeDirectories (tree.origin path) steps).map Prod.fst).getD tree
  | node =>
      match steps.getLast? with
      | some (.down name) =>
          match tree.makeDirectories (tree.origin path) steps.dropLast with
          | none => tree
          | some (tree', directory) => tree'.put directory name node
      | _ => tree

end FileTree

end QueryWeave
