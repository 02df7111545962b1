/-
**Walking through a directory.**

A walk visits what a path leads to and, below a directory, all its entries in ascending order of
their names, the content of each directory right after the directory itself.  Links are followed,
each by the whole path to it, so that links further up on that path count, too.  A link that leads
to a directory the walk is inside of would never end, so it ends the walk instead, as does a link
that leads nowhere, or a directory whose path has become too long.

Main definitions:

* `QueryWeave.Walk`, `QueryWeave.WalkEntry`, `QueryWeave.WalkError` — the entries of a walk, and
  what can end it early;
* `QueryWeave.FileTree.walk` — the walk from a path.

The recursion ends because a followed link enters a directory that the walk is not inside of, and
any other step leads deeper into the tree.
-/

import QueryWeave.Files.Tree

set_option relaxedAutoImplicit false
set_option autoImplicit false

namespace QueryWeave

/-- An entry met on a walk: its path, the location it stands for, and whether that is a file. -/
structure WalkEntry where
  path : RawText
  location : Location
  isFile : Bool

/-- What ends a walk early. -/
inductive WalkError where
  | lookup (path : RawText) (error : LookupError)
  | loop (path ancestor : RawText)

/-- How the end of a walk is told to the user. -/
def WalkError.message : WalkError → String
  | .lookup path error =>
      s!"IO error for operation on {path.text}: {error.message}: {error.message}"
  | .loop path ancestor =>
      s!"File system loop found: {path.text} points to an ancestor {ancestor.text}"

/-- The entries met on a walk, in order, and what ended it early. -/
structure Walk where
  entries : List WalkEntry
  error? : Option WalkError

namespace Walk

/-- A walk that meets nothing. -/
def nowhere : Walk := ⟨[], none⟩

/-- A walk that fails at once. -/
def failed (error : WalkError) : Walk := ⟨[], some error⟩

/-- One walk after the other, unless the first has ended early. -/
def append (w w' : Walk) : Walk :=
  match w.error? with
  | some error => ⟨w.entries, some error⟩
  | none => ⟨w.entries ++ w'.entries, w'.error?⟩

/-- One entry, and then a walk. -/
def cons (entry : WalkEntry) (w : Walk) : Walk :=
  ⟨entry :: w.entries, w.error?⟩

end Walk

/-- A directory that a walk is inside of. -/
structure Ancestor where
  location : Location
  path : RawText

namespace FileTree

/-- The directories that a walk is not inside of. -/
def outside (tree : FileTree) (ancestors : List Ancestor) : List Location :=
  tree.directories.filter fun location => location ∉ ancestors.map Ancestor.location

/-- Inside of one more directory a walk is outside of all the same directories but that one. -/
theorem outside_append (tree : FileTree) (ancestors : List Ancestor) (a : Ancestor) :
    tree.outside (ancestors ++ [a]) =
      (tree.outside ancestors).filter fun location => decide (location ≠ a.location) := by
  unfold outside
  rw [List.filter_filter]
  congr 1
  funext location
  by_cases h : location = a.location <;>
    by_cases h' : location ∈ ancestors.map Ancestor.location <;> simp_all

theorem length_outside_append_le (tree : FileTree) (ancestors : List Ancestor) (a : Ancestor) :
    (tree.outside (ancestors ++ [a])).length ≤ (tree.outside ancestors).length := by
  rw [outside_append]
  exact List.length_filter_le _ _

theorem length_outside_append_lt {tree : FileTree} {ancestors : List Ancestor} {a : Ancestor}
    {node : Node} (hnode : tree.node? a.location = some node)
    (hout : a.location ∉ ancestors.map Ancestor.location) :
    (tree.outside (ancestors ++ [a])).length < (tree.outside ancestors).length := by
  rw [outside_append]
  refine List.length_filter_lt_length_iff_exists.2 ⟨a.location, ?_, by simp⟩
  simp only [outside, List.mem_filter, decide_eq_true_eq]
  exact ⟨mem_directories_of_node? hnode, hout⟩

/-- The innermost directory around the walk that is the given one. -/
def ancestorAt? (ancestors : List Ancestor) (location : Location) : Option Ancestor :=
  ancestors.reverse.find? fun a => a.location = location

theorem not_mem_of_ancestorAt?_eq_none {ancestors : List Ancestor} {location : Location}
    (h : ancestorAt? ancestors location = none) :
    location ∉ ancestors.map Ancestor.location := by
  simp_all [ancestorAt?]

/-- The walk through the entries `names` of the innermost of the directories around it. -/
def walkEntries (tree : FileTree) (ancestors : List Ancestor) (directory : Ancestor)
    (names : List RawText) : Walk :=
  match names with
  | [] => .nowhere
  | name :: names =>
      let path := Path.join directory.path name
      let here := directory.location ++ [name]
      let first : Walk :=
        match hnode : tree.node? here with
        | none => .nowhere
        | some (.file _) => ⟨[⟨path, here, true⟩], none⟩
        | some .directory =>
            have := length_le_depth hnode
            let inner : Ancestor := ⟨here, path⟩
            .cons ⟨path, here, false⟩ <|
              -- the directory is there, so only the path itself can be at fault
              match checkPath path with
              | .error error => .failed (.lookup path error)
              | .ok () => tree.walkEntries (ancestors ++ [inner]) inner (tree.entryNames here)
        | some (.link _) =>
            match tree.locate path with
            | .error error => .failed (.lookup path error)
            | .ok target =>
                match htarget : tree.node? target with
                | some .directory =>
                    match hloop : ancestorAt? ancestors target with
                    | some ancestor => .failed (.loop path ancestor.path)
                    | none =>
                        have := length_outside_append_lt (a := ⟨target, path⟩) htarget
                          (not_mem_of_ancestorAt?_eq_none hloop)
                        let inner : Ancestor := ⟨target, path⟩
                        .cons ⟨path, target, false⟩
                          (tree.walkEntries (ancestors ++ [inner]) inner (tree.entryNames target))
                | _ => ⟨[⟨path, target, true⟩], none⟩
      first.append (tree.walkEntries ancestors directory names)
termination_by ((tree.outside ancestors).length, tree.depth - directory.location.length,
  names.length)
decreasing_by
  -- a directory of the tree itself lies one level further down
  · refine Prod.Lex.right' _ (tree.length_outside_append_le ancestors _) (Prod.Lex.left _ _ ?_)
    -- no location is longer than the tree is deep
    simp only [here, List.length_append, List.length_singleton] at this ⊢
    omega
  -- a link leads to a directory that the walk has been outside of
  · exact Prod.Lex.left _ _ this
  -- there is one name less to visit
  · exact Prod.Lex.right _ (Prod.Lex.right _ (Nat.lt_succ_self _))

/-- The walk from a path. -/
def walk (tree : FileTree) (path : RawText) : Walk :=
  match tree.locate path with
  | .error error => .failed (.lookup path error)
  | .ok location =>
      match tree.node? location with
      | some .directory =>
          let root : Ancestor := ⟨location, path⟩
          .cons ⟨path, location, false⟩ (tree.walkEntries [root] root (tree.entryNames location))
      | _ => ⟨[⟨path, location, true⟩], none⟩

end FileTree

end QueryWeave
