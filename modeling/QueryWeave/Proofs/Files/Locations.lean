/-
**Names and locations.**

A name in a directory is not empty, holds no slash, and is neither a dot nor two dots.  In a tree
that has only such names, the path of a location tells the location, so two files never have the
same path.  Following paths, walking and placing nodes lead to such names only, and so every tree
that is built by placing nodes is of this kind.

Main definitions:

* `QueryWeave.Path.IsName` — bytes that can name an entry of a directory;
* `QueryWeave.Location.Named`, `QueryWeave.FileTree.WellNamed` — all names are such bytes.

Main results:

* `QueryWeave.Location.components_path` — the components of the path of a location;
* `QueryWeave.Location.same_path_iff` — **paths of two locations are never the same**;
* `QueryWeave.FileTree.WellNamed.named_of_locate`, `QueryWeave.FileTree.WellNamed.named_of_walk` —
  what is found has proper names;
* `QueryWeave.FileTree.wellNamed_empty`, `QueryWeave.FileTree.WellNamed.place` — and so have trees
  that are built by placing nodes.
-/

import Mathlib.Data.List.Basic
import QueryWeave.Files.Walk
import QueryWeave.Text.Cut

set_option relaxedAutoImplicit false
set_option autoImplicit false

namespace QueryWeave

/-! ### Names in paths -/

namespace Path

/-- Bytes that can name an entry of a directory. -/
structure IsName (name : RawText) : Prop where
  ne_empty : name ≠ []
  ne_dot : name ≠ [dot]
  ne_dots : name ≠ [dot, dot]
  not_slash_mem : slash ∉ name

instance {name : RawText} : Decidable (IsName name) :=
  decidable_of_iff (name ≠ [] ∧ name ≠ [dot] ∧ name ≠ [dot, dot] ∧ slash ∉ name)
    ⟨fun ⟨ne_empty, ne_dot, ne_dots, not_slash_mem⟩ => ⟨ne_empty, ne_dot, ne_dots, not_slash_mem⟩,
      fun h => ⟨h.ne_empty, h.ne_dot, h.ne_dots, h.not_slash_mem⟩⟩

theorem IsName.ofPiece? {name : RawText} (h : IsName name) :
    Component.ofPiece? name = some (.normal name) := by
  simp [Component.ofPiece?, h.ne_empty, h.ne_dot, h.ne_dots]

/-- The steps of a path go down to proper names. -/
theorem isName_of_down_mem_steps {path name : RawText} (h : Step.down name ∈ steps path) :
    IsName name := by
  obtain ⟨piece, hpiece, hstep⟩ := List.mem_map.1 h
  have hslash : slash ∉ piece := Text.not_mem_of_mem_pieces hpiece
  unfold Step.ofPiece at hstep
  split at hstep
  · cases hstep
  · next hstay =>
      split at hstep
      · cases hstep
      · next hup =>
          cases hstep
          exact ⟨fun h => hstay (.inl h), fun h => hstay (.inr h), hup, hslash⟩

end Path

/-! ### Paths of locations -/

namespace Location

/-- All names on the way to a location are proper names. -/
def Named (location : Location) : Prop :=
  ∀ name ∈ location, Path.IsName name

theorem named_nil : Named [] := by
  intro name hname
  cases hname

variable {location location' : Location}

theorem Named.concat (h : location.Named) {name : RawText} (hname : Path.IsName name) :
    Named (location ++ [name]) := by
  intro name' hname'
  rcases List.mem_append.1 hname' with hmem | hmem
  · exact h name' hmem
  · rw [List.mem_singleton.1 hmem]
    exact hname

theorem Named.dropLast (h : location.Named) : Named location.dropLast := by
  intro name hname
  exact h name (List.dropLast_subset _ hname)

/-- The pieces of the path of a location are the names, behind nothing in front of the first
slash. -/
theorem pieces_path (h : location.Named) (hne : location ≠ []) :
    Path.pieces location.path = [] :: location := by
  have hrest : Text.pieces Path.slash ([Path.slash].intercalate location) = location :=
    Text.pieces_intercalate hne fun name hname => (h name hname).not_slash_mem
  have hfirst : Text.pieces Path.slash ([] ++ location.path) =
      [] :: Text.pieces Path.slash ([Path.slash].intercalate location) :=
    Text.pieces_append List.not_mem_nil _
  rw [Path.pieces, ← List.nil_append location.path, hfirst, hrest]

/-- The path of a location has its names for components. -/
theorem components_path (h : location.Named) :
    Path.components location.path = .root :: location.map .normal := by
  have habsolute : Path.isAbsolute location.path = true := rfl
  have hpieces : (Path.pieces location.path).filterMap Path.Component.ofPiece? =
      location.map .normal := by
    cases hlocation : location with
    | nil => decide +kernel
    | cons name names =>
        rw [← hlocation, pieces_path h (by simp [hlocation]), List.filterMap_cons_none rfl]
        exact List.filterMap_eq_map_iff_forall_eq_some.2 fun name hname => (h name hname).ofPiece?
  rw [Path.components]
  simp only [habsolute, if_true, hpieces, List.singleton_append]

/-- **Different locations have different paths**, even up to the spelling of a path. -/
theorem same_path_iff (h : location.Named) (h' : location'.Named) :
    Path.same location.path location'.path = true ↔ location = location' := by
  rw [Path.same, components_path h, components_path h', beq_iff_eq, List.cons_inj_right]
  exact List.map_inj_right fun _ _ => Path.Component.normal.inj

end Location

/-! ### Following and walking -/

/-- An entry of one walk after the other is met on one of them. -/
theorem Walk.mem_entries_append {w w' : Walk} {entry : WalkEntry}
    (h : entry ∈ (w.append w').entries) : entry ∈ w.entries ∨ entry ∈ w'.entries := by
  unfold Walk.append at h
  split at h
  · exact .inl h
  · exact List.mem_append.1 h

namespace FileTree

/-- Following steps that go down to proper names leads to proper names, also through links. -/
theorem named_of_follow {tree : FileTree} {creating : Bool} {links : Nat}
    {location location' : Location} {steps : List Path.Step} (hlocation : location.Named)
    (hsteps : ∀ name, Path.Step.down name ∈ steps → Path.IsName name)
    (h : tree.follow creating links location steps = .ok location') : location'.Named := by
  fun_induction tree.follow creating links location steps with
  | case1 =>
      cases h
      exact hlocation
  -- staying
  | case3 links location steps _ ih =>
      exact ih hlocation (fun name hname => hsteps name (List.mem_cons_of_mem _ hname)) h
  -- going up
  | case4 links location steps _ ih =>
      exact ih hlocation.dropLast (fun name hname => hsteps name (List.mem_cons_of_mem _ hname)) h
  -- an entry about to be made
  | case6 links location steps _ name =>
      cases h
      exact hlocation.concat (hsteps name List.mem_cons_self)
  -- a link
  | case9 location steps _ name _ target _ links start ih =>
      refine ih ?_ ?_ h
      · unfold start
        split
        · exact Location.named_nil
        · exact hlocation
      · intro name' hname'
        rcases List.mem_append.1 hname' with hmem | hmem
        · exact Path.isName_of_down_mem_steps hmem
        · exact hsteps name' (List.mem_cons_of_mem _ hmem)
  -- an entry that is there
  | case10 links location steps _ name _ node _ _ ih =>
      refine ih (hlocation.concat (hsteps name List.mem_cons_self)) ?_ h
      exact fun name' hname' => hsteps name' (List.mem_cons_of_mem _ hname')
  | case2 | case5 | case7 | case8 => cases h

/-- Going down to an entry with a proper name leads to proper names. -/
theorem named_of_follow_down {tree : FileTree} {creating : Bool} {links : Nat}
    {location location' : Location} {name : RawText} (hlocation : location.Named)
    (hname : Path.IsName name)
    (h : tree.follow creating links location [.down name] = .ok location') : location'.Named := by
  refine named_of_follow hlocation ?_ h
  intro name' hname'
  cases List.mem_singleton.1 hname'
  exact hname

/-- A tree whose nodes, and whose working directory, have proper names. -/
structure WellNamed (tree : FileTree) : Prop where
  nodes : ∀ entry ∈ tree.nodes, entry.1.Named
  workingDirectory : tree.workingDirectory.Named

namespace WellNamed

variable {tree : FileTree}

theorem named_of_node? (h : tree.WellNamed) {location : Location} {node : Node}
    (hnode : tree.node? location = some node) : location.Named := by
  rcases List.mem_cons.1 (mem_directories_of_node? hnode) with rfl | hmem
  · exact Location.named_nil
  · obtain ⟨entry, hentry, rfl⟩ := List.mem_map.1 hmem
    exact h.nodes entry hentry

theorem origin (h : tree.WellNamed) (path : RawText) : (tree.origin path).Named := by
  unfold FileTree.origin
  split
  · exact Location.named_nil
  · exact h.workingDirectory

theorem named_of_locate (h : tree.WellNamed) {path : RawText} {location : Location}
    (hlocate : tree.locate path = .ok location) : location.Named := by
  unfold locate at hlocate
  split at hlocate
  · cases hlocate
  · exact named_of_follow (h.origin path) (fun _ => Path.isName_of_down_mem_steps) hlocate

/-- The entries below a directory have proper names: they are nodes, or links lead to them. -/
theorem named_of_walkEntries (h : tree.WellNamed) (ancestors : List Ancestor)
    (directory : Ancestor) (names : List RawText) :
    ∀ entry ∈ (tree.walkEntries ancestors directory names).entries, entry.location.Named := by
  induction ancestors, directory, names using walkEntries.induct tree with
  | case1 ancestors directory => simp [walkEntries, Walk.nowhere]
  | case2 ancestors directory name names path here ihdirectory ihlink ihnames =>
      intro entry hentry
      rw [walkEntries] at hentry
      rcases Walk.mem_entries_append hentry with hfirst | hrest
      · split at hfirst
        · cases hfirst
        -- a file
        · next hnode =>
            rw [List.mem_singleton.1 hfirst]
            exact h.named_of_node? hnode
        -- a directory
        · next hnode =>
            rcases List.mem_cons.1 hfirst with rfl | hbelow
            · exact h.named_of_node? hnode
            · split at hbelow
              · cases hbelow
              · exact ihdirectory hnode entry hbelow
        -- a link
        · split at hfirst
          · cases hfirst
          · next target hlocate =>
              split at hfirst
              · next htarget =>
                  split at hfirst
                  · cases hfirst
                  · next hloop =>
                      rcases List.mem_cons.1 hfirst with rfl | hbelow
                      · exact h.named_of_locate hlocate
                      · exact ihlink target htarget hloop entry hbelow
              · rw [List.mem_singleton.1 hfirst]
                exact h.named_of_locate hlocate
      · exact ihnames entry hrest

/-- What a walk meets has proper names. -/
theorem named_of_walk (h : tree.WellNamed) {path : RawText} {entry : WalkEntry}
    (hentry : entry ∈ (tree.walk path).entries) : entry.location.Named := by
  unfold walk at hentry
  split at hentry
  · cases hentry
  · next location hlocate =>
      split at hentry
      · rcases List.mem_cons.1 hentry with rfl | hbelow
        · exact h.named_of_locate hlocate
        · exact h.named_of_walkEntries _ _ _ entry hbelow
      · rw [List.mem_singleton.1 hentry]
        exact h.named_of_locate hlocate

/-! ### Building trees -/

theorem set (h : tree.WellNamed) {location : Location} (hlocation : location.Named)
    (node : Node) : (tree.set location node).WellNamed where
  nodes := by
    intro entry hentry
    rcases List.mem_cons.1 hentry with rfl | hmem
    · exact hlocation
    · exact h.nodes entry (List.mem_filter.1 hmem).1
  workingDirectory := h.workingDirectory

/-- Making directories along steps to proper names makes proper names, and ends at such. -/
theorem makeDirectories (h : tree.WellNamed) {location : Location} {steps : List Path.Step}
    (hlocation : location.Named) (hsteps : ∀ name, Path.Step.down name ∈ steps → Path.IsName name)
    {result : FileTree × Location} (hresult : tree.makeDirectories location steps = some result) :
    result.1.WellNamed ∧ result.2.Named := by
  have hrest : ∀ {step : Path.Step} {steps : List Path.Step},
      (∀ name, Path.Step.down name ∈ step :: steps → Path.IsName name) →
        ∀ name, Path.Step.down name ∈ steps → Path.IsName name :=
    fun hall name hname => hall name (List.mem_cons_of_mem _ hname)
  fun_induction tree.makeDirectories location steps with
  | case1 =>
      cases hresult
      exact ⟨h, hlocation⟩
  | case2 tree location steps ih => exact ih h hlocation (hrest hsteps) hresult
  | case3 tree location steps ih => exact ih h hlocation.dropLast (hrest hsteps) hresult
  -- a directory that is missing
  | case4 tree location name steps _ ih =>
      have hname := hlocation.concat (hsteps name List.mem_cons_self)
      exact ih (h.set hname .directory) hname (hrest hsteps) hresult
  -- a directory that is there, perhaps behind links
  | case6 tree location name steps _ _ location' hfollow _ ih =>
      have hlocation' := named_of_follow_down hlocation (hsteps name List.mem_cons_self) hfollow
      exact ih h hlocation' (hrest hsteps) hresult
  | case5 | case7 => cases hresult

theorem put (h : tree.WellNamed) {directory : Location} (hdirectory : directory.Named)
    {name : RawText} (hname : Path.IsName name) (node : Node) :
    (tree.put directory name node).WellNamed := by
  unfold FileTree.put
  split
  -- a file is made where the links of its name lead
  · dsimp only
    split
    · exact h
    · next location hfollow =>
        have hlocation := named_of_follow_down hdirectory hname hfollow
        split
        · exact h.set hlocation _
        · exact h.set hlocation _
        · exact h
  · have hlocation := hdirectory.concat hname
    dsimp only
    split
    · exact h.set hlocation _
    · exact h.set hlocation _
    · exact h

/-- **Placing nodes keeps names proper**, whatever the path. -/
theorem place (h : tree.WellNamed) (path : RawText) (node : Node) :
    (tree.place path node).WellNamed := by
  have hsteps : ∀ name, Path.Step.down name ∈ (Path.steps path).filter (· ≠ .stay) →
      Path.IsName name :=
    fun name hname => Path.isName_of_down_mem_steps (List.mem_filter.1 hname).1
  unfold FileTree.place
  dsimp only
  split
  · cases hmade : tree.makeDirectories (tree.origin path)
        ((Path.steps path).filter (· ≠ .stay)) with
    | none => exact h
    | some result => exact (h.makeDirectories (h.origin path) hsteps hmade).1
  · split
    · next name hlast =>
        split
        · exact h
        · next tree' directory hmade =>
            have hmade' := h.makeDirectories (h.origin path)
              (fun name hname => hsteps name (List.dropLast_subset _ hname)) hmade
            exact hmade'.1.put hmade'.2 (hsteps name (List.mem_of_getLast? hlast)) _
    · exact h

end WellNamed

/-- The tree of a working directory with a proper location is well named. -/
theorem wellNamed_empty {workingDirectory : Location} (h : workingDirectory.Named) :
    (empty workingDirectory).WellNamed where
  nodes := by
    intro entry hentry
    obtain ⟨n, -, rfl⟩ := List.mem_map.1 hentry
    exact fun name hname => h name (List.mem_of_mem_take hname)
  workingDirectory := h

end FileTree

end QueryWeave
