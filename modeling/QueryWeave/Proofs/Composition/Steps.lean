/-
**When the command succeeds.**

The command succeeds if each of its steps does: every path has to be walked to its end, the files
found there have to get their keys, every one of them and the template have to be read, and so on.
This module says for each step when it succeeds, and with what.

The simplest trees have all their files in the root.  Such a file is found under its path, a slash
and its name, and a command that is given this path takes the file for a fragment, whatever its
extension.

Main definitions:

* `QueryWeave.Command.RootFile` — a text file in the root, under a name that is fit for a path.

Main results:

* `QueryWeave.Command.result_wantedFilesAtAll` — finding files at several paths is finding them at
  each;
* `QueryWeave.Command.exists_named_of_mem_wantedFilesAtAll` — they are found under real paths;
* `QueryWeave.Command.gatherFiles_eq_ok_iff`, `QueryWeave.Command.loadFragments_eq_ok_iff`,
  `QueryWeave.Command.resolveAgainst_eq_ok_iff` — the steps that follow;
* `QueryWeave.Command.compose_eq_ok_iff` — **all steps together**;
* `QueryWeave.Command.RootFile.readText_eq`, `QueryWeave.Command.wantedFilesAtAll_of_rootFile` —
  files in the root are read, and are taken when they are named.
-/

import QueryWeave.Command.Composition
import QueryWeave.Proofs.Files.Locations
import QueryWeave.Proofs.Result

set_option relaxedAutoImplicit false
set_option autoImplicit false

namespace QueryWeave.Command

variable {tree : FileTree} {extensions : List String}

/-! ### Finding fragment files -/

/-- What an entry of a walk is taken for is the path of its location. -/
theorem eq_path_of_wantedFile? {explicit : Bool} {entry : WalkEntry} {file? : Option RawText}
    (h : (wantedFile? explicit extensions entry).result = .ok file?) {file : RawText}
    (hfile : file ∈ file?) : file = entry.location.path := by
  unfold wantedFile? at h
  split at h
  · cases h
    cases hfile
  · split at h
    · obtain ⟨path, hpath, rfl⟩ := Result.map_eq_ok_iff.1 h
      obtain rfl := Option.some_inj.1 hfile
      unfold realPath at hpath
      split at hpath
      · cases hpath
      · exact (Except.ok.inj hpath).symm
    · cases h
      cases hfile

/-- What is found among entries of a walk are paths of their locations. -/
theorem exists_entry_of_mem_wantedFiles {explicit : Bool} {entries : List WalkEntry}
    {files : List RawText} (h : (wantedFiles explicit extensions entries).result = .ok files)
    {file : RawText} (hfile : file ∈ files) : ∃ entry ∈ entries, file = entry.location.path := by
  induction entries generalizing files with
  | nil =>
      cases h
      cases hfile
  | cons entry entries ih =>
      simp only [wantedFiles, Attempt.result_bind, Attempt.result_pure, Result.bind_eq_ok_iff] at h
      obtain ⟨file?, hfirst, rest, hrest, heq⟩ := h
      cases heq
      rcases List.mem_append.1 hfile with hmem | hmem
      · exact ⟨entry, List.mem_cons_self, eq_path_of_wantedFile? hfirst (Option.mem_toList.1 hmem)⟩
      · obtain ⟨entry', hentry', heq⟩ := ih hrest hmem
        exact ⟨entry', List.mem_cons_of_mem _ hentry', heq⟩

/-- Finding files at several paths is finding them at each, in order. -/
theorem result_wantedFilesAtAll (paths : List RawText) :
    (wantedFilesAtAll tree extensions paths).result =
      (paths.mapM fun path => (wantedFilesAt tree extensions path).result).map List.flatten := by
  induction paths with
  | nil => rfl
  | cons path paths ih =>
      rw [wantedFilesAtAll, List.mapM_cons, Attempt.result_bind]
      cases (wantedFilesAt tree extensions path).result with
      | error error => rfl
      | ok files =>
          rw [Except.bind, Attempt.result_bind, ih]
          cases paths.mapM fun path => (wantedFilesAt tree extensions path).result with
          | error error => rfl
          | ok others => rfl

/-- Files are found at several paths if they are found at each. -/
theorem exists_wantedFilesAtAll_iff {paths : List RawText} :
    (∃ files, (wantedFilesAtAll tree extensions paths).result = .ok files) ↔
      ∀ path ∈ paths, ∃ found, (wantedFilesAt tree extensions path).result = .ok found := by
  rw [← Result.exists_mapM_eq_ok_iff]
  simp only [result_wantedFilesAtAll, Result.map_eq_ok_iff]
  constructor
  · rintro ⟨_, found, hfound, -⟩
    exact ⟨found, hfound⟩
  · rintro ⟨found, hfound⟩
    exact ⟨_, found, hfound, rfl⟩

/-- The files found at several paths are those found at one of them. -/
theorem mem_wantedFilesAtAll {paths files : List RawText}
    (h : (wantedFilesAtAll tree extensions paths).result = .ok files) {file : RawText} :
    file ∈ files ↔
      ∃ path ∈ paths, ∃ found, (wantedFilesAt tree extensions path).result = .ok found ∧
        file ∈ found := by
  rw [result_wantedFilesAtAll, Result.map_eq_ok_iff] at h
  obtain ⟨founds, hfounds, rfl⟩ := h
  simp only [List.mem_flatten, Result.mem_of_mapM_eq_ok hfounds]
  constructor
  · rintro ⟨found, ⟨path, hpath, hfound⟩, hfile⟩
    exact ⟨path, hpath, found, hfound, hfile⟩
  · rintro ⟨path, hpath, found, hfound, hfile⟩
    exact ⟨found, ⟨path, hpath, hfound⟩, hfile⟩

/-- Files are found under the paths of locations with proper names. -/
theorem exists_named_of_mem_wantedFilesAtAll (hnamed : tree.WellNamed) {paths files : List RawText}
    (h : (wantedFilesAtAll tree extensions paths).result = .ok files) {file : RawText}
    (hfile : file ∈ files) : ∃ location : Location, location.Named ∧ file = location.path := by
  obtain ⟨path, -, found, hfound, hmem⟩ := (mem_wantedFilesAtAll h).1 hfile
  simp only [wantedFilesAt, Attempt.result_bind, Result.bind_eq_ok_iff] at hfound
  obtain ⟨found', hfound', hend⟩ := hfound
  have heq : found' = found := by
    split at hend
    · cases hend
    · exact Except.ok.inj hend
  obtain ⟨entry, hentry, hpath⟩ := exists_entry_of_mem_wantedFiles hfound' (heq ▸ hmem)
  exact ⟨entry.location, hnamed.named_of_walk hentry, hpath⟩

theorem gatherFiles_eq_ok_iff {options : ComposeOptions} {files : List KeyedFile} :
    (gatherFiles tree options).result = .ok files ↔
      ∃ paths, (wantedFilesAtAll tree (bareExtensions options.extensions)
          options.fragmentPaths).result = .ok paths ∧ (assignKeys paths).result = .ok files := by
  simp only [gatherFiles, Attempt.result_bind, Attempt.result_mapError, Result.bind_eq_ok_iff,
    Result.mapError_eq_ok_iff]

/-! ### Reading and resolving -/

/-- A fragment has the key of its file. -/
theorem key_eq_of_loadFragment {file : KeyedFile} {entry : String × Source}
    (h : loadFragment tree file = .ok entry) : entry.1 = file.key := by
  unfold loadFragment at h
  split at h
  · cases h
  · split at h
    · cases h
    · cases h
      rfl

/-- The fragment of a file has the source that the text of the file is read into. -/
theorem loadFragment_eq_ok {file : KeyedFile} {text : String} {source : Source}
    (htext : readText tree file.path = .ok text) (hsource : Source.parse text = .ok source) :
    loadFragment tree file = .ok (file.key, source) := by
  rw [loadFragment, htext]
  simp only [hsource]

theorem loadFragments_eq_ok_iff {files : List KeyedFile} {fragments : Dictionary Source} :
    loadFragments tree files = .ok fragments ↔
      List.Forall₂ (fun file entry => loadFragment tree file = .ok entry) files fragments :=
  Result.mapM_eq_ok_iff

/-- The fragments have the keys of their files. -/
theorem keys_eq_of_loadFragments {files : List KeyedFile} {fragments : Dictionary Source}
    (h : loadFragments tree files = .ok fragments) :
    fragments.keys = files.map KeyedFile.key := by
  have hloads := loadFragments_eq_ok_iff.1 h
  clear h
  induction hloads with
  | nil => rfl
  | cons hentry _ ih =>
      rw [Dictionary.keys, List.map_cons, List.map_cons, key_eq_of_loadFragment hentry]
      exact congrArg _ ih

theorem resolveAgainst_eq_ok_iff {b : Bindings} {source : Source} {t : Template} :
    (resolveAgainst b source).result = .ok t ↔
      ∃ r, Resolver.new b = .ok r ∧ (r.resolve source).1 = .ok t := by
  unfold resolveAgainst
  cases Resolver.new b with
  | error e => simp
  | ok r => simp [Result.mapError_eq_ok_iff]

/-- **All steps together.** -/
theorem compose_eq_ok_iff {options : ComposeOptions} {text : String} :
    (compose tree options).result = .ok text ↔
      ∃ files fragments source t, (gatherFiles tree options).result = .ok files ∧
        loadFragments tree files = .ok fragments ∧
        loadTemplate tree options.templatePath = .ok source ∧
        (resolveAgainst ⟨fragments, options.vars⟩ source).result = .ok t ∧
        render options.raw t = .ok text := by
  simp only [compose, Attempt.result_bind, Attempt.result_tell, Attempt.result_ofExcept,
    Result.bind_eq_ok_iff]
  constructor
  · rintro ⟨files, hfiles, -, -, fragments, hfragments, source, hsource, t, ht, -, -, htext⟩
    exact ⟨files, fragments, source, t, hfiles, hfragments, hsource, ht, htext⟩
  · rintro ⟨files, fragments, source, t, hfiles, hfragments, hsource, ht, htext⟩
    exact ⟨files, hfiles, (), trivial, fragments, hfragments, source, hsource, t, ht, (), trivial,
      htext⟩

/-! ### Text files in the root -/

/-- A text file in the root, under a name that is fit for a path. -/
structure RootFile (tree : FileTree) (name : RawText) (text : String) : Prop where
  node : tree.node? [name] = some (.file (Text.bytes text))
  text : Text.decodeUtf8 (Text.bytes text) = .ok text
  name_le : name.length ≤ maxNameBytes
  path : checkPath (Path.slash :: name) = .ok ()
  steps : Path.steps (Path.slash :: name) = [.stay, .down name]

instance {tree : FileTree} {name : RawText} {text : String} : Decidable (RootFile tree name text) :=
  decidable_of_iff (tree.node? [name] = some (.file (Text.bytes text)) ∧
      Text.decodeUtf8 (Text.bytes text) = .ok text ∧ name.length ≤ maxNameBytes ∧
      checkPath (Path.slash :: name) = .ok () ∧
      Path.steps (Path.slash :: name) = [.stay, .down name])
    ⟨fun ⟨node, text, name_le, path, steps⟩ => ⟨node, text, name_le, path, steps⟩,
      fun h => ⟨h.node, h.text, h.name_le, h.path, h.steps⟩⟩

variable {name : RawText} {text : String}

/-- A file in the root is found under its path. -/
theorem RootFile.locate_eq (h : RootFile tree name text) :
    tree.locate (Path.slash :: name) = .ok [name] := by
  have horigin : tree.origin (Path.slash :: name) = [] := by simp [FileTree.origin, Path.isAbsolute]
  have hroot : tree.node? [] = some .directory := rfl
  rw [FileTree.locate, h.path]
  simp only [h.steps, horigin]
  rw [FileTree.follow, if_neg (not_not_intro hroot), FileTree.follow,
    if_neg (not_not_intro hroot)]
  simp only [List.nil_append, if_neg (Nat.not_lt.2 h.name_le), h.node]
  rw [FileTree.follow]

theorem RootFile.readText_eq (h : RootFile tree name text) :
    readText tree (Path.slash :: name) = .ok text := by
  rw [readText, FileTree.fileBytes?, h.locate_eq]
  simp only [h.node, h.text]
  rfl

/-- A file that is named is taken, whatever its extension. -/
theorem RootFile.wantedFilesAt_eq (h : RootFile tree name text) (extensions : List String) :
    (wantedFilesAt tree extensions (Path.slash :: name)).result = .ok [Path.slash :: name] := by
  have hwalk : tree.walk (Path.slash :: name) = ⟨[⟨Path.slash :: name, [name], true⟩], none⟩ := by
    rw [FileTree.walk, h.locate_eq]
    simp only [h.node]
  have hfile : tree.isFile (Path.slash :: name) = true := by
    simp only [FileTree.isFile, FileTree.fileBytes?, h.locate_eq, h.node, Option.isSome_some]
  have hpath : Location.path [name] = Path.slash :: name := by simp [Location.path]
  simp [wantedFilesAt, hwalk, hfile, wantedFiles, wantedFile?, isWanted, realPath, hpath, h.path,
    Except.bind, Except.map]

/-- Files that are named are taken, in order. -/
theorem wantedFilesAtAll_of_rootFile (extensions : List String) {files : List (RawText × String)}
    (h : ∀ file ∈ files, RootFile tree file.1 file.2) :
    (wantedFilesAtAll tree extensions (files.map fun file => Path.slash :: file.1)).result =
      .ok (files.map fun file => Path.slash :: file.1) := by
  induction files with
  | nil => rfl
  | cons file files ih =>
      have hfile := (h file List.mem_cons_self).wantedFilesAt_eq extensions
      have hfiles := ih fun file' hfile' => h file' (List.mem_cons_of_mem _ hfile')
      simp [wantedFilesAtAll, hfile, hfiles, Except.bind]

end QueryWeave.Command
