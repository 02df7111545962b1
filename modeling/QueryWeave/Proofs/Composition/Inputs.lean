/-
**The order of the inputs does not matter.**

The command is told paths to find fragments at, and texts for keys.  Paths may come in any order and
more than once, a file may be named itself or found below a directory, and a key may be given a text
several times, of which the last counts.  None of this reaches the text that is shown: it depends on
which paths there are, and on the text that each key ends up with.  Only the failure that is told
may be another one, since the first failure decides.

Main definitions:

* `QueryWeave.Command.SameInputs` — options that give the same inputs.

Main results:

* `QueryWeave.Command.gatherFiles_of_sameInputs` — the same files are found, under the same keys;
* `QueryWeave.Command.loadFragments_of_mem_iff` — the same fragments are read from them;
* `QueryWeave.Command.resolveAgainst_of_find?_eq` — and the template has the same document;
* `QueryWeave.Command.run_eq_of_sameInputs` — **the same text is shown, or both runs fail**.
-/

import QueryWeave.Dictionary
import QueryWeave.Proofs.Composition.Steps
import QueryWeave.Proofs.Files.Keys
import QueryWeave.Proofs.KeyOrder
import QueryWeave.Proofs.Resolution.Relevance

set_option relaxedAutoImplicit false
set_option autoImplicit false

namespace QueryWeave.Command

/-- Options with the same paths and extensions, in any order and with any repetitions, that end up
with the same text for each key, and that agree in everything else. -/
structure SameInputs (options options' : ComposeOptions) : Prop where
  fragmentPaths : ∀ path, path ∈ options.fragmentPaths ↔ path ∈ options'.fragmentPaths
  extensions : ∀ extension, extension ∈ options.extensions ↔ extension ∈ options'.extensions
  raw : options.raw = options'.raw
  templatePath : options.templatePath = options'.templatePath
  vars : ∀ key, Dictionary.find? options.vars key = Dictionary.find? options'.vars key

theorem SameInputs.symm {options options' : ComposeOptions} (h : SameInputs options options') :
    SameInputs options' options where
  fragmentPaths := fun path => (h.fragmentPaths path).symm
  extensions := fun extension => (h.extensions extension).symm
  raw := h.raw.symm
  templatePath := h.templatePath.symm
  vars := fun key => (h.vars key).symm

/-- The wanted extensions are put in order. -/
theorem SameInputs.bareExtensions_eq {options options' : ComposeOptions}
    (h : SameInputs options options') :
    bareExtensions options.extensions = bareExtensions options'.extensions := by
  have hkeys : ∀ key, (∃ x ∈ options.extensions.map bareExtension, id x = key) ↔
      ∃ x ∈ options'.extensions.map bareExtension, id x = key := by
    intro key
    simp only [List.mem_map, id_eq, exists_eq_right, h.extensions]
  have hsorted := KeyOrder.map_ofList_eq hkeys
  simpa only [List.map_id, bareExtensions, KeyOrder.sorted] using hsorted

variable {tree : FileTree} {options options' : ComposeOptions}

/-- The same files are found, and under the same keys. -/
theorem gatherFiles_of_sameInputs (hnamed : tree.WellNamed) (h : SameInputs options options')
    {files : List KeyedFile} (hfiles : (gatherFiles tree options).result = .ok files) :
    ∃ files', (gatherFiles tree options').result = .ok files' ∧
      (files.map KeyedFile.key).Nodup ∧ (files'.map KeyedFile.key).Nodup ∧
      ∀ file, file ∈ files ↔ file ∈ files' := by
  obtain ⟨paths, hpaths, hassign⟩ := gatherFiles_eq_ok_iff.1 hfiles
  have hfound := exists_wantedFilesAtAll_iff.1 ⟨paths, hpaths⟩
  obtain ⟨paths', hpaths'⟩ := exists_wantedFilesAtAll_iff.2 fun path hpath =>
    hfound path ((h.fragmentPaths path).2 hpath)
  have hmem : ∀ path, path ∈ paths ↔ path ∈ paths' := by
    intro path
    rw [mem_wantedFilesAtAll hpaths, mem_wantedFilesAtAll hpaths']
    simp only [h.fragmentPaths]
  have hkeyed := Keyed.of_assignKeys hassign
  have hkeyable := hkeyed.keyable.of_subset fun path => (hmem path).2
  obtain ⟨files', hassign'⟩ := exists_assignKeys_iff.2 hkeyable
  have hkeyed' := Keyed.of_assignKeys hassign'
  -- real paths are never the same without being equal
  have hsame : ∀ path ∈ paths, ∀ path' ∈ paths, Path.same path path' = true → path = path' := by
    intro path hpath path' hpath' hsame
    obtain ⟨location, hlocation, rfl⟩ :=
      exists_named_of_mem_wantedFilesAtAll hnamed hpaths hpath
    obtain ⟨location', hlocation', rfl⟩ :=
      exists_named_of_mem_wantedFilesAtAll hnamed hpaths hpath'
    rw [(Location.same_path_iff hlocation hlocation').1 hsame]
  rw [h.bareExtensions_eq] at hpaths'
  exact ⟨files', gatherFiles_eq_ok_iff.2 ⟨paths', hpaths', hassign'⟩, hkeyed.nodup, hkeyed'.nodup,
    hkeyed.mem_iff hkeyed' hmem hsame⟩

/-- From the same files the same fragments are read. -/
theorem loadFragments_of_mem_iff {files files' : List KeyedFile}
    (hnodup : (files.map KeyedFile.key).Nodup) (hnodup' : (files'.map KeyedFile.key).Nodup)
    (hmem : ∀ file, file ∈ files ↔ file ∈ files') {fragments : Dictionary Source}
    (hfragments : loadFragments tree files = .ok fragments) :
    ∃ fragments', loadFragments tree files' = .ok fragments' ∧
      ∀ key, fragments.find? key = fragments'.find? key := by
  have hloads := Result.exists_mapM_eq_ok_iff.1 ⟨fragments, hfragments⟩
  obtain ⟨fragments', hfragments'⟩ := Result.exists_mapM_eq_ok_iff.2 fun file hfile =>
    hloads file ((hmem file).2 hfile)
  have hentries : ∀ entry, entry ∈ fragments ↔ entry ∈ fragments' := by
    intro entry
    rw [Result.mem_of_mapM_eq_ok hfragments, Result.mem_of_mapM_eq_ok hfragments']
    simp only [hmem]
  refine ⟨fragments', hfragments', Dictionary.find?_eq_of_mem_iff ?_ ?_ hentries⟩
  · rwa [keys_eq_of_loadFragments hfragments]
  · rwa [keys_eq_of_loadFragments hfragments']

/-- Against bindings in which the same is found, the template has the same document. -/
theorem resolveAgainst_of_find?_eq {b b' : Bindings} {source : Source} {t : Template}
    (hfragments : ∀ key, b.fragments.find? key = b'.fragments.find? key)
    (hvars : ∀ key, b.vars.find? key = b'.vars.find? key)
    (h : (resolveAgainst b source).result = .ok t) :
    ∃ t', (resolveAgainst b' source).result = .ok t' ∧ t'.documentText = t.documentText := by
  obtain ⟨r, hnew, ht⟩ := resolveAgainst_eq_ok_iff.1 h
  have hdisjoint : ∀ key ∈ b'.fragments.keys, key ∉ b'.vars.keys := by
    have hshared := Bindings.sharedKeys_eq_nil_iff.1 r.unambiguous
    rw [(Resolver.bindings_memory_of_new hnew).1] at hshared
    intro key
    rw [Dictionary.mem_keys_iff, Dictionary.mem_keys_iff, ← hfragments, ← hvars,
      ← Dictionary.mem_keys_iff, ← Dictionary.mem_keys_iff]
    exact hshared key
  have hnew' := Resolver.new_eq_ok (Bindings.sharedKeys_eq_nil_iff.2 hdisjoint)
  have hagree : b.AgreeOn b' source.keys := fun key _ => ⟨hfragments key, hvars key⟩
  have hdocument := Resolver.map_documentText_eq_of_map_shape_eq
    (Resolver.shape_resolve_eq_of_agreeOn hnew hnew' hagree)
  rw [ht] at hdocument
  obtain ⟨t', ht', heq⟩ := Result.map_eq_ok_iff.1 hdocument.symm
  exact ⟨t', resolveAgainst_eq_ok_iff.2 ⟨_, hnew', ht'⟩, heq⟩

/-- What is shown depends on the document alone. -/
theorem render_congr {raw : Bool} {t t' : Template} (h : t'.documentText = t.documentText) :
    render raw t' = render raw t := by
  rw [render, render, h]

/-- What is shown for some inputs is shown for the same inputs. -/
theorem compose_of_sameInputs (hnamed : tree.WellNamed) (h : SameInputs options options')
    {text : String} (hcompose : (compose tree options).result = .ok text) :
    (compose tree options').result = .ok text := by
  obtain ⟨files, fragments, source, t, hfiles, hfragments, hsource, ht, htext⟩ :=
    compose_eq_ok_iff.1 hcompose
  obtain ⟨files', hfiles', hnodup, hnodup', hmem⟩ := gatherFiles_of_sameInputs hnamed h hfiles
  obtain ⟨fragments', hfragments', hfind⟩ :=
    loadFragments_of_mem_iff hnodup hnodup' hmem hfragments
  obtain ⟨t', ht', hdocument⟩ : ∃ t',
      (resolveAgainst ⟨fragments', options'.vars⟩ source).result = .ok t' ∧
        t'.documentText = t.documentText :=
    resolveAgainst_of_find?_eq hfind h.vars ht
  refine compose_eq_ok_iff.2 ⟨files', fragments', source, t', hfiles', hfragments', ?_, ht', ?_⟩
  · rwa [← h.templatePath]
  · rwa [← h.raw, render_congr hdocument]

/-- **The same inputs, in whatever order and repetition, show the same text, or both runs fail.** -/
theorem run_eq_of_sameInputs (tree : FileTree) (options options' : ComposeOptions)
    (verbose verbose' : Bool) (hnamed : tree.WellNamed) (h : SameInputs options options') :
    (∃ text, ((Invocation.compose verbose options).run tree).2 = .printed text ∧
      ((Invocation.compose verbose' options').run tree).2 = .printed text) ∨
    ∃ message message', ((Invocation.compose verbose options).run tree).2 = .failed message ∧
      ((Invocation.compose verbose' options').run tree).2 = .failed message' := by
  simp only [Invocation.run]
  cases hresult : (compose tree options).result with
  | ok text =>
      rw [compose_of_sameInputs hnamed h hresult]
      exact .inl ⟨text, rfl, rfl⟩
  | error error =>
      cases hresult' : (compose tree options').result with
      | ok text =>
          rw [compose_of_sameInputs hnamed h.symm hresult'] at hresult
          cases hresult
      | error error' => exact .inr ⟨_, _, rfl, rfl⟩

/-! ### A directory of fragments -/

/-- Three fragments below a directory, one of them further down and one with an extension that is
not wanted, and a template that needs them all. -/
def shelfTree : FileTree :=
  ((((FileTree.empty [Text.bytes "home"]).place (Text.bytes "shelf/book.graphql")
    (.file (Text.bytes "... on Book { title ...${author} }"))).place
    (Text.bytes "shelf/people/author.gql")
    (.file (Text.bytes "... on Author { name(of: ${name}) }"))).place
    (Text.bytes "shelf/cover.txt") (.file (Text.bytes "... on Book { cover }"))).place
    (Text.bytes "template") (.file (Text.bytes "{ ...${book} ...${cover} }"))

/-- The file without a wanted extension is named, as is one that is found anyway, and a key is given
a text twice. -/
def shelfOptions : ComposeOptions :=
  ⟨["shelf", "shelf/people/author.gql", "shelf/cover.txt"].map Text.bytes, defaultExtensions, false,
    Text.bytes "template", [("name", "first"), ("other", "none"), ("name", "last")]⟩

/-- Everything comes in another order, and the directory twice. -/
def shelfOptions' : ComposeOptions :=
  ⟨["shelf/cover.txt", "shelf", "shelf/people/author.gql", "shelf"].map Text.bytes,
    ["gql", "graphql"], false, Text.bytes "template", [("name", "last"), ("other", "none")]⟩

theorem wellNamed_shelfTree : shelfTree.WellNamed :=
  ((((FileTree.wellNamed_empty (by unfold Location.Named; decide)).place _ _).place _ _).place
    _ _).place _ _

theorem sameInputs_shelf : SameInputs shelfOptions shelfOptions' where
  fragmentPaths := by
    intro path
    simp only [shelfOptions, shelfOptions', List.map_cons, List.map_nil, List.mem_cons,
      List.not_mem_nil]
    tauto
  extensions := by
    intro extension
    simp only [shelfOptions, shelfOptions', defaultExtensions, List.mem_cons, List.not_mem_nil]
    tauto
  raw := rfl
  templatePath := rfl
  vars := by
    intro key
    simp only [shelfOptions, shelfOptions', Dictionary.find?]
    by_cases hname : "name" = key
    · subst hname
      simp
    · simp [hname]

theorem run_eq_shelf :
    shelfTree.WellNamed ∧ SameInputs shelfOptions shelfOptions' ∧
    ((∃ text, ((Invocation.compose false shelfOptions).run shelfTree).2 = .printed text ∧
      ((Invocation.compose true shelfOptions').run shelfTree).2 = .printed text) ∨
    ∃ message message',
      ((Invocation.compose false shelfOptions).run shelfTree).2 = .failed message ∧
      ((Invocation.compose true shelfOptions').run shelfTree).2 = .failed message') :=
  ⟨wellNamed_shelfTree, sameInputs_shelf,
    run_eq_of_sameInputs shelfTree shelfOptions shelfOptions' false true wellNamed_shelfTree
      sameInputs_shelf⟩

end QueryWeave.Command
