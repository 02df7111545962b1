/-
**From files to the text that is shown.**

The command finds the texts of fragments in files, and plain texts in its arguments.  Asked for the
assembled text, it shows the document of the template, with a line feed at the end.

Main definitions:

* `QueryWeave.Texts.FoundBy` — the texts that the command finds.

Main results:

* `QueryWeave.Texts.loadFragments_eq` — the command reads the texts into bindings;
* `QueryWeave.Texts.run_raw` — it shows the document of what the template resolves to;
* `QueryWeave.Texts.composes` — **which is the document of the text**.
-/

import Mathlib.Data.List.Forall2
import QueryWeave.Command.Composition
import QueryWeave.Proofs.Composition.Document
import QueryWeave.Proofs.Composition.Steps
import QueryWeave.Proofs.Resolution.Memoisation

set_option relaxedAutoImplicit false
set_option autoImplicit false

namespace QueryWeave.Texts

/-! ### Texts that a command finds -/

open Command

variable {x : Texts} {b : Bindings}

/-- The texts that the command finds: those of the fragment files under their keys, the plain texts
in its arguments, and the text of the template file. -/
structure FoundBy (x : Texts) (text : String) (tree : FileTree) (options : ComposeOptions) :
    Prop where
  fragments : ∃ files, (gatherFiles tree options).result = .ok files ∧
    List.Forall₂ (fun file entry => file.key = entry.1 ∧ readText tree file.path = .ok entry.2)
      files x.fragments
  vars : options.vars = x.vars
  template : readText tree options.templatePath = .ok text

/-- The command reads the texts in its files into bindings. -/
theorem loadFragments_eq (hreads : x.Reads b) {tree : FileTree} {files : List KeyedFile}
    (hfiles : List.Forall₂ (fun file entry =>
      file.key = entry.1 ∧ readText tree file.path = .ok entry.2) files x.fragments) :
    loadFragments tree files = .ok b.fragments := by
  have hfragments := hreads.fragments
  rw [loadFragments_eq_ok_iff]
  generalize x.fragments = texts, b.fragments = sources at hfiles hfragments
  induction hfiles generalizing sources with
  | nil =>
      cases hfragments
      exact .nil
  | @cons file entry files texts hfile _ ih =>
      cases hfragments with
      | @cons _ entry' _ sources hentry hrest =>
          have hload : loadFragment tree file = .ok entry' := by
            rw [loadFragment_eq_ok hfile.2 hentry.2, hfile.1, ← hentry.1]
          exact .cons hload (ih sources hrest)

/-- What the command shows when it is asked for the assembled text. -/
theorem run_raw (hreads : x.Reads b) {text : String} {tree : FileTree} {options : ComposeOptions}
    (hfound : x.FoundBy text tree options) {source : Source}
    (hparse : Source.parse text = .ok source) {r : Resolver} (hnew : Resolver.new b = .ok r)
    {t : Template} (ht : (r.resolve source).1 = .ok t) (verbose : Bool)
    (hraw : options.raw = true) :
    ((Invocation.compose verbose options).run tree).2 = .printed (endLine t.documentText) := by
  obtain ⟨⟨files, hgather, hfiles⟩, hvars, htemplate⟩ := hfound
  have hbindings : (⟨b.fragments, options.vars⟩ : Bindings) = b := by
    rw [hvars, ← hreads.vars]
  have hload : loadTemplate tree options.templatePath = .ok source := by
    rw [loadTemplate, htemplate]
    simp only [hparse]
    rfl
  have hresolve : (resolveAgainst b source).result = .ok t :=
    resolveAgainst_eq_ok_iff.2 ⟨r, hnew, ht⟩
  have hcompose : (compose tree options).result = .ok (endLine t.documentText) := by
    refine compose_eq_ok_iff.2 ⟨files, b.fragments, source, t, hgather,
      loadFragments_eq hreads hfiles, hload, ?_, ?_⟩
    · rwa [hbindings]
    · rw [render, hraw, if_pos rfl]
  rw [Invocation.run]
  simp only [hcompose, Outcome.ofResult]

/-- **The document is the document of the text.**  Texts that can be read, with plain texts under
other keys, have a resolver.  If it resolves the template, then the assembled text is the document
that is told from the texts; and a command that finds these texts shows it, with a line feed if it
does not end in one already. -/
theorem composes (x : Texts) (b : Bindings) (text : String) (source : Source)
    (hdisjoint : x.Disjoint) (hreads : x.Reads b) (hparse : Source.parse text = .ok source) :
    ∃ r, Resolver.new b = .ok r ∧ ∀ t, (r.resolve source).1 = .ok t →
      (∃ order defined, x.Composes text b.spelling order defined t.documentText) ∧
      ∀ (tree : FileTree) (options : ComposeOptions) (verbose : Bool),
        x.FoundBy text tree options → options.raw = true →
        ((Invocation.compose verbose options).run tree).2 = .printed
          (if t.documentText.toList.getLast? = some '\n' then t.documentText
            else t.documentText ++ "\n") := by
  have hshared : b.sharedKeys = [] := by
    rw [Bindings.sharedKeys_eq_nil_iff, hreads.keys_eq, hreads.vars]
    exact hdisjoint
  have hnew := Resolver.new_eq_ok hshared
  refine ⟨_, hnew, fun t ht => ⟨?_, ?_⟩⟩
  · have hshape := Resolver.shape_resolve_of_new hnew source
    rw [ht] at hshape
    rw [← t.documentText_shape]
    exact composes_of_expandSource hdisjoint hreads hparse hshape.symm
  · intro tree options verbose hfound hraw
    exact run_raw hreads hfound hparse hnew ht verbose hraw

/-! ### A page -/

/-- A page with two fragments of one text, under two keys, and with a plain text that looks like a
placeholder. -/
def page : Texts where
  fragments :=
    [("page", "... on Page { size(n: ${n}) ...${user} ...${ owner } }"),
      ("user", "... on User { id }"), ("owner", "... on User { id }")]
  vars := [("n", "${n}")]

def pageTemplate : String := "{ ...${page} }\n"

/-- What the texts of the page are read into. -/
def pageBindings : Bindings where
  fragments :=
    [("page", ⟨["n", "user", "owner"], ["... on Page \x7b size(n: ", ") ...", " ...", " \x7d"]⟩),
      ("user", ⟨[], ["... on User { id }"]⟩), ("owner", ⟨[], ["... on User { id }"]⟩)]
  vars := page.vars

def pageSource : Source := ⟨["page"], ["\x7b ...", " \x7d\n"]⟩

/-- The texts of the page as files. -/
def pageFiles : List (RawText × String) :=
  page.fragments.map fun entry => (Text.bytes (entry.1 ++ ".graphql"), entry.2)

def pageTree : FileTree :=
  ⟨(pageFiles ++ [(Text.bytes "template", pageTemplate)]).map fun file =>
    ([file.1], .file (Text.bytes file.2)), []⟩

def pageOptions : ComposeOptions :=
  ⟨pageFiles.map fun file => Path.slash :: file.1, [], true, Text.bytes "/template", page.vars⟩

theorem reads_page : page.Reads pageBindings where
  fragments := .cons ⟨rfl, by decide +kernel⟩
    (.cons ⟨rfl, by decide +kernel⟩ (.cons ⟨rfl, by decide +kernel⟩ .nil))
  vars := rfl

/-- The fragment files of the page, each under the key of its text. -/
def pageKeyed : List KeyedFile :=
  page.fragments.map fun entry => ⟨entry.1, Path.slash :: Text.bytes (entry.1 ++ ".graphql")⟩

theorem rootFile_page : ∀ file ∈ pageFiles, RootFile pageTree file.1 file.2 := by
  decide +kernel

theorem foundBy_page : page.FoundBy pageTemplate pageTree pageOptions where
  fragments := by
    have hpaths := wantedFilesAtAll_of_rootFile (bareExtensions []) rootFile_page
    have hkeys : (assignKeys (pageFiles.map fun file => Path.slash :: file.1)).result =
        .ok pageKeyed := by
      decide +kernel
    refine ⟨pageKeyed, ?_, ?_⟩
    · simp only [gatherFiles, pageOptions, Attempt.result_bind, Attempt.result_mapError, hpaths,
        Except.bind, hkeys]
      rfl
    · rw [pageKeyed, List.forall₂_map_left_iff, List.forall₂_same]
      intro entry hentry
      exact ⟨rfl, (rootFile_page _ (List.mem_map_of_mem hentry)).readText_eq⟩
  vars := rfl
  template :=
    (by decide +kernel : RootFile pageTree (Text.bytes "template") pageTemplate).readText_eq

/-- What `user` and `owner` stand for. -/
def userFragment : Fragment :=
  .ofTemplate 0 (.ofText "... on User { id }")

/-- What `page` stands for. -/
def pageFragment : Fragment :=
  .ofTemplate 0 ⟨["... on Page \x7b size(n: ", ") ...", " ...", " \x7d"],
    [.leaf "${n}", .fragment userFragment, .fragment userFragment], rfl⟩

theorem expandSource_page : pageBindings.expandSource [] pageSource =
    .ok ⟨pageSource.segments, [.fragment pageFragment], rfl⟩ := by
  have huser : pageBindings.Expands ["user"] [.fragment userFragment] :=
    .fragment rfl rfl rfl .nil .nil
  have howner : pageBindings.Expands ["owner"] [.fragment userFragment] :=
    .fragment rfl rfl rfl .nil .nil
  have hpage : pageBindings.Expands ["page"] [.fragment pageFragment] :=
    .fragment rfl rfl rfl (.var rfl (huser.cons howner)) .nil
  exact Bindings.expandSource_eq_ok_iff.2 ⟨rfl, hpage.expandKeys [] (by simp)⟩

/-- The page can be read and resolved, a command finds it, and shows its document. -/
theorem composes_page :
    page.Disjoint ∧ page.Reads pageBindings ∧ Source.parse pageTemplate = .ok pageSource ∧
    ∃ r t, Resolver.new pageBindings = .ok r ∧ (r.resolve pageSource).1 = .ok t ∧
      (∃ order defined,
        page.Composes pageTemplate pageBindings.spelling order defined t.documentText) ∧
      page.FoundBy pageTemplate pageTree pageOptions ∧ pageOptions.raw = true ∧
      ((Invocation.compose false pageOptions).run pageTree).2 = .printed
        (if t.documentText.toList.getLast? = some '\n' then t.documentText
          else t.documentText ++ "\n") := by
  have hdisjoint : page.Disjoint := by unfold Disjoint; decide +kernel
  have hparse : Source.parse pageTemplate = .ok pageSource := by decide +kernel
  obtain ⟨r, hnew, hall⟩ :=
    composes page pageBindings pageTemplate pageSource hdisjoint reads_page hparse
  obtain ⟨t, ht⟩ : ∃ t, (r.resolve pageSource).1 = .ok t := by
    have hshape := Resolver.shape_resolve_of_new hnew pageSource
    rw [expandSource_page] at hshape
    obtain ⟨t, ht, -⟩ := Result.map_eq_ok_iff.1 hshape
    exact ⟨t, ht⟩
  obtain ⟨hcomposes, hrun⟩ := hall t ht
  exact ⟨hdisjoint, reads_page, hparse, r, t, hnew, ht, hcomposes, foundBy_page, rfl,
    hrun pageTree pageOptions false foundBy_page rfl⟩

end QueryWeave.Texts
