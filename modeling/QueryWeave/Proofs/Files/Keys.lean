/-
**When files can be given keys.**

Files are given keys one after the other, and each is compared with those before it.  Whether that
succeeds does not depend on their order: it does if each path has a stem and no two different paths
have the same one.  The files with their keys are then told by the set of the paths.

Main definitions:

* `QueryWeave.Keyable` — paths that can be given keys, told without an order;
* `QueryWeave.Keyed` — files with keys that stand for given paths.

Main results:

* `QueryWeave.assignKey_cases` — what giving one more file its key can do;
* `QueryWeave.Keyed.of_assignKeys`, `QueryWeave.exists_assignKeys_iff` — **what giving all files
  their keys does, and when it succeeds**;
* `QueryWeave.Keyed.mem_iff` — equal sets of paths have equal sets of files with keys.
-/

import QueryWeave.Files.KeyedFile
import QueryWeave.Proofs.Result
import Mathlib.Data.List.Nodup

set_option relaxedAutoImplicit false
set_option autoImplicit false

namespace QueryWeave

/-! ### The same path -/

namespace Path

variable {path path' : RawText}

theorem same_iff : same path path' = true ↔ components path = components path' :=
  beq_iff_eq

/-- Two spellings of one path have one stem. -/
theorem stem?_eq_of_same (h : same path path' = true) : stem? path = stem? path' := by
  rw [stem?, stem?, rawStem?, rawStem?, fileName?, fileName?, same_iff.1 h]

end Path

/-! ### Paths and files with keys -/

/-- Paths that can be given keys: each has a stem, and no two different ones have the same.  The
stem is what `stem?` gives for it, a text or bytes. -/
structure Keyable {α : Type} (stem? : RawText → Option α) (paths : List RawText) : Prop where
  stem : ∀ path ∈ paths, ∃ stem, stem? path = some stem
  same : ∀ path ∈ paths, ∀ path' ∈ paths, stem? path = stem? path' → Path.same path path' = true

/-- Files that stand for given paths, one for each different path, under the stems as keys. -/
structure Keyed (paths : List RawText) (files : List KeyedFile) : Prop where
  stem : ∀ file ∈ files, Path.stem? file.path = some file.key
  listed : ∀ file ∈ files, file.path ∈ paths
  covers : ∀ path ∈ paths, ∃ file ∈ files, Path.same file.path path = true
  nodup : (files.map KeyedFile.key).Nodup

/-- Whether paths can be given keys depends on which paths there are. -/
theorem Keyable.of_subset {α : Type} {stem? : RawText → Option α} {paths paths' : List RawText}
    (h : Keyable stem? paths) (hsub : paths' ⊆ paths) : Keyable stem? paths' where
  stem := fun path hpath => h.stem path (hsub hpath)
  same := fun path hpath path' hpath' => h.same path (hsub hpath) path' (hsub hpath')

namespace Keyed

variable {paths : List RawText} {files : List KeyedFile}

theorem nil : Keyed [] [] where
  stem := by simp
  listed := by simp
  covers := by simp
  nodup := List.nodup_nil

/-- Files with one key are one file. -/
theorem eq_of_key_eq (h : Keyed paths files) {file file' : KeyedFile} (hfile : file ∈ files)
    (hfile' : file' ∈ files) (hkey : file.key = file'.key) : file = file' :=
  List.inj_on_of_nodup_map h.nodup hfile hfile' hkey

/-- Paths that have been given keys can be given keys. -/
theorem keyable (h : Keyed paths files) : Keyable Path.stem? paths where
  stem := by
    intro path hpath
    obtain ⟨file, hfile, hsame⟩ := h.covers path hpath
    exact ⟨file.key, Path.stem?_eq_of_same hsame ▸ h.stem file hfile⟩
  same := by
    intro path hpath path' hpath' hstem
    obtain ⟨file, hfile, hsame⟩ := h.covers path hpath
    obtain ⟨file', hfile', hsame'⟩ := h.covers path' hpath'
    have hkey : some file.key = some file'.key := by
      rw [← h.stem file hfile, ← h.stem file' hfile', Path.stem?_eq_of_same hsame, hstem,
        Path.stem?_eq_of_same hsame']
    obtain rfl := h.eq_of_key_eq hfile hfile' (Option.some_inj.1 hkey)
    exact Path.same_iff.2 ((Path.same_iff.1 hsame).symm.trans (Path.same_iff.1 hsame'))

/-- A path that is the same as that of a file needs no file of its own. -/
theorem concat_same (h : Keyed paths files) {path : RawText} {file : KeyedFile}
    (hfile : file ∈ files) (hsame : Path.same file.path path = true) :
    Keyed (paths ++ [path]) files where
  stem := h.stem
  listed := fun file' hfile' => List.mem_append_left _ (h.listed file' hfile')
  covers := by
    intro path' hpath'
    rcases List.mem_append.1 hpath' with hmem | hmem
    · exact h.covers path' hmem
    · rw [List.mem_singleton.1 hmem]
      exact ⟨file, hfile, hsame⟩
  nodup := h.nodup

/-- A path with a stem that is not yet a key gets a file of its own. -/
theorem concat_new (h : Keyed paths files) {path : RawText} {key : String}
    (hstem : Path.stem? path = some key) (hnew : ∀ file ∈ files, file.key ≠ key) :
    Keyed (paths ++ [path]) (files ++ [⟨key, path⟩]) where
  stem := by
    intro file hfile
    rcases List.mem_append.1 hfile with hmem | hmem
    · exact h.stem file hmem
    · rw [List.mem_singleton.1 hmem]
      exact hstem
  listed := by
    intro file hfile
    rcases List.mem_append.1 hfile with hmem | hmem
    · exact List.mem_append_left _ (h.listed file hmem)
    · rw [List.mem_singleton.1 hmem]
      exact List.mem_append_right _ List.mem_cons_self
  covers := by
    intro path' hpath'
    rcases List.mem_append.1 hpath' with hmem | hmem
    · obtain ⟨file, hfile, hsame⟩ := h.covers path' hmem
      exact ⟨file, List.mem_append_left _ hfile, hsame⟩
    · rw [List.mem_singleton.1 hmem]
      exact ⟨⟨key, path⟩, by simp, Path.same_iff.2 rfl⟩
  nodup := by
    rw [List.map_append, List.nodup_append]
    refine ⟨h.nodup, List.nodup_singleton _, ?_⟩
    rintro key₁ hkey₁ key₂ hkey₂ rfl
    obtain ⟨file, hfile, rfl⟩ := List.mem_map.1 hkey₁
    exact hnew file hfile (List.mem_singleton.1 hkey₂)

end Keyed

/-! ### Giving keys -/

/-- **What giving one more file its key can do**: the path is the same as one before; or its stem is
a new key; or it has no stem; or its stem is the key of a file with another path. -/
theorem assignKey_cases (files : List KeyedFile) (path : RawText) :
    (∃ file ∈ files, Path.same file.path path = true ∧ assignKey files path = .ok none) ∨
    (∃ key, Path.stem? path = some key ∧ (∀ file ∈ files, file.key ≠ key) ∧
      assignKey files path = .ok (some ⟨key, path⟩)) ∨
    (Path.stem? path = none ∧ assignKey files path = .error (.noStem path)) ∨
    ∃ file ∈ files, Path.stem? path = some file.key ∧ Path.same file.path path = false ∧
      assignKey files path = .error (.duplicateKey file.key file.path path) := by
  rw [assignKey]
  by_cases hany : files.any (fun file => Path.same file.path path) = true
  · obtain ⟨file, hfile, hsame⟩ := List.any_eq_true.1 hany
    exact .inl ⟨file, hfile, hsame, if_pos hany⟩
  · rw [if_neg hany]
    cases hstem : Path.stem? path with
    | none => exact .inr (.inr (.inl ⟨rfl, rfl⟩))
    | some key =>
        cases hfind : files.find? fun file => file.key = key with
        | none =>
            refine .inr (.inl ⟨key, rfl, fun file hfile => ?_, by simp only [hfind]⟩)
            simpa using List.find?_eq_none.1 hfind file hfile
        | some first =>
            have hfirst : first ∈ files := List.mem_of_find?_eq_some hfind
            have hkey : first.key = key := by simpa using List.find?_some hfind
            have hother : Path.same first.path path = false :=
              Bool.not_eq_true _ ▸ fun hsame => hany (List.any_eq_true.2 ⟨first, hfirst, hsame⟩)
            refine .inr (.inr (.inr ⟨first, hfirst, hkey ▸ rfl, hother, ?_⟩))
            simp only [hfind, hkey]

theorem result_assignKeysAfter_cons (files : List KeyedFile) (path : RawText)
    (paths : List RawText) : (assignKeysAfter files (path :: paths)).result =
      (assignKey files path).bind fun file? =>
        (assignKeysAfter (files ++ file?.toList) paths).result := by
  rw [assignKeysAfter, Attempt.result_bind, Attempt.result_ofExcept]
  congr 1
  funext file?
  cases file? with
  | none => simp [Except.bind]
  | some file => rfl

namespace Keyed

variable {before paths : List RawText} {files files' : List KeyedFile}

/-- Files that have been given keys stay such when others are given theirs. -/
theorem of_assignKeysAfter (h : Keyed before files)
    (hresult : (assignKeysAfter files paths).result = .ok files') :
    Keyed (before ++ paths) files' := by
  induction paths generalizing before files with
  | nil =>
      rw [assignKeysAfter, Attempt.result_pure] at hresult
      cases hresult
      rwa [List.append_nil]
  | cons path paths ih =>
      rw [result_assignKeysAfter_cons] at hresult
      rw [List.append_cons]
      obtain ⟨file, hfile, hsame, hassign⟩ | ⟨key, hstem, hnew, hassign⟩ | ⟨-, hassign⟩ |
        ⟨file, -, -, -, hassign⟩ := assignKey_cases files path
      · rw [hassign, Except.bind, Option.toList_none, List.append_nil] at hresult
        exact ih (h.concat_same hfile hsame) hresult
      · rw [hassign, Except.bind, Option.toList_some] at hresult
        exact ih (h.concat_new hstem hnew) hresult
      · rw [hassign] at hresult
        cases hresult
      · rw [hassign] at hresult
        cases hresult

/-- Paths can be given keys after others if all of them together can. -/
theorem exists_assignKeysAfter (h : Keyed before files)
    (hkeyable : Keyable Path.stem? (before ++ paths)) :
    ∃ files', (assignKeysAfter files paths).result = .ok files' := by
  induction paths generalizing before files with
  | nil => exact ⟨files, rfl⟩
  | cons path paths ih =>
      have hpath : path ∈ before ++ path :: paths := by simp
      rw [result_assignKeysAfter_cons]
      rw [List.append_cons] at hkeyable
      obtain ⟨file, hfile, hsame, hassign⟩ | ⟨key, hstem, hnew, hassign⟩ | ⟨hstem, -⟩ |
        ⟨file, hfile, hstem, hother, -⟩ := assignKey_cases files path
      · rw [hassign, Except.bind, Option.toList_none, List.append_nil]
        exact ih (h.concat_same hfile hsame) hkeyable
      · rw [hassign, Except.bind, Option.toList_some]
        exact ih (h.concat_new hstem hnew) hkeyable
      · obtain ⟨key, hkey⟩ := hkeyable.stem path (by simp)
        rw [hstem] at hkey
        cases hkey
      · have hlisted : file.path ∈ before ++ [path] ++ paths := by simp [h.listed file hfile]
        have hsame := hkeyable.same file.path hlisted path (by simp)
          ((h.stem file hfile).trans hstem.symm)
        rw [hother] at hsame
        cases hsame

/-- The files that have been given keys stand for the paths. -/
theorem of_assignKeys (h : (assignKeys paths).result = .ok files) : Keyed paths files :=
  of_assignKeysAfter nil h

/-- Where no two different paths are the same, a file stays under its key when there are more
paths. -/
theorem mem_of_subset {paths' : List RawText} (h : Keyed paths files) (h' : Keyed paths' files')
    (hsub : paths ⊆ paths')
    (hsame : ∀ path ∈ paths', ∀ path' ∈ paths', Path.same path path' = true → path = path')
    {file : KeyedFile} (hfile : file ∈ files) : file ∈ files' := by
  have hpath := hsub (h.listed file hfile)
  obtain ⟨file', hfile', hcovers⟩ := h'.covers file.path hpath
  have heq : file'.path = file.path := hsame _ (h'.listed file' hfile') _ hpath hcovers
  have hkey : some file'.key = some file.key := by
    rw [← h'.stem file' hfile', heq, h.stem file hfile]
  cases file
  cases file'
  cases heq
  cases hkey
  exact hfile'

/-- There, equal sets of paths have equal sets of files with keys. -/
theorem mem_iff {paths' : List RawText} (h : Keyed paths files) (h' : Keyed paths' files')
    (hpaths : ∀ path, path ∈ paths ↔ path ∈ paths')
    (hsame : ∀ path ∈ paths, ∀ path' ∈ paths, Path.same path path' = true → path = path')
    (file : KeyedFile) : file ∈ files ↔ file ∈ files' := by
  refine ⟨h.mem_of_subset h' (fun path => (hpaths path).1) ?_,
    h'.mem_of_subset h (fun path => (hpaths path).2) hsame⟩
  intro path hpath path' hpath'
  exact hsame path ((hpaths path).2 hpath) path' ((hpaths path').2 hpath')

end Keyed

/-- **Paths can be given keys exactly if each has a stem, and no two different ones the same.** -/
theorem exists_assignKeys_iff {paths : List RawText} :
    (∃ files, (assignKeys paths).result = .ok files) ↔ Keyable Path.stem? paths := by
  constructor
  · rintro ⟨files, hfiles⟩
    exact (Keyed.of_assignKeys hfiles).keyable
  · exact Keyed.exists_assignKeysAfter .nil

end QueryWeave
