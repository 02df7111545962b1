/-
**Which files get keys, and which one does not.**

Paths may come more than once, also in different spellings.  The first occurrence of each gets its
key, in order, and the others are skipped.  Where that fails, it fails at one path, behind paths
that have all got their keys; so what is told is the first path that has no stem, or has the stem of
another path before it.  When all have got their keys, no source that is read from one of the files
takes the place of another one.

A path is bytes, while the stem that files are told apart by is a text, as their keys are.  Stems
whose bytes are texts are the same text exactly if they have the same bytes.  Others are shown with
stray bytes replaced, and two of them may be shown as one text; then one of the files gets no key.

Main definitions:

* `QueryWeave.KeyFault` — what is wrong with a path behind others.

Main results:

* `QueryWeave.result_assignKeys_concat` — giving keys to one more path;
* `QueryWeave.map_path_of_assignKeys` — the files are the first occurrences of the paths;
* `QueryWeave.exists_keyFault_of_assignKeys` — the path at which giving keys fails;
* `QueryWeave.exists_find?_of_loadFragments` — no source takes the place of another one;
* `QueryWeave.keyable_stem?_iff_rawStem?` — where stems are texts, their bytes tell them apart;
* `QueryWeave.assignKeys_keeps_first` — **all of this**.
-/

import Mathlib.Data.List.Induction
import QueryWeave.Dictionary
import QueryWeave.Proofs.Composition.Steps
import QueryWeave.Proofs.Files.Keys
import QueryWeave.Proofs.Text.Bytes

set_option relaxedAutoImplicit false
set_option autoImplicit false

namespace QueryWeave

/-! ### One more path -/

/-- Keys for two lists of paths are given to the first one, and then to the second one beside it. -/
theorem result_assignKeysAfter_append (files : List KeyedFile) (paths paths' : List RawText) :
    (assignKeysAfter files (paths ++ paths')).result =
      (assignKeysAfter files paths).result.bind fun files' =>
        (assignKeysAfter files' paths').result := by
  induction paths generalizing files with
  | nil => rfl
  | cons path paths ih =>
      rw [List.cons_append, result_assignKeysAfter_cons, result_assignKeysAfter_cons]
      cases assignKey files path with
      | error error => rfl
      | ok file? => exact ih _

theorem result_assignKeys_concat (paths : List RawText) (path : RawText) :
    (assignKeys (paths ++ [path])).result =
      (assignKeys paths).result.bind fun files =>
        (assignKey files path).map fun file? => files ++ file?.toList := by
  rw [assignKeys, result_assignKeysAfter_append]
  congr 1
  funext files
  rw [result_assignKeysAfter_cons]
  cases assignKey files path <;> rfl

/-! ### First occurrences -/

theorem Path.same_comm (path path' : RawText) : Path.same path path' = Path.same path' path :=
  Bool.eq_iff_iff.2 (by rw [same_iff, same_iff, eq_comm])

/-- The first occurrences are those in the list without its last entry, and then this entry if it is
none of them. -/
theorem eraseDupsBy_concat {α : Type} (r : α → α → Bool) (xs : List α) (x : α) :
    (xs ++ [x]).eraseDupsBy r =
      if (xs.eraseDupsBy r).any (r x) then xs.eraseDupsBy r else xs.eraseDupsBy r ++ [x] := by
  have hloop : ∀ seen, List.eraseDupsBy.loop r (xs ++ [x]) seen =
      if (List.eraseDupsBy.loop r xs seen).any (r x) then List.eraseDupsBy.loop r xs seen
      else List.eraseDupsBy.loop r xs seen ++ [x] := by
    induction xs with
    | nil =>
        intro seen
        simp only [List.nil_append, List.eraseDupsBy.loop, List.any_reverse, List.reverse_cons]
        cases seen.any (r x) <;> rfl
    | cons y ys ih =>
        intro seen
        rw [List.cons_append, List.eraseDupsBy.loop, List.eraseDupsBy.loop]
        cases seen.any (r y) with
        | true => exact ih seen
        | false => exact ih (y :: seen)
  exact hloop []

/-- What is found among first occurrences is what is found in the list, if it is looked for by
something that goes with being the same. -/
theorem find?_eraseDupsBy {α : Type} {r : α → α → Bool} {p : α → Bool}
    (hp : ∀ x y, r x y = true → p x = p y) (xs : List α) :
    (xs.eraseDupsBy r).find? p = xs.find? p := by
  induction xs using List.reverseRecOn with
  | nil => rfl
  | append_singleton xs x ih =>
      rw [eraseDupsBy_concat, List.find?_append, ← ih]
      split
      · next hany =>
          obtain ⟨y, hy, hsame⟩ := List.any_eq_true.1 hany
          cases hx : p x with
          | false => simp [hx]
          | true =>
              have hsome : ((xs.eraseDupsBy r).find? p).isSome :=
                List.find?_isSome.2 ⟨y, hy, hp x y hsame ▸ hx⟩
              rw [Option.or_of_isSome hsome]
      · rw [List.find?_append]

/-- The files are the first occurrences of the paths. -/
theorem map_path_of_assignKeys {paths : List RawText} {files : List KeyedFile}
    (h : (assignKeys paths).result = .ok files) :
    files.map KeyedFile.path = paths.eraseDupsBy Path.same := by
  induction paths using List.reverseRecOn generalizing files with
  | nil =>
      cases h
      rfl
  | append_singleton paths path ih =>
      rw [result_assignKeys_concat, Result.bind_eq_ok_iff] at h
      obtain ⟨before, hbefore, hlast⟩ := h
      obtain ⟨file?, hfile?, rfl⟩ := Result.map_eq_ok_iff.1 hlast
      have hany : (paths.eraseDupsBy Path.same).any (Path.same path) =
          before.any fun file => Path.same file.path path := by
        rw [← ih hbefore, List.any_map]
        exact congrArg _ (funext fun file => Path.same_comm _ _)
      rw [eraseDupsBy_concat, hany, ← ih hbefore]
      obtain ⟨file, hfile, hsame, hassign⟩ | ⟨key, hstem, hnew, hassign⟩ | ⟨-, hassign⟩ |
        ⟨file, -, -, -, hassign⟩ := assignKey_cases before path
      · cases hassign.symm.trans hfile?
        rw [if_pos (List.any_eq_true.2 ⟨file, hfile, hsame⟩), Option.toList_none, List.append_nil]
      · cases hassign.symm.trans hfile?
        -- a path with a new stem is not the same as one before
        have hother : ¬ before.any (fun file => Path.same file.path path) = true := by
          intro hany
          obtain ⟨file, hfile, hsame⟩ := List.any_eq_true.1 hany
          have hkey := (Keyed.of_assignKeys hbefore).stem file hfile
          rw [Path.stem?_eq_of_same hsame, hstem] at hkey
          exact hnew file hfile (Option.some_inj.1 hkey.symm)
        rw [if_neg hother, Option.toList_some, List.map_append]
        rfl
      · cases hassign.symm.trans hfile?
      · cases hassign.symm.trans hfile?

/-! ### The path at which it fails -/

/-- What is wrong with a path behind others that have got their keys: it has no stem; or its stem is
that of a path before it, of no other path before it, and of another path than it is itself. -/
inductive KeyFault (before : List RawText) (path : RawText) : FileKeyError → Prop
  | noStem (hstem : Path.stem? path = none) : KeyFault before path (.noStem path)
  | duplicateKey {key : String} {first : RawText} (hstem : Path.stem? path = some key)
      (hfirst : before.find? (Path.stem? · = some key) = some first)
      (hunique : ∀ other ∈ before, Path.stem? other = some key → Path.same first other = true)
      (hother : Path.same first path = false) :
      KeyFault before path (.duplicateKey key first path)

/-- The path of a file is the first one with the key of the file for its stem. -/
theorem find?_stem_of_assignKeys {paths : List RawText} {files : List KeyedFile}
    (h : (assignKeys paths).result = .ok files) {file : KeyedFile} (hfile : file ∈ files) :
    paths.find? (Path.stem? · = some file.key) = some file.path := by
  have hkeyed := Keyed.of_assignKeys h
  have hsame : ∀ path path', Path.same path path' = true →
      decide (Path.stem? path = some file.key) = decide (Path.stem? path' = some file.key) :=
    fun path path' hsame => by rw [Path.stem?_eq_of_same hsame]
  rw [← find?_eraseDupsBy hsame, ← map_path_of_assignKeys h, List.find?_map]
  cases hfound : files.find? ((fun path => decide (Path.stem? path = some file.key)) ∘
      KeyedFile.path) with
  | none => simpa [hkeyed.stem file hfile] using List.find?_eq_none.1 hfound file hfile
  | some found =>
      have hmem := List.mem_of_find?_eq_some hfound
      have hkey : Path.stem? found.path = some file.key := by simpa using List.find?_some hfound
      rw [hkeyed.stem found hmem] at hkey
      rw [hkeyed.eq_of_key_eq hmem hfile (Option.some_inj.1 hkey), Option.map_some]

theorem keyFault_of_assignKey {before : List RawText} {files : List KeyedFile}
    (hfiles : (assignKeys before).result = .ok files) {path : RawText} {error : FileKeyError}
    (h : assignKey files path = .error error) : KeyFault before path error := by
  have hkeyed := Keyed.of_assignKeys hfiles
  obtain ⟨_, -, -, hassign⟩ | ⟨_, -, -, hassign⟩ | ⟨hstem, hassign⟩ |
    ⟨file, hfile, hstem, hother, hassign⟩ := assignKey_cases files path
  · cases hassign.symm.trans h
  · cases hassign.symm.trans h
  · cases hassign.symm.trans h
    exact .noStem hstem
  · cases hassign.symm.trans h
    refine .duplicateKey hstem (find?_stem_of_assignKeys hfiles hfile) (fun other hmem hkey => ?_)
      hother
    exact hkeyed.keyable.same file.path (hkeyed.listed file hfile) other hmem
      ((hkeyed.stem file hfile).trans hkey.symm)

/-- Where giving keys fails, it fails at one path behind others that get their keys. -/
theorem exists_keyFault_of_assignKeys {paths : List RawText} {error : FileKeyError}
    (h : (assignKeys paths).result = .error error) :
    ∃ before path behind, paths = before ++ path :: behind ∧
      (∃ files, (assignKeys before).result = .ok files) ∧
      (assignKeys (before ++ [path])).result = .error error ∧ KeyFault before path error := by
  induction paths using List.reverseRecOn with
  | nil => cases h
  | append_singleton paths path ih =>
      have hconcat := h
      rw [result_assignKeys_concat, Result.bind_eq_error_iff] at h
      rcases h with hbefore | ⟨files, hfiles, hlast⟩
      · obtain ⟨before, path', behind, rfl, hrest⟩ := ih hbefore
        exact ⟨before, path', behind ++ [path], by simp, hrest⟩
      · exact ⟨paths, path, [], rfl, ⟨files, hfiles⟩, hconcat,
          keyFault_of_assignKey hfiles (Result.map_eq_error_iff.1 hlast)⟩

/-- Paths in front of others that get their keys get theirs. -/
theorem exists_assignKeys_of_earlier {paths earlier : List RawText} (hearlier : earlier <+: paths)
    (h : ∃ files, (assignKeys paths).result = .ok files) :
    ∃ files, (assignKeys earlier).result = .ok files :=
  exists_assignKeys_iff.2 ((exists_assignKeys_iff.1 h).of_subset hearlier.subset)

/-! ### Sources under their keys -/

/-- Without repeated keys, the source that is read from a file is found under its key. -/
theorem exists_find?_of_loadFragments {tree : FileTree} {files : List KeyedFile}
    (hnodup : (files.map KeyedFile.key).Nodup) {fragments : Dictionary Source}
    (h : Command.loadFragments tree files = .ok fragments) {file : KeyedFile}
    (hfile : file ∈ files) :
    ∃ source, Command.loadFragment tree file = .ok (file.key, source) ∧
      fragments.find? file.key = some source := by
  obtain ⟨⟨key, source⟩, hload⟩ := Result.exists_mapM_eq_ok_iff.1 ⟨fragments, h⟩ file hfile
  obtain rfl : key = file.key := Command.key_eq_of_loadFragment hload
  rw [← Command.keys_eq_of_loadFragments h] at hnodup
  refine ⟨source, hload, (Dictionary.find?_eq_some_iff hnodup).2 ?_⟩
  exact (Result.mem_of_mapM_eq_ok h).2 ⟨file, hfile, hload⟩

/-! ### Stems that are texts -/

/-- The stem of a path is the text of its bytes, if these are a text. -/
theorem Path.stem?_eq_of_rawStem? {path : RawText} {stem : String}
    (h : Path.rawStem? path = some (Text.bytes stem)) : Path.stem? path = some stem := by
  rw [Path.stem?, h, Option.map_some, Text.text_bytes]

/-- Where all stems are texts, it does not matter whether they are compared as such or in bytes. -/
theorem keyable_stem?_iff_rawStem? {paths : List RawText}
    (htexts : ∀ path ∈ paths, ∀ raw, Path.rawStem? path = some raw →
      ∃ stem, raw = Text.bytes stem) :
    Keyable Path.stem? paths ↔ Keyable Path.rawStem? paths := by
  constructor
  · intro h
    refine ⟨fun path hpath => ?_, fun path hpath path' hpath' hraw => ?_⟩
    · obtain ⟨stem, hstem⟩ := h.stem path hpath
      obtain ⟨raw, hraw, -⟩ := Option.map_eq_some_iff.1 hstem
      exact ⟨raw, hraw⟩
    · exact h.same path hpath path' hpath' (congrArg (Option.map RawText.text) hraw)
  · intro h
    have htext : ∀ path ∈ paths, ∃ stem, Path.rawStem? path = some (Text.bytes stem) := by
      intro path hpath
      obtain ⟨raw, hraw⟩ := h.stem path hpath
      obtain ⟨stem, rfl⟩ := htexts path hpath raw hraw
      exact ⟨stem, hraw⟩
    refine ⟨fun path hpath => ?_, fun path hpath path' hpath' hsame => ?_⟩
    · obtain ⟨stem, hstem⟩ := htext path hpath
      exact ⟨stem, Path.stem?_eq_of_rawStem? hstem⟩
    · obtain ⟨stem, hstem⟩ := htext path hpath
      obtain ⟨stem', hstem'⟩ := htext path' hpath'
      rw [Path.stem?_eq_of_rawStem? hstem, Path.stem?_eq_of_rawStem? hstem'] at hsame
      obtain rfl : stem = stem' := Option.some_inj.1 hsame
      exact h.same path hpath path' hpath' (hstem.trans hstem'.symm)

/-! ### All of it -/

/-- **Which files get keys, and which one does not.**  All paths get keys exactly if each has a stem
and no two different ones have the same.  Then the files are the first occurrences of the paths, in
order, under their stems as keys; no path goes without a file and no key comes twice, so that the
sources that are read from the files are all found under their keys.  Otherwise it fails at the last
path of the shortest list in front that fails: for want of a stem, or because of the only path
before it that has the same stem, but is another path.  (What differs in its spelling only is the
same path; paths of locations are the same only if they are equal.)

Paths are any bytes.  The stem is the text that becomes the key; where all stems have the bytes of
texts, they may as well be compared by these bytes. -/
theorem assignKeys_keeps_first (paths : List RawText) :
    ((∃ files, (assignKeys paths).result = .ok files) ↔ Keyable Path.stem? paths) ∧
    ((∀ path ∈ paths, ∀ raw, Path.rawStem? path = some raw → ∃ stem, raw = Text.bytes stem) →
      ((∃ files, (assignKeys paths).result = .ok files) ↔ Keyable Path.rawStem? paths)) ∧
    (∀ files, (assignKeys paths).result = .ok files →
      files.map KeyedFile.path = paths.eraseDupsBy Path.same ∧
      (∀ file ∈ files, Path.stem? file.path = some file.key) ∧
      (∀ path ∈ paths, ∃ file ∈ files, Path.same file.path path = true) ∧
      (files.map KeyedFile.key).Nodup ∧
      ∀ tree fragments, Command.loadFragments tree files = .ok fragments →
        fragments.keys = files.map KeyedFile.key ∧
        ∀ file ∈ files, ∃ source, Command.loadFragment tree file = .ok (file.key, source) ∧
          fragments.find? file.key = some source) ∧
    ∀ error, (assignKeys paths).result = .error error →
      ∃ before path behind, paths = before ++ path :: behind ∧
        (∀ earlier, earlier <+: before → ∃ files, (assignKeys earlier).result = .ok files) ∧
        (assignKeys (before ++ [path])).result = .error error ∧ KeyFault before path error := by
  refine ⟨exists_assignKeys_iff, fun htexts => ?_, fun files hfiles => ?_, fun error herror => ?_⟩
  · rw [exists_assignKeys_iff, keyable_stem?_iff_rawStem? htexts]
  · have hkeyed := Keyed.of_assignKeys hfiles
    refine ⟨map_path_of_assignKeys hfiles, hkeyed.stem, hkeyed.covers, hkeyed.nodup,
      fun tree fragments hload => ⟨Command.keys_eq_of_loadFragments hload, fun file hfile => ?_⟩⟩
    exact exists_find?_of_loadFragments hkeyed.nodup hload hfile
  · obtain ⟨before, path, behind, hpaths, hbefore, hfails, hfault⟩ :=
      exists_keyFault_of_assignKeys herror
    exact ⟨before, path, behind, hpaths,
      fun earlier hearlier => exists_assignKeys_of_earlier hearlier hbefore, hfails, hfault⟩

/-! ### Files that get keys, and files that do not -/

/-- Two files in the root. -/
def noteFiles : List KeyedFile :=
  [⟨"book", Text.bytes "/book.graphql"⟩, ⟨"café.v2", Text.bytes "/café.v2.gql"⟩]

def noteTree : FileTree :=
  ⟨[([Text.bytes "book.graphql"], .file (Text.bytes "... on Book { title }")),
    ([Text.bytes "café.v2.gql"], .file (Text.bytes "... on Cafe { name }"))], []⟩

/-- Their paths, the first one in two spellings. -/
def notePaths : List RawText :=
  ["/book.graphql", "//book.graphql", "/café.v2.gql"].map Text.bytes

/-- Paths whose stems are one stray byte each, and not the same one. -/
def strayPaths : List RawText :=
  [0xFE, 0xFF].map fun b => Path.slash :: b :: Text.bytes ".graphql"

/-- The stems of both are shown as the replacement character. -/
def strayError : FileKeyError :=
  .duplicateKey "\ufffd" (Path.slash :: 0xFE :: Text.bytes ".graphql")
    (Path.slash :: 0xFF :: Text.bytes ".graphql")

theorem exists_loadFragments_notes :
    ∃ fragments, Command.loadFragments noteTree noteFiles = .ok fragments := by
  have hbook : Command.RootFile noteTree (Text.bytes "book.graphql") "... on Book { title }" := by
    decide +kernel
  have hcafe : Command.RootFile noteTree (Text.bytes "café.v2.gql") "... on Cafe { name }" := by
    decide +kernel
  have hbookSource : Source.parse "... on Book { title }" =
      .ok ⟨[], ["... on Book { title }"]⟩ := by
    decide +kernel
  have hcafeSource : Source.parse "... on Cafe { name }" = .ok ⟨[], ["... on Cafe { name }"]⟩ := by
    decide +kernel
  refine Result.exists_mapM_eq_ok_iff.2 fun file hfile => ?_
  rcases List.mem_cons.1 hfile with rfl | hfile
  · exact ⟨_, Command.loadFragment_eq_ok hbook.readText_eq hbookSource⟩
  · rw [List.mem_singleton.1 hfile]
    exact ⟨_, Command.loadFragment_eq_ok hcafe.readText_eq hcafeSource⟩

/-- The two files get their keys, and what they hold is found under these; the two paths with stray
stems do not both get keys, although the bytes of their stems are not the same. -/
theorem assignKeys_keeps_first_notes :
    ((assignKeys notePaths).result = .ok noteFiles ∧
      Keyable Path.stem? notePaths ∧ Keyable Path.rawStem? notePaths ∧
      noteFiles.map KeyedFile.path = notePaths.eraseDupsBy Path.same ∧
      (noteFiles.map KeyedFile.key).Nodup ∧
      ∃ fragments, Command.loadFragments noteTree noteFiles = .ok fragments ∧
        fragments.keys = noteFiles.map KeyedFile.key ∧
        ∀ file ∈ noteFiles, ∃ source, fragments.find? file.key = some source) ∧
    (assignKeys strayPaths).result = .error strayError ∧
    Keyable Path.rawStem? strayPaths ∧ ¬ Keyable Path.stem? strayPaths ∧
    ∃ before path behind, strayPaths = before ++ path :: behind ∧
      KeyFault before path strayError := by
  constructor
  · obtain ⟨hiff, hraw, hall, -⟩ := assignKeys_keeps_first notePaths
    have hassign : (assignKeys notePaths).result = .ok noteFiles := by decide +kernel
    have hstems : notePaths.map Path.rawStem? =
        ["book", "book", "café.v2"].map fun stem => some (Text.bytes stem) := by
      decide +kernel
    have htexts : ∀ path ∈ notePaths, ∀ raw, Path.rawStem? path = some raw →
        ∃ stem, raw = Text.bytes stem := by
      intro path hpath raw hstem
      have hmem : some raw ∈ notePaths.map Path.rawStem? := hstem ▸ List.mem_map_of_mem hpath
      rw [hstems] at hmem
      obtain ⟨stem, -, heq⟩ := List.mem_map.1 hmem
      exact ⟨stem, (Option.some_inj.1 heq).symm⟩
    obtain ⟨fragments, hload⟩ := exists_loadFragments_notes
    obtain ⟨hpaths, -, -, hnodup, hloaded⟩ := hall noteFiles hassign
    obtain ⟨hkeys, hfind⟩ := hloaded noteTree fragments hload
    refine ⟨hassign, hiff.1 ⟨noteFiles, hassign⟩, (hraw htexts).1 ⟨noteFiles, hassign⟩, hpaths,
      hnodup, fragments, hload, hkeys, fun file hfile => ?_⟩
    obtain ⟨source, -, hsource⟩ := hfind file hfile
    exact ⟨source, hsource⟩
  · obtain ⟨hiff, -, -, hfault⟩ := assignKeys_keeps_first strayPaths
    have hassign : (assignKeys strayPaths).result = .error strayError := by decide +kernel
    have hstems : ∀ path ∈ strayPaths, (Path.rawStem? path).isSome := by decide +kernel
    have hsame : ∀ path ∈ strayPaths, ∀ path' ∈ strayPaths,
        Path.rawStem? path = Path.rawStem? path' → Path.same path path' = true := by
      decide +kernel
    obtain ⟨before, path, behind, hpaths, -, -, hfails⟩ := hfault strayError hassign
    refine ⟨hassign, ⟨fun path hpath => Option.isSome_iff_exists.1 (hstems path hpath), hsame⟩,
      fun hkeyable => ?_, before, path, behind, hpaths, hfails⟩
    obtain ⟨files, hfiles⟩ := hiff.2 hkeyable
    rw [hassign] at hfiles
    cases hfiles

end QueryWeave
