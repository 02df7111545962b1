/-
**Fragment files.**

A file is taken for a fragment if it was named explicitly or has one of the wanted extensions.  The
key of its fragment is the stem of its name, as a text.  A file that comes again is skipped, and no
two files may have one key.

Main definitions:

* `QueryWeave.bareExtensions`, `QueryWeave.isWanted` — which files are taken;
* `QueryWeave.KeyedFile`, `QueryWeave.FileKeyError` — files with their keys, and how that fails;
* `QueryWeave.assignKeys` — giving files their keys.
-/

import QueryWeave.Files.Path
import QueryWeave.KeyOrder
import QueryWeave.Log

set_option relaxedAutoImplicit false
set_option autoImplicit false

namespace QueryWeave

/-! ### Which files are taken -/

/-- An extension without the dots in front of it. -/
def bareExtension (extension : String) : String :=
  String.ofList (extension.toList.dropWhile (· == '.'))

/-- Extensions without dots in front, ascending and each once. -/
def bareExtensions (extensions : List String) : List String :=
  KeyOrder.sorted (extensions.map bareExtension)

/-- Whether the file at a path is taken for a fragment; `extensions` have no dots in front. -/
def isWanted (path : RawText) (explicit : Bool) (extensions : List String) : Bool :=
  explicit ||
    match Path.extension? path with
    | some extension => extensions.contains extension
    | none => false

/-! ### Keys -/

/-- A fragment file and the key of its fragment. -/
structure KeyedFile where
  key : String
  path : RawText
  deriving DecidableEq, Repr

/-- Why files cannot be given keys. -/
inductive FileKeyError where
  | noStem (path : RawText)
  | duplicateKey (key : String) (firstPath secondPath : RawText)
  deriving DecidableEq, Repr

/-- How the failure is told to the user. -/
def FileKeyError.message : FileKeyError → String
  | .noStem path => s!"No file stem to key fragment {path.quoted} by"
  | .duplicateKey key firstPath secondPath =>
      s!"Fragment key `{key}` is defined by both {firstPath.quoted} and {secondPath.quoted}"

/-- The key for one more file beside those that have theirs; none if the file is among these. -/
def assignKey (keyed : List KeyedFile) (path : RawText) : Except FileKeyError (Option KeyedFile) :=
  if keyed.any fun file => Path.same file.path path then .ok none
  else
    match Path.stem? path with
    | none => .error (.noStem path)
    | some key =>
        match keyed.find? fun file => file.key = key with
        | some first => .error (.duplicateKey key first.path path)
        | none => .ok (some ⟨key, path⟩)

/-- Gives keys to more files beside those that have theirs. -/
def assignKeysAfter (keyed : List KeyedFile) : List RawText → Attempt FileKeyError (List KeyedFile)
  | [] => pure keyed
  | path :: paths => do
      match ← Attempt.ofExcept (assignKey keyed path) with
      | none =>
          Attempt.tell [.listedFileSkipped path]
          assignKeysAfter keyed paths
      | some file => assignKeysAfter (keyed ++ [file]) paths

/-- Gives keys to files, in their order. -/
def assignKeys (paths : List RawText) : Attempt FileKeyError (List KeyedFile) :=
  assignKeysAfter [] paths

end QueryWeave
