/-
**The compose command.**

Composing finds the fragment files, gives them keys, reads them and the template, resolves the
template and assembles its document, which is then shown as it is or read and written anew.  The
first of these steps that fails decides.

Main definitions:

* `QueryWeave.Command.Failure`, `QueryWeave.Command.Failure.message` — what can fail;
* `QueryWeave.Command.gatherFiles` — the fragment files with their keys;
* `QueryWeave.Command.compose` — the text to be shown.
-/

import QueryWeave.Command.Arguments
import QueryWeave.Files.KeyedFile
import QueryWeave.Files.Walk
import QueryWeave.GraphQL.Parser
import QueryWeave.GraphQL.Printer
import QueryWeave.Resolution.Resolver
import QueryWeave.Template.Document
import QueryWeave.Text.Utf8

set_option relaxedAutoImplicit false
set_option autoImplicit false

namespace QueryWeave.Command

/-! ### Errors -/

/-- Why a file cannot be read as text.  The bytes of a file in a tree are always at hand. -/
inductive ReadError where
  | notAFile (path : RawText)
  | notText (path : RawText) (fault : Text.Utf8Fault)
  deriving DecidableEq, Repr

/-- How the failure is told to the user. -/
def ReadError.message : ReadError → String
  | .notAFile path => s!"Path {path.quoted} is not a file"
  | .notText path fault => s!"File at {path.quoted} is not valid UTF-8: {fault.message}"

/-- Why a document cannot be composed. -/
inductive Failure where
  | scan (path : RawText) (error : WalkError)
  | realPath (path : RawText) (error : LookupError)
  | keys (error : FileKeyError)
  | read (error : ReadError)
  | fragmentTemplate (path : RawText) (fault : PlaceholderFault)
  | template (path : RawText) (fault : PlaceholderFault)
  | resolve (error : ResolveError)
  | parse (error : GraphQL.SyntaxError)

/-- How the failure is told to the user. -/
def Failure.message : Failure → String
  | .scan path error =>
      s!"Failed to scan fragment files at/under {path.quoted}: {error.message}"
  | .realPath path error => s!"Failed to resolve {path.quoted}: {error.message}"
  | .keys error => error.message
  | .read error => error.message
  | .fragmentTemplate path fault => s!"Invalid fragment template {path.quoted}: {fault.message}"
  | .template path fault => s!"Invalid template {path.quoted}: {fault.message}"
  | .resolve error => error.message
  | .parse error => error.message

/-! ### Finding fragment files -/

/-- The path of an entry's location, which has to be usable as a path itself. -/
def realPath (entry : WalkEntry) : Except Failure RawText :=
  match checkPath entry.location.path with
  | .error error => .error (.realPath entry.path error)
  | .ok () => .ok entry.location.path

/-- The path of the fragment file that an entry of a walk stands for, if it is one. -/
def wantedFile? (explicit : Bool) (extensions : List String) (entry : WalkEntry) :
    Attempt Failure (Option RawText) :=
  if !entry.isFile then ⟨[.nonFileSkipped entry.path], .ok none⟩
  else if isWanted entry.path explicit extensions then
    ⟨[.fragmentFileFound entry.path], (realPath entry).map some⟩
  else ⟨[.otherFileSkipped entry.path], .ok none⟩

/-- The paths of the fragment files among the entries of a walk. -/
def wantedFiles (explicit : Bool) (extensions : List String) :
    List WalkEntry → Attempt Failure (List RawText)
  | [] => pure []
  | entry :: entries => do
      let file? ← wantedFile? explicit extensions entry
      let files ← wantedFiles explicit extensions entries
      return file?.toList ++ files

/-- The paths of the fragment files at or below a path. -/
def wantedFilesAt (tree : FileTree) (extensions : List String) (path : RawText) :
    Attempt Failure (List RawText) := do
  let walk := tree.walk path
  -- a path that is a file itself is wanted whatever its extension
  let files ← wantedFiles (tree.isFile path) extensions walk.entries
  match walk.error? with
  | some error => Attempt.ofExcept (.error (.scan path error))
  | none => return files

/-- The paths of the fragment files at or below several paths. -/
def wantedFilesAtAll (tree : FileTree) (extensions : List String) :
    List RawText → Attempt Failure (List RawText)
  | [] => pure []
  | path :: paths => do
      let files ← wantedFilesAt tree extensions path
      let others ← wantedFilesAtAll tree extensions paths
      return files ++ others

/-- The fragment files with their keys. -/
def gatherFiles (tree : FileTree) (options : ComposeOptions) :
    Attempt Failure (List KeyedFile) := do
  let extensions := bareExtensions options.extensions
  let paths ← wantedFilesAtAll tree extensions options.fragmentPaths
  (assignKeys paths).mapError .keys

/-! ### Reading templates -/

/-- The text of the file at a path. -/
def readText (tree : FileTree) (path : RawText) : Except ReadError String :=
  match tree.fileBytes? path with
  | none => .error (.notAFile path)
  | some bytes => (Text.decodeUtf8 bytes).mapError (.notText path)

/-- The source in a fragment file. -/
def loadFragment (tree : FileTree) (file : KeyedFile) : Except Failure (String × Source) :=
  match readText tree file.path with
  | .error error => .error (.read error)
  | .ok text =>
      match Source.parse text with
      | .error fault => .error (.fragmentTemplate file.path fault)
      | .ok source => .ok (file.key, source)

/-- The sources in all fragment files, in order. -/
def loadFragments (tree : FileTree) (files : List KeyedFile) :
    Except Failure (Dictionary Source) :=
  files.mapM (loadFragment tree)

/-- The source in the template file. -/
def loadTemplate (tree : FileTree) (path : RawText) : Except Failure Source :=
  match readText tree path with
  | .error error => .error (.read error)
  | .ok text => (Source.parse text).mapError (.template path)

/-! ### Composing -/

/-- Resolves the template against the bindings. -/
def resolveAgainst (bindings : Bindings) (source : Source) : Attempt Failure Template :=
  match Resolver.new bindings with
  | .error error => ⟨[], .error (.resolve error)⟩
  | .ok resolver =>
      let (result, resolver') := resolver.resolve source
      ⟨resolver.recordsSince resolver', result.mapError .resolve⟩

/-- A text that ends in a line feed. -/
def endLine (text : String) : String :=
  if text.toList.getLast? = some '\n' then text else text ++ "\n"

/-- The document of a template, as it was assembled or as it is written anew. -/
def render (raw : Bool) (t : Template) : Except Failure String :=
  if raw then .ok (endLine t.documentText)
  else
    match GraphQL.Document.parse t.documentText with
    | .error error => .error (.parse error)
    | .ok document => .ok document.text

/-- The text that the command shows. -/
def compose (tree : FileTree) (options : ComposeOptions) : Attempt Failure String := do
  let files ← gatherFiles tree options
  Attempt.tell [.fragmentFilesFound files.length]
  let fragments ← Attempt.ofExcept (loadFragments tree files)
  let source ← Attempt.ofExcept (loadTemplate tree options.templatePath)
  let template ← resolveAgainst ⟨fragments, options.vars⟩ source
  Attempt.tell template.assemblyRecords
  Attempt.ofExcept (render options.raw template)

/-! ### A whole run -/

/-- How a run ends. -/
inductive Outcome where
  | usage (error : UsageError)
  | defaultHelp (verbose : Bool)
  | printed (text : String)
  | failed (message : String)

/-- The mark in front of a failure. -/
def failureMark : String := "\u274c"

/-- How a failure is told to the user. -/
def failureMessage (options : ComposeOptions) (error : Failure) : String :=
  s!"{failureMark} Failed to compose {options.templatePath.quoted}: {error.message}"

/-- The end of a composition. -/
def Outcome.ofResult (options : ComposeOptions) : Except Failure String → Outcome
  | .ok text => .printed text
  | .error error => .failed (failureMessage options error)

/-- Runs an invocation on a tree of files, with the records told on the way. -/
def Invocation.run (tree : FileTree) : Invocation → List LogRecord × Outcome
  | .defaultHelp verbose => ([], .defaultHelp verbose)
  | .compose _ options =>
      let attempt := Command.compose tree options
      (attempt.records, .ofResult options attempt.result)

/-- Runs the program on a tree of files, with the records told on the way. -/
def run (tree : FileTree) (arguments : List String) : List LogRecord × Outcome :=
  match parseArguments arguments with
  | .error error => ([], .usage error)
  | .ok invocation => invocation.run tree

end QueryWeave.Command
