/-
**The program.**

The outer layer takes the part of the file system that the arguments name into memory, lets the
library do its work there, and prints what comes out of it.  A link is kept with the real path it
leads to; a link that leads nowhere gets a target that cannot exist.  Names come from the system as
texts and are kept in bytes.
-/

import QueryWeave.Command.Arguments
import QueryWeave.Command.Composition

set_option relaxedAutoImplicit false
set_option autoImplicit false

namespace QueryWeave.Main

/-! ### Taking files into memory -/

/-- The files taken so far, and the locations whose content has been taken. -/
structure Capture where
  tree : FileTree
  taken : List Location

/-- The location of a real path. -/
def locationOf (path : RawText) : Location :=
  (Path.pieces path).filter (· ≠ [])

/-- The path of a location, as the system is asked for it. -/
def systemPath (location : Location) :=
  System.mkFilePath [location.path.text]

/-- Makes the directories above a location. -/
def above (tree : FileTree) (location : Location) : FileTree :=
  (List.range (location.length - 1)).foldl
    (fun tree n => tree.set (location.take (n + 1)) .directory) tree

/-- A target that no link can lead to. -/
def nowhere : RawText := [0]

/-- What stands at a location, if anything does. -/
def look (location : Location) : IO (Option Node) := do
  let path := systemPath location
  match ← path.symlinkMetadata.toBaseIO with
  | .error _ => return none
  | .ok metadata =>
      match metadata.type with
      | .dir => return some .directory
      | .symlink =>
          if ← path.pathExists then
            return some (.link (Text.bytes (← IO.FS.realPath path).toString))
          else return some (.link nowhere)
      | _ => return some (.file (← IO.FS.readBinFile path).toList)

/-- Takes what stands at a location, with everything below it and everything links there lead to. -/
partial def take (capture : Capture) (location : Location) : IO Capture := do
  if capture.taken.contains location then return capture
  match ← look location with
  | none => return capture
  | some node =>
      let tree := above capture.tree location
      let tree := if location = [] then tree else tree.set location node
      let capture : Capture := ⟨tree, location :: capture.taken⟩
      match node with
      | .directory =>
          let entries ← (systemPath location).readDir
          entries.foldlM
            (fun capture entry => take capture (location ++ [Text.bytes entry.fileName])) capture
      | .link target =>
          if target = nowhere then return capture else take capture (locationOf target)
      | .file _ => return capture

/-- Takes the nodes along the steps of a path, and all that stands at its end. -/
def takeAlong (capture : Capture) (location : Location) : List Path.Step → IO Capture
  | [] => take capture location
  | .stay :: steps => takeAlong capture location steps
  | .up :: steps => takeAlong capture location.dropLast steps
  | .down name :: steps => do
      let here := location ++ [name]
      match ← look here with
      | none => return capture
      | some node =>
          let capture := { capture with tree := (above capture.tree here).set here node }
          match node with
          | .link target =>
              let there := locationOf target
              match ← look there with
              | none => return capture
              | some node =>
                  let tree := (above capture.tree there).set there node
                  takeAlong { capture with tree := tree } there steps
          | _ => takeAlong capture here steps

/-- Takes what the given paths need. -/
def captureAll (paths : List RawText) : IO FileTree := do
  let directory ← IO.FS.realPath (← IO.currentDir)
  let start := locationOf (Text.bytes directory.toString)
  let capture ← paths.foldlM
    (fun capture path =>
      takeAlong capture (if Path.isAbsolute path then [] else start) (Path.steps path))
    (⟨FileTree.empty start, []⟩ : Capture)
  return capture.tree

/-! ### Printing -/

/-- A short description of the arguments. -/
def usage : String :=
  "Usage: graphql [-v] compose [-f PATH]... [--var KEY=VALUE]... " ++
    "[--graphql-file-exts LIST] [--raw] TEMPLATE_FILE"

/-- The version of the program. -/
def version : String := "graphql 0.1.0"

/-- Prints a line about arguments that lead to no run, and gives the exit code. -/
def reportUsage : Command.UsageError → IO UInt32
  | .displayHelp => do
      IO.println usage
      return 0
  | .displayVersion => do
      IO.println version
      return 0
  | _ => do
      IO.eprintln usage
      return 2

/-- Prints the end of a run, and gives the exit code. -/
def report : Command.Outcome → IO UInt32
  | .usage error => reportUsage error
  | .defaultHelp _ => do
      IO.println usage
      return 0
  | .printed text => do
      IO.print text
      return 0
  | .failed message => do
      IO.eprintln message
      return 1

/-- Prints a line of the log. -/
def printLog (level : Severity) (message : String) : IO Unit :=
  IO.eprintln s!"{level.label} {message}"

/-- Runs an invocation. -/
def perform (invocation : Command.Invocation) : IO UInt32 := do
  let (level, warning?) := Command.selectLevel invocation.isVerbose (← IO.getEnv "LOG_LEVEL")
  if let some warning := warning? then printLog .warn warning
  let (records, outcome) := invocation.run (← captureAll invocation.paths)
  for record in records.filter (·.isShownFrom level) do
    printLog record.level record.message
  report outcome

end QueryWeave.Main

/-- Runs the program with the given arguments. -/
def main (arguments : List String) : IO UInt32 :=
  match QueryWeave.Command.parseArguments arguments with
  | .error error => QueryWeave.Main.reportUsage error
  | .ok invocation => QueryWeave.Main.perform invocation
