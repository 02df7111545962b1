/-
**Command-line arguments.**

The arguments are read from left to right, first those in front of the subcommand, then those behind
it.  An option may have its value in the same argument or in the next one; until it is complete it
is pending.  What is pending is checked when the next option or positional argument begins, and the
first mistake that is noticed decides.

`KEY=VALUE` binds a key to a text.  The first equals sign ends the key, blanks around the key do not
count, and everything behind the sign is the value.

The level from which on log records are shown comes from the verbose flag or else from the name of a
level in the environment.

Main definitions:

* `QueryWeave.Command.AssignmentError`, `QueryWeave.Command.parseAssignment` — key and value of an
  assignment;
* `QueryWeave.Command.UsageError` — the ways in which arguments do not lead to a run;
* `QueryWeave.Command.ComposeOptions`, `QueryWeave.Command.Invocation` — what arguments ask for;
* `QueryWeave.Command.parseArguments` — reading all arguments;
* `QueryWeave.Command.selectLevel` — the level, and a warning about a name that is none.
-/

import QueryWeave.Log
import QueryWeave.Text.Blank
import QueryWeave.Text.Cut

set_option relaxedAutoImplicit false
set_option autoImplicit false

namespace QueryWeave.Command

/-! ### Assignments -/

/-- Why an argument is no assignment. -/
inductive AssignmentError where
  | noEquals (argument : String)
  | emptyKey (argument : String)
  deriving DecidableEq, Repr

/-- How the failure is told to the user. -/
def AssignmentError.message : AssignmentError → String
  | .noEquals argument => s!"expected `KEY=VALUE`, got `{argument}`"
  | .emptyKey argument => s!"empty key in `{argument}`"

/-- The key and the value of an assignment. -/
def parseAssignment (argument : String) : Except AssignmentError (String × String) :=
  match Text.cutFirst '=' argument.toList with
  | none => .error (.noEquals argument)
  | some (before, value) =>
      let key := Text.trim before
      if key = [] then .error (.emptyKey argument)
      else .ok (String.ofList key, String.ofList value)

/-! ### What arguments ask for -/

/-- Why arguments do not lead to a run: help or the version is asked for, or there is a mistake. -/
inductive UsageError where
  | displayHelp
  | displayVersion
  | invalidSubcommand
  | missingRequiredArgument
  | unknownArgument
  | invalidValue
  | valueValidation
  | argumentConflict
  | tooManyValues
  deriving DecidableEq, Repr

/-- What a composition is asked for with. -/
structure ComposeOptions where
  fragmentPaths : List RawText
  extensions : List String
  raw : Bool
  templatePath : RawText
  vars : List (String × String)
  deriving Repr

/-- What the program is asked to do. -/
inductive Invocation where
  | defaultHelp (verbose : Bool)
  | compose (verbose : Bool) (options : ComposeOptions)
  deriving Repr

/-- The extensions that fragment files have unless others are given. -/
def defaultExtensions : List String := ["graphql", "gql"]

/-! ### Single arguments -/

/-- The name of an option in `--name` or `--name=value`, and the value. -/
def splitLong (body : List Char) : String × Option String :=
  match Text.cutFirst '=' body with
  | some (name, value) => (String.ofList name, some (String.ofList value))
  | none => (String.ofList body, none)

/-- A value that is attached to a short option; one equals sign in front of it does not count. -/
def attachedValue : List Char → Option String
  | [] => none
  | '=' :: value => some (String.ofList value)
  | value => some (String.ofList value)

/-! ### Behind the subcommand -/

/-- The options that take a value. -/
inductive ValueOption where
  | fragments
  | assignment
  | extensions
  deriving DecidableEq, Repr

/-- The flags. -/
inductive Flag where
  | raw
  | verbose
  | help
  deriving DecidableEq, Repr

/-- An option of either kind. -/
inductive OptionKind where
  | flag (flag : Flag)
  | valued (option : ValueOption)
  deriving DecidableEq, Repr

/-- The option with a long name. -/
def OptionKind.ofName? (name : String) : Option OptionKind :=
  match name with
  | "fragments" => some (.valued .fragments)
  | "var" => some (.valued .assignment)
  | "graphql-file-exts" => some (.valued .extensions)
  | "raw" => some (.flag .raw)
  | "verbose" => some (.flag .verbose)
  | "help" => some (.flag .help)
  | _ => none

/-- The option with a short name. -/
def OptionKind.ofLetter? (letter : Char) : Option OptionKind :=
  match letter with
  | 'f' => some (.valued .fragments)
  | 'v' => some (.flag .verbose)
  | 'h' => some (.flag .help)
  | _ => none

/-- What has begun but not been checked. -/
inductive Pending where
  | option (option : ValueOption) (value? : Option String)
  | template (path : String)
  deriving Repr

/-- What the arguments read so far say. -/
structure Progress where
  fragmentPaths : List String
  extensions : List String
  raw : Bool
  verbose : Bool
  templatePath? : Option String
  vars : List (String × String)
  pending? : Option Pending
  deriving Repr

namespace Progress

/-- Nothing has been read. -/
def start : Progress := ⟨[], [], false, false, none, [], none⟩

/-- Checks what is pending, and takes it over. -/
def settle (p : Progress) : Except UsageError Progress :=
  let p' := { p with pending? := none }
  match p.pending? with
  | none => .ok p'
  | some (.option _ none) => .error .invalidValue
  | some (.option .fragments (some path)) =>
      if path = "" then .error .invalidValue
      else .ok { p' with fragmentPaths := p.fragmentPaths ++ [path] }
  | some (.option .assignment (some argument)) =>
      match parseAssignment argument with
      | .error _ => .error .valueValidation
      | .ok entry => .ok { p' with vars := p.vars ++ [entry] }
  | some (.option .extensions (some list)) =>
      let given := (Text.pieces ',' list.toList).map String.ofList
      .ok { p' with extensions := p.extensions ++ given }
  | some (.template path) =>
      if path = "" then .error .invalidValue else .ok { p' with templatePath? := some path }

/-- A flag is set; each can be set once. -/
def setFlag (p : Progress) (flag : Flag) : Except UsageError Progress := do
  let p ← p.settle
  match flag with
  | .help => .error .displayHelp
  | .raw => if p.raw then .error .argumentConflict else .ok { p with raw := true }
  | .verbose => if p.verbose then .error .argumentConflict else .ok { p with verbose := true }

/-- An option begins; a value that is attached to it completes it. -/
def begin (p : Progress) (option : ValueOption) (attached? : Option String) :
    Except UsageError Progress := do
  let p ← p.settle
  let p := { p with pending? := some (.option option attached?) }
  -- an attached value is checked at once, any other one only when something new begins
  if attached?.isSome then p.settle else .ok p

/-- An argument of the form `--name` or `--name=value`. -/
def readLong (p : Progress) (body : List Char) : Except UsageError Progress :=
  let (name, value?) := splitLong body
  match OptionKind.ofName? name with
  | none => .error .unknownArgument
  | some (.flag flag) => if value?.isSome then .error .tooManyValues else p.setFlag flag
  | some (.valued option) => p.begin option value?

/-- An argument of the form `-abc`, where each letter is a flag up to one that takes the rest as its
value. -/
def readShort (p : Progress) : List Char → Except UsageError Progress
  | [] => .ok p
  | letter :: rest =>
      match OptionKind.ofLetter? letter with
      | none => .error .unknownArgument
      | some (.flag flag) => do (← p.setFlag flag).readShort rest
      | some (.valued option) => p.begin option (attachedValue rest)

/-- A positional argument: the path of the template, of which there is one. -/
def readPositional (p : Progress) (argument : String) : Except UsageError Progress :=
  let second :=
    match p.pending?, p.templatePath? with
    | some (.template _), _ => true
    | _, some _ => true
    | _, none => false
  if second then .error .unknownArgument
  else do
    let p ← p.settle
    .ok { p with pending? := some (.template argument) }

/-- An argument that does not look like an option: the value of an option that waits for one, or
else a positional argument. -/
def readPlain (p : Progress) (argument : String) : Except UsageError Progress :=
  match p.pending? with
  | some (.option option none) =>
      .ok { p with pending? := some (.option option (some argument)) }
  | _ => p.readPositional argument

/-- Reads all arguments; behind `--` none of them is an option. -/
def readAll (p : Progress) (trailing : Bool) : List String → Except UsageError Progress
  | [] => p.settle
  | argument :: arguments => do
      if trailing then (← p.readPositional argument).readAll true arguments
      else
        match argument.toList with
        | ['-', '-'] => p.readAll true arguments
        | '-' :: '-' :: body => (← p.readLong body).readAll false arguments
        | '-' :: c :: body => (← p.readShort (c :: body)).readAll false arguments
        -- a dash alone is no option
        | _ => (← p.readPlain argument).readAll false arguments

/-- The options that complete arguments give.  A path is named by the bytes of its argument. -/
def finish (p : Progress) : Except UsageError ComposeOptions :=
  match p.templatePath? with
  | none => .error .missingRequiredArgument
  | some templatePath =>
      let extensions := if p.extensions = [] then defaultExtensions else p.extensions
      .ok ⟨p.fragmentPaths.map Text.bytes, extensions, p.raw, Text.bytes templatePath, p.vars⟩

end Progress

/-! ### In front of the subcommand -/

/-- Whether a word is a subcommand. -/
def isSubcommand (word : String) : Bool :=
  word == "compose" || word == "help"

/-- The arguments behind `help`: at most one subcommand to be helped with. -/
def readHelp : List String → UsageError
  | [] => .displayHelp
  | [word] => if isSubcommand word then .displayHelp else .invalidSubcommand
  | _ => .invalidSubcommand

/-- The flags that stand in front of the subcommand. -/
inductive GlobalFlag where
  | verbose
  | help
  | version
  deriving DecidableEq, Repr

/-- The flag with a long name. -/
def GlobalFlag.ofName? (name : String) : Option GlobalFlag :=
  match name with
  | "verbose" => some .verbose
  | "help" => some .help
  | "version" => some .version
  | _ => none

/-- The flag with a short name. -/
def GlobalFlag.ofLetter? (letter : Char) : Option GlobalFlag :=
  match letter with
  | 'v' => some .verbose
  | 'h' => some .help
  | 'V' => some .version
  | _ => none

/-- Whether the output is verbose once the flag is set, too. -/
def setGlobal (verbose : Bool) : GlobalFlag → Except UsageError Bool
  | .verbose => if verbose then .error .argumentConflict else .ok true
  | .help => .error .displayHelp
  | .version => .error .displayVersion

/-- Sets the flag of an argument of the form `--name`. -/
def readGlobalLong (verbose : Bool) (body : List Char) : Except UsageError Bool :=
  let (name, value?) := splitLong body
  match GlobalFlag.ofName? name with
  | none => .error .unknownArgument
  | some flag => if value?.isSome then .error .tooManyValues else setGlobal verbose flag

/-- Sets the flags of an argument of the form `-abc`. -/
def readGlobalShort (verbose : Bool) : List Char → Except UsageError Bool
  | [] => .ok verbose
  | letter :: rest =>
      match GlobalFlag.ofLetter? letter with
      | none => .error .unknownArgument
      | some flag => do readGlobalShort (← setGlobal verbose flag) rest

/-- Reads all arguments, beginning in front of the subcommand.  Behind `--` there is no subcommand
any more. -/
def readArguments (verbose trailing : Bool) : List String → Except UsageError Invocation
  | [] => .ok (.defaultHelp verbose)
  | argument :: arguments => do
      if trailing then
        .error (if isSubcommand argument then .unknownArgument else .invalidSubcommand)
      else
        match argument.toList with
        | ['-', '-'] => readArguments verbose true arguments
        | '-' :: '-' :: body =>
            readArguments (← readGlobalLong verbose body) false arguments
        | '-' :: c :: body =>
            readArguments (← readGlobalShort verbose (c :: body)) false arguments
        | _ =>
            if argument = "compose" then
              let progress ← Progress.start.readAll false arguments
              let options ← progress.finish
              .ok (.compose (verbose || progress.verbose) options)
            else if argument = "help" then .error (readHelp arguments)
            else .error .invalidSubcommand

/-- Whether the output is to be verbose. -/
def Invocation.isVerbose : Invocation → Bool
  | .defaultHelp verbose => verbose
  | .compose verbose _ => verbose

/-- The paths that an invocation reads from. -/
def Invocation.paths : Invocation → List RawText
  | .defaultHelp _ => []
  | .compose _ options => options.fragmentPaths ++ [options.templatePath]

/-- What the arguments ask for. -/
def parseArguments (arguments : List String) : Except UsageError Invocation :=
  readArguments false false arguments

/-! ### How much is told -/

/-- The level with the given name; letters of either case will do. -/
def levelNamed? (name : String) : Option Severity :=
  match name.map Char.toLower with
  | "trace" => some .trace
  | "debug" | "verbose" => some .debug
  | "info" => some .info
  | "warn" => some .warn
  | "error" => some .error
  | _ => none

/-- The level to show records from, and a warning if the environment names none. -/
def selectLevel (verbose : Bool) (environment : Option String) : Severity × Option String :=
  if verbose then (.debug, none)
  else
    match environment with
    | none => (.info, none)
    | some value =>
        let name := String.ofList (Text.trim value.toList)
        match levelNamed? name with
        | some level => (level, none)
        | none => (.info, some s!"Invalid `LOG_LEVEL` environment variable value: `{name}`")

end QueryWeave.Command
