/-
**Paths.**

A path names a file by components between slashes.  Empty components do not count, and neither does
a dot, unless it is the first component of a relative path.  Two paths are the same when their
components are.  The last component names the file if it is neither a dot nor two dots; what follows
the last dot in that name, unless it is the first sign, is the extension, and what comes before it
is the stem.

Paths are bytes, and so are the names in them.  Stem and extension are wanted as texts, in which
stray bytes are replaced; so two names that are no texts may differ and have the same stem.

Main definitions:

* `QueryWeave.Path.Component`, `QueryWeave.Path.components` — the components of a path;
* `QueryWeave.Path.fileName?`, and of it `QueryWeave.Path.rawStem?`, `QueryWeave.Path.stem?` and
  `QueryWeave.Path.extension?`;
* `QueryWeave.Path.join` — the path of an entry below another path;
* `QueryWeave.Path.steps` — a path as the steps that lead to the file.
-/

import QueryWeave.Text.Cut
import QueryWeave.Text.Utf8

set_option relaxedAutoImplicit false
set_option autoImplicit false

namespace QueryWeave.Path

/-- The slash between components. -/
def slash : UInt8 := 0x2F

/-- The dot in front of an extension. -/
def dot : UInt8 := 0x2E

/-- A component of a path. -/
inductive Component where
  | root
  | current
  | parent
  | normal (name : RawText)
  deriving DecidableEq, Repr

/-- What stands between the slashes of a path. -/
def pieces (path : RawText) : List RawText :=
  Text.pieces slash path

/-- Whether a path starts at the root. -/
def isAbsolute (path : RawText) : Bool :=
  path.head? == some slash

/-- The component that a piece behind the first one stands for, if it counts. -/
def Component.ofPiece? (piece : RawText) : Option Component :=
  if piece = [] ∨ piece = [dot] then none
  else if piece = [dot, dot] then some .parent
  else some (.normal piece)

/-- The components of a path. -/
def components (path : RawText) : List Component :=
  let pieces := pieces path
  let start :=
    if isAbsolute path then [.root]
    else if pieces.head? = some [dot] then [.current]
    else []
  start ++ pieces.filterMap Component.ofPiece?

/-- Whether two paths have the same components. -/
def same (path path' : RawText) : Bool :=
  components path == components path'

/-- The name of the file that a path leads to. -/
def fileName? (path : RawText) : Option RawText :=
  match (components path).getLast? with
  | some (.normal name) => some name
  | _ => none

/-- The stem and the extension of a file name. -/
def splitName (name : RawText) : RawText × Option RawText :=
  match Text.cutLast (· == dot) name with
  | some (c :: before, behind) => (c :: before, some behind)
  | _ => (name, none)

/-- The bytes of the stem of the file that a path leads to. -/
def rawStem? (path : RawText) : Option RawText :=
  (fileName? path).map fun name => (splitName name).1

/-- The stem of the file that a path leads to, as the text that its bytes are shown as: stems with
stray bytes may differ and have the same text. -/
def stem? (path : RawText) : Option String :=
  (rawStem? path).map RawText.text

/-- The extension of the file that a path leads to, as text too. -/
def extension? (path : RawText) : Option String :=
  ((fileName? path).bind fun name => (splitName name).2).map RawText.text

/-- The path of the entry `name` below `path`. -/
def join (path name : RawText) : RawText :=
  if path.getLast? = some slash then path ++ name else path ++ slash :: name

/-- A step on the way to a file: staying in a directory, going up, or going down to an entry. -/
inductive Step where
  | stay
  | up
  | down (name : RawText)
  deriving DecidableEq, Repr

/-- The step that a piece of a path stands for. -/
def Step.ofPiece (piece : RawText) : Step :=
  if piece = [] ∨ piece = [dot] then .stay
  else if piece = [dot, dot] then .up
  else .down piece

/-- The steps of a path, from the root or from the directory it is relative to.  A slash at the end
asks for a directory, as staying there does. -/
def steps (path : RawText) : List Step :=
  (pieces path).map Step.ofPiece

end QueryWeave.Path
