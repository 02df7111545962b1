/-
**Log records.**

What happens on the way to a document is told in records of two levels of detail.  An attempt gives
a result or fails, and tells records on the way; what was told before a failure stays told.

Main definitions:

* `QueryWeave.LogRecord` — what can be told;
* `QueryWeave.LogRecord.level`, `QueryWeave.LogRecord.message` — how it is told;
* `QueryWeave.Attempt` — a result or an error with the records, with its monad structure;
* `QueryWeave.Attempt.tell`, `QueryWeave.Attempt.ofExcept` — telling records, failing perhaps.

Main results:

* `QueryWeave.Attempt.result_bind` — the result of one attempt after another.
-/

import QueryWeave.Text.Quoted

set_option relaxedAutoImplicit false
set_option autoImplicit false

namespace QueryWeave

/-! ### Records -/

/-- How urgent a message is. -/
inductive Severity where
  | trace
  | debug
  | info
  | warn
  | error
  deriving DecidableEq, Repr

/-- The name of a level. -/
def Severity.label : Severity → String
  | .trace => "TRACE"
  | .debug => "DEBUG"
  | .info => "INFO"
  | .warn => "WARN"
  | .error => "ERROR"

/-- The rank of a level; more urgent levels rank higher. -/
def Severity.rank : Severity → Nat
  | .trace => 0
  | .debug => 1
  | .info => 2
  | .warn => 3
  | .error => 4

/-- An event worth telling. -/
inductive LogRecord where
  /-- A fragment was built, with so many children. -/
  | fragmentCreated (name : String) (children : Nat)
  /-- So many fragments were collected from a template, repetitions included. -/
  | fragmentsCollected (count : Nat)
  /-- Collected fragments were reduced to one for each name. -/
  | fragmentsDeduplicated (collected unique : Nat)
  /-- A document text of so many bytes was assembled. -/
  | documentAssembled (bytes : Nat)
  /-- The fragment for a key was built. -/
  | keyResolved (key name : String)
  /-- An entry met under a fragment path is not a file. -/
  | nonFileSkipped (path : RawText)
  /-- A file met under a fragment path is a fragment file. -/
  | fragmentFileFound (path : RawText)
  /-- A file met under a fragment path has another extension. -/
  | otherFileSkipped (path : RawText)
  /-- A fragment file was met before. -/
  | listedFileSkipped (path : RawText)
  /-- All fragment files have their keys. -/
  | fragmentFilesFound (count : Nat)
  deriving DecidableEq, Repr

/-- The level a record is told at. -/
def LogRecord.level : LogRecord → Severity
  | .fragmentCreated .. | .fragmentsCollected .. | .nonFileSkipped .. | .fragmentFileFound ..
  | .otherFileSkipped .. | .listedFileSkipped .. => .trace
  | .fragmentsDeduplicated .. | .documentAssembled .. | .keyResolved ..
  | .fragmentFilesFound .. => .debug

/-- The wording of a record. -/
def LogRecord.message : LogRecord → String
  | .fragmentCreated name children =>
      s!"Created fragment `{name}` with {children} interpolated values."
  | .fragmentsCollected count => s!"Collected {count} fragment references from query template."
  | .fragmentsDeduplicated collected unique =>
      s!"Deduplicated {collected} collected fragments down to {unique} unique fragments."
  | .documentAssembled bytes => s!"Assembled query document ({bytes} bytes)."
  | .keyResolved key name => s!"Resolved fragment key `{key}` to `{name}`."
  | .nonFileSkipped path => s!"Skipping non-file: {path.quoted}."
  | .fragmentFileFound path => s!"Found fragment file at {path.quoted}."
  | .otherFileSkipped path => s!"Skipping non-graphql file: {path.quoted}."
  | .listedFileSkipped path => s!"Skipping already-listed fragment file {path.quoted}."
  | .fragmentFilesFound count => s!"Found {count} fragment template files."

/-- Whether a record is shown when only records from a level on are. -/
def LogRecord.isShownFrom (threshold : Severity) (record : LogRecord) : Bool :=
  threshold.rank ≤ record.level.rank

/-! ### Attempts -/

/-- A result or an error, with the records told on the way to it. -/
structure Attempt (ε α : Type) where
  records : List LogRecord
  result : Except ε α

namespace Attempt

variable {ε α β : Type}

/-- Success without a word. -/
def succeed (a : α) : Attempt ε α := ⟨[], .ok a⟩

/-- One attempt after another, which is not made if the first fails. -/
def andThen (p : Attempt ε α) (f : α → Attempt ε β) : Attempt ε β :=
  match p.result with
  | .error e => ⟨p.records, .error e⟩
  | .ok a => ⟨p.records ++ (f a).records, (f a).result⟩

instance : Monad (Attempt ε) where
  pure := succeed
  bind := andThen

/-- Tells records. -/
def tell (records : List LogRecord) : Attempt ε Unit := ⟨records, .ok ()⟩

/-- A result or an error, without a word. -/
def ofExcept (result : Except ε α) : Attempt ε α := ⟨[], result⟩

/-- The same attempt with its error put into other terms. -/
def mapError {ε' : Type} (f : ε → ε') (p : Attempt ε α) : Attempt ε' α :=
  ⟨p.records, p.result.mapError f⟩

@[simp] theorem result_pure (a : α) : (pure a : Attempt ε α).result = .ok a := rfl

@[simp] theorem result_tell (records : List LogRecord) :
    (tell records : Attempt ε Unit).result = .ok () := rfl

@[simp] theorem result_ofExcept (result : Except ε α) : (ofExcept result).result = result := rfl

@[simp] theorem result_mapError {ε' : Type} (f : ε → ε') (p : Attempt ε α) :
    (p.mapError f).result = p.result.mapError f := rfl

@[simp] theorem result_bind (p : Attempt ε α) (f : α → Attempt ε β) :
    (p >>= f).result = p.result.bind fun a => (f a).result := by
  change (p.andThen f).result = _
  unfold andThen
  cases h : p.result <;> rfl

end Attempt

end QueryWeave
