/-
**Resolving templates.**

A key is bound either to the source of a fragment or to a plain text, never to both.

A resolver turns sources into templates by finding what each placeholder stands for.  A fragment is
built the first time its key is met, after everything it needs itself, and is used again from then
on; so all references to a key share one instance, in one template and across templates.  The keys
whose fragments are being built form a path, and a key that is met while it is on the path is the
end of a cycle.  What was built before an error stays built.

Every step is recorded as an event: a key joins the path, leaves it again, its fragment is built.

Main definitions:

* `QueryWeave.Bindings` — the two kinds of bindings;
* `QueryWeave.Bindings.sharedKeys` — the keys bound twice, in order;
* `QueryWeave.ResolveError`, `QueryWeave.ResolveError.message` — the ways to fail;
* `QueryWeave.ResolutionEvent`, `QueryWeave.ResolutionEvent.records` — events and what the log says
  about them;
* `QueryWeave.Memory` — the fragments built so far and the events up to now;
* `QueryWeave.interpretKey`, `QueryWeave.interpretSource` — what keys and sources stand for;
* `QueryWeave.Resolver`, `QueryWeave.Resolver.resolve` — resolving one template after the other.
-/

import QueryWeave.Dictionary
import QueryWeave.KeyOrder
import QueryWeave.Template.Basic
import QueryWeave.Template.Document
import QueryWeave.Template.Placeholder
import QueryWeave.Text.Quoted

set_option relaxedAutoImplicit false
set_option autoImplicit false

namespace QueryWeave

/-! ### Bindings and errors -/

/-- Keys bound to sources of fragments, and keys bound to texts. -/
structure Bindings where
  fragments : Dictionary Source
  vars : Dictionary String

/-- The keys that are bound both ways, ascending and each once. -/
def Bindings.sharedKeys (b : Bindings) : List String :=
  KeyOrder.sorted (b.vars.keys.filter fun key => key ∈ b.fragments.keys)

/-- Why a template cannot be resolved. -/
inductive ResolveError where
  /-- Keys are bound both ways. -/
  | ambiguous (keys : List String)
  /-- A fragment needs itself; the path leads from a key back to it. -/
  | cycle (path : List String)
  /-- A key is bound to nothing. -/
  | undefined (key : String)
  /-- A source has the wrong number of segments. -/
  | malformed (mismatch : CountMismatch)
  deriving DecidableEq, Repr

/-- How an error is told to the user. -/
def ResolveError.message : ResolveError → String
  | .ambiguous keys =>
      "Keys defined both as a fragment and as a --var: " ++ Text.quotedList keys
  | .cycle path => "Fragment cycle detected: " ++ " -> ".intercalate path
  | .undefined key => s!"No fragment file or --var defines the key `{key}`"
  | .malformed mismatch => mismatch.message

/-- The keys of fragments that are not on the path. -/
def Bindings.unvisited (b : Bindings) (path : List String) : List String :=
  b.fragments.keys.filter fun key => key ∉ path

/-- A fragment that joins the path leaves fewer of them to visit. -/
theorem Bindings.length_unvisited_lt (b : Bindings) {path : List String} {key : String}
    (hkey : key ∈ b.fragments.keys) (hpath : key ∉ path) :
    (b.unvisited (path ++ [key])).length < (b.unvisited path).length := by
  have hsub : b.unvisited (path ++ [key]) =
      (b.unvisited path).filter fun k => decide (k ≠ key) := by
    unfold unvisited
    rw [List.filter_filter]
    congr 1
    funext k
    by_cases h : k = key <;> by_cases h' : k ∈ path <;> simp [h, h']
  rw [hsub]
  refine List.length_filter_lt_length_iff_exists.2 ⟨key, ?_, by simp⟩
  simp [unvisited, hkey, hpath]

/-! ### Events and memory -/

/-- A step of a resolver. -/
inductive ResolutionEvent where
  /-- The key joins the path. -/
  | opened (key : String)
  /-- The key, which was the last on the path, leaves it. -/
  | closed (key : String)
  /-- The fragment for the key is built. -/
  | built (key : String) (fragment : Fragment)

/-- What the log says about an event. -/
def ResolutionEvent.records : ResolutionEvent → List LogRecord
  | .opened _ | .closed _ => []
  | .built key fragment => [fragment.creationRecord, .keyResolved key fragment.name]

/-- What a resolver remembers: the fragments it has built, the serial number for the next one, and
all events in order. -/
structure Memory where
  resolved : Dictionary Fragment
  nextSerial : Nat
  events : List ResolutionEvent

namespace Memory

/-- Nothing has been built. -/
def empty : Memory := ⟨[], 0, []⟩

/-- The key joins the path. -/
def opening (m : Memory) (key : String) : Memory :=
  ⟨m.resolved, m.nextSerial, m.events ++ [.opened key]⟩

/-- The key leaves the path. -/
def closing (m : Memory) (key : String) : Memory :=
  ⟨m.resolved, m.nextSerial, m.events ++ [.closed key]⟩

/-- The fragment that is built next from a template. -/
def fragmentFor (m : Memory) (t : Template) : Fragment :=
  .ofTemplate m.nextSerial t

/-- Builds the fragment for a key and keeps it. -/
def building (m : Memory) (key : String) (t : Template) : Memory :=
  ⟨m.resolved.insert key (m.fragmentFor t), m.nextSerial + 1,
    m.events ++ [.built key (m.fragmentFor t)]⟩

end Memory

/-! ### What keys and sources stand for -/

/-- The part of the path from the first occurrence of `key` on, and `key` again. -/
def cycleThrough (key : String) (path : List String) : List String :=
  path.dropWhile (· != key) ++ [key]

mutual
/-- What a key stands for, met while the fragments on `path` are being built.  The path is handed
down; it might as well be a stack beside the memory, since it is restored behind every key. -/
def interpretKey (b : Bindings) (path : List String) (key : String) (m : Memory) :
    Except ResolveError Splice × Memory :=
  match b.vars.find? key with
  | some text => (.ok (.leaf text), m)
  | none =>
      -- a fragment that is built cannot be on the path: what it needs was all built before it
      match m.resolved.find? key with
      | some fragment => (.ok (.fragment fragment), m)
      | none =>
          -- a key on the path closes a cycle, whatever it may be bound to
          if hpath : key ∈ path then (.error (.cycle (cycleThrough key path)), m)
          else
            match hsource : b.fragments.find? key with
            | none => (.error (.undefined key), m)
            | some source =>
                have := b.length_unvisited_lt (Dictionary.mem_keys_of_find? hsource) hpath
                match interpretSource b (path ++ [key]) source (m.opening key) with
                | (.error e, m') => (.error e, m'.closing key)
                | (.ok template, m') =>
                    (.ok (.fragment (m'.fragmentFor template)),
                      (m'.closing key).building key template)
termination_by ((b.unvisited path).length, 0)
/-- The template that a source stands for: all its keys first, then the number of its segments. -/
def interpretSource (b : Bindings) (path : List String) (source : Source) (m : Memory) :
    Except ResolveError Template × Memory :=
  match interpretKeys b path source.keys m with
  | (.error e, m') => (.error e, m')
  | (.ok splices, m') =>
      ((Template.ofLists source.segments splices).mapError .malformed, m')
termination_by ((b.unvisited path).length, source.keys.length + 2)
/-- What several keys stand for, from left to right up to the first that fails. -/
def interpretKeys (b : Bindings) (path : List String) (keys : List String) (m : Memory) :
    Except ResolveError (List Splice) × Memory :=
  match keys with
  | [] => (.ok [], m)
  | key :: keys =>
      match interpretKey b path key m with
      | (.error e, m') => (.error e, m')
      | (.ok splice, m') =>
          match interpretKeys b path keys m' with
          | (.error e, m'') => (.error e, m'')
          | (.ok splices, m'') => (.ok (splice :: splices), m'')
termination_by ((b.unvisited path).length, keys.length + 1)
end

/-! ### Resolvers -/

/-- Bindings without ambiguous keys, and what has been built from them. -/
structure Resolver where
  bindings : Bindings
  memory : Memory
  unambiguous : bindings.sharedKeys = []

namespace Resolver

/-- A resolver that has not built anything. -/
def new (b : Bindings) : Except ResolveError Resolver :=
  if h : b.sharedKeys = [] then .ok ⟨b, .empty, h⟩ else .error (.ambiguous b.sharedKeys)

/-- Resolves a source, and remembers what was built on the way. -/
def resolve (r : Resolver) (source : Source) : Except ResolveError Template × Resolver :=
  let (result, m) := interpretSource r.bindings [] source r.memory
  (result, { r with memory := m })

/-- Resolves sources one after the other, and gives the resolver behind the last of them. -/
def resolveAll (r : Resolver) (sources : List Source) : Resolver :=
  sources.foldl (fun r source => (r.resolve source).2) r

/-- The events since `r`, in a resolver that came from it. -/
def eventsSince (r r' : Resolver) : List ResolutionEvent :=
  r'.memory.events.drop r.memory.events.length

/-- What the log says about the events since `r`. -/
def recordsSince (r r' : Resolver) : List LogRecord :=
  (r.eventsSince r').flatMap ResolutionEvent.records

end Resolver

end QueryWeave
