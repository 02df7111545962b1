/-
**Memory is invisible.**

A resolver answers as if it had no memory: what it gives for a source, success or failure, is what
expanding that source alone gives, up to the identity of instances.  In particular no source that
was resolved before, with success or without, has an influence on the answer.

The proof follows the recursion.  A key, several keys and a source are each interpreted
*faithfully*: the memory advances within the invariant of `QueryWeave.Memory.Coherent`, what was
found is known afterwards, and the answer is that of the expansion.

Main definitions:

* `QueryWeave.Faithful` — what interpreting has to achieve;
* `QueryWeave.Resolver.results` — the answers for several sources, one after the other.

Main results:

* `QueryWeave.interpretKey_faithful`, `QueryWeave.interpretKeys_faithful`,
  `QueryWeave.interpretSource_faithful` — keys and sources are interpreted faithfully;
* `QueryWeave.Resolver.resolve_faithful` — so is every source that a resolver is given;
* `QueryWeave.Resolver.results_eq_expandSource` — **every answer is that of the expansion**.
-/

import QueryWeave.Proofs.Resolution.Interpretation
import QueryWeave.Proofs.Resolution.Memory

set_option relaxedAutoImplicit false
set_option autoImplicit false

namespace QueryWeave

/-! ### Faithful interpretation -/

/-- What is known is answered at once, and nothing happens. -/
theorem interpretKey_of_knows {b : Bindings} {path : List String} {key : String} {m : Memory}
    {splice : Splice} (h : m.Knows b key splice) :
    interpretKey b path key m = (.ok splice, m) := by
  cases h with
  | var hvar => exact interpretKey_of_var hvar
  | fragment hvar hf => exact interpretKey_of_resolved hvar hf

/-- What interpreting has to achieve, begun with the memory `m` while the keys on `path` are being
built: the memory advances, what was found is known from then on, and the answer has the shape of
the expected one. -/
structure Faithful {α : Type} (b : Bindings) (path : List String) (m : Memory)
    (known : Memory → α → Prop) (shape : α → α) (expected : Except ResolveError α)
    (outcome : Except ResolveError α × Memory) : Prop where
  advances : m.Advances b path outcome.2
  known : ∀ a, outcome.1 = .ok a → known outcome.2 a
  shape : outcome.1.map shape = expected

theorem faithful_error {α : Type} {b : Bindings} {path : List String} {m m' : Memory}
    {known : Memory → α → Prop} {shape : α → α} {e : ResolveError} (h : m.Advances b path m') :
    Faithful b path m known shape (.error e) (.error e, m') :=
  ⟨h, nofun, rfl⟩

/-- A key is interpreted faithfully. -/
def FaithfulKey (b : Bindings) (path : List String) (key : String) (m : Memory) : Prop :=
  Faithful b path m (fun m' splice => m'.Knows b key splice) Splice.shape (b.expandKey path key)
    (interpretKey b path key m)

/-- Several keys are interpreted faithfully. -/
def FaithfulKeys (b : Bindings) (path : List String) (keys : List String) (m : Memory) : Prop :=
  Faithful b path m (fun m' splices => List.Forall₂ (m'.Knows b) keys splices)
    (List.map Splice.shape) (b.expandKeys path keys) (interpretKeys b path keys m)

/-- A source is interpreted faithfully. -/
def FaithfulSource (b : Bindings) (path : List String) (source : Source) (m : Memory) : Prop :=
  Faithful b path m
    (fun m' t => t.segments = source.segments ∧ List.Forall₂ (m'.Knows b) source.keys t.splices)
    Template.shape (b.expandSource path source) (interpretSource b path source m)

/-- If each key is interpreted faithfully, then so are several of them in a row. -/
theorem interpretKeys_faithful {b : Bindings} {path : List String}
    (hkey : ∀ key (m : Memory), m.Coherent b path → FaithfulKey b path key m) :
    ∀ keys (m : Memory), m.Coherent b path → FaithfulKeys b path keys m := by
  intro keys
  induction keys with
  | nil =>
      intro m hm
      rw [FaithfulKeys, interpretKeys, Bindings.expandKeys_nil]
      refine ⟨hm.advances_refl, fun splices h => ?_, rfl⟩
      cases h
      exact .nil
  | cons key keys ih =>
      intro m hm
      rw [FaithfulKeys, interpretKeys, Bindings.expandKeys_cons]
      have h := hkey key m hm
      rw [FaithfulKey] at h
      rcases hout : interpretKey b path key m with ⟨result, m'⟩
      rw [hout] at h
      obtain ⟨hadvances, hknown, hshape⟩ := h
      cases result with
      | error e =>
          rw [← hshape]
          exact faithful_error hadvances
      | ok splice =>
          have h' := ih m' hadvances.coherent
          rw [FaithfulKeys] at h'
          rcases hout' : interpretKeys b path keys m' with ⟨result', m''⟩
          rw [hout'] at h'
          obtain ⟨hadvances', hknown', hshape'⟩ := h'
          rw [← hshape, ← hshape']
          cases result' with
          | error e =>
              simp only [hout']
              exact faithful_error (hadvances.trans hadvances')
          | ok splices =>
              simp only [hout']
              refine ⟨hadvances.trans hadvances', fun all h => ?_, rfl⟩
              cases h
              exact .cons ((hknown splice rfl).mono hadvances'.grows) (hknown' splices rfl)

/-- If the keys of a source are interpreted faithfully, then so is the source. -/
theorem interpretSource_faithful {b : Bindings} {path : List String}
    (hkey : ∀ key (m : Memory), m.Coherent b path → FaithfulKey b path key m) (source : Source)
    (m : Memory) (hm : m.Coherent b path) : FaithfulSource b path source m := by
  have h := interpretKeys_faithful hkey source.keys m hm
  rw [FaithfulKeys] at h
  rw [FaithfulSource, interpretSource, Bindings.expandSource_eq]
  rcases hout : interpretKeys b path source.keys m with ⟨result, m'⟩
  rw [hout] at h
  obtain ⟨hadvances, hknown, hshape⟩ := h
  rw [← hshape]
  cases result with
  | error e => exact faithful_error hadvances
  | ok splices =>
      refine ⟨hadvances, fun t ht => ?_, ?_⟩
      · obtain ⟨hsegments, rfl⟩ := Template.ofLists_eq_ok_iff.1 (Result.mapError_eq_ok_iff.1 ht)
        exact ⟨hsegments, hknown t.splices rfl⟩
      · simp only [Except.map, Except.bind, ← Template.map_shape_ofLists]
        cases Template.ofLists source.segments splices <;> rfl

/-- A key whose source was interpreted faithfully is so itself: it leaves the path, and its fragment
is built. -/
theorem faithful_building {b : Bindings} {path : List String} {key : String} {source : Source}
    {m m' : Memory} {t : Template} (hclosed : m.Advances b path (m'.closing key))
    (hvar : b.vars.find? key = none) (hsource : b.fragments.find? key = some source)
    (hpath : key ∉ path) (hnone : m'.resolved.find? key = none)
    (hsegments : t.segments = source.segments)
    (hkeys : List.Forall₂ ((m'.closing key).Knows b) source.keys t.splices) :
    Faithful b path m (fun m'' splice => m''.Knows b key splice) Splice.shape
      (.ok (.fragment (.ofTemplate 0 t.shape)))
      (.ok (.fragment (m'.fragmentFor t)), (m'.closing key).building key t) := by
  have hcoherent : ((m'.closing key).building key t).Coherent b path :=
    hclosed.coherent.building hvar hsource hnone hpath hsegments hkeys
  refine ⟨⟨hcoherent, hclosed.grows.trans (Memory.grows_building hnone t)⟩, ?_, ?_⟩
  · intro splice h
    cases h
    refine .fragment hvar ?_
    rw [Memory.building, Dictionary.find?_insert, if_pos rfl]
    rfl
  · simp [Except.map, Memory.fragmentFor]

/-- Keys are interpreted faithfully, whatever the path. -/
theorem interpretKey_faithful {b : Bindings} (path : List String) :
    ∀ key (m : Memory), m.Coherent b path → FaithfulKey b path key m := by
  induction path using b.induction_on_path with
  | step path ih =>
      intro key m hm
      rw [FaithfulKey]
      cases hvar : b.vars.find? key with
      | some text =>
          have hknows : m.Knows b key (.leaf text) := .var hvar
          rw [interpretKey_of_knows hknows, hm.expandKey hknows]
          exact ⟨hm.advances_refl, fun splice h => by cases h; exact hknows, rfl⟩
      | none =>
          cases hf : m.resolved.find? key with
          | some f =>
              -- a remembered key is looked up before the path, on which it cannot be
              have hknows : m.Knows b key (.fragment f) := .fragment hvar hf
              rw [interpretKey_of_knows hknows, hm.expandKey hknows]
              exact ⟨hm.advances_refl, fun splice h => by cases h; exact hknows, rfl⟩
          | none =>
              by_cases hpath : key ∈ path
              · rw [interpretKey_of_mem hvar hf hpath, Bindings.expandKey_of_mem hvar hpath]
                exact faithful_error hm.advances_refl
              · cases hsource : b.fragments.find? key with
                | none =>
                    rw [interpretKey_of_undefined hvar hf hpath hsource,
                      Bindings.expandKey_of_undefined hvar hpath hsource]
                    exact faithful_error hm.advances_refl
                | some source =>
                    rw [interpretKey_of_source hvar hf hpath hsource,
                      Bindings.expandKey_of_source hvar hpath hsource]
                    have hfragment := Dictionary.mem_keys_of_find? hsource
                    have h := interpretSource_faithful (ih key hfragment hpath) source
                      (m.opening key) (hm.opening hvar hf)
                    rw [FaithfulSource] at h
                    rcases hout : interpretSource b (path ++ [key]) source (m.opening key)
                      with ⟨result, m'⟩
                    rw [hout] at h
                    obtain ⟨hadvances, hknown, hshape⟩ := h
                    have hclosed : m.Advances b path (m'.closing key) :=
                      ⟨hadvances.coherent.closing, hadvances.grows⟩
                    rw [← hshape]
                    cases result with
                    | error e => exact faithful_error hclosed
                    | ok t =>
                        obtain ⟨hsegments, hkeys⟩ := hknown t rfl
                        exact faithful_building hclosed hvar hsource hpath
                          (hadvances.coherent.opened key (by simp)).2 hsegments
                          (hkeys.imp fun _ _ => Memory.Knows.mono (m'.grows_closing key))

/-! ### Resolvers -/

namespace Resolver

/-- The answers for sources that are resolved one after the other. -/
def results (r : Resolver) : List Source → List (Except ResolveError Template)
  | [] => []
  | source :: sources => (r.resolve source).1 :: (r.resolve source).2.results sources

@[simp] theorem bindings_resolve (r : Resolver) (source : Source) :
    (r.resolve source).2.bindings = r.bindings := rfl

/-- A source is resolved faithfully: with the answer of the expansion, and with a memory behind it
that is as good as the one before. -/
theorem resolve_faithful {r : Resolver} (h : r.memory.Coherent r.bindings []) (source : Source) :
    FaithfulSource r.bindings [] source r.memory :=
  interpretSource_faithful (interpretKey_faithful []) source r.memory h

theorem coherent_resolve {r : Resolver} (h : r.memory.Coherent r.bindings []) (source : Source) :
    (r.resolve source).2.memory.Coherent (r.resolve source).2.bindings [] :=
  (r.resolve_faithful h source).advances.coherent

theorem shape_resolve {r : Resolver} (h : r.memory.Coherent r.bindings []) (source : Source) :
    (r.resolve source).1.map Template.shape = r.bindings.expandSource [] source :=
  (r.resolve_faithful h source).shape

/-- Without ambiguous keys there is a resolver, and it begins with an empty memory. -/
theorem new_eq_ok {b : Bindings} (h : b.sharedKeys = []) : new b = .ok ⟨b, .empty, h⟩ := by
  rw [new, dif_pos h]

/-- A new resolver has the bindings it was made for, and remembers nothing. -/
theorem bindings_memory_of_new {b : Bindings} {r : Resolver} (h : new b = .ok r) :
    r.bindings = b ∧ r.memory = .empty := by
  unfold new at h
  split at h
  · cases h
    exact ⟨rfl, rfl⟩
  · cases h

/-- A resolver is coherent after any number of sources. -/
theorem coherent_resolveAll {r : Resolver} (h : r.memory.Coherent r.bindings [])
    (sources : List Source) :
    (r.resolveAll sources).memory.Coherent r.bindings [] := by
  induction sources generalizing r with
  | nil => exact h
  | cons source sources ih => exact ih (coherent_resolve h source)

@[simp] theorem bindings_resolveAll (r : Resolver) (sources : List Source) :
    (r.resolveAll sources).bindings = r.bindings := by
  induction sources generalizing r with
  | nil => rfl
  | cons source sources ih => exact ih (r.resolve source).2

/-- A new resolver gives what the expansion gives. -/
theorem shape_resolve_of_new {b : Bindings} {r : Resolver} (h : new b = .ok r)
    (source : Source) : (r.resolve source).1.map Template.shape = b.expandSource [] source := by
  obtain ⟨rfl, hempty⟩ := bindings_memory_of_new h
  exact shape_resolve (hempty ▸ Memory.coherent_empty _) source

theorem shape_results {r : Resolver} (h : r.memory.Coherent r.bindings [])
    (sources : List Source) :
    (r.results sources).map (fun result => result.map Template.shape) =
      sources.map (r.bindings.expandSource []) := by
  induction sources generalizing r with
  | nil => rfl
  | cons source sources ih =>
      rw [results, List.map_cons, List.map_cons, shape_resolve h source,
        ih (coherent_resolve h source), bindings_resolve]

/-- **Every answer is that of the expansion.**  When no key is bound both ways there is a resolver,
and whatever sources it is given, one after the other, well formed or not, its answer to each of
them is what expanding that source alone gives, up to the identity of instances: the same template,
or the same error about the same keys and numbers. -/
theorem results_eq_expandSource (b : Bindings)
    (hdisjoint : ∀ key ∈ b.fragments.keys, key ∉ b.vars.keys) :
    ∃ r, new b = .ok r ∧ ∀ sources : List Source,
      (r.results sources).map (fun result => result.map Template.shape) =
        sources.map (b.expandSource []) := by
  have hshared := Bindings.sharedKeys_eq_nil_iff.2 hdisjoint
  exact ⟨⟨b, .empty, hshared⟩, new_eq_ok hshared, shape_results (Memory.coherent_empty b)⟩

/-- Bindings with every difficulty: `left` and `right` share `leaf`, `ping` and `pong` need each
other, `open` needs an undefined key, and `short` has a segment too few. -/
def tangled : Bindings where
  fragments :=
    [("leaf", ⟨["id"], ["leaf ", ""]⟩), ("left", ⟨["leaf"], ["left ", ""]⟩),
      ("right", ⟨["leaf", "left"], ["right ", " ", ""]⟩),
      ("ping", ⟨["leaf", "pong"], ["", "", ""]⟩), ("pong", ⟨["ping"], ["", ""]⟩),
      ("open", ⟨["right", "nowhere"], ["", "", ""]⟩), ("short", ⟨["left", "right"], ["", ""]⟩)]
  vars := [("id", "1")]

/-- A source that fails, after two fragments were built for it. -/
def knotSource : Source := ⟨["left", "ping"], ["", " ", ""]⟩

/-- A source that needs these two fragments, and one more. -/
def plainSource : Source := ⟨["left", "right"], ["", " ", ""]⟩

def leafInstance : Fragment :=
  .ofTemplate 0 ⟨["leaf ", ""], [.leaf "1"], rfl⟩

def leftInstance : Fragment :=
  .ofTemplate 1 ⟨["left ", ""], [.fragment leafInstance], rfl⟩

def rightInstance : Fragment :=
  .ofTemplate 2 ⟨["right ", " ", ""], [.fragment leafInstance, .fragment leftInstance], rfl⟩

def plainTemplate : Template :=
  ⟨plainSource.segments, [.fragment leftInstance, .fragment rightInstance], rfl⟩

/-- What is remembered behind the source that fails. -/
def knotMemory : Memory where
  resolved := [("leaf", leafInstance), ("left", leftInstance)]
  nextSerial := 2
  events :=
    [.opened "left", .opened "leaf", .closed "leaf", .built "leaf" leafInstance,
      .closed "left", .built "left" leftInstance,
      .opened "ping", .opened "pong", .closed "pong", .closed "ping"]

/-- What is remembered behind the one after that, which succeeds. -/
def plainMemory : Memory where
  resolved := knotMemory.resolved ++ [("right", rightInstance)]
  nextSerial := 3
  events := knotMemory.events ++ [.opened "right", .closed "right", .built "right" rightInstance]

theorem disjoint_tangled : ∀ key ∈ tangled.fragments.keys, key ∉ tangled.vars.keys := by decide

theorem sharedKeys_tangled : tangled.sharedKeys = [] :=
  Bindings.sharedKeys_eq_nil_iff.2 disjoint_tangled

/-- The resolver with the memory `m`. -/
def tangledResolver (m : Memory) : Resolver := ⟨tangled, m, sharedKeys_tangled⟩

theorem eq_of_new_tangled {r : Resolver} (h : new tangled = .ok r) : r = tangledResolver .empty :=
  Except.ok.inj (h.symm.trans (new_eq_ok sharedKeys_tangled))

theorem resolve_knotSource :
    (tangledResolver .empty).resolve knotSource =
      (.error (.cycle ["ping", "pong", "ping"]), tangledResolver knotMemory) :=
  resolve_eq_of_resolveWithin rfl

theorem resolve_plainSource :
    (tangledResolver knotMemory).resolve plainSource =
      (.ok plainTemplate, tangledResolver plainMemory) :=
  resolve_eq_of_resolveWithin rfl

theorem results_knot_plain : (tangledResolver .empty).results [knotSource, plainSource] =
    [.error (.cycle ["ping", "pong", "ping"]), .ok plainTemplate] := by
  rw [results, results, results, resolve_knotSource, resolve_plainSource]

theorem resolveAll_knot :
    (tangledResolver .empty).resolveAll [knotSource] = tangledResolver knotMemory := by
  rw [resolveAll, List.foldl_cons, resolve_knotSource, List.foldl_nil]

theorem resolve_behind_knot :
    ((tangledResolver .empty).resolveAll [knotSource]).resolve plainSource =
      (.ok plainTemplate, tangledResolver plainMemory) := by
  rw [resolveAll_knot, resolve_plainSource]

theorem resolveAll_knot_plain :
    (tangledResolver .empty).resolveAll [knotSource, plainSource] =
      tangledResolver plainMemory := by
  rw [resolveAll, List.foldl_cons, resolve_knotSource, List.foldl_cons, resolve_plainSource,
    List.foldl_nil]

/-- The first source fails and the second one is resolved, as each of them is expanded. -/
theorem results_tangled :
    (∀ key ∈ tangled.fragments.keys, key ∉ tangled.vars.keys) ∧
    ∃ r, new tangled = .ok r ∧
      r.results [knotSource, plainSource] =
        [.error (.cycle ["ping", "pong", "ping"]), .ok plainTemplate] ∧
      [knotSource, plainSource].map (tangled.expandSource []) =
        [.error (.cycle ["ping", "pong", "ping"]), .ok plainTemplate.shape] ∧
      ∀ sources : List Source,
        (r.results sources).map (fun result => result.map Template.shape) =
          sources.map (tangled.expandSource []) := by
  obtain ⟨r, hnew, hall⟩ := results_eq_expandSource tangled disjoint_tangled
  obtain rfl := eq_of_new_tangled hnew
  refine ⟨disjoint_tangled, _, hnew, results_knot_plain, ?_, hall⟩
  rw [← hall, results_knot_plain]
  rfl

end Resolver

end QueryWeave
