/-
**Sources that were read from texts.**

Reading a text gives one segment more than keys, since each placeholder ends a segment.  A resolver
finds one thing for each key, at every depth, however often a key comes and whether or not it was
built before.  So among sources that were read from texts there is none with the wrong number of
segments, and resolving them does not fail for this reason.

Main definitions:

* `QueryWeave.Source.IsRead` — a source that was read from some text.

Main results:

* `QueryWeave.Source.IsRead.wellFormed` — it has one segment more than keys;
* `QueryWeave.Resolver.built_content` — what is built has the segments of its source and a child for
  each key in it;
* `QueryWeave.Resolver.resolve_read_sources` — **no segment is missing or left over**.
-/

import QueryWeave.Dictionary
import QueryWeave.Proofs.Resolution.Failure
import QueryWeave.Proofs.Resolution.Sharing
import QueryWeave.Proofs.Template.Substitution

set_option relaxedAutoImplicit false
set_option autoImplicit false

namespace QueryWeave

/-- The source was read from some text. -/
def Source.IsRead (source : Source) : Prop :=
  ∃ text, Source.parse text = .ok source

/-- Reading gives one segment more than keys. -/
theorem Source.IsRead.wellFormed {source : Source} (h : source.IsRead) : source.WellFormed := by
  obtain ⟨text, hparse⟩ := h
  exact (readFrom_of_parse hparse).length_segments

/-- Without a source that has the wrong number of segments this is no reason to fail. -/
theorem Bindings.expandSource_ne_malformed {b : Bindings}
    (hfragments : ∀ key source, b.fragments.find? key = some source → source.WellFormed)
    {source : Source} (hsource : source.WellFormed) (mismatch : CountMismatch) :
    b.expandSource [] source ≠ .error (.malformed mismatch) := by
  intro h
  rcases exists_mismatched_of_expandSource h with
    hmismatched | ⟨key, source', -, hfound, hmismatched⟩
  · exact hmismatched.not_wellFormed hsource
  · exact hmismatched.not_wellFormed (hfragments key source' hfound)

namespace Resolver

variable {b : Bindings} {r : Resolver}

/-- What is built has the segments of its source and a child for each key in it. -/
theorem built_content (h : new b = .ok r) {sources : List Source} {key : String} {f : Fragment}
    (hbuilt : .built key f ∈ (r.resolveAll sources).memory.events) :
    ∃ source, b.fragments.find? key = some source ∧ f.segments = source.segments ∧
      f.children.length = source.keys.length := by
  obtain ⟨s, hlawful⟩ := (runs_of_new h sources).1.lawful_of_mem hbuilt
  cases hlawful with
  | @built _ source t hsource _ _ hsegments hkeys =>
      exact ⟨source, hsource, hsegments, hkeys.length_eq.symm⟩

/-- What is remembered was built. -/
theorem mem_events_of_resolved (h : new b = .ok r) {sources : List Source} {key : String}
    {f : Fragment} (hf : (r.resolveAll sources).memory.resolved.find? key = some f) :
    .built key f ∈ (r.resolveAll sources).memory.events := by
  have honce := (builtOnce_of_new h sources).once key
  rw [hf] at honce
  have hmem : f ∈ (r.resolveAll sources).memory.events.filterMap
      (ResolutionEvent.fragmentFor? key) := by
    rw [honce]
    exact List.mem_singleton_self f
  obtain ⟨event, hevent, heq⟩ := List.mem_filterMap.1 hmem
  cases event with
  | opened _ => cases heq
  | closed _ => cases heq
  | built key' f' =>
      rw [ResolutionEvent.fragmentFor?_built] at heq
      split at heq
      · next hkey =>
          cases heq
          exact hkey ▸ hevent
      · cases heq

/-- The answers for several sources are those of the expansion, one by one. -/
theorem forall₂_results (h : new b = .ok r) (sources : List Source) :
    List.Forall₂ (fun source result => result.map Template.shape = b.expandSource [] source) sources
      (r.results sources) := by
  obtain ⟨rfl, hempty⟩ := bindings_memory_of_new h
  have hshapes := shape_results (hempty ▸ Memory.coherent_empty r.bindings) sources
  rw [eq_comm, ← List.forall₂_eq_eq_eq, List.forall₂_map_left_iff,
    List.forall₂_map_right_iff] at hshapes
  exact hshapes.imp fun _ _ => Eq.symm

/-- Without a source that has the wrong number of segments no answer tells of one. -/
theorem results_ne_malformed (h : new b = .ok r)
    (hfragments : ∀ key source, b.fragments.find? key = some source → source.WellFormed)
    {sources : List Source} (hsources : ∀ source ∈ sources, source.WellFormed)
    {result : Except ResolveError Template} (hresult : result ∈ r.results sources)
    (mismatch : CountMismatch) : result ≠ .error (.malformed mismatch) := by
  rintro rfl
  have hresults := forall₂_results h sources
  obtain ⟨i, hi, heq⟩ := List.getElem_of_mem hresult
  have hi' : i < sources.length := hresults.length_eq ▸ hi
  have hexpand := hresults.get hi' hi
  rw [List.get_eq_getElem, List.get_eq_getElem, heq] at hexpand
  exact b.expandSource_ne_malformed hfragments (hsources _ (List.getElem_mem hi')) mismatch
    hexpand.symm

/-- A template that was returned has the segments of its source and a splice for each key in it. -/
theorem Returned.content (h : new b = .ok r) {sources : List Source} {source : Source}
    {t : Template} (ht : r.Returned sources source t) :
    t.segments = source.segments ∧ t.splices.length = source.keys.length := by
  have hexpand : .ok t.shape = b.expandSource [] source :=
    (List.forall₂_iff_zip.1 (forall₂_results h sources)).2 ht
  obtain ⟨hsegments, hkeys⟩ := Bindings.expandSource_eq_ok_iff.1 hexpand.symm
  refine ⟨hsegments, ?_⟩
  rw [(Bindings.expands_of_expandKeys hkeys).length_eq, Template.splices_shape, List.length_map]

/-- **No segment is missing or left over.**  When no key is bound both ways, and all fragments are
bound to sources that were read from texts, there is a resolver; and given any sources that were
read from texts it never fails for the number of segments.  All templates that it returns, and all
fragments that it builds or remembers on the way, have the segments of their sources, one splice or
child for each key, and so one segment more than these. -/
theorem resolve_read_sources (b : Bindings)
    (hdisjoint : ∀ key ∈ b.fragments.keys, key ∉ b.vars.keys)
    (hread : ∀ key source, b.fragments.find? key = some source → source.IsRead) :
    ∃ r, new b = .ok r ∧ ∀ sources : List Source, (∀ source ∈ sources, source.IsRead) →
      (∀ result ∈ r.results sources, ∀ mismatch, result ≠ .error (.malformed mismatch)) ∧
      (∀ source t, r.Returned sources source t → t.segments = source.segments ∧
        t.splices.length = source.keys.length ∧ t.segments.length = t.splices.length + 1) ∧
      (∀ key f, .built key f ∈ (r.resolveAll sources).memory.events →
        ∃ source, b.fragments.find? key = some source ∧ f.segments = source.segments ∧
          f.children.length = source.keys.length ∧ f.segments.length = f.children.length + 1) ∧
      ∀ key f, (r.resolveAll sources).memory.resolved.find? key = some f →
        f.segments.length = f.children.length + 1 := by
  obtain ⟨r, hnew⟩ : ∃ r, new b = .ok r :=
    ⟨_, new_eq_ok (Bindings.sharedKeys_eq_nil_iff.2 hdisjoint)⟩
  refine ⟨r, hnew, fun sources hsources => ?_⟩
  have hbuilt : ∀ key f, .built key f ∈ (r.resolveAll sources).memory.events →
      ∃ source, b.fragments.find? key = some source ∧ f.segments = source.segments ∧
        f.children.length = source.keys.length ∧ f.segments.length = f.children.length + 1 := by
    intro key f hf
    obtain ⟨source, hsource, hsegments, hchildren⟩ := built_content hnew hf
    have hlength := (hread key source hsource).wellFormed
    exact ⟨source, hsource, hsegments, hchildren, by rw [hsegments, hchildren, hlength]⟩
  refine ⟨?_, ?_, hbuilt, ?_⟩
  · intro result hresult
    refine results_ne_malformed hnew ?_ ?_ hresult
    · exact fun key source hsource => (hread key source hsource).wellFormed
    · exact fun source hsource => (hsources source hsource).wellFormed
  · intro source t ht
    obtain ⟨hsegments, hsplices⟩ := ht.content hnew
    have hlength := (hsources source (List.of_mem_zip ht).1).wellFormed
    exact ⟨hsegments, hsplices, by rw [hsegments, hsplices, hlength]⟩
  · intro key f hf
    obtain ⟨source, -, -, -, hlength⟩ := hbuilt key f (mem_events_of_resolved hnew hf)
    exact hlength

/-- Sources that were read from texts: `pair` has one key twice, and `ring` needs itself. -/
def readBindings : Bindings where
  fragments :=
    [("user", ⟨["id", "id"], ["... on User \x7b a(n: ", ") b(n: ", ") \x7d"]⟩),
      ("pair", ⟨["user", "user"], ["... on Pair \x7b ...", " ...", " \x7d"]⟩),
      ("ring", ⟨["pair", "ring"], ["", "", ""]⟩)]
  vars := [("id", "${id}")]

/-- Sources that were read from texts.  Behind `ring`, which fails, `pair` is found again, and
nothing is bound to `nowhere`. -/
def readCalls : List Source :=
  [⟨["ring"], ["", ""]⟩, ⟨["pair", "user", "pair"], ["\x7b", "", "", "\x7d"]⟩,
    ⟨["user", "nowhere"], ["", "", ""]⟩]

/-- The texts that they were read from. -/
def readTexts : List String :=
  ["... on User { a(n: ${id}) b(n: ${ id }) }",
    "... on Pair { ...${user} ...${user} }", "${pair}${ring}",
    "${ring}", "{${pair}${user}${pair}}",
    "${user}${nowhere}"]

theorem isRead_fragment {key : String} {source : Source}
    (h : readBindings.fragments.find? key = some source) : source.IsRead := by
  have hread : ∀ entry ∈ readBindings.fragments,
      ∃ text ∈ readTexts, Source.parse text = .ok entry.2 := by
    decide +kernel
  obtain ⟨text, -, hparse⟩ := hread _ (Dictionary.mem_of_find? h)
  exact ⟨text, hparse⟩

theorem isRead_call {source : Source} (h : source ∈ readCalls) : source.IsRead := by
  have hread : ∀ source ∈ readCalls, ∃ text ∈ readTexts, Source.parse text = .ok source := by
    decide +kernel
  obtain ⟨text, -, hparse⟩ := hread source h
  exact ⟨text, hparse⟩

theorem resolve_read_calls :
    (∀ key ∈ readBindings.fragments.keys, key ∉ readBindings.vars.keys) ∧
    (∀ key source, readBindings.fragments.find? key = some source → source.IsRead) ∧
    (∀ source ∈ readCalls, source.IsRead) ∧
    ∃ r, new readBindings = .ok r ∧
      (∀ result ∈ r.results readCalls, ∀ mismatch, result ≠ .error (.malformed mismatch)) ∧
      (∀ source t, r.Returned readCalls source t → t.segments = source.segments ∧
        t.splices.length = source.keys.length ∧ t.segments.length = t.splices.length + 1) ∧
      (∀ key f, .built key f ∈ (r.resolveAll readCalls).memory.events →
        ∃ source, readBindings.fragments.find? key = some source ∧
          f.segments = source.segments ∧ f.children.length = source.keys.length ∧
          f.segments.length = f.children.length + 1) ∧
      ∀ key f, (r.resolveAll readCalls).memory.resolved.find? key = some f →
        f.segments.length = f.children.length + 1 := by
  have hdisjoint : ∀ key ∈ readBindings.fragments.keys, key ∉ readBindings.vars.keys := by decide
  obtain ⟨r, hnew, hall⟩ := resolve_read_sources readBindings hdisjoint fun _ _ => isRead_fragment
  exact ⟨hdisjoint, fun _ _ => isRead_fragment, fun _ => isRead_call, r, hnew,
    hall readCalls fun _ => isRead_call⟩

end Resolver

end QueryWeave
