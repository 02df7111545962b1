/-
**One instance for each key.**

A resolver builds the fragment for a key once and hands out the same instance from then on: in one
template and in all later ones, at the top and at any depth, and also if the source for which it was
built has failed.  So of any two fragments that occur in what a resolver has returned, the instances
are the same exactly when the keys are.

Main definitions:

* `QueryWeave.Resolver.Returned` — the templates that a resolver has returned;
* `QueryWeave.Occurs` — a fragment occurs in a template as what a key stands for;
* `QueryWeave.Resolver.BuiltOnce` — what is so of a resolver between two sources.

Main results:

* `QueryWeave.Occurs.remembered` — what occurs is what the resolver remembers for the key;
* `QueryWeave.exists_occurs` — every fragment in a returned template occurs under some key;
* `QueryWeave.Resolver.shares_instances` — **each fragment is built once, and its instance is
  shared by all that its key stands for**.
-/

import QueryWeave.Proofs.Resolution.History
import QueryWeave.Proofs.Template.Closure

set_option relaxedAutoImplicit false
set_option autoImplicit false

namespace QueryWeave

/-! ### Where keys occur -/

/-- In the template `t` for `source` the fragment occurs as what the key stands for: at the place of
that key in the source, or at its place in the source of a fragment that occurs itself. -/
inductive Occurs (b : Bindings) (source : Source) (t : Template) : String → Fragment → Prop
  | splice {i : Nat} {key : String} {f : Fragment} : source.keys[i]? = some key →
      t.splices[i]? = some (.fragment f) → Occurs b source t key f
  | child {i : Nat} {key key' : String} {f g : Fragment} {source' : Source} :
      Occurs b source t key' g → b.fragments.find? key' = some source' →
      source'.keys[i]? = some key → g.children[i]? = some (.fragment f) → Occurs b source t key f

section Occurs

variable {b : Bindings} {m : Memory} {source : Source} {t : Template} {key : String}
  {f : Fragment}

/-- A fragment in the place of a key that is known is the one that is remembered. -/
theorem find?_of_knows {keys : List String} {splices : List Splice}
    (h : List.Forall₂ (m.Knows b) keys splices) {i : Nat} (hkey : keys[i]? = some key)
    (hf : splices[i]? = some (.fragment f)) : m.resolved.find? key = some f := by
  obtain ⟨hi, rfl⟩ := List.getElem?_eq_some_iff.1 hkey
  obtain ⟨hi', hsplice⟩ := List.getElem?_eq_some_iff.1 hf
  have hknows := h.get hi hi'
  rw [List.get_eq_getElem, List.get_eq_getElem, hsplice] at hknows
  cases hknows with
  | fragment _ hf => exact hf

/-- In the place of a fragment there is a key. -/
theorem exists_key_of_knows {keys : List String} {splices : List Splice}
    (h : List.Forall₂ (m.Knows b) keys splices) (hf : .fragment f ∈ splices) :
    ∃ (i : Nat) (key : String), keys[i]? = some key ∧ splices[i]? = some (.fragment f) := by
  obtain ⟨i, hi, hsplice⟩ := List.getElem_of_mem hf
  have hi' : i < keys.length := h.length_eq ▸ hi
  exact ⟨i, keys[i], List.getElem?_eq_getElem hi', by rw [List.getElem?_eq_getElem hi, hsplice]⟩

/-- A remembered fragment has the segments of its source, and children that are known. -/
theorem Memory.Coherent.content {path : List String} (h : m.Coherent b path)
    (hf : m.resolved.find? key = some f) :
    ∃ source, b.fragments.find? key = some source ∧ f.segments = source.segments ∧
      List.Forall₂ (m.Knows b) source.keys f.children := by
  obtain ⟨source, t, -, hsource, hsegments, hkeys, heq⟩ := h.built hf
  rw [heq]
  exact ⟨source, hsource, hsegments, hkeys⟩

/-- What occurs under a key is what is remembered for it. -/
theorem Occurs.remembered (hm : m.Coherent b [])
    (hkeys : List.Forall₂ (m.Knows b) source.keys t.splices) (h : Occurs b source t key f) :
    m.resolved.find? key = some f := by
  induction h with
  | splice hkey hf => exact find?_of_knows hkeys hkey hf
  | @child i key key' f g source' _ hsource hkey hf ih =>
      obtain ⟨source'', hsource'', -, hchildren⟩ := hm.content ih
      obtain rfl : source'' = source' := Option.some_inj.1 (hsource''.symm.trans hsource)
      exact find?_of_knows hchildren hkey hf

/-- Every fragment in a template occurs under some key. -/
theorem exists_occurs (hm : m.Coherent b [])
    (hkeys : List.Forall₂ (m.Knows b) source.keys t.splices) (h : ReachedFrom t.splices f) :
    ∃ key, Occurs b source t key f := by
  induction h with
  | splice hf =>
      obtain ⟨i, key, hkey, hf⟩ := exists_key_of_knows hkeys hf
      exact ⟨key, .splice hkey hf⟩
  | child _ hf ih =>
      obtain ⟨key', hoccurs⟩ := ih
      obtain ⟨source', hsource, -, hchildren⟩ := hm.content (hoccurs.remembered hm hkeys)
      obtain ⟨i, key, hkey, hf⟩ := exists_key_of_knows hchildren hf
      exact ⟨key, .child hoccurs hsource hkey hf⟩

end Occurs

namespace Resolver

/-! ### What was returned -/

/-- Given `sources`, the resolver returned the template `t` for `source`, which is one of them. -/
def Returned (r : Resolver) (sources : List Source) (source : Source) (t : Template) : Prop :=
  (source, .ok t) ∈ sources.zip (r.results sources)

theorem grows_resolveAll {r : Resolver} (h : r.memory.Coherent r.bindings [])
    (sources : List Source) : r.memory.Grows (r.resolveAll sources).memory := by
  induction sources generalizing r with
  | nil => exact .refl _
  | cons source sources ih =>
      exact (r.resolve_faithful h source).advances.grows.trans (ih (coherent_resolve h source))

/-- What was returned for a source is known in the end. -/
theorem Returned.knows {r : Resolver} (h : r.memory.Coherent r.bindings []) {sources : List Source}
    {source : Source} {t : Template} (ht : r.Returned sources source t) :
    List.Forall₂ ((r.resolveAll sources).memory.Knows r.bindings) source.keys t.splices := by
  induction sources generalizing r with
  | nil => cases ht
  | cons first sources ih =>
      rw [Returned, results, List.zip_cons_cons] at ht
      rcases List.mem_cons.1 ht with heq | ht
      · obtain ⟨rfl, hresult⟩ := Prod.mk.inj heq
        have hknown := ((r.resolve_faithful h source).known t hresult.symm).2
        exact hknown.imp fun _ _ =>
          Memory.Knows.mono (grows_resolveAll (coherent_resolve h source) sources)
      · exact ih (coherent_resolve h first) ht

/-! ### One instance for each key -/

/-- What is so of a resolver between two sources. -/
structure BuiltOnce (b : Bindings) (r : Resolver) : Prop where
  /-- No key is on the path any more, and what is remembered is what was built. -/
  replay : Moment.start.replay r.memory.events = ⟨[], r.memory.resolved⟩
  /-- At no moment was a key on the path and built at once. -/
  apart : ∀ events, events <+: r.memory.events → ∀ key ∈ (Moment.start.replay events).path,
    (Moment.start.replay events).resolved.find? key = none
  /-- What is remembered for a key was built for it, and nothing else ever was. -/
  once : ∀ key, r.memory.events.filterMap (ResolutionEvent.fragmentFor? key) =
    (r.memory.resolved.find? key).toList
  /-- A remembered fragment has the segments of its source, and in the place of each key the leaf
  of a text or the remembered instance. -/
  content : ∀ key f, r.memory.resolved.find? key = some f → ∃ source,
    b.fragments.find? key = some source ∧ f.segments = source.segments ∧
      List.Forall₂ (r.memory.Knows b) source.keys f.children

theorem builtOnce_of_new {b : Bindings} {r : Resolver} (h : new b = .ok r)
    (sources : List Source) : BuiltOnce b (r.resolveAll sources) := by
  obtain ⟨hruns, hreplay⟩ := runs_of_new h sources
  obtain ⟨rfl, hempty⟩ := bindings_memory_of_new h
  have hcoherent := coherent_resolveAll (hempty ▸ Memory.coherent_empty _) sources
  refine ⟨hreplay, ?_, ?_, fun key f hf => hcoherent.content hf⟩
  · intro events hbefore
    exact (hruns.tidy_of_prefix Moment.tidy_start hbefore).unresolved
  · intro key
    have honce := hruns.filterMap_fragmentFor? key
    rw [hreplay] at honce
    exact honce

/-- **Each fragment is built once, and its instance is shared.**  When no key is bound both ways
there is a resolver, and after any sources, resolved or failed, everything that was built was built
once and is as its source says; what is remembered stays the same instance whatever comes next; and
of all fragments in all templates that were returned, which occur each under some key, two are the
same instance exactly when their keys are equal. -/
theorem shares_instances (b : Bindings)
    (hdisjoint : ∀ key ∈ b.fragments.keys, key ∉ b.vars.keys) :
    ∃ r, new b = .ok r ∧ ∀ sources : List Source,
      BuiltOnce b (r.resolveAll sources) ∧
      (∀ (source : Source) (key : String) (f : Fragment),
        (r.resolveAll sources).memory.resolved.find? key = some f →
        ((r.resolveAll sources).resolve source).2.memory.resolved.find? key = some f) ∧
      (∀ source t, r.Returned sources source t → ∀ f, ReachedFrom t.splices f →
        ∃ key, Occurs b source t key f) ∧
      ∀ source t source' t', r.Returned sources source t → r.Returned sources source' t' →
        ∀ key f key' f', Occurs b source t key f → Occurs b source' t' key' f' →
          (f.sameInstance f' ↔ key = key') ∧ (key = key' → f = f') := by
  have hshared := Bindings.sharedKeys_eq_nil_iff.2 hdisjoint
  have hnew := new_eq_ok hshared
  refine ⟨⟨b, .empty, hshared⟩, hnew, fun sources => ?_⟩
  have hempty : Memory.empty.Coherent b [] := Memory.coherent_empty b
  have hcoherent := coherent_resolveAll (r := ⟨b, .empty, hshared⟩) hempty sources
  refine ⟨builtOnce_of_new hnew sources, ?_, ?_, ?_⟩
  · intro source
    rw [← bindings_resolveAll _ sources] at hcoherent
    exact (resolve_faithful hcoherent source).advances.grows
  · intro source t ht f hf
    exact exists_occurs hcoherent (ht.knows hempty) hf
  · intro source t source' t' ht ht' key f key' f' hf hf'
    have hfound := hf.remembered hcoherent (ht.knows hempty)
    have hfound' := hf'.remembered hcoherent (ht'.knows hempty)
    have hsame : key = key' → f = f' := by
      rintro rfl
      exact Option.some_inj.1 (hfound.symm.trans hfound')
    refine ⟨⟨fun hserial => ?_, fun hkey => ?_⟩, hsame⟩
    · obtain ⟨hruns, hreplay⟩ := runs_of_new hnew sources
      have htidy := hruns.tidy Moment.tidy_start
      rw [hreplay] at htidy
      exact htidy.serial_inj hfound hfound' (beq_iff_eq.1 hserial)
    · rw [hsame hkey]
      exact beq_self_eq_true _

/-- What was built for the source that fails is used for the next one: there `leaf` occurs below
`left` and below `right`, as one instance, and `left` as another one. -/
theorem shares_instances_tangled :
    (∀ key ∈ tangled.fragments.keys, key ∉ tangled.vars.keys) ∧
    ∃ r, new tangled = .ok r ∧
      r.results [knotSource, plainSource] =
        [.error (.cycle ["ping", "pong", "ping"]), .ok plainTemplate] ∧
      BuiltOnce tangled (r.resolveAll [knotSource]) ∧
      BuiltOnce tangled (r.resolveAll [knotSource, plainSource]) ∧
      (r.resolveAll [knotSource]).memory.resolved.find? "left" = some leftInstance ∧
      (r.resolveAll [knotSource, plainSource]).memory.resolved.find? "left" = some leftInstance ∧
      r.Returned [knotSource, plainSource] plainSource plainTemplate ∧
      ReachedFrom plainTemplate.splices leafInstance ∧
      (∃ key, Occurs tangled plainSource plainTemplate key leafInstance) ∧
      Occurs tangled plainSource plainTemplate "leaf" leafInstance ∧
      Occurs tangled plainSource plainTemplate "left" leftInstance ∧
      (leafInstance.sameInstance leafInstance ↔ "leaf" = "leaf") ∧
      (leafInstance.sameInstance leftInstance ↔ "leaf" = "left") := by
  obtain ⟨r, hnew, hall⟩ := shares_instances tangled disjoint_tangled
  obtain rfl := eq_of_new_tangled hnew
  obtain ⟨hbuilt, hkept, -, -⟩ := hall [knotSource]
  obtain ⟨hbuilt', -, hoccurs, hsame⟩ := hall [knotSource, plainSource]
  have hleft : ((tangledResolver .empty).resolveAll [knotSource]).memory.resolved.find? "left" =
      some leftInstance := by
    rw [resolveAll_knot]
    rfl
  have hreturned : (tangledResolver .empty).Returned [knotSource, plainSource] plainSource
      plainTemplate := by
    rw [Returned, results_knot_plain]
    exact List.mem_cons_of_mem _ List.mem_cons_self
  have hleftOccurs : Occurs tangled plainSource plainTemplate "left" leftInstance :=
    .splice (i := 0) rfl rfl
  have hleafOccurs : Occurs tangled plainSource plainTemplate "leaf" leafInstance :=
    .child (i := 0) hleftOccurs rfl rfl rfl
  have hreached : ReachedFrom plainTemplate.splices leafInstance :=
    .child (.splice List.mem_cons_self) List.mem_cons_self
  exact ⟨disjoint_tangled, _, hnew, results_knot_plain, hbuilt, hbuilt', hleft,
    hkept plainSource "left" leftInstance hleft, hreturned, hreached,
    hoccurs plainSource plainTemplate hreturned leafInstance hreached, hleafOccurs, hleftOccurs,
    (hsame _ _ _ _ hreturned hreturned _ _ _ _ hleafOccurs hleafOccurs).1,
    (hsame _ _ _ _ hreturned hreturned _ _ _ _ hleafOccurs hleftOccurs).1⟩

end Resolver

end QueryWeave
