/-
**Resolving opens each fragment once.**

While one source is resolved, a key joins the path if it is met for the first time, and never again:
if all that is behind it goes well, its fragment is built and is found from then on, and if
something fails, nothing is met any more.  This holds for a source that is resolved and for one that
fails, from the first key that joins the path to the last.

Main definitions:

* `QueryWeave.openings` — the keys that joined the path, in order;
* `QueryWeave.OpensOnce` — **the invariant** of interpreting;
* `QueryWeave.Resolver.Orderly` — what is so of the events of one source.

Main results:

* `QueryWeave.interpretKey_opensOnce` — interpreting keeps the invariant;
* `QueryWeave.Moment.Runs.path_subset` — only fragments are on the path;
* `QueryWeave.Resolver.resolve_opens_once` — **resolving ends and opens each fragment once**.
-/

import QueryWeave.Proofs.Resolution.History
import QueryWeave.Proofs.Resolution.Memoisation

set_option relaxedAutoImplicit false
set_option autoImplicit false

namespace QueryWeave

/-! ### The keys that are opened -/

/-- The key that joins the path. -/
def ResolutionEvent.openedKey? : ResolutionEvent → Option String
  | .opened key => some key
  | .closed _ | .built _ _ => none

/-- The keys that joined the path, in the order of the events. -/
def openings (events : List ResolutionEvent) : List String :=
  events.filterMap ResolutionEvent.openedKey?

@[simp] theorem openings_append (events events' : List ResolutionEvent) :
    openings (events ++ events') = openings events ++ openings events' :=
  List.filterMap_append

@[simp] theorem openings_opened (key : String) : openings [.opened key] = [key] := rfl

@[simp] theorem openings_closed (key : String) : openings [.closed key] = [] := rfl

@[simp] theorem openings_built (key : String) (f : Fragment) : openings [.built key f] = [] := rfl

/-- What is so of the keys that joined the path while something was interpreted. -/
structure OpensOnce {α : Type} (path : List String) (m : Memory) (keys : List String)
    (outcome : Except ResolveError α × Memory) : Prop where
  openings_eq : openings outcome.2.events = openings m.events ++ keys
  nodup : keys.Nodup
  new : ∀ key ∈ keys, key ∉ path ∧ m.resolved.find? key = none
  /-- Unless something failed, the fragments for these keys have been built. -/
  built : ∀ a, outcome.1 = .ok a → ∀ key ∈ keys, ∃ f, outcome.2.resolved.find? key = some f

section OpensOnce

variable {α β : Type} {path : List String} {m m' : Memory}

theorem opensOnce_nil (path : List String) (m : Memory) (result : Except ResolveError α) :
    OpensOnce path m [] (result, m) :=
  ⟨(List.append_nil _).symm, List.nodup_nil, nofun, fun _ _ => nofun⟩

/-- What is opened counts in the same way when something fails. -/
theorem OpensOnce.fail {keys : List String} {result : Except ResolveError α}
    (h : OpensOnce path m keys (result, m')) (e : ResolveError) :
    OpensOnce path m keys ((.error e : Except ResolveError β), m') where
  openings_eq := h.openings_eq
  nodup := h.nodup
  new := h.new
  built _ hresult := by cases hresult

/-- Behind a success nothing more is opened, whatever is made of what it gave. -/
theorem OpensOnce.ofSuccess {keys : List String} {a : α} (h : OpensOnce path m keys (.ok a, m'))
    (result : Except ResolveError β) : OpensOnce path m keys (result, m') where
  openings_eq := h.openings_eq
  nodup := h.nodup
  new := h.new
  built _ _ := h.built a rfl

/-- What is opened behind a success is opened for the first time. -/
theorem OpensOnce.append {a : α} {keys keys' : List String}
    {outcome : Except ResolveError β × Memory} (h : OpensOnce path m keys (.ok a, m'))
    (hgrows : m.Grows m') (h' : OpensOnce path m' keys' outcome)
    (hgrows' : m'.Grows outcome.2) : OpensOnce path m (keys ++ keys') outcome where
  openings_eq := by rw [h'.openings_eq, h.openings_eq, List.append_assoc]
  nodup := by
    -- a key that was opened has its fragment by now, and is not opened again
    refine h.nodup.append h'.nodup fun key hkey hkey' => ?_
    obtain ⟨f, hf⟩ := h.built a rfl key hkey
    have hnone := (h'.new key hkey').2
    rw [hf] at hnone
    cases hnone
  new := by
    refine List.forall_mem_append.2 ⟨h.new, fun key hkey => ⟨(h'.new key hkey).1, ?_⟩⟩
    cases hf : m.resolved.find? key with
    | none => rfl
    | some f =>
        have hnone := (h'.new key hkey).2
        rw [hgrows key f hf] at hnone
        cases hnone
  built := by
    intro b hb
    refine List.forall_mem_append.2 ⟨fun key hkey => ?_, h'.built b hb⟩
    obtain ⟨f, hf⟩ := h.built a rfl key hkey
    exact ⟨f, hgrows' key f hf⟩

/-- A key that joins the path is opened before all that is opened behind it, and once. -/
theorem OpensOnce.nodup_cons {key : String} {keys : List String}
    {outcome : Except ResolveError α × Memory}
    (h : OpensOnce (path ++ [key]) (m.opening key) keys outcome) : (key :: keys).Nodup := by
  refine List.nodup_cons.2 ⟨fun hkey => ?_, h.nodup⟩
  -- while it is on the path, it cannot be opened behind itself
  exact (h.new key hkey).1 (List.mem_append_right path (List.mem_singleton_self key))

theorem OpensOnce.new_cons {key : String} {keys : List String}
    {outcome : Except ResolveError α × Memory}
    (h : OpensOnce (path ++ [key]) (m.opening key) keys outcome) (hpath : key ∉ path)
    (hnone : m.resolved.find? key = none) :
    ∀ key' ∈ key :: keys, key' ∉ path ∧ m.resolved.find? key' = none := by
  refine List.forall_mem_cons.2 ⟨⟨hpath, hnone⟩, fun key' hkey' => ?_⟩
  obtain ⟨hpath', hnone'⟩ := h.new key' hkey'
  exact ⟨fun hmem => hpath' (List.mem_append_left [key] hmem), hnone'⟩

/-- A key that joins the path, and leaves it because something failed behind it. -/
theorem OpensOnce.closing {key : String} {keys : List String} {result : Except ResolveError α}
    (h : OpensOnce (path ++ [key]) (m.opening key) keys (result, m')) (hpath : key ∉ path)
    (hnone : m.resolved.find? key = none) (e : ResolveError) :
    OpensOnce path m (key :: keys) ((.error e : Except ResolveError β), m'.closing key) where
  openings_eq := by
    have hopenings : openings m'.events = openings (m.opening key).events ++ keys := h.openings_eq
    simpa [Memory.closing, Memory.opening] using hopenings
  nodup := h.nodup_cons
  new := h.new_cons hpath hnone
  built := nofun

/-- A key that joins the path, leaves it, and gets its fragment. -/
theorem OpensOnce.building {key : String} {keys : List String} {t : Template}
    (h : OpensOnce (path ++ [key]) (m.opening key) keys (.ok t, m')) (hpath : key ∉ path)
    (hnone : m.resolved.find? key = none) (splice : Splice) :
    OpensOnce path m (key :: keys) (.ok splice, (m'.closing key).building key t) where
  openings_eq := by
    have hclosed := (h.closing (β := Splice) hpath hnone (.undefined key)).openings_eq
    simpa [Memory.building] using hclosed
  nodup := h.nodup_cons
  new := h.new_cons hpath hnone
  built := by
    rintro - -
    refine List.forall_mem_cons.2 ⟨⟨m'.fragmentFor t, ?_⟩, fun key' hkey' => ?_⟩
    · simp [Memory.building, Memory.closing, Memory.fragmentFor]
    · obtain ⟨f, hf⟩ := h.built t rfl key' hkey'
      have hne : key ≠ key' := fun heq => (List.nodup_cons.1 h.nodup_cons).1 (heq ▸ hkey')
      refine ⟨f, ?_⟩
      simpa [Memory.building, Memory.closing, hne] using hf

end OpensOnce

/-- If interpreting a key opens each key once, then so does interpreting several in a row. -/
theorem interpretKeys_opensOnce {b : Bindings} {path : List String}
    (hkey : ∀ key (m : Memory), m.Coherent b path →
      ∃ opened, OpensOnce path m opened (interpretKey b path key m)) :
    ∀ keys (m : Memory), m.Coherent b path →
      ∃ opened, OpensOnce path m opened (interpretKeys b path keys m) := by
  intro keys
  induction keys with
  | nil =>
      intro m hm
      rw [interpretKeys]
      exact ⟨[], opensOnce_nil path m _⟩
  | cons key keys ih =>
      intro m hm
      obtain ⟨opened, h⟩ := hkey key m hm
      have hadvances := (interpretKey_faithful path key m hm).advances
      rw [interpretKeys]
      rcases hout : interpretKey b path key m with ⟨e | splice, m'⟩
      · rw [hout] at h
        exact ⟨opened, h.fail e⟩
      · rw [hout] at h hadvances
        obtain ⟨opened', h'⟩ := ih m' hadvances.coherent
        have hadvances' := (interpretKeys_faithful (interpretKey_faithful path) keys m'
          hadvances.coherent).advances
        have happend := h.append hadvances.grows h' hadvances'.grows
        refine ⟨opened ++ opened', ?_⟩
        rcases hout' : interpretKeys b path keys m' with ⟨e | splices, m''⟩
        · rw [hout'] at happend
          simpa only [hout'] using happend.fail e
        · rw [hout'] at happend
          simpa only [hout'] using happend.ofSuccess (.ok (splice :: splices))

/-- A source opens what its keys open. -/
theorem interpretSource_opensOnce {b : Bindings} {path opened : List String} {source : Source}
    {m : Memory} (h : OpensOnce path m opened (interpretKeys b path source.keys m)) :
    OpensOnce path m opened (interpretSource b path source m) := by
  rw [interpretSource]
  rcases hout : interpretKeys b path source.keys m with ⟨e | splices, m'⟩
  · rw [hout] at h
    exact h.fail e
  · rw [hout] at h
    exact h.ofSuccess _

/-- **Interpreting a key opens each key once**, and only such as are neither on the path nor
built. -/
theorem interpretKey_opensOnce {b : Bindings} (path : List String) :
    ∀ key (m : Memory), m.Coherent b path →
      ∃ opened, OpensOnce path m opened (interpretKey b path key m) := by
  induction path using b.induction_on_path with
  | step path ih =>
      intro key m hm
      rcases interpretKey_cases b path key m with
        ⟨result, hsame⟩ | ⟨source, hvar, hf, hpath, hsource⟩
      · rw [hsame]
        exact ⟨[], opensOnce_nil path m result⟩
      · have hfragment := Dictionary.mem_keys_of_find? hsource
        obtain ⟨opened, hkeys⟩ := interpretKeys_opensOnce (ih key hfragment hpath) source.keys
          (m.opening key) (hm.opening hvar hf)
        have hinner := interpretSource_opensOnce hkeys
        rw [interpretKey_of_source hvar hf hpath hsource]
        refine ⟨key :: opened, ?_⟩
        rcases hout : interpretSource b (path ++ [key]) source (m.opening key) with ⟨e | t, m'⟩
        · rw [hout] at hinner
          exact hinner.closing hpath hf e
        · rw [hout] at hinner
          exact hinner.building hpath hf _

/-! ### The path -/

namespace Moment

variable {b : Bindings} {s : Moment}

/-- Only fragments join the path. -/
theorem Lawful.path_subset {event : ResolutionEvent} (h : s.Lawful b event)
    (hs : s.path ⊆ b.fragments.keys) : (s.after event).path ⊆ b.fragments.keys := by
  cases h with
  | opened hfragment _ _ =>
      exact List.append_subset.2 ⟨hs, List.cons_subset.2 ⟨hfragment, List.nil_subset _⟩⟩
  | closed _ => exact fun key hkey => hs (List.dropLast_subset _ hkey)
  | built _ _ _ _ _ => exact hs

/-- So there are only fragments on the path, however the history goes. -/
theorem Runs.path_subset {events : List ResolutionEvent} (h : s.Runs b events)
    (hs : s.path ⊆ b.fragments.keys) : (s.replay events).path ⊆ b.fragments.keys := by
  induction events generalizing s with
  | nil => exact hs
  | cons event events ih => exact ih h.2 (h.1.path_subset hs)

end Moment

/-! ### Resolvers -/

namespace Resolver

/-- What is so of the events while a source is resolved. -/
structure Orderly (b : Bindings) (r : Resolver) (source : Source) : Prop where
  /-- The events lead from what was remembered to what is remembered, and the path is empty. -/
  replay : Moment.replay ⟨[], r.memory.resolved⟩ (r.eventsSince (r.resolve source).2) =
    ⟨[], (r.resolve source).2.memory.resolved⟩
  /-- No key joins the path twice. -/
  once : (openings (r.eventsSince (r.resolve source).2)).Nodup
  /-- No key joins the path that has its fragment already. -/
  unresolved : ∀ before key behind,
    r.eventsSince (r.resolve source).2 = before ++ .opened key :: behind →
      (Moment.replay ⟨[], r.memory.resolved⟩ before).resolved.find? key = none
  /-- At no moment is a key on the path twice, or one that has no source. -/
  path : ∀ before, before <+: r.eventsSince (r.resolve source).2 →
    (Moment.replay ⟨[], r.memory.resolved⟩ before).path.Nodup ∧
      (Moment.replay ⟨[], r.memory.resolved⟩ before).path ⊆ b.fragments.keys ∧
      (Moment.replay ⟨[], r.memory.resolved⟩ before).path.length ≤ b.numSources

theorem eventsSince_eq {r r' : Resolver} {events : List ResolutionEvent}
    (h : r'.memory.events = r.memory.events ++ events) : r.eventsSince r' = events := by
  rw [eventsSince, h, List.drop_left]

theorem orderly_of_coherent {r : Resolver} (hcoherent : r.memory.Coherent r.bindings [])
    (hnumbered : r.memory.Numbered) (htidy : Moment.Tidy ⟨[], r.memory.resolved⟩)
    (source : Source) : Orderly r.bindings r source := by
  obtain ⟨events, hevents, hruns, hreplay⟩ := (resolve_records hcoherent hnumbered source).history
  obtain ⟨opened, hopens⟩ :=
    interpretKeys_opensOnce (interpretKey_opensOnce []) source.keys r.memory hcoherent
  have hopenings : openings (r.resolve source).2.memory.events =
      openings r.memory.events ++ opened := (interpretSource_opensOnce hopens).openings_eq
  have hsince := eventsSince_eq hevents
  refine ⟨?_, ?_, ?_, ?_⟩
  · rw [hsince, hreplay]
  · rw [hevents, openings_append] at hopenings
    rw [hsince, List.append_cancel_left hopenings]
    exact hopens.nodup
  · intro before key behind hsplit
    rw [← hsince, hsplit] at hruns
    obtain ⟨-, hopened, -⟩ := Moment.runs_append.1 hruns
    cases hopened with
    | opened _ _ hnone => exact hnone
  · intro before hbefore
    rw [hsince] at hbefore
    have hnodup := (hruns.tidy_of_prefix htidy hbefore).nodup
    obtain ⟨behind, rfl⟩ := hbefore
    have hsub := (Moment.runs_append.1 hruns).1.path_subset (List.nil_subset _)
    exact ⟨hnodup, hsub, Bindings.length_le_numSources hnodup hsub⟩

/-- **Resolving ends and opens each fragment once.**  When no key is bound both ways there is a
resolver, and after any sources, resolved or failed, the next source is resolved with no more
fragments opened within each other than there are; and on the way, whether it is resolved or fails,
no key joins the path twice or when it has its fragment, and the path holds fragments only, each
once. -/
theorem resolve_opens_once (b : Bindings)
    (hdisjoint : ∀ key ∈ b.fragments.keys, key ∉ b.vars.keys) :
    ∃ r, new b = .ok r ∧ ∀ (sources : List Source) (source : Source),
      (r.resolveAll sources).resolveWithin b.numSources source =
        some ((r.resolveAll sources).resolve source) ∧
      Orderly b (r.resolveAll sources) source := by
  have hshared := Bindings.sharedKeys_eq_nil_iff.2 hdisjoint
  have hnew := new_eq_ok hshared
  refine ⟨⟨b, .empty, hshared⟩, hnew, fun sources source => ?_⟩
  have hempty : Memory.empty.Coherent b [] := Memory.coherent_empty b
  have hcoherent := coherent_resolveAll (r := ⟨b, .empty, hshared⟩) hempty sources
  have hrecords := resolveAll_records (r := ⟨b, .empty, hshared⟩) hempty rfl sources
  have hbindings := bindings_resolveAll ⟨b, .empty, hshared⟩ sources
  obtain ⟨hruns, hreplay⟩ := runs_of_new hnew sources
  have htidy := hruns.tidy Moment.tidy_start
  rw [hreplay] at htidy
  generalize resolveAll ⟨b, .empty, hshared⟩ sources = r at *
  obtain rfl : r.bindings = b := hbindings
  exact ⟨r.resolveWithin_eq source, orderly_of_coherent hcoherent hrecords.numbered htidy source⟩

/-- The source that fails opens four keys, each once; the next one, which is resolved, opens the
only one whose fragment it needs and that is not there yet. -/
theorem resolve_opens_once_tangled :
    (∀ key ∈ tangled.fragments.keys, key ∉ tangled.vars.keys) ∧
    ∃ r, new tangled = .ok r ∧
      (r.resolve knotSource).1 = .error (.cycle ["ping", "pong", "ping"]) ∧
      r.resolveWithin tangled.numSources knotSource = some (r.resolve knotSource) ∧
      Orderly tangled r knotSource ∧
      openings (r.eventsSince (r.resolve knotSource).2) = ["left", "leaf", "ping", "pong"] ∧
      ((r.resolveAll [knotSource]).resolve plainSource).1 = .ok plainTemplate ∧
      (r.resolveAll [knotSource]).resolveWithin tangled.numSources plainSource =
        some ((r.resolveAll [knotSource]).resolve plainSource) ∧
      Orderly tangled (r.resolveAll [knotSource]) plainSource ∧
      openings ((r.resolveAll [knotSource]).eventsSince
        ((r.resolveAll [knotSource]).resolve plainSource).2) = ["right"] := by
  obtain ⟨r, hnew, hall⟩ := resolve_opens_once tangled disjoint_tangled
  obtain rfl := eq_of_new_tangled hnew
  obtain ⟨hwithin, horderly⟩ := hall [] knotSource
  obtain ⟨hwithin', horderly'⟩ := hall [knotSource] plainSource
  refine ⟨disjoint_tangled, _, hnew, ?_, hwithin, horderly, ?_, ?_, hwithin', horderly', ?_⟩
  · rw [resolve_knotSource]
  · rw [resolve_knotSource]
    rfl
  · rw [resolve_behind_knot]
  · rw [resolve_behind_knot, resolveAll_knot]
    rfl

end Resolver

end QueryWeave
