/-
**The history of a resolver.**

The events that a resolver records tell what its path and its memory were at every moment, in the
middle of a source too, and also if the source fails in the end.  Each event needs something to
hold when it happens: only a key that is neither on the path nor built may join the path, only the
last one may leave it, and a fragment is built from its source when all that stands in the source
has been built.  These needs are all that is used here about the run of a resolver; the rest follows
from them, event by event.

Main definitions:

* `QueryWeave.Moment`, `QueryWeave.Moment.replay` — path and fragments, and what events make of
  them;
* `QueryWeave.Moment.StandsFor` — what a key stands for at a moment;
* `QueryWeave.Moment.Lawful`, `QueryWeave.Moment.Runs` — what an event needs, and histories in which
  every event has what it needs;
* `QueryWeave.Moment.Tidy` — **the invariant** of such histories;
* `QueryWeave.Records` — one memory came from another one by such a history.

Main results:

* `QueryWeave.Moment.Lawful.tidy`, `QueryWeave.Moment.Runs.tidy` — events keep the invariant;
* `QueryWeave.Moment.Runs.filterMap_fragmentFor?` — **no fragment is built twice**;
* `QueryWeave.interpretKey_records` — interpreting records such a history;
* `QueryWeave.Resolver.runs_of_new` — **the history of a resolver**, whatever it was given.
-/

import Mathlib.Data.List.Nodup
import QueryWeave.Proofs.Resolution.Memoisation

set_option relaxedAutoImplicit false
set_option autoImplicit false

namespace QueryWeave

/-- The fragment that an event builds for `key`. -/
def ResolutionEvent.fragmentFor? (key : String) : ResolutionEvent → Option Fragment
  | .opened _ | .closed _ => none
  | .built key' f => if key' = key then some f else none

@[simp] theorem ResolutionEvent.fragmentFor?_opened (key key' : String) :
    fragmentFor? key (.opened key') = none := rfl

@[simp] theorem ResolutionEvent.fragmentFor?_closed (key key' : String) :
    fragmentFor? key (.closed key') = none := rfl

@[simp] theorem ResolutionEvent.fragmentFor?_built (key key' : String) (f : Fragment) :
    fragmentFor? key (.built key' f) = if key' = key then some f else none := rfl

/-- The keys whose fragments are being built, and the fragments that are built. -/
structure Moment where
  path : List String
  resolved : Dictionary Fragment

namespace Moment

/-- Nothing is built yet. -/
def start : Moment := ⟨[], []⟩

/-- The moment behind an event. -/
def after (s : Moment) : ResolutionEvent → Moment
  | .opened key => ⟨s.path ++ [key], s.resolved⟩
  | .closed _ => ⟨s.path.dropLast, s.resolved⟩
  | .built key f => ⟨s.path, s.resolved.insert key f⟩

/-- The moment behind several events. -/
def replay (s : Moment) (events : List ResolutionEvent) : Moment :=
  events.foldl after s

@[simp] theorem replay_nil (s : Moment) : s.replay [] = s := rfl

@[simp] theorem replay_cons (s : Moment) (event : ResolutionEvent)
    (events : List ResolutionEvent) : s.replay (event :: events) = (s.after event).replay events :=
  rfl

@[simp] theorem replay_append (s : Moment) (events events' : List ResolutionEvent) :
    s.replay (events ++ events') = (s.replay events).replay events' :=
  List.foldl_append

/-! ### What events need -/

/-- What a key stands for: a text, or the fragment that is built for it. -/
inductive StandsFor (b : Bindings) (s : Moment) : String → Splice → Prop
  | var {key text : String} : b.vars.find? key = some text → StandsFor b s key (.leaf text)
  | fragment {key : String} {f : Fragment} : b.vars.find? key = none →
      s.resolved.find? key = some f → StandsFor b s key (.fragment f)

/-- What has to hold when an event happens. -/
inductive Lawful (b : Bindings) (s : Moment) : ResolutionEvent → Prop
  | opened {key : String} : key ∈ b.fragments.keys → key ∉ s.path →
      s.resolved.find? key = none → Lawful b s (.opened key)
  | closed {key : String} {path : List String} : s.path = path ++ [key] → Lawful b s (.closed key)
  | built {key : String} {source : Source} {t : Template} : b.fragments.find? key = some source →
      key ∉ s.path → s.resolved.find? key = none → t.segments = source.segments →
      List.Forall₂ (s.StandsFor b) source.keys t.splices →
      Lawful b s (.built key (.ofTemplate s.resolved.length t))

/-- Every event has what it needs when it happens. -/
def Runs (b : Bindings) : Moment → List ResolutionEvent → Prop
  | _, [] => True
  | s, event :: events => s.Lawful b event ∧ (s.after event).Runs b events

theorem runs_append {b : Bindings} {s : Moment} {events events' : List ResolutionEvent} :
    s.Runs b (events ++ events') ↔ s.Runs b events ∧ (s.replay events).Runs b events' := by
  induction events generalizing s with
  | nil => simp [Runs]
  | cons event events ih => simp only [List.cons_append, Runs, replay_cons, ih, and_assoc]

/-! ### What events keep -/

/-- **The invariant**: keys on the path are distinct and not built yet, and the serial numbers tell
the fragments for different keys apart. -/
structure Tidy (s : Moment) : Prop where
  nodup : s.path.Nodup
  unresolved : ∀ key ∈ s.path, s.resolved.find? key = none
  serial_lt : ∀ {key : String} {f : Fragment}, s.resolved.find? key = some f →
    f.serial < s.resolved.length
  serial_inj : ∀ {key key' : String} {f f' : Fragment}, s.resolved.find? key = some f →
    s.resolved.find? key' = some f' → f.serial = f'.serial → key = key'

theorem tidy_start : start.Tidy where
  nodup := List.nodup_nil
  unresolved key hkey := by cases hkey
  serial_lt h := by cases h
  serial_inj h := by cases h

/-- A fragment under the next serial number keeps the numbers apart. -/
theorem Tidy.insert {s : Moment} (h : s.Tidy) {key : String} {f : Fragment} (hpath : key ∉ s.path)
    (hserial : f.serial = s.resolved.length) : Tidy ⟨s.path, s.resolved.insert key f⟩ where
  nodup := h.nodup
  unresolved key' hkey' := by
    have hne : key ≠ key' := fun heq => hpath (heq ▸ hkey')
    simpa [hne] using h.unresolved key' hkey'
  serial_lt {key' f'} hf' := by
    have hlength : (s.resolved.insert key f).length = s.resolved.length + 1 := by
      simp [Dictionary.insert]
    rw [Dictionary.find?_insert] at hf'
    rw [hlength]
    split at hf'
    · cases hf'
      omega
    · exact Nat.lt_succ_of_lt (h.serial_lt hf')
  serial_inj {key₁ key₂ f₁ f₂} h₁ h₂ heq := by
    rw [Dictionary.find?_insert] at h₁ h₂
    split at h₁ <;> split at h₂
    · next hkey₁ hkey₂ => exact hkey₁ ▸ hkey₂
    · cases h₁
      have hlt := h.serial_lt h₂
      omega
    · cases h₂
      have hlt := h.serial_lt h₁
      omega
    · exact h.serial_inj h₁ h₂ heq

/-- An event that has what it needs keeps the invariant. -/
theorem Lawful.tidy {b : Bindings} {s : Moment} {event : ResolutionEvent} (h : s.Lawful b event)
    (hs : s.Tidy) : (s.after event).Tidy := by
  cases h with
  | @opened key _ hpath hnone =>
      refine ⟨?_, ?_, hs.serial_lt, hs.serial_inj⟩
      · exact hs.nodup.append (List.nodup_singleton key) (List.disjoint_singleton.2 hpath)
      · intro key' hkey'
        rcases List.mem_append.1 hkey' with hkey' | hkey'
        · exact hs.unresolved key' hkey'
        · obtain rfl := List.mem_singleton.1 hkey'
          exact hnone
  | closed _ =>
      refine ⟨hs.nodup.sublist (List.dropLast_sublist _), ?_, hs.serial_lt, hs.serial_inj⟩
      exact fun key hkey => hs.unresolved key (List.dropLast_subset _ hkey)
  | built _ hpath _ _ _ => exact hs.insert hpath rfl

/-- A history in which every event has what it needs keeps the invariant. -/
theorem Runs.tidy {b : Bindings} {s : Moment} {events : List ResolutionEvent} (h : s.Runs b events)
    (hs : s.Tidy) : (s.replay events).Tidy := by
  induction events generalizing s with
  | nil => exact hs
  | cons event events ih => exact ih h.2 (h.1.tidy hs)

/-- So does every beginning of it. -/
theorem Runs.tidy_of_prefix {b : Bindings} {s : Moment} {events events' : List ResolutionEvent}
    (h : s.Runs b events) (hs : s.Tidy) (hbefore : events' <+: events) :
    (s.replay events').Tidy := by
  obtain ⟨rest, rfl⟩ := hbefore
  exact (runs_append.1 h).1.tidy hs

/-- Every event had what it needed when it happened. -/
theorem Runs.lawful_of_mem {b : Bindings} {s : Moment} {events : List ResolutionEvent}
    (h : s.Runs b events) {event : ResolutionEvent} (hevent : event ∈ events) :
    ∃ s' : Moment, s'.Lawful b event := by
  induction events generalizing s with
  | nil => cases hevent
  | cons first events ih =>
      rcases List.mem_cons.1 hevent with rfl | hevent
      · exact ⟨s, h.1⟩
      · exact ih h.2 hevent

/-- **No fragment is built twice**: for a key that has none, the fragments that are built are just
the one that it has in the end, and for any other key there is none. -/
theorem Runs.filterMap_fragmentFor? {b : Bindings} {s : Moment} {events : List ResolutionEvent}
    (h : s.Runs b events) (key : String) :
    (s.resolved.find? key).toList ++ events.filterMap (ResolutionEvent.fragmentFor? key) =
      ((s.replay events).resolved.find? key).toList := by
  induction events generalizing s with
  | nil => simp
  | cons event events ih =>
      rw [replay_cons, ← ih h.2]
      cases h.1 with
      | opened => simp [after, List.filterMap_cons]
      | closed => simp [after, List.filterMap_cons]
      | @built key' _ _ _ _ hnone =>
          by_cases hkey : key' = key
          · subst hkey
            simp [after, hnone]
          · simp [after, hkey]

end Moment

/-! ### What interpreting records -/

/-- The next serial number is the number of fragments that are remembered. -/
def Memory.Numbered (m : Memory) : Prop :=
  m.nextSerial = m.resolved.length

/-- From `m` on, events were recorded that had what they needed, and which lead from `path` and what
was remembered to `path'` and what is remembered in `m'`. -/
structure Records (b : Bindings) (path path' : List String) (m m' : Memory) : Prop where
  history : ∃ events, m'.events = m.events ++ events ∧ Moment.Runs b ⟨path, m.resolved⟩ events ∧
    Moment.replay ⟨path, m.resolved⟩ events = ⟨path', m'.resolved⟩
  numbered : m'.Numbered

section Records

variable {b : Bindings} {path path' path'' : List String} {m m' m'' : Memory}

theorem Memory.Numbered.records_refl (h : m.Numbered) : Records b path path m m where
  history := ⟨[], by simp, trivial, rfl⟩
  numbered := h

theorem Records.trans (h : Records b path path' m m') (h' : Records b path' path'' m' m'') :
    Records b path path'' m m'' where
  history := by
    obtain ⟨events, hevents, hruns, hreplay⟩ := h.history
    obtain ⟨events', hevents', hruns', hreplay'⟩ := h'.history
    refine ⟨events ++ events', ?_, Moment.runs_append.2 ⟨hruns, hreplay ▸ hruns'⟩, ?_⟩
    · rw [hevents', hevents, List.append_assoc]
    · rw [Moment.replay_append, hreplay, hreplay']
  numbered := h'.numbered

/-- What is known in the memory is what keys stand for. -/
theorem Memory.Knows.standsFor {key : String} {splice : Splice} (h : m.Knows b key splice) :
    Moment.StandsFor b ⟨path, m.resolved⟩ key splice := by
  cases h with
  | var hvar => exact .var hvar
  | fragment hvar hf => exact .fragment hvar hf

theorem records_opening {key : String} (hm : m.Numbered) (hfragment : key ∈ b.fragments.keys)
    (hpath : key ∉ path) (hnone : m.resolved.find? key = none) :
    Records b path (path ++ [key]) m (m.opening key) where
  history := ⟨[.opened key], rfl, ⟨.opened hfragment hpath hnone, trivial⟩, rfl⟩
  numbered := hm

theorem records_closing {key : String} (hm : m.Numbered) :
    Records b (path ++ [key]) path m (m.closing key) where
  history := ⟨[.closed key], rfl, ⟨.closed rfl, trivial⟩, by simp [Moment.after, Memory.closing]⟩
  numbered := hm

theorem records_building {key : String} {source : Source} {t : Template} (hm : m.Numbered)
    (hsource : b.fragments.find? key = some source) (hpath : key ∉ path)
    (hnone : m.resolved.find? key = none) (hsegments : t.segments = source.segments)
    (hkeys : List.Forall₂ (m.Knows b) source.keys t.splices) :
    Records b path path m (m.building key t) where
  history := by
    refine ⟨[.built key (m.fragmentFor t)], rfl, ⟨?_, trivial⟩, rfl⟩
    rw [Memory.fragmentFor, hm]
    exact .built hsource hpath hnone hsegments (hkeys.imp fun _ _ => Memory.Knows.standsFor)
  numbered := by
    rw [Memory.Numbered] at hm
    simp [Memory.Numbered, Memory.building, Dictionary.insert, hm]

end Records

/-- If interpreting a key records a history, then so does interpreting several in a row. -/
theorem interpretKeys_records {b : Bindings} {path : List String}
    (hkey : ∀ key (m : Memory), m.Coherent b path → m.Numbered →
      Records b path path m (interpretKey b path key m).2) :
    ∀ keys (m : Memory), m.Coherent b path → m.Numbered →
      Records b path path m (interpretKeys b path keys m).2 := by
  intro keys
  induction keys with
  | nil =>
      intro m hm hnumbered
      rw [interpretKeys]
      exact hnumbered.records_refl
  | cons key keys ih =>
      intro m hm hnumbered
      have h := hkey key m hm hnumbered
      have hcoherent := (interpretKey_faithful path key m hm).advances.coherent
      rw [interpretKeys]
      rcases hout : interpretKey b path key m with ⟨result, m'⟩
      rw [hout] at h hcoherent
      cases result with
      | error e => exact h
      | ok splice =>
          have h' := ih m' hcoherent h.numbered
          rcases hout' : interpretKeys b path keys m' with ⟨result', m''⟩
          rw [hout'] at h'
          cases result' <;> simpa only [hout'] using h.trans h'

theorem interpretSource_memory (b : Bindings) (path : List String) (source : Source) (m : Memory) :
    (interpretSource b path source m).2 = (interpretKeys b path source.keys m).2 := by
  rw [interpretSource]
  rcases interpretKeys b path source.keys m with ⟨_ | _, m'⟩ <;> rfl

/-- Interpreting a key records a history, whatever the path. -/
theorem interpretKey_records {b : Bindings} (path : List String) :
    ∀ key (m : Memory), m.Coherent b path → m.Numbered →
      Records b path path m (interpretKey b path key m).2 := by
  induction path using b.induction_on_path with
  | step path ih =>
      intro key m hm hnumbered
      rcases interpretKey_cases b path key m with
        ⟨result, hsame⟩ | ⟨source, hvar, hf, hpath, hsource⟩
      · rw [hsame]
        exact hnumbered.records_refl
      · have hfragment := Dictionary.mem_keys_of_find? hsource
        have hopened := records_opening hnumbered hfragment hpath hf
        have hcoherent := hm.opening hvar hf
        have hinner := interpretKeys_records (ih key hfragment hpath) source.keys (m.opening key)
          hcoherent hopened.numbered
        have hfaithful := interpretSource_faithful (interpretKey_faithful _) source
          (m.opening key) hcoherent
        rw [← interpretSource_memory] at hinner
        rw [interpretKey_of_source hvar hf hpath hsource]
        rw [FaithfulSource] at hfaithful
        rcases hout : interpretSource b (path ++ [key]) source (m.opening key) with ⟨result, m'⟩
        rw [hout] at hinner hfaithful
        have hclosed := (hopened.trans hinner).trans (records_closing hinner.numbered)
        cases result with
        | error e => exact hclosed
        | ok t =>
            obtain ⟨hsegments, hkeys⟩ := hfaithful.known t rfl
            have hnone : (m'.closing key).resolved.find? key = none :=
              (hfaithful.advances.coherent.opened key (by simp)).2
            have hknown := hkeys.imp fun _ _ => Memory.Knows.mono (m'.grows_closing key)
            exact hclosed.trans
              (records_building hclosed.numbered hsource hpath hnone hsegments hknown)

/-! ### Resolvers -/

namespace Resolver

/-- Resolving a source records a history that begins and ends with an empty path. -/
theorem resolve_records {r : Resolver} (h : r.memory.Coherent r.bindings [])
    (hnumbered : r.memory.Numbered) (source : Source) :
    Records r.bindings [] [] r.memory (r.resolve source).2.memory := by
  have hkeys := interpretKeys_records (interpretKey_records []) source.keys r.memory h hnumbered
  rw [← interpretSource_memory] at hkeys
  exact hkeys

theorem resolveAll_records {r : Resolver} (h : r.memory.Coherent r.bindings [])
    (hnumbered : r.memory.Numbered) (sources : List Source) :
    Records r.bindings [] [] r.memory (r.resolveAll sources).memory := by
  induction sources generalizing r with
  | nil => exact hnumbered.records_refl
  | cons source sources ih =>
      have hfirst := resolve_records h hnumbered source
      exact hfirst.trans (ih (coherent_resolve h source) hfirst.numbered)

/-- **The history of a resolver** that was new and was given any sources: every event had what it
needed, the path is empty again, and the fragments that were built are those that are remembered. -/
theorem runs_of_new {b : Bindings} {r : Resolver} (h : new b = .ok r) (sources : List Source) :
    Moment.start.Runs b (r.resolveAll sources).memory.events ∧
      Moment.start.replay (r.resolveAll sources).memory.events =
        ⟨[], (r.resolveAll sources).memory.resolved⟩ := by
  obtain ⟨rfl, hempty⟩ := bindings_memory_of_new h
  have hcoherent : r.memory.Coherent r.bindings [] := hempty ▸ Memory.coherent_empty _
  have hnumbered : r.memory.Numbered := hempty ▸ rfl
  obtain ⟨events, hevents, hruns, hreplay⟩ :=
    (resolveAll_records hcoherent hnumbered sources).history
  rw [hempty] at hevents hruns hreplay
  rw [hevents]
  exact ⟨hruns, hreplay⟩

end Resolver

end QueryWeave
