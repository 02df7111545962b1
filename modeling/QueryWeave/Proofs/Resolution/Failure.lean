/-
**Where a failure comes from, and what its error shows.**

Several keys fail for the reason for which one of them fails, and a source fails because of its keys
or, when all of these stand for something, because of the number of its segments.  So behind every
failure there is one key or one source, somewhere in what is needed, that has no fault but its own.

When this key is met, the keys being expanded form a path to it: the first of them is a key of the
source, each refers to the next one, and no key comes twice.

An error of a resolver names what can be found in the bindings.  The path of a cycle leads from a
key back to this key, from each key to one in its source, and along no key twice.  A key that is
told to be undefined is bound to nothing, and numbers that are told not to fit are those of a
source whose keys are all in order.  All this lies in what the given source needs, whatever the
resolver has built before.

Main definitions:

* `QueryWeave.Bindings.Mismatched` — a source whose keys all stand for something, and whose segments
  are too many or too few;
* `QueryWeave.Bindings.Visits` — the keys that are met while others are being expanded;
* `QueryWeave.Bindings.Blames` — the errors that a key which is met causes by itself;
* `QueryWeave.Bindings.IsCycle` — paths that lead from a key back to it;
* `QueryWeave.Bindings.InOrder` — keys that are bound and do not need themselves;
* `QueryWeave.ResolveError.Witnessed` — what an error shows.

Main results:

* `QueryWeave.Bindings.exists_of_expandKeys_eq_error` — one key is to blame for several;
* `QueryWeave.Bindings.expandSource_eq_error_cases` — what can be to blame for a source;
* `QueryWeave.Bindings.Visits.isChain`, `QueryWeave.Bindings.Visits.nodup` — the keys being expanded
  are a way to the key that is met, without a loop;
* `QueryWeave.Bindings.Visits.blames` — **behind every failure there is a key that causes it**;
* `QueryWeave.Bindings.exists_mismatched_of_expandSource` — **behind the wrong number of segments
  there is a source that has it**;
* `QueryWeave.Bindings.Visits.isCycle_cycleThrough` — what is cut from the path of the keys being
  expanded is a cycle;
* `QueryWeave.Bindings.Blames.witnessed`, `QueryWeave.Bindings.Mismatched.inOrder` — a key that
  causes an error is what the error shows;
* `QueryWeave.Resolver.resolve_error_witnessed` — **every error shows what is wrong**.
-/

import Mathlib.Data.List.Chain
import QueryWeave.Proofs.Resolution.Success

set_option relaxedAutoImplicit false
set_option autoImplicit false

namespace QueryWeave.Bindings

/-- All keys of the source stand for something, but the number of its segments does not fit, as the
mismatch tells. -/
structure Mismatched (b : Bindings) (source : Source) (mismatch : CountMismatch) : Prop where
  expands : ∃ splices, b.Expands source.keys splices
  numSegments : mismatch.numSegments = source.segments.length
  numSplices : mismatch.numSplices = source.keys.length
  not_wellFormed : ¬ source.WellFormed

section Failure

variable {b : Bindings} {path : List String} {e : ResolveError} {mismatch : CountMismatch}

/-- When several keys fail, one of them does. -/
theorem exists_of_expandKeys_eq_error {keys : List String}
    (h : b.expandKeys path keys = .error e) : ∃ key ∈ keys, b.expandKey path key = .error e := by
  induction keys with
  | nil =>
      rw [expandKeys_nil] at h
      cases h
  | cons key keys ih =>
      rw [expandKeys_cons] at h
      rcases Result.bind_eq_error_iff.1 h with hkey | ⟨splice, -, hrest⟩
      · exact ⟨key, List.mem_cons_self, hkey⟩
      · obtain ⟨key', hkey', herror⟩ := ih (Result.map_eq_error_iff.1 hrest)
        exact ⟨key', List.mem_cons_of_mem _ hkey', herror⟩

/-- When a source fails, one of its keys does, or else its segments do not fit. -/
theorem expandSource_eq_error_cases {source : Source}
    (h : b.expandSource path source = .error e) :
    (∃ key ∈ source.keys, b.expandKey path key = .error e) ∨
      ∃ mismatch, e = .malformed mismatch ∧ b.Mismatched source mismatch := by
  rw [expandSource_eq] at h
  rcases Result.bind_eq_error_iff.1 h with hkeys | ⟨splices, hsplices, htemplate⟩
  · exact Or.inl (exists_of_expandKeys_eq_error hkeys)
  · obtain ⟨mismatch, hmismatch, rfl⟩ := Result.mapError_eq_error_iff.1 htemplate
    obtain ⟨hlength, rfl⟩ := Template.ofLists_eq_error_iff.1 hmismatch
    have hexpands := expands_of_expandKeys hsplices
    rw [← hexpands.length_eq] at hlength
    exact Or.inr ⟨_, rfl, ⟨splices, hexpands⟩, rfl, hexpands.length_eq.symm, hlength⟩

/-! ### The keys that are met -/

/-- Expanding `keys` meets a key while the fragments on a path are being expanded. -/
inductive Visits (b : Bindings) (keys : List String) : List String → String → Prop
  | start {key : String} : key ∈ keys → Visits b keys [] key
  | step {path : List String} {key next : String} : Visits b keys path key → key ∉ path →
      b.RefersTo key next → Visits b keys (path ++ [key]) next

variable {keys : List String} {key : String}

/-- Each key on the path refers to the next one, and the last of them to the key that is met. -/
theorem Visits.isChain (h : b.Visits keys path key) : (path ++ [key]).IsChain b.RefersTo := by
  induction h with
  | start _ => exact .singleton _
  | step _ _ hnext ih =>
      refine ih.append (.singleton _) ?_
      intro last hlast first hfirst
      obtain rfl : _ = last := by simpa using hlast
      obtain rfl : _ = first := by simpa using hfirst
      exact hnext

/-- No key comes twice on the path. -/
theorem Visits.nodup (h : b.Visits keys path key) : path.Nodup := by
  induction h with
  | start _ => exact List.nodup_nil
  | step _ hnot _ ih => exact List.nodup_append.2 ⟨ih, List.pairwise_singleton _ _, by grind⟩

/-- The keys on the path are the keys of fragments. -/
theorem Visits.mem_fragments (h : b.Visits keys path key) :
    ∀ opened ∈ path, opened ∈ b.fragments.keys := by
  induction h with
  | start _ => exact nofun
  | step _ _ hnext ih =>
      obtain ⟨-, source, hsource, -⟩ := hnext
      exact List.forall_mem_append.2
        ⟨ih, List.forall_mem_singleton.2 (Dictionary.mem_keys_of_find? hsource)⟩

/-- The key that is met is needed, and so are those on the path. -/
theorem Visits.needed (h : b.Visits keys path key) : ∀ opened ∈ path ++ [key],
    b.Needed keys opened := by
  induction h with
  | start hkey => exact List.forall_mem_singleton.2 (.of_mem hkey)
  | step _ _ hnext ih =>
      refine List.forall_mem_append.2 ⟨ih, List.forall_mem_singleton.2 ?_⟩
      obtain ⟨start, hstart, hreach⟩ := ih _ (List.mem_append_right _ List.mem_cons_self)
      exact ⟨start, hstart, hreach.tail hnext⟩

theorem Visits.needed_key (h : b.Visits keys path key) : b.Needed keys key :=
  h.needed key (List.mem_append_right _ List.mem_cons_self)

/-! ### The key to blame -/

/-- A key that is met causes an error by itself: it is on the path already, or nothing is bound to
it, or its source has too many or too few segments. -/
inductive Blames (b : Bindings) (keys : List String) : ResolveError → Prop
  | cycle {path : List String} {key : String} : b.Visits keys path key → key ∈ path →
      Blames b keys (.cycle (cycleThrough key path))
  | undefined {path : List String} {key : String} : b.Visits keys path key →
      b.vars.find? key = none → b.fragments.find? key = none → Blames b keys (.undefined key)
  | malformed {path : List String} {key : String} {source : Source} {mismatch : CountMismatch} :
      b.Visits keys path key → b.fragments.find? key = some source →
      b.Mismatched source mismatch → Blames b keys (.malformed mismatch)

/-- **Behind every failure there is a key that causes it.** -/
theorem Visits.blames (path : List String) :
    ∀ key, b.Visits keys path key → b.expandKey path key = .error e → b.Blames keys e := by
  induction path using b.induction_on_path with
  | step path ih =>
      intro key hvisits h
      cases hvar : b.vars.find? key with
      | some text =>
          rw [expandKey_of_var hvar] at h
          cases h
      | none =>
          by_cases hpath : key ∈ path
          · rw [expandKey_of_mem hvar hpath] at h
            cases h
            exact .cycle hvisits hpath
          · cases hsource : b.fragments.find? key with
            | none =>
                rw [expandKey_of_undefined hvar hpath hsource] at h
                cases h
                exact .undefined hvisits hvar hsource
            | some source =>
                rw [expandKey_of_source hvar hpath hsource, Result.map_eq_error_iff] at h
                rcases expandSource_eq_error_cases h with ⟨next, hnext, herror⟩ | ⟨_, rfl, hown⟩
                · have hfragment := Dictionary.mem_keys_of_find? hsource
                  have hrefers : b.RefersTo key next := ⟨hvar, source, hsource, hnext⟩
                  exact ih key hfragment hpath next (hvisits.step hpath hrefers) herror
                · exact .malformed hvisits hsource hown

/-- Behind the failure of a source there is a key that causes it, or its own segments. -/
theorem blames_of_expandSource {source : Source} (h : b.expandSource [] source = .error e) :
    b.Blames source.keys e ∨ ∃ mismatch, e = .malformed mismatch ∧ b.Mismatched source mismatch :=
  (expandSource_eq_error_cases h).imp_left fun ⟨key, hkey, herror⟩ =>
    Visits.blames [] key (.start hkey) herror

/-- Behind the wrong number of segments there is the source itself, or one that it needs. -/
theorem exists_mismatched_of_expandSource {source : Source}
    (h : b.expandSource [] source = .error (.malformed mismatch)) :
    b.Mismatched source mismatch ∨
      ∃ key source', b.Needed source.keys key ∧ b.fragments.find? key = some source' ∧
        b.Mismatched source' mismatch := by
  rcases blames_of_expandSource h with hblames | ⟨_, heq, hmismatched⟩
  · cases hblames with
    | malformed hvisits hsource hmismatched =>
        exact Or.inr ⟨_, _, hvisits.needed_key, hsource, hmismatched⟩
  · cases heq
    exact Or.inl hmismatched

end Failure

end QueryWeave.Bindings

namespace QueryWeave

namespace Bindings

/-! ### Cycles -/

/-- The path leads from the key of a fragment back to it, over keys of fragments that are all
different, and each key on it is in the source of the one before. -/
structure IsCycle (b : Bindings) (path : List String) : Prop where
  two_le_length : 2 ≤ path.length
  head?_eq_getLast? : path.head? = path.getLast?
  nodup : path.dropLast.Nodup
  fragments : ∀ key ∈ path.dropLast, key ∈ b.fragments.keys
  chain : path.IsChain fun key next =>
    ∃ source, b.fragments.find? key = some source ∧ next ∈ source.keys

/-- The path of a cycle begins where the key is met for the first time. -/
theorem cycleThrough_append {before after : List String} {key : String} (h : key ∉ before) :
    cycleThrough key (before ++ key :: after) = key :: after ++ [key] := by
  have hbefore : ∀ opened ∈ before, (opened != key) = true := by
    intro opened hopened
    rw [bne_iff_ne]
    rintro rfl
    exact h hopened
  rw [cycleThrough, List.dropWhile_append_of_pos hbefore, List.dropWhile_cons_of_neg (by simp)]

/-- A key that is met again closes a cycle. -/
theorem Visits.isCycle_cycleThrough {b : Bindings} {keys path : List String} {key : String}
    (h : b.Visits keys path key) (hkey : key ∈ path) : b.IsCycle (cycleThrough key path) := by
  obtain ⟨before, after, rfl, hbefore⟩ := List.eq_append_cons_of_mem hkey
  have hchain := h.isChain
  rw [List.append_assoc] at hchain
  rw [cycleThrough_append hbefore]
  exact {
    two_le_length := by simp
    head?_eq_getLast? := by
      rw [List.getLast?_concat]
      rfl
    nodup := by
      rw [List.dropLast_concat]
      exact (List.nodup_append.1 h.nodup).2.1
    fragments := by
      rw [List.dropLast_concat]
      exact fun opened hopened => h.mem_fragments opened (List.mem_append_right _ hopened)
    chain := hchain.right_of_append.imp fun _ _ hrefers => hrefers.2 }

/-- A key that is met again is needed, and so is all that is on the cycle. -/
theorem Visits.needed_cycleThrough {b : Bindings} {keys path : List String} {key : String}
    (h : b.Visits keys path key) : ∀ opened ∈ cycleThrough key path, b.Needed keys opened := by
  intro opened hopened
  refine h.needed opened (List.mem_append.2 ?_)
  exact (List.mem_append.1 hopened).imp_left fun hmem => (List.dropWhile_sublist _).subset hmem

/-! ### Keys in order -/

/-- All that the keys need is bound, and nothing of it needs itself. -/
def InOrder (b : Bindings) (keys : List String) : Prop :=
  ∀ key, b.Needed keys key →
    (key ∈ b.fragments.keys ∨ key ∈ b.vars.keys) ∧ ¬ Relation.TransGen b.RefersTo key key

/-- What the keys of a source need is in order if nothing but the number of its segments is wrong
with it. -/
theorem Mismatched.inOrder {b : Bindings} {source : Source} {mismatch : CountMismatch}
    (hshared : b.sharedKeys = []) (h : b.Mismatched source mismatch) : b.InOrder source.keys := by
  obtain ⟨splices, hexpands⟩ := h.expands
  have hcomplete := hexpands.complete hshared
  refine fun key hneeded => ⟨hcomplete.bound key hneeded, fun hloop => ?_⟩
  obtain ⟨next, ⟨-, source, hsource, -⟩, -⟩ := Relation.TransGen.head'_iff.1 hloop
  exact hcomplete.acyclic key (Dictionary.mem_keys_of_find? hsource) hneeded hloop

end Bindings

/-! ### What an error shows -/

/-- What an error shows that comes from resolving a source. -/
def ResolveError.Witnessed (b : Bindings) (source : Source) : ResolveError → Prop
  | .ambiguous _ => False
  | .cycle path => b.IsCycle path ∧ ∀ key ∈ path, b.Needed source.keys key
  | .undefined key =>
      key ∉ b.vars.keys ∧ key ∉ b.fragments.keys ∧ b.Needed source.keys key
  | .malformed mismatch =>
      ∃ faulty, (faulty = source ∨
          ∃ key, b.Needed source.keys key ∧ b.fragments.find? key = some faulty) ∧
        mismatch.numSegments = faulty.segments.length ∧
        mismatch.numSplices = faulty.keys.length ∧
        mismatch.numSegments ≠ mismatch.numSplices + 1 ∧ b.InOrder faulty.keys

namespace Bindings

variable {b : Bindings} {source : Source}

/-- The source that does not fit is shown by its numbers. -/
theorem Mismatched.witnessed (hshared : b.sharedKeys = []) {faulty : Source}
    {mismatch : CountMismatch} (h : b.Mismatched faulty mismatch)
    (hfaulty : faulty = source ∨
      ∃ key, b.Needed source.keys key ∧ b.fragments.find? key = some faulty) :
    (ResolveError.malformed mismatch).Witnessed b source := by
  refine ⟨faulty, hfaulty, h.numSegments, h.numSplices, ?_, h.inOrder hshared⟩
  rw [h.numSegments, h.numSplices]
  exact h.not_wellFormed

/-- What causes an error is what it shows. -/
theorem Blames.witnessed (hshared : b.sharedKeys = []) {e : ResolveError}
    (h : b.Blames source.keys e) : e.Witnessed b source := by
  cases h with
  | cycle hvisits hkey =>
      exact ⟨hvisits.isCycle_cycleThrough hkey, hvisits.needed_cycleThrough⟩
  | undefined hvisits hvar hsource =>
      refine ⟨?_, ?_, hvisits.needed_key⟩
      · rw [Dictionary.mem_keys_iff, hvar]
        exact nofun
      · rw [Dictionary.mem_keys_iff, hsource]
        exact nofun
  | malformed hvisits hsource hmismatched =>
      exact hmismatched.witnessed hshared (Or.inr ⟨_, hvisits.needed_key, hsource⟩)

theorem witnessed_of_expandSource (hshared : b.sharedKeys = []) {e : ResolveError}
    (h : b.expandSource [] source = .error e) : e.Witnessed b source := by
  rcases blames_of_expandSource h with hblames | ⟨mismatch, rfl, hmismatched⟩
  · exact hblames.witnessed hshared
  · exact hmismatched.witnessed hshared (Or.inl rfl)

end Bindings

namespace Resolver

/-- **Every error shows what is wrong.**  When no key is bound both ways there is a resolver, and
whatever sources it was given before, an error for the next one shows what it tells: a cycle that
the source needs, which leads from a key back to it and along no key twice; a key that the source
needs and that is bound to nothing; or the numbers of segments and keys of a source that is the
given one or is needed by it, where they do not fit, though all its keys are in order. -/
theorem resolve_error_witnessed (b : Bindings)
    (hdisjoint : ∀ key ∈ b.fragments.keys, key ∉ b.vars.keys) :
    ∃ r, new b = .ok r ∧ ∀ (sources : List Source) (source : Source) (e : ResolveError),
      ((r.resolveAll sources).resolve source).1 = .error e → e.Witnessed b source := by
  have hshared := Bindings.sharedKeys_eq_nil_iff.2 hdisjoint
  refine ⟨_, new_eq_ok hshared, fun sources source e he => ?_⟩
  have hcoherent := coherent_resolveAll (r := ⟨b, .empty, hshared⟩) (Memory.coherent_empty b)
    sources
  rw [← bindings_resolveAll _ sources] at hcoherent
  -- the answer is that of the expansion, which remembers nothing
  have hexpand := shape_resolve hcoherent source
  rw [he, bindings_resolveAll] at hexpand
  exact Bindings.witnessed_of_expandSource hshared hexpand.symm

/-- A source that needs an undefined key. -/
def openSource : Source := ⟨["right", "open"], ["", " ", ""]⟩

/-- A source that needs one without enough segments. -/
def shortSource : Source := ⟨["short"], ["", ""]⟩

/-- A cycle, a success with what was built before it, and two other failures behind that. -/
theorem resolve_error_witnessed_tangled :
    (∀ key ∈ tangled.fragments.keys, key ∉ tangled.vars.keys) ∧
    ∃ r, new tangled = .ok r ∧
      (r.resolve knotSource).1 = .error (.cycle ["ping", "pong", "ping"]) ∧
      (ResolveError.cycle ["ping", "pong", "ping"]).Witnessed tangled knotSource ∧
      ((r.resolveAll [knotSource]).resolve plainSource).1 = .ok plainTemplate ∧
      ((r.resolveAll [knotSource, plainSource]).resolve openSource).1 =
        .error (.undefined "nowhere") ∧
      (ResolveError.undefined "nowhere").Witnessed tangled openSource ∧
      ((r.resolveAll [knotSource, plainSource]).resolve shortSource).1 =
        .error (.malformed ⟨2, 2⟩) ∧
      (ResolveError.malformed ⟨2, 2⟩).Witnessed tangled shortSource := by
  obtain ⟨r, hnew, hall⟩ := resolve_error_witnessed tangled disjoint_tangled
  obtain rfl := eq_of_new_tangled hnew
  have hknot : ((tangledResolver .empty).resolve knotSource).1 =
      .error (.cycle ["ping", "pong", "ping"]) :=
    congrArg Prod.fst resolve_knotSource
  have hopen : (((tangledResolver .empty).resolveAll [knotSource, plainSource]).resolve
      openSource).1 = .error (.undefined "nowhere") := by
    rw [resolveAll_knot_plain]
    exact congrArg Prod.fst (resolve_eq_of_resolveWithin rfl)
  have hshort : (((tangledResolver .empty).resolveAll [knotSource, plainSource]).resolve
      shortSource).1 = .error (.malformed ⟨2, 2⟩) := by
    rw [resolveAll_knot_plain]
    exact congrArg Prod.fst (resolve_eq_of_resolveWithin rfl)
  exact ⟨disjoint_tangled, _, hnew, hknot, hall [] knotSource _ hknot,
    congrArg Prod.fst resolve_behind_knot, hopen,
    hall [knotSource, plainSource] openSource _ hopen, hshort,
    hall [knotSource, plainSource] shortSource _ hshort⟩

end Resolver

end QueryWeave
