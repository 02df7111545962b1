/-
**Interpreting: case by case, within a bound, and with a stack.**

A key is interpreted in one of five ways, of which four leave the memory as it is.

Bindings may lead in circles, and what is bound to a key has no size that could bound how far its
fragments are nested.  But a key is opened only if it is bound to a fragment and is not on the path.
So no path is longer than there are fragments, and with that many fragments opened within each
other every key is met with what it stands for, or with what is wrong.

The path is given to whatever is interpreted.  A resolver may as well keep it, as a stack: a key is
pushed before the keys of its source are interpreted, and popped behind them, before anything is
made of what they gave.  Whether they fail or not, the stack is then what it was, so that the next
source finds it empty.  Such a resolver gives the same answers and remembers the same.

Main definitions:

* `QueryWeave.Bindings.numSources` — the number of fragments that have a source;
* `QueryWeave.interpretKeyWithin`, `QueryWeave.Resolver.resolveWithin` — interpreting and resolving
  that give up where fragments are nested deeper than a bound;
* `QueryWeave.Stacked`, `QueryWeave.Stacked.interpretKey` — the stack beside the memory, and
  interpreting with both;
* `QueryWeave.StackResolver` — resolvers that keep a stack.

Main results:

* `QueryWeave.interpretKey_cases` — what interpreting a key can do;
* `QueryWeave.interpretKeyWithin_eq` — **fragments that are not on the path are a bound**;
* `QueryWeave.Resolver.resolveWithin_eq` — **all fragments are a bound** for a resolver;
* `QueryWeave.Stacked.interpretKey_eq` — **the stack is the path, and is restored**;
* `QueryWeave.StackResolver.resolve_eq`, `QueryWeave.StackResolver.resolveAll_eq` — **resolving with
  a stack is resolving**.
-/

import Mathlib.Data.List.Dedup
import QueryWeave.Proofs.Resolution.Expansion

set_option relaxedAutoImplicit false
set_option autoImplicit false

namespace QueryWeave

/-! ### One step of interpreting -/

theorem interpretKey_of_var {b : Bindings} {path : List String} {key text : String} {m : Memory}
    (h : b.vars.find? key = some text) : interpretKey b path key m = (.ok (.leaf text), m) := by
  rw [interpretKey, h]

theorem interpretKey_of_resolved {b : Bindings} {path : List String} {key : String} {m : Memory}
    {f : Fragment} (hvar : b.vars.find? key = none) (hf : m.resolved.find? key = some f) :
    interpretKey b path key m = (.ok (.fragment f), m) := by
  rw [interpretKey, hvar]
  simp only [hf]

theorem interpretKey_of_mem {b : Bindings} {path : List String} {key : String} {m : Memory}
    (hvar : b.vars.find? key = none) (hnone : m.resolved.find? key = none) (hpath : key ∈ path) :
    interpretKey b path key m = (.error (.cycle (cycleThrough key path)), m) := by
  rw [interpretKey, hvar]
  simp only [hnone, dif_pos hpath]

theorem interpretKey_of_undefined {b : Bindings} {path : List String} {key : String} {m : Memory}
    (hvar : b.vars.find? key = none) (hnone : m.resolved.find? key = none) (hpath : key ∉ path)
    (hsource : b.fragments.find? key = none) :
    interpretKey b path key m = (.error (.undefined key), m) := by
  rw [interpretKey, hvar]
  simp only [hnone, dif_neg hpath]
  split
  · rfl
  · next source hsome => rw [hsource] at hsome; cases hsome

theorem interpretKey_of_source {b : Bindings} {path : List String} {key : String} {m : Memory}
    {source : Source} (hvar : b.vars.find? key = none) (hnone : m.resolved.find? key = none)
    (hpath : key ∉ path) (hsource : b.fragments.find? key = some source) :
    interpretKey b path key m =
      match interpretSource b (path ++ [key]) source (m.opening key) with
      | (.error e, m') => (.error e, m'.closing key)
      | (.ok t, m') => (.ok (.fragment (m'.fragmentFor t)), (m'.closing key).building key t) := by
  rw [interpretKey, hvar]
  simp only [hnone, dif_neg hpath]
  split
  · next hsome => rw [hsource] at hsome; cases hsome
  · next source' hsome =>
      obtain rfl : source' = source := Option.some_inj.1 (hsome.symm.trans hsource)
      rfl

/-- A key leaves the memory as it is, or else it is opened: then it is bound to a fragment that is
neither built nor being built. -/
theorem interpretKey_cases (b : Bindings) (path : List String) (key : String) (m : Memory) :
    (∃ result, interpretKey b path key m = (result, m)) ∨
      ∃ source, b.vars.find? key = none ∧ m.resolved.find? key = none ∧ key ∉ path ∧
        b.fragments.find? key = some source := by
  cases hvar : b.vars.find? key with
  | some text => exact Or.inl ⟨_, interpretKey_of_var hvar⟩
  | none =>
      cases hf : m.resolved.find? key with
      | some f => exact Or.inl ⟨_, interpretKey_of_resolved hvar hf⟩
      | none =>
          by_cases hpath : key ∈ path
          · exact Or.inl ⟨_, interpretKey_of_mem hvar hf hpath⟩
          · cases hsource : b.fragments.find? key with
            | none => exact Or.inl ⟨_, interpretKey_of_undefined hvar hf hpath hsource⟩
            | some source => exact Or.inr ⟨source, rfl, rfl, hpath, rfl⟩

/-! ### Interpreting with a bound -/

/-- The number of fragments that have a source. -/
def Bindings.numSources (b : Bindings) : Nat :=
  b.fragments.keys.dedup.length

/-- A path without repetitions is no longer than there are fragments. -/
theorem Bindings.length_le_numSources {b : Bindings} {path : List String} (hnodup : path.Nodup)
    (hsub : path ⊆ b.fragments.keys) : path.length ≤ b.numSources :=
  hnodup.length_le_of_subset fun _ hkey => List.mem_dedup.2 (hsub hkey)

/-- What several keys stand for by `step`, from left to right up to the first that fails.  The steps
hand on what is remembered, in whatever form. -/
def interpretKeysBy {σ : Type} (step : String → σ → Option (Except ResolveError Splice × σ)) :
    List String → σ → Option (Except ResolveError (List Splice) × σ)
  | [], s => some (.ok [], s)
  | key :: keys, s =>
      match step key s with
      | none => none
      | some (.error e, s') => some (.error e, s')
      | some (.ok splice, s') =>
          match interpretKeysBy step keys s' with
          | none => none
          | some (.error e, s'') => some (.error e, s'')
          | some (.ok splices, s'') => some (.ok (splice :: splices), s'')

/-- The template that a source stands for, its keys interpreted by `step`. -/
def interpretSourceBy {σ : Type} (step : String → σ → Option (Except ResolveError Splice × σ))
    (source : Source) (s : σ) : Option (Except ResolveError Template × σ) :=
  match interpretKeysBy step source.keys s with
  | none => none
  | some (.error e, s') => some (.error e, s')
  | some (.ok splices, s') =>
      some ((Template.ofLists source.segments splices).mapError .malformed, s')

/-- What a key stands for, if no more than `depth` fragments have to be opened within each other
and within those on the path. -/
def interpretKeyWithin (b : Bindings) (depth : Nat) (path : List String) (key : String)
    (m : Memory) : Option (Except ResolveError Splice × Memory) :=
  match b.vars.find? key with
  | some text => some (.ok (.leaf text), m)
  | none =>
      match m.resolved.find? key with
      | some fragment => some (.ok (.fragment fragment), m)
      | none =>
          if key ∈ path then some (.error (.cycle (cycleThrough key path)), m)
          else
            match b.fragments.find? key with
            | none => some (.error (.undefined key), m)
            | some source =>
                match depth with
                | 0 => none
                | depth + 1 =>
                    match interpretSourceBy (interpretKeyWithin b depth (path ++ [key])) source
                        (m.opening key) with
                    | none => none
                    | some (.error e, m') => some (.error e, m'.closing key)
                    | some (.ok t, m') =>
                        some (.ok (.fragment (m'.fragmentFor t)),
                          (m'.closing key).building key t)

section Bounded

variable {b : Bindings} {path : List String}
  {step : String → Memory → Option (Except ResolveError Splice × Memory)}

theorem interpretKeysBy_eq (h : ∀ key m, step key m = some (interpretKey b path key m)) :
    ∀ keys m, interpretKeysBy step keys m = some (interpretKeys b path keys m) := by
  intro keys
  induction keys with
  | nil =>
      intro m
      rw [interpretKeys]
      rfl
  | cons key keys ih =>
      intro m
      rw [interpretKeysBy, interpretKeys, h key m]
      rcases interpretKey b path key m with ⟨e | splice, m'⟩
      · rfl
      · dsimp only
        rw [ih m']
        rcases interpretKeys b path keys m' with ⟨e | splices, m''⟩ <;> rfl

theorem interpretSourceBy_eq (h : ∀ key m, step key m = some (interpretKey b path key m))
    (source : Source) (m : Memory) :
    interpretSourceBy step source m = some (interpretSource b path source m) := by
  rw [interpretSourceBy, interpretSource, interpretKeysBy_eq h]
  rcases interpretKeys b path source.keys m with ⟨e | splices, m'⟩ <;> rfl

end Bounded

/-- **Keys are interpreted within the number of fragments that are not on the path.** -/
theorem interpretKeyWithin_eq {b : Bindings} (path : List String) :
    ∀ depth, path.Nodup → path ⊆ b.fragments.keys → b.numSources ≤ path.length + depth →
      ∀ key m, interpretKeyWithin b depth path key m = some (interpretKey b path key m) := by
  induction path using b.induction_on_path with
  | step path ih =>
      intro depth hnodup hsub hdepth key m
      rw [interpretKeyWithin.eq_def]
      cases hvar : b.vars.find? key with
      | some text => simp only [interpretKey_of_var hvar]
      | none =>
          cases hf : m.resolved.find? key with
          | some f => simp only [interpretKey_of_resolved hvar hf]
          | none =>
              by_cases hpath : key ∈ path
              · simp only [if_pos hpath, interpretKey_of_mem hvar hf hpath]
              · cases hsource : b.fragments.find? key with
                | none => simp only [if_neg hpath, interpretKey_of_undefined hvar hf hpath hsource]
                | some source =>
                    have hfragment := Dictionary.mem_keys_of_find? hsource
                    have hnodup' : (path ++ [key]).Nodup :=
                      hnodup.append (List.nodup_singleton key) (List.disjoint_singleton.2 hpath)
                    have hsub' : path ++ [key] ⊆ b.fragments.keys :=
                      List.append_subset.2 ⟨hsub, List.cons_subset.2 ⟨hfragment, List.nil_subset _⟩⟩
                    -- so the path with the key on it is no longer than there are fragments
                    have hlength := Bindings.length_le_numSources hnodup' hsub'
                    rw [List.length_append, List.length_singleton] at hlength
                    simp only [if_neg hpath, interpretKey_of_source hvar hf hpath hsource]
                    cases depth with
                    | zero => omega
                    | succ depth =>
                        have hdepth' : b.numSources ≤ (path ++ [key]).length + depth := by
                          rw [List.length_append, List.length_singleton]
                          omega
                        have hinner := ih key hfragment hpath depth hnodup' hsub' hdepth'
                        dsimp only
                        rw [interpretSourceBy_eq hinner]
                        rcases interpretSource b (path ++ [key]) source (m.opening key)
                          with ⟨e | t, m'⟩ <;> rfl

namespace Resolver

/-- Resolves a source, if no more than `depth` fragments have to be opened within each other. -/
def resolveWithin (r : Resolver) (depth : Nat) (source : Source) :
    Option (Except ResolveError Template × Resolver) :=
  (interpretSourceBy (interpretKeyWithin r.bindings depth []) source r.memory).map
    fun outcome => (outcome.1, { r with memory := outcome.2 })

/-- **Resolving ends**, and no more fragments are opened within each other than there are. -/
theorem resolveWithin_eq (r : Resolver) (source : Source) :
    r.resolveWithin r.bindings.numSources source = some (r.resolve source) := by
  have hkey := interpretKeyWithin_eq (b := r.bindings) [] r.bindings.numSources List.nodup_nil
    (List.nil_subset _) (Nat.le_add_left _ _)
  rw [resolveWithin, interpretSourceBy_eq hkey]
  rfl

/-- What a source is resolved to can be found within the bound. -/
theorem resolve_eq_of_resolveWithin {r r' : Resolver} {source : Source}
    {result : Except ResolveError Template}
    (h : r.resolveWithin r.bindings.numSources source = some (result, r')) :
    r.resolve source = (result, r') :=
  Option.some_inj.1 ((r.resolveWithin_eq source).symm.trans h)

end Resolver

/-! ### Two forms of memory -/

section Forms

variable {σ τ : Type} {form : σ → τ}
  {step : String → σ → Option (Except ResolveError Splice × σ)}
  {step' : String → τ → Option (Except ResolveError Splice × τ)}

theorem interpretKeysBy_map
    (h : ∀ key s, step' key (form s) = (step key s).map (Prod.map id form)) :
    ∀ keys s, interpretKeysBy step' keys (form s) =
      (interpretKeysBy step keys s).map (Prod.map id form) := by
  intro keys
  induction keys with
  | nil =>
      intro s
      rfl
  | cons key keys ih =>
      intro s
      rw [interpretKeysBy, interpretKeysBy, h key s]
      rcases step key s with - | ⟨e | splice, s'⟩
      · rfl
      · rfl
      · dsimp only [Option.map_some, Prod.map_apply, id_eq]
        rw [ih s']
        rcases interpretKeysBy step keys s' with - | ⟨e | splices, s''⟩ <;> rfl

/-- If keys are interpreted alike, then so are sources. -/
theorem interpretSourceBy_map
    (h : ∀ key s, step' key (form s) = (step key s).map (Prod.map id form)) (source : Source)
    (s : σ) : interpretSourceBy step' source (form s) =
      (interpretSourceBy step source s).map (Prod.map id form) := by
  rw [interpretSourceBy, interpretSourceBy, interpretKeysBy_map h]
  rcases interpretKeysBy step source.keys s with - | ⟨e | splices, s'⟩ <;> rfl

end Forms

/-! ### Interpreting with a stack -/

/-- The keys whose fragments are being built, the innermost one last, and what is remembered. -/
structure Stacked where
  resolving : List String
  memory : Memory

namespace Stacked

/-- The key goes on top of the stack. -/
def push (s : Stacked) (key : String) : Stacked :=
  ⟨s.resolving ++ [key], s.memory.opening key⟩

/-- The key on top of the stack is taken off, whatever it is. -/
def pop (s : Stacked) : Stacked :=
  match s.resolving.getLast? with
  | none => s
  | some key => ⟨s.resolving.dropLast, s.memory.closing key⟩

/-- Builds the fragment for a key and keeps it. -/
def building (s : Stacked) (key : String) (t : Template) : Stacked :=
  { s with memory := s.memory.building key t }

/-- What a key stands for, if no more than `depth` fragments have to be opened within each other. -/
def interpretKey (b : Bindings) (depth : Nat) (key : String) (s : Stacked) :
    Option (Except ResolveError Splice × Stacked) :=
  match b.vars.find? key with
  | some text => some (.ok (.leaf text), s)
  | none =>
      match s.memory.resolved.find? key with
      | some fragment => some (.ok (.fragment fragment), s)
      | none =>
          if key ∈ s.resolving then some (.error (.cycle (cycleThrough key s.resolving)), s)
          else
            match b.fragments.find? key with
            | none => some (.error (.undefined key), s)
            | some source =>
                match depth with
                | 0 => none
                | depth + 1 =>
                    match interpretSourceBy (interpretKey b depth) source (s.push key) with
                    | none => none
                    | some (result, s') =>
                        -- whatever the result is, the key leaves the stack first
                        let popped := s'.pop
                        match result with
                        | .error e => some (.error e, popped)
                        | .ok t =>
                            some (.ok (.fragment (popped.memory.fragmentFor t)),
                              popped.building key t)

theorem push_mk (path : List String) (m : Memory) (key : String) :
    push ⟨path, m⟩ key = ⟨path ++ [key], m.opening key⟩ := rfl

theorem pop_mk_append (path : List String) (m : Memory) (key : String) :
    pop ⟨path ++ [key], m⟩ = ⟨path, m.closing key⟩ := by
  rw [pop, List.getLast?_concat]
  simp only [List.dropLast_concat]

/-- Within any bound, a key is interpreted with a stack as it is on a path, and behind it the stack
is as it was, whether something has failed or not. -/
theorem interpretKey_eq_map (b : Bindings) (depth : Nat) :
    ∀ path key m, interpretKey b depth key ⟨path, m⟩ =
      (interpretKeyWithin b depth path key m).map (Prod.map id (Stacked.mk path)) := by
  induction depth using Nat.strong_induction_on with
  | _ depth ih =>
      intro path key m
      rw [interpretKey.eq_def, interpretKeyWithin.eq_def]
      dsimp only
      cases b.vars.find? key with
      | some text => rfl
      | none =>
          cases m.resolved.find? key with
          | some f => rfl
          | none =>
              by_cases hpath : key ∈ path
              · simp only [if_pos hpath]
                rfl
              · simp only [if_neg hpath]
                cases b.fragments.find? key with
                | none => rfl
                | some source =>
                    cases depth with
                    | zero => rfl
                    | succ depth =>
                        have hinner := interpretSourceBy_map
                          (ih depth (Nat.lt_succ_self depth) (path ++ [key])) source (m.opening key)
                        dsimp only
                        rw [push_mk, hinner]
                        -- what was pushed is on top again, and popping gives the stack back
                        rcases interpretSourceBy (interpretKeyWithin b depth (path ++ [key])) source
                          (m.opening key) with - | ⟨e | t, m'⟩
                        · rfl
                        · simp only [Option.map_some, Prod.map_apply, id_eq, pop_mk_append]
                        · simp only [Option.map_some, Prod.map_apply, id_eq, pop_mk_append]
                          rfl

/-- **The stack is the path.**  From a stack that holds fragments, each once, a key is interpreted
as it is on this path. -/
theorem interpretKey_eq {b : Bindings} {path : List String} {depth : Nat} (hnodup : path.Nodup)
    (hsub : path ⊆ b.fragments.keys) (hdepth : b.numSources ≤ path.length + depth) (key : String)
    (m : Memory) : interpretKey b depth key ⟨path, m⟩ =
      some ((QueryWeave.interpretKey b path key m).1,
        ⟨path, (QueryWeave.interpretKey b path key m).2⟩) := by
  rw [interpretKey_eq_map, interpretKeyWithin_eq path depth hnodup hsub hdepth]
  rfl

end Stacked

/-! ### Resolvers with a stack -/

/-- Bindings without ambiguous keys, the stack, and what has been built from the bindings. -/
structure StackResolver where
  bindings : Bindings
  state : Stacked
  unambiguous : bindings.sharedKeys = []

namespace StackResolver

/-- A resolver that has not built anything, with an empty stack. -/
def new (b : Bindings) : Except ResolveError StackResolver :=
  if h : b.sharedKeys = [] then .ok ⟨b, ⟨[], .empty⟩, h⟩ else .error (.ambiguous b.sharedKeys)

/-- Resolves a source, with no more fragments opened within each other than there are. -/
def resolve (r : StackResolver) (source : Source) :
    Option (Except ResolveError Template × StackResolver) :=
  (interpretSourceBy (Stacked.interpretKey r.bindings r.bindings.numSources) source r.state).map
    fun outcome => (outcome.1, { r with state := outcome.2 })

/-- Resolves sources one after the other, and gives the resolver behind the last of them. -/
def resolveAll (r : StackResolver) (sources : List Source) : Option StackResolver :=
  sources.foldlM (fun r source => (r.resolve source).map Prod.snd) r

/-- A resolver with an empty stack. -/
def ofResolver (r : Resolver) : StackResolver := ⟨r.bindings, ⟨[], r.memory⟩, r.unambiguous⟩

theorem new_eq (b : Bindings) : new b = (Resolver.new b).map ofResolver := by
  rw [new, Resolver.new]
  split <;> rfl

/-- **Resolving with a stack is resolving.**  It ends with the same result, the same is remembered,
and the stack is empty again. -/
theorem resolve_eq (r : Resolver) (source : Source) :
    (ofResolver r).resolve source =
      some ((r.resolve source).1, ofResolver (r.resolve source).2) := by
  have hkey : ∀ key m, Stacked.interpretKey r.bindings r.bindings.numSources key ⟨[], m⟩ =
      (some (interpretKey r.bindings [] key m)).map (Prod.map id (Stacked.mk [])) := by
    intro key m
    exact Stacked.interpretKey_eq List.nodup_nil (List.nil_subset _) (Nat.le_add_left _ _) key m
  rw [resolve, ofResolver, interpretSourceBy_map hkey, interpretSourceBy_eq fun _ _ => rfl]
  rfl

/-- So it is for any sources, resolved or failed. -/
theorem resolveAll_eq (r : Resolver) (sources : List Source) :
    (ofResolver r).resolveAll sources = some (ofResolver (r.resolveAll sources)) := by
  induction sources generalizing r with
  | nil => rfl
  | cons source sources ih =>
      rw [resolveAll, List.foldlM_cons, resolve_eq]
      exact ih _

end StackResolver

end QueryWeave
