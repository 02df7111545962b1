/-
**Texts that need each other.**

What a document is made of can be told from the texts alone: some keys are bound to the texts of
fragments, others to plain texts, and the placeholders in a text say which keys it needs.  The
listing of a text names the keys of fragments in the order of reading, each in front of what it
needs itself, and as often as it is met.

Main definitions:

* `QueryWeave.Texts` — the two kinds of texts;
* `QueryWeave.Texts.Needs`, `QueryWeave.Texts.Needed` — the keys that a text needs, directly or not;
* `QueryWeave.Texts.Listing` — the pre-order of these keys;
* `QueryWeave.Texts.Reads` — bindings that the texts are read into.

Main results:

* `QueryWeave.Texts.Listing.mem_iff` — **a listing names exactly the fragments that are needed**;
* `QueryWeave.Texts.Listing.unique`, `QueryWeave.Texts.Listing.spelling_unique` — there is one
  listing, and one way to spell its keys;
* `QueryWeave.Texts.Reads.exists_text` — what stands under a key is read from its text.
-/

import Mathlib.Data.List.Forall2
import Mathlib.Logic.Relation
import QueryWeave.Proofs.Template.Substitution
import QueryWeave.Resolution.Resolver

set_option relaxedAutoImplicit false
set_option autoImplicit false

namespace QueryWeave

/-- Keys bound to the texts of fragments, and keys bound to plain texts. -/
structure Texts where
  fragments : Dictionary String
  vars : Dictionary String

namespace Texts

/-- No key is bound both ways. -/
def Disjoint (x : Texts) : Prop :=
  ∀ key ∈ x.fragments.keys, key ∉ x.vars.keys

/-- A key that has a plain text is not the key of a fragment. -/
theorem Disjoint.find?_ne_some {x : Texts} (h : x.Disjoint) {key text value : String}
    (hkey : x.fragments.find? key = some text) : x.vars.find? key ≠ some value := by
  intro hvar
  exact h key (Dictionary.mem_keys_of_find? hkey) (Dictionary.mem_keys_of_find? hvar)

/-! ### What is needed -/

/-- The text of `key` has a placeholder for `key'`. -/
def Needs (x : Texts) (key key' : String) : Prop :=
  ∃ text, x.fragments.find? key = some text ∧ key' ∈ placeholders text

/-- One of `keys` needs `key`, over any number of steps. -/
def Needed (x : Texts) (keys : List String) (key : String) : Prop :=
  ∃ start ∈ keys, Relation.ReflTransGen x.Needs start key

theorem Needed.mono {x : Texts} {keys keys' : List String} {key : String} (h : x.Needed keys key)
    (hsub : keys ⊆ keys') : x.Needed keys' key := by
  obtain ⟨start, hstart, hway⟩ := h
  exact ⟨start, hsub hstart, hway⟩

/-- What is in the text of a needed key is needed. -/
theorem Needed.step {x : Texts} {keys : List String} {key key' text : String}
    (h : x.Needed keys key) (htext : x.fragments.find? key = some text)
    (hkey' : key' ∈ placeholders text) : x.Needed keys key' := by
  obtain ⟨start, hstart, hway⟩ := h
  exact ⟨start, hstart, hway.tail ⟨text, htext, hkey'⟩⟩

/-- What the text of a key needs, the key needs. -/
theorem Needed.below {x : Texts} {keys : List String} {key key' text : String}
    (hkey : x.fragments.find? key = some text) (h : x.Needed (placeholders text) key') :
    x.Needed (key :: keys) key' := by
  obtain ⟨start, hstart, hway⟩ := h
  exact ⟨key, List.mem_cons_self, .head ⟨text, hkey, hstart⟩ hway⟩

/-- What keys need is the first of them, or is needed by its text, or is needed by the others. -/
theorem Needed.cons_cases {x : Texts} {keys : List String} {key key' : String}
    (h : x.Needed (key :: keys) key') :
    key' = key ∨
      (∃ text, x.fragments.find? key = some text ∧ x.Needed (placeholders text) key') ∨
      x.Needed keys key' := by
  obtain ⟨start, hstart, hway⟩ := h
  rcases List.mem_cons.1 hstart with rfl | hstart
  · rcases Relation.ReflTransGen.cases_head hway with rfl | ⟨next, ⟨text, htext, hnext⟩, hrest⟩
    · exact Or.inl rfl
    · exact Or.inr (Or.inl ⟨text, htext, next, hnext, hrest⟩)
  · exact Or.inr (Or.inr ⟨start, hstart, hway⟩)

/-! ### The listing -/

/-- The fragments that keys need, in the order of reading: from left to right, a key in front of
what its own text needs, and as often as it is met. -/
inductive Listing (x : Texts) : List String → List String → Prop
  | nil : Listing x [] []
  | var {key value : String} {keys order : List String} : x.vars.find? key = some value →
      Listing x keys order → Listing x (key :: keys) order
  | fragment {key text : String} {below keys order : List String} :
      x.fragments.find? key = some text → Listing x (placeholders text) below →
      Listing x keys order → Listing x (key :: keys) (key :: (below ++ order))

/-- A listed key is the key of a fragment that is needed. -/
theorem Listing.needed {x : Texts} {keys order : List String} (h : x.Listing keys order) :
    ∀ key ∈ order, x.Needed keys key ∧ ∃ text, x.fragments.find? key = some text := by
  induction h with
  | nil =>
      intro key hkey
      cases hkey
  | var _ _ ih =>
      intro key hkey
      obtain ⟨hneeded, htext⟩ := ih key hkey
      exact ⟨hneeded.mono (List.subset_cons_self _ _), htext⟩
  | @fragment key text below keys order htext _ _ ihbelow ih =>
      intro key' hkey'
      rcases List.mem_cons.1 hkey' with rfl | hkey'
      · exact ⟨⟨key', List.mem_cons_self, .refl⟩, text, htext⟩
      · rcases List.mem_append.1 hkey' with hkey' | hkey'
        · obtain ⟨hneeded, htext'⟩ := ihbelow key' hkey'
          exact ⟨.below htext hneeded, htext'⟩
        · obtain ⟨hneeded, htext'⟩ := ih key' hkey'
          exact ⟨hneeded.mono (List.subset_cons_self _ _), htext'⟩

/-- What is needed has a plain text or is listed. -/
theorem Listing.var_or_mem {x : Texts} (hdisjoint : x.Disjoint) {keys order : List String}
    (h : x.Listing keys order) :
    ∀ key, x.Needed keys key → (∃ value, x.vars.find? key = some value) ∨ key ∈ order := by
  induction h with
  | nil =>
      rintro key ⟨start, hstart, -⟩
      cases hstart
  | @var key value keys order hvar _ ih =>
      intro key' hkey'
      rcases hkey'.cons_cases with rfl | ⟨text, htext, -⟩ | hrest
      · exact Or.inl ⟨value, hvar⟩
      · exact absurd hvar (hdisjoint.find?_ne_some htext)
      · exact ih key' hrest
  | @fragment key text below keys order htext _ _ ihbelow ih =>
      intro key' hkey'
      have hsub : below ⊆ key :: (below ++ order) := by
        intro k hk
        exact List.mem_cons_of_mem _ (List.mem_append_left _ hk)
      have hsub' : order ⊆ key :: (below ++ order) := by
        intro k hk
        exact List.mem_cons_of_mem _ (List.mem_append_right _ hk)
      rcases hkey'.cons_cases with rfl | ⟨text', htext', hbelow⟩ | hrest
      · exact Or.inr List.mem_cons_self
      · obtain rfl : text' = text := Option.some_inj.1 (htext'.symm.trans htext)
        exact (ihbelow key' hbelow).imp_right fun hmem => hsub hmem
      · exact (ih key' hrest).imp_right fun hmem => hsub' hmem

/-- **A listing names exactly the fragments that are needed.** -/
theorem Listing.mem_iff {x : Texts} (hdisjoint : x.Disjoint) {keys order : List String}
    (h : x.Listing keys order) {key : String} :
    key ∈ order ↔ x.Needed keys key ∧ ∃ text, x.fragments.find? key = some text := by
  refine ⟨h.needed key, ?_⟩
  rintro ⟨hneeded, text, htext⟩
  rcases h.var_or_mem hdisjoint key hneeded with ⟨value, hvar⟩ | hmem
  · exact absurd hvar (hdisjoint.find?_ne_some htext)
  · exact hmem

/-- Keys have one listing only. -/
theorem Listing.unique {x : Texts} (hdisjoint : x.Disjoint) {keys order order' : List String}
    (h : x.Listing keys order) (h' : x.Listing keys order') : order = order' := by
  induction h generalizing order' with
  | nil =>
      cases h'
      rfl
  | @var key value keys order hvar _ ih =>
      cases h' with
      | var _ hrest => exact ih hrest
      | fragment htext _ _ => exact absurd hvar (hdisjoint.find?_ne_some htext)
  | @fragment key text below keys order htext _ _ ihbelow ih =>
      cases h' with
      | var hvar _ => exact absurd hvar (hdisjoint.find?_ne_some htext)
      | fragment htext' hbelow hrest =>
          obtain rfl := Option.some_inj.1 (htext.symm.trans htext')
          rw [ihbelow hbelow, ih hrest]

/-- Two ways to spell keys agree on a listing, if they agree on plain texts, and on a fragment
whenever they agree on the placeholders in its text. -/
theorem Listing.spelling_unique {α : Type} {x : Texts} {spelling spelling' : String → α}
    (hvar : ∀ key value, x.vars.find? key = some value → spelling key = spelling' key)
    {keys order : List String} (h : x.Listing keys order) :
    (∀ key ∈ order, ∀ text, x.fragments.find? key = some text →
      (∀ key ∈ placeholders text, spelling key = spelling' key) →
        spelling key = spelling' key) →
    (∀ key ∈ keys, spelling key = spelling' key) ∧
      ∀ key ∈ order, spelling key = spelling' key := by
  induction h with
  | nil => simp
  | @var key value keys order hvalue _ ih =>
      intro hstep
      obtain ⟨hkeys, horder⟩ := ih hstep
      exact ⟨List.forall_mem_cons.2 ⟨hvar key value hvalue, hkeys⟩, horder⟩
  | @fragment key text below keys order htext _ _ ihbelow ih =>
      intro hstep
      obtain ⟨hfirst, hstep⟩ := List.forall_mem_cons.1 hstep
      obtain ⟨hstepbelow, hsteprest⟩ := List.forall_mem_append.1 hstep
      obtain ⟨hplaceholders, hbelow⟩ := ihbelow hstepbelow
      obtain ⟨hkeys, horder⟩ := ih hsteprest
      have hkey := hfirst text htext hplaceholders
      exact ⟨List.forall_mem_cons.2 ⟨hkey, hkeys⟩,
        List.forall_mem_cons.2 ⟨hkey, List.forall_mem_append.2 ⟨hbelow, horder⟩⟩⟩

/-! ### Reading the texts -/

/-- In dictionaries that correspond, entry by entry, the same keys stand for things that do. -/
theorem find?_rel {α β : Type} {R : α → β → Prop} {d : Dictionary α} {d' : Dictionary β}
    (h : List.Forall₂ (fun entry entry' => entry'.1 = entry.1 ∧ R entry.2 entry'.2) d d')
    (key : String) : Option.Rel R (d.find? key) (d'.find? key) := by
  induction h with
  | nil => exact .none
  | @cons entry entry' d d' hentry _ ih =>
      obtain ⟨hkey, hrel⟩ := hentry
      rw [Dictionary.find?, Dictionary.find?, hkey]
      generalize Dictionary.find? d key = found, Dictionary.find? d' key = found' at ih
      cases ih with
      | some hrel' => exact .some hrel'
      | none =>
          by_cases hfirst : entry.1 = key
          · rw [if_pos hfirst, if_pos hfirst]
            exact .some hrel
          · rw [if_neg hfirst, if_neg hfirst]
            exact .none

/-- The texts are read into bindings: each text of a fragment is accepted, and its source stands
under the same key. -/
structure Reads (x : Texts) (b : Bindings) : Prop where
  fragments : List.Forall₂ (fun entry entry' => entry'.1 = entry.1 ∧
    Source.parse entry.2 = .ok entry'.2) x.fragments b.fragments
  vars : b.vars = x.vars

theorem Reads.keys_eq {x : Texts} {b : Bindings} (h : x.Reads b) :
    b.fragments.keys = x.fragments.keys := by
  have hkeys : List.Forall₂ (· = ·) b.fragments.keys x.fragments.keys := by
    rw [Dictionary.keys, Dictionary.keys, List.forall₂_map_left_iff, List.forall₂_map_right_iff]
    exact h.fragments.flip.imp fun _ _ hentry => hentry.1
  rwa [List.forall₂_eq_eq_eq] at hkeys

/-- What stands under a key is read from the text under it. -/
theorem Reads.exists_text {x : Texts} {b : Bindings} (h : x.Reads b) {key : String}
    {source : Source} (hsource : b.fragments.find? key = some source) :
    ∃ text, x.fragments.find? key = some text ∧ Source.parse text = .ok source := by
  have hrel := find?_rel (R := fun text source => Source.parse text = .ok source) h.fragments key
  rw [hsource] at hrel
  cases htext : x.fragments.find? key with
  | none => rw [htext] at hrel; cases hrel
  | some text =>
      rw [htext] at hrel
      cases hrel with
      | some hparse => exact ⟨text, rfl, hparse⟩

end Texts

end QueryWeave
