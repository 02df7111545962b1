/-
**The document of a text.**

Composing goes a long way: texts are read into sources, sources are expanded into nested fragments,
the fragments are collected and reduced to one for each name, and the definitions are put behind the
body.  The result can be told without any of these steps.  It is the text with the names of
fragments in place of its placeholders, and then, in the order of names, one definition for each of
the names, which is likewise the text of a key with names in place of its placeholders, without its
first marker if it has one.

Main definitions:

* `QueryWeave.Bindings.spelling` — what a key puts in the place of a placeholder;
* `QueryWeave.Texts.Defines` — the definition of a key, told from its text;
* `QueryWeave.Texts.Composes` — **the document of a text**.

Main results:

* `QueryWeave.Texts.exists_listing` — the fragments of an expansion are listed by the keys;
* `QueryWeave.Texts.composes_of_expandSource` — **what a text expands to has this document**;
* `QueryWeave.Texts.Composes.unique` — **a text has one document**.
-/

import QueryWeave.Proofs.Composition.Texts
import QueryWeave.Proofs.Fragment.Marker
import QueryWeave.Proofs.Resolution.Expansion

set_option relaxedAutoImplicit false
set_option autoImplicit false

namespace QueryWeave

/-! ### Spelling -/

namespace Bindings

/-- What a key puts in the place of a placeholder: its text, or the name of its fragment. -/
def spelling (b : Bindings) (key : String) : String :=
  match b.expandKey [] key with
  | .ok splice => splice.name
  | .error _ => ""

theorem Expands.spelling_eq {b : Bindings} {key : String} {splice : Splice}
    (h : b.Expands [key] [splice]) : b.spelling key = splice.name := by
  rw [spelling, h.expandKey (by simp)]

/-- Keys are spelled as the splices that they stand for. -/
theorem Expands.map_spelling {b : Bindings} {keys : List String} {splices : List Splice}
    (h : b.Expands keys splices) : keys.map b.spelling = splices.map Splice.name := by
  have hall := h.forall₂
  induction hall with
  | nil => rfl
  | cons hkey hrest ih =>
      rw [List.map_cons, List.map_cons, hkey.spelling_eq, ih (.of_forall₂ hrest)]

end Bindings

namespace Texts

variable {x : Texts} {b : Bindings}

/-! ### Fragments and their keys -/

/-- The fragments of an expansion are met in the order in which the keys are listed. -/
theorem exists_listing (hreads : x.Reads b) {keys : List String} {splices : List Splice}
    (h : b.Expands keys splices) :
    ∃ order, x.Listing keys order ∧
      List.Forall₂ (fun key f => b.Expands [key] [.fragment f]) order (preorders splices) := by
  induction h with
  | nil => exact ⟨[], .nil, .nil⟩
  | var hvar _ ih =>
      obtain ⟨order, hlisting, hfragments⟩ := ih
      exact ⟨order, .var (hreads.vars ▸ hvar) hlisting, hfragments⟩
  | @fragment key source t keys splices hvar hsource hsegments hkeys _ ihkeys ih =>
      obtain ⟨text, htext, hparse⟩ := hreads.exists_text hsource
      obtain ⟨below, hbelow, hfragments⟩ := ihkeys
      obtain ⟨order, hlisting, hfragments'⟩ := ih
      rw [Source.keys_eq_of_parse hparse] at hbelow
      refine ⟨key :: (below ++ order), .fragment htext hbelow hlisting, ?_⟩
      rw [preorders, Splice.preorder_fragment, Fragment.preorder_eq, List.cons_append]
      refine .cons (.fragment hvar hsource hsegments hkeys .nil) ?_
      exact List.rel_append hfragments hfragments'

/-- The text of a template is told from the text of its source. -/
theorem body_eq_substitute {text : String} {source : Source} {t : Template}
    (hparse : Source.parse text = .ok source) (hsegments : t.segments = source.segments)
    (hkeys : b.Expands source.keys t.splices) : t.body = substitute b.spelling text := by
  rw [Template.body, hsegments, ← hkeys.map_spelling, Source.weave_eq_of_parse hparse]

/-- The definition of a key: its name, and behind that its own text with names in place of the
placeholders, without the first marker if there is one. -/
inductive Defines (x : Texts) (spelling : String → String) (key : String) : String → Prop
  | intro {text : String} {rest : List Char} : x.fragments.find? key = some text →
      Unmarked (substitute spelling text).toList rest →
      Defines x spelling key ("fragment " ++ spelling key ++ " " ++ String.ofList rest)

/-- A fragment is defined as its key is. -/
theorem defines_of_expands (hreads : x.Reads b) {key : String} {f : Fragment}
    (h : b.Expands [key] [.fragment f]) : x.Defines b.spelling key f.definition := by
  rw [Fragment.definition, ← Splice.name_fragment, ← h.spelling_eq]
  cases h with
  | fragment hvar hsource hsegments hkeys _ =>
      obtain ⟨text, htext, hparse⟩ := hreads.exists_text hsource
      refine .intro htext (unmarked_iff.2 ?_)
      rw [← body_eq_substitute hparse hsegments hkeys]
      rfl

/-- A fragment is named after its text without the placeholders, and the spellings of their keys. -/
theorem spelling_eq_contentName (hreads : x.Reads b) {key text : String} {f : Fragment}
    (h : b.Expands [key] [.fragment f]) (htext : x.fragments.find? key = some text) :
    b.spelling key = contentName (substitute (fun _ => "") text ++
      String.join ((placeholders text).map b.spelling)) := by
  rw [h.spelling_eq]
  cases h with
  | @fragment _ source t _ _ hvar hsource hsegments hkeys _ =>
      obtain ⟨text', htext', hparse⟩ := hreads.exists_text hsource
      obtain rfl : text' = text := Option.some_inj.1 (htext'.symm.trans htext)
      rw [Splice.name_fragment, Fragment.name_ofTemplate, Template.content, hsegments,
        ← hkeys.map_spelling, Source.join_eq_of_parse hparse, Source.keys_eq_of_parse hparse]

/-! ### The document -/

/-- **The document of a text.**  Keys are spelled by `spelling`, the fragments that the text needs
are listed in `order`, and those that are defined are in `defined`. -/
structure Composes (x : Texts) (text : String) (spelling : String → String)
    (order defined : List String) (document : String) : Prop where
  /-- The order is the pre-order of references, with repetitions. -/
  listing : x.Listing (placeholders text) order
  /-- It names exactly the fragments that are needed. -/
  mem_order : ∀ key, key ∈ order ↔
    x.Needed (placeholders text) key ∧ ∃ text, x.fragments.find? key = some text
  /-- Every key that is needed has a plain text or names a fragment. -/
  bound : ∀ key, x.Needed (placeholders text) key →
    (∃ value, x.vars.find? key = some value) ∨ key ∈ order
  /-- The key of a plain text is spelled as the text. -/
  spelling_var : ∀ key value, x.vars.find? key = some value → spelling key = value
  /-- The key of a fragment is spelled by the name for its content. -/
  spelling_fragment : ∀ key ∈ order, ∀ text, x.fragments.find? key = some text →
    spelling key = contentName (substitute (fun _ => "") text ++
      String.join ((placeholders text).map spelling))
  /-- Of the listed keys with one name the last one is defined. -/
  mem_defined : ∀ key, key ∈ defined ↔
    (order.filter fun key' => spelling key' = spelling key).getLast? = some key
  /-- The names that are defined are those of the fragments. -/
  names : ∀ name, name ∈ defined.map spelling ↔ ∃ key ∈ order, spelling key = name
  /-- No name is defined twice, and names ascend. -/
  ascending : defined.Pairwise fun key key' => spelling key < spelling key'
  /-- The text comes first, and then the definitions. -/
  document : ∃ definitions, List.Forall₂ (x.Defines spelling) defined definitions ∧
    document = substitute spelling text ++ "\n".intercalate definitions

/-- The fragments that are kept, one for each name, are defined as the keys that are kept. -/
theorem defines_fragments (hreads : x.Reads b) {order : List String} {t : Template}
    (h : List.Forall₂ (fun key f => b.Expands [key] [.fragment f]) order (preorders t.splices)) :
    List.Forall₂ (x.Defines b.spelling) (KeyOrder.ofList b.spelling order)
      (t.fragments.map Fragment.definition) := by
  have hname : ∀ key f, b.Expands [key] [.fragment f] → b.spelling key = f.name :=
    fun _ _ hkey => hkey.spelling_eq
  have hkept := KeyOrder.forall₂_ofList hname h
  rw [Template.fragments, collectAll_eq_preorders, onePerName, List.forall₂_map_right_iff]
  exact hkept.imp fun _ _ hkey => defines_of_expands hreads hkey

/-- **What a text expands to has the document of the text.** -/
theorem composes_of_expandSource (hdisjoint : x.Disjoint) (hreads : x.Reads b) {text : String}
    {source : Source} (hparse : Source.parse text = .ok source) {t : Template}
    (ht : b.expandSource [] source = .ok t) :
    ∃ order defined, x.Composes text b.spelling order defined t.documentText := by
  obtain ⟨hsegments, hkeys⟩ := Bindings.expandSource_eq_ok_iff.1 ht
  have hexpands := Bindings.expands_of_expandKeys hkeys
  obtain ⟨order, hlisting, hfragments⟩ := exists_listing hreads hexpands
  rw [Source.keys_eq_of_parse hparse] at hlisting
  have hvar : ∀ key value, x.vars.find? key = some value → b.spelling key = value := by
    intro key value hvalue
    have hkey : b.Expands [key] [.leaf value] := .var (hreads.vars ▸ hvalue) .nil
    exact hkey.spelling_eq
  have hname : ∀ key ∈ order, ∀ text, x.fragments.find? key = some text →
      b.spelling key = contentName (substitute (fun _ => "") text ++
        String.join ((placeholders text).map b.spelling)) := by
    intro key hkey text' htext'
    obtain ⟨i, hi, rfl⟩ := List.getElem_of_mem hkey
    have hexpands := hfragments.get hi (hfragments.length_eq ▸ hi)
    exact spelling_eq_contentName hreads hexpands htext'
  have hdocument : t.documentText = substitute b.spelling text ++
      "\n".intercalate (t.fragments.map Fragment.definition) := by
    rw [t.documentText_eq, body_eq_substitute hparse hsegments hexpands, Template.definitions]
  exact ⟨order, KeyOrder.ofList b.spelling order,
    { listing := hlisting
      mem_order := fun _ => hlisting.mem_iff hdisjoint
      bound := hlisting.var_or_mem hdisjoint
      spelling_var := hvar
      spelling_fragment := hname
      mem_defined := fun _ => KeyOrder.mem_ofList_iff
      names := fun _ => KeyOrder.mem_map_ofList
      ascending := KeyOrder.pairwise_ofList b.spelling order
      document := ⟨_, defines_fragments hreads hfragments, hdocument⟩ }⟩

/-! ### There is only one -/

section Unique

variable {text : String} {spelling spelling' : String → String}
  {order order' defined defined' : List String} {document document' : String}

theorem Composes.mem_order_of_mem_defined
    (h : x.Composes text spelling order defined document) {key : String} (hkey : key ∈ defined) :
    key ∈ order := by
  have hlast := List.mem_of_getLast? ((h.mem_defined key).1 hkey)
  exact (List.mem_filter.1 hlast).1

/-- Keys are spelled in one way only, those in the template and those in the order. -/
theorem Composes.spelling_unique (h : x.Composes text spelling order defined document)
    (h' : x.Composes text spelling' order defined' document') :
    (∀ key ∈ placeholders text, spelling key = spelling' key) ∧
      ∀ key ∈ order, spelling key = spelling' key := by
  refine h.listing.spelling_unique ?_ ?_
  · intro key value hvalue
    rw [h.spelling_var key value hvalue, h'.spelling_var key value hvalue]
  · intro key hkey text' htext' hbelow
    rw [h.spelling_fragment key hkey text' htext', h'.spelling_fragment key hkey text' htext',
      List.map_congr_left hbelow]

/-- A key has one definition only. -/
theorem Composes.definition_unique (h : x.Composes text spelling order defined document)
    (h' : x.Composes text spelling' order defined' document') {key : String} (hkey : key ∈ order)
    {definition definition' : String} (hdefines : x.Defines spelling key definition)
    (hdefines' : x.Defines spelling' key definition') : definition = definition' := by
  obtain ⟨-, horder⟩ := h.spelling_unique h'
  obtain ⟨hneeded, -⟩ := (h.mem_order key).1 hkey
  obtain @⟨text', rest, htext', hrest⟩ := hdefines
  obtain @⟨text'', rest', htext'', hrest'⟩ := hdefines'
  obtain rfl : text' = text'' := Option.some_inj.1 (htext'.symm.trans htext'')
  have hbody : substitute spelling text' = substitute spelling' text' := by
    refine substitute_congr ?_
    intro next hnext
    rcases h.bound next (hneeded.step htext' hnext) with ⟨value, hvalue⟩ | hlisted
    · rw [h.spelling_var next value hvalue, h'.spelling_var next value hvalue]
    · exact horder next hlisted
  rw [hbody] at hrest
  obtain rfl : rest = rest' := (unmarked_iff.1 hrest).symm.trans (unmarked_iff.1 hrest')
  rw [horder key hkey]

/-- The keys that are defined are determined. -/
theorem Composes.defined_unique (h : x.Composes text spelling order defined document)
    (h' : x.Composes text spelling' order defined' document') : defined = defined' := by
  obtain ⟨-, horder⟩ := h.spelling_unique h'
  have hfilter : ∀ key ∈ order, (order.filter fun key' => spelling key' = spelling key) =
      order.filter fun key' => spelling' key' = spelling' key := by
    intro key hkey
    refine List.filter_congr ?_
    intro key' hkey'
    rw [horder key hkey, horder key' hkey']
  have hascending : defined'.Pairwise fun key key' => spelling key < spelling key' := by
    refine h'.ascending.imp_of_mem ?_
    intro key key' hkey hkey' hlt
    rw [horder key (h'.mem_order_of_mem_defined hkey),
      horder key' (h'.mem_order_of_mem_defined hkey')]
    exact hlt
  refine KeyOrder.eq_of_mem_iff h.ascending hascending ?_
  intro key
  constructor
  · intro hkey
    rw [h'.mem_defined, ← hfilter key (h.mem_order_of_mem_defined hkey)]
    exact (h.mem_defined key).1 hkey
  · intro hkey
    rw [h.mem_defined, hfilter key (h'.mem_order_of_mem_defined hkey)]
    exact (h'.mem_defined key).1 hkey

/-- **A text has one document.** -/
theorem Composes.unique (hdisjoint : x.Disjoint)
    (h : x.Composes text spelling order defined document)
    (h' : x.Composes text spelling' order' defined' document') : document = document' := by
  obtain rfl := h.listing.unique hdisjoint h'.listing
  obtain ⟨hplaceholders, -⟩ := h.spelling_unique h'
  obtain rfl := h.defined_unique h'
  obtain ⟨definitions, hall, hdocument⟩ := h.document
  obtain ⟨definitions', hall', hdocument'⟩ := h'.document
  have hdefinitions : definitions = definitions' := by
    refine List.ext_getElem (hall.length_eq.symm.trans hall'.length_eq) fun i hi hi' => ?_
    have hdefined : i < defined.length := hall.length_eq ▸ hi
    exact h.definition_unique h' (h.mem_order_of_mem_defined (List.getElem_mem hdefined))
      (hall.get hdefined hi) (hall'.get hdefined hi')
  rw [hdocument, hdocument', substitute_congr hplaceholders, hdefinitions]

end Unique

end Texts

end QueryWeave
