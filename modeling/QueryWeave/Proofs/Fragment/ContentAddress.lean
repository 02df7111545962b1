/-
**What the name of a fragment says about its text.**

The content that a fragment is named after is its segments and then the texts of its children, one
behind the other without anything between them.  So it does not tell where a segment or a text ends,
nor which text goes where: one content may belong to templates with different texts, and merging the
fragments of such templates loses one of these texts, without any collision of the hash.

What equal contents do guarantee is that the texts have the same characters, in some order.  They
are the same texts if the pieces they are made of have the same lengths.

Main definitions:

* `QueryWeave.Template.SameCuts` — templates whose pieces have the same lengths.

Main results:

* `QueryWeave.Template.body_perm_content` — the text of a template has the characters of its
  content;
* `QueryWeave.Template.SameCuts.eq_of_content_eq` — content and lengths determine the pieces;
* `QueryWeave.Fragment.definition_eq_iff_of_content_eq` — **when fragments with one content have one
  definition**;
* `QueryWeave.Fragment.not_definition_eq_of_content_eq` — **not always**.
-/

import QueryWeave.Proofs.Fragment.Marker

set_option relaxedAutoImplicit false
set_option autoImplicit false

namespace QueryWeave

/-! ### Text and content -/

/-- Interleaving rearranges the characters of segments and names. -/
theorem weave_perm {segments names : List String} (h : segments.length = names.length + 1) :
    (weave segments names).toList.Perm
      ((String.join segments).toList ++ (String.join names).toList) := by
  induction names generalizing segments with
  | nil =>
      obtain ⟨segment, rfl⟩ := List.length_eq_one_iff.1 h
      simp
  | cons name names ih =>
      obtain ⟨segment, segments, rfl⟩ := List.exists_cons_of_length_eq_add_one h
      have hlength : segments.length = names.length + 1 := by simpa using h
      have hrest := ih hlength
      rw [weave, String.join_cons, String.join_cons]
      simp only [String.toList_append, List.append_assoc]
      -- the name moves behind the segments that follow
      refine List.Perm.append_left _ ((hrest.append_left _).trans ?_)
      rw [← List.append_assoc, ← List.append_assoc]
      exact List.perm_append_comm.append_right _

namespace Template

/-- The text of a template is a rearrangement of its content. -/
theorem body_perm_content (t : Template) : t.body.toList.Perm t.content.toList := by
  rw [content, String.toList_append]
  exact weave_perm (by simpa using t.length_segments)

theorem length_body_eq_of_content_eq {s t : Template} (h : s.content = t.content) :
    s.body.toList.length = t.body.toList.length := by
  rw [s.body_perm_content.length_eq, t.body_perm_content.length_eq, h]

/-- Two templates are cut alike: their segments have the same lengths, and so have the texts of
their splices. -/
def SameCuts (s t : Template) : Prop :=
  s.segments.map String.length = t.segments.map String.length ∧
    (s.splices.map Splice.name).map String.length = (t.splices.map Splice.name).map String.length

/-- Content and lengths determine the pieces. -/
theorem SameCuts.eq_of_content_eq {s t : Template} (h : s.SameCuts t)
    (hcontent : s.content = t.content) :
    s.segments = t.segments ∧ s.splices.map Splice.name = t.splices.map Splice.name := by
  obtain ⟨hsegments, hnames⟩ := h
  have hpieces : (s.segments ++ s.splices.map Splice.name).map String.toList =
      (t.segments ++ t.splices.map Splice.name).map String.toList := by
    refine List.eq_iff_flatten_eq.2 ⟨?_, ?_⟩
    · rw [← List.flatMap_def, ← List.flatMap_def, ← String.toList_join, ← String.toList_join,
        String.join_append, String.join_append]
      exact congrArg String.toList hcontent
    · have hlengths : (s.segments ++ s.splices.map Splice.name).map String.length =
          (t.segments ++ t.splices.map Splice.name).map String.length := by
        rw [List.map_append, List.map_append, hsegments, hnames]
      simpa [Function.comp_def, String.length_toList] using hlengths
  have hsame := (List.map_inj_right fun _ _ => String.toList_inj.1).1 hpieces
  exact List.append_inj hsame (by simpa using congrArg List.length hsegments)

end Template

/-! ### Content and definition -/

namespace Fragment

theorem body_ofTemplate (serial : Nat) (t : Template) : (ofTemplate serial t).body = t.body := rfl

/-- Fragments of one name have one definition when their texts agree without the markers. -/
theorem definition_eq_iff {f g : Fragment} (hname : f.name = g.name) :
    f.definition = g.definition ↔ dropMarker f.body.toList = dropMarker g.body.toList := by
  rw [definition, definition, hname, String.append_right_inj, String.ofList_inj]

/-- **When fragments with one content have one definition.**  They always have one name.  Their
definitions are the same exactly when their texts are, or are without the markers; and so they are
when the templates are cut alike. -/
theorem definition_eq_iff_of_content_eq (i j : Nat) {s t : Template}
    (h : s.content = t.content) :
    (ofTemplate i s).name = (ofTemplate j t).name ∧
    ((ofTemplate i s).definition = (ofTemplate j t).definition ↔
      EqualUpToMarker s.body.toList t.body.toList) ∧
    (s.SameCuts t → (ofTemplate i s).definition = (ofTemplate j t).definition) := by
  have hname : (ofTemplate i s).name = (ofTemplate j t).name := by
    rw [name_ofTemplate, name_ofTemplate, h]
  have hiff : (ofTemplate i s).definition = (ofTemplate j t).definition ↔
      EqualUpToMarker s.body.toList t.body.toList := by
    rw [definition_eq_iff hname, body_ofTemplate, body_ofTemplate,
      dropMarker_eq_dropMarker_iff (Template.length_body_eq_of_content_eq h)]
  refine ⟨hname, hiff, fun hcuts => hiff.2 (Or.inl ?_)⟩
  obtain ⟨hsegments, hnames⟩ := hcuts.eq_of_content_eq h
  rw [Template.body, Template.body, hsegments, hnames]

/-- A call with two arguments, as an inline fragment. -/
def callOf (a b : String) : Template :=
  ⟨["... on A \x7b f(a: ", ", b: ", ") \x7d"], [.leaf a, .leaf b], rfl⟩

/-- The arguments `1` and `23` have the same content as `12` and `3`, and another definition. -/
theorem definition_eq_iff_callOf :
    (callOf "1" "23").content = (callOf "12" "3").content ∧
    (ofTemplate 0 (callOf "1" "23")).name = (ofTemplate 1 (callOf "12" "3")).name ∧
    ((ofTemplate 0 (callOf "1" "23")).definition = (ofTemplate 1 (callOf "12" "3")).definition ↔
      EqualUpToMarker (callOf "1" "23").body.toList (callOf "12" "3").body.toList) ∧
    ((callOf "1" "23").SameCuts (callOf "12" "3") →
      (ofTemplate 0 (callOf "1" "23")).definition = (ofTemplate 1 (callOf "12" "3")).definition) :=
  ⟨by decide +kernel, definition_eq_iff_of_content_eq 0 1 (by decide +kernel)⟩

/-- **Equal contents do not always make equal definitions.** -/
theorem not_definition_eq_of_content_eq :
    ¬ ∀ (i j : Nat) (s t : Template), s.content = t.content →
      (ofTemplate i s).definition = (ofTemplate j t).definition := by
  intro h
  have hcontent : (callOf "1" "23").content = (callOf "12" "3").content := by decide +kernel
  have hdefinition := h 0 1 (callOf "1" "23") (callOf "12" "3") hcontent
  rw [definition_eq_iff (congrArg contentName hcontent)] at hdefinition
  revert hdefinition
  decide +kernel

end Fragment

end QueryWeave
