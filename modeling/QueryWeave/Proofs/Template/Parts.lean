/-
**Templates built part by part.**

Texts and splices can be given one after the other.  The splices of the template are those that were
given, a segment is what was given between two of them, and the text of the template is that of all
parts in a row.  The last segment stays open for more text until a splice closes it, so each segment
is complete when the next one begins.

Any template can be built in this way, from its segments and splices in turn.  In the template it
cannot be seen whether a text was given in one piece or in several, nor whether empty texts were
given; everything else about the parts can.

Main definitions:

* `QueryWeave.Template.Part.written`, `QueryWeave.Template.Part.agrees` — the text of a part, and
  equality of parts by kind and text;
* `QueryWeave.Template.textsBetween` — the texts between the splices;
* `QueryWeave.Template.alternate` — segments and splices in turn;
* `QueryWeave.Template.merged`, `QueryWeave.Template.IsMerged` — parts without empty texts and
  without neighbouring ones.

Main results:

* `QueryWeave.Template.segments_foldl_addPart` — what becomes of the open segment;
* `QueryWeave.Template.segments_ofParts`, `QueryWeave.Template.splices_ofParts`,
  `QueryWeave.Template.body_ofParts` — the template of some parts;
* `QueryWeave.Template.ofLists_eq_ofParts_alternate` — two lists make what is built from them in
  turn;
* `QueryWeave.Template.ofParts_merged` — merging does not change the template;
* `QueryWeave.Template.merged_alternate` — the template tells what its parts are when merged;
* `QueryWeave.Template.ofParts_keeps_parts` — **the template keeps its parts, up to how its texts
  are cut**.
-/

import Mathlib.Data.List.Chain
import Mathlib.Data.List.Forall2
import QueryWeave.Proofs.Template.Body

set_option relaxedAutoImplicit false
set_option autoImplicit false

namespace QueryWeave.Template

/-! ### Parts -/

namespace Part

/-- The text of a part that is text. -/
def text? : Part → Option String
  | .text s => some s
  | .splice _ => none

/-- The splice of a part that is one. -/
def splice? : Part → Option Splice
  | .text _ => none
  | .splice v => some v

/-- Whether a part is a splice. -/
def isSplice (part : Part) : Bool :=
  part.splice?.isSome

/-- The text that a part adds to the text of the template. -/
def written : Part → String
  | .text s => s
  | .splice v => v.name

/-- Two parts agree when they are the same text, or splices that agree. -/
def agrees : Part → Part → Bool
  | .text s, .text t => s == t
  | .splice v, .splice w => v.agrees w
  | _, _ => false

@[simp] theorem splice?_text (s : String) : (text s).splice? = none := rfl

@[simp] theorem splice?_splice (v : Splice) : (splice v).splice? = some v := rfl

theorem agrees_refl (part : Part) : part.agrees part := by
  cases part with
  | text s => exact beq_self_eq_true s
  | splice v => cases v <;> exact beq_self_eq_true _

end Part

/-- The texts between the splices: for each run of parts without a splice, its texts in a row. -/
def textsBetween (parts : List Part) : List String :=
  (parts.splitOnP Part.isSplice).map fun run => String.join (run.filterMap Part.text?)

@[simp] theorem textsBetween_nil : textsBetween [] = [""] := rfl

@[simp] theorem textsBetween_text (text : String) (parts : List Part) :
    textsBetween (.text text :: parts) = (textsBetween parts).modifyHead (text ++ ·) := by
  have hsplit : (Part.text text :: parts).splitOnP Part.isSplice =
      (parts.splitOnP Part.isSplice).modifyHead (.cons (.text text)) :=
    (List.splitOnP_cons_eq_if_modifyHead _ _).trans (if_neg Bool.false_ne_true)
  rw [textsBetween, textsBetween, hsplit]
  cases parts.splitOnP Part.isSplice with
  | nil => rfl
  | cons run runs => simp [Part.text?]

@[simp] theorem textsBetween_splice (splice : Splice) (parts : List Part) :
    textsBetween (.splice splice :: parts) = "" :: textsBetween parts := by
  have hsplit : (Part.splice splice :: parts).splitOnP Part.isSplice =
      [] :: parts.splitOnP Part.isSplice :=
    (List.splitOnP_cons_eq_if_modifyHead _ _).trans (if_pos rfl)
  rw [textsBetween, textsBetween, hsplit]
  rfl

theorem textsBetween_ne_nil (parts : List Part) : textsBetween parts ≠ [] := by
  simp [textsBetween, List.splitOnP_ne_nil]

/-! ### The template of some parts -/

theorem modifyHead_empty_append (segments : List String) :
    segments.modifyHead ("" ++ ·) = segments := by
  cases segments <;> simp

/-- **What becomes of the open segment.**  The texts in front of the first splice go to its end, and
behind it come the texts between the splices. -/
theorem segments_foldl_addPart {t : Template} {front : List String} {last : String}
    (h : t.segments = front ++ [last]) (parts : List Part) :
    (parts.foldl addPart t).segments = front ++ (textsBetween parts).modifyHead (last ++ ·) := by
  induction parts generalizing t front last with
  | nil => simpa using h
  | cons part parts ih =>
      cases part with
      | text text =>
          have hopen : (t.addText text).segments = front ++ [last ++ text] := by
            simp [addText, h]
          rw [List.foldl_cons, addPart, ih hopen, textsBetween_text, List.modifyHead_modifyHead]
          simp only [Function.comp_def, String.append_assoc]
      | splice splice =>
          have hopen : (t.addSplice splice).segments = (front ++ [last]) ++ [""] := by
            simp [addSplice, h]
          rw [List.foldl_cons, addPart, ih hopen, modifyHead_empty_append, textsBetween_splice]
          simp

theorem splices_foldl_addPart (t : Template) (parts : List Part) :
    (parts.foldl addPart t).splices = t.splices ++ parts.filterMap Part.splice? := by
  induction parts generalizing t with
  | nil => simp
  | cons part parts ih =>
      rw [List.foldl_cons, ih]
      cases part with
      | text text => simp [addPart, addText, List.filterMap_cons]
      | splice splice => simp [addPart, addSplice]

/-- The segments are the texts between the splices. -/
theorem segments_ofParts (parts : List Part) : (ofParts parts).segments = textsBetween parts := by
  have hopen : empty.segments = [] ++ [""] := rfl
  rw [ofParts, segments_foldl_addPart hopen, modifyHead_empty_append, List.nil_append]

/-- The splices are those among the parts, in their order. -/
theorem splices_ofParts (parts : List Part) :
    (ofParts parts).splices = parts.filterMap Part.splice? :=
  splices_foldl_addPart empty parts

/-- Parts make one template if they have the same texts between the same splices. -/
theorem ofParts_eq_iff {parts parts' : List Part} : ofParts parts = ofParts parts' ↔
    textsBetween parts = textsBetween parts' ∧
      parts.filterMap Part.splice? = parts'.filterMap Part.splice? := by
  rw [← segments_ofParts, ← segments_ofParts, ← splices_ofParts, ← splices_ofParts]
  cases ofParts parts
  cases ofParts parts'
  rw [mk.injEq]

theorem ofParts_cons_congr (part : Part) {parts parts' : List Part}
    (h : ofParts parts = ofParts parts') : ofParts (part :: parts) = ofParts (part :: parts') := by
  rw [ofParts_eq_iff] at h ⊢
  cases part with
  | text text => simp [List.filterMap_cons, h]
  | splice splice => simp [h]

theorem weave_modifyHead (text : String) {segments : List String} (hne : segments ≠ [])
    (names : List String) :
    weave (segments.modifyHead (text ++ ·)) names = text ++ weave segments names := by
  obtain ⟨segment, segments, rfl⟩ := List.exists_cons_of_ne_nil hne
  rw [List.modifyHead_cons, weave_cons, String.append_assoc, ← weave_cons]

/-- The text of the template is that of its parts in a row. -/
theorem body_ofParts (parts : List Part) :
    (ofParts parts).body = String.join (parts.map Part.written) := by
  rw [body, segments_ofParts, splices_ofParts]
  induction parts with
  | nil => rfl
  | cons part parts ih =>
      cases part with
      | text text =>
          rw [textsBetween_text, weave_modifyHead _ (textsBetween_ne_nil parts)]
          simp [Part.written, List.filterMap_cons, ih]
      | splice splice =>
          simp [Part.written, weave_cons_cons, ih]

/-! ### Segments and splices in turn -/

/-- Segments and splices in turn, as parts; splices behind the last segment are left out. -/
def alternate : List String → List Splice → List Part
  | [], _ => []
  | segment :: segments, [] => .text segment :: alternate segments []
  | segment :: segments, splice :: splices =>
      .text segment :: .splice splice :: alternate segments splices

/-- Two lists that fit together make the template that is built from them in turn. -/
theorem ofLists_eq_ofParts_alternate {segments : List String} {splices : List Splice}
    (h : segments.length = splices.length + 1) :
    ofLists segments splices = .ok (ofParts (alternate segments splices)) := by
  rw [ofLists_eq_ok_iff, segments_ofParts, splices_ofParts]
  induction splices generalizing segments with
  | nil =>
      obtain ⟨segment, rfl⟩ := List.length_eq_one_iff.1 h
      simp [alternate]
  | cons splice splices ih =>
      obtain ⟨segment, segments, rfl⟩ := List.exists_cons_of_length_eq_add_one h
      obtain ⟨hsegments, hsplices⟩ := ih (by simpa using h)
      simp [alternate, List.filterMap_cons, hsegments, hsplices]

/-! ### Merged parts -/

/-- Text in front of parts.  It goes into a text that they begin with, and no text adds nothing. -/
def withText (text : String) (parts : List Part) : List Part :=
  if text = "" then parts
  else
    match parts with
    | [] => [.text text]
    | .text next :: parts => .text (text ++ next) :: parts
    | .splice splice :: parts => .text text :: .splice splice :: parts

/-- The parts with neighbouring texts merged and empty ones dropped. -/
def merged : List Part → List Part
  | [] => []
  | .text text :: parts => withText text (merged parts)
  | .splice splice :: parts => .splice splice :: merged parts

/-- No text is empty, and of two neighbours one is a splice. -/
def IsMerged (parts : List Part) : Prop :=
  (∀ part ∈ parts, part.text? ≠ some "") ∧
    parts.IsChain fun part next => part.isSplice || next.isSplice

@[simp] theorem withText_empty (parts : List Part) : withText "" parts = parts := if_pos rfl

theorem withText_nil {text : String} (h : text ≠ "") : withText text [] = [.text text] := by
  rw [withText, if_neg h]

theorem withText_text (text next : String) (parts : List Part) :
    withText text (.text next :: parts) = .text (text ++ next) :: parts := by
  rw [withText]
  split
  · next h => rw [h, String.empty_append]
  · rfl

theorem withText_splice {text : String} (h : text ≠ "") (splice : Splice) (parts : List Part) :
    withText text (.splice splice :: parts) = .text text :: .splice splice :: parts := by
  rw [withText, if_neg h]

/-- Text comes in front of parts in one piece or in two. -/
theorem withText_withText (text text' : String) (parts : List Part) :
    withText text (withText text' parts) = withText (text ++ text') parts := by
  by_cases h' : text' = ""
  · rw [h', withText_empty, String.append_empty]
  · have h : text ++ text' ≠ "" := fun h => h' (String.append_eq_empty_iff.1 h).2
    match parts with
    | [] => rw [withText_nil h', withText_text, withText_nil h]
    | .text next :: parts => rw [withText_text, withText_text, withText_text, String.append_assoc]
    | .splice splice :: parts => rw [withText_splice h', withText_text, withText_splice h]

/-- Text in front of parts makes the same template as one part more. -/
theorem ofParts_withText (text : String) (parts : List Part) :
    ofParts (withText text parts) = ofParts (.text text :: parts) := by
  by_cases h : text = ""
  · rw [h, withText_empty, ofParts_eq_iff]
    refine ⟨?_, rfl⟩
    rw [textsBetween_text, modifyHead_empty_append]
  · match parts with
    | [] => rw [withText_nil h]
    | .text next :: parts =>
        rw [withText_text, ofParts_eq_iff]
        refine ⟨?_, rfl⟩
        simp only [textsBetween_text, List.modifyHead_modifyHead, Function.comp_def,
          String.append_assoc]
    | .splice splice :: parts => rw [withText_splice h]

/-- **Merging does not change the template.** -/
theorem ofParts_merged (parts : List Part) : ofParts (merged parts) = ofParts parts := by
  induction parts with
  | nil => rfl
  | cons part parts ih =>
      cases part with
      | text text => rw [merged, ofParts_withText, ofParts_cons_congr _ ih]
      | splice splice => rw [merged, ofParts_cons_congr _ ih]

theorem IsMerged.withText {parts : List Part} (h : IsMerged parts) (text : String) :
    IsMerged (withText text parts) := by
  by_cases htext : text = ""
  · rwa [htext, withText_empty]
  · obtain ⟨hne, hchain⟩ := h
    match parts with
    | [] =>
        rw [withText_nil htext]
        exact ⟨by simpa [Part.text?] using htext, .singleton _⟩
    | .text next :: parts =>
        rw [withText_text]
        refine ⟨?_, List.isChain_cons.2 (List.isChain_cons.1 hchain)⟩
        have happend : text ++ next ≠ "" := fun h => htext (String.append_eq_empty_iff.1 h).1
        simpa [Part.text?, happend] using (List.forall_mem_cons.1 hne).2
    | .splice splice :: parts =>
        rw [withText_splice htext]
        refine ⟨List.forall_mem_cons.2 ⟨?_, hne⟩, .cons_cons rfl hchain⟩
        simpa [Part.text?] using htext

/-- In merged parts no text is empty, and no text comes right behind another. -/
theorem isMerged_merged (parts : List Part) : IsMerged (merged parts) := by
  induction parts with
  | nil => exact ⟨nofun, .nil⟩
  | cons part parts ih =>
      cases part with
      | text text => exact ih.withText text
      | splice splice =>
          refine ⟨List.forall_mem_cons.2 ⟨nofun, ih.1⟩, List.isChain_cons.2 ⟨?_, ih.2⟩⟩
          exact fun next _ => rfl

/-- **The template tells what its parts are when merged**: its segments and splices in turn, without
the empty segments. -/
theorem merged_alternate (parts : List Part) :
    merged (alternate (textsBetween parts) (parts.filterMap Part.splice?)) = merged parts := by
  induction parts with
  | nil => rfl
  | cons part parts ih =>
      cases part with
      | text text =>
          rw [textsBetween_text, merged, ← ih]
          obtain ⟨first, others, hfirst⟩ := List.exists_cons_of_ne_nil (textsBetween_ne_nil parts)
          rw [hfirst, List.modifyHead_cons, List.filterMap_cons_none (Part.splice?_text text)]
          -- the text goes into the first segment, whether or not a splice comes behind it
          cases parts.filterMap Part.splice? with
          | nil => rw [alternate, alternate, merged, merged, withText_withText]
          | cons splice splices => rw [alternate, alternate, merged, merged, withText_withText]
      | splice splice =>
          rw [textsBetween_splice, List.filterMap_cons_some (Part.splice?_splice splice), alternate,
            merged, withText_empty, merged, merged, ih]

/-! ### Agreement -/

theorem agrees_iff {s t : Template} : s.agrees t = true ↔ s.segments = t.segments ∧
    List.Forall₂ (fun v w => v.agrees w) s.splices t.splices := by
  simp [agrees, List.forall₂_iff_zip, and_assoc]

/-- Parts that agree make templates that agree. -/
theorem agrees_ofParts {parts parts' : List Part}
    (h : List.Forall₂ (fun part part' => part.agrees part') parts parts') :
    (ofParts parts).agrees (ofParts parts') := by
  rw [agrees_iff, segments_ofParts, segments_ofParts, splices_ofParts, splices_ofParts]
  induction h with
  | nil => exact ⟨rfl, .nil⟩
  | @cons part part' parts parts' hpart _ ih =>
      obtain ⟨htexts, hsplices⟩ := ih
      match part, part', hpart with
      | .text text, .text text', hpart =>
          rw [textsBetween_text, textsBetween_text, htexts, beq_iff_eq.1 hpart]
          exact ⟨rfl, hsplices⟩
      | .splice splice, .splice splice', hpart =>
          rw [textsBetween_splice, textsBetween_splice, htexts]
          exact ⟨rfl, .cons hpart hsplices⟩

/-- Equal segments and splices that agree are merged alike. -/
theorem merged_alternate_agrees (segments : List String) {splices splices' : List Splice}
    (h : List.Forall₂ (fun v w => v.agrees w) splices splices') :
    List.Forall₂ (fun part part' => part.agrees part') (merged (alternate segments splices))
      (merged (alternate segments splices')) := by
  induction h generalizing segments with
  | nil => exact List.forall₂_same.2 fun part _ => part.agrees_refl
  | @cons splice splice' splices splices' hsplice _ ih =>
      cases segments with
      | nil => exact .nil
      | cons segment segments =>
          rw [alternate, alternate, merged, merged, merged, merged]
          by_cases hempty : segment = ""
          · rw [hempty, withText_empty, withText_empty]
            exact .cons hsplice (ih segments)
          · rw [withText_splice hempty, withText_splice hempty]
            exact .cons (Part.agrees_refl _) (.cons hsplice (ih segments))

/-- **The template keeps its parts, up to how its texts are cut.**  Of some parts it has all
splices, in their order, and one segment more than these: the texts in front of the first splice,
those between each two neighbours, and those behind the last one, put together.  Its text is that of
all parts in a row.  Two lists make a template exactly if their lengths fit, and then the one that
is built from them in turn.  Merging neighbouring texts and dropping empty ones does not change the
template, and the templates of two lists of parts agree exactly if the parts agree one by one after
that. -/
theorem ofParts_keeps_parts :
    (∀ parts, (ofParts parts).segments.length = parts.countP Part.isSplice + 1 ∧
      (ofParts parts).splices = parts.filterMap Part.splice? ∧
      (ofParts parts).segments =
        (parts.splitOnP Part.isSplice).map (fun run => String.join (run.filterMap Part.text?)) ∧
      (ofParts parts).body = String.join (parts.map Part.written)) ∧
    (∀ segments splices t, ofLists segments splices = .ok t ↔
      segments.length = splices.length + 1 ∧ ofParts (alternate segments splices) = t) ∧
    (∀ parts, IsMerged (merged parts) ∧ ofParts (merged parts) = ofParts parts) ∧
    ∀ parts parts', (ofParts parts).agrees (ofParts parts') ↔
      List.Forall₂ (fun part part' => part.agrees part') (merged parts) (merged parts') := by
  refine ⟨fun parts => ⟨?_, splices_ofParts parts, segments_ofParts parts, body_ofParts parts⟩,
    fun segments splices t => ⟨fun h => ?_, fun ⟨hlength, h⟩ => ?_⟩,
    fun parts => ⟨isMerged_merged parts, ofParts_merged parts⟩, fun parts parts' => ?_⟩
  · rw [length_segments, splices_ofParts, List.length_filterMap_eq_countP]
    rfl
  · obtain ⟨rfl, rfl⟩ := ofLists_eq_ok_iff.1 h
    rw [ofLists_eq_ofParts_alternate t.length_segments] at h
    exact ⟨t.length_segments, Except.ok.inj h⟩
  · rw [← h]
    exact ofLists_eq_ofParts_alternate hlength
  · constructor
    · intro h
      rw [agrees_iff, segments_ofParts, segments_ofParts, splices_ofParts, splices_ofParts] at h
      rw [← merged_alternate parts, ← merged_alternate parts', h.1]
      exact merged_alternate_agrees _ h.2
    · intro h
      rw [← ofParts_merged parts, ← ofParts_merged parts']
      exact agrees_ofParts h

/-- Two texts make one segment, and there is an empty one between two splices and behind them. -/
example : (ofParts [.text "a", .text "b", .splice (.leaf "1"), .splice (.leaf "2")]).segments =
    ["ab", "", ""] := by
  decide

end QueryWeave.Template
