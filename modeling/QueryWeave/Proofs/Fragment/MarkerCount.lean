/-
**Nothing but the marker is taken away.**

If the first segment of a fragment has a marker, then the first marker of the whole text is the
first one of this segment, and in the definition everything else is as it was.  Wherever the marker
comes from, the definition has one marker less than the text: in front of the first one there cannot
be a dot, so what is left on both sides of it does not make another one.

Main definitions:

* `QueryWeave.markerCount` — the number of markers in a text, from the left.

Main results:

* `QueryWeave.markerCount_append` — in front of which texts no markers are lost or made;
* `QueryWeave.markerCount_dropMarker` — **taking the marker away leaves one less**;
* `QueryWeave.Fragment.definition_without_marker` — **what the definition of a fragment keeps**.
-/

import QueryWeave.Proofs.ContentName
import QueryWeave.Proofs.Fragment.Marker
import QueryWeave.Proofs.Template.Body

set_option relaxedAutoImplicit false
set_option autoImplicit false

namespace QueryWeave

/-! ### Counting markers -/

/-- The number of markers in a text, counted from the left: the dots of one are not counted again
for the next. -/
def markerCount : List Char → Nat
  | '.' :: '.' :: '.' :: rest => markerCount rest + 1
  | _ :: rest => markerCount rest
  | [] => 0

theorem markerCount_marker_append (cs : List Char) :
    markerCount (marker ++ cs) = markerCount cs + 1 := rfl

theorem markerCount_cons {c : Char} {cs : List Char} (h : ¬ marker <+: c :: cs) :
    markerCount (c :: cs) = markerCount cs := by
  rw [markerCount]
  rintro rest rfl rfl
  exact h ⟨rest, rfl⟩

/-- A text without a marker has none to count. -/
theorem markerCount_eq_zero {cs : List Char} (h : ¬ marker <:+: cs) : markerCount cs = 0 := by
  induction cs with
  | nil => rfl
  | cons c cs ih =>
      rw [List.infix_cons_iff, not_or] at h
      rw [markerCount_cons h.1, ih h.2]

/-- In front of a text there may be anything that has no marker with two dots behind it. -/
theorem markerCount_append {before : List Char} (h : ¬ marker <:+: before ++ ['.', '.'])
    (cs : List Char) : markerCount (before ++ cs) = markerCount cs := by
  induction before with
  | nil => rfl
  | cons c before ih =>
      rw [List.cons_append, List.infix_cons_iff, not_or] at h
      have hstart : ¬ marker <+: c :: (before ++ cs) := by
        intro hstart
        -- `cs` can have at most two of the dots
        refine h.1 ?_
        rcases before with _ | ⟨d, _ | ⟨e, before⟩⟩ <;>
          simp only [marker, List.cons_append, List.nil_append, List.cons_prefix_cons,
            List.nil_prefix, and_true] at hstart ⊢
        · exact hstart.1
        · exact ⟨hstart.1, hstart.2.1⟩
        · exact hstart
      rw [List.cons_append, markerCount_cons hstart, ih h.2]

/-- So there may be anything without dots. -/
theorem markerCount_append_of_not_mem {before : List Char} (h : '.' ∉ before) (cs : List Char) :
    markerCount (before ++ cs) = markerCount cs := by
  refine markerCount_append (fun hinfix => ?_) cs
  have hdots := hinfix.sublist.count_le '.'
  rw [List.count_append, List.count_eq_zero.2 h] at hdots
  exact absurd hdots (by decide)

/-! ### One marker less -/

theorem MarkedBetween.markerCount_eq {cs before behind : List Char}
    (h : MarkedBetween cs before behind) : markerCount cs = markerCount behind + 1 := by
  rw [h.eq_append, List.append_assoc, markerCount_append h.first, markerCount_marker_append]

/-- **Taking the marker away leaves one less**, if there is any. -/
theorem markerCount_dropMarker (cs : List Char) :
    markerCount (dropMarker cs) = markerCount cs - 1 := by
  by_cases h : marker <:+: cs
  · obtain ⟨before, behind, hcut⟩ := exists_markedBetween h
    rw [hcut.dropMarker_eq, markerCount_append hcut.first, hcut.markerCount_eq,
      Nat.add_sub_cancel]
  · rw [dropMarker_eq_self h, markerCount_eq_zero h]

/-! ### Definitions -/

/-- The first marker of a text is the first one of a longer text. -/
theorem MarkedBetween.append {cs before behind : List Char} (h : MarkedBetween cs before behind)
    (ds : List Char) : MarkedBetween (cs ++ ds) before (behind ++ ds) where
  eq_append := by rw [h.eq_append, List.append_assoc]
  first := h.first

namespace Fragment

/-- If the first segment has a marker, then the definition has this segment without its first
marker, and behind it all the rest of the text. -/
theorem definition_eq_of_markedBetween {f : Fragment} {first : String} {others : List String}
    (hsegments : f.segments = first :: others) {before behind : List Char}
    (h : MarkedBetween first.toList before behind) :
    f.definition = "fragment " ++ f.name ++ " " ++ String.ofList (before ++ behind) ++
      weave ("" :: others) f.childTexts := by
  have hbody : f.body.toList = first.toList ++ (weave ("" :: others) f.childTexts).toList := by
    rw [body, hsegments, weave_cons, String.toList_append]
  rw [definition, hbody, (h.append _).dropMarker_eq, ← List.append_assoc, String.ofList_append,
    String.ofList_toList, ← String.append_assoc]

/-- What comes in front of the text in a definition has no dots in it. -/
theorem markerCount_definition (serial : Nat) (t : Template) :
    markerCount (ofTemplate serial t).definition.toList =
      markerCount (dropMarker (ofTemplate serial t).body.toList) := by
  have hname := not_dot_mem_contentName t.content
  rw [definition, String.toList_append, String.toList_ofList]
  refine markerCount_append_of_not_mem ?_ _
  simpa [String.toList_append] using hname

/-- **What the definition of a fragment keeps.**  If the first segment has a marker, then the
definition is the keyword, the name, this segment without its first marker, and then all the rest of
the text as it was: the text of the first child, the second segment and so on.  And for every
fragment the definition has one marker less than the text, or none if the text has none. -/
theorem definition_without_marker (serial : Nat) (t : Template) :
    (∀ first others, (ofTemplate serial t).segments = first :: others →
      marker <:+: first.toList → ∃ before behind, MarkedBetween first.toList before behind ∧
        (ofTemplate serial t).definition =
          "fragment " ++ (ofTemplate serial t).name ++ " " ++ String.ofList (before ++ behind) ++
            weave ("" :: others) (ofTemplate serial t).childTexts) ∧
    markerCount (ofTemplate serial t).definition.toList =
      markerCount (ofTemplate serial t).body.toList - 1 := by
  refine ⟨fun first others hsegments hmarker => ?_, ?_⟩
  · obtain ⟨before, behind, hcut⟩ := exists_markedBetween hmarker
    exact ⟨before, behind, hcut, definition_eq_of_markedBetween hsegments hcut⟩
  · rw [markerCount_definition, markerCount_dropMarker]

/-- The first segment has a dot more than the marker, and the first child adds two to it. -/
theorem definition_without_marker_dots :
    marker <:+: "....".toList ∧
    (∃ before behind, MarkedBetween "....".toList before behind ∧
      (ofTemplate 0 ⟨["....", " on A"], [.leaf ".."], rfl⟩).definition =
        "fragment " ++ (ofTemplate 0 ⟨["....", " on A"], [.leaf ".."], rfl⟩).name ++ " " ++
          String.ofList (before ++ behind) ++ weave ["", " on A"] [".."]) ∧
    markerCount (ofTemplate 0 ⟨["....", " on A"], [.leaf ".."], rfl⟩).body.toList = 2 ∧
    markerCount (ofTemplate 0 ⟨["....", " on A"], [.leaf ".."], rfl⟩).definition.toList = 1 := by
  have hmarker : marker <:+: "....".toList := by decide
  have hbody : markerCount
      (ofTemplate 0 ⟨["....", " on A"], [.leaf ".."], rfl⟩).body.toList = 2 := by decide
  have h := definition_without_marker 0 ⟨["....", " on A"], [.leaf ".."], rfl⟩
  exact ⟨hmarker, h.1 _ _ rfl hmarker, hbody, by rw [h.2, hbody]⟩

end Fragment

end QueryWeave
