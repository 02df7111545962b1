/-
**The text of a template.**

Names go with segments from the front, one to each, so interleaving can be cut behind any segment:
what comes before uses as many names as it has segments, and the rest goes on with the names that
are left.  Cut in front of the last segment, this tells what becomes of a text that is appended to
that segment.  If there are fewer names than segments, nothing comes behind the last segment, and
the text ends all that is written.  If there are at least as many, the last segment has a name
behind it, and the text comes in front of that name.

A template has one segment more than splices, so interleaving them ends with a whole segment.  For
this reason the text of a document is the text of its template, followed by the definitions.

Main results:

* `QueryWeave.weave_append_eq` — interleaving cut behind any segment;
* `QueryWeave.weave_append` — two interleavings in a row;
* `QueryWeave.weave_appendLast` — **appending to the last segment is appending to the text**, with
  fewer names than segments;
* `QueryWeave.exists_weave_appendLast` — with more, what is appended comes in front of the last name
  that is used;
* `QueryWeave.Template.documentText_eq` — the document is the body, then all definitions;
* `QueryWeave.Template.definitions_end_documentText` — **why the definitions end the document**;
* `QueryWeave.Template.ofLists_eq_ok_iff`, `QueryWeave.Template.ofLists_eq_error_iff` — when two
  lists make a template, and which, and when they do not.
-/

import Mathlib.Data.List.Basic
import QueryWeave.Proofs.Result
import QueryWeave.Template.Basic
import QueryWeave.Template.Document

set_option relaxedAutoImplicit false
set_option autoImplicit false

namespace QueryWeave

/-! ### Interleaving in pieces -/

theorem weave_cons_cons (segment name : String) (segments names : List String) :
    weave (segment :: segments) (name :: names) = segment ++ name ++ weave segments names := rfl

/-- Interleaving begins with the first segment. -/
theorem weave_cons (segment : String) (segments names : List String) :
    weave (segment :: segments) names = segment ++ weave ("" :: segments) names := by
  cases names with
  | nil => simp [weave]
  | cons name names => simp [weave, String.append_assoc]

/-- Interleaving, cut behind any segment: each part gets the names that go with its segments. -/
theorem weave_append_eq (segments segments' names : List String) :
    weave (segments ++ segments') names =
      weave segments (names.take segments.length) ++
        weave segments' (names.drop segments.length) := by
  induction segments generalizing names with
  | nil => simp
  | cons segment segments ih =>
      cases names with
      | nil => simp [weave, ih, String.append_assoc]
      | cons name names => simp [weave, ih, String.append_assoc]

/-- Where a name comes behind each of the first segments, there are two interleavings in a row. -/
theorem weave_append {segments names : List String} (h : segments.length = names.length)
    (segments' names' : List String) :
    weave (segments ++ segments') (names ++ names') =
      weave segments names ++ weave segments' names' := by
  rw [weave_append_eq, h, List.take_left, List.drop_left]

/-- With fewer names than segments, what is appended to the last segment ends the text. -/
theorem weave_appendLast {segments names : List String} (text : String)
    (h : names.length < segments.length) :
    weave (appendLast segments text) names = weave segments names ++ text := by
  obtain rfl | ⟨front, last, rfl⟩ := segments.eq_nil_or_concat'
  · cases h
  · have hnames : names.drop front.length = [] :=
      List.drop_eq_nil_of_le (by simpa [Nat.lt_succ_iff] using h)
    rw [appendLast_append_singleton, weave_append_eq, weave_append_eq, hnames, weave_singleton,
      weave_singleton, String.append_assoc]

/-- With no fewer names than segments, the last segment has a name behind it, the last one that is
used, and what is appended to the segment comes in front of this name. -/
theorem exists_weave_appendLast {segments names : List String} (hne : segments ≠ [])
    (h : segments.length ≤ names.length) :
    ∃ front name, (names.take segments.length).getLast? = some name ∧
      weave segments names = front ++ name ∧
      ∀ text, weave (appendLast segments text) names = front ++ text ++ name := by
  obtain ⟨front, last, rfl⟩ := segments.eq_nil_or_concat'.resolve_left hne
  rw [List.length_append, List.length_singleton] at h ⊢
  have hlast (segment : String) : weave [segment] (names.drop front.length) =
      segment ++ names[front.length] := by
    rw [List.drop_eq_getElem_cons h, weave_cons_cons, weave_nil, String.append_empty]
  refine ⟨weave front (names.take front.length) ++ last, names[front.length], ?_, ?_, ?_⟩
  · rw [List.take_succ_eq_append_getElem h, List.getLast?_concat]
  · rw [weave_append_eq, hlast, String.append_assoc]
  · intro text
    rw [appendLast_append_singleton, weave_append_eq, hlast]
    simp only [String.append_assoc]

end QueryWeave

namespace QueryWeave.Template

/-! ### Templates -/

/-- The text of a document is the body of its template, and behind it the definitions. -/
theorem documentText_eq (t : Template) : t.documentText = t.body ++ t.definitions :=
  weave_appendLast t.definitions (by simp [t.length_segments])

/-- **The definitions end the document.**  What is appended to the last of some segments before
interleaving ends the text if there are fewer names than segments.  Otherwise it comes in front of
the last name that is used, and this is all that changes.  Where a name comes behind each of the
first segments, there are two interleavings in a row.  And a template has one segment more than
splices, so all definitions stand in one piece at the very end of its document. -/
theorem definitions_end_documentText :
    (∀ (segments names : List String) (text : String), names.length < segments.length →
      weave (appendLast segments text) names = weave segments names ++ text) ∧
    (∀ segments names : List String, segments ≠ [] → segments.length ≤ names.length →
      ∃ front name, (names.take segments.length).getLast? = some name ∧
        weave segments names = front ++ name ∧
        ∀ text, weave (appendLast segments text) names = front ++ text ++ name) ∧
    (∀ segments names segments' names' : List String, segments.length = names.length →
      weave (segments ++ segments') (names ++ names') =
        weave segments names ++ weave segments' names') ∧
    ∀ t : Template, t.documentText =
      t.body ++ "\n".intercalate (t.fragments.map Fragment.definition) := by
  refine ⟨fun segments names text h => ?_, fun segments names hne h => ?_,
    fun segments names segments' names' h => ?_, documentText_eq⟩
  · exact weave_appendLast text h
  · exact exists_weave_appendLast hne h
  · exact weave_append h segments' names'

/-- Too few names, too many, and as many as the first segments. -/
theorem definitions_end_documentText_letters :
    (["1"].length < ["a", "b", "c"].length ∧
      weave (appendLast ["a", "b", "c"] "x") ["1"] = weave ["a", "b", "c"] ["1"] ++ "x") ∧
    (["a", "b"] ≠ [] ∧ ["a", "b"].length ≤ ["1", "2", "3"].length ∧
      ∃ front name, (["1", "2", "3"].take ["a", "b"].length).getLast? = some name ∧
        weave ["a", "b"] ["1", "2", "3"] = front ++ name ∧
        ∀ text, weave (appendLast ["a", "b"] text) ["1", "2", "3"] = front ++ text ++ name) ∧
    ["a", "b"].length = ["1", "2"].length ∧
    weave (["a", "b"] ++ ["c", "d"]) (["1", "2"] ++ ["3"]) =
      weave ["a", "b"] ["1", "2"] ++ weave ["c", "d"] ["3"] := by
  obtain ⟨hfewer, hmore, happend, -⟩ := definitions_end_documentText
  have hlt : ["1"].length < ["a", "b", "c"].length := by decide
  have hne : ["a", "b"] ≠ [] := by decide
  have hle : ["a", "b"].length ≤ ["1", "2", "3"].length := by decide
  have heq : ["a", "b"].length = ["1", "2"].length := rfl
  exact ⟨⟨hlt, hfewer _ _ "x" hlt⟩, ⟨hne, hle, hmore _ _ hne hle⟩, heq,
    happend _ _ ["c", "d"] ["3"] heq⟩

/-- Two lists make a template when their lengths fit, and it holds just these lists. -/
theorem ofLists_eq_ok_iff {segments : List String} {splices : List Splice} {t : Template} :
    ofLists segments splices = .ok t ↔ t.segments = segments ∧ t.splices = splices := by
  obtain ⟨segments', splices', hlength⟩ := t
  unfold ofLists
  constructor
  · intro h
    split at h
    · cases h
      exact ⟨rfl, rfl⟩
    · cases h
  · rintro ⟨rfl, rfl⟩
    rw [dif_pos hlength]

/-- Two lists make no template when their lengths do not fit, and then the lengths are told. -/
theorem ofLists_eq_error_iff {segments : List String} {splices : List Splice}
    {mismatch : CountMismatch} : ofLists segments splices = .error mismatch ↔
      segments.length ≠ splices.length + 1 ∧ mismatch = ⟨segments.length, splices.length⟩ := by
  unfold ofLists
  split
  · next h => exact ⟨nofun, fun hne => absurd h hne.1⟩
  · next h =>
      constructor
      · intro heq
        cases heq
        exact ⟨h, rfl⟩
      · rintro ⟨-, rfl⟩
        rfl

end QueryWeave.Template
