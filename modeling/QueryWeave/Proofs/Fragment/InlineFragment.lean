/-
**From an inline fragment to a definition.**

A fragment is written as an inline fragment, which is read in the braces of a selection set.  Its
definition is read as the definition of the same fragment: with the type, the directives and the
selections of the inline fragment, and with the name that was made for it.  But this is so only if
the marker that is taken away is that of the inline fragment.  If a comment in front of it has three
dots in a row, then these are taken away, the inline fragment keeps its marker, and the definition
is not read at all.

Main results:

* `QueryWeave.GraphQL.Definition.Readable.fragment_of_inline` — what is read behind the type
  condition is the same in both;
* `QueryWeave.GraphQL.tokens?_of_enclosed` — what stands in braces of its own lines;
* `QueryWeave.GraphQL.tokens?_dropMarker_of_not_infix`,
  `QueryWeave.GraphQL.tokens?_dropMarker_of_infix` — what taking the marker away does to the tokens;
* `QueryWeave.Fragment.parse_definition_of_inline` — **what is read from the definition**;
* `QueryWeave.Fragment.not_parse_definition_of_inline` — behind a comment with dots it is not read.
-/

import Mathlib
import QueryWeave.Proofs.ContentName
import QueryWeave.Proofs.GraphQL.Joining
import QueryWeave.Proofs.GraphQL.LineFeeds
import QueryWeave.Proofs.Template.Body

set_option relaxedAutoImplicit false
set_option autoImplicit false

namespace QueryWeave

namespace GraphQL

/-! ### Behind the type condition -/

namespace Reader

variable {ts rest : List Token}

/-- A single selection in braces is read in front of the brace that closes them. -/
theorem selection_of_selections {s : Selection} (h : selections ts = .ok ([s], rest)) :
    selection ts = .ok (s, .closeBrace :: rest) := by
  rw [selections_eq] at h
  obtain ⟨⟨s', ts'⟩, hs, hmore⟩ := Result.bind_eq_ok_iff.1 h
  dsimp only at hmore
  by_cases hclose : ∃ rest', ts' = .closeBrace :: rest'
  · obtain ⟨rest', rfl⟩ := hclose
    rw [ifNext_cons_self] at hmore
    cases hmore
    exact hs
  · rw [ifNext_of_ne_cons fun rest' h' => hclose ⟨rest', h'⟩] at hmore
    obtain ⟨⟨ss, ts''⟩, hss, hdone⟩ := Result.bind_eq_ok_iff.1 hmore
    cases hdone
    exact absurd rfl (selections_ne_nil hss)

theorem selection_on (type : String) (ts : List Token) :
    selection (.ellipsis :: .name "on" :: .name type :: ts) = inlineTail (some type) ts := by
  rw [selection_eq, byNext_cons_of_some rfl, byNext_cons_of_some rfl, if_pos rfl, name_eq]
  rfl

theorem definition_fragment (n type : String) (ts : List Token) :
    definition (.name "fragment" :: .name n :: .name "on" :: .name type :: ts) =
      (directives.andThen fun ds => selectionSet.andThen fun ss =>
        done (.fragment n type ds ss)) ts := by
  rw [definition_eq, byNext_cons_of_some rfl, fragmentTail_eq, name_eq, token_eq]
  rfl

/-- Behind the type condition of an inline fragment stand its directives and a set of selections. -/
theorem exists_of_inlineTail {type? type?' : Option String} {ds : List Directive}
    {ss : List Selection} (h : inlineTail type? ts = .ok (.inline type?' ds ss, rest)) :
    ∃ ts', directives ts = .ok (ds, ts') ∧ selectionSet ts' = .ok (ss, rest) := by
  rw [inlineTail_eq] at h
  obtain ⟨⟨ds', ts'⟩, hds, hset⟩ := Result.bind_eq_ok_iff.1 h
  dsimp only at hset
  by_cases hopen : ∃ behind, ts' = .openBrace :: behind
  · obtain ⟨behind, rfl⟩ := hopen
    rw [ifNext_cons_self] at hset
    obtain ⟨⟨ss', rest'⟩, hss, hdone⟩ := Result.bind_eq_ok_iff.1 hset
    cases hdone
    refine ⟨_, hds, ?_⟩
    rw [selectionSet_eq, ifNext_cons_self]
    exact hss
  · rw [ifNext_of_ne_cons fun behind h' => hopen ⟨behind, h'⟩] at hset
    cases hset

end Reader

section Readable

variable {type : String} {ds : List Directive} {ss : List Selection}

theorem tokens_inline :
    (Selection.inline (some type) ds ss).tokens =
      .ellipsis :: .name "on" :: .name type :: (directiveTokens ds ++ bracedTokens ss) := rfl

/-- **What is read as an inline fragment is read as the definition of a fragment**, of any name. -/
theorem Definition.Readable.fragment_of_inline (n : String)
    (h : (Definition.selectionSet [.inline (some type) ds ss]).Readable) :
    (Definition.fragment n type ds ss).Readable := by
  have hread := h []
  rw [Definition.tokens, bracedTokens, selectionTokens, selectionTokens, List.append_nil,
    List.append_nil, Reader.definition_eq, Reader.byNext_cons_of_some rfl] at hread
  obtain ⟨⟨ss', rest⟩, hselections, hdone⟩ := Result.bind_eq_ok_iff.1 hread
  cases hdone
  have hselection := Reader.selection_of_selections hselections
  rw [tokens_inline, List.cons_append, List.cons_append, List.cons_append,
    Reader.selection_on] at hselection
  obtain ⟨ts, hds, hset⟩ := Reader.exists_of_inlineTail hselection
  have hfragment : Reader.definition ((Definition.fragment n type ds ss).tokens ++ [.closeBrace]) =
      .ok (.fragment n type ds ss, [.closeBrace]) := by
    rw [Definition.tokens, List.cons_append, List.cons_append, List.cons_append, List.cons_append,
      Reader.definition_fragment, Reader.andThen, hds]
    dsimp only [Except.bind]
    rw [Reader.andThen, hset]
    rfl
  exact (definition_eq_ok_iff.1 hfragment).2

end Readable

/-! ### Texts around a body -/

/-- **What stands in braces of its own lines** is read there as selections. -/
theorem tokens?_of_enclosed {text : String} {ss : List Selection}
    (h : Document.parse ("\x7b\n" ++ text ++ "\n\x7d") = .ok ⟨[.selectionSet ss]⟩) :
    (scanFrom 1 text.toList).tokens? = some (selectionTokens ss) := by
  obtain ⟨hts, -, -⟩ := Document.parse_eq_ok_iff.1 h
  have htext : ("\x7b\n" ++ text ++ "\n\x7d").toList =
      '{' :: '\n' :: (text.toList ++ '\n' :: ['}']) := by
    simp
  rw [htext, scan, tokens?_scanFrom] at hts
  obtain ⟨opened, hopened, hts⟩ := Option.bind_eq_some_iff.1 hts
  cases hopened
  obtain ⟨ts, hts, heq⟩ := Option.map_eq_some_iff.1 hts
  have hinner : (scanFrom 1 (text.toList ++ '\n' :: ['}'])).tokens? = some ts := by
    rw [← hts]
    exact tokens?_congr rfl
  rw [tokens?_lineFeed (by decide)] at hinner
  obtain ⟨own, hown, hinner⟩ := Option.bind_eq_some_iff.1 hinner
  obtain ⟨opened, -, hinner⟩ := Option.bind_eq_some_iff.1 hinner
  have hclose : (scanFrom opened ['}']).tokens? = some [.closeBrace] := by
    rw [tokens?_scanFrom]
    simp [splitGap, isIgnored, scanToken, Token.punctuator?, openBracketsAfter, Token.isOpening,
      Token.isClosing, Scan.tokens?, Scan.tokens]
  rw [hclose, Option.map_some] at hinner
  cases hinner
  have hbraced : Token.openBrace :: (own ++ [.closeBrace]) =
      .openBrace :: (selectionTokens ss ++ [.closeBrace]) := by
    simpa [Definition.tokens, bracedTokens] using heq
  rw [hown, List.append_cancel_right (List.cons.inj hbraced).2]

/-- The keyword of a fragment and its name come in front of what follows. -/
theorem tokens?_fragment {name : List Char} (h : isName name = true) (cs : List Char) :
    (scan ("fragment".toList ++ ' ' :: (name ++ ' ' :: cs))).tokens? =
      (scan cs).tokens?.map fun ts =>
        .name "fragment" :: .name (String.ofList name) :: ts := by
  have hblank : ∀ ds, (scanFrom 0 (' ' :: ds)).tokens? = (scanFrom 0 ds).tokens? :=
    fun _ => tokens?_congr rfl
  rw [scan, tokens?_name rfl rfl, hblank, tokens?_name h rfl, hblank, Option.map_map]
  rfl

/-- Behind the name of a fragment comes its type condition, and no marker. -/
theorem not_parse_of_ellipsis {text name : String} {ts : List Token}
    (h : (scan text.toList).tokens? = some (.name "fragment" :: .name name :: .ellipsis :: ts))
    (document : Document) : Document.parse text ≠ .ok document := by
  intro hparse
  obtain ⟨definitions⟩ := document
  obtain ⟨hts, hne, -⟩ := Document.parse_eq_ok_iff.1 hparse
  rw [h] at hts
  obtain ⟨d, ds, rfl⟩ := List.exists_cons_of_ne_nil hne
  have heq := Option.some_inj.1 hts
  cases d with
  | selectionSet ss => cases heq
  | operation kind _ _ _ _ =>
      have hkeyword : Token.name "fragment" = .name kind.keyword := (List.cons.inj heq).1
      exact absurd (Token.name.inj hkeyword) (by cases kind <;> decide)
  | fragment n type ds ss => cases heq

/-! ### The marker at the front -/

section DropMarker

variable {opened : Nat} {cs : List Char} {ts : List Token}

/-- If no comment in front of it has a marker, then the marker that is taken away is the first
token. -/
theorem tokens?_dropMarker_of_not_infix
    (h : (scanFrom opened cs).tokens? = some (.ellipsis :: ts))
    (hmarker : ¬ marker <:+: (splitGap cs).1) :
    (scanFrom opened (dropMarker cs)).tokens? = some ts := by
  obtain ⟨rest, hsplit, hgap, hrest⟩ := exists_of_tokens?_ellipsis h
  have hcut : MarkedBetween cs (splitGap cs).1 rest :=
    ⟨by rw [List.append_assoc]; exact hsplit, hgap.marker_first hmarker⟩
  rw [hcut.dropMarker_eq, tokens?_congr (hgap.splitGap_append rest)]
  exact hrest

/-- Otherwise it is taken from the comment, and all tokens stay. -/
theorem tokens?_dropMarker_of_infix
    (h : (scanFrom opened cs).tokens? = some (.ellipsis :: ts))
    (hmarker : marker <:+: (splitGap cs).1) :
    (scanFrom opened (dropMarker cs)).tokens? = some (.ellipsis :: ts) := by
  obtain ⟨rest, hsplit, hgap, -⟩ := exists_of_tokens?_ellipsis h
  obtain ⟨before, behind, heq, hfirst⟩ := exists_markedBetween hmarker
  rw [heq] at hsplit hgap
  have hcut : MarkedBetween cs before (behind ++ (marker ++ rest)) :=
    ⟨by rw [hsplit, List.append_assoc], hfirst⟩
  have hsame : (splitGap (dropMarker cs)).2 = (splitGap cs).2 := by
    rw [hcut.dropMarker_eq, ← List.append_assoc, hgap.without_marker.splitGap_append, hsplit,
      hgap.splitGap_append]
  rw [tokens?_congr hsame, h]

end DropMarker

end GraphQL

namespace Fragment

open GraphQL

/-! ### The definition -/

/-- The tokens of a definition are the keyword, the name, and those of the body without a marker. -/
theorem tokens?_definition (serial : Nat) (t : Template) :
    (scan (ofTemplate serial t).definition.toList).tokens? =
      (scan (dropMarker t.body.toList)).tokens?.map fun ts =>
        .name "fragment" :: .name (ofTemplate serial t).name :: ts := by
  have htext : (ofTemplate serial t).definition.toList = "fragment".toList ++
      ' ' :: ((contentName t.content).toList ++ ' ' :: dropMarker t.body.toList) := by
    simp [definition, Template.body, Fragment.body, childTexts]
  rw [htext, tokens?_fragment (isName_contentName _), String.ofList_toList]
  rfl

/-- **What is read from the definition** of a fragment whose body is read, in braces, as an inline
fragment.  If what is ignored in front of the inline fragment has no marker in it, then the
definition is read as that of a fragment with the same type, directives and selections, under the
name that was made for it.  Otherwise no document is read from it. -/
theorem parse_definition_of_inline (serial : Nat) (t : Template) (type : String)
    (directives : List Directive) (selections : List Selection)
    (h : Document.parse ("\x7b\n" ++ t.body ++ "\n\x7d") =
      .ok ⟨[.selectionSet [.inline (some type) directives selections]]⟩) :
    (¬ marker <:+: (splitGap t.body.toList).1 →
      Document.parse (ofTemplate serial t).definition =
        .ok ⟨[.fragment (ofTemplate serial t).name type directives selections]⟩) ∧
    (marker <:+: (splitGap t.body.toList).1 →
      ∀ document, Document.parse (ofTemplate serial t).definition ≠ .ok document) := by
  have hbody := tokens?_mono (Nat.zero_le 1) (tokens?_of_enclosed h)
  rw [selectionTokens, selectionTokens, List.append_nil, tokens_inline] at hbody
  have hdefinition := tokens?_definition serial t
  constructor
  · intro hmarker
    rw [scan, scan, tokens?_dropMarker_of_not_infix hbody hmarker] at hdefinition
    obtain ⟨-, -, hreads⟩ := Document.parse_eq_ok_iff.1 h
    have hread := hreads _ List.mem_cons_self
    refine Document.parse_eq_ok_iff.2 ⟨?_, List.cons_ne_nil _ _,
      List.forall_mem_singleton.2 (hread.fragment_of_inline _)⟩
    rw [scan, hdefinition, List.flatMap_singleton]
    rfl
  · intro hmarker
    rw [scan, scan, tokens?_dropMarker_of_infix hbody hmarker] at hdefinition
    exact not_parse_of_ellipsis hdefinition

/-! ### Comments in front of the marker -/

/-- A fragment of the root with a comment on a line of its own in front of it. -/
def commented (comment : String) : Template :=
  .ofText ("# " ++ comment ++ "\n... on Query { id }")

/-- The selections of that fragment. -/
def commentedSelections : List Selection :=
  [.field none "id" [] [] []]

/-- The dots in a comment are no part of the body that is read. -/
theorem parse_commented_dots :
    Document.parse ("\x7b\n" ++ (commented "see ...").body ++ "\n\x7d") =
      .ok ⟨[.selectionSet [.inline (some "Query") [] commentedSelections]]⟩ := by
  cbv

/-- A comment without dots is kept, and the definition is read; behind a comment with dots it is
not read. -/
theorem parse_definition_commented :
    Document.parse (ofTemplate 0 (commented "the root")).definition =
      .ok ⟨[.fragment "fragment_rm66fs" "Query" [] commentedSelections]⟩ ∧
    ∀ document, Document.parse (ofTemplate 0 (commented "see ...")).definition ≠ .ok document := by
  have hname : (ofTemplate 0 (commented "the root")).name = "fragment_rm66fs" := by decide +kernel
  have hroot : Document.parse ("\x7b\n" ++ (commented "the root").body ++ "\n\x7d") =
      .ok ⟨[.selectionSet [.inline (some "Query") [] commentedSelections]]⟩ := by
    cbv
  refine ⟨?_, (parse_definition_of_inline 0 _ _ _ _ parse_commented_dots).2 (by decide +kernel)⟩
  rw [← hname]
  exact (parse_definition_of_inline 0 _ _ _ _ hroot).1 (by decide +kernel)

/-- **Behind a comment with dots a definition is not read.**  It is not true that the definition of
each fragment whose body is read as an inline fragment is read as that of the same fragment. -/
theorem not_parse_definition_of_inline :
    ¬ ∀ (serial : Nat) (t : Template) (type : String) (directives : List Directive)
        (selections : List Selection),
      Document.parse ("\x7b\n" ++ t.body ++ "\n\x7d") =
        .ok ⟨[.selectionSet [.inline (some type) directives selections]]⟩ →
      Document.parse (ofTemplate serial t).definition =
        .ok ⟨[.fragment (ofTemplate serial t).name type directives selections]⟩ := by
  intro h
  have htext : (ofTemplate 0 (commented "see ...")).definition =
      "fragment fragment_5vcaki # see \n... on Query { id }" := by
    decide +kernel
  have hstuck : Document.parse (ofTemplate 0 (commented "see ...")).definition =
      .error ⟨⟨2, 1⟩⟩ := by
    rw [htext]
    cbv
  have hread := h 0 _ _ _ _ parse_commented_dots
  rw [hstuck] at hread
  cases hread

end Fragment

end QueryWeave
