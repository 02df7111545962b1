/-
**Between the body and the definitions.**

The definitions that a template needs come right behind its body, with nothing in between.  If the
body is a document and each definition is one, the whole is a document that says what its parts
say, in their order, unless the body ends within a comment.  In that case the comment goes on
through the first line of the definitions, and this line is not read; a definition of one line is
lost altogether, and without any error.

Main definitions:

* `QueryWeave.Template.Defines` — each definition that a template needs is a document of its own.

Main results:

* `QueryWeave.Template.parse_documentText` — **what is read from an assembled document**;
* `QueryWeave.Template.not_parse_documentText` — behind a comment a definition is lost.
-/

import Mathlib
import QueryWeave.Proofs.GraphQL.Joining
import QueryWeave.Proofs.Template.Body

set_option relaxedAutoImplicit false
set_option autoImplicit false

namespace QueryWeave.Template

open GraphQL

/-! ### Reading what was assembled -/

section Parse

variable {t : Template} {body definitions : List Definition}

/-- Each of the definitions that a template needs is read on its own as one definition. -/
def Defines (t : Template) (definitions : List Definition) : Prop :=
  List.Forall₂ (fun f d => Document.parse f.definition = .ok ⟨[d]⟩) t.fragments definitions

theorem Defines.forall₂ (h : t.Defines definitions) :
    List.Forall₂ (fun text d => Document.parse text = .ok ⟨[d]⟩)
      (t.fragments.map Fragment.definition) definitions :=
  List.forall₂_map_left_iff.2 h

/-- Where the body does not end within a comment, nothing is lost. -/
theorem Defines.parse_of_not_endsInComment (hdefines : t.Defines definitions)
    (hbody : Document.parse t.body = .ok ⟨body⟩) (h : ¬ EndsInComment t.body) :
    Document.parse t.documentText = .ok ⟨body ++ definitions⟩ := by
  rw [t.documentText_eq]
  refine Document.parse_append hbody ?_ (Document.readable_of_forall₂ hdefines.forall₂)
  rw [Bool.eq_false_iff.2 h, behindComment_false]
  exact Document.tokens?_intercalate hdefines.forall₂

/-- Where it does, a definition of one line is lost. -/
theorem Defines.parse_of_endsInComment (hdefines : t.Defines definitions)
    (hbody : Document.parse t.body = .ok ⟨body⟩) (h : EndsInComment t.body)
    (hline : ∀ f, t.fragments.head? = some f → ∀ c ∈ f.definition.toList, isLineEnd c = false) :
    Document.parse t.documentText = .ok ⟨body ++ definitions.tail⟩ := by
  have hreads := Document.readable_of_forall₂ hdefines.forall₂
  rw [t.documentText_eq]
  refine Document.parse_append hbody ?_ fun d hd => hreads d (List.mem_of_mem_tail hd)
  rw [h]
  refine Document.tokens?_behind_comment hdefines.forall₂ fun text htext => ?_
  rw [List.head?_map] at htext
  obtain ⟨f, hf, rfl⟩ := Option.map_eq_some_iff.1 htext
  exact hline f hf

/-- **What is read from an assembled document.**  These are the definitions of the body, and then
those of the fragments, unless the body ends within a comment; then the first line of the
definitions is not read, and the first definition is missing if it has one line only. -/
theorem parse_documentText (hbody : Document.parse t.body = .ok ⟨body⟩)
    (hdefines : t.Defines definitions) :
    (¬ EndsInComment t.body ∨ t.fragments = [] →
      Document.parse t.documentText = .ok ⟨body ++ definitions⟩) ∧
    (EndsInComment t.body →
      (∀ document, Document.parse t.documentText = .ok document ↔
        Document.parse (t.body ++ fromLineEnd t.definitions) = .ok document) ∧
      ((∀ f, t.fragments.head? = some f → ∀ c ∈ f.definition.toList, isLineEnd c = false) →
        Document.parse t.documentText = .ok ⟨body ++ definitions.tail⟩)) := by
  refine ⟨?_, fun h => ⟨fun document => ?_, hdefines.parse_of_endsInComment hbody h⟩⟩
  · rintro (h | hnone)
    · exact hdefines.parse_of_not_endsInComment hbody h
    · have hdefinitions : definitions = [] := by
        unfold Defines at hdefines
        rw [hnone] at hdefines
        exact List.forall₂_nil_left_iff.1 hdefines
      have htext : t.definitions = "" := by
        rw [Template.definitions, hnone, List.map_nil, String.intercalate_nil]
      rw [t.documentText_eq, htext, String.append_empty, hdefinitions, List.append_nil]
      exact hbody
  · rw [t.documentText_eq]
    exact Document.parse_append_iff hbody h

end Parse

/-! ### A definition that is lost -/

/-- A fragment of one line. -/
def root : Fragment :=
  .ofTemplate 0 (.ofText "... on Query { id }")

/-- A query for it, which ends with the given text. -/
def rootQuery (ending : String) : Template :=
  ⟨["\x7b ...", " \x7d" ++ ending], [.fragment root], rfl⟩

/-- What the query itself says. -/
def rootSelection : Definition :=
  .selectionSet [.spread root.name []]

/-- What the fragment says. -/
def rootDefinition : Definition :=
  .fragment root.name "Query" [] [.field none "id" [] [] []]

theorem name_root : root.name = "fragment_fpp6zo" := by
  decide +kernel

theorem body_rootQuery (ending : String) :
    (rootQuery ending).body = "{ ...fragment_fpp6zo }" ++ ending := by
  have hnames : (rootQuery ending).splices.map Splice.name = ["fragment_fpp6zo"] :=
    congrArg (fun name => [name]) name_root
  rw [body, hnames, rootQuery, weave_cons_cons, weave_singleton, ← String.append_assoc]
  rfl

theorem parse_definition_root : Document.parse root.definition = .ok ⟨[rootDefinition]⟩ := by
  have htext : root.definition = "fragment fragment_fpp6zo  on Query { id }" := by
    decide +kernel
  rw [htext, rootDefinition, name_root]
  cbv

theorem defines_rootQuery (ending : String) : (rootQuery ending).Defines [rootDefinition] :=
  .cons parse_definition_root .nil

/-- The end of the line ends the comment, and nothing is lost. -/
theorem parse_documentText_rootQuery :
    Document.parse (rootQuery " #\n").documentText = .ok ⟨[rootSelection, rootDefinition]⟩ := by
  have hbody : Document.parse (rootQuery " #\n").body = .ok ⟨[rootSelection]⟩ := by
    rw [body_rootQuery, rootSelection, name_root]
    cbv
  have hclosed : ¬ EndsInComment (rootQuery " #\n").body := by
    rw [body_rootQuery]
    exact Bool.eq_false_iff.1 (by cbv)
  exact (parse_documentText hbody (defines_rootQuery _)).1 (.inl hclosed)

/-- **Behind a comment a definition is lost.**  It is not true that the definitions of the fragments
are always read behind those of the body. -/
theorem not_parse_documentText :
    ¬ ∀ (t : Template) (body definitions : List Definition),
      Document.parse t.body = .ok ⟨body⟩ → t.Defines definitions →
      (∀ d ∈ definitions, ∃ name type directives selections,
        d = .fragment name type directives selections) →
      Document.parse t.documentText = .ok ⟨body ++ definitions⟩ := by
  intro h
  have hbody : Document.parse (rootQuery " #").body = .ok ⟨[rootSelection]⟩ := by
    rw [body_rootQuery, rootSelection, name_root]
    cbv
  have htext : (rootQuery " #").documentText =
      "{ ...fragment_fpp6zo } #fragment fragment_fpp6zo  on Query { id }" := by
    decide +kernel
  have hlost : Document.parse (rootQuery " #").documentText = .ok ⟨[rootSelection]⟩ := by
    rw [htext, rootSelection, name_root]
    cbv
  have hall := h _ _ _ hbody (defines_rootQuery _) (by simp [rootDefinition])
  rw [hlost] at hall
  cases hall

end QueryWeave.Template
