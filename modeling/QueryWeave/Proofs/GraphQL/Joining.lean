/-
**Documents one behind the other.**

A document ends with a closing brace, and behind it there is only ignored text.  So two documents
make one document, with the definitions of both, when their texts are put one behind the other, as
long as the first text does not end within a comment.  If it does, the first line of the second text
belongs to that comment and says nothing.  A line feed between the texts is always enough.

Main definitions:

* `QueryWeave.GraphQL.EndsInComment` — a text ends within a comment;
* `QueryWeave.GraphQL.fromLineEnd` — a text without its first line.

Main results:

* `QueryWeave.GraphQL.Document.parse_eq_ok_iff` — what a document says is what is written in it;
* `QueryWeave.GraphQL.Document.parse_append_iff` — **a document in front of another text**;
* `QueryWeave.GraphQL.Document.tokens?_intercalate` — documents with line feeds between them.
-/

import Mathlib.Data.List.DropRight
import Mathlib.Data.List.Forall2
import QueryWeave.Proofs.GraphQL.Cutting
import QueryWeave.Proofs.GraphQL.Reading

set_option relaxedAutoImplicit false
set_option autoImplicit false

namespace QueryWeave.GraphQL

/-! ### What a document says -/

/-- Definitions end with a closing brace. -/
theorem Definition.getLast?_tokens (definition : Definition) :
    definition.tokens.getLast? = some .closeBrace := by
  cases definition <;> simp [Definition.tokens, bracedTokens, List.getLast?_cons]

theorem getLast?_flatMap_tokens {definitions : List Definition} {t : Token}
    (h : (definitions.flatMap Definition.tokens).getLast? = some t) : t = .closeBrace := by
  rcases List.eq_nil_or_concat definitions with rfl | ⟨ds, d, rfl⟩
  · cases h
  · rw [List.concat_eq_append, List.flatMap_append, List.flatMap_singleton,
      List.getLast?_append, d.getLast?_tokens] at h
    exact (Option.some_inj.1 h).symm

namespace Document

/-- **What a document says is what is written in it.** -/
theorem parse_eq_ok_iff {text : String} {definitions : List Definition} :
    parse text = .ok ⟨definitions⟩ ↔
      (scan text.toList).tokens? = some (definitions.flatMap Definition.tokens) ∧
        definitions ≠ [] ∧ ∀ definition ∈ definitions, definition.Readable := by
  rw [parse, ofScan, Scan.tokens?]
  constructor
  · intro h
    split at h
    · cases h
    · next ds hds =>
        split at h
        · next hcomplete =>
            cases h
            obtain ⟨hne, hts, hreads⟩ := parseDefinitions_eq_ok_iff.1 hds
            rw [if_pos hcomplete, hts]
            exact ⟨rfl, hne, hreads⟩
        · cases h
  · rintro ⟨hts, hne, hreads⟩
    split at hts
    · next hcomplete =>
        have hds := parseDefinitions_eq_ok_iff.2 ⟨hne, Option.some_inj.1 hts, hreads⟩
        rw [hds]
        dsimp only
        rw [if_pos hcomplete]
    · cases hts

/-- The tokens of a document come in front of those of what is left of a text behind it. -/
theorem tokens?_append {text : String} {definitions : List Definition}
    (h : parse text = .ok ⟨definitions⟩) (cs : List Char) :
    (scan (text.toList ++ cs)).tokens? =
      (scan (behindComment (scan text.toList).inComment cs)).tokens?.map
        (definitions.flatMap Definition.tokens ++ ·) := by
  obtain ⟨hts, -, -⟩ := parse_eq_ok_iff.1 h
  obtain ⟨opened, hopened⟩ := exists_bracketsAfter hts
  obtain rfl : opened = 0 :=
    balanced_flatMap (fun d _ => d.balanced_tokens) 0 opened hopened
  have hend : ∀ t, (definitions.flatMap Definition.tokens).getLast? = some t →
      t.isClosing = true := by
    intro t ht
    rw [getLast?_flatMap_tokens ht]
    rfl
  rw [scan, GraphQL.tokens?_append cs hts hend, hopened]
  rfl

end Document

/-! ### Comments at the end -/

/-- Behind its last token, the text ends within a comment. -/
def EndsInComment (text : String) : Prop :=
  (scan text.toList).inComment = true

instance (text : String) : Decidable (EndsInComment text) :=
  inferInstanceAs (Decidable (_ = true))

/-- The part of a text from the end of its first line on. -/
def fromLineEnd (text : String) : String :=
  String.ofList (behindComment true text.toList)

theorem toList_append_lineFeed (text rest : String) :
    (text ++ "\n" ++ rest).toList = text.toList ++ '\n' :: rest.toList := by
  rw [String.append_assoc, String.toList_append, String.toList_append]
  rfl

/-- Behind a line feed nothing is lost. -/
theorem tokens?_behind_lineFeed (inComment : Bool) (cs : List Char) :
    (scan (behindComment inComment ('\n' :: cs))).tokens? = (scan cs).tokens? :=
  tokens?_congr (splitGap_behind_lineFeed inComment cs)

namespace Document

variable {text text' : String} {definitions definitions' : List Definition}

/-- What is left of the text behind a document adds its definitions. -/
theorem parse_append (h : parse text = .ok ⟨definitions⟩)
    (hrest : (scan (behindComment (scan text.toList).inComment text'.toList)).tokens? =
      some (definitions'.flatMap Definition.tokens))
    (hreads : ∀ definition ∈ definitions', definition.Readable) :
    parse (text ++ text') = .ok ⟨definitions ++ definitions'⟩ := by
  obtain ⟨-, hne, hreads₁⟩ := parse_eq_ok_iff.1 h
  refine parse_eq_ok_iff.2 ⟨?_, List.append_ne_nil_of_left_ne_nil hne _,
    List.forall_mem_append.2 ⟨hreads₁, hreads⟩⟩
  rw [String.toList_append, tokens?_append h, hrest, List.flatMap_append]
  rfl

/-- Of a text behind a comment the first line is not read. -/
theorem parse_append_iff (h : parse text = .ok ⟨definitions⟩) (hcomment : EndsInComment text)
    {document : Document} :
    parse (text ++ text') = .ok document ↔ parse (text ++ fromLineEnd text') = .ok document := by
  have hidem : behindComment true (behindComment true text'.toList) =
      behindComment true text'.toList :=
    List.dropWhile_idempotent _ _
  rw [parse_eq_ok_iff, parse_eq_ok_iff, String.toList_append, String.toList_append,
    tokens?_append h, tokens?_append h, hcomment, fromLineEnd, String.toList_ofList, hidem]

section Intercalate

variable {texts : List String}

/-- Documents with line feeds between them say what they say one by one. -/
theorem tokens?_intercalate
    (h : List.Forall₂ (fun text d => parse text = .ok ⟨[d]⟩) texts definitions) :
    (scan ("\n".intercalate texts).toList).tokens? =
      some (definitions.flatMap Definition.tokens) := by
  induction h with
  | nil =>
      rw [String.intercalate_nil, String.toList_empty, scan, scanFrom_nil]
      rfl
  | @cons text d texts ds hd hds ih =>
      cases texts with
      | nil =>
          cases hds
          rw [String.intercalate_singleton]
          exact (parse_eq_ok_iff.1 hd).1
      | cons next texts =>
          have hrest := (tokens?_behind_lineFeed (scan text.toList).inComment _).trans ih
          rw [String.intercalate_cons_cons, toList_append_lineFeed, tokens?_append hd, hrest]
          simp

/-- Behind a comment, a document of one line at the front is not read. -/
theorem tokens?_behind_comment
    (h : List.Forall₂ (fun text d => parse text = .ok ⟨[d]⟩) texts definitions)
    (hline : ∀ text, texts.head? = some text → ∀ c ∈ text.toList, isLineEnd c = false) :
    (scan (behindComment true ("\n".intercalate texts).toList)).tokens? =
      some (definitions.tail.flatMap Definition.tokens) := by
  cases h with
  | nil =>
      rw [String.intercalate_nil, String.toList_empty]
      exact tokens?_intercalate .nil
  | @cons text d texts ds hd hds =>
      have hskip : ∀ cs, behindComment true (text.toList ++ cs) = behindComment true cs := by
        intro cs
        refine List.dropWhile_append_of_pos fun c hc => ?_
        rw [hline text rfl c hc]
        rfl
      cases texts with
      | nil =>
          cases hds
          rw [String.intercalate_singleton, ← List.append_nil text.toList, hskip]
          exact tokens?_intercalate .nil
      | cons next texts =>
          rw [String.intercalate_cons_cons, toList_append_lineFeed, hskip, tokens?_behind_lineFeed]
          exact tokens?_intercalate hds

theorem readable_of_forall₂
    (h : List.Forall₂ (fun text d => parse text = .ok ⟨[d]⟩) texts definitions) :
    ∀ definition ∈ definitions, definition.Readable := by
  induction h with
  | nil => exact nofun
  | cons hd _ ih =>
      obtain ⟨-, -, hreads⟩ := parse_eq_ok_iff.1 hd
      exact List.forall_mem_cons.2 ⟨hreads _ List.mem_cons_self, ih⟩

end Intercalate

end Document

end QueryWeave.GraphQL
