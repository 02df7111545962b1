/-
**Placeholders and what is put in their place.**

A template text can be understood without cutting it into segments: it is a row of single characters
and of placeholders, read from left to right, and substituting puts a value in the place of each
placeholder.  All of them are replaced at once, so what is put in is not read again.

Reading a text into keys and segments, and interleaving the segments with the values of the keys,
does the same.

Main definitions:

* `QueryWeave.TextPart`, `QueryWeave.textParts` — a text as characters and placeholders;
* `QueryWeave.placeholders` — the keys of its placeholders;
* `QueryWeave.substitute` — the text with values in place of its placeholders.

Main results:

* `QueryWeave.substitute_congr` — only the values of the placeholders matter;
* `QueryWeave.Source.keys_eq_of_parse` — the keys of a source are those of the placeholders;
* `QueryWeave.Source.weave_eq_of_parse` — **interleaving a source is substituting in its text**;
* `QueryWeave.Source.join_eq_of_parse` — its segments are what stands around the placeholders.
-/

import QueryWeave.Template.Basic
import QueryWeave.Template.Placeholder

set_option relaxedAutoImplicit false
set_option autoImplicit false

namespace QueryWeave

/-! ### Characters and placeholders -/

/-- A part of a template text. -/
inductive TextPart where
  | symbol (c : Char)
  | placeholder (key : String)
  deriving DecidableEq, Repr

/-- A text as its parts: a placeholder begins at `${` and goes on to the next `}`, and what it has
in between, without blanks around it, is its key. -/
def textParts (cs : List Char) : List TextPart :=
  match cs with
  | [] => []
  | '$' :: '{' :: behind =>
      .placeholder (String.ofList (Text.trim (behind.takeWhile (· != '}')))) ::
        textParts (behind.dropWhile (· != '}')).tail
  | c :: cs => .symbol c :: textParts cs
termination_by cs.length
decreasing_by
  · have := (List.dropWhile_sublist (· != '}') (l := behind)).length_le
    simp only [List.length_tail, List.length_cons]
    omega
  · simp

namespace TextPart

/-- The key of a placeholder. -/
def key? : TextPart → Option String
  | .symbol _ => none
  | .placeholder key => some key

/-- A part with a value in the place of a placeholder. -/
def replace (value : String → String) : TextPart → List Char
  | .symbol c => [c]
  | .placeholder key => (value key).toList

end TextPart

/-- The keys of the placeholders in a text, in order. -/
def placeholders (text : String) : List String :=
  (textParts text.toList).filterMap TextPart.key?

/-- The text with values in place of its placeholders. -/
def substitute (value : String → String) (text : String) : String :=
  String.ofList ((textParts text.toList).flatMap (TextPart.replace value))

@[simp] theorem filterMap_key?_symbols (cs : List Char) :
    (cs.map TextPart.symbol).filterMap TextPart.key? = [] := by
  induction cs with
  | nil => rfl
  | cons c cs ih => rw [List.map_cons, List.filterMap_cons_none rfl, ih]

@[simp] theorem flatMap_replace_symbols (value : String → String) (cs : List Char) :
    (cs.map TextPart.symbol).flatMap (TextPart.replace value) = cs := by
  induction cs with
  | nil => rfl
  | cons c cs ih => rw [List.map_cons, List.flatMap_cons, ih]; rfl

/-- Only the values of the placeholders matter. -/
theorem substitute_congr {value value' : String → String} {text : String}
    (h : ∀ key ∈ placeholders text, value key = value' key) :
    substitute value text = substitute value' text := by
  have hpart : ∀ part ∈ textParts text.toList, part.replace value = part.replace value' := by
    intro part hpart
    cases part with
    | symbol c => rfl
    | placeholder key =>
        have hkey : key ∈ placeholders text := List.mem_filterMap.2 ⟨_, hpart, rfl⟩
        rw [TextPart.replace, TextPart.replace, h key hkey]
  rw [substitute, substitute, List.flatMap_def, List.flatMap_def, List.map_congr_left hpart]

/-! ### Parts and cutting -/

theorem textParts_cons {c : Char} {cs : List Char}
    (h : ∀ behind, c = '$' → cs = '{' :: behind → False) :
    textParts (c :: cs) = .symbol c :: textParts cs := by
  rw [textParts]
  exact h

/-- Where no placeholder opens there are characters only. -/
theorem textParts_of_splitOpen_eq_none {cs : List Char} (h : splitOpen cs = none) :
    textParts cs = cs.map .symbol := by
  fun_induction splitOpen cs with
  | case1 => rw [textParts, List.map_nil]
  | case2 => cases h
  | case3 c cs hopen ih =>
      rw [textParts_cons hopen, ih (Option.map_eq_none_iff.1 h), List.map_cons]

/-- In front of the first placeholder there are characters only. -/
theorem textParts_of_splitOpen_eq_some {cs segment behind : List Char}
    (h : splitOpen cs = some (segment, behind)) :
    textParts cs = segment.map .symbol ++ textParts ('$' :: '{' :: behind) := by
  fun_induction splitOpen cs generalizing segment with
  | case1 => cases h
  | case2 rest =>
      cases h
      rfl
  | case3 c cs hopen ih =>
      obtain ⟨⟨before, behind'⟩, hcut, heq⟩ := Option.map_eq_some_iff.1 h
      obtain ⟨rfl, rfl⟩ : c :: before = segment ∧ behind' = behind := by simpa using heq
      rw [textParts_cons hopen, ih hcut, List.map_cons, List.cons_append]

/-- A placeholder that is closed has the key in front of its end. -/
theorem textParts_of_cutFirst {behind inside rest : List Char}
    (h : Text.cutFirst '}' behind = some (inside, rest)) :
    textParts ('$' :: '{' :: behind) =
      .placeholder (String.ofList (Text.trim inside)) :: textParts rest := by
  obtain ⟨rfl, hinside⟩ := Text.eq_append_of_cutFirst h
  have hpos : ∀ c ∈ inside, (c != '}') = true := by
    intro c hc
    rw [bne_iff_ne]
    rintro rfl
    exact hinside hc
  rw [textParts, List.takeWhile_append_of_pos hpos, List.dropWhile_append_of_pos hpos]
  simp

/-! ### Parts and reading -/

namespace Source

/-- What reading a text finds: as many keys as segments but one, the keys of the placeholders, and
segments that make up, with values between them, the text with these values. -/
structure ReadFrom (source : Source) (cs : List Char) : Prop where
  length_segments : source.segments.length = source.keys.length + 1
  keys : (textParts cs).filterMap TextPart.key? = source.keys
  weave : ∀ value, (textParts cs).flatMap (TextPart.replace value) =
    (weave source.segments (source.keys.map value)).toList

theorem readFrom_of_parseFrom {offset : Nat} {cs : List Char} {source : Source}
    (h : parseFrom offset cs = .ok source) : source.ReadFrom cs := by
  fun_induction parseFrom offset cs generalizing source with
  | case1 offset cs hopen =>
      cases h
      have hparts := textParts_of_splitOpen_eq_none hopen
      refine ⟨rfl, ?_, fun value => ?_⟩
      · rw [hparts, filterMap_key?_symbols]
      · rw [hparts, flatMap_replace_symbols]
        simp
  | case5 offset cs segment behind hopen opening inside rest hclose hlt key hkey hsymbols source'
      hrest =>
      rename_i ih
      cases h
      obtain ⟨hlength, hkeys, hweave⟩ := ih hrest
      have hparts : textParts cs =
          segment.map .symbol ++ .placeholder (String.ofList key) :: textParts rest := by
        rw [textParts_of_splitOpen_eq_some hopen, textParts_of_cutFirst hclose]
      refine ⟨by simp [hlength], ?_, fun value => ?_⟩
      · rw [hparts, List.filterMap_append, filterMap_key?_symbols, List.nil_append,
          List.filterMap_cons, TextPart.key?, hkeys]
      · rw [hparts, List.flatMap_append, flatMap_replace_symbols, List.flatMap_cons, hweave value]
        simp [QueryWeave.weave, TextPart.replace]
  | _ => cases h

theorem readFrom_of_parse {text : String} {source : Source} (h : parse text = .ok source) :
    source.ReadFrom text.toList :=
  readFrom_of_parseFrom h

/-- The keys of a source are those of the placeholders in its text. -/
theorem keys_eq_of_parse {text : String} {source : Source} (h : parse text = .ok source) :
    source.keys = placeholders text :=
  (readFrom_of_parse h).keys.symm

theorem weave_map_empty (segments keys : List String) :
    QueryWeave.weave segments (keys.map fun _ => "") = String.join segments := by
  induction segments generalizing keys with
  | nil => rfl
  | cons segment segments ih =>
      cases keys with
      | nil =>
          have hrest := ih []
          rw [List.map_nil] at hrest ⊢
          rw [QueryWeave.weave, hrest, String.join_cons]
      | cons key keys =>
          rw [List.map_cons, QueryWeave.weave, ih keys, String.append_empty, String.join_cons]

/-- **Interleaving a source is substituting in its text.** -/
theorem weave_eq_of_parse {text : String} {source : Source} (h : parse text = .ok source)
    (value : String → String) :
    QueryWeave.weave source.segments (source.keys.map value) = substitute value text := by
  rw [substitute, (readFrom_of_parse h).weave value, String.ofList_toList]

/-- The segments of a source are what stands around the placeholders. -/
theorem join_eq_of_parse {text : String} {source : Source} (h : parse text = .ok source) :
    String.join source.segments = substitute (fun _ => "") text := by
  rw [← weave_eq_of_parse h, weave_map_empty]

end Source

end QueryWeave
