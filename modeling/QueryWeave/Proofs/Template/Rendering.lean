/-
**Texts written from keys and segments.**

Segments and keys can be written as a template text: the segments in their order, with a placeholder
for each key between two of them, and any blanks around the key in it.  A text is read into keys and
segments exactly when it can be written from them, if the keys are keys and no segment opens a
placeholder.  So nothing is lost in reading but the blanks around keys, and a text is read in one
way only, also where a segment ends in a dollar sign or begins with a brace.

Blanks around a key are lost in trimming, and the key keeps all its characters, since letters and
numbers are not blanks: no range of code points of the one kind meets a range of the other.

Main definitions:

* `QueryWeave.openingMark` — what opens a placeholder;
* `QueryWeave.IsKey` — texts that can be keys;
* `QueryWeave.Padding`, `QueryWeave.Padding.placeholder` — a placeholder with blanks in it;
* `QueryWeave.keyFault?` — what is wrong with the text in a placeholder;
* `QueryWeave.Source.Legible` — keys and segments that can be read;
* `QueryWeave.Source.render` — the text written from them.

Main results:

* `QueryWeave.Text.trim_padded` — what is left between blanks;
* `QueryWeave.Text.isBlank_eq_false_of_isAlphanumeric` — no letter or number is a blank;
* `QueryWeave.splitOpen_append`, `QueryWeave.splitOpen_eq_none_iff` — where a placeholder opens, and
  when none does;
* `QueryWeave.Source.parseFrom_of_splitOpen` — one step of reading;
* `QueryWeave.Source.parseFrom_render`, `QueryWeave.Source.exists_render_of_parseFrom` — what is
  written is read, and what is read was written;
* `QueryWeave.Source.parse_iff_render` — **reading accepts what can be written, and finds what it
  was written from**.
-/

import QueryWeave.Proofs.Template.Body
import QueryWeave.Template.Placeholder
import QueryWeave.Text.Alphanumeric
import QueryWeave.Text.Blank
import QueryWeave.Text.Cut

set_option relaxedAutoImplicit false
set_option autoImplicit false

namespace QueryWeave.Text

/-! ### Blanks around a text -/

/-- At the end of a text without blanks there is nothing to trim. -/
theorem trimEnd_eq_self {cs : List Char} (h : ∀ c ∈ cs, isBlank c = false) : trimEnd cs = cs := by
  have hreverse : cs.reverse.dropWhile isBlank = cs.reverse := by
    cases hcs : cs.reverse with
    | nil => rfl
    | cons c rest =>
        have hc : c ∈ cs := List.mem_reverse.1 (hcs ▸ List.mem_cons_self)
        rw [List.dropWhile_cons_of_neg (by simp [h c hc])]
  rw [trimEnd, hreverse, List.reverse_reverse]

/-- A text without blanks is what is left of it between blanks, unless it is empty. -/
theorem trim_padded {left cs right : List Char} (hleft : ∀ c ∈ left, isBlank c = true)
    (hright : ∀ c ∈ right, isBlank c = true) (hcs : ∀ c ∈ cs, isBlank c = false) (hne : cs ≠ []) :
    trim (left ++ cs ++ right) = cs := by
  obtain ⟨c, rest, rfl⟩ := List.exists_cons_of_ne_nil hne
  have hstart : trimStart (left ++ (c :: rest ++ right)) = c :: rest ++ right := by
    rw [trimStart_append _ _ hleft, trimStart, List.cons_append,
      List.dropWhile_cons_of_neg (by simp [hcs c List.mem_cons_self])]
  rw [trim, List.append_assoc, hstart, trimEnd_append _ _ hright, trimEnd_eq_self hcs]

/-! ### Letters and numbers -/

/-- No code point lies in a range of both sets. -/
def CodeRanges.Apart (ranges ranges' : CodeRanges) : Prop :=
  ∀ range ∈ ranges, ∀ range' ∈ ranges', range.2 < range'.1 ∨ range'.2 < range.1

instance (ranges ranges' : CodeRanges) : Decidable (ranges.Apart ranges') :=
  inferInstanceAs (Decidable (∀ range ∈ ranges, ∀ range' ∈ ranges',
    range.2 < range'.1 ∨ range'.2 < range.1))

/-- A character of one set is not in another one that is apart from it. -/
theorem CodeRanges.Apart.contains_eq_false {ranges ranges' : CodeRanges}
    (h : ranges.Apart ranges') {c : Char} (hc : ranges.contains c = true) :
    ranges'.contains c = false := by
  obtain ⟨range, hrange, hlower, hupper⟩ := (ranges.contains_iff c).1 hc
  refine Bool.eq_false_iff.2 fun hc' => ?_
  obtain ⟨range', hrange', hlower', hupper'⟩ := (ranges'.contains_iff c).1 hc'
  have hapart := h range hrange range' hrange'
  omega

/-- No letter or number is a blank. -/
theorem isBlank_eq_false_of_isAlphanumeric {c : Char} (h : isAlphanumeric c = true) :
    isBlank c = false := by
  have hapart : alphanumericRanges.Apart blankRanges := by
    decide +kernel
  exact hapart.contains_eq_false h

end QueryWeave.Text

namespace QueryWeave

/-! ### The characters of keys -/

/-- A text that can be a key. -/
def IsKey (key : String) : Prop :=
  key ≠ "" ∧ ∀ c ∈ key.toList, isKeySymbol c = true

instance (key : String) : Decidable (IsKey key) :=
  inferInstanceAs (Decidable (_ ∧ _))

/-- Keys have no blanks in them. -/
theorem isBlank_eq_false_of_isKeySymbol {c : Char} (h : isKeySymbol c = true) :
    Text.isBlank c = false := by
  simp only [isKeySymbol, Bool.or_eq_true, beq_iff_eq] at h
  rcases h with ((halphanumeric | rfl) | rfl) | rfl
  · exact Text.isBlank_eq_false_of_isAlphanumeric halphanumeric
  all_goals decide

/-! ### Where a placeholder opens -/

/-- The mark that opens a placeholder. -/
def openingMark : List Char := ['$', '{']

theorem splitOpen_cons {c : Char} {cs : List Char} (h : ¬ openingMark <+: c :: cs) :
    splitOpen (c :: cs) = (splitOpen cs).map fun cut => (c :: cut.1, cut.2) := by
  rw [splitOpen]
  rintro rest rfl rfl
  exact h ⟨rest, rfl⟩

/-- No placeholder opens in a text without the mark. -/
theorem splitOpen_eq_none_iff {cs : List Char} :
    splitOpen cs = none ↔ ¬ openingMark <:+: cs := by
  induction cs with
  | nil => simp [splitOpen, openingMark]
  | cons c cs ih =>
      by_cases hopen : openingMark <+: c :: cs
      · obtain ⟨rest, hrest⟩ := hopen
        rw [← hrest]
        exact ⟨nofun, fun h => absurd (List.infix_append' [] openingMark rest) h⟩
      · rw [splitOpen_cons hopen, Option.map_eq_none_iff, ih, List.infix_cons_iff, not_or]
        exact ⟨fun h => ⟨hopen, h⟩, And.right⟩

/-- The first placeholder opens behind a text without the mark, whatever comes behind it. -/
theorem splitOpen_append {segment : List Char} (h : ¬ openingMark <:+: segment)
    (behind : List Char) :
    splitOpen (segment ++ openingMark ++ behind) = some (segment, behind) := by
  induction segment with
  | nil => rfl
  | cons c segment ih =>
      rw [List.infix_cons_iff, not_or] at h
      have hfirst : ¬ openingMark <+: c :: (segment ++ openingMark ++ behind) := by
        intro hopen
        -- the brace of such a mark would be in the segment, since a dollar sign comes behind it
        cases segment with
        | nil => simp [openingMark] at hopen
        | cons d segment =>
            refine h.1 ?_
            simpa [openingMark] using hopen
      rw [List.cons_append, List.cons_append, splitOpen_cons hfirst, ih h.2]
      rfl

/-- In front of the first placeholder there is no mark. -/
theorem not_infix_of_splitOpen {cs segment behind : List Char}
    (h : splitOpen cs = some (segment, behind)) : ¬ openingMark <:+: segment := by
  induction cs generalizing segment with
  | nil => cases h
  | cons c cs ih =>
      by_cases hopen : openingMark <+: c :: cs
      · obtain ⟨rest, hrest⟩ := hopen
        rw [← hrest] at h
        cases h
        decide
      · rw [splitOpen_cons hopen] at h
        obtain ⟨⟨before, behind'⟩, hcut, heq⟩ := Option.map_eq_some_iff.1 h
        obtain ⟨rfl, rfl⟩ : c :: before = segment ∧ behind' = behind := by simpa using heq
        rw [List.infix_cons_iff, not_or]
        refine ⟨fun hbegins => hopen (hbegins.trans ?_), ih hcut⟩
        rw [eq_append_of_splitOpen hcut]
        exact List.prefix_append (c :: before) _

/-! ### Placeholders -/

/-- Blanks in front of a key and behind it. -/
structure Padding where
  left : List Char
  right : List Char
  blank_left : ∀ c ∈ left, Text.isBlank c = true
  blank_right : ∀ c ∈ right, Text.isBlank c = true

namespace Padding

/-- The key with the blanks around it. -/
def around (padding : Padding) (key : String) : List Char :=
  padding.left ++ key.toList ++ padding.right

/-- The placeholder for a key. -/
def placeholder (padding : Padding) (key : String) : String :=
  String.ofList (openingMark ++ padding.around key ++ ['}'])

variable (padding : Padding) {key : String}

theorem trim_around (h : IsKey key) : Text.trim (padding.around key) = key.toList := by
  refine Text.trim_padded padding.blank_left padding.blank_right ?_ ?_
  · exact fun c hc => isBlank_eq_false_of_isKeySymbol (h.2 c hc)
  · simpa using h.1

/-- Neither the key nor the blanks around it hold the mark that closes the placeholder. -/
theorem not_mem_around (h : IsKey key) {mark : Char} (hsymbol : isKeySymbol mark = false)
    (hblank : Text.isBlank mark = false) : mark ∉ padding.around key := by
  intro hmem
  rcases List.mem_append.1 hmem with hmem | hmem
  · rcases List.mem_append.1 hmem with hmem | hmem
    · simp [padding.blank_left mark hmem] at hblank
    · simp [h.2 mark hmem] at hsymbol
  · simp [padding.blank_right mark hmem] at hblank

end Padding

/-- What is wrong with the text `inside` of a placeholder that opens at the byte `opening`. -/
def keyFault? (opening : Nat) (inside : List Char) : Option PlaceholderFault :=
  if Text.trim inside = [] then some (.empty opening)
  else if (Text.trim inside).all isKeySymbol then none
  else some (.invalidKey opening (String.ofList (Text.trim inside)))

namespace Source

/-! ### Reading one placeholder after the other -/

/-- Where no placeholder opens, the whole text is a segment. -/
theorem parseFrom_of_not_infix {cs : List Char} (h : ¬ openingMark <:+: cs) (offset : Nat) :
    parseFrom offset cs = .ok ⟨[], [String.ofList cs]⟩ := by
  have hopen := splitOpen_eq_none_iff.2 h
  rw [parseFrom]
  split
  · rfl
  · next hsome =>
      rw [hopen] at hsome
      cases hsome

/-- One step of reading, told by how the text is cut. -/
theorem parseFrom_of_splitOpen {cs segment behind : List Char}
    (hopen : splitOpen cs = some (segment, behind)) (offset : Nat) :
    parseFrom offset cs =
      match Text.cutFirst '}' behind with
      | none => .error (.unclosed (offset + Text.byteLength segment))
      | some (inside, rest) =>
          match keyFault? (offset + Text.byteLength segment) inside with
          | some fault => .error fault
          | none =>
              (parseFrom (offset + Text.byteLength segment + 2 + Text.byteLength inside + 1)
                rest).map fun source =>
                  ⟨String.ofList (Text.trim inside) :: source.keys,
                    String.ofList segment :: source.segments⟩ := by
  rw [parseFrom]
  split
  · next hnone =>
      rw [hopen] at hnone
      cases hnone
  · next segment' behind' hsome =>
      obtain ⟨rfl, rfl⟩ := Prod.mk.inj (Option.some_inj.1 (hopen.symm.trans hsome))
      dsimp only
      split
      · next hclose => rw [hclose]
      · next inside rest hclose =>
          rw [hclose]
          dsimp only [keyFault?]
          split
          · rfl
          · split
            · dsimp only
              split <;> simp_all [Except.map]
            · rfl

/-- Behind a segment and a placeholder with a key, reading goes on. -/
theorem parseFrom_placeholder {segment inside rest : List Char}
    (hsegment : ¬ openingMark <:+: segment) (hinside : '}' ∉ inside) (hne : Text.trim inside ≠ [])
    (hkey : (Text.trim inside).all isKeySymbol = true) (offset : Nat) :
    parseFrom offset (segment ++ openingMark ++ (inside ++ '}' :: rest)) =
      (parseFrom (offset + Text.byteLength segment + 2 + Text.byteLength inside + 1) rest).map
        fun source => ⟨String.ofList (Text.trim inside) :: source.keys,
          String.ofList segment :: source.segments⟩ := by
  have hfault : keyFault? (offset + Text.byteLength segment) inside = none := by
    rw [keyFault?, if_neg hne, if_pos hkey]
  rw [parseFrom_of_splitOpen (splitOpen_append hsegment _), Text.cutFirst_append hinside]
  dsimp only
  rw [hfault]

/-! ### Writing and reading -/

/-- Keys and segments that can be read from a text. -/
structure Legible (source : Source) : Prop where
  length_segments : source.segments.length = source.keys.length + 1
  /-- No segment opens a placeholder. -/
  segments : ∀ segment ∈ source.segments, ¬ openingMark <:+: segment.toList
  keys : ∀ key ∈ source.keys, IsKey key

/-- The segments in their order, with a placeholder for each key between two of them. -/
def render (source : Source) (paddings : List Padding) : String :=
  weave source.segments (List.zipWith Padding.placeholder paddings source.keys)

theorem legible_cons_iff {key segment : String} {keys segments : List String} :
    Legible ⟨key :: keys, segment :: segments⟩ ↔
      IsKey key ∧ ¬ openingMark <:+: segment.toList ∧ Legible ⟨keys, segments⟩ := by
  constructor
  · rintro ⟨hlength, hsegments, hkeys⟩
    obtain ⟨hkey, hkeys⟩ := List.forall_mem_cons.1 hkeys
    obtain ⟨hsegment, hsegments⟩ := List.forall_mem_cons.1 hsegments
    exact ⟨hkey, hsegment, by simpa using hlength, hsegments, hkeys⟩
  · rintro ⟨hkey, hsegment, hlength, hsegments, hkeys⟩
    exact ⟨by simpa using hlength, List.forall_mem_cons.2 ⟨hsegment, hsegments⟩,
      List.forall_mem_cons.2 ⟨hkey, hkeys⟩⟩

theorem toList_render_cons (key segment : String) (keys segments : List String)
    (padding : Padding) (paddings : List Padding) :
    (render ⟨key :: keys, segment :: segments⟩ (padding :: paddings)).toList =
      segment.toList ++ openingMark ++
        (padding.around key ++ '}' :: (render ⟨keys, segments⟩ paddings).toList) := by
  simp [render, weave_cons_cons, Padding.placeholder]

/-- **What is written is read**, with any blanks around the keys. -/
theorem parseFrom_render {source : Source} (h : source.Legible) {paddings : List Padding}
    (hpaddings : paddings.length = source.keys.length) (offset : Nat) :
    parseFrom offset (source.render paddings).toList = .ok source := by
  obtain ⟨keys, segments⟩ := source
  induction keys generalizing segments paddings offset with
  | nil =>
      obtain ⟨segment, rfl⟩ := List.length_eq_one_iff.1 h.length_segments
      have hsegment := h.segments segment List.mem_cons_self
      have htext : (render ⟨[], [segment]⟩ paddings).toList = segment.toList := by
        simp [render]
      rw [htext, parseFrom_of_not_infix hsegment, String.ofList_toList]
  | cons key keys ih =>
      obtain ⟨segment, segments, rfl⟩ := List.exists_cons_of_length_eq_add_one h.length_segments
      obtain ⟨padding, paddings, rfl⟩ := List.exists_cons_of_length_eq_add_one hpaddings
      obtain ⟨hkey, hsegment, hrest⟩ := legible_cons_iff.1 h
      have htrim := padding.trim_around hkey
      have hinside : '}' ∉ padding.around key :=
        padding.not_mem_around hkey (by decide +kernel) (by decide)
      rw [toList_render_cons, parseFrom_placeholder hsegment hinside, htrim,
        ih _ segments hrest (by simpa using hpaddings)]
      · simp [Except.map]
      · rw [htrim]
        simpa using hkey.1
      · rw [htrim]
        exact List.all_eq_true.2 hkey.2

/-- **What is read was written.** -/
theorem exists_render_of_parseFrom {offset : Nat} {cs : List Char} {source : Source}
    (h : parseFrom offset cs = .ok source) :
    source.Legible ∧ ∃ paddings : List Padding, paddings.length = source.keys.length ∧
      cs = (source.render paddings).toList := by
  fun_induction parseFrom offset cs generalizing source with
  | case1 offset cs hopen =>
      cases h
      refine ⟨⟨rfl, ?_, nofun⟩, [], rfl, by simp [render]⟩
      intro segment hsegment
      rw [List.mem_singleton.1 hsegment, String.toList_ofList]
      exact splitOpen_eq_none_iff.1 hopen
  | case5 offset cs segment behind hopen opening inside rest hclose hlt key hkey hsymbols source'
      hrest =>
      rename_i ih
      cases h
      obtain ⟨hlegible, paddings, hlength, hcs⟩ := ih hrest
      obtain ⟨left, right, hleft, hright, hpadded⟩ := Text.exists_eq_append_trim inside
      have hiskey : IsKey (String.ofList key) := by
        refine ⟨by simpa using hkey, ?_⟩
        rw [String.toList_ofList]
        exact List.all_eq_true.1 hsymbols
      have hsegment : ¬ openingMark <:+: (String.ofList segment).toList := by
        rw [String.toList_ofList]
        exact not_infix_of_splitOpen hopen
      refine ⟨legible_cons_iff.2 ⟨hiskey, hsegment, hlegible⟩,
        ⟨left, right, hleft, hright⟩ :: paddings, by simpa using hlength, ?_⟩
      rw [toList_render_cons, ← hcs, Padding.around, String.toList_ofList, String.toList_ofList,
        ← hpadded, ← (Text.eq_append_of_cutFirst hclose).1, eq_append_of_splitOpen hopen]
      simp [openingMark]
  | _ => cases h

/-- **Reading accepts what can be written, and finds what it was written from.**  A text is read
into keys and segments exactly when there is one segment more than keys, no segment opens a
placeholder, the keys are keys, and the text has the segments in their order and between two of
them a placeholder for the key, with any blanks around it. -/
theorem parse_iff_render {text : String} {source : Source} :
    parse text = .ok source ↔
      source.Legible ∧ ∃ paddings : List Padding, paddings.length = source.keys.length ∧
        text = source.render paddings := by
  constructor
  · intro h
    obtain ⟨hlegible, paddings, hlength, htext⟩ := exists_render_of_parseFrom h
    exact ⟨hlegible, paddings, hlength, String.toList_inj.1 htext⟩
  · rintro ⟨hlegible, paddings, hlength, rfl⟩
    exact parseFrom_render hlegible hlength 0

/-- A dollar sign in front of a placeholder and a brace behind it belong to the segments. -/
example : parse "a$${ k }{${l}}" =
    .ok ⟨["k", "l"], ["a$", "\x7b", "\x7d"]⟩ := by
  decide +kernel

end Source

end QueryWeave
