/-
**Where a template text goes wrong.**

The placeholders of a text are read one after the other, and the first that cannot be read ends it.
So what is in front of this placeholder can be read by itself, and what is wrong is told by what
comes behind its mark, up to the brace that closes it.  The place that is told counts the bytes in
front of the placeholder in the whole text, whatever letters, placeholders and blanks there are.

Reading may go by bytes: the first mark is looked for, the text is sliced in front of it and behind
it, and so on in what is left.  All these slices exist, and reading by them gives the same.

Main definitions:

* `QueryWeave.placeholderFault?` — what is wrong with one placeholder;
* `QueryWeave.Source.parseSlices` — reading by slices between bytes;
* `QueryWeave.PlaceholderFault.Describes` — what a fault says of a placeholder.

Main results:

* `QueryWeave.Source.parse_eq_error_iff` — **the fault is that of the first placeholder that has
  one**;
* `QueryWeave.Source.parseSlices_ofList` — **all slices exist**;
* `QueryWeave.Source.parse_error_leftmost` — **where a fault points to, and what it says**.
-/

import QueryWeave.Proofs.Template.Rendering
import QueryWeave.Proofs.Text.Slices

set_option relaxedAutoImplicit false
set_option autoImplicit false

namespace QueryWeave

/-! ### One placeholder -/

/-- What is wrong with the placeholder that opens at the byte `opening` and has `behind` behind its
mark. -/
def placeholderFault? (opening : Nat) (behind : List Char) : Option PlaceholderFault :=
  match Text.cutFirst '}' behind with
  | none => some (.unclosed opening)
  | some (inside, _) => keyFault? opening inside

/-- What comes behind a placeholder does not matter. -/
theorem placeholderFault?_append {inside : List Char} (h : '}' ∉ inside) (opening : Nat)
    (rest : List Char) :
    placeholderFault? opening (inside ++ '}' :: rest) = keyFault? opening inside := by
  rw [placeholderFault?, Text.cutFirst_append h]

theorem byteLength_openingMark : Text.byteLength openingMark = 2 := rfl

theorem eq_append_openingMark {cs segment behind : List Char}
    (h : splitOpen cs = some (segment, behind)) : cs = segment ++ openingMark ++ behind := by
  rw [eq_append_of_splitOpen h]
  simp [openingMark]

/-- The bytes of a segment, of a placeholder that is closed, and of the rest. -/
theorem byteLength_placeholder (segment inside rest : List Char) :
    Text.byteLength (segment ++ openingMark ++ (inside ++ '}' :: rest)) =
      Text.byteLength segment + 2 + Text.byteLength inside + 1 + Text.byteLength rest := by
  have hbrace : '}'.utf8Size = 1 := rfl
  simp only [Text.byteLength_append, Text.byteLength_cons, byteLength_openingMark, hbrace]
  omega

/-- A text in parts: a segment, a placeholder that is closed, and the rest. -/
theorem eq_append_of_cut {cs segment behind inside rest : List Char}
    (hopen : splitOpen cs = some (segment, behind))
    (hclose : Text.cutFirst '}' behind = some (inside, rest)) :
    cs = segment ++ openingMark ++ (inside ++ '}' :: rest) := by
  rw [eq_append_openingMark hopen, (Text.eq_append_of_cutFirst hclose).1]

namespace Source

/-! ### The first fault -/

variable {offset : Nat} {fault : PlaceholderFault}

/-- Behind a segment, what is wrong with the first placeholder is told. -/
theorem parseFrom_eq_error {segment behind : List Char} (hsegment : ¬ openingMark <:+: segment)
    (h : placeholderFault? (offset + Text.byteLength segment) behind = some fault) :
    parseFrom offset (segment ++ openingMark ++ behind) = .error fault := by
  rw [parseFrom_of_splitOpen (splitOpen_append hsegment behind)]
  rw [placeholderFault?] at h
  cases hclose : Text.cutFirst '}' behind with
  | none =>
      rw [hclose] at h
      cases h
      rfl
  | some cut =>
      obtain ⟨inside, rest⟩ := cut
      rw [hclose] at h
      dsimp only at h ⊢
      rw [h]

/-- **Behind a text that can be read, what is wrong with a placeholder is told.** -/
theorem parseFrom_append_eq_error {before behind : List Char} {source : Source}
    (hbefore : parseFrom offset before = .ok source)
    (h : placeholderFault? (offset + Text.byteLength before) behind = some fault) :
    parseFrom offset (before ++ openingMark ++ behind) = .error fault := by
  fun_induction parseFrom offset before generalizing source with
  | case1 offset before hopen => exact parseFrom_eq_error (splitOpen_eq_none_iff.1 hopen) h
  | case5 offset before segment after hopen opening inside rest hclose hlt key hkey hsymbols source'
      hrest =>
      rename_i ih
      have hinside := (Text.eq_append_of_cutFirst hclose).2
      have hplace : offset + Text.byteLength before =
          opening + 2 + Text.byteLength inside + 1 + Text.byteLength rest := by
        rw [eq_append_of_cut hopen hclose, byteLength_placeholder]
        omega
      have hfault := ih hrest (hplace ▸ h)
      have hstep := @parseFrom_placeholder segment inside (rest ++ openingMark ++ behind)
        (not_infix_of_splitOpen hopen) hinside hkey hsymbols offset
      rw [hfault] at hstep
      rw [eq_append_of_cut hopen hclose]
      simpa [Except.map] using hstep
  | _ => cases hbefore

/-- What is in front of the first placeholder can be read. -/
theorem exists_of_splitOpen {cs segment behind : List Char}
    (hopen : splitOpen cs = some (segment, behind))
    (h : placeholderFault? (offset + Text.byteLength segment) behind = some fault) :
    ∃ before behind source, cs = before ++ openingMark ++ behind ∧
      parseFrom offset before = .ok source ∧
      placeholderFault? (offset + Text.byteLength before) behind = some fault :=
  ⟨segment, behind, _, eq_append_openingMark hopen,
    parseFrom_of_not_infix (not_infix_of_splitOpen hopen) offset, h⟩

/-- **In front of a fault there is a text that can be read**, and behind it a placeholder that has
this fault. -/
theorem exists_of_parseFrom_eq_error {cs : List Char} (h : parseFrom offset cs = .error fault) :
    ∃ before behind source, cs = before ++ openingMark ++ behind ∧
      parseFrom offset before = .ok source ∧
      placeholderFault? (offset + Text.byteLength before) behind = some fault := by
  fun_induction parseFrom offset cs with
  | case1 => cases h
  | case2 offset cs segment behind hopen opening hclose =>
      cases h
      refine exists_of_splitOpen hopen ?_
      rw [placeholderFault?, hclose]
  | case3 offset cs segment behind hopen opening inside rest hclose hlt key hempty =>
      cases h
      refine exists_of_splitOpen hopen ?_
      rw [placeholderFault?, hclose]
      exact if_pos hempty
  | case4 offset cs segment behind hopen opening inside rest hclose hlt key hkey hsymbols fault'
      hrest =>
      rename_i ih
      obtain ⟨before, behind', source, hcs, hbefore, hfault⟩ := ih (hrest.trans h)
      have hinside := (Text.eq_append_of_cutFirst hclose).2
      have hstep := @parseFrom_placeholder segment inside before (not_infix_of_splitOpen hopen)
        hinside hkey hsymbols offset
      rw [hbefore] at hstep
      refine ⟨_, behind', _, ?_, hstep, ?_⟩
      · rw [eq_append_of_cut hopen hclose, hcs]
        simp
      · rw [← hfault, byteLength_placeholder]
        congr 1
        omega
  | case5 => cases h
  | case6 offset cs segment behind hopen opening inside rest hclose hlt key hkey hsymbols =>
      cases h
      refine exists_of_splitOpen hopen ?_
      rw [placeholderFault?, hclose]
      simp only [keyFault?]
      rw [if_neg hkey, if_neg hsymbols]

/-- **The fault that is told is that of the first placeholder that has one.** -/
theorem parse_eq_error_iff {text : String} :
    parse text = .error fault ↔
      ∃ before behind : String, text = before ++ String.ofList openingMark ++ behind ∧
        (∃ source, parse before = .ok source) ∧
        placeholderFault? before.utf8ByteSize behind.toList = some fault := by
  constructor
  · intro h
    obtain ⟨before, behind, source, htext, hbefore, hfault⟩ := exists_of_parseFrom_eq_error h
    refine ⟨String.ofList before, String.ofList behind, ?_, ⟨source, ?_⟩, ?_⟩
    · rw [← String.ofList_append, ← String.ofList_append, ← htext, String.ofList_toList]
    · rw [parse, String.toList_ofList]
      exact hbefore
    · rw [Nat.zero_add] at hfault
      rw [Text.utf8ByteSize_ofList, String.toList_ofList]
      exact hfault
  · rintro ⟨before, behind, rfl, ⟨source, hbefore⟩, hfault⟩
    rw [parse, String.toList_append, String.toList_append, String.toList_ofList]
    refine parseFrom_append_eq_error hbefore ?_
    rw [Nat.zero_add, Text.byteLength_toList]
    exact hfault

/-! ### Reading by slices -/

/-- Reads on in `rest`, in front of which there are `offset` bytes, by looking for marks and slicing
between bytes.  Without a slice there is no answer. -/
def parseSlices (offset : Nat) (rest : String) : Option (Except PlaceholderFault Source) :=
  match Text.bytesBefore openingMark rest.toList with
  | none => some (.ok ⟨[], [rest]⟩)
  | some opening =>
      (Text.slice? rest 0 opening).bind fun segment =>
      (Text.slice? rest (opening + 2) rest.utf8ByteSize).bind fun behind =>
      match Text.bytesBefore ['}'] behind.toList with
      | none => some (.error (.unclosed (offset + opening)))
      | some width =>
          (Text.slice? rest (opening + 2) (opening + 2 + width)).bind fun inside =>
          let key := Text.trim inside.toList
          if key = [] then some (.error (.empty (offset + opening)))
          else if key.all isKeySymbol then
            let consumed := opening + 2 + width + 1
            match hrest : Text.slice? rest consumed rest.utf8ByteSize with
            | none => none
            | some rest' =>
                have := Text.utf8ByteSize_lt_of_slice? (Nat.succ_pos _) hrest
                (parseSlices (offset + consumed) rest').map fun result =>
                  result.map fun source =>
                    ⟨String.ofList key :: source.keys, segment :: source.segments⟩
          else some (.error (.invalidKey (offset + opening) (String.ofList key)))
termination_by rest.utf8ByteSize

theorem bytesBefore_openingMark (cs : List Char) :
    Text.bytesBefore openingMark cs = (splitOpen cs).map fun cut => Text.byteLength cut.1 := by
  induction cs with
  | nil => rfl
  | cons c cs ih =>
      rw [Text.bytesBefore, ih]
      by_cases hopen : openingMark <+: c :: cs
      · obtain ⟨behind, hbehind⟩ := hopen
        rw [← hbehind]
        rfl
      · rw [if_neg (by simpa using hopen), splitOpen_cons hopen, Option.map_map, Option.map_map]
        rfl

section Slices

variable {cs segment behind inside rest : List Char}

theorem slice?_segment (hopen : splitOpen cs = some (segment, behind)) :
    Text.slice? (String.ofList cs) 0 (Text.byteLength segment) = some (String.ofList segment) := by
  refine Text.slice?_ofList [] (openingMark ++ behind) ?_ rfl ?_
  · rw [eq_append_openingMark hopen, List.append_assoc, List.nil_append]
  · rw [Nat.zero_add]

theorem slice?_behind (hopen : splitOpen cs = some (segment, behind)) :
    Text.slice? (String.ofList cs) (Text.byteLength segment + 2) (String.ofList cs).utf8ByteSize =
      some (String.ofList behind) := by
  refine Text.slice?_ofList (segment ++ openingMark) [] ?_ ?_ ?_
  · rw [eq_append_openingMark hopen, List.append_nil]
  · rw [Text.byteLength_append, byteLength_openingMark]
  · rw [eq_append_openingMark hopen, Text.utf8ByteSize_ofList, Text.byteLength_append,
      Text.byteLength_append, byteLength_openingMark]

theorem slice?_inside (hopen : splitOpen cs = some (segment, behind))
    (hclose : Text.cutFirst '}' behind = some (inside, rest)) :
    Text.slice? (String.ofList cs) (Text.byteLength segment + 2)
      (Text.byteLength segment + 2 + Text.byteLength inside) = some (String.ofList inside) := by
  refine Text.slice?_ofList (segment ++ openingMark) ('}' :: rest) ?_ ?_ rfl
  · simp only [eq_append_of_cut hopen hclose, List.append_assoc]
  · rw [Text.byteLength_append, byteLength_openingMark]

theorem slice?_rest (hopen : splitOpen cs = some (segment, behind))
    (hclose : Text.cutFirst '}' behind = some (inside, rest)) :
    Text.slice? (String.ofList cs) (Text.byteLength segment + 2 + Text.byteLength inside + 1)
      (String.ofList cs).utf8ByteSize = some (String.ofList rest) := by
  refine Text.slice?_ofList (segment ++ openingMark ++ (inside ++ ['}'])) []
    ?_ ?_ ?_
  · rw [eq_append_of_cut hopen hclose]
    simp
  · rw [byteLength_placeholder]
    rfl
  · rw [eq_append_of_cut hopen hclose, Text.utf8ByteSize_ofList, byteLength_placeholder]

/-- One step of reading by slices, told by how the text is cut. -/
theorem parseSlices_of_splitOpen (hopen : splitOpen cs = some (segment, behind)) (offset : Nat) :
    parseSlices offset (String.ofList cs) =
      match Text.cutFirst '}' behind with
      | none => some (.error (.unclosed (offset + Text.byteLength segment)))
      | some (inside, rest) =>
          match keyFault? (offset + Text.byteLength segment) inside with
          | some fault => some (.error fault)
          | none =>
              (parseSlices (offset + Text.byteLength segment + 2 + Text.byteLength inside + 1)
                (String.ofList rest)).map fun result => result.map fun source =>
                  ⟨String.ofList (Text.trim inside) :: source.keys,
                    String.ofList segment :: source.segments⟩ := by
  rw [parseSlices, String.toList_ofList, bytesBefore_openingMark, hopen]
  dsimp only [Option.map]
  rw [slice?_segment hopen, slice?_behind hopen, Option.bind_some, Option.bind_some,
    String.toList_ofList, Text.bytesBefore_singleton]
  cases hclose : Text.cutFirst '}' behind with
  | none => rfl
  | some cut =>
      obtain ⟨inside, rest⟩ := cut
      dsimp only [Option.map]
      rw [slice?_inside hopen hclose, Option.bind_some, String.toList_ofList]
      have hplace : offset + (Text.byteLength segment + 2 + Text.byteLength inside + 1) =
          offset + Text.byteLength segment + 2 + Text.byteLength inside + 1 := by
        omega
      dsimp only [keyFault?]
      rw [hplace]
      split
      · rfl
      · split
        · split
          · next hnone =>
              rw [slice?_rest hopen hclose] at hnone
              cases hnone
          · next rest' hsome =>
              rw [slice?_rest hopen hclose] at hsome
              cases hsome
              rfl
        · rfl

end Slices

/-- **All slices exist**, and reading by them gives what reading gives. -/
theorem parseSlices_ofList (offset : Nat) (cs : List Char) :
    parseSlices offset (String.ofList cs) = some (parseFrom offset cs) := by
  cases hopen : splitOpen cs with
  | none =>
      rw [parseSlices, String.toList_ofList, bytesBefore_openingMark, hopen,
        parseFrom_of_not_infix (splitOpen_eq_none_iff.1 hopen)]
      rfl
  | some cut =>
      obtain ⟨segment, behind⟩ := cut
      rw [parseSlices_of_splitOpen hopen, parseFrom_of_splitOpen hopen]
      cases hclose : Text.cutFirst '}' behind with
      | none => rfl
      | some cut =>
          obtain ⟨inside, rest⟩ := cut
          have hlt : rest.length < cs.length := by
            simp only [eq_append_of_cut hopen hclose, List.length_append, List.length_cons]
            omega
          dsimp only
          cases keyFault? (offset + Text.byteLength segment) inside with
          | some fault => rfl
          | none =>
              dsimp only
              rw [parseSlices_ofList _ rest]
              rfl
termination_by cs.length

end Source

/-! ### What a fault says -/

/-- The number of bytes that a fault tells. -/
def PlaceholderFault.offset : PlaceholderFault → Nat
  | .unclosed offset | .empty offset | .invalidKey offset _ => offset

/-- What a fault says of a placeholder with the text `inside`, behind the text `before`. -/
structure PlaceholderFault.DescribesInside (fault : PlaceholderFault) (before inside : String) :
    Prop where
  empty_iff : (∃ offset, fault = .empty offset) ↔ Text.trim inside.toList = []
  invalidKey_iff : ∀ key, (∃ offset, fault = .invalidKey offset key) ↔
    key.toList = Text.trim inside.toList ∧ key ≠ "" ∧ ∃ c ∈ key.toList, isKeySymbol c = false
  /-- It is told whatever comes behind the placeholder. -/
  parse_eq : ∀ rest, Source.parse (before ++ "$\x7b" ++ inside ++ "\x7d" ++ rest) = .error fault

/-- What a fault says of the placeholder whose mark is between `before` and `behind`. -/
structure PlaceholderFault.Describes (fault : PlaceholderFault) (before behind : String) :
    Prop where
  offset_eq : fault.offset = before.utf8ByteSize
  /-- What is in front of the placeholder can be read. -/
  readable : ∃ source, Source.parse before = .ok source
  unclosed_iff : (∃ offset, fault = .unclosed offset) ↔ '}' ∉ behind.toList
  closed : ∀ inside rest, behind = inside ++ "\x7d" ++ rest → '}' ∉ inside.toList →
    fault.DescribesInside before inside

theorem keyFault?_cases {opening : Nat} {inside : List Char} {fault : PlaceholderFault}
    (h : keyFault? opening inside = some fault) :
    Text.trim inside = [] ∧ fault = .empty opening ∨
      Text.trim inside ≠ [] ∧ (∃ c ∈ Text.trim inside, isKeySymbol c = false) ∧
        fault = .invalidKey opening (String.ofList (Text.trim inside)) := by
  rw [keyFault?] at h
  split at h
  · next hempty =>
      cases h
      exact Or.inl ⟨hempty, rfl⟩
  · next hne =>
      split at h
      · cases h
      · next hsymbols =>
          cases h
          refine Or.inr ⟨hne, ?_, rfl⟩
          simpa using hsymbols

/-- What is wrong with a key is said. -/
theorem describesInside_of_keyFault? {fault : PlaceholderFault} {before inside : String}
    (hbefore : ∃ source, Source.parse before = .ok source) (hinside : '}' ∉ inside.toList)
    (h : keyFault? before.utf8ByteSize inside.toList = some fault) :
    fault.DescribesInside before inside where
  empty_iff := by
    rcases keyFault?_cases h with ⟨hempty, rfl⟩ | ⟨hne, -, rfl⟩
    · simp [hempty]
    · simp [hne]
  invalidKey_iff key := by
    rcases keyFault?_cases h with ⟨hempty, rfl⟩ | ⟨hne, hsymbol, rfl⟩
    · have hkey : key.toList = [] → key = "" := String.toList_eq_nil_iff.1
      exact ⟨nofun, fun hinvalid => absurd (hkey (hinvalid.1.trans hempty)) hinvalid.2.1⟩
    · constructor
      · rintro ⟨offset, heq⟩
        cases heq
        rw [String.toList_ofList]
        exact ⟨rfl, by simpa using hne, hsymbol⟩
      · rintro ⟨hkey, -, -⟩
        exact ⟨_, by rw [← hkey, String.ofList_toList]⟩
  parse_eq rest := by
    refine Source.parse_eq_error_iff.2 ⟨before, inside ++ "\x7d" ++ rest, ?_, hbefore, ?_⟩
    · simp only [String.append_assoc]
      rfl
    · rw [← h, ← placeholderFault?_append hinside _ rest.toList]
      simp

/-- What is wrong with a placeholder is said. -/
theorem describes_of_placeholderFault? {fault : PlaceholderFault} {before behind : String}
    (hbefore : ∃ source, Source.parse before = .ok source)
    (h : placeholderFault? before.utf8ByteSize behind.toList = some fault) :
    fault.Describes before behind where
  offset_eq := by
    rw [placeholderFault?] at h
    split at h
    · cases h
      rfl
    · rcases keyFault?_cases h with ⟨-, rfl⟩ | ⟨-, -, rfl⟩ <;> rfl
  readable := hbefore
  unclosed_iff := by
    rw [← Text.cutFirst_eq_none_iff]
    rw [placeholderFault?] at h
    split at h
    · next hclose =>
        cases h
        simp [hclose]
    · next inside rest hclose =>
        rw [hclose]
        rcases keyFault?_cases h with ⟨-, rfl⟩ | ⟨-, -, rfl⟩ <;> simp
  closed := by
    rintro inside rest rfl hinside
    refine describesInside_of_keyFault? hbefore hinside ?_
    rw [← h, ← placeholderFault?_append hinside _ rest.toList]
    simp

namespace Source

/-- **A fault points to the first placeholder that has one.**  Reading a text, also when it goes by
slices between bytes, never looks for a slice that is not there.  If the text is not read, then the
fault tells a byte at which it can be cut; a mark opens there; what is in front of it can be read by
itself; and what is wrong is told by what comes behind the mark. -/
theorem parse_error_leftmost (text : String) :
    parseSlices 0 text = some (parse text) ∧
    ∀ fault, parse text = .error fault →
      String.Pos.Raw.IsValid text ⟨fault.offset⟩ ∧
      ∃ before behind, text = before ++ "$\x7b" ++ behind ∧ fault.Describes before behind := by
  constructor
  · have hslices := parseSlices_ofList 0 text.toList
    rwa [String.ofList_toList] at hslices
  · intro fault h
    obtain ⟨before, behind, htext, hbefore, hfault⟩ := parse_eq_error_iff.1 h
    have hdescribes := describes_of_placeholderFault? hbefore hfault
    refine ⟨?_, before, behind, htext, hdescribes⟩
    rw [← String.Pos.Raw.isValid_eq_true_iff, Text.isValid_iff]
    refine ⟨before, String.ofList openingMark ++ behind, ?_, hdescribes.offset_eq⟩
    rw [htext, String.append_assoc]

/-- Letters of several bytes, a wide blank and another placeholder stand in front of the fault. -/
theorem parse_error_leftmost_wide :
    parse "é$\x7b\u3000ä \x7d€${ a b}${}" = .error (.invalidKey 14 "a b") ∧
    String.Pos.Raw.IsValid "é$\x7b\u3000ä \x7d€${ a b}${}" ⟨14⟩ ∧
    ∃ before behind, "é$\x7b\u3000ä \x7d€${ a b}${}" = before ++ "$\x7b" ++ behind ∧
      (PlaceholderFault.invalidKey 14 "a b").Describes before behind := by
  have h : parse "é$\x7b\u3000ä \x7d€${ a b}${}" = .error (.invalidKey 14 "a b") := by
    decide +kernel
  exact ⟨h, (parse_error_leftmost _).2 _ h⟩

end Source

end QueryWeave
