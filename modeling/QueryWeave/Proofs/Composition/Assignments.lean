/-
**Assignments for placeholders.**

A key is written in two ways: in a placeholder, where blanks around it do not count, and in front of
the equals sign of an assignment, where they do not count either.  Both ways of reading find the
same key, since no key holds a blank, a brace or an equals sign.

So each placeholder of a text can be given a value by an assignment.  If all of them are, and there
are no fragments, then the document is the text with these values in the place of its placeholders,
whatever the values look like.

Main definitions:

* `QueryWeave.Command.Assign` — arguments that assign values to keys.

Main results:

* `QueryWeave.Command.parseAssignment_of_parse` — an assignment to what stands in a placeholder;
* `QueryWeave.Command.Assign.exists_vars` — arguments that assign values are read;
* `QueryWeave.Resolver.resolve_of_vars` — keys that all have plain texts are resolved to them;
* `QueryWeave.Command.assignments_fill_placeholders` — **the values come in the place of the
  placeholders**.
-/

import QueryWeave.Command.Arguments
import QueryWeave.Dictionary
import QueryWeave.Proofs.Resolution.Memoisation
import QueryWeave.Proofs.Template.Rendering
import QueryWeave.Proofs.Template.Substitution

set_option relaxedAutoImplicit false
set_option autoImplicit false

namespace QueryWeave

/-! ### Keys in placeholders and in assignments -/

/-- In what was read from a text, all keys are keys. -/
theorem Source.isKey_of_parse {text : String} {source : Source} (h : parse text = .ok source)
    {key : String} (hkey : key ∈ source.keys) : IsKey key :=
  (exists_render_of_parseFrom h).1.keys key hkey

namespace Command

/-- The text in front of the first equals sign is the key, up to blanks around it. -/
theorem parseAssignment_of_trim {before key : String} (hmark : '=' ∉ before.toList)
    (htrim : Text.trim before.toList = key.toList) (hne : key ≠ "") (value : String) :
    parseAssignment (before ++ "=" ++ value) = .ok (key, value) := by
  have hcut : Text.cutFirst '=' (before ++ "=" ++ value).toList =
      some (before.toList, value.toList) := by
    have happend : (before ++ "=" ++ value).toList = before.toList ++ '=' :: value.toList := by
      simp
    rw [happend, Text.cutFirst_append hmark]
  rw [parseAssignment, hcut]
  dsimp only
  rw [htrim, if_neg (by simpa using hne), String.ofList_toList, String.ofList_toList]

/-- Blanks around a key do not count. -/
theorem parseAssignment_around (padding : Padding) {key : String} (h : IsKey key)
    (value : String) :
    parseAssignment (String.ofList (padding.around key) ++ "=" ++ value) = .ok (key, value) := by
  refine parseAssignment_of_trim ?_ ?_ h.1 value
  · rw [String.toList_ofList]
    exact padding.not_mem_around h (by decide +kernel) (by decide)
  · rw [String.toList_ofList]
    exact padding.trim_around h

/-- What stands in a placeholder assigns to its key. -/
theorem parseAssignment_of_parse {inside : String} {source : Source} (hinside : '}' ∉ inside.toList)
    (h : Source.parse ("$\x7b" ++ inside ++ "\x7d") = .ok source) :
    ∃ key, source.keys = [key] ∧
      ∀ value, parseAssignment (inside ++ "=" ++ value) = .ok (key, value) := by
  obtain ⟨left, right, hleft, hright, hpadded⟩ := Text.exists_eq_append_trim inside.toList
  have hkeys : source.keys = [String.ofList (Text.trim inside.toList)] := by
    have htext : ("$\x7b" ++ inside ++ "\x7d").toList =
        '$' :: '{' :: (inside.toList ++ '}' :: []) := by
      simp
    have hparts := textParts_of_cutFirst (Text.cutFirst_append hinside [])
    rw [Source.keys_eq_of_parse h, placeholders, htext, hparts]
    simp [textParts, TextPart.key?]
  have hkey : IsKey (String.ofList (Text.trim inside.toList)) :=
    Source.isKey_of_parse h (by rw [hkeys]; exact List.mem_cons_self)
  refine ⟨_, hkeys, fun value => ?_⟩
  have haround := parseAssignment_around ⟨left, right, hleft, hright⟩ hkey value
  rw [Padding.around, String.toList_ofList, ← hpadded, String.ofList_toList] at haround
  exact haround

/-! ### Assigning values -/

/-- The arguments assign to each of the keys its value and to no other key any, in any order. -/
def Assign (arguments keys : List String) (value : String → String) : Prop :=
  ∀ argument, argument ∈ arguments ↔ ∃ key ∈ keys, argument = key ++ "=" ++ value key

/-- Arguments that assign values to keys are read, and the keys stand for these values. -/
theorem Assign.exists_vars {arguments keys : List String} {value : String → String}
    (h : Assign arguments keys value) (hkeys : ∀ key ∈ keys, IsKey key) :
    ∃ vars, arguments.mapM parseAssignment = .ok vars ∧
      ∀ key ∈ keys, Dictionary.find? vars key = some (value key) := by
  have hread : ∀ key ∈ keys, parseAssignment (key ++ "=" ++ value key) = .ok (key, value key) := by
    intro key hkey
    have haround := parseAssignment_around ⟨[], [], nofun, nofun⟩ (hkeys key hkey) (value key)
    simpa [Padding.around] using haround
  obtain ⟨vars, hvars⟩ : ∃ vars, arguments.mapM parseAssignment = .ok vars := by
    refine Result.exists_mapM_eq_ok_iff.2 fun argument hargument => ?_
    obtain ⟨key, hkey, rfl⟩ := (h argument).1 hargument
    exact ⟨_, hread key hkey⟩
  have hmem := @Result.mem_of_mapM_eq_ok _ _ _ _ _ _ hvars
  refine ⟨vars, hvars, fun key hkey => ?_⟩
  have hentry : (key, value key) ∈ vars :=
    hmem.2 ⟨_, (h _).2 ⟨key, hkey, rfl⟩, hread key hkey⟩
  -- an earlier or a later entry under the key holds the same value
  obtain ⟨found, hfound⟩ := Dictionary.mem_keys_iff.1 (List.mem_map_of_mem (f := Prod.fst) hentry)
  obtain ⟨argument, hargument, hfound'⟩ := hmem.1 (Dictionary.mem_of_find? hfound)
  obtain ⟨key', hkey', rfl⟩ := (h argument).1 hargument
  rw [hread key' hkey'] at hfound'
  obtain ⟨rfl, rfl⟩ := Prod.mk.inj (Except.ok.inj hfound')
  exact hfound

end Command

/-! ### Plain texts alone -/

/-- Keys that all have plain texts stand for these, and nothing happens. -/
theorem interpretKeys_of_vars {b : Bindings} {path keys : List String} {m : Memory}
    {value : String → String} (h : ∀ key ∈ keys, b.vars.find? key = some (value key)) :
    interpretKeys b path keys m = (.ok (keys.map fun key => .leaf (value key)), m) := by
  induction keys with
  | nil => rw [interpretKeys, List.map_nil]
  | cons key keys ih =>
      obtain ⟨hkey, hkeys⟩ := List.forall_mem_cons.1 h
      rw [interpretKeys, interpretKey_of_var hkey]
      simp only [ih hkeys, List.map_cons]

theorem collectAll_leaves (keys : List String) (value : String → String) :
    collectAll (keys.map fun key => .leaf (value key)) = [] := by
  induction keys with
  | nil => rfl
  | cons key keys ih =>
      rw [collectAll_eq_preorders] at ih ⊢
      rw [List.map_cons, preorders, ih]
      rfl

/-- A template of plain texts alone needs no definitions. -/
theorem Template.documentText_of_leaves {t : Template} {keys : List String}
    {value : String → String} (h : t.splices = keys.map fun key => .leaf (value key)) :
    t.documentText = weave t.segments (keys.map value) := by
  have hdefinitions : t.definitions = "" := by
    rw [definitions, fragments, h, collectAll_leaves]
    rfl
  have hnames : t.splices.map Splice.name = keys.map value := by
    rw [h, List.map_map]
    rfl
  rw [t.documentText_eq, hdefinitions, String.append_empty, body, hnames]

/-- Keys that all have plain texts are resolved to them. -/
theorem Resolver.resolve_of_vars {r : Resolver} {source : Source} {value : String → String}
    (hlength : source.segments.length = source.keys.length + 1)
    (h : ∀ key ∈ source.keys, r.bindings.vars.find? key = some (value key)) :
    ∃ t, (r.resolve source).1 = .ok t ∧
      t.documentText = weave source.segments (source.keys.map value) := by
  refine ⟨⟨source.segments, source.keys.map fun key => .leaf (value key), by simpa using hlength⟩,
    ?_, Template.documentText_of_leaves rfl⟩
  rw [resolve, interpretSource, interpretKeys_of_vars h]
  simp [Template.ofLists, hlength, Except.mapError]

namespace Command

/-! ### Values in the place of placeholders -/

/-- **Assignments fill placeholders.**  Whatever stands in a placeholder that can be read assigns to
its key, if an equals sign and a value are put behind it.  And if arguments assign a value to each
key of a text, and there are no fragments, then they are read, the text is resolved, and its
document is the text with the values in the place of its placeholders, all at once, and nothing
more. -/
theorem assignments_fill_placeholders :
    (∀ (inside : String) (source : Source), '}' ∉ inside.toList →
      Source.parse ("$\x7b" ++ inside ++ "\x7d") = .ok source →
      ∃ key, source.keys = [key] ∧
        ∀ value, parseAssignment (inside ++ "=" ++ value) = .ok (key, value)) ∧
    ∀ (text : String) (source : Source) (value : String → String) (arguments : List String),
      Source.parse text = .ok source → Assign arguments source.keys value →
      ∃ vars r t, arguments.mapM parseAssignment = .ok vars ∧
        Resolver.new ⟨[], vars⟩ = .ok r ∧ (r.resolve source).1 = .ok t ∧
        t.documentText = substitute value text := by
  refine ⟨fun inside source => parseAssignment_of_parse, ?_⟩
  intro text source value arguments hparse hassign
  obtain ⟨vars, hread, hvars⟩ :=
    hassign.exists_vars fun key hkey => Source.isKey_of_parse hparse hkey
  have hshared : Bindings.sharedKeys ⟨[], vars⟩ = [] := Bindings.sharedKeys_eq_nil_iff.2 nofun
  have hlength := (Source.readFrom_of_parse hparse).length_segments
  obtain ⟨t, ht, htext⟩ :=
    Resolver.resolve_of_vars (r := ⟨⟨[], vars⟩, .empty, hshared⟩) hlength hvars
  refine ⟨vars, _, t, hread, Resolver.new_eq_ok hshared, ht, ?_⟩
  rw [htext, Source.weave_eq_of_parse hparse]

/-- A value with an equals sign and a placeholder in it, and one that ends like a selection. -/
def lookalike (key : String) : String :=
  if key = "a-b" then "x=${z}" else "...\x7d"

/-- Values that look like placeholders and selections come into a text as they are. -/
theorem assignments_fill_lookalikes :
    (∃ key, ["a-b"] = [key] ∧
      ∀ value, parseAssignment (" a-b " ++ "=" ++ value) = .ok (key, value)) ∧
    ∃ vars r t, ["z=...\x7d", "a-b=x=${z}"].mapM parseAssignment = .ok vars ∧
      Resolver.new ⟨[], vars⟩ = .ok r ∧
      (r.resolve ⟨["a-b", "z", "a-b"], ["<", "|", "$", ">"]⟩).1 = .ok t ∧
      t.documentText = "<x=${z}|...\x7d$x=${z}>" := by
  have hassign : Assign ["z=...\x7d", "a-b=x=${z}"] ["a-b", "z", "a-b"] lookalike := by
    intro argument
    simp [lookalike, or_comm]
  obtain ⟨vars, r, t, hread, hnew, ht, htext⟩ :=
    assignments_fill_placeholders.2 "<${a-b}|${ z }$${a-b}>"
      ⟨["a-b", "z", "a-b"], ["<", "|", "$", ">"]⟩ lookalike _ (by decide +kernel) hassign
  refine ⟨?_, vars, r, t, hread, hnew, ht, htext.trans (by decide +kernel)⟩
  exact assignments_fill_placeholders.1 " a-b " ⟨["a-b"], ["", ""]⟩ (by decide)
    (by decide +kernel)

end Command

end QueryWeave
