/-
**Dictionaries.**

A dictionary gives things under textual keys.  It is the list of its entries in the order in which
they were made, and of several entries with one key the last one counts.  When no key comes twice,
all entries can be found, so their order does not matter.

Main definitions:

* `QueryWeave.Dictionary` — the type;
* `QueryWeave.Dictionary.find?` — what stands under a key;
* `QueryWeave.Dictionary.keys`, `QueryWeave.Dictionary.insert`.

Main results:

* `QueryWeave.Dictionary.find?_append` — later entries count before earlier ones;
* `QueryWeave.Dictionary.mem_keys_iff` — the keys are those under which something stands;
* `QueryWeave.Dictionary.find?_eq_some_iff` — **without repeated keys, what was entered is found**;
* `QueryWeave.Dictionary.find?_eq_of_mem_iff` — dictionaries with the same entries find the same.
-/

set_option relaxedAutoImplicit false
set_option autoImplicit false

namespace QueryWeave

/-- Entries with their keys, in the order in which they were made. -/
abbrev Dictionary (α : Type) : Type := List (String × α)

namespace Dictionary

variable {α : Type}

/-- What the last entry with the given key holds. -/
def find? : Dictionary α → String → Option α
  | [], _ => none
  | (k, a) :: entries, key =>
      match find? entries key with
      | some b => some b
      | none => if k = key then some a else none

/-- The keys of all entries, in order. -/
def keys (d : Dictionary α) : List String :=
  d.map Prod.fst

/-- Makes a new entry. -/
def insert (d : Dictionary α) (key : String) (a : α) : Dictionary α :=
  d ++ [(key, a)]

@[simp] theorem find?_nil (key : String) : find? ([] : Dictionary α) key = none := rfl

theorem find?_append (d e : Dictionary α) (key : String) :
    find? (d ++ e) key = (find? e key).or (find? d key) := by
  induction d with
  | nil => simp
  | cons entry d ih =>
      obtain ⟨k, a⟩ := entry
      rw [List.cons_append, find?, ih, find?]
      cases find? e key <;> simp

@[simp] theorem find?_insert (d : Dictionary α) (key key' : String) (a : α) :
    find? (d.insert key a) key' = if key = key' then some a else find? d key' := by
  rw [insert, find?_append]
  simp only [find?]
  split <;> simp

theorem mem_keys_iff {d : Dictionary α} {key : String} :
    key ∈ d.keys ↔ ∃ a, d.find? key = some a := by
  induction d with
  | nil => simp [keys]
  | cons entry d ih =>
      obtain ⟨k, a⟩ := entry
      have hkeys : key ∈ keys ((k, a) :: d) ↔ key = k ∨ key ∈ keys d := by simp [keys]
      rw [hkeys, ih, find?]
      cases find? d key with
      | none => simp [eq_comm]
      | some b => simp

theorem mem_keys_of_find? {d : Dictionary α} {key : String} {a : α}
    (h : d.find? key = some a) : key ∈ d.keys :=
  mem_keys_iff.2 ⟨a, h⟩

end Dictionary

end QueryWeave

namespace QueryWeave.Dictionary

/-! ### Dictionaries as sets of entries -/

variable {α : Type} {d d' : Dictionary α} {key : String} {a : α}

/-- What is found under a key was entered under it. -/
theorem mem_of_find? (h : d.find? key = some a) : (key, a) ∈ d := by
  induction d with
  | nil => cases h
  | cons entry d ih =>
      obtain ⟨k, b⟩ := entry
      rw [find?] at h
      split at h
      · next c hfound =>
          cases h
          exact List.mem_cons_of_mem _ (ih hfound)
      · split at h
        · next hkey =>
            cases h
            rw [hkey]
            exact List.mem_cons_self
        · cases h

/-- Without repeated keys, what was entered is found. -/
theorem find?_eq_some_iff (h : d.keys.Nodup) : d.find? key = some a ↔ (key, a) ∈ d := by
  refine ⟨mem_of_find?, fun hmem => ?_⟩
  induction d with
  | nil => cases hmem
  | cons entry d ih =>
      obtain ⟨k, b⟩ := entry
      obtain ⟨hk, hd⟩ := List.nodup_cons.1 h
      rw [find?]
      rcases List.mem_cons.1 hmem with heq | hmem
      · obtain ⟨rfl, rfl⟩ := Prod.mk.inj heq
        cases hfound : find? d key with
        | none => simp
        | some c => exact absurd (mem_keys_of_find? hfound) hk
      · rw [ih hd hmem]

/-- Without repeated keys, dictionaries with the same entries find the same. -/
theorem find?_eq_of_mem_iff (h : d.keys.Nodup) (h' : d'.keys.Nodup)
    (hmem : ∀ entry, entry ∈ d ↔ entry ∈ d') (key : String) : d.find? key = d'.find? key := by
  refine Option.ext fun a => ?_
  rw [find?_eq_some_iff h, find?_eq_some_iff h']
  exact hmem (key, a)

end QueryWeave.Dictionary
