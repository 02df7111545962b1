/-
**Lists in ascending order of a key.**

Definitions, file extensions and the fields of an object are put in order of a textual key, and of
several entries with one key the last one stays.  Texts are compared by code points, which is also
the order of their bytes in UTF-8; the names of files are compared by their bytes.

Main definitions:

* `QueryWeave.KeyOrder.insert` — putting one entry in its place, instead of one with its key;
* `QueryWeave.KeyOrder.ofList` — the entries of a list in order, the last of each key;
* `QueryWeave.KeyOrder.sorted` — the case where the entries are themselves the keys.

Main results:

* `QueryWeave.KeyOrder.pairwise_ofList` — the keys ascend strictly.
-/

set_option relaxedAutoImplicit false
set_option autoImplicit false

namespace QueryWeave.KeyOrder

variable {α : Type}

section Definitions

variable {κ : Type} [LT κ] [DecidableLT κ]

/-- Puts `x` into an ascending list, in place of the entry with its key if there is one. -/
def insert (key : α → κ) (x : α) : List α → List α
  | [] => [x]
  | y :: ys =>
      if key x < key y then x :: y :: ys
      else if key y < key x then y :: insert key x ys
      else x :: ys

/-- The entries of `xs` in ascending order of their keys, of each key the last one. -/
def ofList (key : α → κ) (xs : List α) : List α :=
  xs.foldl (fun sorted x => insert key x sorted) []

/-- The members of a list in ascending order, each once. -/
def sorted (keys : List κ) : List κ :=
  ofList id keys

@[simp] theorem ofList_nil (key : α → κ) : ofList key [] = [] := rfl

@[simp] theorem ofList_append_singleton (key : α → κ) (xs : List α) (x : α) :
    ofList key (xs ++ [x]) = insert key x (ofList key xs) := by
  simp [ofList]

theorem mem_insert {key : α → κ} {x y : α} {ys : List α} (h : y ∈ insert key x ys) :
    y = x ∨ y ∈ ys := by
  induction ys with
  | nil => simpa [insert] using h
  | cons z zs ih =>
      unfold insert at h
      split at h
      · simpa using h
      · split at h
        · rcases List.mem_cons.1 h with rfl | h
          · simp
          · rcases ih h with rfl | h <;> simp [*]
        · rcases List.mem_cons.1 h with rfl | h <;> simp [*]

end Definitions

theorem pairwise_insert (key : α → String) (x : α) (ys : List α)
    (h : ys.Pairwise fun a b => key a < key b) :
    (insert key x ys).Pairwise fun a b => key a < key b := by
  induction ys with
  | nil => simp [insert]
  | cons y ys ih =>
      obtain ⟨hy, hys⟩ := List.pairwise_cons.1 h
      unfold insert
      split
      · next hxy =>
          refine List.pairwise_cons.2 ⟨?_, h⟩
          intro z hz
          rcases List.mem_cons.1 hz with rfl | hz
          · exact hxy
          · exact String.lt_trans hxy (hy z hz)
      · next hxy =>
          split
          · next hyx =>
              refine List.pairwise_cons.2 ⟨?_, ih hys⟩
              intro z hz
              rcases mem_insert hz with rfl | hz
              · exact hyx
              · exact hy z hz
          · next hyx =>
              have hkey : key x = key y :=
                String.le_antisymm (String.not_lt.1 hyx) (String.not_lt.1 hxy)
              refine List.pairwise_cons.2 ⟨?_, hys⟩
              intro z hz
              rw [hkey]
              exact hy z hz

/-- The keys of `ofList` ascend strictly, so no key comes twice. -/
theorem pairwise_ofList (key : α → String) (xs : List α) :
    (ofList key xs).Pairwise fun a b => key a < key b := by
  suffices ∀ sorted : List α, (sorted.Pairwise fun a b => key a < key b) →
      (xs.foldl (fun sorted x => insert key x sorted) sorted).Pairwise
        fun a b => key a < key b from
    this [] List.Pairwise.nil
  induction xs with
  | nil => exact fun _ h => h
  | cons x xs ih => exact fun sorted h => ih _ (pairwise_insert key x sorted h)

end QueryWeave.KeyOrder
