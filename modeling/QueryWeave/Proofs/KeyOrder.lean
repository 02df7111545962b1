/-
**What stays of a list that is put in order of a key.**

Putting entries in order of their keys keeps one entry of each key, the last one.  This module says
so for all lists: which entries stay, which keys there are, and that the keys together with what
stands under them determine the ordered list.

Main results:

* `QueryWeave.KeyOrder.mem_ofList_iff`, `QueryWeave.KeyOrder.mem_ofList_iff_exists_append` — **the
  last entry of each key stays**;
* `QueryWeave.KeyOrder.mem_map_ofList` — no key is lost, and none comes from nowhere;
* `QueryWeave.KeyOrder.eq_of_mem_iff` — a list in order is determined by its members;
* `QueryWeave.KeyOrder.map_ofList_eq` — the keys in order are determined by which keys there are;
* `QueryWeave.KeyOrder.ofList_append_ofList` — parts of a list may be put in order before the whole;
* `QueryWeave.KeyOrder.forall₂_ofList`, `QueryWeave.KeyOrder.ofList_map` — ordering commutes with
  anything that keeps the keys.
-/

import QueryWeave.KeyOrder
import Mathlib.Data.List.Forall2
import Mathlib.Data.List.Induction

set_option relaxedAutoImplicit false
set_option autoImplicit false

namespace QueryWeave.KeyOrder

variable {α β : Type}

theorem forall₂_insert {R : α → β → Prop} {key : α → String} {key' : β → String}
    (hkey : ∀ x y, R x y → key x = key' y) {x : α} {y : β} {xs : List α} {ys : List β}
    (hxy : R x y) (h : List.Forall₂ R xs ys) :
    List.Forall₂ R (insert key x xs) (insert key' y ys) := by
  induction h with
  | nil => exact .cons hxy .nil
  | cons hzw hrest ih =>
      simp only [insert, hkey _ _ hxy, hkey _ _ hzw]
      split
      · exact .cons hxy (.cons hzw hrest)
      · split
        · exact .cons hzw ih
        · exact .cons hxy hrest

/-- Lists that correspond, entry by entry and key by key, do so when they are in order. -/
theorem forall₂_ofList {R : α → β → Prop} {key : α → String} {key' : β → String}
    (hkey : ∀ x y, R x y → key x = key' y) {xs : List α} {ys : List β}
    (h : List.Forall₂ R xs ys) : List.Forall₂ R (ofList key xs) (ofList key' ys) := by
  refine List.rel_foldl (P := List.Forall₂ R) (R := R) ?_ .nil h
  intro sorted sorted' hsorted x y hxy
  exact forall₂_insert hkey hxy hsorted

/-- Ordering commutes with a map that keeps the keys. -/
theorem ofList_map {key : α → String} {key' : β → String} {g : β → α}
    (h : ∀ x, key (g x) = key' x) (xs : List β) :
    ofList key (xs.map g) = (ofList key' xs).map g := by
  have hmap : List.Forall₂ (fun a b => a = g b) (xs.map g) xs :=
    List.forall₂_map_left_iff.2 (List.forall₂_same.2 fun _ _ => rfl)
  have hkey : ∀ a b, a = g b → key a = key' b := by
    rintro a b rfl
    exact h b
  rw [← List.forall₂_eq_eq_eq, List.forall₂_map_right_iff]
  exact forall₂_ofList hkey hmap

/-- In an ascending list, putting in `x` takes away what has its key, and nothing else. -/
theorem mem_insert_iff {key : α → String} {x y : α} {ys : List α}
    (h : ys.Pairwise fun a b => key a < key b) :
    y ∈ insert key x ys ↔ y = x ∨ y ∈ ys ∧ key y ≠ key x := by
  induction ys with
  | nil => simp [insert]
  | cons z zs ih =>
      obtain ⟨hz, hzs⟩ := List.pairwise_cons.1 h
      unfold insert
      split
      · next hxz =>
          -- everything in the list is above `x`
          have habove : ∀ w ∈ z :: zs, key w ≠ key x := by
            intro w hw hkey
            rcases List.mem_cons.1 hw with rfl | hw
            · exact String.lt_irrefl _ (hkey ▸ hxz)
            · exact String.lt_irrefl _ (hkey ▸ String.lt_trans hxz (hz w hw))
          rw [List.mem_cons]
          exact or_congr_right ⟨fun hy => ⟨hy, habove y hy⟩, And.left⟩
      · next hxz =>
          split
          · next hzx =>
              have hne : key z ≠ key x := fun hkey => String.lt_irrefl _ (hkey ▸ hzx)
              rw [List.mem_cons, ih hzs, List.mem_cons]
              constructor
              · rintro (rfl | rfl | ⟨hy, hkey⟩)
                · exact Or.inr ⟨Or.inl rfl, hne⟩
                · exact Or.inl rfl
                · exact Or.inr ⟨Or.inr hy, hkey⟩
              · rintro (rfl | ⟨rfl | hy, hkey⟩)
                · exact Or.inr (Or.inl rfl)
                · exact Or.inl rfl
                · exact Or.inr (Or.inr ⟨hy, hkey⟩)
          · next hzx =>
              have hkey : key z = key x :=
                String.le_antisymm (String.not_lt.1 hxz) (String.not_lt.1 hzx)
              rw [List.mem_cons, List.mem_cons]
              constructor
              · rintro (rfl | hy)
                · exact Or.inl rfl
                · exact Or.inr ⟨Or.inr hy, fun hyx =>
                    String.lt_irrefl _ (hyx ▸ hkey ▸ hz y hy)⟩
              · rintro (rfl | ⟨rfl | hy, hyx⟩)
                · exact Or.inl rfl
                · exact absurd hkey hyx
                · exact Or.inr hy

/-- **The last entry of each key stays**, and only that. -/
theorem mem_ofList_iff {key : α → String} {x : α} {xs : List α} :
    x ∈ ofList key xs ↔ (xs.filter fun y => key y = key x).getLast? = some x := by
  induction xs using List.reverseRecOn with
  | nil => simp
  | append_singleton xs y ih =>
      rw [ofList_append_singleton, mem_insert_iff (pairwise_ofList key xs), ih, List.filter_append]
      by_cases hkey : key y = key x
      · simp [hkey, eq_comm]
      · have hne : x ≠ y := fun hxy => hkey (congrArg key hxy.symm)
        simp [hkey, hne, Ne.symm hkey]

/-- The entry that stays has none with its key behind it. -/
theorem mem_ofList_iff_exists_append {key : α → String} {x : α} {xs : List α} :
    x ∈ ofList key xs ↔
      ∃ before behind, xs = before ++ x :: behind ∧ ∀ y ∈ behind, key y ≠ key x := by
  rw [mem_ofList_iff]
  constructor
  · intro h
    obtain ⟨ys, hys⟩ := List.getLast?_eq_some_iff.1 h
    obtain ⟨before, rest, rfl, -, hrest⟩ := List.filter_eq_append_iff.1 hys
    obtain ⟨between, behind, rfl, -, -, hbehind⟩ := List.filter_eq_cons_iff.1 hrest
    refine ⟨before ++ between, behind, by rw [List.append_assoc], ?_⟩
    simpa using hbehind
  · rintro ⟨before, behind, rfl, hbehind⟩
    have hnone : behind.filter (fun y => key y = key x) = [] := by simpa using hbehind
    simp [List.filter_cons_of_pos, hnone]

theorem mem_of_mem_ofList {key : α → String} {x : α} {xs : List α} (h : x ∈ ofList key xs) :
    x ∈ xs :=
  (List.mem_filter.1 (List.mem_of_getLast? (mem_ofList_iff.1 h))).1

/-- Every entry is represented by one with its key. -/
theorem exists_mem_ofList {key : α → String} {x : α} {xs : List α} (h : x ∈ xs) :
    ∃ y ∈ ofList key xs, key y = key x := by
  have hx : x ∈ xs.filter fun y => key y = key x := by simp [h]
  obtain ⟨y, hy⟩ := Option.isSome_iff_exists.1 (List.getLast?_isSome.2 (List.ne_nil_of_mem hx))
  have hkey : key y = key x := by simpa using (List.mem_filter.1 (List.mem_of_getLast? hy)).2
  refine ⟨y, mem_ofList_iff.2 ?_, hkey⟩
  rw [hkey]
  exact hy

/-- The keys of the ordered list are those of the list. -/
theorem mem_map_ofList {key : α → String} {k : String} {xs : List α} :
    k ∈ (ofList key xs).map key ↔ ∃ x ∈ xs, key x = k := by
  rw [List.mem_map]
  constructor
  · rintro ⟨x, hx, rfl⟩
    exact ⟨x, mem_of_mem_ofList hx, rfl⟩
  · rintro ⟨x, hx, rfl⟩
    exact exists_mem_ofList hx

/-- A list in order of its keys is determined by its members. -/
theorem eq_of_mem_iff {key : α → String} {xs ys : List α}
    (h : xs.Pairwise fun a b => key a < key b) (h' : ys.Pairwise fun a b => key a < key b)
    (hmem : ∀ x, x ∈ xs ↔ x ∈ ys) : xs = ys := by
  have hnodup : ∀ {zs : List α}, (zs.Pairwise fun a b => key a < key b) → zs.Nodup := by
    intro zs hzs
    refine hzs.imp ?_
    rintro a _ hlt rfl
    exact String.lt_irrefl _ hlt
  have hperm := (List.perm_ext_iff_of_nodup (hnodup h) (hnodup h')).2 hmem
  refine hperm.eq_of_pairwise ?_ h h'
  intro a b _ _ hab hba
  exact absurd (String.lt_trans hab hba) (String.lt_irrefl _)

/-- The keys in order are determined by which keys there are. -/
theorem map_ofList_eq {key : α → String} {xs ys : List α}
    (h : ∀ k, (∃ x ∈ xs, key x = k) ↔ ∃ y ∈ ys, key y = k) :
    (ofList key xs).map key = (ofList key ys).map key := by
  have hascending : ∀ zs : List α, ((ofList key zs).map key).Pairwise fun k k' => id k < id k' :=
    fun zs => List.pairwise_map.2 (pairwise_ofList key zs)
  refine eq_of_mem_iff (hascending xs) (hascending ys) ?_
  intro k
  rw [mem_map_ofList, mem_map_ofList]
  exact h k

/-- The last entry of each key is the same in the ordered list as in the list. -/
theorem getLast?_filter_ofList (key : α → String) (xs : List α) (k : String) :
    ((ofList key xs).filter fun y => key y = k).getLast? =
      (xs.filter fun y => key y = k).getLast? := by
  have hkey : ∀ {zs : List α} {x : α}, (zs.filter fun y => key y = k).getLast? = some x →
      x ∈ zs ∧ key x = k := by
    intro zs x hx
    simpa using List.mem_filter.1 (List.mem_of_getLast? hx)
  have hlast : ∀ {x : α}, ((ofList key xs).filter fun y => key y = k).getLast? = some x →
      (xs.filter fun y => key y = k).getLast? = some x := by
    intro x hx
    obtain ⟨hmem, rfl⟩ := hkey hx
    exact mem_ofList_iff.1 hmem
  refine Option.ext fun x => ⟨hlast, fun hx => ?_⟩
  obtain ⟨-, rfl⟩ := hkey hx
  have hmem : x ∈ (ofList key xs).filter fun y => key y = key x := by
    simpa using mem_ofList_iff.2 hx
  obtain ⟨z, hz⟩ := Option.isSome_iff_exists.1 (List.getLast?_isSome.2 (List.ne_nil_of_mem hmem))
  rw [hz, ← hlast hz, hx]

/-- Putting parts of a list in order before the whole changes nothing. -/
theorem ofList_append_ofList (key : α → String) (xs ys : List α) :
    ofList key (ofList key xs ++ ofList key ys) = ofList key (xs ++ ys) := by
  refine eq_of_mem_iff (pairwise_ofList key _) (pairwise_ofList key _) fun x => ?_
  rw [mem_ofList_iff, mem_ofList_iff, List.filter_append, List.filter_append, List.getLast?_append,
    List.getLast?_append, getLast?_filter_ofList, getLast?_filter_ofList]

/-- The ordered texts are the texts. -/
@[simp] theorem mem_sorted {text : String} {texts : List String} :
    text ∈ sorted texts ↔ text ∈ texts := by
  have h : text ∈ (ofList id texts).map id ↔ ∃ x ∈ texts, id x = text := mem_map_ofList
  simpa [sorted] using h

end QueryWeave.KeyOrder
