/-
**What is collected, and what is kept of it.**

From a fragment one can go to any of its children that is a fragment, from there to one of its
children, and so on.  Such a way is told by the places of the children in their rows.  Collecting
meets a fragment once on each way that leads to it, and takes the ways in the order of their places,
a way before those that go on from it.  So a fragment that is shared is collected as often as there
are ways to it, and what was collected before stays in front.

Fragments that were collected are reduced to one for each name.  The names are those that were
collected, and they ascend by their bytes.  The fragment that stays for a name is the instance that
was collected last under this name; so it does not matter whether parts of a collection have been
reduced before.

Main definitions:

* `QueryWeave.Fragment.descend` — where a way leads;
* `QueryWeave.Fragment.routes` — all ways with the fragments they lead to.

Main results:

* `QueryWeave.Fragment.map_snd_routes`, `QueryWeave.Fragment.mem_routes_iff`,
  `QueryWeave.Fragment.pairwise_routes` — the ways lead to the pre-order, they are all there are,
  and they ascend;
* `QueryWeave.Fragment.encard_descend` — how many ways there are to some fragments;
* `QueryWeave.Fragment.collectInto_appends_preorder` — **what collecting appends**;
* `QueryWeave.onePerName_keeps_last` — **which fragments stay, and in which order**.
-/

import Mathlib.Data.Set.Card
import QueryWeave.Proofs.KeyOrder
import QueryWeave.Proofs.Text.Bytes
import QueryWeave.Template.Document

set_option relaxedAutoImplicit false
set_option autoImplicit false

namespace QueryWeave

/-- Where a way leads: at each step to the child in the given place, which has to be a fragment. -/
def Fragment.descend : Fragment → List Nat → Option Fragment
  | f, [] => some f
  | f, i :: path => (f.children[i]?.bind Splice.fragment?).bind fun g => g.descend path

mutual
/-- All ways from a fragment with the fragments they lead to, in pre-order. -/
def Fragment.routes : Fragment → List (List Nat × Fragment)
  | ⟨serial, name, segments, children⟩ =>
      ([], ⟨serial, name, segments, children⟩) :: routesFrom 0 children
/-- All ways through the splice in place `i`. -/
def Splice.routes (i : Nat) : Splice → List (List Nat × Fragment)
  | .leaf _ => []
  | .fragment f => f.routes.map fun route => (i :: route.1, route.2)
/-- All ways through one of several splices, the first of which is in place `i`. -/
def routesFrom (i : Nat) : List Splice → List (List Nat × Fragment)
  | [] => []
  | splice :: splices => splice.routes i ++ routesFrom (i + 1) splices
end

/-! ### The ways lead to the pre-order -/

theorem Splice.preorder_eq_elim (splice : Splice) :
    splice.preorder = splice.fragment?.elim [] Fragment.preorder := by
  cases splice <;> rfl

mutual
theorem Fragment.map_snd_routes : ∀ f : Fragment, f.routes.map Prod.snd = f.preorder
  | ⟨serial, name, segments, children⟩ => by
      rw [Fragment.routes, Fragment.preorder, List.map_cons, map_snd_routesFrom children]
theorem map_snd_routesFrom : ∀ (splices : List Splice) (i : Nat),
    (routesFrom i splices).map Prod.snd = preorders splices
  | [], _ => rfl
  | .leaf text :: splices, i => by
      rw [routesFrom, Splice.routes, preorders, List.nil_append, map_snd_routesFrom splices]
      rfl
  | .fragment f :: splices, i => by
      rw [routesFrom, Splice.routes, preorders, List.map_append, List.map_map,
        map_snd_routesFrom splices, Splice.preorder_fragment, ← f.map_snd_routes]
      rfl
end

/-! ### They are all ways there are, in ascending order -/

theorem Fragment.routes_eq (f : Fragment) : f.routes = ([], f) :: routesFrom 0 f.children := by
  cases f
  rfl

theorem Splice.fragment?_eq_some_iff {splice : Splice} {f : Fragment} :
    splice.fragment? = some f ↔ splice = .fragment f := by
  cases splice <;> simp

/-- A way through one of several splices begins with the place of a fragment among them. -/
theorem mem_routesFrom_iff {splices : List Splice} {i : Nat} {path : List Nat} {g : Fragment} :
    (path, g) ∈ routesFrom i splices ↔ ∃ j rest f, path = (i + j) :: rest ∧
      splices[j]? = some (.fragment f) ∧ (rest, g) ∈ f.routes := by
  induction splices generalizing i with
  | nil => simp [routesFrom]
  | cons splice splices ih =>
      rw [routesFrom, List.mem_append, ih]
      constructor
      · rintro (hfirst | ⟨j, rest, f, rfl, hplace, hroute⟩)
        · cases splice with
          | leaf text => cases hfirst
          | fragment f =>
              obtain ⟨route, hroute, heq⟩ := List.mem_map.1 hfirst
              obtain ⟨rfl, rfl⟩ := Prod.mk.inj heq
              exact ⟨0, route.1, f, rfl, rfl, hroute⟩
        · exact ⟨j + 1, rest, f, by rw [Nat.add_right_comm, Nat.add_assoc], hplace, hroute⟩
      · rintro ⟨j, rest, f, rfl, hplace, hroute⟩
        cases j with
        | zero =>
            obtain rfl : splice = .fragment f := by simpa using hplace
            exact Or.inl (List.mem_map.2 ⟨(rest, g), hroute, rfl⟩)
        | succ j =>
            exact Or.inr ⟨j, rest, f, by rw [Nat.add_right_comm, Nat.add_assoc], hplace, hroute⟩

/-- The ways are those that lead somewhere. -/
theorem Fragment.mem_routes_iff {f g : Fragment} {path : List Nat} :
    (path, g) ∈ f.routes ↔ f.descend path = some g := by
  induction path generalizing f with
  | nil =>
      rw [routes_eq, List.mem_cons, mem_routesFrom_iff, descend]
      simp [eq_comm]
  | cons i path ih =>
      rw [routes_eq, List.mem_cons, mem_routesFrom_iff, descend]
      simp [Option.bind_eq_some_iff, Splice.fragment?_eq_some_iff, ih]

mutual
/-- The ways from a fragment ascend. -/
theorem Fragment.pairwise_routes : ∀ f : Fragment,
    f.routes.Pairwise fun route route' => route.1 < route'.1
  | ⟨serial, name, segments, children⟩ => by
      rw [Fragment.routes, List.pairwise_cons]
      refine ⟨?_, pairwise_routesFrom children 0⟩
      rintro ⟨path, g⟩ hroute
      obtain ⟨j, rest, f, rfl, -⟩ := mem_routesFrom_iff.1 hroute
      exact List.nil_lt_cons _ _
theorem pairwise_routesFrom : ∀ (splices : List Splice) (i : Nat),
    (routesFrom i splices).Pairwise fun route route' => route.1 < route'.1
  | [], _ => .nil
  | .leaf text :: splices, i => by
      rw [routesFrom, Splice.routes, List.nil_append]
      exact pairwise_routesFrom splices (i + 1)
  | .fragment f :: splices, i => by
      rw [routesFrom, Splice.routes, List.pairwise_append]
      refine ⟨?_, pairwise_routesFrom splices (i + 1), ?_⟩
      · refine List.pairwise_map.2 (f.pairwise_routes.imp ?_)
        exact fun h => List.cons_lt_cons_self.2 h
      · -- a way through a later splice has a higher place in front
        rintro route hroute ⟨path, g⟩ hroute'
        obtain ⟨route, -, rfl⟩ := List.mem_map.1 hroute
        obtain ⟨j, rest, f, rfl, -⟩ := mem_routesFrom_iff.1 hroute'
        exact List.cons_lt_cons_iff.2 (Or.inl (by omega))
end

/-! ### How many ways there are -/

namespace Fragment

theorem nodup_paths (f : Fragment) : (f.routes.map Prod.fst).Nodup :=
  List.pairwise_map.2 (f.pairwise_routes.imp fun h => ne_of_lt h)

/-- There are as many ways to fragments of some kind as such fragments in the pre-order. -/
theorem encard_descend (f : Fragment) (p : Fragment → Bool) :
    {path | ∃ g, f.descend path = some g ∧ p g}.encard = f.preorder.countP p := by
  have hpaths : {path | ∃ g, f.descend path = some g ∧ p g} =
      (((f.routes.filter fun route => p route.2).map Prod.fst).toFinset : Set (List Nat)) := by
    ext path
    simp [← mem_routes_iff]
  have hnodup : ((f.routes.filter fun route => p route.2).map Prod.fst).Nodup :=
    f.nodup_paths.sublist (List.filter_sublist.map Prod.fst)
  rw [hpaths, Set.encard_coe_eq_coe_finsetCard, List.toFinset_card_of_nodup hnodup,
    List.length_map, ← List.countP_eq_length_filter, ← f.map_snd_routes, List.countP_map]
  rfl

/-- **What collecting appends.**  Behind what was collected before come the fragment itself and then
the pre-orders of its children, one after the other.  From a splice its pre-order is appended, which
is empty for a leaf, and from several splices what each of them has on its own.  The pre-order is
met along all ways from the fragment, in ascending order, and each instance is in it as often as
there are ways to it. -/
theorem collectInto_appends_preorder (f : Fragment) :
    (∀ collected : Array Fragment,
      (f.collectInto collected).toList = collected.toList ++ f.preorder) ∧
    f.preorder = f :: f.children.flatMap (fun child => child.fragment?.elim [] preorder) ∧
    (∀ (collected : Array Fragment) (splice : Splice), (splice.collectInto collected).toList =
      collected.toList ++ splice.fragment?.elim [] preorder) ∧
    (∀ (collected : Array Fragment) (splices : List Splice),
      (collectAllInto collected splices).toList =
        collected.toList ++ splices.flatMap fun splice => (splice.collectInto #[]).toList) ∧
    (∃ paths : List (List Nat), paths.Pairwise (· < ·) ∧
      (∀ path, path ∈ paths ↔ (f.descend path).isSome) ∧
      paths.map f.descend = f.preorder.map some) ∧
    ∀ g : Fragment, {path | ∃ h, f.descend path = some h ∧ g.sameInstance h}.encard =
      f.preorder.countP g.sameInstance := by
  refine ⟨fun collected => f.toList_collectInto collected, ?_, fun collected splice => ?_,
    fun collected splices => ?_, ⟨f.routes.map Prod.fst, ?_, fun path => ?_, ?_⟩,
    fun g => f.encard_descend g.sameInstance⟩
  · rw [preorder_eq, preorders_eq_flatMap, funext Splice.preorder_eq_elim]
  · rw [Splice.toList_collectInto, Splice.preorder_eq_elim]
  · simp only [toList_collectAllInto, preorders_eq_flatMap, Splice.toList_collectInto,
      List.nil_append]
  · exact List.pairwise_map.2 f.pairwise_routes
  · simp [← mem_routes_iff, Option.isSome_iff_exists]
  · rw [← f.map_snd_routes, List.map_map, List.map_map]
    exact List.map_congr_left fun route hroute => mem_routes_iff.1 hroute

/-- There are two ways to a fragment that is spliced in twice, and none through the leaf between. -/
example :
    let shared : Fragment := ⟨0, "a", ["..."], []⟩
    let outer : Fragment := ⟨1, "b", [], [.fragment shared, .leaf "x", .fragment shared]⟩
    outer.routes.map (fun route => (route.1, route.2.serial)) = [([], 1), ([0], 0), ([2], 0)] := by
  decide

end Fragment

/-! ### One fragment for each name -/

/-- The names of the fragments that stay ascend by their bytes. -/
theorem pairwise_bytes_onePerName (fragments : List Fragment) :
    (onePerName fragments).Pairwise fun f g => Text.bytes f.name < Text.bytes g.name :=
  (pairwise_onePerName fragments).imp Text.bytes_lt_bytes_iff.2

/-- **Which fragments stay, and in which order.**  The names of those that stay ascend strictly by
their bytes, and they are all names there were.  A fragment stays exactly when it is the last one of
its name, and then this very instance does.  Reducing two lists before they are joined gives what
reducing them together gives. -/
theorem onePerName_keeps_last (fragments : List Fragment) :
    ((onePerName fragments).Pairwise fun f g => Text.bytes f.name < Text.bytes g.name) ∧
    (∀ name, name ∈ (onePerName fragments).map Fragment.name ↔
      name ∈ fragments.map Fragment.name) ∧
    (∀ f, f ∈ onePerName fragments ↔
      ∃ before behind, fragments = before ++ f :: behind ∧ ∀ g ∈ behind, g.name ≠ f.name) ∧
    ∀ fragments', onePerName (onePerName fragments ++ onePerName fragments') =
      onePerName (fragments ++ fragments') := by
  refine ⟨pairwise_bytes_onePerName fragments, fun name => ?_, fun f => ?_, fun fragments' => ?_⟩
  · exact KeyOrder.mem_map_ofList.trans List.mem_map.symm
  · exact KeyOrder.mem_ofList_iff_exists_append
  · exact KeyOrder.ofList_append_ofList Fragment.name fragments fragments'

/-- Of two instances of one name the second one stays, in the place of its name. -/
example :
    (onePerName [⟨0, "b", ["one"], []⟩, ⟨1, "c", ["two"], []⟩, ⟨2, "b", ["three"], []⟩,
      ⟨3, "a", ["four"], []⟩]).map Fragment.serial = [3, 2, 1] := by
  decide

end QueryWeave
