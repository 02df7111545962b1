/-
**The document of a template is closed.**

Every fragment that is spliced in anywhere, in the template or in a fragment that it needs, shows up
by its name only, so its definition has to be in the document.  Of fragments that share a name only
one is defined, and what is spliced into the others is defined all the same, because collecting
comes before choosing.

Fragments are nested, and no fragment is part of itself.  The definitions of a document know each
other by name only, though, so a way along names may go on in another instance at every step.  Such
a way can be followed in the nesting all the same as long as fragments with one name have the same
children, up to their instances; and there it comes to an end.

Main definitions:

* `QueryWeave.ReachedFrom` — the fragments that are spliced in, at any depth;
* `QueryWeave.Template.Consistent` — fragments with one name have children of the same kinds and
  names;
* `QueryWeave.Template.SpreadsName` — the spreads of a template, as a relation on names;
* `QueryWeave.Template.Spreads` — the spreads between the definitions of its document.

Main results:

* `QueryWeave.mem_preorders_iff` — collecting meets exactly these fragments;
* `QueryWeave.Template.fragments_closed` — **the document defines what it needs, each name once, and
  nothing else**;
* `QueryWeave.Template.Consistent.acc_name` — from a name there are finitely many spreads to follow;
* `QueryWeave.Template.spreads_acyclic` — **no definition spreads itself**, in any number of steps.
-/

import Mathlib.Order.WellFounded
import QueryWeave.Proofs.KeyOrder
import QueryWeave.Proofs.Template.Body

set_option relaxedAutoImplicit false
set_option autoImplicit false

namespace QueryWeave

/-! ### What is spliced in -/

/-- The fragments that are spliced in, directly or into one that is. -/
inductive ReachedFrom (splices : List Splice) : Fragment → Prop
  | splice {f : Fragment} : .fragment f ∈ splices → ReachedFrom splices f
  | child {f g : Fragment} : ReachedFrom splices g → .fragment f ∈ g.children →
      ReachedFrom splices f

theorem ReachedFrom.trans {splices : List Splice} {f g : Fragment} (h : ReachedFrom splices g)
    (h' : ReachedFrom g.children f) : ReachedFrom splices f := by
  induction h' with
  | splice hf => exact .child h hf
  | child _ hf ih => exact .child ih hf

theorem ReachedFrom.mono {splices splices' : List Splice} {f : Fragment}
    (h : ReachedFrom splices f) (hsub : splices ⊆ splices') : ReachedFrom splices' f := by
  induction h with
  | splice hf => exact .splice (hsub hf)
  | child _ hf ih => exact .child ih hf

mutual
/-- Induction on the nesting: what holds of a fragment whenever it holds of the fragments spliced
into it, holds of every fragment. -/
theorem Fragment.induction_on_children {P : Fragment → Prop}
    (step : ∀ f : Fragment, (∀ g, .fragment g ∈ f.children → P g) → P f) : ∀ f : Fragment, P f
  | ⟨serial, name, segments, children⟩ =>
      step ⟨serial, name, segments, children⟩ (children_induction step children)
theorem children_induction {P : Fragment → Prop}
    (step : ∀ f : Fragment, (∀ g, .fragment g ∈ f.children → P g) → P f) :
    ∀ (splices : List Splice) (g : Fragment), .fragment g ∈ splices → P g
  | [], _, hg => by cases hg
  | .leaf _ :: splices, g, hg =>
      children_induction step splices g (by simpa using hg)
  | .fragment f :: splices, g, hg => by
      rcases List.mem_cons.1 hg with heq | hg
      · cases heq
        exact f.induction_on_children step
      · exact children_induction step splices g hg
end

theorem mem_preorders_of_mem {splices : List Splice} {f : Fragment}
    (h : .fragment f ∈ splices) : f ∈ preorders splices := by
  rw [preorders_eq_flatMap]
  refine List.mem_flatMap.2 ⟨.fragment f, h, ?_⟩
  rw [Splice.preorder_fragment, Fragment.preorder_eq]
  exact List.mem_cons_self

mutual
/-- The pre-order of a fragment holds, with a fragment, all that is spliced into it. -/
theorem Fragment.preorder_closed : ∀ (f : Fragment) {g h : Fragment}, g ∈ f.preorder →
    .fragment h ∈ g.children → h ∈ f.preorder
  | ⟨serial, name, segments, children⟩, g, h, hg, hh => by
      rw [Fragment.preorder] at hg ⊢
      rcases List.mem_cons.1 hg with rfl | hg
      · exact List.mem_cons_of_mem _ (mem_preorders_of_mem hh)
      · exact List.mem_cons_of_mem _ (preorders_closed children hg hh)
/-- So do the pre-orders of several splices. -/
theorem preorders_closed : ∀ (splices : List Splice) {g h : Fragment}, g ∈ preorders splices →
    .fragment h ∈ g.children → h ∈ preorders splices
  | [], _, _, hg, _ => by cases hg
  | .leaf _ :: splices, g, h, hg, hh => by
      rw [preorders, Splice.preorder_leaf, List.nil_append] at hg ⊢
      exact preorders_closed splices hg hh
  | .fragment f :: splices, g, h, hg, hh => by
      rw [preorders, Splice.preorder_fragment, List.mem_append] at hg ⊢
      rcases hg with hg | hg
      · exact Or.inl (f.preorder_closed hg hh)
      · exact Or.inr (preorders_closed splices hg hh)
end

mutual
/-- Below a fragment there is nothing but the fragment and what is reached from its children. -/
theorem Fragment.eq_or_reachedFrom : ∀ (f : Fragment) {g : Fragment}, g ∈ f.preorder →
    g = f ∨ ReachedFrom f.children g
  | ⟨serial, name, segments, children⟩, g, hg => by
      rw [Fragment.preorder] at hg
      rcases List.mem_cons.1 hg with hg | hg
      · exact Or.inl hg
      · exact Or.inr (reachedFrom_of_mem children hg)
theorem reachedFrom_of_mem : ∀ (splices : List Splice) {g : Fragment}, g ∈ preorders splices →
    ReachedFrom splices g
  | [], _, hg => by cases hg
  | .leaf text :: splices, g, hg => by
      rw [preorders, Splice.preorder_leaf, List.nil_append] at hg
      exact (reachedFrom_of_mem splices hg).mono (List.subset_cons_self _ _)
  | .fragment f :: splices, g, hg => by
      rw [preorders, Splice.preorder_fragment, List.mem_append] at hg
      rcases hg with hg | hg
      · have hf : ReachedFrom (.fragment f :: splices) f := .splice List.mem_cons_self
        rcases f.eq_or_reachedFrom hg with rfl | hg
        · exact hf
        · exact hf.trans hg
      · exact (reachedFrom_of_mem splices hg).mono (List.subset_cons_self _ _)
end

/-- Collecting meets a fragment exactly when it is spliced in at some depth. -/
theorem mem_preorders_iff {splices : List Splice} {f : Fragment} :
    f ∈ preorders splices ↔ ReachedFrom splices f := by
  refine ⟨reachedFrom_of_mem splices, fun h => ?_⟩
  induction h with
  | splice hf => exact mem_preorders_of_mem hf
  | child _ hf ih => exact preorders_closed splices ih hf

/-! ### What is defined -/

namespace Template

/-- Every fragment that is defined is needed. -/
theorem reachedFrom_of_mem_fragments {t : Template} {f : Fragment} (h : f ∈ t.fragments) :
    ReachedFrom t.splices f := by
  rw [fragments, collectAll_eq_preorders, onePerName] at h
  exact mem_preorders_iff.1 (KeyOrder.mem_of_mem_ofList h)

/-- The names that are defined are those of the fragments that are needed. -/
theorem mem_names_fragments_iff {t : Template} {name : String} :
    name ∈ t.fragments.map Fragment.name ↔ ∃ f, ReachedFrom t.splices f ∧ f.name = name := by
  rw [fragments, collectAll_eq_preorders, onePerName, KeyOrder.mem_map_ofList]
  simp only [mem_preorders_iff]

theorem nodup_names_fragments (t : Template) : (t.fragments.map Fragment.name).Nodup := by
  have hascending := pairwise_onePerName (collectAll t.splices)
  refine List.pairwise_map.2 (hascending.imp fun hlt heq => ?_)
  exact String.lt_irrefl _ (heq ▸ hlt)

/-- **The document defines what it needs, each name once, and nothing else.**  Its text is the body
of the template and then one definition, headed by its name, for each of some fragments.  These are
needed, their names are those of all needed fragments, none comes twice, and with them stand the
names of everything spliced into the template or into one of *them*: no spread dangles, whichever
fragments with a common name were left out. -/
theorem fragments_closed (t : Template) :
    t.documentText = t.body ++ "\n".intercalate (t.fragments.map Fragment.definition) ∧
    (∀ g ∈ t.fragments, ReachedFrom t.splices g ∧
      ∃ text, g.definition = "fragment " ++ g.name ++ " " ++ text) ∧
    (t.fragments.map Fragment.name).Nodup ∧
    (∀ name, name ∈ t.fragments.map Fragment.name ↔
      ∃ f, ReachedFrom t.splices f ∧ f.name = name) ∧
    (∀ f, .fragment f ∈ t.splices → f.name ∈ t.fragments.map Fragment.name) ∧
    ∀ g ∈ t.fragments, ∀ f, .fragment f ∈ g.children →
      f.name ∈ t.fragments.map Fragment.name := by
  refine ⟨t.documentText_eq, ?_, t.nodup_names_fragments, fun _ => mem_names_fragments_iff, ?_, ?_⟩
  · intro g hg
    exact ⟨reachedFrom_of_mem_fragments hg, _, rfl⟩
  · intro f hf
    exact mem_names_fragments_iff.2 ⟨f, .splice hf, rfl⟩
  · intro g hg f hf
    exact mem_names_fragments_iff.2 ⟨f, .child (reachedFrom_of_mem_fragments hg) hf, rfl⟩

end Template

end QueryWeave

namespace QueryWeave.Template

/-- Fragments with one name have children of the same kinds and names. -/
def Consistent (t : Template) : Prop :=
  ∀ f g, ReachedFrom t.splices f → ReachedFrom t.splices g → f.name = g.name →
    List.Forall₂ (fun child child' => child.agrees child') f.children g.children

/-- A fragment called `name` has a child called `name'`. -/
def SpreadsName (t : Template) (name name' : String) : Prop :=
  ∃ f, ReachedFrom t.splices f ∧ f.name = name ∧
    ∃ child, .fragment child ∈ f.children ∧ child.name = name'

/-- Of two fragments that are defined, the first has a child with the name of the second. -/
def Spreads (t : Template) (f g : Fragment) : Prop :=
  f ∈ t.fragments ∧ g ∈ t.fragments ∧
    ∃ child, .fragment child ∈ f.children ∧ child.name = g.name

/-- What a fragment splices in, any other with its name splices in under the same name. -/
theorem Consistent.exists_child {t : Template} (h : t.Consistent) {f g child : Fragment}
    (hf : ReachedFrom t.splices f) (hg : ReachedFrom t.splices g) (hname : f.name = g.name)
    (hchild : .fragment child ∈ f.children) :
    ∃ child', .fragment child' ∈ g.children ∧ child'.name = child.name := by
  have hagrees := h f g hf hg hname
  obtain ⟨i, hi, hsplice⟩ := List.getElem_of_mem hchild
  have hi' : i < g.children.length := hagrees.length_eq ▸ hi
  have hpair : f.children[i].agrees g.children[i] := hagrees.get hi hi'
  rw [hsplice] at hpair
  cases hsplice' : g.children[i] with
  | leaf text =>
      rw [hsplice'] at hpair
      cases hpair
  | fragment child' =>
      rw [hsplice'] at hpair
      refine ⟨child', hsplice' ▸ List.getElem_mem hi', ?_⟩
      exact (beq_iff_eq.1 hpair).symm

/-- From the name of a needed fragment there are finitely many spreads to follow. -/
theorem Consistent.acc_name {t : Template} (h : t.Consistent) :
    ∀ f, ReachedFrom t.splices f → Acc (Function.swap t.SpreadsName) f.name := by
  intro f
  induction f using Fragment.induction_on_children with
  | step f ih =>
      intro hf
      refine Acc.intro _ ?_
      rintro name' ⟨g, hg, hname, child, hchild, rfl⟩
      -- the spread is one of `g`, but `f` has a child of this name too
      obtain ⟨child', hchild', hname'⟩ := h.exists_child hg hf hname hchild
      exact hname' ▸ ih child' hchild' (.child hf hchild')

theorem Spreads.spreadsName {t : Template} {f g : Fragment} (h : t.Spreads f g) :
    t.SpreadsName f.name g.name :=
  ⟨f, reachedFrom_of_mem_fragments h.1, rfl, h.2.2⟩

/-- **No definition spreads itself**, neither directly nor over any number of others, as long as
fragments with one name have children of the same kinds and names. -/
theorem spreads_acyclic (t : Template) (h : t.Consistent) (f : Fragment) :
    ¬ Relation.TransGen t.Spreads f f := by
  intro hloop
  have hdefined : f ∈ t.fragments := by
    cases hloop with
    | single hstep => exact hstep.1
    | tail _ hstep => exact hstep.2.1
  have hacc : Acc (Relation.TransGen (Function.swap t.SpreadsName)) f.name :=
    (h.acc_name f (reachedFrom_of_mem_fragments hdefined)).transGen
  have hnames : Relation.TransGen (Function.swap t.SpreadsName) f.name f.name :=
    Relation.transGen_swap.2 (hloop.lift Fragment.name fun _ _ => Spreads.spreadsName)
  exact not_acc_iff_exists_descending_chain.2 ⟨fun _ => f.name, rfl, fun _ => hnames⟩ hacc

/-- Two instances of one button, and two images with such a button, are spliced in. -/
def gallery : Template :=
  let button (serial : Nat) : Fragment :=
    .ofTemplate serial (.ofText "... on Button { id }")
  let image (serial : Nat) (child : Fragment) : Fragment :=
    .ofTemplate serial ⟨["... on Image \x7b button \x7b ...", " \x7d \x7d"], [.fragment child], rfl⟩
  ⟨["\x7b a \x7b ...", " \x7d b \x7b ...", " \x7d c \x7b ...", " \x7d \x7d"],
    [.fragment (image 2 (button 0)), .fragment (button 1), .fragment (image 3 (button 1))], rfl⟩

theorem consistent_gallery : gallery.Consistent := by
  intro f g hf hg
  rw [← mem_preorders_iff] at hf hg
  revert f g
  have h : ∀ f ∈ preorders gallery.splices, ∀ g ∈ preorders gallery.splices, f.name = g.name →
      List.Forall₂ (fun child child' => child.agrees child') f.children g.children := by
    decide +kernel
  exact fun f g hf hg => h f hf g hg

theorem spreads_acyclic_gallery :
    gallery.Consistent ∧ ∀ f, ¬ Relation.TransGen gallery.Spreads f f :=
  ⟨consistent_gallery, spreads_acyclic gallery consistent_gallery⟩

end QueryWeave.Template
