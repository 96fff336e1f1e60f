import Mathlib.Data.List.Nodup
import Mathlib.Data.List.Flatten
import Mathlib.Data.List.Perm.Basic
import SiteSnapshot.Html.Template

/-!
# Trees in an arena

An arena holds its nodes by address, and nothing in it says that they are trees. An **outline** is
the shape of a tree of nodes: addresses, with the outlines below them. It tells a template from
other nodes, because a template has a second list of nodes, its content, and a node of its own that
holds them. An arena `Holds` an outline if every node of the outline has the children and the
content that the outline says, and it is `Linked` if every node knows the node above it.

`Outline.nodes` are the nodes of an outline in document order, the content of a template behind its
children, and `Outline.owned` are the same nodes with those that hold contents. An outline whose
owned nodes are distinct is a tree.

What is directly below the top of an outline, children and content alike, is `Outline.branches`, and
`Outline.induct_branches` is the induction that goes with it. `Outline.inlined` is the outline with
every content behind the children; it has the nodes of before in the order of before
(`Outline.nodes_inlined`).
-/

namespace SiteSnapshot.Html

/-! ### Nodes of an arena -/

/-- What a node is, apart from a content. -/
def Cell.bare : Cell → Cell
  | .element tag _ => .element tag none
  | cell => cell

/-- The node that holds the content of a template. -/
def Cell.content? : Cell → Option NodeId
  | .element _ content => content
  | _ => none

namespace Arena

/-- What a node is, apart from a content. -/
def bare? (a : Arena) (id : NodeId) : Option Cell :=
  a.slots[id]?.map (·.cell.bare)

/-- The node that holds the content of a node. -/
def content? (a : Arena) (id : NodeId) : Option NodeId :=
  a.slots[id]?.bind (·.cell.content?)

/-- The nodes in the content of a node. -/
def contentChildren (a : Arena) (id : NodeId) : Array NodeId :=
  ((a.content? id).map a.children).getD #[]

end Arena

/-! ### Outlines -/

/-- The shape of a tree of nodes. A template has a content, and a node that holds it. -/
inductive Outline where
  | plain (id : NodeId) (children : List Outline)
  | template (id holder : NodeId) (children content : List Outline)

namespace Outline

/-- The node at the top. -/
def root : Outline → NodeId
  | .plain id _ => id
  | .template id _ _ _ => id

/-- The outlines directly below the top, those of the content behind those of the children. -/
def branches : Outline → List Outline
  | .plain _ children => children
  | .template _ _ children content => children ++ content

mutual

/-- The nodes in document order, those of a content behind those of the children. -/
def nodes : Outline → List NodeId
  | .plain id children => id :: nodesAll children
  | .template id _ children content => id :: (nodesAll children ++ nodesAll content)

/-- The nodes of outlines in document order. -/
def nodesAll : List Outline → List NodeId
  | [] => []
  | o :: rest => nodes o ++ nodesAll rest

end

mutual

/-- The nodes and those that hold contents. -/
def owned : Outline → List NodeId
  | .plain id children => id :: ownedAll children
  | .template id holder children content =>
    id :: holder :: (ownedAll children ++ ownedAll content)

/-- The nodes of outlines and those that hold contents. -/
def ownedAll : List Outline → List NodeId
  | [] => []
  | o :: rest => owned o ++ ownedAll rest

end

mutual

/-- The outline with every content behind the children. -/
def inlined : Outline → Outline
  | .plain id children => .plain id (inlinedAll children)
  | .template id _ children content => .plain id (inlinedAll children ++ inlinedAll content)

/-- Outlines with every content behind the children. -/
def inlinedAll : List Outline → List Outline
  | [] => []
  | o :: rest => inlined o :: inlinedAll rest

end

theorem nodesAll_eq_flatMap (os : List Outline) : nodesAll os = os.flatMap nodes := by
  induction os with
  | nil => rfl
  | cons o rest ih => rw [nodesAll, ih, List.flatMap_cons]

theorem ownedAll_eq_flatMap (os : List Outline) : ownedAll os = os.flatMap owned := by
  induction os with
  | nil => rfl
  | cons o rest ih => rw [ownedAll, ih, List.flatMap_cons]

theorem inlinedAll_eq_map (os : List Outline) : inlinedAll os = os.map inlined := by
  induction os with
  | nil => rfl
  | cons o rest ih => rw [inlinedAll, ih, List.map_cons]

@[simp]
theorem root_inlined (o : Outline) : o.inlined.root = o.root := by
  cases o <;> rfl

theorem nodes_eq (o : Outline) : o.nodes = o.root :: o.branches.flatMap nodes := by
  cases o with
  | plain id children => rw [nodes, nodesAll_eq_flatMap, root, branches]
  | template id holder children content =>
    rw [nodes, nodesAll_eq_flatMap, nodesAll_eq_flatMap, root, branches, List.flatMap_append]

theorem inlined_eq (o : Outline) : o.inlined = .plain o.root (o.branches.map inlined) := by
  cases o with
  | plain id children => rw [inlined, inlinedAll_eq_map, root, branches]
  | template id holder children content =>
    rw [inlined, inlinedAll_eq_map, inlinedAll_eq_map, root, branches, List.map_append]

/-- The nodes below the top are owned, apart from the top. -/
theorem cons_flatMap_sublist_owned (o : Outline) :
    (o.root :: o.branches.flatMap owned).Sublist o.owned := by
  cases o with
  | plain id children => rw [owned, ownedAll_eq_flatMap, root, branches]
  | template id holder children content =>
    rw [owned, ownedAll_eq_flatMap, ownedAll_eq_flatMap, root, branches, List.flatMap_append]
    exact (List.sublist_cons_self holder _).cons_cons id

theorem nodup_branches {o : Outline} (h : o.owned.Nodup) :
    (o.root :: o.branches.flatMap owned).Nodup :=
  h.sublist o.cons_flatMap_sublist_owned

theorem root_mem_owned (o : Outline) : o.root ∈ o.owned :=
  o.cons_flatMap_sublist_owned.subset List.mem_cons_self

/-- The tops of outlines are owned. -/
theorem map_root_sublist_owned (os : List Outline) : (os.map root).Sublist (os.flatMap owned) := by
  rw [List.map_eq_flatMap]
  exact List.Sublist.flatMap_right os fun o _ => List.singleton_sublist.mpr o.root_mem_owned

/-- The top of an outline is not below another one, if the outlines have no node in common. -/
theorem root_notMem_branches {os : List Outline} (hnd : (os.flatMap owned).Nodup) {p q : Outline}
    (hp : p ∈ os) (hq : q ∈ os) : p.root ∉ q.branches.flatMap owned := by
  have hbelow : (os.flatMap fun o => o.root :: o.branches.flatMap owned).Nodup :=
    hnd.sublist (List.Sublist.flatMap_right os fun o _ => o.cons_flatMap_sublist_owned)
  have hperm := List.map_append_flatMap_perm os root fun o => o.branches.flatMap owned
  exact fun h => List.disjoint_of_nodup_append (hperm.nodup_iff.mpr hbelow)
    (List.mem_map_of_mem hp) (List.mem_flatMap.mpr ⟨q, hq, h⟩)

mutual

/-- Induction on an outline: what holds of an outline if it holds of those directly below its top
holds of every outline. -/
@[elab_as_elim]
theorem induct_branches {P : Outline → Prop} (step : ∀ o, (∀ p ∈ o.branches, P p) → P o) :
    (o : Outline) → P o
  | .plain id children => step (.plain id children) (forall_mem_branches step children)
  | .template id holder children content =>
    step (.template id holder children content) (List.forall_mem_append.mpr
      ⟨forall_mem_branches step children, forall_mem_branches step content⟩)

/-- What is inherited from the outlines below holds of all outlines of a list. -/
theorem forall_mem_branches {P : Outline → Prop} (step : ∀ o, (∀ p ∈ o.branches, P p) → P o) :
    (os : List Outline) → ∀ p ∈ os, P p
  | [] => List.forall_mem_nil P
  | o :: rest =>
    List.forall_mem_cons.mpr ⟨induct_branches step o, forall_mem_branches step rest⟩

end

/-- Nodes are owned. -/
theorem nodes_sublist_owned (o : Outline) : o.nodes.Sublist o.owned := by
  induction o using induct_branches with
  | step o ih =>
    rw [nodes_eq]
    exact ((List.Sublist.flatMap_right _ ih).cons_cons _).trans o.cons_flatMap_sublist_owned

/-- **Document order** stays as it is when contents are put behind children. -/
theorem nodes_inlined (o : Outline) : o.inlined.nodes = o.nodes := by
  induction o using induct_branches with
  | step o ih =>
    rw [inlined_eq, nodes_eq, nodes_eq o, root, branches, List.flatMap_map]
    exact congrArg _ (List.flatMap_congr ih)

end Outline

/-! ### Outlines in an arena -/

namespace Arena

open Outline

variable {a b : Arena} {o : Outline}

mutual

/-- Every node of the outline has the children and the content that the outline says. -/
def Holds (a : Arena) : Outline → Prop
  | .plain id children =>
    id < a.slots.size ∧ a.content? id = none ∧ (a.children id).toList = children.map root ∧
      HoldsAll a children
  | .template id holder children content =>
    id < a.slots.size ∧ a.content? id = some holder ∧
      (a.children id).toList = children.map root ∧
        (a.children holder).toList = content.map root ∧ HoldsAll a children ∧ HoldsAll a content

/-- Every node of the outlines has the children and the content that they say. -/
def HoldsAll (a : Arena) : List Outline → Prop
  | [] => True
  | o :: rest => Holds a o ∧ HoldsAll a rest

end

mutual

/-- Every node of the outline below the top knows the node above it. -/
def Linked (a : Arena) : Outline → Prop
  | .plain id children => (∀ o ∈ children, a.parent? o.root = some id) ∧ LinkedAll a children
  | .template id holder children content =>
    (∀ o ∈ children, a.parent? o.root = some id) ∧
      (∀ o ∈ content, a.parent? o.root = some holder) ∧ LinkedAll a children ∧ LinkedAll a content

/-- Every node of the outlines below the top knows the node above it. -/
def LinkedAll (a : Arena) : List Outline → Prop
  | [] => True
  | o :: rest => Linked a o ∧ LinkedAll a rest

end

theorem holdsAll_iff {os : List Outline} : a.HoldsAll os ↔ ∀ o ∈ os, a.Holds o := by
  induction os with
  | nil => simp [HoldsAll]
  | cons o rest ih => rw [HoldsAll, ih, List.forall_mem_cons]

theorem linkedAll_iff {os : List Outline} : a.LinkedAll os ↔ ∀ o ∈ os, a.Linked o := by
  induction os with
  | nil => simp [LinkedAll]
  | cons o rest ih => rw [LinkedAll, ih, List.forall_mem_cons]

/-- What is below the top of an outline is held. -/
theorem Holds.branches (h : a.Holds o) : ∀ p ∈ o.branches, a.Holds p := by
  cases o with
  | plain id children => exact holdsAll_iff.mp h.2.2.2
  | template id holder children content =>
    exact List.forall_mem_append.mpr ⟨holdsAll_iff.mp h.2.2.2.2.1, holdsAll_iff.mp h.2.2.2.2.2⟩

/-- What is below the top of an outline is linked. -/
theorem Linked.branches (h : a.Linked o) : ∀ p ∈ o.branches, a.Linked p := by
  cases o with
  | plain id children => exact linkedAll_iff.mp h.2
  | template id holder children content =>
    exact List.forall_mem_append.mpr ⟨linkedAll_iff.mp h.2.2.1, linkedAll_iff.mp h.2.2.2⟩

theorem Holds.root_lt (h : a.Holds o) : o.root < a.slots.size := by
  cases o with
  | plain id children => exact h.1
  | template id holder children content => exact h.1

mutual

/-- Arenas that agree on the nodes of an outline hold it alike. -/
theorem Holds.congr : {o : Outline} → a.Holds o → b.slots.size = a.slots.size →
    (∀ i ∈ o.owned, b.content? i = a.content? i ∧ b.children i = a.children i) → b.Holds o
  | .plain id children, h, hsize, hsame => by
    obtain ⟨hlt, hcontent, hchildren, hbelow⟩ := h
    rw [owned, List.forall_mem_cons] at hsame
    obtain ⟨hid, hsame⟩ := hsame
    exact ⟨hsize ▸ hlt, hid.1.trans hcontent, hid.2 ▸ hchildren, hbelow.congr hsize hsame⟩
  | .template id holder children content, h, hsize, hsame => by
    obtain ⟨hlt, hcontent, hchildren, hheld, hbelow, hinside⟩ := h
    rw [owned, List.forall_mem_cons, List.forall_mem_cons, List.forall_mem_append] at hsame
    obtain ⟨hid, hholder, hbelow', hinside'⟩ := hsame
    exact ⟨hsize ▸ hlt, hid.1.trans hcontent, hid.2 ▸ hchildren, hholder.2 ▸ hheld,
      hbelow.congr hsize hbelow', hinside.congr hsize hinside'⟩

/-- Arenas that agree on the nodes of outlines hold them alike. -/
theorem HoldsAll.congr : {os : List Outline} → a.HoldsAll os → b.slots.size = a.slots.size →
    (∀ i ∈ ownedAll os, b.content? i = a.content? i ∧ b.children i = a.children i) → b.HoldsAll os
  | [], _, _, _ => trivial
  | o :: rest, h, hsize, hsame => by
    rw [ownedAll, List.forall_mem_append] at hsame
    exact ⟨h.1.congr hsize hsame.1, h.2.congr hsize hsame.2⟩

end

mutual

/-- Arenas that agree on the nodes of an outline are linked alike. -/
theorem Linked.congr : {o : Outline} → a.Linked o →
    (∀ p ∈ o.branches.flatMap owned, b.parent? p = a.parent? p) → b.Linked o
  | .plain id children, h, hsame => by
    obtain ⟨hchildren, hbelow⟩ := h
    rw [branches] at hsame
    refine ⟨fun p hp => ?_, hbelow.congr (ownedAll_eq_flatMap children ▸ hsame)⟩
    rw [hsame _ (List.mem_flatMap.mpr ⟨p, hp, p.root_mem_owned⟩), hchildren p hp]
  | .template id holder children content, h, hsame => by
    obtain ⟨hchildren, hheld, hbelow, hinside⟩ := h
    rw [branches, List.flatMap_append, List.forall_mem_append] at hsame
    obtain ⟨hbelow', hinside'⟩ := hsame
    refine ⟨fun p hp => ?_, fun p hp => ?_, hbelow.congr (ownedAll_eq_flatMap children ▸ hbelow'),
      hinside.congr (ownedAll_eq_flatMap content ▸ hinside')⟩
    · rw [hbelow' _ (List.mem_flatMap.mpr ⟨p, hp, p.root_mem_owned⟩), hchildren p hp]
    · rw [hinside' _ (List.mem_flatMap.mpr ⟨p, hp, p.root_mem_owned⟩), hheld p hp]

/-- Arenas that agree on the nodes of outlines are linked alike. -/
theorem LinkedAll.congr : {os : List Outline} → a.LinkedAll os →
    (∀ p ∈ ownedAll os, b.parent? p = a.parent? p) → b.LinkedAll os
  | [], _, _ => trivial
  | o :: rest, h, hsame => by
    rw [ownedAll, List.forall_mem_append] at hsame
    refine ⟨h.1.congr fun p hp => hsame.1 p ?_, h.2.congr hsame.2⟩
    exact o.cons_flatMap_sublist_owned.subset (List.mem_cons_of_mem _ hp)

end

end Arena

end SiteSnapshot.Html
