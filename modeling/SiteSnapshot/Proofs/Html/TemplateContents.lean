import Mathlib.Data.List.Perm.Basic
import SiteSnapshot.Proofs.Html.Outline

/-!
# Contents of templates are kept

`Arena.inlineContents` is a loop over waiting nodes that moves nodes of the tree it walks over. On
every tree it comes to an end, and no node is lost, doubled or put out of order.

What one visit does to the slots of the arena is `getElem?_inlineContent`. A visit to the top of an
outline changes nothing but the outline and leaves the outlines directly below it as they were, so
the waiting nodes stay the tops of outlines that the arena holds and that have no node in common:
this is the invariant of the loop. Every visit takes one node off the outlines that still wait, so
the loop ends after as many visits as there are nodes (`inlineFrom_settles`). What it has done by
then is `Settles`.

The tree that can be read off an arena before and after the loop is related by
`Node.inlineContents`, which puts the content of every template behind its children.
-/

namespace SiteSnapshot.Html

/-! ### The tree without contents -/

namespace Node

mutual

/-- Puts the contents of all templates behind their children. -/
def inlineContents : Node → Node
  | .document children => .document (inlineContentsAll children)
  | .element tag content children =>
    .element tag none (inlineContentsAll children ++ inlineContentsOf content)
  | .doctype name => .doctype name
  | .comment t => .comment t
  | .text t => .text t

/-- Puts the contents of all templates in a list of nodes behind their children. -/
def inlineContentsAll : List Node → List Node
  | [] => []
  | node :: rest => inlineContents node :: inlineContentsAll rest

/-- Puts the contents of all templates in a content behind their children. -/
def inlineContentsOf : Option (List Node) → List Node
  | none => []
  | some nodes => inlineContentsAll nodes

end

theorem inlineContentsAll_eq_map (nodes : List Node) :
    inlineContentsAll nodes = nodes.map inlineContents := by
  induction nodes with
  | nil => rfl
  | cons node rest ih => rw [inlineContentsAll, ih, List.map_cons]

end Node

namespace Cell

@[simp]
theorem bare_bare (cell : Cell) : cell.bare.bare = cell.bare := by
  cases cell <;> rfl

@[simp]
theorem content?_bare (cell : Cell) : cell.bare.content? = none := by
  cases cell <;> rfl

theorem bare_of_content?_eq_none {cell : Cell} (h : cell.content? = none) : cell.bare = cell := by
  cases cell with
  | element tag content => rw [bare, ← show content = none from h]
  | _ => rfl

/-- The node of a tree that a cell is, given its content and its children. -/
def toNode (content : Option (List Node)) (children : List Node) : Cell → Node
  | .document => .document children
  | .doctype name => .doctype name
  | .comment t => .comment t
  | .text t => .text t
  | .element tag _ => .element tag content children

/-- Only elements have contents to put behind their children. -/
theorem inlineContents_toNode {cell : Cell} {content : Option (List Node)} (children : List Node)
    (h : content = none ∨ ∃ tag fragment, cell = .element tag fragment) :
    (cell.toNode content children).inlineContents =
      cell.toNode none ((children ++ content.getD []).map Node.inlineContents) := by
  obtain rfl | ⟨tag, fragment, rfl⟩ := h
  · cases cell <;> simp [toNode, Node.inlineContents, Node.inlineContentsAll_eq_map,
      Node.inlineContentsOf]
  · cases content <;> simp [toNode, Node.inlineContents, Node.inlineContentsAll_eq_map,
      Node.inlineContentsOf]

end Cell

namespace Arena

open Outline

variable {a b : Arena} {o : Outline} {os : List Outline} {id i : NodeId}

/-! ### One visit -/

theorem getElem?_foldl_modify {α : Type} (f : α → α) {ids : List Nat} (hids : ids.Nodup)
    (slots : Array α) (i : Nat) :
    (ids.foldl (fun slots id => slots.modify id f) slots)[i]? =
      if i ∈ ids then slots[i]?.map f else slots[i]? := by
  induction ids generalizing slots with
  | nil => simp
  | cons id ids ih =>
    obtain ⟨hid, hids⟩ := List.nodup_cons.mp hids
    rw [List.foldl_cons, ih hids, Array.getElem?_modify]
    by_cases hi : id = i
    · subst hi
      simp [hid]
    · simp [hi, Ne.symm hi]

/-- What moving children does to every node. -/
theorem getElem?_moveChildren {source target : NodeId} (hne : source ≠ target)
    (hmoved : (a.children source).toList.Nodup) :
    (a.moveChildren source target).slots[i]? = a.slots[i]?.map fun s =>
      { cell := s.cell
        parent := if i ∈ a.children source then some target else s.parent
        children :=
          if i = target then s.children ++ a.children source
          else if i = source then #[] else s.children } := by
  have hparents := getElem?_foldl_modify (fun s : Slot => { s with parent := some target }) hmoved
    a.slots i
  simp only [Array.foldl_toList, Array.mem_toList_iff] at hparents
  rw [moveChildren, Array.getElem?_modify, Array.getElem?_modify, hparents]
  cases a.slots[i]? with
  | none => simp
  | some s =>
    by_cases htarget : i = target
    · subst htarget
      by_cases hi : i ∈ a.children source <;> simp [hi, hne]
    · by_cases hsource : i = source
      · subst hsource
        by_cases hi : i ∈ a.children i <;> simp [hi, hne, Ne.symm hne]
      · by_cases hi : i ∈ a.children source <;>
          simp [hi, hsource, htarget, Ne.symm htarget, Ne.symm hsource]

/-- A node without a content stays as it is. -/
theorem inlineContent_of_content_none (h : a.content? id = none) : a.inlineContent id = a := by
  rw [inlineContent]
  split
  · rename_i tag content parent children hslot
    simp [content?, hslot, Cell.content?] at h
  · rfl

/-- A node with a content loses it before what the content holds is moved. -/
theorem inlineContent_of_content {holder : NodeId} (h : a.content? id = some holder) :
    a.inlineContent id =
      moveChildren ⟨a.slots.modify id fun s => { s with cell := s.cell.bare }⟩ holder id := by
  obtain ⟨⟨cell, parent, children⟩, hslot, hcell⟩ := Option.bind_eq_some_iff.mp h
  cases cell with
  | element tag content =>
    obtain rfl : content = some holder := hcell
    have hclear : (a.slots.modify id fun s => { s with cell := .element tag none }) =
        a.slots.modify id fun s => { s with cell := s.cell.bare } := by
      refine Array.ext_getElem? fun i => ?_
      rw [Array.getElem?_modify, Array.getElem?_modify]
      split
      · rename_i hi
        rw [← hi, hslot]
        rfl
      · rfl
    rw [inlineContent, hslot, ← hclear]
  | _ => cases hcell

/-- A node whose content can be moved: it does not hold its own content, and no node is in it
twice. -/
structure Movable (a : Arena) (id : NodeId) : Prop where
  content?_ne : a.content? id ≠ some id
  nodup : (a.contentChildren id).toList.Nodup

/-- **What a visit does** to every node: the node visited has its content behind its children, the
nodes in the content have it for a parent, and the node that held the content is empty. -/
theorem getElem?_inlineContent (h : a.Movable id) :
    (a.inlineContent id).slots[i]? = a.slots[i]?.map fun s =>
      { cell := if i = id then s.cell.bare else s.cell
        parent := if i ∈ a.contentChildren id then some id else s.parent
        children :=
          if i = id then s.children ++ a.contentChildren id
          else if a.content? id = some i then #[] else s.children } := by
  cases hcontent : a.content? id with
  | none =>
    rw [inlineContent_of_content_none hcontent, contentChildren, hcontent]
    cases hslot : a.slots[i]? with
    | none => rfl
    | some s =>
      have hcell : i = id → s.cell.bare = s.cell := by
        rintro rfl
        rw [content?, hslot] at hcontent
        exact Cell.bare_of_content?_eq_none hcontent
      by_cases hi : i = id
      · simp [hi, hcell hi]
      · simp [hi]
  | some holder =>
    have hne : holder ≠ id := fun he => h.content?_ne (he ▸ hcontent)
    have hheld : children ⟨a.slots.modify id fun s => { s with cell := s.cell.bare }⟩ holder =
        a.contentChildren id := by
      rw [children, Array.getElem?_modify, if_neg hne.symm, contentChildren, hcontent]
      rfl
    rw [inlineContent_of_content hcontent, getElem?_moveChildren hne (hheld ▸ h.nodup), hheld,
      Array.getElem?_modify]
    by_cases hi : i = id
    · subst hi
      simp [Function.comp_def]
    · simp [hi, Ne.symm hi, eq_comm]

section Visit

variable (h : a.Movable id)

include h

theorem size_inlineContent : (a.inlineContent id).slots.size = a.slots.size := by
  have hle (i : Nat) : (a.inlineContent id).slots.size ≤ i ↔ a.slots.size ≤ i := by
    rw [← Array.getElem?_eq_none_iff, ← Array.getElem?_eq_none_iff,
      getElem?_inlineContent h, Option.map_eq_none_iff]
  exact Nat.le_antisymm ((hle _).mpr (Nat.le_refl _)) ((hle _).mp (Nat.le_refl _))

theorem bare?_inlineContent : (a.inlineContent id).bare? i = a.bare? i := by
  rw [bare?, bare?, getElem?_inlineContent h, Option.map_map]
  congr 1
  funext s
  by_cases hi : i = id <;> simp [hi]

theorem content?_inlineContent :
    (a.inlineContent id).content? i = if i = id then none else a.content? i := by
  rw [content?, content?, getElem?_inlineContent h, Option.bind_map]
  cases a.slots[i]? with
  | none => simp
  | some s => by_cases hi : i = id <;> simp [hi]

theorem children_inlineContent :
    (a.inlineContent id).children i =
      if i = id then a.children id ++ a.contentChildren id
      else if a.content? id = some i then #[] else a.children i := by
  rw [children, getElem?_inlineContent h]
  by_cases hi : i = id
  · subst hi
    cases hslot : a.slots[i]? with
    | none => simp [children, contentChildren, content?, hslot]
    | some s => simp [children, hslot]
  · rw [if_neg hi, children]
    cases a.slots[i]? <;> simp [hi]

theorem parent?_inlineContent (hi : i < a.slots.size) :
    (a.inlineContent id).parent? i =
      if i ∈ a.contentChildren id then some id else a.parent? i := by
  rw [parent?, parent?, getElem?_inlineContent h, Array.getElem?_eq_getElem hi]
  rfl

theorem parent?_inlineContent_of_notMem (hi : i ∉ a.contentChildren id) :
    (a.inlineContent id).parent? i = a.parent? i := by
  rw [parent?, parent?, getElem?_inlineContent h, Option.bind_map]
  cases a.slots[i]? <;> simp [hi]

end Visit

/-! ### A visit to the top of an outline -/

namespace Holds

/-- The children of the top with what is in its content are the tops of the outlines below it. -/
theorem children_append (h : a.Holds o) :
    (a.children o.root ++ a.contentChildren o.root).toList = o.branches.map root := by
  cases o with
  | plain id children =>
    obtain ⟨-, hcontent, hchildren, -⟩ := h
    simpa [contentChildren, hcontent, root, Outline.branches] using hchildren
  | template id holder children content =>
    obtain ⟨-, hcontent, hchildren, hheld, -⟩ := h
    simp [contentChildren, hcontent, root, Outline.branches, hchildren, hheld]

/-- A node in the content of the top is the top of an outline below it. -/
theorem exists_root (h : a.Holds o) (hi : i ∈ a.contentChildren o.root) :
    ∃ p ∈ o.branches, p.root = i := by
  rw [← List.mem_map, ← h.children_append, Array.toList_append]
  exact List.mem_append_right _ (Array.mem_toList_iff.mpr hi)

/-- A node that knows its parent either has it, or is in the content of a template. -/
theorem mem_content_or_parent (h : a.Holds o) (hlinked : a.Linked o) {p : Outline}
    (hp : p ∈ o.branches) : p.root ∈ a.contentChildren o.root ∨ a.parent? p.root = some o.root := by
  cases o with
  | plain id children => exact .inr (hlinked.1 p hp)
  | template id holder children content =>
    obtain hp | hp := List.mem_append.mp hp
    · exact .inr (hlinked.1 p hp)
    · refine .inl (Array.mem_toList_iff.mp ?_)
      simp only [contentChildren, h.2.1, root, Option.map_some, Option.getD_some, h.2.2.2.1]
      exact List.mem_map_of_mem hp

section Visit

variable (h : a.Holds o) (hnd : o.owned.Nodup)

include h hnd

/-- The node that holds the content of the top belongs to the outline, and to nothing below. -/
theorem holder_mem_owned (hi : a.content? o.root = some i) :
    i ∈ o.owned ∧ i ∉ o.root :: o.branches.flatMap owned := by
  cases o with
  | plain id children => cases h.2.1.symm.trans hi
  | template id holder children content =>
    obtain rfl : holder = i := Option.some.inj (h.2.1.symm.trans hi)
    rw [owned, ownedAll_eq_flatMap, ownedAll_eq_flatMap, ← List.flatMap_append] at hnd
    refine ⟨List.mem_cons_of_mem _ List.mem_cons_self, ?_⟩
    obtain ⟨hid, hholder⟩ := List.nodup_cons.mp hnd
    rw [List.mem_cons, not_or]
    exact ⟨fun he => hid (he ▸ List.mem_cons_self), (List.nodup_cons.mp hholder).1⟩

/-- The content of the top of a tree can be moved. -/
theorem movable : a.Movable o.root where
  content?_ne hself := (h.holder_mem_owned hnd hself).2 List.mem_cons_self
  nodup := by
    have hroots : (o.branches.map root).Nodup :=
      (nodup_branches hnd).of_cons.sublist (map_root_sublist_owned _)
    rw [← h.children_append, Array.toList_append] at hroots
    exact hroots.of_append_right

theorem children_visit_root :
    ((a.inlineContent o.root).children o.root).toList = o.branches.map root := by
  rw [children_inlineContent (h.movable hnd), if_pos rfl, h.children_append]

/-- A visit touches nothing but the outline. -/
theorem getElem?_visit (hi : i ∉ o.owned) :
    (a.inlineContent o.root).slots[i]? = a.slots[i]? := by
  have hroot : i ≠ o.root := fun he => hi (he ▸ o.root_mem_owned)
  have hholder : a.content? o.root ≠ some i := fun he => hi (h.holder_mem_owned hnd he).1
  have hcontent : i ∉ a.contentChildren o.root := fun he => by
    obtain ⟨p, hp, rfl⟩ := h.exists_root he
    exact hi (o.cons_flatMap_sublist_owned.subset
      (List.mem_cons_of_mem _ (List.mem_flatMap.mpr ⟨p, hp, p.root_mem_owned⟩)))
  rw [getElem?_inlineContent (h.movable hnd)]
  simp [hroot, hholder, hcontent]

/-- A visit leaves the outlines below the top as they were. -/
theorem branches_visit : ∀ p ∈ o.branches, (a.inlineContent o.root).Holds p := by
  intro p hp
  refine (h.branches p hp).congr (size_inlineContent (h.movable hnd)) fun i hi => ?_
  have hi : i ∈ o.branches.flatMap owned := List.mem_flatMap.mpr ⟨p, hp, hi⟩
  have hroot : i ≠ o.root := fun he => (List.nodup_cons.mp (nodup_branches hnd)).1 (he ▸ hi)
  have hholder : a.content? o.root ≠ some i := fun he =>
    (h.holder_mem_owned hnd he).2 (List.mem_cons_of_mem _ hi)
  rw [content?_inlineContent (h.movable hnd),
    children_inlineContent (h.movable hnd), if_neg hroot,
    if_neg hroot, if_neg hholder]
  exact ⟨rfl, rfl⟩

/-- The node above the top is not touched. -/
theorem parent?_visit_root : (a.inlineContent o.root).parent? o.root = a.parent? o.root := by
  refine parent?_inlineContent_of_notMem (h.movable hnd)
    fun hmem => ?_
  obtain ⟨p, hp, he⟩ := h.exists_root hmem
  exact (List.nodup_cons.mp (nodup_branches hnd)).1
    (he ▸ List.mem_flatMap.mpr ⟨p, hp, p.root_mem_owned⟩)

/-- After a visit, the outlines directly below the top know it, and what is below them stays. -/
theorem linked_visit (hlinked : a.Linked o) {p : Outline} (hp : p ∈ o.branches) :
    (a.inlineContent o.root).parent? p.root = some o.root ∧ (a.inlineContent o.root).Linked p := by
  constructor
  · rw [parent?_inlineContent (h.movable hnd)
      (h.branches p hp).root_lt]
    split
    · rfl
    · exact (h.mem_content_or_parent hlinked hp).resolve_left ‹_›
  · refine (hlinked.branches p hp).congr fun i hi =>
      parent?_inlineContent_of_notMem (h.movable hnd)
        fun hmem => ?_
    obtain ⟨q, hq, rfl⟩ := h.exists_root hmem
    exact root_notMem_branches (nodup_branches hnd).of_cons hq hp hi

end Visit

end Holds

/-! ### The loop -/

/-- What the loop has done once the tops of the outlines, which the first arena holds, and all that
is below them have been visited. Nothing else has changed, and no node has moved to another slot. -/
structure Settles (a b : Arena) (os : List Outline) : Prop where
  size : b.slots.size = a.slots.size
  bare : ∀ i, b.bare? i = a.bare? i
  kept : ∀ i, i ∉ os.flatMap owned → b.slots[i]? = a.slots[i]?
  holds : ∀ o ∈ os, b.Holds o.inlined
  parent : ∀ o ∈ os, b.parent? o.root = a.parent? o.root
  linked : ∀ o ∈ os, a.Linked o → b.Linked o.inlined

/-- If no outline waits, nothing is left to do. -/
theorem Settles.nil : Settles a a [] where
  size := rfl
  bare _ := rfl
  kept _ _ := rfl
  holds := List.forall_mem_nil _
  parent := List.forall_mem_nil _
  linked := List.forall_mem_nil _

section Step

variable (h : a.Holds o) (hnd : ((o :: os).flatMap owned).Nodup)

theorem flatMap_waiting_perm {α : Type} (f : Outline → List α) :
    ((o.branches.reverse ++ os).flatMap f).Perm (o.branches.flatMap f ++ os.flatMap f) := by
  rw [← List.flatMap_append]
  exact (o.branches.reverse_perm.append_right os).flatMap_right f

/-- A visit takes the top off the outlines that wait. -/
theorem length_waiting : ((o :: os).flatMap nodes).length =
    ((o.branches.reverse ++ os).flatMap nodes).length + 1 := by
  rw [(flatMap_waiting_perm nodes).length_eq, List.flatMap_cons, nodes_eq o, List.cons_append,
    List.length_cons]

theorem mem_waiting {p : Outline} (hp : p ∈ o.branches) : p ∈ o.branches.reverse ++ os :=
  List.mem_append_left _ (List.mem_reverse.mpr hp)

include hnd

theorem nodup_owned : o.owned.Nodup :=
  (List.nodup_append'.mp hnd).1

/-- The outlines that wait after a visit have no node in common if those before it had none. -/
theorem nodup_waiting : (o.root :: (o.branches.reverse ++ os).flatMap owned).Nodup := by
  rw [((flatMap_waiting_perm owned).cons o.root).nodup_iff, ← List.cons_append]
  exact hnd.sublist (o.cons_flatMap_sublist_owned.append_right _)

theorem notMem_owned {p : Outline} (hp : p ∈ os) : ∀ i ∈ p.owned, i ∉ o.owned := fun _ hi ho =>
  List.disjoint_of_nodup_append hnd ho (List.mem_flatMap.mpr ⟨p, hp, hi⟩)

/-- The first top is visited once. -/
theorem Settles.getElem?_root
    (hrest : Settles (a.inlineContent o.root) b (o.branches.reverse ++ os)) :
    b.slots[o.root]? = (a.inlineContent o.root).slots[o.root]? :=
  hrest.kept _ (List.nodup_cons.mp (nodup_waiting hnd)).1

include h

/-- A visit leaves all outlines that wait as they were. -/
theorem holds_waiting (hos : ∀ p ∈ os, a.Holds p) :
    ∀ p ∈ o.branches.reverse ++ os, (a.inlineContent o.root).Holds p := by
  have ho : o.owned.Nodup := nodup_owned hnd
  intro p hp
  obtain hp | hp := List.mem_append.mp hp
  · exact h.branches_visit ho p (List.mem_reverse.mp hp)
  · refine (hos p hp).congr (size_inlineContent (h.movable ho)) fun i hi => ?_
    have hslot := h.getElem?_visit ho (notMem_owned hnd hp i hi)
    rw [content?, children, hslot]
    exact ⟨rfl, rfl⟩

/-- A visit leaves all outlines that wait but are not below the top linked as they were. -/
theorem linked_waiting {p : Outline} (hp : p ∈ os) (hlinked : a.Linked p) :
    (a.inlineContent o.root).Linked p :=
  hlinked.congr fun i hi => by
    have hi : i ∈ p.owned := p.cons_flatMap_sublist_owned.subset (List.mem_cons_of_mem _ hi)
    rw [parent?, parent?, h.getElem?_visit (nodup_owned hnd) (notMem_owned hnd hp i hi)]

namespace Settles

variable (hrest : Settles (a.inlineContent o.root) b (o.branches.reverse ++ os))

include hrest

theorem holds_root : b.Holds o.inlined := by
  have ho : o.owned.Nodup := nodup_owned hnd
  have hslot := hrest.getElem?_root hnd
  rw [inlined_eq]
  refine ⟨?_, ?_, ?_, ?_⟩
  · rw [hrest.size, size_inlineContent (h.movable ho)]
    exact h.root_lt
  · rw [content?, hslot]
    exact (content?_inlineContent (h.movable ho)).trans (if_pos rfl)
  · rw [children, hslot, List.map_map]
    exact (h.children_visit_root ho).trans (List.map_congr_left fun p _ => p.root_inlined.symm)
  · rw [holdsAll_iff, List.forall_mem_map]
    exact fun p hp => hrest.holds p (mem_waiting hp)

theorem linked_root (hlinked : a.Linked o) : b.Linked o.inlined := by
  have ho : o.owned.Nodup := nodup_owned hnd
  rw [inlined_eq]
  refine ⟨List.forall_mem_map.mpr fun p hp => ?_, ?_⟩
  · rw [p.root_inlined, hrest.parent p (mem_waiting hp)]
    exact (h.linked_visit ho hlinked hp).1
  · rw [linkedAll_iff, List.forall_mem_map]
    exact fun p hp => hrest.linked p (mem_waiting hp) (h.linked_visit ho hlinked hp).2

/-- **One step of the loop**: a visit to the top of the first outline, then all that waits. -/
theorem cons : Settles a b (o :: os) := by
  have ho : o.owned.Nodup := nodup_owned hnd
  refine
    { size := hrest.size.trans (size_inlineContent (h.movable ho))
      bare := fun i => (hrest.bare i).trans (bare?_inlineContent (h.movable ho))
      kept := fun i hi => ?_
      holds := List.forall_mem_cons.mpr ⟨hrest.holds_root h hnd, fun p hp =>
        hrest.holds p (List.mem_append_right _ hp)⟩
      parent := List.forall_mem_cons.mpr ⟨?_, fun p hp => ?_⟩
      linked := List.forall_mem_cons.mpr ⟨hrest.linked_root h hnd, fun p hp hlinked =>
        hrest.linked p (List.mem_append_right _ hp) (linked_waiting h hnd hp hlinked)⟩ }
  · rw [List.flatMap_cons, List.mem_append, not_or] at hi
    have hwaiting : i ∉ (o.branches.reverse ++ os).flatMap owned := by
      rw [(flatMap_waiting_perm owned).mem_iff, List.mem_append, not_or]
      exact ⟨fun hmem => hi.1 (o.cons_flatMap_sublist_owned.subset (List.mem_cons_of_mem _ hmem)),
        hi.2⟩
    rw [hrest.kept i hwaiting, h.getElem?_visit ho hi.1]
  · rw [parent?, hrest.getElem?_root hnd]
    exact h.parent?_visit_root ho
  · rw [hrest.parent p (List.mem_append_right _ hp), parent?, parent?,
      h.getElem?_visit ho (notMem_owned hnd hp _ p.root_mem_owned)]

end Settles

end Step

/-- **The loop ends** after as many visits as there are nodes, and then it has visited the waiting
nodes and all that is below them. -/
theorem inlineFrom_settles {a : Arena} (os : List Outline) (hos : ∀ o ∈ os, a.Holds o)
    (hnd : (os.flatMap owned).Nodup) :
    ∃ b, (∀ visits, a.inlineFrom visits (os.map root) =
      if (os.flatMap nodes).length ≤ visits then some b else none) ∧ Settles a b os := by
  match os with
  | [] => exact ⟨a, fun visits => by simp [inlineFrom], .nil⟩
  | o :: os =>
    -- by induction on the number of nodes that wait, of which a visit takes one
    obtain ⟨ho, hos⟩ := List.forall_mem_cons.mp hos
    obtain ⟨b, hrun, hb⟩ := inlineFrom_settles (o.branches.reverse ++ os)
      (holds_waiting ho hnd hos) (nodup_waiting hnd).of_cons
    refine ⟨b, fun visits => ?_, hb.cons ho hnd⟩
    rw [List.map_cons, length_waiting]
    cases visits with
    | zero => rfl
    | succ visits =>
      rw [inlineFrom, ho.children_visit_root (nodup_owned hnd), ← List.map_reverse,
        ← List.map_append, hrun]
      simp only [Nat.add_le_add_iff_right]
termination_by (os.flatMap nodes).length
decreasing_by exact Nat.lt_of_lt_of_eq (Nat.lt_succ_self _) length_waiting.symm

/-- The nodes of an outline are nodes of the arena. -/
theorem Holds.lt_size (h : a.Holds o) : ∀ i ∈ o.nodes, i < a.slots.size := by
  induction o using induct_branches with
  | step o ih =>
    rw [nodes_eq, List.forall_mem_cons, List.forall_mem_flatMap]
    exact ⟨h.root_lt, fun p hp => ih p hp (h.branches p hp)⟩

/-- A tree has no more nodes than the arena. -/
theorem Holds.length_nodes_le (h : a.Holds o) (hnd : o.owned.Nodup) :
    o.nodes.length ≤ a.slots.size := by
  have hsub : o.nodes ⊆ List.range a.slots.size := fun i hi => List.mem_range.mpr (h.lt_size i hi)
  have hsubperm := List.subperm_of_subset (hnd.sublist o.nodes_sublist_owned) hsub
  simpa only [List.length_range] using hsubperm.length_le

/-- On a tree the loop takes as many visits as there are nodes, and so it comes to its end. -/
theorem exists_inlineContents (h : a.Holds o) (hnd : o.owned.Nodup) :
    ∃ b, (∀ visits, a.inlineFrom visits [o.root] =
        if o.nodes.length ≤ visits then some b else none) ∧
      a.inlineContents o.root = some b ∧ Settles a b [o] := by
  obtain ⟨b, hrun, hb⟩ := inlineFrom_settles [o] (List.forall_mem_singleton.mpr h)
    (by rwa [List.flatMap_singleton])
  rw [List.map_singleton, List.flatMap_singleton] at hrun
  exact ⟨b, hrun, (hrun _).trans (if_pos (h.length_nodes_le hnd)), hb⟩

/-! ### The tree before and after -/

/-- The trees in the content of a node. -/
def contentTrees (a : Arena) (depth : Nat) (id : NodeId) : Option (List Node) :=
  (a.content? id).map fun holder => (a.children holder).toList.map (a.toNodeWithin depth)

theorem contentTrees_getD (depth : Nat) : (a.contentTrees depth id).getD [] =
    (a.contentChildren id).toList.map (a.toNodeWithin depth) := by
  rw [contentTrees, contentChildren]
  cases a.content? id <;> simp

/-- Only elements have a content. -/
theorem contentTrees_eq_none_or {cell : Cell} (hcell : a.bare? id = some cell) (depth : Nat) :
    a.contentTrees depth id = none ∨ ∃ tag fragment, cell = .element tag fragment := by
  rw [bare?, Option.map_eq_some_iff] at hcell
  obtain ⟨⟨cell', parent, children⟩, hslot, rfl⟩ := hcell
  rw [contentTrees, content?, hslot]
  cases cell' with
  | element tag content => exact .inr ⟨tag, none, rfl⟩
  | _ => exact .inl rfl

/-- The tree at a node: what the node is, with the trees of its content and of its children. -/
theorem toNodeWithin_succ (depth : Nat) :
    a.toNodeWithin (depth + 1) id =
      ((a.bare? id).map (Cell.toNode (a.contentTrees depth id)
        ((a.children id).toList.map (a.toNodeWithin depth)))).getD (.document []) := by
  rw [toNodeWithin, bare?, contentTrees, content?, children]
  cases hslot : a.slots[id]? with
  | none => rfl
  | some s => cases hcell : s.cell with
    | element tag content => cases content <;> simp [Cell.bare, Cell.toNode, Cell.content?, hcell]
    | _ => simp [Cell.bare, Cell.toNode, hcell]

/-- An inlined outline that is held: the top has no content, and all that was below it for
children. -/
theorem Holds.of_inlined (h : b.Holds o.inlined) :
    b.content? o.root = none ∧ (b.children o.root).toList = o.branches.map root ∧
      ∀ p ∈ o.branches, b.Holds p.inlined := by
  rw [inlined_eq] at h
  obtain ⟨-, hcontent, hchildren, hbelow⟩ := h
  rw [holdsAll_iff, List.forall_mem_map] at hbelow
  rw [List.map_map] at hchildren
  exact ⟨hcontent, hchildren.trans (List.map_congr_left fun p _ => p.root_inlined), hbelow⟩

/-- Where every node of an outline has its content behind its children, the tree is that of before
with all contents behind the children. -/
theorem Holds.toNodeWithin_inlined (h : a.Holds o) (hb : b.Holds o.inlined)
    (hbare : ∀ i, b.bare? i = a.bare? i) (depth : Nat) :
    b.toNodeWithin depth o.root = (a.toNodeWithin depth o.root).inlineContents := by
  induction o using induct_branches generalizing depth with
  | step o ih =>
    cases depth with
    | zero => rfl
    | succ depth =>
      obtain ⟨hcontent, hchildren, hbelow⟩ := hb.of_inlined
      obtain ⟨cell, hcell⟩ : ∃ cell, a.bare? o.root = some cell :=
        ⟨_, by rw [bare?, Array.getElem?_eq_getElem h.root_lt, Option.map_some]⟩
      have hnodes : o.branches.map (fun p => b.toNodeWithin depth p.root) =
          o.branches.map fun p => (a.toNodeWithin depth p.root).inlineContents :=
        List.map_congr_left fun p hp => ih p hp (h.branches p hp) (hbelow p hp) depth
      -- both trees are of the same cell, over the trees of the same nodes
      rw [toNodeWithin_succ, toNodeWithin_succ, hbare, hcell, hchildren, Option.map_some,
        Option.map_some, Option.getD_some, Option.getD_some,
        Cell.inlineContents_toNode _ (contentTrees_eq_none_or hcell depth), contentTrees_getD,
        ← List.map_append, ← Array.toList_append, h.children_append, List.map_map, List.map_map,
        List.map_map, contentTrees, hcontent, Option.map_none]
      exact congrArg (cell.toNode none ·) hnodes

/-- Every node of an inlined outline has the children that it had, and then its content. -/
theorem Holds.children_inlined (h : a.Holds o) (hb : b.Holds o.inlined) :
    ∀ i ∈ o.nodes, b.content? i = none ∧ b.children i = a.children i ++ a.contentChildren i := by
  induction o using induct_branches with
  | step o ih =>
    obtain ⟨hcontent, hchildren, hbelow⟩ := hb.of_inlined
    rw [nodes_eq, List.forall_mem_cons, List.forall_mem_flatMap]
    refine ⟨⟨hcontent, ?_⟩, fun p hp => ih p hp (h.branches p hp) (hbelow p hp)⟩
    rw [← Array.toList_inj, hchildren, h.children_append]

/-- The tree of a document after the loop is that of before with all contents behind the
children. -/
theorem toNode_inlineContents (h : a.Holds o) (hnd : o.owned.Nodup) (hroot : o.root = documentId) :
    ((a.inlineContents documentId).getD a).toNode = a.toNode.inlineContents := by
  obtain ⟨b, -, hrun, hb⟩ := exists_inlineContents h hnd
  have htree := h.toNodeWithin_inlined (hb.holds o List.mem_cons_self) hb.bare (a.slots.size + 1)
  rw [hroot] at hrun htree
  rw [hrun, Option.getD_some, toNode, toNode, hb.size, htree]

/-- **Contents of templates are neither lost nor doubled.** On every tree of an arena, with
templates in contents of templates to any depth, the loop ends after one visit for each node.
Afterwards no node of the tree has a content; the children of a template are those that it had, and
then those of its content; any other node has the children that it had. The tree of children is made
of all nodes of the tree and of its contents, each of them once and in the document order of before;
every node knows its parent if it did, and is what it was; and no slot but those of the tree has
changed. So the tree that is read off is that of before with every content behind the children, to
any depth. -/
theorem inlineContents_keeps_nodes (h : a.Holds o) (hnd : o.owned.Nodup) :
    ∃ b, a.inlineContents o.root = some b ∧
      (∀ visits, a.inlineFrom visits [o.root] =
        if o.nodes.length ≤ visits then some b else none) ∧
      (∀ i ∈ o.nodes, b.content? i = none ∧
        b.children i = match a.content? i with
          | none => a.children i
          | some content => a.children i ++ a.children content) ∧
      b.Holds o.inlined ∧ o.inlined.nodes = o.nodes ∧ o.nodes.Nodup ∧
      (a.Linked o → b.Linked o.inlined) ∧
      (∀ i, b.bare? i = a.bare? i) ∧
      (∀ i, i ∉ o.owned → b.slots[i]? = a.slots[i]?) ∧
      ∀ depth, b.toNodeWithin depth o.root = (a.toNodeWithin depth o.root).inlineContents := by
  obtain ⟨b, hvisits, hrun, hb⟩ := exists_inlineContents h hnd
  have hheld : b.Holds o.inlined := hb.holds o List.mem_cons_self
  refine ⟨b, hrun, hvisits, fun i hi => ?_, hheld, o.nodes_inlined,
    hnd.sublist o.nodes_sublist_owned, hb.linked o List.mem_cons_self, hb.bare, fun i hi => ?_,
    h.toNodeWithin_inlined hheld hb.bare⟩
  · obtain ⟨hcontent, hchildren⟩ := h.children_inlined hheld i hi
    refine ⟨hcontent, hchildren.trans ?_⟩
    cases hc : a.content? i <;> simp [contentChildren, hc]
  · exact hb.kept i (by rwa [List.flatMap_singleton])

/-- A document with a template, and a template within the content of that, each with some text. -/
def templateInTemplate : Arena where
  slots := #[
    { cell := .document, children := #[1] },
    { cell := .element { name := "template" } (some 2), parent := some 0 },
    { cell := .document, children := #[3, 4] },
    { cell := .text "outer", parent := some 2 },
    { cell := .element { name := "template" } (some 5), parent := some 2 },
    { cell := .document, children := #[6] },
    { cell := .text "inner", parent := some 5 }]

theorem inlineContents_keeps_nodes_nested :
    ∃ b, templateInTemplate.inlineContents 0 = some b ∧
      b.children 1 = #[3, 4] ∧ b.children 4 = #[6] := by
  have hholds : templateInTemplate.Holds
      (.plain 0 [.template 1 2 [] [.plain 3 [], .template 4 5 [] [.plain 6 []]]]) := by
    simp [Holds, HoldsAll, templateInTemplate, content?, children, Cell.content?, root]
  obtain ⟨b, hrun, -, hnodes, -⟩ := inlineContents_keeps_nodes hholds (by decide)
  exact ⟨b, hrun, (hnodes 1 (by decide)).2, (hnodes 4 (by decide)).2⟩

end Arena

end SiteSnapshot.Html
