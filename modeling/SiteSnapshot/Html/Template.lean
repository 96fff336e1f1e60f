import SiteSnapshot.Html.Arena

/-!
# Contents of templates

A template keeps its content apart from its children, in a node of its own, and only children are
written. `Arena.inlineContents` moves the content of every template, also of templates within
contents, behind its children; afterwards no element has a content of its own.

It is a loop over the nodes that wait for a visit, and it moves nodes of the tree that it walks
over: a visit puts the content of a template behind its children, and then all children wait. The
loop is given a number of visits. On a tree as many as the arena has nodes are enough, whatever has
been moved by then.
-/

namespace SiteSnapshot.Html.Arena

/-- Moves the content of a template behind its children. Any other node stays as it is. -/
def inlineContent (a : Arena) (id : NodeId) : Arena :=
  match a.slots[id]? with
  | some { cell := .element tag (some content), .. } =>
    let slots := a.slots.modify id fun s => { s with cell := .element tag none }
    moveChildren ⟨slots⟩ content id
  | _ => a

/-- Visits the waiting nodes and what is below them by then, the last child of a node first; none
if so many visits do not come to an end. -/
def inlineFrom (a : Arena) : Nat → List NodeId → Option Arena
  | _, [] => some a
  | 0, _ :: _ => none
  | visits + 1, id :: waiting =>
    let a := a.inlineContent id
    inlineFrom a visits ((a.children id).toList.reverse ++ waiting)

/-- Moves the contents of all templates in the tree at a node. -/
def inlineContents (a : Arena) (root : NodeId) : Option Arena :=
  a.inlineFrom a.slots.size [root]

end SiteSnapshot.Html.Arena
