import SiteSnapshot.Asset.Roots
import SiteSnapshot.Page.Link
import SiteSnapshot.Page.Policy

/-!
# Relocating a page

A page is relocated by a pass in document order: the URLs of every element become
relative, the first head gets the policy as its first child, and the text of inline
scripts is treated like a bundled script.

The pass is a loop over an explicit stack, so that the depth of a page does not matter.
`walk` visits the waiting nodes one after the other; on an element it opens a **frame**
that keeps what is finished and what is waiting at that level, and goes on with the
element's children. What an element becomes is settled when it is visited, before its
children are: `visit` says how.
-/

namespace SiteSnapshot.Page

open Html

/-- Makes the URL of an attribute relative, if it has a relative form. -/
def relocateAttribute (toRoot : String) (a : Attribute) : Attribute :=
  if Link.isUrlAttribute a.name then
    { a with value := (Link.relative? a.value toRoot).getD a.value }
  else a

/-- Makes the URLs of a tag relative. -/
def relocateTag (toRoot : String) (t : Tag) : Tag :=
  { t with attributes := t.attributes.map (relocateAttribute toRoot) }

/-- True for a script whose text is part of the page. -/
def isInlineScript (t : Tag) : Bool :=
  t.name == "script" && !t.hasAttribute "src"

/-- Makes the references in a text node relative. -/
def relocateScriptText (toRoot : String) : Node → Node
  | .text t => .text (Roots.relativizeScript t toRoot)
  | node => node

/-- What an element and its children become when it is visited, and whether a head has been
seen by then. -/
def visit (toRoot : String) (seenHead : Bool) (t : Tag) (children : List Node) :
    Tag × List Node × Bool :=
  if t.name = "head" ∧ seenHead = false then
    (relocateTag toRoot t, Policy.element :: children, true)
  else if isInlineScript t then
    (relocateTag toRoot t, children.map (relocateScriptText toRoot), seenHead)
  else (relocateTag toRoot t, children, seenHead)

/-- A node whose children are being visited. -/
inductive Holder where
  | document
  | element (tag : Tag) (content : Option (List Node))

/-- The node with its children. -/
def Holder.close : Holder → List Node → Node
  | .document, children => .document children
  | .element tag content, children => .element tag content children

/-- A level of the walk that has been left for the children of a node: the node, the nodes
finished before it, latest first, and those waiting behind it. -/
structure Frame where
  holder : Holder
  finished : List Node
  waiting : List Node

mutual

/-- How many steps of the walk a node takes. -/
def steps : Node → Nat
  | .document children => stepsAll children + 2
  | .element _ _ children => stepsAll children + 2
  | .doctype _ => 1
  | .comment _ => 1
  | .text _ => 1

/-- How many steps of the walk a list of nodes takes. -/
def stepsAll : List Node → Nat
  | [] => 0
  | node :: rest => steps node + stepsAll rest

end

/-- How many steps are left in the frames. -/
def stepsLeft : List Frame → Nat
  | [] => 0
  | f :: frames => stepsAll f.waiting + 1 + stepsLeft frames

/-- Relocating text does not change the number of steps. -/
theorem stepsAll_map_relocateScriptText (toRoot : String) (nodes : List Node) :
    stepsAll (nodes.map (relocateScriptText toRoot)) = stepsAll nodes := by
  induction nodes with
  | nil => rfl
  | cons node rest ih => cases node <;> simp [stepsAll, relocateScriptText, steps, ih]

/-- A visit either finds the first head or leaves the number of steps alone. -/
theorem visit_decreases (toRoot : String) (seenHead : Bool) (t : Tag) (children : List Node) :
    ((visit toRoot seenHead t children).2.2 = true ∧ seenHead = false) ∨
      ((visit toRoot seenHead t children).2.2 = seenHead ∧
        stepsAll (visit toRoot seenHead t children).2.1 = stepsAll children) := by
  unfold visit
  split
  · exact Or.inl ⟨rfl, by simp_all⟩
  · split
    · exact Or.inr ⟨rfl, stepsAll_map_relocateScriptText toRoot children⟩
    · exact Or.inr ⟨rfl, rfl⟩

/-- Walks over the waiting nodes and then back through the frames; answers the nodes of the
outermost level and whether a head has been seen. -/
def walk (toRoot : String) (frames : List Frame) (seenHead : Bool)
    (finished waiting : List Node) : List Node × Bool :=
  match waiting with
  | [] =>
    match frames with
    | [] => (finished.reverse, seenHead)
    | f :: frames =>
      walk toRoot frames seenHead (f.holder.close finished.reverse :: f.finished) f.waiting
  | .element tag content children :: rest =>
    let visited := visit toRoot seenHead tag children
    walk toRoot (⟨.element visited.1 content, finished, rest⟩ :: frames) visited.2.2 []
      visited.2.1
  | .document children :: rest =>
    walk toRoot (⟨.document, finished, rest⟩ :: frames) seenHead [] children
  | .doctype name :: rest => walk toRoot frames seenHead (.doctype name :: finished) rest
  | .comment t :: rest => walk toRoot frames seenHead (.comment t :: finished) rest
  | .text t :: rest => walk toRoot frames seenHead (.text t :: finished) rest
termination_by ((!seenHead).toNat, stepsLeft frames + stepsAll waiting)
decreasing_by
  · right
    simp only [stepsLeft]
    omega
  · rcases visit_decreases toRoot seenHead tag children with ⟨h, h'⟩ | ⟨h, h'⟩
    · left
      subst h'
      simp [h]
    · simp only [h, h', stepsLeft, stepsAll, steps]
      right
      omega
  · right
    simp only [stepsLeft, stepsAll, steps]
    omega
  all_goals
    right
    simp only [stepsAll, steps]
    omega

/-- Relocates the nodes of a page for a place that `toRoot` leads back from. -/
def relocateNodes (toRoot : String) (seenHead : Bool) (nodes : List Node) : List Node × Bool :=
  walk toRoot [] seenHead [] nodes

/-- Relocates a page for a place that `toRoot` leads back from. -/
def relocate (toRoot : String) (page : Node) : Node :=
  (relocateNodes toRoot false [page]).1.headD page

end SiteSnapshot.Page
