import SiteSnapshot.Html.Node

/-!
# Documents under construction

While a page is read, nodes move: misnested formatting is untangled and text is taken out
of tables. An `Arena` holds the nodes in an array, addressed by their index, each with its
parent and its children; `Arena.toNode` reads the finished tree off. Text that comes to
lie after text is joined to it, so no two text nodes are neighbours.
-/

namespace SiteSnapshot.Html

/-- The address of a node in an arena. -/
abbrev NodeId := Nat

/-- What a node of an arena is. A template refers to the node that holds its content. -/
inductive Cell where
  | document
  | doctype (name : String)
  | comment (text : String)
  | text (text : String)
  | element (tag : Tag) (content : Option NodeId)
deriving Inhabited

/-- A node of an arena: what it is, the node above it, and the nodes below it in order. -/
structure Slot where
  cell : Cell
  parent : Option NodeId := none
  children : Array NodeId := #[]
deriving Inhabited

/-- The nodes of a document under construction; node 0 is the document itself. -/
structure Arena where
  slots : Array Slot := #[{ cell := .document }]
deriving Inhabited

namespace Arena

/-- The address of the document. -/
def documentId : NodeId := 0

/-- The parent of a node. -/
def parent? (a : Arena) (id : NodeId) : Option NodeId :=
  a.slots[id]?.bind (·.parent)

/-- The children of a node. -/
def children (a : Arena) (id : NodeId) : Array NodeId :=
  (a.slots[id]?.map (·.children)).getD #[]

/-- The node that holds a template's content; any other node holds its own. -/
def contentOf (a : Arena) (id : NodeId) : NodeId :=
  match a.slots[id]? with
  | some { cell := .element _ (some content), .. } => content
  | _ => id

/-- Adds a node that is not in the tree yet. -/
def alloc (a : Arena) (cell : Cell) : Arena × NodeId :=
  let id := a.slots.size
  (⟨a.slots.push { cell := cell }⟩, id)

/-- Adds an element that is not in the tree yet; a template gets a place for its
content. -/
def allocElement (a : Arena) (tag : Tag) : Arena × NodeId :=
  if tag.space = .html ∧ tag.name = "template" then
    let (a, content) := a.alloc .document
    a.alloc (.element tag (some content))
  else a.alloc (.element tag none)

/-- Puts a node that has no parent after the last child of another. -/
def append (a : Arena) (parent child : NodeId) : Arena :=
  let slots := a.slots.modify child fun s => { s with parent := some parent }
  ⟨slots.modify parent fun s => { s with children := s.children.push child }⟩

/-- True when a node is text. -/
def isText (a : Arena) (id : NodeId) : Bool :=
  match a.slots[id]? with
  | some { cell := .text _, .. } => true
  | _ => false

/-- Lengthens a text node. -/
def extendText (a : Arena) (id : NodeId) (more : String) : Arena :=
  ⟨a.slots.modify id fun s =>
    match s with
    | { cell := .text t, parent := p, children := c } => ⟨.text (t ++ more), p, c⟩
    | s => s⟩

/-- Puts text after the last child of a node. -/
def appendText (a : Arena) (parent : NodeId) (text : String) : Arena :=
  match (a.children parent).back? with
  | some last =>
    if a.isText last then a.extendText last text
    else let (a, id) := a.alloc (.text text); a.append parent id
  | none => let (a, id) := a.alloc (.text text); a.append parent id

/-- Takes a node out of the tree. -/
def detach (a : Arena) (id : NodeId) : Arena :=
  match a.parent? id with
  | none => a
  | some parent =>
    let slots := a.slots.modify id fun s => { s with parent := none }
    ⟨slots.modify parent fun s => { s with children := s.children.erase id }⟩

/-- Puts a node before one that has a parent. -/
def insertBefore (a : Arena) (sibling child : NodeId) : Arena :=
  let a := a.detach child
  match a.parent? sibling with
  | none => a
  | some parent =>
    let slots := a.slots.modify child fun s => { s with parent := some parent }
    ⟨slots.modify parent fun s =>
      let i := (s.children.idxOf? sibling).getD s.children.size
      { s with children := s.children.insertIdxIfInBounds i child }⟩

/-- Puts text before a node that has a parent. -/
def insertTextBefore (a : Arena) (sibling : NodeId) (text : String) : Arena :=
  match a.parent? sibling with
  | none => a
  | some parent =>
    let children := a.children parent
    let before := (children.idxOf? sibling).bind fun i => if i = 0 then none else children[i - 1]?
    match before with
    | some previous =>
      if a.isText previous then a.extendText previous text
      else let (a, id) := a.alloc (.text text); a.insertBefore sibling id
    | none => let (a, id) := a.alloc (.text text); a.insertBefore sibling id

/-- Moves all children of a node behind those of another. -/
def moveChildren (a : Arena) (source target : NodeId) : Arena :=
  let moved := a.children source
  let slots := moved.foldl
    (fun slots id => slots.modify id fun s => { s with parent := some target }) a.slots
  let slots := slots.modify source fun s => { s with children := #[] }
  ⟨slots.modify target fun s => { s with children := s.children ++ moved }⟩

/-- Gives an element those of the attributes whose names it lacks. -/
def addMissingAttributes (a : Arena) (id : NodeId) (attributes : List Attribute) : Arena :=
  ⟨a.slots.modify id fun s =>
    match s with
    | { cell := .element tag content, parent := p, children := c } =>
      let new := attributes.filter fun new =>
        !tag.attributes.any fun old => old.space == new.space && old.name == new.name
      ⟨.element { tag with attributes := tag.attributes ++ new } content, p, c⟩
    | s => s⟩

/-- The tree at a node, to a given depth. -/
def toNodeWithin (a : Arena) : Nat → NodeId → Node
  | 0, _ => .document []
  | depth + 1, id =>
    match a.slots[id]? with
    | none => .document []
    | some slot =>
      let children := slot.children.toList.map (toNodeWithin a depth)
      match slot.cell with
      | .document => .document children
      | .doctype name => .doctype name
      | .comment text => .comment text
      | .text text => .text text
      | .element tag none => .element tag none children
      | .element tag (some content) =>
        .element tag (some ((a.children content).toList.map (toNodeWithin a depth))) children

/-- The finished document. No path from the document is longer than the arena. -/
def toNode (a : Arena) : Node :=
  a.toNodeWithin (a.slots.size + 1) documentId

end Arena

end SiteSnapshot.Html
