import SiteSnapshot.Html.Element
import SiteSnapshot.Html.Foreign
import SiteSnapshot.Html.Legacy

/-!
# State of the tree construction

The construction of a document from its tokens keeps a **stack of open elements** and a
list of **active formatting elements** beside the tree. This module holds that state and
the operations that the rules of `Html/Rules.lean` are made of: opening and closing
elements, finding the place where a node goes, reopening formatting after a block, and
untangling misnested formatting (`adoptionAgency`).

Both lists have their latest entry first.
-/

namespace SiteSnapshot.Html

/-- Which set of rules applies to the next token. -/
inductive Mode where
  | initial
  | beforeHtml
  | beforeHead
  | inHead
  | afterHead
  | inBody
  | text
  | inTable
  | inTableText
  | inCaption
  | inColumnGroup
  | inTableBody
  | inRow
  | inCell
  | inSelect
  | inSelectInTable
  | inTemplate
  | afterBody
  | inFrameset
  | afterFrameset
  | afterAfterBody
  | afterAfterFrameset
deriving DecidableEq, Repr, Inhabited

/-- An entry of the list of active formatting elements. Formatting does not reach across a
marker. -/
inductive FormatEntry where
  | marker
  | element (e : OpenElement) (tag : TagToken)
deriving Inhabited

/-- How far a run of characters has been split into blanks and other characters. -/
inductive Split where
  | mixed
  | blank
  | solid
deriving DecidableEq, Repr, Inhabited

/-- A token as the rules see it. -/
inductive Item where
  | startTag (t : TagToken)
  | endTag (t : TagToken)
  | comment (text : String)
  | characters (split : Split) (text : String)
  | null
  | eof
deriving Inhabited

/-- The state of the construction. -/
structure Construction where
  arena : Arena := {}
  mode : Mode := .initial
  returnMode : Mode := .inBody
  templateModes : List Mode := []
  tableText : Array (Split × String) := #[]
  legacy : Bool := false
  stack : List OpenElement := []
  formatting : List FormatEntry := []
  head : Option OpenElement := none
  form : Option NodeId := none
  framesetOk : Bool := true
  skipNewline : Bool := false
  fostering : Bool := false
deriving Inhabited

/-- A step of the construction. -/
abbrev Build := StateM Construction

namespace Build

/-! ### The stack of open elements -/

/-- The innermost open element. -/
def current : Build OpenElement :=
  return (← get).stack.headD { id := Arena.documentId, name := "" }

/-- True when the innermost open element is an HTML element with the name. -/
def currentIs (name : String) : Build Bool :=
  return (← current).isNamed name

/-- The outermost open element. -/
def rootElement : Build OpenElement :=
  return (← get).stack.getLastD { id := Arena.documentId, name := "" }

/-- The second outermost open element, if it is the body. -/
def bodyElement : Build (Option OpenElement) := do
  let stack := (← get).stack
  match stack.reverse with
  | _ :: e :: _ => return if e.isNamed "body" then some e else none
  | _ => return none

/-- Makes an element the innermost open one. -/
def push (e : OpenElement) : Build Unit :=
  modify fun s => { s with stack := e :: s.stack }

/-- Closes the innermost open element. -/
def pop : Build Unit :=
  modify fun s => { s with stack := s.stack.tail }

/-- Closes elements up to the first that fits, and that one too. -/
def popThrough (fits : OpenElement → Bool) : Build Unit :=
  modify fun s => { s with stack := (s.stack.dropWhile fun e => !fits e).tail }

/-- Closes elements up to the first HTML element with the name, and that one too. -/
def popThroughNamed (name : String) : Build Unit :=
  popThrough (·.isNamed name)

/-- Closes elements up to the first HTML element with one of the names, which stays. -/
def popBackTo (names : List String) : Build Unit :=
  modify fun s => { s with stack := s.stack.dropWhile fun e => !e.isOneOf names }

/-- Takes an element out of the stack wherever it is. -/
def removeFromStack (id : NodeId) : Build Unit :=
  modify fun s => { s with stack := s.stack.eraseP (·.id == id) }

/-- True when some open element is an HTML element with the name. -/
def isOpen (name : String) : Build Bool :=
  return (← get).stack.any (·.isNamed name)

/-- True when an element that fits is open within a scope. -/
def isInScope (boundary fits : OpenElement → Bool) : Build Bool :=
  return inScope boundary fits (← get).stack

/-- True when an HTML element with the name is open within a scope. -/
def namedInScope (boundary : OpenElement → Bool) (name : String) : Build Bool :=
  isInScope boundary (·.isNamed name)

/-- Closes the innermost elements as long as their end is implied. -/
def impliedEnd (names : List String) : Build Unit :=
  modify fun s => { s with stack := s.stack.dropWhile (·.isOneOf names) }

/-- Closes the innermost elements as long as their end is implied, but none with the
name. -/
def impliedEndExcept (name : String) : Build Unit :=
  impliedEnd (Names.impliedEnd.filter (· != name))

/-- Closes the innermost paragraph. -/
def closeParagraph : Build Unit := do
  impliedEndExcept "p"
  popThroughNamed "p"

/-- Closes the paragraph that a block would lie in. -/
def closeParagraphInScope : Build Unit := do
  if ← namedInScope Scope.button "p" then closeParagraph

/-! ### Placing nodes -/

/-- Where a node goes: behind the last child of a node; or, out of a table, before the
table if that still has a parent and else behind the last child of the element that the
table is open in. -/
inductive Place where
  | last (parent : NodeId)
  | foster (table enclosing : NodeId)

/-- Finds the place out of the innermost table. -/
def fosterPlace (a : Arena) : List OpenElement → Place
  | [] => .last Arena.documentId
  | [root] => .last root.id
  | e :: above :: rest =>
    if e.isNamed "template" then .last (a.contentOf e.id)
    else if e.isNamed "table" then .foster e.id above.id
    else fosterPlace a (above :: rest)

/-- The place for a node that belongs into the element. While content is being taken out
of a table, a table or one of its parts is no such place. -/
def placeIn (target : OpenElement) : Build Place := do
  let fostering := (← get).fostering
  if fostering && target.isOneOf ["table", "tbody", "tfoot", "thead", "tr"] then
    return fosterPlace (← get).arena (← get).stack
  else if target.isNamed "template" then return .last ((← get).arena.contentOf target.id)
  else return .last target.id

/-- Puts a node at a place. -/
def insertAt (place : Place) (id : NodeId) : Build Unit :=
  modify fun s =>
    match place with
    | .last parent => { s with arena := s.arena.append parent id }
    | .foster table enclosing =>
      if (s.arena.parent? table).isSome then { s with arena := s.arena.insertBefore table id }
      else { s with arena := s.arena.append enclosing id }

/-- Puts a node into the innermost open element. -/
def insert (id : NodeId) : Build Unit := do
  insertAt (← placeIn (← current)) id

/-- Puts text into the innermost open element. -/
def insertText (text : String) : Build Unit := do
  let place ← placeIn (← current)
  modify fun s =>
    match place with
    | .last parent => { s with arena := s.arena.appendText parent text }
    | .foster table enclosing =>
      if (s.arena.parent? table).isSome then
        { s with arena := s.arena.insertTextBefore table text }
      else { s with arena := s.arena.appendText enclosing text }

/-- Adds a node that is not in the tree yet. -/
def create (cell : Cell) : Build NodeId :=
  modifyGet fun s =>
    let (a, id) := s.arena.alloc cell
    (id, { s with arena := a })

/-- Adds an element that is not in the tree yet. -/
def createElement (tag : Tag) : Build OpenElement :=
  modifyGet fun s =>
    let (a, id) := s.arena.allocElement tag
    let readsAsHtml := tag.space == .mathml && tag.name == "annotation-xml" &&
      tag.attributes.any fun a => a.space == .unqualified && a.name == "encoding" &&
        ["text/html", "application/xhtml+xml"].contains (a.value.map Char.toLower)
    (⟨id, tag.space, tag.name, readsAsHtml⟩, { s with arena := a })

/-- Puts a comment into the innermost open element. -/
def insertComment (text : String) : Build Unit := do
  insert (← create (.comment text))

/-- Puts a comment behind the last child of a node. -/
def appendComment (parent : NodeId) (text : String) : Build Unit := do
  let id ← create (.comment text)
  modify fun s => { s with arena := s.arena.append parent id }

/-- Puts a new element into the innermost open element without opening it. -/
def insertClosed (tag : Tag) : Build OpenElement := do
  let e ← createElement tag
  insert e.id
  return e

/-- Puts a new element into the innermost open element and opens it. -/
def insertOpen (tag : Tag) : Build OpenElement := do
  let e ← insertClosed tag
  push e
  return e

/-- The HTML element of a start tag. -/
def htmlTag (t : TagToken) : Tag :=
  { name := t.name, attributes := t.attributes }

/-- Opens the element of a start tag. -/
def openTag (t : TagToken) : Build OpenElement :=
  insertOpen (htmlTag t)

/-- Adds the element of a start tag that has no content. -/
def addTag (t : TagToken) : Build OpenElement :=
  insertClosed (htmlTag t)

/-- Opens an element that the text leaves out. -/
def openImplied (name : String) : Build OpenElement :=
  insertOpen { name := name }

/-- Opens the outermost element. -/
def openRoot (attributes : List Attribute) : Build Unit := do
  let e ← createElement { name := "html", attributes := attributes }
  push e
  modify fun s => { s with arena := s.arena.append Arena.documentId e.id }

/-! ### Active formatting elements -/

/-- The entries after the last marker, each with its position. -/
def sinceMarker (entries : List FormatEntry) : List (Nat × OpenElement × TagToken) :=
  go 0 entries
where
  /-- Goes on at a position. -/
  go (i : Nat) : List FormatEntry → List (Nat × OpenElement × TagToken)
    | .element e tag :: rest => (i, e, tag) :: go (i + 1) rest
    | _ => []

/-- The position of the entry for an element. -/
def formatIndex? (entries : List FormatEntry) (id : NodeId) : Option Nat :=
  entries.findIdx? fun
    | .element e _ => e.id == id
    | .marker => false

/-- Adds a marker. -/
def pushMarker : Build Unit :=
  modify fun s => { s with formatting := .marker :: s.formatting }

/-- Drops the entries up to the last marker, and that too. -/
def clearToMarker : Build Unit :=
  modify fun s => { s with formatting :=
    (s.formatting.dropWhile fun | .marker => false | _ => true).tail }

/-- Drops the entry for an element. -/
def removeFormatting (id : NodeId) : Build Unit :=
  modify fun s => { s with formatting := s.formatting.eraseP fun
    | .element e _ => e.id == id
    | .marker => false }

/-- True for tags that open the same formatting: the same name and the same attributes in
any order. -/
def sameFormatting (s t : TagToken) : Bool :=
  s.name == t.name && s.attributes.length == t.attributes.length &&
    s.attributes.all t.attributes.contains

/-- Opens a formatting element and makes it active. Of more than three equal entries since
the last marker the earliest goes. -/
def openFormatting (t : TagToken) : Build Unit := do
  let equal := (sinceMarker (← get).formatting).filter fun (_, _, old) => sameFormatting t old
  if equal.length ≥ 3 then
    match equal.getLast? with
    | some (i, _, _) => modify fun s => { s with formatting := s.formatting.eraseIdx i }
    | none => pure ()
  let e ← openTag t
  modify fun s => { s with formatting := .element e t :: s.formatting }

/-- Opens again the active formatting elements that have been closed since they were
opened, from the earliest after the last marker or open one. -/
def reconstruct : Build Unit := do
  let s ← get
  let closed := s.formatting.takeWhile fun
    | .marker => false
    | .element e _ => !s.stack.any (·.id == e.id)
  let kept := s.formatting.drop closed.length
  modify fun s => { s with formatting := kept }
  for entry in closed.reverse do
    match entry with
    | .marker => pure ()
    | .element _ t =>
      let e ← openTag t
      modify fun s => { s with formatting := .element e t :: s.formatting }

/-! ### End tags -/

/-- Closes the innermost element with the name, unless a special element is open in it. -/
def closeGeneric (name : String) : Build Unit := do
  let stack := (← get).stack
  let inner := stack.takeWhile fun e => !e.isNamed name
  if inner.length = stack.length || inner.any (·.isOneOf Names.special) then return
  impliedEndExcept name
  popThroughNamed name

/-- Where the clone of a formatting element goes in the list of active formatting
elements. -/
inductive Bookmark where
  | replace (id : NodeId)
  | after (id : NodeId)

/-- Walks from the furthest block up to the formatting element and puts clones of the
elements in between around what has been gathered. `index` counts from the innermost open
element, and `gathered` is the node to go into the next clone. -/
def rebuildBetween (formatElement furthest : NodeId) :
    Nat → Nat → Nat → NodeId → Bookmark → Build (NodeId × Bookmark)
  | 0, _, _, gathered, bookmark => return (gathered, bookmark)
  | fuel + 1, index, count, gathered, bookmark => do
    match (← get).stack[index]? with
    | none => return (gathered, bookmark)
    | some node =>
      if node.id = formatElement then return (gathered, bookmark)
      let formatting := (← get).formatting
      let position := formatIndex? formatting node.id
      match position.bind fun i => formatting[i]?.map fun e => (i, e) with
      | some (i, .element _ tag) =>
        if count > 3 then
          removeFormatting node.id
          removeFromStack node.id
          rebuildBetween formatElement furthest fuel index (count + 1) gathered bookmark
        else
          let clone ← createElement (htmlTag tag)
          modify fun s => { s with
            stack := s.stack.set index clone
            formatting := s.formatting.set i (.element clone tag) }
          let bookmark := if gathered = furthest then .after clone.id else bookmark
          modify fun s => { s with arena := (s.arena.detach gathered).append clone.id gathered }
          rebuildBetween formatElement furthest fuel (index + 1) (count + 1) clone.id bookmark
      | _ =>
        removeFromStack node.id
        rebuildBetween formatElement furthest fuel index (count + 1) gathered bookmark

/-- Puts an entry where the bookmark says: in the place of an entry, or just after it. -/
def placeEntry (bookmark : Bookmark) (entry : FormatEntry) : Build Unit :=
  modify fun s =>
    let put (id : NodeId) (f : Nat → List FormatEntry) : List FormatEntry :=
      ((formatIndex? s.formatting id).map f).getD s.formatting
    match bookmark with
    | .replace id => { s with formatting := put id fun i => s.formatting.set i entry }
    | .after id => { s with formatting := put id fun i => s.formatting.insertIdx i entry }

/-- The stack with an element opened just inside another. -/
def insertInside (stack : List OpenElement) (id : NodeId) (e : OpenElement) :
    List OpenElement :=
  ((stack.findIdx? (·.id == id)).map fun i => stack.insertIdx i e).getD stack

/-- One round of untangling; answers whether another may follow. -/
def adoptionRound (subject : String) : Build Bool := do
  let entry := (sinceMarker (← get).formatting).find? fun (_, _, tag) => tag.name == subject
  match entry with
  | none => closeGeneric subject; return false
  | some (_, formatElement, formatTag) =>
    let stack := (← get).stack
    match stack.findIdx? (·.id == formatElement.id) with
    | none => removeFormatting formatElement.id; return false
    | some formatIndex =>
      if !(← isInScope Scope.default (·.id == formatElement.id)) then return false
      let inner := stack.take formatIndex
      match inner.reverse.find? (·.isOneOf Names.special) with
      | none =>
        modify fun s => { s with stack := s.stack.drop (formatIndex + 1) }
        removeFormatting formatElement.id
        return false
      | some furthest =>
        let ancestor := stack[formatIndex + 1]?.getD { id := Arena.documentId, name := "" }
        let start := (stack.findIdx? (·.id == furthest.id)).getD 0 + 1
        let (gathered, bookmark) ← rebuildBetween formatElement.id furthest.id
          (stack.length + 1) start 1 furthest.id (.replace formatElement.id)
        modify fun s => { s with arena := s.arena.detach gathered }
        insertAt (← placeIn ancestor) gathered
        let clone ← createElement (htmlTag formatTag)
        modify fun s => { s with
          arena := (s.arena.moveChildren furthest.id clone.id).append furthest.id clone.id }
        placeEntry bookmark (.element clone formatTag)
        removeFormatting formatElement.id
        removeFromStack formatElement.id
        modify fun s => { s with stack := insertInside s.stack furthest.id clone }
        return true

/-- Closes a formatting element whose content may reach out of it: the part of the
formatting that a block has taken over goes into the block. -/
def adoptionAgency (subject : String) : Build Unit := do
  let e ← current
  if e.isNamed subject && (formatIndex? (← get).formatting e.id).isNone then pop
  else rounds 8
where
  /-- At most so many rounds. -/
  rounds : Nat → Build Unit
    | 0 => pure ()
    | n + 1 => do if ← adoptionRound subject then rounds n

/-- Ends the formatting of an open link before another starts. -/
def closeOpenLink : Build Unit := do
  match (sinceMarker (← get).formatting).find? fun (_, e, _) => e.isNamed "a" with
  | none => pure ()
  | some (_, e, _) =>
    adoptionAgency "a"
    removeFormatting e.id
    removeFromStack e.id

/-! ### Modes -/

/-- The mode that fits the open elements, innermost first. -/
def fittingMode (templateModes : List Mode) (hasHead : Bool) : List OpenElement → Mode
  | [] => .inBody
  | e :: outer =>
    let last := outer.isEmpty
    if e.isNamed "select" then
      match outer.find? (·.isOneOf ["template", "table"]) with
      | some ancestor => if ancestor.name = "table" then .inSelectInTable else .inSelect
      | none => .inSelect
    else if e.isOneOf ["td", "th"] && !last then .inCell
    else if e.isNamed "tr" then .inRow
    else if e.isOneOf Names.rowGroups then .inTableBody
    else if e.isNamed "caption" then .inCaption
    else if e.isNamed "colgroup" then .inColumnGroup
    else if e.isNamed "table" then .inTable
    else if e.isNamed "template" then templateModes.headD .inTemplate
    else if e.isNamed "head" && !last then .inHead
    else if e.isNamed "body" then .inBody
    else if e.isNamed "frameset" then .inFrameset
    else if e.isNamed "html" then (if hasHead then .afterHead else .beforeHead)
    else fittingMode templateModes hasHead outer

/-- The mode that fits the open elements. -/
def resetMode : Build Mode :=
  return fittingMode (← get).templateModes (← get).head.isSome (← get).stack

/-- Sets the mode. -/
def setMode (mode : Mode) : Build Unit :=
  modify fun s => { s with mode := mode }

/-- Records that a frameset can no longer replace the body. -/
def framesetNotOk : Build Unit :=
  modify fun s => { s with framesetOk := false }

end Build

end SiteSnapshot.Html
