/-!
# Documents as trees

The data type that the rest of the library works on: a page is a `Node`, and everything
done to a page is a function on nodes. Elements carry their **tag** (namespace, name and
attributes in source order), their children, and, for a template, a separate content
fragment.
-/

namespace SiteSnapshot.Html

/-- The namespaces that parsing a page can give to elements and attributes.
`unqualified` is the namespace of ordinary attributes. -/
inductive Namespace where
  | unqualified
  | html
  | svg
  | mathml
  | xlink
  | xml
  | xmlns
deriving DecidableEq, Repr, Inhabited

/-- One attribute of an element; `name` is the local name. -/
structure Attribute where
  space : Namespace := .unqualified
  name : String
  value : String
deriving DecidableEq, Repr, Inhabited

/-- The start of an element: its namespace, local name and attributes. -/
structure Tag where
  space : Namespace := .html
  name : String
  attributes : List Attribute := []
deriving DecidableEq, Repr, Inhabited

/-- True when some attribute has this local name. -/
def Tag.hasAttribute (t : Tag) (name : String) : Bool :=
  t.attributes.any (·.name == name)

/-- A node of a page. `content` is the fragment that a template keeps apart from its
children; other elements have none. -/
inductive Node where
  | document (children : List Node)
  | doctype (name : String)
  | comment (text : String)
  | text (text : String)
  | element (tag : Tag) (content : Option (List Node)) (children : List Node)
deriving Repr, Inhabited

end SiteSnapshot.Html
