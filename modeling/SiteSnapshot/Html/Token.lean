import SiteSnapshot.Html.Node

/-!
# Markup tokens

What the lexer reads and the tree construction consumes.
-/

namespace SiteSnapshot.Html

/-- A document type declaration; a missing part differs from an empty one. -/
structure Doctype where
  name : Option String := none
  publicId : Option String := none
  systemId : Option String := none
  forceLegacy : Bool := false
deriving DecidableEq, Repr, Inhabited

/-- A start or end tag as written, names in lower case. -/
structure TagToken where
  name : String
  attributes : List Attribute := []
  selfClosing : Bool := false
deriving DecidableEq, Repr, Inhabited

/-- A unit of markup. `null` is a NUL character outside raw text, and `fault` marks a
place where the text departs from the grammar just before the next token. -/
inductive Token where
  | doctype (d : Doctype)
  | startTag (t : TagToken)
  | endTag (t : TagToken)
  | comment (text : String)
  | characters (text : String)
  | null
  | fault
  | eof
deriving Repr, Inhabited

/-- The kinds of raw text, in which only the matching end tag is markup. -/
inductive RawText where
  | rcdata
  | rawtext
  | script
  | scriptEscaped
  | scriptDoubleEscaped
deriving DecidableEq, Repr, Inhabited

/-- How the lexer goes on after a tag: as before, as before but anew (after a script), in
raw text, or in text to the end of the input. -/
inductive Continuation where
  | markup
  | anew
  | raw (kind : RawText)
  | plaintext
deriving DecidableEq, Repr, Inhabited

end SiteSnapshot.Html
