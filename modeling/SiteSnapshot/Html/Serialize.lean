import SiteSnapshot.Html.Node

/-!
# Writing a page

`Node.serialize` writes the children of a document as markup. Text is escaped except in
elements whose content is read as raw text; attribute values are always quoted; void
elements have no end tag, and elements in them are left out.
-/

namespace SiteSnapshot.Html

/-- HTML elements that have no end tag. -/
def voidNames : List String :=
  ["area", "base", "basefont", "bgsound", "br", "col", "embed", "frame", "hr", "img", "input",
   "keygen", "link", "meta", "param", "source", "track", "wbr"]

/-- HTML elements whose text is written as it is. -/
def rawTextNames : List String :=
  ["style", "script", "xmp", "iframe", "noembed", "noframes", "plaintext", "noscript"]

/-- A character of text as markup. -/
def escapeTextChar (c : Char) : String :=
  if c = '&' then "&amp;"
  else if c = '\u00a0' then "&nbsp;"
  else if c = '<' then "&lt;"
  else if c = '>' then "&gt;"
  else String.singleton c

/-- A character of an attribute value as markup. -/
def escapeValueChar (c : Char) : String :=
  if c = '&' then "&amp;"
  else if c = '\u00a0' then "&nbsp;"
  else if c = '"' then "&quot;"
  else String.singleton c

/-- Text as markup. -/
def escapeText (text : String) : String :=
  text.foldl (fun out c => out ++ escapeTextChar c) ""

/-- An attribute value as markup, without its quotes. -/
def escapeValue (value : String) : String :=
  value.foldl (fun out c => out ++ escapeValueChar c) ""

/-- What stands before the local name of an attribute. -/
def Attribute.qualifier (a : Attribute) : String :=
  match a.space with
  | .unqualified => ""
  | .xml => "xml:"
  | .xmlns => if a.name = "xmlns" then "" else "xmlns:"
  | .xlink => "xlink:"
  | _ => "unknown_namespace:"

/-- An attribute as markup, with the blank before it. -/
def Attribute.serialize (a : Attribute) : String :=
  " " ++ a.qualifier ++ a.name ++ "=\"" ++ escapeValue a.value ++ "\""

/-- A start tag as markup. -/
def Tag.serialize (t : Tag) : String :=
  "<" ++ t.name ++ t.attributes.foldl (fun out a => out ++ a.serialize) "" ++ ">"

/-- True for an element without an end tag. -/
def Tag.isVoid (t : Tag) : Bool :=
  t.space == .html && voidNames.contains t.name

/-- True for an element whose text is written as it is. -/
def Tag.isRawText (t : Tag) : Bool :=
  t.space == .html && rawTextNames.contains t.name

/-- What the element around a node says about writing it: text as it is, and nothing but
text and comments. -/
structure Enclosing where
  rawText : Bool := false
  silent : Bool := false

namespace Node

mutual

/-- Writes a node behind the output so far. -/
def write (around : Enclosing) (out : String) : Node → String
  | .document children => writeAll around out children
  | .doctype name => out ++ "<!DOCTYPE " ++ name ++ ">"
  | .comment t => out ++ "<!--" ++ t ++ "-->"
  | .text t => out ++ (if around.rawText then t else escapeText t)
  | .element tag _ children =>
    if around.silent then writeAll ⟨tag.isRawText, true⟩ out children
    else
      let out := writeAll ⟨tag.isRawText, tag.isVoid⟩ (out ++ tag.serialize) children
      if tag.isVoid then out else out ++ "</" ++ tag.name ++ ">"

/-- Writes nodes one behind the other. -/
def writeAll (around : Enclosing) (out : String) : List Node → String
  | [] => out
  | node :: rest => writeAll around (write around out node) rest

end

/-- A page as markup. -/
def serialize (page : Node) : String :=
  page.write {} ""

end Node

end SiteSnapshot.Html
