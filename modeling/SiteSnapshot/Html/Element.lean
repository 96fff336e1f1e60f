import SiteSnapshot.Html.Arena

/-!
# Kinds of elements

The sets of element names that the construction of a tree distinguishes, and the entries
of its stack of open elements. All sets but the integration points are sets of HTML
elements: an element of the same name in another namespace does not belong to them.
-/

namespace SiteSnapshot.Html

/-- An element that has been started and not yet ended. `readsAsHtml` marks an annotation
element of mathematics whose content is HTML. -/
structure OpenElement where
  id : NodeId
  space : Namespace := .html
  name : String
  readsAsHtml : Bool := false
deriving Inhabited

namespace OpenElement

/-- True for an HTML element with one of the names. -/
def isOneOf (e : OpenElement) (names : List String) : Bool :=
  e.space == .html && names.contains e.name

/-- True for an HTML element with the name. -/
def isNamed (e : OpenElement) (name : String) : Bool :=
  e.space == .html && e.name == name

/-- Elements of mathematics that hold text. -/
def isMathText (e : OpenElement) : Bool :=
  e.space == .mathml && ["mi", "mo", "mn", "ms", "mtext"].contains e.name

/-- Elements of vector graphics that hold HTML. -/
def isSvgHtml (e : OpenElement) : Bool :=
  e.space == .svg && ["foreignObject", "desc", "title"].contains e.name

end OpenElement

namespace Names

def headings : List String := ["h1", "h2", "h3", "h4", "h5", "h6"]

def formatting : List String :=
  ["b", "big", "code", "em", "font", "i", "s", "small", "strike", "strong", "tt", "u"]

/-- Elements that belong to the head wherever they are found. -/
def metadata : List String :=
  ["base", "basefont", "bgsound", "link", "meta", "noframes", "script", "style", "template",
   "title"]

/-- Blocks that end an open paragraph. -/
def blocks : List String :=
  ["address", "article", "aside", "blockquote", "center", "details", "dialog", "dir", "div",
   "dl", "fieldset", "figcaption", "figure", "footer", "header", "hgroup", "main", "menu",
   "nav", "ol", "p", "search", "section", "summary", "ul"]

/-- Elements whose end tag closes them together with what may be left open in them. -/
def closedAsBlocks : List String :=
  ["address", "article", "aside", "blockquote", "button", "center", "details", "dialog",
   "dir", "div", "dl", "fieldset", "figcaption", "figure", "footer", "header", "hgroup",
   "listing", "main", "menu", "nav", "ol", "pre", "search", "section", "summary", "ul"]

/-- Elements that an implied end tag closes. -/
def impliedEnd : List String :=
  ["dd", "dt", "li", "option", "optgroup", "p", "rb", "rp", "rt", "rtc"]

/-- Elements that an implied end tag closes at the end of a template. -/
def impliedEndThorough : List String :=
  impliedEnd ++ ["caption", "colgroup", "tbody", "td", "tfoot", "th", "thead", "tr"]

def tableParts : List String :=
  ["caption", "col", "colgroup", "tbody", "td", "tfoot", "th", "thead", "tr"]

def rowGroups : List String := ["tbody", "tfoot", "thead"]

/-- Elements that formatting never reaches across. -/
def special : List String :=
  ["address", "applet", "area", "article", "aside", "base", "basefont", "bgsound",
   "blockquote", "body", "br", "button", "caption", "center", "col", "colgroup", "dd",
   "details", "dir", "div", "dl", "dt", "embed", "fieldset", "figcaption", "figure",
   "footer", "form", "frame", "frameset", "h1", "h2", "h3", "h4", "h5", "h6", "head",
   "header", "hgroup", "hr", "html", "iframe", "img", "input", "isindex", "li", "link",
   "listing", "main", "marquee", "menu", "meta", "nav", "noembed", "noframes", "noscript",
   "object", "ol", "p", "param", "plaintext", "pre", "script", "section", "select",
   "source", "style", "summary", "table", "tbody", "td", "template", "textarea", "tfoot",
   "th", "thead", "title", "tr", "track", "ul", "wbr", "xmp"]

/-- HTML elements that break out of foreign content. -/
def breakout : List String :=
  ["b", "big", "blockquote", "body", "br", "center", "code", "dd", "div", "dl", "dt", "em",
   "embed", "h1", "h2", "h3", "h4", "h5", "h6", "head", "hr", "i", "img", "li", "listing",
   "menu", "meta", "nobr", "ol", "p", "pre", "ruby", "s", "small", "span", "strong",
   "strike", "sub", "sup", "table", "tt", "u", "ul", "var"]

end Names

/-! ### Scopes

A scope is bounded by certain elements: what is open above a boundary is out of scope. -/

namespace Scope

/-- The boundaries of the usual scope. -/
def default (e : OpenElement) : Bool :=
  e.isOneOf ["applet", "caption", "html", "table", "td", "th", "marquee", "object",
      "template"] ||
    e.isMathText || e.isSvgHtml

/-- The boundaries for list items. -/
def listItem (e : OpenElement) : Bool :=
  default e || e.isOneOf ["ol", "ul"]

/-- The boundaries for paragraphs. -/
def button (e : OpenElement) : Bool :=
  default e || e.isNamed "button"

/-- The boundaries for parts of tables. -/
def table (e : OpenElement) : Bool :=
  e.isOneOf ["html", "table", "template"]

/-- The boundaries for selections: all but options and their groups. -/
def select (e : OpenElement) : Bool :=
  !e.isOneOf ["optgroup", "option"]

end Scope

/-- True when an element that fits is open within a scope; the innermost open element
comes first. -/
def inScope (boundary fits : OpenElement → Bool) : List OpenElement → Bool
  | [] => false
  | e :: rest => fits e || (!boundary e && inScope boundary fits rest)

end SiteSnapshot.Html
