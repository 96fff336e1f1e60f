import SiteSnapshot.Html.Token

/-!
# Names in foreign content

Tags are read in lower case, but vector graphics and mathematics have names with capital
letters, and some attributes belong to namespaces of their own. The tables here restore
both.
-/

namespace SiteSnapshot.Html.Foreign

/-- Element names of vector graphics that are not in lower case. -/
def svgTagNames : List String :=
  ["altGlyph", "altGlyphDef", "altGlyphItem", "animateColor", "animateMotion",
   "animateTransform", "clipPath", "feBlend", "feColorMatrix", "feComponentTransfer",
   "feComposite", "feConvolveMatrix", "feDiffuseLighting", "feDisplacementMap",
   "feDistantLight", "feDropShadow", "feFlood", "feFuncA", "feFuncB", "feFuncG", "feFuncR",
   "feGaussianBlur", "feImage", "feMerge", "feMergeNode", "feMorphology", "feOffset",
   "fePointLight", "feSpecularLighting", "feSpotLight", "feTile", "feTurbulence",
   "foreignObject", "glyphRef", "linearGradient", "radialGradient", "textPath"]

/-- Attribute names of vector graphics that are not in lower case. -/
def svgAttributeNames : List String :=
  ["attributeName", "attributeType", "baseFrequency", "baseProfile", "calcMode",
   "clipPathUnits", "diffuseConstant", "edgeMode", "filterUnits", "glyphRef",
   "gradientTransform", "gradientUnits", "kernelMatrix", "kernelUnitLength", "keyPoints",
   "keySplines", "keyTimes", "lengthAdjust", "limitingConeAngle", "markerHeight",
   "markerUnits", "markerWidth", "maskContentUnits", "maskUnits", "numOctaves",
   "pathLength", "patternContentUnits", "patternTransform", "patternUnits", "pointsAtX",
   "pointsAtY", "pointsAtZ", "preserveAlpha", "preserveAspectRatio", "primitiveUnits",
   "refX", "refY", "repeatCount", "repeatDur", "requiredExtensions", "requiredFeatures",
   "specularConstant", "specularExponent", "spreadMethod", "startOffset", "stdDeviation",
   "stitchTiles", "surfaceScale", "systemLanguage", "tableValues", "targetX", "targetY",
   "textLength", "viewBox", "viewTarget", "xChannelSelector", "yChannelSelector",
   "zoomAndPan"]

/-- The listed spelling of a name in lower case. -/
def respell (listed : List String) (name : String) : String :=
  (listed.find? fun s => s.map Char.toLower == name).getD name

/-- Attributes with a namespace of their own: the name as written, the namespace and the
local name. -/
def qualifiedNames : List (String × Namespace × String) :=
  [("xlink:actuate", .xlink, "actuate"), ("xlink:arcrole", .xlink, "arcrole"),
   ("xlink:href", .xlink, "href"), ("xlink:role", .xlink, "role"),
   ("xlink:show", .xlink, "show"), ("xlink:title", .xlink, "title"),
   ("xlink:type", .xlink, "type"), ("xml:lang", .xml, "lang"), ("xml:space", .xml, "space"),
   ("xmlns", .xmlns, "xmlns"), ("xmlns:xlink", .xmlns, "xlink")]

/-- Gives an attribute of foreign content its namespace. -/
def qualify (a : Attribute) : Attribute :=
  match qualifiedNames.find? (·.1 == a.name) with
  | some (_, space, name) => { a with space := space, name := name }
  | none => a

/-- The attribute of an element in a namespace. -/
def adjustAttribute (space : Namespace) (a : Attribute) : Attribute :=
  match space with
  | .svg => qualify { a with name := respell svgAttributeNames a.name }
  | .mathml => qualify (if a.name = "definitionurl" then { a with name := "definitionURL" } else a)
  | _ => qualify a

/-- The name of an element in a namespace. -/
def adjustName (space : Namespace) (name : String) : String :=
  if space = .svg then respell svgTagNames name else name

end SiteSnapshot.Html.Foreign
