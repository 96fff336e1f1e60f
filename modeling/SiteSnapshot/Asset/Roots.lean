import SiteSnapshot.Asset.Replace
import SiteSnapshot.Text.Utf8

/-!
# References to bundles in scripts and style sheets

Scripts and style sheets refer to assets by literals such as `"/static/a.js"` or
`url(/third_party/b.css)`. Such a reference is an **opener** directly before the root of a
bundle; it becomes relative by putting the way to the root of the site in place of the
leading slash. This is replacement of text: no script or style sheet is parsed.
-/

namespace SiteSnapshot.Roots

/-- The directories of the site under which bundles are addressed. -/
def bundleRoots : List String := ["/static/", "/third_party/"]

/-- The quotes that open a string. -/
def quotes : List Char := ['"', '\'']

/-- The quotes and the parenthesis of an unquoted URL in a style sheet. -/
def quotesAndParenthesis : List Char := ['"', '\'', '(']

/-- One pass per root and opener, in this order. -/
def passes (openers : List Char) : List (Char × String) :=
  bundleRoots.flatMap fun root => openers.map fun opener => (opener, root)

/-- Replaces the references to one root after one opener. -/
def pass (toRoot : String) (text : Bytes) (p : Char × String) : Bytes :=
  let bare := String.ofList (p.2.toList.drop 1)
  replaceAll (Utf8.encode (String.singleton p.1 ++ p.2))
    (Utf8.encode (String.singleton p.1 ++ toRoot ++ bare)) text

/-- Makes the references to bundles relative. The octets need not be text. -/
def relativize (openers : List Char) (toRoot : String) (text : Bytes) : Bytes :=
  (passes openers).foldl (pass toRoot) text

/-- Makes the quoted references to bundles in a script relative. -/
def relativizeScript (script toRoot : String) : String :=
  let octets := relativize quotes toRoot (Utf8.encode script)
  (Utf8.decode? octets).getD (Utf8.decodeLossy octets)

end SiteSnapshot.Roots
