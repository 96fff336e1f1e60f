import SiteSnapshot.Html.Node

/-!
# The content security policy

Every page gets the same policy: scripts, styles, images and fonts of the site itself, and
nothing else.
-/

namespace SiteSnapshot.Policy

open Html

/-- The policy of every page. -/
def content : String :=
  "; ".intercalate
    ["default-src 'self'", "script-src 'self' 'unsafe-inline'", "style-src 'self' 'unsafe-inline'",
     "img-src 'self' data:", "font-src 'self'", "connect-src 'none'", "frame-src 'none'",
     "object-src 'none'", "base-uri 'none'"]

/-- The element that carries the policy. -/
def element : Node :=
  .element
    { name := "meta"
      attributes :=
        [{ name := "http-equiv", value := "Content-Security-Policy" },
         { name := "content", value := content }] }
    none []

end SiteSnapshot.Policy
