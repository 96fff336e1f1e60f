import SiteSnapshot.Html.Parse
import SiteSnapshot.Html.Serialize
import SiteSnapshot.Html.Template
import SiteSnapshot.Layout.UrlPath
import SiteSnapshot.Page.Relocate

/-!
# From a rendered page to a page of the snapshot

The octets of a page are read as text and as a document, the contents of templates are
moved to where they are written, the page is relocated for its place in the site, and the
result is written as markup again.
-/

namespace SiteSnapshot.Page

/-- The page at a URL path of the snapshot, from the octets that the site rendered. -/
def transform (octets : Bytes) (path : String) : Bytes :=
  let document := Html.parse octets
  -- a document is a tree, so that the walk ends
  let page := ((document.inlineContents Html.Arena.documentId).getD document).toNode
  Utf8.encode (relocate (UrlPath.wayToRoot (UrlPath.depth path)) page).serialize

end SiteSnapshot.Page
