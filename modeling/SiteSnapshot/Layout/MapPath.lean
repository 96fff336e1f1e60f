import SiteSnapshot.Layout.FilePath
import SiteSnapshot.Layout.UrlPath

/-!
# The file of a page

A page whose path has an extension is written to the file of that name; any other page is
written to `index.html` in a directory of its own.
-/

namespace SiteSnapshot

/-- The file of a page, relative to the output directory. -/
def mapPath (path : String) : FilePath :=
  let segments := UrlPath.segments path
  if segments.isEmpty then "index.html"
  else
    let relative := "/".intercalate segments
    if (FilePath.extension? path).isSome then relative else FilePath.join relative "index.html"

end SiteSnapshot
