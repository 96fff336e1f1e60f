import SiteSnapshot.Catalog.Directory
import SiteSnapshot.Catalog.Source
import SiteSnapshot.Layout.UrlPath

/-!
# The units of a catalog

For every entry the sources are asked in order, and the first one that knows the entry
decides. The result is the sorted list of the pages without the homepage, so it does not
depend on the order of the entries.
-/

namespace SiteSnapshot.Catalog

/-- The units of an entry by the first source that knows it. -/
def firstAnswer (sources : List Source) (entry : String) : Option (List String) :=
  sources.findSome? fun source => (source.units entry).toOption

/-- The paths of all units of the entries. -/
def enumerate (entries : List String) (sources : List Source) : List String :=
  sortedSet ((entries.flatMap fun entry =>
    ((firstAnswer sources entry).getD []).map UrlPath.normalize).filter (· != "/"))

end SiteSnapshot.Catalog
