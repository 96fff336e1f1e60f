import SiteSnapshot.Layout.UrlPath

/-!
# The crawl plan

The pages of a run in their order: the homepage, the fixed pages of the site, then the units
of the catalog. Each is kept where it appears first.
-/

namespace SiteSnapshot.Catalog

/-- A list without the later repetitions of an element. -/
def firsts : List String → List String
  | [] => []
  | path :: rest => path :: (firsts rest).filter (· != path)

/-- The pages to crawl. -/
def planPages (fixedPages units : List String) : List String :=
  firsts ("/" :: (fixedPages ++ units).map UrlPath.normalize)

end SiteSnapshot.Catalog
