/-!
# Paths of pages

A page has a **URL path**: segments separated by slashes, of which only the non-empty ones
count. `UrlPath.segments` is the view that all operations here are explained by: the depth
of a page is their number, the normal form writes them with single slashes, and the way
back to the root of the site has one step up for each.
-/

namespace SiteSnapshot.UrlPath

/-- The parts of a text between slashes; there is always at least one. -/
def splitSlash : List Char → List (List Char)
  | [] => [[]]
  | c :: rest =>
    if c = '/' then [] :: splitSlash rest
    else
      match splitSlash rest with
      | [] => [[c]]
      | part :: parts => (c :: part) :: parts

/-- The non-empty segments of a path. -/
def segments (path : String) : List String :=
  ((splitSlash path.toList).filter (!·.isEmpty)).map String.ofList

/-- The number of segments. -/
def depth (path : String) : Nat :=
  (segments path).length

/-- So many steps up. -/
def parentHops (depth : Nat) : String :=
  String.join (List.replicate depth "../")

/-- The way from a page back to the root of the site, where a page at the root stays. -/
def wayToRoot (depth : Nat) : String :=
  if depth = 0 then "./" else parentHops depth

/-- The normal form: a slash before each segment, and a single slash if there is none. -/
def normalize (path : String) : String :=
  "/" ++ "/".intercalate (segments path)

end SiteSnapshot.UrlPath
