/-!
# Links

Which attributes hold URLs, which URLs lead into the site, and how such a URL is written
relative to a page.
-/

namespace SiteSnapshot.Link

/-- The attributes whose values are URLs. -/
def urlAttributes : List String := ["href", "src", "action", "poster", "data"]

/-- True for the name of an attribute whose value is a URL. -/
def isUrlAttribute (name : String) : Bool :=
  urlAttributes.contains name

/-- The URLs that are relocated are the absolute paths of this site: one slash at the
start, and not two. -/
def isAbsolutePath (value : String) : Bool :=
  match value.toList with
  | '/' :: '/' :: _ => false
  | '/' :: _ => true
  | _ => false

/-- An absolute path, written from a place that `toRoot` leads back from. Any other value
has no relative form. -/
def relative? (value toRoot : String) : Option String :=
  if isAbsolutePath value then some (toRoot ++ String.ofList (value.toList.drop 1)) else none

end SiteSnapshot.Link
