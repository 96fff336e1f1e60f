import SiteSnapshot.Asset.Roots
import SiteSnapshot.Layout.FilePath
import SiteSnapshot.Layout.UrlPath

/-!
# Bundled assets

Style sheets and scripts are relocated so that their references to bundles are relative;
every other asset is kept as it is. The depth of an asset is the number of directories
between the root of the site and the file.
-/

namespace SiteSnapshot.Asset

/-- True for the assets that are relocated, style sheets and scripts. -/
def isRelocatable (sitePath : String) : Bool :=
  match FilePath.extension? sitePath with
  | some e => e == "css" || e == "js"
  | none => false

/-- The number of directories above a file of the site: slashes at the start do not count,
and every later one ends the name of a directory. -/
def depth (sitePath : String) : Nat :=
  ((sitePath.toList.dropWhile (· == '/')).filter (· == '/')).length

/-- Makes the references to bundles in a style sheet or script relative to its place. -/
def transform (octets : Bytes) (sitePath : String) : Bytes :=
  Roots.relativize Roots.quotesAndParenthesis (UrlPath.parentHops (depth sitePath)) octets

end SiteSnapshot.Asset
