import SiteSnapshot.Crawl.Status
import SiteSnapshot.FileTree.Resolve

/-!
# Failures

What can go wrong between a catalog entry and a written file. A failure of a source or of a
page concerns that entry or page alone; only a failure to read or write a file stops a run,
because a snapshot with holes of that kind is not safe to publish.
-/

namespace SiteSnapshot

/-- How many redirects of a page are followed. -/
def maxRedirects : Nat := 5

/-- A failure and what it concerns. -/
inductive Failure where
  | noUnits (source entry reason : String)
  | backend (path reason : String)
  | tooManyRedirects (path : String)
  | offSite (path location : String)
  | unexpectedStatus (path : String) (status : Nat)
  | file (path : FilePath) (cause : FileError)
deriving DecidableEq, Repr, Inhabited

namespace Failure

/-- The wording of a failure. -/
def message : Failure → String
  | .noUnits source entry reason =>
    "source '" ++ source ++ "' has no data for '" ++ entry ++ "': " ++ reason
  | .backend path reason => "backend failed for " ++ path ++ ": " ++ reason
  | .tooManyRedirects path =>
    "too many redirects for " ++ path ++ " (limit " ++ toString maxRedirects ++ ")"
  | .offSite path location => path ++ " redirects off-site to " ++ location
  | .unexpectedStatus path status => "GET " ++ path ++ " returned status " ++ Status.text status
  | .file path cause => "filesystem error at " ++ path ++ ": " ++ cause.message

/-- True for a failure that stops a run. -/
def isFatal : Failure → Bool
  | .file _ _ => true
  | _ => false

end Failure

end SiteSnapshot
