import SiteSnapshot.Failure

/-!
# Reports

What a run has achieved, and what it did in order.
-/

namespace SiteSnapshot

/-- A page that could not be exported, and why. -/
structure PageFailure where
  path : String
  cause : Failure
deriving DecidableEq, Repr, Inhabited

/-- The summary of a run. -/
structure Report where
  pagesWritten : Nat := 0
  assetsWritten : Nat := 0
  failures : List PageFailure := []
deriving DecidableEq, Repr, Inhabited

/-- True when every page was written. -/
def Report.isOk (r : Report) : Bool :=
  r.failures.isEmpty

/-- The report after one more page: the page counts as written or its failure is listed,
unless the failure stops the run. -/
def Report.addPage (r : Report) (path : String) : Except Failure Unit → Except Failure Report
  | .ok () => .ok { r with pagesWritten := r.pagesWritten + 1 }
  | .error f =>
    if f.isFatal then .error f else .ok { r with failures := r.failures ++ [⟨path, f⟩] }

/-- Something that a run did: it announced itself, a page or a stage, or it requested a path
of the site. -/
inductive Event where
  | start (total : Nat)
  | page (index total : Nat) (path : String)
  | stage (message : String)
  | request (path : String)
deriving DecidableEq, Repr, Inhabited

namespace Event

/-- The announcement of an event; requests are not announced. -/
def announcement? : Event → Option String
  | .start total => some ("start " ++ toString total)
  | .page index total path =>
    some ("[" ++ toString index ++ "/" ++ toString total ++ "] " ++ path)
  | .stage message => some ("stage " ++ message)
  | .request _ => none

/-- The path of a request. -/
def request? : Event → Option String
  | .request path => some path
  | _ => none

end Event

end SiteSnapshot
