import SiteSnapshot.Crawl.Site
import SiteSnapshot.Export.Report

/-!
# Recorded answers

A run is a function of a web, and a web is a function. To run against a server, its answers
are recorded first: a run with a `Recording` as its web shows which requests it lacks, these
are made, and the run is tried again. A redirect shows its request only after the answer
before it is known, so a page takes at most one round for each redirect that is followed.
-/

namespace SiteSnapshot

/-- Answers by the URL that was requested. -/
structure Recording where
  answers : List (String × Except String WebResponse) := []

namespace Recording

/-- The web that gives the recorded answers and no others. -/
def web (r : Recording) : Web := fun _ url =>
  (r.answers.lookup url.request.text).getD (.error "no recorded answer")

/-- Adds an answer. -/
def add (r : Recording) (url : Url) (answer : Except String WebResponse) : Recording :=
  ⟨(url.request.text, answer) :: r.answers⟩

/-- The URLs that a run on the site requested and that have no answer yet. -/
def missing (r : Recording) (site : Site) (events : List Event) : List Url :=
  let urls := events.filterMap fun event => event.request?.bind fun path =>
    (site.urlFor path).toOption.map Url.request
  (urls.filter fun url => (r.answers.lookup url.text).isNone).eraseDups

end Recording

end SiteSnapshot
