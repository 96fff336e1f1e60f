import SiteSnapshot.Failure

/-!
# Responses and routers

A **router** answers a request for a path of the site. The crawl looks at the status, the
content type, the location and the body of the response and at nothing else. A
`RouteTable` is the simplest router: it answers from a list of paths.
-/

namespace SiteSnapshot

/-- What a router answers. -/
structure Response where
  status : Nat := 200
  contentType : Option String := none
  location : Option String := none
  body : Bytes := []
deriving DecidableEq, Repr, Inhabited

/-- Answers a method and a path of the site. -/
abbrev Router := (method path : String) → Except Failure Response

namespace Response

/-- A page of the site. -/
def page (html : String) : Response :=
  { contentType := some "text/html; charset=utf-8", body := Utf8.encode html }

/-- A status without a body. -/
def ofStatus (status : Nat) : Response :=
  { status }

/-- Where a response redirects to: a permanent or temporary move with a location that is
not empty. -/
def redirect? (r : Response) : Option String :=
  if r.status = 301 ∨ r.status = 302 then r.location.filter (!·.isEmpty) else none

end Response

/-- Paths with their responses. -/
structure RouteTable where
  routes : List (String × Response) := []
deriving DecidableEq, Repr, Inhabited

namespace RouteTable

/-- Adds a route, in place of an earlier one for the path. -/
def insert (t : RouteTable) (path : String) (r : Response) : RouteTable :=
  ⟨(path, r) :: t.routes.filter (·.1 != path)⟩

/-- The response for a path. -/
def get? (t : RouteTable) (path : String) : Option Response :=
  t.routes.lookup path

/-- Answers from the table: only `GET` is allowed, and other paths are not found. -/
def router (t : RouteTable) : Router := fun method path =>
  if method = "GET" then .ok ((t.get? path).getD (.ofStatus 404)) else .ok (.ofStatus 405)

end RouteTable

end SiteSnapshot
