import SiteSnapshot.Crawl.Response
import SiteSnapshot.Url.Parse

/-!
# Rendering a page

A page is rendered by requesting its path and following redirects within the site, at most
five of them. The path that was asked for decides where the page is written; the response
at the end of the chain gives its content. The obstacle met first decides the failure, and
a redirect beyond the limit is one wherever it leads.
-/

namespace SiteSnapshot

/-- A page with a final answer. -/
structure RenderedPage where
  /-- The path that was asked for. -/
  path : String
  /-- The path at the end of the redirects. -/
  finalPath : String
  body : Bytes
  contentType : String
  status : Nat
deriving DecidableEq, Repr, Inhabited

/-- True for a text in which the needle occurs. -/
def hasInfix (needle : List Char) : List Char → Bool
  | [] => needle.isEmpty
  | c :: rest => needle.isPrefixOf (c :: rest) || hasInfix needle rest

namespace RenderedPage

/-- A page without a content type counts as HTML, because sites leave it out. -/
def isHtml (page : RenderedPage) : Bool :=
  page.contentType.isEmpty || hasInfix "text/html".toList page.contentType.toList

end RenderedPage

namespace Crawl

/-- The stand-in for the site against which paths are resolved. -/
def anchor : Url :=
  { scheme := "http", host := some (.domain "site.invalid"), body := .segments [""] }

/-- The path that a location leads to, read from a page of the site; none if it leaves the
site. -/
def resolveLocation (current location : String) : Option String :=
  match anchor.join current with
  | .error _ => none
  | .ok page =>
    match page.join location with
    | .error _ => none
    | .ok target =>
      if target.origin? = anchor.origin? then some target.pathAndQuery else none

/-- What a visit to the site requested, in order, and how it ended. -/
structure Visit where
  requested : List String
  result : Except Failure RenderedPage

/-- Requests a path and follows so many redirects. -/
def follow (router : Router) (start : String) : Nat → String → Visit
  | hops, current =>
    match router "GET" current with
    | .error e => ⟨[current], .error e⟩
    | .ok response =>
      match response.redirect? with
      | some location =>
        match hops with
        | 0 => ⟨[current], .error (.tooManyRedirects start)⟩
        | hops + 1 =>
          match resolveLocation current location with
          | none => ⟨[current], .error (.offSite start location)⟩
          | some next =>
            let visit := follow router start hops next
            ⟨current :: visit.requested, visit.result⟩
      | none =>
        if response.status = 200 then
          ⟨[current], .ok
            { path := start
              finalPath := current
              body := response.body
              contentType := response.contentType.getD ""
              status := response.status }⟩
        else ⟨[current], .error (.unexpectedStatus current response.status)⟩

/-- Renders a page. -/
def visit (router : Router) (path : String) : Visit :=
  follow router path maxRedirects path

/-- The rendered page, or why there is none. -/
def render (router : Router) (path : String) : Except Failure RenderedPage :=
  (visit router path).result

end Crawl

end SiteSnapshot
