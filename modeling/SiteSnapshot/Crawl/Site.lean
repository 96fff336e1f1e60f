import SiteSnapshot.Crawl.Response
import SiteSnapshot.Url.Parse

/-!
# A running site

A site is addressed by its base URL, and every path of the site is resolved against that. A
`Web` answers requests to URLs; a site on a web is a router, which turns paths into URLs
and the locations of redirects back to paths. A location that leads outside the site stays
a whole URL.
-/

namespace SiteSnapshot

/-- What a web answers: header names in any case, and values as octets. -/
structure WebResponse where
  status : Nat := 200
  headers : List (String × Bytes) := []
  body : Bytes := []
deriving DecidableEq, Repr, Inhabited

/-- Answers a request, or says why there is no answer. -/
abbrev Web := (method : String) → (url : Url) → Except String WebResponse

/-- A web without a network: every request fails, and only URLs of the web are tried. -/
def Web.unreachable : Web := fun _ url =>
  let request := url.request.text
  if url.scheme = "http" ∨ url.scheme = "https" then
    .error ("error sending request for url (" ++ request ++
      "): error trying to connect: tcp connect error: Network is unreachable (os error 101)")
  else .error ("builder error for url (" ++ request ++ "): URL scheme is not allowed")

namespace WebResponse

/-- True for the blanks around the value of a header. -/
def isBlank (b : UInt8) : Bool :=
  b == 0x20 || b == 0x09

/-- The text of a header value, if it is visible ASCII. -/
def headerText? (value : Bytes) : Option String :=
  let trimmed := ((value.dropWhile isBlank).reverse.dropWhile isBlank).reverse
  if trimmed.all fun b => (0x20 ≤ b && b < 0x7F) || b == 0x09 then Utf8.decode? trimmed else none

/-- The value of the first header of a name, given in lower case. -/
def header? (r : WebResponse) (name : String) : Option String :=
  (r.headers.find? fun h => h.1.map Char.toLower == name).bind fun h => headerText? h.2

/-- The octets that arrive: some statuses have no body. -/
def content (r : WebResponse) : Bytes :=
  if r.status = 204 ∨ r.status = 304 then [] else r.body

end WebResponse

/-- Why a text is no base URL. -/
inductive BaseUrlError where
  | invalid (text : String) (cause : UrlError)
  | withoutPath (text : String)
deriving DecidableEq, Repr, Inhabited

/-- The wording of an error. -/
def BaseUrlError.message : BaseUrlError → String
  | .invalid text cause => "Invalid base URL '" ++ text ++ "': " ++ cause.message
  | .withoutPath text => "Base URL cannot hold paths: " ++ text

/-- A site by its base URL, whose path ends with a slash. -/
structure Site where
  base : Url
deriving DecidableEq, Repr, Inhabited

namespace Site

/-- The segments of a path that ends with a slash. -/
def withFinalSlash (parts : List String) : List String :=
  if parts.getLast? = some "" then parts else parts ++ [""]

/-- The site at a base URL. -/
def ofText (text : String) : Except BaseUrlError Site :=
  match Url.parse text with
  | .error e => .error (.invalid text e)
  | .ok url =>
    match url.body with
    | .fixed _ => .error (.withoutPath text)
    | .segments parts => .ok ⟨{ url with body := .segments (withFinalSlash parts) }⟩

/-- The URL of a path. -/
def urlFor (site : Site) (path : String) : Except UrlError Url :=
  site.base.join (String.ofList (path.toList.dropWhile (· == '/')))

/-- A path without the slashes at its end. -/
def trimEndSlashes (path : List Char) : List Char :=
  (path.reverse.dropWhile (· == '/')).reverse

/-- What follows the base path in a path of the site; the base path may lack its final
slash. -/
def below? (site : Site) (path : String) : Option String :=
  let base := site.base.path.toList
  if path.toList = trimEndSlashes base then some ""
  else if base.isPrefixOf path.toList then some (String.ofList (path.toList.drop base.length))
  else none

/-- The path that a location means, read at the URL of a request. One that leads outside the
site is kept as a URL, and one that is no URL as it is. -/
def pathOf (site : Site) (request : Url) (location : String) : String :=
  match request.join location with
  | .error _ => location
  | .ok target =>
    match site.below? target.path with
    | some rest =>
      if target.origin?.isSome && target.origin? == site.base.origin? then
        "/" ++ rest ++ target.query.elim "" ("?" ++ ·)
      else target.text
    | none => target.text

/-- The answer of a web, as one of the site. -/
def response (site : Site) (request : Url) (r : WebResponse) : Response :=
  { status := r.status
    contentType := r.header? "content-type"
    location := (r.header? "location").map (site.pathOf request)
    body := r.content }

/-- The site on a web. -/
def router (site : Site) (web : Web) : Router := fun method path =>
  match site.urlFor path with
  | .error e => .error (.backend path e.message)
  | .ok url =>
    match web method url with
    | .error reason => .error (.backend path reason)
    | .ok r => .ok (site.response url r)

end Site

end SiteSnapshot
