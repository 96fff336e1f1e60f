import SiteSnapshot.Url.Host

/-!
# URLs

A URL as its parts. The path of most URLs is a list of segments; a URL such as
`mailto:a@b` has a fixed text in its place, and nothing can be resolved against it.
-/

namespace SiteSnapshot

/-- The path of a URL. -/
inductive UrlBody where
  | fixed (text : String)
  | segments (parts : List String)
deriving DecidableEq, Repr, Inhabited

/-- A URL. -/
structure Url where
  scheme : String
  username : String := ""
  password : String := ""
  host : Option Host := none
  port : Option Nat := none
  body : UrlBody := .segments []
  query : Option String := none
  fragment : Option String := none
deriving DecidableEq, Repr, Inhabited

namespace Url

/-- The schemes whose URLs always have a host, with their usual ports. -/
def specialSchemes : List (String × Option Nat) :=
  [("http", some 80), ("https", some 443), ("ws", some 80), ("wss", some 443),
   ("ftp", some 21), ("file", none)]

/-- True for a scheme whose URLs are read like those of the web. -/
def isSpecialScheme (scheme : String) : Bool :=
  specialSchemes.any (·.1 == scheme)

/-- The usual port of a scheme. -/
def defaultPort (scheme : String) : Option Nat :=
  (specialSchemes.find? (·.1 == scheme)).bind (·.2)

/-- The path as text. -/
def path (u : Url) : String :=
  match u.body with
  | .fixed text => text
  | .segments [] => ""
  | .segments parts => "/" ++ "/".intercalate parts

/-- True when nothing can be resolved against the URL. -/
def isFixed (u : Url) : Bool :=
  match u.body with
  | .fixed _ => true
  | .segments _ => false

/-- The URL as text. -/
def text (u : Url) : String :=
  let userInfo :=
    if u.username.isEmpty && u.password.isEmpty then ""
    else u.username ++ (if u.password.isEmpty then "" else ":" ++ u.password) ++ "@"
  let authority :=
    match u.host with
    | none =>
      match u.body with
      | .segments ("" :: _ :: _) => "/."
      | _ => ""
    | some h => "//" ++ userInfo ++ h.text ++ (u.port.elim "" fun p => ":" ++ toString p)
  u.scheme ++ ":" ++ authority ++ u.path ++ (u.query.elim "" ("?" ++ ·)) ++
    (u.fragment.elim "" ("#" ++ ·))

/-- The URL that a request is sent to: without fragment and user. -/
def request (u : Url) : Url :=
  { u with username := "", password := "", fragment := none }

/-- What two URLs of one site share: scheme, host and port. -/
structure Origin where
  scheme : String
  host : Host
  port : Option Nat
deriving DecidableEq, Repr

/-- The path and query of a URL, as a path of a site. -/
def pathAndQuery (u : Url) : String :=
  u.path ++ u.query.elim "" ("?" ++ ·)

end Url

end SiteSnapshot
