import SiteSnapshot.Url.Basic

/-!
# Reading and resolving URLs

`Url.parse` reads a text as a URL, and `Url.join` resolves a text against one, as the
location of a redirect is resolved against the page that sent it. Tabs and line ends
anywhere, and blanks and control characters at either end, do not count.
-/

namespace SiteSnapshot.Url

/-! ### Segments -/

/-- True for a segment that stays where it is. -/
def isSingleDot (segment : String) : Bool :=
  [".", "%2e"].contains (segment.map Char.toLower)

/-- True for a segment that steps up. -/
def isDoubleDot (segment : String) : Bool :=
  ["..", "%2e.", ".%2e", "%2e%2e"].contains (segment.map Char.toLower)

/-- True for a character that ends a segment. -/
def endsSegment (special : Bool) (c : Char) : Bool :=
  c == '/' || (special && c == '\\')

/-- True for the name of a drive, such as `C:`. -/
def isDrive (segment : String) : Bool :=
  match segment.toList with
  | [a, b] => a.isAlpha && (b == ':' || b == '|')
  | _ => false

/-- Removes the last segment, given latest first; the drive of a file stays. -/
def shorten (file : Bool) : List String → List String
  | [] => []
  | [s] => if file && isDrive s then [s] else []
  | _ :: rest => rest

/-- Steps up from the last segment, given latest first. No step leads up from a segment that
looks like the name of a drive, in a URL of any scheme. -/
def stepUp : List String → List String
  | [] => []
  | s :: rest => if isDrive s then s :: rest else rest

/-- Adds a segment behind those so far, latest first. -/
def pushSegment (file : Bool) (done : List String) (segment : String) (last : Bool) :
    List String :=
  if isDoubleDot segment then
    let done := stepUp done
    if last then "" :: done else done
  else if isSingleDot segment then (if last then "" :: done else done)
  else if file && done.isEmpty && isDrive segment then
    String.ofList (segment.toList.take 1 ++ [':']) :: done
  else segment :: done

/-- Adds the segments of a path, which ends where a query or a fragment starts. -/
def pushPath (special file : Bool) (done : List String) (path : List Char) : List String :=
  go done [] path
where
  /-- Goes on within a segment, whose characters so far are given latest first. -/
  go (done : List String) (segment : List Char) : List Char → List String
    | [] => pushSegment file done (finish segment) true
    | c :: rest =>
      if endsSegment special c then go (pushSegment file done (finish segment) false) [] rest
      else go done (c :: segment) rest
  /-- A segment as it is written. -/
  finish (segment : List Char) : String :=
    String.ofList (Percent.encode Percent.inPath segment.reverse)

/-- A file has no empty segment before a non-empty one. -/
def trimFile (file : Bool) (parts : List String) : List String :=
  if file then
    match parts.dropWhile (·.isEmpty) with
    | [] => parts.take 1
    | rest => rest
  else parts

/-- The path with the given segments in front, latest first. -/
def readPath (scheme : String) (done : List String) (path : List Char) : UrlBody :=
  let file := scheme == "file"
  .segments (trimFile file (pushPath (isSpecialScheme scheme) file done path).reverse)

/-! ### Query and fragment -/

/-- What stands before the query and the fragment, and these two. -/
def splitTail (text : List Char) : List Char × Option (List Char) × Option (List Char) :=
  let beforeFragment := text.takeWhile (· != '#')
  let fragment := (text.drop beforeFragment.length).tail?
  let path := beforeFragment.takeWhile (· != '?')
  (path, (beforeFragment.drop path.length).tail?, fragment)

/-- Gives a URL its fragment. -/
def withFragment (u : Url) (fragment : Option (List Char)) : Url :=
  { u with fragment := fragment.map fun f => String.ofList (Percent.encode Percent.inFragment f) }

/-- Gives a URL its query and fragment. -/
def withTail (u : Url) (query fragment : Option (List Char)) : Url :=
  let set := if isSpecialScheme u.scheme then Percent.inSpecialQuery else Percent.inQuery
  withFragment { u with query := query.map fun q => String.ofList (Percent.encode set q) } fragment

/-! ### Authority -/

/-- Reads a port; the usual port of the scheme is left out. -/
def readPort (scheme : String) (text : List Char) : Except UrlError (Option Nat) :=
  if !text.all Char.isDigit then .error .port
  else
    let port := text.foldl (fun n c => min 65536 (n * 10 + (c.toNat - '0'.toNat))) 0
    if port > 65535 then .error .port
    else if text.isEmpty ∨ defaultPort scheme = some port then .ok none
    else .ok (some port)

/-- The host at the start of a text, up to a colon outside brackets. -/
def hostPart (text : List Char) : List Char :=
  go false [] text
where
  /-- Goes on after the given characters, latest first. -/
  go (inside : Bool) (done : List Char) : List Char → List Char
    | [] => done.reverse
    | c :: rest =>
      if c = ':' ∧ inside = false then done.reverse
      else go (if c = '[' then true else if c = ']' then false else inside) (c :: done) rest

/-- User name and password, before the last at sign. -/
def readUserInfo (text : List Char) : String × String :=
  let encode (l : List Char) : String := String.ofList (Percent.encode Percent.inUserInfo l)
  let name := text.takeWhile (· != ':')
  (encode name, encode (text.drop (name.length + 1)))

/-- The text before and after the last at sign. -/
def splitLastAt (text : List Char) : Option (List Char × List Char) :=
  let after := (text.reverse.takeWhile (· != '@')).reverse
  if after.length = text.length then none
  else some (text.take (text.length - after.length - 1), after)

/-- Reads what follows the two slashes of a URL. -/
def readAuthority (scheme : String) (text : List Char) : Except UrlError Url := do
  let special := isSpecialScheme scheme
  let authority := text.takeWhile fun c =>
    !(endsSegment special c || c == '?' || c == '#')
  let rest := text.drop authority.length
  let (userInfo, hostPort) :=
    match splitLastAt authority with
    | none => (none, authority)
    | some (user, after) => (some user, after)
  if userInfo = some [] ∧ hostPort.isEmpty ∧ !rest.isEmpty then throw .emptyHost
  let (username, password) := (userInfo.map readUserInfo).getD ("", "")
  let hostText := hostPart hostPort
  let portText := hostPort.drop hostText.length
  if special ∧ hostText.isEmpty then throw .emptyHost
  let host ← if special then Host.parseSpecial hostText else Host.parseOther hostText
  if hostText.isEmpty ∧ !portText.isEmpty then throw .emptyHost
  let port ← if portText.isEmpty then pure none else readPort scheme (portText.drop 1)
  if hostText.isEmpty ∧ (username ≠ "" ∨ password ≠ "") then throw .emptyHost
  let (path, query, fragment) := splitTail rest
  let body :=
    match path with
    | [] => if special then .segments [""] else .segments []
    | c :: path =>
      if endsSegment special c then readPath scheme [] path else readPath scheme [] (c :: path)
  return withTail { scheme, username, password, host := some host, port, body } query fragment

/-! ### Files -/

/-- Reads what follows the scheme of a file. Two slashes are followed by a host, which is
left out when it is the machine itself; one starts at the root. -/
def readFile (base : Option Url) (text : List Char) : Except UrlError Url := do
  let slash := endsSegment true
  let root : Url := { scheme := "file", host := some (.domain "") }
  match text with
  | a :: b :: rest =>
    if slash a ∧ slash b then
      let hostText := rest.takeWhile fun c => !(slash c || c == '?' || c == '#')
      let isDriveName := isDrive (String.ofList hostText)
      let host ←
        if isDriveName ∨ hostText.isEmpty then pure (.domain "")
        else
          match ← Host.parseSpecial hostText with
          | .domain "localhost" => pure (.domain "")
          | h => pure h
      let after := if isDriveName then rest else rest.drop hostText.length
      let (path, query, fragment) := splitTail after
      let path := if (path.head?.map slash).getD false then path.drop 1 else path
      return withTail { root with host := some host, body := readPath "file" [] path } query
        fragment
    else if slash a then fromRoot root (b :: rest) else relative root text
  | [a] => if slash a then fromRoot root [] else relative root text
  | [] => relative root []
where
  /-- A path from the root, on the host of the base. -/
  fromRoot (root : Url) (text : List Char) : Except UrlError Url :=
    let (path, query, fragment) := splitTail text
    let host := (base.bind (·.host)).getD (.domain "")
    .ok (withTail { root with host := some host, body := readPath "file" [] path } query fragment)
  /-- A path relative to the base. -/
  relative (root : Url) (text : List Char) : Except UrlError Url :=
    let (path, query, fragment) := splitTail text
    match base with
    | none => .ok (withTail { root with body := readPath "file" [] path } query fragment)
    | some b =>
      if path.isEmpty then
        match query with
        | none => .ok (withFragment b fragment)
        | some q => .ok (withTail b (some q) fragment)
      else
        let done :=
          match b.body with
          | .segments parts => shorten true parts.reverse
          | .fixed _ => []
        .ok (withTail { b with body := readPath "file" done path } query fragment)

/-! ### Whole URLs -/

/-- Resolves a text without scheme against a URL with segments. -/
def readRelative (base : Url) (text : List Char) : Except UrlError Url :=
  let slash := fun c : Char => c == '/' || c == '\\'
  let special := isSpecialScheme base.scheme
  match text with
  | [] => .ok { base with fragment := none }
  | c :: rest =>
    if slash c then
      if (rest.head?.map slash).getD false then
        let after :=
          match text with
          | '/' :: '/' :: after => after
          | text => text.dropWhile slash
        readAuthority base.scheme after
      else
        let (path, query, fragment) := splitTail rest
        .ok (withTail { base with body := readPath base.scheme [] path } query fragment)
    else
      let (path, query, fragment) := splitTail text
      if path.isEmpty then
        match query with
        | none => .ok (withFragment base fragment)
        | some q => .ok (withTail base (some q) fragment)
      else
        let done :=
          match base.body with
          | .segments parts => (parts.reverse.drop 1)
          | .fixed _ => []
        .ok (withTail
          { base with body := .segments (pushPath special false done path).reverse } query fragment)

/-- The scheme at the start of a text, in lower case, and what follows its colon. -/
def splitScheme (text : List Char) : Option (String × List Char) :=
  match text with
  | [] => none
  | c :: _ =>
    let scheme := text.takeWhile fun c => c.isAlphanum || c == '+' || c == '-' || c == '.'
    match text.drop scheme.length with
    | ':' :: rest =>
      if c.isAlpha then some (String.ofList (scheme.map Char.toLower), rest) else none
    | _ => none

/-- Reads what follows a scheme. -/
def readWithScheme (base : Option Url) (scheme : String) (text : List Char) :
    Except UrlError Url :=
  if scheme = "file" then
    readFile (base.filter (·.scheme == "file")) text
  else if isSpecialScheme scheme then
    let slash := fun c : Char => c == '/' || c == '\\'
    let slashes := (text.takeWhile slash).length
    match base.filter fun b => slashes < 2 && b.scheme == scheme with
    | some b => readRelative b text
    | none => readAuthority scheme (text.drop slashes)
  else
    match text with
    | '/' :: '/' :: rest => readAuthority scheme rest
    | _ =>
      let (path, query, fragment) := splitTail text
      let body :=
        match path with
        | '/' :: path => readPath scheme [] path
        | path => .fixed (String.ofList (Percent.encode Percent.isControl path))
      .ok (withTail { scheme, body } query fragment)

/-- The characters of a text that count in a URL. -/
def clean (text : String) : List Char :=
  let isEdge := fun c : Char => c.toNat ≤ 0x20
  let inner := ((text.toList.dropWhile isEdge).reverse.dropWhile isEdge).reverse
  inner.filter fun c => !(c == '\t' || c == '\n' || c == '\r')

/-- Resolves a text, against a URL if there is one. -/
def resolve (base : Option Url) (text : String) : Except UrlError Url :=
  let text := clean text
  match splitScheme text with
  | some (scheme, rest) => readWithScheme base scheme rest
  | none =>
    match base with
    | none => .error .noBase
    | some b =>
      match text with
      | '#' :: fragment => .ok (withFragment b (some fragment))
      | _ =>
        if b.isFixed then .error .baseWithoutPath
        else if b.scheme = "file" then readFile (some b) text
        else readRelative b text

/-- Reads a text as a URL. -/
def parse (text : String) : Except UrlError Url :=
  resolve none text

/-- Resolves a text against a URL. -/
def join (base : Url) (text : String) : Except UrlError Url :=
  resolve (some base) text

/-- The origin of a URL, with blobs in it up to a depth. -/
def originWithin : Nat → Url → Option Origin
  | 0, _ => none
  | depth + 1, u =>
    if u.scheme = "blob" then (parse u.path).toOption.bind (originWithin depth)
    else if isSpecialScheme u.scheme ∧ u.scheme ≠ "file" then
      u.host.map fun h => ⟨u.scheme, h, u.port.or (defaultPort u.scheme)⟩
    else none

/-- The origin of a URL; files and unknown schemes have none that could be equal to
another. A blob has the origin of the URL that is its path, which is shorter than it. -/
def origin? (u : Url) : Option Origin :=
  originWithin (u.path.length + 1) u

end SiteSnapshot.Url
