import SiteSnapshot.Crawl.Site
import SiteSnapshot.Text.Blank

/-!
# Requests and responses on the wire

A request is sent as a few lines of text, and the response is all that arrives until the
connection ends. `Wire.response` takes that apart: interim responses are passed over, the
head ends at the first empty line, and the body is sent in **chunks** with their sizes, or
with its length in the head, or else it is all that remains.
-/

namespace SiteSnapshot.Wire

/-- Why what arrived is no response. -/
inductive WireError where
  | badHead
  | badChunk
  | bodyTooShort
deriving DecidableEq, Repr, Inhabited

/-- The wording of an error. -/
def WireError.message : WireError → String
  | .badHead => "invalid HTTP response head"
  | .badChunk => "invalid chunk in HTTP response"
  | .bodyTooShort => "connection closed before message completed"

/-! ### Requests -/

/-- What a request asks a host for. -/
def target (url : Url) : String :=
  if url.pathAndQuery.isEmpty then "/" else url.pathAndQuery

/-- The host and port that a request names. -/
def hostHeader (url : Url) : String :=
  (url.host.elim "" (·.text)) ++ url.port.elim "" fun p => ":" ++ toString p

/-- The octets of a request without a body. The connection is closed after the response. -/
def request (method : String) (url : Url) : Bytes :=
  Utf8.encode <|
    method ++ " " ++ target url ++ " HTTP/1.1\r\naccept: */*\r\nhost: " ++ hostHeader url ++
      "\r\nconnection: close\r\n\r\n"

/-! ### Lines and numbers -/

/-- The octets up to the first line end, and those behind it. -/
def readLine : Bytes → Option (Bytes × Bytes)
  | [] => none
  | 0x0D :: 0x0A :: rest => some ([], rest)
  | 0x0A :: rest => some ([], rest)
  | b :: rest => (readLine rest).map fun (line, rest) => (b :: line, rest)

/-- A line takes octets away. -/
theorem length_of_readLine : {octets line rest : Bytes} → readLine octets = some (line, rest) →
    rest.length < octets.length
  | [], _, _, h => by simp [readLine] at h
  | b :: octets, line, rest, h => by
    unfold readLine at h
    split at h
    · simp at h
    · next eq =>
      obtain ⟨rfl, rfl⟩ := List.cons.inj eq
      simp only [Option.some.injEq, Prod.mk.injEq] at h
      simp only [← h.2, List.length_cons]
      omega
    · next eq =>
      obtain ⟨rfl, rfl⟩ := List.cons.inj eq
      simp only [Option.some.injEq, Prod.mk.injEq] at h
      simp [← h.2]
    · next eq =>
      obtain ⟨rfl, rfl⟩ := List.cons.inj eq
      obtain ⟨⟨line', rest'⟩, h', eq'⟩ := Option.map_eq_some_iff.mp h
      simp only [Prod.mk.injEq] at eq'
      have := length_of_readLine h'
      simp only [← eq'.2, List.length_cons]
      omega

/-- A line as text, each octet read as the character of its number. -/
def lineText (line : Bytes) : String :=
  String.ofList (line.map fun b => Char.ofNat b.toNat)

/-- The number that some digits stand for; there is at least one. -/
def number? (base : Nat) (digits : List Char) : Option Nat :=
  if digits.isEmpty then none else Digit.number? base digits

/-! ### Heads -/

/-- The status that a status line gives. -/
def statusOf (line : Bytes) : Option Nat :=
  match (lineText line).toList.splitOn ' ' with
  | version :: code :: _ =>
    if "HTTP/".toList.isPrefixOf version ∧ code.length = 3 then number? 10 code else none
  | _ => none

/-- The name and the value of a header line. -/
def headerOf (line : Bytes) : Option (String × Bytes) :=
  let name := line.takeWhile (· != 0x3A)
  if name.isEmpty ∨ name.length = line.length then none
  else some (lineText name, line.drop (name.length + 1))

/-- Reads header lines up to an empty line. -/
def readHeaders (octets : Bytes) : Except WireError (List (String × Bytes) × Bytes) :=
  match h : readLine octets with
  | none => .error .badHead
  | some ([], rest) => .ok ([], rest)
  | some (line, rest) =>
    match headerOf line with
    | none => .error .badHead
    | some header =>
      have : rest.length < octets.length := length_of_readLine h
      (readHeaders rest).map fun (headers, rest) => (header :: headers, rest)
termination_by octets.length

/-- Reads the head of a response: a response without a body, and the octets behind its
head. -/
def readHead (octets : Bytes) : Except WireError (WebResponse × Bytes) :=
  match readLine octets with
  | none => .error .badHead
  | some (line, rest) =>
    match statusOf line with
    | none => .error .badHead
    | some status => (readHeaders rest).map fun (headers, rest) => ({ status, headers }, rest)

/-! ### Bodies -/

/-- Reads a body that is sent in chunks. A chunk has its size on the line before it, and one
of size zero ends the body. -/
def readChunks (octets : Bytes) : Except WireError Bytes :=
  match h : readLine octets with
  | none => .error .bodyTooShort
  | some (line, rest) =>
    match number? 16 (trimBlanks ((lineText line).toList.takeWhile (· != ';'))) with
    | none => .error .badChunk
    | some 0 => .ok []
    | some size =>
      if rest.length < size then .error .bodyTooShort
      else
        match h' : readLine (rest.drop size) with
        | none => .error .bodyTooShort
        | some ([], next) =>
          have : next.length < octets.length := by
            have := length_of_readLine h
            have := length_of_readLine h'
            simp only [List.length_drop] at this
            omega
          (readChunks next).map (rest.take size ++ ·)
        | some _ => .error .badChunk
termination_by octets.length

/-- Reads the body behind a head. -/
def readBody (head : WebResponse) (octets : Bytes) : Except WireError Bytes :=
  if head.status = 204 ∨ head.status = 304 then .ok []
  else if (head.header? "transfer-encoding").any
      fun coding => "chunked".toList.isSuffixOf (coding.toList.map Char.toLower) then
    readChunks octets
  else
    match head.header? "content-length" with
    | none => .ok octets
    | some length =>
      match number? 10 length.toList with
      | none => .error .badHead
      | some n => if octets.length < n then .error .bodyTooShort else .ok (octets.take n)

/-- The response in all that arrived, with at most so many interim responses before it. -/
def responseWithin : Nat → Bytes → Except WireError WebResponse
  | 0, _ => .error .badHead
  | bound + 1, octets =>
    match readHead octets with
    | .error e => .error e
    | .ok (head, rest) =>
      if 100 ≤ head.status ∧ head.status < 200 ∧ head.status ≠ 101 then responseWithin bound rest
      else (readBody head rest).map fun body => { head with body }

/-- The response in all that arrived. -/
def response (octets : Bytes) : Except WireError WebResponse :=
  responseWithin (octets.length + 1) octets

end SiteSnapshot.Wire
