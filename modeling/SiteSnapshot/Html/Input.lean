import SiteSnapshot.Text.Utf8

/-!
# The input of the lexer

The octets of a page reach the lexer in **pieces**: as they are read, in chunks of
`chunkSize` octets, each chunk is turned into text and handed over. A piece ends

* before and after every ill-formed part, which is a piece of its own;
* at the end of a chunk, between two characters;
* around a character that lies across the end of a chunk. It opens a piece of at most four
  octets, the most that a single character can have.

The pieces together are the text of the page (`flatten_pieces`).

A byte order mark at the start of a piece does not belong to the text (`dropMark`). Inside
a piece it does, unless the lexer sets out anew there; see `Lexer.run`.

Line ends are single line feeds: a carriage return counts as one, also together with a
line feed after it. The two may lie in different pieces.
-/

namespace SiteSnapshot.Html.Input

/-- How many octets are read at a time. -/
def chunkSize : Nat := 4096

/-- Where a piece ends at the latest that starts at `offset` with a character of `size`
octets. -/
def latestEnd (offset size : Nat) : Nat :=
  let chunkEnd := (offset / chunkSize + 1) * chunkSize
  if chunkEnd < offset + size then offset + 4 else chunkEnd

/-- Splits the parts from `offset` on into pieces. The open piece has its latest character
first and may be continued up to `limit`. -/
def split (offset limit : Nat) (piece : List Char) : List Utf8.Part → List (List Char)
  | [] => [piece.reverse]
  | .char c :: rest =>
    let next := offset + c.utf8Size
    if next ≤ limit then split next limit (c :: piece) rest
    else piece.reverse :: split next (latestEnd offset c.utf8Size) [c] rest
  | .illFormed n :: rest => piece.reverse :: ['\ufffd'] :: split (offset + n) 0 [] rest

/-- The pieces of a page. -/
def pieces (octets : Bytes) : List (List Char) :=
  (split 0 0 [] (Utf8.scan octets)).filter (!·.isEmpty)

/-- Splitting loses nothing. -/
theorem flatten_split (offset limit : Nat) (piece : List Char) (parts : List Utf8.Part) :
    (split offset limit piece parts).flatten = piece.reverse ++ parts.map Utf8.Part.shown := by
  induction parts generalizing offset limit piece with
  | nil => simp [split]
  | cons p rest ih =>
    cases p with
    | char c =>
      by_cases h : offset + c.utf8Size ≤ limit <;>
        simp [split, h, ih, Utf8.Part.shown, Utf8.Part.char?]
    | illFormed n => simp [split, ih, Utf8.Part.shown, Utf8.Part.char?]

/-- The pieces together are the text of the page. -/
theorem flatten_pieces (octets : Bytes) :
    (pieces octets).flatten = (Utf8.scan octets).map Utf8.Part.shown := by
  simp [pieces, List.flatten_filter_not_isEmpty, flatten_split]

/-- A text without the byte order mark that it starts with. -/
def dropMark : List Char → List Char
  | '\ufeff' :: rest => rest
  | text => text

/-- The text with single line feeds as line ends, and whether it ends in a carriage return.
`afterReturn` says so of the text before it. -/
def normalizeNewlines (afterReturn : Bool) (text : List Char) : List Char × Bool :=
  go [] afterReturn text
where
  /-- Goes on after the given output, latest character first. -/
  go (done : List Char) : Bool → List Char → List Char × Bool
    | afterReturn, [] => (done.reverse, afterReturn)
    | true, '\n' :: rest => go done false rest
    | _, '\r' :: rest => go ('\n' :: done) true rest
    | _, c :: rest => go (c :: done) false rest

/-- The pieces as the lexer sees them: without marks at their start, and with single line
feeds. -/
def prepared (afterReturn : Bool) : List (List Char) → List (List Char)
  | [] => []
  | piece :: rest =>
    let (text, afterReturn) := normalizeNewlines afterReturn (dropMark piece)
    text :: prepared afterReturn rest

end SiteSnapshot.Html.Input
