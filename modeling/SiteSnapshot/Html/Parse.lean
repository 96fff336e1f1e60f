import SiteSnapshot.Html.Lexer
import SiteSnapshot.Html.Rules

/-!
# Reading a page

`parse` reads any octets as a page: the lexer hands its tokens to the construction of the
tree, which tells it where raw text begins. There are no octets that are refused.
-/

namespace SiteSnapshot.Html

/-- The construction of a tree as a consumer of tokens. -/
def Construction.sink : Sink Construction where
  accept s t :=
    let (next, s) := (Build.accept t).run s
    (s, next)
  inForeign s :=
    match s.stack with
    | [] => false
    | e :: _ => e.space != .html

/-- The document that the octets of a page denote. -/
def parse (octets : Bytes) : Arena :=
  (Lexer.tokenize Construction.sink {} (Input.pieces octets)).arena

end SiteSnapshot.Html
