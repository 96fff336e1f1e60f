import SiteSnapshot.Text.Blank

/-!
# Lists of catalog entries

A file of entries has one on a line. What follows a number sign is a comment, and blanks
around an entry and lines without one do not count.
-/

namespace SiteSnapshot.Catalog

/-- The entry on a line, if there is one. -/
def entryOfLine (line : List Char) : Option String :=
  let entry := trimBlanks (line.takeWhile (· != '#'))
  if entry.isEmpty then none else some (String.ofList entry)

/-- The entries of a text, in order. -/
def parseEntries (text : String) : List String :=
  (text.toList.splitOn '\n').filterMap entryOfLine

end SiteSnapshot.Catalog
