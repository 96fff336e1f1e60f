/-!
# Replacing occurrences

`replaceAll needle replacement text` replaces the occurrences of `needle` found from left
to right, where the search goes on behind an occurrence. The elements may be octets or
characters.
-/

namespace SiteSnapshot

variable {α : Type} [BEq α]

/-- Replaces every occurrence of the needle that a search from the left finds; an empty
needle has none. -/
def replaceAll (needle replacement : List α) (text : List α) : List α :=
  go [] text
where
  /-- Goes on after the given output, latest element first. -/
  go (done : List α) (text : List α) : List α :=
    match text with
    | [] => done.reverse
    | a :: rest =>
      if !needle.isEmpty && needle.isPrefixOf (a :: rest) then
        go (replacement.reverse ++ done) (rest.drop (needle.length - 1))
      else go (a :: done) rest
  termination_by text.length
  decreasing_by
    · simp only [List.length_drop, List.length_cons]; omega
    · simp only [List.length_cons]; omega

end SiteSnapshot
