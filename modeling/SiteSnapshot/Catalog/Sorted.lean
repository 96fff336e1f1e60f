/-!
# Sorted lists of paths

The units of an entry and the pages of a catalog are given in the order of their octets, each
once. For text in UTF-8 that is the order of code points.
-/

namespace SiteSnapshot

/-- A list in order, without repetitions. -/
def sortedSet (l : List String) : List String :=
  dropRepeats (l.mergeSort fun a b => decide (a ≤ b))
where
  /-- A list without elements that are equal to the next one. -/
  dropRepeats : List String → List String
    | [] => []
    | [a] => [a]
    | a :: b :: rest => if a = b then dropRepeats (b :: rest) else a :: dropRepeats (b :: rest)

end SiteSnapshot
