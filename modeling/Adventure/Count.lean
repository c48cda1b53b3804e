/-!
# Counts

Sizes, weights and scores are counted up to a fixed limit. Where two counts are added, the sum stops
at the limit. A sum over a whole list does not: beyond the limit it starts over from nothing.
-/

namespace Adventure.Count

/-- The largest size, weight or score. -/
def limit : Nat := 4294967295

/-- The sum of two counts, which stops at the limit. -/
def add (a b : Nat) : Nat := min (a + b) limit

/-- The sum of a list of counts, which starts over from nothing beyond the limit. -/
def total (counts : List Nat) : Nat :=
  counts.foldl (fun total count => (total + count) % (limit + 1)) 0

end Adventure.Count
