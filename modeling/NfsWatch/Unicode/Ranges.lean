/-!
# Ranges — sets of code points as lists of intervals

The tables of character properties are lists of ranges, each by its first and its last code
point.
-/

namespace NfsWatch.Unicode

def inRanges (ranges : List (Nat × Nat)) (n : Nat) : Bool :=
  ranges.any (fun range => range.1 ≤ n && n ≤ range.2)

end NfsWatch.Unicode
