/-!
Sets of characters given by a sorted array of disjoint ranges of code points.
-/

namespace Ghostwriter.Text

-- Whether `n` lies in one of the ranges at positions `low ≤ i < high`, by halving. The first
-- argument bounds the number of halvings.
def inRangesBetween (ranges : Array (Nat × Nat)) (n : Nat) : Nat → Nat → Nat → Bool
  | 0, _, _ => false
  | fuel + 1, low, high =>
    if high ≤ low then false
    else
      let middle := (low + high) / 2
      match ranges[middle]? with
      | none => false
      | some (first, last) =>
        if n < first then inRangesBetween ranges n fuel low middle
        else if last < n then inRangesBetween ranges n fuel (middle + 1) high
        else true

-- Every halving at least halves the interval, so the number of ranges is more than enough.
def inRanges (ranges : Array (Nat × Nat)) (c : Char) : Bool :=
  inRangesBetween ranges c.toNat (ranges.size + 1) 0 ranges.size

end Ghostwriter.Text
