namespace RouteTree.Text

/-- Whether a code lies in one of the ranges, both ends included. The ranges
stand in increasing order. -/
def inRanges : List (Nat × Nat) → Nat → Bool
  | [], _ => false
  | (first, last) :: rest, code =>
      first ≤ code && (code ≤ last || inRanges rest code)

end RouteTree.Text
