import RouteTree.Pattern.Segment
import RouteTree.Text.Slashes

/-!
# Concrete paths of a pattern

Every optional segment of a pattern is either kept, without its mark, or left
out, independently of the others. The path that keeps all of them comes first.
-/

namespace RouteTree

/-- One more segment at the end of every variant. An optional segment keeps
the variants without it as well. -/
def widenVariants (variants : List (List String)) (segment : Segment) :
    List (List String) :=
  let kept := variants.map (· ++ [segment.concrete])
  if segment.isOptional then kept ++ variants else kept

/-- The kept pieces of every variant of a list of segments. -/
def segmentVariants (segments : List Segment) : List (List String) :=
  segments.foldl widenVariants [[]]

/-- The concrete paths of a pattern, each listed once. -/
def concretePaths (pattern : String) : List String :=
  let segments := (Text.cutAtSlashes pattern).map Segment.ofText
  ((segmentVariants segments).map Text.joinWithSlashes).eraseDups

end RouteTree
