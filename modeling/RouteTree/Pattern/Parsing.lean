import RouteTree.Pattern.Segment
import RouteTree.RouteError
import RouteTree.Text.Slashes

/-!
# Reading patterns

A pattern is a list of segments between slashes. It is refused at its first
segment that is a catch-all with something after it, or a parameter without a
name; every other text is a pattern, and printing its segments gives the text
back.
-/

namespace RouteTree

abbrev Pattern := List Segment

namespace Pattern

/-- Reads the pieces of a pattern in order. -/
def ofPieces : List String → Except PatternFault Pattern
  | [] => .ok []
  | piece :: rest =>
      let segment := Segment.ofText piece
      if segment = .splat ∧ rest ≠ [] then .error .misplacedSplat
      else if segment.paramName? = some "" then .error .unnamedParam
      else (ofPieces rest).map (segment :: ·)

/-- Reads a pattern; the empty text is the pattern without segments. -/
def parse (text : String) : Except RouteError Pattern :=
  if text.isEmpty then .ok []
  else (ofPieces (Text.cutAtSlashes text)).mapError (.invalidPattern text)

/-- The written form of a pattern. -/
def text (pattern : Pattern) : String :=
  Text.joinWithSlashes (pattern.map Segment.text)

end Pattern

end RouteTree
