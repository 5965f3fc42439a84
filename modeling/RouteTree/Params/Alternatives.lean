import RouteTree.Params.Shape

/-!
# Alternative shapes

A layout does not know which of its descendants is on screen, so it can meet
any of several shapes. The merged shape describes what holds for all of them:
a name is required only when every alternative requires it.
-/

namespace RouteTree.Params

abbrev Alternatives := SortedSet Shape

namespace Alternatives

def single (shape : Shape) : Alternatives := SortedSet.ofList [shape]

/-- The names that some alternative mentions. -/
def names (alternatives : Alternatives) : SortedSet String :=
  SortedSet.ofList (alternatives.toList.flatMap SortedMap.keys)

/-- Required when every alternative requires the name. -/
def needOf (alternatives : Alternatives) (name : String) : Need :=
  if alternatives.toList.all fun shape => shape.get? name = some .required then .required
  else .optional

/-- The one shape that describes every alternative. -/
def merged (alternatives : Alternatives) : Shape :=
  Shape.ofEntries
    (alternatives.names.toList.map fun name => (name, alternatives.needOf name))

/-- Every alternative, merged into a shape that holds anyway. -/
def under (base : Shape) (alternatives : Alternatives) : Alternatives :=
  SortedSet.ofList (alternatives.toList.map base.merge)

end Alternatives

end RouteTree.Params
