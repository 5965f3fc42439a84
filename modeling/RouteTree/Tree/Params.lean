import RouteTree.Params.Alternatives
import RouteTree.Tree.Record

/-!
# Parameters along the tree

A route on screen has all its ancestors on screen, so their parameters are
given as well. Of its descendants at most one chain is on screen, and each
chain is an alternative of its own.
-/

namespace RouteTree

open Params

namespace Record

/-- The shapes met below a route, merged into a base. A leaf meets the empty
shape only; elsewhere a child may be missing, or be there with one of the
shapes below it. -/
def shapesBelow (base : Shape) : List Record → String → Except RouteError (List Shape)
  | [], id => .error (.unknownRoute id)
  | record :: later, id =>
      if record.id = id then
        if record.isLeaf then .ok [∅]
        else
          (record.childIds.mapM fun childId =>
            (find later childId).bind fun child =>
              (shapesBelow base later childId).map fun below =>
                base :: below.map (base.merge child.params).merge).map List.flatten
      else shapesBelow base later id

end Record

namespace Records

/-- The merged parameters of all ancestors. -/
def ancestorParams (records : Records) (id : String) : Except RouteError Shape :=
  (records.ancestors id).map fun ancestors =>
    ancestors.foldl (fun shape ancestor => shape.merge ancestor.params) ∅

/-- The alternatives below a route, merged into a base. -/
def descendantParams (records : Records) (id : String) (base : Shape) :
    Except RouteError Alternatives :=
  (Record.shapesBelow base records.toList id).map SortedSet.ofList

/-- Every shape that a route can meet: what its chain to the root has, with
each alternative below. -/
def params (records : Records) (id : String) : Except RouteError Alternatives :=
  (records.get id).bind fun record =>
    (records.ancestorParams id).bind fun above =>
      let base := above.merge record.params
      (records.descendantParams id base).map (Alternatives.under base)

end Records

end RouteTree
