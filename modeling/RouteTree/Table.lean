import RouteTree.Tree.Params
import RouteTree.Tree.Targets

/-!
# Route tables

A table is a route tree that has been checked as a whole: it is normalized,
every pattern can be read, and no two routes share an id. Everything else is
asked of the table by route id.
-/

namespace RouteTree

open Params

/-- How another route stands to a given one. -/
inductive Relation where
  | same
  /-- The other route is above, and always on screen. -/
  | ancestor
  /-- The other route is below, and may be on screen. -/
  | descendant
  /-- The other route is on another branch. -/
  | unrelated
deriving DecidableEq, Repr

def Relation.name : Relation → String
  | .same => "same"
  | .ancestor => "ancestor"
  | .descendant => "descendant"
  | .unrelated => "unrelated"

structure Table where
  forest : List Node
  records : Records
  flatten_forest : flatten forest = .ok records

namespace Table

/-- The table of a normalized tree. -/
def ofForest (forest : List Node) : Except RouteError Table :=
  match flattened : flatten forest with
  | .ok records => .ok ⟨forest, records, flattened⟩
  | .error failure => .error failure

/-- The table of a tree as its author writes it. The whole tree is normalized
before any pattern is read. -/
def ofDescriptions (descriptions : List Description) : Except RouteError Table :=
  (normalize descriptions).bind ofForest

/-- The route ids in preorder. -/
def ids (table : Table) : List String := table.records.ids

def size (table : Table) : Nat := table.records.toList.length

def contains (table : Table) (id : String) : Bool := table.records.contains id

def route (table : Table) (id : String) : Except RouteError Record :=
  table.records.get id

/-! ## Targets -/

/-- The targets below a route, relative to the route itself. -/
def descendantTargets (table : Table) (id : String) :
    Except RouteError (SortedSet String) :=
  table.records.descendantTargets id [""]

def ancestorTargets (table : Table) (id : String) :
    Except RouteError (SortedSet String) :=
  table.records.ancestorTargets id

def absoluteTargets (table : Table) : Except RouteError (SortedSet String) :=
  table.records.absoluteTargets

/-- Every target that a route may lead to. -/
def targets (table : Table) (id : String) : Except RouteError (SortedSet String) :=
  table.records.targets id

/-- Whether a route may lead to a target. -/
def reaches (table : Table) (id target : String) : Except RouteError Bool :=
  (table.targets id).map fun targets => target ∈ targets

/-! ## Parameters -/

/-- The parameters of the route's own pattern. -/
def ownParams (table : Table) (id : String) : Except RouteError Shape :=
  (table.route id).map Record.params

def ancestorParams (table : Table) (id : String) : Except RouteError Shape :=
  table.records.ancestorParams id

/-- The alternatives below a route by themselves. -/
def descendantParams (table : Table) (id : String) : Except RouteError Alternatives :=
  table.records.descendantParams id ∅

/-- Every shape that a route can meet. -/
def params (table : Table) (id : String) : Except RouteError Alternatives :=
  table.records.params id

/-! ## Relations -/

/-- Whether a route has an ancestor with the given id. -/
def isBelow (table : Table) (id above : String) : Except RouteError Bool :=
  (table.records.ancestors id).map fun ancestors => ancestors.any (·.id = above)

/-- How the other route stands to the first; the other id is looked up first. -/
def relation (table : Table) (id other : String) : Except RouteError Relation :=
  (table.route other).bind fun _ =>
    (table.isBelow id other).bind fun otherIsAbove =>
      (table.isBelow other id).map fun otherIsBelow =>
        if id = other then .same
        else if otherIsAbove then .ancestor
        else if otherIsBelow then .descendant
        else .unrelated

end Table

end RouteTree
