import RouteTree.Proofs.Answers

/-!
# Relations between routes

How two routes stand to each other is told from the chains to them: the other
route is above if it is on the chain to the first, and below if the first is on
the chain to it.
-/

namespace RouteTree

theorem map_id_recordsAlong (top : Option String) (chain : List Node) :
    (recordsAlong top chain).map Record.id = chain.map Node.id := by
  induction chain generalizing top with
  | nil => rfl
  | cons node rest ih => rw [recordsAlong, List.map_cons, ih, List.map_cons, Node.record_id]

/-- How a route stands to another one, with the chains above them. -/
def relationOf (above : List Node) (node : Node) (otherAbove : List Node) (other : Node) :
    Relation :=
  if node.id = other.id then .same
  else if other.id ∈ above.map Node.id then .ancestor
  else if node.id ∈ otherAbove.map Node.id then .descendant
  else .unrelated

namespace Table

variable {table : Table} {above otherAbove : List Node} {node other : Node}

theorem isBelow_of_descends (inside : Descends table.forest (above ++ [node])) (id : String) :
    table.isBelow node.id id = .ok (decide (id ∈ above.map Node.id)) := by
  have climbed := ancestors_of_descends table.flatten_forest inside
  have listed : (recordsAlong none above).reverse.any (·.id = id) =
      decide (id ∈ above.map Node.id) := by
    rw [← map_id_recordsAlong none above, List.any_reverse, Bool.eq_iff_iff, List.any_eq_true]
    simp
  rw [isBelow, climbed, Except.map, listed]

theorem relation_of_descends (inside : Descends table.forest (above ++ [node]))
    (otherInside : Descends table.forest (otherAbove ++ [other])) :
    table.relation node.id other.id = .ok (relationOf above node otherAbove other) := by
  have found : table.route other.id = .ok (other.record (lastId none otherAbove)) :=
    get_of_descends table.flatten_forest otherInside
  rw [relation, found, isBelow_of_descends inside, isBelow_of_descends otherInside]
  simp [Except.bind, Except.map, relationOf]

end Table

end RouteTree
