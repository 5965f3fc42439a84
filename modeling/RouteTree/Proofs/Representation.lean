import RouteTree.Proofs.Outcome
import RouteTree.Proofs.Preorder

/-!
# Records represent their tree

The records of an accepted tree hold the tree several times over: in their
order, in the ids of the parents, in the ids of the children and in the lookup
by id. All of these agree with the tree and so with each other, which is what
makes it safe to walk from record to record by id.
-/

namespace RouteTree

namespace Node

mutual

/-- A route with the id of its parent, before everything below it. -/
def preorder (parentId : Option String) : Node → List (Option String × Node)
  | ⟨id, path, index, children⟩ =>
      (parentId, ⟨id, path, index, children⟩) :: preorders (some id) children

/-- Siblings in order, each before everything below it. -/
def preorders (parentId : Option String) : List Node → List (Option String × Node)
  | [] => []
  | first :: rest => preorder parentId first ++ preorders parentId rest

end

end Node

/-- The route with the first id has a child with the second. -/
def IsParent (forest : List Node) (parentId childId : String) : Prop :=
  ∃ above parent child, Descends forest (above ++ [parent]) ∧ parent.id = parentId ∧
    child ∈ parent.children ∧ child.id = childId

namespace Listing

variable {parentId : Option String} {siblings : List Node} {records : List Record}

theorem eq_map_preorders (listing : Listing parentId siblings records) :
    records = (Node.preorders parentId siblings).map fun place => place.2.record place.1 := by
  induction listing with
  | nil => rfl
  | @cons parentId node rest below after _ _ belowIh afterIh =>
      obtain ⟨id, path, index, children⟩ := node
      rw [Node.preorders, Node.preorder, belowIh, afterIh, List.map_append, List.map_cons,
        List.cons_append]

theorem siblings_sublist (listing : Listing parentId siblings records) :
    (siblings.map Node.id).Sublist (records.map Record.id) := by
  induction listing with
  | nil => exact List.Sublist.refl []
  | cons _ _ _ afterIh =>
      rw [List.map_cons, List.map_cons, List.map_append]
      exact (afterIh.trans (List.sublist_append_right _ _)).cons_cons _

/-- The ids of the children of a route stand in the listing in the same order. -/
theorem childIds_sublist (listing : Listing parentId siblings records) {record : Record}
    (member : record ∈ records) : record.childIds.Sublist (records.map Record.id) := by
  induction listing with
  | nil => cases member
  | cons belowListing _ belowIh afterIh =>
      rw [List.map_cons, List.map_append]
      rcases List.mem_cons.mp member with rfl | member
      · have ofChildren := belowListing.siblings_sublist
        exact (ofChildren.trans (List.sublist_append_left _ _)).cons _
      · rcases List.mem_append.mp member with inBelow | inAfter
        · exact ((belowIh inBelow).trans (List.sublist_append_left _ _)).cons _
        · exact ((afterIh inAfter).trans (List.sublist_append_right _ _)).cons _

end Listing

/-! ## Links -/

theorem lastId_concat (top : Option String) (above : List Node) (node : Node) :
    lastId top (above ++ [node]) = some node.id := by
  simp [lastId]

section Flattened

variable {forest above : List Node} {node : Node} {records : Records}

theorem lastId_eq_some_iff_isParent (flattened : flatten forest = .ok records)
    (inside : Descends forest (above ++ [node])) {parentId : String} :
    lastId none above = some parentId ↔ IsParent forest parentId node.id := by
  constructor
  · intro last
    rcases List.eq_nil_or_concat above with rfl | ⟨up, parent, rfl⟩
    · cases last
    · rw [List.concat_eq_append] at inside last
      rw [lastId_concat] at last
      obtain ⟨parentInside, below⟩ := descends_append_iff.mp inside
      exact ⟨up, parent, node, parentInside, Option.some.inj last,
        descends_singleton.mp below, rfl⟩
  · rintro ⟨up, parent, child, parentInside, rfl, member, sameId⟩
    have childInside := parentInside.append_child member
    obtain ⟨rfl, _⟩ := chain_unique flattened childInside inside sameId
    exact lastId_concat none up parent

theorem children_of_descends (flattened : flatten forest = .ok records)
    (inside : Descends forest (above ++ [node])) :
    records.children node.id = .ok (node.children.map (Node.record (some node.id))) := by
  rw [Records.children, get_of_descends flattened inside]
  simp only [Except.bind, Node.record_childIds, List.mapM_map]
  apply mapM_eq_ok_map
  intro child member
  exact find_child_of_descends flattened inside member

end Flattened

end RouteTree
