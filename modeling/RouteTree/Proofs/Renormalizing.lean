import RouteTree.Proofs.Scopes
import RouteTree.Proofs.TargetSlashes

/-!
# Normalizing again

A normalized tree can be written down as a description in which every route names itself.
Reading it gives the same tree: no id is empty, so each counts as given, and a path without
outer slashes has none left to lose. So normalization settles in one step, and apart from
ids and outer slashes it leaves the tree as it is.
-/

namespace RouteTree

/-! ## Written down again -/

namespace Node

mutual

/-- The route as its author could write it, with its id. -/
def described : Node → Description
  | ⟨id, path, index, children⟩ => ⟨some id, path, index, describedAll children⟩

def describedAll : List Node → List Description
  | [] => []
  | first :: rest => described first :: describedAll rest

end

/-- The route has an id, and no slash at either end of its path. -/
structure Settled (node : Node) : Prop where
  id_ne_empty : node.id ≠ ""
  closed : node.Closed

namespace Settled

variable {node : Node}

theorem map_trimSlashes (settled : node.Settled) :
    node.path.map Text.trimSlashes = node.path := by
  cases path : node.path with
  | none => rfl
  | some pattern => exact congrArg some (Text.trimSlashes_of_flush (settled.closed pattern path))

theorem routeId_eq (settled : node.Settled) (parentId : Option String) :
    routeId (some node.id) node.path node.index parentId = node.id :=
  if_neg (by simpa using settled.id_ne_empty)

end Settled

end Node

section Normalized

variable {descriptions up : List Description} {forest above nodes : List Node}

/-- The route has the flag of its description, and its path without outer slashes. -/
structure KeepsOutline (_up : List Description) (description : Description)
    (_above : List Node) (node : Node) : Prop where
  path_eq : node.path = description.path.map Text.trimSlashes
  index_eq : node.index = description.index

theorem Description.keepsOutline (up : List Description) (above : List Node)
    (description : Description) (parentId : Option String) :
    KeepsOutline up description above (description.toNode parentId) := by
  obtain ⟨explicit, path, index, children⟩ := description
  exact ⟨rfl, rfl⟩

theorem outlines_kept (accepted : normalize descriptions = .ok forest) :
    Matched KeepsOutline [] descriptions [] forest := by
  have step : ∀ up above description, True →
      KeepsOutline up description above (description.toNode (lastId none above)) ∧ True :=
    fun up above description _ => ⟨description.keepsOutline up above (lastId none above), trivial⟩
  exact Matched.of_normalize step trivial accepted

theorem routes_settled (accepted : normalize descriptions = .ok forest) :
    Matched (fun _ _ _ node => node.Settled) [] descriptions [] forest := by
  have step : ∀ up above description, LeadsFrom up above →
      (description.toNode (lastId none above)).Settled ∧
        LeadsFrom (up ++ [description]) (above ++ [description.toNode (lastId none above)]) := by
    intro up above description leads
    obtain ⟨named, goesOn⟩ := hasScopedId_step up above description leads
    exact ⟨⟨named.id_ne_empty, description.closed_toNode (lastId none above)⟩, goesOn⟩
  exact Matched.of_normalize step rfl accepted

/-- Settled routes are read as they are written down, below any parent. -/
theorem toNodes_describedAll
    (settled : Matched (fun _ _ _ node => node.Settled) up descriptions above nodes)
    (parentId : Option String) :
    Description.toNodes parentId (Node.describedAll nodes) = nodes := by
  induction settled generalizing parentId with
  | nil => rfl
  | @cons _ _ _ _ _ node held _ _ below rest =>
      have trimmed := held.map_trimSlashes
      have sameId := held.routeId_eq parentId
      obtain ⟨id, path, index, children⟩ := node
      simp only at trimmed sameId below
      simp only [Node.describedAll, Node.described, Description.toNodes, Description.toNode,
        trimmed, sameId, below, rest]

/-- A normalized tree has the places, the order, the flags and, without outer slashes, the
paths of its description. Written down with its ids it is accepted as it is, and it makes
the same table. -/
theorem normalize_describedAll (accepted : normalize descriptions = .ok forest) :
    Matched KeepsOutline [] descriptions [] forest ∧
      normalize (Node.describedAll forest) = .ok forest ∧
      Table.ofDescriptions (Node.describedAll forest) = Table.ofDescriptions descriptions := by
  have readAgain : Description.toNodes none (Node.describedAll forest) = forest :=
    toNodes_describedAll (routes_settled accepted) none
  have again : normalize (Node.describedAll forest) = .ok forest := by
    obtain ⟨proper, same⟩ := normalize_eq_ok_iff.mp accepted
    apply normalize_eq_ok_iff.mpr
    rw [placesOf, readAgain, same]
    exact ⟨proper, rfl⟩
  refine ⟨outlines_kept accepted, again, ?_⟩
  rw [Table.ofDescriptions, Table.ofDescriptions, again, accepted]

end Normalized

namespace Sample

/-- A shop whose author leaves the ids out and writes slashes around the paths. -/
def shop : List Description :=
  [⟨none, some "//shop/", false, [Description.indexRoute, Description.ofPath "/:item//"]⟩]

def shopNodes : List Node :=
  [⟨"/shop", some "shop", false,
    [⟨"/shop/_index", none, true, []⟩, ⟨"/shop/:item", some ":item", false, []⟩]⟩]

theorem flatten_shopNodes : ∃ records, flatten shopNodes = .ok records :=
  ⟨_, rfl⟩

end Sample

/-- The shop, written down with the ids that it got, makes the same table. -/
theorem shop_described :
    normalize Sample.shop = .ok Sample.shopNodes ∧
      Node.describedAll Sample.shopNodes =
        [⟨some "/shop", some "shop", false, [⟨some "/shop/_index", none, true, []⟩,
          ⟨some "/shop/:item", some ":item", false, []⟩]⟩] ∧
      normalize (Node.describedAll Sample.shopNodes) = .ok Sample.shopNodes ∧
      Table.ofDescriptions (Node.describedAll Sample.shopNodes) =
        Table.ofDescriptions Sample.shop ∧
      Answered (Table.ofDescriptions Sample.shop) := by
  have accepted : normalize Sample.shop = .ok Sample.shopNodes := by rfl
  obtain ⟨_, again, sameTable⟩ := normalize_describedAll accepted
  refine ⟨accepted, rfl, again, sameTable, ?_⟩
  obtain ⟨records, flattened⟩ := Sample.flatten_shopNodes
  rw [Table.ofDescriptions, accepted, Except.bind, Table.ofForest_eq_ok flattened]
  exact ⟨_, rfl⟩

end RouteTree
