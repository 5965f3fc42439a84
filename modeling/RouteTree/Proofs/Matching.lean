import RouteTree.Proofs.Refusals

/-!
# Trees matched place by place

A tree as its author writes it and the tree of its routes have the same places. What
holds at a place may depend on what is above it on either side, so it is carried from the
top down, by one step for each route.
-/

namespace RouteTree

/-- Both trees have the same places, and the relation holds at each of them. It sees what
is above the place in either tree, top first. -/
inductive Matched (holds : List Description → Description → List Node → Node → Prop) :
    List Description → List Description → List Node → List Node → Prop
  | nil {up : List Description} {above : List Node} : Matched holds up [] above []
  | cons {up rest : List Description} {description : Description} {above others : List Node}
      {node : Node} :
      holds up description above node →
      Matched holds (up ++ [description]) description.children (above ++ [node]) node.children →
      Matched holds up rest above others →
      Matched holds up (description :: rest) above (node :: others)

namespace Matched

variable {holds : List Description → Description → List Node → Node → Prop}
  {keeps : List Description → List Node → Prop}
  (step : ∀ up above description, keeps up above →
    holds up description above (description.toNode (lastId none above)) ∧
      keeps (up ++ [description]) (above ++ [description.toNode (lastId none above)]))

include step

/-- What is kept from every route to its children, and gives the relation at each of
them, gives it everywhere below. -/
theorem of_step :
    ∀ (descriptions up : List Description) (above : List Node), keeps up above →
      Matched holds up descriptions above
        (Description.toNodes (lastId none above) descriptions)
  | [], up, above, _ => .nil
  | ⟨explicit, path, index, children⟩ :: rest, up, above, kept => by
      have stepped := step up above ⟨explicit, path, index, children⟩ kept
      have below := of_step children _ _ stepped.2
      rw [lastId_concat] at below
      exact .cons stepped.1 below (of_step rest up above kept)

theorem of_normalize (start : keeps [] []) {descriptions : List Description} {forest : List Node}
    (accepted : normalize descriptions = .ok forest) :
    Matched holds [] descriptions [] forest := by
  rw [(normalize_eq_ok_iff.mp accepted).2]
  exact of_step step descriptions [] [] start

end Matched

end RouteTree
