import RouteTree.Proofs.Alternatives

/-!
# Declared parameters

What the merged shape of a route says about a name can be read off the patterns
of the tree. The name is required when a pattern between the top and the route
demands it; when none does, it is optional as long as some pattern there, or of
a route below, declares it at all.
-/

namespace RouteTree

open Params

/-! ## Patterns -/

namespace Node

/-- The pattern of the route has a segment that cannot go without the name. -/
def Demands (node : Node) (name : String) : Prop :=
  Segment.param name ∈ node.segments ∨ Segment.splat ∈ node.segments ∧ name = "*"

/-- The pattern of the route has a segment for the name. -/
def Declares (node : Node) (name : String) : Prop :=
  ∃ segment ∈ node.segments, segment.paramName? = some name

instance (node : Node) (name : String) : Decidable (node.Demands name) :=
  inferInstanceAs (Decidable (_ ∨ _ ∧ _))

theorem requires_shape_iff_demands {node : Node} {name : String} :
    node.shape.Requires name ↔ node.Demands name := by
  simp only [requires_shape, segmentEntry?_eq_required_iff, Demands]
  constructor
  · rintro ⟨segment, member, rfl | ⟨rfl, catchAll⟩⟩
    · exact Or.inl member
    · exact Or.inr ⟨member, catchAll⟩
  · rintro (member | ⟨member, catchAll⟩)
    · exact ⟨_, member, Or.inl rfl⟩
    · exact ⟨_, member, Or.inr ⟨rfl, catchAll⟩⟩

theorem mentions_shape_iff_declares {node : Node} {name : String} :
    node.shape.Mentions name ↔ node.Declares name := by
  have names : (fun segment => segmentEntry? segment |>.map Prod.fst) = Segment.paramName? := by
    funext segment
    cases segment <;> rfl
  rw [shape, ofSegments, Shape.mentions_ofEntries, List.map_filterMap, names,
    List.mem_filterMap, Declares]

end Node

namespace Params.Shape

variable {shape : Shape} {name : String}

theorem get?_eq_none_iff : shape.get? name = none ↔ ¬ shape.Mentions name := by
  simp [Mentions]

theorem get?_eq_optional_iff :
    shape.get? name = some .optional ↔ ¬ shape.Requires name ∧ shape.Mentions name := by
  rw [Requires, Mentions]
  cases shape.get? name with
  | none => simp
  | some need => cases need <;> simp

end Params.Shape

/-! ## Routes on screen together -/

/-- The route is met on the way from the top to the route with the id, which is
itself the last one met. -/
def OnChainTo (forest : List Node) (id : String) (route : Node) : Prop :=
  ∃ above node, Descends forest (above ++ [node]) ∧ node.id = id ∧ route ∈ above ++ [node]

/-- The route is met on some way further down from the route with the id. -/
def IsBelow (forest : List Node) (id : String) (route : Node) : Prop :=
  ∃ above node below, Descends forest (above ++ node :: below) ∧ node.id = id ∧
    route ∈ below

section Flattened

variable {forest above : List Node} {node route : Node} {records : Records}

theorem onChainTo_iff_mem (flattened : flatten forest = .ok records)
    (inside : Descends forest (above ++ [node])) :
    OnChainTo forest node.id route ↔ route ∈ above ++ [node] := by
  constructor
  · rintro ⟨others, other, otherInside, sameId, member⟩
    obtain ⟨rfl, rfl⟩ := chain_unique flattened otherInside inside sameId
    exact member
  · intro member
    exact ⟨above, node, inside, rfl, member⟩

theorem onChainTo_or_isBelow_iff (flattened : flatten forest = .ok records)
    (inside : Descends forest (above ++ [node])) :
    OnChainTo forest node.id route ∨ IsBelow forest node.id route ↔
      ∃ below, Descends node.children below ∧ route ∈ above ++ node :: below := by
  rw [onChainTo_iff_mem flattened inside]
  constructor
  · rintro (member | ⟨others, other, below, whole, sameId, member⟩)
    · exact ⟨[], trivial, member⟩
    · obtain ⟨otherInside, belowInside⟩ := descends_append_cons.mp whole
      obtain ⟨rfl, rfl⟩ := chain_unique flattened otherInside inside sameId
      exact ⟨below, belowInside, List.mem_append_right _ (List.mem_cons_of_mem _ member)⟩
  · rintro ⟨below, belowInside, member⟩
    rw [← List.singleton_append, ← List.append_assoc] at member
    rcases List.mem_append.mp member with onChain | inBelow
    · exact Or.inl onChain
    · exact Or.inr ⟨above, node, below, descends_append_cons.mpr ⟨inside, belowInside⟩, rfl,
        inBelow⟩

/-- The merged shape of a route requires the names that the routes from the top to
it demand. Of the others it has those that these routes or the routes below
declare, as optional ones. -/
theorem merged_params_iff_declared (flattened : flatten forest = .ok records) {id : String}
    (known : id ∈ records.ids) :
    ∃ alternatives, records.params id = .ok alternatives ∧ ∀ name,
      (alternatives.merged.get? name = some .required ↔
        ∃ route, OnChainTo forest id route ∧ route.Demands name) ∧
      (alternatives.merged.get? name = some .optional ↔
        (¬ ∃ route, OnChainTo forest id route ∧ route.Demands name) ∧
          ∃ route, (OnChainTo forest id route ∨ IsBelow forest id route) ∧
            route.Declares name) ∧
      (alternatives.merged.get? name = none ↔
        ¬ ∃ route, (OnChainTo forest id route ∨ IsBelow forest id route) ∧
          route.Declares name) := by
  obtain ⟨above, node, inside, rfl⟩ := (mem_ids_iff flattened).mp known
  obtain ⟨alternatives, succeeds, members⟩ := params_of_descends flattened inside
  refine ⟨alternatives, succeeds, ?_⟩
  intro name
  have required : alternatives.merged.Requires name ↔
      ∃ route, OnChainTo forest node.id route ∧ route.Demands name := by
    simp only [requires_merged_iff_shapeAlong members, requires_shapeAlong,
      Node.requires_shape_iff_demands, onChainTo_iff_mem flattened inside]
  have mentioned : alternatives.merged.Mentions name ↔
      ∃ route, (OnChainTo forest node.id route ∨ IsBelow forest node.id route) ∧
        route.Declares name := by
    simp only [Alternatives.mentions_merged, members, onChainTo_or_isBelow_iff flattened inside]
    constructor
    · rintro ⟨_, ⟨below, belowInside, rfl⟩, shapeMentions⟩
      obtain ⟨route, member, routeMentions⟩ := mentions_shapeAlong.mp shapeMentions
      exact ⟨route, ⟨below, belowInside, member⟩,
        Node.mentions_shape_iff_declares.mp routeMentions⟩
    · rintro ⟨route, ⟨below, belowInside, member⟩, declares⟩
      exact ⟨_, ⟨below, belowInside, rfl⟩, mentions_shapeAlong.mpr
        ⟨route, member, Node.mentions_shape_iff_declares.mpr declares⟩⟩
  exact ⟨required, by rw [Shape.get?_eq_optional_iff, required, mentioned],
    by rw [Shape.get?_eq_none_iff, mentioned]⟩

/-- The project of the small tree requires its own name. The catch-all, which only the
page below it declares, is optional for it. -/
theorem merged_params_project :
    flatten [Sample.home] = .ok Sample.records ∧ "project" ∈ Sample.records.ids ∧
      ∃ alternatives, Sample.records.params "project" = .ok alternatives ∧
        alternatives.merged.get? "id" = some .required ∧
        alternatives.merged.get? "*" = some .optional := by
  have known : "project" ∈ Sample.records.ids := by decide
  have page : Descends [Sample.home]
      ([Sample.home, Sample.frame] ++ Sample.project :: [Sample.page]) := Sample.descends_page
  have inside := (descends_append_cons.mp page).1
  obtain ⟨alternatives, succeeds, declared⟩ :=
    merged_params_iff_declared Sample.flatten_home known
  refine ⟨Sample.flatten_home, known, alternatives, succeeds, (declared "id").1.mpr ?_,
    (declared "*").2.1.mpr ⟨?_, ?_⟩⟩
  · exact ⟨Sample.project, ⟨_, _, inside, rfl, by simp⟩, Or.inl (by decide)⟩
  · rintro ⟨route, onChain, demands⟩
    have member := (onChainTo_iff_mem Sample.flatten_home inside).mp onChain
    simp only [List.cons_append, List.nil_append, List.mem_cons, List.not_mem_nil,
      or_false] at member
    rcases member with rfl | rfl | rfl <;> revert demands <;> decide
  · exact ⟨Sample.page, Or.inr ⟨_, _, _, page, rfl, List.mem_cons_self⟩, .splat, by decide, rfl⟩

end Flattened

end RouteTree
