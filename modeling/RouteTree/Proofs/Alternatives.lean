import RouteTree.Proofs.Needs
import RouteTree.Proofs.Outcome
import RouteTree.Proofs.Preorder
import RouteTree.Tree.Params

/-!
# Alternatives along chains

The shapes that a route can meet are those of the chains through it, from the
top of the tree to the route or to any route below it. The search below a route
merges its base again at every level; merging twice is merging once, so every
chain ends up with the shape of its own routes.
-/

namespace RouteTree

open Params

/-! ## Needs of alternatives -/

namespace Params.Alternatives

variable {alternatives : Alternatives} {name : String}

theorem mem_names_iff :
    name ∈ alternatives.names ↔ ∃ shape ∈ alternatives, shape.Mentions name := by
  rw [names, SortedSet.mem_ofList, List.mem_flatMap]
  simp only [SortedSet.mem_toList]
  refine exists_congr fun shape => and_congr_right fun _ => ?_
  exact Shape.mem_entries_iff_mentions

theorem needOf_eq_required_iff :
    alternatives.needOf name = .required ↔ ∀ shape ∈ alternatives, shape.Requires name := by
  rw [needOf]
  split
  · rename_i everywhere
    simpa [Shape.Requires, SortedSet.mem_toList] using everywhere
  · rename_i somewhere
    simpa [Shape.Requires, SortedSet.mem_toList] using somewhere

theorem mentions_merged :
    alternatives.merged.Mentions name ↔ ∃ shape ∈ alternatives, shape.Mentions name := by
  rw [merged, Shape.mentions_ofEntries, List.map_map]
  simp only [Function.comp_def, List.map_id', SortedSet.mem_toList, mem_names_iff]

theorem requires_merged :
    alternatives.merged.Requires name ↔
      (∃ shape ∈ alternatives, shape.Mentions name) ∧
        ∀ shape ∈ alternatives, shape.Requires name := by
  rw [merged, Shape.requires_ofEntries, List.mem_map]
  constructor
  · rintro ⟨other, member, same⟩
    obtain ⟨rfl, required⟩ := Prod.mk.inj same
    rw [SortedSet.mem_toList, mem_names_iff] at member
    exact ⟨member, needOf_eq_required_iff.mp required⟩
  · rintro ⟨mentioned, everywhere⟩
    refine ⟨name, ?_, ?_⟩
    · rwa [SortedSet.mem_toList, mem_names_iff]
    · rw [needOf_eq_required_iff.mpr everywhere]

end Params.Alternatives

/-! ## The search below a route -/

/-- What the search below a route lists: nothing but the empty shape when there
are no children, else the base merged with the shape of every chain below. -/
def AlternativeBelow (base : Shape) (children : List Node) (shape : Shape) : Prop :=
  (children = [] ∧ shape = ∅) ∨
    (children ≠ [] ∧ ∃ chain, Descends children chain ∧ shape = base.merge (shapeAlong chain))

theorem merge_base_twice (base own below : Shape) :
    (base.merge own).merge (base.merge below) = base.merge (own.merge below) := by
  calc
    (base.merge own).merge (base.merge below) =
        base.merge (own.merge (base.merge below)) := Shape.merge_assoc base own _
    _ = base.merge (base.merge (own.merge below)) := by
        rw [Shape.merge_left_comm own base below]
    _ = base.merge (own.merge below) := by
        rw [← Shape.merge_assoc, Shape.merge_self]

/-- Whatever is put on top of the base, merging it into the alternatives below
gives one shape for every chain. -/
theorem exists_alternativeBelow_merge_iff (base own : Shape) (children : List Node)
    (shape : Shape) :
    (∃ below, AlternativeBelow base children below ∧ (base.merge own).merge below = shape) ↔
      ∃ chain, Descends children chain ∧
        shape = base.merge (own.merge (shapeAlong chain)) := by
  constructor
  · rintro ⟨below, ⟨_, rfl⟩ | ⟨_, chain, inside, rfl⟩, rfl⟩
    · refine ⟨[], trivial, ?_⟩
      rw [Shape.merge_empty, shapeAlong_nil, Shape.merge_empty]
    · exact ⟨chain, inside, merge_base_twice base own (shapeAlong chain)⟩
  · rintro ⟨chain, inside, rfl⟩
    by_cases leaf : children = []
    · subst leaf
      cases chain with
      | nil =>
          refine ⟨∅, Or.inl ⟨rfl, rfl⟩, ?_⟩
          rw [Shape.merge_empty, shapeAlong_nil, Shape.merge_empty]
      | cons child below => exact absurd inside.1 List.not_mem_nil
    · exact ⟨_, Or.inr ⟨leaf, chain, inside, rfl⟩,
        merge_base_twice base own (shapeAlong chain)⟩

/-- Where there are children, a chain below is no chain at all or starts with one
of them. -/
theorem alternativeBelow_iff_exists_child {base : Shape} {children : List Node} {shape : Shape}
    (present : children ≠ []) :
    AlternativeBelow base children shape ↔
      ∃ child ∈ children, shape = base ∨
        ∃ chain, Descends child.children chain ∧
          shape = base.merge (child.shape.merge (shapeAlong chain)) := by
  have chains := exists_descends_iff children fun chain => shape = base.merge (shapeAlong chain)
  simp only [shapeAlong_nil, Shape.merge_empty, shapeAlong_cons] at chains
  simp only [AlternativeBelow, present, false_and, false_or, ne_eq, not_false_eq_true, true_and,
    chains]
  constructor
  · rintro (rfl | ⟨child, member, chain, inside, rfl⟩)
    · -- The base is listed once for every child, so one child is enough.
      obtain ⟨first, member⟩ := List.exists_mem_of_ne_nil children present
      exact ⟨first, member, Or.inl rfl⟩
    · exact ⟨child, member, Or.inr ⟨chain, inside, rfl⟩⟩
  · rintro ⟨child, member, rfl | ⟨chain, inside, rfl⟩⟩
    · exact Or.inl rfl
    · exact Or.inr ⟨child, member, chain, inside, rfl⟩

theorem passesOver_shapesBelow (base : Shape) : PassesOver (Record.shapesBelow base) := by
  intro record rest id different
  rw [Record.shapesBelow, if_neg different]

section Flattened

variable {forest above : List Node} {node : Node} {records : Records}

theorem shapesBelow_yields (flattened : flatten forest = .ok records) (base : Shape) :
    ∀ (node : Node) {above : List Node}, Descends forest (above ++ [node]) →
      Yields (Record.shapesBelow base records.toList node.id)
        (AlternativeBelow base node.children) := by
  intro node
  induction node using Node.induction with
  | step node ih =>
      intro above inside
      obtain ⟨later, reaches⟩ := exists_later flattened inside
      have atNode := (reaches (passesOver_shapesBelow base)).1
      simp only [Record.shapesBelow, Node.record_id, if_pos, Record.isLeaf,
        Node.record_childIds, List.isEmpty_map, List.mapM_map] at atNode
      rw [atNode]
      by_cases leaf : node.children = []
      · rw [if_pos (by simp [leaf])]
        refine (Yields.of_list [∅]).congr ?_
        intro shape
        simp [AlternativeBelow, leaf]
      · rw [if_neg (by simpa using leaf)]
        refine (Yields.flatten_mapM (fun child shape => shape = base ∨
          ∃ chain, Descends child.children chain ∧
            shape = base.merge (child.shape.merge (shapeAlong chain))) ?_).congr ?_
        · intro child member
          obtain ⟨found, succeeds, members⟩ := ih child member (inside.append_child member)
          simp only [Function.comp, (reaches passesOver_find).2 child member,
            find_child_of_descends flattened inside member, Except.bind,
            (reaches (passesOver_shapesBelow base)).2 child member, succeeds]
          refine ⟨_, rfl, ?_⟩
          intro shape
          simp only [List.mem_cons, List.mem_map, members, Node.record_params,
            exists_alternativeBelow_merge_iff]
        · intro shape
          exact (alternativeBelow_iff_exists_child leaf).symm

theorem foldr_merge_recordsAlong (top : Option String) (chain : List Node) :
    (recordsAlong top chain).foldr (fun record shape => shape.merge record.params) ∅ =
      shapeAlong chain := by
  induction chain generalizing top with
  | nil => rfl
  | cons node rest ih =>
      rw [recordsAlong, List.foldr_cons, ih, shapeAlong_cons, Shape.merge_comm,
        Node.record_params]

theorem ancestorParams_of_descends (flattened : flatten forest = .ok records)
    (inside : Descends forest (above ++ [node])) :
    records.ancestorParams node.id = .ok (shapeAlong above) := by
  rw [Records.ancestorParams, ancestors_of_descends flattened inside]
  simp only [Except.map, List.foldl_reverse, foldr_merge_recordsAlong]

theorem params_of_descends (flattened : flatten forest = .ok records)
    (inside : Descends forest (above ++ [node])) :
    ∃ alternatives, records.params node.id = .ok alternatives ∧
      ∀ shape, shape ∈ alternatives ↔
        ∃ below, Descends node.children below ∧ shape = shapeAlong (above ++ node :: below) := by
  let base := (shapeAlong above).merge node.shape
  obtain ⟨found, succeeds, members⟩ := (shapesBelow_yields flattened base node inside).toSet
  refine ⟨Alternatives.under base found, ?_, ?_⟩
  · rw [Records.params, get_of_descends flattened inside]
    simp only [Except.bind, ancestorParams_of_descends flattened inside, Node.record_params,
      Records.descendantParams]
    rw [succeeds]
    rfl
  · intro shape
    have emptyOwn := exists_alternativeBelow_merge_iff base ∅ node.children shape
    simp only [Shape.merge_empty, Shape.empty_merge] at emptyOwn
    rw [Alternatives.under, SortedSet.mem_ofList, List.mem_map]
    simp only [SortedSet.mem_toList, members, emptyOwn]
    simp only [base, shapeAlong_append, shapeAlong_cons, Shape.merge_assoc]

/-- What all alternatives of a route require is what the chain from the top to
the route requires. -/
theorem requires_merged_iff_shapeAlong {alternatives : Alternatives} {name : String}
    (members : ∀ shape, shape ∈ alternatives ↔
      ∃ below, Descends node.children below ∧ shape = shapeAlong (above ++ node :: below)) :
    alternatives.merged.Requires name ↔ (shapeAlong (above ++ [node])).Requires name := by
  have own : shapeAlong (above ++ [node]) ∈ alternatives :=
    (members _).mpr ⟨[], trivial, rfl⟩
  rw [Alternatives.requires_merged]
  constructor
  · rintro ⟨_, everywhere⟩
    exact everywhere _ own
  · intro required
    refine ⟨⟨_, own, required.mentions⟩, ?_⟩
    intro shape member
    obtain ⟨below, _, rfl⟩ := (members shape).mp member
    rw [← List.singleton_append, ← List.append_assoc, shapeAlong_append,
      Shape.requires_merge]
    exact Or.inl required

/-- The alternatives of a route are the shapes of the chains that pass through
it: the parameters of the ancestors of a route at or below it, merged with its
own. Every alternative comes from such a chain, every such chain contributes
its shape, and so a child meets no shape that its parent does not meet. -/
theorem mem_params_iff_exists_chain (flattened : flatten forest = .ok records) {id : String}
    (known : id ∈ records.ids) :
    ∃ alternatives, records.params id = .ok alternatives ∧
      (∀ shape ∈ alternatives, ∃ above last, Descends forest (above ++ [last]) ∧
        (∃ node ∈ above ++ [last], node.id = id) ∧
        ∃ up record, records.ancestorParams last.id = .ok up ∧
          records.get last.id = .ok record ∧ shape = up.merge record.params) ∧
      (∀ above last, Descends forest (above ++ [last]) →
        (∃ node ∈ above ++ [last], node.id = id) →
        ∃ up record, records.ancestorParams last.id = .ok up ∧
          records.get last.id = .ok record ∧ up.merge record.params ∈ alternatives) ∧
      ∀ record, records.get id = .ok record → ∀ childId ∈ record.childIds,
        ∃ others, records.params childId = .ok others ∧ ∀ shape ∈ others, shape ∈ alternatives := by
  obtain ⟨listing, distinct⟩ := listing_of_flatten flattened
  obtain ⟨above, node, inside, rfl⟩ := (mem_ids_iff flattened).mp known
  obtain ⟨alternatives, succeeds, members⟩ := params_of_descends flattened inside
  refine ⟨alternatives, succeeds, ?_, ?_, ?_⟩
  · intro shape member
    obtain ⟨below, belowInside, rfl⟩ := (members shape).mp member
    have whole := descends_append_cons.mpr ⟨inside, belowInside⟩
    obtain ⟨up, last, split⟩ := exists_concat_of_cons above node below
    rw [split] at whole ⊢
    refine ⟨up, last, whole, ⟨node, by simp [← split], rfl⟩, shapeAlong up, _,
      ancestorParams_of_descends flattened whole, get_of_descends flattened whole, ?_⟩
    rw [Node.record_params, shapeAlong_concat]
  · intro up last whole through
    obtain ⟨other, otherMember, sameId⟩ := through
    refine ⟨shapeAlong up, _, ancestorParams_of_descends flattened whole,
      get_of_descends flattened whole, (members _).mpr ?_⟩
    obtain ⟨before, below, split⟩ := List.mem_iff_append.mp otherMember
    rw [split, descends_append_cons] at whole
    obtain ⟨rfl, rfl⟩ := listing.descends_unique distinct sameId whole.1 inside
    refine ⟨below, whole.2, ?_⟩
    rw [← split, Node.record_params, shapeAlong_concat]
  · intro record found childId childMember
    rw [get_of_descends flattened inside] at found
    cases found
    obtain ⟨child, member, rfl⟩ := List.mem_map.mp childMember
    obtain ⟨others, othersSucceeds, otherMembers⟩ :=
      params_of_descends flattened (inside.append_child member)
    refine ⟨others, othersSucceeds, ?_⟩
    intro shape shapeMember
    obtain ⟨below, belowInside, rfl⟩ := (otherMembers shape).mp shapeMember
    exact (members _).mpr ⟨child :: below, ⟨member, belowInside⟩, by simp⟩

/-- In the small tree the layout meets the page, where the repeated name is
required because the project requires it. -/
theorem mem_params_frame :
    flatten [Sample.home] = .ok Sample.records ∧ "frame" ∈ Sample.records.ids ∧
      ∃ alternatives, Sample.records.params "frame" = .ok alternatives ∧
        Shape.ofEntries [("*", .required), ("id", .required)] ∈ alternatives := by
  have known : "frame" ∈ Sample.records.ids := by decide
  refine ⟨Sample.flatten_home, known, ?_⟩
  obtain ⟨alternatives, succeeds, _, contributes, _⟩ :=
    mem_params_iff_exists_chain Sample.flatten_home known
  obtain ⟨up, record, upSucceeds, found, member⟩ :=
    contributes _ _ Sample.descends_page ⟨Sample.frame, by simp, rfl⟩
  rw [get_of_descends Sample.flatten_home Sample.descends_page] at found
  cases found
  rw [ancestorParams_of_descends Sample.flatten_home Sample.descends_page] at upSucceeds
  cases upSucceeds
  have merged : (shapeAlong [Sample.home, Sample.frame, Sample.project]).merge
      (Sample.page.record (lastId none [Sample.home, Sample.frame, Sample.project])).params =
        Shape.ofEntries [("*", .required), ("id", .required)] := by decide
  rw [merged] at member
  exact ⟨alternatives, succeeds, member⟩

end Flattened

end RouteTree
