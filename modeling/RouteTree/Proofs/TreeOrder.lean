import Mathlib.Logic.Relation
import RouteTree.Proofs.Relations

/-!
# The order of the tree

The routes of a table are ordered by their tree: a route is above its children
and whatever is below them. No route is above itself, since a chain meets every
id once; so the four relations exclude each other, and each of them says how
two routes stand in this order, whatever their ids look like.
-/

namespace RouteTree

/-- The route with the first id is a proper ancestor of the one with the second. -/
def IsAbove (forest : List Node) : String → String → Prop :=
  Relation.TransGen (IsParent forest)

section Flattened

variable {forest above : List Node} {node : Node} {records : Records} {id other : String}

theorem Descends.isAbove (inside : Descends forest (above ++ [node]))
    (member : id ∈ above.map Node.id) : IsAbove forest id node.id := by
  induction above using List.reverseRecOn generalizing node with
  | nil => cases member
  | append_singleton up parent ih =>
      obtain ⟨parentInside, below⟩ := descends_append_iff.mp inside
      have link : IsParent forest parent.id node.id :=
        ⟨up, parent, node, parentInside, rfl, descends_singleton.mp below, rfl⟩
      rw [List.map_append, List.mem_append] at member
      rcases member with higher | isParent
      · exact Relation.TransGen.tail (ih parentInside higher) link
      · rw [List.map_singleton, List.mem_singleton] at isParent
        rw [isParent]
        exact Relation.TransGen.single link

/-- The ancestors of a route are the routes on the chain to it. -/
theorem isAbove_iff_mem (flattened : flatten forest = .ok records)
    (inside : Descends forest (above ++ [node])) :
    IsAbove forest id node.id ↔ id ∈ above.map Node.id := by
  refine ⟨?_, inside.isAbove⟩
  intro isAbove
  generalize lower : node.id = last at isAbove
  induction isAbove generalizing above node with
  | single link =>
      obtain ⟨up, parent, child, parentInside, rfl, member, rfl⟩ := link
      obtain ⟨rfl, _⟩ := chain_unique flattened inside (parentInside.append_child member) lower
      simp
  | tail _ link ih =>
      obtain ⟨up, parent, child, parentInside, rfl, member, rfl⟩ := link
      obtain ⟨rfl, _⟩ := chain_unique flattened inside (parentInside.append_child member) lower
      rw [List.map_append]
      exact List.mem_append_left _ (ih parentInside rfl)

theorem exists_descends_of_isAbove (isAbove : IsAbove forest id other) :
    ∃ above node, Descends forest (above ++ [node]) ∧ node.id = other := by
  cases isAbove with
  | single link =>
      obtain ⟨up, parent, child, parentInside, _, member, sameId⟩ := link
      exact ⟨_, child, parentInside.append_child member, sameId⟩
  | tail _ link =>
      obtain ⟨up, parent, child, parentInside, _, member, sameId⟩ := link
      exact ⟨_, child, parentInside.append_child member, sameId⟩

theorem not_isAbove_self (flattened : flatten forest = .ok records) (id : String) :
    ¬ IsAbove forest id id := by
  intro isAbove
  obtain ⟨above, node, inside, rfl⟩ := exists_descends_of_isAbove isAbove
  obtain ⟨again, member, sameId⟩ := List.mem_map.mp ((isAbove_iff_mem flattened inside).mp isAbove)
  obtain ⟨up, below, rfl⟩ := List.mem_iff_append.mp member
  have earlier : Descends forest (up ++ [again]) := by
    rw [List.append_assoc] at inside
    exact (descends_append_cons.mp inside).1
  -- The chain to the route that comes again would be shorter than itself.
  have shorter := congrArg List.length (chain_unique flattened earlier inside sameId).1
  rw [List.length_append, List.length_cons] at shorter
  omega

theorem IsAbove.not_swapped (flattened : flatten forest = .ok records)
    (isAbove : IsAbove forest id other) : ¬ IsAbove forest other id :=
  fun swapped => not_isAbove_self flattened id (isAbove.trans swapped)

end Flattened

namespace Table

variable {table : Table} {id other third : String} {relation : Relation}

/-- What each relation says about two routes. -/
def Stands (table : Table) (id other : String) : Relation → Prop
  | .same => id = other
  | .ancestor => IsAbove table.forest other id
  | .descendant => IsAbove table.forest id other
  | .unrelated => id ≠ other ∧ ¬ IsAbove table.forest other id ∧ ¬ IsAbove table.forest id other

/-- No two routes stand to each other in two ways. -/
theorem Stands.unique {otherRelation : Relation} (stands : table.Stands id other relation)
    (standsToo : table.Stands id other otherRelation) : relation = otherRelation := by
  have irreflexive := not_isAbove_self table.flatten_forest
  have asymmetric : ∀ first second, IsAbove table.forest first second →
      ¬ IsAbove table.forest second first :=
    fun _ _ isAbove => isAbove.not_swapped table.flatten_forest
  cases relation <;> cases otherRelation <;> grind [Stands]

theorem exists_relation_stands (known : id ∈ table.ids) (otherKnown : other ∈ table.ids) :
    ∃ relation, table.relation id other = .ok relation ∧ table.Stands id other relation := by
  obtain ⟨above, node, inside, rfl⟩ := (mem_ids_iff table.flatten_forest).mp known
  obtain ⟨otherAbove, otherNode, otherInside, rfl⟩ :=
    (mem_ids_iff table.flatten_forest).mp otherKnown
  have higher : IsAbove table.forest otherNode.id node.id ↔ otherNode.id ∈ above.map Node.id :=
    isAbove_iff_mem table.flatten_forest inside
  have lower : IsAbove table.forest node.id otherNode.id ↔ node.id ∈ otherAbove.map Node.id :=
    isAbove_iff_mem table.flatten_forest otherInside
  refine ⟨_, relation_of_descends inside otherInside, ?_⟩
  rw [relationOf]
  split
  case isTrue same => exact same
  case isFalse different =>
    split
    case isTrue member => exact higher.mpr member
    case isFalse notHigher =>
      split
      case isTrue member => exact lower.mpr member
      case isFalse notLower => exact ⟨different, mt higher.mp notHigher, mt lower.mp notLower⟩

theorem known_of_relation (related : table.relation id other = .ok relation) :
    id ∈ table.ids ∧ other ∈ table.ids := by
  by_cases otherKnown : other ∈ table.ids
  · refine ⟨?_, otherKnown⟩
    by_contra unknown
    rw [relation_of_unknown unknown otherKnown] at related
    cases related
  · rw [relation_of_unknown_other otherKnown] at related
    cases related

theorem relation_eq_ok_iff :
    table.relation id other = .ok relation ↔
      id ∈ table.ids ∧ other ∈ table.ids ∧ table.Stands id other relation := by
  constructor
  · intro related
    obtain ⟨known, otherKnown⟩ := known_of_relation related
    obtain ⟨found, relatedToo, stands⟩ := exists_relation_stands known otherKnown
    rw [related] at relatedToo
    cases relatedToo
    exact ⟨known, otherKnown, stands⟩
  · intro ⟨known, otherKnown, stands⟩
    obtain ⟨found, related, standsToo⟩ := exists_relation_stands known otherKnown
    rw [related, standsToo.unique stands]

end Table

/-- The four relations are those of the tree order. So whoever is told to be above says
in turn that the other is below, being the same or unrelated goes both ways, and
an ancestor of an ancestor is an ancestor. -/
theorem relation_is_tree_order (table : Table) {id other : String} (known : id ∈ table.ids)
    (otherKnown : other ∈ table.ids) :
    (table.relation id other = .ok .same ↔ id = other) ∧
      (table.relation id other = .ok .ancestor ↔ IsAbove table.forest other id) ∧
      (table.relation id other = .ok .descendant ↔ IsAbove table.forest id other) ∧
      (table.relation id other = .ok .unrelated ↔
        id ≠ other ∧ ¬ IsAbove table.forest other id ∧ ¬ IsAbove table.forest id other) ∧
      (table.relation id other = .ok .ancestor ↔
        table.relation other id = .ok .descendant) ∧
      (table.relation id other = .ok .same ↔ table.relation other id = .ok .same) ∧
      (table.relation id other = .ok .unrelated ↔ table.relation other id = .ok .unrelated) ∧
      ∀ third, table.relation id other = .ok .ancestor →
        table.relation other third = .ok .ancestor → table.relation id third = .ok .ancestor := by
  have stands : ∀ relation, table.relation id other = .ok relation ↔
      table.Stands id other relation := by
    intro relation
    simp [Table.relation_eq_ok_iff, known, otherKnown]
  have standsBack : ∀ relation, table.relation other id = .ok relation ↔
      table.Stands other id relation := by
    intro relation
    simp [Table.relation_eq_ok_iff, known, otherKnown]
  refine ⟨stands .same, stands .ancestor, stands .descendant, stands .unrelated, ?_, ?_, ?_, ?_⟩
  · rw [stands, standsBack]
    exact Iff.rfl
  · rw [stands, standsBack]
    exact eq_comm
  · rw [stands, standsBack]
    simp only [Table.Stands, ne_comm, and_comm]
  · intro third higher highest
    obtain ⟨_, thirdKnown, aboveOther⟩ := Table.relation_eq_ok_iff.mp highest
    apply Table.relation_eq_ok_iff.mpr
    exact ⟨known, thirdKnown, Relation.TransGen.trans aboveOther ((stands .ancestor).mp higher)⟩

namespace Sample

def short : Node := ⟨"/a", some "a", false, []⟩

def long : Node := ⟨"/a/b", some "b", false, [short]⟩

def lookalike : Node := ⟨"/a/b/c", some "a/b/c", false, []⟩

theorem flatten_long_lookalike : flatten [long, lookalike] =
    .ok ⟨[long.record none, short.record (some "/a/b"), lookalike.record none]⟩ := by rfl

/-- A route below one whose id is longer, and a route that is below neither. -/
def misleading : Table := ⟨[long, lookalike], _, flatten_long_lookalike⟩

end Sample

/-- Ids that look like prefixes of one another do not decide how their routes stand. -/
theorem misleading_ids_ordered :
    Sample.misleading.ids = ["/a/b", "/a", "/a/b/c"] ∧
      Sample.misleading.relation "/a" "/a/b" = .ok .ancestor ∧
      Sample.misleading.relation "/a/b" "/a" = .ok .descendant ∧
      Sample.misleading.relation "/a/b/c" "/a/b" = .ok .unrelated := by
  have short : "/a" ∈ Sample.misleading.ids := by decide
  have long : "/a/b" ∈ Sample.misleading.ids := by decide
  have lookalike : "/a/b/c" ∈ Sample.misleading.ids := by decide
  obtain ⟨_, above, _, _, swapped, _⟩ := relation_is_tree_order Sample.misleading short long
  obtain ⟨_, _, _, unrelated, _⟩ := relation_is_tree_order Sample.misleading lookalike long
  have link : IsParent Sample.misleading.forest "/a/b" "/a" :=
    ⟨[], Sample.long, Sample.short, ⟨List.mem_cons_self, trivial⟩, rfl, List.mem_cons_self, rfl⟩
  have isAbove := above.mpr (Relation.TransGen.single link)
  have nothingAbove : ∀ root ∈ Sample.misleading.forest, ∀ id,
      ¬ IsAbove Sample.misleading.forest id root.id := by
    intro root member id aboveRoot
    have inside : Descends Sample.misleading.forest ([] ++ [root]) := descends_singleton.mpr member
    have noMember := (isAbove_iff_mem Sample.flatten_long_lookalike inside).mp aboveRoot
    cases noMember
  exact ⟨rfl, isAbove, swapped.mp isAbove, unrelated.mpr ⟨by decide,
    nothingAbove Sample.lookalike (by simp [Sample.misleading]) _,
    nothingAbove Sample.long (by simp [Sample.misleading]) _⟩⟩

end RouteTree
