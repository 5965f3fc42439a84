import RouteTree.Proofs.Refusals
import RouteTree.Proofs.Relations
import RouteTree.Proofs.Traces

/-!
# The order of siblings

Siblings can be put into another order, anywhere in a tree. The trees then have
the same routes on the same chains, so one is accepted exactly if the other
is, and all that is derived for a route stays the same. Only lists that are in
the order of the author, such as those of the children, come in another order.
-/

namespace RouteTree

/-- The trees differ in nothing but the order of siblings, at any level. -/
inductive Description.Reordered : List Description → List Description → Prop
  | nil : Reordered [] []
  | cons {id path : Option String} {index : Bool}
      {children others rest otherRest : List Description} :
      Reordered children others → Reordered rest otherRest →
      Reordered (⟨id, path, index, children⟩ :: rest) (⟨id, path, index, others⟩ :: otherRest)
  | swap (first second : Description) (rest : List Description) :
      Reordered (first :: second :: rest) (second :: first :: rest)
  | trans {descriptions between others : List Description} :
      Reordered descriptions between → Reordered between others → Reordered descriptions others

/-! ## Chains -/

section Chains

variable {keep : String → Bool} {node other : Node} {siblings others chain : List Node}

theorem exists_trace_of_cons (alone : other.alone = node.alone)
    (below : SameTraces keep node.children other.children) (rest : SameTraces keep siblings others)
    (inside : Descends (node :: siblings) chain) :
    ∃ up, Descends (other :: others) up ∧ trace keep up = trace keep chain := by
  cases chain with
  | nil => exact ⟨[], trivial, rfl⟩
  | cons first after =>
      rcases List.mem_cons.mp inside.1 with rfl | member
      · obtain ⟨up, upInside, shown⟩ := exists_trace_cons alone below ⟨after, inside.2, rfl⟩
        exact ⟨other :: up, ⟨List.mem_cons_self, upInside⟩, shown⟩
      · obtain ⟨up, upInside, shown⟩ := (rest _).mp ⟨first :: after, ⟨member, inside.2⟩, rfl⟩
        exact ⟨up, upInside.of_subset (List.subset_cons_self other others), shown⟩

/-- Siblings have the same traces if their first routes have, and the others have. -/
theorem SameTraces.cons (alone : other.alone = node.alone)
    (below : SameTraces keep node.children other.children)
    (rest : SameTraces keep siblings others) :
    SameTraces keep (node :: siblings) (other :: others) := by
  intro steps
  constructor
  · rintro ⟨chain, inside, rfl⟩
    exact exists_trace_of_cons alone below rest inside
  · rintro ⟨chain, inside, rfl⟩
    exact exists_trace_of_cons alone.symm below.symm rest.symm inside

theorem SameTraces.of_subset (contained : siblings ⊆ others) (back : others ⊆ siblings) :
    SameTraces keep siblings others := by
  intro steps
  constructor
  · rintro ⟨chain, inside, shown⟩
    exact ⟨chain, inside.of_subset contained, shown⟩
  · rintro ⟨chain, inside, shown⟩
    exact ⟨chain, inside.of_subset back, shown⟩

end Chains

/-! ## Routes in preorder -/

namespace Node

/-- All that acceptance looks at: the routes by themselves, and whether something is
below them. -/
def outlines (parentId : Option String) (siblings : List Node) : List (Node × Bool) :=
  (preorders parentId siblings).map fun place => (place.2.alone, place.2.children.isEmpty)

theorem outlines_cons (parentId : Option String) (node : Node) (rest : List Node) :
    outlines parentId (node :: rest) = (node.alone, node.children.isEmpty) ::
      (outlines (some node.id) node.children ++ outlines parentId rest) := by
  rw [outlines, preorders, preorder_eq, List.map_append, List.map_cons, List.cons_append]
  rfl

theorem map_fst_outlines (siblings : List Node) :
    (outlines none siblings).map Prod.fst = singles siblings := by
  rw [outlines, List.map_map]
  rfl

theorem forall_proper_iff {parentId : Option String} {siblings : List Node} :
    (∀ place ∈ preorders parentId siblings, place.2.Proper) ↔
      ∀ outline ∈ outlines parentId siblings,
        outline.1.index → outline.1.path = none ∧ outline.2 := by
  rw [outlines, List.forall_mem_map]
  simp only [Proper, List.isEmpty_iff]
  rfl

end Node

/-! ## Reordered trees -/

namespace Description.Reordered

variable {descriptions others : List Description}

theorem isEmpty_eq (reordered : Reordered descriptions others) :
    descriptions.isEmpty = others.isEmpty := by
  induction reordered with
  | nil => rfl
  | cons => rfl
  | swap => rfl
  | trans _ _ first second => exact first.trans second

theorem sameTraces {keep : String → Bool} (reordered : Reordered descriptions others)
    (parentId : Option String) :
    SameTraces keep (toNodes parentId descriptions) (toNodes parentId others) := by
  induction reordered generalizing parentId with
  | nil => exact fun steps => Iff.rfl
  | cons _ _ below rest =>
      rw [toNodes, toNodes]
      apply SameTraces.cons
      · rfl
      · exact below _
      · exact rest parentId
  | swap first second rest =>
      simp only [toNodes]
      apply SameTraces.of_subset
      · exact (List.Perm.swap _ _ _).subset
      · exact (List.Perm.swap _ _ _).subset
  | trans _ _ first second =>
      intro steps
      exact (first parentId steps).trans (second parentId steps)

theorem outlines_perm (reordered : Reordered descriptions others) (parentId : Option String) :
    (Node.outlines parentId (toNodes parentId descriptions)).Perm
      (Node.outlines parentId (toNodes parentId others)) := by
  induction reordered generalizing parentId with
  | nil => exact List.Perm.refl _
  | cons children _ below rest =>
      simp only [toNodes, Node.outlines_cons, toNode, isEmpty_toNodes, children.isEmpty_eq]
      exact ((below _).append (rest parentId)).cons _
  | swap first second rest =>
      simp only [toNodes, Node.outlines_cons, ← List.cons_append]
      rw [← List.append_assoc, ← List.append_assoc]
      exact List.perm_append_comm.append_right _
  | trans _ _ first second => exact (first parentId).trans (second parentId)

theorem singles_perm (reordered : Reordered descriptions others) :
    (Node.singles (toNodes none descriptions)).Perm (Node.singles (toNodes none others)) := by
  rw [← Node.map_fst_outlines, ← Node.map_fst_outlines]
  exact (reordered.outlines_perm none).map Prod.fst

theorem answered_iff (reordered : Reordered descriptions others) :
    Answered (Table.ofDescriptions descriptions) ↔ Answered (Table.ofDescriptions others) := by
  have sameProper : (∀ place ∈ placesOf descriptions, place.2.Proper) ↔
      ∀ place ∈ placesOf others, place.2.Proper := by
    rw [placesOf, placesOf, Node.forall_proper_iff, Node.forall_proper_iff]
    simp only [(reordered.outlines_perm none).mem_iff]
  have sameFlattens :
      (∃ records, flatten (toNodes none descriptions) = .ok records) ↔
        ∃ records, flatten (toNodes none others) = .ok records := by
    rw [exists_flatten_iff, exists_flatten_iff, (reordered.singles_perm.map Node.id).nodup_iff]
    simp only [reordered.singles_perm.mem_iff]
  rw [Table.answered_ofDescriptions_iff, Table.answered_ofDescriptions_iff, sameProper,
    sameFlattens]

end Description.Reordered

/-! ## Derived alike -/

/-- Keeps every route. -/
def everyId (_ : String) : Bool := true

theorem trace_everyId (chain : List Node) : trace everyId chain = chain.map Node.alone :=
  trace_eq_map_alone fun _ _ => rfl

theorem skipsPathlessBelow_everyId (forest : List Node) : SkipsPathlessBelow everyId forest := by
  intro chain _ route _ skipped
  cases skipped

/-- The record without the children. -/
def Record.childless (record : Record) : Record :=
  { record with childIds := [] }

theorem Node.childless_record {node route : Node} (alone : route.alone = node.alone)
    (parentId : Option String) :
    (route.record parentId).childless = (node.record parentId).childless := by
  obtain ⟨sameId, samePath, sameIndex⟩ := Node.alone_eq_iff.mp alone
  have sameShape : route.shape = node.shape := by
    rw [← Node.shape_alone, alone, Node.shape_alone]
  have samePaths : route.paths = node.paths := by
    rw [Node.paths, samePath, ← Node.paths]
  simp [Record.childless, Node.record, sameId, samePath, sameIndex, sameShape, samePaths]

theorem lastId_map_alone (top : Option String) (chain : List Node) :
    lastId top (chain.map Node.alone) = lastId top chain := by
  rw [lastId, List.foldl_map]
  rfl

theorem childless_recordsAlong {top : Option String} {above up : List Node}
    (same : up.map Node.alone = above.map Node.alone) :
    (recordsAlong top up).map Record.childless = (recordsAlong top above).map Record.childless := by
  induction up generalizing top above with
  | nil =>
      rw [List.map_eq_nil_iff.mp same.symm]
  | cons route below ih =>
      obtain ⟨node, rest, rfl, alone, restSame⟩ := List.map_eq_cons_iff.mp same.symm
      have sameId : route.id = node.id := (Node.alone_eq_iff.mp alone.symm).1
      rw [recordsAlong, recordsAlong, List.map_cons, List.map_cons,
        Node.childless_record alone.symm, sameId, ih restSame.symm]

namespace Table

/-- The two tables say the same about a route, but for the order of children. -/
structure AgreesAt (table other : Table) (id : String) : Prop where
  route : ∃ record otherRecord, table.route id = .ok record ∧ other.route id = .ok otherRecord ∧
    record.childless = otherRecord.childless ∧ record.childIds.Perm otherRecord.childIds
  ancestors : ∃ up otherUp, table.records.ancestors id = .ok up ∧
    other.records.ancestors id = .ok otherUp ∧
    up.map Record.childless = otherUp.map Record.childless
  ownParams : table.ownParams id = other.ownParams id
  params : table.params id = other.params id
  ancestorParams : table.ancestorParams id = other.ancestorParams id
  descendantParams : table.descendantParams id = other.descendantParams id
  descendantTargets : table.descendantTargets id = other.descendantTargets id
  ancestorTargets : table.ancestorTargets id = other.ancestorTargets id
  targets : table.targets id = other.targets id
  relation : ∀ second ∈ table.ids, table.relation id second = other.relation id second

end Table

theorem nodup_childIds {forest above : List Node} {node : Node} {records : Records}
    (flattened : flatten forest = .ok records) (inside : Descends forest (above ++ [node])) :
    (node.children.map Node.id).Nodup := by
  obtain ⟨listing, distinct⟩ := listing_of_flatten flattened
  have member := List.mem_of_find?_eq_some (get?_of_descends flattened inside)
  exact distinct.sublist (listing.childIds_sublist member)

namespace Alike

section Matched

variable {table other : Table} {above up : List Node} {node route : Node}
  (alike : Alike everyId table.forest other.forest table.records other.records)
  (inside : Descends table.forest (above ++ [node]))
  (otherInside : Descends other.forest (up ++ [route])) (sameId : route.id = node.id)

include alike inside otherInside sameId

theorem map_alone_eq : up.map Node.alone = above.map Node.alone := by
  have shown := trace_above_eq alike inside otherInside sameId rfl
  rwa [trace_everyId, trace_everyId] at shown

theorem lastId_eq : lastId none up = lastId none above := by
  rw [← lastId_map_alone, map_alone_eq alike inside otherInside sameId, lastId_map_alone]

theorem map_id_eq : up.map Node.id = above.map Node.id := by
  have ids := congrArg (List.map Node.id) (map_alone_eq alike inside otherInside sameId)
  simpa [Function.comp_def] using ids

theorem shapeAlong_eq : shapeAlong up = shapeAlong above := by
  rw [← shapeAlong_trace (alike.otherSkips.above otherInside),
    ← shapeAlong_trace (alike.skips.above inside),
    trace_above_eq alike inside otherInside sameId rfl]

theorem id_mem_children_iff {id : String} :
    id ∈ node.children.map Node.id ↔ id ∈ route.children.map Node.id := by
  have decided : ∀ chain, SkipsPathless everyId chain →
      ((∃ child, trace everyId chain = [child] ∧ child.id = id) ↔
        ∃ child, chain = [child] ∧ child.id = id) := by
    intro chain _
    rw [trace_everyId]
    simp only [List.map_eq_singleton_iff]
    constructor
    · rintro ⟨_, ⟨child, single, rfl⟩, same⟩
      exact ⟨child, single, same⟩
    · rintro ⟨child, single, same⟩
      exact ⟨child.alone, ⟨child, single, rfl⟩, same⟩
  have sameChildren :
      (∃ chain, Descends node.children chain ∧ ∃ child, chain = [child] ∧ child.id = id) ↔
        ∃ chain, Descends route.children chain ∧ ∃ child, chain = [child] ∧ child.id = id :=
    exists_below_iff alike inside otherInside sameId rfl decided
  have listed : ∀ siblings : List Node,
      id ∈ siblings.map Node.id ↔
        ∃ chain, Descends siblings chain ∧ ∃ child, chain = [child] ∧ child.id = id := by
    intro siblings
    rw [List.mem_map]
    constructor
    · rintro ⟨child, member, same⟩
      exact ⟨[child], descends_singleton.mpr member, child, rfl, same⟩
    · rintro ⟨_, chainInside, child, rfl, same⟩
      exact ⟨child, descends_singleton.mp chainInside, same⟩
  rw [listed, listed, sameChildren]

theorem childIds_perm :
    (node.children.map Node.id).Perm (route.children.map Node.id) := by
  have distinct := nodup_childIds alike.flattened inside
  have otherDistinct := nodup_childIds alike.otherFlattened otherInside
  apply (List.perm_ext_iff_of_nodup distinct otherDistinct).mpr
  intro id
  exact id_mem_children_iff alike inside otherInside sameId

theorem alternativeBelow_iff {base shape : Params.Shape} :
    AlternativeBelow base node.children shape ↔ AlternativeBelow base route.children shape := by
  have sameEmpty : node.children = [] ↔ route.children = [] := by
    have perm := childIds_perm alike inside otherInside sameId
    have sameLength := perm.length_eq
    rw [List.length_map, List.length_map] at sameLength
    rw [← List.length_eq_zero_iff, ← List.length_eq_zero_iff, sameLength]
  have sameChains :
      (∃ chain, Descends node.children chain ∧ shape = base.merge (shapeAlong chain)) ↔
        ∃ chain, Descends route.children chain ∧ shape = base.merge (shapeAlong chain) := by
    apply exists_below_iff alike inside otherInside sameId rfl
    intro chain skips
    rw [shapeAlong_trace skips]
  rw [AlternativeBelow, AlternativeBelow, ne_eq, ne_eq, sameEmpty, sameChains]

/-- Relative targets count from the same route in both trees. -/
theorem exists_same_targets :
    ∃ targets, table.records.targets node.id = .ok targets ∧
      other.records.targets route.id = .ok targets := by
  have sameAnchor : Records.anchor (route.record (lastId none up)) =
      Records.anchor (node.record (lastId none above)) := by
    apply anchor_eq (alone_eq alike inside otherInside sameId rfl)
    exact fun _ => lastId_eq alike inside otherInside sameId
  obtain ⟨anchorAbove, anchorNode, anchorInside, anchored⟩ := exists_descends_anchor inside
  have known : anchorNode.id ∈ table.records.ids :=
    (mem_ids_iff alike.flattened).mpr ⟨anchorAbove, anchorNode, anchorInside, rfl⟩
  have climbing := alike.ancestorTargets_eq known rfl
  have below := alike.descendantTargets_eq known rfl
  rw [← anchored] at climbing below
  exact exists_targets_eq alike.flattened alike.otherFlattened inside otherInside
    alike.absoluteTargets_eq (by rw [sameAnchor, climbing]) (by rw [sameAnchor, below])

end Matched

section Tables

variable {table other : Table}
  (alike : Alike everyId table.forest other.forest table.records other.records)

include alike

theorem relation_eq {id second : String} (known : id ∈ table.ids)
    (secondKnown : second ∈ table.ids) :
    table.relation id second = other.relation id second := by
  obtain ⟨above, node, up, route, inside, rfl, otherInside, sameId⟩ :=
    alike.exists_places known rfl
  obtain ⟨secondAbove, secondNode, secondUp, secondRoute, secondInside, rfl, secondOther,
    secondSame⟩ := alike.exists_places secondKnown rfl
  have otherRelation := Table.relation_of_descends otherInside secondOther
  rw [sameId, secondSame] at otherRelation
  rw [otherRelation, Table.relation_of_descends inside secondInside, relationOf, relationOf,
    sameId, secondSame, map_id_eq alike inside otherInside sameId,
    map_id_eq alike secondInside secondOther secondSame]

theorem agreesAt {id : String} (known : id ∈ table.ids) : table.AgreesAt other id := by
  obtain ⟨above, node, up, route, inside, rfl, otherInside, sameId⟩ :=
    alike.exists_places known rfl
  have found := get_of_descends table.flatten_forest inside
  have otherFound := get_of_descends other.flatten_forest otherInside
  have alone := alone_eq alike inside otherInside sameId rfl
  have sameParent := lastId_eq alike inside otherInside sameId
  have sameShape : route.shape = node.shape := by
    rw [← Node.shape_alone, alone, Node.shape_alone]
  rw [sameId] at otherFound
  constructor
  case route =>
    refine ⟨_, _, found, otherFound, ?_, childIds_perm alike inside otherInside sameId⟩
    rw [sameParent]
    exact (Node.childless_record alone _).symm
  case ancestors =>
    have otherClimbed := ancestors_of_descends other.flatten_forest otherInside
    rw [sameId] at otherClimbed
    refine ⟨_, _, ancestors_of_descends table.flatten_forest inside, otherClimbed, ?_⟩
    rw [List.map_reverse, List.map_reverse,
      childless_recordsAlong (map_alone_eq alike inside otherInside sameId)]
  case ownParams =>
    rw [Table.ownParams, Table.ownParams, Table.route, Table.route, found, otherFound]
    simp only [Except.map, Node.record_params, sameShape]
  case params => exact alike.params_eq known rfl
  case ancestorParams =>
    have otherMerged := ancestorParams_of_descends other.flatten_forest otherInside
    rw [sameId, shapeAlong_eq alike inside otherInside sameId] at otherMerged
    exact (ancestorParams_of_descends table.flatten_forest inside).trans otherMerged.symm
  case descendantParams =>
    have finds := (shapesBelow_yields table.flatten_forest ∅ node inside).toSet
    have otherFinds := (shapesBelow_yields other.flatten_forest ∅ route otherInside).toSet
    rw [sameId] at otherFinds
    exact eq_of_same_members finds otherFinds fun _ =>
      alternativeBelow_iff alike inside otherInside sameId
  case descendantTargets => exact alike.descendantTargets_eq known rfl
  case ancestorTargets => exact alike.ancestorTargets_eq known rfl
  case targets =>
    obtain ⟨targets, succeeds, otherSucceeds⟩ :=
      exists_same_targets alike inside otherInside sameId
    rw [sameId] at otherSucceeds
    exact succeeds.trans otherSucceeds.symm
  case relation => exact fun second secondKnown => relation_eq alike known secondKnown

end Tables

end Alike

theorem Description.Reordered.alike {descriptions others : List Description}
    (reordered : Description.Reordered descriptions others) {table other : Table}
    (made : Table.ofDescriptions descriptions = .ok table)
    (otherMade : Table.ofDescriptions others = .ok other) :
    Alike everyId table.forest other.forest table.records other.records where
  flattened := table.flatten_forest
  otherFlattened := other.flatten_forest
  same := by
    rw [(Table.ofDescriptions_eq_ok_iff.mp made).2, (Table.ofDescriptions_eq_ok_iff.mp otherMade).2]
    exact reordered.sameTraces none
  skips := skipsPathlessBelow_everyId _
  otherSkips := skipsPathlessBelow_everyId _

/-- The order of siblings decides neither whether a tree is accepted nor what is
derived from it: the tables have the same ids and absolute targets, and say the
same about every route and every two of them, but for the order in which
children are listed. -/
theorem reordered_trees_agree {descriptions others : List Description}
    (reordered : Description.Reordered descriptions others) :
    (Answered (Table.ofDescriptions descriptions) ↔ Answered (Table.ofDescriptions others)) ∧
      ∀ table other, Table.ofDescriptions descriptions = .ok table →
        Table.ofDescriptions others = .ok other →
        table.ids.Perm other.ids ∧ table.absoluteTargets = other.absoluteTargets ∧
          ∀ id ∈ table.ids, table.AgreesAt other id := by
  refine ⟨reordered.answered_iff, ?_⟩
  intro table other made otherMade
  have alike := reordered.alike made otherMade
  refine ⟨?_, alike.absoluteTargets_eq, fun id known => alike.agreesAt known⟩
  have sameSingles := (reordered.singles_perm).map Node.id
  rw [← (Table.ofDescriptions_eq_ok_iff.mp made).2,
    ← (Table.ofDescriptions_eq_ok_iff.mp otherMade).2] at sameSingles
  rw [Table.ids, Table.ids, ids_of_flatten table.flatten_forest,
    ids_of_flatten other.flatten_forest]
  exact sameSingles

namespace Sample

def listed : List Description :=
  [Description.ofPath "about",
    ⟨none, some "guide", false, [Description.indexRoute, Description.ofPath ":page"]⟩]

/-- The same routes from last to first, at both levels. -/
def backwards : List Description :=
  [⟨none, some "guide", false, [Description.ofPath ":page", Description.indexRoute]⟩,
    Description.ofPath "about"]

theorem reordered_backwards : Description.Reordered listed backwards := by
  have alone : Description.Reordered [Description.ofPath "about"] [Description.ofPath "about"] :=
    .cons .nil .nil
  exact .trans (.swap _ _ []) (.cons (.swap _ _ []) alone)

def aboutNode : Node := ⟨"/about", some "about", false, []⟩

def guideIndex : Node := ⟨"/guide/_index", none, true, []⟩

def guidePage : Node := ⟨"/guide/:page", some ":page", false, []⟩

def guide : Node := ⟨"/guide", some "guide", false, [guideIndex, guidePage]⟩

def guideBackwards : Node := ⟨"/guide", some "guide", false, [guidePage, guideIndex]⟩

theorem flatten_listed : flatten [aboutNode, guide] =
    .ok ⟨[aboutNode.record none, guide.record none, guideIndex.record (some "/guide"),
      guidePage.record (some "/guide")]⟩ := by rfl

theorem flatten_backwards : flatten [guideBackwards, aboutNode] =
    .ok ⟨[guideBackwards.record none, guidePage.record (some "/guide"),
      guideIndex.record (some "/guide"), aboutNode.record none]⟩ := by rfl

def listedTable : Table := ⟨_, _, flatten_listed⟩

def backwardsTable : Table := ⟨_, _, flatten_backwards⟩

theorem ofDescriptions_listed : Table.ofDescriptions listed = .ok listedTable := by
  have normalized : normalize listed = .ok [aboutNode, guide] := by rfl
  rw [Table.ofDescriptions, normalized, Except.bind, Table.ofForest_eq_ok flatten_listed]
  rfl

theorem ofDescriptions_backwards : Table.ofDescriptions backwards = .ok backwardsTable := by
  have normalized : normalize backwards = .ok [guideBackwards, aboutNode] := by rfl
  rw [Table.ofDescriptions, normalized, Except.bind, Table.ofForest_eq_ok flatten_backwards]
  rfl

end Sample

/-- Two small tables list their routes in another order and agree on an index route. -/
theorem backwards_agrees :
    Description.Reordered Sample.listed Sample.backwards ∧
      Table.ofDescriptions Sample.listed = .ok Sample.listedTable ∧
      Table.ofDescriptions Sample.backwards = .ok Sample.backwardsTable ∧
      Sample.listedTable.ids ≠ Sample.backwardsTable.ids ∧
      Sample.listedTable.absoluteTargets = Sample.backwardsTable.absoluteTargets ∧
      Sample.listedTable.AgreesAt Sample.backwardsTable "/guide/_index" := by
  obtain ⟨_, absolute, agrees⟩ := (reordered_trees_agree Sample.reordered_backwards).2 _ _
    Sample.ofDescriptions_listed Sample.ofDescriptions_backwards
  exact ⟨Sample.reordered_backwards, Sample.ofDescriptions_listed,
    Sample.ofDescriptions_backwards, by decide, absolute, agrees _ (by decide)⟩

end RouteTree
