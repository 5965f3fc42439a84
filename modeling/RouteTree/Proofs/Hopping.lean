import RouteTree.Proofs.Targets

/-!
# Targets reached by climbing

Every hop of a route leads to one of its ancestors, so the search below the
place that a hop leads to succeeds, and so does the search for all targets of a
route.
-/

namespace RouteTree

theorem Hops.mem_of_mem_along {taken : Nat} {ahead : List Record} {hop : String × Record}
    (member : hop ∈ Hops.along taken ahead) : hop.2 ∈ ahead := by
  induction ahead generalizing taken with
  | nil => cases member
  | cons record rest ih =>
      rw [Hops.along] at member
      split at member
      · rcases List.mem_cons.mp member with rfl | member
        · exact List.mem_cons_self
        · exact List.mem_cons_of_mem record (ih member)
      · exact List.mem_cons_of_mem record (ih member)

theorem exists_record_of_mem_recordsAlong {top : Option String} {chain : List Node}
    {record : Record} (member : record ∈ recordsAlong top chain) :
    ∃ up node below, chain = up ++ node :: below ∧ record = node.record (lastId top up) := by
  induction chain generalizing top with
  | nil => cases member
  | cons first rest ih =>
      rw [recordsAlong] at member
      rcases List.mem_cons.mp member with rfl | member
      · exact ⟨[], first, rest, rfl, rfl⟩
      · obtain ⟨up, node, below, rfl, made⟩ := ih member
        exact ⟨first :: up, node, below, rfl, made⟩

section Flattened

variable {forest above : List Node} {node : Node} {records : Records}

theorem hopTargets_yields (flattened : flatten forest = .ok records)
    (inside : Descends forest (above ++ [node])) (lead : String) (parentId : Option String) :
    Yields (records.hopTargets (lead, node.record parentId)) fun text =>
      text ∈ [lead] ∨ text ≠ "" ∧ ∃ chain, Descends node.children chain ∧ chain ≠ [] ∧
        Continues [lead] chain text :=
  (targetsBelow_yields flattened node inside [lead]).append [lead]

theorem ancestorTargets_of_descends (flattened : flatten forest = .ok records)
    (inside : Descends forest (above ++ [node])) :
    ∃ targets, records.ancestorTargets node.id = .ok targets ∧
      ∀ text, text ∈ targets ↔ ∃ hop ∈ Hops.along 0 (recordsAlong none above).reverse,
        ∃ found, records.hopTargets hop = .ok found ∧ text ∈ found := by
  have hops : (Hops.start records node.id).toList =
      Hops.along 0 (recordsAlong none above).reverse := by
    rw [Hops.start, ancestors_of_descends flattened inside]
    rfl
  have searched : Yields (((Hops.start records node.id).toList.mapM records.hopTargets).map
      List.flatten) fun text => ∃ hop ∈ Hops.along 0 (recordsAlong none above).reverse,
        ∃ found, records.hopTargets hop = .ok found ∧ text ∈ found := by
    rw [hops]
    apply Yields.flatten_mapM fun hop text =>
      ∃ found, records.hopTargets hop = .ok found ∧ text ∈ found
    rintro ⟨lead, record⟩ member
    have climbed := List.mem_reverse.mp (Hops.mem_of_mem_along member)
    obtain ⟨up, ancestor, below, rfl, rfl⟩ := exists_record_of_mem_recordsAlong climbed
    rw [List.append_assoc, List.cons_append] at inside
    have ancestorInside := (descends_append_cons.mp inside).1
    have found := hopTargets_yields flattened ancestorInside lead (lastId none up)
    exact found.congr fun text => found.exists_mem_iff.symm
  obtain ⟨targets, succeeds, members⟩ := searched.toSet
  refine ⟨targets, ?_, members⟩
  rw [Records.ancestorTargets, get_of_descends flattened inside]
  simp only [Except.bind, ← succeeds]
  cases (Hops.start records node.id).toList.mapM records.hopTargets <;> rfl

/-- Relative targets count from a route of the tree. -/
theorem exists_descends_anchor (inside : Descends forest (above ++ [node])) :
    ∃ up route, Descends forest (up ++ [route]) ∧
      Records.anchor (node.record (lastId none above)) = route.id := by
  rcases List.eq_nil_or_concat above with rfl | ⟨up, parent, rfl⟩
  · refine ⟨[], node, inside, ?_⟩
    cases index : node.index <;> simp [Records.anchor, Node.record, lastId]
  · rw [List.concat_eq_append] at inside ⊢
    cases index : node.index with
    | false => exact ⟨_, node, inside, by simp [Records.anchor, Node.record, index]⟩
    | true =>
        refine ⟨up, parent, ?_, by simp [Records.anchor, Node.record, lastId, index]⟩
        rw [List.append_assoc, List.singleton_append] at inside
        exact (descends_append_cons.mp inside).1

theorem anchor_concat_of_index (above : List Node) (index : node.index) (parent : Node) :
    Records.anchor (node.record (lastId none (above ++ [parent]))) = parent.id := by
  simp [Records.anchor, Node.record, index, lastId]

theorem anchor_of_not_index (index : node.index = false) (parentId : Option String) :
    Records.anchor (node.record parentId) = node.id := by
  simp [Records.anchor, Node.record, index]

theorem anchor_eq {up : List Node} {route : Node} (same : route.alone = node.alone)
    (sameLast : node.index → lastId none up = lastId none above) :
    Records.anchor (route.record (lastId none up)) =
      Records.anchor (node.record (lastId none above)) := by
  obtain ⟨sameId, _, sameIndex⟩ := Node.alone_eq_iff.mp same
  cases index : node.index with
  | false => simp [Records.anchor, Node.record, sameIndex, index, sameId]
  | true => simp [Records.anchor, Node.record, sameIndex, index, sameId, sameLast index]

theorem targets_of_descends (flattened : flatten forest = .ok records)
    (inside : Descends forest (above ++ [node])) :
    ∃ absolute climbing below,
      records.absoluteTargets = .ok absolute ∧
      records.ancestorTargets (Records.anchor (node.record (lastId none above))) =
        .ok climbing ∧
      records.descendantTargets (Records.anchor (node.record (lastId none above))) [""] =
        .ok below ∧
      records.targets node.id = .ok (absolute ∪ climbing ∪ below) := by
  obtain ⟨up, route, routeInside, anchored⟩ := exists_descends_anchor inside
  obtain ⟨absolute, absoluteSucceeds, _⟩ := absoluteTargets_of_flatten flattened
  obtain ⟨climbing, climbingSucceeds, _⟩ := ancestorTargets_of_descends flattened routeInside
  obtain ⟨below, belowSucceeds, _⟩ :=
    descendantTargets_of_descends flattened routeInside [""]
  rw [← anchored] at climbingSucceeds belowSucceeds
  refine ⟨absolute, climbing, below, absoluteSucceeds, climbingSucceeds, belowSucceeds, ?_⟩
  rw [Records.targets, get_of_descends flattened inside]
  simp only [Except.bind, absoluteSucceeds, climbingSucceeds, belowSucceeds]
  rfl

theorem exists_targets_eq {others up : List Node} {route : Node}
    {otherRecords : Records}
    (flattened : flatten forest = .ok records) (otherFlattened : flatten others = .ok otherRecords)
    (inside : Descends forest (above ++ [node])) (otherInside : Descends others (up ++ [route]))
    (absolute : records.absoluteTargets = otherRecords.absoluteTargets)
    (climbing : records.ancestorTargets (Records.anchor (node.record (lastId none above))) =
      otherRecords.ancestorTargets (Records.anchor (route.record (lastId none up))))
    (below : records.descendantTargets (Records.anchor (node.record (lastId none above))) [""] =
      otherRecords.descendantTargets (Records.anchor (route.record (lastId none up))) [""]) :
    ∃ targets, records.targets node.id = .ok targets ∧ otherRecords.targets route.id = .ok targets := by
  obtain ⟨_, _, _, absoluteSucceeds, climbingSucceeds, belowSucceeds, succeeds⟩ :=
    targets_of_descends flattened inside
  obtain ⟨_, _, _, otherAbsolute, otherClimbing, otherBelow, otherSucceeds⟩ :=
    targets_of_descends otherFlattened otherInside
  rw [← absolute, absoluteSucceeds] at otherAbsolute
  rw [← climbing, climbingSucceeds] at otherClimbing
  rw [← below, belowSucceeds] at otherBelow
  cases otherAbsolute
  cases otherClimbing
  cases otherBelow
  exact ⟨_, succeeds, otherSucceeds⟩

end Flattened

end RouteTree
